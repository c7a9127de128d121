import Watchdesk.Proofs.Desk.Acts

/-!
# The moves of a desk

Whatever happens to a desk is made of few moves: what the stores do, what the runner does, the
calls of exports, the removal of notices, and what concerns none of these. An invariant of a
desk's life follows from one lemma for each move. The stores and the runner move as wholes, where a
poll or a run is of many acts; all other acts are moves by themselves.
-/

namespace Watchdesk

namespace Desk

/-- The part of a desk that the stores and the runner have to do with. -/
structure Core where
  settings : Settings
  agenda : Agenda Duty
  jobs : Store JobSnapshot Observer
  health : Store HealthState Observer
  runner : Runner
  calls : List Call

/-- What the stores and the runner of a desk have to do with. -/
def core (d : Desk) : Core :=
  ⟨d.settings, d.agenda, d.jobs, d.health, d.runner, d.calls⟩

/-- A change of a desk that concerns neither the stores nor the runner. -/
structure Aside (d e : Desk) : Prop where
  core : e.core = d.core
  tickets : d.tickets ≤ e.tickets

/-- What observers of a store may do when they get a snapshot: publish notices, remember things,
tell things, and have observers go. -/
inductive Stir : Desk → Desk → Prop where
  | trans {d e f : Desk} : Stir d e → Stir e f → Stir d f
  | aside {d e : Desk} : Aside d e → Stir d e
  | removal (d : Desk) (orders : List (Order String)) : Stir d (d.order .removal orders)
  | unsubscribe (d : Desk) (feed : Feed) (id : Nat) : Stir d (d.unsubscribe feed id)

/-- The moves of a desk, one after another. -/
inductive Moves : Desk → Desk → Prop where
  | trans {d e f : Desk} : Moves d e → Moves e f → Moves d f
  | stir {d e : Desk} : Stir d e → Moves d e
  | subscribe (d : Desk) (feed : Feed) (observer : Observer) :
      Moves d (d.subscribe feed observer).2
  | poll (d : Desk) (feed : Feed) (caller : Option Caller) : Moves d (d.poll feed caller)
  | settlePoll {d : Desk} {call : Call} {feed : Feed} {caller : Option Caller}
      (pending : call ∈ d.calls) (task : call.task = .poll feed caller)
      (result : Except Fault String) :
      Moves d ((d.forget call.ticket).settlePoll feed caller result)
  | run (d : Desk) (caller : Caller) (jobId message : String) (starter : Starter) :
      Moves d (d.run caller jobId message starter)
  | reset (d : Desk) : Moves d d.reset
  | settleStart {d : Desk} {call : Call} {epoch : Nat} {caller : Caller} {anyReply : Bool}
      (pending : call ∈ d.calls) (task : call.task = .start epoch caller anyReply)
      (outcome : Except Fault Unit) :
      Moves d ((d.forget call.ticket).settleStart epoch caller outcome)
  | settleQuestion {d : Desk} {call : Call} {epoch : Nat} (pending : call ∈ d.calls)
      (task : call.task = .question epoch) (result : Except Fault String) :
      Moves d ((d.forget call.ticket).settleQuestion epoch result)
  /-- An export calls. -/
  | call (d : Desk) (request : Request) {task : Task} (own : task.isExport = true) :
      Moves d (d.call request task)
  /-- A call of an export has settled. -/
  | forget {d : Desk} {call : Call} (pending : call ∈ d.calls)
      (own : call.task.isExport = true) : Moves d (d.forget call.ticket)
  | resend {d : Desk} {call : Call} (pending : call ∈ d.calls) : Moves d (d.resend call)
  | pass (d : Desk) (span : Nat) :
      Moves d { d with agenda := { d.agenda with now := d.agenda.now + span } }
  /-- Work on the agenda is due, and is done. -/
  | ring {d : Desk} {alarm : Alarm Duty} {agenda : Agenda Duty}
      (taken : d.agenda.takeDue d.now = some (alarm, agenda)) :
      Moves d ({ d with agenda }.ring alarm.key)

/-! ## Acts that are moves -/

/-- What observers do about a snapshot is of acts of these parts. -/
def Part.isObserving : Part → Bool
  | .common | .announcer => true
  | _ => false

/-- An act of any other part is of a move of the stores or the runner, or of a call that is
pending. -/
def Part.isMove : Part → Bool
  | .polls _ | .settles _ | .follows | .starts | .answered _ | .again | .removals => false
  | _ => true

variable {part : Part} {d e : Desk}

theorem Stir.refl (d : Desk) : Stir d d :=
  .aside ⟨rfl, Nat.le_refl _⟩

theorem Moves.refl (d : Desk) : Moves d d := .stir (.refl d)

theorem Act.stir (act : Act part d e) (observing : part.isObserving = true) : Stir d e := by
  cases act with
  | notify d notice =>
    refine .trans ?_ (.removal _ _)
    exact .aside ⟨rfl, Nat.le_refl _⟩
  | dismiss d id =>
    refine .trans ?_ (.removal _ _)
    exact .aside ⟨rfl, Nat.le_refl _⟩
  | unsubscribe d feed id => exact .unsubscribe d feed id
  | tell d other => exact .aside ⟨rfl, Nat.le_refl _⟩
  | hear d => exact .aside ⟨rfl, Nat.le_refl _⟩
  | guest d guest => exact .aside ⟨rfl, Nat.le_refl _⟩
  | watches d watches => exact .aside ⟨rfl, Nat.le_refl _⟩
  | announcer d announcer => exact .aside ⟨rfl, Nat.le_refl _⟩
  | @call d request task asks fine => cases task <;> cases observing
  | @due d alarm agenda taken other =>
    cases key : alarm.key <;> rw [key] at observing <;> cases observing
  | _ => cases observing

theorem Acts.stir (acts : Acts (·.isObserving = true) d e) : Stir d e :=
  acts.lift .refl .trans rfl Act.stir

theorem Act.moves (act : Act part d e) (moves : part.isMove = true) : Moves d e := by
  by_cases observing : part.isObserving = true
  · exact .stir (act.stir observing)
  · cases act with
    | subscribe d feed observer => exact .subscribe d feed observer
    | reset d => exact .reset d
    | pass d span => exact .pass d span
    | @call d request task asks fine =>
      cases task with
      | probe order => exact .call d request rfl
      | batch order run => exact .call d request rfl
      | _ => cases moves
    | @due d alarm agenda taken other =>
      cases key : alarm.key <;> rw [key] at moves <;> cases moves
    | exporting d exporting progress => exact .stir (.aside ⟨rfl, Nat.le_refl _⟩)
    | told d report => exact .stir (.aside ⟨rfl, Nat.le_refl _⟩)
    | hands opened order artifact rows total => exact .stir (.aside ⟨rfl, Nat.le_succ _⟩)
    | filed d ticket => exact .stir (.aside ⟨rfl, Nat.le_refl _⟩)
    | shift d shift => exact .stir (.aside ⟨rfl, Nat.le_refl _⟩)
    | close d => exact .stir (.aside ⟨rfl, Nat.le_refl _⟩)
    | handOut d => exact .stir (.aside ⟨rfl, Nat.le_refl _⟩)
    | _ => first | exact absurd rfl observing | cases moves

theorem Acts.moves (acts : Acts (·.isMove = true) d e) : Moves d e :=
  acts.lift .refl .trans rfl Act.moves

theorem deliverAll_stir (d : Desk) (snapshot : Snapshot) (observers : List (Nat × Observer)) :
    Stir d (d.deliverAll snapshot observers) :=
  Acts.stir (deliverAll_acts (by simp [Part.isObserving]) d observers)

theorem dismiss_stir (d : Desk) (id : String) : Stir d (d.dismiss id).2 :=
  (Act.dismiss d id).stir rfl

theorem tellPolled_aside (d : Desk) (caller : Option Caller) (feed : Feed) :
    Aside d (d.tellPolled caller feed) := by
  cases caller <;> exact ⟨rfl, Nat.le_refl _⟩

theorem tellStarted_aside (d : Desk) (caller : Caller) : Aside d (d.tellStarted caller) := by
  cases caller <;> exact ⟨rfl, Nat.le_refl _⟩

theorem tellRefused_aside (d : Desk) (caller : Caller) : Aside d (d.tellRefused caller) := by
  cases caller <;> exact ⟨rfl, Nat.le_refl _⟩

theorem serve_moves (d : Desk) (caller : Caller) (taken : Option Nat) :
    Moves d (d.serve caller taken) :=
  Acts.moves (serve_acts (by simp [Part.isMove]) (by rfl) (by rfl) d caller taken)

/-! ## Whatever happens -/

theorem visit_moves (d : Desk) (caller : Caller) (request : InterfaceRequest) :
    Moves d (d.visit caller request) := by
  cases granted : request.wish with
  | error response =>
    exact Acts.moves (visit_acts (by simp [granted]) d caller)
  | ok wish =>
    cases wish with
    | start kind =>
      have started : d.visit caller request =
          d.run caller kind.jobId kind.startMessage (.kind kind) := by
        unfold visit
        rw [granted]
        rfl
      rw [started]
      exact .run d caller _ _ _
    | _ => exact Acts.moves (visit_acts (by simp [granted, Wish.parts, Part.isMove]) d caller)

theorem settle_moves {call : Call} (pending : call ∈ d.calls)
    (result : Except Fault String) : Moves d ((d.forget call.ticket).settle call.task result) := by
  cases task : call.task with
  | poll feed caller => exact .settlePoll pending task result
  | start epoch caller anyReply => exact .settleStart pending task _
  | question epoch => exact .settleQuestion pending task result
  | probe order =>
    exact .trans (.forget pending (by rw [task]; rfl))
      (Acts.moves (settle_acts (by simp [Task.parts, Part.isMove]) _ result))
  | batch order run =>
    exact .trans (.forget pending (by rw [task]; rfl))
      (Acts.moves (settle_acts (by simp [Task.parts, Part.isMove]) _ result))

theorem answer_moves (d : Desk) (ticket : Nat) (answer : Except Fault Reply) :
    Moves d (d.answer ticket answer) := by
  cases settled : d.settlement ticket answer with
  | some settlement =>
    obtain ⟨task, result⟩ := settlement
    obtain ⟨call, pending, rfl, rfl⟩ := pending_of_settlement settled
    rw [answer_of_settlement settled]
    exact settle_moves pending result
  | none =>
    have cases := answer_cases d ticket answer
    rw [settled] at cases
    rcases cases with same | ⟨call, pending, span, paused⟩
    · rw [same]
      exact .refl d
    · rw [paused]
      unfold pause
      split
      · exact .resend pending
      · exact .stir (.aside ⟨rfl, Nat.le_refl _⟩)

theorem resumeNext_moves (d : Desk) : Moves d d.resumeNext := by
  unfold resumeNext
  split
  · exact .refl d
  · split
    · next pauses _ _ =>
      have rested : Moves d { d with pauses } := .stir (.aside ⟨rfl, Nat.le_refl _⟩)
      refine .trans rested ?_
      unfold resume
      split
      · exact .refl _
      · next call found => exact .resend (List.mem_of_find?_eq_some found)
    · exact .refl d

theorem ringNext_moves (d : Desk) : Moves d d.ringNext := by
  unfold ringNext
  split
  · exact .refl d
  · next taken => exact .ring taken

/-- Every event is made of moves. -/
theorem step_moves (d : Desk) (event : Event) : Moves d (d.step event) := by
  cases event with
  | poll feed caller => exact .poll d feed caller
  | run caller jobId message starter => exact .run d caller jobId message starter
  | visit caller request => exact visit_moves d caller request
  | ring => exact ringNext_moves d
  | resume => exact resumeNext_moves d
  | answer ticket answer => exact answer_moves d ticket answer
  | subscribe feed observer => exact .subscribe d feed observer
  | unsubscribe feed id => exact (Act.unsubscribe d feed id).moves rfl
  | watch number feed leaves =>
    exact .trans (.subscribe d feed (.watch number leaves)) ((Act.watches _ _).moves rfl)
  | unwatch number => exact Acts.moves (unwatch_acts d number)
  | reset => exact .reset d
  | notify notice => exact (Act.notify d notice).moves rfl
  | dismiss id => exact (Act.dismiss d id).moves rfl
  | guestObserves snapshot => exact Acts.moves (guestObserves_acts d snapshot)
  | requestExport order => exact Acts.moves (requestExport_acts (by rfl) d order)
  | serve caller taken => exact serve_moves d caller taken
  | shutDown => exact Acts.moves (shutDown_acts (by rfl) (by rfl) d)
  | pass span => exact .pass d span
  | settleSaving ticket saved =>
    exact Acts.moves (settleSaving_acts (by rfl) (by rfl) d ticket saved)
  | handOut => exact (Act.handOut d).moves rfl
  | hear => exact (Act.hear d).moves rfl

theorem live_moves (d : Desk) (events : List Event) : Moves d (d.live events) := by
  induction events generalizing d with
  | nil => exact .refl d
  | cons event events ih => exact .trans (step_moves d event) (ih (d.step event))

end Desk

end Watchdesk
