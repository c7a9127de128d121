import Watchdesk.Proofs.Desk.Moves
import Mathlib.Data.List.Perm.Basic
import Mathlib.Data.List.Nodup

/-!
# The calls of a desk

No two calls that are under way have the same ticket, so an answer settles one call and no other.
What a desk waits for is read off its tasks, those of its calls.
-/

namespace Watchdesk.Desk

/-- What the desk does with the answers that it waits for. -/
def tasks (d : Desk) : List Task := d.calls.map Call.task

theorem tasks_call (d : Desk) (request : Request) (task : Task) :
    (d.call request task).tasks = d.tasks ++ [task] := List.map_append

theorem tasks_of_same {d e : Desk} (kept : e.calls = d.calls) : e.tasks = d.tasks :=
  congrArg (List.map Call.task) kept

/-- A desk keeps its settings, and gives each call a ticket of its own. -/
structure Orderly (settings : Settings) (d : Desk) : Prop where
  settings : d.settings = settings
  distinct : (d.calls.map Call.ticket).Nodup
  issued : ∀ call ∈ d.calls, call.ticket ≤ d.tickets

@[simp] theorem withStore_settings (d : Desk) (feed : Feed) (store : Store feed.State Observer) :
    (d.withStore feed store).settings = d.settings := by
  cases feed <;> rfl

@[simp] theorem withStore_calls (d : Desk) (feed : Feed) (store : Store feed.State Observer) :
    (d.withStore feed store).calls = d.calls := by
  cases feed <;> rfl

@[simp] theorem withStore_tickets (d : Desk) (feed : Feed) (store : Store feed.State Observer) :
    (d.withStore feed store).tickets = d.tickets := by
  cases feed <;> rfl

@[simp] theorem withStore_agenda (d : Desk) (feed : Feed) (store : Store feed.State Observer) :
    (d.withStore feed store).agenda = d.agenda := by
  cases feed <;> rfl

@[simp] theorem withStore_runner (d : Desk) (feed : Feed) (store : Store feed.State Observer) :
    (d.withStore feed store).runner = d.runner := by
  cases feed <;> rfl

variable {settings : Settings} {d e : Desk}

/-- What changes neither settings nor calls keeps a desk orderly. -/
theorem Orderly.of_same (orderly : Orderly settings d) (kept : e.settings = d.settings)
    (calls : e.calls = d.calls) (tickets : d.tickets ≤ e.tickets) : Orderly settings e where
  settings := kept.trans orderly.settings
  distinct := by
    rw [calls]
    exact orderly.distinct
  issued := by
    intro call member
    rw [calls] at member
    exact Nat.le_trans (orderly.issued call member) tickets

theorem Orderly.call (orderly : Orderly settings d) (request : Request) (task : Task) :
    Orderly settings (d.call request task) where
  settings := orderly.settings
  distinct := by
    simp only [Desk.call, List.map_append, List.map_cons, List.map_nil, List.nodup_append]
    refine ⟨orderly.distinct, List.nodup_singleton _, ?_⟩
    intro ticket earlier other own
    rw [List.mem_map] at earlier
    obtain ⟨call, member, rfl⟩ := earlier
    have bound := orderly.issued call member
    rw [List.mem_singleton] at own
    omega
  issued := by
    intro call member
    show call.ticket ≤ d.tickets + 1
    rcases List.mem_append.mp member with earlier | own
    · exact Nat.le_succ_of_le (orderly.issued call earlier)
    · rw [List.mem_singleton] at own
      exact Nat.le_of_eq (congrArg Call.ticket own)

theorem Orderly.forget (orderly : Orderly settings d) (ticket : Nat) :
    Orderly settings (d.forget ticket) where
  settings := orderly.settings
  distinct := orderly.distinct.sublist (List.filter_sublist.map Call.ticket)
  issued := fun call member => orderly.issued call (List.mem_of_mem_filter member)

/-- The call that is forgotten is the only one with its ticket. -/
theorem Orderly.calls_perm (orderly : Orderly settings d) {call : Call}
    (pending : call ∈ d.calls) : d.calls.Perm (call :: (d.forget call.ticket).calls) := by
  have distinct := orderly.distinct
  unfold Desk.forget
  generalize d.calls = calls at pending distinct
  induction calls with
  | nil => cases pending
  | cons first calls ih =>
    rw [List.map_cons, List.nodup_cons] at distinct
    obtain ⟨alone, distinct⟩ := distinct
    rcases List.mem_cons.mp pending with same | later
    · subst same
      have others : calls.filter (fun c => c.ticket ≠ call.ticket) = calls := by
        rw [List.filter_eq_self]
        intro other member
        have different : other.ticket ≠ call.ticket := by
          intro same
          exact alone (same ▸ List.mem_map_of_mem member)
        simpa using different
      rw [List.filter_cons_of_neg (by simp), others]
    · have different : first.ticket ≠ call.ticket := by
        intro same
        exact alone (same ▸ List.mem_map_of_mem later)
      rw [List.filter_cons_of_pos (by simpa using different)]
      exact ((ih later distinct).cons first).trans (List.Perm.swap call first _)

/-- A call that settles takes its task along. -/
theorem Orderly.tasks_perm (orderly : Orderly settings d) {call : Call}
    (pending : call ∈ d.calls) : d.tasks.Perm (call.task :: (d.forget call.ticket).tasks) :=
  (orderly.calls_perm pending).map Call.task

/-- Calls with one ticket are the same. -/
theorem Orderly.only (orderly : Orderly settings d) {call : Call} (pending : call ∈ d.calls) :
    d.Only call :=
  only_of_distinct orderly.distinct pending

/-- A call is found by its ticket. -/
theorem Orderly.find?_ticket (orderly : Orderly settings d) {call : Call}
    (pending : call ∈ d.calls) :
    (d.calls.find? fun c => c.ticket == call.ticket) = some call := by
  cases found : d.calls.find? fun c => c.ticket == call.ticket with
  | none =>
    have other := List.find?_eq_none.mp found call pending
    simp at other
  | some first =>
    have same : first.ticket = call.ticket := by simpa using List.find?_some found
    rw [orderly.only pending first (List.mem_of_find?_eq_some found) same]

/-- A request that is sent again is still the same call. -/
theorem Only.resend_calls {call : Call} (only : d.Only call) :
    (d.resend call).calls = d.calls.map fun c =>
      { c with attempts := if c.ticket = call.ticket then c.attempts + 1 else c.attempts } := by
  apply List.map_congr_left
  intro other member
  by_cases same : other.ticket = call.ticket
  · rw [only other member same]
    simp
  · simp [same]

theorem Only.resend_tasks {call : Call} (only : d.Only call) : (d.resend call).tasks = d.tasks := by
  rw [tasks, only.resend_calls, List.map_map]
  rfl

theorem Orderly.resend (orderly : Orderly settings d) (call : Call) :
    Orderly settings (d.resend call) where
  settings := orderly.settings
  distinct := by
    have tickets : (d.resend call).calls.map Call.ticket = d.calls.map Call.ticket := by
      simp only [Desk.resend, List.map_map]
      apply List.map_congr_left
      intro other _
      by_cases same : other.ticket = call.ticket
      · simp [same]
      · simp [same]
    rw [tickets]
    exact orderly.distinct
  issued := by
    intro found member
    obtain ⟨other, earlier, rfl⟩ := List.mem_map.mp member
    have bound := orderly.issued other earlier
    show (if other.ticket = call.ticket then _ else other).ticket ≤ d.tickets
    split
    · next same =>
      show call.ticket ≤ d.tickets
      omega
    · exact bound

theorem Orderly.withStore (orderly : Orderly settings d) (feed : Feed)
    (store : Store feed.State Observer) : Orderly settings (d.withStore feed store) :=
  orderly.of_same (withStore_settings d feed _) (withStore_calls d feed _)
    (Nat.le_of_eq (withStore_tickets d feed _).symm)

theorem Orderly.follow (orderly : Orderly settings d) (feed : Feed)
    (change : Store feed.State Observer × List (Order Nat)) :
    Orderly settings (d.follow feed change) :=
  (orderly.withStore feed change.1).of_same rfl rfl (Nat.le_refl _)

/-! ## Whatever happens -/

/-- Every act of a desk leaves it orderly. -/
theorem Orderly.act {part : Part} (act : Act part d e) (orderly : Orderly settings d) :
    Orderly settings e := by
  cases act with
  | unsubscribe d feed id => exact orderly.follow feed _
  | subscribe d feed observer => exact orderly.follow feed _
  | fire d feed number => exact orderly.withStore feed _
  | startPoll starts => exact orderly.withStore _ _
  | settle d feed source outcome => exact orderly.withStore feed _
  | rearm d feed source snapshot => exact orderly.follow feed _
  | call d asks fine => exact orderly.call _ _
  | forget only => exact orderly.forget _
  | resend only => exact orderly.resend _
  | hands opened order artifact rows total => exact orderly.of_same rfl rfl (Nat.le_succ _)
  | _ => exact orderly.of_same rfl rfl (Nat.le_refl _)

theorem Orderly.acts (acts : Acts (fun _ => True) d e) (orderly : Orderly settings d) :
    Orderly settings e := by
  induction acts with
  | refl d => exact orderly
  | trans _ _ first second => exact second (first orderly)
  | common act => exact orderly.act act
  | act act _ => exact orderly.act act

theorem Orderly.stir (stir : Stir d e) (orderly : Orderly settings d) : Orderly settings e := by
  induction stir with
  | trans _ _ first second => exact second (first orderly)
  | aside aside =>
    exact orderly.of_same (congrArg Core.settings aside.core) (congrArg Core.calls aside.core)
      aside.tickets
  | removal d orders => exact orderly.of_same rfl rfl (Nat.le_refl _)
  | unsubscribe d feed id => exact orderly.follow feed _

theorem Orderly.moves (moves : Moves d e) (orderly : Orderly settings d) :
    Orderly settings e := by
  induction moves with
  | trans _ _ first second => exact second (first orderly)
  | stir stir => exact orderly.stir stir
  | subscribe d feed observer => exact orderly.follow feed _
  | poll d feed caller => exact orderly.acts (poll_acts trivial d caller)
  | @settlePoll d call feed caller pending task result =>
    exact (orderly.forget _).acts (settlePoll_acts trivial (fun _ => trivial) _ caller result)
  | run d caller jobId message starter =>
    exact orderly.acts (run_acts trivial trivial d caller jobId message starter)
  | reset d => exact orderly.act (.reset d)
  | settleStart pending task outcome =>
    exact (orderly.forget _).acts (settleStart_acts trivial _ _ _ outcome)
  | settleQuestion pending task result =>
    exact (orderly.forget _).acts (settleQuestion_acts trivial _ _ result)
  | call d request own => exact orderly.call request _
  | forget pending own => exact orderly.forget _
  | resend pending => exact orderly.resend _
  | pass d span => exact orderly.act (.pass d span)
  | @ring d alarm agenda taken =>
    have rung : d.ringNext = { d with agenda }.ring alarm.key := by
      unfold ringNext
      rw [taken]
    rw [← rung]
    exact orderly.acts (ringNext_acts fun _ _ _ => trivial)

theorem ofSettings_orderly (settings : Settings) (hooked : Bool) :
    Orderly settings (ofSettings settings hooked) where
  settings := rfl
  distinct := List.nodup_nil
  issued := fun _ member => absurd member List.not_mem_nil

end Watchdesk.Desk
