import Watchdesk.Proofs.Desk.Calls

/-!
# What is no business of exports

The slot is what a desk keeps for the one export that may be under way. Stores, runner, notices
and shifts leave it as it is, and tell no operator what became of an export.
-/

namespace Watchdesk.Desk

/-- What a desk keeps for exports. -/
structure Slot where
  exporting : Bool
  progress : Option Export.Progress
  /-- What it does with the answers that exports wait for. -/
  tasks : List Task
  savings : List Saving

/-- What a desk holds of the business of exports. -/
def slot (d : Desk) : Slot := ⟨d.exporting, d.progress, d.tasks.filter Task.isExport, d.savings⟩

/-- A change that is no business of exports. -/
structure Quiet (d e : Desk) : Prop where
  slot : e.slot = d.slot
  told : ∀ caller result,
    Report.exported caller result ∈ e.reports → Report.exported caller result ∈ d.reports

variable {settings : Settings} {d e f : Desk}

theorem Quiet.of_same (slot : e.slot = d.slot) (reports : e.reports = d.reports) : Quiet d e where
  slot
  told := by
    intro caller result member
    rw [reports] at member
    exact member

theorem Quiet.refl (d : Desk) : Quiet d d := .of_same rfl rfl

theorem Quiet.trans (first : Quiet d e) (second : Quiet e f) : Quiet d f where
  slot := second.slot.trans first.slot
  told := by
    intro caller result member
    exact first.told caller result (second.told caller result member)

theorem slot_call (d : Desk) (request : Request) (task : Task) :
    (d.call request task).slot =
      { d.slot with tasks := d.slot.tasks ++ [task].filter Task.isExport } := by
  unfold slot
  rw [tasks_call, List.filter_append]
  rfl

/-! ## Acts that are quiet -/

theorem tell_quiet (d : Desk) {report : Report} (other : report.isExported = false) :
    Quiet d (d.tell report) where
  slot := rfl
  told := by
    intro caller result member
    rcases List.mem_append.mp member with earlier | own
    · exact earlier
    · rw [List.mem_singleton] at own
      rw [← own] at other
      cases other

theorem call_quiet (d : Desk) (request : Request) {task : Task} (foreign : task.isExport = false) :
    Quiet d (d.call request task) := by
  refine .of_same ?_ rfl
  rw [slot_call, List.filter_singleton, foreign]
  simp

theorem forget_quiet {call : Call} (only : d.Only call) (foreign : call.task.isExport = false) :
    Quiet d (d.forget call.ticket) := by
  have kept : (d.forget call.ticket).tasks.filter Task.isExport = d.tasks.filter Task.isExport := by
    unfold tasks Desk.forget
    rw [List.filter_map, List.filter_map, List.filter_filter]
    congr 1
    apply List.filter_congr
    intro other member
    -- The call with this ticket is no export's, so both filters leave it out.
    by_cases same : other.ticket = call.ticket
    · simp [only other member same, foreign]
    · simp [same]
  refine .of_same ?_ rfl
  unfold slot
  rw [kept]
  rfl

theorem resend_quiet {call : Call} (only : d.Only call) : Quiet d (d.resend call) := by
  refine .of_same ?_ rfl
  unfold slot
  rw [only.resend_tasks]
  rfl

theorem withStore_quiet (d : Desk) (feed : Feed) (store : Store feed.State Observer) :
    Quiet d (d.withStore feed store) := by
  cases feed <;> exact .of_same rfl rfl

theorem follow_quiet (d : Desk) (feed : Feed)
    (change : Store feed.State Observer × List (Order Nat)) : Quiet d (d.follow feed change) := by
  refine .trans (withStore_quiet d feed change.1) ?_
  exact .of_same rfl rfl

/-- It is the business of exports. -/
def Part.isExport : Part → Bool
  | .exports | .files => true
  | .answered task => task.isExport
  | _ => false

theorem isExport_part (task : Task) : task.part.isExport = task.isExport := by
  cases task <;> rfl

theorem isExport_parts {task : Task} (foreign : task.isExport = false) :
    ∀ part ∈ task.parts, part.isExport = false := by
  cases task with
  | poll feed caller => cases feed <;> simp [Task.parts, Part.isExport]
  | start epoch caller anyReply => simp [Task.parts, Part.isExport]
  | question epoch => simp [Task.parts, Part.isExport]
  | probe order => cases foreign
  | batch order run => cases foreign

theorem Act.quiet {part : Part} (act : Act part d e) (foreign : part.isExport = false) :
    Quiet d e := by
  cases act with
  | tell d other => exact tell_quiet d other
  | hear d => exact ⟨rfl, fun _ _ member => absurd member List.not_mem_nil⟩
  | unsubscribe d feed id => exact follow_quiet d feed _
  | subscribe d feed observer => exact follow_quiet d feed _
  | fire d feed number => exact withStore_quiet d feed _
  | startPoll starts => exact withStore_quiet d _ _
  | settle d feed source outcome => exact withStore_quiet d feed _
  | rearm d feed source snapshot => exact follow_quiet d feed _
  | @call d request task asks fine => exact call_quiet d request (isExport_part task ▸ foreign)
  | forget only => exact forget_quiet only foreign
  | resend only => exact resend_quiet only
  | _ => first | exact .of_same rfl rfl | cases foreign

/-- What is no business of exports is quiet. -/
theorem Acts.quiet (acts : Acts (·.isExport = false) d e) : Quiet d e :=
  acts.lift .refl .trans rfl Act.quiet

theorem serve_quiet (d : Desk) (caller : Caller) (taken : Option Nat) :
    Quiet d (d.serve caller taken) :=
  Acts.quiet (serve_acts (by simp [Part.isExport]) (by rfl) (by rfl) d caller taken)

/-! ## Answers that no export waits for -/

theorem Orderly.settle_quiet (orderly : Orderly settings d) {call : Call}
    (pending : call ∈ d.calls) (foreign : call.task.isExport = false)
    (result : Except Fault String) :
    Quiet d ((d.forget call.ticket).settle call.task result) :=
  .trans (forget_quiet (orderly.only pending) foreign)
    (Acts.quiet (settle_acts (isExport_parts foreign) _ result))

theorem Orderly.pause_quiet (orderly : Orderly settings d) {call : Call}
    (pending : call ∈ d.calls) (span : Nat) : Quiet d (d.pause call span) := by
  unfold Desk.pause
  split
  · exact resend_quiet (orderly.only pending)
  · exact .of_same rfl rfl

theorem Orderly.answer_quiet (orderly : Orderly settings d) {ticket : Nat}
    (foreign : ∀ call ∈ d.calls, call.ticket = ticket → call.task.isExport = false)
    (answer : Except Fault Reply) : Quiet d (d.answer ticket answer) := by
  refine Acts.quiet (answer_acts orderly.distinct (fun task result settled => ?_) fun _ => by rfl)
  obtain ⟨call, pending, own, rfl⟩ := pending_of_settlement settled
  have other := foreign call pending own
  exact ⟨other, isExport_parts other⟩

end Watchdesk.Desk
