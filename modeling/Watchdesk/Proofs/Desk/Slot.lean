import Watchdesk.Proofs.Desk.Quiet
import Watchdesk.Proofs.Export.Completeness

/-!
# One export at a time

The slot of exports is free or held by one export, which waits for one thing: for the number of
rows, for a batch, or for its file. Each event is quiet, or is the affair of the export that holds
the slot, or asks for another; that is refused and changes nothing while the slot is held. The
progress that is shown is the holder's, and an export that returns leaves the slot free.
-/

namespace Watchdesk.Desk

/-- The export that an event asks for, be it at the desk or through the interface. -/
def Event.exportOrder : Event → Option ExportOrder
  | .requestExport order => some order
  | .visit caller request =>
    match request.wish with
    | .ok (.export listing date search confirm) =>
      some { caller, selection := { listing, date, search }, confirm }
    | _ => none
  | _ => none

namespace Slot

/-- No export is at work. -/
def free : Slot := ⟨false, none, [], []⟩

/-- The desk itself is at work on an export, which waits for nothing. -/
def working (progress : Option Export.Progress) : Slot := ⟨true, progress, [], []⟩

/-- An export holds the slot. -/
inductive Held (cap : Nat) (order : ExportOrder) : Slot → Prop where
  /-- It waits for the number of its rows, and shows nothing yet. -/
  | probing : Held cap order ⟨true, none, [.probe order], []⟩
  /-- It waits for a batch, and shows how far its run has come. -/
  | fetching {run : Export.Run} (planned : run.job.exportTotal = min run.job.total cap) :
      Held cap order ⟨true, some (run.progress .fetching), [.batch order run], []⟩
  /-- It waits for its file, and shows the rows that are in it. -/
  | saving {s : Saving} (own : s.order = order) :
      Held cap order ⟨true, some ⟨s.rows, min s.total cap, .building⟩, [], [s]⟩

/-- The slot is free, or one export holds it. -/
def Sound (cap : Nat) (s : Slot) : Prop := s = free ∨ ∃ holder, s.Held cap holder

end Slot

/-- How an export fares in one step of the desk: it holds the slot and its caller is told nothing,
or it returns, which frees the slot, and its caller is told a result. -/
inductive Proceeds (cap : Nat) (order : ExportOrder) (reports : List Report) (e : Desk) : Prop where
  | holds (held : e.slot.Held cap order) (silent : e.reports = reports)
  | returns (result : Except Fault Export.Report) (ended : result ≠ .ok .busy)
      (freed : e.slot = .free) (told : e.reports = reports ++ [order.caller.told result])

variable {settings : Settings} {cap : Nat} {order : ExportOrder} {run : Export.Run}
  {progress : Option Export.Progress} {reports : List Report} {d e : Desk}

theorem Slot.Held.exporting {s : Slot} (held : s.Held cap order) : s.exporting = true := by
  cases held <;> rfl

theorem Slot.Sound.eq_free {s : Slot} (sound : s.Sound cap) (idle : s.exporting = false) :
    s = .free := by
  rcases sound with free | ⟨holder, held⟩
  · exact free
  · rw [held.exporting] at idle
    cases idle

theorem Slot.Sound.counted {s : Slot} (sound : s.Sound cap) :
    s.tasks.length + s.savings.length = s.exporting.toNat := by
  rcases sound with rfl | ⟨holder, held⟩
  · rfl
  · cases held <;> rfl

/-- Only a holder that waits for an answer has a task. -/
theorem Slot.Sound.of_task {s : Slot} {task : Task} (sound : s.Sound cap)
    (member : task ∈ s.tasks) : ∃ holder progress,
    s = ⟨true, progress, [task], []⟩ ∧ s.Held cap holder := by
  rcases sound with rfl | ⟨holder, held⟩
  · cases member
  · have waits := held
    cases held with
    | probing => exact ⟨holder, _, by rw [List.mem_singleton.mp member], waits⟩
    | fetching planned => exact ⟨holder, _, by rw [List.mem_singleton.mp member], waits⟩
    | saving own => cases member

theorem Slot.Sound.of_saving {s : Slot} {saving : Saving} (sound : s.Sound cap)
    (member : saving ∈ s.savings) :
    s = ⟨true, some ⟨saving.rows, min saving.total cap, .building⟩, [], [saving]⟩ := by
  rcases sound with rfl | ⟨holder, held⟩
  · cases member
  · cases held with
    | probing => cases member
    | fetching planned => cases member
    | saving own => rw [List.mem_singleton.mp member]

theorem Proceeds.sound (proceeds : Proceeds cap order reports e) : e.slot.Sound cap := by
  cases proceeds with
  | holds held _ => exact .inr ⟨order, held⟩
  | returns result ended freed told => exact .inl freed

/-! ## What an export does -/

theorem endExport_proceeds {result : Except Fault Export.Report}
    (working : d.slot = .working progress) (ended : result ≠ .ok .busy) :
    Proceeds cap order d.reports (d.endExport order.caller result) := by
  have freed : { d with progress := none, exporting := false }.slot = .free := by
    have emptied : { d with progress := none, exporting := false }.slot =
        { d.slot with progress := none, exporting := false } := rfl
    rw [emptied, working]
    rfl
  unfold endExport
  rw [tellExported_eq]
  cases result with
  | ok report => exact .returns _ ended freed rfl
  | error fault => exact .returns _ ended freed rfl

theorem notifyAll_slot (d : Desk) (notices : List NewNotice) :
    (d.notifyAll notices).slot = d.slot :=
  (Acts.quiet (notifyAll_acts d notices)).slot

theorem notifyAll_reports (d : Desk) (notices : List NewNotice) :
    (d.notifyAll notices).reports = d.reports := by
  unfold notifyAll
  induction notices generalizing d with
  | nil => rfl
  | cons notice notices ih => exact ih (d.notify notice)

theorem notifyAll_endExport_proceeds {result : Except Fault Export.Report}
    (notices : List NewNotice) (working : d.slot = .working progress) (ended : result ≠ .ok .busy) :
    Proceeds cap order d.reports ((d.notifyAll notices).endExport order.caller result) := by
  have published := (notifyAll_slot d notices).trans working
  rw [← notifyAll_reports d notices]
  exact endExport_proceeds published ended

theorem askRows_proceeds {task : Task} (working : d.slot = .working progress)
    (held : Slot.Held cap order ⟨true, progress, [task], []⟩) (limit offset : Nat) :
    Proceeds cap order d.reports (d.askRows order limit offset task) := by
  have own : task.isExport = true := by
    cases held <;> rfl
  unfold askRows
  split
  · refine .holds ?_ rfl
    rw [slot_call, working, List.filter_singleton, own]
    exact held
  · exact endExport_proceeds working (by simp)

theorem showProgress_slot (working : d.slot = .working progress) (next : Export.Progress) :
    (d.showProgress next).slot = .working (some next) := by
  have shown : (d.showProgress next).slot = { d.slot with progress := some next } := rfl
  rw [shown, working]
  rfl

theorem concludeExport_proceeds {outcome : Export.Outcome} (working : d.slot = .working progress)
    (shown : ∀ artifact rows total, outcome = .written artifact rows total →
      progress = some ⟨rows, min total cap, .building⟩) :
    Proceeds cap order d.reports (d.concludeExport order outcome) := by
  cases outcome with
  | empty =>
    dsimp only [concludeExport]
    exact notifyAll_endExport_proceeds _ working (by simp)
  | cancelled =>
    dsimp only [concludeExport]
    exact notifyAll_endExport_proceeds _ working (by simp)
  | written artifact rows total =>
    let s : Saving := ⟨d.tickets + 1, order, artifact, rows, total⟩
    have moved : (d.concludeExport order (.written artifact rows total)).slot =
        { d.slot with savings := d.slot.savings ++ [s] } := rfl
    have own : s.order = order := rfl
    refine .holds ?_ rfl
    rw [moved, working, shown artifact rows total rfl]
    exact .saving own

theorem finishExport_proceeds (planned : run.job.exportTotal = min run.job.total cap)
    (working : d.slot = .working progress) :
    Proceeds cap order d.reports (d.finishExport order run) := by
  unfold finishExport Export.Run.finishReports Export.Run.finish
  by_cases bare : run.records.isEmpty = true
  · rw [if_pos bare]
    dsimp only
    rw [if_pos bare]
    exact concludeExport_proceeds working (by simp)
  · rw [if_neg bare]
    dsimp only
    rw [if_neg bare]
    refine concludeExport_proceeds (showProgress_slot working _) ?_
    intro artifact rows total same
    cases same
    rw [← planned]
    rfl

theorem continueExport_proceeds (planned : run.job.exportTotal = min run.job.total cap)
    (working : d.slot = .working (some (run.progress .fetching))) :
    Proceeds cap order d.reports (d.continueExport order run) := by
  unfold continueExport
  split
  · exact concludeExport_proceeds working (by simp)
  · exact finishExport_proceeds planned working
  · exact askRows_proceeds working (.fetching planned) _ _

theorem runExport_proceeds {job : Export.Job} (planned : job.exportTotal = min job.total cap)
    (working : d.slot = .working progress) :
    Proceeds cap order d.reports (d.runExport order job) := by
  let run : Export.Run := { job }
  have shown := showProgress_slot working (run.progress .fetching)
  have continued := @continueExport_proceeds cap order run _ planned shown
  exact continued

/-- A plan never clears more rows than the cap. -/
theorem planned_of_cleared {sizes : ExportSettings} {total : Nat} {job : Export.Job}
    (cleared : ((Export.Sizing.ofSettings sizes).start total).cleared = some job) :
    job.exportTotal = min job.total sizes.maxRows := by
  rcases Nat.eq_zero_or_pos total with rfl | positive
  · cases cleared
  · have planned := Export.cleared_start sizes.batchSize sizes.maxRows positive
    rw [Export.Sizing.ofSettings, planned] at cleared
    cases cleared
    rfl

theorem settleProbe_proceeds (capped : d.settings.exports.maxRows = cap)
    (working : d.slot = .working progress) (result : Except Fault String) :
    Proceeds cap order d.reports (d.settleProbe order result) := by
  subst capped
  unfold settleProbe
  split
  · exact endExport_proceeds working (by simp)
  · split
    · exact concludeExport_proceeds working (by simp)
    · next job plan =>
      exact runExport_proceeds (planned_of_cleared (by rw [plan]; rfl)) working
    · next bound job plan =>
      split
      · exact runExport_proceeds (planned_of_cleared (by rw [plan]; rfl)) working
      · exact endExport_proceeds working (by simp)

theorem settleBatch_proceeds (planned : run.job.exportTotal = min run.job.total cap)
    (working : d.slot = .working progress) (result : Except Fault String) :
    Proceeds cap order d.reports (d.settleBatch order run result) := by
  unfold settleBatch
  split
  · exact endExport_proceeds working (by simp)
  · split
    · exact concludeExport_proceeds working (by simp)
    · exact finishExport_proceeds planned working
    · next next received =>
      have job := Export.Run.job_of_receive received
      rw [← job] at planned
      have shown := showProgress_slot working (next.progress .fetching)
      have continued := @continueExport_proceeds cap order next _ planned shown
      exact continued

theorem requestExport_proceeds (free : d.slot = .free) :
    Proceeds cap order d.reports (d.requestExport order) := by
  have idle : d.exporting = false := congrArg Slot.exporting free
  have taken : { d with exporting := true }.slot = .working none := by
    have begun : { d with exporting := true }.slot = { d.slot with exporting := true } := rfl
    rw [begun, free]
    rfl
  unfold requestExport
  rw [if_neg (by simp [idle])]
  exact askRows_proceeds taken .probing 1 0

/-! ## What an event does -/

/-- An event that asks for no export is quiet, or moves the export that holds the slot. -/
def Attends (cap : Nat) (d e : Desk) : Prop :=
  Quiet d e ∨ ∃ holder, d.slot.Held cap holder ∧ Proceeds cap holder d.reports e

theorem Orderly.forget_working (orderly : Orderly settings d) {call : Call}
    (pending : call ∈ d.calls) (alone : d.slot = ⟨true, progress, [call.task], []⟩) :
    (d.forget call.ticket).slot = .working progress := by
  have own : call.task.isExport = true := by
    have member : call.task ∈ d.slot.tasks := by
      rw [alone]
      exact List.mem_singleton_self _
    exact (List.mem_filter.mp member).2
  have emptied : (d.forget call.ticket).tasks.filter Task.isExport = [] := by
    -- Tasks are forgotten up to their order, but of one task there is only one order.
    have counted := ((orderly.tasks_perm pending).filter Task.isExport).length_eq
    have single : d.tasks.filter Task.isExport = [call.task] := congrArg Slot.tasks alone
    rw [single, List.filter_cons_of_pos own] at counted
    simpa using counted
  have kept : (d.forget call.ticket).slot = { d.slot with tasks := [] } := by
    rw [← emptied]
    rfl
  rw [kept, alone]
  rfl

theorem Orderly.settle_attends (orderly : Orderly settings d)
    (sound : d.slot.Sound settings.exports.maxRows) {call : Call} (pending : call ∈ d.calls)
    (result : Except Fault String) :
    Attends settings.exports.maxRows d ((d.forget call.ticket).settle call.task result) := by
  by_cases own : call.task.isExport = true
  · have member : call.task ∈ d.slot.tasks :=
      List.mem_filter.mpr ⟨List.mem_map_of_mem pending, own⟩
    obtain ⟨holder, progress, alone, held⟩ := sound.of_task member
    have working := orderly.forget_working pending alone
    have capped : (d.forget call.ticket).settings.exports.maxRows = settings.exports.maxRows :=
      congrArg (fun s => s.exports.maxRows) orderly.settings
    refine .inr ⟨holder, held, ?_⟩
    -- The task names the stage of the holder, and with it what is planned.
    rw [alone] at held
    generalize call.task = task at held
    cases held with
    | probing => exact settleProbe_proceeds capped working result
    | fetching planned => exact settleBatch_proceeds planned working result
  · exact .inl (orderly.settle_quiet pending (by simpa using own) result)

theorem Orderly.answer_attends (orderly : Orderly settings d)
    (sound : d.slot.Sound settings.exports.maxRows) (ticket : Nat)
    (answer : Except Fault Reply) :
    Attends settings.exports.maxRows d (d.answer ticket answer) := by
  unfold Desk.answer
  split
  · exact .inl (.refl d)
  · next call found =>
    have pending : call ∈ d.calls := List.mem_of_find?_eq_some found
    have same : call.ticket = ticket := by simpa using List.find?_some found
    subst same
    split
    · exact orderly.settle_attends sound pending _
    · split
      · exact orderly.settle_attends sound pending _
      · exact .inl (orderly.pause_quiet pending _)

theorem settleSaving_attends (sound : d.slot.Sound cap) (ticket : Nat)
    (saved : Except Fault String) : Attends cap d (d.settleSaving ticket saved) := by
  unfold settleSaving
  split
  · exact .inl (.refl d)
  · next s found =>
    have member : s ∈ d.slot.savings := List.mem_of_find?_eq_some found
    have same : s.ticket = ticket := by simpa using List.find?_some found
    have alone := sound.of_saving member
    -- The file was the only one, so nothing is left to be saved.
    have working : { d with savings := d.savings.filter fun s => s.ticket ≠ ticket }.slot =
        .working (some ⟨s.rows, min s.total cap, .building⟩) := by
      have single : d.savings = [s] := congrArg Slot.savings alone
      have emptied : d.savings.filter (fun s => s.ticket ≠ ticket) = [] := by
        rw [single]
        simp [same]
      have kept : { d with savings := d.savings.filter fun s => s.ticket ≠ ticket }.slot =
          { d.slot with savings := [] } := by
        rw [← emptied]
        rfl
      rw [kept, alone]
      rfl
    refine .inr ⟨s.order, by rw [alone]; exact .saving rfl, ?_⟩
    cases saved with
    | error fault => exact endExport_proceeds working (by simp)
    | ok path => exact notifyAll_endExport_proceeds _ working (by simp)

theorem parts_of_no_order {event : Event} (other : event.exportOrder = none)
    (unanswered : ∀ ticket answer, event ≠ .answer ticket answer)
    (unsaved : ∀ ticket saved, event ≠ .settleSaving ticket saved) :
    ∀ part ∈ d.parts event, part.isExport = false := by
  intro part own
  cases event with
  | requestExport order => cases other
  | answer ticket answer => exact absurd rfl (unanswered ticket answer)
  | settleSaving ticket saved => exact absurd rfl (unsaved ticket saved)
  | visit caller request =>
    rcases mem_visit_parts own with rfl | rfl | rfl | ⟨-, _, _, _, _, granted⟩
    · rfl
    · rfl
    · rfl
    · unfold Event.exportOrder at other
      dsimp only at other
      rw [granted] at other
      cases other
  | ring =>
    obtain ⟨alarm, agenda, -, rfl⟩ := mem_ring_parts own
    cases alarm.key <;> rfl
  | _ => revert part; simp [parts, Part.isExport]

/-- Whatever happens that asks for no export, answers no call and saves no file. -/
theorem Orderly.step_quiet (orderly : Orderly settings d) {event : Event}
    (other : event.exportOrder = none) (unanswered : ∀ ticket answer, event ≠ .answer ticket answer)
    (unsaved : ∀ ticket saved, event ≠ .settleSaving ticket saved) : Quiet d (d.step event) :=
  Acts.quiet ((step_acts orderly.distinct event).mono (parts_of_no_order other unanswered unsaved))

theorem Orderly.step_attends (orderly : Orderly settings d)
    (sound : d.slot.Sound settings.exports.maxRows) {event : Event}
    (other : event.exportOrder = none) : Attends settings.exports.maxRows d (d.step event) := by
  cases event with
  | answer ticket answer => exact orderly.answer_attends sound ticket answer
  | settleSaving ticket saved => exact settleSaving_attends sound ticket saved
  | _ => exact .inl (orderly.step_quiet other (by simp) (by simp))

theorem step_of_exportOrder {event : Event} (asks : event.exportOrder = some order) :
    d.step event = d.requestExport order := by
  cases event with
  | requestExport other =>
    cases asks
    rfl
  | visit caller request =>
    unfold Event.exportOrder at asks
    dsimp only [step, visit] at asks ⊢
    split at asks
    · next granted =>
      cases asks
      rw [granted]
      rfl
    · cases asks
  | _ => cases asks

/-- What one event makes of a sound slot. -/
theorem Orderly.step_slot (orderly : Orderly settings d)
    (sound : d.slot.Sound settings.exports.maxRows) (event : Event) :
    match event.exportOrder with
    | some order =>
      if d.exporting then d.step event = d.tell (order.caller.told (.ok .busy))
      else Proceeds settings.exports.maxRows order d.reports (d.step event)
    | none => Attends settings.exports.maxRows d (d.step event) := by
  split
  · next order asks =>
    rw [step_of_exportOrder asks]
    split
    · next exporting => exact requestExport_eq_tell exporting
    · next idle =>
      have free : d.exporting = false := by simpa using idle
      exact requestExport_proceeds (sound.eq_free free)
  · next other => exact orderly.step_attends sound other

theorem Orderly.step_sound (orderly : Orderly settings d)
    (sound : d.slot.Sound settings.exports.maxRows) (event : Event) :
    (d.step event).slot.Sound settings.exports.maxRows := by
  have stepped := orderly.step_slot sound event
  split at stepped
  · split at stepped
    · rw [stepped]
      exact sound
    · exact stepped.sound
  · rcases stepped with quiet | ⟨holder, held, proceeds⟩
    · rw [quiet.slot]
      exact sound
    · exact proceeds.sound

theorem Orderly.live_sound (orderly : Orderly settings d)
    (sound : d.slot.Sound settings.exports.maxRows) (events : List Event) :
    Orderly settings (d.live events) ∧ (d.live events).slot.Sound settings.exports.maxRows := by
  induction events generalizing d with
  | nil => exact ⟨orderly, sound⟩
  | cons event events ih =>
    exact ih (orderly.moves (step_moves d event)) (orderly.step_sound sound event)

/-- After every life of a desk, one export holds the slot or nobody does, and the exports that
wait for an answer or for a file are that one. An order that comes while the slot is held is told
so, and nothing else changes. An order that comes while it is free takes it. Any other event is
quiet, or moves the holder on, which keeps the slot or returns. -/
theorem live_slot (settings : Settings) (hooked : Bool) (events : List Event) :
    let cap := settings.exports.maxRows
    let d := (ofSettings settings hooked).live events
    (if d.exporting then ∃ holder, d.slot.Held cap holder else d.slot = .free) ∧
    (d.tasks.filter Task.isExport).length + d.savings.length = d.exporting.toNat ∧
    ∀ event : Event, match event.exportOrder with
      | some order =>
        if d.exporting then d.step event = d.tell (order.caller.told (.ok .busy))
        else Proceeds cap order d.reports (d.step event)
      | none =>
        Quiet d (d.step event) ∨
          ∃ holder, d.slot.Held cap holder ∧ Proceeds cap holder d.reports (d.step event) := by
  intro cap d
  obtain ⟨orderly, sound⟩ : Orderly settings d ∧ d.slot.Sound cap :=
    (ofSettings_orderly settings hooked).live_sound (.inl rfl) events
  refine ⟨?_, sound.counted, orderly.step_slot sound⟩
  split
  · next exporting =>
    rcases sound with free | held
    · have idle : d.exporting = false := congrArg Slot.exporting free
      rw [idle] at exporting
      cases exporting
    · exact held
  · next idle =>
    have free : d.exporting = false := by simpa using idle
    exact sound.eq_free free

end Watchdesk.Desk
