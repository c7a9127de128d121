import Watchdesk.Proofs.Desk.Slot
import Watchdesk.Proofs.Desk.Steady
import Watchdesk.Proofs.Export.Cancellation

/-!
# Exports at a closed desk

An export of a desk is cancelled when the desk is closed. No export that is asked for afterwards
comes further than to the number of its rows.
-/

namespace Watchdesk.Desk

variable {settings : Settings} {d e : Desk}

theorem batches_eq_nil_iff : d.batches = [] ↔ ∀ task ∈ d.tasks, task.isBatch = false := by
  simp [batches, tasks, List.filter_eq_nil_iff]

theorem isExport_of_isBatch {task : Task} (isBatch : task.isBatch = true) :
    task.isExport = true := by
  cases task with
  | batch order run => rfl
  | _ => cases isBatch

/-- Who holds the slot without a batch and without a file asks for the number of rows. -/
theorem Slot.Sound.free_or_probing {cap : Nat} (sound : d.slot.Sound cap)
    (batches : d.batches = []) (savings : d.savings = []) :
    d.slot = .free ∨ ∃ order, d.slot = ⟨true, none, [.probe order], []⟩ := by
  rcases sound with free | ⟨order, held⟩
  · exact .inl free
  · generalize slot : d.slot = s at held
    cases held with
    | probing => exact .inr ⟨order, rfl⟩
    | @fetching run planned =>
      have member : Task.batch order run ∈ d.slot.tasks := by
        rw [slot]
        exact List.mem_singleton_self _
      have other := batches_eq_nil_iff.mp batches _ (List.mem_of_mem_filter member)
      cases other
    | saving own =>
      have kept : d.slot.savings = d.savings := rfl
      rw [slot, savings] at kept
      cases kept

/-- From a desk that is closed while no export is under way, every export asks for the number of
its rows, and for nothing else. -/
theorem Orderly.probing_of_closed (orderly : Orderly settings d)
    (sound : d.slot.Sound settings.exports.maxRows) (closed : d.closed = true)
    (idle : d.exporting = false) (later : List Event) :
    (d.live later).slot = .free ∨
      ∃ order, (d.live later).slot = ⟨true, none, [.probe order], []⟩ := by
  have free := sound.eq_free idle
  have spared := orderly.live_spares later
  have savings : d.savings = [] := congrArg Slot.savings free
  have batches : d.batches = [] := by
    rw [batches_eq_nil_iff]
    intro task member
    have none : d.tasks.filter Task.isExport = [] := congrArg Slot.tasks free
    have other := List.filter_eq_nil_iff.mp none task member
    exact Bool.eq_false_iff.mpr fun own => other (isExport_of_isBatch own)
  refine (orderly.live_sound sound later).2.free_or_probing ?_ ?_
  · exact List.sublist_nil.mp (batches ▸ spared.batches closed)
  · exact List.sublist_nil.mp (savings ▸ spared.savings closed)

/-- A run that is cancelled at a moment makes no request behind it. It is the run that nobody
cancels, cut short at the moment without rows that were under way, or as a whole, with its file; it
is cut short whenever another request would follow or the one under way succeeds. A desk that is
closed requests no further batch, makes no further file and hands none out, whoever asks. -/
theorem cancelled_exports_leave_no_part :
    (∀ (fetch : Export.Batches) (job : Export.Job) (header : List String) (fileName : String)
        (moment : Export.Moment),
      let plain := Export.execute { fetch } job header fileName
      let t := Export.execute (.cancelledAt fetch moment) job header fileName
      let strikes := moment.strikes fetch plain
      (t = if strikes then plain.cut moment.requests moment.reports else plain) ∧
      t.requests = plain.requests.take moment.requests ∧
      (t.result = .ok .cancelled ↔ strikes = true) ∧
      (moment = .before → (strikes = true ↔ 0 < job.exportTotal)) ∧
      ∀ earlier offset limit, moment = .inFetch earlier →
        plain.requests[earlier]? = some (offset, limit) →
        match fetch (earlier + 1) offset limit with
        | .error fault => t.result = .error fault
        | .ok _ => t.result = .ok .cancelled ∧ ∀ report ∈ t.reports, report.current ≤ offset) ∧
    ∀ (settings : Settings) (hooked : Bool) (before later : List Event),
      let d := ((ofSettings settings hooked).live before).shutDown
      let e := d.live later
      e.closed = true ∧ e.batches.Sublist d.batches ∧ e.savings.Sublist d.savings ∧
      e.files.Sublist d.files ∧
      (d.exporting = false →
        e.slot = .free ∨ ∃ order, e.slot = ⟨true, none, [.probe order], []⟩) := by
  refine ⟨?_, ?_⟩
  · intro fetch job header fileName moment plain t strikes
    refine ⟨Export.execute_cancelledAt fetch job header fileName moment,
      Export.requests_cancelledAt moment, Export.result_cancelledAt moment, ?_, ?_⟩
    · rintro rfl
      exact Export.before_strikes_iff
    · rintro earlier offset limit rfl asked
      exact Export.result_cancelledInFetch asked
  · intro settings hooked before later d e
    have lived : d = (ofSettings settings hooked).live (before ++ [.shutDown]) := by
      rw [live, List.foldl_append]
      rfl
    obtain ⟨orderly, sound⟩ : Orderly settings d ∧ d.slot.Sound settings.exports.maxRows := by
      rw [lived]
      exact (ofSettings_orderly settings hooked).live_sound (.inl rfl) _
    have closed : d.closed = true := shutDown_closed _
    have spared : Spares d e := orderly.live_spares later
    exact ⟨spared.closed closed, spared.batches closed, spared.savings closed,
      spared.files closed, fun idle => orderly.probing_of_closed sound closed idle later⟩

end Watchdesk.Desk
