import Watchdesk.Proofs.Desk.Slot
import Watchdesk.Proofs.Desk.Traffic

/-!
# The course of an export

An export of a desk begins when it takes the slot, and is over when it leaves the slot free. In
between it hears the answers to its questions, the ends of its pauses and what became of its file;
at each of them the desk does for it what its clerk does, and nothing else that happens touches
what the desk keeps for it. So what an export does depends on its order, the settings and what it
hears, and on nothing else that happened before or meanwhile.
-/

namespace Watchdesk

open Export (Quest Wait Deed Move Next Hearing Word)

/-- What an export asks that waits for the answer. -/
def Task.quest? : Task → Option Quest
  | .probe _ => some .total
  | .batch _ run => some (.batch run)
  | .poll _ _ | .start _ _ _ | .question _ => none

/-- What an export waits for that has a call under way. -/
def Call.wait? (c : Call) : Option Wait := c.task.quest?.map (.answer · c.attempts)

/-- What an export waits for whose file is being saved. -/
def Saving.wait (s : Saving) : Wait := .file s.artifact s.rows s.total

namespace Desk

/-- What the export at work waits for. -/
def wait (d : Desk) : Option Wait :=
  match d.calls.filter fun c => c.task.isExport with
  | call :: _ => call.wait?
  | [] => d.savings.head?.map Saving.wait

/-- The export at work waits for the answer to a call. -/
def asking (d : Desk) (ticket : Nat) : Bool :=
  d.calls.any fun c => c.ticket == ticket && c.task.isExport

/-- What an event lets the export at work hear. -/
def hears (d : Desk) : Event → Option Hearing
  | .answer ticket answer =>
    if d.asking ticket then some ⟨d.closed, .answered answer⟩ else none
  | .resume =>
    match d.pauses with
    | [] => none
    | pause :: _ =>
      if pause.due ≤ d.now ∧ d.asking pause.key then some ⟨d.closed, .rested⟩ else none
  | .settleSaving ticket saved =>
    if d.savings.any fun s => s.ticket == ticket then some ⟨d.closed, .saved saved⟩ else none
  | _ => none

/-- What the export at work does at an event. -/
def deed (d : Desk) (order : ExportOrder) (event : Event) : Option Deed :=
  (d.hears event).bind fun hearing => d.wait.bind fun wait =>
    wait.deed d.settings order hearing

/-- The desk does for the export at work what the export does at an event, apart from what the desk
remembers of calls, pauses and files. An event at which the export hears nothing leaves alone what
the desk keeps for it, and has no file handed out. -/
def Serves (order : ExportOrder) (d : Desk) (event : Event) : Prop :=
  match d.hears event with
  | some _ => ∃ calls pauses savings, d.step event =
      (d.deed order event).toList.foldl (perform · order) { d with calls, pauses, savings }
  | none => (d.step event).slot = d.slot ∧
      (d.handedOut event).filter Dispatch.isSave ++ (d.step event).files = d.files

/-- The course of an export that a desk is asked for: what the export has heard, what it has done,
and the desk now. -/
inductive Course (order : ExportOrder) (d : Desk) : List Hearing → List Deed → Desk → Prop where
  | begins {event : Event} (asked : event.exportOrder = some order) (idle : d.exporting = false) :
      Course order d [] [Clerk.opening d.settings order] (d.step event)
  | goesOn {heard : List Hearing} {deeds : List Deed} {e : Desk}
      (course : Course order d heard deeds e) (busy : e.exporting = true) (event : Event) :
      Course order d (heard ++ (e.hears event).toList) (deeds ++ (e.deed order event).toList)
        (e.step event)

variable {settings : Settings} {cap : Nat} {order : ExportOrder} {d e : Desk}

/-! ## What the export at work waits for -/

theorem tasks_eq_map (d : Desk) :
    d.slot.tasks = (d.calls.filter fun c => c.task.isExport).map Call.task := by
  unfold slot tasks
  rw [List.filter_map]
  rfl

theorem wait_of_same (calls : e.calls = d.calls) (savings : e.savings = d.savings) :
    e.wait = d.wait := by
  unfold wait
  rw [calls, savings]

theorem wait_of_bare (tasks : d.slot.tasks = []) (savings : d.slot.savings = []) :
    d.wait = none := by
  have none_saved : d.savings = [] := savings
  rw [tasks_eq_map, List.map_eq_nil_iff] at tasks
  unfold wait
  rw [tasks, none_saved]
  rfl

/-- A holder that waits for an answer has one call. -/
theorem call_of_tasks {task : Task} (alone : d.slot.tasks = [task]) : ∃ call ∈ d.calls,
    call.task = task ∧ d.wait = call.wait? ∧
    (d.calls.filter fun c => c.task.isExport) = [call] := by
  rw [tasks_eq_map, List.map_eq_singleton_iff] at alone
  obtain ⟨call, single, own⟩ := alone
  refine ⟨call, ?_, own, ?_, single⟩
  · have member : call ∈ d.calls.filter fun c => c.task.isExport := by
      rw [single]
      exact List.mem_singleton_self call
    exact List.mem_of_mem_filter member
  · unfold wait
    rw [single]

theorem wait_of_saving {s : Saving} (tasks : d.slot.tasks = []) (savings : d.slot.savings = [s]) :
    d.wait = some s.wait := by
  have found : d.savings = [s] := savings
  rw [tasks_eq_map, List.map_eq_nil_iff] at tasks
  unfold wait
  rw [tasks, found]
  rfl

/-- What a desk waits for after it went on with an export. -/
theorem goOn_wait {progress : Option Export.Progress} (working : d.slot = .working progress)
    (next : Next) : (d.goOn order next).wait = next.wait := by
  have tasks : d.slot.tasks = [] := congrArg Slot.tasks working
  have savings : d.slot.savings = [] := congrArg Slot.savings working
  cases next with
  | asks url quest =>
    have bare := tasks
    rw [tasks_eq_map, List.map_eq_nil_iff] at bare
    have single : ((d.call (.get url) (quest.task order)).calls.filter fun c => c.task.isExport) =
        [⟨d.tickets + 1, .get url, quest.task order, 0⟩] := by
      unfold Desk.call
      rw [List.filter_append, bare]
      cases quest <;> rfl
    unfold wait goOn
    rw [single]
    cases quest <;> rfl
  | hands artifact rows total =>
    have kept : (d.goOn order (.hands artifact rows total)).slot.tasks = [] := tasks
    refine wait_of_saving (s := ⟨d.tickets + 1, order, artifact, rows, total⟩) kept ?_
    have moved : (d.goOn order (.hands artifact rows total)).slot.savings =
        d.slot.savings ++ [⟨d.tickets + 1, order, artifact, rows, total⟩] := rfl
    rw [moved, savings]
    rfl
  | returns result =>
    have published := notifyAll_slot d (Export.farewell result)
    refine wait_of_bare ?_ ?_
    · exact (congrArg Slot.tasks published).trans tasks
    · exact (congrArg Slot.savings published).trans savings

theorem foldl_showProgress_slot {progress : Option Export.Progress}
    (working : d.slot = .working progress) (shown : List Export.Progress) :
    ∃ last, (shown.foldl showProgress d).slot = .working last := by
  induction shown generalizing d progress with
  | nil => exact ⟨progress, working⟩
  | cons p shown ih => exact ih (showProgress_slot working p)

/-- What a desk waits for after a move that it makes for an export. -/
theorem perform_wait {progress : Option Export.Progress} (working : d.slot = .working progress)
    (move : Move) : (d.perform order (.moves move)).wait = move.next.wait := by
  obtain ⟨last, shown⟩ := foldl_showProgress_slot working move.shown
  exact goOn_wait shown move.next

/-! ## What an export hears -/

/-- When the export at work hears something, and what it hears. -/
inductive Reaches (d : Desk) : Event → Hearing → Prop where
  | answered {ticket : Nat} {answer : Except Fault Reply} (asking : d.asking ticket = true) :
      Reaches d (.answer ticket answer) ⟨d.closed, .answered answer⟩
  | rested {pause : Alarm Nat} {pauses : List (Alarm Nat)} (first : d.pauses = pause :: pauses)
      (due : pause.due ≤ d.now) (asking : d.asking pause.key = true) :
      Reaches d .resume ⟨d.closed, .rested⟩
  | saved {ticket : Nat} {saved : Except Fault String}
      (own : d.savings.any (fun s => s.ticket == ticket) = true) :
      Reaches d (.settleSaving ticket saved) ⟨d.closed, .saved saved⟩

theorem reaches_of_hears {event : Event} {hearing : Hearing}
    (hears : d.hears event = some hearing) : Reaches d event hearing := by
  unfold Desk.hears at hears
  cases event with
  | answer ticket answer =>
    dsimp only at hears
    split at hears
    · next asking =>
      cases hears
      exact .answered asking
    · cases hears
  | resume =>
    dsimp only at hears
    cases first : d.pauses with
    | nil =>
      rw [first] at hears
      cases hears
    | cons pause pauses =>
      rw [first] at hears
      dsimp only at hears
      split at hears
      · next rested =>
        cases hears
        exact .rested first rested.1 rested.2
      · cases hears
  | settleSaving ticket saved =>
    dsimp only at hears
    split at hears
    · next own =>
      cases hears
      exact .saved own
    · cases hears
  | _ => cases hears

/-- The call that the export at work waits for. -/
theorem asked_call (held : d.slot.Held cap order) {ticket : Nat} (asking : d.asking ticket) :
    ∃ call ∈ d.calls, ∃ (quest : Quest) (progress : Option Export.Progress),
      call.ticket = ticket ∧ call.task = quest.task order ∧
      d.slot = ⟨true, progress, [call.task], []⟩ ∧
      (d.calls.filter fun c => c.task.isExport) = [call] ∧
      d.wait = some (.answer quest call.attempts) := by
  obtain ⟨call, pending, own⟩ := List.any_eq_true.mp asking
  rw [Bool.and_eq_true, beq_iff_eq] at own
  obtain ⟨same, isExport⟩ := own
  have member : call.task ∈ d.slot.tasks :=
    List.mem_filter.mpr ⟨List.mem_map_of_mem pending, isExport⟩
  have single (task : Task) (alone : d.slot.tasks = [task]) :
      call.task = task ∧ d.wait = call.wait? ∧
        (d.calls.filter fun c => c.task.isExport) = [call] := by
    obtain ⟨other, -, own, waits, found⟩ := call_of_tasks alone
    have among : call ∈ d.calls.filter fun c => c.task.isExport :=
      List.mem_filter.mpr ⟨pending, isExport⟩
    rw [found, List.mem_singleton] at among
    subst among
    exact ⟨own, waits, found⟩
  generalize shape : d.slot = s at held member single
  cases held with
  | probing =>
    obtain ⟨own, waits, found⟩ := single _ rfl
    refine ⟨call, pending, .total, none, same, own, ?_, found, ?_⟩
    · rw [own]
    · rw [waits, Call.wait?, own]
      rfl
  | @fetching run planned =>
    obtain ⟨own, waits, found⟩ := single _ rfl
    refine ⟨call, pending, .batch run, some (run.progress .fetching), same, own, ?_, found, ?_⟩
    · rw [own]
    · rw [waits, Call.wait?, own]
      rfl
  | saving own => cases member

/-- A desk that serves the export at work at an event: what it does is what the clerk does that
hears the same. -/
structure Answers (order : ExportOrder) (d : Desk) (hearing : Hearing) (e : Desk) : Prop where
  serves : ∃ calls pauses savings,
    e = (d.wait.bind (·.deed d.settings order hearing)).toList.foldl (perform · order)
      { d with calls, pauses, savings }
  wait : ∀ deeds, (⟨d.wait, deeds⟩ : Clerk).hear d.settings order hearing =
    ⟨e.wait, deeds ++ (d.wait.bind (·.deed d.settings order hearing)).toList⟩

theorem Answers.of_deed {hearing : Hearing} {wait : Wait} {deed : Deed} (waits : d.wait = some wait)
    (done : wait.deed d.settings order hearing = some deed)
    (serves : ∃ calls pauses savings, e = { d with calls, pauses, savings }.perform order deed)
    (after : e.wait = deed.wait d.wait) : Answers order d hearing e where
  serves := by
    rw [waits, Option.bind_some, done]
    exact serves
  wait := by
    intro deeds
    have heard : (⟨d.wait, deeds⟩ : Clerk).hear d.settings order hearing =
        (⟨d.wait, deeds⟩ : Clerk).perform deed := Clerk.hear_of_deed waits done
    rw [heard, after, waits, Option.bind_some, done]
    rfl

theorem Answers.of_no_deed {hearing : Hearing} {wait : Wait} (waits : d.wait = some wait)
    (idle : wait.deed d.settings order hearing = none)
    (serves : ∃ calls pauses savings, e = { d with calls, pauses, savings })
    (after : e.wait = d.wait) : Answers order d hearing e where
  serves := by
    rw [waits, Option.bind_some, idle]
    exact serves
  wait := by
    intro deeds
    have heard : (⟨d.wait, deeds⟩ : Clerk).hear d.settings order hearing = ⟨d.wait, deeds⟩ :=
      Clerk.hear_of_no_deed waits idle
    rw [heard, after, waits, Option.bind_some, idle, Option.toList_none, List.append_nil]

theorem find?_of_filter {call : Call}
    (single : (d.calls.filter fun c => c.task.isExport) = [call]) :
    (d.calls.find? fun c => c.task.isExport) = some call := by
  rw [← List.head?_filter, single]
  rfl

/-- A question that is sent again has one more attempt. -/
theorem Orderly.resend_wait (orderly : Orderly settings d) {call : Call} {quest : Quest}
    (pending : call ∈ d.calls) (single : (d.calls.filter fun c => c.task.isExport) = [call])
    (waits : d.wait = some (.answer quest call.attempts)) :
    (d.resend call).wait = some (.answer quest (call.attempts + 1)) := by
  have again : ((d.resend call).calls.filter fun c => c.task.isExport) =
      [{ call with attempts := call.attempts + 1 }] := by
    rw [(orderly.only pending).resend_calls, List.filter_map]
    have same : (fun c : Call => c.task.isExport) ∘ (fun c : Call =>
        { c with attempts := if c.ticket = call.ticket then c.attempts + 1 else c.attempts }) =
        fun c => c.task.isExport := rfl
    rw [same, single]
    simp
  have before : call.wait? = some (.answer quest call.attempts) := by
    rw [← waits]
    unfold Desk.wait
    rw [single]
  unfold Call.wait? at before
  obtain ⟨own, asked, same⟩ := Option.map_eq_some_iff.mp before
  cases same
  unfold Desk.wait
  rw [again]
  dsimp only [Call.wait?]
  rw [asked]
  rfl

theorem Orderly.resend_answers (orderly : Orderly settings d) {call : Call} {quest : Quest}
    {hearing : Hearing} (pending : call ∈ d.calls)
    (single : (d.calls.filter fun c => c.task.isExport) = [call])
    (waits : d.wait = some (.answer quest call.attempts))
    (done : (Wait.answer quest call.attempts).deed d.settings order hearing = some .repeats)
    (pauses : List (Alarm Nat)) : Answers order d hearing ({ d with pauses }.resend call) := by
  refine .of_deed waits done ⟨d.calls, pauses, d.savings, ?_⟩ ?_
  · unfold perform
    dsimp only
    rw [find?_of_filter single]
  · have rested : Orderly settings { d with pauses } := orderly.of_same rfl rfl (Nat.le_refl _)
    rw [rested.resend_wait pending single waits, waits]
    rfl

/-- The answer to a question of an export settles it, or lets it pause. -/
theorem Orderly.answer_question (orderly : Orderly settings d) (fair : d.Fair) {call : Call}
    (pending : call ∈ d.calls) (isExport : call.task.isExport = true)
    (answer : Except Fault Reply) :
    (∀ result, Retry.judge d.settings.backend call.attempts answer = .settled result →
      d.answer call.ticket answer = (d.forget call.ticket).settle call.task result) ∧
    ∀ span, Retry.judge d.settings.backend call.attempts answer = .again span →
      d.answer call.ticket answer = d.pause call span := by
  have question := fair.exports call pending isExport
  unfold Desk.answer
  rw [orderly.find?_ticket pending]
  dsimp only
  cases request : call.request with
  | post url body =>
    rw [request] at question
    cases question
  | get url =>
    refine ⟨?_, ?_⟩
    · intro result judged
      dsimp only
      rw [judged]
    · intro span judged
      dsimp only
      rw [judged]

/-- The answer to a question of the export at work. -/
theorem Orderly.answer_answers (orderly : Orderly settings d) (fair : d.Fair)
    (held : d.slot.Held cap order) {ticket : Nat} (asking : d.asking ticket)
    (answer : Except Fault Reply) :
    Answers order d ⟨d.closed, .answered answer⟩ (d.answer ticket answer) := by
  obtain ⟨call, pending, quest, progress, same, own, shape, single, waits⟩ :=
    asked_call held asking
  subst same
  have isExport : call.task.isExport = true := by
    rw [own]
    cases quest <;> rfl
  obtain ⟨settles, again⟩ := orderly.answer_question fair pending isExport answer
  cases judged : Retry.judge d.settings.backend call.attempts answer with
  | settled result =>
    have done := Wait.deed_of_settled d.settings order quest d.closed judged
    have working := orderly.forget_working pending shape
    have moved : (d.forget call.ticket).settle call.task result = _ :=
      own ▸ settle_quest (d.forget call.ticket) order quest result
    rw [settles result judged, moved]
    refine .of_deed waits done ⟨(d.forget call.ticket).calls, d.pauses, d.savings, rfl⟩ ?_
    exact perform_wait working _
  | again span =>
    rw [again span judged]
    unfold Desk.pause
    split
    · next instant =>
      have done : (Wait.answer quest call.attempts).deed d.settings order
          ⟨d.closed, .answered answer⟩ = some .repeats := by
        rw [Wait.deed_of_again d.settings order quest d.closed judged]
        exact if_pos instant
      exact orderly.resend_answers pending single waits done d.pauses
    · next slow =>
      have idle : (Wait.answer quest call.attempts).deed d.settings order
          ⟨d.closed, .answered answer⟩ = none := by
        rw [Wait.deed_of_again d.settings order quest d.closed judged]
        exact if_neg slow
      refine .of_no_deed waits idle ⟨d.calls, _, d.savings, rfl⟩ ?_
      exact wait_of_same rfl rfl

/-- The end of a pause of the export at work. -/
theorem Orderly.resumeNext_answers (orderly : Orderly settings d)
    (held : d.slot.Held cap order) {pause : Alarm Nat} {pauses : List (Alarm Nat)}
    (first : d.pauses = pause :: pauses) (due : pause.due ≤ d.now)
    (asking : d.asking pause.key) : Answers order d ⟨d.closed, .rested⟩ d.resumeNext := by
  obtain ⟨call, pending, quest, progress, same, own, -, single, waits⟩ := asked_call held asking
  have found := orderly.find?_ticket pending
  rw [same] at found
  have resumed : d.resumeNext = { d with pauses }.resend call := by
    unfold resumeNext
    rw [first]
    dsimp only
    rw [if_pos due]
    unfold Desk.resume
    dsimp only
    rw [found]
  rw [resumed]
  exact orderly.resend_answers pending single waits rfl pauses

/-- The file that the export at work waits for. -/
theorem awaited_saving (held : d.slot.Held cap order) {ticket : Nat}
    (own : d.savings.any fun s => s.ticket == ticket) : ∃ (s : Saving) (progress : _),
      s.ticket = ticket ∧ s.order = order ∧ d.slot = ⟨true, progress, [], [s]⟩ ∧
      d.wait = some s.wait := by
  obtain ⟨s, member, same⟩ := List.any_eq_true.mp own
  have among : s ∈ d.slot.savings := member
  generalize shape : d.slot = slot at held among
  cases held with
  | probing => cases among
  | fetching planned => cases among
  | saving belongs =>
    cases List.mem_singleton.mp among
    exact ⟨s, _, by simpa using same, belongs, rfl,
      wait_of_saving (congrArg Slot.tasks shape) (congrArg Slot.savings shape)⟩

/-- What became of the file of the export at work. -/
theorem settleSaving_answers (held : d.slot.Held cap order) {ticket : Nat}
    (own : d.savings.any fun s => s.ticket == ticket) (saved : Except Fault String) :
    Answers order d ⟨d.closed, .saved saved⟩ (d.settleSaving ticket saved) := by
  obtain ⟨s, progress, same, belongs, shape, waits⟩ := awaited_saving held own
  have savings : d.savings = [s] := congrArg Slot.savings shape
  have found : (d.savings.find? fun s => s.ticket == ticket) = some s := by
    rw [savings]
    simp [same]
  have emptied : d.savings.filter (fun s => s.ticket ≠ ticket) = [] := by
    rw [savings]
    simp [same]
  have working : { d with savings := d.savings.filter fun s => s.ticket ≠ ticket }.slot =
      .working progress := by
    rw [emptied]
    have kept : { d with savings := [] }.slot = { d.slot with savings := [] } := rfl
    rw [kept, shape]
    rfl
  rw [settleSaving_eq d saved found, belongs]
  refine .of_deed waits rfl ⟨d.calls, d.pauses, _, rfl⟩ ?_
  exact perform_wait working _

/-! ## What an export does not hear -/

theorem not_asking {ticket : Nat} (deaf : d.asking ticket = false) :
    ∀ call ∈ d.calls, call.ticket = ticket → call.task.isExport = false := by
  intro call pending same
  have other := List.any_eq_false.mp deaf call pending
  simpa [same] using other

theorem settleSaving_of_deaf {ticket : Nat} {saved : Except Fault String}
    (deaf : d.hears (.settleSaving ticket saved) = none) :
    d.step (.settleSaving ticket saved) = d := by
  have missing : (d.savings.find? fun s => s.ticket == ticket) = none := by
    unfold hears at deaf
    rw [List.find?_eq_none]
    simpa using deaf
  show d.settleSaving ticket saved = d
  unfold settleSaving
  rw [missing]

/-- An event at which the export at work hears nothing leaves alone what the desk keeps for it. -/
theorem Orderly.step_slot_of_deaf (orderly : Orderly settings d) (busy : d.exporting = true)
    {event : Event} (deaf : d.hears event = none) : (d.step event).slot = d.slot := by
  cases asks : event.exportOrder with
  | some order =>
    rw [step_of_exportOrder asks, requestExport_eq_tell busy]
    rfl
  | none =>
    refine Quiet.slot ?_
    cases event with
    | answer ticket answer =>
      refine orderly.answer_quiet (not_asking ?_) answer
      unfold hears at deaf
      simpa using deaf
    | settleSaving ticket saved =>
      rw [settleSaving_of_deaf deaf]
      exact .refl d
    | _ => exact orderly.step_quiet asks (by simp) (by simp)

theorem Orderly.step_files_of_deaf (orderly : Orderly settings d) (busy : d.exporting = true)
    {event : Event} (deaf : d.hears event = none) :
    (d.handedOut event).filter Dispatch.isSave ++ (d.step event).files = d.files := by
  by_cases settles : ∃ ticket saved, event = .settleSaving ticket saved
  · obtain ⟨ticket, saved, rfl⟩ := settles
    rw [settleSaving_of_deaf deaf]
    rfl
  · obtain ⟨filed, savings, files⟩ := orderly.step_files fun ticket saved same =>
      settles ⟨ticket, saved, same⟩
    have kept : (d.step event).savings = d.savings :=
      congrArg Slot.savings (orderly.step_slot_of_deaf busy deaf)
    rw [kept] at savings
    rw [files, List.self_eq_append_right.mp savings, List.map_nil, List.append_nil]

theorem asking_of_call {call : Call} (pending : call ∈ d.calls)
    (isExport : call.task.isExport = true) : d.asking call.ticket = true :=
  List.any_eq_true.mpr ⟨call, pending, by simp [isExport]⟩

theorem touched_of_deaf {event : Event} (deaf : d.hears event = none) {call : Call}
    (pending : call ∈ d.calls) (isExport : call.task.isExport = true) :
    d.touched event ≠ some call.ticket := by
  have asking := asking_of_call pending isExport
  intro touched
  cases event with
  | answer ticket answer =>
    cases touched
    unfold hears at deaf
    dsimp only at deaf
    rw [if_pos asking] at deaf
    cases deaf
  | resume =>
    unfold Desk.touched at touched
    unfold hears at deaf
    cases first : d.pauses with
    | nil =>
      rw [first] at touched
      cases touched
    | cons pause pauses =>
      rw [first] at touched deaf
      dsimp only at touched deaf
      split at touched
      · next due =>
        have own : pause.key = call.ticket := Option.some.inj touched
        rw [own, if_pos ⟨due, asking⟩] at deaf
        cases deaf
      · cases touched
  | _ => cases touched

theorem Orderly.step_wait_of_deaf (orderly : Orderly settings d) (held : d.slot.Held cap order)
    {event : Event} (deaf : d.hears event = none) : (d.step event).wait = d.wait := by
  have same := orderly.step_slot_of_deaf held.exporting deaf
  -- The slot does not tell how often a question was sent; that its call stays does.
  have asked (task : Task) (alone : d.slot.tasks = [task]) : (d.step event).wait = d.wait := by
    obtain ⟨call, pending, own, waits, single⟩ := call_of_tasks alone
    have isExport : call.task.isExport = true := by
      have member : call ∈ d.calls.filter fun c => c.task.isExport := by
        rw [single]
        exact List.mem_singleton_self call
      exact (List.mem_filter.mp member).2
    have kept := orderly.step_calls pending (touched_of_deaf deaf pending isExport)
    obtain ⟨other, -, -, after, still⟩ := call_of_tasks ((congrArg Slot.tasks same).trans alone)
    have among : call ∈ (d.step event).calls.filter fun c => c.task.isExport :=
      List.mem_filter.mpr ⟨kept, isExport⟩
    rw [still, List.mem_singleton] at among
    rw [after, waits, among]
  generalize shape : d.slot = slot at held
  cases held with
  | probing => exact asked _ (congrArg Slot.tasks shape)
  | fetching planned => exact asked _ (congrArg Slot.tasks shape)
  | saving own =>
    have now := same.trans shape
    rw [wait_of_saving (congrArg Slot.tasks shape) (congrArg Slot.savings shape),
      wait_of_saving (congrArg Slot.tasks now) (congrArg Slot.savings now)]

/-! ## Courses -/

theorem Orderly.step_answers (orderly : Orderly settings d) (fair : d.Fair)
    (held : d.slot.Held cap order) {event : Event} {hearing : Hearing}
    (heard : d.hears event = some hearing) : Answers order d hearing (d.step event) := by
  cases reaches_of_hears heard with
  | answered asking => exact orderly.answer_answers fair held asking _
  | rested first due asking => exact orderly.resumeNext_answers held first due asking
  | saved own => exact settleSaving_answers held own _

/-- At every event, a desk does what the export at work does then, and nothing else for it. -/
theorem Orderly.step_serves (orderly : Orderly settings d) (fair : d.Fair)
    (held : d.slot.Held cap order) (event : Event) : Serves order d event := by
  unfold Serves Desk.deed
  cases heard : d.hears event with
  | none =>
    exact ⟨orderly.step_slot_of_deaf held.exporting heard,
      orderly.step_files_of_deaf held.exporting heard⟩
  | some hearing => exact (orderly.step_answers fair held heard).serves

/-- One export holds the slot. -/
theorem Slot.Held.unique {s : Slot} {other : ExportOrder} (held : s.Held cap order)
    (also : s.Held cap other) : order = other := by
  generalize shape : s = t at also
  cases held with
  | probing =>
    cases also with
    | probing => simpa using congrArg Slot.tasks shape
    | fetching planned => simp at shape
    | saving own => simp at shape
  | fetching planned =>
    cases also with
    | probing => simp at shape
    | fetching planned =>
      have tasks := congrArg Slot.tasks shape
      simp only [List.cons.injEq, Task.batch.injEq] at tasks
      exact tasks.1.1
    | saving own => simp at shape
  | saving own =>
    cases also with
    | probing => simp at shape
    | fetching planned => simp at shape
    | saving belongs =>
      have savings := congrArg Slot.savings shape
      simp only [List.cons.injEq] at savings
      rw [← own, ← belongs, savings.1]

/-- What holds of an export that has heard and done something, as long as it is at work and when it
has returned: it is where its clerk is. -/
structure Tracked (settings : Settings) (order : ExportOrder) (heard : List Hearing)
    (deeds : List Deed) (e : Desk) : Prop where
  orderly : Orderly settings e
  fair : e.Fair
  slot : if e.exporting then e.slot.Held settings.exports.maxRows order else e.slot = .free
  clerk : ⟨e.wait, deeds⟩ = Clerk.attend settings order heard

theorem Proceeds.slot_eq {reports : List Report} (proceeds : Proceeds cap order reports e) :
    if e.exporting then e.slot.Held cap order else e.slot = .free := by
  cases proceeds with
  | holds held _ =>
    have busy : e.exporting = true := held.exporting
    rw [if_pos busy]
    exact held
  | returns result ended freed told =>
    have idle : e.exporting = false := congrArg Slot.exporting freed
    rw [if_neg (by simp [idle])]
    exact freed

/-- An export that is asked for while the slot is free begins as its clerk does. -/
theorem step_opens {event : Event} (asked : event.exportOrder = some order)
    (idle : d.exporting = false) :
    d.step event = { d with exporting := true }.perform order (Clerk.opening d.settings order) :=
  (step_of_exportOrder asked).trans (requestExport_of_idle d order idle)

theorem Tracked.begins (orderly : Orderly settings d) (fair : d.Fair)
    (sound : d.slot.Sound settings.exports.maxRows) {event : Event}
    (asked : event.exportOrder = some order) (idle : d.exporting = false) :
    Tracked settings order [] [Clerk.opening d.settings order] (d.step event) where
  orderly := orderly.moves (step_moves d event)
  fair := fair.step orderly event
  slot := by
    rw [step_of_exportOrder asked]
    exact (requestExport_proceeds (sound.eq_free idle)).slot_eq
  clerk := by
    have free := sound.eq_free idle
    have working : { d with exporting := true }.slot = .working none := by
      have taken : { d with exporting := true }.slot = { d.slot with exporting := true } := rfl
      rw [taken, free]
      rfl
    have waits := @perform_wait order _ _ working
      { next := .query d.settings order 1 0 .total }
    rw [step_opens asked idle, ← orderly.settings]
    unfold Clerk.opening
    rw [waits]
    rfl

theorem Tracked.held {heard : List Hearing} {deeds : List Deed}
    (tracked : Tracked settings order heard deeds e) (busy : e.exporting = true) :
    e.slot.Held settings.exports.maxRows order := by
  have slot := tracked.slot
  rw [if_pos busy] at slot
  exact slot

theorem Tracked.goesOn {heard : List Hearing} {deeds : List Deed}
    (tracked : Tracked settings order heard deeds d) (busy : d.exporting = true)
    (event : Event) :
    Tracked settings order (heard ++ (d.hears event).toList)
      (deeds ++ (d.deed order event).toList) (d.step event) := by
  have orderly := tracked.orderly
  have held := tracked.held busy
  refine ⟨orderly.moves (step_moves d event), tracked.fair.step orderly event, ?_, ?_⟩
  · have same (kept : (d.step event).slot = d.slot) : if (d.step event).exporting then
        (d.step event).slot.Held settings.exports.maxRows order else
        (d.step event).slot = .free := by
      have still : (d.step event).exporting = true := (congrArg Slot.exporting kept).trans busy
      rw [if_pos still, kept]
      exact held
    have stepped := orderly.step_slot (.inr ⟨order, held⟩) event
    split at stepped
    · rw [if_pos busy] at stepped
      exact same (by rw [stepped]; rfl)
    · rcases stepped with quiet | ⟨holder, also, proceeds⟩
      · exact same quiet.slot
      · rw [held.unique also]
        exact proceeds.slot_eq
  · unfold Desk.deed
    cases found : d.hears event with
    | none =>
      rw [orderly.step_wait_of_deaf held found]
      simp only [Option.bind_none, Option.toList_none, List.append_nil]
      exact tracked.clerk
    | some hearing =>
      have answers := (orderly.step_answers tracked.fair held found).wait deeds
      rw [Clerk.attend_append, ← tracked.clerk, ← orderly.settings]
      exact answers.symm

/-- An export of a desk is where its clerk is. -/
theorem Course.tracked {heard : List Hearing} {deeds : List Deed}
    (course : Course order d heard deeds e) (orderly : Orderly settings d) (fair : d.Fair)
    (sound : d.slot.Sound settings.exports.maxRows) : Tracked settings order heard deeds e := by
  induction course with
  | begins asked idle => exact .begins orderly fair sound asked idle
  | goesOn course busy event ih => exact ih.goesOn busy event

theorem Course.of_life {hooked : Bool} {before : List Event} {heard : List Hearing}
    {deeds : List Deed}
    (course : Course order ((ofSettings settings hooked).live before) heard deeds e) :
    Tracked settings order heard deeds e := by
  have orderly := ofSettings_orderly settings hooked
  obtain ⟨lived, sound⟩ := orderly.live_sound (.inl rfl) before
  exact course.tracked lived ((ofSettings_fair settings hooked).live orderly before) sound

/-- An export is at work as long as it waits for something. -/
theorem Tracked.exporting_eq {heard : List Hearing} {deeds : List Deed}
    (tracked : Tracked settings order heard deeds e) : e.exporting = e.wait.isSome := by
  have slot := tracked.slot
  cases busy : e.exporting with
  | false =>
    rw [if_neg (by simp [busy])] at slot
    rw [wait_of_bare (congrArg Slot.tasks slot) (congrArg Slot.savings slot)]
    rfl
  | true =>
    rw [if_pos busy] at slot
    have asks (quest : Quest) (alone : e.slot.tasks = [quest.task order]) :
        true = e.wait.isSome := by
      obtain ⟨call, -, own, waits, -⟩ := call_of_tasks alone
      rw [waits, Call.wait?, own]
      cases quest <;> rfl
    generalize shape : e.slot = s at slot
    cases slot with
    | probing => exact asks .total (congrArg Slot.tasks shape)
    | @fetching run planned => exact asks (.batch run) (congrArg Slot.tasks shape)
    | saving own =>
      rw [wait_of_saving (congrArg Slot.tasks shape) (congrArg Slot.savings shape)]
      rfl

/-- An export that waits for nothing more has left the slot free. -/
theorem Tracked.slot_of_returned {heard : List Hearing} {deeds : List Deed}
    (tracked : Tracked settings order heard deeds e) (returned : e.wait = none) :
    e.slot = .free := by
  have idle : e.exporting = false := by
    rw [tracked.exporting_eq, returned]
    rfl
  have slot := tracked.slot
  rw [if_neg (by simp [idle])] at slot
  exact slot

/-- Courses tell all that a desk does for an export: how it begins, and what it does at each event
until it leaves the slot free. -/
structure Faithful (order : ExportOrder) (d : Desk) : Prop where
  opens : ∀ event : Event, event.exportOrder = some order → d.exporting = false →
    d.step event = { d with exporting := true }.perform order (Clerk.opening d.settings order)
  serves : ∀ heard deeds e, Course order d heard deeds e →
    if e.exporting then ∀ event, Serves order e event else e.slot = .free

theorem faithful (settings : Settings) (hooked : Bool) (before : List Event)
    (order : ExportOrder) : Faithful order ((ofSettings settings hooked).live before) where
  opens := fun _ asked idle => step_opens asked idle
  serves := by
    intro heard deeds e course
    have tracked := course.of_life
    have slot := tracked.slot
    split at slot
    · next busy =>
      rw [if_pos busy]
      exact tracked.orderly.step_serves tracked.fair slot
    · next idle =>
      rw [if_neg idle]
      exact slot

end Desk

end Watchdesk
