import Watchdesk.Job.State
import Watchdesk.Proofs.Json.Records
import Watchdesk.Proofs.Time.Writing

/-!
# Job states survive their JSON form

Whatever text the state of a job was read from, the text in which the desk passes it on is read as
the same state: its moments to the nanosecond and with their leap seconds, its texts character by
character, and its result at every level.
-/

namespace Watchdesk.JobState

open Decoder

variable {s : JobState} {depth : Nat}

/-! ## What was read -/

theorem timestamp_valid {o : Outline} {t : Timestamp}
    (found : timestamp depth o = .ok t) : t.Valid := by
  obtain ⟨s, -, told⟩ := bind_eq_ok.mp found
  cases read : Timestamp.read s with
  | none =>
    rw [read] at told
    cases told
  | some u =>
    rw [read] at told
    cases told
    exact Timestamp.read_valid read

/-- A state that was read has moments of a clock and a result whose values can be read again by a
reader that may enter `depth` levels below it. -/
structure Told (depth : Nat) (s : JobState) : Prop where
  started : ∀ t ∈ s.startedAt, t.Valid
  completed : ∀ t ∈ s.completedAt, t.Valid
  result : ∀ ms ∈ s.result, ms.Sorted ∧ Json.MembersReadable depth ms

theorem told_of_decoder {o : Outline} (found : decoder (depth + 2) o = .ok s) : s.Told depth := by
  obtain ⟨r, level, built⟩ := record_eq_ok found
  have inside : r.depth = depth + 1 := Nat.succ.inj level
  obtain ⟨status, -, built⟩ := bind_eq_ok.mp built
  obtain ⟨jobId, -, built⟩ := bind_eq_ok.mp built
  obtain ⟨message, -, built⟩ := bind_eq_ok.mp built
  obtain ⟨startedAt, started, built⟩ := bind_eq_ok.mp built
  obtain ⟨completedAt, completed, built⟩ := bind_eq_ok.mp built
  obtain ⟨result, given, built⟩ := bind_eq_ok.mp built
  cases built
  constructor
  · intro t member
    obtain ⟨o, read⟩ := defaulted_optional started t member
    exact timestamp_valid read
  · intro t member
    obtain ⟨o, read⟩ := defaulted_optional completed t member
    exact timestamp_valid read
  · intro ms member
    obtain ⟨o, read⟩ := defaulted_optional given ms member
    rw [inside] at read
    exact members_readable read

/-! ## What is written -/

/-- The members of a state in JSON. -/
def members (s : JobState) : Members :=
  [("status", .string s.status.name), ("job_id", .optString s.jobId),
    ("message", .optString s.message), ("started_at", timeJson s.startedAt),
    ("completed_at", timeJson s.completedAt), ("result", resultJson s.result)]

theorem toJson_eq (s : JobState) : s.toJson = .ofMembers s.members := rfl

theorem members_distinct (s : JobState) : (s.members.map Prod.fst).Nodup := by
  unfold members
  simp

theorem lookup_names (status : JobStatus) : JobStatus.names.lookup status.name = some status := by
  cases status <;> rfl

/-- The years that the RFC 3339 form has room for. -/
def Writable (t : Timestamp) : Prop := 0 ≤ t.date.year ∧ t.date.year ≤ 9999

theorem timestamp_outline {x : Option Timestamp} (valid : ∀ t ∈ x, t.Valid)
    (years : ∀ t ∈ x, Writable t) :
    Decoder.optional timestamp depth (timeJson x).outline = .ok x := by
  cases x with
  | none => rfl
  | some t =>
    have read := Timestamp.read_text (valid t rfl) (years t rfl).1 (years t rfl).2
    unfold timeJson Json.outline
    refine optional_of_ok ?_ Outline.noConfusion
    simp only [timestamp, string, bind, Except.bind, Outline.rawString_escaped, read]

theorem result_outline {x : Option Members}
    (readable : ∀ ms ∈ x, ms.Sorted ∧ Json.MembersReadable depth ms)
    (integers : ∀ ms ∈ x, Json.membersIntegral ms = true) :
    Decoder.optional Decoder.members (depth + 1) (resultJson x).outline = .ok x := by
  cases x with
  | none => rfl
  | some ms =>
    obtain ⟨sorted, values⟩ := readable ms rfl
    have read := Json.jsonMembers_memberOutlines ms depth values (integers ms rfl)
    unfold resultJson Json.outline
    refine optional_of_ok ?_ Outline.noConfusion
    simp only [Decoder.members, bind, Except.bind, read, sorted.ofList_eq, if_true]

/-- The state is read from its members in whatever order they stand. -/
theorem decoder_outline {order : Members} (told : s.Told depth)
    (years : ∀ t, t ∈ s.startedAt ∨ t ∈ s.completedAt → Writable t)
    (integers : ∀ ms ∈ s.result, Json.membersIntegral ms = true) (same : order.Perm s.members) :
    decoder (depth + 2) (Json.object order).outline = .ok s := by
  have status : choice JobStatus.names (depth + 1) (Json.string s.status.name).outline =
      .ok s.status := choice_outline (lookup_names s.status)
  have jobId : Decoder.optional string (depth + 1) (Json.optString s.jobId).outline =
      .ok s.jobId := string_outline s.jobId
  have message : Decoder.optional string (depth + 1) (Json.optString s.message).outline =
      .ok s.message := string_outline s.message
  have started : Decoder.optional timestamp (depth + 1) (timeJson s.startedAt).outline =
      .ok s.startedAt := timestamp_outline told.started fun t given => years t (.inl given)
  have completed : Decoder.optional timestamp (depth + 1) (timeJson s.completedAt).outline =
      .ok s.completedAt := timestamp_outline told.completed fun t given => years t (.inr given)
  have result := result_outline told.result integers
  have distinct : (order.map Prod.fst).Nodup :=
    (same.map Prod.fst).nodup_iff.mpr s.members_distinct
  have there {m : String × Json} (member : m ∈ s.members) : m ∈ order := same.mem_iff.mpr member
  unfold decoder
  refine (record_outline ?_ distinct).trans ?_
  · intro m member
    have given := same.mem_iff.mp member
    simp only [members, List.mem_cons, List.not_mem_nil, or_false] at given
    rcases given with rfl | rfl | rfl | rfl | rfl | rfl
    · exact takes_of_ok rfl status
    · exact takes_of_ok rfl jobId
    · exact takes_of_ok rfl message
    · exact takes_of_ok rfl started
    · exact takes_of_ok rfl completed
    · exact takes_of_ok rfl result
  · rw [required_outline distinct (there (by simp [members])) status,
      defaulted_outline distinct (there (by simp [members])) jobId,
      defaulted_outline distinct (there (by simp [members])) message,
      defaulted_outline distinct (there (by simp [members])) started,
      defaulted_outline distinct (there (by simp [members])) completed,
      defaulted_outline distinct (there (by simp [members])) result]
    rfl

theorem integral_members (integers : ∀ ms ∈ s.result, Json.membersIntegral ms = true) :
    Json.membersIntegral s.members = true := by
  rw [Json.membersIntegral_iff]
  intro m member
  simp only [members, List.mem_cons, List.not_mem_nil, or_false] at member
  rcases member with rfl | rfl | rfl | rfl | rfl | rfl
  · rfl
  · cases s.jobId <;> rfl
  · cases s.message <;> rfl
  · cases s.startedAt <;> rfl
  · cases s.completedAt <;> rfl
  · cases found : s.result with
    | none => rfl
    | some ms => exact integers ms found

/-- A state of the job survives its JSON form. Whatever text it was read from, if its moments lie in
the years that RFC 3339 can write and the numbers of its result are integers of 64 bits, then the
object that the desk shows as its job is read as that state, in whatever order the members are
written. -/
theorem read_written {text : String} {s : JobState} (read : decoder.read text = .ok s)
    (years : ∀ t, t ∈ s.startedAt ∨ t ∈ s.completedAt → Writable t)
    (integers : ∀ ms ∈ s.result, Json.membersIntegral ms = true) (failed : Bool) :
    ∃ shown : Members, s.toJson = .object shown ∧
      (JobSnapshot.toJson ⟨some s, failed⟩).get? "job" = some (.object shown) ∧
      ∀ order : Members, order.Perm shown → decoder.read (Json.object order).compact = .ok s := by
  have told : s.Told 125 := told_of_decoder (read_eq_ok read)
  refine ⟨.ofList s.members, s.toJson_eq, ?_, ?_⟩
  · exact Members.lookup_ofList (by simp) List.mem_cons_self
  · intro order same
    have alike := same.trans (Members.ofList_perm s.members_distinct)
    have whole : (Json.object order).integral = true := by
      refine Json.membersIntegral_iff.mpr ?_
      intro m member
      exact Json.membersIntegral_iff.mp (integral_members integers) m (alike.mem_iff.mp member)
    rw [read_compact decoder whole]
    exact decoder_outline told years integers alike

/-- A job that began in a leap second and ended in the new year on a clock nine hours ahead, with a
message in need of escapes and a nested result. -/
theorem read_written_over_new_year :
    let text := "\x7b\"status\":\"completed\",\"job_id\":null," ++
      "\"message\":\"say \\\"hi\\\"\\u0007\"," ++
      "\"started_at\":\"2016-12-31T23:59:60.5\",\"completed_at\":\"2017-01-01T09:05:00+09:00\"," ++
      "\"result\":\x7b\"ids\":[-1,\x7b\"b\":null,\"a\":true\x7d],\"count\":42\x7d\x7d"
    ∃ s, decoder.read text = .ok s ∧ s.startedAt = some ⟨⟨2016, 12, 31⟩, 86399, 1500000000⟩ ∧
      s.completedAt = some ⟨⟨2017, 1, 1⟩, 300, 0⟩ ∧ decoder.read s.toJson.compact = .ok s := by
  intro text
  have facts : (decoder.read text).toOption.map (fun s => (s.startedAt, s.completedAt,
      s.result.all (fun ms => Json.membersIntegral ms))) = some
        (some ⟨⟨2016, 12, 31⟩, 86399, 1500000000⟩, some ⟨⟨2017, 1, 1⟩, 300, 0⟩, true) := by
    decide +kernel
  cases read : decoder.read text with
  | error e =>
    rw [read] at facts
    cases facts
  | ok s =>
    rw [read] at facts
    simp only [Except.toOption, Option.map_some, Option.some.injEq, Prod.mk.injEq] at facts
    obtain ⟨started, completed, integral⟩ := facts
    have years : ∀ t, t ∈ s.startedAt ∨ t ∈ s.completedAt → Writable t := by
      rw [started, completed]
      rintro t (⟨⟨⟩⟩ | ⟨⟨⟩⟩)
      · exact ⟨by decide, by decide⟩
      · exact ⟨by decide, by decide⟩
    have integers : ∀ ms ∈ s.result, Json.membersIntegral ms = true := by
      intro ms member
      rw [Option.mem_def.mp member] at integral
      exact integral
    obtain ⟨shown, shape, -, again⟩ := read_written read years integers false
    exact ⟨s, rfl, started, completed, by rw [shape]; exact again shown (List.Perm.refl _)⟩

end Watchdesk.JobState
