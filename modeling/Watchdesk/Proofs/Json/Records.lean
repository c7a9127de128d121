import Watchdesk.Proofs.Json.RoundTrip

/-!
# Records that are printed are read back

A record is read member by member, whatever order they stand in. So an object whose members are
those of the record, each of them once and with a value that its field takes, is read as the record
with these values.
-/

namespace Watchdesk

theorem lookup_of_mem {α : Type} {key : String} {value : α} {ms : List (String × α)}
    (distinct : (ms.map Prod.fst).Nodup) (member : (key, value) ∈ ms) :
    ms.lookup key = some value := by
  obtain ⟨front, back, rfl⟩ := List.append_of_mem member
  rw [List.map_append, List.nodup_append] at distinct
  obtain ⟨-, -, apart⟩ := distinct
  refine List.lookup_eq_some_iff.mpr ⟨front, back, rfl, ?_⟩
  intro m before
  have there : m.1 ∈ front.map Prod.fst := List.mem_map_of_mem before
  exact bne_iff_ne.mpr (apart m.1 there key List.mem_cons_self).symm

/-- Each of different keys keeps its value. -/
theorem Members.lookup_ofList {ms : Members} {key : String} {value : Json}
    (distinct : (ms.map Prod.fst).Nodup) (member : (key, value) ∈ ms) :
    (ofList ms).lookup key = some value := by
  have same := ofList_perm distinct
  exact lookup_of_mem ((same.map Prod.fst).nodup_iff.mpr distinct) (same.mem_iff.mpr member)

namespace Json

theorem membersIntegral_iff {ms : List (String × Json)} :
    membersIntegral ms = true ↔ ∀ m ∈ ms, m.2.integral = true := by
  induction ms with
  | nil => simp [membersIntegral]
  | cons m ms ih =>
    obtain ⟨k, j⟩ := m
    rw [membersIntegral, Bool.and_eq_true_iff, ih, List.forall_mem_cons]

end Json

namespace Decoder

variable {α : Type} {d : Decoder α} {depth : Nat} {o : Outline} {fields : List Field}

/-! ## What was read -/

theorem record_eq_ok {build : Record → Except Refusal α} {x : α}
    (found : record fields build depth o = .ok x) :
    ∃ r : Record, r.depth + 1 = depth ∧ build r = .ok x := by
  cases depth with
  | zero => cases o <;> cases found
  | succ depth =>
    cases o with
    | array os closed =>
      obtain ⟨given, -, told⟩ := bind_eq_ok.mp found
      split_ifs at told
      exact ⟨⟨depth, given⟩, rfl, told⟩
    | object ms closed =>
      obtain ⟨given, -, told⟩ := bind_eq_ok.mp found
      split_ifs at told
      exact ⟨⟨depth, given⟩, rfl, told⟩
    | null => cases found
    | bool b => cases found
    | number n => cases found
    | text raw => cases found
    | broken => cases found

/-- A value that may be missing or `null` was read if it is there. -/
theorem defaulted_optional {r : Record} {name : String} {x : Option α}
    (found : r.defaulted name (optional d) none = .ok x) : ∀ y ∈ x, ∃ o, d r.depth o = .ok y := by
  rintro y rfl
  unfold Record.defaulted at found
  cases given : r.given.lookup name with
  | none =>
    rw [given] at found
    cases found
  | some o =>
    rw [given] at found
    cases o with
    | null => cases found
    | bool _ | number _ | text _ | array _ _ | object _ _ | broken =>
      obtain ⟨z, read, told⟩ := map_eq_ok.mp found
      cases told
      exact ⟨_, read⟩

theorem members_readable {ms : Members} (found : members (depth + 1) o = .ok ms) :
    ms.Sorted ∧ Json.MembersReadable depth ms := by
  cases o with
  | object given closed =>
    obtain ⟨values, read, told⟩ := bind_eq_ok.mp found
    split_ifs at told
    cases told
    exact Json.readable_of_json (.object given true) (depth + 1) (.ofMembers values)
      (bind_eq_ok.mpr ⟨values, read, rfl⟩)
  | null => cases found
  | bool b => cases found
  | number n => cases found
  | text raw => cases found
  | array os closed => cases found
  | broken => cases found

/-! ## What is read back -/

/-- The record has a field with this name, and the field takes this value. -/
def Takes (fields : List Field) (depth : Nat) (m : String × Json) : Prop :=
  ∃ f, fields.find? (fun f => f.name == m.1) = some f ∧ f.check depth m.2.outline = .ok ()

theorem takes_of_ok {name : String} {j : Json} {x : α}
    (found : fields.find? (fun f => f.name == name) = some (field name d))
    (read : d depth j.outline = .ok x) : Takes fields depth (name, j) :=
  ⟨field name d, found, map_eq_ok.mpr ⟨x, read, rfl⟩⟩

theorem givenMembers_memberOutlines {ms : List (String × Json)}
    (takes : ∀ m ∈ ms, Takes fields depth m) (distinct : (ms.map Prod.fst).Nodup)
    (given : List (String × Outline)) (new : ∀ m ∈ ms, given.lookup m.1 = none) :
    givenMembers fields depth given (Json.memberOutlines ms) =
      .ok (given ++ ms.map fun m => (m.1, m.2.outline)) := by
  induction ms generalizing given with
  | nil => simp [Json.memberOutlines, givenMembers]
  | cons m ms ih =>
    obtain ⟨k, j⟩ := m
    obtain ⟨f, found, checked⟩ := takes (k, j) List.mem_cons_self
    obtain ⟨other, rest⟩ := List.nodup_cons.mp distinct
    have later : ∀ m ∈ ms, (given ++ [(k, j.outline)]).lookup m.1 = none := by
      intro m member
      have different : m.1 ≠ k := by
        intro equal
        exact other (List.mem_map.mpr ⟨m, member, equal⟩)
      rw [List.lookup_append, new m (List.mem_cons_of_mem _ member)]
      simp [different]
    have more := ih (fun m member => takes m (List.mem_cons_of_mem _ member)) rest _ later
    have fresh : given.lookup k = none := new (k, j) List.mem_cons_self
    unfold Json.memberOutlines givenMembers
    rw [Outline.rawString_escaped]
    simp only [bind, Except.bind, found, fresh, checked, more]
    simp

/-- An object whose members the fields take is read as the record with the outlines of their
values. -/
theorem record_outline {build : Record → Except Refusal α} {ms : List (String × Json)}
    (takes : ∀ m ∈ ms, Takes fields depth m) (distinct : (ms.map Prod.fst).Nodup) :
    record fields build (depth + 1) (Json.object ms).outline =
      build ⟨depth, ms.map fun m => (m.1, m.2.outline)⟩ := by
  have given := givenMembers_memberOutlines takes distinct [] (by simp)
  simp only [Json.outline, record, bind, Except.bind, given, List.nil_append, if_true]

variable {ms : List (String × Json)} {name : String} {j : Json} {x : α}

theorem lookup_outlines (distinct : (ms.map Prod.fst).Nodup) (member : (name, j) ∈ ms) :
    (ms.map fun m => (m.1, m.2.outline)).lookup name = some j.outline := by
  refine lookup_of_mem ?_ (List.mem_map.mpr ⟨(name, j), member, rfl⟩)
  rw [List.map_map]
  exact distinct

theorem required_outline (distinct : (ms.map Prod.fst).Nodup) (member : (name, j) ∈ ms)
    (read : d depth j.outline = .ok x) :
    Record.required ⟨depth, ms.map fun m => (m.1, m.2.outline)⟩ name d = .ok x := by
  unfold Record.required
  rw [lookup_outlines distinct member]
  exact read

theorem defaulted_outline (distinct : (ms.map Prod.fst).Nodup) (member : (name, j) ∈ ms)
    (read : d depth j.outline = .ok x) (fallback : α) :
    Record.defaulted ⟨depth, ms.map fun m => (m.1, m.2.outline)⟩ name d fallback = .ok x := by
  unfold Record.defaulted
  rw [lookup_outlines distinct member]
  exact read

/-- A name is read back as the value that has it. -/
theorem choice_outline {names : List (String × α)} (named : names.lookup name = some x) :
    choice names depth (Json.string name).outline = .ok x := by
  simp only [Json.outline, choice, bind, Except.bind, Outline.rawString_escaped, Decoder.named,
    named]

theorem optional_of_ok (read : d depth o = .ok x) (proper : o ≠ .null) :
    optional d depth o = .ok (some x) := by
  cases o with
  | null => exact absurd rfl proper
  | bool _ | number _ | text _ | array _ _ | object _ _ | broken =>
    exact map_eq_ok.mpr ⟨x, read, rfl⟩

theorem string_outline (x : Option String) :
    optional string depth (Json.optString x).outline = .ok x := by
  cases x with
  | none => rfl
  | some s =>
    unfold Json.optString Json.outline
    exact optional_of_ok (Outline.rawString_escaped s) Outline.noConfusion

end Decoder

end Watchdesk
