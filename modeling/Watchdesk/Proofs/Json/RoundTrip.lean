import Watchdesk.Proofs.Json.Keys
import Watchdesk.Proofs.Json.Printed

/-!
# Values that are printed are read back

A value that was read has numbers of 64 bits, members in the order of their keys, and no more levels
than a reader enters. Such a value, if its numbers are integers, is read back from its printed text
as it was, with every character of its texts and every level.
-/

namespace Watchdesk

theorem bind_eq_ok {ε α β : Type} {x : Except ε α} {f : α → Except ε β} {b : β} :
    (x >>= f) = .ok b ↔ ∃ a, x = .ok a ∧ f a = .ok b := by
  cases x with
  | ok a => simp [bind, Except.bind]
  | error e => simp [bind, Except.bind]

theorem map_eq_ok {ε α β : Type} {x : Except ε α} {f : α → β} {b : β} :
    x.map f = .ok b ↔ ∃ a, x = .ok a ∧ f a = b := by
  cases x with
  | ok a => simp [Except.map]
  | error e => simp [Except.map]

/-! ## What can be read -/

/-- The number has no more than 64 bits, and minus zero is no integer. -/
def Number.Bounded : Number → Prop
  | .natural n => n < 2 ^ 64
  | .negative n => 0 < n ∧ n ≤ 2 ^ 63
  | .fraction _ => True

theorem Numeral.number_bounded {n : Numeral} {v : Number} (found : n.number = some v) :
    v.Bounded := by
  unfold Numeral.number at found
  split at found
  · dsimp only at found
    split_ifs at found with natural negative
    · cases found
      simp only [Bool.and_eq_true, decide_eq_true_eq] at natural
      exact natural.2
    · cases found
      simp only [Bool.and_eq_true, decide_eq_true_eq] at negative
      exact ⟨negative.1.2, negative.2⟩
    · obtain ⟨x, -, rfl⟩ := Option.map_eq_some_iff.mp found
      trivial
  · obtain ⟨x, -, rfl⟩ := Option.map_eq_some_iff.mp found
    trivial

/-- An integer is read back from its digits. -/
theorem Number.number_numeral {n : Number} (bounded : n.Bounded) (integer : n.isInteger = true) :
    n.numeral.number = some n := by
  cases n with
  | natural n =>
    have short : n < Numeral.bound := bounded
    simp [Number.numeral, Numeral.number, short]
  | negative n =>
    obtain ⟨positive, short⟩ := bounded
    simp [Number.numeral, Numeral.number, positive, short]
  | fraction x => cases integer

namespace Json

mutual

/-- A reader that may still enter `depth` levels can read this value out of some text. -/
def Readable : Nat → Json → Prop
  | _, .number n => n.Bounded
  | 0, .array _ => False
  | depth + 1, .array items => AllReadable depth items
  | 0, .object _ => False
  | depth + 1, .object members => Members.Sorted members ∧ MembersReadable depth members
  | _, _ => True

/-- Every item can be read. -/
def AllReadable : Nat → List Json → Prop
  | _, [] => True
  | depth, j :: js => Readable depth j ∧ AllReadable depth js

/-- The value of every member can be read. -/
def MembersReadable : Nat → List (String × Json) → Prop
  | _, [] => True
  | depth, (_, j) :: ms => Readable depth j ∧ MembersReadable depth ms

end

theorem membersReadable_iff {depth : Nat} {ms : List (String × Json)} :
    MembersReadable depth ms ↔ ∀ m ∈ ms, Readable depth m.2 := by
  induction ms with
  | nil => simp [MembersReadable]
  | cons m ms ih =>
    obtain ⟨k, j⟩ := m
    rw [MembersReadable, ih, List.forall_mem_cons]

mutual

/-- What was read can be read. -/
theorem readable_of_json : ∀ (o : Outline) (depth : Nat) (j : Json),
    Outline.json depth o = .ok j → Readable depth j
  | .null, _, _, found => by
    cases found
    trivial
  | .bool _, _, _, found => by
    cases found
    trivial
  | .number n, depth, j, found => by
    unfold Outline.json at found
    cases number : n.number with
    | none =>
      rw [number] at found
      cases found
    | some v =>
      rw [number] at found
      cases found
      exact Numeral.number_bounded number
  | .text raw, depth, j, found => by
    obtain ⟨s, -, rfl⟩ := map_eq_ok.mp found
    trivial
  | .array _ _, 0, _, found => by cases found
  | .array items closed, depth + 1, j, found => by
    obtain ⟨values, read, told⟩ := bind_eq_ok.mp found
    split_ifs at told
    cases told
    exact allReadable_of_json items depth values read
  | .object _ _, 0, _, found => by cases found
  | .object members closed, depth + 1, j, found => by
    obtain ⟨values, read, told⟩ := bind_eq_ok.mp found
    split_ifs at told
    cases told
    have each := membersReadable_iff.mp (membersReadable_of_json members depth values read)
    exact ⟨Members.ofList_sorted values,
      membersReadable_iff.mpr fun m member => each m (Members.mem_ofList member)⟩
  | .broken, _, _, found => by cases found

theorem allReadable_of_json : ∀ (os : List Outline) (depth : Nat) (js : List Json),
    Outline.jsonItems depth os = .ok js → AllReadable depth js
  | [], _, _, found => by
    cases found
    trivial
  | o :: os, depth, js, found => by
    obtain ⟨v, first, more⟩ := bind_eq_ok.mp found
    obtain ⟨vs, rest, told⟩ := bind_eq_ok.mp more
    cases told
    exact ⟨readable_of_json o depth v first, allReadable_of_json os depth vs rest⟩

theorem membersReadable_of_json : ∀ (os : List (List Char × Outline)) (depth : Nat)
    (ms : List (String × Json)), Outline.jsonMembers depth os = .ok ms → MembersReadable depth ms
  | [], _, _, found => by
    cases found
    trivial
  | (raw, o) :: os, depth, ms, found => by
    obtain ⟨key, -, given⟩ := bind_eq_ok.mp found
    obtain ⟨v, first, more⟩ := bind_eq_ok.mp given
    obtain ⟨vs, rest, told⟩ := bind_eq_ok.mp more
    cases told
    exact ⟨readable_of_json o depth v first, membersReadable_of_json os depth vs rest⟩

end

/-! ## What is read back -/

mutual

/-- A value is read back from the outline of its text. -/
theorem json_outline : ∀ (j : Json) (depth : Nat), Readable depth j → j.integral = true →
    Outline.json depth j.outline = .ok j
  | .null, _, _, _ => rfl
  | .bool _, _, _, _ => rfl
  | .number n, depth, readable, integral => by
    have number := Number.number_numeral readable integral
    unfold outline Outline.json
    rw [number]
  | .string s, depth, _, _ => by
    unfold outline Outline.json
    rw [Outline.rawString_escaped]
    rfl
  | .array _, 0, readable, _ => readable.elim
  | .array items, depth + 1, readable, integral => by
    have read := jsonItems_outlines items depth readable integral
    unfold outline Outline.json
    rw [read]
    rfl
  | .object _, 0, readable, _ => readable.elim
  | .object members, depth + 1, readable, integral => by
    have read := jsonMembers_memberOutlines members depth readable.2 integral
    unfold outline Outline.json
    rw [read]
    exact congrArg (fun ms => Except.ok (Json.object ms)) readable.1.ofList_eq

theorem jsonItems_outlines : ∀ (js : List Json) (depth : Nat), AllReadable depth js →
    allIntegral js = true → Outline.jsonItems depth (outlines js) = .ok js
  | [], _, _, _ => rfl
  | j :: js, depth, readable, integral => by
    obtain ⟨first, more⟩ := Bool.and_eq_true_iff.mp integral
    unfold outlines Outline.jsonItems
    rw [json_outline j depth readable.1 first, jsonItems_outlines js depth readable.2 more]
    rfl

/-- Members are read back from the outlines of their texts. -/
theorem jsonMembers_memberOutlines : ∀ (ms : List (String × Json)) (depth : Nat),
    MembersReadable depth ms → membersIntegral ms = true →
      Outline.jsonMembers depth (memberOutlines ms) = .ok ms
  | [], _, _, _ => rfl
  | (k, j) :: ms, depth, readable, integral => by
    obtain ⟨first, more⟩ := Bool.and_eq_true_iff.mp integral
    unfold memberOutlines Outline.jsonMembers
    rw [Outline.rawString_escaped, json_outline j depth readable.1 first,
      jsonMembers_memberOutlines ms depth readable.2 more]
    rfl

end

end Json

namespace Decoder

variable {α : Type} {d : Decoder α}

theorem read_eq_ok {text : String} {x : α} (found : d.read text = .ok x) :
    d depthLimit (Outline.ofText text.toList).1 = .ok x := by
  unfold read at found
  cases shape : Outline.ofText text.toList with
  | mk o more =>
    rw [shape] at found
    obtain ⟨y, given, told⟩ := bind_eq_ok.mp found
    split_ifs at told
    cases told
    exact given

/-- What a decoder makes of a printed text is what it makes of the outline of the value. -/
theorem read_compact (d : Decoder α) {j : Json} (integral : j.integral = true) :
    d.read j.compact = d depthLimit j.outline := by
  unfold read Json.compact
  rw [String.toList_ofList, Json.ofText_text integral]
  dsimp only
  cases d depthLimit j.outline with
  | ok x => rfl
  | error e => rfl

end Decoder

/-- A value with integers that was read out of any text is read again out of its printed text. -/
theorem Json.parse_compact {text : String} {j : Json} (found : Json.parse text = .ok j)
    (integral : j.integral = true) : Json.parse j.compact = .ok j := by
  have readable := readable_of_json _ depthLimit j (Decoder.read_eq_ok found)
  unfold Json.parse
  rw [Decoder.read_compact Decoder.json integral]
  exact json_outline j depthLimit readable integral

end Watchdesk
