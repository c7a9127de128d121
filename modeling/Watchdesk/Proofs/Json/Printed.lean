import Watchdesk.Json.Decoder
import Watchdesk.Json.Printer
import Watchdesk.Proofs.Text.Numerals

/-!
# Outlines of printed texts

The outline of a text that was printed is known from the value alone, whatever stands behind the
text: each printed part tells where it ends. This is shown of values whose numbers are integers;
the digits of other numbers are a matter of their own.
-/

namespace Watchdesk

/-! ## Quoted texts -/

namespace Outline

open Json (escapedChar)

variable {c : Char} {s rest : List Char}

/-- A control character is written with four hexadecimal digits that stand for it. -/
theorem hex_control {n : Nat} (control : n < 0x20) :
    ∃ a b d e, Text.hex 4 n = [a, b, d, e] ∧
      (isHex a && isHex b && isHex d && isHex e) = true ∧ hexValue [a, b, d, e] = n := by
  have all : ∀ n < 0x20, (Text.hex 4 n).length = 4 ∧ (Text.hex 4 n).all isHex = true ∧
      hexValue (Text.hex 4 n) = n := by decide
  obtain ⟨length, digits, value⟩ := all n control
  match found : Text.hex 4 n with
  | [a, b, d, e] =>
    rw [found] at digits value
    exact ⟨a, b, d, e, rfl, by simpa [Bool.and_assoc] using digits, value⟩
  | [] | [_] | [_, _] | [_, _, _] | _ :: _ :: _ :: _ :: _ :: _ =>
    rw [found] at length
    simp at length

/-- The characters with an escape of one letter, behind that letter. -/
def shortEscapes : List (Char × Char) :=
  [('"', '"'), ('\\', '\\'), ('n', '\n'), ('r', '\r'), ('t', '\t'), ('b', '\x08'), ('f', '\x0c')]

/-- A character is written in one of three ways: with a letter, with a number, or as it is. -/
theorem escapedChar_cases (c : Char) :
    (∃ d, (d, c) ∈ shortEscapes ∧ escapedChar c = ['\\', d]) ∨
    (∃ a b d e, escapedChar c = ['\\', 'u', a, b, d, e] ∧
      (isHex a && isHex b && isHex d && isHex e) = true ∧ hexValue [a, b, d, e] = c.toNat ∧
      c.toNat < 0x20) ∨
    (escapedChar c = [c] ∧ c ≠ '"' ∧ c ≠ '\\' ∧ ¬c.toNat < 0x20) := by
  unfold escapedChar
  by_cases quote : c = '"'
  · exact .inl ⟨'"', by rw [quote]; decide, if_pos quote⟩
  by_cases slash : c = '\\'
  · exact .inl ⟨'\\', by rw [slash]; decide, by rw [if_neg quote, if_pos slash]⟩
  rw [if_neg quote, if_neg slash]
  by_cases newline : c = '\n'
  · exact .inl ⟨'n', by rw [newline]; decide, if_pos newline⟩
  by_cases feed : c = '\r'
  · exact .inl ⟨'r', by rw [feed]; decide, by rw [if_neg newline, if_pos feed]⟩
  rw [if_neg newline, if_neg feed]
  by_cases tab : c = '\t'
  · exact .inl ⟨'t', by rw [tab]; decide, if_pos tab⟩
  by_cases back : c = '\x08'
  · exact .inl ⟨'b', by rw [back]; decide, by rw [if_neg tab, if_pos back]⟩
  rw [if_neg tab, if_neg back]
  by_cases form : c = '\x0c'
  · exact .inl ⟨'f', by rw [form]; decide, if_pos form⟩
  rw [if_neg form]
  by_cases control : c.toNat < 0x20
  · obtain ⟨a, b, d, e, digits, hex, value⟩ := hex_control control
    exact .inr (.inl ⟨a, b, d, e, by rw [if_pos control, digits], hex, value, control⟩)
  · exact .inr (.inr ⟨if_neg control, quote, slash, control⟩)

/-- What stands for a character in a text is read as a part of the text. -/
theorem rawText_escapedChar (c : Char) (s : List Char) : rawText (escapedChar c ++ s) =
    (rawText s).map fun (raw, rest) => (escapedChar c ++ raw, rest) := by
  rcases escapedChar_cases c with ⟨d, short, shape⟩ | ⟨a, b, d, e, shape, hex, -⟩ |
    ⟨shape, quote, slash, control⟩
  · rw [shape]
    simp only [shortEscapes, List.mem_cons, List.not_mem_nil, Prod.mk.injEq, or_false] at short
    rcases short with ⟨rfl, -⟩ | ⟨rfl, -⟩ | ⟨rfl, -⟩ | ⟨rfl, -⟩ | ⟨rfl, -⟩ | ⟨rfl, -⟩ | ⟨rfl, -⟩ <;>
      rfl
  · rw [shape]
    simp only [List.cons_append, List.nil_append, rawText, hex, if_true]
  · rw [shape]
    simp [rawText, slash, control]

/-- What stands for a character in a text stands for that character. -/
theorem unescape_escapedChar (c : Char) (s : List Char) :
    unescape (escapedChar c ++ s) = (unescape s).map (c :: ·) := by
  rcases escapedChar_cases c with ⟨d, short, shape⟩ | ⟨a, b, d, e, shape, -, value, control⟩ |
    ⟨shape, quote, slash, control⟩
  · rw [shape]
    simp only [shortEscapes, List.mem_cons, List.not_mem_nil, Prod.mk.injEq, or_false] at short
    rcases short with ⟨rfl, rfl⟩ | ⟨rfl, rfl⟩ | ⟨rfl, rfl⟩ | ⟨rfl, rfl⟩ | ⟨rfl, rfl⟩ | ⟨rfl, rfl⟩ |
      ⟨rfl, rfl⟩ <;> rfl
  · rw [shape]
    rw [unescape.eq_def]
    simp only [List.cons_append, List.nil_append, value]
    rw [if_neg (by omega), if_neg (by omega), Char.ofNat_toNat]
  · rw [shape]
    simp [unescape, slash]

/-- The characters that stand between the quotes of a text. -/
def escaped (s : String) : List Char := s.toList.flatMap escapedChar

theorem rawText_escaped (s : String) (rest : List Char) :
    rawText (escaped s ++ '"' :: rest) = some (escaped s, rest) := by
  unfold escaped
  induction s.toList with
  | nil => rfl
  | cons c cs ih =>
    rw [List.flatMap_cons, List.append_assoc, rawText_escapedChar, ih]
    rfl

theorem unescape_escaped (s : String) : unescape (escaped s) = some s.toList := by
  unfold escaped
  induction s.toList with
  | nil => rfl
  | cons c cs ih =>
    rw [List.flatMap_cons, unescape_escapedChar, ih]
    rfl

/-- No character is lost in a quoted text. -/
theorem rawString_escaped (s : String) : rawString (escaped s) = .ok s := by
  unfold rawString
  rw [unescape_escaped]
  exact congrArg Except.ok String.ofList_toList

/-! ## Integers -/

/-- No part of a number comes next. -/
def Stops (rest : List Char) : Prop :=
  ∀ c ∈ rest.head?, c.isDigit = false ∧ c ≠ '.' ∧ c ≠ 'e' ∧ c ≠ 'E'

theorem Stops.ends (stops : Stops rest) : Digits.Ends rest := fun c first => (stops c first).1

theorem stops_nil : Stops [] := by
  intro c none
  cases none

theorem stops_cons (other : c.isDigit = false ∧ c ≠ '.' ∧ c ≠ 'e' ∧ c ≠ 'E') (rest : List Char) :
    Stops (c :: rest) := by
  intro d first
  cases first
  exact other

theorem wholePart_ofNat (n : Nat) (ends : Digits.Ends rest) :
    wholePart (Digits.ofNat n ++ rest) = some (Digits.ofNat n, rest) := by
  rcases Nat.eq_zero_or_pos n with rfl | positive
  · cases rest with
    | nil => rfl
    | cons c rest =>
      have other : c.isDigit = false := ends c rfl
      simp [Digits.ofNat, wholePart, other]
  · obtain ⟨c, ds, shape, other⟩ := Digits.ofNat_head positive
    have taken := Digits.split_append (fun _ => Digits.isDigit_of_mem_ofNat (n := n)) ends
    rw [shape] at taken ⊢
    rw [List.cons_append] at taken ⊢
    simp [wholePart, other, taken]

theorem numeral_ofNat (negative : Bool) (n : Nat) (stops : Stops rest) :
    numeral negative (Digits.ofNat n ++ rest) =
      some (⟨negative, Digits.ofNat n, none, none⟩, rest) := by
  have point : fractionPart rest = some (none, rest) := by
    cases rest with
    | nil => rfl
    | cons c rest =>
      have other := (stops c rfl).2.1
      simp [fractionPart, other]
  have exponent : exponentPart rest = some (none, rest) := by
    cases rest with
    | nil => rfl
    | cons c rest =>
      obtain ⟨-, -, small, large⟩ := stops c rfl
      simp [exponentPart, small, large]
  unfold numeral
  rw [wholePart_ofNat n stops.ends]
  simp [point, exponent]

end Outline

/-! ## Values -/

/-- The number is an integer of 64 bits. -/
def Number.isInteger : Number → Bool
  | .natural _ => true
  | .negative _ => true
  | .fraction _ => false

/-- The numeral of an integer. Numbers that are none have other numerals; nothing is said of them
here. -/
def Number.numeral : Number → Numeral
  | .natural n => ⟨false, Digits.ofNat n, none, none⟩
  | .negative n => ⟨true, Digits.ofNat n, none, none⟩
  | .fraction _ => default

namespace Json

mutual

/-- Every number in the value is an integer. -/
def integral : Json → Bool
  | .number n => n.isInteger
  | .array items => allIntegral items
  | .object members => membersIntegral members
  | _ => true

/-- Every number in the items is an integer. -/
def allIntegral : List Json → Bool
  | [] => true
  | j :: js => integral j && allIntegral js

/-- Every number in the members is an integer. -/
def membersIntegral : List (String × Json) → Bool
  | [] => true
  | (_, j) :: ms => integral j && membersIntegral ms

end

mutual

/-- The outline of the text of a value. -/
def outline : Json → Outline
  | .null => .null
  | .bool b => .bool b
  | .number n => .number n.numeral
  | .string s => .text (Outline.escaped s)
  | .array items => .array (outlines items) true
  | .object members => .object (memberOutlines members) true

/-- The outlines of the items of an array. -/
def outlines : List Json → List Outline
  | [] => []
  | j :: js => outline j :: outlines js

/-- The outlines of the members of an object. -/
def memberOutlines : List (String × Json) → List (List Char × Outline)
  | [] => []
  | (k, j) :: ms => (Outline.escaped k, outline j) :: memberOutlines ms

end

open Outline

variable {rest : List Char}

theorem skipSpaces_cons {c : Char} (other : isSpace c = false) (s : List Char) :
    skipSpaces (c :: s) = c :: s :=
  List.dropWhile_cons_of_neg (by simp [other])

theorem isSpace_digit {c : Char} (digit : c.isDigit = true) : isSpace c = false := by
  rw [Bool.eq_false_iff]
  intro space
  simp only [isSpace, Bool.or_eq_true, beq_iff_eq] at space
  rcases space with ((rfl | rfl) | rfl) | rfl <;> cases digit

/-- The digits of a number start with a digit. -/
theorem ofNat_eq_cons (n : Nat) : ∃ c ds, Digits.ofNat n = c :: ds ∧ c.isDigit = true := by
  cases shape : Digits.ofNat n with
  | nil => exact absurd shape (Digits.ofNat_ne_nil n)
  | cons c ds =>
    exact ⟨c, ds, rfl, Digits.isDigit_of_mem_ofNat (n := n) (shape ▸ List.mem_cons_self)⟩

/-- A text starts with a character that is no space and closes nothing. -/
theorem text_head {j : Json} (integral : j.integral = true) :
    ∃ c s, j.text = c :: s ∧ isSpace c = false ∧ c ≠ ']' := by
  cases j with
  | null => exact ⟨_, _, rfl, rfl, by decide⟩
  | bool b => cases b <;> exact ⟨_, _, rfl, rfl, by decide⟩
  | number n =>
    cases n with
    | natural n =>
      obtain ⟨c, ds, shape, digit⟩ := ofNat_eq_cons n
      refine ⟨c, ds, shape, isSpace_digit digit, ?_⟩
      rintro rfl
      cases digit
    | negative n => exact ⟨_, _, rfl, rfl, by decide⟩
    | fraction x => cases integral
  | string s => exact ⟨_, _, rfl, rfl, by decide⟩
  | array items => cases items <;> exact ⟨_, _, rfl, rfl, by decide⟩
  | object members =>
    cases members with
    | nil => exact ⟨_, _, rfl, rfl, by decide⟩
    | cons m ms => exact ⟨_, _, rfl, rfl, by decide⟩

theorem value_digits (fuel n : Nat) (stops : Stops rest) :
    value (fuel + 1) (Digits.ofNat n ++ rest) =
      (.number ⟨false, Digits.ofNat n, none, none⟩, some rest) := by
  have found := numeral_ofNat false n stops
  obtain ⟨c, ds, shape, digit⟩ := ofNat_eq_cons n
  rw [shape, List.cons_append] at found
  rw [shape, List.cons_append]
  unfold value
  rw [skipSpaces_cons (isSpace_digit digit)]
  split
  case h_1 equal => cases equal
  case h_9 equal =>
    cases equal
    rw [found]
    rfl
  -- No other kind of value starts with a digit.
  all_goals
    next equal =>
      cases equal
      cases digit

theorem quotedText_append (s : String) (after rest : List Char) :
    quotedText s ++ after ++ rest = '"' :: (escaped s ++ '"' :: (after ++ rest)) := by
  simp [quotedText, escaped]

theorem value_quoted (fuel : Nat) (s : String) (rest : List Char) :
    value (fuel + 1) (quotedText s ++ rest) = (.text (escaped s), some rest) := by
  have found := rawText_escaped s rest
  rw [← List.append_nil (quotedText s), quotedText_append]
  unfold value
  rw [skipSpaces_cons rfl]
  simp [found, leaf]

theorem value_number (fuel : Nat) {n : Number} (integer : n.isInteger = true)
    (stops : Stops rest) : value (fuel + 1) (n.text ++ rest) = (.number n.numeral, some rest) := by
  cases n with
  | natural n => exact value_digits fuel n stops
  | negative n =>
    have found := numeral_ofNat true n stops
    unfold Number.text
    rw [List.cons_append]
    unfold value
    rw [skipSpaces_cons rfl]
    simp [found, leaf, Number.numeral]
  | fraction x => cases integer

theorem value_bracket (fuel : Nat) {c : Char} {s : List Char} (plain : isSpace c = false)
    (other : c ≠ ']') : value (fuel + 1) ('[' :: c :: s) =
      (.array (items fuel (c :: s)).1 (items fuel (c :: s)).2.isSome, (items fuel (c :: s)).2) := by
  rw [value, skipSpaces_cons rfl]
  simp [skipSpaces_cons plain, other]

theorem value_brace (fuel : Nat) (s : List Char) : value (fuel + 1) ('\x7b' :: '"' :: s) =
    (.object (members fuel ('"' :: s)).1 (members fuel ('"' :: s)).2.isSome,
      (members fuel ('"' :: s)).2) := by
  rw [value, skipSpaces_cons rfl]
  simp [skipSpaces_cons (c := '"') rfl]

theorem items_last {fuel : Nat} {s : List Char} {o : Outline}
    (found : value fuel s = (o, some (']' :: rest))) : items (fuel + 1) s = ([o], some rest) := by
  rw [items, found]
  simp [skipSpaces_cons (c := ']') rfl]

theorem items_more {fuel : Nat} {s t : List Char} {o : Outline} {os : List Outline}
    (found : value fuel s = (o, some (',' :: t))) (tail : items fuel t = (os, some rest)) :
    items (fuel + 1) s = (o :: os, some rest) := by
  rw [items, found]
  simp [skipSpaces_cons (c := ',') rfl, tail]

theorem members_last {fuel : Nat} {s t key : List Char} {o : Outline}
    (name : rawText s = some (key, ':' :: t)) (found : value fuel t = (o, some ('\x7d' :: rest))) :
    members (fuel + 1) ('"' :: s) = ([(key, o)], some rest) := by
  rw [members, skipSpaces_cons rfl]
  simp [name, skipSpaces_cons (c := ':') rfl, found, skipSpaces_cons (c := '\x7d') rfl]

theorem members_more {fuel : Nat} {s t r key : List Char} {o : Outline}
    {ms : List (List Char × Outline)} (name : rawText s = some (key, ':' :: t))
    (found : value fuel t = (o, some (',' :: r))) (tail : members fuel r = (ms, some rest)) :
    members (fuel + 1) ('"' :: s) = ((key, o) :: ms, some rest) := by
  rw [members, skipSpaces_cons rfl]
  simp [name, skipSpaces_cons (c := ':') rfl, found, skipSpaces_cons (c := ',') rfl, tail]

theorem stops_itemsText (xs : List Json) (rest : List Char) : Stops (itemsText xs ++ rest) := by
  cases xs with
  | nil => exact stops_cons (by decide) rest
  | cons x xs => exact stops_cons (by decide) _

theorem stops_membersText (ms : List (String × Json)) (rest : List Char) :
    Stops (membersText ms ++ rest) := by
  cases ms with
  | nil => exact stops_cons (by decide) rest
  | cons m ms => exact stops_cons (by decide) _

mutual

/-- The outline of a printed value, whatever comes behind its text. -/
theorem value_text : ∀ (j : Json) (fuel : Nat) (rest : List Char), j.integral = true →
    2 * j.text.length + 1 ≤ fuel → Stops rest → value fuel (j.text ++ rest) = (j.outline, some rest)
  | _, 0, _, _, enough, _ => absurd enough (Nat.not_succ_le_zero _)
  | .null, _ + 1, _, _, _, _ => rfl
  | .bool true, _ + 1, _, _, _, _ => rfl
  | .bool false, _ + 1, _, _, _, _ => rfl
  | .number _, fuel + 1, _, integral, _, stops => value_number fuel integral stops
  | .string s, fuel + 1, rest, _, _, _ => value_quoted fuel s rest
  | .array [], _ + 1, _, _, _, _ => rfl
  | .array (x :: xs), fuel + 1, rest, integral, enough, _ => by
    unfold text at enough
    rw [List.length_cons] at enough
    have inner := items_text x xs fuel rest integral (by omega)
    unfold Json.integral allIntegral at integral
    obtain ⟨c, s, head, plain, other⟩ := text_head (Bool.and_eq_true_iff.mp integral).1
    unfold text
    rw [head, List.cons_append, List.cons_append] at inner ⊢
    rw [List.cons_append, value_bracket fuel plain other, inner]
    rfl
  | .object [], _ + 1, _, _, _, _ => rfl
  | .object ((k, v) :: ms), fuel + 1, rest, integral, enough, _ => by
    unfold text at enough
    rw [List.length_cons] at enough
    have inner := members_text k v ms fuel rest integral (by omega)
    unfold text
    unfold quotedText at inner ⊢
    rw [List.cons_append, List.cons_append, List.cons_append] at inner ⊢
    rw [List.cons_append, value_brace, inner]
    rfl
termination_by j => sizeOf j

/-- The outlines of printed items up to the end of their array. -/
theorem items_text : ∀ (x : Json) (xs : List Json) (fuel : Nat) (rest : List Char),
    allIntegral (x :: xs) = true → 2 * (x.text ++ itemsText xs).length + 2 ≤ fuel →
      items fuel (x.text ++ itemsText xs ++ rest) = (outlines (x :: xs), some rest)
  | _, _, 0, _, _, enough => absurd enough (Nat.not_succ_le_zero _)
  | x, [], fuel + 1, rest, integral, enough => by
    unfold allIntegral at integral
    rw [List.length_append] at enough
    have head := value_text x fuel _ (Bool.and_eq_true_iff.mp integral).1 (by omega)
      (stops_itemsText [] rest)
    rw [List.append_assoc]
    exact items_last head
  | x, y :: ys, fuel + 1, rest, integral, enough => by
    unfold allIntegral at integral
    obtain ⟨first, more⟩ := Bool.and_eq_true_iff.mp integral
    rw [List.length_append] at enough
    have head := value_text x fuel _ first (by omega) (stops_itemsText (y :: ys) rest)
    unfold itemsText at enough
    rw [List.length_cons] at enough
    rw [List.append_assoc]
    exact items_more head (items_text y ys fuel rest more (by omega))
termination_by x xs => sizeOf (x :: xs)

/-- The outlines of printed members up to the end of their object. -/
theorem members_text : ∀ (k : String) (v : Json) (ms : List (String × Json)) (fuel : Nat)
    (rest : List Char), membersIntegral ((k, v) :: ms) = true →
      2 * (quotedText k ++ ':' :: (v.text ++ membersText ms)).length + 2 ≤ fuel →
      members fuel (quotedText k ++ ':' :: (v.text ++ membersText ms) ++ rest) =
        (memberOutlines ((k, v) :: ms), some rest)
  | _, _, _, 0, _, _, enough => absurd enough (Nat.not_succ_le_zero _)
  | k, v, [], fuel + 1, rest, integral, enough => by
    unfold membersIntegral at integral
    rw [List.length_append, List.length_cons, List.length_append] at enough
    have head := value_text v fuel _ (Bool.and_eq_true_iff.mp integral).1 (by omega)
      (stops_membersText [] rest)
    rw [quotedText_append, List.cons_append, List.append_assoc]
    exact members_last (rawText_escaped k _) head
  | k, v, (l, w) :: ms, fuel + 1, rest, integral, enough => by
    unfold membersIntegral at integral
    obtain ⟨first, more⟩ := Bool.and_eq_true_iff.mp integral
    rw [List.length_append, List.length_cons, List.length_append] at enough
    have head := value_text v fuel _ first (by omega) (stops_membersText ((l, w) :: ms) rest)
    unfold membersText at enough
    rw [List.length_cons] at enough
    rw [quotedText_append, List.cons_append, List.append_assoc]
    exact members_more (rawText_escaped k _) head
      (members_text l w ms fuel rest more (by omega))
termination_by k v ms => sizeOf ((k, v) :: ms)

end

/-- The outline of a whole text that was printed: nothing comes behind it. -/
theorem ofText_text {j : Json} (integral : j.integral = true) :
    Outline.ofText j.text = (j.outline, false) := by
  have found := value_text j (2 * j.text.length + 2) [] integral (by omega) stops_nil
  rw [List.append_nil] at found
  unfold Outline.ofText
  rw [found]
  rfl

end Json

end Watchdesk
