import Mathlib.Data.List.TakeDrop
import Watchdesk.Json.Decoder
import Watchdesk.Text.Digest
import Watchdesk.Text.Digits

/-!
# Digits in a text

A run of digits in a text ends where the text goes on with something else. So digits that were
written are taken off the text again, as long as no further digit follows them. Hexadecimal digits
have the value of the number that they were written for.
-/

namespace Watchdesk

namespace Digits

/-- No digit comes next. -/
def Ends (rest : List Char) : Prop := ∀ c ∈ rest.head?, c.isDigit = false

variable {ds rest : List Char} {width n : Nat}

theorem ends_nil : Ends [] := by
  intro c none
  cases none

theorem ends_cons {c : Char} (other : c.isDigit = false) (rest : List Char) :
    Ends (c :: rest) := by
  intro d first
  cases first
  exact other

theorem Ends.dropWhile (ends : Ends rest) : rest.dropWhile Char.isDigit = rest := by
  cases rest with
  | nil => rfl
  | cons c rest =>
    have other : c.isDigit = false := ends c rfl
    exact List.dropWhile_cons_of_neg (by simp [other])

/-! ## Digits that are written -/

theorem toNat_of_isDigit {c : Char} (digit : c.isDigit = true) : 48 ≤ c.toNat ∧ c.toNat ≤ 57 := by
  simp only [Char.isDigit, Bool.and_eq_true, decide_eq_true_eq] at digit
  exact ⟨UInt32.le_iff_toNat_le.mp digit.1, UInt32.le_iff_toNat_le.mp digit.2⟩

theorem isDigit_of_mem_ofNat {c : Char} (member : c ∈ ofNat n) : c.isDigit = true :=
  Nat.isDigit_of_mem_toDigits (by decide) (by decide) member

theorem ofNat_ne_nil (n : Nat) : ofNat n ≠ [] := Nat.toDigits_ne_nil

/-- A number is written without leading zeros. -/
theorem ofNat_head (positive : 0 < n) : ∃ c ds, ofNat n = c :: ds ∧ c ≠ '0' := by
  unfold ofNat
  induction n using Nat.strongRecOn with
  | ind n ih =>
    rw [Nat.toDigits_eq_if (by decide)]
    split
    next digit =>
      have all : ∀ n < 10, 0 < n → Nat.digitChar n ≠ '0' := by decide
      exact ⟨n.digitChar, [], rfl, all n digit positive⟩
    next large =>
      obtain ⟨c, ds, front, other⟩ := ih (n / 10) (by omega) (by omega)
      exact ⟨c, ds ++ [(n % 10).digitChar], by rw [front, List.cons_append], other⟩

theorem isDigit_of_mem_padded {c : Char} (member : c ∈ padded width n) : c.isDigit = true := by
  unfold padded at member
  rcases List.mem_append.mp member with zero | digit
  · rw [(List.mem_replicate.mp zero).2]
    rfl
  · exact isDigit_of_mem_ofNat digit

theorem length_padded (positive : 0 < width) (short : n < 10 ^ width) :
    (padded width n).length = width := by
  have fits : (ofNat n).length ≤ width :=
    (Nat.length_toDigits_le_iff (by decide) positive).mpr short
  unfold padded
  rw [List.length_append, List.length_replicate]
  omega

@[simp] theorem value_padded (width n : Nat) : value (padded width n) = n := by
  unfold padded value
  rw [Nat.ofDigitChars_append, Nat.ofDigitChars_replicate_zero, Nat.mul_zero]
  exact value_ofNat n

/-- A run of digits has a value below the power of ten with as many zeros. -/
theorem value_lt (digits : ∀ c ∈ ds, c.isDigit = true) :
    value ds < 10 ^ ds.length := by
  induction ds with
  | nil => exact Nat.one_pos
  | cons c ds ih =>
    have rest := ih fun d member => digits d (List.mem_cons_of_mem c member)
    have digit := toNat_of_isDigit (digits c List.mem_cons_self)
    have zero : '0'.toNat = 48 := rfl
    have bound : c.toNat - '0'.toNat ≤ 9 := by omega
    have scaled := Nat.mul_le_mul_left (10 ^ ds.length) bound
    unfold value at rest ⊢
    rw [Nat.ofDigitChars_cons, Nat.ofDigitChars_eq_ofDigitChars_zero, Nat.mul_zero, Nat.zero_add,
      List.length_cons, Nat.pow_succ]
    omega

/-! ## Digits that are taken off a text -/

theorem split_append (digits : ∀ c ∈ ds, c.isDigit = true) (ends : Ends rest) :
    split (ds ++ rest) = (ds, rest) := by
  unfold split
  rw [List.span_eq_takeWhile_dropWhile, List.takeWhile_append_of_pos digits,
    List.dropWhile_append_of_pos digits, ends.dropWhile]
  cases rest with
  | nil => simp
  | cons c rest =>
    have other : c.isDigit = false := ends c rfl
    simp [other]

theorem splitAtMost_append {most : Nat} (digits : ∀ c ∈ ds, c.isDigit = true)
    (within : ds.length ≤ most) (ends : ds.length < most → Ends rest) :
    splitAtMost most (ds ++ rest) = (ds, rest) := by
  induction ds generalizing most with
  | nil =>
    cases most with
    | zero => rfl
    | succ most =>
      cases rest with
      | nil => rfl
      | cons c rest =>
        have other : c.isDigit = false := ends (Nat.succ_pos most) c rfl
        simp [splitAtMost, other]
  | cons d ds ih =>
    cases most with
    | zero => cases within
    | succ most =>
      have digit := digits d List.mem_cons_self
      have more := ih (fun c member => digits c (List.mem_cons_of_mem d member))
        (Nat.le_of_succ_le_succ within) fun few => ends (Nat.succ_lt_succ few)
      simp [splitAtMost, digit, more]

/-- What is taken off a text is as many digits as there are, up to the bound. -/
theorem splitAtMost_eq {most : Nat} {s : List Char} (taken : splitAtMost most s = (ds, rest)) :
    s = ds ++ rest ∧ (∀ c ∈ ds, c.isDigit = true) ∧ ds.length ≤ most ∧
      (ds.length < most → Ends rest) := by
  induction most generalizing s ds with
  | zero =>
    cases taken
    exact ⟨rfl, by simp, Nat.le_refl 0, fun few => absurd few (Nat.not_lt_zero _)⟩
  | succ most ih =>
    cases s with
    | nil =>
      cases taken
      exact ⟨rfl, by simp, Nat.zero_le _, fun _ => ends_nil⟩
    | cons c s =>
      by_cases digit : c.isDigit = true
      · cases more : splitAtMost most s with
        | mk front back =>
          simp only [splitAtMost, digit, if_true, more] at taken
          cases taken
          obtain ⟨whole, digits, within, ends⟩ := ih more
          refine ⟨by rw [whole, List.cons_append], ?_, Nat.succ_le_succ within, ?_⟩
          · intro d member
            rcases List.mem_cons.mp member with rfl | later
            · exact digit
            · exact digits d later
          · intro few
            exact ends (Nat.lt_of_succ_lt_succ few)
      · have other : c.isDigit = false := Bool.eq_false_iff.mpr digit
        simp only [splitAtMost, other, Bool.false_eq_true, if_false] at taken
        cases taken
        exact ⟨rfl, by simp, Nat.zero_le _, fun _ => ends_cons other s⟩

end Digits

namespace Text

theorem hexValue_append_singleton (digits : List Char) (c : Char) :
    Outline.hexValue (digits ++ [c]) = 16 * Outline.hexValue digits + Outline.hexValue [c] := by
  simp [Outline.hexValue]

theorem hexValue_digitChar {n : Nat} (digit : n < 16) :
    Outline.hexValue [Nat.digitChar n] = n := by
  have all : ∀ n < 16, Outline.hexValue [Nat.digitChar n] = n := by decide
  exact all n digit

theorem hexValue_toDigits (n : Nat) : Outline.hexValue (Nat.toDigits 16 n) = n := by
  induction n using Nat.strongRecOn with
  | ind n ih =>
    rw [Nat.toDigits_eq_if (by decide)]
    split
    · next digit => exact hexValue_digitChar digit
    · next large =>
      have smaller : n / 16 < n := Nat.div_lt_self (by omega) (by decide)
      rw [hexValue_append_singleton, ih _ smaller, hexValue_digitChar (Nat.mod_lt n (by decide))]
      exact Nat.div_add_mod n 16

/-- Leading zeros change no value. -/
theorem hexValue_hex (width n : Nat) : Outline.hexValue (hex width n) = n := by
  have zeros (count : Nat) (digits : List Char) :
      Outline.hexValue (List.replicate count '0' ++ digits) = Outline.hexValue digits := by
    induction count with
    | zero => rfl
    | succ count ih => exact ih
  unfold hex
  rw [zeros, hexValue_toDigits]

end Text

end Watchdesk
