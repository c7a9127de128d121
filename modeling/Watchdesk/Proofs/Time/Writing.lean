import Watchdesk.Proofs.Time.Forms

/-!
# Timestamps that are written are read back

The RFC 3339 form has room for the years from 0 to 9999. A moment in one of them is read back from
its text as it was, with all of its nanoseconds and with a leap second, and whatever was read from a
text is a moment that can be written.
-/

namespace Watchdesk.Timestamp

open Digits

variable {s rest : List Char} {t : Timestamp} {width n : Nat}

/-! ## What was read -/

theorem ofOffsetForm_valid (found : ofOffsetForm s = some t) : t.Valid := by
  obtain ⟨year, month, day, hour, minute, second, nano, ahead, u, mark, s₁, s₂, s₃, s₄, s₅, s₆, s₇,
    -, -, -, -, -, -, nanos, shift, parts, rfl⟩ := ofOffsetForm_eq_some found
  have valid : u.Valid :=
    ofParts?_valid (fun d given => (Date.ofParts?_eq_some.mp given).2.1) (fraction_lt nanos) parts
  obtain ⟨low, high, minutes⟩ := offset_bounds shift
  exact behind_valid valid low high minutes

/-- Whatever is read is a moment that a clock can show. -/
theorem read_valid {text : String} (found : read text = some t) : t.Valid := by
  unfold read at found
  cases zoned : ofOffsetForm text.toList with
  | some u =>
    rw [zoned] at found
    cases found
    exact ofOffsetForm_valid zoned
  | none =>
    rw [zoned] at found
    exact ofNaiveForm_valid found

/-! ## What is written -/

theorem fraction_padded (positive : 0 < width) (within : width ≤ 9) (short : n < 10 ^ width)
    (ends : Ends rest) : fraction ('.' :: (padded width n ++ rest)) =
      some (n * 10 ^ (9 - width), rest) := by
  have length := length_padded positive short
  have proper : padded width n ≠ [] := List.ne_nil_of_length_pos (by omega)
  rw [fraction_point proper (fun _ member => isDigit_of_mem_padded member) ends,
    List.take_of_length_le (by omega), value_padded, length]

/-- However many digits a fraction is written with, no nanosecond is lost. -/
theorem fraction_fractionText (short : n < secondNanos) (ends : Ends rest)
    (plain : rest.head? ≠ some '.') : fraction (fractionText n ++ rest) = some (n, rest) := by
  unfold secondNanos at short
  unfold fractionText
  by_cases whole : n = 0
  · rw [if_pos whole, whole]
    exact fraction_plain plain
  rw [if_neg whole]
  by_cases millis : n % 1000000 = 0
  · rw [if_pos millis, List.cons_append, fraction_padded (by decide) (by decide) (by omega) ends]
    have same : n / 1000000 * 10 ^ (9 - 3) = n := by omega
    rw [same]
  rw [if_neg millis]
  by_cases micros : n % 1000 = 0
  · rw [if_pos micros, List.cons_append, fraction_padded (by decide) (by decide) (by omega) ends]
    have same : n / 1000 * 10 ^ (9 - 6) = n := by omega
    rw [same]
  · rw [if_neg micros, List.cons_append, fraction_padded (by decide) (by decide) short ends]
    have same : n * 10 ^ (9 - 9) = n := by omega
    rw [same]

/-- The parts of a moment make up that moment. -/
theorem ofParts?_parts (valid : t.Valid) :
    ofParts? (some t.date) (t.second / 3600) (t.second / 60 % 60)
      (t.second % 60 + t.nano / secondNanos) (t.nano % secondNanos) = some t := by
  obtain ⟨-, second, nano, leap⟩ := valid
  obtain ⟨date, clock, nanos⟩ := t
  unfold daySeconds at second
  unfold secondNanos at nano leap
  unfold ofParts? secondNanos
  dsimp only at *
  rw [Option.bind_eq_bind, Option.bind_some, if_pos (by omega)]
  by_cases long : 1000000000 ≤ nanos
  · have last := leap long
    have sixty : clock % 60 + nanos / 1000000000 = 60 := by omega
    have clock' : clock / 3600 * 3600 + clock / 60 % 60 * 60 + 59 = clock := by omega
    have nanos' : nanos % 1000000000 + 1000000000 = nanos := by omega
    rw [if_pos sixty, clock', nanos']
  · have below : clock % 60 + nanos / 1000000000 ≠ 60 := by omega
    have clock' : clock / 3600 * 3600 + clock / 60 % 60 * 60 +
        (clock % 60 + nanos / 1000000000) = clock := by omega
    have nanos' : nanos % 1000000000 = nanos := by omega
    rw [if_neg below, clock', nanos']

theorem ofOffsetForm_text (valid : t.Valid) (low : 0 ≤ t.date.year) (high : t.date.year ≤ 9999) :
    ofOffsetForm t.text = some t := by
  obtain ⟨month, months, day, days⟩ := valid.date
  have second := valid.second
  have nano := valid.nano
  have many := Date.daysIn_le t.date.year t.date.month
  unfold daySeconds at second
  have seconds : t.second % 60 + t.nano / secondNanos < 100 := by
    unfold secondNanos at nano ⊢
    omega
  have shape : t.text = padded 4 t.date.year.toNat ++ '-' :: (padded 2 t.date.month ++
      '-' :: (padded 2 t.date.day ++ 'T' :: (padded 2 (t.second / 3600) ++
      ':' :: (padded 2 (t.second / 60 % 60) ++ ':' :: (padded 2
        (t.second % 60 + t.nano / secondNanos) ++ (fractionText (t.nano % secondNanos) ++
      ['Z'])))))) := by
    simp only [text, yearText, if_pos (And.intro low high), List.append_assoc, List.cons_append]
  have year (rest : List Char) := fixed_padded (by decide)
    (show t.date.year.toNat < 10 ^ 4 by omega) rest
  have two {n : Nat} (short : n < 100) (rest : List Char) :=
    fixed_padded Nat.two_pos (n := n) short rest
  have fraction := fraction_fractionText (Nat.mod_lt t.nano (by decide : 0 < secondNanos))
    (ends_cons rfl []) (by decide : ['Z'].head? ≠ some '.')
  have date : Date.ofParts? t.date.year.toNat t.date.month t.date.day = some t.date := by
    rw [Int.toNat_of_nonneg low]
    exact Date.ofParts?_eq_some.mpr ⟨rfl, valid.date, by unfold Date.firstYear; omega,
      by unfold Date.lastYear; omega⟩
  rw [shape]
  refine Option.bind_eq_some_iff.mpr ⟨_, year _, ?_⟩
  refine Option.bind_eq_some_iff.mpr ⟨_, expect_eq_some.mpr rfl, ?_⟩
  refine Option.bind_eq_some_iff.mpr ⟨_, two (by omega) _, ?_⟩
  refine Option.bind_eq_some_iff.mpr ⟨_, expect_eq_some.mpr rfl, ?_⟩
  refine Option.bind_eq_some_iff.mpr ⟨_, two (by omega) _, ?_⟩
  refine Option.bind_eq_some_iff.mpr ⟨_, rfl, ?_⟩
  refine Option.bind_eq_some_iff.mpr ⟨_, two (by omega) _, ?_⟩
  refine Option.bind_eq_some_iff.mpr ⟨_, expect_eq_some.mpr rfl, ?_⟩
  refine Option.bind_eq_some_iff.mpr ⟨_, two (by omega) _, ?_⟩
  refine Option.bind_eq_some_iff.mpr ⟨_, expect_eq_some.mpr rfl, ?_⟩
  refine Option.bind_eq_some_iff.mpr ⟨_, two seconds _, ?_⟩
  refine Option.bind_eq_some_iff.mpr ⟨_, fraction, ?_⟩
  refine Option.bind_eq_some_iff.mpr ⟨(0, []), rfl, ?_⟩
  refine Option.bind_eq_some_iff.mpr ⟨t, ?_, ?_⟩
  · rw [date]
    exact ofParts?_parts valid
  · exact congrArg some (behind_zero valid)

/-- A moment of the years 0 to 9999 is read back from its text. -/
theorem read_text (valid : t.Valid) (low : 0 ≤ t.date.year) (high : t.date.year ≤ 9999) :
    read (String.ofList t.text) = some t := by
  unfold read
  rw [String.toList_ofList, ofOffsetForm_text valid low high]
  rfl

end Watchdesk.Timestamp
