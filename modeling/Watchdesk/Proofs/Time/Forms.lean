import Mathlib.Data.List.TakeWhile
import Mathlib.Tactic.SplitIfs
import Watchdesk.Proofs.Text.Numerals
import Watchdesk.Proofs.Time.Calendar
import Watchdesk.Time.Reading

/-!
# The two forms of a timestamp agree

A text in the naive form and the same text with an offset behind it are read by different rules:
the RFC 3339 form wants all digits of a part, the naive form takes as many as there are. Where both
read a text they take the same parts off it, so that the moment with the offset is the naive one
that many seconds earlier. The naive form alone means universal time.
-/

namespace Watchdesk.Timestamp

open Digits

variable {s rest more rest' : List Char} {width n m : Nat}

/-! ## Parts of a text -/

theorem fixed_eq_some : fixed width s = some (n, rest) ↔
    ∃ ds, s = ds ++ rest ∧ ds.length = width ∧ (∀ c ∈ ds, c.isDigit = true) ∧ n = value ds := by
  unfold fixed
  dsimp only
  constructor
  · intro found
    split_ifs at found with digits
    cases found
    exact ⟨s.take width, (List.take_append_drop width s).symm, digits.1,
      List.all_eq_true.mp digits.2, rfl⟩
  · rintro ⟨ds, rfl, rfl, digits, rfl⟩
    rw [List.take_left, List.drop_left, if_pos ⟨rfl, List.all_eq_true.mpr digits⟩]

theorem upTo_eq_some (found : upTo width s = some (n, rest)) :
    ∃ ds, ds ≠ [] ∧ splitAtMost width s = (ds, rest) ∧ n = value ds := by
  unfold upTo at found
  cases taken : splitAtMost width s with
  | mk ds back =>
    rw [taken] at found
    cases ds with
    | nil => cases found
    | cons c ds =>
      cases found
      exact ⟨c :: ds, List.cons_ne_nil c ds, rfl, rfl⟩

theorem upTo_of_split {ds : List Char} (proper : ds ≠ [])
    (taken : splitAtMost width s = (ds, rest)) : upTo width s = some (value ds, rest) := by
  unfold upTo
  rw [taken]
  cases ds with
  | nil => exact absurd rfl proper
  | cons c ds => rfl

theorem upTo_of_fixed (positive : 0 < width) (found : fixed width s = some (n, rest)) :
    upTo width s = some (n, rest) := by
  obtain ⟨ds, rfl, rfl, digits, rfl⟩ := fixed_eq_some.mp found
  exact upTo_of_split (List.length_pos_iff.mp positive)
    (splitAtMost_append digits (Nat.le_refl _) fun few => absurd few (Nat.lt_irrefl _))

theorem upTo_append (found : upTo width s = some (n, rest)) (ends : Ends (rest ++ more)) :
    upTo width (s ++ more) = some (n, rest ++ more) := by
  obtain ⟨ds, proper, taken, rfl⟩ := upTo_eq_some found
  obtain ⟨rfl, digits, within, -⟩ := splitAtMost_eq taken
  refine upTo_of_split proper ?_
  rw [List.append_assoc]
  exact splitAtMost_append digits within fun _ => ends

theorem dropBlank_digit {c : Char} (digit : c.isDigit = true) (s : List Char) :
    Text.dropBlank (c :: s) = c :: s := by
  have other : Text.isBlank c = false := by
    obtain ⟨low, high⟩ := toNat_of_isDigit digit
    simp [Text.isBlank]
    omega
  unfold Text.dropBlank
  rw [List.dropWhile_cons_of_neg (by simp [other])]

theorem fixed_head (positive : 0 < width) (found : fixed width s = some (n, rest)) :
    ∃ c s', s = c :: s' ∧ c.isDigit = true := by
  obtain ⟨ds, rfl, rfl, digits, rfl⟩ := fixed_eq_some.mp found
  cases ds with
  | nil => cases positive
  | cons c ds => exact ⟨c, ds ++ rest, rfl, digits c List.mem_cons_self⟩

theorem part_of_fixed (found : fixed 2 s = some (n, rest)) : part s = some (n, rest) := by
  obtain ⟨c, s', rfl, digit⟩ := fixed_head Nat.two_pos found
  unfold part
  rw [dropBlank_digit digit]
  exact upTo_of_fixed Nat.two_pos found

theorem dropBlank_append (proper : Text.dropBlank s ≠ []) (more : List Char) :
    Text.dropBlank (s ++ more) = Text.dropBlank s ++ more := by
  unfold Text.dropBlank at *
  rw [List.dropWhile_append, if_neg (by simpa using proper)]

theorem part_append (found : part s = some (n, rest)) (ends : Ends (rest ++ more)) :
    part (s ++ more) = some (n, rest ++ more) := by
  unfold part at *
  have proper : Text.dropBlank s ≠ [] := by
    intro none
    rw [none] at found
    cases found
  rw [dropBlank_append proper]
  exact upTo_append found ends

/-- Where the naive form ends a part, the RFC 3339 form ends it too. -/
theorem fixed_eq_part (naive : part s = some (n, rest)) (ends : Ends (rest ++ more))
    (zoned : fixed 2 (s ++ more) = some (m, rest')) : m = n ∧ rest' = rest ++ more := by
  have both := (part_of_fixed zoned).symm.trans (part_append naive ends)
  cases both
  exact ⟨rfl, rfl⟩

/-- The mark that ends a part in one form ends it in the other one. -/
theorem fixed_eq_part_of_mark {c d : Char} (naive : part s = some (n, c :: rest))
    (mark : c.isDigit = false) (zoned : fixed 2 (s ++ more) = some (m, d :: rest')) :
    m = n ∧ rest' = rest ++ more := by
  obtain ⟨same, back⟩ := fixed_eq_part naive (ends_cons mark (rest ++ more)) zoned
  exact ⟨same, (List.cons.inj back).2⟩

theorem signedYear_digit {c : Char} (digit : c.isDigit = true) (s : List Char) :
    signedYear (c :: s) = (upTo 4 (c :: s)).map fun (n, rest) => ((n : Int), rest) := by
  unfold signedYear
  split
  next equal =>
    cases equal
    cases digit
  next equal =>
    cases equal
    cases digit
  next => rfl

/-- A year that the RFC 3339 form reads has no blanks and no sign before it. -/
theorem fixed_eq_signedYear {year : Int} {c d : Char}
    (naive : signedYear (Text.dropBlank s) = some (year, c :: rest)) (mark : c.isDigit = false)
    (zoned : fixed 4 (s ++ more) = some (m, d :: rest')) :
    (m : Int) = year ∧ rest' = rest ++ more := by
  have proper : Text.dropBlank s ≠ [] := by
    intro none
    rw [none] at naive
    cases naive
  obtain ⟨first, s', whole, digit⟩ := fixed_head (by decide) zoned
  have same : Text.dropBlank s = s := by
    have both := dropBlank_append proper more
    rw [whole, dropBlank_digit digit, ← whole] at both
    exact (List.append_cancel_right both).symm
  rw [same] at naive proper
  cases s with
  | nil => exact absurd rfl proper
  | cons d s =>
    cases whole
    rw [signedYear_digit digit] at naive
    obtain ⟨⟨n, back⟩, found, equal⟩ := Option.map_eq_some_iff.mp naive
    cases equal
    have both := (upTo_of_fixed (by decide) zoned).symm.trans
      (upTo_append found (ends_cons mark (rest ++ more)))
    cases both
    exact ⟨rfl, rfl⟩

theorem expect_eq_some {c : Char} : expect c s = some rest ↔ s = c :: rest := by
  cases s with
  | nil => simp [expect]
  | cons d s =>
    unfold expect
    by_cases equal : c = d
    · subst equal
      simp
    · simp [equal, Ne.symm equal]

/-! ## Fractions -/

theorem fraction_plain (plain : s.head? ≠ some '.') : fraction s = some (0, s) := by
  unfold fraction
  split
  · exact absurd rfl plain
  · rfl

/-- Of the digits of a fraction the first nine count, and the others are skipped. -/
theorem fraction_point {ds : List Char} (proper : ds ≠ []) (digits : ∀ c ∈ ds, c.isDigit = true)
    (ends : Ends rest) : fraction ('.' :: (ds ++ rest)) =
      some (value (ds.take 9) * 10 ^ (9 - (ds.take 9).length), rest) := by
  have front : ∀ c ∈ ds.take 9, c.isDigit = true := fun c member =>
    digits c (List.mem_of_mem_take member)
  have back : ∀ c ∈ ds.drop 9, c.isDigit = true := fun c member =>
    digits c (List.mem_of_mem_drop member)
  have few : (ds.take 9).length < 9 → Ends (ds.drop 9 ++ rest) := by
    intro few
    rw [List.length_take] at few
    rw [List.drop_eq_nil_of_le (by omega)]
    exact ends
  have taken : splitAtMost 9 (ds ++ rest) = (ds.take 9, ds.drop 9 ++ rest) := by
    have within : (ds.take 9).length ≤ 9 := List.length_take_le 9 ds
    have step := splitAtMost_append front within few
    rwa [← List.append_assoc, List.take_append_drop] at step
  have skipped : (ds.drop 9 ++ rest).dropWhile Char.isDigit = rest := by
    rw [List.dropWhile_append_of_pos back, ends.dropWhile]
  cases ds with
  | nil => exact absurd rfl proper
  | cons c ds =>
    simp only [fraction, taken, skipped, List.take_succ_cons]

/-- A fraction that reaches to the end of a text is nothing but digits. -/
theorem digits_of_fraction {nano : Nat} (found : fraction ('.' :: s) = some (nano, [])) :
    s ≠ [] ∧ ∀ c ∈ s, c.isDigit = true := by
  cases taken : splitAtMost 9 s with
  | mk ds back =>
    simp only [fraction, taken] at found
    obtain ⟨rfl, digits, -, -⟩ := splitAtMost_eq taken
    cases ds with
    | nil => cases found
    | cons c ds =>
      have none : back.dropWhile Char.isDigit = [] := (Prod.mk.inj (Option.some.inj found)).2
      refine ⟨List.cons_ne_nil _ _, ?_⟩
      intro d member
      rcases List.mem_append.mp member with front | behind
      · exact digits d front
      · exact List.dropWhile_eq_nil_iff.mp none d behind

/-- The digits of a fraction end where an offset begins. -/
theorem fraction_append {nano : Nat} (found : fraction s = some (nano, []))
    (ends : Ends more) (plain : more.head? ≠ some '.') :
    fraction (s ++ more) = some (nano, more) := by
  by_cases point : s.head? = some '.'
  · cases s with
    | nil => cases point
    | cons c s =>
      cases point
      obtain ⟨proper, digits⟩ := digits_of_fraction found
      have alone := fraction_point proper digits ends_nil
      rw [List.append_nil, found] at alone
      rw [List.cons_append, fraction_point proper digits ends]
      cases alone
      rfl
  · rw [fraction_plain point] at found
    cases found
    exact fraction_plain plain

theorem ends_of_fraction {nano : Nat} (found : fraction s = some (nano, [])) (ends : Ends more) :
    Ends (s ++ more) := by
  by_cases point : s.head? = some '.'
  · cases s with
    | nil => cases point
    | cons c s =>
      cases point
      exact ends_cons rfl _
  · rw [fraction_plain point] at found
    cases found
    exact ends

theorem fraction_lt {nano : Nat} (found : fraction s = some (nano, rest)) : nano < secondNanos := by
  unfold fraction at found
  split at found
  next s =>
    cases taken : splitAtMost 9 s with
    | mk ds back =>
      rw [taken] at found
      obtain ⟨-, digits, within, -⟩ := splitAtMost_eq taken
      have below := value_lt digits
      cases ds with
      | nil => cases found
      | cons c ds =>
        cases found
        calc
          value (c :: ds) * 10 ^ (9 - (c :: ds).length)
            < 10 ^ (c :: ds).length * 10 ^ (9 - (c :: ds).length) :=
              Nat.mul_lt_mul_of_pos_right below (Nat.pow_pos (by decide))
          _ = 10 ^ 9 := by rw [← Nat.pow_add, Nat.add_sub_cancel' within]
          _ = secondNanos := rfl
  next =>
    cases found
    decide

/-! ## The two forms -/

/-- A mark that has to come next was there. -/
theorem bind_expect {α : Type} {c : Char} {next : List Char → Option α} {x : α}
    (found : (expect c s).bind next = some x) : ∃ rest, s = c :: rest ∧ next rest = some x := by
  obtain ⟨rest, mark, more⟩ := Option.bind_eq_some_iff.mp found
  exact ⟨rest, expect_eq_some.mp mark, more⟩

/-- The parts that the naive form takes off a text. -/
theorem ofNaiveForm_eq_some {t : Timestamp} (found : ofNaiveForm s = some t) :
    ∃ year month day hour minute second nano s₁ s₂ s₃ s₄ s₅ s₆,
      signedYear (Text.dropBlank s) = some (year, '-' :: s₁) ∧ part s₁ = some (month, '-' :: s₂) ∧
      part s₂ = some (day, 'T' :: s₃) ∧ part s₃ = some (hour, ':' :: s₄) ∧
      part s₄ = some (minute, ':' :: s₅) ∧ part s₅ = some (second, s₆) ∧
      fraction s₆ = some (nano, []) ∧
      ofParts? (Date.ofParts? year month day) hour minute second nano = some t := by
  obtain ⟨⟨year, _⟩, years, more⟩ := Option.bind_eq_some_iff.mp found
  obtain ⟨s₁, rfl, found⟩ := bind_expect more
  obtain ⟨⟨month, _⟩, months, more⟩ := Option.bind_eq_some_iff.mp found
  obtain ⟨s₂, rfl, found⟩ := bind_expect more
  obtain ⟨⟨day, _⟩, days, more⟩ := Option.bind_eq_some_iff.mp found
  obtain ⟨s₃, rfl, found⟩ := bind_expect more
  obtain ⟨⟨hour, _⟩, hours, more⟩ := Option.bind_eq_some_iff.mp found
  obtain ⟨s₄, rfl, found⟩ := bind_expect more
  obtain ⟨⟨minute, _⟩, minutes, more⟩ := Option.bind_eq_some_iff.mp found
  obtain ⟨s₅, rfl, found⟩ := bind_expect more
  obtain ⟨⟨second, s₆⟩, seconds, found⟩ := Option.bind_eq_some_iff.mp found
  obtain ⟨⟨nano, s₇⟩, nanos, found⟩ := Option.bind_eq_some_iff.mp found
  obtain ⟨u, parts, told⟩ := Option.bind_eq_some_iff.mp found
  split_ifs at told with done
  cases told
  obtain rfl : s₇ = [] := List.isEmpty_iff.mp done
  exact ⟨year, month, day, hour, minute, second, nano, s₁, s₂, s₃, s₄, s₅, s₆, years, months, days,
    hours, minutes, seconds, nanos, parts⟩

/-- The parts that the RFC 3339 form takes off a text. -/
theorem ofOffsetForm_eq_some {u : Timestamp} (found : ofOffsetForm s = some u) :
    ∃ year month day hour minute second nano ahead t mark s₁ s₂ s₃ s₄ s₅ s₆ s₇,
      fixed 4 s = some (year, '-' :: s₁) ∧ fixed 2 s₁ = some (month, '-' :: s₂) ∧
      fixed 2 s₂ = some (day, mark :: s₃) ∧ fixed 2 s₃ = some (hour, ':' :: s₄) ∧
      fixed 2 s₄ = some (minute, ':' :: s₅) ∧ fixed 2 s₅ = some (second, s₆) ∧
      fraction s₆ = some (nano, s₇) ∧ offset s₇ = some (ahead, []) ∧
      ofParts? (Date.ofParts? year month day) hour minute second nano = some t ∧
      u = t.behind ahead := by
  obtain ⟨⟨year, _⟩, years, more⟩ := Option.bind_eq_some_iff.mp found
  obtain ⟨s₁, rfl, found⟩ := bind_expect more
  obtain ⟨⟨month, _⟩, months, more⟩ := Option.bind_eq_some_iff.mp found
  obtain ⟨s₂, rfl, found⟩ := bind_expect more
  obtain ⟨⟨day, r⟩, days, found⟩ := Option.bind_eq_some_iff.mp found
  dsimp only at found
  split at found
  case h_4 => cases found
  -- The three marks between the date and the time of day are read alike.
  all_goals
    obtain ⟨_, same, clock⟩ := Option.bind_eq_some_iff.mp found
    cases same
    obtain ⟨⟨hour, _⟩, hours, more⟩ := Option.bind_eq_some_iff.mp clock
    obtain ⟨s₄, rfl, found⟩ := bind_expect more
    obtain ⟨⟨minute, _⟩, minutes, more⟩ := Option.bind_eq_some_iff.mp found
    obtain ⟨s₅, rfl, found⟩ := bind_expect more
    obtain ⟨⟨second, s₆⟩, seconds, found⟩ := Option.bind_eq_some_iff.mp found
    obtain ⟨⟨nano, s₇⟩, nanos, found⟩ := Option.bind_eq_some_iff.mp found
    obtain ⟨⟨ahead, s₈⟩, shift, found⟩ := Option.bind_eq_some_iff.mp found
    obtain ⟨t, parts, told⟩ := Option.bind_eq_some_iff.mp found
    split_ifs at told with done
    cases told
    obtain rfl : s₈ = [] := List.isEmpty_iff.mp done
    exact ⟨year, month, day, hour, minute, second, nano, ahead, t, _, s₁, s₂, _, s₄, s₅, s₆, s₇,
      years, months, days, hours, minutes, seconds, nanos, shift, parts, rfl⟩

/-- What both forms read has the same parts, so the offset is all that comes behind them. -/
theorem ofOffsetForm_append {t u : Timestamp} (naive : ofNaiveForm s = some t)
    (zoned : ofOffsetForm (s ++ more) = some u) (ends : Ends more) (plain : more.head? ≠ some '.') :
    ∃ ahead, offset more = some (ahead, []) ∧ u = t.behind ahead := by
  obtain ⟨year, month, day, hour, minute, second, nano, s₁, s₂, s₃, s₄, s₅, s₆, years, months, days,
    hours, minutes, seconds, nanos, parts⟩ := ofNaiveForm_eq_some naive
  obtain ⟨year', month', day', hour', minute', second', nano', ahead, t', mark, r₁, r₂, r₃, r₄, r₅,
    r₆, r₇, years', months', days', hours', minutes', seconds', nanos', shift, parts', rfl⟩ :=
    ofOffsetForm_eq_some zoned
  obtain ⟨rfl, rfl⟩ := fixed_eq_signedYear years rfl years'
  obtain ⟨rfl, rfl⟩ := fixed_eq_part_of_mark months rfl months'
  obtain ⟨rfl, rfl⟩ := fixed_eq_part_of_mark days rfl days'
  obtain ⟨rfl, rfl⟩ := fixed_eq_part_of_mark hours rfl hours'
  obtain ⟨rfl, rfl⟩ := fixed_eq_part_of_mark minutes rfl minutes'
  obtain ⟨rfl, rfl⟩ := fixed_eq_part seconds (ends_of_fraction nanos ends) seconds'
  rw [fraction_append nanos ends plain] at nanos'
  cases nanos'
  rw [parts] at parts'
  cases parts'
  exact ⟨ahead, shift, rfl⟩

theorem ofParts?_valid {date : Option Date} {hour minute second nano : Nat} {t : Timestamp}
    (known : ∀ d ∈ date, d.Valid) (short : nano < secondNanos)
    (found : ofParts? date hour minute second nano = some t) : t.Valid := by
  unfold ofParts? at found
  obtain ⟨d, given, told⟩ := Option.bind_eq_some_iff.mp found
  split_ifs at told with clock leap
  · cases told
    obtain ⟨hours, minutes, -⟩ := clock
    unfold secondNanos at short
    exact ⟨known d given, by dsimp only [daySeconds]; omega, by dsimp only [secondNanos]; omega,
      fun _ => by dsimp only; omega⟩
  · cases told
    obtain ⟨hours, minutes, seconds⟩ := clock
    unfold secondNanos at short
    exact ⟨known d given, by dsimp only [daySeconds]; omega, by dsimp only [secondNanos]; omega,
      fun long => by dsimp only [secondNanos] at long; omega⟩

theorem ofNaiveForm_valid {t : Timestamp} (found : ofNaiveForm s = some t) : t.Valid := by
  obtain ⟨year, month, day, hour, minute, second, nano, s₁, s₂, s₃, s₄, s₅, s₆, -, -, -, -, -, -,
    nanos, parts⟩ := ofNaiveForm_eq_some found
  exact ofParts?_valid (fun d given => (Date.ofParts?_eq_some.mp given).2.1) (fraction_lt nanos)
    parts

/-! ## Clocks -/

/-- How far a clock is ahead of universal time, as the RFC 3339 form writes it. -/
inductive Zone where
  | universal
  /-- Hours and minutes with a sign. -/
  | shifted (east : Bool) (hours minutes : Fin 100)
deriving DecidableEq, Repr

namespace Zone

/-- The text behind the time of day. -/
def text : Zone → List Char
  | .universal => ['Z']
  | .shifted east hours minutes =>
    (if east then '+' else '-') :: padded 2 hours ++ ':' :: padded 2 minutes

/-- How many seconds the clock is ahead. -/
def seconds : Zone → Int
  | .universal => 0
  | .shifted east hours minutes =>
    if east then (hours * 3600 + minutes * 60 : Nat) else -(hours * 3600 + minutes * 60 : Nat)

end Zone

theorem fixed_padded (positive : 0 < width) (short : n < 10 ^ width) (rest : List Char) :
    fixed width (padded width n ++ rest) = some (n, rest) :=
  fixed_eq_some.mpr ⟨padded width n, rfl, length_padded positive short,
    fun _ member => isDigit_of_mem_padded member, (value_padded width n).symm⟩

/-- What is read behind the time of day is the lead of the clock. -/
theorem offset_text {zone : Zone} {ahead : Int} (found : offset zone.text = some (ahead, rest)) :
    ahead = zone.seconds := by
  cases zone with
  | universal =>
    cases found
    rfl
  | shifted east hours minutes =>
    have hour := fixed_padded Nat.two_pos hours.isLt (':' :: padded 2 minutes)
    have minute := fixed_padded Nat.two_pos minutes.isLt []
    rw [List.append_nil] at minute
    cases east
    all_goals
      simp only [offset, Zone.text, Bool.false_eq_true, if_true, if_false, List.cons_append, hour,
        Option.bind_eq_bind, Option.bind_some, expect, minute] at found
      simp only [Char.reduceEq, or_false, or_true, if_true, if_false] at found
      split_ifs at found
      cases found
      simp [Zone.seconds]

/-- Offsets are whole minutes, and less than a day. -/
theorem offset_bounds {ahead : Int} (found : offset s = some (ahead, rest)) :
    -daySeconds < ahead ∧ ahead < daySeconds ∧ ahead % 60 = 0 := by
  unfold daySeconds
  cases s with
  | nil => cases found
  | cons c s =>
    simp only [offset, Option.bind_eq_bind] at found
    by_cases universal : c = 'Z' ∨ c = 'z'
    · rw [if_pos universal] at found
      cases found
      decide
    · rw [if_neg universal] at found
      split at found
      · simp only [Option.bind_eq_some_iff, Prod.exists] at found
        obtain ⟨hours, _, -, _, -, minutes, _, -, told⟩ := found
        split_ifs at told with clock east
        · cases told
          omega
        · cases told
          omega
      · cases found

theorem ends_zone (zone : Zone) : Ends zone.text ∧ zone.text.head? ≠ some '.' := by
  cases zone with
  | universal => exact ⟨ends_cons rfl [], by decide⟩
  | shifted east hours minutes =>
    cases east
    · exact ⟨ends_cons rfl _, by simp [Zone.text]⟩
    · exact ⟨ends_cons rfl _, by simp [Zone.text]⟩

/-- A text in the naive form names no offset, so it is no text in the RFC 3339 form. -/
theorem read_of_ofNaiveForm {s : String} {t : Timestamp} (naive : ofNaiveForm s.toList = some t) :
    read s = some t := by
  have other : ofOffsetForm s.toList = none := by
    rw [← Option.not_isSome_iff_eq_none]
    intro found
    obtain ⟨u, zoned⟩ := Option.isSome_iff_exists.mp found
    rw [← List.append_nil s.toList] at zoned
    obtain ⟨ahead, none, -⟩ := ofOffsetForm_append naive zoned ends_nil (by simp)
    cases none
  unfold read
  rw [other]
  exact naive

/-- Naive timestamps mean universal time, and both forms agree: where a text in the naive form
followed by an offset is a text in the RFC 3339 form, its moment is the one of the text alone, less
the offset. Days, months and years may end between the two, and the nanoseconds, which tell a leap
second, are the same. -/
theorem read_zoned {s : String} {zone : Zone} {t u : Timestamp}
    (naive : ofNaiveForm s.toList = some t)
    (zoned : ofOffsetForm (s.toList ++ zone.text) = some u) :
    read s = some t ∧ read (s ++ String.ofList zone.text) = some u ∧ t.Valid ∧ u.Valid ∧
      u.epochSecond = t.epochSecond - zone.seconds ∧ u.nano = t.nano ∧
      (zone = .universal → u = t) := by
  obtain ⟨ends, plain⟩ := ends_zone zone
  obtain ⟨ahead, shift, rfl⟩ := ofOffsetForm_append naive zoned ends plain
  have valid := ofNaiveForm_valid naive
  have lead := offset_text shift
  obtain ⟨low, high, minutes⟩ := offset_bounds shift
  have whole : read (s ++ String.ofList zone.text) = some (t.behind ahead) := by
    unfold read
    rw [String.toList_append, String.toList_ofList, zoned]
    rfl
  refine ⟨read_of_ofNaiveForm naive, whole, valid, behind_valid valid low high minutes, ?_,
    nano_behind t ahead, ?_⟩
  · rw [epochSecond_behind valid low high, lead]
  · rintro rfl
    rw [lead]
    exact behind_zero valid

/-- A leap second of the first morning of a year, on a clock that is nine hours ahead: it is still
the last second of the old year in universal time. -/
theorem read_zoned_at_new_year :
    let s := "2017-01-01T08:59:60.25"
    let zone := Zone.shifted true 9 0
    let t : Timestamp := ⟨⟨2017, 1, 1⟩, 32399, 1250000000⟩
    let u : Timestamp := ⟨⟨2016, 12, 31⟩, 86399, 1250000000⟩
    ofNaiveForm s.toList = some t ∧ ofOffsetForm (s.toList ++ zone.text) = some u ∧
      read s = some t ∧ read (s ++ String.ofList zone.text) = some u ∧
      u.epochSecond = t.epochSecond - 32400 := by
  intro s zone t u
  have naive : ofNaiveForm s.toList = some t := by decide +kernel
  have zoned : ofOffsetForm (s.toList ++ zone.text) = some u := by decide +kernel
  obtain ⟨alone, whole, -, -, earlier, -, -⟩ := read_zoned naive zoned
  exact ⟨naive, zoned, alone, whole, earlier⟩

end Watchdesk.Timestamp
