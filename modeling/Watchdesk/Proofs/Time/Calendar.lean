import Mathlib.Tactic.SplitIfs
import Watchdesk.Time.Timestamp

/-!
# Days that follow each other

The day after a date has the next number, over the ends of months and years and in leap years. So
a moment that is moved across midnight is moved by the number of seconds that was asked for, and no
more: `Timestamp.behind` takes the offset of a clock off the second since 1970.
-/

namespace Watchdesk

namespace Date

/-- There is such a day in the calendar. -/
structure Valid (d : Date) : Prop where
  month_pos : 1 ≤ d.month
  month_le : d.month ≤ 12
  day_pos : 1 ≤ d.day
  day_le : d.day ≤ daysIn d.year d.month

variable {d : Date}

theorem daysIn_pos (year : Int) (month : Nat) : 28 ≤ daysIn year month := by
  unfold daysIn
  split_ifs <;> omega

theorem daysIn_le (year : Int) (month : Nat) : daysIn year month ≤ 31 := by
  unfold daysIn
  split_ifs <;> omega

theorem ofParts?_eq_some {year : Int} {month day : Nat} :
    ofParts? year month day = some d ↔ d = ⟨year, month, day⟩ ∧ d.Valid ∧
      firstYear ≤ d.year ∧ d.year ≤ lastYear := by
  unfold ofParts?
  constructor
  · intro found
    split_ifs at found with proper
    obtain ⟨first, last, low, high, start, length⟩ := proper
    cases found
    exact ⟨rfl, ⟨low, high, start, length⟩, first, last⟩
  · rintro ⟨rfl, ⟨low, high, start, length⟩, first, last⟩
    exact if_pos ⟨first, last, low, high, start, length⟩

/-! ## The number of a day -/

theorem daysBefore_succ {year : Int} {month : Nat} (proper : 1 ≤ month) :
    daysBefore year (month + 1) = daysBefore year month + daysIn year month := by
  rw [daysBefore, if_neg (by omega)]

theorem yearStart_succ (year : Int) :
    yearStart (year + 1) = yearStart year + 365 + if isLeap year then 1 else 0 := by
  unfold yearStart
  by_cases leap : isLeap year = true
  · rw [if_pos leap]
    simp only [isLeap, Bool.and_eq_true, Bool.or_eq_true, beq_iff_eq, bne_iff_ne, ne_eq] at leap
    omega
  · rw [if_neg leap]
    simp only [isLeap, Bool.and_eq_true, Bool.or_eq_true, beq_iff_eq, bne_iff_ne, ne_eq] at leap
    omega

/-- The months of a year make up the year. -/
theorem daysBefore_december (year : Int) :
    (daysBefore year 12 : Int) = 334 + if isLeap year then 1 else 0 := by
  simp only [daysBefore, daysIn]
  by_cases leap : isLeap year = true <;> simp [leap]

theorem next_valid (valid : d.Valid) : d.next.Valid := by
  obtain ⟨low, high, start, length⟩ := valid
  unfold next
  split_ifs with inside early
  · exact ⟨low, high, Nat.le_add_left 1 d.day, inside⟩
  · have many := daysIn_pos d.year (d.month + 1)
    exact ⟨Nat.le_add_left 1 d.month, early, Nat.le_refl 1, by dsimp only; omega⟩
  · have many := daysIn_pos (d.year + 1) 1
    exact ⟨Nat.le_refl 1, Nat.le_add_left 1 11, Nat.le_refl 1, by dsimp only; omega⟩

theorem dayNumber_next (valid : d.Valid) : d.next.dayNumber = d.dayNumber + 1 := by
  obtain ⟨low, high, start, length⟩ := valid
  unfold next
  split_ifs with inside early
  · simp only [dayNumber, Int.natCast_add, Int.natCast_one]
    omega
  · have month : daysBefore d.year (d.month + 1) = _ := daysBefore_succ low
    have last : d.day = daysIn d.year d.month := by omega
    simp only [dayNumber, month, last, Int.natCast_add, Int.natCast_one]
    omega
  · have december : d.month = 12 := by omega
    have days : daysIn d.year 12 = 31 := rfl
    have last : d.day = 31 := by
      rw [december, days] at inside length
      omega
    have months := daysBefore_december d.year
    have january : daysBefore (d.year + 1) 1 = 0 := rfl
    simp only [dayNumber, yearStart_succ, december, last, months, january]
    omega

theorem previous_valid (valid : d.Valid) : d.previous.Valid := by
  obtain ⟨low, high, start, length⟩ := valid
  unfold previous
  split_ifs with inside late
  · exact ⟨low, high, by dsimp only; omega, by dsimp only; omega⟩
  · have many := daysIn_pos d.year (d.month - 1)
    exact ⟨by dsimp only; omega, by dsimp only; omega, by dsimp only; omega, Nat.le_refl _⟩
  · exact ⟨Nat.le_add_left 1 11, Nat.le_refl 12, Nat.le_add_left 1 30, Nat.le_refl 31⟩

theorem next_previous (valid : d.Valid) : d.previous.next = d := by
  obtain ⟨low, high, start, length⟩ := valid
  obtain ⟨year, month, day⟩ := d
  dsimp only at low high start length
  unfold previous
  split_ifs with inside late
  · unfold next
    dsimp only at inside ⊢
    rw [if_pos (by omega), Nat.sub_add_cancel start]
  · unfold next
    dsimp only at inside late ⊢
    rw [if_neg (Nat.lt_irrefl _), if_pos (by omega), Nat.sub_add_cancel low]
    have first : day = 1 := by omega
    rw [first]
  · have january : month = 1 := by
      dsimp only at late
      omega
    have first : day = 1 := by
      dsimp only at inside
      omega
    subst january first
    have days : daysIn (year - 1) 12 = 31 := rfl
    unfold next
    dsimp only
    rw [days, if_neg (Nat.lt_irrefl 31), if_neg (Nat.lt_irrefl 12), Int.sub_add_cancel]

theorem dayNumber_previous (valid : d.Valid) : d.previous.dayNumber = d.dayNumber - 1 := by
  have back := dayNumber_next (previous_valid valid)
  rw [next_previous valid] at back
  omega

end Date

namespace Timestamp

/-- A moment that a clock can show: a second of a day of the calendar, where the last second of a
minute may be longer than the others. -/
structure Valid (t : Timestamp) : Prop where
  date : t.date.Valid
  second : t.second < daySeconds
  nano : t.nano < 2 * secondNanos
  leap : secondNanos ≤ t.nano → t.second % 60 = 59

variable {t : Timestamp} {ahead : Int}

/-- What a clock shows that is ahead, less than a day and by whole minutes, tells a moment that many
seconds earlier. -/
theorem behind_valid (valid : t.Valid) (low : -daySeconds < ahead) (high : ahead < daySeconds)
    (minutes : ahead % 60 = 0) : (t.behind ahead).Valid := by
  obtain ⟨date, second, nano, leap⟩ := valid
  unfold daySeconds at *
  unfold behind daySeconds
  dsimp only
  split_ifs with early late
  · exact ⟨Date.previous_valid date, by dsimp only [daySeconds]; omega, nano, by
      intro long
      have last := leap long
      dsimp only
      omega⟩
  · exact ⟨Date.next_valid date, by dsimp only [daySeconds]; omega, nano, by
      intro long
      have last := leap long
      dsimp only
      omega⟩
  · exact ⟨date, by dsimp only [daySeconds]; omega, nano, by
      intro long
      have last := leap long
      dsimp only
      omega⟩

theorem epochSecond_behind (valid : t.Valid) (low : -daySeconds < ahead)
    (high : ahead < daySeconds) : (t.behind ahead).epochSecond = t.epochSecond - ahead := by
  obtain ⟨date, second, -, -⟩ := valid
  unfold daySeconds at *
  unfold behind epochSecond daySeconds
  dsimp only
  split_ifs with early late
  · dsimp only
    rw [Date.dayNumber_previous date]
    omega
  · dsimp only
    rw [Date.dayNumber_next date]
    omega
  · dsimp only
    omega

@[simp] theorem nano_behind (t : Timestamp) (ahead : Int) : (t.behind ahead).nano = t.nano := by
  unfold behind
  dsimp only
  split_ifs <;> rfl

theorem behind_zero (valid : t.Valid) : t.behind 0 = t := by
  have second := valid.second
  unfold daySeconds at second
  unfold behind daySeconds
  dsimp only
  rw [if_neg (by omega), if_neg (by omega), Int.sub_zero, Int.toNat_natCast]

end Timestamp

end Watchdesk
