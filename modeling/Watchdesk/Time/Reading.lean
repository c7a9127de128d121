import Watchdesk.Time.Timestamp
import Watchdesk.Text.Blank

/-!
# Reading timestamps

Two forms are read. The RFC 3339 form has parts of fixed width and names its offset from universal
time. The naive form names no offset and means universal time; its parts may be shorter, blanks
may stand before them, and its year may have a sign and any number of digits.
-/

namespace Watchdesk.Timestamp

/-- A part of a text that was read, and the text after it. -/
abbrev Part (α : Type) := Option (α × List Char)

/-- A number of exactly `width` digits. -/
def fixed (width : Nat) (s : List Char) : Part Nat :=
  let ds := s.take width
  if ds.length = width ∧ ds.all Char.isDigit then some (Digits.value ds, s.drop width) else none

/-- A number of one to `most` digits. -/
def upTo (most : Nat) (s : List Char) : Part Nat :=
  match Digits.splitAtMost most s with
  | ([], _) => none
  | (ds, rest) => some (Digits.value ds, rest)

/-- The text after a character that has to stand there. -/
def expect (c : Char) : List Char → Option (List Char)
  | [] => none
  | d :: s => if c = d then some s else none

/-- The nanoseconds of a fraction, if there is one: of its digits the first nine count. -/
def fraction : List Char → Part Nat
  | '.' :: s =>
    match Digits.splitAtMost 9 s with
    | ([], _) => none
    | (ds, rest) =>
      some (Digits.value ds * 10 ^ (9 - ds.length), rest.dropWhile Char.isDigit)
  | s => some (0, s)

/-- The moment with these parts, if there is one. Second 60 is a leap second. -/
def ofParts? (date : Option Date) (hour minute second nano : Nat) : Option Timestamp := do
  let date ← date
  if hour ≤ 23 ∧ minute ≤ 59 ∧ second ≤ 60 then
    let (second, nano) := if second = 60 then (59, nano + secondNanos) else (second, nano)
    some ⟨date, hour * 3600 + minute * 60 + second, nano⟩
  else none

/-- The minutes and the sign of an offset, in seconds: `Z`, or a sign, two digits, a colon and two
digits. -/
def offset : List Char → Option (Int × List Char)
  | [] => none
  | c :: s =>
    if c = 'Z' ∨ c = 'z' then some (0, s)
    else if c = '+' ∨ c = '-' ∨ c = '\u2212' then do
      let (hours, s) ← fixed 2 s
      let s ← expect ':' s
      let (minutes, s) ← fixed 2 s
      if hours ≤ 23 ∧ minutes ≤ 59 then
        let seconds : Int := hours * 3600 + minutes * 60
        some (if c = '+' then seconds else -seconds, s)
      else none
    else none

/-- The RFC 3339 form. -/
def ofOffsetForm (s : List Char) : Option Timestamp := do
  let (year, s) ← fixed 4 s
  let s ← expect '-' s
  let (month, s) ← fixed 2 s
  let s ← expect '-' s
  let (day, s) ← fixed 2 s
  let s ← match s with
    | 'T' :: s | 't' :: s | ' ' :: s => some s
    | _ => none
  let (hour, s) ← fixed 2 s
  let s ← expect ':' s
  let (minute, s) ← fixed 2 s
  let s ← expect ':' s
  let (second, s) ← fixed 2 s
  let (nano, s) ← fraction s
  let (ahead, s) ← offset s
  let t ← ofParts? (Date.ofParts? year month day) hour minute second nano
  if s.isEmpty then some (t.behind ahead) else none

/-- A year with an optional sign; without a sign it has at most four digits. -/
def signedYear (s : List Char) : Part Int :=
  let unlimited (s : List Char) := upTo s.length s
  match s with
  | '-' :: s => (unlimited s).map fun (n, rest) => (-(n : Int), rest)
  | '+' :: s => (unlimited s).map fun (n, rest) => ((n : Int), rest)
  | s => (upTo 4 s).map fun (n, rest) => ((n : Int), rest)

/-- A part of one or two digits, after blanks. -/
def part (s : List Char) : Part Nat := upTo 2 (Text.dropBlank s)

/-- The naive form. -/
def ofNaiveForm (s : List Char) : Option Timestamp := do
  let (year, s) ← signedYear (Text.dropBlank s)
  let s ← expect '-' s
  let (month, s) ← part s
  let s ← expect '-' s
  let (day, s) ← part s
  let s ← expect 'T' s
  let (hour, s) ← part s
  let s ← expect ':' s
  let (minute, s) ← part s
  let s ← expect ':' s
  let (second, s) ← part s
  let (nano, s) ← fraction s
  let t ← ofParts? (Date.ofParts? year month day) hour minute second nano
  if s.isEmpty then some t else none

/-- A timestamp in one of the two forms. -/
def read (s : String) : Option Timestamp :=
  (ofOffsetForm s.toList).orElse fun _ => ofNaiveForm s.toList

end Watchdesk.Timestamp
