import Watchdesk.Text.Digits

/-!
# Outlines of JSON texts

The shape of a JSON text before any meaning is given to it: numbers and texts are kept as they are
written, and members in the order in which they stand. An outline also describes a text that stops
being JSON somewhere: it then ends in `broken`, so that a reader who walks through it in order
meets its own objections first and the broken place only when it gets there.
-/

namespace Watchdesk

/-- A number as it is written: sign, digits before the point, digits after it, exponent. -/
structure Numeral where
  negative : Bool
  whole : List Char
  fraction : Option (List Char)
  exponent : Option (Bool × List Char)
deriving DecidableEq, Repr, Inhabited

/-- The shape of a JSON text. -/
inductive Outline where
  | null
  | bool (b : Bool)
  | number (n : Numeral)
  /-- The characters between the quotes, escapes as they are written. -/
  | text (raw : List Char)
  /-- The items, and whether the closing bracket is there. -/
  | array (items : List Outline) (closed : Bool)
  /-- The members, and whether the closing brace is there. -/
  | object (members : List (List Char × Outline)) (closed : Bool)
  /-- From here on the text is not JSON. -/
  | broken
deriving Repr, Inhabited

namespace Outline

/-- The characters that may stand between the parts of a JSON text. -/
def isSpace (c : Char) : Bool := c == ' ' || c == '\n' || c == '\t' || c == '\r'

/-- The text after its leading spaces. -/
def skipSpaces (s : List Char) : List Char := s.dropWhile isSpace

/-- A hexadecimal digit. -/
def isHex (c : Char) : Bool :=
  c.isDigit || ('a' ≤ c && c ≤ 'f') || ('A' ≤ c && c ≤ 'F')

/-- The characters up to the closing quote, and the text after it; none if an escape is malformed,
a control character stands bare, or the quote is missing. -/
def rawText : List Char → Option (List Char × List Char)
  | [] => none
  | '"' :: s => some ([], s)
  | '\\' :: 'u' :: a :: b :: c :: d :: s =>
    if isHex a && isHex b && isHex c && isHex d then
      (rawText s).map fun (raw, rest) => ('\\' :: 'u' :: a :: b :: c :: d :: raw, rest)
    else none
  | '\\' :: c :: s =>
    if c ∈ ['"', '\\', '/', 'b', 'f', 'n', 'r', 't'] then
      (rawText s).map fun (raw, rest) => ('\\' :: c :: raw, rest)
    else none
  | c :: s =>
    if c = '\\' || c.toNat < 0x20 then none
    else (rawText s).map fun (raw, rest) => (c :: raw, rest)

/-- The digits before the point: a single zero, or digits that start with another one. -/
def wholePart : List Char → Option (List Char × List Char)
  | '0' :: s =>
    match s with
    | c :: _ => if c.isDigit then none else some (['0'], s)
    | [] => some (['0'], [])
  | s =>
    match Digits.split s with
    | ([], _) => none
    | (ds, rest) => some (ds, rest)

/-- A point with digits after it, if there is a point. -/
def fractionPart : List Char → Option (Option (List Char) × List Char)
  | '.' :: s =>
    match Digits.split s with
    | ([], _) => none
    | (ds, rest) => some (some ds, rest)
  | s => some (none, s)

/-- The digits of an exponent after its sign. -/
def exponentDigits (negative : Bool) (s : List Char) :
    Option (Option (Bool × List Char) × List Char) :=
  match Digits.split s with
  | ([], _) => none
  | (ds, rest) => some (some (negative, ds), rest)

/-- An exponent, if there is one. -/
def exponentPart : List Char → Option (Option (Bool × List Char) × List Char)
  | c :: s =>
    if c = 'e' || c = 'E' then
      match s with
      | '-' :: t => exponentDigits true t
      | '+' :: t => exponentDigits false t
      | t => exponentDigits false t
    else some (none, c :: s)
  | [] => some (none, [])

/-- A number at the start of a text. -/
def numeral (negative : Bool) (s : List Char) : Option (Numeral × List Char) := do
  let (whole, s) ← wholePart s
  let (fraction, s) ← fractionPart s
  let (exponent, s) ← exponentPart s
  return (⟨negative, whole, fraction, exponent⟩, s)

/-- An outline together with the text after it, unless the outline is broken somewhere. -/
abbrev Reading (α : Type) := α × Option (List Char)

/-- A leaf of an outline that was read, or the broken place. -/
def leaf : Option (Outline × List Char) → Reading Outline
  | some (o, rest) => (o, some rest)
  | none => (.broken, none)

/-- The rest of a text after a word that has to stand there. -/
def word (w : List Char) (o : Outline) (s : List Char) : Reading Outline :=
  if w.isPrefixOf s then (o, some (s.drop w.length)) else (.broken, none)

mutual

/-- The value at the start of a text. Between two characters of the text there are at most two
calls, so `fuel` of twice the length of the text is never used up. -/
def value : Nat → List Char → Reading Outline
  | 0, _ => (.broken, none)
  | fuel + 1, s =>
    match skipSpaces s with
    | [] => (.broken, none)
    | '"' :: s => leaf ((rawText s).map fun (raw, rest) => (.text raw, rest))
    | '-' :: s => leaf ((numeral true s).map fun (n, rest) => (.number n, rest))
    | 'n' :: s => word ['u', 'l', 'l'] .null s
    | 't' :: s => word ['r', 'u', 'e'] (.bool true) s
    | 'f' :: s => word ['a', 'l', 's', 'e'] (.bool false) s
    | '[' :: s =>
      match skipSpaces s with
      | ']' :: rest => (.array [] true, some rest)
      | _ =>
        let (items, rest) := items fuel s
        (.array items rest.isSome, rest)
    | '\x7b' :: s =>
      match skipSpaces s with
      | '\x7d' :: rest => (.object [] true, some rest)
      | _ =>
        let (members, rest) := members fuel s
        (.object members rest.isSome, rest)
    | c :: s => leaf ((numeral false (c :: s)).map fun (n, rest) => (.number n, rest))

/-- One or more items and the end of their array. -/
def items : Nat → List Char → Reading (List Outline)
  | 0, _ => ([], none)
  | fuel + 1, s =>
    match value fuel s with
    | (o, none) => ([o], none)
    | (o, some s) =>
      match skipSpaces s with
      | ']' :: rest => ([o], some rest)
      | ',' :: s =>
        let (os, rest) := items fuel s
        (o :: os, rest)
      | _ => ([o], none)

/-- One or more members and the end of their object. -/
def members : Nat → List Char → Reading (List (List Char × Outline))
  | 0, _ => ([], none)
  | fuel + 1, s =>
    match skipSpaces s with
    | '"' :: s =>
      match rawText s with
      | none => ([], none)
      | some (key, s) =>
        match skipSpaces s with
        | ':' :: s =>
          match value fuel s with
          | (o, none) => ([(key, o)], none)
          | (o, some s) =>
            match skipSpaces s with
            | '\x7d' :: rest => ([(key, o)], some rest)
            | ',' :: s =>
              let (ms, rest) := members fuel s
              ((key, o) :: ms, rest)
            | _ => ([(key, o)], none)
        | _ => ([(key, .broken)], none)
    | _ => ([], none)

end

/-- The outline of a text, and whether anything but spaces stands after it. -/
def ofText (s : List Char) : Outline × Bool :=
  match value (2 * s.length + 2) s with
  | (o, none) => (o, false)
  | (o, some rest) => (o, !(skipSpaces rest).isEmpty)

mutual

/-- No part of the outline is broken. -/
def whole : Outline → Bool
  | .broken => false
  | .array os closed => closed && allWhole os
  | .object ms closed => closed && membersWhole ms
  | _ => true

/-- No item is broken. -/
def allWhole : List Outline → Bool
  | [] => true
  | o :: os => whole o && allWhole os

/-- No member is broken. -/
def membersWhole : List (List Char × Outline) → Bool
  | [] => true
  | (_, o) :: ms => whole o && membersWhole ms

end

end Outline

end Watchdesk
