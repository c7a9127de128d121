import Watchdesk.Text.Digest

/-!
# Percent encoding

A byte that may not stand in an address as it is is written as a percent sign and two hexadecimal
digits. Which characters may stand as they are depends on the part of the address; characters
beyond ASCII never do. In a form the space is a plus sign.
-/

namespace Watchdesk.Percent

/-- A byte behind a percent sign, with capital digits. -/
def byte (b : UInt8) : List Char := '%' :: (Text.hex 2 b.toNat).map Char.toUpper

/-- Encode all characters but those that are kept. -/
def encode (keep : Char → Bool) (s : List Char) : List Char :=
  s.flatMap fun c =>
    if c.toNat < 128 && keep c then [c] else (String.utf8EncodeChar c).flatMap byte

/-- A control character. -/
def isControl (c : Char) : Bool := c.toNat < 0x20 || c.toNat == 0x7F

/-- What is kept where only controls are encoded. -/
def keepsPrintable (c : Char) : Bool := !isControl c

/-- What is kept in a fragment. -/
def keepsFragment (c : Char) : Bool :=
  keepsPrintable c && !(c ∈ [' ', '"', '<', '>', '\x60'])

/-- What is kept in a path. -/
def keepsPath (c : Char) : Bool := keepsFragment c && !(c ∈ ['#', '?', '\x7b', '\x7d'])

/-- What is kept in the name of a user. -/
def keepsUser (c : Char) : Bool :=
  keepsPath c && !(c ∈ ['/', ':', ';', '=', '@', '[', '\\', ']', '^', '|'])

/-- What is kept in a query; a common scheme also encodes the apostrophe. -/
def keepsQuery (special : Bool) (c : Char) : Bool :=
  keepsPrintable c && !(c ∈ [' ', '"', '#', '<', '>']) && !(special && c.toNat == 0x27)

/-- What is kept in a form. -/
def keepsForm (c : Char) : Bool := c.isAlphanum || c ∈ ['*', '-', '.', '_']

/-- A value in a form. -/
def form (s : List Char) : List Char :=
  s.flatMap fun c => if c = ' ' then ['+'] else encode keepsForm [c]

/-- The value of a hexadecimal digit. -/
def digitValue (c : Char) : Option Nat :=
  let n := c.toNat
  if c.isDigit then some (n - 48)
  else if 'a' ≤ c ∧ c ≤ 'f' then some (n - 87)
  else if 'A' ≤ c ∧ c ≤ 'F' then some (n - 55)
  else none

/-- The bytes that an encoded text stands for; a percent sign without two digits stands for
itself. -/
def bytes : List Char → List UInt8
  | '%' :: a :: b :: s =>
    match digitValue a, digitValue b with
    | some x, some y => UInt8.ofNat (16 * x + y) :: bytes s
    | _, _ => String.utf8EncodeChar '%' ++ bytes (a :: b :: s)
  | c :: s => String.utf8EncodeChar c ++ bytes s
  | [] => []

/-- The text that an encoded text stands for, unless its bytes are no text. -/
def decode (s : List Char) : Option String := String.fromUTF8? ⟨(bytes s).toArray⟩

end Watchdesk.Percent
