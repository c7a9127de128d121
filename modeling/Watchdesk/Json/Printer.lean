import Watchdesk.Json.Value
import Watchdesk.Text.Digest

/-!
# JSON texts

The compact text of a JSON value: no blanks, members in their order, and in a text only those
characters escaped that have to be: the quote, the backslash and the controls.
-/

namespace Watchdesk

/-- The text of a number. -/
def Number.text : Number → List Char
  | .natural n => Digits.ofNat n
  | .negative n => '-' :: Digits.ofNat n
  | .fraction x => x.scientific

namespace Json

/-- One character inside the quotes of a text. -/
def escapedChar (c : Char) : List Char :=
  if c = '"' then ['\\', '"']
  else if c = '\\' then ['\\', '\\']
  else if c = '\n' then ['\\', 'n']
  else if c = '\r' then ['\\', 'r']
  else if c = '\t' then ['\\', 't']
  else if c = '\x08' then ['\\', 'b']
  else if c = '\x0c' then ['\\', 'f']
  else if c.toNat < 0x20 then '\\' :: 'u' :: Text.hex 4 c.toNat
  else [c]

/-- A text between quotes. -/
def quotedText (s : String) : List Char := '"' :: s.toList.flatMap escapedChar ++ ['"']

mutual

/-- The compact text of a value. -/
def text : Json → List Char
  | .null => ['n', 'u', 'l', 'l']
  | .bool true => ['t', 'r', 'u', 'e']
  | .bool false => ['f', 'a', 'l', 's', 'e']
  | .number n => n.text
  | .string s => quotedText s
  | .array [] => ['[', ']']
  | .array (x :: xs) => '[' :: (text x ++ itemsText xs)
  | .object [] => ['\x7b', '\x7d']
  | .object ((k, v) :: ms) => '\x7b' :: (quotedText k ++ ':' :: (text v ++ membersText ms))

/-- The items after the first one, and the end of the array. -/
def itemsText : List Json → List Char
  | [] => [']']
  | x :: xs => ',' :: (text x ++ itemsText xs)

/-- The members after the first one, and the end of the object. -/
def membersText : List (String × Json) → List Char
  | [] => ['\x7d']
  | (k, v) :: ms => ',' :: (quotedText k ++ ':' :: (text v ++ membersText ms))

end

/-- The compact text of a value as a string. -/
def compact (j : Json) : String := String.ofList j.text

/-- Every value is written with some character. -/
theorem text_ne_nil (j : Json) : j.text ≠ [] := by
  cases j with
  | null => simp [text]
  | bool b => cases b <;> simp [text]
  | number n =>
    cases n with
    | natural n => exact Nat.toDigits_ne_nil
    | negative n => simp [text, Number.text]
    | fraction x => exact x.scientific_ne_nil
  | string s => simp [text, quotedText]
  | array items => cases items <;> simp [text]
  | object members => cases members <;> simp [text]

theorem compact_ne_empty (j : Json) : j.compact ≠ "" := by
  unfold compact
  simp [text_ne_nil j]

end Json

end Watchdesk
