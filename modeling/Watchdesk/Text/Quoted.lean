import Watchdesk.Text.Unprintable

/-!
# Quoted text

A text between double quotes, as descriptions and messages show it: a quote and a backslash are
written behind a backslash, the common controls have letters, and every other character that
would not be seen is written as its code point in braces.
-/

namespace Watchdesk.Text

/-- One character inside quotes. -/
def quotedChar (c : Char) : List Char :=
  if c = '\x00' then ['\\', '0']
  else if c = '\t' then ['\\', 't']
  else if c = '\r' then ['\\', 'r']
  else if c = '\n' then ['\\', 'n']
  else if c = '"' then ['\\', '"']
  else if c = '\\' then ['\\', '\\']
  else if c.toNat != 0x20 && isUnprintable c.toNat then
    ['\\', 'u', '\x7b'] ++ Nat.toDigits 16 c.toNat ++ ['\x7d']
  else [c]

/-- A text between quotes. -/
def quoted (s : String) : String :=
  String.ofList ('"' :: s.toList.flatMap quotedChar ++ ['"'])

/-- An optional text, quoted when it is there. -/
def quotedOption : Option String → String
  | none => "None"
  | some s => "Some(" ++ quoted s ++ ")"

end Watchdesk.Text
