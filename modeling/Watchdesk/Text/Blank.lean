/-!
# Blank characters

The characters with the Unicode property `White_Space`. A message that has no other characters
tells an operator nothing, so it counts as missing.
-/

namespace Watchdesk.Text

/-- The characters with the property `White_Space`. -/
def isBlank (c : Char) : Bool :=
  let n := c.toNat
  (9 ≤ n && n ≤ 13) || n == 0x20 || n == 0x85 || n == 0xA0 || n == 0x1680 ||
    (0x2000 ≤ n && n ≤ 0x200A) || n == 0x2028 || n == 0x2029 || n == 0x202F || n == 0x205F ||
    n == 0x3000

/-- A text without any character that can be seen. -/
def allBlank (s : String) : Bool := s.toList.all isBlank

/-- The text after its leading blank characters. -/
def dropBlank (s : List Char) : List Char := s.dropWhile isBlank

@[simp] theorem allBlank_empty : allBlank "" = true := rfl

end Watchdesk.Text
