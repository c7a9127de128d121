/-!
# Text for a terminal

A message may be marked up with control sequences, which a terminal obeys and does not show. Where
no terminal listens, the sequences and all other controls but those for blanks are left out. A text
that is put into a message may hold sequences of its own, whole ones or not; they are left out as
well, with whatever they swallow.
-/

namespace Watchdesk.CommandLine.Terminal

/-- A text between a control sequence that sets a style and the one that resets it. -/
def styled (style : Nat) (s : String) : String :=
  "\x1b[" ++ toString style ++ "m" ++ s ++ "\x1b[0m"

/-- A text that stands out because it is wrong. -/
def wrong (s : String) : String := styled 33 s

/-- A text that is to be typed as it stands. -/
def literal (s : String) : String := styled 1 s

/-- Where a text stands in a control sequence. -/
inductive Mode where
  /-- Outside of all sequences. -/
  | ground
  /-- Behind the escape that starts a sequence. -/
  | escape
  | intermediate
  /-- In a sequence with parameters, such as a style. -/
  | control
  /-- In the text of a command to the system, such as a title. -/
  | title
  /-- In the head of a command to the device: at its start, its parameters, or behind them. -/
  | device
  | deviceParameter
  | deviceIntermediate
  /-- In a text that belongs to a sequence. -/
  | string
deriving DecidableEq, Repr

/-- The control that starts a sequence. -/
def isEscape (n : Nat) : Bool := n = 0x1B

/-- The controls that break a sequence off. -/
def isCancel (n : Nat) : Bool := n = 0x18 || n = 0x1A

/-- The byte that ends a text that belongs to a sequence, wherever in a character it stands. -/
def terminator : UInt8 := 0x9C

/-- The controls for blanks. -/
def isBlankControl (c : Char) : Bool := c ∈ ['\t', '\n', '\x0c', '\r']

/-- A character that is shown. -/
def isShown (c : Char) : Bool := (0x20 ≤ c.toNat && c.toNat ≠ 0x7F) || isBlankControl c

/-- Where a text stands behind a character that is not shown. -/
def Mode.next (m : Mode) (c : Char) : Mode :=
  let n := c.toNat
  let among := fun (low high : Nat) => low ≤ n && n ≤ high
  if isEscape n then .escape
  else if isCancel n then .ground
  else
    match m with
    | .ground => .ground
    | .escape =>
      if c = '[' then .control
      else if c = ']' then .title
      else if c = 'P' then .device
      else if c ∈ ['X', '^', '_'] then .string
      else if among 0x20 0x2F then .intermediate
      else if among 0x30 0x7E then .ground
      else .escape
    | .intermediate => if among 0x30 0x7E then .ground else .intermediate
    | .control => if among 0x40 0x7E then .ground else .control
    | .title => if n = 7 then .ground else .title
    | .device =>
      if among 0x20 0x2F then .deviceIntermediate
      else if among 0x30 0x3F then .deviceParameter
      else if among 0x40 0x7E then .string
      else .device
    | .deviceParameter =>
      if among 0x20 0x2F then .deviceIntermediate
      else if among 0x3C 0x7E then .string
      else .deviceParameter
    | .deviceIntermediate => if among 0x30 0x7E then .string else .deviceIntermediate
    | .string => if (String.utf8EncodeChar c).contains terminator then .ground else .string

/-- The controls for blanks have their effect inside of a sequence, too. -/
def Mode.obeysBlanks (m : Mode) : Bool := m ∈ [.escape, .intermediate, .control]

/-- What is shown of a text. `showing` says that the last character was shown: the ones behind it
are shown as well, up to the next control, even if a sequence has not ended. A character beyond
ASCII ends it. -/
def shown (m : Mode) (showing : Bool) : List Char → List Char
  | [] => []
  | c :: s =>
    if (showing || m = .ground) && isShown c then
      c :: shown (if c.toNat < 0x80 then m else .ground) true s
    else if m.obeysBlanks && isBlankControl c then c :: shown m true s
    else shown (m.next c) false s

/-- A message where no terminal listens. -/
def plain (message : String) : String := String.ofList (shown .ground false message.toList)

end Watchdesk.CommandLine.Terminal
