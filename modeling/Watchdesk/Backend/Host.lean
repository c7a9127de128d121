import Watchdesk.Domain.Name
import Watchdesk.Text.Digits
import Watchdesk.Text.Percent
import Watchdesk.Text.Pieces

/-!
# Hosts

The host of an address is a name, or a number of 32 or 128 bits. A name is written in lower case
and in ASCII. A number of 32 bits may be given in one to four parts and in three bases; it is
written as four bytes. A number of 128 bits is written as eight pieces, with the longest run of
zeros left out.
-/

namespace Watchdesk

/-- Why a text is not an address. -/
inductive AddressFault where
  | noScheme
  | emptyHost
  | badPort
  | badName
  | badIPv4
  | badIPv6
  | badHostCharacter
deriving DecidableEq, Repr

/-- The wording of a fault. -/
def AddressFault.text : AddressFault → String
  | .noScheme => "relative URL without a base"
  | .emptyHost => "empty host"
  | .badPort => "invalid port number"
  | .badName => "invalid international domain name"
  | .badIPv4 => "invalid IPv4 address"
  | .badIPv6 => "invalid IPv6 address"
  | .badHostCharacter => "invalid domain character"

namespace Host

/-- The value of digits in a base of at most 16, if all of them are digits of that base. -/
def valueIn (base : Nat) (s : List Char) : Option Nat :=
  s.foldlM (fun n c =>
    match Percent.digitValue c with
    | some d => if d < base then some (n * base + d) else none
    | none => none) 0

/-- A part of a 32-bit number: hexadecimal behind `0x`, octal behind a zero, otherwise decimal. -/
def ipv4Part : List Char → Option Nat
  | [] => none
  | '0' :: 'x' :: s => valueIn 16 s
  | '0' :: 'X' :: s => valueIn 16 s
  | ['0'] => some 0
  | '0' :: s => valueIn 8 s
  | s => valueIn 10 s

/-- The parts of a name, without the empty part behind a dot at the end. -/
def labels (s : List Char) : List (List Char) :=
  let parts := Text.splitOn '.' s
  if parts.getLast? = some [] then parts.dropLast else parts

/-- A name whose last part is a number has to be a 32-bit number. -/
def endsInNumber (s : List Char) : Bool :=
  match (labels s).getLast? with
  | some last => Digits.isNumeral last || (ipv4Part last).isSome
  | none => false

/-- The bytes of a 32-bit number: the last of its parts fills the bytes that are left. -/
def ipv4 (s : List Char) : Option (List Nat) := do
  let numbers ← (labels s).mapM ipv4Part
  let last ← numbers.getLast?
  let lead := numbers.dropLast
  if 4 < numbers.length || lead.any (255 < ·) || 256 ^ (4 - lead.length) ≤ last then none
  else
    let value := lead.zipIdx.foldl (fun sum (n, i) => sum + n * 256 ^ (3 - i)) last
    some [value / 256 ^ 3, value / 256 ^ 2 % 256, value / 256 % 256, value % 256]

/-- The dotted form of bytes. -/
def dotted (bytes : List Nat) : List Char := ['.'].intercalate (bytes.map Digits.ofNat)

/-- A piece of a 128-bit number. -/
def piece (s : List Char) : Option Nat :=
  if s.isEmpty || 4 < s.length then none else valueIn 16 s

/-- A byte of the dotted form: no leading zeros. -/
def dottedByte (s : List Char) : Option Nat :=
  match s with
  | '0' :: _ :: _ => none
  | _ =>
    if Digits.isNumeral s && Digits.value s < 256 then some (Digits.value s) else none

/-- The pieces of colon-separated groups; the last group may be dotted, and stands for two. -/
def pieces : List (List Char) → Option (List Nat)
  | [] => some []
  | [g] =>
    if g.contains '.' then
      match (Text.splitOn '.' g).mapM dottedByte with
      | some [a, b, c, d] => some [256 * a + b, 256 * c + d]
      | _ => none
    else (piece g).map ([·])
  | g :: gs => do
    let p ← piece g
    let ps ← pieces gs
    some (p :: ps)

/-- The text before and after the first two colons in a row. -/
def splitDoubleColon : List Char → Option (List Char × List Char)
  | ':' :: ':' :: s => some ([], s)
  | c :: s => (splitDoubleColon s).map fun (before, after) => (c :: before, after)
  | [] => none

/-- The pieces of a part between two ends; an empty part has none. -/
def side (s : List Char) : Option (List Nat) :=
  if s.isEmpty then some [] else pieces (Text.splitOn ':' s)

/-- The eight pieces of a 128-bit number. -/
def ipv6 (s : List Char) : Option (List Nat) :=
  match splitDoubleColon s with
  | none => do
    let ps ← pieces (Text.splitOn ':' s)
    if ps.length = 8 then some ps else none
  | some (before, after) => do
    if before.contains '.' then none
    let front ← side before
    let back ← side after
    if front.length + back.length ≤ 7 then
      some (front ++ List.replicate (8 - front.length - back.length) 0 ++ back)
    else none

/-- How many zeros stand at the start of pieces. -/
def zeroRun (ps : List Nat) : Nat := (ps.takeWhile (· = 0)).length

/-- The first longest run of at least two zeros: its place and its length. -/
def longestRun (ps : List Nat) : Option (Nat × Nat) :=
  (List.range ps.length).foldl (fun best i =>
    let n := zeroRun (ps.drop i)
    let record := match best with
      | some (_, m) => m
      | none => 1
    if record < n then some (i, n) else best) none

/-- The written form of pieces. -/
def hexGroups (ps : List Nat) : List Char := [':'].intercalate (ps.map (Nat.toDigits 16))

/-- The written form of a 128-bit number. -/
def ipv6Text (ps : List Nat) : List Char :=
  match longestRun ps with
  | none => hexGroups ps
  | some (i, n) => hexGroups (ps.take i) ++ ':' :: ':' :: hexGroups (ps.drop (i + n))

/-- A number of 128 bits between brackets, behind the opening one. -/
def bracketed (s : List Char) : Except AddressFault (List Char) :=
  if s.getLast? = some ']' then
    match ipv6 s.dropLast with
    | some ps => .ok ('[' :: ipv6Text ps ++ [']'])
    | none => .error .badIPv6
  else .error .badIPv6

/-- The written form of a host of a common scheme. -/
def ofName (s : List Char) : Except AddressFault (List Char) :=
  match s with
  | '[' :: s => bracketed s
  | s =>
    match Percent.decode s with
    | none => .error .badName
    | some name =>
      match Domain.ascii? (name.toList.map Char.toNat) with
      | none => .error .badName
      | some ascii =>
        let ascii := ascii.map Char.ofNat
        if ascii.isEmpty then .error .emptyHost
        else if endsInNumber ascii then
          match ipv4 ascii with
          | some bytes => .ok (dotted bytes)
          | none => .error .badIPv4
        else .ok ascii

/-- A character that no host may have. -/
def forbidden (c : Char) : Bool :=
  c ∈ ['\x00', ' ', '#', '/', ':', '<', '>', '?', '@', '[', '\\', ']', '^', '|']

/-- The written form of a host of any other scheme. -/
def ofOpaque (s : List Char) : Except AddressFault (List Char) :=
  match s with
  | '[' :: s => bracketed s
  | s =>
    if s.any forbidden then .error .badHostCharacter
    else .ok (Percent.encode Percent.keepsPrintable s)

end Host

end Watchdesk
