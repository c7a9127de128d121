import Watchdesk.Domain.Direction
import Watchdesk.Domain.Folding
import Watchdesk.Domain.Joining
import Watchdesk.Domain.Punycode
import Watchdesk.Text.Pieces

/-!
# Domain names

A domain name is labels with dots between them. It may be given with characters of any script; the
network knows it by its ASCII form. Names are lists of code points.
-/

namespace Watchdesk.Domain

open Text

/-- The dot between labels. -/
def dot : Nat := 0x2E

/-- The labels of a name; always at least one. -/
def labels (name : List Nat) : List (List Nat) := splitOn dot name

/-- A character that no name may have: blanks, controls, and what has a meaning in an address. -/
def isForbidden (n : Nat) : Bool :=
  n ≤ 0x20 || n == 0x7F || n ∈ "#%/:<>?@[\\]^|".toList.map Char.toNat

/-- What the ASCII form of a label begins with if the label has characters beyond ASCII. -/
def codedPrefix : List Nat := "xn--".toList.map Char.toNat

/-- The longest ASCII form that is read. -/
def mostCoded : Nat := 2000

/-- The longest label that has an ASCII form. -/
def mostUncoded : Nat := 1000

/-- A label of ASCII characters. -/
def isPlain (label : List Nat) : Bool := label.all (· < 0x80)

/-- The label that a label of a canonical name stands for. An ASCII form has to be that of a label
in canonical form. -/
def uncoded? (label : List Nat) : Option (List Nat) :=
  if codedPrefix.isPrefixOf label then do
    let coded := label.drop codedPrefix.length
    if coded.isEmpty || coded.getLast? = some 0x2D || !isPlain coded ||
        mostCoded < coded.length then none
    let s ← Punycode.decode coded
    if canonical? s = some s then some s else none
  else some label

/-- The ASCII form of a label. -/
def coded? (label : List Nat) : Option (List Nat) :=
  if isPlain label then some label
  else if mostUncoded < label.length then none
  else some (codedPrefix ++ Punycode.encode label)

/-- A label that a name may have. -/
def isLabel (label : List Nat) : Bool :=
  !label.any isForbidden && !label.head?.any isMark && joinersFit [] label

/-- The ASCII form of a name, unless it is no name. -/
def ascii? (name : List Nat) : Option (List Nat) := do
  let canonical ← canonical? name
  let uncoded ← (labels canonical).mapM uncoded?
  if uncoded.all isLabel && keepDirections uncoded then
    let coded ← uncoded.mapM coded?
    some ([dot].intercalate coded)
  else none

end Watchdesk.Domain
