import Watchdesk.Decimal.Layout

/-!
# JSON values

A JSON value with numbers of three kinds: natural numbers and negative integers of 64 bits, and
double-precision numbers. The members of an object are kept sorted by key, each key once.
-/

namespace Watchdesk

/-- A number of a JSON value. -/
inductive Number where
  /-- A natural number below `2 ^ 64`. -/
  | natural (n : Nat)
  /-- Minus `n`, where `0 < n ≤ 2 ^ 63`. -/
  | negative (n : Nat)
  /-- A number that is written with a point or an exponent, or is no 64-bit integer. -/
  | fraction (x : Double)
deriving DecidableEq, Repr, Inhabited

/-- A JSON value. -/
inductive Json where
  | null
  | bool (b : Bool)
  | number (n : Number)
  | string (s : String)
  | array (items : List Json)
  | object (members : List (String × Json))
deriving Repr, Inhabited

/-- The members of a JSON object by key. -/
abbrev Members := List (String × Json)

/-- Members with one more, in the order of keys; a key that is there already gets the new value. -/
def Members.insert (key : String) (value : Json) : Members → Members
  | [] => [(key, value)]
  | (k, v) :: rest =>
    if key < k then (key, value) :: (k, v) :: rest
    else if key = k then (key, value) :: rest
    else (k, v) :: Members.insert key value rest

/-- Members in the order of keys; of several with one key the last one counts. -/
def Members.ofList (members : List (String × Json)) : Members :=
  members.foldl (fun ms m => Members.insert m.1 m.2 ms) []

namespace Json

/-- An object with the given members, in the order of keys. -/
def ofMembers (members : List (String × Json)) : Json := .object (Members.ofList members)

/-- A natural number as a JSON value. -/
def nat (n : Nat) : Json := .number (.natural n)

/-- A text or `null`. -/
def optString : Option String → Json
  | none => .null
  | some s => .string s

/-- A natural number or `null`. -/
def optNat : Option Nat → Json
  | none => .null
  | some n => .nat n

/-- A list of texts. -/
def strings (xs : List String) : Json := .array (xs.map .string)

/-- The member with a key; a value that is no object has none. -/
def get? (j : Json) (key : String) : Option Json :=
  match j with
  | .object members => members.lookup key
  | _ => none

/-- The text, if the value is a text. -/
def asString? : Json → Option String
  | .string s => some s
  | _ => none

/-- The natural number, if the value is one. -/
def asNat? : Json → Option Nat
  | .number (.natural n) => some n
  | _ => none

/-- The truth value, if the value is one. -/
def asBool? : Json → Option Bool
  | .bool b => some b
  | _ => none

/-- The items, if the value is an array. -/
def asArray? : Json → Option (List Json)
  | .array items => some items
  | _ => none

end Json

end Watchdesk
