import Watchdesk.Json.Numeral

/-!
# Reading values out of JSON texts

A decoder turns an outline into a value of some type. It walks through the outline in the order of
the text and stops at its first objection, which is one of two: the text is not JSON at that place,
or it is JSON of another shape than the one asked for. Values that are asked for may be nested up
to `depthLimit` levels; members that nobody asks for are skipped, and only have to be JSON.
-/

namespace Watchdesk

/-- Why a decoder stops. -/
inductive Refusal where
  /-- The text is not JSON, or nests too deeply, or a number or a text in it has no value. -/
  | malformed
  /-- The text is JSON, but not what was asked for. -/
  | mismatched
deriving DecidableEq, Repr

/-- How many levels of arrays and objects may be nested. -/
def depthLimit : Nat := 127

/-- Reads an outline; the number says how many levels may still be entered. -/
abbrev Decoder (α : Type) := Nat → Outline → Except Refusal α

namespace Outline

/-- The character of a `\u` escape. -/
def hexValue (cs : List Char) : Nat :=
  cs.foldl (fun n c =>
    16 * n + (if c.isDigit then c.toNat - 48 else if c.toNat < 97 then c.toNat - 55
      else c.toNat - 87)) 0

/-- The characters that a raw text stands for; none if half of a surrogate pair stands alone. -/
def unescape : List Char → Option (List Char)
  | [] => some []
  | '\\' :: 'u' :: a :: b :: c :: d :: rest =>
    let n := hexValue [a, b, c, d]
    if 0xD800 ≤ n ∧ n < 0xDC00 then
      match rest with
      | '\\' :: 'u' :: a' :: b' :: c' :: d' :: rest' =>
        let m := hexValue [a', b', c', d']
        if 0xDC00 ≤ m ∧ m < 0xE000 then
          (unescape rest').map (Char.ofNat (0x10000 + (n - 0xD800) * 0x400 + (m - 0xDC00)) :: ·)
        else none
      | _ => none
    else if 0xDC00 ≤ n ∧ n < 0xE000 then none
    else (unescape rest).map (Char.ofNat n :: ·)
  | '\\' :: c :: rest =>
    let plain :=
      match c with
      | 'b' => '\x08'
      | 'f' => '\x0c'
      | 'n' => '\n'
      | 'r' => '\r'
      | 't' => '\t'
      | c => c
    (unescape rest).map (plain :: ·)
  | c :: rest => (unescape rest).map (c :: ·)

/-- The text that a raw text stands for. -/
def rawString (raw : List Char) : Except Refusal String :=
  match unescape raw with
  | some cs => .ok (String.ofList cs)
  | none => .error .malformed

/-- The refusal of a value of the wrong kind: a scalar is read first, and may turn out to be no
value at all. -/
def refuse : Outline → Refusal
  | .broken => .malformed
  | .number n => if n.number.isSome then .mismatched else .malformed
  | .text raw => if (unescape raw).isSome then .mismatched else .malformed
  | _ => .mismatched

mutual

/-- The JSON value of an outline. -/
def json : Decoder Json
  | _, .null => .ok .null
  | _, .bool b => .ok (.bool b)
  | _, .number n =>
    match n.number with
    | some v => .ok (.number v)
    | none => .error .malformed
  | _, .text raw => (rawString raw).map .string
  | 0, .array .. => .error .malformed
  | depth + 1, .array items closed => do
    let values ← jsonItems depth items
    if closed then .ok (.array values) else .error .malformed
  | 0, .object .. => .error .malformed
  | depth + 1, .object members closed => do
    let values ← jsonMembers depth members
    if closed then .ok (.ofMembers values) else .error .malformed
  | _, .broken => .error .malformed

/-- The JSON values of the items of an array. -/
def jsonItems : Nat → List Outline → Except Refusal (List Json)
  | _, [] => .ok []
  | depth, o :: os => do
    let v ← json depth o
    let vs ← jsonItems depth os
    .ok (v :: vs)

/-- The members of an object, in the order of the text. -/
def jsonMembers : Nat → List (List Char × Outline) → Except Refusal (List (String × Json))
  | _, [] => .ok []
  | depth, (raw, o) :: ms => do
    let key ← rawString raw
    let v ← json depth o
    let vs ← jsonMembers depth ms
    .ok ((key, v) :: vs)

end

end Outline

namespace Decoder

variable {α : Type}

/-- Any JSON value. -/
def json : Decoder Json := Outline.json

/-- A text. -/
def string : Decoder String
  | _, .text raw => Outline.rawString raw
  | _, o => .error o.refuse

/-- A truth value. -/
def bool : Decoder Bool
  | _, .bool b => .ok b
  | _, o => .error o.refuse

/-- A natural number below `limit`, written as an integer. -/
def natBelow (limit : Nat) : Decoder Nat
  | _, .number n =>
    match n.number with
    | some (.natural v) => if v < limit then .ok v else .error .mismatched
    | some _ => .error .mismatched
    | none => .error .malformed
  | _, o => .error o.refuse

/-- A natural number of 64 bits. -/
def nat64 : Decoder Nat := natBelow (2 ^ 64)

/-- A natural number of 32 bits. -/
def nat32 : Decoder Nat := natBelow (2 ^ 32)

/-- A natural number of 16 bits. -/
def nat16 : Decoder Nat := natBelow (2 ^ 16)

/-- An integer of 64 bits with a sign. -/
def int64 : Decoder Int
  | _, .number n =>
    match n.number with
    | some (.natural v) => if v < 2 ^ 63 then .ok v else .error .mismatched
    | some (.negative v) => .ok (-v)
    | some (.fraction _) => .error .mismatched
    | none => .error .malformed
  | _, o => .error o.refuse

/-- A number as a double. -/
def double : Decoder Double
  | _, .number n =>
    match n.number with
    | some (.natural v) => ofInteger false v
    | some (.negative v) => ofInteger true v
    | some (.fraction x) => .ok x
    | none => .error .malformed
  | _, o => .error o.refuse
where
  /-- The double nearest to an integer. -/
  ofInteger (negative : Bool) (v : Nat) : Except Refusal Double :=
    match Double.ofNat v with
    | some x => .ok (x.withSign negative)
    | none => .error .malformed

/-- A value or `null`. -/
def optional (d : Decoder α) : Decoder (Option α)
  | _, .null => .ok none
  | depth, o => (d depth o).map some

/-- The items of an array, in order. -/
def items (d : Decoder α) (depth : Nat) : List Outline → Except Refusal (List α)
  | [] => .ok []
  | o :: os => do
    let x ← d depth o
    let xs ← items d depth os
    .ok (x :: xs)

/-- An array. -/
def list (d : Decoder α) : Decoder (List α)
  | 0, .array .. => .error .malformed
  | depth + 1, .array os closed => do
    let xs ← items d depth os
    if closed then .ok xs else .error .malformed
  | _, o => .error o.refuse

/-- The members of any object. -/
def members : Decoder Members
  | 0, .object .. => .error .malformed
  | depth + 1, .object ms closed => do
    let vs ← Outline.jsonMembers depth ms
    if closed then .ok (Members.ofList vs) else .error .malformed
  | _, o => .error o.refuse

/-- The value with a name. -/
def named (names : List (String × α)) (name : String) : Except Refusal α :=
  match names.lookup name with
  | some x => .ok x
  | none => .error .mismatched

/-- One of several named values: its name, or an object whose only member has that name and the
value `null`. -/
def choice (names : List (String × α)) : Decoder α
  | _, .text raw => do named names (← Outline.rawString raw)
  | 0, .object .. => .error .malformed
  | _ + 1, .object ms closed =>
    match ms with
    | [] => .error .malformed
    | (raw, o) :: more => do
      let x ← named names (← Outline.rawString raw)
      match o with
      | .null => if more.isEmpty && closed then .ok x else .error .malformed
      | o => .error o.refuse
  | _, _ => .error .malformed

/-- A member that a record may have, and the check that its value can be read. -/
structure Field where
  name : String
  check : Decoder Unit

/-- A member whose value is read by `d`. -/
def field (name : String) (d : Decoder α) : Field :=
  ⟨name, fun depth o => (d depth o).map fun _ => ()⟩

/-- The members of a record that a text gives: each name at most once, each value checked. -/
structure Record where
  depth : Nat
  given : List (String × Outline)

/-- The given members of an object, in the order of the text. Members with other names are
skipped; a name that was given before is refused. -/
def givenMembers (fields : List Field) (depth : Nat) :
    List (String × Outline) → List (List Char × Outline) →
      Except Refusal (List (String × Outline))
  | given, [] => .ok given
  | given, (raw, o) :: ms => do
    let key ← Outline.rawString raw
    match fields.find? (fun f => f.name == key) with
    | none =>
      if o.whole then givenMembers fields depth given ms else .error .malformed
    | some f =>
      if (given.lookup key).isSome then .error .mismatched else
      f.check depth o
      givenMembers fields depth (given ++ [(key, o)]) ms

/-- The members of a record given as an array: the values in the order of the fields. -/
def givenItems (depth : Nat) : List Field → List Outline →
    Except Refusal (List (String × Outline))
  | _, [] => .ok []
  | [], _ :: _ => .error .malformed
  | f :: fs, o :: os => do
    f.check depth o
    let rest ← givenItems depth fs os
    .ok ((f.name, o) :: rest)

/-- A record: an object, or an array of the values in the order of the fields. -/
def record (fields : List Field) (build : Record → Except Refusal α) : Decoder α
  | 0, .array .. => .error .malformed
  | 0, .object .. => .error .malformed
  | depth + 1, .array os closed => do
    let given ← givenItems depth fields os
    if closed then build ⟨depth, given⟩ else .error .malformed
  | depth + 1, .object ms closed => do
    let given ← givenMembers fields depth [] ms
    if closed then build ⟨depth, given⟩ else .error .malformed
  | _, o => .error o.refuse

namespace Record

/-- The value of a member that has to be there. -/
def required (r : Record) (name : String) (d : Decoder α) : Except Refusal α :=
  match r.given.lookup name with
  | some o => d r.depth o
  | none => .error .mismatched

/-- The value of a member, or a default if it is missing. -/
def defaulted (r : Record) (name : String) (d : Decoder α) (fallback : α) : Except Refusal α :=
  match r.given.lookup name with
  | some o => d r.depth o
  | none => .ok fallback

end Record

/-- Read a whole text. -/
def read (d : Decoder α) (text : String) : Except Refusal α := do
  let (o, more) := Outline.ofText text.toList
  let x ← d depthLimit o
  if more then .error .malformed else .ok x

end Decoder

/-- The JSON value of a text. -/
def Json.parse (text : String) : Except Refusal Json := Decoder.json.read text

end Watchdesk
