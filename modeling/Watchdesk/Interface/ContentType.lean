import Watchdesk.Text.Blank

/-!
# Content types

A content type names a type and a subtype, which may end in a suffix behind a plus sign, and may
be followed by parameters. It says JSON if its type is `application` and its subtype or its suffix
is `json`.
-/

namespace Watchdesk.ContentType

/-- A character of a name. -/
def isToken (c : Char) : Bool :=
  c.isAlphanum || c ∈ ['!', '#', '$', '%', '&', '\x27', '*', '+', '-', '.', '^', '_', '\x60', '|',
    '~']

/-- Where a reader of parameters stands. -/
inductive Place where
  /-- Before the name of a parameter. -/
  | start
  | name
  /-- Behind the equals sign. -/
  | value
  | bare
  | quoted
  /-- Behind the closing quote. -/
  | afterQuote
deriving DecidableEq, Repr

/-- The text after the semicolon is a list of parameters. -/
def parametersFrom : Place → List Char → Bool
  | .start, [] | .value, [] | .bare, [] | .afterQuote, [] => true
  | .name, [] | .quoted, [] => false
  | .start, c :: s =>
    if c = ' ' then parametersFrom .start s else isToken c && parametersFrom .name s
  | .name, c :: s =>
    if c = '=' then parametersFrom .value s else isToken c && parametersFrom .name s
  | .value, c :: s =>
    if c = '"' then parametersFrom .quoted s else isToken c && parametersFrom .bare s
  | .bare, c :: s =>
    if c = ';' then parametersFrom .start s else isToken c && parametersFrom .bare s
  | .quoted, c :: s =>
    if c = '"' then parametersFrom .afterQuote s
    else 0x20 ≤ c.toNat && c.toNat < 0x7F && parametersFrom .quoted s
  | .afterQuote, c :: s => c = ';' && parametersFrom .start s

/-- A subtype without its suffix, and the suffix behind the last plus sign. -/
def splitSuffix (subtype : List Char) : List Char × Option (List Char) :=
  let suffix := (subtype.reverse.takeWhile (· ≠ '+')).reverse
  let stem := subtype.take (subtype.length - suffix.length - 1)
  if suffix.length < subtype.length && !stem.isEmpty then (stem, some suffix) else (subtype, none)

/-- A content type that says JSON. -/
def isJson (contentType : String) : Bool :=
  let (essence, rest) := contentType.toList.span (· ≠ ';')
  let (type, slash) := essence.span (· ≠ '/')
  let subtype := slash.drop 1
  let (stem, suffix) := splitSuffix (subtype.map Char.toLower)
  let json := ['j', 's', 'o', 'n']
  String.ofList (type.map Char.toLower) == "application" && !subtype.isEmpty &&
    subtype.all isToken && parametersFrom .start (rest.drop 1) &&
    (stem == json || suffix == some json)

end Watchdesk.ContentType
