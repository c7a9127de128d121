import Watchdesk.Backend.Host

/-!
# Addresses

Reading an address, putting it into its common form, and giving it a query. The common form has a
scheme and a host in lower case, no port that its scheme implies, no `.` or `..` in its path, and
percent signs in front of whatever may not stand as it is.
-/

namespace Watchdesk

/-- An address in its common form. -/
structure Address where
  scheme : List Char
  /-- What stands between the two slashes and the path. -/
  authority : Option (List Char)
  path : List Char
  query : Option (List Char) := none
  fragment : Option (List Char) := none
deriving DecidableEq, Repr, Inhabited

namespace Address

/-- The text of an address. -/
def text (a : Address) : List Char :=
  let host := match a.authority with
    | some authority => '/' :: '/' :: authority
    | none => if ['/', '/'].isPrefixOf a.path then ['/', '.'] else []
  let query := match a.query with
    | some query => '?' :: query
    | none => []
  let fragment := match a.fragment with
    | some fragment => '#' :: fragment
    | none => []
  a.scheme ++ ':' :: host ++ a.path ++ query ++ fragment

/-- What is left of a text without blanks at its ends and without tabs and line breaks. -/
def clean (s : List Char) : List Char :=
  let outer := fun (c : Char) => c.toNat ≤ 0x20
  let trimmed := ((s.dropWhile outer).reverse.dropWhile outer).reverse
  trimmed.filter fun c => c != '\t' && c != '\n' && c != '\r'

/-- A scheme in lower case, and the text behind its colon. -/
def splitScheme (s : List Char) : Option (List Char × List Char) :=
  let (name, rest) := s.span fun c => c.isAlphanum || c ∈ ['+', '-', '.']
  match name, rest with
  | c :: _, ':' :: rest => if c.isAlpha then some (name.map Char.toLower, rest) else none
  | _, _ => none

/-- The port that a common scheme implies. -/
def impliedPort (scheme : List Char) : Option Nat :=
  match String.ofList scheme with
  | "http" | "ws" => some 80
  | "https" | "wss" => some 443
  | "ftp" => some 21
  | _ => none

/-- The scheme of files. -/
def isFile (scheme : List Char) : Bool := String.ofList scheme == "file"

/-- A scheme whose addresses always have a host and a path; a backslash is a slash there. -/
def isSpecial (scheme : List Char) : Bool := (impliedPort scheme).isSome || isFile scheme

/-- A slash in an address of a scheme. -/
def isSlash (special : Bool) (c : Char) : Bool := c = '/' || (special && c = '\\')

/-- A character that ends an authority. -/
def endsAuthority (special : Bool) (c : Char) : Bool :=
  isSlash special c || c = '?' || c = '#'

/-- The text before and after the last `@` of an authority. -/
def splitUser (authority : List Char) : Option (List Char × List Char) :=
  if authority.contains '@' then
    let host := (authority.reverse.takeWhile (· ≠ '@')).reverse
    some (authority.take (authority.length - host.length - 1), host)
  else none

/-- The written form of a user's name and password, with the `@` behind it. -/
def userText (user : List Char) : List Char :=
  let (name, rest) := user.span (· ≠ ':')
  let name := Percent.encode Percent.keepsUser name
  let password := match rest with
    | [] => []
    | _ :: password => Percent.encode Percent.keepsUser password
  let password := if password.isEmpty then [] else ':' :: password
  if name.isEmpty && password.isEmpty then [] else name ++ password ++ ['@']

/-- The host at the start of a text, and the text from its port on: a colon between brackets
belongs to the host. -/
def splitHost : Bool → List Char → List Char × List Char
  | _, [] => ([], [])
  | inBrackets, c :: s =>
    if c = ':' && !inBrackets then ([], c :: s)
    else
      let (host, rest) := splitHost (if c = '[' then true else if c = ']' then false
        else inBrackets) s
      (c :: host, rest)

/-- A port as it is written, unless it is the one that the scheme implies, and the text behind its
digits, which a backslash starts if there is any. -/
def splitPort (scheme : List Char) : List Char → Except AddressFault (List Char × List Char)
  | [] => .ok ([], [])
  | _ :: s =>
    let (digits, behind) := Digits.split s
    let port := Digits.value digits
    if 2 ^ 16 ≤ port || behind.head?.any (· ≠ '\\') then .error .badPort
    else if digits.isEmpty || impliedPort scheme = some port then .ok ([], behind)
    else .ok (':' :: Digits.ofNat port, behind)

/-- The written form of an authority, and the text behind its port; `more` says whether anything
stands behind the authority. -/
def splitAuthority (scheme authority : List Char) (more : Bool) :
    Except AddressFault (List Char × List Char) := do
  let special := isSpecial scheme
  let (user, rest) := match splitUser authority with
    | some (user, rest) => (user, rest)
    | none => ([], authority)
  if authority.length ≠ rest.length && user.isEmpty && rest.isEmpty && more then
    .error .emptyHost
  else
    let user := userText user
    let (host, port) := splitHost false rest
    if host.isEmpty && (special || !user.isEmpty || !port.isEmpty) then .error .emptyHost
    else
      let host ← if special then Host.ofName host else Host.ofOpaque host
      let (port, behind) ← splitPort scheme port
      .ok (user ++ host ++ port, behind)

/-- A segment that stands for the folder that holds it. -/
def isDot (segment : List Char) : Bool :=
  String.ofList (segment.map Char.toLower) ∈ [".", "%2e"]

/-- A segment that stands for the folder above. -/
def isDoubleDot (segment : List Char) : Bool :=
  String.ofList (segment.map Char.toLower) ∈ ["..", ".%2e", "%2e.", "%2e%2e"]

/-- A drive: a letter, and a colon or a bar. Its common form has the colon. -/
def drive : List Char → Option (List Char)
  | [c, mark] => if c.isAlpha && (mark = ':' || mark = '|') then some [c, ':'] else none
  | _ => none

/-- The segments of a path, in reverse, with one more. The first segment of the path of a file may
be a drive. -/
def extend (file : Bool) (done : List (List Char)) (segment : List Char) : List (List Char) :=
  (if file && done.isEmpty then (drive segment).getD segment else segment) :: done

/-- The segments of a path, in reverse, without the last one, unless that is a drive. -/
def shorten : List (List Char) → List (List Char)
  | [] => []
  | segment :: above => if (drive segment).isSome then segment :: above else above

/-- The segments of a path, in reverse, after more of them; `.` and `..` leave an empty segment if
they stand at the end. -/
def resolve (file : Bool) : List (List Char) → List (List Char) → List (List Char)
  | done, [] => done
  | done, segment :: rest =>
    if isDoubleDot segment then
      let above := shorten done
      resolve file (if rest.isEmpty then [] :: above else above) rest
    else if isDot segment then resolve file (if rest.isEmpty then [] :: done else done) rest
    else resolve file (extend file done segment) rest

/-- The segments of the common form of a path, from the text behind its first slash. -/
def segments (special file : Bool) (s : List Char) : List (List Char) :=
  let given := Text.splitOn '/' (s.map fun c => if isSlash special c then '/' else c)
  (resolve file [] (given.map (Percent.encode Percent.keepsPath))).reverse

/-- A text without a slash at its start. -/
def withoutSlash (special : Bool) : List Char → List Char
  | [] => []
  | c :: s => if isSlash special c then s else c :: s

/-- A path of segments. -/
def ofSegments (segments : List (List Char)) : List Char := segments.flatMap ('/' :: ·)

/-- The common form of a path. -/
def pathText (special : Bool) (s : List Char) : List Char :=
  if s.isEmpty && !special then []
  else ofSegments (segments special false (withoutSlash special s))

/-- The text up to a query or a fragment, and the rest of it. -/
def splitPath (s : List Char) : List Char × List Char := s.span fun c => c ≠ '?' && c ≠ '#'

/-- An address with the query and the fragment that a text starts with. -/
def withTail (a : Address) (special : Bool) (tail : List Char) : Address :=
  let fragment := fun s => Percent.encode Percent.keepsFragment s
  match tail with
  | '#' :: s => { a with fragment := some (fragment s) }
  | '?' :: s =>
    let (query, rest) := s.span (· ≠ '#')
    let query := some (Percent.encode (Percent.keepsQuery special) query)
    match rest with
    | _ :: s => { a with query, fragment := some (fragment s) }
    | [] => { a with query }
  | _ => a

/-- An address with a host, from the text behind the slashes. -/
def withHost (scheme s : List Char) : Except AddressFault Address := do
  let special := isSpecial scheme
  let (authority, rest) := s.span fun c => !endsAuthority special c
  let (authority, behind) ← splitAuthority scheme authority (!rest.isEmpty)
  let (path, tail) := splitPath (behind ++ rest)
  let path := pathText special path
  .ok (withTail { scheme, authority := some authority, path } special tail)

/-- An address of a file on a host, from the text behind the first slash of the path. A drive is
never on another host. -/
def onHost (scheme host s : List Char) : Address :=
  let (path, tail) := splitPath s
  let segments := segments true true path
  let host := if (segments.head?.bind drive).isSome then [] else host
  let path := '/' :: (ofSegments segments).dropWhile (· = '/')
  withTail { scheme, authority := some host, path } true tail

/-- An address of a file, from the text behind the scheme. Without the name of a host the slash in
front of the path is a part of it. -/
def ofFile (scheme s : List Char) : Except AddressFault Address := do
  let path := withoutSlash true s
  let rest := withoutSlash true path
  if s.length = rest.length + 2 then
    let (name, behind) := rest.span fun c => !endsAuthority true c
    if (drive name).isSome then .ok (onHost scheme [] rest)
    else
      let host ← if name.isEmpty then .ok [] else Host.ofName name
      if host.isEmpty || String.ofList host == "localhost" then .ok (onHost scheme [] behind)
      else .ok (onHost scheme host (withoutSlash true behind))
  else .ok (onHost scheme [] path)

/-- Read an address. -/
def parse (s : List Char) : Except AddressFault Address :=
  match splitScheme (clean s) with
  | none => .error .noScheme
  | some (scheme, rest) =>
    if isFile scheme then ofFile scheme rest
    else if isSpecial scheme then withHost scheme (rest.dropWhile (isSlash true))
    else
      match rest with
      | '/' :: '/' :: rest => withHost scheme rest
      | '/' :: _ =>
        let (path, tail) := splitPath rest
        .ok (withTail { scheme, authority := none, path := pathText false path } false tail)
      | _ =>
        let (path, tail) := splitPath rest
        let path := Percent.encode Percent.keepsPrintable path
        .ok (withTail { scheme, authority := none, path } false tail)

/-- The address with more parameters in its query. -/
def withParameters (a : Address) (parameters : List (String × String)) : Address :=
  let written := parameters.map fun (name, value) =>
    Percent.form name.toList ++ '=' :: Percent.form value.toList
  let query := match a.query with
    | some query => if query.isEmpty then [] else [query]
    | none => []
  { a with query := some (['&'].intercalate (query ++ written)) }

end Address

end Watchdesk
