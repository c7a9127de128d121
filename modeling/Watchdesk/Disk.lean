import Watchdesk.Fault

/-!
# Files and folders

A file system without links: folders and files under absolute paths, and the faults that it
answers with. A path is followed from its first part to its last one; `..` leads to the folder
above, and a part can only be followed inside a folder that is there.

A file is emptied when it is opened, before anything is written to it. So a write that the medium
stops halfway leaves the first bytes of the new content, and nothing of the old one.
-/

namespace Watchdesk

/-- Why the file system refuses. -/
inductive DiskFault where
  | notFound
  | exists
  | notFolder
  | isFolder
  | nameTooLong
  | badName
  | notText
  | noSpace
  | tooLarge
  | overQuota
  | damaged
  | denied
  | readOnly
deriving DecidableEq, Repr, Inhabited

/-- The wording of a fault. -/
def DiskFault.text : DiskFault → String
  | .notFound => "No such file or directory (os error 2)"
  | .exists => "File exists (os error 17)"
  | .notFolder => "Not a directory (os error 20)"
  | .isFolder => "Is a directory (os error 21)"
  | .nameTooLong => "File name too long (os error 36)"
  | .badName => "file name contained an unexpected NUL byte"
  | .notText => "stream did not contain valid UTF-8"
  | .noSpace => "No space left on device (os error 28)"
  | .tooLarge => "File too large (os error 27)"
  | .overQuota => "Disk quota exceeded (os error 122)"
  | .damaged => "Input/output error (os error 5)"
  | .denied => "Permission denied (os error 13)"
  | .readOnly => "Read-only file system (os error 30)"

/-- What is found under a path. -/
inductive DiskEntry where
  | folder
  | file (content : ByteArray)
deriving Inhabited

/-- A place in the file system: the names of the folders that lead to it. -/
abbrev Place := List String

/-- How the medium stops a write: before the file is opened, or after some bytes of it. -/
inductive Stop where
  | refused (fault : DiskFault)
  | broken (taken : Nat) (fault : DiskFault)
deriving DecidableEq, Repr

/-- What the medium has against a file of some content at a place: that it is full, say, or that it
may only be read. -/
abbrev Medium := Place → ByteArray → Option Stop

/-- A file system: what is at each place. -/
structure Disk where
  entries : List (Place × DiskEntry) := []
  /-- Where a path that does not start with a slash starts. -/
  home : Place := []
  medium : Medium := fun _ _ => none
deriving Inhabited

namespace Disk

/-- What is at a place. -/
def entry? (d : Disk) (p : Place) : Option DiskEntry :=
  if p.isEmpty then some .folder else d.entries.lookup p

/-- Put something at a place. -/
def put (d : Disk) (p : Place) (e : DiskEntry) : Disk :=
  { d with entries := (p, e) :: d.entries.filter fun x => x.1 ≠ p }

/-- The longest name that a file may have, in bytes. -/
def longestName : Nat := 255

/-- The longest path that can be followed, in bytes. -/
def longestPath : Nat := 4095

/-- A path: whether it starts with a slash, and its parts between the slashes. -/
structure Path where
  absolute : Bool
  parts : List String
deriving DecidableEq, Repr

/-- The parts of a path; a path cannot be followed if it holds a NUL or is too long or empty. -/
def path (text : String) : Except DiskFault Path :=
  if text.any (· = '\x00') then .error .badName
  else if longestPath < text.utf8ByteSize then .error .nameTooLong
  else if text = "" then .error .notFound
  else .ok ⟨text.startsWith "/", (text.splitOn "/").filter (· ≠ "")⟩

/-- Follow one part of a path from a place. -/
def follow (d : Disk) (p : Place) (part : String) : Except DiskFault Place :=
  match d.entry? p with
  | none => .error .notFound
  | some (.file _) => .error .notFolder
  | some .folder =>
    if part = "." then .ok p
    else if part = ".." then .ok p.dropLast
    else if longestName < part.utf8ByteSize then .error .nameTooLong
    else .ok (p ++ [part])

/-- Follow the parts of a path from a place. The last place need not be there. -/
def followAll (d : Disk) : Place → List String → Except DiskFault Place
  | p, [] => .ok p
  | p, part :: rest => do d.followAll (← d.follow p part) rest

/-- The place that a path leads to. -/
def locate (d : Disk) (path : Path) : Except DiskFault Place :=
  d.followAll (if path.absolute then [] else d.home) path.parts

/-- Make a folder inside a folder that is there. -/
def makeFolder (d : Disk) (path : Path) : Except DiskFault Disk := do
  let p ← d.locate path
  match d.entry? p with
  | some _ => .error .exists
  | none => .ok (d.put p .folder)

/-- A folder is under a path. -/
def isFolder (d : Disk) (path : Path) : Bool :=
  match d.locate path with
  | .ok p =>
    match d.entry? p with
    | some .folder => true
    | _ => false
  | .error _ => false

/-- A fault does not matter where a folder is. -/
def unlessFolder (d : Disk) (path : Path) (fault : DiskFault) : Except DiskFault Unit :=
  if d.isFolder path then .ok () else .error fault

/-- The parts of a path, in reverse, without the last one. Parts that only stand for the folder
before them count for nothing. -/
def parent (parts : List String) : List String :=
  ((parts.dropWhile (· = ".")).drop 1).dropWhile (· = ".")

theorem length_parent_lt {parts : List String} (h : parts ≠ []) :
    (parent parts).length < parts.length := by
  have length_le (s : List String) : (s.dropWhile (· = ".")).length ≤ s.length :=
    (List.dropWhile_sublist _).length_le
  have outer := length_le ((parts.dropWhile (· = ".")).drop 1)
  have inner := length_le parts
  have pos := List.length_pos_iff.mpr h
  rw [List.length_drop] at outer
  unfold parent
  omega

/-- Make a folder and the folders above it, as far as they are not there; the parts of its path
are given in reverse. Folders that were made stay when one below them cannot be made. -/
def makeFolders (d : Disk) (absolute : Bool) (parts : List String) :
    Disk × Except DiskFault Unit :=
  if _h : parts = [] then (d, .ok ())
  else
    let path : Path := ⟨absolute, parts.reverse⟩
    match d.makeFolder path with
    | .ok made => (made, .ok ())
    | .error .notFound =>
      match d.makeFolders absolute (parent parts) with
      | (d, .error fault) => (d, .error fault)
      | (d, .ok ()) =>
        match d.makeFolder path with
        | .ok made => (made, .ok ())
        | .error fault => (d, d.unlessFolder path fault)
    | .error fault => (d, d.unlessFolder path fault)
termination_by parts.length
decreasing_by exact length_parent_lt (by assumption)

/-- Make a folder and the folders above it; no folder is made of an empty text. -/
def provideFolder (d : Disk) (folder : String) : Disk × Except DiskFault Unit :=
  if folder = "" then (d, .ok ())
  else
    match path folder with
    | .error fault => (d, .error fault)
    | .ok path => d.makeFolders path.absolute path.parts.reverse

/-- The place of the file that takes everything and keeps nothing of it. -/
def nowhere : Place := ["dev", "null"]

/-- The place of the file that has no space for a single byte. -/
def nospace : Place := ["dev", "full"]

/-- What is at a place after some bytes were written there. -/
def kept (p : Place) (bytes : ByteArray) : DiskEntry :=
  .file (if p = nowhere then .empty else bytes)

/-- Write a file at a place, as far as the medium takes it. -/
def fill (d : Disk) (p : Place) (content : ByteArray) : Disk × Except DiskFault Unit :=
  match d.medium p content with
  | none => (d.put p (kept p content), .ok ())
  | some (.refused fault) => (d, .error fault)
  | some (.broken taken fault) => (d.put p (kept p (content.extract 0 taken)), .error fault)

/-- Write a file over the one that is there. What a write has done to the disk stays when it
fails. -/
def overwrite (d : Disk) (file : String) (content : ByteArray) : Disk × Except DiskFault Unit :=
  match (path file).bind d.locate with
  | .error fault => (d, .error fault)
  | .ok p =>
    match d.entry? p with
    | some .folder => (d, .error .isFolder)
    | some (.file _) => d.fill p content
    | none => d.fill p content

/-- The disk with a file on it that can be written as a whole. -/
def write (d : Disk) (file : String) (content : ByteArray) : Except DiskFault Disk :=
  match d.overwrite file content with
  | (written, .ok ()) => .ok written
  | (_, .error fault) => .error fault

/-- Read a file. A slash at the end of its path asks for a folder. -/
def read (d : Disk) (file : String) : Except DiskFault ByteArray := do
  let path ← path file
  let p ← d.locate path
  let p ← if file.endsWith "/" then d.follow p "." else .ok p
  match d.entry? p with
  | some .folder => .error .isFolder
  | some (.file content) => .ok content
  | none => .error .notFound

/-- Read a file of text. -/
def readText (d : Disk) (file : String) : Except DiskFault String := do
  match String.fromUTF8? (← d.read file) with
  | some text => .ok text
  | none => .error .notText

/-- Write a file of text and the folders above it; nothing changes where that cannot be done. -/
def provideFile (d : Disk) (file text : String) : Disk :=
  match path file with
  | .error _ => d
  | .ok p =>
    let (made, _) := d.makeFolders p.absolute p.parts.dropLast.reverse
    match made.write file text.toUTF8 with
    | .ok written => written
    | .error _ => d

/-- A system with its usual folders, the files that keep nothing, and a folder of one's own. -/
def ofSystem (own : String) : Disk :=
  let folders := [own, "bin", "boot", "dev", "etc", "home", "lib", "mnt", "opt", "proc", "root",
    "run", "sbin", "srv", "sys", "tmp", "usr", "var"]
  { entries := (nowhere, .file .empty) :: (nospace, .file .empty) ::
      folders.map fun f => ([f], .folder)
    medium := fun p content =>
      if p = nospace && content.size ≠ 0 then some (.broken 0 .noSpace) else none }

/-- The path of a name inside a folder. A name that starts with a slash is a path by itself. -/
def join (folder name : String) : String :=
  if folder = "" || name.startsWith "/" then name
  else if folder.endsWith "/" then folder ++ name
  else folder ++ "/" ++ name

/-- The files below a place, by their paths from there, in the order of the paths. -/
def filesBelow (d : Disk) (p : Place) : List (String × ByteArray) :=
  let found := d.entries.filterMap fun (q, e) =>
    match e with
    | .file content =>
      if p.isPrefixOf q then some ("/".intercalate (q.drop p.length), content) else none
    | .folder => none
  found.mergeSort fun a b => a.1 ≤ b.1

end Disk

end Watchdesk
