import Watchdesk.Json.Decoder

/-!
# Notices

Short messages to the operators. `NewNotice` is a notice as it is handed in, `Notice` one that is
on the list.
-/

namespace Watchdesk

/-- What a notice is about. -/
inductive NoticeVariant where
  | info
  | success
  | warning
  | error
deriving DecidableEq, Repr, Inhabited

/-- The name of a variant. -/
def NoticeVariant.name : NoticeVariant → String
  | .info => "info"
  | .success => "success"
  | .warning => "warning"
  | .error => "error"

/-- Every variant with its name. -/
def NoticeVariant.names : List (String × NoticeVariant) :=
  [.info, .success, .warning, .error].map fun v => (v.name, v)

/-- How long a notice stays up. -/
inductive NoticeDuration where
  /-- As long as the settings say. -/
  | usual
  /-- Until it is dismissed. -/
  | persistent
  /-- For some milliseconds; none of them means until it is dismissed. -/
  | milliseconds (n : Nat)
deriving DecidableEq, Repr, Inhabited

/-- A notice that is handed in. -/
structure NewNotice where
  variant : NoticeVariant
  title : String
  description : Option String := none
  duration : NoticeDuration := .usual
deriving DecidableEq, Repr, Inhabited

/-- A notice that is on the list. -/
structure Notice where
  id : String
  title : String
  description : Option String
  variant : NoticeVariant
  /-- How long it stays up; none if it stays until it is dismissed. -/
  duration : Option Nat
  /-- When it was published, in milliseconds. -/
  createdAt : Int
deriving DecidableEq, Repr, Inhabited

namespace Notice

open Decoder

/-- A notice in JSON. -/
def decoder : Decoder Notice :=
  record
    [field "id" string, field "title" string, field "description" (optional string),
      field "variant" (choice NoticeVariant.names), field "duration_ms" (optional nat64),
      field "created_at_epoch_ms" int64]
    fun r => do
      let id ← r.required "id" string
      let title ← r.required "title" string
      let description ← r.defaulted "description" (optional string) none
      let variant ← r.required "variant" (choice NoticeVariant.names)
      let duration ← r.defaulted "duration_ms" (optional nat64) none
      let createdAt ← r.required "created_at_epoch_ms" int64
      .ok { id, title, description, variant, duration, createdAt }

/-- An integer as a JSON value. -/
def intJson : Int → Json
  | .ofNat n => .nat n
  | .negSucc n => .number (.negative (n + 1))

/-- The notice as a JSON value. -/
def toJson (n : Notice) : Json :=
  .ofMembers [("id", .string n.id), ("title", .string n.title),
    ("description", .optString n.description), ("variant", .string n.variant.name),
    ("duration_ms", .optNat n.duration), ("created_at_epoch_ms", intJson n.createdAt)]

end Notice

end Watchdesk
