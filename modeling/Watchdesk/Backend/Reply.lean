import Watchdesk.Fault
import Watchdesk.Json.Decoder
import Watchdesk.Json.Printer

/-!
# Replies of the backend

A reply has a status and a body. A reply that refuses may say why: in a JSON text, or in the
member `detail` or `message` of a JSON object.
-/

namespace Watchdesk

/-- A reply. -/
structure Reply where
  status : Nat
  body : String
deriving DecidableEq, Repr, Inhabited

namespace Reply

/-- The backend did what it was asked. -/
def isSuccess (r : Reply) : Bool := 200 ≤ r.status && r.status < 300

/-- The same question may get a better reply later. -/
def isTransient (r : Reply) : Bool :=
  r.status == 408 || r.status == 429 || (500 ≤ r.status && r.status ≤ 599)

/-- The reason that a JSON value gives. A detail that is a text stands even if it is empty. -/
def reason : Json → String
  | .string s => s
  | payload =>
    match payload.get? "detail", payload.get? "message" with
    | some (.string s), _ => s
    | some .null, some (.string s) => s
    | some .null, _ => ""
    | some detail, _ => detail.compact
    | none, some (.string s) => s
    | none, _ => ""

/-- What is said of a reply that gives no reason. -/
def bareReason (r : Reply) : String := "Request failed (" ++ toString r.status ++ ")"

/-- The reason that a refusal gives. -/
def detail (r : Reply) : String :=
  match Json.parse r.body with
  | .ok payload => if reason payload = "" then r.bareReason else reason payload
  | .error _ => r.bareReason

/-- The fault of a refusal. -/
def fault (r : Reply) : Fault := .refused (some r.status) r.detail

end Reply

/-- The reply to a trigger. -/
structure TriggerReply where
  success : Bool
  message : String := ""
  details : Option Json := none
deriving Repr, Inhabited

namespace TriggerReply

open Decoder

/-- The reply to a trigger in JSON. -/
def decoder : Decoder TriggerReply :=
  record
    [field "success" bool, field "message" string, field "details" (optional json)]
    fun r => do
      let success ← r.required "success" bool
      let message ← r.defaulted "message" string ""
      let details ← r.defaulted "details" (optional json) none
      .ok { success, message, details }

/-- The reply as a JSON value. -/
def toJson (t : TriggerReply) : Json :=
  .ofMembers [("success", .bool t.success), ("message", .string t.message),
    ("details", t.details.getD .null)]

end TriggerReply

end Watchdesk
