import Watchdesk.Json.Decoder

/-!
# Suspects

A suspect is a pair of an address and a user agent that the detector flagged, with what is known
of it. The backend keeps two lists of them, one from clicks and one from conversions, and hands
them out in pages.
-/

namespace Watchdesk

/-- Which list of suspects. -/
inductive Listing where
  | clicks
  | conversions
deriving DecidableEq, Repr, Inhabited

namespace Listing

/-- The name of a list. -/
def name : Listing → String
  | .clicks => "clicks"
  | .conversions => "conversions"

/-- Every list with its name. -/
def names : List (String × Listing) := [.clicks, .conversions].map fun l => (l.name, l)

/-- Where the backend keeps a list. -/
def path : Listing → String
  | .clicks => "/api/suspicious/clicks"
  | .conversions => "/api/suspicious/conversions"

/-- How the names of files with this list start. -/
def fileStem : Listing → String
  | .clicks => "suspicious_clicks"
  | .conversions => "suspicious_conversions"

/-- What is counted in this list. -/
def countLabel : Listing → String
  | .clicks => "Clicks"
  | .conversions => "Conversions"

end Listing

/-- How bad a suspect is. -/
inductive RiskLevel where
  | high
  | medium
  | low
deriving DecidableEq, Repr, Inhabited

/-- The name of a level. -/
def RiskLevel.name : RiskLevel → String
  | .high => "high"
  | .medium => "medium"
  | .low => "low"

/-- Every level with its name. -/
def RiskLevel.names : List (String × RiskLevel) :=
  [.high, .medium, .low].map fun l => (l.name, l)

/-- An address and a user agent that the detector flagged. -/
structure Suspect where
  date : String := ""
  address : String
  userAgent : String
  clicks : Option Nat := none
  conversions : Option Nat := none
  mediaCount : Nat := 0
  programCount : Nat := 0
  reasons : List String := []
  reasonsFormatted : List String := []
  minSeconds : Option Double := none
  maxSeconds : Option Double := none
  mediaNames : List String := []
  programNames : List String := []
  riskLevel : Option RiskLevel := none
  riskScore : Option Double := none
  riskLabel : Option String := none
deriving Repr, Inhabited

namespace Suspect

open Decoder

/-- A suspect in JSON; only the address and the user agent have to be there. -/
def decoder : Decoder Suspect :=
  record
    [field "date" string, field "ipaddress" string, field "useragent" string,
      field "total_clicks" (optional nat64), field "total_conversions" (optional nat64),
      field "media_count" nat64, field "program_count" nat64, field "reasons" (list string),
      field "reasons_formatted" (list string),
      field "min_click_to_conv_seconds" (optional double),
      field "max_click_to_conv_seconds" (optional double), field "media_names" (list string),
      field "program_names" (list string), field "risk_level" (optional (choice RiskLevel.names)),
      field "risk_score" (optional double), field "risk_label" (optional string)]
    fun r => do
      let date ← r.defaulted "date" string ""
      let address ← r.required "ipaddress" string
      let userAgent ← r.required "useragent" string
      let clicks ← r.defaulted "total_clicks" (optional nat64) none
      let conversions ← r.defaulted "total_conversions" (optional nat64) none
      let mediaCount ← r.defaulted "media_count" nat64 0
      let programCount ← r.defaulted "program_count" nat64 0
      let reasons ← r.defaulted "reasons" (list string) []
      let reasonsFormatted ← r.defaulted "reasons_formatted" (list string) []
      let minSeconds ← r.defaulted "min_click_to_conv_seconds" (optional double) none
      let maxSeconds ← r.defaulted "max_click_to_conv_seconds" (optional double) none
      let mediaNames ← r.defaulted "media_names" (list string) []
      let programNames ← r.defaulted "program_names" (list string) []
      let riskLevel ← r.defaulted "risk_level" (optional (choice RiskLevel.names)) none
      let riskScore ← r.defaulted "risk_score" (optional double) none
      let riskLabel ← r.defaulted "risk_label" (optional string) none
      .ok { date, address, userAgent, clicks, conversions, mediaCount, programCount, reasons,
            reasonsFormatted, minSeconds, maxSeconds, mediaNames, programNames, riskLevel,
            riskScore, riskLabel }

/-- An optional number in JSON. -/
def doubleJson : Option Double → Json
  | none => .null
  | some x => .number (.fraction x)

/-- The suspect as a JSON value. -/
def toJson (s : Suspect) : Json :=
  .ofMembers [("date", .string s.date), ("ipaddress", .string s.address),
    ("useragent", .string s.userAgent), ("total_clicks", .optNat s.clicks),
    ("total_conversions", .optNat s.conversions), ("media_count", .nat s.mediaCount),
    ("program_count", .nat s.programCount), ("reasons", .strings s.reasons),
    ("reasons_formatted", .strings s.reasonsFormatted),
    ("min_click_to_conv_seconds", doubleJson s.minSeconds),
    ("max_click_to_conv_seconds", doubleJson s.maxSeconds),
    ("media_names", .strings s.mediaNames), ("program_names", .strings s.programNames),
    ("risk_level", .optString (s.riskLevel.map RiskLevel.name)),
    ("risk_score", doubleJson s.riskScore), ("risk_label", .optString s.riskLabel)]

/-- Why the suspect was flagged: each reason once, in the order in which it first stands. -/
def readableReasons (s : Suspect) : List String :=
  let source := if s.reasons.isEmpty then s.reasonsFormatted else s.reasons
  source.foldl (fun seen reason => if seen.contains reason then seen else seen ++ [reason]) []

end Suspect

/-- A page of a list of suspects. -/
structure SuspectPage where
  date : Option String := none
  data : List Suspect := []
  /-- How many suspects the whole list has. -/
  total : Nat
  limit : Option Nat := none
  offset : Option Nat := none
deriving Repr, Inhabited

namespace SuspectPage

open Decoder

/-- A page in JSON; only the total has to be there. -/
def decoder : Decoder SuspectPage :=
  record
    [field "date" (optional string), field "data" (list Suspect.decoder), field "total" nat64,
      field "limit" (optional nat64), field "offset" (optional nat64)]
    fun r => do
      let date ← r.defaulted "date" (optional string) none
      let data ← r.defaulted "data" (list Suspect.decoder) []
      let total ← r.required "total" nat64
      let limit ← r.defaulted "limit" (optional nat64) none
      let offset ← r.defaulted "offset" (optional nat64) none
      .ok { date, data, total, limit, offset }

/-- The page as a JSON value. -/
def toJson (p : SuspectPage) : Json :=
  .ofMembers [("date", .optString p.date), ("data", .array (p.data.map Suspect.toJson)),
    ("total", .nat p.total), ("limit", .optNat p.limit), ("offset", .optNat p.offset)]

end SuspectPage

end Watchdesk
