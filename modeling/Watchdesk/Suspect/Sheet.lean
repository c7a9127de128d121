import Watchdesk.Suspect.Basic

/-!
# Suspects as a table

The header and the records of an exported list, and the name of its file. Both lists share most
columns; the list of conversions also has the two times from a click to a conversion.
-/

namespace Watchdesk

/-- Which suspects are asked for: a list, and an optional date and search term. -/
structure Selection where
  listing : Listing
  date : Option String := none
  search : Option String := none
deriving DecidableEq, Repr, Inhabited

namespace Selection

/-- A filter that says nothing counts as none. -/
def nonEmpty (filter : Option String) : Option String := filter.filter fun s => s ≠ ""

/-- The name of the file of an exported selection. -/
def fileName (s : Selection) : String :=
  let stem := s.listing.fileStem ++ "_" ++ s.date.getD ""
  match nonEmpty s.search with
  | some term => stem ++ "_" ++ term ++ ".csv"
  | none => stem ++ ".csv"

end Selection

namespace Listing

/-- The columns of a list that stand between the count and the media. -/
def secondsColumns : Listing → List String
  | .clicks => []
  | .conversions => ["Min seconds to conversion", "Max seconds to conversion"]

/-- The header of a list. -/
def header (l : Listing) : List String :=
  ["Risk level", "IP address", "User Agent", l.countLabel] ++ l.secondsColumns
    ++ ["Media count", "Media", "Program count", "Programs", "Reasons"]

/-- What is counted of a suspect in a list. -/
def count (l : Listing) (s : Suspect) : Nat :=
  match l with
  | .clicks => s.clicks.getD 0
  | .conversions => s.conversions.getD 0

/-- Seconds in a cell; seconds that are not known leave it empty. -/
def secondsCell : Option Double → String
  | some x => x.plain
  | none => ""

/-- The cells of a suspect in the columns of `secondsColumns`. -/
def secondsCells (l : Listing) (s : Suspect) : List String :=
  match l with
  | .clicks => []
  | .conversions => [secondsCell s.minSeconds, secondsCell s.maxSeconds]

/-- Texts in one cell. -/
def joined (xs : List String) : String := ", ".intercalate xs

/-- The record of a suspect. -/
def record (l : Listing) (s : Suspect) : List String :=
  [s.riskLabel.getD "-", s.address, s.userAgent, toString (l.count s)] ++ l.secondsCells s
    ++ [toString s.mediaCount, joined s.mediaNames, toString s.programCount,
      joined s.programNames, joined s.readableReasons]

/-- A record has as many cells as the header. -/
theorem length_record (l : Listing) (s : Suspect) :
    (l.record s).length = l.header.length := by
  cases l <;> rfl

end Listing

end Watchdesk
