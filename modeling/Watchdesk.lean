import Watchdesk.Backend.Address
import Watchdesk.Backend.Host
import Watchdesk.Backend.Pursuit
import Watchdesk.Backend.Reply
import Watchdesk.Backend.Request
import Watchdesk.Backend.Retry
import Watchdesk.Clock.Agenda
import Watchdesk.Clock.Bench
import Watchdesk.Clock.Sleep
import Watchdesk.CommandLine.Options
import Watchdesk.CommandLine.Program
import Watchdesk.CommandLine.Resemblance
import Watchdesk.CommandLine.Terminal
import Watchdesk.CommandLine.Text
import Watchdesk.Decimal.Double
import Watchdesk.Decimal.Layout
import Watchdesk.Decimal.Shortest
import Watchdesk.Desk.Answering
import Watchdesk.Desk.Basic
import Watchdesk.Desk.Description
import Watchdesk.Desk.Exporting
import Watchdesk.Desk.Running
import Watchdesk.Desk.Serving
import Watchdesk.Desk.Task
import Watchdesk.Desk.Turn
import Watchdesk.Desk.Watching
import Watchdesk.Disk
import Watchdesk.Domain.Direction
import Watchdesk.Domain.Folding
import Watchdesk.Domain.Joining
import Watchdesk.Domain.Letter
import Watchdesk.Domain.Name
import Watchdesk.Domain.Punycode
import Watchdesk.Domain.Shift
import Watchdesk.Domain.Spelling
import Watchdesk.Export.Outcome
import Watchdesk.Export.Plan
import Watchdesk.Export.Run
import Watchdesk.Export.Save
import Watchdesk.Fault
import Watchdesk.Health
import Watchdesk.Interface.ContentType
import Watchdesk.Interface.Response
import Watchdesk.Interface.Route
import Watchdesk.Job.Kind
import Watchdesk.Job.State
import Watchdesk.Json.Decoder
import Watchdesk.Json.Numeral
import Watchdesk.Json.Outline
import Watchdesk.Json.Printer
import Watchdesk.Json.Value
import Watchdesk.Main
import Watchdesk.Notice.Basic
import Watchdesk.Notice.Center
import Watchdesk.Polling.Source
import Watchdesk.Polling.Store
import Watchdesk.Proofs.Clock.Timers
import Watchdesk.Proofs.Polling.Poller
import Watchdesk.Rehearsal.Conversation
import Watchdesk.Rehearsal.Script
import Watchdesk.Rehearsal.Session
import Watchdesk.Rehearsal.Stage
import Watchdesk.Runner
import Watchdesk.Settings.Basic
import Watchdesk.Settings.File
import Watchdesk.Suspect.Basic
import Watchdesk.Suspect.Sheet
import Watchdesk.Table.Csv
import Watchdesk.Text.Blank
import Watchdesk.Text.Chart
import Watchdesk.Text.Composition
import Watchdesk.Text.Composition.Order
import Watchdesk.Text.Composition.Pairs
import Watchdesk.Text.Composition.Repeats
import Watchdesk.Text.Digest
import Watchdesk.Text.Digits
import Watchdesk.Text.Mark
import Watchdesk.Text.Percent
import Watchdesk.Text.Pieces
import Watchdesk.Text.Quoted
import Watchdesk.Text.Unassigned
import Watchdesk.Text.Unprintable
import Watchdesk.Time.Date
import Watchdesk.Time.Reading
import Watchdesk.Time.Timestamp
import Watchdesk.Transition
import Watchdesk.Proofs.Polling.Lifecycle
import Watchdesk.Proofs.Running.Chase
import Watchdesk.Proofs.Running.Loop
import Watchdesk.Proofs.Running.Superseded
import Watchdesk.Proofs.Export.Cap
import Watchdesk.Proofs.Export.Completeness
import Watchdesk.Proofs.Clock.Share
import Watchdesk.Proofs.Desk.Life
import Watchdesk.Proofs.Desk.Moves
import Watchdesk.Proofs.Desk.Calls
import Watchdesk.Proofs.Desk.Polling
import Watchdesk.Proofs.Desk.Chasing
import Watchdesk.Proofs.Polling.Ledger
import Watchdesk.Proofs.Running.Resolution
import Watchdesk.Proofs.Desk.Quiet
import Watchdesk.Proofs.Desk.Slot
import Watchdesk.Proofs.Desk.Closing
import Watchdesk.Proofs.Table.RoundTrip
import Watchdesk.Proofs.Desk.Announcing
import Watchdesk.Proofs.Notice.Board
import Watchdesk.Proofs.Notice.Wall
import Watchdesk.Proofs.Desk.Posting
import Watchdesk.Proofs.Export.Clerk
import Watchdesk.Proofs.Export.Delays
import Watchdesk.Proofs.Desk.Performing
import Watchdesk.Proofs.Desk.Traffic
import Watchdesk.Proofs.Desk.Triggers
import Watchdesk.Proofs.Desk.Courses
import Watchdesk.Proofs.Export.Saving
import Watchdesk.Proofs.Desk.Outcomes
import Watchdesk.Proofs.Text.Splitting
import Watchdesk.Proofs.Desk.Patience
import Watchdesk.Proofs.Clock.Fates
import Watchdesk.Proofs.Desk.Abstaining
import Watchdesk.Proofs.Desk.Pulse
import Watchdesk.Proofs.Notice.Timers
import Watchdesk.Proofs.Desk.Cadence
import Watchdesk.Proofs.Polling.Observers
import Watchdesk.Proofs.Desk.Staff
import Watchdesk.Proofs.Desk.Returning
import Watchdesk.Proofs.Polling.Delivery
import Watchdesk.Proofs.Polling.Flapping
import Watchdesk.Proofs.Backend.Retrying
import Watchdesk.Proofs.Running.Following
import Watchdesk.Proofs.Export.Requests
import Watchdesk.Proofs.Backend.Reasons
import Watchdesk.Proofs.Disk.Growing
import Watchdesk.Proofs.Export.Containment
import Watchdesk.Proofs.Export.Agreement
import Watchdesk.Proofs.Desk.Accord
import Watchdesk.Proofs.Desk.Filing
import Watchdesk.Proofs.Running.Mirroring
import Watchdesk.Proofs.Job.RoundTrip
