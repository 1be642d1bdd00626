import TranscodeConsole.Analysis
import TranscodeConsole.Batch
import TranscodeConsole.Cancellation
import TranscodeConsole.Command
import TranscodeConsole.CommandLine
import TranscodeConsole.CommandLine.Given
import TranscodeConsole.CommandLine.Word
import TranscodeConsole.Config
import TranscodeConsole.Config.Load
import TranscodeConsole.Config.Read
import TranscodeConsole.Config.Scan
import TranscodeConsole.Config.Value
import TranscodeConsole.Decimal.Binary
import TranscodeConsole.Decimal.Digits
import TranscodeConsole.Decimal.Places
import TranscodeConsole.Decimal.Shortest
import TranscodeConsole.Display
import TranscodeConsole.Feed.Body
import TranscodeConsole.Feed.Cursor
import TranscodeConsole.Feed.Framing
import TranscodeConsole.Feed.Page
import TranscodeConsole.Feed.Session
import TranscodeConsole.Figures
import TranscodeConsole.Files
import TranscodeConsole.Job
import TranscodeConsole.Json.Numeral
import TranscodeConsole.Json.Problem
import TranscodeConsole.Json.Read
import TranscodeConsole.Json.Record
import TranscodeConsole.Json.Text
import TranscodeConsole.Json.Token
import TranscodeConsole.Json.Tree
import TranscodeConsole.Json.Value
import TranscodeConsole.Json.Write
import TranscodeConsole.Listing
import TranscodeConsole.Listing.Desk
import TranscodeConsole.Log
import TranscodeConsole.Main
import TranscodeConsole.Poll.Owner
import TranscodeConsole.Poll.Ticker
import TranscodeConsole.Poll.Worker
import TranscodeConsole.QuickTranscode
import TranscodeConsole.Rehearsal.Commands
import TranscodeConsole.Rehearsal.Dashboard
import TranscodeConsole.Rehearsal.Feeds
import TranscodeConsole.Rehearsal.Listings
import TranscodeConsole.Rehearsal.Polls
import TranscodeConsole.Rehearsal.Quick
import TranscodeConsole.Rehearsal.Script
import TranscodeConsole.Rehearsal.Stage
import TranscodeConsole.Rehearsal.Tracked
import TranscodeConsole.Report
import TranscodeConsole.Service.Endpoint
import TranscodeConsole.Service.Error
import TranscodeConsole.Service.Request
import TranscodeConsole.Service.Status
import TranscodeConsole.Settings
import TranscodeConsole.Template
import TranscodeConsole.Text.Blank
import TranscodeConsole.Text.Bytes
import TranscodeConsole.Text.Concealed
import TranscodeConsole.Text.Quoted
import TranscodeConsole.Text.Word
import TranscodeConsole.Tracker
import TranscodeConsole.Tracking
import TranscodeConsole.Url.Basic
import TranscodeConsole.Url.Escape
import TranscodeConsole.Url.Folding
import TranscodeConsole.Url.Host
import TranscodeConsole.Url.Parse
import TranscodeConsole.Url.Punycode
import TranscodeConsole.Url.Query
import TranscodeConsole.Uuid
import TranscodeConsole.Proofs.Feed.Framing
import TranscodeConsole.Proofs.Feed.Remaining
import TranscodeConsole.Proofs.Feed.Reading
import TranscodeConsole.Proofs.Listing.Step
import TranscodeConsole.Proofs.Listing.Slot
import TranscodeConsole.Proofs.Listing.Desk
import TranscodeConsole.Proofs.Feed.Paging
import TranscodeConsole.Proofs.Listing.Crew
import TranscodeConsole.Proofs.Listing.Shown
import TranscodeConsole.Proofs.Listing.LatestLoad
import TranscodeConsole.Proofs.Rehearsal.Stage
import TranscodeConsole.Proofs.Listing.Serving
import TranscodeConsole.Proofs.Rehearsal.Readers
import TranscodeConsole.Proofs.Listing.Resting
import TranscodeConsole.Proofs.Rehearsal.Settling
import TranscodeConsole.Proofs.Rehearsal.Pages
import TranscodeConsole.Proofs.Listing.Turns
import TranscodeConsole.Proofs.Rehearsal.Enacted
import TranscodeConsole.Proofs.Tracking.Step
import TranscodeConsole.Proofs.Tracking.Discipline
import TranscodeConsole.Proofs.Tracking.Provenance
import TranscodeConsole.Proofs.Tracking.Tended
import TranscodeConsole.Proofs.Quick.Relay
import TranscodeConsole.Proofs.Quick.Coherent
import TranscodeConsole.Proofs.Quick.Verdict
import TranscodeConsole.Proofs.Listing.Continuable
import TranscodeConsole.Proofs.Rehearsal.Relayed
import TranscodeConsole.Proofs.Quick.History
import TranscodeConsole.Proofs.Quick.Frozen
import TranscodeConsole.Proofs.Quick.Order
import TranscodeConsole.Proofs.Quick.Cause
import TranscodeConsole.Proofs.Quick.Rounds
import TranscodeConsole.Proofs.Poll.Step
import TranscodeConsole.Proofs.Tracking.Answered
import TranscodeConsole.Proofs.Rehearsal.Followed
import TranscodeConsole.Proofs.Rehearsal.Arrivals
import TranscodeConsole.Proofs.Rehearsal.Stoppers
import TranscodeConsole.Proofs.Tracking.Stopped
import TranscodeConsole.Proofs.Json.Cutting
import TranscodeConsole.Proofs.Json.Parsing
import TranscodeConsole.Proofs.Json.Echoes
import TranscodeConsole.Proofs.Wire.Restored
import TranscodeConsole.Proofs.Json.Growth
import TranscodeConsole.Proofs.Wire.Extensible
import TranscodeConsole.Proofs.Listing.Forgetting
import TranscodeConsole.Proofs.Feed.Ageing
import TranscodeConsole.Proofs.Rehearsal.Sessions
import TranscodeConsole.Proofs.Feed.CutOff
import TranscodeConsole.Proofs.Poll.History
import TranscodeConsole.Proofs.Poll.Workshop
import TranscodeConsole.Proofs.Rehearsal.Workshop
import TranscodeConsole.Proofs.Counters
import TranscodeConsole.Proofs.Quick.Asking
import TranscodeConsole.Proofs.Redraw
import TranscodeConsole.Proofs.Watch.JobLine
import TranscodeConsole.Proofs.Watch.Shown
import TranscodeConsole.Proofs.Rehearsal.Waits
import TranscodeConsole.Proofs.Rehearsal.Overheard
import TranscodeConsole.Proofs.Rehearsal.Observed
import TranscodeConsole.Proofs.Rehearsal.Watched
import TranscodeConsole.Proofs.Feed.Bounded
import TranscodeConsole.Proofs.Service.Refusals
import TranscodeConsole.Proofs.Url.Path
import TranscodeConsole.Proofs.Url.Query
import TranscodeConsole.Proofs.Url.Hosted
import TranscodeConsole.Proofs.Service.Endpoints
