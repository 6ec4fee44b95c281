import AccessWindow.Cluster.Service
import AccessWindow.Cluster.Wire
import AccessWindow.Dict
import AccessWindow.Event
import AccessWindow.Fault
import AccessWindow.Files.Cache
import AccessWindow.Files.Disk
import AccessWindow.Files.Path
import AccessWindow.Files.Plan
import AccessWindow.Grant
import AccessWindow.Hook.Admission
import AccessWindow.Hook.Router
import AccessWindow.Hook.Wire
import AccessWindow.Http.Exchange
import AccessWindow.Http.MediaType
import AccessWindow.Http.Reply
import AccessWindow.Json.Choice
import AccessWindow.Json.Codec
import AccessWindow.Json.Document
import AccessWindow.Json.Flaw
import AccessWindow.Json.Printer
import AccessWindow.Json.Record
import AccessWindow.Json.Value
import AccessWindow.Lifecycle.Closing
import AccessWindow.Lifecycle.Keeper
import AccessWindow.Lifecycle.Opening
import AccessWindow.Lifecycle.Provision
import AccessWindow.Lifecycle.Reconcile
import AccessWindow.Lifecycle.Review
import AccessWindow.Net.Address
import AccessWindow.Number.Double
import AccessWindow.Number.Unsigned
import AccessWindow.Pattern.Basic
import AccessWindow.Pattern.Class
import AccessWindow.Pattern.Reader
import AccessWindow.Pattern.Size
import AccessWindow.Policy
import AccessWindow.Program
import AccessWindow.Proofs.Admissible
import AccessWindow.Proofs.Agreement
import AccessWindow.Proofs.Answers
import AccessWindow.Proofs.Apart
import AccessWindow.Proofs.Approval
import AccessWindow.Proofs.Attempts
import AccessWindow.Proofs.Beside
import AccessWindow.Proofs.Completion
import AccessWindow.Proofs.Conduct.Closing
import AccessWindow.Proofs.Conduct.Conclusion
import AccessWindow.Proofs.Conduct.Confinement
import AccessWindow.Proofs.Conduct.Denial
import AccessWindow.Proofs.Conduct.Evidence
import AccessWindow.Proofs.Conduct.Failure
import AccessWindow.Proofs.Conduct.Opening
import AccessWindow.Proofs.Conduct.Permission
import AccessWindow.Proofs.Conduct.Recording
import AccessWindow.Proofs.Conduct.Review
import AccessWindow.Proofs.Conduct.Smooth
import AccessWindow.Proofs.Conduct.Telling
import AccessWindow.Proofs.Conduct.Upshot
import AccessWindow.Proofs.Conduct.Visit
import AccessWindow.Proofs.Convergence
import AccessWindow.Proofs.Copy
import AccessWindow.Proofs.Delay
import AccessWindow.Proofs.Dialogue
import AccessWindow.Proofs.Dutiful
import AccessWindow.Proofs.Earned
import AccessWindow.Proofs.Editions
import AccessWindow.Proofs.Ending
import AccessWindow.Proofs.Files.Place
import AccessWindow.Proofs.Files.Stores
import AccessWindow.Proofs.History
import AccessWindow.Proofs.Instant
import AccessWindow.Proofs.Lateness
import AccessWindow.Proofs.Lookup
import AccessWindow.Proofs.Marker
import AccessWindow.Proofs.Observers
import AccessWindow.Proofs.Orphans
import AccessWindow.Proofs.Overlap
import AccessWindow.Proofs.Pending
import AccessWindow.Proofs.Precedence
import AccessWindow.Proofs.Progress
import AccessWindow.Proofs.Provisioned
import AccessWindow.Proofs.Quiescence
import AccessWindow.Proofs.Rehearsed
import AccessWindow.Proofs.Removal
import AccessWindow.Proofs.Reply
import AccessWindow.Proofs.Rounds
import AccessWindow.Proofs.Scene
import AccessWindow.Proofs.Service
import AccessWindow.Proofs.Setback
import AccessWindow.Proofs.Settled
import AccessWindow.Proofs.Settling
import AccessWindow.Proofs.SharedSettings
import AccessWindow.Proofs.SingleTicket
import AccessWindow.Proofs.Succession
import AccessWindow.Proofs.Supply
import AccessWindow.Proofs.TicketKept
import AccessWindow.Proofs.Tracking
import AccessWindow.Proofs.Unapproved
import AccessWindow.Proofs.Url.Grants
import AccessWindow.Proofs.Url.Place
import AccessWindow.Proofs.Url.Tickets
import AccessWindow.Proofs.Url.Walk
import AccessWindow.Proofs.Vanishing
import AccessWindow.Proofs.Verdict
import AccessWindow.Proofs.Waits
import AccessWindow.Proofs.WakeUps
import AccessWindow.Proofs.Watches
import AccessWindow.Proofs.Wire.Binding
import AccessWindow.Proofs.Wire.Calendar
import AccessWindow.Proofs.Wire.Codec
import AccessWindow.Proofs.Wire.Document
import AccessWindow.Proofs.Wire.Expiry
import AccessWindow.Proofs.Wire.Issue
import AccessWindow.Proofs.Wire.Literal
import AccessWindow.Proofs.Wire.Members
import AccessWindow.Proofs.Wire.Numeral
import AccessWindow.Proofs.Wire.Percent
import AccessWindow.Proofs.Wire.Printing
import AccessWindow.Proofs.Wire.Record
import AccessWindow.Proofs.Wire.Request
import AccessWindow.Proofs.Wire.Rulebook
import AccessWindow.Proofs.Wire.Steady
import AccessWindow.Proofs.Wire.Submitted
import AccessWindow.Proofs.Wire.Timestamp
import AccessWindow.Proofs.Wire.Trim
import AccessWindow.Proofs.Wire.Utf8
import AccessWindow.Rehearsal.Loop
import AccessWindow.Rehearsal.Run
import AccessWindow.Rehearsal.World
import AccessWindow.Request.Basic
import AccessWindow.Request.Wire
import AccessWindow.Retry
import AccessWindow.Rulebook.Basic
import AccessWindow.Rulebook.Edition
import AccessWindow.Rulebook.Supply
import AccessWindow.Rulebook.Wire
import AccessWindow.Schedule
import AccessWindow.Settings.Access
import AccessWindow.Settings.Environment
import AccessWindow.Settings.Hook
import AccessWindow.Settings.Worker
import AccessWindow.Text.Base64
import AccessWindow.Text.Blank
import AccessWindow.Text.Charset
import AccessWindow.Text.Literal
import AccessWindow.Text.Percent
import AccessWindow.Text.Pieces
import AccessWindow.Text.Utf8
import AccessWindow.Ticket
import AccessWindow.Time.Calendar
import AccessWindow.Time.Instant
import AccessWindow.Time.Rfc3339
import AccessWindow.Tracker.Service
import AccessWindow.Tracker.Wire
import AccessWindow.Unicode.Category
import AccessWindow.Unicode.Folding
import AccessWindow.Unicode.Intervals
import AccessWindow.Unicode.Property
import AccessWindow.Unicode.Script
import AccessWindow.Url.Basic
import AccessWindow.Url.Host
import AccessWindow.Url.Place
import AccessWindow.Url.Punycode
import AccessWindow.Url.Reader
import AccessWindow.Url.Walk
import AccessWindow.Validator
import AccessWindow.Worker.Cycle
