import Dialplan.Build.Builder
import Dialplan.Identity
import Dialplan.Session.Basic
import Dialplan.Proofs.Race.Watch
import Dialplan.Proofs.Race.Rounds
import Dialplan.Proofs.Race.Result
import Dialplan.Proofs.Polling.Rules
import Dialplan.Proofs.Strategy.Nodes
import Dialplan.Proofs.Polling.Frame
import Dialplan.Proofs.Polling.Custody
import Dialplan.Proofs.Opens.Ledger
import Dialplan.Proofs.Opens.SingleWinner
import Dialplan.Proofs.Build.Evaluation
import Dialplan.Proofs.Build.Nodes
import Dialplan.Proofs.Attempts.SideBySide
import Dialplan.Proofs.Opens.Requests
import Dialplan.Proofs.Opens.Authorised
import Dialplan.Proofs.Cached.Course
import Dialplan.Proofs.Cached.Partition
import Dialplan.Proofs.Cached.Protocol
import Dialplan.Proofs.Attempts.Lifecycle
import Dialplan.Proofs.Sequence.Tries
import Dialplan.Proofs.Sequence.Watch
import Dialplan.Proofs.Sequence.Visits
import Dialplan.Proofs.Sequence.Result
import Dialplan.Proofs.Sequence.Schedule
import Dialplan.Proofs.Stores.Footprint
import Dialplan.Proofs.Stores.OnlySuccess
import Dialplan.Proofs.Build.Sites
import Dialplan.Proofs.History.Preferred
import Dialplan.Proofs.History.Deeds
import Dialplan.Proofs.History.Calls
import Dialplan.Proofs.Attempts.Shared
import Dialplan.Proofs.Stores.Provenance
import Dialplan.Proofs.Build.Names
import Dialplan.Proofs.Build.WellFormed
import Dialplan.Proofs.Build.Checks
import Dialplan.Proofs.Build.Refusal
import Dialplan.Proofs.Build.Bindings
import Dialplan.Proofs.Build.Failure
import Dialplan.Proofs.Polling.Rest
import Dialplan.Proofs.Race.Passes
import Dialplan.Proofs.Polling.Parts
import Dialplan.Proofs.Timing.Bound
import Dialplan.Proofs.Timing.Poll
import Dialplan.Proofs.Timing.Resolve
import Dialplan.Proofs.Cached.Winner
import Dialplan.Proofs.Cached.Flush
import Dialplan.Proofs.Opens.Times
import Dialplan.Proofs.Cached.Freshness
import Dialplan.Proofs.Cached.Steady
import Dialplan.Proofs.Build.Slice
import Dialplan.Proofs.Build.Inline
import Dialplan.Proofs.Lockstep.Rules
import Dialplan.Proofs.Lockstep.Progress
import Dialplan.Proofs.Lockstep.Nodes
import Dialplan.Proofs.Lockstep.Trees
import Dialplan.Proofs.Lockstep.StandIns
import Dialplan.Proofs.Support.Soundness
import Dialplan.Proofs.Families.Basic
import Dialplan.Proofs.Families.Beside
import Dialplan.Proofs.Families.Apart
import Dialplan.Proofs.Json.Numbers
import Dialplan.Proofs.Json.Skipping
import Dialplan.Proofs.Json.Codecs
import Dialplan.Proofs.Json.Records
import Dialplan.Proofs.Json.Objects
import Dialplan.Proofs.Json.RoundTrip
import Dialplan.Proofs.Json.Persistence
import Dialplan.Proofs.Program.Expressions
import Dialplan.Proofs.Program.Instructions
import Dialplan.Proofs.Timing.Fate
import Dialplan.Proofs.Timing.SteadyRace
import Dialplan.Proofs.Timing.HeadStart
import Dialplan.Proofs.Polling.Descents
import Dialplan.Proofs.Timing.PathDelays
import Dialplan.Proofs.Timing.PathStarts
import Dialplan.Proofs.Url.Reading
import Dialplan.Proofs.Url.Place
import Dialplan.Proofs.Url.Escapes
import Dialplan.Proofs.Url.Segments
import Dialplan.Proofs.Transport.Destination
import Dialplan.Proofs.Transport.Key
import Dialplan.Proofs.Build.Grouping
import Dialplan.Proofs.Build.Calls
