import BroadcastHub.Fault
import BroadcastHub.Frame
import BroadcastHub.Http.Handshake
import BroadcastHub.Json.Parser
import BroadcastHub.Json.Printer
import BroadcastHub.Main
import BroadcastHub.Octets
import BroadcastHub.Program.StartUp
import BroadcastHub.Proofs.Http.Handshake
import BroadcastHub.Proofs.Json.Overlay
import BroadcastHub.Proofs.Scenario.BroadcastOrder
import BroadcastHub.Proofs.Scenario.BroadcastOutcome
import BroadcastHub.Proofs.Scenario.Clients
import BroadcastHub.Proofs.Scenario.Draining
import BroadcastHub.Proofs.Scenario.Echo
import BroadcastHub.Proofs.Scenario.Farewell
import BroadcastHub.Proofs.Scenario.Isolation
import BroadcastHub.Proofs.Scenario.Keeping
import BroadcastHub.Proofs.Scenario.Metrics
import BroadcastHub.Proofs.Scenario.Moves
import BroadcastHub.Proofs.Scenario.Outside
import BroadcastHub.Proofs.Scenario.Playing
import BroadcastHub.Proofs.Scenario.PongDiscipline
import BroadcastHub.Proofs.Scenario.Reception
import BroadcastHub.Proofs.Scenario.Registration
import BroadcastHub.Proofs.Scenario.SessionLoop
import BroadcastHub.Proofs.Scenario.Silence
import BroadcastHub.Proofs.Scenario.Touches
import BroadcastHub.Proofs.Scenario.Turnover
import BroadcastHub.Proofs.Scenario.Twins
import BroadcastHub.Proofs.Scenario.WholeFrames
import BroadcastHub.Proofs.Scenario.WriteDiscipline
import BroadcastHub.Proofs.Server.Accounts
import BroadcastHub.Proofs.Server.Admitting
import BroadcastHub.Proofs.Server.Alike
import BroadcastHub.Proofs.Server.Announcements
import BroadcastHub.Proofs.Server.Asides
import BroadcastHub.Proofs.Server.Attendants
import BroadcastHub.Proofs.Server.Beginnings
import BroadcastHub.Proofs.Server.Course
import BroadcastHub.Proofs.Server.Deliveries
import BroadcastHub.Proofs.Server.Desks
import BroadcastHub.Proofs.Server.Doubles
import BroadcastHub.Proofs.Server.Echoes
import BroadcastHub.Proofs.Server.Elementary
import BroadcastHub.Proofs.Server.Fences
import BroadcastHub.Proofs.Server.Hearing
import BroadcastHub.Proofs.Server.Housing
import BroadcastHub.Proofs.Server.Keeping
import BroadcastHub.Proofs.Server.Latecomers
import BroadcastHub.Proofs.Server.Ledger
import BroadcastHub.Proofs.Server.Likeness
import BroadcastHub.Proofs.Server.Lines
import BroadcastHub.Proofs.Server.Loops
import BroadcastHub.Proofs.Server.Openings
import BroadcastHub.Proofs.Server.Partings
import BroadcastHub.Proofs.Server.Polls
import BroadcastHub.Proofs.Server.Pongs
import BroadcastHub.Proofs.Server.PromptWrites
import BroadcastHub.Proofs.Server.Queues
import BroadcastHub.Proofs.Server.Race
import BroadcastHub.Proofs.Server.RaceOutcome
import BroadcastHub.Proofs.Server.Reads
import BroadcastHub.Proofs.Server.Replies
import BroadcastHub.Proofs.Server.Requests
import BroadcastHub.Proofs.Server.Residence
import BroadcastHub.Proofs.Server.Rings
import BroadcastHub.Proofs.Server.Sends
import BroadcastHub.Proofs.Server.Sequence
import BroadcastHub.Proofs.Server.SessionDoubles
import BroadcastHub.Proofs.Server.SessionSteps
import BroadcastHub.Proofs.Server.SessionTurns
import BroadcastHub.Proofs.Server.Sessions
import BroadcastHub.Proofs.Server.Slots
import BroadcastHub.Proofs.Server.Sockets
import BroadcastHub.Proofs.Server.Sorting
import BroadcastHub.Proofs.Server.Steady
import BroadcastHub.Proofs.Server.Takes
import BroadcastHub.Proofs.Server.Upgrades
import BroadcastHub.Proofs.Server.Views
import BroadcastHub.Proofs.Server.Wires
import BroadcastHub.Proofs.Server.WriteTurns
import BroadcastHub.Proofs.Server.Writes
import BroadcastHub.Proofs.Settings.Defaults
import BroadcastHub.Proofs.Settings.Layering
import BroadcastHub.Proofs.Settings.Saving
import BroadcastHub.Proofs.Wire.Arrival
import BroadcastHub.Proofs.Wire.Chunks
import BroadcastHub.Proofs.Wire.ClientFrame
import BroadcastHub.Proofs.Wire.ClientMessage
import BroadcastHub.Proofs.Wire.Interleaving
import BroadcastHub.Proofs.Wire.Limits
import BroadcastHub.Proofs.Wire.Recovery
import BroadcastHub.Proofs.Wire.Rejection
import BroadcastHub.Proofs.Wire.RoundTrip
import BroadcastHub.Scenario.Report
import BroadcastHub.Server.Admission
import BroadcastHub.Server.Configuration
import BroadcastHub.Settings.Load
import BroadcastHub.Text.Utf8
import BroadcastHub.Wire.Decoder
import BroadcastHub.Wire.Encoder
import BroadcastHub.Wire.Header
