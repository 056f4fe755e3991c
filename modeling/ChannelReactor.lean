import ChannelReactor.Main
import ChannelReactor.Scenario.Drill
import ChannelReactor.Scenario.Request
import ChannelReactor.Proofs.Ends
import ChannelReactor.Proofs.Recorder
import ChannelReactor.Proofs.ConnectionMoves
import ChannelReactor.Proofs.Sessions
import ChannelReactor.Proofs.Conservation
import ChannelReactor.Proofs.ReactorMoves
import ChannelReactor.Proofs.Custody
import ChannelReactor.Proofs.Lifecycle
import ChannelReactor.Proofs.Accepting
import ChannelReactor.Proofs.ListenerLoss
import ChannelReactor.Proofs.PollTables
import ChannelReactor.Proofs.Polling
import ChannelReactor.Proofs.Exchanges
import ChannelReactor.Proofs.ConnectionEnds
import ChannelReactor.Proofs.Operations
import ChannelReactor.Proofs.Layers
import ChannelReactor.Proofs.Turns
import ChannelReactor.Proofs.Visits
import ChannelReactor.Proofs.DispatchOrder
import ChannelReactor.Proofs.FailureIsolation
import ChannelReactor.Proofs.Lingering
import ChannelReactor.Proofs.Journal
import ChannelReactor.Proofs.Following
import ChannelReactor.Proofs.Delivery
import ChannelReactor.Proofs.GracefulClose
import ChannelReactor.Proofs.Inactivity
import ChannelReactor.Proofs.Possession
import ChannelReactor.Proofs.Completion
import ChannelReactor.Proofs.Gathering
import ChannelReactor.Proofs.StreamReads
import ChannelReactor.Proofs.ReadPaths
import ChannelReactor.Proofs.Enduring
import ChannelReactor.Proofs.Attunement
import ChannelReactor.Proofs.Handling
import ChannelReactor.Proofs.Stages
import ChannelReactor.Proofs.Registrations
import ChannelReactor.Proofs.RoundTrip
import ChannelReactor.Proofs.Injection
import ChannelReactor.Proofs.Expiry
import ChannelReactor.Proofs.Activity
import ChannelReactor.Proofs.Backing
import ChannelReactor.Proofs.Bystanders
import ChannelReactor.Proofs.Strides
import ChannelReactor.Proofs.EchoHooks
import ChannelReactor.Proofs.EchoCapacity
import ChannelReactor.Proofs.Books
import ChannelReactor.Proofs.Trading
import ChannelReactor.Proofs.EchoDelivery
import ChannelReactor.Proofs.Mirrors
import ChannelReactor.Proofs.Transparency
import ChannelReactor.Proofs.Waits
import ChannelReactor.Proofs.Deadlines
import ChannelReactor.Proofs.Stopping
import ChannelReactor.Proofs.Blame
import ChannelReactor.Proofs.ModeChanges
import ChannelReactor.Proofs.Finality
import ChannelReactor.Proofs.FinalEvictions
import ChannelReactor.Proofs.HardFailures
import ChannelReactor.Proofs.ClockRange
import ChannelReactor.Proofs.BlockingWrites
import ChannelReactor.Proofs.Promptness
import ChannelReactor.Proofs.EchoLosses
import ChannelReactor.Proofs.Markers
import ChannelReactor.Proofs.Draining
