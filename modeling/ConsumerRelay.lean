import ConsumerRelay.Types
import ConsumerRelay.Store
import ConsumerRelay.Accumulate
import ConsumerRelay.Relay
import ConsumerRelay.SendPackets
import ConsumerRelay.Receive
import ConsumerRelay.System
import ConsumerRelay.Acknowledgement
import ConsumerRelay.QueueInvariant
import ConsumerRelay.HeadOfLine
import ConsumerRelay.Downtime
import ConsumerRelay.Binding
import ConsumerRelay.Progress
import ConsumerRelay.Record
import ConsumerRelay.Outbox
import ConsumerRelay.OutboxRefinement
import ConsumerRelay.Throttle
