import PinpointAgent.GoInt
import PinpointAgent.GoFloat
import PinpointAgent.TransactionId
import PinpointAgent.Stats.Registry
import PinpointAgent.Stats.Aggregator
import PinpointAgent.Stats.Interval
import PinpointAgent.Wire.Span
import PinpointAgent.Wire.Stat
import PinpointAgent.Wire.Command
import PinpointAgent.Stream.Law
import PinpointAgent.Stream.Wrappers
import PinpointAgent.Stats.Worker
import PinpointAgent.Stats.Concurrent
import PinpointAgent.Stream.Retry
