import PinpointAgent.Stats.Aggregator

/-!
# Stat encoding

`makePAgentStat` (`grpc.go`) turns one `inspectorStats` snapshot into a `pb.PAgentStat`, and
`statStream.sendStats` wraps a batch of them into one `pb.PStatMessage`. The CPU-load
sub-message is left out with the `float64` fields it copies; the sub-messages the code leaves
`nil` or empty are left out too.
-/

namespace PinpointAgent

/-- `pb.PJvmGc` as `makePAgentStat` fills it. -/
structure PJvmGc where
  type : Int
  jvmMemoryHeapUsed : Int
  jvmMemoryHeapMax : Int
  jvmMemoryNonHeapUsed : Int
  jvmMemoryNonHeapMax : Int
  jvmGcOldCount : Int
  jvmGcOldTime : Int
  deriving DecidableEq

structure PTransaction where
  sampledNewCount : Int
  sampledContinuationCount : Int
  unsampledNewCount : Int
  unsampledContinuationCount : Int
  skippedNewCount : Int
  skippedContinuationCount : Int
  deriving DecidableEq

structure PActiveTraceHistogram where
  version : Int
  histogramSchemaType : Int
  activeTraceCount : List Int
  deriving DecidableEq

structure PResponseTime where
  avg : Int
  max : Int
  deriving DecidableEq

/-- `pb.PAgentStat` as `makePAgentStat` fills it. -/
structure PAgentStat where
  timestamp : Int
  collectInterval : Int
  gc : PJvmGc
  transaction : PTransaction
  activeTrace : PActiveTraceHistogram
  responseTime : PResponseTime
  deriving DecidableEq

/-- `pb.PStatMessage` holding a `pb.PAgentStatBatch`. -/
structure PStatMessage where
  agentStat : List PAgentStat
  deriving DecidableEq

def makePAgentStat (stat : InspectorStats) : PAgentStat where
  timestamp := goDiv stat.sampleTime millisecond
  collectInterval := 5000
  gc :=
    { type := 1
      jvmMemoryHeapUsed := stat.heapAlloc
      jvmMemoryHeapMax := stat.heapMax
      jvmMemoryNonHeapUsed := stat.nonHeapAlloc
      jvmMemoryNonHeapMax := wrap64 (stat.nonHeapAlloc + 1000)
      jvmGcOldCount := stat.gcNum
      jvmGcOldTime := stat.gcTime }
  transaction :=
    { sampledNewCount := stat.sampleNew
      sampledContinuationCount := stat.sampleCont
      unsampledNewCount := stat.unSampleNew
      unsampledContinuationCount := stat.unSampleCont
      skippedNewCount := stat.skipNew
      skippedContinuationCount := stat.skipCont }
  activeTrace := ⟨1, 2, stat.activeSpan⟩
  responseTime := ⟨stat.responseAvg, stat.responseMax⟩

/-- The batch message `sendStats` builds: `makePAgentStat` of each snapshot, in order. -/
def statBatch (stats : List InspectorStats) : PStatMessage := ⟨stats.map makePAgentStat⟩

end PinpointAgent
