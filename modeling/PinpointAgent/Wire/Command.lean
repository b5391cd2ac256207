import PinpointAgent.Stats.Registry

/-!
# Command messages and thread dumps

The messages of the command channel (`grpc.go`): the handshake `sendCommandMessage` sends, the
requests `recvCommandRequest` stores, the active-thread-count push, and the two thread-dump
lists of `sendActiveThreadDump` and `sendActiveThreadLightDump`.

A dump request names threads and a limit. `makePActiveThreadDumpList_eq`: the full dump lists,
in filter order, the goroutines `dump.Search` finds for the filter's names, at most `limit` of
them, where a limit below `1` stands for the snapshot's size; `makePActiveThreadLightDumpList_eq`:
the light dump lists the snapshot's own first goroutines the same way. An empty filter selects
nothing at all (`empty_filter_dumps_nothing`). `GoroutineDump` and its `Search` are not in the
repository snapshot: the goroutine record keeps the fields the encoders read, and every
statement holds for any lookup function.
-/

namespace PinpointAgent

/-- The command types the agent announces (`pb.PCommandType`). -/
inductive PCommandType where
  | echo
  | activeThreadCount
  | activeThreadDump
  | activeThreadLightDump
  deriving DecidableEq

/-- `pb.PCmdMessage` carrying a `pb.PCmdServiceHandshake`. -/
structure PCmdMessage where
  supportCommandServiceKey : List PCommandType
  deriving DecidableEq

def handshake : PCmdMessage := ⟨[.echo, .activeThreadCount, .activeThreadDump, .activeThreadLightDump]⟩

/-- `pb.PCmdRequest`, as far as the channel keeps it. -/
structure PCmdRequest where
  requestId : Int
  deriving DecidableEq

structure PCmdStreamResponse where
  responseId : Int
  sequenceId : Int
  message : String
  deriving DecidableEq

structure PCmdActiveThreadCountRes where
  commonStreamResponse : PCmdStreamResponse
  histogramSchemaType : Int
  activeThreadCount : List Int
  timeStamp : Int
  deriving DecidableEq

/-! ### Thread dumps -/

/-- A goroutine of a snapshot: the fields the encoders read, `state` being
`g.metas[MetaState]`. -/
structure Goroutine where
  id : Int
  header : String
  trace : String
  state : String
  deriving DecidableEq

/-- A goroutine snapshot, in its native order. -/
structure GoroutineDump where
  goroutines : List Goroutine
  deriving DecidableEq

inductive PThreadState where
  | runnable
  | waiting
  | blocked
  | unknown
  deriving DecidableEq

def goRoutineState (g : Goroutine) : PThreadState :=
  match g.state with
  | "running" => .runnable
  | "select" => .waiting
  | "IO wait" => .waiting
  | "chan receive" => .waiting
  | "sleep" => .blocked
  | _ => .unknown

/-- `pb.PThreadDump`, without the fields the agent always leaves zero. -/
structure PThreadDump where
  threadName : String
  threadId : Int
  threadState : PThreadState
  stackTrace : List String
  deriving DecidableEq

/-- `pb.PActiveThreadDump`, without the fields the agent always leaves zero. -/
structure PActiveThreadDump where
  startTime : Int
  threadDump : PThreadDump
  deriving DecidableEq

structure PThreadLightDump where
  threadName : String
  threadId : Int
  threadState : PThreadState
  deriving DecidableEq

/-- `pb.PActiveThreadLightDump`, without the fields the agent always leaves zero. -/
structure PActiveThreadLightDump where
  startTime : Int
  threadDump : PThreadLightDump
  deriving DecidableEq

def makePActiveThreadDump (now : Int) (g : Goroutine) : PActiveThreadDump :=
  ⟨goDiv now millisecond, ⟨g.header, g.id, goRoutineState g, [g.trace]⟩⟩

def makePActiveThreadLightDump (now : Int) (g : Goroutine) : PActiveThreadLightDump :=
  ⟨goDiv now millisecond, ⟨g.header, g.id, goRoutineState g⟩⟩

/-- The loop both lists run: `for i := 0; i < limit && i < len(xs); i++`, appending `f(xs[i])`,
from index `i`. -/
def limitedLoop {α β : Type} (f : α → β) (limit : Int) : Nat → List α → List β
  | _, [] => []
  | i, x :: xs => if (i : Int) < limit then f x :: limitedLoop f limit (i + 1) xs else []

/-- `limit < 1` stands for the snapshot's size. -/
def dumpLimit (dump : GoroutineDump) (limit : Int) : Int :=
  if limit < 1 then dump.goroutines.length else limit

/-- `makePActiveThreadDumpList(dump, limit, threadName, localId)`, for the lookup `search`
standing for `dump.Search`. -/
def makePActiveThreadDumpList (search : GoroutineDump → String → Option Goroutine)
    (dump : GoroutineDump) (limit : Int) (threadName : List String) (_localId : List Int)
    (now : Int) : List PActiveThreadDump :=
  let limit := dumpLimit dump limit
  let selected := threadName.filterMap (search dump)
  limitedLoop (makePActiveThreadDump now) limit 0 selected

def makePActiveThreadLightDumpList (dump : GoroutineDump) (limit : Int) (now : Int) :
    List PActiveThreadLightDump :=
  limitedLoop (makePActiveThreadLightDump now) (dumpLimit dump limit) 0 dump.goroutines

theorem limitedLoop_eq {α β : Type} (f : α → β) (limit : Int) (i : Nat) (xs : List α) :
    limitedLoop f limit i xs = (xs.take (limit - i).toNat).map f := by
  induction xs generalizing i with
  | nil => simp [limitedLoop]
  | cons x xs ih =>
    rw [limitedLoop, ih]
    split_ifs with h
    · obtain ⟨k, hk⟩ : ∃ k, (limit - i).toNat = k + 1 := ⟨(limit - i).toNat - 1, by omega⟩
      rw [hk, List.take_succ_cons, List.map_cons, show (limit - ↑(i + 1)).toNat = k by omega]
    · rw [show (limit - i).toNat = 0 by omega]; rfl

theorem dumpLimit_toNat (dump : GoroutineDump) (limit : Int) :
    (dumpLimit dump limit).toNat = if limit < 1 then dump.goroutines.length else limit.toNat := by
  unfold dumpLimit; split_ifs <;> simp

/-- The full dump: the first `L` goroutines found for the filter's names, in filter order, for
`L` the snapshot's size when `limit < 1` and `limit` otherwise. -/
theorem makePActiveThreadDumpList_eq (search : GoroutineDump → String → Option Goroutine)
    (dump : GoroutineDump) (limit : Int) (threadName : List String) (localId : List Int)
    (now : Int) :
    makePActiveThreadDumpList search dump limit threadName localId now =
      ((threadName.filterMap (search dump)).take
        (if limit < 1 then dump.goroutines.length else limit.toNat)).map
        (makePActiveThreadDump now) := by
  simp only [makePActiveThreadDumpList, limitedLoop_eq, Nat.cast_zero, sub_zero, dumpLimit_toNat]

/-- The light dump: the snapshot's first `L` goroutines, in native order. -/
theorem makePActiveThreadLightDumpList_eq (dump : GoroutineDump) (limit : Int) (now : Int) :
    makePActiveThreadLightDumpList dump limit now =
      (dump.goroutines.take (if limit < 1 then dump.goroutines.length else limit.toNat)).map
        (makePActiveThreadLightDump now) := by
  simp only [makePActiveThreadLightDumpList, limitedLoop_eq, Nat.cast_zero, sub_zero,
    dumpLimit_toNat]

/-- A snapshot of one running goroutine. -/
def oneGoroutine : GoroutineDump := ⟨[⟨1, "goroutine 1 [running]:", "main.main()", "running"⟩]⟩

/-- With no thread names, the full dump is empty, whatever the snapshot and the limit, while
the light dump of a one-goroutine snapshot is not. -/
theorem empty_filter_dumps_nothing (search : GoroutineDump → String → Option Goroutine) :
    (∀ dump limit localId now, makePActiveThreadDumpList search dump limit [] localId now = []) ∧
      makePActiveThreadLightDumpList oneGoroutine 0 0 ≠ [] :=
  ⟨fun _ _ _ _ => rfl, by decide⟩

end PinpointAgent
