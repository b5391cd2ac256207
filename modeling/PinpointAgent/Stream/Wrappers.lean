import PinpointAgent.Wire.Span
import PinpointAgent.Wire.Stat
import PinpointAgent.Wire.Command
import PinpointAgent.Stream.Law
import Mathlib.Data.List.Forall2

/-!
# The five stream wrappers

`pingStream`, `spanStream`, `statStream`, `cmdStream` and `activeThreadCountStream` (`grpc.go`),
method by method, and each as a `Wrapper` for the law of `Stream.Law`. What the remote end
answers to a `Send` or a `Recv` is a parameter of the method.

Every method but one checks the handle for `nil` first, and every `close` drops the handle
after its one half-close; `io_stepOk`, `close_stepOk` and `install_stepOk` say once why that
meets `StepOk`, and `stream_law` and `spanStream_law` follow from `Wrapper.run_law`.
`spanStream.sendSpanFinish` calls `CloseSend` with no `nil` check and keeps the handle:
`sendSpanFinish_breaks_law` runs it on an absent handle, and before a `close`.

`sendSpan_live`: on a live handle `sendSpan` sends one message, a root span exactly when the
span has no async id, carrying the span's ids and one encoded event per event, in order.
-/

namespace PinpointAgent

variable {μ : Type}

/-- The check-then-send body of `sendPing`, `sendStats` and `sendCommandMessage`: on a `nil`
handle the `Unavailable` status with the wrapper's `message`, else `Send(msg)` and what it
returns. -/
def sendOn (message : String) (stream : Option Handle) (msg : μ) (answer : Option GoError) :
    List (StreamCall μ) × Option GoError :=
  match stream with
  | none => ([], some (unavailableError message))
  | some _ => ([.send msg], answer)

/-- The body of the `close` methods: on a live handle the half-close `c` (its error is only
logged); the wrapper holds `nil` afterwards either way. -/
def closeHandle (c : StreamCall μ) : Option Handle → List (StreamCall μ)
  | none => []
  | some _ => [c]

/-! ### pingStream -/

structure PPing where
  deriving DecidableEq

def ping : PPing := {}

structure PingStream where
  stream : Option Handle

def PingStream.sendPing (s : PingStream) (answer : Option GoError) :
    List (StreamCall PPing) × Option GoError :=
  sendOn "ping stream is nil" s.stream ping answer

def PingStream.close (s : PingStream) : PingStream × List (StreamCall PPing) :=
  (⟨none⟩, closeHandle .closeSend s.stream)

inductive PingMethod where
  | sendPing (answer : Option GoError)
  | close

def pingWrapper : Wrapper PingStream PPing PingMethod where
  stream := PingStream.stream
  kind
    | .sendPing _ => .io
    | .close => .close
  step s
    | .sendPing answer => (s, s.sendPing answer)
    | .close => (s.close.1, s.close.2, none)

/-! ### spanStream -/

structure SpanStream where
  stream : Option Handle

def SpanStream.setStreamInvoker (_s : SpanStream) (invoker : Option Handle) : SpanStream :=
  ⟨invoker⟩

def SpanStream.close (s : SpanStream) : SpanStream × List (StreamCall PSpanMessage) :=
  (⟨none⟩, closeHandle .closeAndRecv s.stream)

/-- `(*spanStream).sendSpan(span)`: the calls, the error, and the span as the encoder leaves
it. -/
def SpanStream.sendSpan (s : SpanStream) (span : Span) (answer : Option GoError) :
    List (StreamCall PSpanMessage) × Option GoError × Span :=
  match s.stream with
  | none => ([], some (unavailableError "span stream is nil"), span)
  | some _ =>
    let gspan := if span.asyncId = 0 then makePSpan span else makePSpanChunk span
    ([.send gspan.1], answer, gspan.2)

/-- `(*spanStream).sendSpanFinish`: `s.stream.CloseSend()`, with no `nil` check (on `nil` the
call is still made, and panics) and the handle kept. -/
def SpanStream.sendSpanFinish (_s : SpanStream) : List (StreamCall PSpanMessage) :=
  [.closeSend]

inductive SpanMethod where
  | sendSpan (span : Span) (answer : Option GoError)
  | sendSpanFinish
  | setStreamInvoker (invoker : Option Handle)
  | close
  deriving DecidableEq

def spanWrapper : Wrapper SpanStream PSpanMessage SpanMethod where
  stream := SpanStream.stream
  kind
    | .sendSpan _ _ => .io
    | .sendSpanFinish => .other
    | .setStreamInvoker _ => .install
    | .close => .close
  step s
    | .sendSpan span answer => (s, (s.sendSpan span answer).1, (s.sendSpan span answer).2.1)
    | .sendSpanFinish => (s, s.sendSpanFinish, none)
    | .setStreamInvoker invoker => (s.setStreamInvoker invoker, [], none)
    | .close => (s.close.1, s.close.2, none)

/-! ### statStream -/

structure StatStream where
  stream : Option Handle

def StatStream.setStreamInvoker (_s : StatStream) (invoker : Option Handle) : StatStream :=
  ⟨invoker⟩

def StatStream.close (s : StatStream) : StatStream × List (StreamCall PStatMessage) :=
  (⟨none⟩, closeHandle .closeAndRecv s.stream)

def StatStream.sendStats (s : StatStream) (stats : List InspectorStats) (answer : Option GoError) :
    List (StreamCall PStatMessage) × Option GoError :=
  sendOn "stat stream is nil" s.stream (statBatch stats) answer

inductive StatMethod where
  | sendStats (stats : List InspectorStats) (answer : Option GoError)
  | setStreamInvoker (invoker : Option Handle)
  | close

def statWrapper : Wrapper StatStream PStatMessage StatMethod where
  stream := StatStream.stream
  kind
    | .sendStats _ _ => .io
    | .setStreamInvoker _ => .install
    | .close => .close
  step s
    | .sendStats stats answer => (s, s.sendStats stats answer)
    | .setStreamInvoker invoker => (s.setStreamInvoker invoker, [], none)
    | .close => (s.close.1, s.close.2, none)

/-! ### cmdStream -/

structure CmdStream where
  stream : Option Handle
  cmdReq : Option PCmdRequest

def CmdStream.close (s : CmdStream) : CmdStream × List (StreamCall PCmdMessage) :=
  ({ s with stream := none }, closeHandle .closeSend s.stream)

def CmdStream.sendCommandMessage (s : CmdStream) (answer : Option GoError) :
    List (StreamCall PCmdMessage) × Option GoError :=
  sendOn "command stream is nil" s.stream handshake answer

/-- `(*cmdStream).recvCommandRequest`: a received request is stored in `cmdReq`. -/
def CmdStream.recvCommandRequest (s : CmdStream) (answer : Except GoError PCmdRequest) :
    CmdStream × List (StreamCall PCmdMessage) × Option GoError :=
  match s.stream with
  | none => (s, [], some (unavailableError "command stream is nil"))
  | some _ =>
    match answer with
    | .error err => (s, [.recv], some err)
    | .ok gCmdReq => ({ s with cmdReq := some gCmdReq }, [.recv], none)

inductive CmdMethod where
  | sendCommandMessage (answer : Option GoError)
  | recvCommandRequest (answer : Except GoError PCmdRequest)
  | close

def cmdWrapper : Wrapper CmdStream PCmdMessage CmdMethod where
  stream := CmdStream.stream
  kind
    | .sendCommandMessage _ => .io
    | .recvCommandRequest _ => .io
    | .close => .close
  step s
    | .sendCommandMessage answer => (s, s.sendCommandMessage answer)
    | .recvCommandRequest answer => s.recvCommandRequest answer
    | .close => (s.close.1, s.close.2, none)

/-! ### activeThreadCountStream -/

structure ActiveThreadCountStream where
  stream : Option Handle
  reqId : Int
  actCount : Int

def ActiveThreadCountStream.close (s : ActiveThreadCountStream) :
    ActiveThreadCountStream × List (StreamCall PCmdActiveThreadCountRes) :=
  ({ s with stream := none }, closeHandle .closeSend s.stream)

/-- The `pb.PCmdActiveThreadCountRes` that `sendActiveThreadCount` builds, at time `now` and
for the registry `activeSpan`. -/
def activeThreadCountRes (reqId actCount now : Int) (activeSpan : ActiveSpans) :
    PCmdActiveThreadCountRes :=
  ⟨⟨reqId, actCount, ""⟩, 2, getActiveSpanCount activeSpan now, goDiv now millisecond⟩

theorem activeThreadCountRes_fields (reqId actCount now : Int) (activeSpan : ActiveSpans) :
    (activeThreadCountRes reqId actCount now activeSpan).commonStreamResponse.responseId = reqId ∧
      (activeThreadCountRes reqId actCount now activeSpan).commonStreamResponse.sequenceId =
        actCount ∧
      (activeThreadCountRes reqId actCount now activeSpan).commonStreamResponse.message = "" ∧
      (activeThreadCountRes reqId actCount now activeSpan).histogramSchemaType = 2 ∧
      (activeThreadCountRes reqId actCount now activeSpan).activeThreadCount =
        getActiveSpanCount activeSpan now ∧
      (activeThreadCountRes reqId actCount now activeSpan).timeStamp = goDiv now millisecond :=
  ⟨rfl, rfl, rfl, rfl, rfl, rfl⟩

/-- `(*activeThreadCountStream).sendActiveThreadCount`, with `time.Now()` read as `now` and the
registry `getActiveSpanCount` reads as `activeSpan`: the `int32` sequence number goes up before
the response is built. -/
def ActiveThreadCountStream.sendActiveThreadCount (s : ActiveThreadCountStream) (now : Int)
    (activeSpan : ActiveSpans) (answer : Option GoError) :
    ActiveThreadCountStream × List (StreamCall PCmdActiveThreadCountRes) × Option GoError :=
  match s.stream with
  | none => (s, [], some (unavailableError "command stream is nil"))
  | some _ =>
    let s := { s with actCount := wrap32 (s.actCount + 1) }
    (s, [.send (activeThreadCountRes s.reqId s.actCount now activeSpan)], answer)

inductive ActiveThreadCountMethod where
  | sendActiveThreadCount (now : Int) (activeSpan : ActiveSpans) (answer : Option GoError)
  | close

def activeThreadCountWrapper :
    Wrapper ActiveThreadCountStream PCmdActiveThreadCountRes ActiveThreadCountMethod where
  stream := ActiveThreadCountStream.stream
  kind
    | .sendActiveThreadCount .. => .io
    | .close => .close
  step s
    | .sendActiveThreadCount now activeSpan answer => s.sendActiveThreadCount now activeSpan answer
    | .close => (s.close.1, s.close.2, none)

/-! ### Every call but `sendSpanFinish` meets `StepOk` -/

theorem io_stepOk {h : Option Handle} {calls : List (StreamCall μ)} {result : Option GoError}
    (habsent : h = none → calls = [] ∧ IsUnavailable result)
    (hquiet : calls.filter StreamCall.isHalfClose = []) :
    StepOk ⟨.io, h, h, calls, result⟩ where
  absent hh := ⟨(habsent hh).1, fun _ => (habsent hh).2⟩
  stays_absent hh _ := hh
  close_absent := nofun
  install_quiet := nofun
  half_closes := by simp [hquiet]
  half_close_absent := by simp [hquiet]

theorem close_stepOk (c : StreamCall μ) (hc : c.isHalfClose) (h : Option Handle) :
    StepOk ⟨.close, h, none, closeHandle c h, none⟩ := by
  cases h <;> constructor <;> simp [closeHandle, hc]

theorem install_stepOk (h h' : Option Handle) : StepOk (⟨.install, h, h', [], none⟩ : Exec μ) := by
  constructor <;> simp

theorem unavailable_isUnavailable (message : String) :
    IsUnavailable (some (unavailableError message)) :=
  ⟨_, rfl, rfl⟩

theorem sendOn_stepOk (message : String) (h : Option Handle) (msg : μ) (answer : Option GoError) :
    StepOk ⟨.io, h, h, (sendOn message h msg answer).1, (sendOn message h msg answer).2⟩ :=
  io_stepOk (by rintro rfl; exact ⟨rfl, unavailable_isUnavailable message⟩)
    (by cases h <;> rfl)

theorem pingWrapper_stepOk (s : PingStream) (m : PingMethod) : StepOk (pingWrapper.exec s m) := by
  cases m with
  | sendPing answer => exact sendOn_stepOk _ _ _ _
  | close => exact close_stepOk .closeSend rfl _

theorem statWrapper_stepOk (s : StatStream) (m : StatMethod) : StepOk (statWrapper.exec s m) := by
  cases m with
  | sendStats stats answer => exact sendOn_stepOk _ _ _ _
  | setStreamInvoker invoker => exact install_stepOk _ _
  | close => exact close_stepOk .closeAndRecv rfl _

theorem cmdWrapper_stepOk (s : CmdStream) (m : CmdMethod) : StepOk (cmdWrapper.exec s m) := by
  cases m with
  | sendCommandMessage answer => exact sendOn_stepOk _ _ _ _
  | recvCommandRequest answer =>
    obtain ⟨_ | h, cmdReq⟩ := s
    · exact io_stepOk (fun _ => ⟨rfl, unavailable_isUnavailable _⟩) rfl
    · cases answer <;> exact io_stepOk nofun rfl
  | close => exact close_stepOk .closeSend rfl _

theorem activeThreadCountWrapper_stepOk (s : ActiveThreadCountStream)
    (m : ActiveThreadCountMethod) : StepOk (activeThreadCountWrapper.exec s m) := by
  cases m with
  | sendActiveThreadCount now activeSpan answer =>
    obtain ⟨_ | h, reqId, actCount⟩ := s
    · exact io_stepOk (fun _ => ⟨rfl, unavailable_isUnavailable _⟩) rfl
    · exact io_stepOk nofun rfl
  | close => exact close_stepOk .closeSend rfl _

theorem spanWrapper_stepOk (s : SpanStream) (m : SpanMethod) (hm : m ≠ .sendSpanFinish) :
    StepOk (spanWrapper.exec s m) := by
  cases m with
  | sendSpan span answer =>
    obtain ⟨_ | h⟩ := s
    · exact io_stepOk (fun _ => ⟨rfl, unavailable_isUnavailable _⟩) rfl
    · exact io_stepOk nofun rfl
  | sendSpanFinish => exact absurd rfl hm
  | setStreamInvoker invoker => exact install_stepOk _ _
  | close => exact close_stepOk .closeAndRecv rfl _

/-! ### The law over whole runs -/

theorem run_law_of_stepOk {σ M : Type} {W : Wrapper σ μ M} (hW : ∀ s m, StepOk (W.exec s m))
    (s : σ) (ms : List M) : StreamLaw (W.run s ms) :=
  Wrapper.run_law (fun s m (_ : True) => hW s m) s fun _ _ => trivial

/-- Four of the wrappers meet the law on every run of their methods, from any handle. -/
theorem stream_law :
    (∀ s ms, StreamLaw (pingWrapper.run s ms)) ∧ (∀ s ms, StreamLaw (statWrapper.run s ms)) ∧
      (∀ s ms, StreamLaw (cmdWrapper.run s ms)) ∧
      ∀ s ms, StreamLaw (activeThreadCountWrapper.run s ms) :=
  ⟨run_law_of_stepOk pingWrapper_stepOk, run_law_of_stepOk statWrapper_stepOk,
    run_law_of_stepOk cmdWrapper_stepOk, run_law_of_stepOk activeThreadCountWrapper_stepOk⟩

/-- `spanStream` meets the law on every run that never calls `sendSpanFinish`. -/
theorem spanStream_law (s : SpanStream) (ms : List SpanMethod)
    (hms : ∀ m ∈ ms, m ≠ .sendSpanFinish) : StreamLaw (spanWrapper.run s ms) :=
  Wrapper.run_law spanWrapper_stepOk s hms

theorem spanStream_law_send_close :
    (∀ m ∈ [SpanMethod.setStreamInvoker (some 0), .sendSpan emptySpan none, .close],
      m ≠ .sendSpanFinish) ∧
      StreamLaw (spanWrapper.run ⟨none⟩
        [.setStreamInvoker (some 0), .sendSpan emptySpan none, .close]) :=
  ⟨by simp, spanStream_law _ _ (by simp)⟩

/-- `sendSpanFinish` calls `CloseSend` on an absent handle, and, on a live one, leaves it to be
half-closed a second time by `close`. -/
theorem sendSpanFinish_breaks_law :
    ¬StreamLaw (spanWrapper.run ⟨none⟩ [.sendSpanFinish]) ∧
      ¬StreamLaw (spanWrapper.run ⟨some 0⟩ [.sendSpanFinish, .close]) := by
  constructor
  · intro h
    have := (h.1 _ (List.mem_singleton_self _) rfl).1
    simp [spanWrapper, Wrapper.exec, SpanStream.sendSpanFinish] at this
  · intro h
    have := h.2.2
    simp [spanWrapper, Wrapper.run, Wrapper.exec, Exec.events, SpanStream.sendSpanFinish,
      SpanStream.close, closeHandle, StreamCall.isHalfClose] at this

/-! ### Sequence numbers of the active-thread-count responses -/

theorem sendActiveThreadCount_live {s : ActiveThreadCountStream} (hs : s.stream ≠ none)
    (now : Int) (activeSpan : ActiveSpans) (answer : Option GoError) :
    s.sendActiveThreadCount now activeSpan answer =
      ({ s with actCount := wrap32 (s.actCount + 1) },
        [.send (activeThreadCountRes s.reqId (wrap32 (s.actCount + 1)) now activeSpan)], answer) := by
  obtain ⟨_ | h, reqId, actCount⟩ := s
  · exact absurd rfl hs
  · rfl

/-- On a live stream, the `i`-th of a run of `sendActiveThreadCount` calls sends one response,
numbered `actCount + i + 1` as an `int32`: a stream from `newActiveThreadCountStream` numbers its
responses `1, 2, 3, …`, each with the stream's request id. -/
theorem sendActiveThreadCount_sequence (s : ActiveThreadCountStream) (hs : s.stream ≠ none)
    (reqs : List (Int × ActiveSpans × Option GoError)) (i : Nat) :
    ((activeThreadCountWrapper.run s
        (reqs.map fun q => .sendActiveThreadCount q.1 q.2.1 q.2.2)).map Exec.calls)[i]? =
      reqs[i]?.map fun q =>
        [.send (activeThreadCountRes s.reqId (wrap32 (s.actCount + i + 1)) q.1 q.2.1)] := by
  induction reqs generalizing s i with
  | nil => rfl
  | cons q reqs ih =>
    have hstep : activeThreadCountWrapper.step s (.sendActiveThreadCount q.1 q.2.1 q.2.2) = _ :=
      sendActiveThreadCount_live hs q.1 q.2.1 q.2.2
    cases i with
    | zero =>
      simp only [List.map_cons, Wrapper.run, Wrapper.exec, hstep, List.getElem?_cons_zero,
        Option.map_some', Nat.cast_zero, Int.add_zero]
    | succ i =>
      have hseq : wrap32 (wrap32 (s.actCount + 1) + i + 1) = wrap32 (s.actCount + ↑(i + 1) + 1) := by
        rw [Int.add_assoc]; unfold wrap32; rw [wrapInt_add_left]; congr 1; omega
      simp only [List.map_cons, Wrapper.run, Wrapper.exec, hstep, List.getElem?_cons_succ]
      rw [ih { s with actCount := wrap32 (s.actCount + 1) } hs i]
      dsimp only
      rw [hseq]

theorem sendActiveThreadCount_sequence_three :
    (some 0 : Option Handle) ≠ none ∧
      ((activeThreadCountWrapper.run ⟨some 0, 7, 0⟩
          ([(1, [], none), (2, [], none), (3, [], none)].map
            fun q => .sendActiveThreadCount q.1 q.2.1 q.2.2)).map Exec.calls)[2]? =
        ([(1, [], none), (2, [], none), (3, [], none)] : List (Int × ActiveSpans × Option GoError))[2]?.map
          fun q => [.send (activeThreadCountRes 7 (wrap32 (0 + (2 : Nat) + 1)) q.1 q.2.1)] :=
  ⟨by decide, sendActiveThreadCount_sequence ⟨some 0, 7, 0⟩ (by decide) _ 2⟩

/-! ### What `sendSpan` sends -/

def PSpanMessage.isSpan : PSpanMessage → Prop
  | .span _ => True
  | .spanChunk _ => False

theorem forall₂_encodesEvent (l : List SpanEvent) :
    List.Forall₂ EncodesEvent (l.map fun e => (makePSpanEvent e).1) l := by
  rw [List.forall₂_map_left_iff, List.forall₂_same]
  exact fun e _ => makePSpanEvent_fields e

/-- On a live handle, `sendSpan` sends one message: a root span iff the span has no async id,
with the span's transaction id, span id and encoded events, a chunk's local async id, and a
root span's parent info and API id as the code fills them. -/
theorem sendSpan_live (s : Span) (h : Handle) (answer : Option GoError) :
    ∃ m, (SpanStream.sendSpan ⟨some h⟩ s answer).1 = [.send m] ∧
      (SpanStream.sendSpan ⟨some h⟩ s answer).2.1 = answer ∧
      (m.isSpan ↔ s.asyncId = 0) ∧ m.transactionId = s.txId.toP ∧ m.spanId = s.spanId ∧
      List.Forall₂ EncodesEvent m.spanEvent s.spanEvents ∧
      (∀ c, m = .spanChunk c → c.localAsyncId = ⟨s.asyncId, s.asyncSequence⟩) ∧
      ∀ p, m = .span p → (p.acceptEvent.parentInfo.isSome ↔ s.parentAppName ≠ "") ∧
        p.apiId = if 0 < s.apiId then s.apiId else 0 := by
  refine ⟨_, rfl, rfl, ?_⟩
  by_cases h0 : s.asyncId = 0
  · simp only [if_pos h0]
    refine ⟨iff_of_true trivial h0, rfl, rfl, ?_, fun _ h => PSpanMessage.noConfusion h, ?_⟩
    · rw [makePSpan_spanEvents]; exact forall₂_encodesEvent _
    · rintro p ⟨⟩
      exact ⟨by split_ifs <;> simp_all, rfl⟩
  · simp only [if_neg h0]
    refine ⟨iff_of_false id h0, rfl, rfl, ?_, ?_, fun _ h => PSpanMessage.noConfusion h⟩
    · rw [makePSpanChunk_spanEvents]; exact forall₂_encodesEvent _
    · rintro c ⟨⟩; rfl

end PinpointAgent
