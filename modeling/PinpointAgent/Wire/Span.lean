import PinpointAgent.GoInt
import PinpointAgent.TransactionId

/-!
# Span encoding

`makePSpan`, `makePSpanChunk` and `makePSpanEvent` (`grpc.go`) map a finished span to its
protocol message. They are not pure: `makePSpan` first appends the operation name to the span's
own annotation list (`span.annotations.AppendString(12, span.operationName)`), and
`makePSpanEvent` does the same to an event without an API id. Spans and events are reached
through pointers, so each encoder here returns the message together with the span or event as
it leaves it.

`makePSpan_effect` and `makePSpanChunk_effect` say exactly what encoding changes: those appended
annotations and nothing else (`encoding_effects` puts the three together).
`makePSpan_spanEvents` and `makePSpanChunk_spanEvents`: the message's events are the events' own
encodings, in order, and `makePSpanEvent_fields` lists what each carries. `encode_twice_differs`
shows that a second encoding of the same span is a different message.
-/

namespace PinpointAgent

/-- The annotation values the `Append…` methods build (`pb.PAnnotationValue`). -/
inductive AnnotationValue where
  | int (v : Int)
  | string (s : String)
  | stringString (s₁ s₂ : String)
  | intStringString (i : Int) (s₁ s₂ : String)
  | longIntIntByteByteString (l : Int) (i₁ i₂ b₁ b₂ : Int) (s : String)
  deriving DecidableEq

structure PAnnotation where
  key : Int
  value : AnnotationValue
  deriving DecidableEq

/-- Modelled from the spec: `annotation.AppendString`, whose source is not in the repository
snapshot. Annotations keep their insertion order, so the entry goes last. -/
def appendString (list : List PAnnotation) (key : Int) (s : String) : List PAnnotation :=
  list ++ [⟨key, .string s⟩]

/-- Modelled from the spec: `toMilliseconds`, not in the repository snapshot; a `Duration` in
whole milliseconds, truncated. -/
def toMilliseconds (d : Int) : Int := d.tdiv millisecond

/-- The fields of `spanEvent` that the encoder reads. -/
structure SpanEvent where
  sequence : Int
  depth : Int
  startElapsed : Int
  duration : Int
  serviceType : Int
  annotations : List PAnnotation
  apiId : Int
  operationName : String
  errorFuncId : Int
  errorString : String
  nextSpanId : Int
  endPoint : String
  destinationId : String
  asyncId : Int
  deriving DecidableEq

/-- The fields of `span` that the encoder reads; `applicationType` is
`span.agent.Config().ApplicationType`. -/
structure Span where
  txId : TransactionId
  spanId : Int
  parentSpanId : Int
  startTime : Int
  duration : Int
  serviceType : Int
  rpcName : String
  endPoint : String
  remoteAddr : String
  annotations : List PAnnotation
  flags : Int
  err : Int
  spanEvents : List SpanEvent
  loggingInfo : Int
  parentAppName : String
  parentAppType : Int
  acceptorHost : String
  apiId : Int
  asyncId : Int
  asyncSequence : Int
  operationName : String
  applicationType : Int
  deriving DecidableEq

structure PTransactionId where
  agentId : Bytes
  agentStartTime : Int
  sequence : Int
  deriving DecidableEq

structure PIntStringValue where
  intValue : Int
  stringValue : String
  deriving DecidableEq

/-- `pb.PMessageEvent`, the one kind of `pb.PNextEvent` the agent sends. -/
structure PMessageEvent where
  nextSpanId : Int
  endPoint : String
  destinationId : String
  deriving DecidableEq

structure PSpanEvent where
  sequence : Int
  depth : Int
  startElapsed : Int
  endElapsed : Int
  serviceType : Int
  annotation : List PAnnotation
  apiId : Int
  exceptionInfo : Option PIntStringValue
  nextEvent : Option PMessageEvent
  asyncEvent : Int
  deriving DecidableEq

structure PParentInfo where
  parentApplicationName : String
  parentApplicationType : Int
  acceptorHost : String
  deriving DecidableEq

structure PAcceptEvent where
  rpc : String
  endPoint : String
  remoteAddr : String
  parentInfo : Option PParentInfo
  deriving DecidableEq

/-- `pb.PSpan` (its `ExceptionInfo`, always `nil`, left out). -/
structure PSpan where
  version : Int
  transactionId : PTransactionId
  spanId : Int
  parentSpanId : Int
  startTime : Int
  elapsed : Int
  serviceType : Int
  acceptEvent : PAcceptEvent
  annotation : List PAnnotation
  flag : Int
  spanEvent : List PSpanEvent
  err : Int
  applicationServiceType : Int
  loggingTransactionInfo : Int
  apiId : Int
  deriving DecidableEq

structure PLocalAsyncId where
  asyncId : Int
  sequence : Int
  deriving DecidableEq

structure PSpanChunk where
  version : Int
  transactionId : PTransactionId
  spanId : Int
  keyTime : Int
  endPoint : String
  spanEvent : List PSpanEvent
  applicationServiceType : Int
  localAsyncId : PLocalAsyncId
  deriving DecidableEq

/-- `pb.PSpanMessage`: a root span or a span chunk. -/
inductive PSpanMessage where
  | span (s : PSpan)
  | spanChunk (c : PSpanChunk)
  deriving DecidableEq

/-- The message's transaction id, span id and events, whichever shape it has. -/
def PSpanMessage.transactionId : PSpanMessage → PTransactionId
  | .span s => s.transactionId
  | .spanChunk c => c.transactionId

def PSpanMessage.spanId : PSpanMessage → Int
  | .span s => s.spanId
  | .spanChunk c => c.spanId

def PSpanMessage.spanEvent : PSpanMessage → List PSpanEvent
  | .span s => s.spanEvent
  | .spanChunk c => c.spanEvent

def TransactionId.toP (tid : TransactionId) : PTransactionId :=
  ⟨tid.agentId, tid.startTime, tid.sequence⟩

/-! ### The encoders -/

/-- `makePSpanEvent(event)`: the message, and the event after its annotation was appended. -/
def makePSpanEvent (event : SpanEvent) : PSpanEvent × SpanEvent :=
  let event :=
    if event.apiId = 0 ∧ event.operationName ≠ "" then
      { event with annotations := appendString event.annotations 12 event.operationName }
    else event
  ({ sequence := event.sequence
     depth := event.depth
     startElapsed := wrap32 (toMilliseconds event.startElapsed)
     endElapsed := wrap32 (toMilliseconds event.duration)
     serviceType := event.serviceType
     annotation := event.annotations
     apiId := event.apiId
     exceptionInfo :=
       if event.errorString ≠ "" then some ⟨event.errorFuncId, event.errorString⟩ else none
     nextEvent :=
       if event.destinationId ≠ "" then
         some ⟨event.nextSpanId, event.endPoint, event.destinationId⟩
       else none
     asyncEvent := event.asyncId }, event)

/-- `makePSpan(span)`: the root-span message, and the span after the encoder's appends. -/
def makePSpan (span : Span) : PSpanMessage × Span :=
  let annotations := appendString span.annotations 12 span.operationName
  let events := span.spanEvents.map makePSpanEvent
  (.span
    { version := 1
      transactionId := span.txId.toP
      spanId := span.spanId
      parentSpanId := span.parentSpanId
      startTime := goDiv span.startTime millisecond
      elapsed := wrap32 (toMilliseconds span.duration)
      serviceType := span.serviceType
      acceptEvent :=
        { rpc := span.rpcName
          endPoint := span.endPoint
          remoteAddr := span.remoteAddr
          parentInfo :=
            if span.parentAppName ≠ "" then
              some ⟨span.parentAppName, wrap32 span.parentAppType, span.acceptorHost⟩
            else none }
      annotation := annotations
      flag := wrap32 span.flags
      spanEvent := events.map Prod.fst
      err := wrap32 span.err
      applicationServiceType := span.applicationType
      loggingTransactionInfo := span.loggingInfo
      apiId := if 0 < span.apiId then span.apiId else 0 },
    { span with annotations := annotations, spanEvents := events.map Prod.snd })

/-- `makePSpanChunk(span)`: the span-chunk message, and the span after its events' appends. -/
def makePSpanChunk (span : Span) : PSpanMessage × Span :=
  let events := span.spanEvents.map makePSpanEvent
  (.spanChunk
    { version := 1
      transactionId := span.txId.toP
      spanId := span.spanId
      keyTime := goDiv span.startTime millisecond
      endPoint := span.endPoint
      spanEvent := events.map Prod.fst
      applicationServiceType := span.applicationType
      localAsyncId := ⟨span.asyncId, span.asyncSequence⟩ },
    { span with spanEvents := events.map Prod.snd })

/-! ### What encoding changes -/

/-- The annotation `makePSpanEvent` appends to an event: its operation name when it has no
API id. -/
def operationNameAnnotation (e : SpanEvent) : List PAnnotation :=
  if e.apiId = 0 ∧ e.operationName ≠ "" then [⟨12, .string e.operationName⟩] else []

theorem makePSpanEvent_snd (e : SpanEvent) :
    (makePSpanEvent e).2 = { e with annotations := e.annotations ++ operationNameAnnotation e } := by
  unfold makePSpanEvent operationNameAnnotation appendString
  split_ifs <;> simp

theorem makePSpan_effect (s : Span) :
    (makePSpan s).2 =
      { s with
        annotations := s.annotations ++ [⟨12, .string s.operationName⟩]
        spanEvents := s.spanEvents.map fun e =>
          { e with annotations := e.annotations ++ operationNameAnnotation e } } := by
  simp [makePSpan, appendString, makePSpanEvent_snd, Function.comp_def]

theorem makePSpanChunk_effect (s : Span) :
    (makePSpanChunk s).2 =
      { s with
        spanEvents := s.spanEvents.map fun e =>
          { e with annotations := e.annotations ++ operationNameAnnotation e } } := by
  simp [makePSpanChunk, makePSpanEvent_snd, Function.comp_def]

/-- What the three encoders change, together: the span's own operation-name annotation
(`makePSpan` only) and each event's (both), and nothing else. -/
theorem encoding_effects (s : Span) (e : SpanEvent) :
    (makePSpan s).2 =
      { s with
        annotations := s.annotations ++ [⟨12, .string s.operationName⟩]
        spanEvents := s.spanEvents.map fun e =>
          { e with annotations := e.annotations ++ operationNameAnnotation e } } ∧
    (makePSpanChunk s).2 =
      { s with
        spanEvents := s.spanEvents.map fun e =>
          { e with annotations := e.annotations ++ operationNameAnnotation e } } ∧
    (makePSpanEvent e).2 = { e with annotations := e.annotations ++ operationNameAnnotation e } :=
  ⟨makePSpan_effect s, makePSpanChunk_effect s, makePSpanEvent_snd e⟩

/-! ### What a message carries -/

/-- An event message that carries the event: the same sequence, depth, service type, API id
and async id, an `ExceptionInfo` exactly for a non-empty error and a `NextEvent` exactly for a
non-empty destination. -/
def EncodesEvent (p : PSpanEvent) (e : SpanEvent) : Prop :=
  p.sequence = e.sequence ∧ p.depth = e.depth ∧ p.serviceType = e.serviceType ∧
    p.apiId = e.apiId ∧ p.asyncEvent = e.asyncId ∧
    (p.exceptionInfo.isSome ↔ e.errorString ≠ "") ∧ (p.nextEvent.isSome ↔ e.destinationId ≠ "")

theorem makePSpanEvent_fields (e : SpanEvent) : EncodesEvent (makePSpanEvent e).1 e := by
  unfold makePSpanEvent EncodesEvent
  split_ifs <;> simp_all

theorem makePSpan_spanEvents (s : Span) :
    (makePSpan s).1.spanEvent = s.spanEvents.map fun e => (makePSpanEvent e).1 := by
  simp [makePSpan, PSpanMessage.spanEvent, Function.comp_def]

theorem makePSpanChunk_spanEvents (s : Span) :
    (makePSpanChunk s).1.spanEvent = s.spanEvents.map fun e => (makePSpanEvent e).1 := by
  simp [makePSpanChunk, PSpanMessage.spanEvent, Function.comp_def]

/-- A span with every field empty. -/
def emptySpan : Span :=
  ⟨⟨[], 0, 0⟩, 0, 0, 0, 0, 0, "", "", "", [], 0, 0, [], 0, "", 0, "", 0, 0, 0, "", 0⟩

/-- Encoding is not repeatable: the second `makePSpan` of a span sends two operation-name
annotations where the first sent one. -/
theorem encode_twice_differs :
    (makePSpan emptySpan).2 ≠ emptySpan ∧
      (makePSpan (makePSpan emptySpan).2).1 ≠ (makePSpan emptySpan).1 := by
  decide

end PinpointAgent
