import PinpointAgent.Stream.Wrappers

/-!
# Connecting and reconnecting

The connection layer of `grpc.go`: the metadata every call carries (`grpcMetadataContext`), the
delay cap of `backOffSleep`, the dial loop (`connectToCollectorWithRetry`), the loop the four
`new…StreamWithRetry` share (`retryLoop`), and the ping stream's socket ids. What a dial or a
stream creation returns at each attempt is a parameter.

`retryLoop_eq` says what the shared loop does in one formula: it runs attempts `1, 2, …, 99`
and stops at the first one made while the agent is disabled or that returns a live stream,
backing off after each earlier one; so it gives up with a `nil` stream after 99 failures even
while the agent stays enabled. `connectLoop_eq` does the same for the dial loop, which returns
the last dial's error. `backOffDur_bounds`: the delay cap grows with the attempt and lies
between one second and a minute. `newPingStreamWithRetry_eq`: the ping loop is the shared loop
in which attempt `n` asks for a session with socket id `pingSocketId + n`, and the counter moves
on by the number of attempts made, so the sessions of one connection carry the ids
`1, 2, 3, …`; `grpcMetadataContext` sends a `socketid` only when it is positive.
-/

namespace PinpointAgent

/-! ### Metadata and back-off -/

/-- What `grpcMetadataContext` reads of the agent: `Config().AgentId`,
`Config().ApplicationName` and `StartTime()`. -/
structure AgentIdentity where
  agentId : String
  applicationName : String
  startTime : Int

/-- `grpcMetadataContext(agent, socketId)`: the outgoing metadata, entry by entry;
`strconv.FormatInt(x, 10)` is `toString x`. -/
def grpcMetadataContext (agent : AgentIdentity) (socketId : Int) : List (String × String) :=
  [("agentid", agent.agentId), ("applicationname", agent.applicationName),
    ("starttime", toString agent.startTime)] ++
    if 0 < socketId then [("socketid", toString socketId)] else []

/-- The ping stream's socket id goes out; the `-1` of the other streams does not. -/
example : (grpcMetadataContext ⟨"agent", "app", 0⟩ 3).lookup "socketid" = some "3" ∧
    (grpcMetadataContext ⟨"agent", "app", 0⟩ (-1)).lookup "socketid" = none := by
  decide

/-- The `dur` of `backOffSleep(attempt)`, the cap its random delay is drawn under:
`min(60 s, 1 s · 2^attempt)`. The float computation is exact: `1e9 · 2^attempt` is a float for
every attempt up to `1023`, and past that `math.Pow` is `+Inf`, capped all the same. The delay
itself, `rand.Float64()·(dur - base) + base` rounded as a float, is left out. -/
def backOffDur (attempt : Nat) : Int := min (60 * second) (second * 2 ^ attempt)

/-- The cap grows with the attempt and lies between one second and a minute. -/
theorem backOffDur_bounds :
    Monotone backOffDur ∧ ∀ attempt, second ≤ backOffDur attempt ∧ backOffDur attempt ≤ 60 * second := by
  have hs : (0 : Int) < second := by decide
  refine ⟨fun a b hab => min_le_min_left _ ?_, fun n => ⟨le_min (by omega) ?_, min_le_left _ _⟩⟩
  · exact Int.mul_le_mul_of_nonneg_left (pow_le_pow_right₀ (by decide) hab) hs.le
  · exact le_mul_of_one_le_right hs.le (one_le_pow₀ (by decide))

/-! ### The dial loop -/

/-- `connectToCollectorWithRetry(serverAddr, opts)` from attempt `n`, with `k` attempts left and
`last` the last dial's `(conn, err)`: dial (`dial n`), stop on success, else `backOffSleep(n)`.
Returns the last dial's result and the attempts that backed off. -/
def connectLoop (dial : Nat → Option Handle × Option GoError) (n : Nat)
    (last : Option Handle × Option GoError) : Nat → (Option Handle × Option GoError) × List Nat
  | 0 => (last, [])
  | k + 1 =>
    match dial n with
    | (conn, none) => ((conn, none), [])
    | (conn, some err) =>
      ((connectLoop dial (n + 1) (conn, some err) k).1,
        n :: (connectLoop dial (n + 1) (conn, some err) k).2)

/-- `for n := 1; n < 100; n++`, from `var conn; var err`. -/
def connectToCollectorWithRetry (dial : Nat → Option Handle × Option GoError) :
    (Option Handle × Option GoError) × List Nat :=
  connectLoop dial 1 (none, none) 99

theorem find?_range'_cons {p : Nat → Bool} {n k i : Nat}
    (h : (List.range' (n + 1) k).find? p = some i) : n + 1 ≤ i :=
  (List.mem_range'_1.mp (List.mem_of_find?_eq_some h)).1

theorem connectLoop_ok {dial : Nat → Option Handle × Option GoError} {n : Nat}
    {conn : Option Handle} (hd : dial n = (conn, none)) (last : Option Handle × Option GoError)
    (k : Nat) : connectLoop dial n last (k + 1) = ((conn, none), []) := by
  simp [connectLoop, hd]

theorem connectLoop_fail {dial : Nat → Option Handle × Option GoError} {n : Nat}
    {conn : Option Handle} {err : GoError} (hd : dial n = (conn, some err))
    (last : Option Handle × Option GoError) (k : Nat) :
    connectLoop dial n last (k + 1) =
      ((connectLoop dial (n + 1) (conn, some err) k).1,
        n :: (connectLoop dial (n + 1) (conn, some err) k).2) := by
  simp [connectLoop, hd]

theorem connectLoop_eq (dial : Nat → Option Handle × Option GoError) (n k : Nat)
    (last : Option Handle × Option GoError) :
    connectLoop dial n last (k + 1) =
      match (List.range' n (k + 1)).find? fun i => (dial i).2.isNone with
      | some i => (dial i, List.range' n (i - n))
      | none => (dial (n + k), List.range' n (k + 1)) := by
  induction k generalizing n last with
  | zero =>
    rcases hd : dial n with ⟨conn, _ | err⟩ <;> simp [connectLoop, hd]
  | succ k ih =>
    rw [List.range'_succ]
    rcases hd : dial n with ⟨conn, _ | err⟩
    · rw [connectLoop_ok hd]; simp [List.find?_cons, hd]
    · rw [connectLoop_fail hd, ih, List.find?_cons]
      simp only [hd, Option.isNone_some]
      rcases hf : (List.range' (n + 1) (k + 1)).find? fun i => (dial i).2.isNone with _ | i
      · dsimp only; rw [show n + 1 + k = n + (k + 1) by omega]
      · dsimp only
        rw [show i - n = i - (n + 1) + 1 by have := find?_range'_cons hf; omega, List.range'_succ]

/-- `connectToCollectorWithRetry` dials at most 99 times: it returns the first dial that
succeeds, after backing off from each earlier one, or the 99th dial's error after backing off
from all. -/
theorem connectToCollectorWithRetry_eq (dial : Nat → Option Handle × Option GoError) :
    connectToCollectorWithRetry dial =
      match (List.range' 1 99).find? fun i => (dial i).2.isNone with
      | some i => (dial i, List.range' 1 (i - 1))
      | none => (dial 99, List.range' 1 99) :=
  connectLoop_eq dial 1 98 (none, none)

/-! ### The stream loops -/

/-- The loop of `newPingStreamWithRetry`, `newSpanStreamWithRetry`, `newStatStreamWithRetry`
and `newCommandStreamWithRetry` from attempt `n`, with `k` attempts left: stop once
`agent.Enable()` (`enable n`) is false, else make a stream (`make n`), return it when it is
live, and otherwise `backOffSleep(n)` and go on. Returns the handle (`nil` when the loop ends)
and the attempts that backed off. -/
def retryLoop (enable : Nat → Bool) (make : Nat → Option Handle) (n : Nat) :
    Nat → Option Handle × List Nat
  | 0 => (none, [])
  | k + 1 =>
    if enable n then
      match make n with
      | some h => (some h, [])
      | none => ((retryLoop enable make (n + 1) k).1, n :: (retryLoop enable make (n + 1) k).2)
    else (none, [])

/-- `for n := 1; n < 100; n++`. -/
def streamWithRetry (enable : Nat → Bool) (make : Nat → Option Handle) : Option Handle × List Nat :=
  retryLoop enable make 1 99

/-- `newSpanStreamWithRetry()`, attempt `n` of `newSpanStream()` returning `make n`. -/
def newSpanStreamWithRetry (enable : Nat → Bool) (make : Nat → Option Handle) :
    SpanStream × List Nat :=
  (⟨(streamWithRetry enable make).1⟩, (streamWithRetry enable make).2)

/-- `newStatStreamWithRetry()`, attempt `n` of `newStatStream()` returning `make n`. -/
def newStatStreamWithRetry (enable : Nat → Bool) (make : Nat → Option Handle) :
    StatStream × List Nat :=
  (⟨(streamWithRetry enable make).1⟩, (streamWithRetry enable make).2)

/-- `newCommandStreamWithRetry()`, attempt `n` of `newHandleCommandStream()` returning
`make n`. -/
def newCommandStreamWithRetry (enable : Nat → Bool) (make : Nat → Option Handle) :
    CmdStream × List Nat :=
  (⟨(streamWithRetry enable make).1, none⟩, (streamWithRetry enable make).2)

theorem retryLoop_disabled {enable : Nat → Bool} {n : Nat} (he : enable n = false)
    (make : Nat → Option Handle) (k : Nat) : retryLoop enable make n (k + 1) = (none, []) := by
  simp [retryLoop, he]

theorem retryLoop_live {enable : Nat → Bool} {make : Nat → Option Handle} {n : Nat} {h : Handle}
    (he : enable n) (hm : make n = some h) (k : Nat) :
    retryLoop enable make n (k + 1) = (some h, []) := by
  simp [retryLoop, he, hm]

theorem retryLoop_fail {enable : Nat → Bool} {make : Nat → Option Handle} {n : Nat}
    (he : enable n) (hm : make n = none) (k : Nat) :
    retryLoop enable make n (k + 1) =
      ((retryLoop enable make (n + 1) k).1, n :: (retryLoop enable make (n + 1) k).2) := by
  simp [retryLoop, he, hm]

theorem retryLoop_eq (enable : Nat → Bool) (make : Nat → Option Handle) (n k : Nat) :
    retryLoop enable make n k =
      match (List.range' n k).find? fun i => !enable i || (make i).isSome with
      | some i => (if enable i then make i else none, List.range' n (i - n))
      | none => (none, List.range' n k) := by
  induction k generalizing n with
  | zero => rfl
  | succ k ih =>
    rw [List.range'_succ]
    by_cases he : enable n
    · rcases hm : make n with _ | h
      · rw [retryLoop_fail he hm, ih, List.find?_cons]
        simp only [he, hm, Bool.not_true, Option.isSome_none, Bool.or_false]
        rcases hf : (List.range' (n + 1) k).find? fun i => !enable i || (make i).isSome with
          _ | i
        · rfl
        · dsimp only
          rw [show i - n = i - (n + 1) + 1 by have := find?_range'_cons hf; omega,
            List.range'_succ]
      · rw [retryLoop_live he hm]; simp [List.find?_cons, he, hm]
    · rw [retryLoop_disabled (by simpa using he)]; simp [List.find?_cons, he]

/-- The four `new…StreamWithRetry` make attempts `1, 2, …, 99` at most: they return the
stream of the first attempt that finds the agent disabled (`nil`) or makes a live stream, after
backing off from each earlier attempt, and `nil` after backing off from all 99. -/
theorem streamWithRetry_eq (enable : Nat → Bool) (make : Nat → Option Handle) :
    streamWithRetry enable make =
      match (List.range' 1 99).find? fun i => !enable i || (make i).isSome with
      | some i => (if enable i then make i else none, List.range' 1 (i - 1))
      | none => (none, List.range' 1 99) :=
  retryLoop_eq enable make 1 99

/-- While the agent stays enabled and every attempt fails, the loop backs off from attempts
`1 … 99` and gives up with a `nil` stream. -/
example : streamWithRetry (fun _ => true) (fun _ => none) = (none, List.range' 1 99) := by
  decide

/-! ### Ping socket ids -/

structure AgentGrpc where
  pingSocketId : Int
  inInt64 : InInt64 pingSocketId

/-- `newPingStream()`: `pingSocketId++`, then a session under the metadata with that socket
id, `pingSession` being what `PingSession` returns for it. -/
def AgentGrpc.newPingStream (g : AgentGrpc) (agent : AgentIdentity)
    (pingSession : List (String × String) → Option Handle) : AgentGrpc × PingStream :=
  let g : AgentGrpc := ⟨wrap64 (g.pingSocketId + 1), inInt64_wrap64 _⟩
  (g, ⟨pingSession (grpcMetadataContext agent g.pingSocketId)⟩)

/-- The loop of `newPingStreamWithRetry()` from attempt `n` with `k` left, `pingSession n`
answering attempt `n`: the shared loop, with each attempt's `newPingStream()` moving the
socket id on. -/
def AgentGrpc.pingRetryLoop (agent : AgentIdentity) (enable : Nat → Bool)
    (pingSession : Nat → List (String × String) → Option Handle) (g : AgentGrpc) (n : Nat) :
    Nat → AgentGrpc × Option Handle × List Nat
  | 0 => (g, none, [])
  | k + 1 =>
    if enable n then
      match (g.newPingStream agent (pingSession n)).2.stream with
      | some h => ((g.newPingStream agent (pingSession n)).1, some h, [])
      | none =>
        let r := pingRetryLoop agent enable pingSession (g.newPingStream agent (pingSession n)).1
          (n + 1) k
        (r.1, r.2.1, n :: r.2.2)
    else (g, none, [])

/-- `newPingStreamWithRetry()`: the `agentGrpc` after it, the ping stream, and the attempts
that backed off. -/
def AgentGrpc.newPingStreamWithRetry (g : AgentGrpc) (agent : AgentIdentity)
    (enable : Nat → Bool) (pingSession : Nat → List (String × String) → Option Handle) :
    AgentGrpc × PingStream × List Nat :=
  ((g.pingRetryLoop agent enable pingSession 1 99).1,
    ⟨(g.pingRetryLoop agent enable pingSession 1 99).2.1⟩,
    (g.pingRetryLoop agent enable pingSession 1 99).2.2)

/-- The number of stream creations a run of the shared loop made. -/
def attemptsMade (r : Option Handle × List Nat) : Nat :=
  r.2.length + if r.1.isSome then 1 else 0

theorem pingRetryLoop_eq (agent : AgentIdentity) (enable : Nat → Bool)
    (pingSession : Nat → List (String × String) → Option Handle) (g : AgentGrpc) (n k : Nat) :
    (g.pingRetryLoop agent enable pingSession n k).2 =
        retryLoop enable (fun i => pingSession i
          (grpcMetadataContext agent (wrap64 (g.pingSocketId + ((i : Int) - n + 1))))) n k ∧
      (g.pingRetryLoop agent enable pingSession n k).1.pingSocketId =
        wrap64 (g.pingSocketId + attemptsMade (g.pingRetryLoop agent enable pingSession n k).2) := by
  have hid := wrap64_of_inInt64 g.inInt64
  induction k generalizing g n with
  | zero => simp [AgentGrpc.pingRetryLoop, retryLoop, attemptsMade, hid]
  | succ k ih =>
    by_cases he : enable n
    · have hf : (fun i : Nat => pingSession i (grpcMetadataContext agent
            (wrap64 (wrap64 (g.pingSocketId + 1) + ((i : Int) - ↑(n + 1) + 1))))) =
          fun i => pingSession i
            (grpcMetadataContext agent (wrap64 (g.pingSocketId + ((i : Int) - n + 1)))) := by
        funext i; unfold wrap64; rw [wrapInt_add_left]; congr 3; push_cast; ring
      have h1 : g.pingSocketId + ((n : Int) - n + 1) = g.pingSocketId + 1 := by ring
      obtain ⟨ihl, ihr⟩ := ih ⟨wrap64 (g.pingSocketId + 1), inInt64_wrap64 _⟩ (n + 1)
        (wrap64_of_inInt64 (inInt64_wrap64 _))
      rcases hps : pingSession n (grpcMetadataContext agent (wrap64 (g.pingSocketId + 1))) with
        _ | h
      · simp only [AgentGrpc.pingRetryLoop, retryLoop, AgentGrpc.newPingStream, he, hps, h1,
          if_true] at ihl ihr ⊢
        rw [hf] at ihl
        refine ⟨by rw [ihl], ?_⟩
        rw [ihr, attemptsMade, attemptsMade]
        unfold wrap64; rw [wrapInt_add_left]
        congr 1; simp only [List.length_cons]; push_cast; ring
      · simp [AgentGrpc.pingRetryLoop, retryLoop, AgentGrpc.newPingStream, he, hps, h1,
          attemptsMade]
    · simp [AgentGrpc.pingRetryLoop, retryLoop, he, attemptsMade, hid]

/-- Attempt `n` of `newPingStreamWithRetry()` asks for a session whose metadata carries the
socket id `pingSocketId + n`, the loop is otherwise the shared one, and the counter moves on by
the number of attempts made. -/
theorem newPingStreamWithRetry_eq (g : AgentGrpc) (agent : AgentIdentity) (enable : Nat → Bool)
    (pingSession : Nat → List (String × String) → Option Handle) :
    ((g.newPingStreamWithRetry agent enable pingSession).2.1.stream,
        (g.newPingStreamWithRetry agent enable pingSession).2.2) =
        streamWithRetry enable
          (fun n => pingSession n (grpcMetadataContext agent (wrap64 (g.pingSocketId + n)))) ∧
      (g.newPingStreamWithRetry agent enable pingSession).1.pingSocketId =
        wrap64 (g.pingSocketId + attemptsMade
          ((g.newPingStreamWithRetry agent enable pingSession).2.1.stream,
            (g.newPingStreamWithRetry agent enable pingSession).2.2)) := by
  obtain ⟨h1, h2⟩ := pingRetryLoop_eq agent enable pingSession g 1 99
  simp only [Nat.cast_one, sub_add_cancel] at h1
  exact ⟨h1, h2⟩

end PinpointAgent
