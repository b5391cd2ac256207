import PinpointAgent.Stats.Interval
import PinpointAgent.Stream.Wrappers

/-!
# The stats worker

`sendStatsWorker` (`stats.go`): after `initStats`, `resetResponseTime`, one sleep and the stat
stream's creation, the loop takes a snapshot with `getStats` on every tick, stores it at
`collected[batch]`, and every `BatchCount` ticks hands the whole slice to `sendStats`, closing
and re-creating the stream when the send fails. Between two ticks the rest of the agent records
response times, counts transactions and registers spans.

`sendStatsWorker_batches`: for `BatchCount ≥ 1`, on every run `batch < BatchCount` at each loop
head, the only panic is one of `getStats`, the send after the `k·B`-th tick gets exactly the
snapshots of ticks `(k-1)·B+1 … k·B` in order, and the message it sends is their `statBatch`.
The proof is one loop invariant (`StatsLoop.Inv`: the first `batch` slots hold the current
batch), kept by `StatsLoop.collect_spec`.

The worker's snapshots are those of `statsRun` on the calls its events make (`workerRun_stats`),
so the aggregator's interval reading carries over to the wire: on every run whose intervals
fit, each message sent on the stat stream is the `statBatch` of snapshots that report, in
order, the activity of the last `B` intervals (`sendStatsWorker_reports`).

`getStats` divides by the whole seconds since the previous snapshot. With a `CollectInterval`
below one second and a sleep of exactly its length, the first tick panics
(`subsecond_interval_panics`); with one of at least a second, and each tick at least one sleep
after the previous one, the divisor is at least `1` on every tick (`divisor_pos_of_interval`).
-/

namespace PinpointAgent

/-- `time.Duration(Stat.CollectInterval) * time.Millisecond`. -/
def sleepTime (collectInterval : Int) : Int := wrap64 (collectInterval * millisecond)

/-- The calls the rest of the agent makes on the stats between two ticks. -/
inductive Recording where
  | collectResponseTime (resTime : Int)
  | incr (c : Counter)
  | addActiveSpan (spanId start : Int)
  | dropActiveSpan (spanId : Int)

def Recording.apply (g : StatsVars) : Recording → StatsVars
  | .collectResponseTime t => PinpointAgent.collectResponseTime g t
  | .incr c => incrCounter g c
  | .addActiveSpan k s => PinpointAgent.addActiveSpan g k s
  | .dropActiveSpan k => PinpointAgent.dropActiveSpan g k

/-- The call of the stats package that a recording is. -/
def Recording.op : Recording → StatsOp
  | .collectResponseTime t => .collectResponseTime t
  | .incr c => .incr c
  | .addActiveSpan k s => .addActiveSpan k s
  | .dropActiveSpan k => .dropActiveSpan k

theorem step_recording_op (g : StatsVars) (rec : Recording) :
    g.step rec.op = some (rec.apply g, none) := by
  cases rec <;> rfl

/-- What a send meets: the collector's answer to `Send`, and the handle
`newStatStreamWithRetry` returns if the send failed. -/
structure SendOutcome where
  answer : Option GoError
  renewed : Option Handle

/-- The loop variables of `sendStatsWorker`. -/
structure StatsLoop where
  statStream : StatStream
  collected : List (Option InspectorStats)
  batch : Nat

/-- The loop body after `getStats` returned `stat`: `collected[batch] = stat` (`none` when the
index is out of range, a panic), `batch++`, and at a full batch `sendStats(collected)`, then on
a failure `close` and a new stream, and `batch = 0`. Also returns the batch sent and the calls
made on the stream. `makePAgentStat` dereferences every entry of `collected`, so a `nil` entry
at a send panics; the model checks that before the call, the code after its `nil` check of the
stream, and the loop invariant shows that no entry is then `nil`. -/
def StatsLoop.collect (batchCount : Nat) (l : StatsLoop) (stat : InspectorStats)
    (o : SendOutcome) :
    Option (StatsLoop × Option (List InspectorStats) × List (StreamCall PStatMessage)) :=
  if l.batch < l.collected.length then
    let collected := l.collected.set l.batch (some stat)
    if l.batch + 1 = batchCount then
      (collected.mapM id).map fun stats =>
        match l.statStream.sendStats stats o.answer with
        | (calls, none) => (⟨l.statStream, collected, 0⟩, some stats, calls)
        | (calls, some _) =>
          (⟨⟨o.renewed⟩, collected, 0⟩, some stats, calls ++ l.statStream.close.2)
    else some (⟨l.statStream, collected, l.batch + 1⟩, none, [])
  else none

/-- The worker: the package's stats variables and the loop's. -/
structure StatsWorker where
  vars : StatsVars
  loop : StatsLoop

/-- The worker at its first loop head: `initStats()` and `resetResponseTime()` at reading `r`,
then, after the first sleep, the stream `newStatStreamWithRetry` returned,
`collected := make([]*inspectorStats, BatchCount)` and `batch := 0`. -/
def StatsWorker.start (batchCount : Nat) (g : StatsVars) (r : Reading) (stream : Option Handle) :
    StatsWorker :=
  ⟨statsStart g r, ⟨⟨stream⟩, List.replicate batchCount none, 0⟩⟩

inductive WorkerEvent where
  | record (rec : Recording)
  | tick (r : Reading) (o : SendOutcome)

/-- The call of the stats package an event makes: the recording's, or `getStats()` at a tick. -/
def WorkerEvent.op : WorkerEvent → StatsOp
  | .record rec => rec.op
  | .tick r _ => .getStats r

/-- What one tick produced: the snapshot, the stat stream's handle at the loop head, the batch
handed to `sendStats`, and the calls made on the stream. -/
structure TickOut where
  stat : InspectorStats
  stream : Option Handle
  sent : Option (List InspectorStats)
  calls : List (StreamCall PStatMessage)

/-- One event: a recording, or one iteration of the loop (`getStats` at reading `r`, then the
loop body); `none` at a panic. -/
def StatsWorker.step (batchCount : Nat) (w : StatsWorker) :
    WorkerEvent → Option (StatsWorker × Option TickOut)
  | .record rec => some (⟨rec.apply w.vars, w.loop⟩, none)
  | .tick r o =>
    (getStats w.vars r).bind fun p =>
      (w.loop.collect batchCount p.1 o).map fun q =>
        (⟨p.2, q.1⟩, some ⟨p.1, w.loop.statStream.stream, q.2.1, q.2.2⟩)

/-- The ticks' outputs up to the first panic, and the worker at the last loop head reached
(`none` after a panic). -/
def workerRun (batchCount : Nat) (w : StatsWorker) :
    List WorkerEvent → List TickOut × Option StatsWorker
  | [] => ([], some w)
  | e :: evs =>
    match w.step batchCount e with
    | none => ([], none)
    | some (w', out) =>
      (out.toList ++ (workerRun batchCount w' evs).1, (workerRun batchCount w' evs).2)

/-- `sendStatsWorker()` while the agent stays enabled, from reading `r` and the stream the
first `newStatStreamWithRetry` returned. -/
def sendStatsWorker (batchCount : Nat) (g : StatsVars) (r : Reading) (stream : Option Handle)
    (evs : List WorkerEvent) : List TickOut × Option StatsWorker :=
  workerRun batchCount (StatsWorker.start batchCount g r stream) evs

theorem workerRun_record (B : Nat) (w : StatsWorker) (rec : Recording) (evs : List WorkerEvent) :
    workerRun B w (.record rec :: evs) = workerRun B ⟨rec.apply w.vars, w.loop⟩ evs := by
  simp [workerRun, StatsWorker.step]

theorem workerRun_tick {B : Nat} {w w' : StatsWorker} {r : Reading} {o : SendOutcome}
    {t : TickOut} (h : w.step B (.tick r o) = some (w', some t)) (evs : List WorkerEvent) :
    workerRun B w (.tick r o :: evs) = (t :: (workerRun B w' evs).1, (workerRun B w' evs).2) := by
  simp [workerRun, h]

theorem workerRun_tick_none {B : Nat} {w : StatsWorker} {r : Reading} {o : SendOutcome}
    (h : getStats w.vars r = none) (evs : List WorkerEvent) :
    workerRun B w (.tick r o :: evs) = ([], none) := by
  simp [workerRun, StatsWorker.step, h]

section OneEvent

/-! A run's first event leads from `w` to `w'`; the loop head a run reaches before one of its
ticks, and a panic, move back over it. -/

variable {B : Nat} {w w' : StatsWorker} {e : WorkerEvent} {evs : List WorkerEvent}
  (hrun : ∀ pre, (workerRun B w (e :: pre)).2 = (workerRun B w' pre).2)
include hrun

theorem tickHeads_cons {P : StatsWorker → Reading → Prop} (hhead : ∀ r o, e = .tick r o → P w r)
    (htail : ∀ pre r o post, evs = pre ++ .tick r o :: post →
      ∃ w'', (workerRun B w' pre).2 = some w'' ∧ P w'' r) :
    ∀ pre r o post, e :: evs = pre ++ .tick r o :: post →
      ∃ w'', (workerRun B w pre).2 = some w'' ∧ P w'' r := by
  rintro (_ | ⟨e', pre⟩) r o post he
  · exact ⟨w, rfl, hhead r o (List.cons.inj he).1⟩
  · obtain ⟨rfl, hrest⟩ := List.cons.inj he
    obtain ⟨w'', hw, hP⟩ := htail pre r o post hrest
    exact ⟨w'', (hrun pre).trans hw, hP⟩

theorem panic_cons
    (h : ∃ pre r o post w'', evs = pre ++ .tick r o :: post ∧
      (workerRun B w' pre).2 = some w'' ∧ getStats w''.vars r = none) :
    ∃ pre r o post w'', e :: evs = pre ++ .tick r o :: post ∧
      (workerRun B w pre).2 = some w'' ∧ getStats w''.vars r = none :=
  let ⟨pre, r, o, post, w'', he, hw, hg⟩ := h
  ⟨e :: pre, r, o, post, w'', congrArg (e :: ·) he, (hrun pre).trans hw, hg⟩

end OneEvent

/-! ### Batches -/

/-- The batch the `i`-th tick (from `0`) hands to `sendStats`, for snapshots `xs`: the last
`B` of the first `i + 1` snapshots when `B` divides `i + 1`, else none. -/
def batchAt (B : Nat) (xs : List InspectorStats) (i : Nat) : Option (List InspectorStats) :=
  if B ∣ i + 1 then some ((xs.take (i + 1)).drop (i + 1 - B)) else none

/-- What a tick does on the stat stream: every message it sends is the `statBatch` of the batch
it handed to `sendStats`, and on a live stream that batch is sent, first. -/
def TickOut.Sends (t : TickOut) : Prop :=
  (∀ m, StreamCall.send m ∈ t.calls → ∃ stats, t.sent = some stats ∧ m = statBatch stats) ∧
    ∀ stats h, t.sent = some stats → t.stream = some h → t.calls.head? = some (.send (statBatch stats))

/-- The ticks' outputs batch their snapshots: the `i`-th tick hands `batchAt B` of them to
`sendStats`, and sends it as the tick's `Sends` says. -/
def Batched (B : Nat) (outs : List TickOut) : Prop :=
  outs.map TickOut.sent = (List.range outs.length).map (batchAt B (outs.map TickOut.stat)) ∧
    ∀ t ∈ outs, t.Sends

/-- The loop invariant, for the snapshots `xs` taken so far: `collected` has `B` slots,
`batch < B` counts the snapshots of the current batch, and they fill the first `batch`
slots. -/
structure StatsLoop.Inv (B : Nat) (l : StatsLoop) (xs : List InspectorStats) : Prop where
  length : l.collected.length = B
  batch_lt : l.batch < B
  batch_eq : l.batch = xs.length % B
  filled : l.collected.take l.batch = (xs.drop (xs.length - l.batch)).map some

theorem batchAt_append (B : Nat) {xs : List InspectorStats} {i : Nat} (hi : i < xs.length)
    (ys : List InspectorStats) : batchAt B (xs ++ ys) i = batchAt B xs i := by
  rw [batchAt, batchAt, List.take_append_of_le_length hi]

theorem mapM_id_map_some {α : Type} (xs : List α) : (xs.map some).mapM id = some xs := by
  induction xs with
  | nil => rfl
  | cons x xs ih => rw [List.map_cons, List.mapM_cons, ih]; rfl

theorem take_succ_set {α : Type} {c : List α} {b : Nat} (hb : b < c.length) (v : α) :
    (c.set b v).take (b + 1) = c.take b ++ [v] := by
  rw [List.take_succ, List.set_take, List.set_eq_of_length_le (by simp), List.getElem?_set_self hb]
  rfl

theorem succ_mod_of_lt {n B : Nat} (h : n % B + 1 < B) : (n + 1) % B = n % B + 1 := by
  rw [← Nat.mod_add_mod, Nat.mod_eq_of_lt h]

theorem succ_mod_of_eq {n B : Nat} (h : n % B + 1 = B) : (n + 1) % B = 0 := by
  rw [← Nat.mod_add_mod, h, Nat.mod_self]

theorem sendStats_sends {s : StatStream} {stats : List InspectorStats} {answer : Option GoError}
    {m : PStatMessage} (h : StreamCall.send m ∈ (s.sendStats stats answer).1) :
    m = statBatch stats := by
  cases hs : s.stream <;> simp_all [StatStream.sendStats, sendOn]

theorem sendStats_live {s : StatStream} {h : Handle} (hs : s.stream = some h)
    (stats : List InspectorStats) (answer : Option GoError) :
    (s.sendStats stats answer).1 = [.send (statBatch stats)] := by
  simp [StatStream.sendStats, sendOn, hs]

theorem close_sends_nothing (s : StatStream) (m : PStatMessage) :
    StreamCall.send m ∉ s.close.2 := by
  cases hs : s.stream <;> simp [StatStream.close, closeHandle, hs]

theorem StatsLoop.collect_full {B : Nat} {l : StatsLoop} {x : InspectorStats}
    {stats : List InspectorStats} (hb : l.batch < l.collected.length) (hfull : l.batch + 1 = B)
    (hmapM : (l.collected.set l.batch (some x)).mapM id = some stats) (o : SendOutcome) :
    ∃ st calls, l.collect B x o =
        some (⟨st, l.collected.set l.batch (some x), 0⟩, some stats, calls) ∧
      TickOut.Sends ⟨x, l.statStream.stream, some stats, calls⟩ := by
  simp only [StatsLoop.collect, if_pos hb, if_pos hfull, hmapM, Option.map_some']
  have hsent : ∀ {calls : List (StreamCall PStatMessage)},
      (∀ m, StreamCall.send m ∈ calls → m = statBatch stats) →
      ∀ m, StreamCall.send m ∈ calls → ∃ stats', some stats = some stats' ∧ m = statBatch stats' :=
    fun h m hm => ⟨stats, rfl, h m hm⟩
  rcases hs : l.statStream.sendStats stats o.answer with ⟨calls, _ | e⟩
  · refine ⟨_, _, rfl, hsent fun m hm => sendStats_sends (by rw [hs]; exact hm), ?_⟩
    rintro _ h ⟨⟩ hh
    have hc := sendStats_live (s := l.statStream) hh stats o.answer
    rw [hs] at hc; subst hc; rfl
  · refine ⟨_, _, rfl, hsent fun m hm => ?_, ?_⟩
    · rcases List.mem_append.mp hm with hm | hm
      · exact sendStats_sends (by rw [hs]; exact hm)
      · exact absurd hm (close_sends_nothing _ _)
    · rintro _ h ⟨⟩ hh
      have hc := sendStats_live (s := l.statStream) hh stats o.answer
      rw [hs] at hc; subst hc; rfl

theorem StatsLoop.collect_spec {B : Nat} {l : StatsLoop} {xs : List InspectorStats}
    (h : l.Inv B xs) (x : InspectorStats) (o : SendOutcome) :
    ∃ l' calls, l.collect B x o = some (l', batchAt B (xs ++ [x]) xs.length, calls) ∧
      l'.Inv B (xs ++ [x]) ∧
      TickOut.Sends ⟨x, l.statStream.stream, batchAt B (xs ++ [x]) xs.length, calls⟩ := by
  obtain ⟨hlen, hlt, heq, hfill⟩ := h
  have hb : l.batch < l.collected.length := hlen ▸ hlt
  have hle : l.batch ≤ xs.length := heq ▸ Nat.mod_le _ _
  have htake : (xs ++ [x]).take (xs.length + 1) = xs ++ [x] := List.take_of_length_le (by simp)
  have hcur : (l.collected.set l.batch (some x)).take (l.batch + 1) =
      ((xs ++ [x]).drop ((xs ++ [x]).length - (l.batch + 1))).map some := by
    rw [take_succ_set hb, hfill, List.length_append, List.length_singleton,
      show xs.length + 1 - (l.batch + 1) = xs.length - l.batch by omega,
      List.drop_append_of_le_length (by omega), List.map_append]
    rfl
  by_cases hfull : l.batch + 1 = B
  · have hfull' : xs.length % B + 1 = B := heq ▸ hfull
    have hdvd : B ∣ xs.length + 1 := Nat.dvd_of_mod_eq_zero (succ_mod_of_eq hfull')
    have hall : l.collected.set l.batch (some x) =
        ((xs ++ [x]).drop ((xs ++ [x]).length - B)).map some := by
      rw [← hfull, ← hcur, List.take_of_length_le (by simp [hlen, hfull])]
    have hbatch : batchAt B (xs ++ [x]) xs.length =
        some ((xs ++ [x]).drop ((xs ++ [x]).length - B)) := by
      rw [batchAt, if_pos hdvd, htake, List.length_append, List.length_singleton]
    obtain ⟨st, calls, hc, hsend⟩ := l.collect_full hb hfull (by rw [hall, mapM_id_map_some]) o
    refine ⟨_, calls, by rw [hbatch]; exact hc, ⟨by simp [hlen], show 0 < B by omega,
      by simpa using (succ_mod_of_eq hfull').symm, by simp⟩, by rw [hbatch]; exact hsend⟩
  · have hlt' : l.batch + 1 < B := by omega
    have hmod : (xs.length + 1) % B = l.batch + 1 := by
      rw [heq] at hlt' ⊢; exact succ_mod_of_lt hlt'
    have hndvd : ¬B ∣ xs.length + 1 := by
      rw [Nat.dvd_iff_mod_eq_zero, hmod]; exact Nat.succ_ne_zero _
    have hnone : batchAt B (xs ++ [x]) xs.length = none := if_neg hndvd
    refine ⟨⟨l.statStream, l.collected.set l.batch (some x), l.batch + 1⟩, [],
      by simp only [StatsLoop.collect, if_pos hb, if_neg hfull, hnone],
      ⟨by simp [hlen], hlt', by simpa using hmod.symm, hcur⟩, nofun, fun _ _ h => ?_⟩
    rw [hnone] at h; cases h

theorem StatsLoop.inv_start {B : Nat} (hB : 0 < B) (stream : Option Handle) :
    StatsLoop.Inv B ⟨⟨stream⟩, List.replicate B none, 0⟩ [] :=
  ⟨List.length_replicate _ _, hB, rfl, rfl⟩

theorem StatsWorker.step_tick {B : Nat} {w : StatsWorker} {xs : List InspectorStats}
    (h : w.loop.Inv B xs) {r : Reading} {p : InspectorStats × StatsVars}
    (hg : getStats w.vars r = some p) (o : SendOutcome) :
    ∃ l' calls, w.step B (.tick r o) = some (⟨p.2, l'⟩,
        some ⟨p.1, w.loop.statStream.stream, batchAt B (xs ++ [p.1]) xs.length, calls⟩) ∧
      l'.Inv B (xs ++ [p.1]) ∧
      TickOut.Sends ⟨p.1, w.loop.statStream.stream, batchAt B (xs ++ [p.1]) xs.length, calls⟩ := by
  obtain ⟨l', calls, hc, hinv, hmsg⟩ := w.loop.collect_spec h p.1 o
  exact ⟨l', calls, by simp [StatsWorker.step, hg, hc], hinv, hmsg⟩

theorem workerRun_batches {B : Nat} {w : StatsWorker} {xs : List InspectorStats}
    (h : w.loop.Inv B xs) (evs : List WorkerEvent) :
    (∀ w', (workerRun B w evs).2 = some w' →
      w'.loop.Inv B (xs ++ (workerRun B w evs).1.map TickOut.stat)) ∧
    ((workerRun B w evs).2 = none → ∃ pre r o post w', evs = pre ++ .tick r o :: post ∧
      (workerRun B w pre).2 = some w' ∧ getStats w'.vars r = none) ∧
    (workerRun B w evs).1.map TickOut.sent = (List.range (workerRun B w evs).1.length).map
      (fun i => batchAt B (xs ++ (workerRun B w evs).1.map TickOut.stat) (xs.length + i)) ∧
    ∀ t ∈ (workerRun B w evs).1, t.Sends := by
  induction evs generalizing w xs with
  | nil =>
    refine ⟨fun w' hw => ?_, nofun, rfl, fun t ht => absurd ht (List.not_mem_nil t)⟩
    cases Option.some.inj hw
    rw [show (workerRun B w []).1 = [] from rfl, List.map_nil, List.append_nil]
    exact h
  | cons e evs ih =>
    cases e with
    | record rec =>
      obtain ⟨h1, h2, h3, h4⟩ := @ih ⟨rec.apply w.vars, w.loop⟩ xs h
      have hrun := fun pre => congrArg Prod.snd (workerRun_record B w rec pre)
      rw [workerRun_record]
      exact ⟨h1, fun hn => panic_cons hrun (h2 hn), h3, h4⟩
    | tick r o =>
      cases hg : getStats w.vars r with
      | none =>
        rw [workerRun_tick_none hg]
        exact ⟨fun _ h => Option.noConfusion h, fun _ => ⟨[], r, o, evs, w, rfl, rfl, hg⟩, rfl,
          fun t ht => absurd ht (List.not_mem_nil t)⟩
      | some p =>
        obtain ⟨l', calls, hstep, hinv, hmsg⟩ := StatsWorker.step_tick h hg o
        obtain ⟨h1, h2, h3, h4⟩ := @ih ⟨p.2, l'⟩ (xs ++ [p.1]) hinv
        have hrun := fun pre => congrArg Prod.snd (workerRun_tick hstep pre)
        rw [workerRun_tick hstep]
        simp only [List.map_cons, List.length_cons, List.append_assoc, List.singleton_append]
          at h1 h3 ⊢
        refine ⟨h1, fun hn => panic_cons hrun (h2 hn), ?_, ?_⟩
        · rw [List.range_succ_eq_map, List.map_cons, List.map_map, h3, Nat.add_zero,
            ← batchAt_append B (show xs.length < (xs ++ [p.1]).length by simp)
              ((workerRun B ⟨p.2, l'⟩ evs).1.map TickOut.stat)]
          simp only [List.append_assoc, List.singleton_append, List.length_append,
            List.length_singleton, Function.comp_def, Nat.succ_eq_add_one, Nat.add_assoc,
            Nat.add_comm 1]
        · intro t ht
          rcases List.mem_cons.mp ht with rfl | ht
          · exact hmsg
          · exact h4 t ht

/-- Two ticks a second apart with a request between them, on a live stream that accepts every
send. -/
def twoTickRun : List WorkerEvent :=
  [.tick (quietReading 1) ⟨none, none⟩, .record (.incr .sampleNew), .tick (quietReading 2) ⟨none, none⟩]

set_option maxRecDepth 4000 in
/-- The first tick sends nothing, the second sends the batch of both snapshots. -/
example : (sendStatsWorker 2 zeroVars (quietReading 0) (some 0) twoTickRun).1.map
    (fun t => (t.sent.map List.length, t.calls.length)) = [(none, 0), (some 2, 1)] := by
  decide

/-! ### What the collector receives -/

theorem workerRun_stats {B : Nat} {w : StatsWorker} {xs : List InspectorStats}
    (h : w.loop.Inv B xs) (evs : List WorkerEvent) :
    (workerRun B w evs).1.map TickOut.stat = statsRun w.vars (evs.map WorkerEvent.op) := by
  induction evs generalizing w xs with
  | nil => rfl
  | cons e evs ih =>
    cases e with
    | record rec =>
      rw [workerRun_record, List.map_cons, WorkerEvent.op,
        statsRun_cons_of_step (step_recording_op w.vars rec)]
      exact ih h
    | tick r o =>
      have hop : w.vars.step (WorkerEvent.tick r o).op = (getStats w.vars r).map
          fun p => (p.2, some p.1) := rfl
      cases hg : getStats w.vars r with
      | none => rw [workerRun_tick_none hg, List.map_cons, statsRun, hop, hg]; rfl
      | some p =>
        obtain ⟨l', calls, hstep, hinv, -⟩ := StatsWorker.step_tick h hg o
        rw [hg] at hop
        rw [workerRun_tick hstep, List.map_cons, List.map_cons, statsRun_cons_of_step hop,
          @ih ⟨p.2, l'⟩ _ hinv]
        rfl

/-- End to end: on every run of the worker whose intervals fit, the snapshot of each tick
reports the activity of the interval it closes, and every message sent on the stat stream
comes after the `i`-th tick for `B` dividing `i + 1` and is the `statBatch` of snapshots that
report, in order, the last `B` intervals. -/
theorem sendStatsWorker_reports (B : Nat) (hB : 0 < B) (g : StatsVars) (r : Reading)
    (stream : Option Handle) (evs : List WorkerEvent)
    (hfit : (Interval.start r).AllClosed (fun a r => a.Fits r ∧ a.Counted ∧ a.Short r)
      (evs.map WorkerEvent.op)) :
    (sendStatsWorker B g r stream evs).1.map (fun t => t.stat.report) =
        intervalRun (Interval.start r) (evs.map WorkerEvent.op) ∧
      ∀ i t m, (sendStatsWorker B g r stream evs).1[i]? = some t →
        StreamCall.send m ∈ t.calls → B ∣ i + 1 ∧ ∃ stats, m = statBatch stats ∧
          stats.map InspectorStats.report =
            ((intervalRun (Interval.start r) (evs.map WorkerEvent.op)).take (i + 1)).drop
              (i + 1 - B) := by
  unfold sendStatsWorker
  have hinv := StatsLoop.inv_start hB stream
  obtain ⟨-, -, hsent, hmsg⟩ :=
    @workerRun_batches B (StatsWorker.start B g r stream) [] hinv evs
  have hrep : ((workerRun B (StatsWorker.start B g r stream) evs).1.map TickOut.stat).map
      InspectorStats.report = intervalRun (Interval.start r) (evs.map WorkerEvent.op) := by
    rw [@workerRun_stats B _ [] hinv evs]
    exact statsRun_report_of_sim _ (sim_start g r) hfit
  refine ⟨by rw [← hrep, List.map_map]; rfl, fun i t m ht hm => ?_⟩
  obtain ⟨stats, hts, rfl⟩ := (hmsg t (List.getElem?_mem ht)).1 m hm
  have hi := (List.getElem?_eq_some_iff.mp ht).1
  have hat := congrArg (·[i]?) hsent
  simp only [List.getElem?_map, ht, List.getElem?_range hi, Option.map_some', hts,
    List.nil_append, List.length_nil, Nat.zero_add, Option.some.injEq] at hat
  unfold batchAt at hat
  -- a tick with `B ∤ i + 1` hands nothing to `sendStats`, against `hts`
  split_ifs at hat with hdvd
  refine ⟨hdvd, stats, rfl, ?_⟩
  rw [Option.some.inj hat, List.map_drop, List.map_take]
  exact congrArg (fun l => (l.take (i + 1)).drop (i + 1 - B)) hrep

/-- One request of `100` ns, then a tick a second later that the collector accepts. -/
def oneRequestRun : List WorkerEvent :=
  [.record (.collectResponseTime 100), .tick (quietReading 1) ⟨none, none⟩]

theorem sendStatsWorker_reports_one_request :
    0 < 1 ∧ (Interval.start (quietReading 0)).AllClosed
        (fun a r => a.Fits r ∧ a.Counted ∧ a.Short r) (oneRequestRun.map WorkerEvent.op) ∧
      ((sendStatsWorker 1 zeroVars (quietReading 0) (some 0) oneRequestRun).1.map
          (fun t => t.stat.report) =
          intervalRun (Interval.start (quietReading 0)) (oneRequestRun.map WorkerEvent.op) ∧
        ∀ i t m, (sendStatsWorker 1 zeroVars (quietReading 0) (some 0) oneRequestRun).1[i]? = some t →
          StreamCall.send m ∈ t.calls → 1 ∣ i + 1 ∧ ∃ stats, m = statBatch stats ∧
            stats.map InspectorStats.report =
              ((intervalRun (Interval.start (quietReading 0))
                (oneRequestRun.map WorkerEvent.op)).take (i + 1)).drop (i + 1 - 1)) := by
  have hfit : (Interval.start (quietReading 0)).AllClosed
      (fun a r => a.Fits r ∧ a.Counted ∧ a.Short r) (oneRequestRun.map WorkerEvent.op) := by
    decide
  exact ⟨by decide, hfit,
    sendStatsWorker_reports 1 (by decide) zeroVars (quietReading 0) (some 0) oneRequestRun hfit⟩

/-! ### The divisor of `getStats` -/

theorem lastCollectTime_apply (g : StatsVars) (rec : Recording) :
    (rec.apply g).lastCollectTime = g.lastCollectTime := by
  cases rec <;> rfl

theorem rateDivisor_pos {g : StatsVars} {now : Int} (h : g.lastCollectTime + second ≤ now) :
    1 ≤ rateDivisor g now := by
  have hs : second = 10 ^ 9 := rfl
  exact one_le_int64Seconds (by unfold timeSub; omega)

/-- Each tick comes at least `sleep` after the previous one, the first at least `sleep` after
time `t`. -/
def Admissible (sleep : Int) : Int → List WorkerEvent → Prop
  | _, [] => True
  | t, .record _ :: evs => Admissible sleep t evs
  | t, .tick r _ :: evs => t + sleep ≤ r.now ∧ Admissible sleep r.now evs

theorem workerRun_divisor {B : Nat} {sleep : Int} (hsleep : second ≤ sleep) {w : StatsWorker}
    {xs : List InspectorStats} (h : w.loop.Inv B xs) {evs : List WorkerEvent}
    (hevs : Admissible sleep w.vars.lastCollectTime evs) :
    (workerRun B w evs).2.isSome ∧ ∀ pre r o post, evs = pre ++ .tick r o :: post →
      ∃ w', (workerRun B w pre).2 = some w' ∧ 1 ≤ rateDivisor w'.vars r.now := by
  induction evs generalizing w xs with
  | nil => exact ⟨rfl, fun pre _ _ _ he => by cases pre <;> cases he⟩
  | cons e evs ih =>
    cases e with
    | record rec =>
      rw [Admissible, ← lastCollectTime_apply w.vars rec] at hevs
      obtain ⟨h1, h2⟩ := @ih ⟨rec.apply w.vars, w.loop⟩ xs h hevs
      have hrun := fun pre => congrArg Prod.snd (workerRun_record B w rec pre)
      rw [workerRun_record]
      exact ⟨h1, tickHeads_cons hrun (fun _ _ he => WorkerEvent.noConfusion he) h2⟩
    | tick r o =>
      obtain ⟨hr, hevs⟩ := hevs
      have hd : 1 ≤ rateDivisor w.vars r.now := rateDivisor_pos (by omega)
      obtain ⟨p, hg⟩ := Option.ne_none_iff_exists'.mp
        (mt getStats_eq_none.mp (by omega) : getStats w.vars r ≠ none)
      obtain ⟨l', calls, hstep, hinv, -⟩ := StatsWorker.step_tick h hg o
      have hclock : p.2.lastCollectTime = r.now := by
        rw [(getStats_inv (show getStats w.vars r = some (p.1, p.2) from hg)).2.1]; rfl
      obtain ⟨h1, h2⟩ := @ih ⟨p.2, l'⟩ (xs ++ [p.1]) hinv (hclock ▸ hevs)
      have hrun := fun pre => congrArg Prod.snd (workerRun_tick hstep pre)
      rw [workerRun_tick hstep]
      exact ⟨h1, tickHeads_cons hrun (fun _ _ he => by cases he; exact hd) h2⟩

theorem sleepTime_of_le {ci : Int} (h : 0 ≤ ci ∧ ci * millisecond < 2 ^ 63) :
    sleepTime ci = ci * millisecond :=
  have := Int.mul_nonneg h.1 (by decide : (0 : Int) ≤ millisecond)
  wrap64_of_inInt64 ⟨by omega, h.2⟩

/-- With a `CollectInterval` of at least a second and every tick at least one sleep after the
previous one (the first, one sleep after `initStats`), the worker never panics and the divisor
of `getStats` is at least `1` on every tick. -/
theorem divisor_pos_of_interval (B : Nat) (hB : 0 < B) (ci : Int)
    (hci : 1000 ≤ ci ∧ ci * millisecond < 2 ^ 63) (g : StatsVars) (r : Reading)
    (stream : Option Handle) (evs : List WorkerEvent) (hevs : Admissible (sleepTime ci) r.now evs) :
    (sendStatsWorker B g r stream evs).2.isSome ∧ ∀ pre r' o post, evs = pre ++ .tick r' o :: post →
      ∃ w, (sendStatsWorker B g r stream pre).2 = some w ∧ 1 ≤ rateDivisor w.vars r'.now := by
  have hsleep : second ≤ sleepTime ci := by
    rw [sleepTime_of_le ⟨by omega, hci.2⟩, show second = 1000 * millisecond from rfl]
    exact Int.mul_le_mul_of_nonneg_right hci.1 (by decide)
  exact @workerRun_divisor B (sleepTime ci) hsleep (StatsWorker.start B g r stream) []
    (StatsLoop.inv_start hB stream) evs hevs

theorem divisor_pos_of_interval_two_ticks :
    0 < 1 ∧ (1000 ≤ (1000 : Int) ∧ 1000 * millisecond < 2 ^ 63) ∧
      Admissible (sleepTime 1000) (quietReading 0).now
        [.tick (quietReading 1) ⟨none, none⟩, .record (.incr .sampleNew),
          .tick (quietReading 3) ⟨none, none⟩] ∧
      ((sendStatsWorker 1 zeroVars (quietReading 0) none
        [.tick (quietReading 1) ⟨none, none⟩, .record (.incr .sampleNew),
          .tick (quietReading 3) ⟨none, none⟩]).2.isSome ∧
        ∀ pre r' o post, [.tick (quietReading 1) ⟨none, none⟩, .record (.incr .sampleNew),
            .tick (quietReading 3) ⟨none, none⟩] = pre ++ WorkerEvent.tick r' o :: post →
          ∃ w, (sendStatsWorker 1 zeroVars (quietReading 0) none pre).2 = some w ∧
            1 ≤ rateDivisor w.vars r'.now) :=
  have hci : 1000 ≤ (1000 : Int) ∧ 1000 * millisecond < 2 ^ 63 := by decide
  have hevs : Admissible (sleepTime 1000) (quietReading 0).now
      [.tick (quietReading 1) ⟨none, none⟩, .record (.incr .sampleNew),
        .tick (quietReading 3) ⟨none, none⟩] := by
    simp only [Admissible, sleepTime_of_le ⟨by decide, hci.2⟩, quietReading]; decide
  ⟨by decide, hci, hevs,
    divisor_pos_of_interval 1 (by decide) 1000 hci zeroVars (quietReading 0) none _ hevs⟩

/-- With a `CollectInterval` below a second and a first sleep of exactly its length, the first
`getStats` divides by zero. -/
theorem subsecond_interval_panics (ci : Int) (hci : 0 ≤ ci ∧ ci < 1000) (B : Nat) (g : StatsVars)
    (r r₁ : Reading) (stream : Option Handle) (o : SendOutcome)
    (h : r₁.now = r.now + sleepTime ci) : (sendStatsWorker B g r stream [.tick r₁ o]).2 = none := by
  have hms : millisecond = 1000000 := rfl
  have hs : sleepTime ci = ci * millisecond := sleepTime_of_le ⟨hci.1, by rw [hms]; omega⟩
  have hd : timeSub r₁.now r.now = ci * millisecond := by
    rw [timeSub_of_inInt64] <;> rw [h, hs, hms] <;> omega
  have hdiv : rateDivisor (statsStart g r) r₁.now = 0 := by
    show int64Seconds (timeSub r₁.now r.now) = 0
    rw [int64Seconds_eq_zero_iff, hd, wholeSeconds, hms, show second = 1000000000 from rfl]
    exact Int.tdiv_eq_zero_of_lt (by omega) (by omega)
  exact congrArg Prod.snd
    (@workerRun_tick_none B (StatsWorker.start B g r stream) r₁ o (getStats_eq_none.mpr hdiv) [])

theorem subsecond_interval_panics_half_second :
    (0 ≤ (500 : Int) ∧ (500 : Int) < 1000) ∧
      (sendStatsWorker 1 zeroVars (quietReading 0) none
        [.tick { quietReading 0 with now := sleepTime 500 } ⟨none, none⟩]).2 = none :=
  ⟨by decide, subsecond_interval_panics 500 (by decide) 1 zeroVars (quietReading 0)
    { quietReading 0 with now := sleepTime 500 } none ⟨none, none⟩ (by simp [quietReading])⟩

end PinpointAgent
