import PinpointAgent.Stats.Registry
import PinpointAgent.GoFloat

/-!
# The stats aggregator

The package variables of `stats.go` and the calls that read and write them, one at a time:
`collectResponseTime`, the six `incr…` counters, `resetResponseTime`, `initStats`, `getStats`,
`addActiveSpan` and `dropActiveSpan`. Go's `int64` counters wrap (`wrap64`), and `getStats`
divides the six counters by `int64(dur.Seconds())` (`int64Seconds`, rounded in `float64`), so
it panics where that is `0`; `getStats` returns `none` there.

`lastRusage` and the two CPU fields of `inspectorStats` are left out: they are `float64`
ratios of `getrusage` readings that nothing else in the model reads.
-/

namespace PinpointAgent

/-- The fields of `runtime.MemStats` that `getStats` reads. -/
structure MemStats where
  numGC : UInt32
  pauseTotalNs : UInt64
  heapAlloc : UInt64
  sys : UInt64
  stackInuse : UInt64
  stackSys : UInt64
  deriving DecidableEq

/-- What one call reads from the runtime: `time.Now()`, `runtime.ReadMemStats` and
`runtime.NumGoroutine()`. `gcCycles` counts the completed GC cycles; the runtime reports it as
the `uint32` `NumGC`, which wraps. -/
structure Reading where
  now : Int
  gcCycles : Nat
  pauseTotalNs : UInt64
  heapAlloc : UInt64
  sys : UInt64
  stackInuse : UInt64
  stackSys : UInt64
  numGoroutine : Int
  deriving DecidableEq

/-- `runtime.ReadMemStats(&mem)`. -/
def Reading.mem (r : Reading) : MemStats :=
  ⟨UInt32.ofNat r.gcCycles, r.pauseTotalNs, r.heapAlloc, r.sys, r.stackInuse, r.stackSys⟩

/-- The six sampling counters, `sampleNew` … `skipCont`. -/
inductive Counter where
  | sampleNew | unsampleNew | sampleCont | unsampleCont | skipNew | skipCont
  deriving DecidableEq, Repr, Fintype

/-- The package variables of `stats.go` (`lastRusage` left out). -/
structure StatsVars where
  lastMemStats : MemStats
  lastCollectTime : Int
  accResponseTime : Int
  maxResponseTime : Int
  requestCount : Int
  counters : Counter → Int
  activeSpan : ActiveSpans

/-- `inspectorStats` without its two CPU fields. -/
structure InspectorStats where
  sampleTime : Int
  goroutineNum : Int
  heapAlloc : Int
  heapMax : Int
  nonHeapAlloc : Int
  nonHeapMax : Int
  gcNum : Int
  gcTime : Int
  responseAvg : Int
  responseMax : Int
  sampleNew : Int
  sampleCont : Int
  unSampleNew : Int
  unSampleCont : Int
  skipNew : Int
  skipCont : Int
  activeSpan : List Int
  deriving DecidableEq

section Calls

variable (g : StatsVars)

def collectResponseTime (resTime : Int) : StatsVars :=
  { g with
    accResponseTime := wrap64 (g.accResponseTime + resTime)
    requestCount := wrap64 (g.requestCount + 1)
    maxResponseTime := if g.maxResponseTime < resTime then resTime else g.maxResponseTime }

def resetResponseTime : StatsVars :=
  { g with accResponseTime := 0, requestCount := 0, maxResponseTime := 0, counters := fun _ => 0 }

/-- `c++` for one sampling counter `c`. -/
def incrCounter (c : Counter) : StatsVars :=
  { g with counters := Function.update g.counters c (wrap64 (g.counters c + 1)) }

def incrSampleNew : StatsVars := incrCounter g .sampleNew
def incrUnsampleNew : StatsVars := incrCounter g .unsampleNew
def incrSampleCont : StatsVars := incrCounter g .sampleCont
def incrUnsampleCont : StatsVars := incrCounter g .unsampleCont
def incrSkipNew : StatsVars := incrCounter g .skipNew
def incrSkipCont : StatsVars := incrCounter g .skipCont

/-- `initStats()` at reading `r`. -/
def initStats (r : Reading) : StatsVars :=
  { g with lastMemStats := r.mem, lastCollectTime := r.now, activeSpan := [] }

def addActiveSpan (spanId start : Int) : StatsVars :=
  { g with activeSpan := g.activeSpan.apply (.addActiveSpan spanId start) }

def dropActiveSpan (spanId : Int) : StatsVars :=
  { g with activeSpan := g.activeSpan.apply (.dropActiveSpan spanId) }

def calcResponseAvg : Int :=
  if 0 < g.requestCount then goDiv g.accResponseTime g.requestCount else 0

/-- The divisor `int64(dur.Seconds())` of `getStats` at time `now`. -/
def rateDivisor (now : Int) : Int := int64Seconds (timeSub now g.lastCollectTime)

/-- `getStats()` at reading `r`: the snapshot and the variables after it, or `none` where
`sampleNew / int64(dur.Seconds())` divides by zero and Go panics. -/
def getStats (r : Reading) : Option (InspectorStats × StatsVars) :=
  let secs := rateDivisor g r.now
  if secs = 0 then none else
  let mem := r.mem
  some (
    { sampleTime := r.now
      goroutineNum := r.numGoroutine
      heapAlloc := wrap64 mem.heapAlloc.toNat
      heapMax := wrap64 mem.sys.toNat
      nonHeapAlloc := wrap64 mem.stackInuse.toNat
      nonHeapMax := wrap64 mem.stackSys.toNat
      gcNum := (mem.numGC - g.lastMemStats.numGC).toNat
      gcTime := goDiv (wrap64 (mem.pauseTotalNs - g.lastMemStats.pauseTotalNs).toNat) millisecond
      responseAvg := calcResponseAvg g
      responseMax := g.maxResponseTime
      sampleNew := goDiv (g.counters .sampleNew) secs
      sampleCont := goDiv (g.counters .sampleCont) secs
      unSampleNew := goDiv (g.counters .unsampleNew) secs
      unSampleCont := goDiv (g.counters .unsampleCont) secs
      skipNew := goDiv (g.counters .skipNew) secs
      skipCont := goDiv (g.counters .skipCont) secs
      activeSpan := List.ofFn (countActiveSpans r.now g.activeSpan) },
    resetResponseTime { g with lastMemStats := mem, lastCollectTime := r.now })

end Calls

/-- The sampling field of a snapshot that reports counter `c`. -/
def InspectorStats.rate (s : InspectorStats) : Counter → Int
  | .sampleNew => s.sampleNew
  | .unsampleNew => s.unSampleNew
  | .sampleCont => s.sampleCont
  | .unsampleCont => s.unSampleCont
  | .skipNew => s.skipNew
  | .skipCont => s.skipCont

/-! ### Runs -/

inductive StatsOp where
  | collectResponseTime (resTime : Int)
  | incr (c : Counter)
  | resetResponseTime
  | initStats (r : Reading)
  | getStats (r : Reading)
  | addActiveSpan (spanId start : Int)
  | dropActiveSpan (spanId : Int)

/-- One call, executed alone: the variables after it and the snapshot a `getStats` returns;
`none` where the call panics. -/
def StatsVars.step (g : StatsVars) : StatsOp → Option (StatsVars × Option InspectorStats)
  | .collectResponseTime t => some (collectResponseTime g t, none)
  | .incr c => some (incrCounter g c, none)
  | .resetResponseTime => some (resetResponseTime g, none)
  | .initStats r => some (initStats g r, none)
  | .getStats r => (getStats g r).map fun p => (p.2, some p.1)
  | .addActiveSpan k s => some (addActiveSpan g k s, none)
  | .dropActiveSpan k => some (dropActiveSpan g k, none)

/-- The snapshots a run of calls returns, in order, up to the first panic. -/
def statsRun (g : StatsVars) : List StatsOp → List InspectorStats
  | [] => []
  | op :: ops =>
    match g.step op with
    | none => []
    | some (g', s) => s.toList ++ statsRun g' ops

def StatsOp.registryOp : StatsOp → Option RegistryOp
  | .initStats _ => some .initStats
  | .addActiveSpan k s => some (.addActiveSpan k s)
  | .dropActiveSpan k => some (.dropActiveSpan k)
  | _ => none

def StatsVars.after (g : StatsVars) : List StatsOp → Option StatsVars
  | [] => some g
  | op :: ops => (g.step op).bind fun p => p.1.after ops

/-! ### One lemma per call -/

@[simp] theorem step_collectResponseTime (g : StatsVars) (t : Int) :
    g.step (.collectResponseTime t) = some (collectResponseTime g t, none) := rfl

@[simp] theorem step_incr (g : StatsVars) (c : Counter) :
    g.step (.incr c) = some (incrCounter g c, none) := rfl

@[simp] theorem step_resetResponseTime (g : StatsVars) :
    g.step .resetResponseTime = some (resetResponseTime g, none) := rfl

@[simp] theorem step_initStats (g : StatsVars) (r : Reading) :
    g.step (.initStats r) = some (initStats g r, none) := rfl

theorem getStats_eq_none {g : StatsVars} {r : Reading} :
    getStats g r = none ↔ rateDivisor g r.now = 0 := by
  unfold getStats; dsimp only; split <;> simp_all

theorem getStats_inv {g g' : StatsVars} {r : Reading} {s : InspectorStats}
    (h : getStats g r = some (s, g')) :
    rateDivisor g r.now ≠ 0 ∧
      g' = resetResponseTime { g with lastMemStats := r.mem, lastCollectTime := r.now } ∧
      s.responseAvg = calcResponseAvg g ∧ s.responseMax = g.maxResponseTime ∧
      (∀ c, s.rate c = goDiv (g.counters c) (rateDivisor g r.now)) ∧
      s.gcNum = (r.mem.numGC - g.lastMemStats.numGC).toNat ∧
      s.activeSpan = List.ofFn (countActiveSpans r.now g.activeSpan) := by
  unfold getStats at h; dsimp only at h
  split at h
  · cases h
  · obtain ⟨rfl, rfl⟩ := Prod.mk.inj (Option.some.inj h)
    refine ⟨‹_›, rfl, rfl, rfl, fun c => ?_, rfl, rfl⟩
    cases c <;> rfl

/-- The divisor of `getStats` is `0` exactly when less than a whole second has passed, is the
whole seconds elapsed or one more, and is the whole seconds while less than `2^23` seconds
have passed either way. -/
theorem rateDivisor_whole_seconds (g : StatsVars) (now : Int) :
    (rateDivisor g now = 0 ↔ wholeSeconds (timeSub now g.lastCollectTime) = 0) ∧
      (0 ≤ timeSub now g.lastCollectTime →
        wholeSeconds (timeSub now g.lastCollectTime) ≤ rateDivisor g now ∧
          rateDivisor g now ≤ wholeSeconds (timeSub now g.lastCollectTime) + 1) ∧
      ((timeSub now g.lastCollectTime).natAbs < 2 ^ 23 * 10 ^ 9 →
        rateDivisor g now = wholeSeconds (timeSub now g.lastCollectTime)) :=
  ⟨int64Seconds_eq_zero_iff _,
    fun h => int64Seconds_bounds h (by have := timeSub_inInt64 now g.lastCollectTime; exact this.2),
    int64Seconds_eq_wholeSeconds⟩

theorem step_of_ne_getStats (g : StatsVars) {op : StatsOp} (hop : ∀ r, op ≠ .getStats r) :
    ∃ g', g.step op = some (g', none) := by
  cases op <;> first | exact ⟨_, rfl⟩ | exact absurd rfl (hop _)

theorem statsRun_cons_of_step {g g' : StatsVars} {op : StatsOp} {s : Option InspectorStats}
    (h : g.step op = some (g', s)) (ops : List StatsOp) :
    statsRun g (op :: ops) = s.toList ++ statsRun g' ops := by
  simp [statsRun, h]

/-! ### The histogram -/

/-- The histogram of a registry history: bucket `i` is the number of live span ids whose age
lies in the `i`-th interval, as an `int32`; the exact numbers sum to the number of live ids;
and `getStats` stores the histogram of its own sampling instant. -/
theorem getActiveSpanCount_live (h : List RegistryOp) (now : Int) :
    getActiveSpanCount (registry h) now =
        List.ofFn (fun i => wrap32 (liveInBucket h now i).card) ∧
      ∑ i, (liveInBucket h now i).card = (liveIds h).card ∧
      ∀ (g g' : StatsVars) (r : Reading) (s : InspectorStats), getStats g r = some (s, g') →
        s.activeSpan = getActiveSpanCount g.activeSpan r.now :=
  ⟨congrArg List.ofFn (funext (countActiveSpans_eq_card h now)), sum_card_liveInBucket h now,
    fun _ _ _ _ hs => (getStats_inv hs).2.2.2.2.2.2⟩

def spansFrom (n : Nat) : List RegistryOp :=
  (List.range n).map fun k : Nat => RegistryOp.addActiveSpan (k : Int) 0

theorem liveStart_spansFrom (n : Nat) (k : Int) :
    liveStart (spansFrom n) k = if 0 ≤ k ∧ k < n then some 0 else none := by
  induction n with
  | zero => rw [if_neg (by omega)]; rfl
  | succ n ih =>
    rw [spansFrom, List.range_succ, List.map_append, List.map_singleton, liveStart_append,
      ← spansFrom, ih]
    simp only [liveStep]
    split_ifs <;> first | rfl | omega

theorem liveIds_spansFrom (n : Nat) :
    liveIds (spansFrom n) = ((List.range n).map (Nat.cast : Nat → Int)).toFinset := by
  have hadded : (spansFrom n).filterMap RegistryOp.added = (List.range n).map Nat.cast := by
    simp only [spansFrom, List.filterMap_map]
    exact congrFun (List.filterMap_eq_map _) _
  ext k
  simp only [liveIds, hadded, Finset.mem_filter, List.mem_toFinset, liveStart_spansFrom,
    and_iff_left_iff_imp, List.mem_map, List.mem_range]
  rintro ⟨m, hm, rfl⟩
  simp [hm]

/-- `int32` counters wrap: with `2^31` live spans of age `0`, bucket `0` reads `-2^31`. -/
theorem activeSpanCount_wraps :
    (liveInBucket (spansFrom (2 ^ 31)) 0 0).card = 2 ^ 31 ∧
      (getActiveSpanCount (registry (spansFrom (2 ^ 31))) 0).head? = some (-2 ^ 31) := by
  have hcard : (liveInBucket (spansFrom (2 ^ 31)) 0 0).card = 2 ^ 31 := by
    have hall : liveInBucket (spansFrom (2 ^ 31)) 0 0 = liveIds (spansFrom (2 ^ 31)) := by
      refine Finset.filter_true_of_mem fun k hk => ?_
      rw [liveIds_spansFrom, List.mem_toFinset] at hk
      obtain ⟨m, hm, rfl⟩ := List.mem_map.mp hk
      rw [liveStart_spansFrom, if_pos (by simp at hm ⊢; omega)]
      rfl
    rw [hall, liveIds_spansFrom, List.toFinset_card_of_nodup
      ((List.nodup_range _).map Nat.cast_injective), List.length_map, List.length_range]
  refine ⟨hcard, ?_⟩
  rw [getActiveSpanCount, List.ofFn_succ, List.head?_cons, countActiveSpans_eq_card, hcard]
  rfl

end PinpointAgent
