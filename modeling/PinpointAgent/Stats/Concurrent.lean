import PinpointAgent.Stats.Interval

/-!
# The goroutines of `stats.go`

The package variables of `stats.go` are shared by every goroutine of the agent: the traced
requests call `collectResponseTime`, the six `incr…` functions, `addActiveSpan` and
`dropActiveSpan`; the stats worker calls `initStats` and `resetResponseTime` once, then
`getStats`; the command stream calls `getActiveSpanCount`. `statsMux` is taken by
`collectResponseTime` and `getStats` only.

Each call is modelled as the steps it makes on shared memory (`StatsCall.prog`): taking and
releasing `statsMux`, one load or one store of a package variable per access (so `x += y` and
`x++` are a load and a store), an atomic `sync.Map` call, and the local computation of a result
(the `inspectorStats` literal, which panics on a zero divisor). A goroutine keeps its own copy
of what it loaded (`Caller.loc`). A run replays a schedule of goroutine indices
(`StatsSystem.run`); a goroutine at `Lock()` while `statsMux` is held makes no step. Every
interleaving of the calls is one schedule.

`statsMux` guards `lastMemStats`, `lastCollectTime`, `accResponseTime`, `maxResponseTime` and
`requestCount` (`StatsVars.guarded`). After the worker's start (`StatsCall.WritesUnlocked`: the
unlocked `initStats(); resetResponseTime()`), only `collectResponseTime` and `getStats` touch
them, between `Lock()` and `Unlock()`. The examples after `run_serial_request_during_collection`
show the rest: a request recorded during the worker's start is half reset, two unlocked
increments can lose one, and one that loads before `getStats` resets the counter and stores
after it brings the reported count back.

* `StatsSystem.run_serial`: on every schedule after the worker's start, from any variables,
  whatever the goroutines call, the snapshots so far begin those of the sequential `statsRun`
  of the locked calls in the order they took `statsMux`, in every field but the six rates and
  the histogram (`InspectorStats.lockedFields`); a crash is a panic of that sequential run; and
  whenever `statsMux` is free, the guarded variables are those of the sequential run.
* `StatsSystem.run_reports`: composed with `statsRun_view_of_sim`, each snapshot's response
  average and maximum are those of exactly the response times recorded since the previous one.

Proof. Each call past the start has one of two shapes (`StatsCall.shape`): a locked call is
`Lock()`, a body of steps that depend on the guarded variables only through their values
(`StatsInstr.Respects`) and `Unlock()`, and its body run alone (`runAlone`) is the sequential
call (`LockedCall`); an unlocked call's steps store no guarded variable (`StatsInstr.Frames`).
The invariant `Serial` says that either `statsMux` is free and the sequential run explains the
run so far (`Done`), or one goroutine alone is inside, and the sequential run followed by the
steps of its body so far, run alone, explains it (`Seq`). `Serial.next` is the step lemma,
`Serial.run` the run lemma; `Tame` keeps the worker's start out of the run.

`activeSpan.Range` is one load of the map, and `activeSpan = sync.Map{}` in `initStats` one
store; the `sync.Map` documentation allows a `Range` to see a mapping from any point during the
call.
-/

namespace PinpointAgent

/-! ### Calls as steps on shared memory -/

/-- A package variable of `stats.go` that a call loads or stores. -/
inductive StatsField where
  | lastMemStats
  | lastCollectTime
  | accResponseTime
  | maxResponseTime
  | requestCount
  | counter (c : Counter)
  | activeSpan
  deriving DecidableEq

/-- `dst` with field `x` taken from `src`. -/
def StatsField.copy (x : StatsField) (src dst : StatsVars) : StatsVars :=
  match x with
  | .lastMemStats => { dst with lastMemStats := src.lastMemStats }
  | .lastCollectTime => { dst with lastCollectTime := src.lastCollectTime }
  | .accResponseTime => { dst with accResponseTime := src.accResponseTime }
  | .maxResponseTime => { dst with maxResponseTime := src.maxResponseTime }
  | .requestCount => { dst with requestCount := src.requestCount }
  | .counter c => { dst with counters := Function.update dst.counters c (src.counters c) }
  | .activeSpan => { dst with activeSpan := src.activeSpan }

/-- What a run shows: a call taking `statsMux`, a snapshot `getStats` returned, a histogram
`getActiveSpanCount` returned. -/
inductive StatsEvent where
  | acquired (op : StatsOp)
  | snapshot (s : InspectorStats)
  | activeSpanCount (counts : List Int)

/-- One step of a call on shared memory. -/
inductive StatsInstr where
  /-- `statsMux.Lock()` at the start of the locked call `op`. -/
  | lock (op : StatsOp)
  /-- The deferred `statsMux.Unlock()`. -/
  | unlock
  /-- A read of `x` into the goroutine's copy. -/
  | load (x : StatsField)
  /-- When `p` holds of the copy, a write of field `x` of `f` applied to it. -/
  | store (p : StatsVars → Bool) (x : StatsField) (f : StatsVars → StatsVars)
  /-- `activeSpan.Store` or `activeSpan.Delete`; `sync.Map` calls are atomic. -/
  | syncMap (op : RegistryOp)
  /-- The `inspectorStats` literal of `getStats` from the loaded values, then the values
  `lastMemStats`, `lastCollectTime` and `resetResponseTime()` will store. -/
  | snapshot (r : Reading)
  /-- The loop of `getActiveSpanCount(now)` over the loaded map. -/
  | countSpans (now : Int)

/-- A step on variables `v` and copy `l`, `statsMux` aside: the variables, the copy and what it
shows, or `none` at a panic. -/
def StatsInstr.run : StatsInstr → StatsVars → StatsVars →
    Option (StatsVars × StatsVars × Option StatsEvent)
  | .lock op, v, l => some (v, l, some (.acquired op))
  | .unlock, v, l => some (v, l, none)
  | .load x, v, l => some (v, x.copy v l, none)
  | .store p x f, v, l => some (if p l then x.copy (f l) v else v, l, none)
  | .syncMap op, v, l => some ({ v with activeSpan := v.activeSpan.apply op }, l, none)
  | .snapshot r, v, l => (getStats l r).map fun p => (v, p.2, some (.snapshot p.1))
  | .countSpans now, v, l =>
    some (v, l, some (.activeSpanCount (getActiveSpanCount l.activeSpan now)))

/-- A call of a goroutine into `stats.go`. -/
inductive StatsCall where
  | collectResponseTime (resTime : Int)
  | incr (c : Counter)
  | addActiveSpan (spanId start : Int)
  | dropActiveSpan (spanId : Int)
  | getStats (r : Reading)
  | getActiveSpanCount (now : Int)
  | initStats (r : Reading)
  | resetResponseTime

def StatsInstr.set (x : StatsField) (f : StatsVars → StatsVars) : StatsInstr :=
  .store (fun _ => true) x f

/-- `statsMux.Lock(); defer statsMux.Unlock()` around `body`, for the call `op`. -/
def locked (op : StatsOp) (body : List StatsInstr) : List StatsInstr :=
  .lock op :: (body ++ [.unlock])

/-- The variables `getStats` reads, in source order: `lastCollectTime` for `dur`, the map for
`activeSpan.Range`, then the fields of the `inspectorStats` literal (`requestCount` twice for
`calcResponseAvg()`). -/
def getStatsLoads : List StatsInstr :=
  [.lastCollectTime, .activeSpan, .lastMemStats, .requestCount, .accResponseTime, .requestCount,
    .maxResponseTime, .counter .sampleNew, .counter .sampleCont, .counter .unsampleNew,
    .counter .unsampleCont, .counter .skipNew, .counter .skipCont].map .load

/-- The nine variables `resetResponseTime()` zeroes, in source order. -/
def resetFields : List StatsField :=
  [.accResponseTime, .requestCount, .maxResponseTime, .counter .sampleNew,
    .counter .unsampleNew, .counter .sampleCont, .counter .unsampleCont, .counter .skipNew,
    .counter .skipCont]

/-- `lastMemStats = mem`, `lastCollectTime = now`, and the stores of `resetResponseTime()`,
each of the value the copy holds after the snapshot. -/
def getStatsStores : List StatsInstr :=
  (.lastMemStats :: .lastCollectTime :: resetFields).map fun x => .set x id

/-- The body of `collectResponseTime(resTime)`: `accResponseTime += resTime`, `requestCount++`
and the conditional store of `maxResponseTime`. -/
def collectBody (t : Int) : List StatsInstr :=
  [.load .accResponseTime,
    .set .accResponseTime fun l => { l with accResponseTime := wrap64 (l.accResponseTime + t) },
    .load .requestCount,
    .set .requestCount fun l => { l with requestCount := wrap64 (l.requestCount + 1) },
    .load .maxResponseTime,
    .store (fun l => decide (l.maxResponseTime < t)) .maxResponseTime
      fun l => { l with maxResponseTime := t }]

def StatsCall.prog : StatsCall → List StatsInstr
  | .collectResponseTime t => locked (.collectResponseTime t) (collectBody t)
  | .incr c => [.load (.counter c), .set (.counter c) fun l => incrCounter l c]
  | .addActiveSpan k s => [.syncMap (.addActiveSpan k s)]
  | .dropActiveSpan k => [.syncMap (.dropActiveSpan k)]
  | .getStats r => locked (.getStats r) (getStatsLoads ++ .snapshot r :: getStatsStores)
  | .getActiveSpanCount now => [.load .activeSpan, .countSpans now]
  | .initStats r =>
    [.lastMemStats, .lastCollectTime, .activeSpan].map fun x => .set x (PinpointAgent.initStats · r)
  | .resetResponseTime => resetFields.map fun x => .set x PinpointAgent.resetResponseTime

def StatsCall.Locked : StatsCall → Prop
  | .collectResponseTime _ | .getStats _ => True
  | _ => False

instance (c : StatsCall) : Decidable c.Locked :=
  decidable_of_iff (c matches .collectResponseTime _ | .getStats _) (by cases c <;> simp [StatsCall.Locked])

/-- The calls that store guarded variables without taking `statsMux`: the two that
`sendStatsWorker` makes before its loop. -/
def StatsCall.WritesUnlocked : StatsCall → Prop
  | .initStats _ | .resetResponseTime => True
  | _ => False

instance (c : StatsCall) : Decidable c.WritesUnlocked :=
  decidable_of_iff (c matches .initStats _ | .resetResponseTime) (by cases c <;> simp [StatsCall.WritesUnlocked])

/-! ### Goroutines and runs -/

/-- A goroutine calling into `stats.go`: the calls it has still to make, the call under way and its next step, and
its own copy of what it loaded. -/
structure Caller where
  calls : List StatsCall
  cur : Option (StatsCall × Nat)
  loc : StatsVars

/-- The process: the package variables, whether `statsMux` is held, and the goroutines. -/
structure StatsSystem where
  vars : StatsVars
  mux : Bool
  gs : List Caller

/-- Step `ins` of call `c`, at `pc`, by goroutine `i`, which is `g`. A `Lock()` while
`statsMux` is held makes no step. -/
def StatsSystem.exec (s : StatsSystem) (i : Nat) (g : Caller) (c : StatsCall) (pc : Nat) :
    StatsInstr → Option (StatsSystem × Option StatsEvent)
  | .lock op =>
    if s.mux then some (s, none)
    else some ({ s with mux := true, gs := s.gs.set i { g with cur := some (c, pc + 1) } },
      some (.acquired op))
  | .unlock =>
    some ({ s with mux := false, gs := s.gs.set i { g with cur := some (c, pc + 1) } }, none)
  | ins =>
    (ins.run s.vars g.loc).map fun p =>
      ({ s with vars := p.1, gs := s.gs.set i ⟨g.calls, some (c, pc + 1), p.2.1⟩ }, p.2.2)

/-- One step of goroutine `i`: the start of its next call (with fresh locals), the return from
a finished one, or the next step of the call under way. A goroutine with nothing left to do,
or an index with no goroutine, makes no step. `none`: the process crashed. -/
def StatsSystem.step (s : StatsSystem) (i : Nat) : Option (StatsSystem × Option StatsEvent) :=
  match s.gs[i]? with
  | none => some (s, none)
  | some g =>
    match g.cur with
    | none =>
      match g.calls with
      | [] => some (s, none)
      | c :: cs => some ({ s with gs := s.gs.set i ⟨cs, some (c, 0), zeroVars⟩ }, none)
    | some (c, pc) =>
      match c.prog[pc]? with
      | none => some ({ s with gs := s.gs.set i { g with cur := none } }, none)
      | some ins => s.exec i g c pc ins

/-- The events of a run along schedule `sched`, up to a crash, and the process after it
(`none` after a crash). -/
def StatsSystem.run (s : StatsSystem) : List Nat → List StatsEvent × Option StatsSystem
  | [] => ([], some s)
  | i :: sched =>
    match s.step i with
    | none => ([], none)
    | some (s', e) => (e.toList ++ (s'.run sched).1, (s'.run sched).2)

/-- The process with variables `g`, `statsMux` free, and one goroutine per list of calls. -/
def StatsSystem.start (g : StatsVars) (calls : List (List StatsCall)) : StatsSystem :=
  ⟨g, false, calls.map fun cs => ⟨cs, none, zeroVars⟩⟩

/-- The locked calls of a run, in the order they took `statsMux`. -/
def lockOrder (evs : List StatsEvent) : List StatsOp :=
  evs.filterMap fun | .acquired op => some op | _ => none

def snapshots (evs : List StatsEvent) : List InspectorStats :=
  evs.filterMap fun | .snapshot s => some s | _ => none

@[simp] theorem lockOrder_nil : lockOrder [] = [] := rfl
@[simp] theorem snapshots_nil : snapshots [] = [] := rfl

@[simp] theorem lockOrder_acquired (op : StatsOp) (evs : List StatsEvent) :
    lockOrder (.acquired op :: evs) = op :: lockOrder evs := rfl
@[simp] theorem lockOrder_snapshot (s : InspectorStats) (evs : List StatsEvent) :
    lockOrder (.snapshot s :: evs) = lockOrder evs := rfl
@[simp] theorem lockOrder_activeSpanCount (counts : List Int) (evs : List StatsEvent) :
    lockOrder (.activeSpanCount counts :: evs) = lockOrder evs := rfl
@[simp] theorem snapshots_acquired (op : StatsOp) (evs : List StatsEvent) :
    snapshots (.acquired op :: evs) = snapshots evs := rfl
@[simp] theorem snapshots_snapshot (s : InspectorStats) (evs : List StatsEvent) :
    snapshots (.snapshot s :: evs) = s :: snapshots evs := rfl
@[simp] theorem snapshots_activeSpanCount (counts : List Int) (evs : List StatsEvent) :
    snapshots (.activeSpanCount counts :: evs) = snapshots evs := rfl

@[simp] theorem lockOrder_append (evs evs' : List StatsEvent) :
    lockOrder (evs ++ evs') = lockOrder evs ++ lockOrder evs' := List.filterMap_append ..

@[simp] theorem snapshots_append (evs evs' : List StatsEvent) :
    snapshots (evs ++ evs') = snapshots evs ++ snapshots evs' := List.filterMap_append ..

/-- A snapshot with the six rates and the histogram blanked: what it reads of the guarded
variables, and of the reading. -/
def InspectorStats.lockedFields (s : InspectorStats) : InspectorStats :=
  { s with
    sampleNew := 0
    sampleCont := 0
    unSampleNew := 0
    unSampleCont := 0
    skipNew := 0
    skipCont := 0
    activeSpan := [] }

/-! ### The guarded variables -/

def StatsVars.guarded (v : StatsVars) : MemStats × Int × Int × Int × Int :=
  (v.lastMemStats, v.lastCollectTime, v.accResponseTime, v.maxResponseTime, v.requestCount)

/-- The fields no call stores while holding `statsMux` only: the counters and the map. -/
def StatsField.Unguarded : StatsField → Prop
  | .counter _ | .activeSpan => True
  | _ => False

theorem guarded_copy_unguarded {x : StatsField} (hx : x.Unguarded) (src dst : StatsVars) :
    (x.copy src dst).guarded = dst.guarded := by
  cases x <;> first | rfl | exact hx.elim

theorem guarded_copy_congr (x : StatsField) {src dst src' dst' : StatsVars}
    (hs : src.guarded = src'.guarded) (hd : dst.guarded = dst'.guarded) :
    (x.copy src dst).guarded = (x.copy src' dst').guarded := by
  simp only [StatsVars.guarded, Prod.mk.injEq] at hs hd
  cases x <;> simp only [StatsField.copy, StatsVars.guarded, hs, hd]

theorem getStats_guarded_congr {l l' : StatsVars} (h : l.guarded = l'.guarded) (r : Reading) :
    (getStats l r).map (fun p => (p.1.lockedFields, p.2.guarded)) =
      (getStats l' r).map (fun p => (p.1.lockedFields, p.2.guarded)) := by
  simp only [StatsVars.guarded, Prod.mk.injEq] at h
  obtain ⟨h1, h2, h3, h4, h5⟩ := h
  simp only [getStats, rateDivisor, calcResponseAvg, h1, h2, h3, h4, h5]
  split <;> rfl

/-- What a step shows of the guarded variables: those of the variables and of the copy, the
calls that took `statsMux`, and the snapshots but for their rates and histogram. -/
def guardedView (q : StatsVars × StatsVars × Option StatsEvent) :
    (MemStats × Int × Int × Int × Int) × (MemStats × Int × Int × Int × Int) × List StatsOp ×
      List InspectorStats :=
  (q.1.guarded, q.2.1.guarded, lockOrder q.2.2.toList,
    (snapshots q.2.2.toList).map InspectorStats.lockedFields)

/-- A step that depends on the guarded variables only through their values. -/
def StatsInstr.Respects (ins : StatsInstr) : Prop :=
  ∀ ⦃v l v' l' : StatsVars⦄, v.guarded = v'.guarded → l.guarded = l'.guarded →
    (ins.run v l).map guardedView = (ins.run v' l').map guardedView

/-- A step that cannot fail, stores no guarded variable, and neither takes `statsMux` nor
returns a snapshot. -/
def StatsInstr.Frames (ins : StatsInstr) : Prop :=
  ∀ v l, ∃ q, ins.run v l = some q ∧ q.1.guarded = v.guarded ∧ lockOrder q.2.2.toList = [] ∧
    snapshots q.2.2.toList = []

theorem load_respects (x : StatsField) : (StatsInstr.load x).Respects := by
  intro v l v' l' hv hl
  simp only [StatsInstr.run, Option.map_some', guardedView, hv, guarded_copy_congr x hv hl]

theorem store_respects {p : StatsVars → Bool} {x : StatsField} {f : StatsVars → StatsVars}
    (hf : ∀ ⦃l l' : StatsVars⦄, l.guarded = l'.guarded → p l = p l' ∧ (f l).guarded = (f l').guarded) :
    (StatsInstr.store p x f).Respects := by
  intro v l v' l' hv hl
  obtain ⟨hp, hfl⟩ := hf hl
  simp only [StatsInstr.run, Option.map_some', guardedView, hl, hp]
  split <;> simp only [guarded_copy_congr x hfl hv, hv]

theorem set_id_respects (x : StatsField) : (StatsInstr.set x id).Respects :=
  store_respects fun _ _ h => ⟨rfl, h⟩

theorem snapshot_respects (r : Reading) : (StatsInstr.snapshot r).Respects := by
  intro v l v' l' hv hl
  have hk : ∀ w : StatsVars, guardedView ∘ (fun p : InspectorStats × StatsVars =>
      (w, p.2, some (StatsEvent.snapshot p.1))) =
      (fun q => (w.guarded, q.2, [], [q.1])) ∘ fun p => (p.1.lockedFields, p.2.guarded) :=
    fun _ => rfl
  simp only [StatsInstr.run, Option.map_map, hk]
  rw [← Option.map_map, ← Option.map_map, getStats_guarded_congr hl r, hv]

theorem load_frames (x : StatsField) : (StatsInstr.load x).Frames :=
  fun _ _ => ⟨_, rfl, rfl, rfl, rfl⟩

theorem store_frames {p : StatsVars → Bool} {x : StatsField} (hx : x.Unguarded)
    (f : StatsVars → StatsVars) : (StatsInstr.store p x f).Frames := fun v l =>
  ⟨_, rfl, by dsimp only [StatsInstr.run]; split <;> simp only [guarded_copy_unguarded hx], rfl, rfl⟩

/-! ### A call run alone -/

/-- Steps run one after another with no other goroutine between them: the variables, the copy
and the events, or `none` at a panic. -/
def runAlone : List StatsInstr → StatsVars → StatsVars →
    Option (StatsVars × StatsVars × List StatsEvent)
  | [], v, l => some (v, l, [])
  | ins :: is, v, l =>
    (ins.run v l).bind fun p =>
      (runAlone is p.1 p.2.1).map fun q => (q.1, q.2.1, p.2.2.toList ++ q.2.2)

theorem runAlone_cons (ins : StatsInstr) (is : List StatsInstr) (v l : StatsVars) :
    runAlone (ins :: is) v l = (ins.run v l).bind fun p =>
      (runAlone is p.1 p.2.1).map fun q => (q.1, q.2.1, p.2.2.toList ++ q.2.2) := rfl

theorem runAlone_append (is js : List StatsInstr) (v l : StatsVars) :
    runAlone (is ++ js) v l = (runAlone is v l).bind fun p =>
      (runAlone js p.1 p.2.1).map fun q => (q.1, q.2.1, p.2.2 ++ q.2.2) := by
  induction is generalizing v l with
  | nil => simp only [List.nil_append, runAlone, Option.some_bind]; cases runAlone js v l <;> rfl
  | cons ins is ih =>
    simp only [List.cons_append, runAlone_cons, ih, Option.bind_assoc, Option.map_bind,
      Option.bind_map, Option.map_map, Function.comp_def, List.append_assoc]

theorem runAlone_collectBody (t : Int) (pre l₀ : StatsVars) :
    (runAlone (collectBody t) pre l₀).map (fun w => (w.1, lockOrder w.2.2, snapshots w.2.2)) =
      some (collectResponseTime pre t, [], []) := by
  simp [runAlone, collectBody, StatsInstr.run, StatsInstr.set, StatsField.copy, collectResponseTime]
  split <;> rfl

theorem run_set (x : StatsField) (f : StatsVars → StatsVars) (v l : StatsVars) :
    (StatsInstr.set x f).run v l = some (x.copy (f l) v, l, none) := rfl

theorem runAlone_loads (xs : List StatsField) (v l : StatsVars) :
    runAlone (xs.map .load) v l = some (v, xs.foldl (fun l x => x.copy v l) l, []) := by
  induction xs generalizing l with
  | nil => rfl
  | cons x xs ih => simp [runAlone_cons, StatsInstr.run, ih]

theorem runAlone_sets (xs : List StatsField) (f : StatsVars → StatsVars) (v l : StatsVars) :
    runAlone (xs.map fun x => .set x f) v l =
      some (xs.foldl (fun v x => x.copy (f l) v) v, l, []) := by
  induction xs generalizing v with
  | nil => rfl
  | cons x xs ih => simp [runAlone_cons, run_set, ih]

theorem runAlone_getStatsLoads (v l : StatsVars) : runAlone getStatsLoads v l = some (v, v, []) := by
  rw [getStatsLoads, runAlone_loads]
  cases v
  simp only [List.foldl, StatsField.copy, Option.some.injEq, Prod.mk.injEq, and_true, true_and]
  congr; funext c; cases c <;> rfl

theorem runAlone_getStatsStores (v l : StatsVars) :
    runAlone getStatsStores v l = some ({ l with activeSpan := v.activeSpan }, l, []) := by
  rw [getStatsStores, resetFields, runAlone_sets]
  simp only [List.foldl, StatsField.copy, id, Option.some.injEq, Prod.mk.injEq, and_true]
  congr; funext c; cases c <;> rfl

theorem runAlone_getStatsBody (r : Reading) (pre l₀ : StatsVars) :
    (runAlone (getStatsLoads ++ .snapshot r :: getStatsStores) pre l₀).map
        (fun w => (w.1, lockOrder w.2.2, snapshots w.2.2)) =
      (getStats pre r).map fun p => (p.2, [], [p.1]) := by
  rw [runAlone_append, runAlone_getStatsLoads, Option.some_bind, runAlone_cons]
  cases h : getStats pre r with
  | none => simp [StatsInstr.run, h]
  | some p =>
    obtain ⟨s, g'⟩ := p
    obtain ⟨-, rfl, -⟩ := getStats_inv h
    simp only [StatsInstr.run, h, Option.map_some', Option.some_bind, runAlone_getStatsStores]
    exact congrArg some (Prod.ext rfl (Prod.ext rfl rfl))

theorem getStatsBody_silent (r : Reading) (k : Nat) (pre l₀ : StatsVars)
    (w : StatsVars × StatsVars × List StatsEvent)
    (hw : runAlone ((getStatsLoads ++ .snapshot r :: getStatsStores).take k) pre l₀ = some w)
    (hg : pre.step (.getStats r) = none) : snapshots w.2.2 = [] := by
  by_cases hk : k ≤ getStatsLoads.length
  · rw [List.take_append_of_le_length hk, getStatsLoads, ← List.map_take, runAlone_loads] at hw
    cases hw; rfl
  · obtain ⟨m, hm⟩ : ∃ m, k - getStatsLoads.length = m + 1 := ⟨_, (Nat.succ_pred_eq_of_pos (by omega)).symm⟩
    rw [List.take_append_eq_append_take, List.take_of_length_le (by omega), hm, List.take_succ_cons,
      runAlone_append, runAlone_getStatsLoads, Option.some_bind, runAlone_cons] at hw
    simp [StatsInstr.run, Option.map_eq_none'.mp hg] at hw

/-! ### The shape of each call -/

/-- A step other than `Lock()` and `Unlock()`. -/
def StatsInstr.Plain : StatsInstr → Prop
  | .lock _ | .unlock => False
  | _ => True

/-- A call that holds `statsMux` throughout: `Lock()`, a body of plain steps that depend on the
guarded variables only through their values, and `Unlock()`; run alone from any variables, the
body is the sequential call `op`. -/
structure LockedCall (c : StatsCall) (op : StatsOp) (body : List StatsInstr) : Prop where
  isLocked : c.Locked
  prog_eq : c.prog = locked op body
  plain : ∀ ins ∈ body, ins.Plain ∧ ins.Respects
  alone : ∀ pre l₀, (runAlone body pre l₀).map (fun w => (w.1, lockOrder w.2.2, snapshots w.2.2)) =
    (pre.step op).map fun p => (p.1, [], p.2.toList)
  /-- A call that panics returns no snapshot before it does. -/
  silent : ∀ k pre l₀ w, runAlone (body.take k) pre l₀ = some w → pre.step op = none →
    snapshots w.2.2 = []

/-- A call that takes no lock: plain steps that frame the guarded variables. -/
structure UnlockedCall (c : StatsCall) : Prop where
  notLocked : ¬c.Locked
  plain : ∀ ins ∈ c.prog, ins.Plain ∧ ins.Frames

theorem syncMap_frames (op : RegistryOp) : (StatsInstr.syncMap op).Frames :=
  fun _ _ => ⟨_, rfl, rfl, rfl, rfl⟩

theorem countSpans_frames (now : Int) : (StatsInstr.countSpans now).Frames :=
  fun _ _ => ⟨_, rfl, rfl, rfl, rfl⟩

theorem StatsCall.shape (c : StatsCall) (hc : ¬c.WritesUnlocked) :
    (∃ op body, LockedCall c op body) ∨ UnlockedCall c := by
  cases c with
  | initStats r => exact absurd trivial hc
  | resetResponseTime => exact absurd trivial hc
  | collectResponseTime t =>
    refine .inl ⟨_, _, ⟨trivial, rfl, fun ins hins => ?_, runAlone_collectBody t,
      fun _ _ _ _ _ h => by simp at h⟩⟩
    simp only [collectBody, List.mem_cons, List.mem_singleton, List.not_mem_nil, or_false] at hins
    rcases hins with rfl | rfl | rfl | rfl | rfl | rfl <;>
      exact ⟨trivial, by first | exact load_respects _ |
        exact store_respects fun l l' h => by simp_all [StatsVars.guarded]⟩
  | getStats r =>
    refine .inl ⟨_, _, ⟨trivial, rfl, fun ins hins => ?_, fun pre l₀ => ?_, getStatsBody_silent r⟩⟩
    · simp only [getStatsLoads, getStatsStores, List.mem_append, List.mem_cons, List.mem_map] at hins
      rcases hins with ⟨x, -, rfl⟩ | rfl | ⟨x, -, rfl⟩
      · exact ⟨trivial, load_respects x⟩
      · exact ⟨trivial, snapshot_respects r⟩
      · exact ⟨trivial, set_id_respects x⟩
    · rw [runAlone_getStatsBody, StatsVars.step, Option.map_map]; rfl
  | incr c =>
    refine .inr ⟨id, fun ins hins => ?_⟩
    simp only [StatsCall.prog, List.mem_cons, List.mem_singleton, List.not_mem_nil, or_false] at hins
    rcases hins with rfl | rfl
    · exact ⟨trivial, load_frames _⟩
    · exact ⟨trivial, store_frames (show (StatsField.counter c).Unguarded from trivial) _⟩
  | addActiveSpan k s => exact .inr ⟨id, by simpa [StatsCall.prog] using ⟨trivial, syncMap_frames _⟩⟩
  | dropActiveSpan k => exact .inr ⟨id, by simpa [StatsCall.prog] using ⟨trivial, syncMap_frames _⟩⟩
  | getActiveSpanCount now =>
    refine .inr ⟨id, fun ins hins => ?_⟩
    simp only [StatsCall.prog, List.mem_cons, List.mem_singleton, List.not_mem_nil, or_false] at hins
    rcases hins with rfl | rfl
    · exact ⟨trivial, load_frames _⟩
    · exact ⟨trivial, countSpans_frames now⟩

theorem locked_getElem?_zero (op : StatsOp) (body : List StatsInstr) :
    (locked op body)[0]? = some (.lock op) := List.getElem?_cons_zero

theorem locked_getElem?_succ (op : StatsOp) (body : List StatsInstr) (k : Nat) :
    (locked op body)[k + 1]? = (body ++ [.unlock])[k]? := List.getElem?_cons_succ

theorem locked_length (op : StatsOp) (body : List StatsInstr) :
    (locked op body).length = body.length + 2 := by
  simp [locked]

/-! ### Sequential runs, appended -/

theorem after_append (g : StatsVars) (ops ops' : List StatsOp) :
    g.after (ops ++ ops') = (g.after ops).bind fun a => a.after ops' := by
  induction ops generalizing g with
  | nil => rfl
  | cons op ops ih =>
    simp only [List.cons_append, StatsVars.after, List.append_eq, ih, Option.bind_assoc]

theorem statsRun_append {g a : StatsVars} {ops : List StatsOp} (h : g.after ops = some a)
    (ops' : List StatsOp) : statsRun g (ops ++ ops') = statsRun g ops ++ statsRun a ops' := by
  induction ops generalizing g with
  | nil => cases h; rfl
  | cons op ops ih =>
    obtain ⟨⟨g', s⟩, hs, h'⟩ := Option.bind_eq_some.mp h
    rw [List.cons_append, statsRun_cons_of_step hs, statsRun_cons_of_step hs, ih h',
      List.append_assoc]

/-! ### Who holds `statsMux` -/

/-- A goroutine between `statsMux.Lock()` and `Unlock()`. -/
def Caller.Inside (g : Caller) : Prop :=
  match g.cur with
  | some (c, pc) => c.Locked ∧ 0 < pc ∧ pc < c.prog.length
  | none => False

/-- Caller `i` alone (no goroutine, for `none`) is between `Lock()` and `Unlock()`. -/
def Excl (gs : List Caller) (holder : Option Nat) : Prop :=
  ∀ j g, gs[j]? = some g → g.Inside → holder = some j

theorem Excl.set {gs : List Caller} {o o' : Option Nat} (h : Excl gs o) {i : Nat}
    {g : Caller} (hg : g.Inside → o' = some i) (ho : ∀ j, j ≠ i → o = some j → o' = some j) :
    Excl (gs.set i g) o' := by
  intro j g' hj hin
  rw [List.getElem?_set] at hj
  split_ifs at hj with hij
  · cases hj; exact hij ▸ hg hin
  · exact ho j (Ne.symm hij) (h j g' hj hin)

/-- With `statsMux` free the sequential run of the calls that took it explains the run so far:
the snapshots but for their rates and histograms, and the guarded variables. -/
def Done (g₀ : StatsVars) (evs : List StatsEvent) (v : StatsVars) : Prop :=
  ∃ a, g₀.after (lockOrder evs) = some a ∧ a.guarded = v.guarded ∧
    (snapshots evs).map InspectorStats.lockedFields =
      (statsRun g₀ (lockOrder evs)).map InspectorStats.lockedFields

/-- While a goroutine holds `statsMux` for call `op`, having made the steps `is` of its body
with copy `l`: the sequential run of the calls `ops` before, then those steps run alone. -/
def Seq (g₀ : StatsVars) (evs : List StatsEvent) (op : StatsOp) (is : List StatsInstr)
    (v l : StatsVars) : Prop :=
  ∃ ops pre l₀ w, g₀.after ops = some pre ∧ runAlone is pre l₀ = some w ∧
    w.1.guarded = v.guarded ∧ w.2.1.guarded = l.guarded ∧
    lockOrder evs = ops ++ op :: lockOrder w.2.2 ∧
    (snapshots evs).map InspectorStats.lockedFields =
      (statsRun g₀ ops).map InspectorStats.lockedFields ++
        (snapshots w.2.2).map InspectorStats.lockedFields

/-- The run crashed, at the call where the sequential run panics, with the same snapshots. -/
def Crashed (g₀ : StatsVars) (evs : List StatsEvent) : Prop :=
  g₀.after (lockOrder evs) = none ∧
    (snapshots evs).map InspectorStats.lockedFields =
      (statsRun g₀ (lockOrder evs)).map InspectorStats.lockedFields

section Serial

variable {g₀ v v' l : StatsVars} {evs es : List StatsEvent} {op : StatsOp}
  {is : List StatsInstr}

theorem Done.frame (h : Done g₀ evs v) (hv : v'.guarded = v.guarded) (hl : lockOrder es = [])
    (hs : snapshots es = []) : Done g₀ (evs ++ es) v' := by
  obtain ⟨a, ha, hg, hsn⟩ := h
  exact ⟨a, by simp [hl, ha], hg.trans hv.symm, by simp [hl, hs, hsn]⟩

theorem Seq.frame (h : Seq g₀ evs op is v l) (hv : v'.guarded = v.guarded)
    (hl : lockOrder es = []) (hs : snapshots es = []) : Seq g₀ (evs ++ es) op is v' l := by
  obtain ⟨ops, pre, l₀, w, hpre, hw, hg, hgl, hlo, hsn⟩ := h
  exact ⟨ops, pre, l₀, w, hpre, hw, hg.trans hv.symm, hgl, by simp [hl, hlo], by simp [hs, hsn]⟩

theorem Done.acquire (h : Done g₀ evs v) (l : StatsVars) :
    Seq g₀ (evs ++ [.acquired op]) op [] v l := by
  obtain ⟨a, ha, hg, hsn⟩ := h
  exact ⟨_, a, l, (a, l, []), ha, rfl, hg, rfl, by simp, by simp [hsn]⟩

theorem Seq.step {ins : StatsInstr} (h : Seq g₀ evs op is v l) (hins : ins.Respects)
    {q : StatsVars × StatsVars × Option StatsEvent} (hq : ins.run v l = some q) :
    Seq g₀ (evs ++ q.2.2.toList) op (is ++ [ins]) q.1 q.2.1 := by
  obtain ⟨ops, pre, l₀, w, hpre, hw, hg, hgl, hlo, hsn⟩ := h
  have hview := hins hg hgl
  rw [hq, Option.map_some'] at hview
  obtain ⟨q', hq', hv⟩ := Option.map_eq_some'.mp hview
  simp only [guardedView, Prod.mk.injEq] at hv
  obtain ⟨h1, h2, h3, h4⟩ := hv
  refine ⟨ops, pre, l₀, (q'.1, q'.2.1, w.2.2 ++ q'.2.2.toList), hpre, ?_, h1, h2, ?_, ?_⟩
  · simp [runAlone_append, hw, runAlone_cons, hq', runAlone]
  · simp [hlo, h3]
  · simp [hsn, h4]

section Body

variable {c : StatsCall} {body : List StatsInstr} (hc : LockedCall c op body)
include hc

theorem Seq.close (h : Seq g₀ evs op body v l) : Done g₀ evs v := by
  obtain ⟨ops, pre, l₀, w, hpre, hw, hg, -, hlo, hsn⟩ := h
  have halone := hc.alone pre l₀
  rw [hw, Option.map_some'] at halone
  obtain ⟨⟨_, so⟩, hstep, he⟩ := Option.map_eq_some'.mp halone.symm
  simp only [Prod.mk.injEq] at he
  obtain ⟨rfl, hlo', hsn'⟩ := he
  refine ⟨w.1, ?_, hg, ?_⟩
  · rw [hlo, ← hlo', after_append, hpre]
    simp [StatsVars.after, hstep]
  · rw [hlo, ← hlo', hsn, statsRun_append hpre, statsRun_cons_of_step hstep, ← hsn']
    simp [statsRun]

theorem Seq.crash {k : Nat} {ins : StatsInstr} (h : Seq g₀ evs op (body.take k) v l)
    (hk : body[k]? = some ins) (hq : ins.run v l = none) : Crashed g₀ evs := by
  obtain ⟨ops, pre, l₀, w, hpre, hw, hg, hgl, hlo, hsn⟩ := h
  have hnone : ins.run w.1 w.2.1 = none := by
    have := (hc.plain ins (List.getElem?_mem hk)).2 hg hgl
    rwa [hq, Option.map_none', Option.map_eq_none'] at this
  have hbody : runAlone body pre l₀ = none := by
    rw [← List.take_append_drop (k + 1) body, List.take_succ, hk, runAlone_append,
      runAlone_append, hw]
    simp [runAlone, hnone]
  have hstep : pre.step op = none := by
    have := hc.alone pre l₀
    rwa [hbody, Option.map_none', eq_comm, Option.map_eq_none'] at this
  refine ⟨?_, ?_⟩
  · rw [hlo, after_append, hpre]
    simp [StatsVars.after, hstep]
  · rw [hlo, hsn, statsRun_append hpre, hc.silent k pre l₀ w hw hstep]
    simp [statsRun, hstep]

theorem Seq.begins {k : Nat} (h : Seq g₀ evs op (body.take k) v l) :
    (snapshots evs).map InspectorStats.lockedFields <+:
      (statsRun g₀ (lockOrder evs)).map InspectorStats.lockedFields := by
  obtain ⟨ops, pre, l₀, w, hpre, hw, -, -, hlo, hsn⟩ := h
  rw [hsn, hlo, statsRun_append hpre, List.map_append, List.prefix_append_right_inj]
  cases hstep : pre.step op with
  | none => rw [hc.silent k pre l₀ w hw hstep]; exact List.nil_prefix
  | some p =>
    obtain ⟨post, so⟩ := p
    have halone := hc.alone pre l₀
    rw [hstep, Option.map_some', ← List.take_append_drop k body, runAlone_append, hw,
      Option.some_bind, Option.map_map] at halone
    obtain ⟨w', -, he⟩ := Option.map_eq_some'.mp halone
    simp only [Function.comp, Prod.mk.injEq, snapshots_append] at he
    rw [statsRun_cons_of_step hstep, ← he.2.2, List.append_assoc, List.map_append]
    exact List.prefix_append _ _

end Body

/-! ### Where a goroutine is -/

theorem LockedCall.inside {c : StatsCall} {body : List StatsInstr} (hc : LockedCall c op body)
    {g : Caller} {k : Nat} (hcur : g.cur = some (c, k + 1)) (hk : k ≤ body.length) :
    g.Inside := by
  simp only [Caller.Inside, hcur, hc.prog_eq, locked_length]
  exact ⟨hc.isLocked, by omega, by omega⟩

theorem next_of_not_inside {g : Caller} {c : StatsCall} {pc : Nat} {ins : StatsInstr}
    (hin : ¬g.Inside) (hcur : g.cur = some (c, pc)) (htame : ¬c.WritesUnlocked)
    (h : c.prog[pc]? = some ins) :
    (∃ op body, LockedCall c op body ∧ pc = 0 ∧ ins = .lock op) ∨
      (UnlockedCall c ∧ ins.Plain ∧ ins.Frames) := by
  rcases c.shape htame with ⟨op, body, hc⟩ | hc
  · refine .inl ⟨op, body, hc, ?_⟩
    cases pc with
    | zero => rw [hc.prog_eq, locked_getElem?_zero] at h; exact ⟨rfl, (Option.some.inj h).symm⟩
    | succ k =>
      refine absurd ?_ hin
      simp only [Caller.Inside, hcur]
      exact ⟨hc.isLocked, Nat.succ_pos k, (List.getElem?_eq_some_iff.mp h).1⟩
  · exact .inr ⟨hc, hc.plain ins (List.getElem?_mem h)⟩

theorem LockedCall.next {c : StatsCall} {body : List StatsInstr} (hc : LockedCall c op body)
    {k : Nat} (hk : k ≤ body.length) :
    (∃ ins, body[k]? = some ins ∧ c.prog[k + 1]? = some ins ∧ ins.Plain ∧ ins.Respects) ∨
      (k = body.length ∧ c.prog[k + 1]? = some .unlock) := by
  rw [hc.prog_eq, locked_getElem?_succ]
  rcases Nat.lt_or_ge k body.length with hlt | hge
  · refine .inl ⟨body[k], List.getElem?_eq_getElem hlt, ?_, hc.plain _ (List.getElem_mem hlt)⟩
    rw [List.getElem?_append_left hlt, List.getElem?_eq_getElem hlt]
  · obtain rfl : k = body.length := by omega
    exact .inr ⟨rfl, List.getElem?_concat_length _ _⟩

end Serial

/-! ### One step of the process -/

section Step

variable {s : StatsSystem} {i : Nat} {g : Caller} {c : StatsCall} {pc : Nat}

theorem step_of_getElem?_none (h : s.gs[i]? = none) : s.step i = some (s, none) := by
  simp [StatsSystem.step, h]

theorem step_idle (h : s.gs[i]? = some g) (hcur : g.cur = none) (hcalls : g.calls = []) :
    s.step i = some (s, none) := by
  simp [StatsSystem.step, h, hcur, hcalls]

theorem step_enter {cs : List StatsCall} (h : s.gs[i]? = some g) (hcur : g.cur = none)
    (hcalls : g.calls = c :: cs) :
    s.step i = some ({ s with gs := s.gs.set i ⟨cs, some (c, 0), zeroVars⟩ }, none) := by
  simp [StatsSystem.step, h, hcur, hcalls]

theorem step_return (h : s.gs[i]? = some g) (hcur : g.cur = some (c, pc))
    (hpc : c.prog[pc]? = none) :
    s.step i = some ({ s with gs := s.gs.set i { g with cur := none } }, none) := by
  simp [StatsSystem.step, h, hcur, hpc]

theorem step_exec {ins : StatsInstr} (h : s.gs[i]? = some g) (hcur : g.cur = some (c, pc))
    (hpc : c.prog[pc]? = some ins) : s.step i = s.exec i g c pc ins := by
  simp [StatsSystem.step, h, hcur, hpc]

theorem exec_plain {ins : StatsInstr} (h : ins.Plain) :
    s.exec i g c pc ins = (ins.run s.vars g.loc).map fun p =>
      ({ s with vars := p.1, gs := s.gs.set i ⟨g.calls, some (c, pc + 1), p.2.1⟩ }, p.2.2) := by
  cases ins <;> first | rfl | exact h.elim

end Step

/-! ### Past the worker's start -/

/-- A goroutine with no call left, or under way, that stores a guarded variable without the
lock. -/
def Caller.Tame (g : Caller) : Prop :=
  (∀ c ∈ g.calls, ¬c.WritesUnlocked) ∧ ∀ c pc, g.cur = some (c, pc) → ¬c.WritesUnlocked

/-- Every goroutine is tame: the run is past `sendStatsWorker`'s unlocked start. -/
def Tame (s : StatsSystem) : Prop :=
  ∀ (j : Nat) (g : Caller), s.gs[j]? = some g → g.Tame

section Tame

variable {s s' : StatsSystem} {i : Nat} {g : Caller} {c : StatsCall} {pc : Nat}
  {e : Option StatsEvent}

theorem Tame.set (ht : Tame s) {g' : Caller} (hs' : s'.gs = s.gs.set i g') (hg' : g'.Tame) :
    Tame s' := by
  intro j h hj
  rw [hs', List.getElem?_set] at hj
  split_ifs at hj
  · cases hj; exact hg'
  · exact ht j h hj

theorem Tame.advance (ht : Tame s) (hg : s.gs[i]? = some g) (hcur : g.cur = some (c, pc))
    (pc' : Nat) (l : StatsVars) : (Caller.mk g.calls (some (c, pc')) l).Tame :=
  ⟨(ht i g hg).1, fun _ _ h => by cases h; exact (ht i g hg).2 c pc hcur⟩

theorem Tame.exec {ins : StatsInstr} (ht : Tame s) (hg : s.gs[i]? = some g)
    (hcur : g.cur = some (c, pc)) (h : s.exec i g c pc ins = some (s', e)) : Tame s' := by
  cases ins with
  | lock op =>
    simp only [StatsSystem.exec] at h
    split at h <;> cases h
    · exact ht
    · exact ht.set rfl (ht.advance hg hcur _ _)
  | unlock => cases h; exact ht.set rfl (ht.advance hg hcur _ _)
  | _ =>
    simp only [StatsSystem.exec, Option.map_eq_some'] at h
    obtain ⟨q, -, he⟩ := h
    cases he
    exact ht.set rfl (ht.advance hg hcur _ _)

theorem Tame.next (ht : Tame s) (h : s.step i = some (s', e)) : Tame s' := by
  cases hg : s.gs[i]? with
  | none => rw [step_of_getElem?_none hg] at h; cases h; exact ht
  | some g =>
    cases hcur : g.cur with
    | none =>
      cases hcalls : g.calls with
      | nil => rw [step_idle hg hcur hcalls] at h; cases h; exact ht
      | cons c cs =>
        rw [step_enter hg hcur hcalls] at h
        cases h
        have hc := (ht i g hg).1
        rw [hcalls] at hc
        exact ht.set rfl ⟨fun c' h' => hc c' (List.mem_cons_of_mem c h'),
          fun _ _ h' => by cases h'; exact hc c (List.mem_cons_self c cs)⟩
    | some cp =>
      obtain ⟨c, pc⟩ := cp
      cases hpc : c.prog[pc]? with
      | none =>
        rw [step_return hg hcur hpc] at h
        cases h
        exact ht.set rfl ⟨(ht i g hg).1, fun _ _ h' => by cases h'⟩
      | some ins => rw [step_exec hg hcur hpc] at h; exact ht.exec hg hcur h

theorem Tame.start (g₀ : StatsVars) {calls : List (List StatsCall)}
    (htame : ∀ cs ∈ calls, ∀ c ∈ cs, ¬c.WritesUnlocked) : Tame (StatsSystem.start g₀ calls) := by
  intro j g hj
  simp only [StatsSystem.start, List.getElem?_map, Option.map_eq_some'] at hj
  obtain ⟨cs, hcs, rfl⟩ := hj
  exact ⟨htame cs (List.getElem?_mem hcs), fun _ _ h => by cases h⟩

end Tame

/-! ### The invariant of every run -/

/-- Either `statsMux` is free, no goroutine is between `Lock()` and `Unlock()`, and the
sequential run explains the run so far; or goroutine `i` alone is, at step `k + 1` of a locked
call, and the sequential run followed by the first `k` steps of its body run alone explains
it. -/
inductive Serial (g₀ : StatsVars) (evs : List StatsEvent) (s : StatsSystem) : Prop
  | quiet : s.mux = false → Excl s.gs none → Done g₀ evs s.vars → Serial g₀ evs s
  | busy {i : Nat} {g : Caller} {c : StatsCall} {op : StatsOp} {body : List StatsInstr}
      {k : Nat} : s.mux = true → Excl s.gs (some i) → s.gs[i]? = some g →
      g.cur = some (c, k + 1) → LockedCall c op body → k ≤ body.length →
      Seq g₀ evs op (body.take k) s.vars g.loc → Serial g₀ evs s

/-- What one step leads to: a crash the sequential run explains, or a state of the
invariant. -/
def SerialNext (g₀ : StatsVars) (evs : List StatsEvent) :
    Option (StatsSystem × Option StatsEvent) → Prop
  | none => Crashed g₀ evs
  | some (s', e) => Serial g₀ (evs ++ e.toList) s'

section Invariant

variable {g₀ : StatsVars} {evs : List StatsEvent} {s : StatsSystem} {i : Nat} {g : Caller}

theorem Serial.stutter (hs : Serial g₀ evs s) : SerialNext g₀ evs (some (s, none)) := by
  simpa only [SerialNext, Option.toList, List.append_nil] using hs

theorem Serial.outside {s' : StatsSystem} {es : List StatsEvent} {g' : Caller}
    (hs : Serial g₀ evs s) (hg : s.gs[i]? = some g) (hin : ¬g.Inside) (hmux : s'.mux = s.mux)
    (hgs : s'.gs = s.gs.set i g') (hv : s'.vars.guarded = s.vars.guarded)
    (hl : lockOrder es = []) (hsn : snapshots es = []) (hin' : ¬g'.Inside) :
    Serial g₀ (evs ++ es) s' := by
  cases hs with
  | quiet hmux₀ hex hdone =>
    refine .quiet (hmux.trans hmux₀) ?_ (hdone.frame hv hl hsn)
    rw [hgs]; exact hex.set (absurd · hin') fun _ _ h => h
  | @busy i₀ gh c op body k hmux₀ hex hgi hcur hc hk hseq =>
    have hne : i ≠ i₀ := by
      rintro rfl
      rw [hg] at hgi; cases hgi
      exact hin (hc.inside hcur hk)
    refine @Serial.busy _ _ _ i₀ gh c op body k (hmux.trans hmux₀) ?_ ?_ hcur hc hk
      (hseq.frame hv hl hsn)
    · rw [hgs]; exact hex.set (absurd · hin') fun _ _ h => h
    · rw [hgs, List.getElem?_set_ne hne]; exact hgi

theorem Serial.holder {c : StatsCall} {op : StatsOp} {body : List StatsInstr} {k : Nat}
    (hmux : s.mux = true) (hex : Excl s.gs (some i)) (hg : s.gs[i]? = some g)
    (hc : LockedCall c op body) (hk : k ≤ body.length)
    (hseq : Seq g₀ evs op (body.take k) s.vars g.loc) {ins : StatsInstr}
    (hpc : c.prog[k + 1]? = some ins) : SerialNext g₀ evs (s.exec i g c (k + 1) ins) := by
  have hi : i < s.gs.length := (List.getElem?_eq_some_iff.mp hg).1
  rcases hc.next hk with ⟨ins', hb, hp, hplain, hresp⟩ | ⟨rfl, hp⟩
  · rw [hp] at hpc; cases hpc
    rw [exec_plain hplain]
    cases hq : ins.run s.vars g.loc with
    | none => exact hseq.crash hc hb hq
    | some q =>
      refine .busy hmux (hex.set (fun _ => rfl) fun _ _ h => h) (List.getElem?_set_self hi) rfl hc
        (List.getElem?_eq_some_iff.mp hb).1 ?_
      rw [List.take_succ, hb]
      exact hseq.step hresp hq
  · -- `Unlock()`
    rw [hp] at hpc; cases hpc
    rw [List.take_length] at hseq
    show Serial g₀ (evs ++ []) _
    rw [List.append_nil]
    refine .quiet rfl (hex.set (fun h => ?_) fun j hj h => absurd (Option.some.inj h) (Ne.symm hj))
      (hseq.close hc)
    simp only [Caller.Inside, hc.prog_eq, locked_length] at h
    omega

theorem Serial.exec (hs : Serial g₀ evs s) (hg : s.gs[i]? = some g) {c : StatsCall} {pc : Nat}
    (hcur : g.cur = some (c, pc)) (htame : ¬c.WritesUnlocked) {ins : StatsInstr}
    (hpc : c.prog[pc]? = some ins) :
    SerialNext g₀ evs (s.exec i g c pc ins) := by
  cases hs with
  | quiet hmux hex hdone =>
    have hin : ¬g.Inside := fun h => nomatch hex i g hg h
    rcases next_of_not_inside hin hcur htame hpc with ⟨op, body, hc, rfl, rfl⟩ | ⟨hc, hplain, hframes⟩
    · -- `Lock()` with `statsMux` free: goroutine `i` takes it
      simp only [StatsSystem.exec, hmux]
      exact .busy rfl (hex.set (fun _ => rfl) fun _ _ h => nomatch h)
        (List.getElem?_set_self (List.getElem?_eq_some_iff.mp hg).1) rfl hc (Nat.zero_le _)
        (hdone.acquire _)
    · obtain ⟨q, hq, hqv, hql, hqs⟩ := hframes s.vars g.loc
      rw [exec_plain hplain, hq]
      exact Serial.outside (.quiet hmux hex hdone) hg hin rfl rfl hqv hql hqs
        fun h => hc.notLocked h.1
  | @busy i₀ gh c₀ op body k hmux hex hgi hcur₀ hc hk hseq =>
    by_cases hii : i = i₀
    · subst hii
      rw [hg] at hgi; cases hgi
      rw [hcur] at hcur₀; cases hcur₀
      exact Serial.holder hmux hex hg hc hk hseq hpc
    · have hin : ¬g.Inside := fun h => hii (Option.some.inj (hex i g hg h)).symm
      rcases next_of_not_inside hin hcur htame hpc with ⟨_, _, _, rfl, rfl⟩ | ⟨hc', hplain, hframes⟩
      · -- `Lock()` while another goroutine holds `statsMux`: no step
        simp only [StatsSystem.exec, hmux, if_true]
        exact Serial.stutter (.busy hmux hex hgi hcur₀ hc hk hseq)
      · obtain ⟨q, hq, hqv, hql, hqs⟩ := hframes s.vars g.loc
        rw [exec_plain hplain, hq]
        exact Serial.outside (.busy hmux hex hgi hcur₀ hc hk hseq) hg hin rfl rfl hqv hql hqs
          fun h => hc'.notLocked h.1

theorem Serial.next (hs : Serial g₀ evs s) (ht : Tame s) (i : Nat) :
    SerialNext g₀ evs (s.step i) := by
  cases hg : s.gs[i]? with
  | none => rw [step_of_getElem?_none hg]; exact hs.stutter
  | some g =>
    cases hcur : g.cur with
    | none =>
      have hin : ¬g.Inside := by simp [Caller.Inside, hcur]
      cases hcalls : g.calls with
      | nil => rw [step_idle hg hcur hcalls]; exact hs.stutter
      | cons c cs =>
        rw [step_enter hg hcur hcalls]
        exact hs.outside hg hin rfl rfl rfl rfl rfl fun h => by simp [Caller.Inside] at h
    | some cp =>
      obtain ⟨c, pc⟩ := cp
      cases hpc : c.prog[pc]? with
      | none =>
        have hin : ¬g.Inside := by
          simp only [Caller.Inside, hcur, not_and]
          exact fun _ _ h => absurd hpc (by simp [List.getElem?_eq_getElem h])
        rw [step_return hg hcur hpc]
        exact hs.outside hg hin rfl rfl rfl rfl rfl fun h => by simp [Caller.Inside] at h
      | some ins => rw [step_exec hg hcur hpc]; exact hs.exec hg hcur ((ht i g hg).2 c pc hcur) hpc

theorem Serial.run (hs : Serial g₀ evs s) (ht : Tame s) (sched : List Nat) :
    ((s.run sched).2 = none → Crashed g₀ (evs ++ (s.run sched).1)) ∧
      ∀ s', (s.run sched).2 = some s' → Serial g₀ (evs ++ (s.run sched).1) s' := by
  induction sched generalizing evs s with
  | nil => exact ⟨fun h => (by cases h), fun s' h => by cases h; simpa [StatsSystem.run] using hs⟩
  | cons i sched ih =>
    have hn := hs.next ht i
    cases h : s.step i with
    | none =>
      rw [h] at hn
      simp only [StatsSystem.run, h, List.append_nil]
      exact ⟨fun _ => hn, fun _ h => by cases h⟩
    | some p =>
      obtain ⟨s', e⟩ := p
      rw [h] at hn
      simp only [StatsSystem.run, h, ← List.append_assoc]
      exact ih hn (ht.next h)

theorem Serial.start (g₀ : StatsVars) (calls : List (List StatsCall)) :
    Serial g₀ [] (StatsSystem.start g₀ calls) := by
  refine .quiet rfl (fun j g hj hin => ?_) ⟨g₀, rfl, rfl, rfl⟩
  simp only [StatsSystem.start, List.getElem?_map, Option.map_eq_some'] at hj
  obtain ⟨cs, -, rfl⟩ := hj
  exact hin.elim

theorem Serial.begins (hs : Serial g₀ evs s) :
    (snapshots evs).map InspectorStats.lockedFields <+:
      (statsRun g₀ (lockOrder evs)).map InspectorStats.lockedFields := by
  cases hs with
  | quiet _ _ hdone => obtain ⟨-, -, -, h⟩ := hdone; exact h ▸ List.prefix_refl _
  | busy _ _ _ _ hc _ hseq => exact hseq.begins hc

end Invariant

/-! ### Every interleaving -/

theorem StatsSystem.begins_statsRun (g₀ : StatsVars) (calls : List (List StatsCall))
    (htame : ∀ cs ∈ calls, ∀ c ∈ cs, ¬c.WritesUnlocked) (sched : List Nat) :
    let r := (StatsSystem.start g₀ calls).run sched
    (snapshots r.1).map InspectorStats.lockedFields <+:
      (statsRun g₀ (lockOrder r.1)).map InspectorStats.lockedFields := by
  obtain ⟨hcrash, hserial⟩ := (Serial.start g₀ calls).run (Tame.start g₀ htame) sched
  simp only [List.nil_append] at hcrash hserial
  dsimp only
  cases h : ((StatsSystem.start g₀ calls).run sched).2 with
  | none => exact (hcrash h).2 ▸ List.prefix_refl _
  | some s => exact (hserial s h).begins

/-- On every schedule, from any variables, whatever the goroutines call: the snapshots so far
begin those of the sequential run of the locked calls in the order they took `statsMux`, but
for the rates and the histograms; a crash is a panic of that sequential run, with the same
snapshots; and whenever `statsMux` is free, the snapshots and the guarded variables are those
of the sequential run. -/
theorem StatsSystem.run_serial (g₀ : StatsVars) (calls : List (List StatsCall))
    (htame : ∀ cs ∈ calls, ∀ c ∈ cs, ¬c.WritesUnlocked) (sched : List Nat) :
    let r := (StatsSystem.start g₀ calls).run sched
    (snapshots r.1).map InspectorStats.lockedFields <+:
        (statsRun g₀ (lockOrder r.1)).map InspectorStats.lockedFields ∧
      (r.2 = none → Crashed g₀ r.1) ∧
      ∀ s, r.2 = some s → s.mux = false → Done g₀ r.1 s.vars := by
  obtain ⟨hcrash, hserial⟩ := (Serial.start g₀ calls).run (Tame.start g₀ htame) sched
  simp only [List.nil_append] at hcrash hserial
  refine ⟨StatsSystem.begins_statsRun g₀ calls htame sched, hcrash, fun s hs hmux => ?_⟩
  cases hserial s hs with
  | quiet _ _ hdone => exact hdone
  | busy hmux' => simp [hmux] at hmux'

set_option maxRecDepth 4000 in
theorem run_serial_request_during_collection :
    let r := (StatsSystem.start zeroVars [[.collectResponseTime 5], [.getStats (quietReading 1)]]).run
      ([1, 1, 0, 0] ++ List.replicate 26 1 ++ [0, 0, 0, 0, 0, 0, 0, 0])
    ∃ s, r.2 = some s ∧ s.mux = false ∧ Done zeroVars r.1 s.vars :=
  ⟨_, rfl, rfl, (StatsSystem.run_serial _ _ (by decide) _).2.2 _ rfl rfl⟩

/-- `sendStatsWorker` starts with `initStats(); resetResponseTime()` and no lock. A request
recorded while `resetResponseTime()` runs leaves `accResponseTime`, `requestCount` and
`maxResponseTime` at `5`, `0` and `0`: neither order of the two calls gives that. -/
example :
    ((StatsSystem.start zeroVars [[.collectResponseTime 5], [.resetResponseTime]]).run
      ([1, 1] ++ List.replicate 9 0 ++ [1, 1])).2.map
        (fun s => (s.vars.accResponseTime, s.vars.requestCount, s.vars.maxResponseTime)) =
      some (5, 0, 0) ∧
    (zeroVars.after [.collectResponseTime 5, .resetResponseTime]).map
        (fun v => (v.accResponseTime, v.requestCount, v.maxResponseTime)) = some (0, 0, 0) ∧
    (zeroVars.after [.resetResponseTime, .collectResponseTime 5]).map
        (fun v => (v.accResponseTime, v.requestCount, v.maxResponseTime)) = some (5, 1, 5) := by
  decide

/-- The counters are not guarded. Two increments that load before either stores lose one. -/
example : ((StatsSystem.start zeroVars [[.incr .sampleNew], [.incr .sampleNew]]).run
    [0, 0, 1, 1, 0, 1]).2.map (fun s => s.vars.counters .sampleNew) = some 1 := by
  decide

set_option maxRecDepth 4000 in
/-- An increment that stores after `getStats` reset the counter brings back the count that
`getStats` just reported: of two increments, the snapshot reports one, and the counter keeps
two for the next snapshot. -/
example :
    let r := (StatsSystem.start zeroVars
      [[.incr .sampleNew], [.incr .sampleNew], [.getStats (quietReading 1)]]).run
        ([0, 0, 0, 1, 1] ++ List.replicate 28 2 ++ [1])
    (snapshots r.1).map (·.sampleNew) = [1] ∧ r.2.map (·.vars.counters .sampleNew) = some 2 := by
  decide

/-- On every schedule from the worker's start, while the intervals that the locked calls close
fit: each snapshot's response average, response maximum and GC count are those of its interval,
the response times whose `collectResponseTime` took `statsMux` after the previous `getStats`
did. -/
theorem StatsSystem.run_reports (g : StatsVars) (r₀ : Reading) (calls : List (List StatsCall))
    (htame : ∀ cs ∈ calls, ∀ c ∈ cs, ¬c.WritesUnlocked) (sched : List Nat)
    (hfit : (Interval.start r₀).AllClosed (fun a r => a.Fits r ∧ a.Counted)
      (lockOrder ((StatsSystem.start (statsStart g r₀) calls).run sched).1)) :
    let r := (StatsSystem.start (statsStart g r₀) calls).run sched
    (snapshots r.1).map (fun s => (s.responseAvg, s.responseMax, s.gcNum)) <+:
      (intervalRun (Interval.start r₀) (lockOrder r.1)).map
        fun rep => (rep.responseAvg, rep.responseMax, rep.gcNum) := by
  have h := (StatsSystem.begins_statsRun (statsStart g r₀) calls htame sched).map
    fun s => (s.responseAvg, s.responseMax, s.gcNum)
  have hv := statsRun_view_of_sim Report.core (fun h hP hs => getStats_core hs h hP.1 hP.2) _
    (sim_start g r₀) hfit
  dsimp only
  change _ <+: (intervalRun _ _).map Report.core
  rw [← hv]
  simpa only [List.map_map] using h

set_option maxRecDepth 4000 in
theorem run_reports_request_each_side :
    let r := (StatsSystem.start (statsStart zeroVars (quietReading 0))
      [[.collectResponseTime 100, .collectResponseTime 300], [.getStats (quietReading 5)]]).run
        (List.replicate 9 0 ++ List.replicate 28 1 ++ List.replicate 10 0)
    (Interval.start (quietReading 0)).AllClosed (fun a r => a.Fits r ∧ a.Counted) (lockOrder r.1) ∧
      (snapshots r.1).map (fun s => (s.responseAvg, s.responseMax, s.gcNum)) <+:
        (intervalRun (Interval.start (quietReading 0)) (lockOrder r.1)).map
          fun rep => (rep.responseAvg, rep.responseMax, rep.gcNum) := by
  intro r
  have hlo : lockOrder r.1 = [.collectResponseTime 100, .getStats (quietReading 5),
      .collectResponseTime 300] := rfl
  have hfit : (Interval.start (quietReading 0)).AllClosed (fun a r => a.Fits r ∧ a.Counted)
      (lockOrder r.1) := by
    rw [hlo]; decide
  exact ⟨hfit, StatsSystem.run_reports _ _ _ (by decide) _ hfit⟩

end PinpointAgent
