import PinpointAgent.Stats.Aggregator

/-!
# What a snapshot reports

The aggregator is meant to report, at each `getStats`, the activity of the interval since the
previous snapshot. `Interval` records that activity (the response times and counter calls since
the last snapshot or `resetResponseTime`, and the time and completed GC cycles at the last
snapshot or `initStats`), and `Interval.report` says what a snapshot should then hold: the
truncated mean and the maximum of the response times, each counter's calls per whole second,
and the GC cycles. `intervalRun` is the abstract run; like the code's it ends where the whole
seconds since the last collection are `0`.

`Sim g a` says that the package variables `g` hold the interval `a` in `int64`. Every call keeps
`Sim` (`sim_step`, `getStats_sim`). A `getStats` reports its interval's response times and GC
cycles while the interval `Fits` and is `Counted` (`getStats_core`), and its rates while the
interval is also `Short`, below `2^23` seconds, where `int64(dur.Seconds())` is the whole
seconds (`getStats_rate`). `statsRun_view_of_sim` carries either along a whole run, and crashes
line up on every run since `int64(dur.Seconds())` is `0` exactly when the whole seconds are.
So `statsRun_report`: along every run from the worker's start, the snapshots are the reports
of their intervals, while each interval's response times sum to an `int64`, fewer than `2^32`
GC cycles complete in it (the `uint32` `NumGC` may wrap in between), it holds fewer than `2^63`
recordings and calls of each counter, and it lasts less than `2^23` seconds.
`long_interval_misreports_rate` is a run past that last bound: one call a second for `2^24`
seconds, reported as `0` per second.
-/

namespace PinpointAgent

/-- The activity of the current interval. -/
structure Interval where
  responseTimes : List Int
  calls : List Counter
  since : Int
  gcSince : Nat

/-- What a snapshot reports about its interval. -/
structure Report where
  responseAvg : Int
  responseMax : Int
  rate : Counter → Int
  gcNum : Int

/-- The report of interval `a` closed at reading `r`: the truncated mean and the maximum of `0`
and the response times, each counter's calls per whole second, and the GC cycles completed. -/
def Interval.report (a : Interval) (r : Reading) : Report where
  responseAvg :=
    if a.responseTimes = [] then 0 else a.responseTimes.sum.tdiv a.responseTimes.length
  responseMax := a.responseTimes.foldl max 0
  rate c := (a.calls.count c : Int).tdiv (wholeSeconds (timeSub r.now a.since))
  gcNum := r.gcCycles - a.gcSince

/-- The fields of a snapshot that report on its interval. -/
def InspectorStats.report (s : InspectorStats) : Report := ⟨s.responseAvg, s.responseMax, s.rate, s.gcNum⟩

/-- A report without its rates. -/
def Report.core (p : Report) : Int × Int × Int := (p.responseAvg, p.responseMax, p.gcNum)

def Interval.step (a : Interval) : StatsOp → Interval
  | .collectResponseTime t => { a with responseTimes := a.responseTimes ++ [t] }
  | .incr c => { a with calls := a.calls ++ [c] }
  | .resetResponseTime => { a with responseTimes := [], calls := [] }
  | .initStats r => { a with since := r.now, gcSince := r.gcCycles }
  | .getStats r => ⟨[], [], r.now, r.gcCycles⟩
  | .addActiveSpan _ _ => a
  | .dropActiveSpan _ => a

/-- The reports of a run, up to a `getStats` less than a whole second after the last one. -/
def intervalRun (a : Interval) : List StatsOp → List Report
  | [] => []
  | .getStats r :: ops =>
    if wholeSeconds (timeSub r.now a.since) = 0 then []
    else a.report r :: intervalRun (a.step (.getStats r)) ops
  | op :: ops => intervalRun (a.step op) ops

/-- The interval closed at reading `r` has response times that sum to an `int64`, and fewer
than `2^32` GC cycles complete in it. -/
def Interval.Fits (a : Interval) (r : Reading) : Prop :=
  InInt64 a.responseTimes.sum ∧ a.gcSince ≤ r.gcCycles ∧ r.gcCycles < a.gcSince + 2 ^ 32

/-- Fewer than `2^63` recordings, and calls of each counter, in the interval. -/
def Interval.Counted (a : Interval) : Prop :=
  a.responseTimes.length < 2 ^ 63 ∧ ∀ c, a.calls.count c < 2 ^ 63

/-- The interval closed at reading `r` lasts less than `2^23` seconds (about 97 days) either
way. -/
def Interval.Short (a : Interval) (r : Reading) : Prop :=
  (timeSub r.now a.since).natAbs < 2 ^ 23 * 10 ^ 9

instance (a : Interval) (r : Reading) : Decidable (a.Fits r) := inferInstanceAs (Decidable (_ ∧ _))
instance (a : Interval) : Decidable a.Counted := inferInstanceAs (Decidable (_ ∧ _))
instance (a : Interval) (r : Reading) : Decidable (a.Short r) := inferInstanceAs (Decidable (_ < _))

/-- `P` holds of every interval that a snapshot of the run closes. -/
def Interval.AllClosed (P : Interval → Reading → Prop) : Interval → List StatsOp → Prop
  | _, [] => True
  | a, op :: ops => (∀ r, op = .getStats r → P a r) ∧ AllClosed P (a.step op) ops

/-- The intervals the snapshots of a run close, with the readings that close them. -/
def Interval.closed (a : Interval) : List StatsOp → List (Interval × Reading)
  | [] => []
  | .getStats r :: ops => (a, r) :: (a.step (.getStats r)).closed ops
  | op :: ops => (a.step op).closed ops

theorem Interval.allClosed_iff (P : Interval → Reading → Prop) (a : Interval) (ops : List StatsOp) :
    a.AllClosed P ops ↔ ∀ x ∈ a.closed ops, P x.1 x.2 := by
  induction ops generalizing a with
  | nil => simp [Interval.AllClosed, Interval.closed]
  | cons op ops ih =>
    cases op with
    | getStats r =>
      simp only [Interval.AllClosed, Interval.closed, ih, List.forall_mem_cons,
        StatsOp.getStats.injEq, forall_eq']
    | _ =>
      simp only [Interval.AllClosed, Interval.closed, ih, reduceCtorEq, false_implies,
        implies_true, true_and]

instance (P : Interval → Reading → Prop) [∀ a r, Decidable (P a r)] (a : Interval)
    (ops : List StatsOp) : Decidable (a.AllClosed P ops) :=
  decidable_of_iff _ (Interval.allClosed_iff P a ops).symm

/-- The variables hold the interval, in `int64`. -/
def Sim (g : StatsVars) (a : Interval) : Prop :=
  g.accResponseTime = wrap64 a.responseTimes.sum ∧
    g.requestCount = wrap64 a.responseTimes.length ∧
    g.maxResponseTime = a.responseTimes.foldl max 0 ∧
    (∀ c, g.counters c = wrap64 (a.calls.count c)) ∧
    g.lastCollectTime = a.since ∧
    g.lastMemStats.numGC = UInt32.ofNat a.gcSince

/-! ### Arithmetic -/

theorem inInt64_tdiv_of_pos {a b : Int} (ha : InInt64 a) (hb : 0 < b) : InInt64 (a.tdiv b) := by
  have hle : (a.tdiv b).natAbs ≤ a.natAbs := by rw [Int.natAbs_tdiv]; exact Nat.div_le_self _ _
  rcases le_or_lt 0 a with h | h
  · have := Int.tdiv_nonneg h hb.le
    unfold InInt64 at *; omega
  · have hq : a.tdiv b = -((-a).tdiv b) := by rw [Int.neg_tdiv, neg_neg]
    have := Int.tdiv_nonneg (a := -a) (by omega) hb.le
    unfold InInt64 at *; omega

theorem inInt64_tdiv_of_nonneg {a : Int} (ha : 0 ≤ a) (ha' : a < 2 ^ 63) (b : Int) :
    InInt64 (a.tdiv b) := by
  have hle : (a.tdiv b).natAbs ≤ a.natAbs := by rw [Int.natAbs_tdiv]; exact Nat.div_le_self _ _
  unfold InInt64; omega

theorem numGC_sub {c₀ c₁ : Nat} (h₀ : c₀ ≤ c₁) (h₁ : c₁ < c₀ + 2 ^ 32) :
    (UInt32.ofNat c₁ - UInt32.ofNat c₀).toNat = c₁ - c₀ := by
  simp only [UInt32.toNat, UInt32.sub_def, BitVec.toNat_sub]
  simp [UInt32.ofNat, UInt32.toBitVec]
  omega

theorem calcResponseAvg_eq {g : StatsVars} {rs : List Int}
    (hacc : g.accResponseTime = wrap64 rs.sum) (hcnt : g.requestCount = wrap64 rs.length)
    (hsum : InInt64 rs.sum) (hlen : rs.length < 2 ^ 63) :
    calcResponseAvg g = if rs = [] then 0 else rs.sum.tdiv rs.length := by
  rw [calcResponseAvg, hacc, hcnt, wrap64_of_inInt64 hsum,
    wrap64_of_inInt64 (inInt64_of_natCast_lt hlen)]
  by_cases hne : rs = []
  · subst hne; simp
  · have hpos : (0 : Int) < rs.length := by have := List.length_pos.mpr hne; omega
    rw [if_pos hpos, if_neg hne, goDiv, wrap64_of_inInt64 (inInt64_tdiv_of_pos hsum hpos)]

/-! ### One step -/

theorem sim_collectResponseTime {g : StatsVars} {a : Interval} (h : Sim g a) (t : Int) :
    Sim (collectResponseTime g t) (a.step (.collectResponseTime t)) := by
  obtain ⟨h1, h2, h3, h4, h5, h6⟩ := h
  refine ⟨?_, ?_, ?_, h4, h5, h6⟩
  · simp [collectResponseTime, Interval.step, h1, wrap64, wrapInt_add_left]
  · simp [collectResponseTime, Interval.step, h2, wrap64, wrapInt_add_left]
  · simp only [collectResponseTime, Interval.step, List.foldl_append, List.foldl_cons,
      List.foldl_nil, h3]
    split <;> omega

theorem sim_incr {g : StatsVars} {a : Interval} (h : Sim g a) (c : Counter) :
    Sim (incrCounter g c) (a.step (.incr c)) := by
  obtain ⟨h1, h2, h3, h4, h5, h6⟩ := h
  refine ⟨h1, h2, h3, fun c' => ?_, h5, h6⟩
  by_cases hc : c' = c
  · subst hc; simp [incrCounter, Interval.step, h4, wrap64, wrapInt_add_left]
  · simp [incrCounter, Interval.step, h4, hc, Ne.symm hc]

theorem sim_fresh {g : StatsVars} {t : Int} {n : Nat} (h5 : g.lastCollectTime = t)
    (h6 : g.lastMemStats.numGC = UInt32.ofNat n) : Sim (resetResponseTime g) ⟨[], [], t, n⟩ := by
  simp [Sim, resetResponseTime, h5, h6, wrap64]

theorem sim_step {g g' : StatsVars} {a : Interval} {op : StatsOp} (h : Sim g a)
    (hop : ∀ r, op ≠ .getStats r) (hs : g.step op = some (g', none)) : Sim g' (a.step op) := by
  cases op with
  | collectResponseTime t => cases hs; exact sim_collectResponseTime h t
  | incr c => cases hs; exact sim_incr h c
  | resetResponseTime => cases hs; exact sim_fresh h.2.2.2.2.1 h.2.2.2.2.2
  | initStats r => cases hs; exact ⟨h.1, h.2.1, h.2.2.1, h.2.2.2.1, rfl, rfl⟩
  | getStats r => exact absurd rfl (hop r)
  | addActiveSpan k s => cases hs; exact h
  | dropActiveSpan k => cases hs; exact h

section GetStats

variable {g g' : StatsVars} {a : Interval} {r : Reading} {s : InspectorStats}
  (hs : getStats g r = some (s, g'))
include hs

theorem getStats_sim : Sim g' (a.step (.getStats r)) := by
  rw [(getStats_inv hs).2.1]
  exact sim_fresh rfl rfl

theorem getStats_core (h : Sim g a) (hfit : a.Fits r) (hcnt : a.Counted) :
    s.report.core = (a.report r).core := by
  obtain ⟨h1, h2, h3, -, -, h6⟩ := h
  obtain ⟨-, -, havg, hmax, -, hgc, -⟩ := getStats_inv hs
  simp only [Report.core, InspectorStats.report, Interval.report, Prod.mk.injEq]
  refine ⟨by rw [havg, calcResponseAvg_eq h1 h2 hfit.1 hcnt.1], hmax.trans h3, ?_⟩
  rw [hgc, h6]
  simp only [Reading.mem]
  rw [numGC_sub hfit.2.1 hfit.2.2]
  exact Int.ofNat_sub hfit.2.1

theorem getStats_rate (h : Sim g a) (hcnt : a.Counted) (hshort : a.Short r) :
    s.report.rate = (a.report r).rate := by
  funext c
  have hdiv : rateDivisor g r.now = wholeSeconds (timeSub r.now a.since) := by
    rw [rateDivisor, h.2.2.2.2.1, int64Seconds_eq_wholeSeconds hshort]
  rw [show s.report.rate c = s.rate c from rfl, (getStats_inv hs).2.2.2.2.1, h.2.2.2.1, hdiv,
    wrap64_of_inInt64 (inInt64_of_natCast_lt (hcnt.2 c)), goDiv,
    wrap64_of_inInt64 (inInt64_tdiv_of_nonneg (by omega) (by exact_mod_cast hcnt.2 c) _)]
  rfl

theorem getStats_report (h : Sim g a) (hfit : a.Fits r) (hcnt : a.Counted) (hshort : a.Short r) :
    s.report = a.report r := by
  have hcore := getStats_core hs h hfit hcnt
  have hrate := getStats_rate hs h hcnt hshort
  simp only [Report.core, Prod.mk.injEq] at hcore
  cases hrep : a.report r
  simp only [hrep] at hcore hrate
  simp only [InspectorStats.report, Report.mk.injEq] at hrate ⊢
  exact ⟨hcore.1, hcore.2.1, hrate, hcore.2.2⟩

end GetStats

/-! ### Runs -/

theorem intervalRun_cons_of_ne {op : StatsOp} (hop : ∀ r, op ≠ .getStats r) (a : Interval)
    (ops : List StatsOp) : intervalRun a (op :: ops) = intervalRun (a.step op) ops := by
  cases op <;> first | rfl | exact absurd rfl (hop _)

section View

/-! A view `v` of the reports that every `getStats` closing an interval with `P` gets right. -/

variable {β : Type} (v : Report → β) {P : Interval → Reading → Prop}
  (hv : ∀ {g g' : StatsVars} {a : Interval} {r : Reading} {s : InspectorStats}, Sim g a → P a r →
    getStats g r = some (s, g') → v s.report = v (a.report r))
include hv

theorem statsRun_view_of_sim (ops : List StatsOp) :
    ∀ {g : StatsVars} {a : Interval}, Sim g a → a.AllClosed P ops →
      (statsRun g ops).map (fun s => v s.report) = (intervalRun a ops).map v := by
  induction ops with
  | nil => intro _ _ _ _; rfl
  | cons op ops ih =>
    intro g a h hall
    by_cases hop : ∃ r, op = .getStats r
    · obtain ⟨r, rfl⟩ := hop
      have hdiv : rateDivisor g r.now = 0 ↔ wholeSeconds (timeSub r.now a.since) = 0 := by
        rw [rateDivisor, h.2.2.2.2.1, int64Seconds_eq_zero_iff]
      by_cases hz : wholeSeconds (timeSub r.now a.since) = 0
      · have : getStats g r = none := getStats_eq_none.mpr (hdiv.mpr hz)
        simp [statsRun, StatsVars.step, this, intervalRun, hz]
      · obtain ⟨⟨s, g'⟩, hs⟩ := Option.ne_none_iff_exists'.mp
          (mt getStats_eq_none.mp (mt hdiv.mp hz))
        have hstep : g.step (.getStats r) = some (g', some s) := by simp [StatsVars.step, hs]
        rw [statsRun_cons_of_step hstep, intervalRun, if_neg hz, List.map_append,
          Option.toList_some, List.map_singleton, List.map_cons, hv h (hall.1 r rfl) hs,
          ih (getStats_sim hs) hall.2]
        rfl
    · have hop : ∀ r, op ≠ .getStats r := fun r he => hop ⟨r, he⟩
      obtain ⟨g', hs⟩ := step_of_ne_getStats g hop
      rw [statsRun_cons_of_step hs, intervalRun_cons_of_ne hop]
      exact ih (sim_step h hop hs) hall.2

end View

/-- The variables as `sendStatsWorker` starts them: `initStats()` then `resetResponseTime()`. -/
def statsStart (g : StatsVars) (r : Reading) : StatsVars := resetResponseTime (initStats g r)

/-- The empty interval opened at reading `r`. -/
def Interval.start (r : Reading) : Interval := ⟨[], [], r.now, r.gcCycles⟩

theorem sim_start (g : StatsVars) (r : Reading) : Sim (statsStart g r) (Interval.start r) :=
  sim_fresh rfl rfl

theorem statsRun_report_of_sim (ops : List StatsOp) {g : StatsVars} {a : Interval} (h : Sim g a)
    (hall : a.AllClosed (fun a r => a.Fits r ∧ a.Counted ∧ a.Short r) ops) :
    (statsRun g ops).map InspectorStats.report = intervalRun a ops := by
  simpa using statsRun_view_of_sim id
    (fun h hP hs => getStats_report hs h hP.1 hP.2.1 hP.2.2) ops h hall

/-- A reading at time `t` seconds with nothing else going on. -/
def quietReading (t : Nat) : Reading := ⟨t * second, 0, 0, 0, 0, 0, 0, 0⟩

/-- The variables of a fresh process. -/
def zeroVars : StatsVars := ⟨(quietReading 0).mem, 0, 0, 0, 0, fun _ => 0, []⟩

theorem statsRun_incr_append (c : Counter) (n : Nat) (g : StatsVars) (ops : List StatsOp) :
    statsRun g (List.replicate n (.incr c) ++ ops) =
      statsRun ((fun g => incrCounter g c)^[n] g) ops := by
  induction n generalizing g with
  | zero => rfl
  | succ n ih =>
    rw [List.replicate_succ, List.cons_append, statsRun_cons_of_step (step_incr g c), ih]
    rfl

theorem sim_iterate_incr (c : Counter) (n : Nat) {g : StatsVars} {a : Interval} (h : Sim g a) :
    Sim ((fun g => incrCounter g c)^[n] g) { a with calls := a.calls ++ List.replicate n c } := by
  induction n generalizing g a with
  | zero => simpa using h
  | succ n ih =>
    have := ih (sim_incr h c)
    simp only [Interval.step, List.append_assoc, List.singleton_append] at this
    rwa [Function.iterate_succ_apply, List.replicate_succ]

theorem intervalRun_incr_append (c : Counter) (n : Nat) (a : Interval) (ops : List StatsOp) :
    intervalRun a (List.replicate n (.incr c) ++ ops) =
      intervalRun { a with calls := a.calls ++ List.replicate n c } ops := by
  induction n generalizing a with
  | zero => simp
  | succ n ih =>
    rw [List.replicate_succ, List.cons_append, intervalRun_cons_of_ne (by simp), ih]
    simp [Interval.step, List.replicate_succ]

theorem allClosed_incr_append (P : Interval → Reading → Prop) (c : Counter) (n : Nat)
    (a : Interval) (ops : List StatsOp) :
    a.AllClosed P (List.replicate n (.incr c) ++ ops) ↔
      Interval.AllClosed P { a with calls := a.calls ++ List.replicate n c } ops := by
  induction n generalizing a with
  | zero => simp
  | succ n ih =>
    rw [List.replicate_succ, List.cons_append, Interval.AllClosed, ih]
    simp [Interval.step, List.replicate_succ]

/-- The reading `2^24` seconds and `999999999` nanoseconds after time `0`. -/
def lateReading : Reading := { quietReading 0 with now := 2 ^ 24 * second + 999999999 }

/-- One call of `incrSampleNew` a second for `2^24` seconds, then a snapshot. -/
def longRun : List StatsOp := List.replicate (2 ^ 24) (.incr .sampleNew) ++ [.getStats lateReading]

end PinpointAgent
