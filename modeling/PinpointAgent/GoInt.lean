import Mathlib.Tactic

/-!
# Go integers and `time` durations

The agent computes with Go's `int32`, `int64` and `uint32` and with `time.Duration`, and what it
reports turns on exactly where these wrap or truncate. Everything below is stated over `Int`
with the wrap written out, so that `omega` decides the arithmetic:

* `wrapInt w`: the two's-complement value of an integer in a signed type of `w + 1` bits, which
  is what `x++`, `x + y` and a conversion produce; `wrap64` and `wrap32` are `int64` and
  `int32`. `wrapInt_add_left` is the one fact the accumulators need (wrapping once at the end
  equals wrapping after every step).
* `goDiv`: Go's `/` on `int64`, truncated toward zero (`Int.tdiv`), defined only for a non-zero
  divisor since Go panics on `x / 0`.
* `timeSub`: `t.Sub(u)` on monotonic readings in nanoseconds, saturated to the `Duration`
  range; `wholeSeconds` is a duration's whole seconds, truncated toward zero, and
  `secondsBelow d k` is the comparison `d.Seconds() < k` of `getActiveSpanCount`. What
  `int64(d.Seconds())` computes in `float64` is `PinpointAgent.GoFloat`.
-/

namespace PinpointAgent

/-- The two's-complement value of `x` in `[-2^w, 2^w)`: the signed type of `w + 1` bits. -/
def wrapInt (w : Nat) (x : Int) : Int := (x + 2 ^ w) % 2 ^ (w + 1) - 2 ^ w

def wrap64 (x : Int) : Int := wrapInt 63 x

def wrap32 (x : Int) : Int := wrapInt 31 x

/-- `x` is a value of `int64`. -/
def InInt64 (x : Int) : Prop := -2 ^ 63 ≤ x ∧ x < 2 ^ 63

instance (x : Int) : Decidable (InInt64 x) := inferInstanceAs (Decidable (_ ∧ _))

section Wrap

variable (w : Nat)

theorem wrapInt_of_mem {x : Int} (h : -2 ^ w ≤ x ∧ x < 2 ^ w) : wrapInt w x = x := by
  have hw : (2 : Int) ^ (w + 1) = 2 * 2 ^ w := by ring
  rw [wrapInt, Int.emod_eq_of_lt (by omega) (by omega), add_sub_cancel_right]

theorem wrapInt_mem (x : Int) : -2 ^ w ≤ wrapInt w x ∧ wrapInt w x < 2 ^ w := by
  have hw : (2 : Int) ^ (w + 1) = 2 * 2 ^ w := by ring
  have hpos : (0 : Int) < 2 ^ (w + 1) := by positivity
  have h0 := Int.emod_nonneg (x + 2 ^ w) hpos.ne'
  have h1 := Int.emod_lt_of_pos (x + 2 ^ w) hpos
  unfold wrapInt; omega

theorem wrapInt_add_left (a b : Int) : wrapInt w (wrapInt w a + b) = wrapInt w (a + b) := by
  unfold wrapInt
  rw [sub_add_eq_add_sub, sub_add_cancel, Int.emod_add_emod, Int.add_right_comm]

@[simp] theorem wrapInt_zero : wrapInt w 0 = 0 := by
  have : (0 : Int) < 2 ^ w := by positivity
  exact wrapInt_of_mem w ⟨by omega, this⟩

end Wrap

theorem wrap64_of_inInt64 {x : Int} (h : InInt64 x) : wrap64 x = x := wrapInt_of_mem 63 h

theorem inInt64_wrap64 (x : Int) : InInt64 (wrap64 x) := wrapInt_mem 63 x

theorem inInt64_of_natCast_lt {n : Nat} (h : n < 2 ^ 63) : InInt64 (n : Int) := by
  unfold InInt64; omega

/-- Go's `a / b` on `int64` for `b ≠ 0`: truncated toward zero, and `MinInt64 / -1` wraps. -/
def goDiv (a b : Int) : Int := wrap64 (a.tdiv b)

/-- `time.Millisecond`, `time.Second` in nanoseconds. -/
def millisecond : Int := 10 ^ 6
def second : Int := 10 ^ 9

/-- `t.Sub(u)`: the elapsed `Duration` in nanoseconds, saturated to the `int64` range. A
`time.Time` is modelled by its monotonic reading in nanoseconds. -/
def timeSub (t u : Int) : Int := max (-2 ^ 63) (min (2 ^ 63 - 1) (t - u))

/-- `d.Seconds() < k` for a small whole `k`: the float `sec + nsec/1e9` stays below `k` exactly
when `d < k` seconds (`secondsBelow_eq_durationSeconds`). -/
def secondsBelow (d : Int) (k : Nat) : Bool := decide (d < k * second)

/-- The whole seconds of a duration, truncated toward zero. -/
def wholeSeconds (d : Int) : Int := d.tdiv second

theorem timeSub_of_inInt64 {t u : Int} (h : -2 ^ 63 ≤ t - u ∧ t - u ≤ 2 ^ 63 - 1) :
    timeSub t u = t - u := by
  unfold timeSub; omega

theorem timeSub_inInt64 (t u : Int) : InInt64 (timeSub t u) := by
  unfold timeSub InInt64; omega

theorem secondsBelow_timeSub (t u : Int) {k : Nat} (hk : k ≤ 5) :
    secondsBelow (timeSub t u) k = decide (t - u < k * second) := by
  unfold secondsBelow timeSub second
  congr 1
  apply propext
  omega

end PinpointAgent
