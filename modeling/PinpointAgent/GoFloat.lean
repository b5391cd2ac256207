import PinpointAgent.GoInt

/-!
# `float64` seconds

`getStats` divides by `int64(dur.Seconds())`, and `getActiveSpanCount` compares `d.Seconds()`
with `1`, `3` and `5`. Go's `Duration.Seconds` is

    sec := d / Second
    nsec := d % Second
    return float64(sec) + float64(nsec)/1e9

in `float64`: the quotient `nsec/1e9` is rounded to 53 significant bits, to nearest with ties
to even, and so is the sum; `int64(f)` truncates toward zero. Both operands have the sign of
`d` and rounding commutes with the sign, so the model works on `|d|` and puts the sign back.

Every `float64` this computation produces is a whole multiple of `2^-82` seconds: the smallest
non-zero quotient is `1e-9 > 2^-30`, whose last significant bit is worth `2^-82`, and the sum
is larger. So a value is a natural number of such units (`unitsPerSecond` of them make one
second), and the model is exact arithmetic on naturals, evaluated by `decide`:

* `rne a b`: `a / b` to the nearest natural, ties to even; `roundSig a b`: `a / b` units to 53
  significant bits, which is the `float64` nearest to `a / b` when that is `0` or at least
  `2^52` units;
* `secondsUnits n`: `Seconds()` of `n ≥ 0` nanoseconds, in units; `durationSeconds d`:
  `d.Seconds()`; `int64Seconds d`: `int64(d.Seconds())`.

`roundSig_le` and `le_roundSig`: a value with a 53-bit significand (`Float53`) that lies on one
side of the exact quotient lies on the same side of the rounded one. From these:

* `int64Seconds_eq_wholeSeconds`: below `2^23` seconds either way, `int64(d.Seconds())` is the
  whole seconds of `d`;
* `int64Seconds_bounds`: for every non-negative `d` it is the whole seconds or one more, and
  `int64Seconds_rounds_up` is one more, at `2^24` seconds and `999999999` nanoseconds;
* `int64Seconds_eq_zero_iff`: it is `0` exactly when the whole seconds are;
* `secondsBelow_eq_durationSeconds`: `d.Seconds() < k` is `d < k` seconds for `k` in `1 … 5`.
-/

namespace PinpointAgent

/-- `a / b` rounded to the nearest natural number, ties to even. -/
def rne (a b : Nat) : Nat :=
  if 2 * (a % b) < b then a / b
  else if b < 2 * (a % b) then a / b + 1
  else if a / b % 2 = 0 then a / b else a / b + 1

/-- The binary digits of `n`, counted by halving it at most `fuel` times. -/
def binDigits : Nat → Nat → Nat
  | 0, _ => 0
  | fuel + 1, n => if n = 0 then 0 else binDigits fuel (n / 2) + 1

def bitLength (n : Nat) : Nat := binDigits n n

/-- `a / b` rounded to 53 significant bits, to nearest with ties to even, in the unit of `a`:
the last `bitLength (a / b) - 53` bits of the quotient go. -/
def roundSig (a b : Nat) : Nat :=
  rne a (b * 2 ^ (bitLength (a / b) - 53)) * 2 ^ (bitLength (a / b) - 53)

/-- Units of `2^-82` seconds in a second. -/
def unitsPerSecond : Nat := 2 ^ 82

/-- `Seconds()` of `n ≥ 0` nanoseconds, in units: `float64(sec) + float64(nsec)/1e9` for
`sec, nsec = n / Second, n % Second`. -/
def secondsUnits (n : Nat) : Nat :=
  roundSig (n / 10 ^ 9 * unitsPerSecond + roundSig (n % 10 ^ 9 * unitsPerSecond) (10 ^ 9)) 1

/-- `d.Seconds()`, in units. -/
def durationSeconds (d : Int) : Int :=
  if d < 0 then -(secondsUnits d.natAbs : Int) else secondsUnits d.natAbs

/-- `int64(d.Seconds())`: the conversion truncates toward zero. -/
def int64Seconds (d : Int) : Int := (durationSeconds d).tdiv unitsPerSecond

/-- A value with a 53-bit significand: a `float64`, as far as the exponent range does not
matter. -/
def Float53 (f : Nat) : Prop := ∃ m s, m < 2 ^ 53 ∧ f = m * 2 ^ s

theorem rne_cases (a b : Nat) :
    (rne a b = a / b ∧ 2 * (a % b) ≤ b) ∨ (rne a b = a / b + 1 ∧ b ≤ 2 * (a % b)) := by
  unfold rne
  split_ifs <;> omega

theorem rne_le {a b k : Nat} (hb : 0 < b) (h : a ≤ k * b) : rne a b ≤ k := by
  have hk : a / b ≤ k := Nat.div_le_of_le_mul (by rwa [Nat.mul_comm])
  rcases rne_cases a b with ⟨he, -⟩ | ⟨he, hr⟩ <;> rw [he]
  · exact hk
  · by_contra hlt
    have : k = a / b := by omega
    subst this
    have hdm := Nat.div_add_mod a b
    rw [Nat.mul_comm] at h
    omega

theorem le_rne {a b k : Nat} (hb : 0 < b) (h : k * b ≤ a) : k ≤ rne a b := by
  have : k ≤ a / b := (Nat.le_div_iff_mul_le hb).mpr h
  rcases rne_cases a b with ⟨he, -⟩ | ⟨he, -⟩ <;> omega

theorem binDigits_zero (fuel : Nat) : binDigits fuel 0 = 0 := by
  cases fuel <;> rfl

theorem binDigits_spec (fuel n : Nat) (h : n ≤ fuel) :
    n < 2 ^ binDigits fuel n ∧ (0 < n → 2 ^ (binDigits fuel n - 1) ≤ n) := by
  induction fuel generalizing n with
  | zero =>
    obtain rfl : n = 0 := by omega
    exact ⟨Nat.one_pos, fun h => absurd h (Nat.lt_irrefl 0)⟩
  | succ fuel ih =>
    rw [binDigits]
    split_ifs with h0
    · subst h0; exact ⟨Nat.one_pos, fun h => absurd h (Nat.lt_irrefl 0)⟩
    · obtain ⟨ih1, ih2⟩ := ih (n / 2) (by omega)
      rw [Nat.add_sub_cancel, Nat.pow_succ]
      refine ⟨by omega, fun _ => ?_⟩
      rcases Nat.eq_zero_or_pos (n / 2) with h2 | h2
      · rw [h2, binDigits_zero]; omega
      · obtain ⟨b, hb⟩ : ∃ b, binDigits fuel (n / 2) = b + 1 :=
          Nat.exists_eq_succ_of_ne_zero fun hz => by rw [hz] at ih1; omega
        have := ih2 h2
        rw [hb, Nat.add_sub_cancel] at this
        rw [hb, Nat.pow_succ]; omega

theorem bitLength_spec (n : Nat) :
    n < 2 ^ bitLength n ∧ (0 < n → 2 ^ bitLength n ≤ 2 * n) := by
  obtain ⟨h1, h2⟩ := binDigits_spec n n le_rfl
  refine ⟨h1, fun h => ?_⟩
  obtain ⟨L, hL⟩ : ∃ L, binDigits n n = L + 1 :=
    Nat.exists_eq_succ_of_ne_zero fun h0 => by rw [h0] at h1; omega
  have := h2 h
  rw [hL, Nat.add_sub_cancel] at this
  rw [bitLength, hL, Nat.pow_succ]; omega

theorem pos_of_bitLength (n : Nat) : 0 < bitLength n → 0 < n := by
  rcases n with _ | n
  · exact fun h => absurd h (by rw [bitLength, binDigits_zero]; exact Nat.lt_irrefl 0)
  · exact fun _ => Nat.succ_pos n

theorem float53_dvd {f : Nat} (L : Nat) (hf : Float53 f) (hge : 2 ^ (L + 52) ≤ f) : 2 ^ L ∣ f := by
  obtain ⟨m, s, hm, rfl⟩ := hf
  have hs : L ≤ s := by
    by_contra hlt
    have h1 : m * 2 ^ s < 2 ^ 53 * 2 ^ s := Nat.mul_lt_mul_of_pos_right hm (Nat.two_pow_pos s)
    have h2 : 2 ^ 53 * 2 ^ s ≤ 2 ^ (L + 52) := by
      rw [← Nat.pow_add]; exact Nat.pow_le_pow_right (by decide) (by omega)
    omega
  exact Nat.dvd_trans (Nat.pow_dvd_pow 2 hs) (Nat.dvd_mul_left _ _)

theorem roundSig_cases (a b : Nat) :
    roundSig a b = rne a b ∨
      ∃ s, 2 ^ (s + 52) ≤ a / b ∧ a / b < 2 ^ (s + 53) ∧ roundSig a b = rne a (b * 2 ^ s) * 2 ^ s := by
  obtain ⟨hlt, hge⟩ := bitLength_spec (a / b)
  have hab := pos_of_bitLength (a / b)
  unfold roundSig
  generalize bitLength (a / b) = L at *
  by_cases hs : L ≤ 53
  · left; rw [show L - 53 = 0 by omega, pow_zero, Nat.mul_one, Nat.mul_one]
  · obtain ⟨s, rfl⟩ : ∃ s, L = s + 53 := ⟨L - 53, by omega⟩
    refine .inr ⟨s, ?_, hlt, by rw [Nat.add_sub_cancel]⟩
    have := hge (hab (by omega))
    rw [show s + 53 = s + 52 + 1 from rfl, Nat.pow_succ] at this
    omega

section RoundSig

variable {a b f : Nat} (hb : 0 < b) (hf : Float53 f)
include hb hf

theorem roundSig_le (h : a ≤ f * b) : roundSig a b ≤ f := by
  have hn : a / b ≤ f := Nat.div_le_of_le_mul (by rwa [Nat.mul_comm])
  rcases roundSig_cases a b with he | ⟨s, hge, hlt, he⟩ <;> rw [he]
  · exact rne_le hb h
  · have hpos : 0 < b * 2 ^ s := Nat.mul_pos hb (Nat.two_pow_pos s)
    have hpow : 2 ^ (s + 53) = 2 ^ 53 * 2 ^ s := by rw [← Nat.pow_add, Nat.add_comm]
    by_cases hfL : 2 ^ (s + 53) ≤ f
    · have ha : a ≤ 2 ^ 53 * (b * 2 ^ s) := by
        rw [Nat.mul_left_comm, ← hpow]
        exact (Nat.lt_mul_div_succ a hb).le.trans (Nat.mul_le_mul_left b hlt)
      calc rne a (b * 2 ^ s) * 2 ^ s ≤ 2 ^ 53 * 2 ^ s := Nat.mul_le_mul_right _ (rne_le hpos ha)
        _ ≤ f := hpow ▸ hfL
    · obtain ⟨k, rfl⟩ := float53_dvd s hf (by omega)
      have hk : rne a (b * 2 ^ s) ≤ k :=
        rne_le hpos (by rw [Nat.mul_comm b, ← Nat.mul_assoc, Nat.mul_comm k]; exact h)
      rw [Nat.mul_comm (2 ^ s) k]
      exact Nat.mul_le_mul_right _ hk

theorem le_roundSig (h : f * b ≤ a) : f ≤ roundSig a b := by
  rcases roundSig_cases a b with he | ⟨s, hge, -, he⟩ <;> rw [he]
  · exact le_rne hb h
  · have hpos : 0 < b * 2 ^ s := Nat.mul_pos hb (Nat.two_pow_pos s)
    have hpow : 2 ^ (s + 52) = 2 ^ 52 * 2 ^ s := by rw [← Nat.pow_add, Nat.add_comm]
    by_cases hf2 : f ≤ 2 ^ (s + 52)
    · have h52 : 2 ^ 52 ≤ rne a (b * 2 ^ s) := le_rne hpos (by
        have := (Nat.le_div_iff_mul_le hb).mp hge
        rw [hpow] at this; rw [Nat.mul_comm b, ← Nat.mul_assoc]; exact this)
      calc f ≤ 2 ^ 52 * 2 ^ s := hpow ▸ hf2
        _ ≤ rne a (b * 2 ^ s) * 2 ^ s := Nat.mul_le_mul_right _ h52
    · obtain ⟨k, rfl⟩ := float53_dvd s hf (by omega)
      have hk : k ≤ rne a (b * 2 ^ s) :=
        le_rne hpos (by rw [Nat.mul_comm b, ← Nat.mul_assoc, Nat.mul_comm k]; exact h)
      rw [Nat.mul_comm (2 ^ s) k]
      exact Nat.mul_le_mul_right _ hk

end RoundSig

theorem roundSig_nsec_le (n : Nat) :
    roundSig (n % 10 ^ 9 * unitsPerSecond) (10 ^ 9) ≤ unitsPerSecond - 2 ^ 52 := by
  have := Nat.mod_lt n (show 0 < 10 ^ 9 by norm_num)
  exact roundSig_le (by norm_num) ⟨2 ^ 30 - 1, 52, by norm_num, by norm_num [unitsPerSecond]⟩
    (by unfold unitsPerSecond; omega)

theorem le_secondsUnits {n k : Nat} (hk : k < 2 ^ 53) (h : k ≤ n / 10 ^ 9) :
    k * unitsPerSecond ≤ secondsUnits n :=
  le_roundSig one_pos ⟨k, 82, hk, rfl⟩ (by
    rw [Nat.mul_one]; exact Nat.le_add_right_of_le (Nat.mul_le_mul_right _ h))

theorem le_secondsUnits_div {n k : Nat} (hk : k < 2 ^ 53) (h : k ≤ n / 10 ^ 9) :
    k ≤ secondsUnits n / unitsPerSecond :=
  (Nat.le_div_iff_mul_le (by decide)).mpr (le_secondsUnits hk h)

theorem secondsUnits_lt {n : Nat} (h : n / 10 ^ 9 < 2 ^ 23) :
    secondsUnits n < (n / 10 ^ 9 + 1) * unitsPerSecond := by
  have hq := roundSig_nsec_le n
  have hf := roundSig_le (b := 1) one_pos ⟨(n / 10 ^ 9 + 1) * 2 ^ 30 - 1, 52, by omega, rfl⟩
    (a := n / 10 ^ 9 * unitsPerSecond + roundSig (n % 10 ^ 9 * unitsPerSecond) (10 ^ 9))
    (by unfold unitsPerSecond at *; omega)
  unfold secondsUnits unitsPerSecond at *
  omega


theorem secondsUnits_le {n : Nat} (h : n / 10 ^ 9 + 1 < 2 ^ 53) :
    secondsUnits n ≤ (n / 10 ^ 9 + 1) * unitsPerSecond := by
  have hq := roundSig_nsec_le n
  exact roundSig_le one_pos ⟨n / 10 ^ 9 + 1, 82, h, rfl⟩ (by unfold unitsPerSecond at *; omega)

theorem secondsUnits_div_eq {n : Nat} (h : n / 10 ^ 9 < 2 ^ 23) :
    secondsUnits n / unitsPerSecond = n / 10 ^ 9 :=
  Nat.div_eq_of_lt_le (le_secondsUnits (by omega) le_rfl) (secondsUnits_lt h)

theorem tdiv_natCast (d : Int) (n : Nat) :
    d.tdiv n = if d < 0 then -((d.natAbs / n : Nat) : Int) else ((d.natAbs / n : Nat) : Int) := by
  cases d with
  | ofNat m => simp only [Int.ofNat_eq_coe, Int.natAbs_ofNat]; rw [if_neg (by omega)]; rfl
  | negSucc m => rw [if_pos (Int.negSucc_lt_zero m)]; rfl

theorem int64Seconds_eq (d : Int) :
    int64Seconds d = if d < 0 then -((secondsUnits d.natAbs / unitsPerSecond : Nat) : Int)
      else ((secondsUnits d.natAbs / unitsPerSecond : Nat) : Int) := by
  unfold int64Seconds durationSeconds
  split_ifs <;> simp only [Int.neg_tdiv, Int.ofNat_tdiv]

theorem wholeSeconds_eq (d : Int) :
    wholeSeconds d = if d < 0 then -((d.natAbs / 10 ^ 9 : Nat) : Int)
      else ((d.natAbs / 10 ^ 9 : Nat) : Int) := by
  rw [wholeSeconds, show second = ((10 ^ 9 : Nat) : Int) from rfl]
  exact tdiv_natCast d (10 ^ 9)

theorem int64Seconds_eq_wholeSeconds {d : Int} (h : d.natAbs < 2 ^ 23 * 10 ^ 9) :
    int64Seconds d = wholeSeconds d := by
  rw [int64Seconds_eq, wholeSeconds_eq, secondsUnits_div_eq (by omega)]

theorem int64Seconds_eq_zero_iff (d : Int) : int64Seconds d = 0 ↔ wholeSeconds d = 0 := by
  rw [int64Seconds_eq, wholeSeconds_eq]
  rcases Nat.eq_zero_or_pos (d.natAbs / 10 ^ 9) with h0 | h1
  · rw [secondsUnits_div_eq (by omega), h0]
  · have := le_secondsUnits_div (n := d.natAbs) (by decide) h1
    generalize secondsUnits d.natAbs / unitsPerSecond = w at *
    split_ifs <;> omega

theorem one_le_int64Seconds {d : Int} (h : second ≤ d) : 1 ≤ int64Seconds d := by
  have hs : second = 10 ^ 9 := rfl
  have := le_secondsUnits_div (n := d.natAbs) (k := 1) (by decide)
    ((Nat.le_div_iff_mul_le (by decide)).mpr (by omega))
  rw [int64Seconds_eq, if_neg (by omega)]
  generalize secondsUnits d.natAbs / unitsPerSecond = w at *
  omega

theorem int64Seconds_bounds {d : Int} (h0 : 0 ≤ d) (h1 : d < 2 ^ 63) :
    wholeSeconds d ≤ int64Seconds d ∧ int64Seconds d ≤ wholeSeconds d + 1 := by
  have hsec : d.natAbs / 10 ^ 9 + 1 < 2 ^ 53 := by omega
  have hlo := le_secondsUnits_div (n := d.natAbs) (by omega) le_rfl
  have hhi : secondsUnits d.natAbs / unitsPerSecond ≤ d.natAbs / 10 ^ 9 + 1 :=
    Nat.div_le_of_le_mul (by rw [Nat.mul_comm]; exact secondsUnits_le hsec)
  rw [int64Seconds_eq, wholeSeconds_eq, if_neg (by omega), if_neg (by omega)]
  generalize secondsUnits d.natAbs / unitsPerSecond = w at *
  omega

theorem secondsBelow_eq_durationSeconds (d : Int) {k : Nat} (hk : 1 ≤ k ∧ k ≤ 5) :
    secondsBelow d k = decide (durationSeconds d < k * unitsPerSecond) := by
  have hs : second = 10 ^ 9 := rfl
  have hU : unitsPerSecond = 4835703278458516698824704 := rfl
  simp only [secondsBelow, durationSeconds, hs, decide_eq_decide]
  split_ifs with hd
  · rw [hU]; omega
  · have hlt := secondsUnits_lt (n := d.natAbs)
    have hge := le_secondsUnits (n := d.natAbs) (k := k) (by omega)
    rw [hU] at hlt hge ⊢
    constructor
    · intro h
      have := hlt (by omega)
      have : (d.natAbs / 10 ^ 9 + 1) * 4835703278458516698824704 ≤ k * 4835703278458516698824704 :=
        Nat.mul_le_mul_right _ (by omega)
      omega
    · intro h
      by_contra hk'
      have := hge (by omega)
      omega

set_option maxRecDepth 8000 in
theorem int64Seconds_rounds_up :
    wholeSeconds (2 ^ 24 * second + 999999999) = 2 ^ 24 ∧
      int64Seconds (2 ^ 24 * second + 999999999) = 2 ^ 24 + 1 := by
  decide

end PinpointAgent
