import Mathlib.Tactic

/-!
# Transaction ids and their display string

`TransactionId.String` (`tracer.go`) prints an id as `fmt.Sprintf("%s^%d^%d", AgentId,
StartTime, Sequence)`. A Go `string` is a byte sequence, so the agent id and the result are
modelled as `Bytes`, and `%d` as the ASCII decimal digits of the value (`Nat.toDigits`) after a
minus sign for a negative one.

`string_injective`: distinct ids print distinct strings, whatever bytes the agent id holds,
separators and digits included. Proof: the two numeric fields never contain `^`, so in
`a ++ '^' :: d₁ ++ '^' :: d₂` the last two separators are the last two `^` bytes, and splitting
there from the right recovers `a`, `d₁` and `d₂` (`append_sep_inj`). A decimal rendering is
injective: its last digit is `n % 10` and the digits before it render `n / 10`
(`toDigits_eq`), so two renderings agree only for equal values (`decimalBytes_inj`).
-/

namespace PinpointAgent

/-- A Go `string`: a sequence of bytes, not necessarily UTF-8. -/
abbrev Bytes := List UInt8

/-- `TransactionId` (`tracer.go`). -/
structure TransactionId where
  agentId : Bytes
  startTime : Int
  sequence : Int
  deriving DecidableEq, Repr

/-- The ASCII decimal digits of `n`. -/
def decimalBytes (n : Nat) : Bytes := (Nat.toDigits 10 n).map Char.toUInt8

/-- `%d` of an `int64`: a minus sign before the digits of a negative value. -/
def formatD : Int → Bytes
  | .ofNat n => decimalBytes n
  | .negSucc n => '-'.toUInt8 :: decimalBytes (n + 1)

/-- `TransactionId.String`: `fmt.Sprintf("%s^%d^%d", AgentId, StartTime, Sequence)`. -/
def TransactionId.string (tid : TransactionId) : Bytes :=
  tid.agentId ++ '^'.toUInt8 :: (formatD tid.startTime ++ '^'.toUInt8 :: formatD tid.sequence)

example : TransactionId.string ⟨[0x61], 17, -3⟩ = [0x61, 0x5E, 0x31, 0x37, 0x5E, 0x2D, 0x33] := by
  decide

/-! ### Decimal digits -/

theorem toDigitsCore_append (b f n : Nat) (ds : List Char) :
    Nat.toDigitsCore b f n ds = Nat.toDigitsCore b f n [] ++ ds := by
  induction f generalizing n ds with
  | zero => rfl
  | succ f ih =>
    simp only [Nat.toDigitsCore]
    split
    · rfl
    · rw [ih, ih (n / b) [_]]; simp

theorem toDigitsCore_fuel {b : Nat} (hb : 2 ≤ b) (f f' n : Nat) (ds : List Char)
    (hf : n < f) (hf' : n < f') :
    Nat.toDigitsCore b f n ds = Nat.toDigitsCore b f' n ds := by
  induction f generalizing f' n ds with
  | zero => omega
  | succ f ih =>
    obtain ⟨f', rfl⟩ : ∃ g, f' = g + 1 := ⟨f' - 1, by omega⟩
    simp only [Nat.toDigitsCore]
    split
    · rfl
    · rename_i hn
      have : n / b < n :=
        Nat.div_lt_self (Nat.pos_of_ne_zero fun h0 => hn (by rw [h0, Nat.zero_div])) (by omega)
      exact ih f' _ _ (by omega) (by omega)

theorem toDigits_eq (n : Nat) :
    Nat.toDigits 10 n =
      (if n / 10 = 0 then [] else Nat.toDigits 10 (n / 10)) ++ [Nat.digitChar (n % 10)] := by
  rw [Nat.toDigits, Nat.toDigitsCore]
  split
  · rfl
  · rename_i h
    rw [toDigitsCore_append, toDigitsCore_fuel (by decide) n (n / 10 + 1) _ _ (by omega) (by omega)]
    rfl

theorem digitByte_toNat {d : Nat} (hd : d < 10) : (Nat.digitChar d).toUInt8.toNat = d + 48 := by
  interval_cases d <;> rfl

theorem digitByte_inj {a b : Nat} (ha : a < 10) (hb : b < 10)
    (h : (Nat.digitChar a).toUInt8 = (Nat.digitChar b).toUInt8) : a = b := by
  have h' := congrArg UInt8.toNat h
  rw [digitByte_toNat ha, digitByte_toNat hb] at h'
  omega

theorem digitByte_ne {d : Nat} (hd : d < 10) (c : Char) (hc : c = '^' ∨ c = '-') :
    (Nat.digitChar d).toUInt8 ≠ c.toUInt8 := fun h => by
  have h' := congrArg UInt8.toNat h
  rw [digitByte_toNat hd] at h'
  rcases hc with rfl | rfl
  · change d + 48 = 94 at h'; omega
  · change d + 48 = 45 at h'; omega

theorem decimalBytes_eq (n : Nat) :
    decimalBytes n =
      (if n / 10 = 0 then [] else decimalBytes (n / 10)) ++ [(Nat.digitChar (n % 10)).toUInt8] := by
  rw [decimalBytes, toDigits_eq]
  split <;> simp [decimalBytes]

theorem decimalBytes_ne_nil (n : Nat) : decimalBytes n ≠ [] := by
  rw [decimalBytes_eq]; simp

theorem not_mem_decimalBytes (n : Nat) (c : Char) (hc : c = '^' ∨ c = '-') :
    c.toUInt8 ∉ decimalBytes n := by
  induction n using Nat.strong_induction_on with
  | _ n ih =>
    rw [decimalBytes_eq]
    split
    · simpa using (digitByte_ne (Nat.mod_lt n (by decide)) c hc).symm
    · simpa [ih (n / 10) (by omega)] using (digitByte_ne (Nat.mod_lt n (by decide)) c hc).symm

theorem decimalBytes_inj {m n : Nat} (h : decimalBytes m = decimalBytes n) : m = n := by
  induction m using Nat.strong_induction_on generalizing n with
  | _ m ih =>
    rw [decimalBytes_eq, decimalBytes_eq n] at h
    obtain ⟨hinit, hlast⟩ :=
      List.append_inj' h ((List.length_singleton _).trans (List.length_singleton _).symm)
    have hmod := digitByte_inj (Nat.mod_lt m (by decide)) (Nat.mod_lt n (by decide))
      (List.singleton_inj.mp hlast)
    have hdiv : m / 10 = n / 10 := by
      split at hinit <;> split at hinit
      · omega
      · exact absurd hinit.symm (decimalBytes_ne_nil _)
      · exact absurd hinit (decimalBytes_ne_nil _)
      · next hm _ =>
        exact ih _ (Nat.div_lt_self (Nat.pos_of_ne_zero fun h0 => hm (by rw [h0])) (by decide)) hinit
    calc m = 10 * (m / 10) + m % 10 := (Nat.div_add_mod m 10).symm
      _ = 10 * (n / 10) + n % 10 := by rw [hdiv, hmod]
      _ = n := Nat.div_add_mod n 10

theorem not_mem_formatD (i : Int) : '^'.toUInt8 ∉ formatD i := by
  cases i with
  | ofNat n => exact not_mem_decimalBytes n '^' (.inl rfl)
  | negSucc n =>
    simp only [formatD, List.mem_cons, not_or]
    exact ⟨by decide, not_mem_decimalBytes _ '^' (.inl rfl)⟩

theorem formatD_inj {i j : Int} (h : formatD i = formatD j) : i = j := by
  have hneg (m n : Nat) : formatD (.ofNat m) ≠ formatD (.negSucc n) := by
    intro h
    have : '-'.toUInt8 ∈ decimalBytes m := by simp [formatD] at h; simp [h]
    exact not_mem_decimalBytes m '-' (.inr rfl) this
  cases i <;> cases j
  · exact congrArg _ (decimalBytes_inj h)
  · exact absurd h (hneg _ _)
  · exact absurd h.symm (hneg _ _)
  · simp only [formatD, List.cons.injEq, true_and] at h
    have := decimalBytes_inj h
    simp_all

/-! ### Splitting at the last separator -/

theorem append_sep_inj {α : Type} {x y u v : List α} {c : α} (hu : c ∉ u) (hv : c ∉ v)
    (h : x ++ c :: u = y ++ c :: v) : x = y ∧ u = v := by
  induction x generalizing y with
  | nil =>
    cases y with
    | nil => simpa using h
    | cons b y =>
      simp only [List.nil_append, List.cons_append, List.cons.injEq] at h
      exact absurd (h.2 ▸ List.mem_append_right _ (List.mem_cons_self c v)) hu
  | cons a x ih =>
    cases y with
    | nil =>
      simp only [List.nil_append, List.cons_append, List.cons.injEq] at h
      exact absurd (h.2 ▸ List.mem_append_right _ (List.mem_cons_self c u)) hv
    | cons b y =>
      simp only [List.cons_append, List.cons.injEq] at h
      obtain ⟨rfl, h⟩ := h
      exact (ih h).imp (congrArg _) id

theorem string_injective : Function.Injective TransactionId.string := by
  rintro ⟨a, s₁, s₂⟩ ⟨b, t₁, t₂⟩ h
  have h' : (a ++ '^'.toUInt8 :: formatD s₁) ++ '^'.toUInt8 :: formatD s₂ =
      (b ++ '^'.toUInt8 :: formatD t₁) ++ '^'.toUInt8 :: formatD t₂ := by
    simpa [TransactionId.string] using h
  obtain ⟨h1, h2⟩ := append_sep_inj (not_mem_formatD _) (not_mem_formatD _) h'
  obtain ⟨rfl, h3⟩ := append_sep_inj (not_mem_formatD _) (not_mem_formatD _) h1
  rw [formatD_inj h2, formatD_inj h3]

end PinpointAgent
