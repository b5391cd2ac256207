import PinpointAgent.GoInt

/-!
# The active-span registry

`activeSpan` (`stats.go`) is a `sync.Map` from span id to start time: `addActiveSpan` stores,
`dropActiveSpan` deletes, `initStats` replaces it by an empty map, and `getActiveSpanCount`
(and a copy of the same loop inside `getStats`) sorts the entries into four age buckets with
`int32` counters.

What a history leaves live is `liveStart`: a span id is live with the start time of its last
add since the last `initStats`, unless a drop came after it. `represents_registry`: the map
built by any history holds exactly the live entries, one per id. Then
`countActiveSpans_eq_card`: bucket `i` counts the live ids whose age lies in the `i`-th
half-open interval `(-∞,1)`, `[1,3)`, `[3,5)`, `[5,∞)` seconds (`InBucket`), wrapped to `int32`
as the counter is; and `sum_card_liveInBucket`: the four exact numbers sum to the number of
live ids.
-/

namespace PinpointAgent

/-- `activeSpan`: the entries of the `sync.Map`, span id and start time. `Range` visits each
once, in an order the counting does not depend on. -/
abbrev ActiveSpans := List (Int × Int)

/-- The calls that touch `activeSpan`. -/
inductive RegistryOp where
  | initStats
  | addActiveSpan (spanId start : Int)
  | dropActiveSpan (spanId : Int)
  deriving DecidableEq, Repr

def ActiveSpans.delete (m : ActiveSpans) (spanId : Int) : ActiveSpans :=
  m.filter (fun e => e.1 ≠ spanId)

/-- `activeSpan.Store(spanId, start)`: the new entry replaces any old one of the same id. -/
def ActiveSpans.store (m : ActiveSpans) (spanId start : Int) : ActiveSpans :=
  (spanId, start) :: m.delete spanId

/-- `addActiveSpan`, `dropActiveSpan`, and `activeSpan = sync.Map{}` in `initStats`. -/
def ActiveSpans.apply (m : ActiveSpans) : RegistryOp → ActiveSpans
  | .initStats => []
  | .addActiveSpan spanId start => m.store spanId start
  | .dropActiveSpan spanId => m.delete spanId

/-- The map after a history, from the empty map of a fresh process. -/
def registry (h : List RegistryOp) : ActiveSpans := h.foldl ActiveSpans.apply []

/-- The `Range` callback's bucket for a duration `d`: `d < 1`, `d < 3`, `d < 5`, else. -/
def activeSpanBucket (d : Int) : Fin 4 :=
  if secondsBelow d 1 then 0 else if secondsBelow d 3 then 1 else if secondsBelow d 5 then 2 else 3

/-- The counting loop of `getActiveSpanCount`, written the same way inside `getStats`:
`activeSpanCount[b]++` on `int32` counters for the bucket `b` of `now.Sub(start)`. -/
def countActiveSpans (now : Int) (m : ActiveSpans) : Fin 4 → Int :=
  m.foldl (fun c e => Function.update c (activeSpanBucket (timeSub now e.2))
    (wrap32 (c (activeSpanBucket (timeSub now e.2)) + 1))) (fun _ => 0)

/-- `getActiveSpanCount(now)`: the four counters as an `[]int32`. -/
def getActiveSpanCount (m : ActiveSpans) (now : Int) : List Int := List.ofFn (countActiveSpans now m)

example : getActiveSpanCount (registry [.addActiveSpan 7 0]) (5 * 10 ^ 8) = [1, 0, 0, 0] := by
  decide

/-! ### Live span ids and age intervals -/

/-- One step of `liveStart`, for span id `id`. -/
def liveStep (id : Int) (acc : Option Int) : RegistryOp → Option Int
  | .initStats => none
  | .addActiveSpan k s => if k = id then some s else acc
  | .dropActiveSpan k => if k = id then none else acc

/-- The start time of `id`'s last add since the last `initStats`, unless dropped after it. -/
def liveStart (h : List RegistryOp) (id : Int) : Option Int := h.foldl (liveStep id) none

def RegistryOp.added : RegistryOp → Option Int
  | .addActiveSpan k _ => some k
  | _ => none

def liveIds (h : List RegistryOp) : Finset Int :=
  (h.filterMap RegistryOp.added).toFinset.filter (fun k => (liveStart h k).isSome)

/-- The `i`-th half-open age interval, in nanoseconds: `(-∞,1)`, `[1,3)`, `[3,5)`, `[5,∞)` s. -/
def InBucket : Fin 4 → Int → Prop
  | 0, age => age < second
  | 1, age => second ≤ age ∧ age < 3 * second
  | 2, age => 3 * second ≤ age ∧ age < 5 * second
  | 3, age => 5 * second ≤ age

instance (i : Fin 4) (age : Int) : Decidable (InBucket i age) := by
  match i with
  | 0 | 1 | 2 | 3 => unfold InBucket; infer_instance

/-- The live ids whose age at `now` lies in the `i`-th interval. -/
def liveInBucket (h : List RegistryOp) (now : Int) (i : Fin 4) : Finset Int :=
  (liveIds h).filter (fun k => ((liveStart h k).map (fun s => decide (InBucket i (now - s)))) = some true)

/-! ### The registry holds the live entries -/

/-- The map holds one entry per id, exactly the live ones of the history. -/
def Represents (m : ActiveSpans) (h : List RegistryOp) : Prop :=
  (m.map Prod.fst).Nodup ∧ ∀ k s, (k, s) ∈ m ↔ liveStart h k = some s

theorem liveStart_append (h : List RegistryOp) (op : RegistryOp) (id : Int) :
    liveStart (h ++ [op]) id = liveStep id (liveStart h id) op := by
  simp [liveStart]

theorem nodup_delete {m : ActiveSpans} (hm : (m.map Prod.fst).Nodup) (k : Int) :
    ((m.delete k).map Prod.fst).Nodup :=
  (List.Sublist.map _ (List.filter_sublist m)).nodup hm

theorem represents_apply {m : ActiveSpans} {h : List RegistryOp} (hm : Represents m h)
    (op : RegistryOp) : Represents (m.apply op) (h ++ [op]) := by
  obtain ⟨hnd, hmem⟩ := hm
  cases op with
  | initStats => exact ⟨List.nodup_nil, by simp [ActiveSpans.apply, liveStart_append, liveStep]⟩
  | addActiveSpan k s =>
    refine ⟨?_, fun k' s' => ?_⟩
    · simp only [ActiveSpans.apply, ActiveSpans.store, List.map_cons, List.nodup_cons]
      exact ⟨by simp [ActiveSpans.delete], nodup_delete hnd k⟩
    · by_cases hk : k = k' <;>
        simp [ActiveSpans.apply, ActiveSpans.store, ActiveSpans.delete, liveStart_append, liveStep,
          hk, hmem, eq_comm]
  | dropActiveSpan k =>
    refine ⟨nodup_delete hnd k, fun k' s' => ?_⟩
    by_cases hk : k = k' <;>
      simp [ActiveSpans.apply, ActiveSpans.delete, liveStart_append, liveStep, hk, hmem, Ne.symm]

theorem represents_registry (h : List RegistryOp) : Represents (registry h) h := by
  induction h using List.reverseRecOn with
  | nil => exact ⟨List.nodup_nil, by simp [registry, liveStart]⟩
  | append_singleton h op ih =>
    rw [registry, List.foldl_append]
    exact represents_apply ih op

theorem mem_added_of_liveStart {h : List RegistryOp} {k s : Int} (hk : liveStart h k = some s) :
    k ∈ h.filterMap RegistryOp.added := by
  induction h using List.reverseRecOn generalizing s with
  | nil => simp [liveStart] at hk
  | append_singleton h op ih =>
    rw [liveStart_append] at hk
    rw [List.filterMap_append, List.mem_append]
    cases op with
    | initStats => simp [liveStep] at hk
    | addActiveSpan k' s' =>
      by_cases he : k' = k
      · subst he; exact Or.inr (List.mem_singleton_self k')
      · simp only [liveStep, if_neg he] at hk; exact Or.inl (ih hk)
    | dropActiveSpan k' =>
      by_cases he : k' = k
      · simp [liveStep, he] at hk
      · simp only [liveStep, if_neg he] at hk; exact Or.inl (ih hk)

/-! ### Counting -/

theorem countActiveSpans_foldl (now : Int) (i : Fin 4) (m : ActiveSpans) (c : Fin 4 → Int)
    (x : Int) (hc : c i = wrap32 x) :
    m.foldl (fun c e => Function.update c (activeSpanBucket (timeSub now e.2))
      (wrap32 (c (activeSpanBucket (timeSub now e.2)) + 1))) c i =
      wrap32 (x + m.countP (fun e => activeSpanBucket (timeSub now e.2) = i)) := by
  induction m generalizing c x with
  | nil => simpa using hc
  | cons e m ih =>
    rw [List.foldl_cons, List.countP_cons]
    by_cases hb : activeSpanBucket (timeSub now e.2) = i
    · rw [ih _ (x + 1) (by rw [hb, Function.update_same, hc]; exact wrapInt_add_left 31 x 1)]
      simp [hb]; congr 1; omega
    · rw [ih _ x (by rw [Function.update_noteq (Ne.symm hb), hc])]
      simp [hb]

theorem countActiveSpans_eq (now : Int) (m : ActiveSpans) (i : Fin 4) :
    countActiveSpans now m i =
      wrap32 (m.countP (fun e => activeSpanBucket (timeSub now e.2) = i)) := by
  simpa using countActiveSpans_foldl now i m _ 0 rfl

theorem activeSpanBucket_timeSub (now s : Int) :
    activeSpanBucket (timeSub now s) =
      if now - s < second then 0 else if now - s < 3 * second then 1
      else if now - s < 5 * second then 2 else 3 := by
  unfold activeSpanBucket
  rw [secondsBelow_timeSub now s (by decide : 1 ≤ 5), secondsBelow_timeSub now s (by decide : 3 ≤ 5),
    secondsBelow_timeSub now s (by decide : 5 ≤ 5)]
  simp only [decide_eq_true_eq, Nat.cast_ofNat, Nat.cast_one, one_mul]

theorem activeSpanBucket_eq_iff (now s : Int) (i : Fin 4) :
    activeSpanBucket (timeSub now s) = i ↔ InBucket i (now - s) := by
  have hs : second = 10 ^ 9 := rfl
  rw [activeSpanBucket_timeSub]
  generalize now - s = a
  constructor
  · rintro rfl
    split_ifs <;> simp only [InBucket] <;> omega
  · intro h
    match i, h with
    | 0, h => rw [if_pos (show a < second from h)]
    | 1, ⟨h1, h3⟩ => rw [if_neg (by omega), if_pos h3]
    | 2, ⟨h3, h5⟩ => rw [if_neg (by omega), if_neg (by omega), if_pos h5]
    | 3, h =>
      have h : 5 * second ≤ a := h
      rw [if_neg (by omega), if_neg (by omega), if_neg (by omega)]

theorem liveIds_eq {m : ActiveSpans} {h : List RegistryOp} (hm : Represents m h) :
    liveIds h = (m.map Prod.fst).toFinset := by
  ext k
  simp only [liveIds, Finset.mem_filter, List.mem_toFinset, List.mem_map, Option.isSome_iff_exists]
  constructor
  · rintro ⟨-, s, hs⟩; exact ⟨(k, s), (hm.2 k s).2 hs, rfl⟩
  · rintro ⟨⟨k, s⟩, he, rfl⟩
    have hs := (hm.2 k s).1 he
    exact ⟨mem_added_of_liveStart hs, s, hs⟩

theorem liveInBucket_eq {m : ActiveSpans} {h : List RegistryOp} (hm : Represents m h)
    (now : Int) (i : Fin 4) :
    liveInBucket h now i =
      ((m.filter (fun e => activeSpanBucket (timeSub now e.2) = i)).map Prod.fst).toFinset := by
  ext k
  simp only [liveInBucket, liveIds_eq hm, Finset.mem_filter, List.mem_toFinset, List.mem_map,
    List.mem_filter, decide_eq_true_eq]
  constructor
  · rintro ⟨⟨⟨k, s⟩, he, rfl⟩, hb⟩
    rw [(hm.2 k s).1 he] at hb
    exact ⟨(k, s), ⟨he, (activeSpanBucket_eq_iff now s i).2 (by simpa using hb)⟩, rfl⟩
  · rintro ⟨⟨k, s⟩, ⟨he, hb⟩, rfl⟩
    refine ⟨⟨(k, s), he, rfl⟩, ?_⟩
    rw [(hm.2 k s).1 he]
    simpa using (activeSpanBucket_eq_iff now s i).1 hb

theorem countActiveSpans_eq_card (h : List RegistryOp) (now : Int) (i : Fin 4) :
    countActiveSpans now (registry h) i = wrap32 (liveInBucket h now i).card := by
  have hm := represents_registry h
  rw [countActiveSpans_eq, liveInBucket_eq hm, List.toFinset_card_of_nodup, List.length_map,
    List.countP_eq_length_filter]
  exact (List.Sublist.map _ (List.filter_sublist _)).nodup hm.1

theorem sum_card_liveInBucket (h : List RegistryOp) (now : Int) :
    ∑ i, (liveInBucket h now i).card = (liveIds h).card := by
  have hm := represents_registry h
  rw [liveIds_eq hm, List.toFinset_card_of_nodup hm.1]
  simp only [liveInBucket_eq hm]
  rw [Finset.sum_congr rfl fun i _ => List.toFinset_card_of_nodup
    ((List.Sublist.map _ (List.filter_sublist _)).nodup hm.1)]
  simp only [List.length_map, ← List.countP_eq_length_filter]
  induction registry h with
  | nil => simp
  | cons e m ih =>
    simp only [List.countP_cons, Finset.sum_add_distrib, ih, List.length_cons]
    simp [Finset.sum_ite_eq']

end PinpointAgent
