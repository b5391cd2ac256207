import Mathlib.Data.List.Chain

/-!
# Stream handles and the wrapper law

Each of the five stream wrappers of `grpc.go` (`pingStream`, `spanStream`, `statStream`,
`cmdStream`, `activeThreadCountStream`) holds one gRPC stream handle, possibly `nil`, and its
methods invoke `Send`, `Recv`, `CloseSend` or `CloseAndRecv` on it. A run of a wrapper is the
list of its method calls, each recorded as an `Exec`: the handle before and after, the calls it
made on the handle it held, and the error it returned.

`StreamLaw` is the wrappers' contract over a whole run:
* a call made while the handle is absent invokes nothing on it, and a send or receive then
  returns `Unavailable`;
* every send or receive after a `close`, with no `setStreamInvoker` in between, returns
  `Unavailable`;
* between two half-closes (`CloseSend`, `CloseAndRecv`) there is an installation, so each
  installed handle is half-closed at most once.

`Wrapper.run_law`: if every call of the methods satisfying `P` meets `StepOk`, every run of such
methods satisfies the law, from a live or an absent handle. `StepOk` is checked method by
method in `Stream.Wrappers`.
-/

namespace PinpointAgent

/-- A live gRPC stream, by identity. -/
abbrev Handle := Nat

/-- A gRPC status code, as far as the wrappers tell codes apart. -/
inductive Code where
  | unavailable
  | other (n : Nat)
  deriving DecidableEq

/-- A non-`nil` Go `error`: a gRPC status and its message. -/
structure GoError where
  code : Code
  message : String
  deriving DecidableEq

/-- `status.Errorf(codes.Unavailable, message)`. -/
def unavailableError (message : String) : GoError := ⟨.unavailable, message⟩

/-- The returned error is an `Unavailable` status. -/
def IsUnavailable (e : Option GoError) : Prop := ∃ e', e = some e' ∧ e'.code = .unavailable

/-- A method a wrapper invokes on its stream handle. -/
inductive StreamCall (μ : Type) where
  | send (msg : μ)
  | recv
  | closeSend
  | closeAndRecv
  deriving DecidableEq

def StreamCall.isHalfClose {μ : Type} : StreamCall μ → Bool
  | .closeSend | .closeAndRecv => true
  | _ => false

/-- How the law sorts a wrapper's methods. -/
inductive MethodKind where
  | io
  | close
  | install
  | other
  deriving DecidableEq

/-- One method call: its kind, the handle before and after, the calls it made on the handle it
held before, and the error it returned. -/
structure Exec (μ : Type) where
  kind : MethodKind
  before : Option Handle
  after : Option Handle
  calls : List (StreamCall μ)
  result : Option GoError

variable {μ σ M : Type}

def Exec.events (x : Exec μ) : List Bool :=
  (if x.kind = .install then [false] else []) ++ (x.calls.filter StreamCall.isHalfClose).map fun _ => true

/-- The wrappers' contract over a run. -/
def StreamLaw (run : List (Exec μ)) : Prop :=
  (∀ x ∈ run, x.before = none → x.calls = [] ∧ (x.kind = .io → IsUnavailable x.result)) ∧
    (∀ pre x mid y post, run = pre ++ x :: (mid ++ y :: post) → x.kind = .close →
      (∀ z ∈ mid, z.kind ≠ .install) → y.kind = .io → IsUnavailable y.result) ∧
    (run.flatMap Exec.events).Chain' fun a b => ¬(a = true ∧ b = true)

/-- What one call of a well-behaved wrapper does. -/
structure StepOk (x : Exec μ) : Prop where
  absent : x.before = none → x.calls = [] ∧ (x.kind = .io → IsUnavailable x.result)
  stays_absent : x.before = none → x.kind ≠ .install → x.after = none
  close_absent : x.kind = .close → x.after = none
  install_quiet : x.kind = .install → x.calls = []
  half_closes : (x.calls.filter StreamCall.isHalfClose).length ≤ 1
  half_close_absent : (x.calls.filter StreamCall.isHalfClose) ≠ [] → x.after = none

/-- A stream wrapper: its handle, the kind of each method, and what one call does (the new
wrapper, the calls made on the handle it held, the error returned). -/
structure Wrapper (σ μ M : Type) where
  stream : σ → Option Handle
  kind : M → MethodKind
  step : σ → M → σ × List (StreamCall μ) × Option GoError

namespace Wrapper

variable (W : Wrapper σ μ M)

def exec (s : σ) (m : M) : Exec μ :=
  ⟨W.kind m, W.stream s, W.stream (W.step s m).1, (W.step s m).2.1, (W.step s m).2.2⟩

def run : σ → List M → List (Exec μ)
  | _, [] => []
  | s, m :: ms => W.exec s m :: run (W.step s m).1 ms

variable {W}

theorem mem_run {s : σ} {ms : List M} {x : Exec μ} (hx : x ∈ W.run s ms) :
    ∃ s' m, x = W.exec s' m ∧ m ∈ ms := by
  induction ms generalizing s with
  | nil => cases hx
  | cons m ms ih =>
    rcases List.mem_cons.mp hx with rfl | hx
    · exact ⟨s, m, rfl, List.mem_cons_self _ _⟩
    · obtain ⟨s', m', rfl, hm⟩ := ih hx
      exact ⟨s', m', rfl, List.mem_cons_of_mem _ hm⟩

variable {P : M → Prop} (hW : ∀ s m, P m → StepOk (W.exec s m))
include hW

theorem absent_run {s : σ} (hs : W.stream s = none) {ms : List M} (hms : ∀ m ∈ ms, P m) :
    ∀ mid y post, W.run s ms = mid ++ y :: post → (∀ z ∈ mid, z.kind ≠ .install) →
      y.kind = .io → IsUnavailable y.result := by
  induction ms generalizing s with
  | nil => intro mid y post h; simp [run] at h
  | cons m ms ih =>
    intro mid y post h hmid hy
    have hx := hW s m (hms m (List.mem_cons_self _ _))
    cases mid with
    | nil =>
      obtain ⟨rfl, -⟩ := List.cons.inj h
      exact (hx.absent hs).2 hy
    | cons z mid =>
      obtain ⟨rfl, hrest⟩ := List.cons.inj h
      have hz := hmid (W.exec s m) (List.mem_cons_self _ _)
      exact ih (hx.stays_absent hs hz) (fun m hm => hms m (List.mem_cons_of_mem _ hm)) mid y post
        hrest (fun z hz => hmid z (List.mem_cons_of_mem _ hz)) hy

theorem absent_events_head {s : σ} (hs : W.stream s = none) {ms : List M}
    (hms : ∀ m ∈ ms, P m) : ((W.run s ms).flatMap Exec.events).head? ≠ some true := by
  induction ms generalizing s with
  | nil => simp [run]
  | cons m ms ih =>
    have hx := hW s m (hms m (List.mem_cons_self _ _))
    by_cases hk : W.kind m = .install
    · simp [run, exec, Exec.events, hk]
    · have hcalls : (W.exec s m).calls = [] := (hx.absent hs).1
      simp only [exec] at hcalls
      simp only [run, List.flatMap_cons, Exec.events, exec, hk, hcalls, if_false, List.filter_nil,
        List.map_nil, List.append_nil, List.nil_append]
      exact ih (hx.stays_absent hs hk) fun m hm => hms m (List.mem_cons_of_mem _ hm)

theorem events_chain (s : σ) {ms : List M} (hms : ∀ m ∈ ms, P m) :
    ((W.run s ms).flatMap Exec.events).Chain' fun a b => ¬(a = true ∧ b = true) := by
  induction ms generalizing s with
  | nil => exact List.chain'_nil
  | cons m ms ih =>
    have hx := hW s m (hms m (List.mem_cons_self _ _))
    have hms' : ∀ m ∈ ms, P m := fun m hm => hms m (List.mem_cons_of_mem _ hm)
    rw [run, List.flatMap_cons, List.chain'_append]
    refine ⟨?_, ih _ hms', fun a ha b hb ⟨ha', hb'⟩ => ?_⟩
    · by_cases hk : (W.exec s m).kind = .install
      · simp [Exec.events, hk, hx.install_quiet hk]
      · have hlen := hx.half_closes
        simp only [Exec.events, hk, if_false, List.nil_append]
        match h : (W.exec s m).calls.filter StreamCall.isHalfClose, hlen with
        | [], _ => simp
        | [_], _ => simp
    · subst ha' hb'
      have hlast : (W.exec s m).calls.filter StreamCall.isHalfClose ≠ [] := by
        intro hnil
        by_cases hk : (W.exec s m).kind = .install <;>
          simp [Exec.events, hk, hnil] at ha
      exact absent_events_head hW (hx.half_close_absent hlast) hms' hb

theorem run_law (s : σ) {ms : List M} (hms : ∀ m ∈ ms, P m) : StreamLaw (W.run s ms) := by
  refine ⟨fun x hx => ?_, fun pre x mid y post h hx hmid hy => ?_, events_chain hW s hms⟩
  · obtain ⟨s', m, rfl, hm⟩ := mem_run hx
    exact (hW s' m (hms m hm)).absent
  · induction ms generalizing s pre with
    | nil => cases pre <;> simp [run] at h
    | cons m ms ih =>
      have hms' : ∀ m ∈ ms, P m := fun m hm => hms m (List.mem_cons_of_mem _ hm)
      cases pre with
      | nil =>
        obtain ⟨rfl, hrest⟩ := List.cons.inj h
        exact absent_run hW ((hW s m (hms m (List.mem_cons_self _ _))).close_absent hx) hms'
          mid y post hrest hmid hy
      | cons p pre =>
        obtain ⟨-, hrest⟩ := List.cons.inj h
        exact ih _ hms' pre hrest

end Wrapper

end PinpointAgent
