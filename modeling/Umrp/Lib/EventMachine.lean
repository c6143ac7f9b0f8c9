import Mathlib.Data.Nat.ModEq
import Mathlib.Tactic.Common

/-!
# Event machines

A deterministic machine takes one event at a time.  This file fixes the
vocabulary for its runs: the state after a list of events, properties that hold
in every state a run visits, and guards that hold at every step a run takes.
Nothing here mentions a concrete machine.

Main results:

- Theorem `run_invariant`: a predicate kept by every step is kept by every run.
- Theorem `always_iff_forall_take`: visiting only good states is the same as
  being good after every initial segment of the events.
- Theorem `always_iff_guarded`: if a guard decides at every step whether a
  property survives, then the property holds along a run exactly when the guard
  holds at every step of it.
- Theorem `forall_agree_iff_guarded`: the same for agreeing with someone who only sees the
  events.
- Theorem `always_of_guarded`: one direction of it, for an invariant that the guard keeps.
- Theorem `countSince_invariant`: an invariant may speak about the number of ticks
  since the last mark or the last entry into a phase.
- Theorem `always_of_between`: a property that every mark renews and one tick does
  not break holds along a run with a mark between any two ticks.
- Theorem `forall_count_iff_guarded`: a counter that wraps agrees with a number of ticks
  as long as no tick is missed.
- Theorem `run_trace`: a machine that follows another one step by step runs on what it
  sees of the other one's events.
-/

namespace EventMachine

variable {σ ε : Type*} (step : σ → ε → σ)

/-- The state reached from `s` by the events `es`, first event first. -/
def run (s : σ) (es : List ε) : σ :=
  es.foldl step s

/-- The property `P` holds in every state visited by the run, both ends included. -/
def Always (P : σ → Prop) : σ → List ε → Prop
  | s, [] => P s
  | s, e :: es => P s ∧ Always P (step s e) es

/-- The guard `G` holds of the state before, and the event of, every step taken. -/
def Guarded (G : σ → ε → Prop) : σ → List ε → Prop
  | _, [] => True
  | s, e :: es => G s e ∧ Guarded G (step s e) es

variable {step}

instance Always.decidable (P : σ → Prop) [DecidablePred P] :
    ∀ (s : σ) (es : List ε), Decidable (Always step P s es)
  | s, [] => inferInstanceAs (Decidable (P s))
  | s, e :: es =>
      haveI := Always.decidable P (step s e) es
      inferInstanceAs (Decidable (P s ∧ Always step P (step s e) es))

instance Guarded.decidable (G : σ → ε → Prop) [∀ s e, Decidable (G s e)] :
    ∀ (s : σ) (es : List ε), Decidable (Guarded step G s es)
  | _, [] => inferInstanceAs (Decidable True)
  | s, e :: es =>
      haveI := Guarded.decidable G (step s e) es
      inferInstanceAs (Decidable (G s e ∧ Guarded step G (step s e) es))

@[simp]
theorem run_nil (s : σ) : run step s [] = s :=
  rfl

@[simp]
theorem run_cons (s : σ) (e : ε) (es : List ε) :
    run step s (e :: es) = run step (step s e) es :=
  rfl

theorem run_append (s : σ) (es es' : List ε) :
    run step s (es ++ es') = run step (run step s es) es' :=
  List.foldl_append

/-- A predicate kept by every step is kept by every run. -/
theorem run_invariant {I : σ → Prop} (hstep : ∀ s e, I s → I (step s e))
    {s : σ} (hs : I s) (es : List ε) : I (run step s es) := by
  induction es generalizing s with
  | nil => exact hs
  | cons e es ih => exact ih (hstep s e hs)

/-- Visiting only good states means being good after every initial segment. -/
theorem always_iff_forall_take {P : σ → Prop} {s : σ} {es : List ε} :
    Always step P s es ↔ ∀ k, P (run step s (es.take k)) := by
  induction es generalizing s with
  | nil => simp [Always]
  | cons e es ih =>
      simp only [Always, ih]
      constructor
      · rintro ⟨hs, hrest⟩ k
        cases k with
        | zero => exact hs
        | succ k => exact hrest k
      · intro h
        exact ⟨h 0, fun k => h (k + 1)⟩

/-- If, in states satisfying the invariant `I` and the property `P`, the guard
decides whether `P` survives the step, then `P` holds all along a run exactly
when every step of the run meets the guard. -/
theorem always_iff_guarded {I P : σ → Prop} {G : σ → ε → Prop}
    (hI : ∀ s e, I s → P s → P (step s e) → I (step s e))
    (hG : ∀ s e, I s → P s → (P (step s e) ↔ G s e))
    {s : σ} (hs : I s) (hP : P s) (es : List ε) :
    Always step P s es ↔ Guarded step G s es := by
  induction es generalizing s with
  | nil => simpa [Always, Guarded] using hP
  | cons e es ih =>
      simp only [Always, Guarded]
      constructor
      · rintro ⟨-, hrest⟩
        have hP' : P (step s e) := always_iff_forall_take.mp hrest 0
        exact ⟨(hG s e hs hP).mp hP', (ih (hI s e hs hP hP') hP').mp hrest⟩
      · rintro ⟨hg, hrest⟩
        have hP' : P (step s e) := (hG s e hs hP).mpr hg
        exact ⟨hP, (ih (hI s e hs hP hP') hP').mpr hrest⟩

/-- An observer who only sees the events and keeps a note of them agrees with the machine
all along a run exactly when every step meets the guard that decides whether they still
agree after it. -/
theorem forall_agree_iff_guarded {γ : Type*} {R : σ → γ → Prop} {note : γ → ε → γ} {I : σ → Prop}
    {G : σ → ε → Prop} (hI : ∀ s e, I s → I (step s e))
    (hG : ∀ s g e, I s → R s g → (R (step s e) (note g e) ↔ G s e)) {s : σ} {g : γ} (hs : I s)
    (hR : R s g) (es : List ε) :
    (∀ k, R (run step s (es.take k)) ((es.take k).foldl note g)) ↔ Guarded step G s es := by
  induction es generalizing s g with
  | nil => simpa [Guarded] using hR
  | cons e es ih =>
      constructor
      · intro h
        have hR' : R (step s e) (note g e) := h 1
        exact ⟨(hG s g e hs hR).mp hR', (ih (hI s e hs) hR').mp fun k => h (k + 1)⟩
      · rintro ⟨hg, hrest⟩ k
        have hR' : R (step s e) (note g e) := (hG s g e hs hR).mpr hg
        cases k with
        | zero => exact hR
        | succ k => exact (ih (hI s e hs) hR').mpr hrest k

/-- If the guard is enough for the invariant to survive a step, then the invariant
holds all along a run whose steps meet the guard. -/
theorem always_of_guarded {I P : σ → Prop} {G : σ → ε → Prop}
    (hstep : ∀ s e, I s → G s e → I (step s e)) (hP : ∀ s, I s → P s) {s : σ} (hs : I s)
    {es : List ε} (hes : Guarded step G s es) : Always step P s es := by
  induction es generalizing s with
  | nil => exact hP s hs
  | cons e es ih => exact ⟨hP s hs, ih (hstep s e hs hes.1) hes.2⟩

/-- A guard that always holds. -/
theorem guarded_of_forall {G : σ → ε → Prop} (hG : ∀ s e, G s e) (s : σ) (es : List ε) :
    Guarded step G s es := by
  induction es generalizing s with
  | nil => trivial
  | cons e es ih => exact ⟨hG s e, ih (step s e)⟩

/-- An initial segment of a guarded run is guarded. -/
theorem Guarded.take {G : σ → ε → Prop} {s : σ} {es : List ε} (hes : Guarded step G s es) (k : Nat) :
    Guarded step G s (es.take k) := by
  induction es generalizing s k with
  | nil => simpa using hes
  | cons e es ih =>
      cases k with
      | zero => trivial
      | succ k => exact ⟨hes.1, ih hes.2 k⟩

/-- A weaker guard, where the stronger one is only needed in states that satisfy the
invariant. -/
theorem Guarded.imp {I : σ → Prop} {G G' : σ → ε → Prop} (hI : ∀ s e, I s → I (step s e))
    (hG : ∀ s e, I s → G s e → G' s e) {s : σ} (hs : I s) {es : List ε}
    (hes : Guarded step G s es) : Guarded step G' s es := by
  induction es generalizing s with
  | nil => trivial
  | cons e es ih => exact ⟨hG s e hs hes.1, ih (hI s e hs) hes.2⟩

/-! ## Ticks and marks -/

variable (step) in
/-- Between any two consecutive ticks of the run there is a mark; `seen` says
whether there was one since the last tick before the run. -/
def Between (tick mark : σ → ε → Bool) : Bool → σ → List ε → Prop
  | _, _, [] => True
  | seen, s, e :: es =>
      if tick s e then seen = true ∧ Between tick mark false (step s e) es
      else Between tick mark (seen || mark s e) (step s e) es

instance Between.decidable (tick mark : σ → ε → Bool) :
    ∀ seen s es, Decidable (Between step tick mark seen s es)
  | _, _, [] => inferInstanceAs (Decidable True)
  | seen, s, e :: es =>
      haveI := Between.decidable tick mark false (step s e) es
      haveI := Between.decidable tick mark (seen || mark s e) (step s e) es
      inferInstanceAs (Decidable (if tick s e then _ else _))

/-- The invariant knows whether there was a mark since the last tick.  If it
survives a tick after a mark, and any other step, it holds along the run. -/
theorem always_of_between {tick mark : σ → ε → Bool} {I : Bool → σ → Prop} {P : σ → Prop}
    (htick : ∀ s e, I true s → tick s e = true → I false (step s e))
    (hother : ∀ seen s e, I seen s → tick s e = false → I (seen || mark s e) (step s e))
    (hP : ∀ seen s, I seen s → P s) {seen : Bool} {s : σ} (hs : I seen s) {es : List ε}
    (hes : Between step tick mark seen s es) : Always step P s es := by
  induction es generalizing seen s with
  | nil => exact hP _ _ hs
  | cons e es ih =>
      refine ⟨hP _ _ hs, ?_⟩
      simp only [Between] at hes
      split at hes
      next ht =>
        rcases hes with ⟨rfl, hrest⟩
        exact ih (htick s e hs ht) hrest
      next ht => exact ih (hother seen s e hs (by simpa using ht)) hes

/-! ## Counting since the last reset -/

variable (step) in
/-- The number of ticks of a run since its last reset.  A run without a reset adds
to the `n` ticks that were there before it. -/
def countSince (tick reset : σ → ε → Bool) : Nat → σ → List ε → Nat
  | n, _, [] => n
  | n, s, e :: es =>
      countSince tick reset (if reset s e then 0 else if tick s e then n + 1 else n) (step s e) es

/-- The count after one event, for ticks that are only counted inside the phase `P`. -/
def countNext (tick mark : σ → ε → Bool) (P : σ → Bool) (n : Nat) (s : σ) (e : ε) : Nat :=
  if mark s e then 0 else if P s then if tick s e then n + 1 else n else 0

/-- An invariant that knows the number of ticks since the later of the last mark and
the last entry into the phase `P`.  Outside the phase it does not look at the number. -/
theorem countSince_invariant {tick mark reset : σ → ε → Bool} {P : σ → Bool} {I : Nat → σ → Prop}
    (hreset : ∀ s e, reset s e = (mark s e || (!P s && P (step s e))))
    (houtside : ∀ {n s} k, I n s → P s = false → I k s)
    (hstep : ∀ n s e, I n s → I (countNext tick mark P n s e) (step s e))
    {n : Nat} {s : σ} (hs : I n s) (es : List ε) :
    I (countSince step tick reset n s es) (run step s es) := by
  induction es generalizing n s with
  | nil => exact hs
  | cons e es ih =>
      apply ih
      have hnext := hstep n s e hs
      rw [hreset]
      unfold countNext at hnext
      by_cases hmark : mark s e = true
      · simpa [hmark] using hnext
      · rw [if_neg hmark] at hnext
        by_cases hP : P s = true
        · simpa [hmark, hP] using hnext
        · by_cases hin : P (step s e) = true
          · simpa [hmark, hP, hin] using hnext
          · exact houtside _ hnext (by simpa using hin)

/-! ## Abstraction -/

section Abstraction

variable {τ δ : Type*}

variable (step) in
/-- What an observer sees of a run, event by event. -/
def trace (see : σ → ε → δ) : σ → List ε → List δ
  | _, [] => []
  | s, e :: es => see s e :: trace see (step s e) es

@[simp]
theorem trace_nil (see : σ → ε → δ) (s : σ) : trace step see s [] = [] :=
  rfl

@[simp]
theorem trace_cons (see : σ → ε → δ) (s : σ) (e : ε) (es : List ε) :
    trace step see s (e :: es) = see s e :: trace step see (step s e) es :=
  rfl

@[simp]
theorem length_trace (see : σ → ε → δ) (s : σ) (es : List ε) :
    (trace step see s es).length = es.length := by
  induction es generalizing s with
  | nil => rfl
  | cons e es ih => rw [trace_cons, List.length_cons, ih, List.length_cons]

/-- Where the machine `step'` follows a step in every state that satisfies the invariant
`I`, it follows a run. -/
theorem run_trace {see : σ → ε → δ} {f : σ → τ} {step' : τ → δ → τ} {I : σ → Prop}
    (hI : ∀ s e, I s → I (step s e))
    (hstep : ∀ s e, I s → f (step s e) = step' (f s) (see s e)) {s : σ} (hs : I s)
    (es : List ε) : f (run step s es) = run step' (f s) (trace step see s es) := by
  induction es generalizing s with
  | nil => rfl
  | cons e es ih =>
      rw [run_cons, trace_cons, run_cons, ← hstep s e hs]
      exact ih (hI s e hs)

/-- It meets a guard that every step meets. -/
theorem guarded_trace {see : σ → ε → δ} {f : σ → τ} {step' : τ → δ → τ} {I : σ → Prop}
    {G : τ → δ → Prop} (hI : ∀ s e, I s → I (step s e))
    (hstep : ∀ s e, I s → f (step s e) = step' (f s) (see s e))
    (hG : ∀ s e, I s → G (f s) (see s e)) {s : σ} (hs : I s) (es : List ε) :
    Guarded step' G (f s) (trace step see s es) := by
  induction es generalizing s with
  | nil => trivial
  | cons e es ih =>
      refine ⟨hG s e hs, ?_⟩
      rw [← hstep s e hs]
      exact ih (hI s e hs)

/-- Seeing less of a run. -/
theorem trace_map {δ' : Type*} (see : σ → ε → δ) (f : δ → δ') (s : σ) (es : List ε) :
    trace step (fun s e => f (see s e)) s es = (trace step see s es).map f := by
  induction es generalizing s with
  | nil => rfl
  | cons e es ih => rw [trace_cons, trace_cons, List.map_cons, ih]

end Abstraction

/-- The ticks of a run that starts with the event `e`. -/
theorem count_trace_cons (tick : σ → ε → Bool) (s : σ) (e : ε) (es : List ε) :
    (trace step tick s (e :: es)).count true =
      (if tick s e then 1 else 0) + (trace step tick (step s e) es).count true := by
  rw [trace_cons, List.count_cons, Nat.add_comm]
  cases tick s e <;> rfl

/-- An invariant that knows everything an observer has seen of a guarded run. -/
theorem run_trace_invariant {δ : Type*} (see : σ → ε → δ) {G : σ → ε → Prop} {I : List δ → σ → Prop}
    (hstep : ∀ l s e, I l s → G s e → I (l ++ [see s e]) (step s e)) {l : List δ} {s : σ}
    (hs : I l s) {es : List ε} (hes : Guarded step G s es) :
    I (l ++ trace step see s es) (run step s es) := by
  induction es generalizing l s with
  | nil => simpa using hs
  | cons e es ih =>
      have hrest := ih (hstep l s e hs hes.1) hes.2
      rwa [List.append_assoc, List.singleton_append] at hrest

/-- An invariant that knows how many ticks there were in a guarded run. -/
theorem run_count_invariant {tick : σ → ε → Bool} {G : σ → ε → Prop} {I : Nat → σ → Prop}
    (hstep : ∀ n s e, I n s → G s e → I (n + if tick s e then 1 else 0) (step s e))
    {n : Nat} {s : σ} (hs : I n s) {es : List ε} (hes : Guarded step G s es) :
    I (n + (trace step tick s es).count true) (run step s es) := by
  have hrun := run_trace_invariant tick (I := fun l s => I (n + l.count true) s) ?_ (l := []) hs hes
  · simpa using hrun
  · intro l s e hl hg
    have hcount : n + (l ++ [tick s e]).count true =
        n + l.count true + if tick s e then 1 else 0 := by
      rw [List.count_append, Nat.add_assoc]
      cases tick s e <;> rfl
    rw [hcount]
    exact hstep _ s e hl hg

/-! ## Counters that wrap -/

section Counters

variable {I : σ → Prop} {f : σ → Nat} {m n : Nat} (tick counted missed : σ → ε → Bool) {s : σ}

/-- A counter of the machine that some of the ticks move and the missed ones do not:
it equals the number of ticks, modulo `m`, all along a run exactly when the run misses
none. -/
theorem forall_count_iff_guarded (hm : 1 < m) (hI : ∀ s e, I s → I (step s e))
    (hf : ∀ s e, I s → f (step s e) = (f s + if counted s e then 1 else 0) % m)
    (htick : ∀ s e, I s → tick s e = (counted s e || missed s e))
    (hdisj : ∀ s e, I s → counted s e = true → missed s e = false) (hs : I s) (hn : f s = n % m)
    (es : List ε) :
    (∀ k, f (run step s (es.take k)) = (n + (trace step tick s (es.take k)).count true) % m) ↔
      Guarded step (fun s e => missed s e = false) s es := by
  induction es generalizing n s with
  | nil => simpa [Guarded] using hn
  | cons e es ih =>
      have hnext : ∀ k, (n + (trace step tick s ((e :: es).take (k + 1))).count true) =
          n + (if tick s e then 1 else 0) +
            (trace step tick (step s e) (es.take k)).count true := by
        intro k
        rw [List.take_succ_cons, count_trace_cons, Nat.add_assoc]
      have hcount : f (step s e) = (n + if counted s e then 1 else 0) % m := by
        rw [hf s e hs, hn, Nat.mod_add_mod]
      by_cases hmissed : missed s e = true
      · have hnot : counted s e = false := by
          by_contra h
          have hfalse := hdisj s e hs (by simpa using h)
          rw [hmissed] at hfalse
          cases hfalse
        -- the first step makes the counter fall behind by one
        refine iff_of_false ?_ fun hguard => by simp [Guarded, hmissed] at hguard
        intro h
        have hone := h 1
        rw [hnext 0, List.take_succ_cons, List.take_zero, run_cons, run_nil, hcount, hnot,
          htick s e hs, hnot, hmissed] at hone
        have hmod : 0 ≡ 1 [MOD m] := Nat.ModEq.add_left_cancel' n hone
        have hdvd := (Nat.modEq_iff_dvd' (Nat.zero_le 1)).mp hmod
        exact absurd (Nat.le_of_dvd Nat.one_pos hdvd) (Nat.not_le.mpr hm)
      · have hsame : tick s e = counted s e := by
          rw [htick s e hs, Bool.eq_false_iff.mpr hmissed, Bool.or_false]
        rw [← hsame] at hcount
        have hrest := ih (hI s e hs) hcount
        simp only [Guarded, Bool.eq_false_iff.mpr hmissed, true_and, ← hrest]
        constructor
        · intro h k
          rw [← hnext k]
          exact h (k + 1)
        · intro h k
          cases k with
          | zero => simpa using hn
          | succ k =>
              rw [hnext k]
              exact h k

end Counters

end EventMachine
