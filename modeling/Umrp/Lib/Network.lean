import Mathlib.Data.Set.Basic
import Mathlib.Logic.Function.Basic

/-!
# Parties on an unreliable network

Parties exchange messages over a network that delivers what was sent in any order,
any number of times, at any time, to anyone, or not at all.  Such a network needs no
queues: a party may receive whatever some party has put on the wire before.  A
party keeps track of the messages it has written itself and of those it has only
passed on.

Main results:

- Theorem `Reach.exists_author`: if parties pass on only what they receive, every
  message on the wire was written by some party.
- Theorem `Reach.invariant`: what each party guarantees about its own state and
  its own messages, relying on the same about the messages it receives, holds in
  every reachable state.
-/

namespace Network

/-- One party: how it reacts to an event, the message that an event hands to it, the
messages it has written and those it has passed on. -/
structure Party (σ ε μ : Type*) where
  step : σ → ε → σ
  receives : ε → Option μ
  written : σ → Set μ
  passedOn : σ → Set μ

variable {ι σ ε μ : Type*} (P : Party σ ε μ)

/-- The messages on the wire. -/
def pool (s : ι → σ) : Set μ :=
  {m | ∃ i, m ∈ P.written (s i) ∨ m ∈ P.passedOn (s i)}

/-- The states that the parties reach by events of the given kind, if they receive
only messages that are on the wire. -/
inductive Reach [DecidableEq ι] (kind : ε → Prop) (init : ι → σ) : (ι → σ) → Prop
  | init : Reach kind init init
  | step {s : ι → σ} (h : Reach kind init s) (i : ι) (e : ε) (hkind : kind e)
      (hpool : ∀ m, P.receives e = some m → m ∈ pool P s) :
      Reach kind init (Function.update s i (P.step (s i) e))

/-- A party writes well-formed messages only, does not forget what it has written,
and of well-formed messages it passes on only what it receives. -/
structure Party.Relays (kind : ε → Prop) (wf : μ → Prop) : Prop where
  written_wf : ∀ x, ∀ m ∈ P.written x, wf m
  written_mono : ∀ x e, kind e → P.written x ⊆ P.written (P.step x e)
  passedOn_step : ∀ x e, kind e → (∀ m, P.receives e = some m → wf m) →
    ∀ m ∈ P.passedOn (P.step x e), m ∈ P.passedOn x ∨ P.receives e = some m

variable {P} [DecidableEq ι] {kind : ε → Prop} {wf : μ → Prop} {init s : ι → σ}

/-- What was written stays written when some party takes a step. -/
theorem exists_written_update (hP : P.Relays kind wf) {i : ι} {e : ε} (hkind : kind e) {m : μ}
    (h : ∃ j, m ∈ P.written (s j)) :
    ∃ j, m ∈ P.written (Function.update s i (P.step (s i) e) j) := by
  rcases h with ⟨j, hj⟩
  refine ⟨j, ?_⟩
  rcases eq_or_ne j i with rfl | hne
  · rw [Function.update_self]
    exact hP.written_mono _ _ hkind hj
  · rw [Function.update_of_ne hne]
    exact hj

/-- Every message on the wire was written by some party. -/
theorem Reach.exists_author (hP : P.Relays kind wf) (hinit : ∀ i, P.passedOn (init i) = ∅)
    (h : Reach P kind init s) {m : μ} (hm : m ∈ pool P s) : ∃ i, m ∈ P.written (s i) := by
  induction h generalizing m with
  | init =>
      rcases hm with ⟨i, hi | hi⟩
      · exact ⟨i, hi⟩
      · rw [hinit] at hi
        cases hi
  | @step s h i e hkind hpool ih =>
      rcases hm with ⟨j, hj | hj⟩
      · exact ⟨j, hj⟩
      · refine exists_written_update hP hkind ?_
        rcases eq_or_ne j i with rfl | hne
        · rw [Function.update_self] at hj
          have hwf : ∀ m, P.receives e = some m → wf m := by
            intro m hm
            rcases ih (hpool m hm) with ⟨k, hk⟩
            exact hP.written_wf _ m hk
          rcases hP.passedOn_step _ _ hkind hwf m hj with hold | hrecv
          · exact ih ⟨j, .inr hold⟩
          · exact ih (hpool m hrecv)
        · rw [Function.update_of_ne hne] at hj
          exact ih ⟨j, .inr hj⟩

/-- Relying on `A` for what it receives, each party keeps its own invariant `J` and
guarantees `A` for what it writes; then both hold everywhere. -/
theorem Reach.invariant (hP : P.Relays kind wf) (hpassed : ∀ i, P.passedOn (init i) = ∅)
    {J : ι → σ → Prop} {A : ι → μ → Prop} (hJ : ∀ i, J i (init i))
    (hA : ∀ i x, J i x → ∀ m ∈ P.written x, A i m)
    (hstep : ∀ i x e, kind e → J i x → (∀ m, P.receives e = some m → ∃ j, A j m) →
      J i (P.step x e))
    (h : Reach P kind init s) (j : ι) : J j (s j) := by
  induction h generalizing j with
  | init => exact hJ j
  | @step s h i e hkind hpool ih =>
      rcases eq_or_ne j i with rfl | hne
      · rw [Function.update_self]
        refine hstep j _ _ hkind (ih j) ?_
        intro m hm
        rcases h.exists_author hP hpassed (hpool m hm) with ⟨k, hk⟩
        exact ⟨k, hA k _ (ih k) m hk⟩
      · rw [Function.update_of_ne hne]
        exact ih j

end Network
