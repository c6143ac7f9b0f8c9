import Umrp.Lib.EventMachine

/-!
# Countdowns

A periodic timer with a counter.  While it runs, each tick takes one from the counter,
and the tick that finds the counter at zero is the last one: it stops the timer and sets
the counter back.  Starting the timer leaves the counter as it is, so a countdown that
was stopped early goes on with what is left of it.

Main results:

- Theorem `Clock.left_le_step`: no event lets the counter exceed its full value.
- Theorem `Clock.run_ticks`: the state after any number of ticks.
- Theorem `Clock.ticks_le`: a countdown that is left alone ends in time.
-/

namespace Countdown

open EventMachine

/-- Whether the timer runs, and the counter. -/
structure Clock where
  running : Bool
  left : Nat
deriving DecidableEq

/-- What can happen to a countdown. -/
inductive Event
  | start
  | tick
  | stop
  | silent
deriving DecidableEq

namespace Clock

/-- One event; `full` is what the counter is set back to. -/
def step (full : Nat) (c : Clock) : Event → Clock
  | .start => { c with running := true }
  | .tick =>
      if c.running then if 0 < c.left then { c with left := c.left - 1 } else ⟨false, full⟩
      else c
  | .stop => { c with running := false }
  | .silent => c

variable {full : Nat} {c : Clock}

/-- No event lets the counter exceed its full value. -/
theorem left_le_step (h : c.left ≤ full) (ev : Event) : (c.step full ev).left ≤ full := by
  cases ev with
  | start => exact h
  | tick =>
      simp only [step]
      repeat' split
      · exact Nat.le_trans (Nat.sub_le _ _) h
      · exact Nat.le_refl full
      · exact h
  | stop => exact h
  | silent => exact h

/-- Events that neither start nor stop the timer. -/
def Undisturbed (ev : Event) : Prop := ev = .tick ∨ ev = .silent

/-- A timer that does not run stays as it is. -/
theorem run_of_stopped (hrun : c.running = false) {es : List Event}
    (hes : ∀ ev ∈ es, Undisturbed ev) : run (step full) c es = c := by
  induction es with
  | nil => rfl
  | cons ev es ih =>
      rw [List.forall_mem_cons] at hes
      have hstep : c.step full ev = c := by
        rcases hes.1 with rfl | rfl
        · simp [step, hrun]
        · rfl
      rw [run_cons, hstep]
      exact ih hes.2

/-- The state after some ticks: the counter is lower by their number, or the countdown is
over. -/
theorem run_ticks (hrun : c.running = true) {es : List Event} (hes : ∀ ev ∈ es, Undisturbed ev) :
    run (step full) c es =
      if es.count .tick ≤ c.left then { c with left := c.left - es.count .tick }
      else ⟨false, full⟩ := by
  induction es generalizing c with
  | nil => simp
  | cons ev es ih =>
      rw [List.forall_mem_cons] at hes
      rcases hes with ⟨rfl | rfl, hes⟩
      · rw [run_cons, List.count_cons_self]
        by_cases hleft : 0 < c.left
        · have hstep : c.step full .tick = { c with left := c.left - 1 } := by
            simp [step, hrun, hleft]
          rw [hstep, ih (c := { c with left := c.left - 1 }) hrun hes]
          by_cases hn : es.count .tick + 1 ≤ c.left
          · rw [if_pos hn, if_pos (show es.count .tick ≤ c.left - 1 by omega), Nat.sub_sub,
              Nat.add_comm]
          · rw [if_neg hn, if_neg (show ¬ es.count .tick ≤ c.left - 1 by omega)]
        · have hstep : c.step full .tick = ⟨false, full⟩ := by
            simp [step, hrun, hleft]
          rw [hstep, run_of_stopped rfl hes, if_neg (by omega)]
      · rw [run_cons, List.count_cons_of_ne (by decide)]
        exact ih hrun hes

/-- Ticks come from a timer that runs. -/
def Enabled (c : Clock) (ev : Event) : Prop := ev = .tick → c.running = true

/-- A timer that does not run does not tick. -/
theorem count_of_stopped (hrun : c.running = false) {es : List Event}
    (hes : ∀ ev ∈ es, Undisturbed ev) (hen : Guarded (step full) Enabled c es) :
    es.count .tick = 0 := by
  induction es with
  | nil => rfl
  | cons ev es ih =>
      rw [List.forall_mem_cons] at hes
      rcases hes with ⟨rfl | rfl, hes⟩
      · have hrunning := hen.1 rfl
        rw [hrun] at hrunning
        cases hrunning
      · rw [List.count_cons_of_ne (by decide)]
        exact ih hes hen.2

/-- A countdown that is left alone ends with the tick that finds the counter at zero. -/
theorem ticks_le {es : List Event} (hes : ∀ ev ∈ es, Undisturbed ev)
    (hen : Guarded (step full) Enabled c es) : es.count .tick ≤ c.left + 1 := by
  induction es generalizing c with
  | nil => simp
  | cons ev es ih =>
      rw [List.forall_mem_cons] at hes
      rcases hes with ⟨rfl | rfl, hes⟩
      · have hrun := hen.1 rfl
        have hrest := hen.2
        rw [List.count_cons_self]
        by_cases hleft : 0 < c.left
        · have hstep : c.step full .tick = { c with left := c.left - 1 } := by
            simp [step, hrun, hleft]
          rw [hstep] at hrest
          have := ih hes hrest
          simp only at this
          omega
        · have hstep : c.step full .tick = ⟨false, full⟩ := by
            simp [step, hrun, hleft]
          rw [hstep] at hrest
          rw [count_of_stopped rfl hes hrest]
          omega
      · rw [List.count_cons_of_ne (by decide)]
        exact ih hes hen.2

end Clock

end Countdown
