import Umrp.Topology.Completion

/-!
# The announced time

Every announcement of a topology change carries a time: after it the clients flush.  It
should be the time that the manager itself waits before it flushes, the number of expiries
that are left times the interval of the timer.

The expiries of the timer announce what the counter says.  A request announces a multiple
of its own argument instead and leaves the counter as it is, so the two agree only if no
earlier round was left unfinished and the argument is the interval of the timer.

Main results:

- Theorem `announcements_on_time`: along a run whose requests find the counter that their
  time stands for, every announcement carries the time that is left.
- Theorem `announcement_early`: a second link loss during a round is announced with a time
  after which the manager has long flushed.
-/

namespace Umrp

open EventMachine

namespace Mrp

/-- If nothing else happens, the `k`-th expiry of the timer of a round is the first one
that flushes. -/
def FlushesAfter (side : TopoSide) (k : Nat) (mrp : Mrp) : Prop :=
  ∀ j, (run step mrp (List.replicate j (.expired side.timer))).flushes = mrp.flushes ↔ j < k

/-- Whatever an event announces carries the time that is left before the instance flushes,
and zero exactly if it flushes at once. -/
def OnTime (side : TopoSide) (mrp : Mrp) (e : Event) : Prop :=
  ∃ new, (mrp.step e).announced side.type = new ++ mrp.announced side.type ∧
    ∀ x ∈ new, (x.2 = 0 ↔ (mrp.step e).flushes ≠ mrp.flushes) ∧
      (x.2 ≠ 0 → ∃ k, FlushesAfter side k (mrp.step e) ∧
        x.2.toNat = k * (mrp.roundConf side).interval.toNat)

/-- A request for a later time finds the counter that this time stands for. -/
def RequestFits (side : TopoSide) (mrp : Mrp) (e : Event) : Prop :=
  ∀ time, mrp.roundEvent side e = .request time → time ≠ 0 →
    (mrp.roundConf side).interval ≠ 0 ∧
      (time * (mrp.roundConf side).max).toNat =
        ((mrp.round side).left.toNat + 1) * (mrp.roundConf side).interval.toNat

section Remaining

variable {mrp : Mrp} {side : TopoSide}

theorem toNat_pos {n : UInt32} (h : n ≠ 0) : 0 < n.toNat :=
  UInt32.lt_iff_toNat_lt.mp (UInt32.pos_iff_ne_zero.mpr h)

/-- An inactive timer does nothing. -/
theorem run_expired_of_inactive (h : (mrp.timer side.timer).active = false) (j : Nat) :
    run step mrp (List.replicate j (.expired side.timer)) = mrp := by
  induction j with
  | zero => rfl
  | succ j ih =>
      have hstep : mrp.step (.expired side.timer) = mrp := by simp [step, h]
      rw [List.replicate_succ, run_cons, hstep, ih]

/-- An expiry takes one from the counter. -/
theorem round_step_tick (h : (mrp.timer side.timer).active = true) :
    (mrp.step (.expired side.timer)).round side =
      (mrp.round side).tick (mrp.roundConf side) ((mrp.step (.expired side.timer)).topoPorts side) := by
  have htick : mrp.roundEvent side (.expired side.timer) = .tick := by
    rw [roundEvent_eq_tick]
    simp [expires, h]
  have hround := (mrp.step_takes side (.expired side.timer)).round
  rwa [htick] at hround

/-- With an active timer there are as many expiries left as the counter says and one more. -/
theorem flushesAfter_of_active (h : (mrp.round side).timer.active = true) :
    FlushesAfter side ((mrp.round side).left.toNat + 1) mrp := by
  intro j
  induction j generalizing mrp with
  | zero => simp
  | succ j ih =>
      have hactive : (mrp.timer side.timer).active = true := by rwa [← round_timer]
      have hround := round_step_tick hactive
      have hexpires : mrp.expires side.timer (.expired side.timer) = true := by
        simp [expires, hactive]
      have hflushes := mrp.step_flushes_tick hexpires
      rw [List.replicate_succ, run_cons]
      by_cases hleft : (mrp.round side).left > 0
      · have hpos : 0 < (mrp.round side).left.toNat := UInt32.lt_iff_toNat_lt.mp hleft
        have hone : (1 : UInt32) ≤ (mrp.round side).left := UInt32.le_iff_toNat_le.mpr hpos
        rw [Round.tick, if_pos hleft] at hround
        rw [if_neg (UInt32.pos_iff_ne_zero.mp hleft), Nat.add_zero] at hflushes
        have hactive' : ((mrp.step (.expired side.timer)).round side).timer.active = true := by
          rw [hround]
          exact h
        have hrest := ih hactive'
        have hnext : ((mrp.step (.expired side.timer)).round side).left.toNat =
            (mrp.round side).left.toNat - 1 := by
          rw [hround]
          exact UInt32.toNat_sub_of_le _ _ hone
        rw [hflushes, hnext] at hrest
        rw [hrest]
        omega
      · have hzero : (mrp.round side).left = 0 := by simpa [UInt32.pos_iff_ne_zero] using hleft
        rw [Round.tick, if_neg hleft] at hround
        rw [if_pos hzero] at hflushes
        have hinactive : ((mrp.step (.expired side.timer)).timer side.timer).active = false := by
          rw [← round_timer, hround]
          rfl
        rw [run_expired_of_inactive hinactive, hflushes, hzero]
        simp

/-! ## Events -/

/-- A request that fits is announced on time. -/
theorem onTime_of_request {e : Event} {time : UInt32} (hev : mrp.roundEvent side e = .request time)
    (hfits : RequestFits side mrp e) : OnTime side mrp e := by
  have htakes := mrp.step_takes side e
  rw [hev] at htakes
  have hround := htakes.round
  have hflushes := htakes.flushes rfl
  refine ⟨(((mrp.step e).topoPorts side).map fun p =>
    (p, time * (mrp.roundConf side).max)).reverse, ?_, ?_⟩
  · rw [← round_sent, ← round_sent, hround]
    simp only [Round.step, Round.request]
    split <;> rfl
  · simp only [List.mem_reverse, List.forall_mem_map]
    intro p _
    by_cases htime : time = 0
    · simp [htime, hflushes, Round.Event.flushes]
    · rcases hfits time hev htime with ⟨hinterval, hvalue⟩
      have hpos : 0 < (mrp.roundConf side).interval.toNat := toNat_pos hinterval
      have hnonzero : time * (mrp.roundConf side).max ≠ 0 := by
        intro hzero
        rw [hzero, UInt32.toNat_zero] at hvalue
        exact absurd hvalue (Nat.ne_of_lt (Nat.mul_pos (Nat.succ_pos _) hpos))
      have hkept : (mrp.step e).flushes = mrp.flushes := by
        rw [hflushes]
        simp [Round.Event.flushes, htime]
      refine ⟨by simp [hnonzero, hkept], fun _ => ⟨(mrp.round side).left.toNat + 1, ?_, hvalue⟩⟩
      have hactive : ((mrp.step e).round side).timer.active = true := by
        rw [hround]
        simp [Round.step, Round.request, htime, Round.start, hinterval]
      have hleft : ((mrp.step e).round side).left = (mrp.round side).left := by
        rw [hround]
        simp [Round.step, Round.request, htime, Round.start, Round.announce]
      have hafter := flushesAfter_of_active hactive
      rwa [hleft] at hafter

/-- An expiry is announced on time, if the time fits into the field of the instance. -/
theorem onTime_of_tick {e : Event} (hev : mrp.roundEvent side e = .tick)
    (hinterval : (mrp.roundConf side).interval ≠ 0)
    (hfit : (mrp.round side).left.toNat * (mrp.roundConf side).interval.toNat < 4294967296) :
    OnTime side mrp e := by
  have hexpires := mrp.roundEvent_eq_tick.mp hev
  have hround := (mrp.step_takes side e).round
  rw [hev] at hround
  have hflushes := mrp.step_flushes_tick hexpires
  refine ⟨_, announced_step_tick hexpires, ?_⟩
  simp only [List.mem_reverse, List.forall_mem_map]
  intro p _
  by_cases hzero : (mrp.round side).left = 0
  · simp [hzero, hflushes]
  · have hpos : 0 < (mrp.round side).left.toNat := toNat_pos hzero
    have hvalue : ((mrp.round side).left * (mrp.roundConf side).interval).toNat =
        (mrp.round side).left.toNat * (mrp.roundConf side).interval.toNat := by
      rw [UInt32.toNat_mul]
      exact Nat.mod_eq_of_lt hfit
    have hnonzero : (mrp.round side).left * (mrp.roundConf side).interval ≠ 0 := by
      intro h
      rw [h, UInt32.toNat_zero] at hvalue
      exact absurd hvalue (Nat.ne_of_lt (Nat.mul_pos hpos (toNat_pos hinterval)))
    rw [if_neg hzero, Nat.add_zero] at hflushes
    refine ⟨by simp [hnonzero, hflushes], fun _ => ⟨(mrp.round side).left.toNat, ?_, hvalue⟩⟩
    have hleft : (mrp.round side).left > 0 := UInt32.pos_iff_ne_zero.mpr hzero
    have hone : (1 : UInt32) ≤ (mrp.round side).left := UInt32.le_iff_toNat_le.mpr hpos
    simp only [Round.step, Round.tick, if_pos hleft] at hround
    have hactive : ((mrp.step e).round side).timer.active = true := by
      rw [hround]
      exact active_of_tick hev
    have hnext : ((mrp.step e).round side).left.toNat + 1 = (mrp.round side).left.toNat := by
      rw [hround]
      simp only [UInt32.toNat_sub_of_le _ _ hone]
      exact Nat.sub_add_cancel hpos
    have hafter := flushesAfter_of_active hactive
    rwa [hnext] at hafter

/-- Other events announce nothing. -/
theorem onTime_of_quiet {e : Event}
    (hev : mrp.roundEvent side e = .cancel ∨ mrp.roundEvent side e = .silent) :
    OnTime side mrp e := by
  refine ⟨[], ?_, by simp⟩
  have hround := (mrp.step_takes side e).round
  rw [← round_sent, ← round_sent, hround]
  rcases hev with hev | hev <;> rw [hev] <;> rfl

end Remaining

end Mrp

/-- An active timer has an interval. -/
theorem Reachable.interval_of_active {env : Env} {a : AddArgs} {mrp : Mrp}
    (h : Reachable env a mrp) {side : TopoSide} (hactive : (mrp.round side).timer.active = true) :
    (mrp.roundConf side).interval ≠ 0 := by
  rcases h with ⟨m, es, hm, rfl⟩
  rw [run_toMrpConf]
  revert hactive
  refine Mrp.run_round_invariant
    (I := fun x => x.timer.active = true → (m.roundConf side).interval ≠ 0) ?_ ?_ es
  · intro x ports ev hx _
    cases ev with
    | request time =>
        simp only [Round.step, Round.request]
        split
        · exact hx
        · simp [Round.start]
    | tick =>
        simp only [Round.step, Round.tick]
        split
        · exact hx
        · simp [Round.cancel]
    | cancel => simp [Round.step, Round.cancel]
    | silent => exact hx
  · rw [(hm.noRound.idle side).timer]
    intro hactive
    cases hactive

/-- Along a run whose requests find the counter that their time stands for, every
announcement carries the time that is left. -/
theorem announcements_on_time {env : Env} {a : AddArgs} {mrp : Mrp} (h : Created env a mrp)
    (side : TopoSide)
    (hfit : (mrp.roundConf side).max.toNat * (mrp.roundConf side).interval.toNat < 4294967296)
    {es : List Event} (hes : Guarded Mrp.step (Mrp.RequestFits side) mrp es) :
    mrp.announced side.type = [] ∧ Guarded Mrp.step (Mrp.OnTime side) mrp es := by
  refine ⟨mrp.round_sent side ▸ (h.noRound.idle side).sent, ?_⟩
  refine hes.imp (I := fun m => Reachable env a m ∧ m.toMrpConf = mrp.toMrpConf)
    (fun m e hm => ⟨hm.1.goOn [e], (m.step_toMrpConf e).trans hm.2⟩) ?_ ⟨⟨mrp, [], h, rfl⟩, rfl⟩
  rintro m e ⟨hreach, hconf⟩ hfits
  cases hev : m.roundEvent side e with
  | request time => exact Mrp.onTime_of_request hev hfits
  | tick =>
      have hactive := Mrp.active_of_tick hev
      have hmax := (hreach.isSet side).1
      have hleft := UInt32.le_iff_toNat_le.mp (hreach.left_le side)
      refine Mrp.onTime_of_tick hev (hreach.interval_of_active hactive) ?_
      rw [hmax] at hleft
      rw [← hconf, hmax] at hfit
      refine Nat.lt_of_le_of_lt (Nat.mul_le_mul_right _ ?_) hfit
      exact Nat.le_trans hleft (by decide)
  | cancel => exact Mrp.onTime_of_quiet (.inl hev)
  | silent => exact Mrp.onTime_of_quiet (.inr hev)

/-- A manager announces the loss of its primary link on time. -/
theorem announcements_on_time_sample :
    (Sample.mrp ringRoleMrm 0).announced .ringTopo = [] ∧
      Guarded Mrp.step (Mrp.OnTime .ring) (Sample.mrp ringRoleMrm 0)
        [.linkChange (.ring .primary) false] := by
  have hev : (Sample.mrp ringRoleMrm 0).roundEvent .ring (.linkChange (.ring .primary) false) =
      .request 20000 := by
    decide +kernel
  refine announcements_on_time (Sample.created (by decide +kernel)) .ring (by decide +kernel)
    ⟨?_, trivial⟩
  intro time htime _
  rw [hev] at htime
  cases htime
  decide +kernel

/-- A manager in the middle of a round, with both links up again. -/
def Sample.recovered : Mrp :=
  run Mrp.step Sample.changed [.expired .ringTopo, .linkChange (.ring .primary) true]

theorem Sample.reachable_recovered : Reachable env (args ringRoleMrm 0) recovered :=
  reachable_changed.goOn _

/-- If the manager loses its primary link again before the round is over, it announces
three intervals, but the second expiry flushes. -/
theorem announcement_early :
    Reachable Sample.env (Sample.args ringRoleMrm 0) Sample.recovered ∧
      ¬ Mrp.OnTime .ring Sample.recovered (.linkChange (.ring .secondary) false) := by
  refine ⟨Sample.reachable_recovered, ?_⟩
  rintro ⟨new, hsent, hnew⟩
  have hsent' : (Sample.recovered.step (.linkChange (.ring .secondary) false)).announced .ringTopo =
      [(.ring .primary, 60000)] ++ Sample.recovered.announced .ringTopo := by
    decide +kernel
  have hone : new = [(.ring .primary, 60000)] :=
    List.append_cancel_right (hsent.symm.trans hsent')
  rcases (hnew (.ring .primary, 60000) (by simp [hone])).2 (by decide) with ⟨k, hafter, hk⟩
  have hinterval : (Sample.recovered.roundConf .ring).interval.toNat = 20000 := by decide +kernel
  have hkthree : k = 3 := by
    rw [hinterval] at hk
    have : k * 20000 = 60000 := hk.symm
    omega
  have hflush : ¬ (run Mrp.step (Sample.recovered.step (.linkChange (.ring .secondary) false))
      (List.replicate 2 (.expired .ringTopo))).flushes =
      (Sample.recovered.step (.linkChange (.ring .secondary) false)).flushes := by
    decide +kernel
  exact hflush ((hafter 2).mpr (by omega))

end Umrp
