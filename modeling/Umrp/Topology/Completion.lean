import Umrp.Creation
import Umrp.Topology.Simulation

/-!
# Topology rounds complete

An instance starts without a round.  From then on the flag of the ring tells whether its
timer runs, and the counter of a round stays below the number of announcements, so that a
round that is left alone comes to its end.
-/

namespace Umrp

open EventMachine

/-! ## Creation -/

/-- What a recovery profile sets for a round: the number of announcements and the counter,
and with the default time factor the interval. -/
structure RoundConf.IsSet (timeFactor : UInt32) (c : RoundConf) (left : UInt32) : Prop where
  max : c.max = 3
  left : left = 2
  interval : timeFactor = 1 → c.interval ∈ [20000, 10000, 500]

/-- The default time factor changes no interval. -/
theorem RoundConf.IsSet.scale {timeFactor interval max left : UInt32}
    (h : RoundConf.IsSet timeFactor ⟨interval, max⟩ left) :
    RoundConf.IsSet timeFactor ⟨interval * timeFactor, max⟩ left where
  max := h.max
  left := h.left
  interval := by
    rintro rfl
    simpa using h.interval rfl

/-- Every ring profile sets up a round. -/
theorem ringProfile_isSet {ringRecv : UInt8} {pr : RingProfile}
    (h : ringProfile ringRecv = some pr) (timeFactor : UInt32) :
    RoundConf.IsSet timeFactor ⟨pr.topoInterval, pr.topoMax⟩ (pr.topoMax - 1) := by
  unfold ringProfile at h
  repeat' split at h
  all_goals cases h
  all_goals exact ⟨rfl, rfl, fun _ => by decide⟩

/-- Every interconnection profile sets up a round. -/
theorem inProfile_isSet {inRecv : UInt8} {pr : InProfile} (h : inProfile inRecv = some pr)
    (timeFactor : UInt32) :
    RoundConf.IsSet timeFactor ⟨pr.topoInterval, pr.topoMax⟩ (pr.topoMax - 1) := by
  unfold inProfile at h
  repeat' split at h
  all_goals cases h
  all_goals exact ⟨rfl, rfl, fun _ => by decide⟩

/-- Nothing was announced and the timer does not run. -/
structure Round.Idle (x : Round) : Prop where
  timer : x.timer.active = false
  running : x.running ≠ some true
  sent : x.sent = []

/-- Stopping the timer of an idle round. -/
theorem Round.Idle.cancel {x : Round} (h : x.Idle) : x.cancel.Idle where
  timer := rfl
  running := by
    simp only [Round.cancel]
    cases x.running <;> simp
  sent := h.sent

namespace Mrp

/-- No round was started yet, and the settings of a recovery profile are in place. -/
structure NoRound (timeFactor : UInt32) (mrp : Mrp) : Prop where
  idle : ∀ side, (mrp.round side).Idle
  isSet : ∀ side, RoundConf.IsSet timeFactor (mrp.roundConf side) (mrp.round side).left

namespace NoRound

variable {timeFactor : UInt32} {a b : Mrp}

theorem of_eq (h : a.NoRound timeFactor) (hconf : b.roundConf = a.roundConf)
    (hround : b.round = a.round) : b.NoRound timeFactor where
  idle := by rw [hround]; exact h.idle
  isSet := by rw [hconf, hround]; exact h.isSet

/-- An event that leaves both rounds alone. -/
theorem of_takes (h : a.NoRound timeFactor) (hconf : b.toMrpConf = a.toMrpConf)
    (htakes : ∀ side, Takes side .silent a b) : b.NoRound timeFactor :=
  h.of_eq (by rw [hconf]) (funext fun side => (htakes side).round)

/-- A recovery profile sets up the rounds, and an unknown one leaves them set up. -/
theorem updateRecovery (ringRecv inRecv : UInt8) (hidle : ∀ side, (a.round side).Idle)
    (hring : ringProfile ringRecv = none →
      RoundConf.IsSet timeFactor (a.roundConf .ring) (a.round .ring).left)
    (hin : inProfile inRecv = none →
      RoundConf.IsSet timeFactor (a.roundConf .inter) (a.round .inter).left) :
    (a.updateRecovery timeFactor ringRecv inRecv).NoRound timeFactor := by
  have hround : ∀ side, (a.updateRecovery timeFactor ringRecv inRecv).round side =
      { a.round side with
        left := ((a.updateRecovery timeFactor ringRecv inRecv).round side).left } := by
    intro side
    unfold Mrp.updateRecovery
    cases ringProfile ringRecv <;> cases inProfile inRecv <;> cases side <;> rfl
  constructor
  · intro side
    rw [hround side]
    exact ⟨(hidle side).timer, (hidle side).running, (hidle side).sent⟩
  · intro side
    unfold Mrp.updateRecovery
    cases side with
    | ring =>
        cases hr : ringProfile ringRecv with
        | none => cases inProfile inRecv <;> exact (hring hr).scale
        | some pr => cases inProfile inRecv <;> exact (ringProfile_isSet hr timeFactor).scale
    | inter =>
        cases hi : inProfile inRecv with
        | none => cases ringProfile ringRecv <;> exact (hin hi).scale
        | some pr => cases ringProfile ringRecv <;> exact (inProfile_isSet hi timeFactor).scale

end NoRound

/-- A configured instance has not announced anything. -/
theorem configure_noRound (env : Env) (a : AddArgs) :
    (configure env a).NoRound env.timeFactor := by
  have hzeroed : ∀ side, ((zeroed env.clock).round side).Idle := by
    intro side
    cases side <;> exact ⟨rfl, by simp [round, zeroed], rfl⟩
  have hcreate : (create env a.brIfindex a.ringNr a.inId).NoRound env.timeFactor := by
    refine NoRound.of_eq (NoRound.updateRecovery (a := { zeroed env.clock with
      ifindex := a.brIfindex, ringNr := a.ringNr, inId := a.inId, ringRole := .mrc,
      inRole := .disabled, prio := 0x8000 }) 0 0 hzeroed ?_ ?_) rfl rfl
    · intro h
      simp [ringProfile] at h
    · intro h
      simp [inProfile] at h
  have hsettings : (applySettings env a).NoRound env.timeFactor :=
    NoRound.of_eq (NoRound.updateRecovery
      (a := (create env a.brIfindex a.ringNr a.inId).setPrio a.prio) a.ringRecv a.inRecv
      hcreate.idle (fun _ => hcreate.isSet .ring) fun _ => hcreate.isSet .inter) rfl rfl
  have hports : ((applySettings env a).initPorts env a).NoRound env.timeFactor := by
    refine hsettings.of_eq ?_ ?_
    · rw [(initPorts_keeps _ env a).1]
    · simp only [initPorts]
      split <;> rfl
  simp only [configure]
  split
  · refine hports.of_eq ?_ ?_
    · simp only [startCfm]
      split <;> rfl
    · simp only [startCfm]
      split <;> rfl
  · exact hports

section Reset

attribute [local simp] call clearFdbStop ringTopoStop ringLinkUpStop ringLinkDownStop ringTestStop
  inTopoStop inLinkUpStop inLinkDownStop inTestStop inLinkStatusStop cfmCcmStop

theorem resetRingState_toMrpConf (mrp : Mrp) : mrp.resetRingState.toMrpConf = mrp.toMrpConf := by
  unfold resetRingState timerStop
  dsimp only
  repeat' split
  all_goals simp

/-- Resetting the ring at most stops the timers. -/
theorem resetRingState_round (mrp : Mrp) (side : TopoSide) :
    mrp.resetRingState.round side = (mrp.round side).cancel ∨
      mrp.resetRingState.round side = mrp.round side := by
  have hsent : ∀ type, mrp.resetRingState.announced type = mrp.announced type := by
    intro type
    simp only [announced, sentOf, resetRingState_sent]
  have hring : mrp.resetRingState.ringTopoWork = mrp.ringTopoWork.stop ∧
      mrp.resetRingState.ringTopoRunning = false ∧
      mrp.resetRingState.ringTopoCurrMax = mrp.ringTopoCurrMax := by
    unfold resetRingState timerStop
    dsimp only
    repeat' split
    all_goals simp
  have hinter : (mrp.resetRingState.inTopoWork = mrp.inTopoWork.stop ∨
      mrp.resetRingState.inTopoWork = mrp.inTopoWork) ∧
      mrp.resetRingState.inTopoCurrMax = mrp.inTopoCurrMax := by
    unfold resetRingState timerStop
    dsimp only
    repeat' split
    all_goals simp
  cases side with
  | ring =>
      left
      simp only [round, Round.cancel, hring, hsent]
      rfl
  | inter =>
      rcases hinter with ⟨hwork | hwork, hleft⟩
      · left
        simp only [round, Round.cancel, hwork, hleft, hsent]
        rfl
      · right
        simp only [round, hwork, hleft, hsent]

end Reset

/-- A link that comes up requests nothing. -/
theorem portRound_up (mrp : Mrp) (p : Port) (side : TopoSide) :
    mrp.portRound p true side = .silent := by
  cases p <;> cases side <;> simp [portRound, ringLinkRound, inLinkRound]

/-- Creating an instance starts no round. -/
theorem noRound_keptByRoles (timeFactor : UInt32) : KeptByRoles (NoRound timeFactor) where
  mraSupport := fun _ h => h.of_eq rfl rfl
  resetRingState := by
    intro m h
    have hconf : m.resetRingState.roundConf = m.roundConf := by
      rw [m.resetRingState_toMrpConf]
    constructor
    · intro side
      rcases m.resetRingState_round side with hround | hround
      · rw [hround]
        exact (h.idle side).cancel
      · rw [hround]
        exact h.idle side
    · intro side
      have hset := h.isSet side
      rcases m.resetRingState_round side with hround | hround
      · rw [hconf, hround]
        exact hset
      · rw [hconf, hround]
        exact hset
  setMrmInit := fun _ h => h.of_eq rfl rfl
  setMrcInit := fun _ h => h.of_eq rfl rfl
  setMrmState := fun _ h => h.of_eq rfl rfl
  setMrcState := fun _ h => h.of_eq rfl rfl
  portSetState := by
    intro m p state h
    exact h.of_eq (congrArg Topo.conf (m.topo_portSetState p state))
      (congrArg Topo.round (m.topo_portSetState p state))
  setRingRole := fun _ _ h => h.of_eq rfl rfl
  setInRole := fun _ _ h => h.of_eq rfl rfl
  portLinkChange := by
    intro m p h
    refine h.of_takes (m.portLinkChange_op p true).toMrpConf fun side => ?_
    rw [← m.portRound_up p side]
    exact m.portLinkChange_takes p true side
  cfmLinkChange := by
    intro m h
    refine h.of_takes (m.cfmLinkChange_op false).toMrpConf fun side => ?_
    have hsilent : m.roundEvent side (.cfmLinkChange false) = .silent := by
      cases side with
      | ring => rfl
      | inter =>
          simp only [roundEvent, linkRound, interEvent]
          by_cases hport : m.iPort.isSome = true <;> simp [hport, inLinkRound]
    rw [← hsilent]
    exact m.cfmLinkChange_takes false side

end Mrp

/-- A created instance has not announced a topology change. -/
theorem Created.noRound {env : Env} {a : AddArgs} {mrp : Mrp} (h : Created env a mrp) :
    mrp.NoRound env.timeFactor :=
  (Mrp.noRound_keptByRoles env.timeFactor).created (Mrp.configure_noRound env a) h

/-! ## The countdown behind a round -/

namespace Round

/-- The countdown behind a round. -/
def clock (x : Round) : Countdown.Clock := ⟨x.timer.active, x.left.toNat⟩

/-- What an event of a round is to its countdown.  A request for a later time starts the
timer, unless the interval is zero. -/
def Event.clock (c : RoundConf) : Event → Countdown.Event
  | .request time => if time = 0 then .silent else if c.interval = 0 then .stop else .start
  | .tick => .tick
  | .cancel => .stop
  | .silent => .silent

variable {c : RoundConf} {x : Round}

/-- The countdown follows the round. -/
theorem clock_step (ports : List Port) {ev : Event} (h : ev = .tick → x.timer.active = true) :
    (x.step c ports ev).clock = x.clock.step (c.max - 1).toNat (ev.clock c) := by
  cases ev with
  | request time =>
      simp only [step, request, Event.clock]
      by_cases htime : time = 0
      · simp [htime, clock, announce, Countdown.Clock.step]
      · by_cases hinterval : c.interval = 0 <;>
          simp [htime, hinterval, clock, announce, start, Countdown.Clock.step]
  | tick =>
      have hactive := h rfl
      simp only [step, tick, Event.clock]
      by_cases hleft : x.left > 0
      · have hpos : 0 < x.left.toNat := UInt32.lt_iff_toNat_lt.mp hleft
        have hone : (1 : UInt32) ≤ x.left := by
          rw [UInt32.le_iff_toNat_le]
          exact hpos
        simp [hleft, clock, announce, Countdown.Clock.step, hactive, hpos,
          UInt32.toNat_sub_of_le _ _ hone]
      · have hzero : ¬ 0 < x.left.toNat := fun hpos => hleft (UInt32.lt_iff_toNat_lt.mpr hpos)
        simp [hleft, clock, announce, cancel, Countdown.Clock.step, hactive, hzero]
  | cancel => simp [step, cancel, clock, Event.clock, Countdown.Clock.step]
  | silent => rfl

/-- The flag tells whether the timer runs, and the counter is in range. -/
structure Sound (c : RoundConf) (x : Round) : Prop where
  running : ∀ b, x.running = some b → b = x.timer.active
  left : x.left ≤ c.max - 1

/-- The counter stays in range. -/
theorem left_le_step (hx : x.left ≤ c.max - 1) (ports : List Port) {ev : Event}
    (h : ev = .tick → x.timer.active = true) : (x.step c ports ev).left ≤ c.max - 1 := by
  have hclock := clock_step (c := c) ports h
  have hle := Countdown.Clock.left_le_step (c := x.clock) (UInt32.le_iff_toNat_le.mp hx) (ev.clock c)
  rw [← hclock] at hle
  exact UInt32.le_iff_toNat_le.mpr hle

/-- Every event keeps a round sound, if the timer has an interval. -/
theorem Sound.step (hx : x.Sound c) (hinterval : c.interval ≠ 0) (ports : List Port) {ev : Event}
    (h : ev = .tick → x.timer.active = true) : (x.step c ports ev).Sound c where
  running := by
    cases ev with
    | request time =>
        simp only [Round.step, request]
        split
        · exact hx.running
        · simp [start, hinterval]
    | tick =>
        simp only [Round.step, tick]
        split
        · exact hx.running
        · simp [cancel]
    | cancel => simp [Round.step, cancel]
    | silent => exact hx.running
  left := left_le_step hx.left ports h

end Round

/-! ## Runs -/

namespace Mrp

theorem round_sent (mrp : Mrp) (side : TopoSide) :
    (mrp.round side).sent = mrp.announced side.type := by
  cases side <;> rfl

theorem round_timer (mrp : Mrp) (side : TopoSide) :
    (mrp.round side).timer = mrp.timer side.timer := by
  cases side <;> rfl

/-- A tick comes from an active timer. -/
theorem active_of_tick {mrp : Mrp} {side : TopoSide} {e : Event}
    (h : mrp.roundEvent side e = .tick) : (mrp.round side).timer.active = true := by
  rw [roundEvent_eq_tick] at h
  cases e with
  | expired w =>
      simp only [expires, Bool.and_eq_true, decide_eq_true_eq] at h
      cases side <;> exact h.2
  | _ => simp [expires] at h

/-- What every event of a round keeps is kept along a run. -/
theorem run_round_invariant {mrp : Mrp} {side : TopoSide} {I : Round → Prop}
    (hstep : ∀ x ports ev, I x → (ev = .tick → x.timer.active = true) →
      I (x.step (mrp.roundConf side) ports ev))
    (h : I (mrp.round side)) (es : List Event) : I ((run step mrp es).round side) := by
  refine (run_invariant (I := fun m : Mrp => m.toMrpConf = mrp.toMrpConf ∧ I (m.round side)) ?_
    ⟨rfl, h⟩ es).2
  rintro m e ⟨hconf, hm⟩
  refine ⟨(m.step_toMrpConf e).trans hconf, ?_⟩
  rw [(m.step_takes side e).round, hconf]
  exact hstep _ _ _ hm active_of_tick

/-- The countdown of a round follows the instance. -/
theorem clock_step (mrp : Mrp) (side : TopoSide) (e : Event) :
    ((mrp.step e).round side).clock =
      (mrp.round side).clock.step ((mrp.roundConf side).max - 1).toNat
        ((mrp.roundEvent side e).clock (mrp.roundConf side)) := by
  rw [(mrp.step_takes side e).round]
  exact Round.clock_step _ active_of_tick

/-- The countdown of a round runs along with the instance. -/
theorem clock_run (mrp : Mrp) (side : TopoSide) (es : List Event) :
    ((run step mrp es).round side).clock =
      run (Countdown.Clock.step ((mrp.roundConf side).max - 1).toNat) (mrp.round side).clock
        ((trace step (fun m e => m.roundEvent side e) mrp es).map
          (Round.Event.clock (mrp.roundConf side))) := by
  rw [← trace_map]
  exact run_trace (I := fun m : Mrp => m.toMrpConf = mrp.toMrpConf)
    (f := fun m : Mrp => (m.round side).clock) (fun m e hm => (m.step_toMrpConf e).trans hm)
    (fun m e hm => hm ▸ m.clock_step side e) rfl es

/-- Nothing requests or cancels a round during these events. -/
def LeftAlone (side : TopoSide) (mrp : Mrp) (es : List Event) : Prop :=
  ∀ ev ∈ trace step (fun m e => m.roundEvent side e) mrp es, ev = .tick ∨ ev = .silent

instance (side : TopoSide) (mrp : Mrp) (es : List Event) : Decidable (LeftAlone side mrp es) :=
  inferInstanceAs (Decidable (∀ ev ∈ trace step (fun m e => m.roundEvent side e) mrp es,
    ev = .tick ∨ ev = .silent))

/-- How often the timer of a round expires during these events. -/
def ticks (side : TopoSide) (mrp : Mrp) (es : List Event) : Nat :=
  (trace step (fun m e => m.roundEvent side e) mrp es).count .tick

section LeftAlone

variable {mrp : Mrp} {side : TopoSide} {es : List Event} (h : LeftAlone side mrp es)

include h

/-- What a round that is left alone is to its countdown. -/
theorem LeftAlone.undisturbed :
    ∀ ev ∈ (trace step (fun m e => m.roundEvent side e) mrp es).map
      (Round.Event.clock (mrp.roundConf side)), Countdown.Clock.Undisturbed ev := by
  simp only [List.forall_mem_map]
  intro ev hev
  rcases h ev hev with rfl | rfl
  · exact .inl rfl
  · exact .inr rfl

theorem LeftAlone.count_clock :
    ((trace step (fun m e => m.roundEvent side e) mrp es).map
      (Round.Event.clock (mrp.roundConf side))).count .tick = ticks side mrp es := by
  unfold LeftAlone at h
  unfold ticks
  generalize trace step (fun m e => m.roundEvent side e) mrp es = evs at h ⊢
  induction evs with
  | nil => rfl
  | cons ev evs ih =>
      rw [List.forall_mem_cons] at h
      rw [List.map_cons, List.count_cons, List.count_cons, ih h.2]
      rcases h.1 with rfl | rfl <;> rfl

/-- A round that is left alone ends in time. -/
theorem LeftAlone.ticks_le : ticks side mrp es ≤ (mrp.round side).left.toNat + 1 := by
  have hen : Guarded (Countdown.Clock.step ((mrp.roundConf side).max - 1).toNat)
      Countdown.Clock.Enabled (mrp.round side).clock
      ((trace step (fun m e => m.roundEvent side e) mrp es).map
        (Round.Event.clock (mrp.roundConf side))) := by
    rw [← trace_map]
    refine guarded_trace (I := fun m : Mrp => m.toMrpConf = mrp.toMrpConf)
      (f := fun m : Mrp => (m.round side).clock) (fun m e hm => (m.step_toMrpConf e).trans hm)
      (fun m e hm => hm ▸ m.clock_step side e) ?_ rfl es
    intro m e hconf htick
    cases hev : m.roundEvent side e with
    | request time =>
        rw [hev] at htick
        simp only [Round.Event.clock] at htick
        repeat' split at htick
        all_goals cases htick
    | tick => exact active_of_tick hev
    | cancel =>
        rw [hev] at htick
        cases htick
    | silent =>
        rw [hev] at htick
        cases htick
  rw [← h.count_clock]
  exact Countdown.Clock.ticks_le h.undisturbed hen

/-- Where a round stands that was left alone. -/
theorem LeftAlone.clock (hactive : (mrp.round side).timer.active = true) :
    ((run step mrp es).round side).clock =
      if ticks side mrp es ≤ (mrp.round side).left.toNat then
        ⟨true, (mrp.round side).left.toNat - ticks side mrp es⟩
      else ⟨false, ((mrp.roundConf side).max - 1).toNat⟩ := by
  rw [clock_run, Countdown.Clock.run_ticks hactive h.undisturbed, h.count_clock]
  simp only [Round.clock, hactive]

end LeftAlone

/-- An expiry leaves the ports alone. -/
theorem topoPorts_step_tick {mrp : Mrp} {side : TopoSide} {e : Event}
    (h : mrp.expires side.timer e = true) : (mrp.step e).topoPorts side = mrp.topoPorts side := by
  cases e with
  | expired w =>
      simp only [expires, Bool.and_eq_true, decide_eq_true_eq] at h
      rcases h with ⟨rfl, hactive⟩
      rw [step, if_pos hactive, ← topo_ports, ← topo_ports]
      cases side with
      | ring => exact congrFun (congrArg Topo.ports mrp.topo_ringTopoExpired) .ring
      | inter => exact congrFun (congrArg Topo.ports mrp.topo_inTopoExpired) .inter
  | _ => simp [expires] at h

/-- What an expiry announces. -/
theorem announced_step_tick {mrp : Mrp} {side : TopoSide} {e : Event}
    (h : mrp.expires side.timer e = true) :
    (mrp.step e).announced side.type =
      ((mrp.topoPorts side).map fun p =>
        (p, (mrp.round side).left * (mrp.roundConf side).interval)).reverse ++
      mrp.announced side.type := by
  have hround := (mrp.step_takes side e).round
  rw [mrp.roundEvent_eq_tick.mpr h, topoPorts_step_tick h] at hround
  rw [← round_sent, ← round_sent, hround]
  simp only [Round.step, Round.tick]
  split
  · rfl
  next hleft =>
    have hzero : (mrp.round side).left = 0 := by simpa [UInt32.pos_iff_ne_zero] using hleft
    simp [hzero, Round.cancel, Round.announce]

end Mrp

/-- The settings of a reachable instance are those of a recovery profile. -/
theorem Reachable.isSet {env : Env} {a : AddArgs} {mrp : Mrp} (h : Reachable env a mrp)
    (side : TopoSide) :
    (mrp.roundConf side).max = 3 ∧
      (env.timeFactor = 1 → (mrp.roundConf side).interval ∈ [20000, 10000, 500]) := by
  rcases h with ⟨m, es, hm, rfl⟩
  rw [run_toMrpConf]
  have hset := hm.noRound.isSet side
  exact ⟨hset.max, hset.interval⟩

/-- The counter of a round stays in range. -/
theorem Reachable.left_le {env : Env} {a : AddArgs} {mrp : Mrp} (h : Reachable env a mrp)
    (side : TopoSide) : (mrp.round side).left ≤ (mrp.roundConf side).max - 1 := by
  rcases h with ⟨m, es, hm, rfl⟩
  have hset := hm.noRound.isSet side
  rw [run_toMrpConf]
  refine Mrp.run_round_invariant (I := fun x => x.left ≤ (m.roundConf side).max - 1)
    (fun x ports ev hx htick => Round.left_le_step hx ports htick) ?_ es
  rw [hset.max, hset.left]
  decide

/-- With the default time factor a round has an interval. -/
theorem Reachable.interval_ne_zero {env : Env} {a : AddArgs} {mrp : Mrp}
    (h : Reachable env a mrp) (htf : env.timeFactor = 1) (side : TopoSide) :
    (mrp.roundConf side).interval ≠ 0 := by
  have hinterval := (h.isSet side).2 htf
  simp only [List.mem_cons, List.not_mem_nil, or_false] at hinterval
  rcases hinterval with hi | hi | hi <;> rw [hi] <;> decide

/-- With the default time factor the rounds are sound. -/
theorem Reachable.sound {env : Env} {a : AddArgs} {mrp : Mrp} (h : Reachable env a mrp)
    (htf : env.timeFactor = 1) (side : TopoSide) :
    (mrp.round side).Sound (mrp.roundConf side) := by
  have hinterval := h.interval_ne_zero htf side
  rcases h with ⟨m, es, hm, rfl⟩
  have hset := hm.noRound.isSet side
  have hidle := hm.noRound.idle side
  rw [run_toMrpConf] at hinterval ⊢
  refine Mrp.run_round_invariant (I := Round.Sound (m.roundConf side))
    (fun x ports ev hx htick => hx.step hinterval ports htick) ?_ es
  constructor
  · intro b hb
    rw [hidle.timer]
    cases b with
    | true => exact absurd hb hidle.running
    | false => rfl
  · rw [hset.max, hset.left]
    decide

/-- Where a round stands that had `k` announcements before the last one to go when it was
left alone, and whose timer has expired `n` times since. -/
structure Mrp.Progress (side : TopoSide) (k n : Nat) (mrp : Mrp) : Prop where
  le : n ≤ k + 1
  goesOn : n ≤ k → (mrp.timer side.timer).active = true ∧ (mrp.round side).left.toNat = k - n
  finished : n = k + 1 → (mrp.timer side.timer).active = false ∧
    (mrp.round side).left = (mrp.roundConf side).max - 1
  quiet : ∀ e, mrp.roundEvent side e = .silent →
    (mrp.step e).announced side.type = mrp.announced side.type
  announces : ∀ e, mrp.expires side.timer e = true →
    n ≤ k ∧ (mrp.step e).announced side.type =
      ((mrp.topoPorts side).map fun p =>
        (p, (mrp.round side).left * (mrp.roundConf side).interval)).reverse ++
      mrp.announced side.type
  nonzero : n ≤ k → ((mrp.round side).left * (mrp.roundConf side).interval = 0 ↔ n = k)
  flushes : ∀ e, mrp.expires side.timer e = true →
    (mrp.step e).flushes = mrp.flushes + if n = k then 1 else 0

/-- With the default time factor an announcement carries the time zero only if nothing is
left of the round. -/
theorem Reachable.time_eq_zero {env : Env} {a : AddArgs} {mrp : Mrp} (h : Reachable env a mrp)
    (htf : env.timeFactor = 1) (side : TopoSide) :
    (mrp.round side).left * (mrp.roundConf side).interval = 0 ↔ (mrp.round side).left.toNat = 0 := by
  have hle := h.left_le side
  have hset := h.isSet side
  have hinterval := hset.2 htf
  rw [hset.1] at hle
  simp only [List.mem_cons, List.not_mem_nil, or_false] at hinterval
  have hle' : (mrp.round side).left.toNat ≤ 2 := UInt32.le_iff_toNat_le.mp hle
  have hleft : (mrp.round side).left = 0 ∨ (mrp.round side).left = 1 ∨
      (mrp.round side).left = 2 := by
    simp only [← UInt32.toNat_inj, UInt32.toNat_zero, UInt32.toNat_one, UInt32.reduceToNat]
    omega
  rcases hleft with hl | hl | hl
  · simp [hl]
  · rcases hinterval with hi | hi | hi <;> rw [hl, hi] <;> decide
  · rcases hinterval with hi | hi | hi <;> rw [hl, hi] <;> decide

/-- A round that is left alone makes progress. -/
theorem Mrp.LeftAlone.progress {mrp : Mrp} {side : TopoSide} {es : List Event}
    (h : LeftAlone side mrp es) (hactive : (mrp.timer side.timer).active = true)
    (hzero : ((run step mrp es).round side).left * ((run step mrp es).roundConf side).interval = 0 ↔
      ((run step mrp es).round side).left.toNat = 0) :
    Progress side (mrp.round side).left.toNat (ticks side mrp es) (run step mrp es) := by
  have hconf : (run step mrp es).roundConf = mrp.roundConf := by rw [run_toMrpConf]
  have hclock := h.clock (by rwa [round_timer])
  have hle := h.ticks_le
  have hgoes : ticks side mrp es ≤ (mrp.round side).left.toNat →
      ((run step mrp es).timer side.timer).active = true ∧
        ((run step mrp es).round side).left.toNat =
          (mrp.round side).left.toNat - ticks side mrp es := by
    intro hn
    rw [if_pos hn] at hclock
    rw [← round_timer]
    exact ⟨congrArg Countdown.Clock.running hclock, congrArg Countdown.Clock.left hclock⟩
  have hover : ¬ ticks side mrp es ≤ (mrp.round side).left.toNat →
      ((run step mrp es).timer side.timer).active = false ∧
        ((run step mrp es).round side).left = (mrp.roundConf side).max - 1 := by
    intro hn
    rw [if_neg hn] at hclock
    rw [← round_timer]
    exact ⟨congrArg Countdown.Clock.running hclock,
      UInt32.toNat_inj.mp (congrArg Countdown.Clock.left hclock)⟩
  have hexpires : ∀ e, (run step mrp es).expires side.timer e = true →
      ticks side mrp es ≤ (mrp.round side).left.toNat := by
    intro e he
    by_contra hn
    have hact := active_of_tick ((run step mrp es).roundEvent_eq_tick.mpr he)
    rw [round_timer, (hover hn).1] at hact
    cases hact
  constructor
  · exact hle
  · exact hgoes
  · intro hn
    rw [hconf]
    exact hover (by omega)
  · intro e he
    have hround := ((run step mrp es).step_takes side e).round
    rw [he] at hround
    rw [← round_sent, ← round_sent, hround]
    rfl
  · intro e he
    exact ⟨hexpires e he, announced_step_tick he⟩
  · intro hn
    rw [hzero, (hgoes hn).2]
    omega
  · intro e he
    have hn := hexpires e he
    have hleft := (hgoes hn).2
    rw [step_flushes_tick _ he]
    have hiff : ((run step mrp es).round side).left = 0 ↔
        ticks side mrp es = (mrp.round side).left.toNat := by
      rw [← UInt32.toNat_inj, hleft]
      simp only [UInt32.toNat_zero]
      omega
    simp only [hiff]

/-- With the default time factor the flag of the ring tells whether its timer is active and
the counters stay below the number of announcements.  A round that neither a request nor a
NACK disturbs ends after as many expiries as its counter says and one more: each announces
the change with the time that is left, the last one alone with zero and with a flush, and
then the timer is inactive and the counter back at its full value. -/
theorem topology_round_completes {env : Env} {a : AddArgs} {mrp : Mrp} (h : Reachable env a mrp)
    (htf : env.timeFactor = 1) :
    mrp.ringTopoRunning = mrp.ringTopoWork.active ∧
      ∀ side, (mrp.round side).left ≤ (mrp.roundConf side).max - 1 ∧
        ((mrp.timer side.timer).active = true → ∀ es, Mrp.LeftAlone side mrp es →
          Mrp.Progress side (mrp.round side).left.toNat (Mrp.ticks side mrp es)
            (run Mrp.step mrp es)) := by
  refine ⟨(h.sound htf .ring).running _ rfl, fun side => ⟨h.left_le side, ?_⟩⟩
  intro hactive es hes
  exact hes.progress hactive ((h.goOn es).time_eq_zero htf side)

/-- A manager that has lost its primary link. -/
def Sample.changed : Mrp :=
  run Mrp.step (Sample.mrp ringRoleMrm 0) [.linkChange (.ring .primary) false]

theorem Sample.reachable_changed : Reachable env (args ringRoleMrm 0) changed :=
  (reachable (by decide +kernel)).goOn _

/-- The manager announces the change of topology three more times. -/
theorem topology_round_completes_sample :
    (Sample.changed.timer .ringTopo).active = true ∧
      Mrp.Progress .ring (Sample.changed.round .ring).left.toNat 3
        (run Mrp.step Sample.changed
          [.expired .ringTopo, .expired .ringTopo, .expired .ringTopo]) := by
  have hactive : (Sample.changed.timer .ringTopo).active = true := by decide +kernel
  have hticks : Mrp.ticks .ring Sample.changed
      [.expired .ringTopo, .expired .ringTopo, .expired .ringTopo] = 3 := by
    decide +kernel
  have hprogress := ((topology_round_completes Sample.reachable_changed rfl).2 .ring).2 hactive
    [.expired .ringTopo, .expired .ringTopo, .expired .ringTopo] (by decide +kernel)
  rw [hticks] at hprogress
  exact ⟨hactive, hprogress⟩

end Umrp
