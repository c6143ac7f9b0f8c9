import Umrp.Links.Phase

/-!
# Clients that announce a link change

A client starts an announcement in one of its link handlers, in a state of its own and with
a counter that is set anew.  From there on the machine of its side does nothing but count,
until the last expiry takes it to the state after the announcement.

Main results:

- Theorem `Mrp.IsClient.starts`: with which countdown and which frames an announcement starts.
- Theorem `Mrp.IsClient.linkClock_step`: a calm event is a tick of the countdown, or nothing.
- Theorems `Mrp.IsClient.announcing_step` and `Mrp.IsClient.settled_step`: what it does to the
  state of the client.
-/

namespace Umrp

open EventMachine

/-! ## Countdowns of the two machines -/

/-- The client state in which a link change is announced. -/
def MrcState.announcing : Bool → MrcState
  | true => .pt
  | false => .de

/-- The client state after the announcement. -/
def MrcState.settled : Bool → MrcState
  | true => .ptIdle
  | false => .deIdle

/-- The state of an interconnection client in which a link change is announced. -/
def MicState.announcing : Bool → MicState
  | true => .pt
  | false => .acStat1

/-- The state of an interconnection client after the announcement. -/
def MicState.settled : Bool → MicState
  | true => .ipIdle
  | false => .acStat1

/-- The countdown of an announcement in the ring machine. -/
def Ring.linkClock (x : Ring) : Bool → Countdown.Clock
  | true => ⟨x.linkUp, x.count.toNat⟩
  | false => ⟨x.linkDown, x.count.toNat⟩

/-- The countdown of an announcement in the interconnection machine. -/
def Inter.linkClock (x : Inter) : Bool → Countdown.Clock
  | true => ⟨x.linkUp, x.count.toNat⟩
  | false => ⟨x.linkDown, x.count.toNat⟩

/-- A tick of a counter that is kept in a machine word. -/
theorem Countdown.Clock.tick_eq (max count : UInt32) :
    (⟨decide (count > 0), (if count > 0 then count - 1 else max).toNat⟩ : Countdown.Clock) =
      Countdown.Clock.step max.toNat ⟨true, count.toNat⟩ .tick := by
  by_cases hleft : count > 0
  · have hpos : 0 < count.toNat := UInt32.lt_iff_toNat_lt.mp hleft
    have hone : (1 : UInt32) ≤ count := UInt32.le_iff_toNat_le.mpr hpos
    simp [hleft, hpos, Countdown.Clock.step, UInt32.toNat_sub_of_le _ _ hone]
  · have hzero : ¬ 0 < count.toNat := fun hpos => hleft (UInt32.lt_iff_toNat_lt.mpr hpos)
    simp [hleft, hzero, Countdown.Clock.step]

namespace Ring

variable {c : LinkConf} {x : Ring} {up : Bool}

/-- A tick of the ring machine is a tick of its countdown. -/
theorem linkClock_tick (hruns : c.runs = true) (hrun : (x.linkClock up).running = true) :
    (x.step c (.ofTick up)).linkClock up = (x.linkClock up).step c.max.toNat .tick := by
  have htick := Countdown.Clock.tick_eq c.max x.count
  cases up with
  | true =>
      have hlink : x.linkUp = true := hrun
      simp only [linkClock, hlink]
      rw [← htick]
      by_cases hleft : x.count > 0 <;> simp [Event.ofTick, step, upTick, hleft, hruns]
  | false =>
      have hlink : x.linkDown = true := hrun
      simp only [linkClock, hlink]
      rw [← htick]
      by_cases hleft : x.count > 0 <;> simp [Event.ofTick, step, downTick, hleft, hruns]

/-- The last tick ends the announcement. -/
theorem mrc_tick (c : LinkConf) (x : Ring) (up : Bool) :
    (x.step c (.ofTick up)).mrc = if x.count > 0 then x.mrc else .settled up := by
  cases up with
  | true =>
      simp only [Event.ofTick, step, upTick]
      split <;> rfl
  | false =>
      simp only [Event.ofTick, step, downTick]
      split <;> rfl

/-- A client starts to announce with a link event only. -/
theorem link_of_announcing {ev : Event} (hen : x.Enabled false ev) (hrole : x.role = .mrc)
    (hbefore : x.mrc ≠ .announcing up) (hafter : (x.step c ev).mrc = .announcing up) :
    ∃ r up', ev = .link r up' := by
  cases ev with
  | link r up' => exact ⟨r, up', rfl⟩
  | closed => simp [Enabled, hrole] at hen
  | opened => simp [Enabled, hrole] at hen
  | topologyChange =>
      simp only [step, topology] at hafter
      cases up <;> split at hafter <;> simp_all [MrcState.announcing]
  | nacked => exact absurd hrole hen
  | managerLost => simp [Enabled] at hen
  | linkUpTick =>
      have htick := mrc_tick c x true
      rw [Event.ofTick, hafter] at htick
      cases up <;> split at htick <;> simp_all [MrcState.announcing, MrcState.settled]
  | linkDownTick =>
      have htick := mrc_tick c x false
      rw [Event.ofTick, hafter] at htick
      cases up <;> split at htick <;> simp_all [MrcState.announcing, MrcState.settled]
  | silent => exact absurd hafter hbefore

end Ring

namespace Inter

variable {c : InterConf} {x : Inter} {up : Bool}

/-- A tick of the interconnection machine is a tick of its countdown. -/
theorem linkClock_tick (hruns : c.runs = true) (hrun : (x.linkClock up).running = true) :
    (x.step c (.ofTick up)).linkClock up = (x.linkClock up).step c.max.toNat .tick := by
  have htick := Countdown.Clock.tick_eq c.max x.count
  cases up with
  | true =>
      have hlink : x.linkUp = true := hrun
      simp only [linkClock, hlink]
      rw [← htick]
      by_cases hleft : x.count > 0 <;> simp [Event.ofTick, step, upTick, hleft, hruns]
  | false =>
      have hlink : x.linkDown = true := hrun
      simp only [linkClock, hlink]
      rw [← htick]
      by_cases hleft : x.count > 0 <;> simp [Event.ofTick, step, downTick, hleft, hruns]

/-- The last tick ends the announcement. -/
theorem mic_tick (hmic : x.mic = .announcing up) :
    (x.step c (.ofTick up)).mic = if x.count > 0 then x.mic else .settled up := by
  cases up with
  | true =>
      simp only [Event.ofTick, step, upTick]
      split <;> rfl
  | false =>
      simp only [Event.ofTick, step, downTick]
      split
      · rfl
      · exact hmic

/-- A client starts to announce with a link event only. -/
theorem link_of_announcing {ev : Event} (hen : x.Enabled ev) (hrole : x.role = .mic)
    (hmim : x.mim = .acStat1) (hbefore : x.mic ≠ .announcing up)
    (hafter : (x.step c ev).mic = .announcing up) : ∃ up', ev = .link up' := by
  cases ev with
  | link up' => exact ⟨up', rfl⟩
  | closed => simp [Enabled, hrole] at hen
  | opened => simp [Enabled, hmim] at hen
  | topologyChange own =>
      simp only [step, topology] at hafter
      cases up <;> repeat' split at hafter
      all_goals simp_all [MicState.announcing]
  | linkUpTick =>
      simp only [step, upTick] at hafter
      cases up <;> split at hafter <;> simp_all [MicState.announcing]
  | linkDownTick =>
      simp only [step, downTick] at hafter
      cases up <;> split at hafter <;> simp_all [MicState.announcing]
  | silent => exact absurd hafter hbefore

end Inter

/-! ## Clients -/

namespace Mrp

/-- The instance is a client of the side, and its timers have an interval. -/
def IsClient (mrp : Mrp) : TopoSide → Prop
  | .ring =>
      Ring.ClientInv mrp.linkConf mrp.ring ∧ mrp.linkConf.runs = true ∧ mrp.mraSupport = false
  | .inter =>
      Inter.ClientInv mrp.interConf mrp.inter ∧ mrp.interConf.runs = true ∧
        (mrp.inMode = .rc ∨ mrp.inMode = .lc)

/-- The instance announces a link change. -/
def Announcing (mrp : Mrp) (up : Bool) : TopoSide → Prop
  | .ring => mrp.mrcState = .announcing up
  | .inter => mrp.micState = .announcing up

/-- The announcement is over: the secondary or the interconnection port forwards after a
link has come up, and the secondary port is blocked after one has gone down. -/
def Settled (mrp : Mrp) (up : Bool) : TopoSide → Prop
  | .ring => mrp.mrcState = .settled up ∧ mrp.sState = if up then .forwarding else .blocked
  | .inter =>
      mrp.micState = .settled up ∧
        mrp.iPort.map MrpPort.state = some (if up then .forwarding else .blocked)

section Client

variable {mrp : Mrp} {side : TopoSide} {up : Bool} {e : Event}

/-- A client stays a client. -/
theorem IsClient.step (h : mrp.IsClient side) (e : Event) : (mrp.step e).IsClient side := by
  cases side with
  | ring =>
      rcases h with ⟨hinv, hruns, hmra⟩
      have hen := mrp.ringEvent_enabled e
      rw [hmra] at hen
      simp only [IsClient, mrp.step_toMrpConf e, mrp.step_ring e]
      exact ⟨hinv.step hruns hen, hruns, hmra⟩
  | inter =>
      rcases h with ⟨hinv, hruns, hmode⟩
      simp only [IsClient, mrp.step_toMrpConf e, mrp.step_inter e]
      exact ⟨hinv.step hmode hruns (mrp.interEvent_enabled e), hruns, hmode⟩

/-- The timer of the other direction does not run. -/
theorem IsClient.other_inactive (h : mrp.IsClient side)
    (hstate : mrp.Announcing up side ∨ mrp.Settled up side) :
    (mrp.timer (side.linkTimer !up)).active = false := by
  cases side with
  | ring =>
      have htimers := h.1.timers
      have hmrc : mrp.ring.mrc = mrp.mrcState := rfl
      have hup : mrp.ring.linkUp = mrp.ringLinkUpWork.active := rfl
      have hdown : mrp.ring.linkDown = mrp.ringLinkDownWork.active := rfl
      rw [hmrc, hup, hdown] at htimers
      have hcases : mrp.mrcState = .announcing up ∨ mrp.mrcState = .settled up :=
        hstate.imp id fun hsettled => hsettled.1
      rcases hcases with hst | hst <;> cases up <;>
        simp_all [MrcState.announcing, MrcState.settled, MrcState.timers, TopoSide.linkTimer, timer]
  | inter =>
      have hup : mrp.inLinkUpWork.active = decide (mrp.micState = .pt) := h.1.linkUp
      have hdown : mrp.inLinkDownWork.active = true → mrp.micState = .acStat1 := h.1.linkDown
      have hcases : mrp.micState = .announcing up ∨ mrp.micState = .settled up :=
        hstate.imp id fun hsettled => hsettled.1
      rcases hcases with hst | hst <;> cases up <;>
        simp_all [MicState.announcing, MicState.settled, TopoSide.linkTimer, timer]

/-- Only an active timer expires. -/
theorem active_of_expires {w : TimerId} (h : mrp.expires w e = true) :
    (mrp.timer w).active = true := by
  cases e with
  | expired w' => exact (Bool.and_eq_true_iff.mp h).2
  | _ => cases h

theorem linkClock_ring (mrp : Mrp) (up : Bool) : mrp.linkClock .ring up = mrp.ring.linkClock up := by
  cases up <;> rfl

theorem linkClock_inter (mrp : Mrp) (up : Bool) :
    mrp.linkClock .inter up = mrp.inter.linkClock up := by
  cases up <;> rfl

/-- To the ring machine a calm event is an expiry of the timer that runs, or nothing. -/
theorem IsClient.ringEvent_of_calm (h : mrp.IsClient .ring)
    (hstate : mrp.Announcing up .ring ∨ mrp.Settled up .ring)
    (hcalm : mrp.disturbs .ring e = false) :
    mrp.ringEvent e =
      if mrp.expires (TopoSide.ring.linkTimer up) e then .ofTick up else .silent := by
  by_cases hexp : mrp.expires (TopoSide.ring.linkTimer up) e = true
  · rw [if_pos hexp, ringEvent_eq_tick.mpr hexp]
  · rw [if_neg hexp]
    rcases ring_step_of_calm h.1 h.2.2 hcalm with hsilent | ⟨up', htick⟩
    · exact hsilent
    · have hactive := active_of_expires (ringEvent_eq_tick.mp htick)
      have hother := h.other_inactive hstate
      by_cases hup : up' = up
      · subst hup
        exact absurd (ringEvent_eq_tick.mp htick) hexp
      · rw [Bool.eq_not_of_ne hup, hother] at hactive
        cases hactive

/-- To the interconnection machine a calm event is an expiry of the timer that runs, or
nothing. -/
theorem IsClient.interEvent_of_calm (h : mrp.IsClient .inter)
    (hstate : mrp.Announcing up .inter ∨ mrp.Settled up .inter)
    (hcalm : mrp.disturbs .inter e = false) :
    mrp.interEvent e =
      if mrp.expires (TopoSide.inter.linkTimer up) e then .ofTick up else .silent := by
  by_cases hexp : mrp.expires (TopoSide.inter.linkTimer up) e = true
  · rw [if_pos hexp, interEvent_eq_tick.mpr hexp]
  · rw [if_neg hexp]
    rcases inter_step_of_calm h.1 hcalm with hsilent | ⟨up', htick⟩
    · exact hsilent
    · have hactive := active_of_expires (interEvent_eq_tick.mp htick)
      have hother := h.other_inactive hstate
      by_cases hup : up' = up
      · subst hup
        exact absurd (interEvent_eq_tick.mp htick) hexp
      · rw [Bool.eq_not_of_ne hup, hother] at hactive
        cases hactive

/-- A calm event is a tick of the countdown, or nothing. -/
theorem IsClient.linkClock_step (h : mrp.IsClient side)
    (hstate : mrp.Announcing up side ∨ mrp.Settled up side) (hcalm : mrp.disturbs side e = false) :
    (mrp.step e).linkClock side up =
      (mrp.linkClock side up).step (mrp.announceConf side).max.toNat
        (if mrp.expires (side.linkTimer up) e then .tick else .silent) := by
  cases side with
  | ring =>
      rw [linkClock_ring, linkClock_ring, mrp.step_ring e, h.ringEvent_of_calm hstate hcalm]
      split
      next hexp =>
        refine Ring.linkClock_tick h.2.1 ?_
        rw [← linkClock_ring]
        exact active_of_expires hexp
      · rfl
  | inter =>
      rw [linkClock_inter, linkClock_inter, mrp.step_inter e, h.interEvent_of_calm hstate hcalm]
      split
      next hexp =>
        refine Inter.linkClock_tick h.2.1 ?_
        rw [← linkClock_inter]
        exact active_of_expires hexp
      · rfl

/-- On a client of the ring the state says what the secondary port does. -/
theorem IsClient.settled_ring (h : mrp.IsClient .ring) (hstate : mrp.mrcState = .settled up) :
    mrp.Settled up .ring := by
  have hports : mrp.sState = mrp.mrcState.ports.2 := congrArg Prod.snd h.1.ports
  refine ⟨hstate, ?_⟩
  rw [hports, hstate]
  cases up <;> rfl

/-- On a client of the interconnection the state says what its port does. -/
theorem IsClient.settled_inter (h : mrp.IsClient .inter) (hstate : mrp.micState = .settled up) :
    mrp.Settled up .inter := by
  rcases h.1.port with ⟨link, hport, -⟩
  have hmap : mrp.iPort.map MrpPort.state = (mrp.inter.port).map InterPort.state := by
    simp [inter_port, MrpPort.inter, Function.comp_def]
  have hmic : mrp.inter.mic = .settled up := hstate
  refine ⟨hstate, ?_⟩
  rw [hmap, hport, hmic]
  cases up <;> rfl

/-- A calm event keeps the state, and the last tick ends the announcement. -/
theorem IsClient.announcing_step (h : mrp.IsClient side) (hann : mrp.Announcing up side)
    (hcalm : mrp.disturbs side e = false) :
    if mrp.expires (side.linkTimer up) e = true ∧ ¬ mrp.linkLeft side > 0 then
      (mrp.step e).Settled up side
    else (mrp.step e).Announcing up side := by
  cases side with
  | ring =>
      have hmrc : (mrp.step e).mrcState = (mrp.ring.step mrp.linkConf (mrp.ringEvent e)).mrc :=
        congrArg Ring.mrc (mrp.step_ring e)
      rw [h.ringEvent_of_calm (.inl hann) hcalm] at hmrc
      by_cases hexp : mrp.expires (TopoSide.ring.linkTimer up) e = true
      · rw [if_pos hexp, Ring.mrc_tick] at hmrc
        by_cases hleft : mrp.ringLinkCurrMax > 0
        · rw [if_neg (by simp [linkLeft, hleft])]
          exact (hmrc.trans (if_pos hleft)).trans hann
        · rw [if_pos ⟨hexp, hleft⟩]
          exact (h.step e).settled_ring (hmrc.trans (if_neg hleft))
      · rw [if_neg hexp] at hmrc
        rw [if_neg fun hboth => hexp hboth.1]
        exact hmrc.trans hann
  | inter =>
      have hmic : (mrp.step e).micState =
          (mrp.inter.step mrp.interConf (mrp.interEvent e)).mic :=
        congrArg Inter.mic (mrp.step_inter e)
      rw [h.interEvent_of_calm (.inl hann) hcalm] at hmic
      by_cases hexp : mrp.expires (TopoSide.inter.linkTimer up) e = true
      · rw [if_pos hexp, Inter.mic_tick (x := mrp.inter) hann] at hmic
        by_cases hleft : mrp.inLinkCurrMax > 0
        · rw [if_neg (by simp [linkLeft, hleft])]
          exact (hmic.trans (if_pos hleft)).trans hann
        · rw [if_pos ⟨hexp, hleft⟩]
          exact (h.step e).settled_inter (hmic.trans (if_neg hleft))
      · rw [if_neg hexp] at hmic
        rw [if_neg fun hboth => hexp hboth.1]
        exact hmic.trans hann

/-- What is over stays over. -/
theorem IsClient.settled_step (h : mrp.IsClient side) (hset : mrp.Settled up side)
    (hrun : (mrp.linkClock side up).running = false) (hcalm : mrp.disturbs side e = false) :
    (mrp.step e).Settled up side := by
  have hexp : ¬ mrp.expires (side.linkTimer up) e = true := by
    intro hexp
    have hactive := active_of_expires hexp
    rw [show (mrp.timer (side.linkTimer up)).active = false from hrun] at hactive
    cases hactive
  cases side with
  | ring =>
      have hmrc : (mrp.step e).mrcState = (mrp.ring.step mrp.linkConf (mrp.ringEvent e)).mrc :=
        congrArg Ring.mrc (mrp.step_ring e)
      rw [h.ringEvent_of_calm (.inr hset) hcalm, if_neg hexp] at hmrc
      exact (h.step e).settled_ring (hmrc.trans hset.1)
  | inter =>
      have hmic : (mrp.step e).micState =
          (mrp.inter.step mrp.interConf (mrp.interEvent e)).mic :=
        congrArg Inter.mic (mrp.step_inter e)
      rw [h.interEvent_of_calm (.inr hset) hcalm, if_neg hexp] at hmic
      exact (h.step e).settled_inter (hmic.trans hset.1)

end Client

/-! ## The start of an announcement -/

section Start

variable {mrp : Mrp} {side : TopoSide} {up : Bool} {e : Event}

/-- The countdown is at its start and the first announcement is sent. -/
structure Starts (side : TopoSide) (up : Bool) (a b : Mrp) : Prop where
  clock : b.linkClock side up =
    ⟨(a.announceConf side).interval != 0, (a.announceConf side).max.toNat⟩
  sent : b.announced (side.linkType up) =
    ((b.linkPorts side).map fun p =>
      (p, (a.announceConf side).max * (a.announceConf side).interval)).reverse ++
        a.announced (side.linkType up)

/-- A request of the ring after which only the state is set. -/
theorem announced_ringLinkReq_setMrcState (mrp : Mrp) (up : Bool) (time : UInt32)
    (state : MrcState) :
    ((mrp.ringLinkReq mrp.pPort up time).setMrcState state).announced (TopoSide.ring.linkType up) =
      ((((mrp.ringLinkReq mrp.pPort up time).setMrcState state).linkPorts .ring).map
        fun p => (p, time)).reverse ++ mrp.announced (TopoSide.ring.linkType up) := by
  have hports : ((mrp.ringLinkReq mrp.pPort up time).setMrcState state).linkPorts .ring =
      mrp.linkPorts .ring := by
    simp [linkPorts, setMrcState, ringLinkReq, List.filter_cons, isOperUp, port?]
  rw [hports]
  exact announced_ringLinkReq mrp up time

attribute [local simp] linkClock TopoSide.linkTimer timer linkLeft MrpConf.announceConf call
  ringLinkUpStart ringLinkUpStop ringLinkDownStart ringLinkDownStop setRingLinkCurrMax
  portSetState_ring RingPart.setPortState demote ringLinkReq setMrcState

/-- The link handler of a client that starts to announce. -/
theorem mrcPortLink_starts {r : RingPort} {up' : Bool} (hbefore : mrp.mrcState ≠ .announcing up)
    (hafter : (mrp.mrcPortLink r up').mrcState = .announcing up) :
    Starts .ring up mrp (mrp.mrcPortLink r up') := by
  have hpt : MrcState.announcing up = .pt → up = true := by cases up <;> simp [MrcState.announcing]
  have hde : MrcState.announcing up = .de → up = false := by cases up <;> simp [MrcState.announcing]
  unfold mrcPortLink at hafter ⊢
  cases hm : mrp.mrcState with
  | acStat1 =>
      simp only [hm] at hafter ⊢
      split_ifs at hafter ⊢ <;> cases up <;> simp_all [MrcState.announcing]
  | deIdle =>
      simp only [hm] at hafter ⊢
      split_ifs at hafter ⊢ with hstart
      · rw [hstart.1, hpt hafter.symm]
        exact ⟨by simp, announced_ringLinkReq_setMrcState _ true _ _⟩
      · cases up <;> cases hafter
      · exact absurd hafter (hm ▸ hbefore)
  | pt =>
      simp only [hm] at hafter ⊢
      split_ifs at hafter ⊢ with hsecondary hprimary
      · rw [hsecondary.1, hde hafter.symm]
        exact ⟨by simp, announced_ringLinkReq_setMrcState _ false _ _⟩
      · rw [hprimary.1, hde hafter.symm]
        exact ⟨by simp, announced_ringLinkReq_setMrcState _ false _ _⟩
      · exact absurd hafter (hm ▸ hbefore)
  | de =>
      simp only [hm] at hafter ⊢
      split_ifs at hafter ⊢ with hstart
      · rw [hstart.1, hpt hafter.symm]
        exact ⟨by simp, announced_ringLinkReq_setMrcState _ true _ _⟩
      · cases up <;> cases hafter
      · exact absurd hafter (hm ▸ hbefore)
  | ptIdle =>
      simp only [hm] at hafter ⊢
      split_ifs at hafter ⊢ with hsecondary hprimary
      · rw [hsecondary.1, hde hafter.symm]
        exact ⟨by simp, announced_ringLinkReq_setMrcState _ false _ _⟩
      · rw [hprimary.1, hde hafter.symm]
        exact ⟨by simp, announced_ringLinkReq_setMrcState _ false _ _⟩
      · exact absurd hafter (hm ▸ hbefore)

/-- A request of the interconnection after which only the state is set. -/
theorem announced_inLinkReq_setMicState (mrp : Mrp) (up : Bool) (time : UInt32)
    (state : MicState) :
    ((mrp.inLinkReq up time).setMicState state).announced (TopoSide.inter.linkType up) =
      ((((mrp.inLinkReq up time).setMicState state).linkPorts .inter).map
        fun p => (p, time)).reverse ++ mrp.announced (TopoSide.inter.linkType up) := by
  have hports : ((mrp.inLinkReq up time).setMicState state).linkPorts .inter =
      mrp.linkPorts .inter := by
    have hup : ((mrp.inLinkReq up time).setMicState state).isOperUp = mrp.isOperUp := by
      funext q
      have hset : ((mrp.inLinkReq up time).setMicState state).isOperUp q =
          (mrp.inLinkReq up time).isOperUp q := rfl
      rw [hset]
      simp [inLinkReq, sendInLink]
    have hring : ((mrp.inLinkReq up time).setMicState state).toRingPart = mrp.toRingPart := by
      simp [setMicState, inLinkReq, sendInLink]
    simp only [linkPorts, hup, hring]
  rw [hports]
  exact announced_inLinkReq mrp up time

attribute [local simp] inLinkUpStart inLinkUpStop inLinkDownStart inLinkDownStop setInLinkCurrMax
  inLinkReq sendInLink setMicState

/-- The link handler of an interconnection client that starts to announce. -/
theorem micPortLink_starts {up' : Bool} (hbefore : mrp.micState ≠ .announcing up)
    (hafter : (mrp.micPortLink up').micState = .announcing up) :
    up' = up ∧ Starts .inter up mrp (mrp.micPortLink up') := by
  have hpt : MicState.announcing up = .pt → up = true := by cases up <;> simp [MicState.announcing]
  have hac : MicState.announcing up = .acStat1 → up = false := by
    cases up <;> simp [MicState.announcing]
  have hblocked : ∀ m : Mrp, (m.portSetState .inter .blocked).announced (TopoSide.inter.linkType up) =
      m.announced (TopoSide.inter.linkType up) :=
    fun m => m.announced_portSetState .inter .blocked _
  unfold micPortLink at hafter ⊢
  cases up' with
  | true =>
      cases hmode : mrp.inMode <;> cases hm : mrp.micState <;> simp only [hmode, hm] at hafter ⊢
      all_goals first
        | exact absurd hafter (hm ▸ hbefore)
        | rw [hpt hafter.symm]
          exact ⟨rfl, by simp, announced_inLinkReq_setMicState _ true _ _⟩
  | false =>
      cases hmode : mrp.inMode <;> cases hm : mrp.micState <;> simp only [hmode, hm] at hafter ⊢
      all_goals first
        | exact absurd hafter (hm ▸ hbefore)
        | rw [hac hafter.symm] at hblocked ⊢
          refine ⟨rfl, by simp, ?_⟩
          rw [announced_inLinkReq_setMicState]
          congr 1
          exact hblocked _

/-- Settings, state and log are those from before the handler: only the link is noted. -/
structure Noted (a b : Mrp) : Prop where
  conf : b.toMrpConf = a.toMrpConf
  mrc : b.mrcState = a.mrcState
  mic : b.micState = a.micState
  sent : b.sent = a.sent

theorem Starts.of_noted {a m b : Mrp} (h : Starts side up m b) (hnoted : Noted a m) :
    Starts side up a b where
  clock := by rw [← hnoted.conf]; exact h.clock
  sent := by
    have hsent : a.announced (side.linkType up) = m.announced (side.linkType up) := by
      simp only [announced, sentOf, hnoted.sent]
    rw [hsent, ← hnoted.conf]
    exact h.sent

/-- A link event of the ring machine ends in the handler of the client. -/
theorem exists_mrcPortLink {r : RingPort} {up' : Bool} (hrole : mrp.ringRole = .mrc)
    (hev : mrp.ringEvent e = .link r up') :
    ∃ m, Noted mrp m ∧ mrp.step e = m.mrcPortLink r up' := by
  have hhandler : ∀ m : Mrp, m.ringRole = .mrc →
      m.portLinkChange (.ring r) up' = (m.noteRingLink r up').mrcPortLink r up' := by
    intro m hm
    have hnoted : (m.noteRingLink r up').ringRole = .mrc := hm
    simp only [portLinkChange, hnoted]
  rcases ringEvent_eq_link hev with rfl | ⟨state, rfl, hsame, hlink⟩
  · exact ⟨mrp.noteRingLink r up', ⟨rfl, rfl, rfl, rfl⟩, hhandler mrp hrole⟩
  · have hstep : mrp.step (.operstate (.ring r) state) =
        (mrp.setOperstate (.ring r) (storedOperstate state)).portLinkChange (.ring r) up' := by
      simp [step, netlinkOperstate, port?, hsame, hlink]
    rw [hstep]
    exact ⟨(mrp.setOperstate (.ring r) (storedOperstate state)).noteRingLink r up',
      ⟨rfl, rfl, rfl, rfl⟩, hhandler _ hrole⟩

/-- A link event of the interconnection machine ends in the handler of the client, and the
port stores what the event reports. -/
theorem exists_micPortLink {up' : Bool} (hrole : mrp.inRole = .mic)
    (hev : mrp.interEvent e = .link up') :
    ∃ m, Noted mrp m ∧ mrp.step e = m.micPortLink up' ∧
      m.operstate? .inter = some (if up' then ifOperUp else ifOperDown) := by
  -- every one of the three notifications stores the state, notes the link and calls the handler
  have hnoted : ∀ (m : Mrp) (port : MrpPort), m.iPort = some port →
      ((m.setInOperstate (if up' then ifOperUp else ifOperDown)).noteInLink up').operstate? .inter =
        some (if up' then ifOperUp else ifOperDown) := by
    intro m port hport
    simp [operstate?, port?, setInOperstate, noteInLink, hport]
  have hhandler : ∀ m : Mrp, m.inRole = .mic → m.inMode ≠ .lc →
      m.portLinkChange .inter up' =
        ((m.setInOperstate (if up' then ifOperUp else ifOperDown)).noteInLink up').micPortLink up' := by
    intro m hm hmode
    have hset : (m.setInOperstate (if up' then ifOperUp else ifOperDown)).inRole = .mic := hm
    simp only [portLinkChange, if_neg hmode, hset]
  have hmode : ∀ up'', mrp.inLinkEvent up'' = .link up' → up'' = up' ∧ mrp.inMode ≠ .lc := by
    intro up'' h
    unfold inLinkEvent at h
    split at h <;> cases h
    exact ⟨rfl, ‹_›⟩
  cases e with
  | recv p rx =>
      simp only [interEvent] at hev
      split at hev
      next type buf hdel =>
        cases type <;> simp only [inFrameEvent] at hev <;> repeat' split at hev
        all_goals cases hev
      · cases hev
  | linkChange p up'' =>
      cases p with
      | ring r => cases hev
      | inter =>
          simp only [interEvent] at hev
          split at hev
          next hport =>
            rcases hmode up'' hev with ⟨rfl, hlc⟩
            rcases Option.isSome_iff_exists.mp hport with ⟨port, hsome⟩
            refine ⟨(mrp.setInOperstate _).noteInLink _, ⟨rfl, rfl, rfl, rfl⟩, ?_,
              hnoted mrp port hsome⟩
            have hport' : (mrp.port? .inter).isSome = true := hport
            rw [step, if_pos hport']
            exact hhandler mrp hrole hlc
          · cases hev
  | operstate p state =>
      cases p with
      | ring r => cases hev
      | inter =>
          simp only [interEvent] at hev
          split at hev
          · cases hev
          next port hport =>
            split at hev
            · cases hev
            next hsame =>
              split at hev
              next up'' hlink =>
                rcases hmode up'' hev with ⟨rfl, hlc⟩
                have hset : (mrp.setOperstate .inter (storedOperstate state)).iPort =
                    some { port with operstate := storedOperstate state } := by
                  simp [setOperstate, setInOperstate, hport]
                refine ⟨((mrp.setOperstate .inter (storedOperstate state)).setInOperstate _).noteInLink _,
                  ⟨rfl, rfl, rfl, rfl⟩, ?_, hnoted _ _ hset⟩
                rw [← hhandler (mrp.setOperstate .inter (storedOperstate state)) hrole hlc]
                simp [step, netlinkOperstate, port?, hport, hsame, hlink]
              · cases hev
  | cfmLinkChange defect =>
      simp only [interEvent] at hev
      split at hev
      next hport =>
        cases hev
        rcases Option.isSome_iff_exists.mp hport with ⟨port, hsome⟩
        have hstate : (if (!defect) = true then ifOperUp else ifOperDown) =
            if defect then ifOperDown else ifOperUp := by
          cases defect <;> rfl
        refine ⟨(mrp.setInOperstate _).noteInLink _, ⟨rfl, rfl, rfl, rfl⟩, ?_, hnoted mrp port hsome⟩
        have hset : (mrp.setInOperstate (if defect then ifOperDown else ifOperUp)).inRole = .mic :=
          hrole
        rw [hstate]
        simp only [step, cfmLinkChange, hsome, hset]
      · cases hev
  | expired w =>
      cases w <;> simp only [interEvent, inTimerEvent] at hev <;> repeat' split at hev
      all_goals cases hev
  | portMac p mac => cases hev
  | bridgeMac mac => cases hev

/-- A client that starts to announce. -/
theorem IsClient.starts (h : mrp.IsClient side) (hbefore : ¬ mrp.Announcing up side)
    (hafter : (mrp.step e).Announcing up side) : Starts side up mrp (mrp.step e) := by
  cases side with
  | ring =>
      have hrole : mrp.ringRole = .mrc := h.1.role
      have hen := mrp.ringEvent_enabled e
      rw [h.2.2] at hen
      have hmrc : (mrp.ring.step mrp.linkConf (mrp.ringEvent e)).mrc = .announcing up :=
        (congrArg Ring.mrc (mrp.step_ring e)).symm.trans hafter
      rcases Ring.link_of_announcing hen hrole hbefore hmrc with ⟨r, up', hev⟩
      rcases exists_mrcPortLink hrole hev with ⟨m, hnoted, hstep⟩
      have hm : m.mrcState ≠ .announcing up := fun hm => hbefore (hnoted.mrc.symm.trans hm)
      rw [hstep] at hafter ⊢
      exact (mrcPortLink_starts hm hafter).of_noted hnoted
  | inter =>
      have hrole : mrp.inRole = .mic := h.1.role
      have hmic : (mrp.inter.step mrp.interConf (mrp.interEvent e)).mic = .announcing up :=
        (congrArg Inter.mic (mrp.step_inter e)).symm.trans hafter
      rcases Inter.link_of_announcing (mrp.interEvent_enabled e) hrole h.1.mim hbefore hmic with
        ⟨up', hev⟩
      rcases exists_micPortLink hrole hev with ⟨m, hnoted, hstep, -⟩
      have hm : m.micState ≠ .announcing up := fun hm => hbefore (hnoted.mic.symm.trans hm)
      rw [hstep] at hafter ⊢
      exact (micPortLink_starts hm hafter).2.of_noted hnoted

/-- An interconnection client that starts to announce stores what it announces. -/
theorem IsClient.isOperUp_inter (h : mrp.IsClient .inter) (hbefore : ¬ mrp.Announcing up .inter)
    (hafter : (mrp.step e).Announcing up .inter) : (mrp.step e).isOperUp .inter = up := by
  have hrole : mrp.inRole = .mic := h.1.role
  have hmic : (mrp.inter.step mrp.interConf (mrp.interEvent e)).mic = .announcing up :=
    (congrArg Inter.mic (mrp.step_inter e)).symm.trans hafter
  rcases Inter.link_of_announcing (mrp.interEvent_enabled e) hrole h.1.mim hbefore hmic with
    ⟨up', hev⟩
  rcases exists_micPortLink hrole hev with ⟨m, hnoted, hstep, hstored⟩
  have hm : m.micState ≠ .announcing up := fun hm => hbefore (hnoted.mic.symm.trans hm)
  rw [hstep] at hafter ⊢
  rcases micPortLink_starts hm hafter with ⟨rfl, -⟩
  have hkept := congrFun ((m.micPortLink_op up').operstate?_eq (m.inOperstate_micPortLink up')) .inter
  rw [isOperUp_eq, hkept, hstored]
  cases up' <;> rfl

end Start

end Mrp

end Umrp
