import Umrp.Links.Clients

/-!
# Link announcements complete

If nothing disturbs a client that announces a link change, the announcement ends after as
many expiries as its counter says and one more, and the frames that were sent until then
count down to zero.

Main results:

- Theorem `Mrp.Announces.step`: what a calm event does to an announcement.
- Theorem `link_announcement_completes`: the announcement of every link change of a client
  completes.
-/

namespace Umrp

open EventMachine

/-! ## The settings -/

/-- The largest time that is announced fits into the field of the instance. -/
def MrpConf.LinkFits (c : MrpConf) : Prop :=
  ∀ side, (c.announceConf side).max.toNat * (c.announceConf side).interval.toNat < 4294967296

theorem MrpConf.LinkFits.of_eq {c c' : MrpConf} (h : c.LinkFits)
    (hconf : c'.announceConf = c.announceConf) : c'.LinkFits := by
  intro side
  rw [hconf]
  exact h side

/-- Every ring profile fits. -/
theorem ringProfile_linkFits {ringRecv : UInt8} {pr : RingProfile}
    (h : ringProfile ringRecv = some pr) :
    pr.linkMax.toNat * pr.linkInterval.toNat < 4294967296 := by
  unfold ringProfile at h
  repeat' split at h
  all_goals cases h
  all_goals decide

/-- Every interconnection profile fits. -/
theorem inProfile_linkFits {inRecv : UInt8} {pr : InProfile} (h : inProfile inRecv = some pr) :
    pr.linkMax.toNat * pr.linkInterval.toNat < 4294967296 := by
  unfold inProfile at h
  repeat' split at h
  all_goals cases h
  all_goals decide

/-- A profile that is known fits, an unknown one keeps the settings. -/
theorem linkFits_updateRecovery {m : Mrp} (ringRecv inRecv : UInt8)
    (hring : ringProfile ringRecv = none → m.LinkFits)
    (hin : inProfile inRecv = none → m.LinkFits) :
    (m.updateRecovery 1 ringRecv inRecv).LinkFits := by
  intro side
  unfold Mrp.updateRecovery
  cases side with
  | ring =>
      cases hr : ringProfile ringRecv with
      | none =>
          have hkept := hring hr .ring
          cases inProfile inRecv <;> simpa [MrpConf.announceConf, Mrp.setInProfile] using hkept
      | some pr =>
          have hfits := ringProfile_linkFits hr
          cases inProfile inRecv <;>
            simpa [MrpConf.announceConf, Mrp.setRingProfile, Mrp.setInProfile] using hfits
  | inter =>
      cases hi : inProfile inRecv with
      | none =>
          have hkept := hin hi .inter
          cases ringProfile ringRecv <;> simpa [MrpConf.announceConf, Mrp.setRingProfile] using hkept
      | some pr =>
          have hfits := inProfile_linkFits hi
          cases ringProfile ringRecv <;>
            simpa [MrpConf.announceConf, Mrp.setRingProfile, Mrp.setInProfile] using hfits

/-- An instance has settings that fit when its roles are set. -/
theorem configure_linkFits {env : Env} (htf : env.timeFactor = 1) (a : AddArgs) :
    (Mrp.configure env a).LinkFits := by
  have hcreate : (Mrp.create env a.brIfindex a.ringNr a.inId).LinkFits := by
    have hupdate := linkFits_updateRecovery (m := { Mrp.zeroed env.clock with
        ifindex := a.brIfindex, ringNr := a.ringNr, inId := a.inId, ringRole := .mrc,
        inRole := .disabled, prio := 0x8000 }) 0 0 (fun h => by cases h) (fun h => by cases h)
    rw [← htf] at hupdate
    exact hupdate.of_eq rfl
  have hsettings : (Mrp.applySettings env a).LinkFits := by
    have hprio : ((Mrp.create env a.brIfindex a.ringNr a.inId).setPrio a.prio).LinkFits :=
      hcreate.of_eq rfl
    have hupdate := linkFits_updateRecovery a.ringRecv a.inRecv (fun _ => hprio) (fun _ => hprio)
    rw [← htf] at hupdate
    exact hupdate.of_eq rfl
  have hports : ((Mrp.applySettings env a).initPorts env a).LinkFits := by
    rwa [(initPorts_keeps (Mrp.applySettings env a) env a).1]
  simp only [Mrp.configure]
  split
  · simp only [Mrp.startCfm]
    split <;> exact hports.of_eq rfl
  · exact hports

/-- And keeps them for life. -/
theorem Reachable.linkFits {env : Env} {a : AddArgs} {mrp : Mrp} (h : Reachable env a mrp)
    (htf : env.timeFactor = 1) : mrp.LinkFits := by
  rw [h.toMrpConf]
  exact configure_linkFits htf a

/-! ## Progress -/

/-- The frames of the first `k` announcements, oldest first: port and time. -/
def RoundConf.schedule (c : RoundConf) (ports : List Port) (k : Nat) : List (Port × Nat) :=
  (List.range k).flatMap fun i => ports.map fun p => (p, (c.max.toNat - i) * c.interval.toNat)

theorem RoundConf.schedule_succ (c : RoundConf) (ports : List Port) (k : Nat) :
    c.schedule ports (k + 1) =
      c.schedule ports k ++ ports.map fun p => (p, (c.max.toNat - k) * c.interval.toNat) := by
  simp [schedule, List.range_succ]

namespace Mrp

/-- The frames of one type that were sent, newest first: port and time. -/
def announcedTimes (mrp : Mrp) (type : TlvType) : List (Port × Nat) :=
  (mrp.announced type).map fun x => (x.1, x.2.toNat)

/-- How often a timer expires during these events. -/
def expiries (w : TimerId) (mrp : Mrp) (es : List Event) : Nat :=
  (trace step (fun m e => m.expires w e) mrp es).count true

/-- Where an announcement stands after `n` expiries, if it began in the step that follows
`before`. -/
structure Announces (side : TopoSide) (up : Bool) (before : Mrp) (ports : List Port) (n : Nat)
    (mrp : Mrp) : Prop where
  client : mrp.IsClient side
  conf : mrp.toMrpConf = before.toMrpConf
  through : mrp.linkPorts side = ports
  le : n ≤ (before.announceConf side).max.toNat + 1
  sent : mrp.announcedTimes (side.linkType up) =
    ((before.announceConf side).schedule ports
      (min n (before.announceConf side).max.toNat + 1)).reverse ++
        before.announcedTimes (side.linkType up)
  clock : mrp.linkClock side up =
    if n ≤ (before.announceConf side).max.toNat then
      ⟨true, (before.announceConf side).max.toNat - n⟩
    else ⟨false, (before.announceConf side).max.toNat⟩
  state : if n ≤ (before.announceConf side).max.toNat then mrp.Announcing up side
    else mrp.Settled up side

namespace Announces

variable {side : TopoSide} {up : Bool} {before : Mrp} {ports : List Port} {n : Nat} {mrp : Mrp}
  {e : Event}

/-- The announcement begins. -/
theorem start (h : before.IsClient side) (hfits : before.LinkFits)
    (hbefore : ¬ before.Announcing up side) (hafter : (before.step e).Announcing up side) :
    Announces side up before ((before.step e).linkPorts side) 0 (before.step e) where
  client := h.step e
  conf := before.step_toMrpConf e
  through := rfl
  le := Nat.zero_le _
  sent := by
    have hvalue : ((before.announceConf side).max * (before.announceConf side).interval).toNat =
        (before.announceConf side).max.toNat * (before.announceConf side).interval.toNat := by
      rw [UInt32.toNat_mul]
      exact Nat.mod_eq_of_lt (hfits side)
    simp [announcedTimes, (h.starts hbefore hafter).sent, RoundConf.schedule, hvalue,
      Function.comp_def]
  clock := by
    have hinterval : ((before.announceConf side).interval != 0) = true := by
      cases side with
      | ring => exact h.2.1
      | inter => exact h.2.1
    rw [(h.starts hbefore hafter).clock, hinterval, if_pos (Nat.zero_le _), Nat.sub_zero]
  state := by
    rw [if_pos (Nat.zero_le _)]
    exact hafter

/-- The counter says how many expiries are left. -/
theorem left_eq (h : Announces side up before ports n mrp)
    (hn : n ≤ (before.announceConf side).max.toNat) :
    (mrp.linkLeft side).toNat = (before.announceConf side).max.toNat - n := by
  have hclock := h.clock
  rw [if_pos hn] at hclock
  exact congrArg Countdown.Clock.left hclock

/-- What an expiry announces while there are more to come. -/
theorem announcedTimes_step (h : Announces side up before ports n mrp) (hfits : before.LinkFits)
    (hexp : mrp.expires (side.linkTimer up) e = true)
    (hn : n < (before.announceConf side).max.toNat) :
    (mrp.step e).announcedTimes (side.linkType up) =
      (ports.map fun p => (p, ((before.announceConf side).max.toNat - (n + 1)) *
        (before.announceConf side).interval.toNat)).reverse ++
        mrp.announcedTimes (side.linkType up) := by
  have hleft := h.left_eq (Nat.le_of_lt hn)
  have hpos : mrp.linkLeft side > 0 := UInt32.lt_iff_toNat_lt.mpr (by
    rw [hleft]
    exact Nat.sub_pos_of_lt hn)
  have hone : (1 : UInt32) ≤ mrp.linkLeft side :=
    UInt32.le_iff_toNat_le.mpr (UInt32.lt_iff_toNat_lt.mp hpos)
  have hvalue : ((mrp.linkLeft side - 1) * (mrp.announceConf side).interval).toNat =
      ((before.announceConf side).max.toNat - (n + 1)) *
        (before.announceConf side).interval.toNat := by
    rw [UInt32.toNat_mul, UInt32.toNat_sub_of_le _ _ hone, hleft, h.conf, Nat.sub_sub,
      UInt32.toNat_one]
    exact Nat.mod_eq_of_lt
      (Nat.lt_of_le_of_lt (Nat.mul_le_mul_right _ (Nat.sub_le _ _)) (hfits side))
  have hsent := announced_of_expires hexp
  rw [if_pos hpos, h.through] at hsent
  simp [announcedTimes, hsent, hvalue, Function.comp_def]

/-- The state is one of the two. -/
theorem announcing_or_settled (h : Announces side up before ports n mrp) :
    mrp.Announcing up side ∨ mrp.Settled up side := by
  have hstate := h.state
  split at hstate
  · exact .inl hstate
  · exact .inr hstate

/-- An expiry comes from a running timer, so the announcement is not over. -/
theorem le_of_expires (h : Announces side up before ports n mrp)
    (hexp : mrp.expires (side.linkTimer up) e = true) :
    n ≤ (before.announceConf side).max.toNat := by
  by_contra hn
  have hrun := congrArg Countdown.Clock.running h.clock
  rw [if_neg hn] at hrun
  have hactive : (mrp.linkClock side up).running = true := active_of_expires hexp
  rw [hactive] at hrun
  cases hrun

/-- An expiry that is not the last one. -/
theorem tick (h : Announces side up before ports n mrp) (hfits : before.LinkFits)
    (hcalm : mrp.disturbs side e = false) (hexp : mrp.expires (side.linkTimer up) e = true)
    (hlt : n < (before.announceConf side).max.toNat) :
    Announces side up before ports (n + 1) (mrp.step e) where
  client := h.client.step e
  conf := (mrp.step_toMrpConf e).trans h.conf
  through := (linkPorts_of_calm hcalm).1.trans h.through
  le := Nat.le_succ_of_le hlt
  sent := by
    rw [h.announcedTimes_step hfits hexp hlt, h.sent, Nat.min_eq_left (Nat.le_of_lt hlt),
      Nat.min_eq_left hlt, RoundConf.schedule_succ _ _ (n + 1), List.reverse_append,
      List.append_assoc]
  clock := by
    have hsub : 0 < (before.announceConf side).max.toNat - n := Nat.sub_pos_of_lt hlt
    rw [h.client.linkClock_step h.announcing_or_settled hcalm, h.conf, h.clock, if_pos hexp,
      if_pos (Nat.le_of_lt hlt), if_pos (Nat.succ_le_of_lt hlt)]
    simp [Countdown.Clock.step, hsub, Nat.sub_sub]
  state := by
    have hann := h.state
    rw [if_pos (Nat.le_of_lt hlt)] at hann
    have hpos : mrp.linkLeft side > 0 := UInt32.lt_iff_toNat_lt.mpr (by
      rw [h.left_eq (Nat.le_of_lt hlt)]
      exact Nat.sub_pos_of_lt hlt)
    have hnext := h.client.announcing_step hann hcalm
    rw [if_neg fun hboth => hboth.2 hpos] at hnext
    rwa [if_pos (Nat.succ_le_of_lt hlt)]

/-- The last expiry. -/
theorem lastTick (h : Announces side up before ports n mrp) (hcalm : mrp.disturbs side e = false)
    (hexp : mrp.expires (side.linkTimer up) e = true)
    (hlast : n = (before.announceConf side).max.toNat) :
    Announces side up before ports (n + 1) (mrp.step e) := by
  have hle : n ≤ (before.announceConf side).max.toNat := Nat.le_of_eq hlast
  have hover : ¬ n + 1 ≤ (before.announceConf side).max.toNat := by omega
  have hzero : ¬ mrp.linkLeft side > 0 := by
    intro hpos
    have hlt := UInt32.lt_iff_toNat_lt.mp hpos
    rw [h.left_eq hle, hlast, Nat.sub_self] at hlt
    exact absurd hlt (Nat.lt_irrefl 0)
  refine ⟨h.client.step e, (mrp.step_toMrpConf e).trans h.conf,
    (linkPorts_of_calm hcalm).1.trans h.through, by omega, ?_, ?_, ?_⟩
  · have hsent := announced_of_expires hexp
    rw [if_neg hzero, List.nil_append] at hsent
    have hmin : min (n + 1) (before.announceConf side).max.toNat =
        min n (before.announceConf side).max.toNat := by omega
    rw [hmin, ← h.sent]
    simp only [announcedTimes, hsent]
  · rw [h.client.linkClock_step h.announcing_or_settled hcalm, h.conf, h.clock, if_pos hexp,
      if_pos hle, if_neg hover, hlast, Nat.sub_self]
    simp [Countdown.Clock.step]
  · have hann := h.state
    rw [if_pos hle] at hann
    have hnext := h.client.announcing_step hann hcalm
    rw [if_pos ⟨hexp, hzero⟩] at hnext
    rwa [if_neg hover]

/-- Any other calm event. -/
theorem quiet (h : Announces side up before ports n mrp) (hcalm : mrp.disturbs side e = false)
    (hexp : ¬ mrp.expires (side.linkTimer up) e = true) :
    Announces side up before ports n (mrp.step e) where
  client := h.client.step e
  conf := (mrp.step_toMrpConf e).trans h.conf
  through := (linkPorts_of_calm hcalm).1.trans h.through
  le := h.le
  sent := by
    rw [← h.sent]
    simp only [announcedTimes, announced_of_calm hcalm (Bool.eq_false_iff.mpr hexp)]
  clock := by
    rw [h.client.linkClock_step h.announcing_or_settled hcalm, if_neg hexp, ← h.clock]
    rfl
  state := by
    have hstate := h.state
    split at hstate
    next hn =>
      have hnext := h.client.announcing_step hstate hcalm
      rw [if_neg fun hboth => hexp hboth.1] at hnext
      rwa [if_pos hn]
    next hn =>
      have hrun := congrArg Countdown.Clock.running h.clock
      rw [if_neg hn] at hrun ⊢
      exact h.client.settled_step hstate hrun hcalm

/-- What a calm event does to an announcement. -/
theorem step (h : Announces side up before ports n mrp) (hfits : before.LinkFits)
    (hcalm : mrp.disturbs side e = false) :
    Announces side up before ports (n + if mrp.expires (side.linkTimer up) e then 1 else 0)
      (mrp.step e) := by
  by_cases hexp : mrp.expires (side.linkTimer up) e = true
  · rw [if_pos hexp]
    rcases Nat.lt_or_eq_of_le (h.le_of_expires hexp) with hlt | hlast
    · exact h.tick hfits hcalm hexp hlt
    · exact h.lastTick hcalm hexp hlast
  · rw [if_neg hexp]
    exact h.quiet hcalm hexp

end Announces

end Mrp

/-! ## Instances -/

/-- The instance is created as a client of the side. -/
def AddArgs.IsClient (a : AddArgs) : TopoSide → Prop
  | .ring => a.ringRole = ringRoleMrc
  | .inter => a.inRole = inRoleMic

/-- In a mode that is neither of the two known ones the handler ignores the link, and an
interconnection client never leaves AC_STAT1. -/
theorem Reachable.micState_of_mode {env : Env} {a : AddArgs} {mrp : Mrp} (h : Reachable env a mrp)
    (hrole : a.inRole = inRoleMic) (hmode : ¬ (mrp.inMode = .rc ∨ mrp.inMode = .lc)) :
    mrp.micState = .acStat1 := by
  have hinv : mrp.inter.role = .mic ∧ mrp.inter.mic = .acStat1 ∧ mrp.inter.linkUp = false := by
    refine h.inter_invariant (I := fun x => x.role = .mic ∧ x.mic = .acStat1 ∧ x.linkUp = false)
      (.inr ⟨hrole, rfl⟩) ⟨rfl, rfl, rfl⟩ ?_
    rintro x ev ⟨hmic, hstate, hup⟩ hen
    cases ev with
    | link up =>
        have hunknown : ∃ n, mrp.inMode = .unknown n := by
          cases hm : mrp.inMode <;> simp_all
        rcases hunknown with ⟨n, hn⟩
        have hignored : (x.step mrp.interConf (.link up)) = x.note up := by
          cases up <;> simp [Inter.step, Inter.linkEvent, hmic, Inter.micLink, MrpConf.interConf, hn]
        rw [hignored]
        exact ⟨hmic, hstate, hup⟩
    | closed => simp [Inter.Enabled, hmic] at hen
    | opened =>
        simp only [Inter.step, Inter.opening]
        split <;> exact ⟨hmic, hstate, hup⟩
    | topologyChange own =>
        simp only [Inter.step, Inter.topology, hstate]
        split
        · exact ⟨hmic, rfl, hup⟩
        · exact ⟨hmic, hstate, hup⟩
    | linkUpTick => simp [Inter.Enabled, hup] at hen
    | linkDownTick =>
        simp only [Inter.step, Inter.downTick]
        split <;> exact ⟨hmic, hstate, hup⟩
    | silent => exact ⟨hmic, hstate, hup⟩
  exact hinv.2.1

/-- A reachable instance that was created as a client is one, if it starts to announce. -/
theorem Reachable.isClient {env : Env} {a : AddArgs} {mrp : Mrp} (h : Reachable env a mrp)
    (htf : env.timeFactor = 1) {side : TopoSide} (ha : a.IsClient side) {up : Bool} {e : Event}
    (hbefore : ¬ mrp.Announcing up side) (hafter : (mrp.step e).Announcing up side) :
    mrp.IsClient side := by
  cases side with
  | ring =>
      have hrole : a.ringRole = ringRoleMrc := ha
      have hsupport : mrp.mraSupport = decide (a.ringRole = ringRoleMra) := by
        rw [h.toMrpConf]
        rfl
      have hmra : mrp.mraSupport = false := by
        rw [hsupport, hrole]
        decide
      exact ⟨h.ring_clientInv htf ha, (h.intervals htf).1, hmra⟩
  | inter =>
      by_cases hmode : mrp.inMode = .rc ∨ mrp.inMode = .lc
      · exact ⟨h.inter_clientInv htf hmode ha, (h.intervals htf).2, hmode⟩
      · have hstate := h.micState_of_mode ha hmode
        have hstate' : (mrp.step e).micState = .acStat1 := by
          refine (h.goOn [e]).micState_of_mode ha ?_
          rw [run_toMrpConf]
          exact hmode
        cases up with
        | true => exact absurd (hstate'.symm.trans hafter) (by decide)
        | false => exact absurd hstate hbefore

/-- What an announcement has come to after `n` expiries of its timer: how many there can be,
which frames were sent since the state `before`, and how state, timer and counter stand. -/
structure LinkProgress (side : TopoSide) (up : Bool) (before : Mrp) (ports : List Port) (n : Nat)
    (mrp : Mrp) : Prop where
  le : n ≤ (before.announceConf side).max.toNat + 1
  sent : mrp.announcedTimes (side.linkType up) =
    ((before.announceConf side).schedule ports
      (min n (before.announceConf side).max.toNat + 1)).reverse ++
        before.announcedTimes (side.linkType up)
  through : mrp.linkPorts side = ports
  running : n ≤ (before.announceConf side).max.toNat →
    mrp.Announcing up side ∧ (mrp.timer (side.linkTimer up)).active = true ∧
      (mrp.linkLeft side).toNat = (before.announceConf side).max.toNat - n
  finished : n = (before.announceConf side).max.toNat + 1 →
    mrp.Settled up side ∧ (mrp.timer (side.linkTimer up)).active = false ∧
      mrp.linkLeft side = (before.announceConf side).max

/-- The invariant of an announcement, read as progress. -/
theorem Mrp.Announces.progress {side : TopoSide} {up : Bool} {before : Mrp} {ports : List Port}
    {n : Nat} {mrp : Mrp} (h : Announces side up before ports n mrp) :
    LinkProgress side up before ports n mrp where
  le := h.le
  sent := h.sent
  through := h.through
  running := by
    intro hn
    have hclock := h.clock
    have hstate := h.state
    rw [if_pos hn] at hclock hstate
    exact ⟨hstate, congrArg Countdown.Clock.running hclock, congrArg Countdown.Clock.left hclock⟩
  finished := by
    intro hn
    have hclock := h.clock
    have hstate := h.state
    rw [if_neg (by omega)] at hclock hstate
    exact ⟨hstate, congrArg Countdown.Clock.running hclock,
      UInt32.toNat_inj.mp (congrArg Countdown.Clock.left hclock)⟩

/-- A client of the ring announces through its primary port, if the kernel has reported no
operational states but those it has. -/
theorem Created.linkPorts_ring {env : Env} {a : AddArgs} {mrp : Mrp} (h : Created env a mrp)
    (htf : env.timeFactor = 1) (ha : a.ringRole = ringRoleMrc) {es : List Event}
    (hes : ∀ e ∈ es, e.hasKnownState = true) {up : Bool}
    (hann : (run Mrp.step mrp es).Announcing up .ring) :
    (run Mrp.step mrp es).linkPorts .ring = [.ring (run Mrp.step mrp es).pPort] := by
  have hreach : Reachable env a (run Mrp.step mrp es) := ⟨mrp, es, h, rfl⟩
  have hstored := h.linksStored hes
  have hlinks := congrArg Prod.fst (hreach.ring_clientInv htf ha).links
  generalize run Mrp.step mrp es = m at hann hstored hlinks
  have hstate : m.mrcState = .announcing up := hann
  have hup : m.ring.isUp m.pPort = true := by
    refine hlinks.trans ?_
    rw [Mrp.ring_mrc, hstate]
    cases up <;> rfl
  have hlast : (m.ringPort m.pPort).lastLink = some true := of_decide_eq_true hup
  have hoper : m.isOperUp (.ring m.pPort) = true := by
    rw [Mrp.isOperUp_eq, hstored m.pPort hlast]
    rfl
  simp only [Mrp.linkPorts, List.filter_cons, List.filter_nil, hoper, if_true]

end Umrp
