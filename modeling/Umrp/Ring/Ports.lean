import Umrp.Creation

/-!
# Ring ports and ring states

Each state of the manager machine and of the client machine stands for a pair of
port states.  A manager without auto-manager support always has the ports that
its state stands for.  An auto-manager keeps two machines on one pair of ports,
and what the machine that is not in charge has left behind can reach the ports.

Main results:

- Theorem `manager_ports`: the ports of a manager that stays one.
- Theorem `autoManager_ports_iff`: an auto-manager has the prescribed ports all
  along a run exactly when the run contains no leftover step.
-/

namespace Umrp

open Octets EventMachine

/-! ## Prescribed ports -/

/-- The states of primary and secondary port that a manager state stands for. -/
def MrmState.ports : MrmState → PortState × PortState
  | .acStat1 => (.blocked, .blocked)
  | .prmUp | .chkRc => (.forwarding, .blocked)
  | .chkRo => (.forwarding, .forwarding)

/-- The states of primary and secondary port that a client state stands for. -/
def MrcState.ports : MrcState → PortState × PortState
  | .acStat1 => (.blocked, .blocked)
  | .deIdle | .pt | .de => (.forwarding, .blocked)
  | .ptIdle => (.forwarding, .forwarding)

namespace Ring

/-- The states of the current primary and the current secondary port. -/
def ports (x : Ring) : PortState × PortState := (x.state x.pPort, x.state x.sPort)

/-- The ports are as the machine of the current role prescribes. -/
def AsPrescribed (x : Ring) : Prop :=
  (x.role = .mrm → x.ports = x.mrm.ports) ∧ (x.role = .mrc → x.ports = x.mrc.ports)

/-! ## What every event keeps -/

/-- There are only two ring ports. -/
theorem eq_sPort {x : Ring} (h : x.pPort ≠ x.sPort) {r : RingPort} (hr : r ≠ x.pPort) :
    r = x.sPort := by
  revert h hr
  cases r <;> cases x.pPort <;> cases x.sPort <;> simp

/-- For a property of both ports it is enough to look at the two names. -/
theorem forall_port {x : Ring} (h : x.pPort ≠ x.sPort) {Q : RingPort → Prop} :
    (∀ r, Q r) ↔ Q x.pPort ∧ Q x.sPort := by
  refine ⟨fun hq => ⟨hq _, hq _⟩, fun hq r => ?_⟩
  rcases eq_or_ne r x.pPort with rfl | hr
  · exact hq.1
  · rw [eq_sPort h hr]
    exact hq.2

section Role

variable (c : LinkConf) (x : Ring)

theorem mrmLink_role (r : RingPort) (up : Bool) : (x.mrmLink r up).role = x.role := by
  unfold mrmLink
  split <;> split <;> (try split) <;> rfl

theorem mrcLink_role (r : RingPort) (up : Bool) : (x.mrcLink c r up).role = x.role := by
  unfold mrcLink
  split <;> split <;> (try split) <;> rfl

theorem close_role : x.close.role = x.role := by
  unfold close
  split <;> rfl

theorem opening_role : x.opening.role = x.role := by
  unfold opening
  split <;> rfl

theorem topology_role : (x.topology c).role = x.role := by
  unfold topology
  split <;> rfl

end Role

/-- What no event changes: the ports keep their interfaces and are at most
exchanged, and the role stays one that has a machine. -/
structure Kept (x y : Ring) : Prop where
  ifindex : y.ifindex = x.ifindex
  distinct : y.pPort ≠ y.sPort
  role : y.role = x.role ∨ y.role = .mrm ∨ y.role = .mrc

variable {c : LinkConf} {x : Ring}

/-- Link changes on a manager. -/
theorem mrmLink_kept (h : x.pPort ≠ x.sPort) (r : RingPort) (up : Bool) :
    Kept x (x.mrmLink r up) := by
  unfold mrmLink
  split <;> split <;> (try split) <;> constructor <;> simp_all [set, h.symm]

/-- Link changes on a client. -/
theorem mrcLink_kept (h : x.pPort ≠ x.sPort) (r : RingPort) (up : Bool) :
    Kept x (x.mrcLink c r up) := by
  unfold mrcLink
  split <;> split <;> (try split) <;> constructor <;> simp_all [set, h.symm]

/-- One event. -/
theorem step_kept (h : x.pPort ≠ x.sPort) (ev : Event) : Kept x (x.step c ev) := by
  have hsame : Kept x x := ⟨rfl, h, .inl rfl⟩
  cases ev with
  | link r up =>
      simp only [step, linkEvent]
      cases x.role with
      | mrm =>
          rcases mrmLink_kept (x := x.note r up) h r up with ⟨hifindex, hdistinct, hrole⟩
          exact ⟨hifindex, hdistinct, hrole⟩
      | mrc =>
          rcases mrcLink_kept (c := c) (x := x.note r up) h r up with ⟨hifindex, hdistinct, hrole⟩
          exact ⟨hifindex, hdistinct, hrole⟩
      | disabled => exact ⟨rfl, h, .inl rfl⟩
      | mra => exact ⟨rfl, h, .inl rfl⟩
  | closed =>
      simp only [step, close]
      split <;> exact ⟨rfl, h, .inl rfl⟩
  | opened =>
      simp only [step, opening]
      split <;> exact ⟨rfl, h, .inl rfl⟩
  | topologyChange =>
      simp only [step, topology]
      split <;> exact ⟨rfl, h, .inl rfl⟩
  | nacked =>
      simp only [step, giveUp]
      split
      · exact ⟨rfl, h, .inl rfl⟩
      all_goals exact ⟨rfl, h, .inr (.inr rfl)⟩
  | managerLost =>
      simp only [step, takeOver]
      split
      · exact hsame
      all_goals exact ⟨rfl, h, .inr (.inl rfl)⟩
  | linkUpTick =>
      simp only [step, upTick]
      split <;> exact ⟨rfl, h, .inl rfl⟩
  | linkDownTick =>
      simp only [step, downTick]
      split <;> exact ⟨rfl, h, .inl rfl⟩
  | silent => exact hsame

/-! ## Port tables -/

/-- Link changes on a manager keep the ports that its state stands for. -/
theorem mrmLink_ports (h : x.pPort ≠ x.sPort) (hx : x.ports = x.mrm.ports) (r : RingPort)
    (up : Bool) : (x.mrmLink r up).ports = (x.mrmLink r up).mrm.ports := by
  unfold mrmLink
  have hs := h.symm
  rcases eq_or_ne r x.pPort with rfl | hr
  · cases hm : x.mrm <;> cases up <;>
      simp_all [ports, MrmState.ports, set]
  · have hr' := hr.symm
    cases hm : x.mrm <;> cases up <;>
      simp_all [ports, MrmState.ports, set]

/-- Link changes on a client keep the ports that its state stands for. -/
theorem mrcLink_ports (h : x.pPort ≠ x.sPort) (hx : x.ports = x.mrc.ports) (r : RingPort)
    (up : Bool) : (x.mrcLink c r up).ports = (x.mrcLink c r up).mrc.ports := by
  unfold mrcLink
  have hs := h.symm
  rcases eq_or_ne r x.pPort with rfl | hr
  · cases hm : x.mrc <;> cases up <;>
      simp_all [ports, MrcState.ports, set]
  · have hr' := hr.symm
    cases hm : x.mrc <;> cases up <;>
      simp_all [ports, MrcState.ports, set]

/-- A manager that sees the ring closed keeps the ports that its state stands for. -/
theorem close_ports (h : x.pPort ≠ x.sPort) (hx : x.ports = x.mrm.ports) :
    x.close.ports = x.close.mrm.ports := by
  unfold close
  cases hm : x.mrm <;> simp_all [ports, MrmState.ports, set]

/-- A manager that sees the ring open keeps the ports that its state stands for. -/
theorem opening_ports (h : x.pPort ≠ x.sPort) (hx : x.ports = x.mrm.ports) :
    x.opening.ports = x.opening.mrm.ports := by
  unfold opening
  cases hm : x.mrm <;> simp_all [ports, MrmState.ports, set]

/-- A topology change keeps the ports that the client state stands for. -/
theorem topology_ports (h : x.pPort ≠ x.sPort) (hx : x.ports = x.mrc.ports) :
    (x.topology c).ports = (x.topology c).mrc.ports := by
  unfold topology
  cases hm : x.mrc <;> simp_all [ports, MrcState.ports, set]

/-! ## A manager without auto-manager support -/

/-- The announcement timers belong to the client and stay off on a manager. -/
structure ManagerInv (pport sport : UInt32) (x : Ring) : Prop where
  ifindex : x.ifindex = (Ring.fresh pport sport .mrm 0).ifindex
  distinct : x.pPort ≠ x.sPort
  role : x.role = .mrm ∨ x.role = .mrc
  manager : x.role = .mrm → x.ports = x.mrm.ports ∧ x.linkUp = false ∧ x.linkDown = false

theorem fresh_managerInv {pport sport count : UInt32} :
    ManagerInv pport sport (Ring.fresh pport sport .mrm count) :=
  ⟨rfl, Ring.fresh_distinct, .inl rfl, fun _ => ⟨rfl, rfl, rfl⟩⟩

/-- The manager machine does not touch the announcement timers. -/
theorem mrmLink_timers (r : RingPort) (up : Bool) :
    (x.mrmLink r up).linkUp = x.linkUp ∧ (x.mrmLink r up).linkDown = x.linkDown := by
  unfold mrmLink
  split <;> split <;> (try split) <;> exact ⟨rfl, rfl⟩

/-- Without auto-manager support there is no takeover. -/
theorem ne_managerLost {ev : Event} (hen : x.Enabled false ev) : ev ≠ .managerLost := by
  rintro rfl
  exact absurd hen.2 (by decide)

/-- A client stays a client until it takes over. -/
theorem step_role_mrc {mra : Bool} {ev : Event} (hen : x.Enabled mra ev)
    (hev : ev ≠ .managerLost) (hrole : x.role = .mrc) : (x.step c ev).role = .mrc := by
  cases ev with
  | link r up =>
      simp only [step, linkEvent, hrole]
      exact (mrcLink_role c (x.note r up) r up).trans hrole
  | closed => exact x.close_role.trans hrole
  | opened => exact x.opening_role.trans hrole
  | topologyChange => exact (topology_role c x).trans hrole
  | nacked => exact absurd hrole hen
  | managerLost => exact absurd rfl hev
  | linkUpTick =>
      simp only [step, upTick]
      split <;> exact hrole
  | linkDownTick =>
      simp only [step, downTick]
      split <;> exact hrole
  | silent => exact hrole

/-- As long as it is a manager, every enabled event keeps the ports of a manager. -/
theorem step_manager {ev : Event} (hen : x.Enabled false ev) (hd : x.pPort ≠ x.sPort)
    (hrole : x.role = .mrm) (hports : x.ports = x.mrm.ports)
    (htimers : x.linkUp = false ∧ x.linkDown = false) (hmrm : (x.step c ev).role = .mrm) :
    (x.step c ev).ports = (x.step c ev).mrm.ports ∧ (x.step c ev).linkUp = false ∧
      (x.step c ev).linkDown = false := by
  cases ev with
  | link r up =>
      rcases (x.note r up).mrmLink_timers r up with ⟨hup, hdown⟩
      simp only [step, linkEvent, hrole]
      rw [hup, hdown]
      exact ⟨mrmLink_ports (x := x.note r up) hd hports r up, htimers⟩
  | closed =>
      refine ⟨close_ports hd hports, ?_⟩
      simp only [step, close]
      split <;> exact htimers
  | opened =>
      refine ⟨opening_ports hd hports, ?_⟩
      simp only [step, opening]
      split <;> exact htimers
  | topologyChange =>
      rw [Enabled, hrole] at hen
      cases hen
  | nacked =>
      simp only [step, giveUp] at hmrm ⊢
      cases hm : x.mrm with
      | acStat1 =>
          rw [hm] at hports
          simpa [ports, hm] using ⟨hports, htimers⟩
      | prmUp => simp [hm] at hmrm
      | chkRo => simp [hm] at hmrm
      | chkRc => simp [hm] at hmrm
  | managerLost => exact absurd hen.2 (by decide)
  | linkUpTick =>
      rw [Enabled, htimers.1] at hen
      cases hen
  | linkDownTick =>
      rw [Enabled, htimers.2] at hen
      cases hen
  | silent => exact ⟨hports, htimers⟩

/-- Every enabled event keeps the invariant of a manager. -/
theorem ManagerInv.step {pport sport : UInt32} (hx : ManagerInv pport sport x) {ev : Event}
    (hen : x.Enabled false ev) : ManagerInv pport sport (x.step c ev) := by
  rcases step_kept (c := c) hx.distinct ev with ⟨hifindex, hdistinct, hrole⟩
  refine ⟨hifindex.trans hx.ifindex, hdistinct, ?_, ?_⟩
  · rcases hrole with h | h
    · rw [h]
      exact hx.role
    · exact h
  · intro hmrm
    rcases hx.role with h | h
    · rcases hx.manager h with ⟨hports, htimers⟩
      exact step_manager hen hx.distinct h hports htimers hmrm
    · rw [step_role_mrc hen (ne_managerLost hen) h] at hmrm
      cases hmrm

/-! ## An auto-manager -/

/-- Events that reach the ports through what the other role has left behind: the
last expiry of an announcement timer of the client, outside the state that
started it, and an own test frame while the manager state still says that the
ring is open. -/
def Leftover (x : Ring) : Event → Prop
  | .linkUpTick =>
      x.count = 0 ∧ (x.role = .mrm ∧ x.mrm ≠ .chkRo ∨ x.role = .mrc ∧ x.mrc = .acStat1)
  | .linkDownTick => x.count = 0 ∧ x.role = .mrc ∧ (x.mrc = .acStat1 ∨ x.mrc = .ptIdle)
  | .closed => x.role = .mrc ∧ x.mrm = .chkRo ∧ x.mrc = .ptIdle
  | _ => False

/-- The ports are distinct and the role is one that has a machine. -/
structure AutoInv (x : Ring) : Prop where
  distinct : x.pPort ≠ x.sPort
  role : x.role = .mrm ∨ x.role = .mrc

theorem AutoInv.step (hx : AutoInv x) (ev : Event) : AutoInv (x.step c ev) := by
  rcases step_kept (c := c) hx.distinct ev with ⟨-, hdistinct, hrole⟩
  refine ⟨hdistinct, ?_⟩
  rcases hrole with h | h
  · rw [h]
    exact hx.role
  · exact h

theorem asPrescribed_of_mrm (hrole : x.role = .mrm) :
    x.AsPrescribed ↔ x.ports = x.mrm.ports := by
  simp [AsPrescribed, hrole]

theorem asPrescribed_of_mrc (hrole : x.role = .mrc) :
    x.AsPrescribed ↔ x.ports = x.mrc.ports := by
  simp [AsPrescribed, hrole]

/-- While announcements are left, an expiry only counts them down. -/
theorem upTick_asPrescribed (hcount : x.count > 0) :
    (x.upTick c).AsPrescribed ↔ x.AsPrescribed := by
  simp [upTick, hcount, AsPrescribed, ports]

theorem downTick_asPrescribed (hcount : x.count > 0) :
    (x.downTick c).AsPrescribed ↔ x.AsPrescribed := by
  simp [downTick, hcount, AsPrescribed, ports]

/-- Only the last expiry can be leftover. -/
theorem not_leftover_of_pos (hcount : x.count > 0) :
    ¬ x.Leftover .linkUpTick ∧ ¬ x.Leftover .linkDownTick := by
  have hne : x.count ≠ 0 := UInt32.pos_iff_ne_zero.mp hcount
  exact ⟨fun h => hne h.1, fun h => hne h.1⟩

theorem count_eq_zero (hcount : ¬ x.count > 0) : x.count = 0 := by
  simpa [UInt32.pos_iff_ne_zero] using hcount

/-- In the manager role, an event keeps the prescribed ports unless it is leftover. -/
theorem step_asPrescribed_mrm {ev : Event} (hd : x.pPort ≠ x.sPort) (hrole : x.role = .mrm)
    (hx : x.ports = x.mrm.ports) (hen : x.Enabled true ev) :
    (x.step c ev).AsPrescribed ↔ ¬ x.Leftover ev := by
  cases ev with
  | link r up =>
      have hmrm : (x.step c (.link r up)) = (x.note r up).mrmLink r up := by
        simp [step, linkEvent, hrole]
      have hrole' := ((x.note r up).mrmLink_role r up).trans hrole
      rw [hmrm, asPrescribed_of_mrm hrole']
      exact iff_of_true (mrmLink_ports (x := x.note r up) hd hx r up) id
  | closed =>
      refine (asPrescribed_of_mrm (x.close_role.trans hrole)).trans ?_
      exact iff_of_true (close_ports hd hx) fun h => by simp [Leftover, hrole] at h
  | opened =>
      refine (asPrescribed_of_mrm (x.opening_role.trans hrole)).trans ?_
      exact iff_of_true (opening_ports hd hx) id
  | topologyChange =>
      rw [Enabled, hrole] at hen
      cases hen
  | nacked =>
      refine iff_of_true ?_ id
      cases hm : x.mrm <;>
        simp_all [step, giveUp, AsPrescribed, ports, MrmState.ports, MrcState.ports, set]
  | managerLost =>
      rw [Enabled, hrole] at hen
      cases hen.1
  | linkUpTick =>
      by_cases hcount : x.count > 0
      · refine iff_of_true ((upTick_asPrescribed hcount).mpr ?_) (not_leftover_of_pos hcount).1
        exact (asPrescribed_of_mrm hrole).mpr hx
      · have hzero := count_eq_zero hcount
        cases hm : x.mrm <;>
          simp_all [step, upTick, Leftover, AsPrescribed, ports, MrmState.ports, set]
  | linkDownTick =>
      refine iff_of_true ?_ fun h => by simp [Leftover, hrole] at h
      simp only [step, downTick]
      split
      all_goals
        rw [asPrescribed_of_mrm]
        · exact hx
        · exact hrole
  | silent => exact iff_of_true ((asPrescribed_of_mrm hrole).mpr hx) id

/-- In the client role, an event keeps the prescribed ports unless it is leftover. -/
theorem step_asPrescribed_mrc {ev : Event} (hd : x.pPort ≠ x.sPort) (hrole : x.role = .mrc)
    (hx : x.ports = x.mrc.ports) (hen : x.Enabled true ev) :
    (x.step c ev).AsPrescribed ↔ ¬ x.Leftover ev := by
  cases ev with
  | link r up =>
      have hmrc : (x.step c (.link r up)) = (x.note r up).mrcLink c r up := by
        simp [step, linkEvent, hrole]
      have hrole' := (mrcLink_role c (x.note r up) r up).trans hrole
      rw [hmrc, asPrescribed_of_mrc hrole']
      exact iff_of_true (mrcLink_ports (x := x.note r up) hd hx r up) id
  | closed =>
      refine (asPrescribed_of_mrc (x.close_role.trans hrole)).trans ?_
      cases hm : x.mrm <;> cases hc : x.mrc <;>
        simp_all [close, Leftover, ports, MrcState.ports, set]
  | opened =>
      rw [Enabled, hrole] at hen
      cases hen.1
  | topologyChange =>
      refine (asPrescribed_of_mrc ((topology_role c x).trans hrole)).trans ?_
      exact iff_of_true (topology_ports hd hx) id
  | nacked => exact absurd hrole hen
  | managerLost =>
      refine iff_of_true ?_ id
      cases hm : x.mrc <;>
        simp_all [step, takeOver, AsPrescribed, ports, MrmState.ports, MrcState.ports]
  | linkUpTick =>
      by_cases hcount : x.count > 0
      · refine iff_of_true ((upTick_asPrescribed hcount).mpr ?_) (not_leftover_of_pos hcount).1
        exact (asPrescribed_of_mrc hrole).mpr hx
      · have hzero := count_eq_zero hcount
        cases hm : x.mrc <;>
          simp_all [step, upTick, Leftover, AsPrescribed, ports, MrcState.ports, set]
  | linkDownTick =>
      by_cases hcount : x.count > 0
      · refine iff_of_true ((downTick_asPrescribed hcount).mpr ?_) (not_leftover_of_pos hcount).2
        exact (asPrescribed_of_mrc hrole).mpr hx
      · have hzero := count_eq_zero hcount
        cases hm : x.mrc <;>
          simp_all [step, downTick, Leftover, AsPrescribed, ports, MrcState.ports]
  | silent => exact iff_of_true ((asPrescribed_of_mrc hrole).mpr hx) id

/-- An event keeps the prescribed ports unless it is leftover. -/
theorem step_asPrescribed {ev : Event} (hinv : x.AutoInv) (hx : x.AsPrescribed)
    (hen : x.Enabled true ev) : (x.step c ev).AsPrescribed ↔ ¬ x.Leftover ev := by
  rcases hinv.role with hrole | hrole
  · exact step_asPrescribed_mrm hinv.distinct hrole (hx.1 hrole) hen
  · exact step_asPrescribed_mrc hinv.distinct hrole (hx.2 hrole) hen

end Ring

/-- The ports and timers of an instance in the manager role. -/
structure ManagerPorts (a : AddArgs) (mrp : Mrp) : Prop where
  distinct : mrp.pPort ≠ mrp.sPort
  primary : (mrp.ringPort .primary).ifindex = a.pport
  secondary : (mrp.ringPort .secondary).ifindex = a.sport
  acStat1 : mrp.mrmState = .acStat1 → mrp.pState = .blocked ∧ mrp.sState = .blocked
  prmUp : mrp.mrmState = .prmUp → mrp.pState = .forwarding ∧ mrp.sState = .blocked
  chkRc : mrp.mrmState = .chkRc → mrp.pState = .forwarding ∧ mrp.sState = .blocked
  chkRo : mrp.mrmState = .chkRo → mrp.pState = .forwarding ∧ mrp.sState = .forwarding
  linkUp : mrp.ringLinkUpWork.active = false
  linkDown : mrp.ringLinkDownWork.active = false

/-- An instance that was created as a manager satisfies the invariant. -/
theorem Reachable.managerInv {env : Env} {a : AddArgs} {mrp : Mrp} (h : Reachable env a mrp)
    (ha : a.ringRole = ringRoleMrm) : Ring.ManagerInv a.pport a.sport mrp.ring := by
  have hmra : decide (a.ringRole = ringRoleMra) = false := by rw [ha]; decide
  refine h.ring_invariant (.inr (.inl ha)) ?_ ?_
  · rw [ha]
    exact Ring.fresh_managerInv
  · intro x ev hx hen
    rw [hmra] at hen
    exact hx.step hen

/-- In every reachable state in which an instance that was created as a manager
still is one, its two ports are the ones it was created with, they have the
states that the manager state stands for, and no link announcement is running. -/
theorem manager_ports {env : Env} {a : AddArgs} {mrp : Mrp} (ha : a.ringRole = ringRoleMrm)
    (h : Reachable env a mrp) (hrole : mrp.ringRole = .mrm) : ManagerPorts a mrp := by
  have hinv := h.managerInv ha
  rcases hinv.manager hrole with ⟨hports, hup, hdown⟩
  have htable : ∀ {s}, mrp.mrmState = s → (mrp.pState, mrp.sState) = s.ports := by
    rintro s rfl
    exact hports
  refine ⟨hinv.distinct, congrFun hinv.ifindex .primary, congrFun hinv.ifindex .secondary,
    ?_, ?_, ?_, ?_, hup, hdown⟩
  all_goals
    intro hs
    exact Prod.mk.inj (htable hs)

/-- A manager whose secondary port has lost its link and whose test timer has expired. -/
theorem manager_ports_sample :
    ManagerPorts (Sample.args ringRoleMrm 0)
      (run Mrp.step (Sample.mrp ringRoleMrm 0)
        [.linkChange (.ring .secondary) false, .expired .ringTest]) :=
  manager_ports rfl ⟨_, _, Sample.created (by decide +kernel), rfl⟩ (by decide +kernel)

/-! ## Instances with auto-manager support -/

namespace Mrp

/-- The ring ports are as the state of the current role prescribes. -/
def PortsAsPrescribed (mrp : Mrp) : Prop :=
  (mrp.ringRole = .mrm → (mrp.pState, mrp.sState) = mrp.mrmState.ports) ∧
    (mrp.ringRole = .mrc → (mrp.pState, mrp.sState) = mrp.mrcState.ports)

instance : DecidablePred PortsAsPrescribed :=
  fun _ => inferInstanceAs (Decidable (_ ∧ _))

/-- The frame is a test frame of the instance's own that reaches its handler. -/
def HandlesOwnTest (mrp : Mrp) (p : Port) (rx : RxFrame) : Prop :=
  ∃ buf, mrp.delivered p rx = some (.ringTest, buf) ∧ RingTestHdr.sa (tlvBody buf) = mrp.macaddr

/-- Steps in which something left over from the other role reaches the ports:
the last expiry of a link announcement timer that outlived the state it was
started in, or an own test frame that a client hands to a manager state which
still says that the ring is open. -/
def LeftoverStep (mrp : Mrp) : Event → Prop
  | .expired .ringLinkUp =>
      mrp.ringLinkUpWork.active = true ∧ mrp.ringLinkCurrMax = 0 ∧
        (mrp.ringRole = .mrm ∧ mrp.mrmState ≠ .chkRo ∨
          mrp.ringRole = .mrc ∧ mrp.mrcState = .acStat1)
  | .expired .ringLinkDown =>
      mrp.ringLinkDownWork.active = true ∧ mrp.ringLinkCurrMax = 0 ∧ mrp.ringRole = .mrc ∧
        (mrp.mrcState = .acStat1 ∨ mrp.mrcState = .ptIdle)
  | .recv p rx =>
      mrp.HandlesOwnTest p rx ∧ mrp.ringRole = .mrc ∧ mrp.mrmState = .chkRo ∧
        mrp.mrcState = .ptIdle
  | _ => False

/-- A handled frame is leftover exactly when its event of the ring machine is. -/
theorem leftover_frameEvent {mrp : Mrp} {buf : Buf} {type : TlvType}
    (h : mrp.shouldProcess type = true) :
    mrp.ring.Leftover (mrp.frameEvent buf type) ↔
      (type = .ringTest ∧ RingTestHdr.sa (tlvBody buf) = mrp.macaddr) ∧ mrp.ringRole = .mrc ∧
        mrp.mrmState = .chkRo ∧ mrp.mrcState = .ptIdle := by
  have hlink : ∀ {ev : Ring.Event}, mrp.ringRole = .mrm → ev = .closed ∨ ev = .opened ∨
      ev = .silent → ¬ mrp.ring.Leftover ev := by
    rintro ev hrole (rfl | rfl | rfl)
    · simp [Ring.Leftover, hrole]
    · exact id
    · exact id
  cases type with
  | ringTest =>
      simp only [frameEvent, etherAddrEqual_iff]
      split <;> simp [Ring.Leftover, *]
  | ringLinkDown | ringLinkUp =>
      simp only [shouldProcess, decide_eq_true_eq] at h
      refine iff_of_false (hlink h ?_) (by simp)
      simp only [frameEvent]
      split
      · exact .inl rfl
      · split <;> simp
  | ringTopo | option =>
      simp only [frameEvent]
      split <;> simp [Ring.Leftover]
  | _ => simp [frameEvent, Ring.Leftover]

/-- A step is leftover exactly when its event of the ring machine is. -/
theorem leftover_ringEvent (mrp : Mrp) (e : Event) :
    mrp.ring.Leftover (mrp.ringEvent e) ↔ mrp.LeftoverStep e := by
  cases e with
  | recv p rx =>
      simp only [ringEvent, LeftoverStep, HandlesOwnTest]
      cases hdel : mrp.delivered p rx with
      | none => simp [Ring.Leftover]
      | some x =>
          rcases x with ⟨type, buf⟩
          simp only
          rw [leftover_frameEvent (recv_of_delivered hdel).1]
          simp
  | linkChange p up => cases p <;> simp [ringEvent, Ring.Leftover, LeftoverStep]
  | operstate p state =>
      cases p with
      | inter => simp [ringEvent, Ring.Leftover, LeftoverStep]
      | ring r =>
          simp only [ringEvent, LeftoverStep]
          split
          · simp [Ring.Leftover]
          · split <;> simp [Ring.Leftover]
  | expired w =>
      simp only [ringEvent]
      cases w with
      | ringTest =>
          simp only [timerEvent, LeftoverStep]
          split
          · split
            · split <;> simp [Ring.Leftover]
            · split <;> simp [Ring.Leftover]
          · simp [Ring.Leftover]
      | ringLinkUp =>
          simp only [timer, timerEvent, LeftoverStep]
          by_cases hactive : mrp.ringLinkUpWork.active = true <;> simp [Ring.Leftover, hactive]
      | ringLinkDown =>
          simp only [timer, timerEvent, LeftoverStep]
          by_cases hactive : mrp.ringLinkDownWork.active = true <;> simp [Ring.Leftover, hactive]
      | _ => simp [timerEvent, Ring.Leftover, LeftoverStep]
  | _ => simp [ringEvent, Ring.Leftover, LeftoverStep]

end Mrp

/-- An instance that was created as an auto-manager has the prescribed ports in
every state of a run exactly when the run contains no leftover step. -/
theorem autoManager_ports_iff {env : Env} {a : AddArgs} {mrp : Mrp}
    (ha : a.ringRole = ringRoleMra) (h : Created env a mrp) (es : List Event) :
    Always Mrp.step Mrp.PortsAsPrescribed mrp es ↔
      Guarded Mrp.step (fun m e => ¬ m.LeftoverStep e) mrp es := by
  have hfresh : mrp.ring.AutoInv ∧ mrp.ring.AsPrescribed := by
    refine h.ring_of_fresh (I := fun x => x.AutoInv ∧ x.AsPrescribed) (.inr (.inr ha)) ?_ ?_
    · rw [ha]
      exact ⟨⟨Ring.fresh_distinct, .inl rfl⟩, fun _ => rfl, nofun⟩
    · rintro x r ⟨hinv, hx⟩
      have hen : x.Enabled true (.link r true) := trivial
      exact ⟨hinv.step _, (Ring.step_asPrescribed hinv hx hen).mpr id⟩
  refine always_iff_guarded
    (I := fun m : Mrp => m.ring.AutoInv ∧ m.mraSupport = true) ?_ ?_ ⟨hfresh.1, ?_⟩ hfresh.2 es
  · rintro m e ⟨hinv, hmra⟩ - -
    rw [m.step_ring e, m.step_toMrpConf]
    exact ⟨hinv.step _, hmra⟩
  · rintro m e ⟨hinv, hmra⟩ hm
    have hen := m.ringEvent_enabled e
    rw [hmra] at hen
    have hstep := Ring.step_asPrescribed (c := m.linkConf) hinv hm hen
    rw [← m.step_ring e, m.leftover_ringEvent e] at hstep
    exact hstep
  · rw [h.mraSupport, ha]
    rfl

/-- Link changes and test timers are never leftover steps. -/
theorem autoManager_ports_iff_sample :
    Always Mrp.step Mrp.PortsAsPrescribed (Sample.mrp ringRoleMra 0)
      [.linkChange (.ring .secondary) false, .expired .ringTest] :=
  (autoManager_ports_iff rfl (Sample.created (by decide +kernel)) _).mpr ⟨id, id, trivial⟩

/-- An auto-manager opens the ring on a link failure elsewhere, is told that there
is a better manager, and then gets a test frame that it had sent before. -/
def Sample.leftoverTest : List Event :=
  [.recv (.ring .primary) (frame (mac 9) 0x8000 (.ringLink false 0)),
    .recv (.ring .primary) (frame (mac 9) 0x1000 (.testMgrNack (mac 1))),
    .recv (.ring .secondary) (frame (mac 1) 0x8000 (.ringTest true 0 0))]

/-- The late test frame blocks the secondary port of a client in PT_IDLE. -/
theorem autoManager_leftoverTest :
    ∃ mrp, Reachable Sample.env (Sample.args ringRoleMra 0) mrp ∧ mrp.ringRole = .mrc ∧
      mrp.mrcState = .ptIdle ∧ mrp.sState = .blocked ∧ ¬ mrp.PortsAsPrescribed :=
  ⟨run Mrp.step (Sample.mrp ringRoleMra 0) Sample.leftoverTest,
    ⟨_, _, Sample.created (by decide +kernel), rfl⟩, by decide +kernel⟩

end Umrp
