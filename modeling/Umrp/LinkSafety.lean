import Umrp.Inter.Ports
import Umrp.Ring.Ports

/-!
# Managed ports whose link is down

The link handlers of both managers block a port whose link goes down.  The
handlers of frames and timers do not look at links: a late test frame takes the
manager into its checking state while a link is down, and from there the port is
opened when test frames stay away.

Main results:

- Theorem `Ring.step_downClosed_iff`: which events open a ring port whose link is
  down.
- Theorem `Inter.step_downClosed_iff`: the same for the interconnection port.
- Theorem `downPort_closed_iff`: the managed ports whose link is down stay closed
  along a run exactly when no step of the run is such an event.
-/

namespace Umrp

open EventMachine

/-! ## Ring ports -/

namespace Ring

/-- As long as the role is that of a manager, no port whose last link event was
down forwards. -/
def DownClosed (x : Ring) : Prop :=
  x.role = .mrm → ∀ r, x.link r = some false → x.state r ≠ .forwarding

/-- Events that make the secondary port forward, in a manager that takes the ring
for closed although the link of that port is down. -/
def OpensDown (x : Ring) (ev : Event) : Prop :=
  x.role = .mrm ∧ x.mrm = .chkRc ∧ x.link x.sPort = some false ∧
    (ev = .opened ∨ ev = .link x.pPort false)

variable {c : LinkConf} {x : Ring}

/-- A link event in the manager machine. -/
theorem mrmLink_downClosed_iff (hd : x.pPort ≠ x.sPort) (hports : x.ports = x.mrm.ports)
    (hx : ∀ r, x.link r = some false → x.state r ≠ .forwarding) (r : RingPort) (up : Bool) :
    (∀ q, ((x.note r up).mrmLink r up).link q = some false →
        ((x.note r up).mrmLink r up).state q ≠ .forwarding) ↔
      ¬ (x.mrm = .chkRc ∧ x.link x.sPort = some false ∧ r = x.pPort ∧ up = false) := by
  have hs := hd.symm
  simp only [forall_port hd] at hx ⊢
  unfold mrmLink
  rcases eq_or_ne r x.pPort with rfl | hr
  · cases hm : x.mrm <;> cases up <;>
      simp_all [ports, MrmState.ports, note, set]
  · obtain rfl : r = x.sPort := eq_sPort hd hr
    cases hm : x.mrm <;> cases up <;>
      simp_all [ports, MrmState.ports, note, set]

/-- In a manager, an event keeps ports with a link that is down closed unless it is
one of those above. -/
theorem step_downClosed_iff {pport sport : UInt32} (hinv : ManagerInv pport sport x)
    (hx : x.DownClosed) {ev : Event} (hen : x.Enabled false ev) :
    (x.step c ev).DownClosed ↔ ¬ x.OpensDown ev := by
  rcases hinv.role with hrole | hrole
  · rcases hinv.manager hrole with ⟨hports, hup, hdown⟩
    have hclosed := hx hrole
    cases ev with
    | link r up =>
        have hrole' : ((x.note r up).mrmLink r up).role = .mrm :=
          ((x.note r up).mrmLink_role r up).trans hrole
        have hlink := mrmLink_downClosed_iff hinv.distinct hports hclosed r up
        simp only [step, linkEvent, hrole, DownClosed, hrole', forall_const, hlink, OpensDown,
          true_and]
        simp
    | closed =>
        refine iff_of_true (fun _ => ?_) (by simp [OpensDown])
        simp only [step, close]
        split
        · exact hclosed
        · exact hclosed
        · exact hclosed
        next =>
          intro r hr
          rcases eq_or_ne r x.sPort with rfl | hne
          · simp [set]
          · simpa [set, hne] using hclosed r hr
    | opened =>
        have hchk : x.mrm = .chkRc := hen.2
        simp only [DownClosed, step, opening, hchk, OpensDown, hrole, forall_const, true_and,
          true_or, and_true, set]
        constructor
        · intro h hlink
          exact h x.sPort hlink (by simp)
        · intro hlink r hr
          rcases eq_or_ne r x.sPort with rfl | hne
          · exact absurd hr hlink
          · simpa [hne] using hclosed r hr
    | topologyChange =>
        rw [Enabled, hrole] at hen
        cases hen
    | nacked =>
        refine iff_of_true ?_ (by simp [OpensDown])
        simp only [step, giveUp]
        split
        · exact fun _ => hclosed
        all_goals
          intro h
          cases h
    | managerLost => exact absurd rfl (ne_managerLost hen)
    | linkUpTick =>
        rw [Enabled, hup] at hen
        cases hen
    | linkDownTick =>
        rw [Enabled, hdown] at hen
        cases hen
    | silent => exact iff_of_true (fun _ => hclosed) (by simp [OpensDown])
  · refine iff_of_true (fun h => ?_) (by simp [OpensDown, hrole])
    rw [step_role_mrc hen (ne_managerLost hen) hrole] at h
    cases h

end Ring

/-! ## The interconnection port -/

namespace Inter

/-- On a manager the port does not forward if its last link event was down. -/
def DownClosed (x : Inter) : Prop :=
  x.role = .mim → ∀ port, x.port = some port → port.link = some false → port.state ≠ .forwarding

/-- Events that leave the port of a manager forwarding while its link is down.  A
mode that is neither of the two known ones makes the link handler ignore the event. -/
def OpensDown (c : InterConf) (x : Inter) (ev : Event) : Prop :=
  x.role = .mim ∧ ∃ port, x.port = some port ∧
    (ev = .opened ∧ port.link = some false ∨
      ev = .link false ∧ port.state = .forwarding ∧ c.mode ≠ .rc ∧ c.mode ≠ .lc)

variable {c : InterConf} {x : Inter}

/-- A link event in the manager machine. -/
theorem mimLink_downClosed_iff (hinv : ManagerInv x) (up : Bool) :
    (x.linkEvent c up).DownClosed ↔ ¬ x.OpensDown c (.link up) := by
  rcases hinv with ⟨hrole, ⟨link, hport⟩, -, -⟩
  simp only [Inter.linkEvent, hrole, mimLink, OpensDown, hport]
  cases hmode : c.mode <;> cases up <;> cases hm : x.mim <;>
    simp [DownClosed, note, set, hport, hrole, hm, MimState.port]

/-- In a manager, an event keeps a port with a link that is down closed unless it
is one of those above. -/
theorem step_downClosed_iff (hinv : ManagerInv x) (hx : x.DownClosed) {ev : Event}
    (hen : x.Enabled ev) : (x.step c ev).DownClosed ↔ ¬ x.OpensDown c ev := by
  have hrole := hinv.role
  rcases hinv.port with ⟨link, hport⟩
  cases ev with
  | link up => exact mimLink_downClosed_iff hinv up
  | closed =>
      refine iff_of_true ?_ (by simp [OpensDown])
      simp only [step, close]
      split
      · simp [DownClosed, set, hport]
      · simp [DownClosed, set, hport]
      · exact hx
  | opened =>
      have hchk : x.mim = .chkIc := hen
      simp [DownClosed, step, opening, OpensDown, hchk, hrole, hport, set]
  | topologyChange own =>
      rw [Enabled, hrole] at hen
      cases hen
  | linkUpTick =>
      rw [Enabled, hinv.linkUp] at hen
      cases hen
  | linkDownTick =>
      rw [Enabled, hinv.linkDown] at hen
      cases hen
  | silent => exact iff_of_true hx (by simp [OpensDown])

end Inter

/-! ## Instances -/

namespace Mrp

/-- A ring manager does not forward on a port whose last link event was down. -/
def RingDownClosed (mrp : Mrp) : Prop :=
  mrp.ringRole = .mrm →
    ∀ r, (mrp.ringPort r).lastLink = some false → (mrp.ringPort r).state ≠ .forwarding

/-- An interconnection manager does not forward on its interconnection port if the
last link event of that port was down. -/
def InDownClosed (mrp : Mrp) : Prop :=
  mrp.inRole = .mim →
    ∀ port, mrp.iPort = some port → port.lastLink = some false → port.state ≠ .forwarding

/-- Steps that make a ring manager forward on its secondary port although the last
link event of that port was down: the manager is in CHK_RC, and it sees the ring
open or loses the link of the primary port. -/
def OpensDownRingPort (mrp : Mrp) (e : Event) : Prop :=
  mrp.ringRole = .mrm ∧ mrp.mrmState = .chkRc ∧
    (mrp.ringPort mrp.sPort).lastLink = some false ∧
    (mrp.ringEvent e = .opened ∨ mrp.ringEvent e = .link mrp.pPort false)

/-- Steps that leave an interconnection manager forwarding although the last link
event of its port was down. -/
def OpensDownInPort (mrp : Mrp) (e : Event) : Prop :=
  mrp.inRole = .mim ∧ ∃ port, mrp.iPort = some port ∧
    (mrp.interEvent e = .opened ∧ port.lastLink = some false ∨
      mrp.interEvent e = .link false ∧ port.state = .forwarding ∧ mrp.inMode ≠ .rc ∧
        mrp.inMode ≠ .lc)

theorem inDownClosed_iff (mrp : Mrp) : mrp.inter.DownClosed ↔ mrp.InDownClosed := by
  simp [Inter.DownClosed, InDownClosed, MrpPort.inter]

theorem opensDownInPort_iff (mrp : Mrp) (e : Event) :
    mrp.inter.OpensDown mrp.interConf (mrp.interEvent e) ↔ mrp.OpensDownInPort e := by
  simp [Inter.OpensDown, OpensDownInPort, MrpPort.inter, MrpConf.interConf]

end Mrp

section Runs

variable {env : Env} {a : AddArgs} {mrp : Mrp}

/-- The ring ports of an instance that was created as a manager. -/
theorem ringDownClosed_run_iff (h : Created env a mrp) (ha : a.ringRole = ringRoleMrm)
    (es : List Event) :
    Always Mrp.step Mrp.RingDownClosed mrp es ↔
      Guarded Mrp.step (fun m e => ¬ m.OpensDownRingPort e) mrp es := by
  have hmra : mrp.mraSupport = false := by
    rw [h.mraSupport, ha]
    decide
  have hfresh : Ring.ManagerInv a.pport a.sport mrp.ring ∧ mrp.ring.DownClosed := by
    refine h.ring_of_fresh (I := fun x => Ring.ManagerInv a.pport a.sport x ∧ x.DownClosed)
      (.inr (.inl ha)) ?_ ?_
    · rw [ha]
      exact ⟨Ring.fresh_managerInv, nofun⟩
    · rintro x r ⟨hinv, hx⟩
      have hen : x.Enabled false (.link r true) := trivial
      exact ⟨hinv.step hen, (Ring.step_downClosed_iff hinv hx hen).mpr (by simp [Ring.OpensDown])⟩
  refine always_iff_guarded
    (I := fun m : Mrp => Ring.ManagerInv a.pport a.sport m.ring ∧ m.mraSupport = false)
    ?_ ?_ ⟨hfresh.1, hmra⟩ hfresh.2 es
  · rintro m e ⟨hinv, hm⟩ - -
    have hen := m.ringEvent_enabled e
    rw [hm] at hen
    rw [m.step_ring e, m.step_toMrpConf]
    exact ⟨hinv.step hen, hm⟩
  · rintro m e ⟨hinv, hm⟩ hx
    have hen := m.ringEvent_enabled e
    rw [hm] at hen
    have hstep := Ring.step_downClosed_iff (c := m.linkConf) hinv hx hen
    rw [← m.step_ring e] at hstep
    exact hstep

/-- The interconnection port of an instance that was created as an interconnection
manager. -/
theorem inDownClosed_run_iff (h : Created env a mrp) (ha : a.inRole = inRoleMim)
    (es : List Event) :
    Always Mrp.step Mrp.InDownClosed mrp es ↔
      Guarded Mrp.step (fun m e => ¬ m.OpensDownInPort e) mrp es := by
  have hfresh : mrp.inter.ManagerInv ∧ mrp.inter.DownClosed := by
    refine h.inter_of_fresh (I := fun x => x.ManagerInv ∧ x.DownClosed) (.inl ⟨ha, rfl⟩) ?_ ?_
    · exact ⟨⟨rfl, ⟨none, rfl⟩, rfl, rfl⟩, by simp [Inter.DownClosed, Inter.fresh]⟩
    · rintro x ⟨hinv, hx⟩
      have hen : x.Enabled (.link true) := trivial
      exact ⟨hinv.step hen, (Inter.step_downClosed_iff hinv hx hen).mpr (by simp [Inter.OpensDown])⟩
  refine always_iff_guarded (I := fun m : Mrp => m.inter.ManagerInv) ?_ ?_ hfresh.1
    (mrp.inDownClosed_iff.mp hfresh.2) es
  · intro m e hinv _ _
    rw [m.step_inter e]
    exact hinv.step (m.interEvent_enabled e)
  · intro m e hinv hx
    have hstep := Inter.step_downClosed_iff (c := m.interConf) hinv (m.inDownClosed_iff.mpr hx)
      (m.interEvent_enabled e)
    rw [← m.step_inter e, Mrp.inDownClosed_iff, m.opensDownInPort_iff] at hstep
    exact hstep

/-- A managed port whose last link event was down does not forward in any state of
a run exactly when no step of the run opens such a port: for the ring ports of an
instance that was created as a manager, and for the interconnection port of one
that was created as an interconnection manager. -/
theorem downPort_closed_iff (h : Created env a mrp) (es : List Event) :
    (a.ringRole = ringRoleMrm →
      (Always Mrp.step Mrp.RingDownClosed mrp es ↔
        Guarded Mrp.step (fun m e => ¬ m.OpensDownRingPort e) mrp es)) ∧
    (a.inRole = inRoleMim →
      (Always Mrp.step Mrp.InDownClosed mrp es ↔
        Guarded Mrp.step (fun m e => ¬ m.OpensDownInPort e) mrp es)) :=
  ⟨fun ha => ringDownClosed_run_iff h ha es, fun ha => inDownClosed_run_iff h ha es⟩

end Runs

/-- A manager of both kinds that keeps its links. -/
theorem downPort_closed_iff_sample :
    Always Mrp.step Mrp.RingDownClosed (Sample.mrp ringRoleMrm inRoleMim)
      [.linkChange (.ring .secondary) true] := by
  refine ((downPort_closed_iff (Sample.created (by decide +kernel)) _).1 rfl).mpr ⟨?_, trivial⟩
  rintro ⟨-, -, hlink, -⟩
  revert hlink
  decide +kernel

namespace Sample

/-- The link of the secondary port goes down, a test frame that was sent before
arrives, and no other follows. -/
def lateRingTest : List Event :=
  [.linkChange (.ring .secondary) false,
    .recv (.ring .primary) (frame (mac 1) 0x8000 (.ringTest true 0 0)),
    .expired .ringTest, .expired .ringTest, .expired .ringTest, .expired .ringTest,
    .expired .ringTest]

/-- The link of the interconnection port goes down, a test frame that was sent
before arrives, and the client on the other side reports the lost link. -/
def lateInTest : List Event :=
  [.linkChange .inter false,
    .recv .inter (frame (mac 1) 0x8000 (.inTest true 0 0)),
    .recv .inter (frame (mac 9) 0x8000 (.inLink false 0))]

end Sample

/-- Both managers end up forwarding on a port whose link is down. -/
theorem downPort_forwards :
    (∃ mrp, Reachable Sample.env (Sample.args ringRoleMrm 0) mrp ∧ mrp.ringRole = .mrm ∧
      (mrp.ringPort .secondary).lastLink = some false ∧
      (mrp.ringPort .secondary).state = .forwarding) ∧
    (∃ mrp, Reachable Sample.env (Sample.args ringRoleMrc inRoleMim) mrp ∧ mrp.inRole = .mim ∧
      mrp.iPort.map MrpPort.lastLink = some (some false) ∧
      mrp.iPort.map MrpPort.state = some .forwarding) :=
  ⟨⟨run Mrp.step (Sample.mrp ringRoleMrm 0) Sample.lateRingTest,
      ⟨_, _, Sample.created (by decide +kernel), rfl⟩, by decide +kernel⟩,
    ⟨run Mrp.step (Sample.mrp ringRoleMrc inRoleMim) Sample.lateInTest,
      ⟨_, _, Sample.created (by decide +kernel), rfl⟩, by decide +kernel⟩⟩

end Umrp
