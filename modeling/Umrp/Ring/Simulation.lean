import Umrp.Model.Effects
import Umrp.Ring.Machine

/-!
# The instance simulates the ring machine

Each event of an instance is one event of the ring machine, or none.  Which one
is decided by `Mrp.ringEvent` from the instance before the event.  A property of
the ring machine that every one of its events keeps is therefore kept by the
code.

Main results:

- Theorem `Mrp.step_ring`: the ring machine follows the instance step by step.
- Theorem `Mrp.ringEvent_enabled`: and only by events that the machine allows.
- Theorems `Mrp.ring_expired` and `Mrp.ring_process`: the same for the callbacks
  and the receive handlers alone.
-/

namespace Umrp

open Octets

/-! ## Abstraction -/

/-- The ring machine behind the ring side of an instance. -/
def RingPart.ring (x : RingPart) : Ring where
  pPort := x.pPort
  sPort := x.sPort
  state := MrpPort.state ∘ x.ringPort
  link := MrpPort.lastLink ∘ x.ringPort
  ifindex := MrpPort.ifindex ∘ x.ringPort
  role := x.ringRole
  mrm := x.mrmState
  mrc := x.mrcState
  linkUp := x.ringLinkUpWork.active
  linkDown := x.ringLinkDownWork.active
  count := x.ringLinkCurrMax

/-- The setting of link announcements of an instance. -/
def MrpConf.linkConf (c : MrpConf) : LinkConf :=
  ⟨c.ringLinkConfMax, c.ringLinkConfInterval != 0⟩

namespace Mrp

/-- A NACK that makes the instance give up the manager role, if it has it. -/
def yieldsTo (mrp : Mrp) (buf : Buf) : Bool :=
  let hdr := subTlvBody buf
  mrp.ringRole ≠ .mrc && !etherAddrEqual (TestMgrHdr.sa hdr) mrp.macaddr &&
    etherAddrEqual (TestMgrHdr.otherSa hdr) mrp.macaddr

/-- The event of the ring machine that a handled frame is. -/
def frameEvent (mrp : Mrp) (buf : Buf) (type : TlvType) : Ring.Event :=
  match type with
  | .ringTest =>
      if etherAddrEqual (RingTestHdr.sa (tlvBody buf)) mrp.macaddr then .closed else .silent
  | .ringTopo =>
      if mrp.mraSupport = true ∧ mrp.ringRole = .mrm then .silent else .topologyChange
  | .ringLinkDown | .ringLinkUp =>
      if mrp.mrmState = .chkRo ∧ getTlvType buf = .ringLinkUp ∧ mrp.blocked = 0 then .closed
      else if mrp.mrmState = .chkRc ∧ getTlvType buf = .ringLinkDown ∧
          mrp.reactOnLinkChange ≠ 0 then .opened
      else .silent
  | .option =>
      if subTlv buf 0 = subTlvTestMgrNack ∧ mrp.yieldsTo (subTlv buf) = true then .nacked
      else .silent
  | _ => .silent

/-- The event of the ring machine that an expired timer is. -/
def timerEvent (mrp : Mrp) : TimerId → Ring.Event
  | .ringTest =>
      if mrp.mraSupport = true ∧ mrp.ringRole = .mrc then
        if mrp.ringMonCurr ≤ mrp.ringMonCurrMax then .silent else .managerLost
      else if mrp.ringRole = .mrm ∧ mrp.mrmState = .chkRc ∧
          mrp.ringTestCurr ≥ mrp.ringTestCurrMax then .opened
      else .silent
  | .ringLinkUp => .linkUpTick
  | .ringLinkDown => .linkDownTick
  | _ => .silent

/-- The event of the ring machine that an event of the instance is. -/
def ringEvent (mrp : Mrp) : Event → Ring.Event
  | .recv p rx =>
      match mrp.delivered p rx with
      | some (type, buf) => mrp.frameEvent buf type
      | none => .silent
  | .linkChange (.ring r) up => .link r up
  | .operstate (.ring r) state =>
      if (mrp.ringPort r).operstate = state then .silent
      else
        match operstateLink state with
        | some up => .link r up
        | none => .silent
  | .expired w => if (mrp.timer w).active then mrp.timerEvent w else .silent
  | _ => .silent

/-! ## Building blocks -/

/-- The ring machine behind an instance. -/
def ring (mrp : Mrp) : Ring := mrp.toRingPart.ring

section BuildingBlocks

variable (mrp : Mrp)

/-- Two instances with the same ring side have the same ring machine. -/
theorem ring_congr {a b : Mrp} (h : a.toRingPart = b.toRingPart) : a.ring = b.ring :=
  congrArg RingPart.ring h

@[simp]
theorem ring_pPort : mrp.ring.pPort = mrp.pPort :=
  rfl

@[simp]
theorem ring_sPort : mrp.ring.sPort = mrp.sPort :=
  rfl

@[simp]
theorem ring_state : mrp.ring.state = MrpPort.state ∘ mrp.ringPort :=
  rfl

@[simp]
theorem ring_link : mrp.ring.link = MrpPort.lastLink ∘ mrp.ringPort :=
  rfl

@[simp]
theorem ring_ifindex : mrp.ring.ifindex = MrpPort.ifindex ∘ mrp.ringPort :=
  rfl

@[simp]
theorem ring_role : mrp.ring.role = mrp.ringRole :=
  rfl

@[simp]
theorem ring_mrm : mrp.ring.mrm = mrp.mrmState :=
  rfl

@[simp]
theorem ring_mrc : mrp.ring.mrc = mrp.mrcState :=
  rfl

@[simp]
theorem ring_linkUp : mrp.ring.linkUp = mrp.ringLinkUpWork.active :=
  rfl

@[simp]
theorem ring_linkDown : mrp.ring.linkDown = mrp.ringLinkDownWork.active :=
  rfl

@[simp]
theorem ring_count : mrp.ring.count = mrp.ringLinkCurrMax :=
  rfl

@[simp]
theorem ring_ite (c : Prop) [Decidable c] (a b : Mrp) :
    (if c then a else b).ring = if c then a.ring else b.ring :=
  apply_ite _ _ _ _

@[simp]
theorem ring_send (p : Port) (frame : Frame) : (mrp.send p frame).ring = mrp.ring :=
  ring_congr (mrp.send_toRingPart p frame)

@[simp]
theorem ring_portSetState (r : RingPort) (state : PortState) :
    (mrp.portSetState (.ring r) state).ring = mrp.ring.set r state := by
  simp [ring, RingPart.ring, portSetState_ring, call, RingPart.setPortState, Ring.set,
    Function.comp_update]

@[simp]
theorem ring_ringTestStart (interval : UInt32) : (mrp.ringTestStart interval).ring = mrp.ring :=
  rfl

@[simp]
theorem ring_ringTestStop : mrp.ringTestStop.ring = mrp.ring :=
  rfl

@[simp]
theorem ring_ringTestReq (interval : UInt32) : (mrp.ringTestReq interval).ring = mrp.ring := by
  simp [ringTestReq, ringTestSend, sendRingTest]

@[simp]
theorem ring_ringTopoSend (time : UInt32) : (mrp.ringTopoSend time).ring = mrp.ring := by
  simp [ringTopoSend, sendRingTopo]

@[simp]
theorem ring_ringTopoStart (interval : UInt32) : (mrp.ringTopoStart interval).ring = mrp.ring :=
  rfl

@[simp]
theorem ring_ringTopoStop : mrp.ringTopoStop.ring = mrp.ring :=
  rfl

@[simp]
theorem ring_flush : mrp.flush.ring = mrp.ring :=
  rfl

@[simp]
theorem ring_ringTopoReq (time : UInt32) : (mrp.ringTopoReq time).ring = mrp.ring := by
  unfold ringTopoReq
  split <;> simp

@[simp]
theorem ring_ringLinkReq (p : RingPort) (up : Bool) (interval : UInt32) :
    (mrp.ringLinkReq p up interval).ring = mrp.ring :=
  mrp.ring_send _ _

@[simp]
theorem ring_testMgrNackReq (sa : Mac) : (mrp.testMgrNackReq sa).ring = mrp.ring := by
  simp [testMgrNackReq, sendTestMgrNack]

@[simp]
theorem ring_testPropReq : mrp.testPropReq.ring = mrp.ring := by
  simp [testPropReq, sendTestProp]

@[simp]
theorem ring_clearFdbStart (interval : UInt32) : (mrp.clearFdbStart interval).ring = mrp.ring := by
  unfold clearFdbStart
  split <;> rfl

@[simp]
theorem ring_ringLinkUpStart (interval : UInt32) :
    (mrp.ringLinkUpStart interval).ring = { mrp.ring with linkUp := interval != 0 } :=
  rfl

@[simp]
theorem ring_ringLinkUpStop : mrp.ringLinkUpStop.ring = { mrp.ring with linkUp := false } :=
  rfl

@[simp]
theorem ring_ringLinkDownStart (interval : UInt32) :
    (mrp.ringLinkDownStart interval).ring = { mrp.ring with linkDown := interval != 0 } :=
  rfl

@[simp]
theorem ring_ringLinkDownStop : mrp.ringLinkDownStop.ring = { mrp.ring with linkDown := false } :=
  rfl

@[simp]
theorem ring_setMrmState (state : MrmState) :
    (mrp.setMrmState state).ring = { mrp.ring with mrm := state } :=
  rfl

@[simp]
theorem ring_setMrcState (state : MrcState) :
    (mrp.setMrcState state).ring = { mrp.ring with mrc := state } :=
  rfl

@[simp]
theorem ring_setRingRole (role : RingRole) :
    (mrp.setRingRole role).ring = { mrp.ring with role := role } :=
  rfl

@[simp]
theorem ring_setMrmInit : mrp.setMrmInit.ring = mrp.ring :=
  rfl

@[simp]
theorem ring_setMrcInit :
    mrp.setMrcInit.ring = { mrp.ring with count := mrp.ringLinkConfMax } :=
  rfl

@[simp]
theorem ring_setAddTest (b : Bool) : (mrp.setAddTest b).ring = mrp.ring :=
  rfl

@[simp]
theorem ring_setNoTc (b : Bool) : (mrp.setNoTc b).ring = mrp.ring :=
  rfl

@[simp]
theorem ring_nextRingTransition : mrp.nextRingTransition.ring = mrp.ring :=
  rfl

@[simp]
theorem ring_setRingTestCurr (n : UInt32) : (mrp.setRingTestCurr n).ring = mrp.ring :=
  rfl

@[simp]
theorem ring_setRingTestCurrMax (n : UInt32) : (mrp.setRingTestCurrMax n).ring = mrp.ring :=
  rfl

@[simp]
theorem ring_resetRingTestCount : mrp.resetRingTestCount.ring = mrp.ring :=
  rfl

@[simp]
theorem ring_setRingMonCurr (n : UInt32) : (mrp.setRingMonCurr n).ring = mrp.ring :=
  rfl

@[simp]
theorem ring_setRingPrio (prio : UInt16) : (mrp.setRingPrio prio).ring = mrp.ring :=
  rfl

@[simp]
theorem ring_setRingMac (mac : Mac) : (mrp.setRingMac mac).ring = mrp.ring :=
  rfl

@[simp]
theorem ring_setRingTopoCurrMax (n : UInt32) : (mrp.setRingTopoCurrMax n).ring = mrp.ring :=
  rfl

@[simp]
theorem ring_setRingLinkCurrMax (n : UInt32) :
    (mrp.setRingLinkCurrMax n).ring = { mrp.ring with count := n } :=
  rfl

@[simp]
theorem ring_promote (r : RingPort) :
    (mrp.promote r).ring = { mrp.ring with pPort := r, sPort := mrp.pPort } :=
  rfl

@[simp]
theorem ring_demote (r : RingPort) :
    (mrp.demote r).ring = { mrp.ring with pPort := mrp.sPort, sPort := r } :=
  rfl

@[simp]
theorem promote_pPort (r : RingPort) : (mrp.promote r).pPort = r :=
  rfl

@[simp]
theorem demote_pPort (r : RingPort) : (mrp.demote r).pPort = mrp.sPort :=
  rfl

@[simp]
theorem demote_sPort (r : RingPort) : (mrp.demote r).sPort = r :=
  rfl

@[simp]
theorem demote_toMrpConf (r : RingPort) : (mrp.demote r).toMrpConf = mrp.toMrpConf :=
  rfl

@[simp]
theorem setRingLinkCurrMax_toMrpConf (n : UInt32) :
    (mrp.setRingLinkCurrMax n).toMrpConf = mrp.toMrpConf :=
  rfl

@[simp]
theorem setRingLinkCurrMax_sPort (n : UInt32) : (mrp.setRingLinkCurrMax n).sPort = mrp.sPort :=
  rfl

@[simp]
theorem ringLinkUpStop_toMrpConf : mrp.ringLinkUpStop.toMrpConf = mrp.toMrpConf :=
  rfl

@[simp]
theorem ringLinkUpStop_sPort : mrp.ringLinkUpStop.sPort = mrp.sPort :=
  rfl

@[simp]
theorem ring_restartTestCount : mrp.restartTestCount.ring = mrp.ring :=
  rfl

end BuildingBlocks

/-! ## Handlers -/

section Handlers

variable (mrp : Mrp)

/-- Link changes on a manager. -/
theorem ring_mrmPortLink (r : RingPort) (up : Bool) :
    (mrp.mrmPortLink r up).ring = mrp.ring.mrmLink r up := by
  unfold mrmPortLink Ring.mrmLink
  cases up <;> cases h : mrp.mrmState <;> simp [h, Ring.set]

/-- Link changes on a client. -/
theorem ring_mrcPortLink (r : RingPort) (up : Bool) :
    (mrp.mrcPortLink r up).ring = mrp.ring.mrcLink mrp.linkConf r up := by
  unfold mrcPortLink Ring.mrcLink
  cases up <;> cases h : mrp.mrcState <;> simp [h, Ring.set, MrpConf.linkConf]

/-- An own test frame. -/
theorem ring_mrmRecvRingTest : mrp.mrmRecvRingTest.ring = mrp.ring.close := by
  unfold mrmRecvRingTest Ring.close
  cases h : mrp.mrmState <;> simp [h, Ring.set]

/-- A foreign test frame. -/
theorem ring_mraRecvRingTest (hdr : Buf) : (mrp.mraRecvRingTest hdr).ring = mrp.ring := by
  unfold mraRecvRingTest
  cases mrp.ringRole <;> simp

/-- A topology change, seen by a client. -/
theorem ring_mrcRecvRingTopo (buf : Buf) :
    (mrp.mrcRecvRingTopo buf).ring = mrp.ring.topology mrp.linkConf := by
  unfold mrcRecvRingTopo Ring.topology
  cases h : mrp.mrcState <;> simp [h, Ring.set, MrpConf.linkConf]

/-- A link change frame. -/
theorem ring_recvRingLink (buf : Buf) {type : TlvType}
    (htype : type = .ringLinkDown ∨ type = .ringLinkUp) :
    (mrp.recvRingLink buf).ring = mrp.ring.step mrp.linkConf (mrp.frameEvent buf type) := by
  have hev : mrp.frameEvent buf type = mrp.frameEvent buf .ringLinkUp := by
    rcases htype with rfl | rfl <;> rfl
  rw [hev]
  unfold recvRingLink frameEvent
  cases h : mrp.mrmState with
  | acStat1 => simp [Ring.step]
  | prmUp => simp [Ring.step]
  | chkRo =>
      by_cases hclose : getTlvType buf = .ringLinkUp ∧ mrp.blocked = 0
      · simp [hclose, Ring.step, Ring.close, h, Ring.set]
      · simp [hclose, Ring.step]
  | chkRc =>
      by_cases hopen : getTlvType buf = .ringLinkDown ∧ mrp.reactOnLinkChange ≠ 0
      · simp [hopen, Ring.step, Ring.opening, h, Ring.set]
      · simp [hopen, Ring.step]

/-- The start of the client after a NACK. -/
theorem ring_enterClient :
    mrp.enterClient.ring =
      match mrp.ring.mrm with
      | .prmUp => { mrp.ring with mrc := .deIdle, role := .mrc }
      | .chkRo | .chkRc => { mrp.ring with mrc := .ptIdle, role := .mrc }
      | .acStat1 => mrp.ring := by
  unfold enterClient
  rw [ring_mrm]
  cases mrp.mrmState <;> simp

/-- Giving up the manager role. -/
theorem ring_yieldRole : mrp.yieldRole.ring = mrp.ring.giveUp mrp.linkConf := by
  unfold yieldRole Ring.giveUp
  rw [ring_enterClient]
  cases h : mrp.mrmState <;> simp [h, Ring.set, MrpConf.linkConf] <;> rfl

/-- Recording the sender of a NACK. -/
theorem ring_recordHost (hdr : Buf) : (mrp.recordHost hdr).ring = mrp.ring := by
  unfold recordHost
  split <;> simp

/-- A NACK that is not for this instance, or that reaches a client, is ignored. -/
theorem recvNack_eq (buf : Buf) :
    mrp.recvNack buf =
      if mrp.yieldsTo buf then (mrp.recordHost (subTlvBody buf)).yieldRole else mrp := by
  simp only [recvNack, yieldsTo]
  split
  next hrole => simp [hrole]
  next hrole =>
    split
    next hsa =>
      rw [etherAddrEqual_iff] at hsa
      simp [hsa]
    next hsa =>
      split
      next hother =>
        rw [etherAddrEqual_iff] at hother
        simp [hother]
      next hother =>
        simp only [etherAddrEqual_iff, not_not] at hsa hother
        simp [hrole, hsa, hother]

/-- A NACK. -/
theorem ring_recvNack (buf : Buf) :
    (mrp.recvNack buf).ring =
      if mrp.yieldsTo buf then mrp.ring.giveUp mrp.linkConf else mrp.ring := by
  have hconf : (mrp.recordHost (subTlvBody buf)).toMrpConf = mrp.toMrpConf :=
    (mrp.recordHost_op _ : RingOp NoNack _ _).toMrpConf
  rw [recvNack_eq]
  split
  · rw [ring_yieldRole, ring_recordHost, hconf]
  · rfl

/-- An option frame. -/
theorem ring_recvOption (buf : Buf) :
    (mrp.recvOption buf).ring = mrp.ring.step mrp.linkConf (mrp.frameEvent buf .option) := by
  simp only [recvOption, frameEvent]
  by_cases hnack : subTlv buf 0 = subTlvTestMgrNack
  · rw [if_pos hnack, ring_recvNack]
    by_cases hyield : mrp.yieldsTo (subTlv buf) = true
    · simp [hnack, hyield, Ring.step]
    · simp [hyield, Ring.step]
  · simp [hnack, recvPropagate, Ring.step]

/-- The handlers of received frames. -/
theorem ring_process (buf : Buf) (type : TlvType) :
    (mrp.process buf type).ring = mrp.ring.step mrp.linkConf (mrp.frameEvent buf type) := by
  cases type with
  | ringTest =>
      simp only [process, recvRingTest, frameEvent]
      split
      · exact mrp.ring_mrmRecvRingTest
      · split
        · exact mrp.ring_mraRecvRingTest _
        · rfl
  | ringTopo =>
      simp only [process, recvRingTopo, frameEvent]
      split
      · simp [mraRecvRingTopo, Ring.step]
      · exact mrp.ring_mrcRecvRingTopo buf
  | ringLinkDown => exact mrp.ring_recvRingLink buf (.inl rfl)
  | ringLinkUp => exact mrp.ring_recvRingLink buf (.inr rfl)
  | option => exact mrp.ring_recvOption buf
  | inTest => exact ring_congr (mrp.recvInTest_op buf).toRingPart
  | inTopo =>
      have hin := inTopoByRole_op
        (mrp.restartRingTopo (intervalUs (InTopoHdr.interval (tlvBody buf)))) (tlvBody buf)
        (intervalUs (InTopoHdr.interval (tlvBody buf)))
      simp only [process, recvInTopo, frameEvent, Ring.step]
      rw [ring_congr hin.toRingPart, restartRingTopo]
      simp
  | inLinkDown => exact ring_congr (mrp.recvInLink_op buf).toRingPart
  | inLinkUp => exact ring_congr (mrp.recvInLink_op buf).toRingPart
  | inLinkStatus => exact ring_congr (mrp.recvInLinkStatus_op buf).toRingPart
  | tlvEnd => rfl
  | common => rfl
  | unknown => rfl

/-- The start of the manager after a takeover. -/
theorem ring_enterManager : mrp.enterManager.ring = mrp.ring.takeOver := by
  unfold enterManager Ring.takeOver
  cases h : mrp.mrcState <;> simp [h]

/-- An expiry of the test timer. -/
theorem ring_ringTestExpired :
    mrp.ringTestExpired.ring = mrp.ring.step mrp.linkConf (mrp.timerEvent .ringTest) := by
  simp only [ringTestExpired, timerEvent]
  split
  · unfold mrcRingTestExpired
    split
    · simp [Ring.step]
    · simp [ring_enterManager, Ring.step]
  · split
    next hrole =>
      unfold mrmRingTestExpired
      cases h : mrp.mrmState with
      | acStat1 => simp [Ring.step]
      | prmUp => simp [Ring.step]
      | chkRo => simp [Ring.step]
      | chkRc =>
          by_cases hlast : mrp.ringTestCurrMax ≤ mrp.ringTestCurr
          · simp [hlast, hrole, Ring.step, Ring.opening, h, Ring.set]
          · simp [hlast, Ring.step]
    next hrole => simp [hrole, Ring.step]

/-- The callbacks of the timers. -/
theorem ring_expired (w : TimerId) :
    (mrp.expired w).ring = mrp.ring.step mrp.linkConf (mrp.timerEvent w) := by
  cases w with
  | clearFdb => rfl
  | ringTopo =>
      simp only [expired, ringTopoExpired]
      split <;> simp [timerEvent, Ring.step]
  | ringTest => exact mrp.ring_ringTestExpired
  | ringLinkUp =>
      simp only [expired, ringLinkUpExpired, timerEvent, Ring.step, Ring.upTick]
      simp [Ring.set, MrpConf.linkConf]
  | ringLinkDown =>
      simp only [expired, ringLinkDownExpired, timerEvent, Ring.step, Ring.downTick]
      simp [MrpConf.linkConf]
  | inTest => exact ring_congr mrp.inTestExpired_op.toRingPart
  | inTopo => exact ring_congr mrp.inTopoExpired_op.toRingPart
  | inLinkUp => exact ring_congr mrp.inLinkUpExpired_op.toRingPart
  | inLinkDown => exact ring_congr mrp.inLinkDownExpired_op.toRingPart
  | inLinkStatus => exact ring_congr mrp.inLinkStatusExpired_op.toRingPart
  | cfmCcm => rfl

end Handlers

/-! ## Events -/

section Events

variable (mrp : Mrp)

/-- Noting a link event. -/
theorem ring_noteRingLink (r : RingPort) (up : Bool) :
    (mrp.noteRingLink r up).ring = mrp.ring.note r up := by
  simp [noteRingLink, ring, RingPart.ring, Ring.note, Function.comp_update]

/-- A link event on a ring port. -/
theorem ring_portLinkChange (r : RingPort) (up : Bool) :
    (mrp.portLinkChange (.ring r) up).ring = mrp.ring.step mrp.linkConf (.link r up) := by
  have hrole : (mrp.noteRingLink r up).ringRole = mrp.ringRole := rfl
  have hconf : (mrp.noteRingLink r up).toMrpConf = mrp.toMrpConf := rfl
  simp only [portLinkChange, Ring.step, Ring.linkEvent, ring_role, hrole]
  cases mrp.ringRole with
  | mrm => rw [← ring_noteRingLink]; exact ring_mrmPortLink _ r up
  | mrc =>
      rw [← ring_noteRingLink]
      exact (ring_mrcPortLink _ r up).trans (by rw [hconf])
  | disabled => exact mrp.ring_noteRingLink r up
  | mra => exact mrp.ring_noteRingLink r up

/-- Storing the operational state of a ring port. -/
theorem ring_setOperstate (p : Port) (operstate : UInt8) :
    (mrp.setOperstate p operstate).ring = mrp.ring := by
  cases p with
  | ring r => simp [setOperstate, ring, RingPart.ring, Function.comp_update]
  | inter => rfl

/-- A changed address of a port. -/
theorem ring_portMacChange (p : Port) (mac : Mac) : (mrp.portMacChange p mac).ring = mrp.ring := by
  cases p with
  | ring r => simp [portMacChange, ring, RingPart.ring, Function.comp_update]
  | inter => rfl

/-- A netlink notification. -/
theorem ring_netlinkOperstate (p : Port) (state : UInt8) :
    (mrp.netlinkOperstate p state).ring =
      mrp.ring.step mrp.linkConf (mrp.ringEvent (.operstate p state)) := by
  have hconf : (mrp.setOperstate p (storedOperstate state)).toMrpConf = mrp.toMrpConf :=
    (mrp.setOperstate_op _ _).toMrpConf
  cases p with
  | ring r =>
      simp only [netlinkOperstate, port?, ringEvent]
      split
      · rfl
      · cases operstateLink state with
        | none => exact mrp.ring_setOperstate _ _
        | some up =>
            simp only
            rw [ring_portLinkChange, ring_setOperstate, hconf]
  | inter =>
      simp only [netlinkOperstate, ringEvent, Ring.step]
      split
      · rfl
      · split
        · rfl
        · split
          · rw [ring_congr (portLinkChange_inter_op _ _).toRingPart, ring_setOperstate]
          · exact mrp.ring_setOperstate _ _

/-- A received frame. -/
theorem ring_recv (p : Port) (rx : RxFrame) :
    (mrp.recv p rx).ring = mrp.ring.step mrp.linkConf (mrp.ringEvent (.recv p rx)) := by
  simp only [ringEvent]
  cases hdel : mrp.delivered p rx with
  | none =>
      rcases recv_of_not_delivered hdel with h | h
      · rw [h]
        rfl
      · rw [h]
        exact ring_congr (mrp.relay_toRingPart _ _ _)
  | some x =>
      rcases x with ⟨type, buf⟩
      have hring : (mrp.relay p rx.frameBuf type).ring = mrp.ring :=
        ring_congr (mrp.relay_toRingPart _ _ _)
      have hev : (mrp.relay p rx.frameBuf type).frameEvent buf type = mrp.frameEvent buf type := by
        cases type <;> simp [frameEvent, yieldsTo]
      rw [(recv_of_delivered hdel).2, ring_process, hring, hev, relay_toMrpConf]

/-- The ring machine follows the instance step by step. -/
theorem step_ring (e : Event) :
    (mrp.step e).ring = mrp.ring.step mrp.linkConf (mrp.ringEvent e) := by
  cases e with
  | recv p rx => exact mrp.ring_recv p rx
  | linkChange p up =>
      cases p with
      | ring r => exact mrp.ring_portLinkChange r up
      | inter =>
          simp only [step, ringEvent, Ring.step]
          split
          · exact ring_congr (mrp.portLinkChange_inter_op up).toRingPart
          · rfl
  | operstate p state => exact mrp.ring_netlinkOperstate p state
  | cfmLinkChange defect => exact ring_congr (mrp.cfmLinkChange_op defect).toRingPart
  | portMac p mac => exact mrp.ring_portMacChange p mac
  | bridgeMac mac => rfl
  | expired w =>
      simp only [step, ringEvent]
      split
      · exact mrp.ring_expired w
      · rfl

/-- A frame raises an event of the ring machine only when that event is enabled. -/
theorem frameEvent_enabled {buf : Buf} {type : TlvType} (h : mrp.shouldProcess type = true) :
    mrp.ring.Enabled mrp.mraSupport (mrp.frameEvent buf type) := by
  cases type with
  | ringTest =>
      simp only [shouldProcess, Bool.or_eq_true, decide_eq_true_eq, Bool.and_eq_true] at h
      simp only [frameEvent]
      split
      · exact h
      · trivial
  | ringTopo =>
      simp only [shouldProcess, Bool.or_eq_true, decide_eq_true_eq, Bool.and_eq_true] at h
      simp only [frameEvent]
      split
      · trivial
      next hnot =>
        rcases h with h | h
        · exact h
        · exact absurd h.symm hnot
  | ringLinkDown | ringLinkUp =>
      simp only [shouldProcess, decide_eq_true_eq] at h
      simp only [frameEvent]
      split
      · exact .inl h
      · split
        next hopen => exact ⟨h, hopen.1⟩
        · trivial
  | option =>
      simp only [frameEvent]
      split
      next hnack =>
        simp only [yieldsTo, Bool.and_eq_true, decide_eq_true_eq] at hnack
        exact hnack.2.1.1
      · trivial
  | _ => trivial

/-- An active timer raises an event of the ring machine only when that event is enabled. -/
theorem timerEvent_enabled {w : TimerId} (h : (mrp.timer w).active = true) :
    mrp.ring.Enabled mrp.mraSupport (mrp.timerEvent w) := by
  cases w with
  | ringTest =>
      simp only [timerEvent]
      split
      next hmra =>
        split
        · trivial
        · exact ⟨hmra.2, hmra.1⟩
      · split
        next hopen => exact ⟨hopen.1, hopen.2.1⟩
        · trivial
  | ringLinkUp => exact h
  | ringLinkDown => exact h
  | _ => trivial

/-- Every event of the instance is enabled in the ring machine. -/
theorem ringEvent_enabled (e : Event) : mrp.ring.Enabled mrp.mraSupport (mrp.ringEvent e) := by
  cases e with
  | recv p rx =>
      simp only [ringEvent]
      split
      next hdel => exact mrp.frameEvent_enabled (recv_of_delivered hdel).1
      · trivial
  | linkChange p up => cases p <;> trivial
  | operstate p state =>
      cases p with
      | inter => trivial
      | ring r =>
          simp only [ringEvent]
          split
          · trivial
          · split <;> trivial
  | expired w =>
      simp only [ringEvent]
      split
      next hactive => exact mrp.timerEvent_enabled hactive
      · trivial
  | _ => trivial

end Events

end Mrp

end Umrp
