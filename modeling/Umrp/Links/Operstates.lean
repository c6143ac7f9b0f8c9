import Umrp.Relay
import Umrp.Ring.Client
import Umrp.Ring.TestTimer

/-!
# Operational states

Every port stores the operational state that was last reported for its link, and a frame
leaves through a port only if that state is IF_OPER_UP.  Frames and timers leave the stored
states alone.

Main results:

- Theorem `Mrp.step_operstate`: only a link event changes a stored state.
- Theorem `Created.linksStored`: as long as the kernel reports states that it has, a ring
  port whose last link event was up stores IF_OPER_UP.
-/

namespace Umrp

open Octets EventMachine

namespace Mrp

/-- The stored operational state of a port. -/
def operstate? (mrp : Mrp) (p : Port) : Option UInt8 := (mrp.port? p).map MrpPort.operstate

theorem isOperUp_eq (mrp : Mrp) (p : Port) :
    mrp.isOperUp p = decide (mrp.operstate? p = some ifOperUp) := by
  unfold isOperUp operstate?
  cases mrp.port? p <;> simp

/-- The event reports a link of one of the ports.  A netlink message that repeats the
stored state is not such a report: the listener does nothing with it. -/
def isLinkEvent (mrp : Mrp) (ports : Port → Bool) : Event → Bool
  | .linkChange p _ => ports p
  | .operstate p state => ports p && mrp.operstate? p != some state
  | .cfmLinkChange _ => ports .inter
  | .recv .. | .portMac .. | .bridgeMac _ | .expired _ => false

/-! ## Handlers -/

/-- It is enough to look at the ring ports. -/
theorem RingOp.operstate?_eq {nack : Mac → Prop} {a b : Mrp} (hop : RingOp nack a b)
    (h : ∀ r, (b.ringPort r).operstate = (a.ringPort r).operstate) :
    b.operstate? = a.operstate? := by
  funext p
  cases p with
  | ring r => simp [operstate?, port?, h]
  | inter => simp [operstate?, port?, hop.toInPart]

/-- It is enough to look at the interconnection port. -/
theorem InOp.operstate?_eq {a b : Mrp} (hop : InOp a b)
    (h : b.iPort.map MrpPort.operstate = a.iPort.map MrpPort.operstate) :
    b.operstate? = a.operstate? := by
  funext p
  cases p with
  | ring r => simp [operstate?, port?, hop.toRingPart]
  | inter => exact h

section Ring

attribute [local simp] call flush clearFdbStop
  ringTestStart ringTestStop ringTopoStart ringTopoStop ringLinkUpStart ringLinkUpStop
  ringLinkDownStart ringLinkDownStop portSetState_ring setRingRole
  setMrmInit setMrcInit setMrmState setMrcState promote demote restartTestCount
  setAddTest setNoTc nextRingTransition setRingTestCurr setRingTestCurrMax resetRingTestCount
  setRingMonCurr setRingPrio setRingMac setRingTopoCurrMax setRingLinkCurrMax

attribute [local simp] sendRingTest ringTestSend ringTestReq sendRingTopo ringTopoSend
  ringLinkReq sendTestMgrNack testMgrNackReq sendTestProp testPropReq

@[local simp]
theorem operstate_setPortState (x : RingPart) (q r : RingPort) (state : PortState) :
    ((x.setPortState q state).ringPort r).operstate = (x.ringPort r).operstate := by
  by_cases h : r = q
  · simp [RingPart.setPortState, h]
  · simp [RingPart.setPortState, h]

@[local simp]
theorem operstate_ringTopoReq (mrp : Mrp) (time : UInt32) (r : RingPort) :
    ((mrp.ringTopoReq time).ringPort r).operstate = (mrp.ringPort r).operstate := by
  unfold ringTopoReq
  by_cases h : time = 0 <;> simp [h]

variable (mrp : Mrp) (r : RingPort)

theorem operstate_mrmPortLink (q : RingPort) (up : Bool) :
    ((mrp.mrmPortLink q up).ringPort r).operstate = (mrp.ringPort r).operstate := by
  unfold mrmPortLink
  cases mrp.mrmState <;> dsimp only <;> split_ifs <;> simp

theorem operstate_mrcPortLink (q : RingPort) (up : Bool) :
    ((mrp.mrcPortLink q up).ringPort r).operstate = (mrp.ringPort r).operstate := by
  unfold mrcPortLink
  cases mrp.mrcState <;> dsimp only <;> split_ifs <;> simp

theorem operstate_recvRingTest (buf : Buf) :
    ((mrp.recvRingTest buf).ringPort r).operstate = (mrp.ringPort r).operstate := by
  unfold recvRingTest mrmRecvRingTest mraRecvRingTest
  dsimp only
  repeat' split
  all_goals simp

theorem operstate_recvRingTopo (buf : Buf) :
    ((mrp.recvRingTopo buf).ringPort r).operstate = (mrp.ringPort r).operstate := by
  unfold recvRingTopo mraRecvRingTopo mrcRecvRingTopo
  dsimp only
  repeat' split
  all_goals simp

theorem operstate_recvRingLink (buf : Buf) :
    ((mrp.recvRingLink buf).ringPort r).operstate = (mrp.ringPort r).operstate := by
  unfold recvRingLink
  cases mrp.mrmState <;> dsimp only <;> repeat' split
  all_goals simp

theorem operstate_recvOption (buf : Buf) :
    ((mrp.recvOption buf).ringPort r).operstate = (mrp.ringPort r).operstate := by
  unfold recvOption recvPropagate recvNack recordHost yieldRole enterClient
  dsimp only
  repeat' split
  all_goals simp

theorem operstate_ringTestExpired :
    (mrp.ringTestExpired.ringPort r).operstate = (mrp.ringPort r).operstate := by
  unfold ringTestExpired mrcRingTestExpired mrmRingTestExpired enterManager
  dsimp only
  repeat' split
  all_goals simp

theorem operstate_ringTopoExpired :
    (mrp.ringTopoExpired.ringPort r).operstate = (mrp.ringPort r).operstate := by
  unfold ringTopoExpired
  split <;> simp

theorem operstate_ringLinkUpExpired :
    (mrp.ringLinkUpExpired.ringPort r).operstate = (mrp.ringPort r).operstate := by
  unfold ringLinkUpExpired
  split <;> simp

theorem operstate_ringLinkDownExpired :
    (mrp.ringLinkDownExpired.ringPort r).operstate = (mrp.ringPort r).operstate := by
  unfold ringLinkDownExpired
  split <;> simp

end Ring

section Inter

attribute [local simp] call flush clearFdbStop inTestStart inTestStop inTopoStart inTopoStop
  inLinkUpStart inLinkUpStop inLinkDownStart inLinkDownStop inLinkStatusStart inLinkStatusStop
  setMimState setMicState nextInTransition setInTestCurr setInTestCurrMax resetInTestCount
  setInTopoCurrMax setInLinkCurrMax setInLinkStatusCurrMax

attribute [local simp] sendInTest inTestSend inTestReq sendInTopo inTopoSend sendInLink inLinkReq
  sendInLinkStatus

attribute [local simp] Function.comp_def

@[local simp]
theorem iPort_inTopoReq (mrp : Mrp) (time : UInt32) : (mrp.inTopoReq time).iPort = mrp.iPort := by
  unfold inTopoReq
  by_cases h : time = 0 <;> simp [h]

@[local simp]
theorem iPort_inLinkStatusReq (mrp : Mrp) (interval : UInt32) :
    (mrp.inLinkStatusReq interval).iPort = mrp.iPort := by
  unfold inLinkStatusReq
  by_cases h : interval = 0 <;> simp [h]

@[local simp]
theorem iPort_clearFdbStart (mrp : Mrp) (interval : UInt32) :
    (mrp.clearFdbStart interval).iPort = mrp.iPort := by
  unfold clearFdbStart
  split <;> rfl

variable (mrp : Mrp)

theorem inOperstate_mimPortLink (up : Bool) :
    (mrp.mimPortLink up).iPort.map MrpPort.operstate = mrp.iPort.map MrpPort.operstate := by
  unfold mimPortLink
  repeat' split
  all_goals simp

theorem inOperstate_micPortLink (up : Bool) :
    (mrp.micPortLink up).iPort.map MrpPort.operstate = mrp.iPort.map MrpPort.operstate := by
  unfold micPortLink
  dsimp only
  repeat' split
  all_goals simp

theorem inLastLink_mimPortLink (up : Bool) :
    (mrp.mimPortLink up).iPort.map MrpPort.lastLink = mrp.iPort.map MrpPort.lastLink := by
  unfold mimPortLink
  repeat' split
  all_goals simp

theorem inLastLink_micPortLink (up : Bool) :
    (mrp.micPortLink up).iPort.map MrpPort.lastLink = mrp.iPort.map MrpPort.lastLink := by
  unfold micPortLink
  dsimp only
  repeat' split
  all_goals simp

theorem inOperstate_recvInTest (buf : Buf) :
    (mrp.recvInTest buf).iPort.map MrpPort.operstate = mrp.iPort.map MrpPort.operstate := by
  unfold recvInTest mimRecvInTest
  repeat' split
  all_goals simp

theorem inOperstate_inTopoByRole (hdr : Buf) (interval : UInt32) :
    (mrp.inTopoByRole hdr interval).iPort.map MrpPort.operstate =
      mrp.iPort.map MrpPort.operstate := by
  unfold inTopoByRole micRecvInTopo
  repeat' split
  all_goals simp

theorem inOperstate_recvInLink (buf : Buf) :
    (mrp.recvInLink buf).iPort.map MrpPort.operstate = mrp.iPort.map MrpPort.operstate := by
  unfold recvInLink
  dsimp only
  repeat' split
  all_goals simp

theorem inOperstate_recvInLinkStatus (buf : Buf) :
    (mrp.recvInLinkStatus buf).iPort.map MrpPort.operstate = mrp.iPort.map MrpPort.operstate := by
  unfold recvInLinkStatus
  repeat' split
  all_goals simp

theorem inOperstate_inTestExpired :
    mrp.inTestExpired.iPort.map MrpPort.operstate = mrp.iPort.map MrpPort.operstate := by
  unfold inTestExpired
  repeat' split
  all_goals simp

theorem inOperstate_inTopoExpired :
    mrp.inTopoExpired.iPort.map MrpPort.operstate = mrp.iPort.map MrpPort.operstate := by
  unfold inTopoExpired
  split <;> simp

theorem inOperstate_inLinkUpExpired :
    mrp.inLinkUpExpired.iPort.map MrpPort.operstate = mrp.iPort.map MrpPort.operstate := by
  unfold inLinkUpExpired
  split <;> simp

theorem inOperstate_inLinkDownExpired :
    mrp.inLinkDownExpired.iPort.map MrpPort.operstate = mrp.iPort.map MrpPort.operstate := by
  unfold inLinkDownExpired
  split <;> simp

theorem inOperstate_inLinkStatusExpired :
    mrp.inLinkStatusExpired.iPort.map MrpPort.operstate = mrp.iPort.map MrpPort.operstate := by
  unfold inLinkStatusExpired
  split <;> simp

end Inter

section Step

variable (mrp : Mrp)

/-- A handled frame. -/
theorem process_operstate (buf : Buf) (type : TlvType) :
    (mrp.process buf type).operstate? = mrp.operstate? := by
  cases type with
  | ringTest =>
      have hop : RingOp (fun _ => True) mrp (mrp.recvRingTest buf) :=
        mrp.recvRingTest_op buf fun _ _ _ _ => trivial
      exact hop.operstate?_eq fun r => mrp.operstate_recvRingTest r buf
  | ringTopo =>
      exact (mrp.recvRingTopo_op buf : RingOp NoNack _ _).operstate?_eq
        fun r => mrp.operstate_recvRingTopo r buf
  | ringLinkDown =>
      exact (mrp.recvRingLink_op buf : RingOp NoNack _ _).operstate?_eq
        fun r => mrp.operstate_recvRingLink r buf
  | ringLinkUp =>
      exact (mrp.recvRingLink_op buf : RingOp NoNack _ _).operstate?_eq
        fun r => mrp.operstate_recvRingLink r buf
  | option =>
      exact (mrp.recvOption_op buf : RingOp NoNack _ _).operstate?_eq
        fun r => mrp.operstate_recvOption r buf
  | inTest => exact (mrp.recvInTest_op buf).operstate?_eq (mrp.inOperstate_recvInTest buf)
  | inTopo =>
      have hrestart : ∀ interval, (mrp.restartRingTopo interval).operstate? = mrp.operstate? := by
        intro interval
        refine (mrp.restartRingTopo_op interval).operstate?_eq fun r => ?_
        unfold restartRingTopo
        split
        · exact mrp.operstate_ringTopoReq interval r
        · rfl
      exact ((inTopoByRole_op _ _ _).operstate?_eq (inOperstate_inTopoByRole _ _ _)).trans (hrestart _)
  | inLinkDown => exact (mrp.recvInLink_op buf).operstate?_eq (mrp.inOperstate_recvInLink buf)
  | inLinkUp => exact (mrp.recvInLink_op buf).operstate?_eq (mrp.inOperstate_recvInLink buf)
  | inLinkStatus =>
      exact (mrp.recvInLinkStatus_op buf).operstate?_eq (mrp.inOperstate_recvInLinkStatus buf)
  | tlvEnd => rfl
  | common => rfl
  | unknown v => rfl

/-- An expired timer. -/
theorem expired_operstate (w : TimerId) : (mrp.expired w).operstate? = mrp.operstate? := by
  cases w with
  | clearFdb => rfl
  | ringTopo =>
      exact (mrp.ringTopoExpired_op : RingOp NoNack _ _).operstate?_eq
        fun r => mrp.operstate_ringTopoExpired r
  | ringTest =>
      exact (mrp.ringTestExpired_op : RingOp NoNack _ _).operstate?_eq
        fun r => mrp.operstate_ringTestExpired r
  | ringLinkUp =>
      exact (mrp.ringLinkUpExpired_op : RingOp NoNack _ _).operstate?_eq
        fun r => mrp.operstate_ringLinkUpExpired r
  | ringLinkDown =>
      exact (mrp.ringLinkDownExpired_op : RingOp NoNack _ _).operstate?_eq
        fun r => mrp.operstate_ringLinkDownExpired r
  | inTest => exact mrp.inTestExpired_op.operstate?_eq mrp.inOperstate_inTestExpired
  | inTopo => exact mrp.inTopoExpired_op.operstate?_eq mrp.inOperstate_inTopoExpired
  | inLinkUp => exact mrp.inLinkUpExpired_op.operstate?_eq mrp.inOperstate_inLinkUpExpired
  | inLinkDown => exact mrp.inLinkDownExpired_op.operstate?_eq mrp.inOperstate_inLinkDownExpired
  | inLinkStatus =>
      exact mrp.inLinkStatusExpired_op.operstate?_eq mrp.inOperstate_inLinkStatusExpired
  | cfmCcm => rfl

/-- Relaying a frame. -/
theorem relay_operstate (p : Port) (fb : FrameBuf) (type : TlvType) :
    (mrp.relay p fb type).operstate? = mrp.operstate? := by
  funext q
  rcases mrp.relay_eq p fb type with ⟨_, _, h⟩
  rw [h]
  cases q <;> rfl

/-- A received frame. -/
theorem recv_operstate (p : Port) (rx : RxFrame) : (mrp.recv p rx).operstate? = mrp.operstate? := by
  cases hdel : mrp.delivered p rx with
  | none =>
      rcases recv_of_not_delivered hdel with hrecv | hrecv
      · rw [hrecv]
      · rw [hrecv, relay_operstate]
  | some x => rw [(recv_of_delivered hdel).2, process_operstate, relay_operstate]

/-- Storing the state of a port. -/
theorem operstate_setOperstate (p q : Port) (state : UInt8) :
    (mrp.setOperstate p state).operstate? q =
      if q = p then (mrp.operstate? q).map fun _ => state else mrp.operstate? q := by
  cases p with
  | ring r =>
      cases q with
      | ring r' =>
          by_cases h : r' = r
          · simp [operstate?, port?, setOperstate, h]
          · simp [operstate?, port?, setOperstate, h]
      | inter => rfl
  | inter =>
      cases q with
      | ring r => rfl
      | inter => simp [operstate?, port?, setOperstate, setInOperstate, Function.comp_def]

/-- A link event of a ring port. -/
theorem operstate_portLinkChange_ring (r : RingPort) (up : Bool) (q : Port) :
    (mrp.portLinkChange (.ring r) up).operstate? q =
      if q = .ring r then some (if up then ifOperUp else ifOperDown) else mrp.operstate? q := by
  have hnote : (mrp.noteRingLink r up).operstate? q =
      if q = .ring r then some (if up then ifOperUp else ifOperDown) else mrp.operstate? q := by
    cases q with
    | ring r' =>
        by_cases h : r' = r
        · simp [operstate?, port?, noteRingLink, h]
        · simp [operstate?, port?, noteRingLink, h]
    | inter => rfl
  rw [← hnote]
  simp only [portLinkChange]
  cases (mrp.noteRingLink r up).ringRole with
  | mrm =>
      have hop : RingOp NoNack _ _ := (mrp.noteRingLink r up).mrmPortLink_op r up
      exact congrFun (hop.operstate?_eq fun r' => operstate_mrmPortLink _ r' r up) q
  | mrc =>
      have hop : RingOp NoNack _ _ := (mrp.noteRingLink r up).mrcPortLink_op r up
      exact congrFun (hop.operstate?_eq fun r' => operstate_mrcPortLink _ r' r up) q
  | disabled => rfl
  | mra => rfl

/-- A link event of one port leaves the states of the others alone. -/
theorem operstate_portLinkChange_of_ne {p q : Port} (h : q ≠ p) (up : Bool) :
    (mrp.portLinkChange p up).operstate? q = mrp.operstate? q := by
  cases p with
  | ring r => rw [operstate_portLinkChange_ring, if_neg h]
  | inter =>
      cases q with
      | ring r => simp [operstate?, port?, (mrp.portLinkChange_inter_op up).toRingPart]
      | inter => exact absurd rfl h

/-- Only a report about the link of a port changes its stored state. -/
theorem step_operstate {ports : Port → Bool} {e : Event} (h : mrp.isLinkEvent ports e = false)
    {q : Port} (hq : ports q = true) : (mrp.step e).operstate? q = mrp.operstate? q := by
  cases e with
  | recv p rx => exact congrFun (mrp.recv_operstate p rx) q
  | linkChange p up =>
      have hne : q ≠ p := by
        rintro rfl
        simp [isLinkEvent, hq] at h
      simp only [step]
      split
      · exact mrp.operstate_portLinkChange_of_ne hne up
      · rfl
  | operstate p state =>
      simp only [step, netlinkOperstate]
      split
      · rfl
      next port hport =>
        by_cases hsame : port.operstate = state
        · rw [if_pos hsame]
        · have hne : q ≠ p := by
            rintro rfl
            simp [isLinkEvent, hq, operstate?, hport] at h
            exact hsame h
          rw [if_neg hsame]
          split
          · rw [operstate_portLinkChange_of_ne _ hne, operstate_setOperstate, if_neg hne]
          · rw [operstate_setOperstate, if_neg hne]
  | cfmLinkChange defect =>
      cases q with
      | ring r => simp [step, operstate?, port?, (mrp.cfmLinkChange_op defect).toRingPart]
      | inter => simp [isLinkEvent, hq] at h
  | portMac p mac =>
      cases p with
      | ring r =>
          cases q with
          | ring r' =>
              by_cases hr : r' = r
              · simp [step, operstate?, port?, portMacChange, hr]
              · simp [step, operstate?, port?, portMacChange, hr]
          | inter => rfl
      | inter =>
          cases q with
          | ring r => rfl
          | inter => simp [step, operstate?, port?, portMacChange, Function.comp_def]
  | bridgeMac mac => cases q <;> rfl
  | expired w =>
      simp only [step]
      split
      · exact congrFun (mrp.expired_operstate w) q
      · rfl

/-- So does the answer to whether frames leave through the port. -/
theorem step_isOperUp {ports : Port → Bool} {e : Event} (h : mrp.isLinkEvent ports e = false)
    {q : Port} (hq : ports q = true) : (mrp.step e).isOperUp q = mrp.isOperUp q := by
  rw [isOperUp_eq, isOperUp_eq, mrp.step_operstate h hq]

/-- The two events that are link events of the ring machine. -/
theorem ringEvent_eq_link {mrp : Mrp} {e : Event} {r : RingPort} {up : Bool}
    (h : mrp.ringEvent e = .link r up) :
    e = .linkChange (.ring r) up ∨
      ∃ state, e = .operstate (.ring r) state ∧ (mrp.ringPort r).operstate ≠ state ∧
        operstateLink state = some up := by
  cases e with
  | recv p rx =>
      simp only [ringEvent] at h
      split at h
      next type buf hdel =>
        cases type <;> simp only [frameEvent] at h <;> repeat' split at h
        all_goals cases h
      · cases h
  | linkChange p up' =>
      cases p with
      | ring r' =>
          cases h
          exact .inl rfl
      | inter => cases h
  | operstate p state =>
      cases p with
      | ring r' =>
          simp only [ringEvent] at h
          split at h
          · cases h
          next hsame =>
            split at h
            next up' hlink =>
              cases h
              exact .inr ⟨state, rfl, hsame, hlink⟩
            · cases h
      | inter => cases h
  | expired w =>
      simp only [ringEvent] at h
      split at h
      · cases w <;> simp only [timerEvent] at h <;> repeat' split at h
        all_goals cases h
      · cases h
  | _ => cases h

/-- What a link event of the ring machine stores. -/
theorem operstate_of_ringLink {e : Event} {r : RingPort} {up : Bool}
    (h : mrp.ringEvent e = .link r up) (q : Port) :
    (mrp.step e).operstate? q =
      if q = .ring r then some (if up then ifOperUp else ifOperDown) else mrp.operstate? q := by
  rcases ringEvent_eq_link h with rfl | ⟨state, rfl, hsame, hlink⟩
  · exact mrp.operstate_portLinkChange_ring r up q
  · have hstep : mrp.step (.operstate (.ring r) state) =
        (mrp.setOperstate (.ring r) (storedOperstate state)).portLinkChange (.ring r) up := by
      simp [step, netlinkOperstate, port?, hsame, hlink]
    rw [hstep, operstate_portLinkChange_ring, operstate_setOperstate]
    by_cases hq : q = .ring r <;> simp [hq]

end Step

/-! ## Links of the ring -/

/-- A ring port whose last link event was up stores IF_OPER_UP. -/
def LinksStored (mrp : Mrp) : Prop :=
  ∀ r, (mrp.ringPort r).lastLink = some true → mrp.operstate? (.ring r) = some ifOperUp

end Mrp

/-- The event reports one of the operational states that the kernel has, IF_OPER_UNKNOWN
to IF_OPER_UP, or none at all. -/
def Event.hasKnownState : Event → Bool
  | .operstate _ state => state ≤ ifOperUp
  | _ => true

/-- The listener takes each of these states for one of the two link events. -/
theorem operstateLink_isSome {state : UInt8} (h : state ≤ ifOperUp) :
    (operstateLink state).isSome = true := by
  have hle : state.toNat ≤ 6 := UInt8.le_iff_toNat_le.mp h
  have hcases : state = 0 ∨ state = 1 ∨ state = 2 ∨ state = 3 ∨ state = 4 ∨ state = 5 ∨
      state = 6 := by
    simp only [← UInt8.toNat_inj]
    simp only [UInt8.reduceToNat]
    omega
  rcases hcases with rfl | rfl | rfl | rfl | rfl | rfl | rfl <;> rfl

/-- Only link events are noted. -/
theorem Ring.step_link (c : LinkConf) (x : Ring) (ev : Event) :
    (x.step c ev).link =
      match ev with
      | .link r up => Function.update x.link r (some up)
      | _ => x.link := by
  cases ev with
  | link r up =>
      simp only [step, linkEvent]
      cases x.role with
      | mrm =>
          dsimp only
          unfold mrmLink
          split <;> split_ifs <;> rfl
      | mrc =>
          dsimp only
          unfold mrcLink
          split <;> split_ifs <;> rfl
      | disabled => rfl
      | mra => rfl
  | closed =>
      simp only [step, close]
      split <;> rfl
  | opened =>
      simp only [step, opening]
      split <;> rfl
  | topologyChange =>
      simp only [step, topology]
      split <;> rfl
  | nacked =>
      simp only [step, giveUp]
      split <;> rfl
  | managerLost =>
      simp only [step, takeOver]
      split <;> rfl
  | linkUpTick =>
      simp only [step, upTick]
      split <;> rfl
  | linkDownTick =>
      simp only [step, downTick]
      split <;> rfl
  | silent => rfl

namespace Mrp

/-- A known state that is not a link event of the ring machine repeats the stored one. -/
theorem isLinkEvent_eq_false {mrp : Mrp} {e : Event} (he : e.hasKnownState = true)
    (h : ∀ r up, mrp.ringEvent e ≠ .link r up) : mrp.isLinkEvent Port.isRingPort e = false := by
  cases e with
  | linkChange p up =>
      cases p with
      | ring r => exact absurd rfl (h r up)
      | inter => rfl
  | operstate p state =>
      cases p with
      | inter => rfl
      | ring r =>
          by_cases hsame : (mrp.ringPort r).operstate = state
          · simp [isLinkEvent, operstate?, port?, hsame]
          · have hsome := operstateLink_isSome (of_decide_eq_true he)
            rcases Option.isSome_iff_exists.mp hsome with ⟨up, hup⟩
            exact absurd (by simp [ringEvent, hsame, hup]) (h r up)
  | _ => rfl

/-- Every event with a known state keeps it so. -/
theorem LinksStored.step {mrp : Mrp} (h : LinksStored mrp) {e : Event}
    (he : e.hasKnownState = true) : LinksStored (mrp.step e) := by
  intro q hq
  have hlink := congrFun (congrArg Ring.link (mrp.step_ring e)) q
  rw [Ring.step_link] at hlink
  have hlast : ((mrp.step e).ringPort q).lastLink = (mrp.step e).ring.link q := rfl
  rw [hlast, hlink] at hq
  cases hev : mrp.ringEvent e with
  | link r up =>
      rw [hev] at hq
      rw [mrp.operstate_of_ringLink hev]
      by_cases hr : q = r
      · subst hr
        simp only [Function.update_self, Option.some.injEq] at hq
        simp [hq]
      · simp only [Function.update_of_ne hr] at hq
        rw [if_neg (by simpa using hr)]
        exact h q hq
  | _ =>
      rw [hev] at hq
      rw [mrp.step_operstate (isLinkEvent_eq_false he (by simp [hev])) rfl]
      exact h q hq

/-- It is enough that the ring ports are the same. -/
theorem LinksStored.of_ringPort {a b : Mrp} (h : LinksStored a) (hring : b.ringPort = a.ringPort) :
    LinksStored b := by
  intro r hr
  rw [hring] at hr
  have hstored := h r hr
  simp only [operstate?, port?] at hstored ⊢
  rwa [hring]

section Reset

attribute [local simp] call clearFdbStop ringTopoStop ringLinkUpStop ringLinkDownStop ringTestStop
  inTopoStop inLinkUpStop inLinkDownStop inTestStop inLinkStatusStop cfmCcmStop

theorem resetRingState_ringPort (mrp : Mrp) : mrp.resetRingState.ringPort = mrp.ringPort := by
  unfold resetRingState timerStop
  dsimp only
  repeat' split
  all_goals simp

end Reset

/-- Setting roles keeps it so. -/
theorem linksStored_keptByRoles : KeptByRoles LinksStored where
  mraSupport _ h := h.of_ringPort rfl
  resetRingState m h := h.of_ringPort m.resetRingState_ringPort
  setMrmInit _ h := h.of_ringPort rfl
  setMrcInit _ h := h.of_ringPort rfl
  setMrmState _ h := h.of_ringPort rfl
  setMrcState _ h := h.of_ringPort rfl
  portSetState m p state h := by
    cases p with
    | ring q =>
        intro r hr
        have hlast : ((m.toRingPart.setPortState q state).ringPort r).lastLink =
            (m.ringPort r).lastLink := by
          by_cases hq : r = q <;> simp [RingPart.setPortState, hq]
        have hstored := h r (hlast.symm.trans hr)
        rw [← hstored]
        simp [operstate?, port?, portSetState_ring, call, operstate_setPortState]
    | inter => exact h.of_ringPort (by rw [portSetState_inter_toRingPart])
  setRingRole _ _ h := h.of_ringPort rfl
  setInRole _ _ h := h.of_ringPort rfl
  portLinkChange m p h := by
    cases p with
    | ring r => exact h.step (e := .linkChange (.ring r) true) rfl
    | inter => exact h.of_ringPort (by rw [(m.portLinkChange_inter_op true).toRingPart])
  cfmLinkChange m h := h.of_ringPort (by rw [(m.cfmLinkChange_op false).toRingPart])

/-- A new instance has no link events behind it. -/
theorem configure_linksStored (env : Env) (a : AddArgs) : (configure env a).LinksStored := by
  intro r hr
  have hlink := congrFun (congrArg Ring.link (configure_configured env a).ring) r
  have hlast : ((configure env a).ringPort r).lastLink = (configure env a).ring.link r := rfl
  rw [hlast, hlink] at hr
  cases hr

end Mrp

/-- As long as the kernel reports states that it has, a ring port whose last link event was
up lets frames out. -/
theorem Created.linksStored {env : Env} {a : AddArgs} {mrp : Mrp} (h : Created env a mrp)
    {es : List Event} (hes : ∀ e ∈ es, e.hasKnownState = true) :
    (run Mrp.step mrp es).LinksStored := by
  have hcreated := Mrp.linksStored_keptByRoles.created (Mrp.configure_linksStored env a) h
  clear h
  induction es generalizing mrp with
  | nil => exact hcreated
  | cons e es ih =>
      rw [List.forall_mem_cons] at hes
      exact ih hes.2 (hcreated.step hes.1)

end Umrp
