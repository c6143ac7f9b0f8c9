import Umrp.Model.Effects
import Umrp.Wire

/-!
# What an event sends

Each handler sends frames of a few types only.  This file has the table of them, so
that a statement about one type of frame has to look at few handlers.

Main results:

- Theorem `Mrp.step_sentOf`: an event sends frames of the types in its row of the table.
-/

namespace Umrp

open Octets

/-! ## The table -/

/-- What the handler of a received frame can send. -/
def TlvType.answers : TlvType → List TlvType
  | .ringTest => [.ringTest, .ringTopo, .option]
  | .ringLinkDown | .ringLinkUp => [.ringTest, .ringTopo]
  | .option => [.option]
  | .inTest | .inLinkDown | .inLinkUp => [.inTest, .inTopo]
  | .inTopo => [.ringTopo]
  | .inLinkStatus => [.inLinkDown, .inLinkUp]
  | .ringTopo | .tlvEnd | .common | .unknown _ => []

/-- What the reaction to a link change of a port can send. -/
def Port.announces : Port → List TlvType
  | .ring _ => [.ringTest, .ringTopo, .ringLinkDown, .ringLinkUp]
  | .inter => [.inTest, .inTopo, .inLinkDown, .inLinkUp, .inLinkStatus]

/-- What the callback of a timer can send. -/
def TimerId.announces : TimerId → List TlvType
  | .clearFdb | .cfmCcm => []
  | .ringTopo => [.ringTopo]
  | .ringTest => [.ringTest, .ringTopo]
  | .ringLinkUp => [.ringLinkUp]
  | .ringLinkDown => [.ringLinkDown]
  | .inTest => [.inTest, .inTopo]
  | .inTopo => [.inTopo]
  | .inLinkUp => [.inLinkUp]
  | .inLinkDown => [.inLinkDown]
  | .inLinkStatus => [.inLinkStatus]

namespace Mrp

/-- What an event can send. -/
def announces (mrp : Mrp) : Event → List TlvType
  | .recv p rx =>
      match mrp.delivered p rx with
      | some (type, _) => type.answers
      | none => []
  | .linkChange p _ | .operstate p _ => p.announces
  | .cfmLinkChange _ => Port.inter.announces
  | .portMac .. | .bridgeMac _ => []
  | .expired w => w.announces

/-- The frames of certain types that were sent, newest first. -/
def sentOf (mrp : Mrp) (P : TlvType → Bool) : List Sent :=
  mrp.sent.filter fun x => P x.frame.type

/-! ## The log of sent frames

Port writes, timer calls and assignments leave it alone.
-/

section Log

variable (mrp : Mrp)

@[simp]
theorem sent_portSetState_ring (r : RingPort) (state : PortState) : (mrp.portSetState (.ring r) state).sent = mrp.sent :=
  rfl

@[simp]
theorem sent_ringTestStop : mrp.ringTestStop.sent = mrp.sent :=
  rfl

@[simp]
theorem sent_setMrmState (state : MrmState) : (mrp.setMrmState state).sent = mrp.sent :=
  rfl

@[simp]
theorem sent_setAddTest (v : Bool) : (mrp.setAddTest v).sent = mrp.sent :=
  rfl

@[simp]
theorem sent_setNoTc (v : Bool) : (mrp.setNoTc v).sent = mrp.sent :=
  rfl

@[simp]
theorem sent_nextRingTransition : mrp.nextRingTransition.sent = mrp.sent :=
  rfl

@[simp]
theorem sent_setRingTestCurr (n : UInt32) : (mrp.setRingTestCurr n).sent = mrp.sent :=
  rfl

@[simp]
theorem sent_setRingTestCurrMax (n : UInt32) : (mrp.setRingTestCurrMax n).sent = mrp.sent :=
  rfl

@[simp]
theorem sent_resetRingTestCount : mrp.resetRingTestCount.sent = mrp.sent :=
  rfl

@[simp]
theorem sent_restartTestCount : mrp.restartTestCount.sent = mrp.sent :=
  rfl

@[simp]
theorem sent_promote (r : RingPort) : (mrp.promote r).sent = mrp.sent :=
  rfl

@[simp]
theorem sent_demote (r : RingPort) : (mrp.demote r).sent = mrp.sent :=
  rfl

@[simp]
theorem sent_setMimState (state : MimState) : (mrp.setMimState state).sent = mrp.sent :=
  rfl

@[simp]
theorem sent_nextInTransition : mrp.nextInTransition.sent = mrp.sent :=
  rfl

@[simp]
theorem sent_setInTestCurr (n : UInt32) : (mrp.setInTestCurr n).sent = mrp.sent :=
  rfl

@[simp]
theorem sent_setInTestCurrMax (n : UInt32) : (mrp.setInTestCurrMax n).sent = mrp.sent :=
  rfl

@[simp]
theorem sent_resetInTestCount : mrp.resetInTestCount.sent = mrp.sent :=
  rfl

@[simp]
theorem sent_setInLinkStatusCurrMax (n : UInt32) : (mrp.setInLinkStatusCurrMax n).sent = mrp.sent :=
  rfl

@[simp]
theorem sent_inLinkStatusStop : mrp.inLinkStatusStop.sent = mrp.sent :=
  rfl

end Log

section Building

variable (mrp : Mrp) (P : TlvType → Bool)

/-- Sending a frame adds it to those of its type. -/
@[simp]
theorem filter_sent_send (p : Port) (frame : Frame) :
    (mrp.send p frame).sent.filter (fun x => P x.frame.type) =
      (if P frame.type then mrp.emits p frame else []) ++
        mrp.sent.filter fun x => P x.frame.type := by
  unfold send emits
  cases mrp.port? p with
  | none => simp [call]
  | some port =>
      by_cases hup : port.operstate = ifOperUp
      · by_cases hP : P frame.type = true <;> simp [hup, hP, compose]
      · simp [hup]

@[simp]
theorem filter_sent_ite (c : Prop) [Decidable c] (l l' : List Sent) :
    (if c then l else l').filter (fun x => P x.frame.type) =
      if c then l.filter (fun x => P x.frame.type) else l'.filter fun x => P x.frame.type :=
  apply_ite _ _ _ _

end Building

/-! The type of each kind of frame. -/

section Types

variable (closed up : Bool) (transitions prio : UInt16) (timestamp interval : UInt32) (sa : Mac)

theorem type_ringTest : (Frame.ringTest closed transitions timestamp).type = .ringTest :=
  rfl

theorem type_ringTopo : (Frame.ringTopo interval).type = .ringTopo :=
  rfl

theorem type_ringLink :
    (Frame.ringLink up interval).type = if up then .ringLinkUp else .ringLinkDown :=
  rfl

theorem type_testMgrNack : (Frame.testMgrNack sa).type = .option :=
  rfl

theorem type_testProp : (Frame.testProp prio sa).type = .option :=
  rfl

theorem type_inTest : (Frame.inTest closed transitions timestamp).type = .inTest :=
  rfl

theorem type_inTopo : (Frame.inTopo interval).type = .inTopo :=
  rfl

theorem type_inLink :
    (Frame.inLink up interval).type = if up then .inLinkUp else .inLinkDown :=
  rfl

theorem type_inLinkStatus : Frame.inLinkStatus.type = .inLinkStatus :=
  rfl

end Types

attribute [local simp] type_ringTest type_ringTopo type_ringLink type_testMgrNack type_testProp
  type_inTest type_inTopo type_inLink type_inLinkStatus

attribute [local simp] sentOf call flush
  clearFdbStart clearFdbStop ringTestStart ringTestStop ringTopoStart ringTopoStop
  ringLinkUpStart ringLinkUpStop ringLinkDownStart ringLinkDownStop
  inTestStart inTestStop inTopoStart inTopoStop inLinkUpStart inLinkUpStop
  inLinkDownStart inLinkDownStop inLinkStatusStart inLinkStatusStop cfmCcmStart cfmCcmStop

attribute [local simp] portSetState_ring setRingRole setMrmInit setMrcInit setMrmState
  setMrcState setMimState setMicState promote demote restartTestCount noteInLink setInOperstate
  noteRingLink setAddTest setNoTc nextRingTransition setRingTestCurr setRingTestCurrMax
  resetRingTestCount setRingMonCurr setRingPrio setRingMac setRingTopoCurrMax setRingLinkCurrMax
  nextInTransition setInTestCurr setInTestCurrMax resetInTestCount setInTopoCurrMax
  setInLinkCurrMax setInLinkStatusCurrMax

attribute [local simp] sendRingTest ringTestSend ringTestReq sendRingTopo ringTopoSend ringTopoReq
  ringLinkReq sendTestMgrNack testMgrNackReq sendTestProp testPropReq sendInTest inTestSend
  inTestReq sendInTopo inTopoSend inTopoReq sendInLink inLinkReq sendInLinkStatus inLinkStatusReq

theorem resetRingState_sent (mrp : Mrp) : mrp.resetRingState.sent = mrp.sent := by
  have hstop : mrp.timerStop.sent = mrp.sent := by
    unfold timerStop
    dsimp only
    split
    · split <;> simp
    · simp
  exact hstop

theorem portSetState_sent (mrp : Mrp) (p : Port) (state : PortState) :
    (mrp.portSetState p state).sent = mrp.sent := by
  cases p with
  | ring r => rfl
  | inter => exact mrp.portSetState_inter_sent state

section Handlers

variable (mrp : Mrp) {P : TlvType → Bool}

/-! ## Requests -/

theorem ringTopoReq_sentOf (h : P .ringTopo = false) (time : UInt32) :
    (mrp.ringTopoReq time).sentOf P = mrp.sentOf P := by
  simp [h]

theorem inTopoReq_sentOf (h : P .inTopo = false) (time : UInt32) :
    (mrp.inTopoReq time).sentOf P = mrp.sentOf P := by
  simp [h]

theorem inLinkStatusReq_sentOf (h : P .inLinkStatus = false) (interval : UInt32) :
    (mrp.inLinkStatusReq interval).sentOf P = mrp.sentOf P := by
  simp [h]

/-! ## Ring handlers -/

/-- Link changes on a manager. -/
theorem mrmPortLink_sentOf (htest : P .ringTest = false) (htopo : P .ringTopo = false)
    (r : RingPort) (up : Bool) : (mrp.mrmPortLink r up).sentOf P = mrp.sentOf P := by
  unfold mrmPortLink
  cases mrp.mrmState <;> simp [htest, htopo]

/-- Link changes on a client. -/
theorem mrcPortLink_sentOf (hdown : P .ringLinkDown = false) (hup : P .ringLinkUp = false)
    (r : RingPort) (up : Bool) : (mrp.mrcPortLink r up).sentOf P = mrp.sentOf P := by
  unfold mrcPortLink
  cases mrp.mrcState <;> cases up <;> simp [hdown, hup]

/-- An own test frame. -/
theorem mrmRecvRingTest_sentOf (htest : P .ringTest = false) (htopo : P .ringTopo = false) :
    mrp.mrmRecvRingTest.sentOf P = mrp.sentOf P := by
  unfold mrmRecvRingTest
  cases mrp.mrmState <;> simp [htest, htopo]

/-- A foreign test frame. -/
theorem mraRecvRingTest_sentOf (hoption : P .option = false) (hdr : Buf) :
    (mrp.mraRecvRingTest hdr).sentOf P = mrp.sentOf P := by
  unfold mraRecvRingTest
  cases mrp.ringRole <;> simp [hoption]

/-- A topology change. -/
theorem recvRingTopo_sentOf (buf : Buf) : (mrp.recvRingTopo buf).sentOf P = mrp.sentOf P := by
  unfold recvRingTopo mraRecvRingTopo mrcRecvRingTopo
  split
  · simp
  · cases mrp.mrcState <;> simp

/-- A link change frame. -/
theorem recvRingLink_sentOf (htest : P .ringTest = false) (htopo : P .ringTopo = false)
    (buf : Buf) : (mrp.recvRingLink buf).sentOf P = mrp.sentOf P := by
  unfold recvRingLink
  cases mrp.mrmState <;> simp [htest, htopo]

/-- An option frame. -/
theorem recvOption_sentOf (hoption : P .option = false) (buf : Buf) :
    (mrp.recvOption buf).sentOf P = mrp.sentOf P := by
  have henter : ∀ b : Mrp, b.enterClient.sentOf P = b.sentOf P := by
    intro b
    unfold enterClient
    cases b.mrmState <;> simp
  have hyield : ∀ b : Mrp, b.yieldRole.sentOf P = b.sentOf P := by
    intro b
    unfold yieldRole
    rw [henter]
    simp [hoption]
  have hnack : ∀ b, (mrp.recvNack b).sentOf P = mrp.sentOf P := by
    intro b
    unfold recvNack
    dsimp only
    repeat' split
    · rfl
    · rfl
    · rfl
    · rw [hyield]
      simp [recordHost]
  unfold recvOption
  dsimp only
  split
  · exact hnack _
  · simp [recvPropagate]

/-- A client only counts the expiries of the test timer. -/
theorem mrcRingTestExpired_sent : mrp.mrcRingTestExpired.sent = mrp.sent := by
  unfold mrcRingTestExpired
  split
  · simp
  · unfold enterManager
    split <;> simp

/-- An expiry of the test timer. -/
theorem ringTestExpired_sentOf (htest : P .ringTest = false) (htopo : P .ringTopo = false) :
    mrp.ringTestExpired.sentOf P = mrp.sentOf P := by
  unfold ringTestExpired
  split
  · rw [sentOf, mrcRingTestExpired_sent, sentOf]
  · split
    · unfold mrmRingTestExpired
      cases mrp.mrmState <;> simp [htest, htopo]
    · rfl

/-! ## Interconnection handlers -/

/-- Link changes on an interconnection manager. -/
theorem mimPortLink_sentOf (htest : P .inTest = false) (htopo : P .inTopo = false)
    (hstatus : P .inLinkStatus = false) (up : Bool) :
    (mrp.mimPortLink up).sentOf P = mrp.sentOf P := by
  unfold mimPortLink
  cases up <;> cases mrp.inMode <;> cases mrp.mimState <;> simp [htest, htopo, hstatus]

/-- Link changes on an interconnection client. -/
theorem micPortLink_sentOf (hdown : P .inLinkDown = false) (hup : P .inLinkUp = false)
    (up : Bool) : (mrp.micPortLink up).sentOf P = mrp.sentOf P := by
  unfold micPortLink
  cases up <;> cases mrp.inMode <;> cases mrp.micState <;> simp [hdown, hup]

/-- A test frame of the interconnection. -/
theorem recvInTest_sentOf (htest : P .inTest = false) (htopo : P .inTopo = false) (buf : Buf) :
    (mrp.recvInTest buf).sentOf P = mrp.sentOf P := by
  unfold recvInTest mimRecvInTest
  split
  · rfl
  · cases mrp.mimState <;> simp [htest, htopo]

/-- A topology change of the interconnection, on the side of the ring. -/
theorem restartRingTopo_sentOf (htopo : P .ringTopo = false) (interval : UInt32) :
    (mrp.restartRingTopo interval).sentOf P = mrp.sentOf P := by
  unfold restartRingTopo
  simp [htopo]

/-- The rest of the reaction to a topology change of the interconnection. -/
theorem inTopoByRole_sentOf (hdr : Buf) (interval : UInt32) :
    (mrp.inTopoByRole hdr interval).sentOf P = mrp.sentOf P := by
  unfold inTopoByRole micRecvInTopo
  cases mrp.inRole <;> cases mrp.micState <;> simp

/-- A link change frame of the interconnection. -/
theorem recvInLink_sentOf (htest : P .inTest = false) (htopo : P .inTopo = false) (buf : Buf) :
    (mrp.recvInLink buf).sentOf P = mrp.sentOf P := by
  unfold recvInLink
  cases mrp.mimState <;> simp [htest, htopo]

/-- A link status poll. -/
theorem recvInLinkStatus_sentOf (hdown : P .inLinkDown = false) (hup : P .inLinkUp = false)
    (buf : Buf) : (mrp.recvInLinkStatus buf).sentOf P = mrp.sentOf P := by
  unfold recvInLinkStatus
  cases mrp.micState <;> simp [hdown, hup]

/-- An expiry of the interconnection test timer. -/
theorem inTestExpired_sentOf (htest : P .inTest = false) (htopo : P .inTopo = false) :
    mrp.inTestExpired.sentOf P = mrp.sentOf P := by
  unfold inTestExpired
  cases mrp.mimState <;> simp [htest, htopo]

/-! ## Events -/

/-- A received frame is answered by frames of the types in its row. -/
theorem process_sentOf {type : TlvType} (h : ∀ t ∈ type.answers, P t = false) (buf : Buf) :
    (mrp.process buf type).sentOf P = mrp.sentOf P := by
  cases type with
  | ringTest =>
      simp only [TlvType.answers, List.forall_mem_cons] at h
      simp only [process, recvRingTest]
      repeat' split
      · exact mrp.mrmRecvRingTest_sentOf h.1 h.2.1
      · exact mrp.mraRecvRingTest_sentOf h.2.2.1 _
      · rfl
  | ringTopo => exact mrp.recvRingTopo_sentOf buf
  | ringLinkDown | ringLinkUp =>
      simp only [TlvType.answers, List.forall_mem_cons] at h
      exact mrp.recvRingLink_sentOf h.1 h.2.1 buf
  | option =>
      simp only [TlvType.answers, List.forall_mem_cons] at h
      exact mrp.recvOption_sentOf h.1 buf
  | inTest =>
      simp only [TlvType.answers, List.forall_mem_cons] at h
      exact mrp.recvInTest_sentOf h.1 h.2.1 buf
  | inTopo =>
      simp only [TlvType.answers, List.forall_mem_cons] at h
      simp only [process, recvInTopo]
      rw [inTopoByRole_sentOf, mrp.restartRingTopo_sentOf h.1]
  | inLinkDown | inLinkUp =>
      simp only [TlvType.answers, List.forall_mem_cons] at h
      exact mrp.recvInLink_sentOf h.1 h.2.1 buf
  | inLinkStatus =>
      simp only [TlvType.answers, List.forall_mem_cons] at h
      exact mrp.recvInLinkStatus_sentOf h.1 h.2.1 buf
  | tlvEnd | common | unknown => rfl

/-- A link event of the interconnection, which `mrp_port_link_change` and
`mrp_cfm_link_change` handle alike. -/
theorem interLink_sentOf (h : ∀ t ∈ Port.inter.announces, P t = false) (operstate : UInt8)
    (up : Bool) :
    (match (mrp.setInOperstate operstate).inRole with
      | .mim => ((mrp.setInOperstate operstate).noteInLink up).mimPortLink up
      | .mic => ((mrp.setInOperstate operstate).noteInLink up).micPortLink up
      | .disabled => mrp.setInOperstate operstate).sentOf P = mrp.sentOf P := by
  simp only [Port.announces, List.forall_mem_cons] at h
  split
  · exact mimPortLink_sentOf _ h.1 h.2.1 h.2.2.2.2.1 up
  · exact micPortLink_sentOf _ h.2.2.1 h.2.2.2.1 up
  · rfl

/-- A link change. -/
theorem portLinkChange_sentOf {p : Port} (h : ∀ t ∈ p.announces, P t = false) (up : Bool) :
    (mrp.portLinkChange p up).sentOf P = mrp.sentOf P := by
  cases p with
  | ring r =>
      simp only [Port.announces, List.forall_mem_cons] at h
      have hnote : (mrp.noteRingLink r up).sentOf P = mrp.sentOf P := rfl
      simp only [portLinkChange]
      cases (mrp.noteRingLink r up).ringRole with
      | mrm => exact (mrmPortLink_sentOf _ h.1 h.2.1 r up).trans hnote
      | mrc => exact (mrcPortLink_sentOf _ h.2.2.1 h.2.2.2.1 r up).trans hnote
      | disabled => exact hnote
      | mra => exact hnote
  | inter =>
      simp only [portLinkChange]
      split
      · rfl
      · exact mrp.interLink_sentOf h _ up

/-- A CFM notification. -/
theorem cfmLinkChange_sentOf (h : ∀ t ∈ Port.inter.announces, P t = false) (defect : Bool) :
    (mrp.cfmLinkChange defect).sentOf P = mrp.sentOf P := by
  unfold cfmLinkChange
  split
  · rfl
  · exact mrp.interLink_sentOf h _ _

/-- The callback of a timer. -/
theorem expired_sentOf {w : TimerId} (h : ∀ t ∈ w.announces, P t = false) :
    (mrp.expired w).sentOf P = mrp.sentOf P := by
  cases w with
  | clearFdb => rfl
  | cfmCcm => rfl
  | ringTopo =>
      simp only [TimerId.announces, List.forall_mem_cons] at h
      simp [expired, ringTopoExpired, h.1]
  | ringTest =>
      simp only [TimerId.announces, List.forall_mem_cons] at h
      exact mrp.ringTestExpired_sentOf h.1 h.2.1
  | ringLinkUp =>
      simp only [TimerId.announces, List.forall_mem_cons] at h
      simp [expired, ringLinkUpExpired, h.1]
  | ringLinkDown =>
      simp only [TimerId.announces, List.forall_mem_cons] at h
      simp [expired, ringLinkDownExpired, h.1]
  | inTest =>
      simp only [TimerId.announces, List.forall_mem_cons] at h
      exact mrp.inTestExpired_sentOf h.1 h.2.1
  | inTopo =>
      simp only [TimerId.announces, List.forall_mem_cons] at h
      simp [expired, inTopoExpired, h.1]
  | inLinkUp =>
      simp only [TimerId.announces, List.forall_mem_cons] at h
      simp [expired, inLinkUpExpired, h.1]
  | inLinkDown =>
      simp only [TimerId.announces, List.forall_mem_cons] at h
      simp [expired, inLinkDownExpired, h.1]
  | inLinkStatus =>
      simp only [TimerId.announces, List.forall_mem_cons] at h
      simp [expired, inLinkStatusExpired, h.1]

/-- An event sends frames of the types in its row of the table. -/
theorem step_sentOf {e : Event} (h : ∀ t ∈ mrp.announces e, P t = false) :
    (mrp.step e).sentOf P = mrp.sentOf P := by
  have hrelay : ∀ p fb type, (mrp.relay p fb type).sentOf P = mrp.sentOf P := by
    intro p fb type
    simp
  cases e with
  | recv p rx =>
      simp only [step]
      cases hdel : mrp.delivered p rx with
      | none =>
          rcases recv_of_not_delivered hdel with hrecv | hrecv
          · rw [hrecv]
          · rw [hrecv, hrelay]
      | some x =>
          rcases x with ⟨type, buf⟩
          simp only [announces, hdel] at h
          rw [(recv_of_delivered hdel).2, process_sentOf _ h, hrelay]
  | linkChange p up =>
      simp only [step]
      split
      · exact mrp.portLinkChange_sentOf h up
      · rfl
  | operstate p state =>
      have hset : (mrp.setOperstate p (storedOperstate state)).sentOf P = mrp.sentOf P := by
        cases p <;> rfl
      simp only [step, netlinkOperstate]
      repeat' split
      · rfl
      · rfl
      · rw [portLinkChange_sentOf _ h, hset]
      · exact hset
  | cfmLinkChange defect => exact mrp.cfmLinkChange_sentOf h defect
  | portMac p mac => cases p <;> rfl
  | bridgeMac mac => rfl
  | expired w =>
      simp only [step]
      split
      · exact mrp.expired_sentOf h
      · rfl

end Handlers

end Mrp

end Umrp
