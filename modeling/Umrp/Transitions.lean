import Umrp.Opening

/-!
# Transition counters

A manager counts how often the ring went from closed to open, and the manager of an
interconnection how often the interconnection did; both counts go out with every test
frame.  The exits from the closed state are spread over a timer, a link change frame
and the link events of the ports.  On the ring side each of them counts.  On the
interconnection side only the timer does.

Main results:

- Theorem `Mrp.step_ringTransitions`: without auto-manager support an event counts a ring
  transition exactly when it makes the manager leave CHK_RC.
- Theorem `Mrp.step_inTransitions`: an event counts a transition of the interconnection
  exactly when too many test frames are missing.
- Theorem `transitions_counted_iff`: the counters of a run.
-/

namespace Umrp

open Octets EventMachine

namespace Mrp

/-! ## Exits from the closed state -/

section Exits

variable (mrp : Mrp) (e : Event)

/-- The event makes the manager leave CHK_RC. -/
def leavesChkRc : Bool := mrp.inChkRc && !(mrp.step e).inChkRc

/-- The event makes the manager of the interconnection leave CHK_IC. -/
def leavesChkIc : Bool := mrp.inChkIc && !(mrp.step e).inChkIc

/-- The manager of the interconnection is told that the link of its port is down. -/
def losesInLink : Bool :=
  mrp.inRole = .mim && (mrp.inMode = .rc || mrp.inMode = .lc) && mrp.interEvent e = .link false

/-- An exit from CHK_IC without a count: a link change frame reports that the
interconnection is open, or the own port loses its link. -/
def leavesUncounted : Bool :=
  mrp.inChkIc && (mrp.handlesFrame mrp.isInLinkDown e || mrp.losesInLink e)

/-- The test timer of the interconnection expires in CHK_IC and too many frames are missing. -/
def missesInTests : Bool :=
  mrp.inChkIc && mrp.expires .inTest e && mrp.inTestCurr ≥ mrp.inTestCurrMax

end Exits

attribute [local simp] call flush ringTestStart ringTestStop ringTopoStart ringTopoStop
  ringLinkUpStart ringLinkUpStop ringLinkDownStart ringLinkDownStop

attribute [local simp] portSetState_ring RingPart.setPortState setRingRole setMrmInit setMrcInit
  setMrmState setMrcState promote demote restartTestCount noteRingLink setAddTest setNoTc
  nextRingTransition setRingTestCurr setRingTestCurrMax resetRingTestCount setRingMonCurr
  setRingPrio setRingMac setRingTopoCurrMax setRingLinkCurrMax

attribute [local simp] sendRingTest ringTestSend ringTestReq sendRingTopo ringTopoSend
  ringLinkReq sendTestMgrNack testMgrNackReq sendTestProp testPropReq

/-! ## The ring counter -/

/-- From `a` to `b` the manager counted one transition if it left CHK_RC, and none otherwise. -/
def ExitCounted (a b : Mrp) : Prop :=
  b.ringTransitions = a.ringTransitions + if a.inChkRc && !b.inChkRc then 1 else 0

/-- Nothing was left and nothing counted. -/
theorem ExitCounted.of_same {a b : Mrp} (hstate : b.mrmState = a.mrmState)
    (htrans : b.ringTransitions = a.ringTransitions) : ExitCounted a b := by
  unfold ExitCounted inChkRc
  rw [hstate, htrans]
  cases decide (a.mrmState = .chkRc) <;> simp

/-- Outside CHK_RC nothing is counted. -/
theorem ExitCounted.of_outside {a b : Mrp} (hstate : a.mrmState ≠ .chkRc)
    (htrans : b.ringTransitions = a.ringTransitions) : ExitCounted a b := by
  unfold ExitCounted inChkRc
  rw [htrans]
  simp [hstate]

/-- The manager left CHK_RC and counted it. -/
theorem ExitCounted.of_exit {a b : Mrp} (ha : a.mrmState = .chkRc) (hb : b.mrmState ≠ .chkRc)
    (htrans : b.ringTransitions = a.ringTransitions + 1) : ExitCounted a b := by
  unfold ExitCounted inChkRc
  rw [htrans]
  simp [ha, hb]

/-- Nothing happens on the ring side. -/
theorem ExitCounted.of_toRingPart {a b : Mrp} (h : b.toRingPart = a.toRingPart) : ExitCounted a b :=
  .of_same (by rw [h]) (by rw [h])

/-- The relation looks at nothing but the ring side. -/
theorem ExitCounted.congr {a a' b : Mrp} (h : ExitCounted a b) (hstate : a.mrmState = a'.mrmState)
    (htrans : a.ringTransitions = a'.ringTransitions) : ExitCounted a' b := by
  unfold ExitCounted inChkRc at h ⊢
  rwa [← hstate, ← htrans]

section RingCounter

variable (mrp : Mrp)

@[simp]
theorem ringTopoReq_ringTransitions (time : UInt32) :
    (mrp.ringTopoReq time).ringTransitions = mrp.ringTransitions := by
  rcases mrp.ringTopoReq_eq time with ⟨_, _, h⟩
  rw [h]

/-- Link events of a manager: both branches that leave CHK_RC count. -/
theorem mrmPortLink_exitCounted (r : RingPort) (up : Bool) :
    ExitCounted mrp (mrp.mrmPortLink r up) := by
  unfold mrmPortLink
  cases hstate : mrp.mrmState with
  | acStat1 | prmUp | chkRo =>
      refine .of_outside (by simp [hstate]) ?_
      dsimp only
      split_ifs <;> simp
  | chkRc =>
      dsimp only
      split_ifs
      · exact .of_exit hstate (by simp) (by simp)
      · exact .of_exit hstate (by simp) (by simp)
      · exact .of_same rfl rfl

/-- Link events of a client. -/
theorem mrcPortLink_ringTransitions (r : RingPort) (up : Bool) :
    (mrp.mrcPortLink r up).ringTransitions = mrp.ringTransitions := by
  unfold mrcPortLink
  cases mrp.mrcState <;> dsimp only <;> split_ifs <;> simp

/-- Own test frames never leave CHK_RC. -/
theorem mrmRecvRingTest_exitCounted : ExitCounted mrp mrp.mrmRecvRingTest := by
  unfold ExitCounted inChkRc mrmRecvRingTest
  cases hstate : mrp.mrmState <;> simp_all

/-- A link change frame that opens the ring counts. -/
theorem recvRingLink_exitCounted (buf : Buf) : ExitCounted mrp (mrp.recvRingLink buf) := by
  unfold recvRingLink
  cases hstate : mrp.mrmState with
  | acStat1 => exact .of_same rfl rfl
  | prmUp | chkRo =>
      refine .of_outside (by simp [hstate]) ?_
      dsimp only
      split_ifs <;> simp
  | chkRc =>
      dsimp only
      split_ifs
      · exact .of_same rfl rfl
      · exact .of_same (by simp) (by simp)
      · exact .of_exit hstate (by simp) (by simp)
      · exact .of_same (by simp) (by simp)
      · exact .of_same rfl rfl

/-- Topology changes. -/
theorem recvRingTopo_exitCounted (buf : Buf) : ExitCounted mrp (mrp.recvRingTopo buf) := by
  refine .of_same (mrp.recvRingTopo_testKept buf).mrmState ?_
  unfold recvRingTopo mraRecvRingTopo mrcRecvRingTopo
  cases mrp.mrcState <;> dsimp only <;> split_ifs <;> simp

/-- Giving up the role keeps the manager state. -/
theorem yieldRole_exitCounted : ExitCounted mrp mrp.yieldRole := by
  unfold ExitCounted inChkRc yieldRole enterClient
  cases hstate : mrp.mrmState <;> simp [hstate]

/-- Option frames. -/
theorem recvOption_exitCounted (buf : Buf) : ExitCounted mrp (mrp.recvOption buf) := by
  simp only [recvOption, recvNack, recvPropagate]
  split_ifs
  · exact .of_toRingPart rfl
  · exact .of_toRingPart rfl
  · have hhost : ∀ hdr, (mrp.recordHost hdr).ringTransitions = mrp.ringTransitions := by
      intro hdr
      unfold recordHost
      split <;> rfl
    exact (yieldRole_exitCounted _).congr (mrp.recordHost_testKept _).mrmState (hhost _)
  · exact .of_toRingPart rfl
  all_goals exact .of_same rfl rfl

/-- The timer that misses the test frames counts. -/
theorem mrmRingTestExpired_exitCounted : ExitCounted mrp mrp.mrmRingTestExpired := by
  unfold ExitCounted inChkRc mrmRingTestExpired
  cases hstate : mrp.mrmState <;> dsimp only <;> (try split_ifs) <;> simp_all

/-- A link event. -/
theorem portLinkChange_exitCounted (p : Port) (up : Bool) :
    ExitCounted mrp (mrp.portLinkChange p up) := by
  cases p with
  | inter => exact .of_toRingPart (mrp.portLinkChange_inter_op up).toRingPart
  | ring r =>
      simp only [portLinkChange]
      cases (mrp.noteRingLink r up).ringRole with
      | mrm => exact (mrmPortLink_exitCounted _ r up).congr rfl rfl
      | mrc =>
          have hstate := (mrcPortLink_testKept (mrp.noteRingLink r up) r up).mrmState
          exact .of_same hstate (mrcPortLink_ringTransitions _ r up)
      | disabled => exact .of_same rfl rfl
      | mra => exact .of_same rfl rfl

/-- A netlink notification. -/
theorem netlinkOperstate_exitCounted (p : Port) (state : UInt8) :
    ExitCounted mrp (mrp.netlinkOperstate p state) := by
  have hset : ∀ operstate, (mrp.setOperstate p operstate).mrmState = mrp.mrmState ∧
      (mrp.setOperstate p operstate).ringTransitions = mrp.ringTransitions := by
    intro operstate
    cases p <;> exact ⟨rfl, rfl⟩
  unfold netlinkOperstate
  split
  · exact .of_toRingPart rfl
  · split
    · exact .of_toRingPart rfl
    · dsimp only
      split
      · exact (portLinkChange_exitCounted _ p _).congr (hset _).1 (hset _).2
      · exact .of_same (hset _).1 (hset _).2

/-- The handlers of received frames. -/
theorem process_exitCounted (hmra : mrp.mraSupport = false) (buf : Buf) (type : TlvType) :
    ExitCounted mrp (mrp.process buf type) := by
  cases type with
  | ringTest =>
      simp only [process, recvRingTest, hmra, Bool.false_eq_true, if_false]
      split
      · exact mrp.mrmRecvRingTest_exitCounted
      · exact .of_toRingPart rfl
  | ringTopo => exact mrp.recvRingTopo_exitCounted buf
  | ringLinkDown => exact mrp.recvRingLink_exitCounted buf
  | ringLinkUp => exact mrp.recvRingLink_exitCounted buf
  | option => exact mrp.recvOption_exitCounted buf
  | inTest => exact .of_toRingPart (mrp.recvInTest_op buf).toRingPart
  | inTopo =>
      refine .of_same (mrp.recvInTopo_testKept buf).mrmState ?_
      simp only [process, recvInTopo]
      rw [(inTopoByRole_op _ _ _).toRingPart, restartRingTopo]
      split <;> simp
  | inLinkDown => exact .of_toRingPart (mrp.recvInLink_op buf).toRingPart
  | inLinkUp => exact .of_toRingPart (mrp.recvInLink_op buf).toRingPart
  | inLinkStatus => exact .of_toRingPart (mrp.recvInLinkStatus_op buf).toRingPart
  | tlvEnd => exact .of_toRingPart rfl
  | common => exact .of_toRingPart rfl
  | unknown => exact .of_toRingPart rfl

/-- The callbacks of the timers. -/
theorem expired_exitCounted (hmra : mrp.mraSupport = false) (w : TimerId) :
    ExitCounted mrp (mrp.expired w) := by
  cases w with
  | clearFdb => exact .of_toRingPart rfl
  | ringTopo =>
      refine .of_same (mrp.expired_testKept TimerId.noConfusion).mrmState ?_
      simp only [expired, ringTopoExpired]
      split <;> simp
  | ringTest =>
      simp only [expired, ringTestExpired, hmra, Bool.false_eq_true, false_and, if_false]
      split
      · exact mrp.mrmRingTestExpired_exitCounted
      · exact .of_toRingPart rfl
  | ringLinkUp =>
      refine .of_same (mrp.expired_testKept TimerId.noConfusion).mrmState ?_
      simp only [expired, ringLinkUpExpired]
      split <;> simp
  | ringLinkDown =>
      refine .of_same (mrp.expired_testKept TimerId.noConfusion).mrmState ?_
      simp only [expired, ringLinkDownExpired]
      split <;> simp
  | inTest => exact .of_toRingPart mrp.inTestExpired_op.toRingPart
  | inTopo => exact .of_toRingPart mrp.inTopoExpired_op.toRingPart
  | inLinkUp => exact .of_toRingPart mrp.inLinkUpExpired_op.toRingPart
  | inLinkDown => exact .of_toRingPart mrp.inLinkDownExpired_op.toRingPart
  | inLinkStatus => exact .of_toRingPart mrp.inLinkStatusExpired_op.toRingPart
  | cfmCcm => exact .of_toRingPart rfl

/-- Without auto-manager support an event counts a ring transition exactly when it
makes the manager leave CHK_RC. -/
theorem step_ringTransitions (hmra : mrp.mraSupport = false) (e : Event) :
    (mrp.step e).ringTransitions =
      mrp.ringTransitions + if mrp.leavesChkRc e then 1 else 0 := by
  suffices hsuff : ExitCounted mrp (mrp.step e) from hsuff
  cases e with
  | recv p rx =>
      cases hdel : mrp.delivered p rx with
      | none =>
          rcases recv_of_not_delivered hdel with hrecv | hrecv
          · rw [step, hrecv]
            exact .of_toRingPart rfl
          · rw [step, hrecv]
            exact .of_toRingPart (mrp.relay_toRingPart p _ _)
      | some x =>
          rcases x with ⟨type, buf⟩
          rw [step, (recv_of_delivered hdel).2]
          have hring := mrp.relay_toRingPart p rx.frameBuf type
          refine (process_exitCounted _ ?_ buf type).congr (by rw [hring]) (by rw [hring])
          rwa [relay_toMrpConf]
  | linkChange p up =>
      simp only [step]
      split
      · exact mrp.portLinkChange_exitCounted p up
      · exact .of_toRingPart rfl
  | operstate p state => exact mrp.netlinkOperstate_exitCounted p state
  | cfmLinkChange defect => exact .of_toRingPart (mrp.cfmLinkChange_op defect).toRingPart
  | portMac p mac => cases p <;> exact .of_same rfl rfl
  | bridgeMac mac => exact .of_toRingPart rfl
  | expired w =>
      simp only [step]
      split
      · exact mrp.expired_exitCounted hmra w
      · exact .of_toRingPart rfl

/-- A link that comes up is no transition. -/
theorem portLinkChange_true_ringTransitions (mrp : Mrp) (p : Port) :
    (mrp.portLinkChange p true).ringTransitions = mrp.ringTransitions := by
  cases p with
  | inter => rw [(mrp.portLinkChange_inter_op true).toRingPart]
  | ring r =>
      simp only [portLinkChange]
      cases (mrp.noteRingLink r true).ringRole with
      | mrm =>
          have hlink : ∀ m : Mrp, (m.mrmPortLink r true).ringTransitions = m.ringTransitions := by
            intro m
            unfold mrmPortLink
            cases m.mrmState <;> dsimp only <;> split_ifs <;> simp_all
          exact hlink _
      | mrc => exact mrcPortLink_ringTransitions _ r true
      | disabled => rfl
      | mra => rfl

end RingCounter

/-! ## The counter of the interconnection -/

attribute [local simp] inTestStart inTestStop inTopoStart inTopoStop inLinkUpStart inLinkUpStop
  inLinkDownStart inLinkDownStop inLinkStatusStart inLinkStatusStop clearFdbStart
  setMimState setMicState noteInLink setInOperstate nextInTransition setInTestCurr
  setInTestCurrMax resetInTestCount setInTopoCurrMax setInLinkCurrMax setInLinkStatusCurrMax
  sendInTest inTestSend inTestReq sendInTopo inTopoSend sendInLink inLinkReq sendInLinkStatus

section InCounter

variable (mrp : Mrp)

@[simp]
theorem inTopoReq_inTransitions (time : UInt32) :
    (mrp.inTopoReq time).inTransitions = mrp.inTransitions := by
  unfold inTopoReq
  split <;> simp

@[simp]
theorem inLinkStatusReq_inTransitions (interval : UInt32) :
    (mrp.inLinkStatusReq interval).inTransitions = mrp.inTransitions := by
  unfold inLinkStatusReq
  split <;> simp

/-- No link event counts. -/
@[simp]
theorem mimPortLink_inTransitions (up : Bool) :
    (mrp.mimPortLink up).inTransitions = mrp.inTransitions := by
  unfold mimPortLink
  repeat' split
  all_goals simp

@[simp]
theorem micPortLink_inTransitions (up : Bool) :
    (mrp.micPortLink up).inTransitions = mrp.inTransitions := by
  unfold micPortLink
  dsimp only
  repeat' split
  all_goals simp

/-- A link event. -/
@[simp]
theorem portLinkChange_inTransitions (p : Port) (up : Bool) :
    (mrp.portLinkChange p up).inTransitions = mrp.inTransitions := by
  cases p with
  | ring r => rw [(mrp.portLinkChange_ring_op r up).toInPart]
  | inter =>
      simp only [portLinkChange]
      repeat' split
      all_goals simp

/-- A CFM notification. -/
@[simp]
theorem cfmLinkChange_inTransitions (defect : Bool) :
    (mrp.cfmLinkChange defect).inTransitions = mrp.inTransitions := by
  simp only [cfmLinkChange]
  repeat' split
  all_goals simp

/-- A netlink notification. -/
theorem netlinkOperstate_inTransitions (p : Port) (state : UInt8) :
    (mrp.netlinkOperstate p state).inTransitions = mrp.inTransitions := by
  have hset : ∀ operstate, (mrp.setOperstate p operstate).inTransitions = mrp.inTransitions := by
    intro operstate
    cases p <;> rfl
  unfold netlinkOperstate
  repeat' split
  all_goals simp [hset]

/-- No received frame counts. -/
theorem process_inTransitions (buf : Buf) (type : TlvType) :
    (mrp.process buf type).inTransitions = mrp.inTransitions := by
  cases type with
  | ringTest => rw [process, (mrp.recvRingTest_op buf fun _ _ _ _ => trivial :
      RingOp (fun _ => True) _ _).toInPart]
  | ringTopo => rw [process, (mrp.recvRingTopo_op buf : RingOp NoNack _ _).toInPart]
  | ringLinkDown => rw [process, (mrp.recvRingLink_op buf : RingOp NoNack _ _).toInPart]
  | ringLinkUp => rw [process, (mrp.recvRingLink_op buf : RingOp NoNack _ _).toInPart]
  | option => rw [process, (mrp.recvOption_op buf : RingOp NoNack _ _).toInPart]
  | inTest =>
      simp only [process, recvInTest, mimRecvInTest]
      repeat' split
      all_goals simp
  | inTopo =>
      simp only [process, recvInTopo]
      generalize intervalUs (InTopoHdr.interval (tlvBody buf)) = interval
      rw [← (mrp.restartRingTopo_op interval).toInPart]
      unfold inTopoByRole micRecvInTopo
      repeat' split
      all_goals simp
  | inLinkDown =>
      simp only [process, recvInLink]
      repeat' split
      all_goals simp
  | inLinkUp =>
      simp only [process, recvInLink]
      repeat' split
      all_goals simp
  | inLinkStatus =>
      simp only [process, recvInLinkStatus]
      repeat' split
      all_goals simp
  | tlvEnd => rfl
  | common => rfl
  | unknown => rfl

/-- Of the timers only the one of the test frames counts, and only when it opens the
interconnection. -/
theorem expired_inTransitions (w : TimerId) :
    (mrp.expired w).inTransitions = mrp.inTransitions +
      if w = .inTest ∧ mrp.mimState = .chkIc ∧ mrp.inTestCurr ≥ mrp.inTestCurrMax then 1
      else 0 := by
  cases w with
  | clearFdb => simp [expired, clearFdbExpired, clearFdbStop]
  | ringTopo => simp [expired, (mrp.ringTopoExpired_op : RingOp NoNack _ _).toInPart]
  | ringTest => simp [expired, (mrp.ringTestExpired_op : RingOp NoNack _ _).toInPart]
  | ringLinkUp => simp [expired, (mrp.ringLinkUpExpired_op : RingOp NoNack _ _).toInPart]
  | ringLinkDown => simp [expired, (mrp.ringLinkDownExpired_op : RingOp NoNack _ _).toInPart]
  | inTest =>
      simp only [expired, inTestExpired, true_and]
      cases hstate : mrp.mimState with
      | acStat1 => simp
      | chkIo => simp
      | chkIc =>
          simp only [true_and]
          split_ifs <;> simp
  | inTopo =>
      simp only [expired, inTopoExpired]
      split <;> simp
  | inLinkUp =>
      simp only [expired, inLinkUpExpired]
      split <;> simp
  | inLinkDown =>
      simp only [expired, inLinkDownExpired]
      split <;> simp
  | inLinkStatus =>
      simp only [expired, inLinkStatusExpired]
      split <;> simp
  | cfmCcm => simp [expired, cfmCcmExpired, cfmCcmStart]

/-- An event counts a transition of the interconnection exactly when too many test
frames are missing. -/
theorem step_inTransitions (e : Event) :
    (mrp.step e).inTransitions =
      mrp.inTransitions + if mrp.missesInTests e then 1 else 0 := by
  unfold missesInTests
  cases e with
  | recv p rx =>
      simp only [expires, Bool.and_false, Bool.false_and, Bool.false_eq_true, if_false]
      cases hdel : mrp.delivered p rx with
      | none =>
          rcases recv_of_not_delivered hdel with hrecv | hrecv
          · simp [step, hrecv]
          · simp [step, hrecv]
      | some x =>
          rw [step, (recv_of_delivered hdel).2, process_inTransitions]
          simp
  | linkChange p up =>
      simp only [step, expires, Bool.and_false, Bool.false_and, Bool.false_eq_true, if_false]
      split <;> simp
  | operstate p state => simp [step, expires, netlinkOperstate_inTransitions]
  | cfmLinkChange defect => simp [step, expires]
  | portMac p mac => cases p <;> simp [step, expires, portMacChange]
  | bridgeMac mac => simp [step, expires]
  | expired w =>
      simp only [step, expires, inChkIc]
      split
      next hactive =>
        rw [expired_inTransitions]
        by_cases hw : w = .inTest
        · subst hw
          simp [hactive]
        · simp [hw]
      next hactive =>
        by_cases hw : w = .inTest
        · subst hw
          simp [hactive]
        · simp [hw]

end InCounter

end Mrp

/-! ## What leaves CHK_IC -/

/-- The interconnection machine leaves CHK_IC when it is opened or its manager loses the
link of its port. -/
theorem Inter.leaves_iff {x : Inter} (c : InterConf) (ev : Inter.Event) (hfrom : x.mim = .chkIc) :
    (x.step c ev).mim ≠ .chkIc ↔
      ev = .opened ∨ (x.role = .mim ∧ (c.mode = .rc ∨ c.mode = .lc)) ∧ ev = .link false := by
  cases ev with
  | opened => simp [step, opening, hfrom]
  | link up =>
      simp only [step, linkEvent]
      cases hrole : x.role with
      | disabled => simp [hfrom]
      | mic =>
          have hmic : ((x.note up).micLink c up).mim = x.mim := by
            simp only [micLink, micDown, note, Inter.set]
            repeat' split
            all_goals rfl
          simp [hmic, hfrom]
      | mim =>
          cases up with
          | true => cases hmode : c.mode <;> simp [mimLink, note, hfrom, hmode]
          | false => cases hmode : c.mode <;> simp [mimLink, note, Inter.set, hfrom, hmode]
  | closed => simp [step, close, hfrom]
  | topologyChange own =>
      have htopo : (x.topology c own).mim = x.mim := by
        simp only [topology, Inter.set]
        repeat' split
        all_goals rfl
      simp [step, htopo, hfrom]
  | linkUpTick =>
      simp only [step, upTick, Inter.set]
      split <;> simp [hfrom]
  | linkDownTick =>
      simp only [step, downTick]
      split <;> simp [hfrom]
  | silent => simp [step, hfrom]

namespace Mrp

/-- In CHK_IC a link change frame that reports an open interconnection opens it, and so
does the test timer when too many frames are missing. -/
theorem interEvent_eq_opened_iff {mrp : Mrp} {e : Event} (hfrom : mrp.mimState = .chkIc) :
    mrp.interEvent e = .opened ↔
      mrp.handlesFrame mrp.isInLinkDown e = true ∨
        (mrp.expires .inTest e = true ∧ mrp.inTestCurr ≥ mrp.inTestCurrMax) := by
  constructor
  · exact exists_of_inOpened
  · rintro (hframe | ⟨htick, hlimit⟩)
    · cases e with
      | recv p rx =>
          cases hdel : mrp.delivered p rx with
          | none =>
              simp only [handlesFrame, hdel] at hframe
              cases hframe
          | some x =>
              rcases x with ⟨type, buf⟩
              simp only [handlesFrame, hdel, isInLinkDown, Bool.and_eq_true, Bool.or_eq_true,
                decide_eq_true_eq] at hframe
              simp only [interEvent, hdel]
              rcases hframe with ⟨⟨htype | htype, hdown⟩, hid⟩
              · simp [htype, inFrameEvent, hfrom, hid, hdown]
              · simp [htype, inFrameEvent, hfrom, hid, hdown]
      | _ => cases hframe
    · cases e with
      | expired w =>
          simp only [expires, Bool.and_eq_true, decide_eq_true_eq] at htick
          rcases htick with ⟨rfl, hactive⟩
          simp only [interEvent, hactive, if_true, inTimerEvent]
          rw [if_pos ⟨hfrom, hlimit⟩]
      | _ => cases htick

/-- The exits from CHK_IC: the one that counts and those that do not. -/
theorem leavesChkIc_eq (mrp : Mrp) (e : Event) :
    mrp.leavesChkIc e = (mrp.missesInTests e || mrp.leavesUncounted e) := by
  unfold leavesChkIc missesInTests leavesUncounted
  by_cases hfrom : mrp.mimState = .chkIc
  · have hstep : (mrp.step e).mimState = (mrp.inter.step mrp.interConf (mrp.interEvent e)).mim :=
      congrArg Inter.mim (mrp.step_inter e)
    have hleaves := Inter.leaves_iff (x := mrp.inter) mrp.interConf (mrp.interEvent e) hfrom
    rw [← hstep, interEvent_eq_opened_iff hfrom] at hleaves
    have hrole : mrp.inter.role = mrp.inRole := rfl
    have hmode : mrp.interConf.mode = mrp.inMode := rfl
    rw [hrole, hmode] at hleaves
    rw [Bool.eq_iff_iff]
    simp only [inChkIc, losesInLink, hfrom, decide_true, Bool.true_and, Bool.not_eq_true',
      decide_eq_false_iff_not, Bool.or_eq_true, Bool.and_eq_true, decide_eq_true_eq]
    rw [← ne_eq, hleaves, or_assoc]
    exact or_left_comm
  · simp [inChkIc, hfrom]

/-- An exit counts or does not. -/
theorem not_leavesUncounted_of_missesInTests {mrp : Mrp} {e : Event}
    (h : mrp.missesInTests e = true) : mrp.leavesUncounted e = false := by
  cases e with
  | expired w =>
      have hlink : mrp.interEvent (.expired w) ≠ .link false := by
        simp only [interEvent]
        split
        · cases w <;> simp only [inTimerEvent] <;> (try split) <;> simp
        · simp
      simp [leavesUncounted, handlesFrame, losesInLink, hlink]
  | _ => simp [missesInTests, expires] at h

/-! ## New instances -/

/-- Neither counter has counted anything. -/
def Uncounted (mrp : Mrp) : Prop := mrp.ringTransitions = 0 ∧ mrp.inTransitions = 0

section Construction

attribute [local simp] call clearFdbStop ringTopoStop ringLinkUpStop ringLinkDownStop ringTestStop
  inTopoStop inLinkUpStop inLinkDownStop inTestStop inLinkStatusStop cfmCcmStop

/-- Setting roles counts nothing. -/
theorem uncounted_keptByRoles : KeptByRoles Uncounted where
  mraSupport _ h := h
  resetRingState m h := by
    unfold resetRingState timerStop
    dsimp only
    repeat' split
    all_goals simpa [Uncounted] using h
  setMrmInit _ h := h
  setMrcInit _ h := h
  setMrmState _ h := h
  setMrcState _ h := h
  portSetState m p state h := by
    cases p with
    | ring r => exact h
    | inter => exact ⟨by simpa using h.1, by simpa using h.2⟩
  setRingRole _ _ h := h
  setInRole _ _ h := h
  portLinkChange m p h :=
    ⟨(m.portLinkChange_true_ringTransitions p).trans h.1,
      (m.portLinkChange_inTransitions p true).trans h.2⟩
  cfmLinkChange m h :=
    ⟨by rw [(m.cfmLinkChange_op false).toRingPart]; exact h.1,
      (m.cfmLinkChange_inTransitions false).trans h.2⟩

end Construction

/-- A configured instance has counted nothing. -/
theorem configure_uncounted (env : Env) (a : AddArgs) : (configure env a).Uncounted := by
  have hrecovery : ∀ (m : Mrp) (ringRecv inRecv : UInt8), m.Uncounted →
      (m.updateRecovery env.timeFactor ringRecv inRecv).Uncounted := by
    intro m ringRecv inRecv hm
    unfold updateRecovery
    repeat' split
    all_goals exact hm
  have hcreate : (create env a.brIfindex a.ringNr a.inId).Uncounted :=
    hrecovery _ 0 0 ⟨rfl, rfl⟩
  have hsettings : (applySettings env a).Uncounted :=
    hrecovery ((create env a.brIfindex a.ringNr a.inId).setPrio a.prio) _ _ hcreate
  have hports : ((applySettings env a).initPorts env a).Uncounted := by
    simp only [initPorts]
    split <;> exact hsettings
  simp only [configure]
  split
  · simp only [startCfm]
    split <;> exact hports
  · exact hports

end Mrp

/-- The counters of a run.  In every state of every run of a ring manager without
auto-manager support `ring_transitions` is, modulo 2^16, the number of times the manager
left CHK_RC.  The same holds of `in_transitions` and CHK_IC exactly in the runs that never
leave CHK_IC because of an MRP_InLinkDown frame or because the link of the
interconnection port went down. -/
theorem transitions_counted_iff {env : Env} {a : AddArgs} {mrp : Mrp} (h : Created env a mrp)
    (es : List Event) :
    (a.ringRole = ringRoleMrm →
      ∀ k, (run Mrp.step mrp (es.take k)).ringTransitions.toNat =
        (trace Mrp.step Mrp.leavesChkRc mrp (es.take k)).count true % 65536) ∧
    ((∀ k, (run Mrp.step mrp (es.take k)).inTransitions.toNat =
        (trace Mrp.step Mrp.leavesChkIc mrp (es.take k)).count true % 65536) ↔
      Guarded Mrp.step (fun m e => m.leavesUncounted e = false) mrp es) := by
  have hzero := Mrp.uncounted_keptByRoles.created (Mrp.configure_uncounted env a) h
  have hnext : ∀ (n : UInt16) (b : Bool),
      (n + if b then 1 else 0).toNat = (n.toNat + if b then 1 else 0) % 65536 := by
    intro n b
    cases b <;> simp
  constructor
  · intro hrole k
    have hmra : mrp.mraSupport = false := by
      rw [h.mraSupport, hrole]
      rfl
    have hcount := forall_count_iff_guarded Mrp.leavesChkRc Mrp.leavesChkRc (fun _ _ => false)
      (I := fun m => m.mraSupport = false) (f := fun m => m.ringTransitions.toNat) (m := 65536)
      (n := 0) (by decide)
      (fun m e hm => by rwa [m.step_toMrpConf e])
      (fun m e hm => by rw [m.step_ringTransitions hm e, hnext]) (fun _ _ _ => by simp)
      (fun _ _ _ _ => rfl) hmra (by rw [hzero.1]; rfl) es
    have hguard : Guarded Mrp.step (fun _ _ => false = false) mrp es :=
      guarded_of_forall (fun _ _ => rfl) mrp es
    simpa using hcount.mpr hguard k
  · have hcount := forall_count_iff_guarded Mrp.leavesChkIc Mrp.missesInTests Mrp.leavesUncounted
      (I := fun _ => True) (f := fun m => m.inTransitions.toNat) (m := 65536) (n := 0) (by decide)
      (fun _ _ _ => trivial) (fun m e _ => by rw [m.step_inTransitions e, hnext])
      (fun m e _ => m.leavesChkIc_eq e)
      (fun _ _ _ hmiss => Mrp.not_leavesUncounted_of_missesInTests hmiss) trivial
      (by rw [hzero.2]; rfl) es
    simpa using hcount

namespace Sample

/-- The links of both ring ports go down, one after the other. -/
def lostLinks : List Event :=
  [.linkChange (.ring .secondary) false, .linkChange (.ring .secondary) true,
    .linkChange (.ring .primary) false]

/-- Another bridge reports that the interconnection is open. -/
def inLinkLost : Event := .recv .inter (frame (mac 9) 0x8000 (.inLink false 0))

end Sample

/-- The sample manager leaves CHK_RC twice and counts both. -/
theorem transitions_counted_iff_sample :
    (run Mrp.step (Sample.mrp ringRoleMrm inRoleMim) (Sample.lostLinks.take 3)).ringTransitions.toNat
      = 2 := by
  have hcr : Created Sample.env (Sample.args ringRoleMrm inRoleMim)
      (Sample.mrp ringRoleMrm inRoleMim) := Sample.created (by decide +kernel)
  rw [(transitions_counted_iff hcr Sample.lostLinks).1 rfl 3]
  decide +kernel

/-- A link change frame makes the sample manager leave CHK_IC without a count. -/
theorem inLinkDown_not_counted :
    Created Sample.env (Sample.args ringRoleMrm inRoleMim) (Sample.mrp ringRoleMrm inRoleMim) ∧
      (run Mrp.step (Sample.mrp ringRoleMrm inRoleMim) [Sample.inLinkLost]).inTransitions.toNat ≠
        (trace Mrp.step Mrp.leavesChkIc (Sample.mrp ringRoleMrm inRoleMim)
          [Sample.inLinkLost]).count true % 65536 :=
  ⟨Sample.created (by decide +kernel), by decide +kernel⟩

end Umrp
