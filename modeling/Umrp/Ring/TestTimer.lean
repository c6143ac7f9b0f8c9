import Umrp.Recovery

/-!
# The test timer of a manager

A manager sends its test frames from the callback of the `ring_test` timer, and an
auto-manager that acts as client counts the silence of its manager with the same
timer.  Handlers of both roles start, restart and stop it.

Main results:

- Theorem `Mrp.TestTimerInv.step`: every event keeps the invariant of the timer.
- Theorem `testTimer_active_iff`: the timer of an instance created as manager or
  auto-manager is active unless it is a manager in AC_STAT1.
-/

namespace Umrp

open Octets EventMachine

namespace Mrp

/-- What belongs to the test frames of the ring is the same in `b` as in `a`: role,
manager state, timer, counters and settings. -/
structure TestKept (a b : Mrp) : Prop where
  toMrpConf : b.toMrpConf = a.toMrpConf
  ringRole : b.ringRole = a.ringRole
  mrmState : b.mrmState = a.mrmState
  ringTestWork : b.ringTestWork = a.ringTestWork
  ringTestCurr : b.ringTestCurr = a.ringTestCurr
  ringTestCurrMax : b.ringTestCurrMax = a.ringTestCurrMax

theorem TestKept.refl (a : Mrp) : TestKept a a :=
  ⟨rfl, rfl, rfl, rfl, rfl, rfl⟩

/-- It is enough that settings and ring side are the same. -/
theorem TestKept.of_toRingPart {a b : Mrp} (hconf : b.toMrpConf = a.toMrpConf)
    (hring : b.toRingPart = a.toRingPart) : TestKept a b :=
  ⟨hconf, by rw [hring], by rw [hring], by rw [hring], by rw [hring], by rw [hring]⟩

/-- Handlers of the interconnection side do not touch the test frames of the ring. -/
theorem InOp.testKept {a b : Mrp} (h : InOp a b) : TestKept a b :=
  .of_toRingPart h.toMrpConf h.toRingPart

attribute [local simp] call flush ringTestStart ringTestStop ringTopoStart ringTopoStop
  ringLinkUpStart ringLinkUpStop ringLinkDownStart ringLinkDownStop

attribute [local simp] portSetState_ring RingPart.setPortState setRingRole setMrmInit setMrcInit
  setMrmState setMrcState promote demote restartTestCount noteRingLink setAddTest setNoTc
  nextRingTransition setRingTestCurr setRingTestCurrMax resetRingTestCount setRingMonCurr
  setRingPrio setRingMac setRingTopoCurrMax setRingLinkCurrMax

attribute [local simp] sendRingTest ringTestSend ringTestReq sendRingTopo ringTopoSend
  ringLinkReq sendTestMgrNack testMgrNackReq sendTestProp testPropReq

section Requests

variable (mrp : Mrp) (time : UInt32)

/-- A topology change request changes nothing on the ring side but its own timer. -/
theorem ringTopoReq_eq :
    ∃ running work, (mrp.ringTopoReq time).toRingPart =
      { mrp.toRingPart with ringTopoRunning := running, ringTopoWork := work } := by
  unfold ringTopoReq
  by_cases h : time = 0
  · exact ⟨mrp.ringTopoRunning, mrp.ringTopoWork, by simp [h]⟩
  · exact ⟨true, .again mrp.ringTopoConfInterval, by simp [h]⟩

@[simp]
theorem ringTopoReq_toMrpConf : (mrp.ringTopoReq time).toMrpConf = mrp.toMrpConf := by
  unfold ringTopoReq
  by_cases h : time = 0
  · simp [h]
  · simp [h]

@[simp]
theorem ringTopoReq_ringRole : (mrp.ringTopoReq time).ringRole = mrp.ringRole := by
  rcases mrp.ringTopoReq_eq time with ⟨_, _, h⟩
  rw [h]

@[simp]
theorem ringTopoReq_mrmState : (mrp.ringTopoReq time).mrmState = mrp.mrmState := by
  rcases mrp.ringTopoReq_eq time with ⟨_, _, h⟩
  rw [h]

@[simp]
theorem ringTopoReq_ringTestWork : (mrp.ringTopoReq time).ringTestWork = mrp.ringTestWork := by
  rcases mrp.ringTopoReq_eq time with ⟨_, _, h⟩
  rw [h]

@[simp]
theorem ringTopoReq_ringTestCurr : (mrp.ringTopoReq time).ringTestCurr = mrp.ringTestCurr := by
  rcases mrp.ringTopoReq_eq time with ⟨_, _, h⟩
  rw [h]

@[simp]
theorem ringTopoReq_ringTestCurrMax :
    (mrp.ringTopoReq time).ringTestCurrMax = mrp.ringTestCurrMax := by
  rcases mrp.ringTopoReq_eq time with ⟨_, _, h⟩
  rw [h]

@[simp]
theorem clearFdbStart_toRingPart (interval : UInt32) :
    (mrp.clearFdbStart interval).toRingPart = mrp.toRingPart := by
  unfold clearFdbStart
  split <;> rfl

end Requests

/-! ## Handlers that leave the test frames alone -/

section Kept

variable (mrp : Mrp)

/-- Link events of a client. -/
theorem mrcPortLink_testKept (r : RingPort) (up : Bool) : TestKept mrp (mrp.mrcPortLink r up) := by
  refine ⟨(mrp.mrcPortLink_op r up : RingOp NoNack _ _).toMrpConf, ?_, ?_, ?_, ?_, ?_⟩ <;>
    unfold mrcPortLink <;> cases mrp.mrcState <;> dsimp only <;> split_ifs <;> simp

/-- A test frame of another bridge. -/
theorem mraRecvRingTest_testKept (hdr : Buf) : TestKept mrp (mrp.mraRecvRingTest hdr) := by
  unfold mraRecvRingTest
  cases mrp.ringRole with
  | mrm =>
      dsimp only
      split_ifs
      · exact .refl mrp
      · exact .of_toRingPart (by simp) (by simp)
  | mrc =>
      dsimp only
      split_ifs
      · exact .refl mrp
      · exact ⟨rfl, rfl, rfl, rfl, rfl, rfl⟩
      · exact ⟨rfl, rfl, rfl, rfl, rfl, rfl⟩
  | disabled => exact .refl mrp
  | mra => exact .refl mrp

/-- A topology change. -/
theorem recvRingTopo_testKept (buf : Buf) : TestKept mrp (mrp.recvRingTopo buf) := by
  refine ⟨(mrp.recvRingTopo_op buf : RingOp NoNack _ _).toMrpConf, ?_, ?_, ?_, ?_, ?_⟩ <;>
    unfold recvRingTopo mraRecvRingTopo mrcRecvRingTopo <;>
    cases mrp.mrcState <;> dsimp only <;> split_ifs <;> simp

/-- Recording the sender of a NACK. -/
theorem recordHost_testKept (hdr : Buf) : TestKept mrp (mrp.recordHost hdr) := by
  unfold recordHost
  split <;> exact ⟨rfl, rfl, rfl, rfl, rfl, rfl⟩

/-- A propagate frame. -/
theorem recvPropagate_testKept (buf : Buf) : TestKept mrp (mrp.recvPropagate buf) := by
  unfold recvPropagate
  dsimp only
  split_ifs <;> exact ⟨rfl, rfl, rfl, rfl, rfl, rfl⟩

/-- A topology change of the interconnection. -/
theorem recvInTopo_testKept (buf : Buf) : TestKept mrp (mrp.recvInTopo buf) := by
  simp only [recvInTopo]
  generalize intervalUs (InTopoHdr.interval (tlvBody buf)) = interval
  have hconf := (mrp.restartRingTopo_op interval).toMrpConf
  have hop := inTopoByRole_op (mrp.restartRingTopo interval) (tlvBody buf) interval
  refine ⟨hop.toMrpConf.trans hconf, ?_, ?_, ?_, ?_, ?_⟩ <;> rw [hop.toRingPart] <;>
    unfold restartRingTopo <;> split <;> simp

/-- The handlers of the interconnection side. -/
theorem process_testKept (buf : Buf) {type : TlvType} (htype : type.isInFrame = true) :
    TestKept mrp (mrp.process buf type) := by
  cases type with
  | inTest => exact (mrp.recvInTest_op buf).testKept
  | inTopo => exact mrp.recvInTopo_testKept buf
  | inLinkDown => exact (mrp.recvInLink_op buf).testKept
  | inLinkUp => exact (mrp.recvInLink_op buf).testKept
  | inLinkStatus => exact (mrp.recvInLinkStatus_op buf).testKept
  | _ => simp [TlvType.isInFrame] at htype

/-- The callbacks of all other timers. -/
theorem expired_testKept {w : TimerId} (hw : w ≠ .ringTest) : TestKept mrp (mrp.expired w) := by
  have hconf := (mrp.expired_op w).toMrpConf
  cases w with
  | clearFdb => exact ⟨rfl, rfl, rfl, rfl, rfl, rfl⟩
  | ringTopo =>
      refine ⟨hconf, ?_, ?_, ?_, ?_, ?_⟩ <;> simp only [expired, ringTopoExpired] <;>
        split <;> simp
  | ringTest => exact absurd rfl hw
  | ringLinkUp =>
      refine ⟨hconf, ?_, ?_, ?_, ?_, ?_⟩ <;> simp only [expired, ringLinkUpExpired] <;>
        split <;> simp
  | ringLinkDown =>
      refine ⟨hconf, ?_, ?_, ?_, ?_, ?_⟩ <;> simp only [expired, ringLinkDownExpired] <;>
        split <;> simp
  | inTest => exact mrp.inTestExpired_op.testKept
  | inTopo => exact mrp.inTopoExpired_op.testKept
  | inLinkUp => exact mrp.inLinkUpExpired_op.testKept
  | inLinkDown => exact mrp.inLinkDownExpired_op.testKept
  | inLinkStatus => exact mrp.inLinkStatusExpired_op.testKept
  | cfmCcm => exact ⟨rfl, rfl, rfl, rfl, rfl, rfl⟩

/-- Relaying a frame. -/
theorem relay_testKept (p : Port) (fb : FrameBuf) (type : TlvType) :
    TestKept mrp (mrp.relay p fb type) :=
  .of_toRingPart (mrp.relay_toMrpConf p fb type) (mrp.relay_toRingPart p fb type)

/-- Storing an operational state. -/
theorem setOperstate_testKept (p : Port) (operstate : UInt8) :
    TestKept mrp (mrp.setOperstate p operstate) := by
  cases p <;> exact ⟨rfl, rfl, rfl, rfl, rfl, rfl⟩

/-- Storing an address. -/
theorem portMacChange_testKept (p : Port) (mac : Mac) : TestKept mrp (mrp.portMacChange p mac) := by
  cases p <;> exact ⟨rfl, rfl, rfl, rfl, rfl, rfl⟩

end Kept

/-! ## Handlers of links -/

/-- What link events and link change frames do to the test frames of a manager: the
timer is left alone, restarted, or stopped with the last link; CHK_RC is kept with its
count or entered with a fresh one. -/
structure LinkMoved (a b : Mrp) : Prop where
  toMrpConf : b.toMrpConf = a.toMrpConf
  ringRole : b.ringRole = a.ringRole
  timer :
    b.ringTestWork = a.ringTestWork ∧ (b.mrmState = .acStat1 ↔ a.mrmState = .acStat1) ∨
      (b.ringTestWork = .again a.ringTestConfInterval ∨
        b.ringTestWork = .again a.ringTestConfShort) ∧ b.mrmState ≠ .acStat1 ∨
      b.ringTestWork = a.ringTestWork.stop ∧ b.mrmState = .acStat1
  count : b.mrmState = .chkRc →
    a.mrmState = .chkRc ∧ b.ringTestCurr = a.ringTestCurr ∧
        (b.ringTestCurrMax = a.ringTestCurrMax ∨ b.ringTestCurrMax = a.ringTestConfMax - 1) ∨
      a.mrmState ≠ .chkRc ∧ b.ringTestCurr = 0 ∧ b.ringTestCurrMax = a.ringTestConfMax - 1

/-- Link events of a manager. -/
theorem mrmPortLink_moved (mrp : Mrp) (r : RingPort) (up : Bool) :
    LinkMoved mrp (mrp.mrmPortLink r up) := by
  refine ⟨(mrp.mrmPortLink_op r up : RingOp NoNack _ _).toMrpConf, ?_, ?_, ?_⟩ <;>
    unfold mrmPortLink <;> cases hstate : mrp.mrmState <;> dsimp only <;> split_ifs <;>
    simp [hstate]

/-- Link change frames. -/
theorem recvRingLink_moved (mrp : Mrp) (buf : Buf) : LinkMoved mrp (mrp.recvRingLink buf) := by
  refine ⟨(mrp.recvRingLink_op buf : RingOp NoNack _ _).toMrpConf, ?_, ?_, ?_⟩ <;>
    unfold recvRingLink <;> cases hstate : mrp.mrmState <;> dsimp only <;> (try split_ifs) <;>
    simp [hstate]

/-! ## The invariant of the timer -/

/-- The test timer runs unless the instance is a manager that has no link yet. -/
structure TestTimerInv (mrp : Mrp) : Prop where
  role : mrp.ringRole = .mrm ∨ mrp.ringRole = .mrc
  interval : mrp.ringTestConfInterval ≠ 0
  short : mrp.ringTestConfShort ≠ 0
  active : mrp.ringTestWork.active = true ↔ ¬(mrp.ringRole = .mrm ∧ mrp.mrmState = .acStat1)

/-- The invariant is about nothing but the test frames. -/
theorem TestTimerInv.of_kept {a b : Mrp} (h : TestTimerInv a) (hkept : TestKept a b) :
    TestTimerInv b := by
  rcases h with ⟨hrole, hinterval, hshort, hactive⟩
  refine ⟨?_, ?_, ?_, ?_⟩
  · rwa [hkept.ringRole]
  · rwa [hkept.toMrpConf]
  · rwa [hkept.toMrpConf]
  · rwa [hkept.ringRole, hkept.mrmState, hkept.ringTestWork]

/-- A handler that leaves the timer running and a state other than AC_STAT1 behind. -/
theorem TestTimerInv.of_running {a b : Mrp} (h : TestTimerInv a)
    (hconf : b.toMrpConf = a.toMrpConf) (hrole : b.ringRole = .mrm ∨ b.ringRole = .mrc)
    (hmrm : b.mrmState ≠ .acStat1) (htimer : b.ringTestWork.active = true) : TestTimerInv b := by
  refine ⟨hrole, ?_, ?_, iff_of_true htimer fun hbad => hmrm hbad.2⟩
  · rw [hconf]
    exact h.interval
  · rw [hconf]
    exact h.short

section Handlers

variable {mrp : Mrp}

/-- A manager starts the timer with its first link and stops it with its last. -/
theorem TestTimerInv.of_moved {b : Mrp} (h : TestTimerInv mrp) (hrole : mrp.ringRole = .mrm)
    (hmoved : LinkMoved mrp b) : TestTimerInv b := by
  have hsame := hmoved.ringRole
  rcases h with ⟨hor, hinterval, hshort, hactive⟩
  refine ⟨?_, ?_, ?_, ?_⟩
  · rwa [hsame]
  · rwa [hmoved.toMrpConf]
  · rwa [hmoved.toMrpConf]
  · rcases hmoved.timer with ⟨hwork, hstate⟩ | ⟨hwork, hstate⟩ | ⟨hwork, hstate⟩
    · rwa [hwork, hsame, hstate]
    · refine iff_of_true ?_ fun hbad => hstate hbad.2
      rcases hwork with hwork | hwork
      · simpa [hwork] using hinterval
      · simpa [hwork] using hshort
    · refine iff_of_false ?_ fun hbad => hbad ⟨hsame.trans hrole, hstate⟩
      simp [hwork]

/-- A link event on a ring port. -/
theorem TestTimerInv.portLinkChange (h : TestTimerInv mrp) (r : RingPort) (up : Bool) :
    TestTimerInv (mrp.portLinkChange (.ring r) up) := by
  have hnote : TestTimerInv (mrp.noteRingLink r up) := ⟨h.role, h.interval, h.short, h.active⟩
  simp only [Mrp.portLinkChange]
  cases hrole : (mrp.noteRingLink r up).ringRole with
  | mrm => exact hnote.of_moved hrole (mrmPortLink_moved _ r up)
  | mrc => exact hnote.of_kept (mrcPortLink_testKept _ r up)
  | disabled => exact hnote
  | mra => exact hnote

/-- An own test frame restarts the timer, except in AC_STAT1. -/
theorem TestTimerInv.mrmRecvRingTest (h : TestTimerInv mrp) : TestTimerInv mrp.mrmRecvRingTest := by
  have hconf := (mrp.mrmRecvRingTest_op : RingOp NoNack _ _).toMrpConf
  have hinterval := h.interval
  have hrole := h.role
  unfold Mrp.mrmRecvRingTest at hconf ⊢
  cases hstate : mrp.mrmState with
  | acStat1 => exact h
  | prmUp =>
      simp only [hstate] at hconf ⊢
      exact h.of_running hconf (by simpa using hrole) (by simp) (by simpa using hinterval)
  | chkRo =>
      simp only [hstate] at hconf ⊢
      exact h.of_running hconf (by simpa using hrole) (by simp) (by simpa using hinterval)
  | chkRc => exact ⟨h.role, h.interval, h.short, h.active⟩

/-- A test frame. -/
theorem TestTimerInv.recvRingTest (h : TestTimerInv mrp) (buf : Buf) :
    TestTimerInv (mrp.recvRingTest buf) := by
  unfold Mrp.recvRingTest
  dsimp only
  split_ifs
  · exact h.mrmRecvRingTest
  · exact h.of_kept (mrp.mraRecvRingTest_testKept _)
  · exact h

/-- Giving up the manager role hands the timer over to the client. -/
theorem TestTimerInv.yieldRole (h : TestTimerInv mrp) (hrole : mrp.ringRole = .mrm) :
    TestTimerInv mrp.yieldRole := by
  have hconf := (mrp.yieldRole_op : RingOp NoNack _ _).toMrpConf
  rcases h with ⟨-, hinterval, hshort, hactive⟩
  rw [hrole] at hactive
  refine ⟨?_, by rwa [hconf], by rwa [hconf], ?_⟩
  · unfold Mrp.yieldRole enterClient
    cases hstate : mrp.mrmState <;> simp [hstate, hrole]
  · unfold Mrp.yieldRole enterClient
    cases hstate : mrp.mrmState <;> simp_all

/-- A NACK. -/
theorem TestTimerInv.recvNack (h : TestTimerInv mrp) (buf : Buf) :
    TestTimerInv (mrp.recvNack buf) := by
  unfold Mrp.recvNack
  dsimp only
  split
  · exact h
  next hmrc =>
    split
    · exact h
    · split
      · exact h
      · have hhost := mrp.recordHost_testKept (subTlvBody buf)
        exact (h.of_kept hhost).yieldRole (hhost.ringRole.trans (h.role.resolve_right hmrc))

/-- An option frame. -/
theorem TestTimerInv.recvOption (h : TestTimerInv mrp) (buf : Buf) :
    TestTimerInv (mrp.recvOption buf) := by
  unfold Mrp.recvOption
  dsimp only
  split_ifs
  · exact h.recvNack _
  · exact h.of_kept (mrp.recvPropagate_testKept _)
  · exact h

/-- An expiry on a manager restarts the timer. -/
theorem TestTimerInv.mrmRingTestExpired (h : TestTimerInv mrp) : TestTimerInv mrp.mrmRingTestExpired := by
  have hconf := (mrp.mrmRingTestExpired_op : RingOp NoNack _ _).toMrpConf
  have hinterval := h.interval
  have hrole := h.role
  unfold Mrp.mrmRingTestExpired at hconf ⊢
  cases hstate : mrp.mrmState with
  | acStat1 => exact h
  | prmUp =>
      simp only [hstate] at hconf ⊢
      exact h.of_running hconf (by simpa using hrole) (by simp [hstate]) (by simpa using hinterval)
  | chkRo =>
      simp only [hstate] at hconf ⊢
      exact h.of_running hconf (by simpa using hrole) (by simp [hstate]) (by simpa using hinterval)
  | chkRc =>
      simp only [hstate] at hconf ⊢
      refine h.of_running hconf ?_ ?_ ?_
      · split_ifs <;> simpa using hrole
      · split_ifs <;> simp [hstate]
      · split_ifs <;> simpa using hinterval

/-- An expiry on a client restarts the timer, also when the client takes over. -/
theorem TestTimerInv.mrcRingTestExpired (h : TestTimerInv mrp) (hrole : mrp.ringRole = .mrc) :
    TestTimerInv mrp.mrcRingTestExpired := by
  have hshort := h.short
  unfold Mrp.mrcRingTestExpired
  split_ifs
  · exact ⟨.inr hrole, h.interval, h.short, by simp [hrole, hshort]⟩
  · have hinterval := h.interval
    unfold enterManager
    cases hstate : mrp.mrcState <;> constructor <;> simp [hstate, hrole, hshort, hinterval]

/-- An expiry of the timer itself. -/
theorem TestTimerInv.ringTestExpired (h : TestTimerInv mrp) : TestTimerInv mrp.ringTestExpired := by
  unfold Mrp.ringTestExpired
  split_ifs with hmrc
  · exact h.mrcRingTestExpired hmrc.2
  · exact h.mrmRingTestExpired
  · exact h

/-- The handlers of received frames. -/
theorem TestTimerInv.process (h : TestTimerInv mrp) (buf : Buf) {type : TlvType}
    (htype : mrp.shouldProcess type = true) : TestTimerInv (mrp.process buf type) := by
  cases type with
  | ringTest => exact h.recvRingTest buf
  | ringTopo => exact h.of_kept (mrp.recvRingTopo_testKept buf)
  | ringLinkDown =>
      exact h.of_moved (by simpa [shouldProcess] using htype) (mrp.recvRingLink_moved buf)
  | ringLinkUp =>
      exact h.of_moved (by simpa [shouldProcess] using htype) (mrp.recvRingLink_moved buf)
  | option => exact h.recvOption buf
  | tlvEnd => exact h
  | common => exact h
  | unknown => exact h
  | _ => exact h.of_kept (mrp.process_testKept buf rfl)

/-- The callbacks of the timers. -/
theorem TestTimerInv.expired (h : TestTimerInv mrp) (w : TimerId) : TestTimerInv (mrp.expired w) := by
  by_cases hw : w = .ringTest
  · rw [hw]
    exact h.ringTestExpired
  · exact h.of_kept (mrp.expired_testKept hw)

/-- A link event on any port. -/
theorem TestTimerInv.linkChange (h : TestTimerInv mrp) (p : Port) (up : Bool) :
    TestTimerInv (mrp.portLinkChange p up) := by
  cases p with
  | ring r => exact h.portLinkChange r up
  | inter =>
      exact h.of_kept (mrp.portLinkChange_inter_op up).testKept

/-- The handlers keep the invariant. -/
theorem keptByHandlers_testTimerInv : KeptByHandlers TestTimerInv where
  relay mrp p fb type h := h.of_kept (mrp.relay_testKept p fb type)
  process _ buf _ h htype := h.process buf htype
  link _ p up h := h.linkChange p up
  cfm mrp defect h := h.of_kept (mrp.cfmLinkChange_op defect).testKept
  operstate mrp p operstate h := h.of_kept (mrp.setOperstate_testKept p operstate)
  portMac mrp p mac h := h.of_kept (mrp.portMacChange_testKept p mac)
  bridgeMac _ _ h := ⟨h.role, h.interval, h.short, h.active⟩

/-- Every event keeps the invariant of the timer. -/
theorem TestTimerInv.step (h : TestTimerInv mrp) (e : Event) : TestTimerInv (mrp.step e) :=
  keptByHandlers_testTimerInv.step h e fun w _ _ => h.expired w

end Handlers

end Mrp

/-! ## Instances -/

/-- An instance created as manager or auto-manager starts with the invariant. -/
theorem Created.testTimerInv {env : Env} {a : AddArgs} {mrp : Mrp} (h : Created env a mrp)
    (htf : env.timeFactor = 1) (hrole : a.ringRole = ringRoleMrm ∨ a.ringRole = ringRoleMra) :
    mrp.TestTimerInv := by
  have hrec := recovered_configure env a
  refine h.manager_of_linkless hrole (fun hconf hring hx => hx.of_kept (.of_toRingPart hconf hring))
    (fun r hx => hx.portLinkChange r true) ?_
  intro x hconf hmrm hstate htimer
  refine ⟨.inl hmrm, ?_, ?_, ?_⟩
  · rw [hconf]
    exact hrec.testInterval htf
  · rw [hconf]
    exact hrec.testShort htf
  · simp [hmrm, hstate, htimer]

/-- The test timer of an instance created as manager or auto-manager is active in
every reachable state, except in a manager without a link. -/
theorem testTimer_active_iff {env : Env} {a : AddArgs} {mrp : Mrp} (h : Reachable env a mrp)
    (htf : env.timeFactor = 1) (hrole : a.ringRole = ringRoleMrm ∨ a.ringRole = ringRoleMra) :
    mrp.ringTestWork.active = true ↔ ¬(mrp.ringRole = .mrm ∧ mrp.mrmState = .acStat1) := by
  rcases h with ⟨mrp₀, es, hcr, rfl⟩
  exact (run_invariant (fun m e hm => hm.step e) (hcr.testTimerInv htf hrole) es).active

namespace Sample

/-- A NACK of bridge 9, and an expiry of the test timer after it. -/
def demotion : List Event :=
  [.recv (.ring .primary) (frame (mac 9) 0x1000 (.testMgrNack (mac 1))), .expired .ringTest]

end Sample

/-- The sample auto-manager is demoted and keeps its timer. -/
theorem testTimer_active_iff_sample :
    (run Mrp.step (Sample.mrp ringRoleMra 0) Sample.demotion).ringTestWork.active = true := by
  have hreach : Reachable Sample.env (Sample.args ringRoleMra 0)
      (run Mrp.step (Sample.mrp ringRoleMra 0) Sample.demotion) :=
    ⟨_, _, Sample.created (by decide +kernel), rfl⟩
  exact (testTimer_active_iff hreach rfl (.inr rfl)).mpr (by decide +kernel)

end Umrp
