import Umrp.Creation

/-!
# Ring frames on the interconnection port

A frame of a ring type that arrives on the interconnection port belongs to the
neighbouring ring.  The relay function sends it nowhere, but the process filter
looks at roles only: once the port forwards, the frame goes to the handler as if
it came from this ring.

Main results:

- Theorem `Mrp.relay_inter`: such a frame is relayed to no port.
- Theorem `Mrp.process_ringKept_iff`: which ring frames a handler reacts to.
- Theorem `neighbour_ringFrame_iff`: a ring frame on the interconnection port leaves
  the ring side alone exactly when a filter stops it or the handler ignores it.
-/

namespace Umrp

open Octets EventMachine

/-! ## What a neighbour's frame must leave alone -/

/-- The timers of the ring side. -/
def ringTimers : List TimerId := [.ringTest, .ringTopo, .ringLinkUp, .ringLinkDown]

/-- Role, states, ports, counters and timers of the ring side are the same in `b` as
in `a`, no timer was restarted and no frame relayed in between. -/
structure RingKept (a b : Mrp) : Prop where
  ringRole : b.ringRole = a.ringRole
  mrmState : b.mrmState = a.mrmState
  mrcState : b.mrcState = a.mrcState
  portState : ∀ r, (b.ringPort r).state = (a.ringPort r).state
  ringTransitions : b.ringTransitions = a.ringTransitions
  ringTestCurr : b.ringTestCurr = a.ringTestCurr
  ringTestCurrMax : b.ringTestCurrMax = a.ringTestCurrMax
  ringMonCurr : b.ringMonCurr = a.ringMonCurr
  ringTopoCurrMax : b.ringTopoCurrMax = a.ringTopoCurrMax
  ringLinkCurrMax : b.ringLinkCurrMax = a.ringLinkCurrMax
  timers : ∀ w ∈ ringTimers, b.timer w = a.timer w ∧ b.timerCalls w = a.timerCalls w
  relayed : b.relayed = a.relayed

theorem RingKept.refl (a : Mrp) : RingKept a a :=
  ⟨rfl, rfl, rfl, fun _ => rfl, rfl, rfl, rfl, rfl, rfl, rfl, fun _ _ => ⟨rfl, rfl⟩, rfl⟩

/-- It is enough that the whole ring side is the same. -/
theorem RingKept.of_toRingPart {a b : Mrp} (hring : b.toRingPart = a.toRingPart)
    (hcalls : ∀ w ∈ ringTimers, b.timerCalls w = a.timerCalls w)
    (hrelayed : b.relayed = a.relayed) : RingKept a b := by
  refine ⟨by rw [hring], by rw [hring], by rw [hring], by simp [hring], by rw [hring],
    by rw [hring], by rw [hring], by rw [hring], by rw [hring], by rw [hring], ?_, hrelayed⟩
  intro w hw
  refine ⟨?_, hcalls w hw⟩
  simp only [ringTimers, List.mem_cons, List.not_mem_nil, or_false] at hw
  rcases hw with rfl | rfl | rfl | rfl <;> simp only [Mrp.timer, hring]

/-- A timer that was restarted or stopped shows in the log. -/
theorem RingKept.not_of_cons {a b : Mrp} {w : TimerId} (hw : w ∈ ringTimers) {c : Call}
    (h : b.timerCalls w = c :: a.timerCalls w) : ¬RingKept a b := by
  intro hkept
  have hcalls := (hkept.timers w hw).2
  rw [h] at hcalls
  exact List.cons_ne_self _ _ hcalls

namespace Mrp

/-! ## Which frames a handler reacts to -/

section Acts

variable (mrp : Mrp) (buf : Buf)

/-- A test frame acts on the ring: the instance takes it for its own, or a client
that monitors its manager counts it. -/
def TestActs : Prop :=
  if RingTestHdr.sa (tlvBody buf) = mrp.macaddr then
    match mrp.mrmState with
    | .acStat1 => False
    | .prmUp | .chkRo => True
    | .chkRc => mrp.ringTestCurr ≠ 0 ∨ mrp.ringTestCurrMax ≠ mrp.ringTestConfMax - 1
  else
    mrp.mraSupport = true ∧ mrp.ringRole = .mrc ∧ RingTestHdr.sa (tlvBody buf) ≠ mrp.ringMac ∧
      mrp.betterThanOwn (tlvBody buf) = true ∧ mrp.ringMonCurr ≠ 0

/-- A topology change acts on a client that is announcing a link change. -/
def TopoActs : Prop :=
  ¬(mrp.mraSupport = true ∧ mrp.ringRole = .mrm) ∧ (mrp.mrcState = .pt ∨ mrp.mrcState = .de)

/-- A link change frame acts on a manager: it sends extra test frames, or opens or
re-checks the ring. -/
def LinkActs : Prop :=
  match mrp.mrmState with
  | .acStat1 => False
  | .prmUp => mrp.addTest = false
  | .chkRo =>
      mrp.addTest = false ∧ (getTlvType buf = .ringLinkUp ∨ getTlvType buf = .ringLinkDown)
  | .chkRc =>
      if mrp.reactOnLinkChange = 0 then mrp.addTest = false
      else
        getTlvType buf = .ringLinkDown ∨
          getTlvType buf = .ringLinkUp ∧ mrp.ringTestCurrMax ≠ mrp.ringTestConfMax - 1

/-- An option frame acts: a NACK for this instance, or a propagate frame that a
client accepts after it has missed test frames. -/
def OptionActs : Prop :=
  let hdr := subTlvBody (subTlv buf)
  subTlv buf 0 = subTlvTestMgrNack ∧ mrp.ringRole ≠ .mrc ∧ TestMgrHdr.sa hdr ≠ mrp.macaddr ∧
      TestMgrHdr.otherSa hdr = mrp.macaddr ∨
    subTlv buf 0 = subTlvTestPropagate ∧ mrp.ringRole ≠ .mrm ∧ TestMgrHdr.sa hdr = mrp.macaddr ∧
      TestMgrHdr.otherPrio hdr = TestMgrHdr.prio hdr ∧ mrp.ringMonCurr ≠ 0

/-- A frame that reaches its handler acts on the ring side. -/
def ActsOnRing (type : TlvType) : Prop :=
  match type with
  | .ringTest => mrp.TestActs buf
  | .ringTopo => mrp.TopoActs
  | .ringLinkDown | .ringLinkUp => mrp.LinkActs buf
  | .option => mrp.OptionActs buf
  | _ => False

end Acts

/-! ## Handlers -/

attribute [local simp] call flush clearFdbStart ringTestStart ringTopoStart ringTopoStop
  ringLinkUpStop ringLinkDownStop setRingRole setMrcInit setMrmState setMrcState
  restartTestCount setAddTest setNoTc nextRingTransition setRingTestCurr setRingTestCurrMax
  resetRingTestCount setRingMonCurr setRingPrio setRingMac setRingLinkCurrMax

attribute [local simp] sendRingTest ringTestSend ringTestReq sendRingTopo ringTopoSend ringTopoReq
  sendTestMgrNack testMgrNackReq sendTestProp testPropReq

attribute [local simp] timerCalls Call.isTimer

section Handlers

variable (mrp : Mrp)

/-- Only a counter that is not at its start shows a restart of the count. -/
theorem mrmRecvRingTest_ringKept_iff :
    RingKept mrp mrp.mrmRecvRingTest ↔
      match mrp.mrmState with
      | .acStat1 => True
      | .prmUp | .chkRo => False
      | .chkRc => mrp.ringTestCurr = 0 ∧ mrp.ringTestCurrMax = mrp.ringTestConfMax - 1 := by
  unfold mrmRecvRingTest
  cases hstate : mrp.mrmState with
  | acStat1 => exact iff_of_true (.refl mrp) trivial
  | prmUp =>
      refine iff_of_false (fun hkept => ?_) id
      have hmrm := hkept.mrmState
      simp [hstate] at hmrm
  | chkRo =>
      refine iff_of_false (fun hkept => ?_) id
      have hmrm := hkept.mrmState
      simp [hstate] at hmrm
  | chkRc =>
      constructor
      · intro hkept
        exact ⟨hkept.ringTestCurr.symm, hkept.ringTestCurrMax.symm⟩
      · rintro ⟨hcurr, hmax⟩
        simp only [restartTestCount, resetRingTestCount, setRingTestCurrMax, setRingTestCurr, setNoTc]
        refine ⟨rfl, rfl, rfl, fun _ => rfl, rfl, hcurr.symm, hmax.symm, rfl, rfl, rfl, ?_, rfl⟩
        exact fun w _ => ⟨by cases w <;> rfl, rfl⟩

/-- A test frame of another bridge shows in the count of a client only. -/
theorem mraRecvRingTest_ringKept_iff (hdr : Buf) :
    RingKept mrp (mrp.mraRecvRingTest hdr) ↔
      ¬(mrp.ringRole = .mrc ∧ RingTestHdr.sa hdr ≠ mrp.ringMac ∧
        mrp.betterThanOwn hdr = true ∧ mrp.ringMonCurr ≠ 0) := by
  unfold mraRecvRingTest
  cases hrole : mrp.ringRole with
  | mrm =>
      refine iff_of_true ?_ (by simp)
      dsimp only
      split
      · exact .refl mrp
      · exact .of_toRingPart (by simp) (by simp) (by simp)
  | mrc =>
      by_cases hmac : RingTestHdr.sa hdr = mrp.ringMac
      · simp only [hmac, etherAddrEqual_iff, if_true, ne_eq, not_true_eq_false, false_and, and_false,
          not_false_eq_true, iff_true]
        exact .refl mrp
      · simp only [hmac, etherAddrEqual_iff, if_false, ne_eq, not_false_eq_true, true_and]
        by_cases hbetter : mrp.betterThanOwn hdr = true
        · simp only [hbetter, if_true, true_and, not_not]
          constructor
          · intro hkept
            exact hkept.ringMonCurr.symm
          · intro hmon
            exact ⟨rfl, rfl, rfl, fun _ => rfl, rfl, rfl, rfl, hmon.symm, rfl, rfl,
              fun w _ => ⟨by cases w <;> rfl, rfl⟩, rfl⟩
        · rw [if_neg hbetter]
          refine iff_of_true ?_ fun h => hbetter h.1
          exact ⟨rfl, rfl, rfl, fun _ => rfl, rfl, rfl, rfl, rfl, rfl, rfl,
            fun w _ => ⟨by cases w <;> rfl, rfl⟩, rfl⟩
  | disabled => exact iff_of_true (.refl mrp) (by simp)
  | mra => exact iff_of_true (.refl mrp) (by simp)

theorem recvRingTest_ringKept_iff (buf : Buf) :
    RingKept mrp (mrp.recvRingTest buf) ↔ ¬mrp.TestActs buf := by
  unfold recvRingTest TestActs
  by_cases hown : RingTestHdr.sa (tlvBody buf) = mrp.macaddr
  · simp only [hown, etherAddrEqual_iff, if_true]
    rw [mrmRecvRingTest_ringKept_iff]
    cases mrp.mrmState <;> simp
  · simp only [hown, etherAddrEqual_iff, if_false]
    by_cases hmra : mrp.mraSupport = true
    · rw [if_pos hmra, mraRecvRingTest_ringKept_iff]
      simp [hmra]
    · rw [if_neg hmra]
      exact iff_of_true (.refl mrp) (by simp [hmra])

/-- Clearing the forwarding database is no business of the ring side. -/
theorem clearFdbStart_ringKept (interval : UInt32) : RingKept mrp (mrp.clearFdbStart interval) := by
  refine .of_toRingPart ?_ ?_ ?_
  · simp
  · intro w hw
    have hne : TimerId.clearFdb ≠ w := by
      rintro rfl
      simp [ringTimers] at hw
    unfold clearFdbStart
    split <;> simp [hne]
  · simp

theorem recvRingTopo_ringKept_iff (buf : Buf) :
    RingKept mrp (mrp.recvRingTopo buf) ↔ ¬mrp.TopoActs := by
  unfold recvRingTopo TopoActs
  split
  next hmra =>
    refine iff_of_true ?_ (by simp [hmra])
    unfold mraRecvRingTopo
    simp only
    split
    · exact .refl mrp
    · exact mrp.clearFdbStart_ringKept _
  next hmra =>
    unfold mrcRecvRingTopo
    cases hstate : mrp.mrcState with
    | acStat1 => exact iff_of_true (.refl mrp) (by simp)
    | deIdle => exact iff_of_true (mrp.clearFdbStart_ringKept _) (by simp)
    | pt =>
        refine iff_of_false (fun hkept => ?_) (by simp [hmra])
        have hmrc := hkept.mrcState
        simp [hstate] at hmrc
    | de =>
        refine iff_of_false (fun hkept => ?_) (by simp [hmra])
        have hmrc := hkept.mrcState
        simp [hstate] at hmrc
    | ptIdle => exact iff_of_true (mrp.clearFdbStart_ringKept _) (by simp)

/-- Extra test frames restart the test timer. -/
theorem not_ringKept_addTest (interval : UInt32) :
    ¬RingKept mrp ((mrp.setAddTest true).ringTestReq interval) := by
  apply RingKept.not_of_cons (w := .ringTest) (c := .timerAgain .ringTest interval)
  · simp [ringTimers]
  · simp

theorem recvRingLink_ringKept_iff (hblocked : mrp.blocked ≠ 0) (buf : Buf) :
    RingKept mrp (mrp.recvRingLink buf) ↔ ¬mrp.LinkActs buf := by
  unfold recvRingLink LinkActs
  cases hstate : mrp.mrmState with
  | acStat1 => exact iff_of_true (.refl mrp) id
  | prmUp =>
      simp only [hblocked, ne_eq, not_false_eq_true, if_true]
      by_cases hadd : mrp.addTest = true
      · rw [if_pos hadd]
        exact iff_of_true (.refl mrp) (by simp [hadd])
      · rw [if_neg hadd]
        exact iff_of_false (mrp.not_ringKept_addTest _) (by simpa using hadd)
  | chkRo =>
      cases hadd : mrp.addTest with
      | true =>
          refine iff_of_true ?_ (by simp)
          cases getTlvType buf <;> simp [hblocked] <;> exact .refl mrp
      | false =>
          by_cases hup : getTlvType buf = .ringLinkUp
          · simp only [hup, hblocked, ne_eq, not_false_eq_true, and_self, if_true]
            exact iff_of_false (mrp.not_ringKept_addTest _) (by simp)
          · by_cases hdown : getTlvType buf = .ringLinkDown
            · simp only [hdown, ne_eq, reduceCtorEq, false_and, and_false, if_false, and_self, if_true]
              exact iff_of_false (mrp.not_ringKept_addTest _) (by simp)
            · refine iff_of_true ?_ (by simp [hup, hdown])
              simp only [hup, hdown, false_and, and_false, if_false]
              exact .refl mrp
  | chkRc =>
      by_cases hreact : mrp.reactOnLinkChange = 0
      · simp only [hreact, hblocked, ne_eq, not_false_eq_true, and_true, if_true]
        cases hadd : mrp.addTest with
        | true => exact iff_of_true (.refl mrp) (by simp)
        | false => exact iff_of_false (mrp.not_ringKept_addTest _) (by simp)
      · simp only [hreact, ne_eq, false_and, and_false, if_false, not_false_eq_true, and_true]
        by_cases hdown : getTlvType buf = .ringLinkDown
        · simp only [hdown, if_true]
          refine iff_of_false (fun hkept => ?_) (by simp)
          have hmrm := hkept.mrmState
          simp [hstate] at hmrm
        · by_cases hup : getTlvType buf = .ringLinkUp
          · simp only [hup, reduceCtorEq, if_false, if_true, true_and, false_or, not_not]
            constructor
            · intro hkept
              have hmax := hkept.ringTestCurrMax
              simp only [ringTopoReq, ringTopoSend, sendRingTopo, if_true, flush, call,
                send_toRingPart] at hmax
              exact hmax.symm
            · intro hmax
              have hsame : mrp.setRingTestCurrMax (mrp.ringTestConfMax - 1) = mrp := by
                rw [← hmax]
                rfl
              rw [hsame]
              exact .of_toRingPart (by simp) (by simp) (by simp)
          · simp only [hdown, hup, if_false]
            exact iff_of_true (.refl mrp) (by simp)

/-- Giving up the manager role stops the topology change timer once. -/
theorem yieldRole_timerCalls :
    mrp.yieldRole.timerCalls .ringTopo =
      .timerStop .ringTopo :: mrp.timerCalls .ringTopo := by
  unfold yieldRole enterClient
  cases hstate : mrp.mrmState <;> simp [hstate, portSetState_ring, RingPart.setPortState]

theorem recordHost_timerCalls (hdr : Buf) (w : TimerId) :
    (mrp.recordHost hdr).timerCalls w = mrp.timerCalls w := by
  unfold recordHost
  split <;> rfl

theorem recvNack_ringKept_iff (buf : Buf) :
    RingKept mrp (mrp.recvNack buf) ↔
      ¬(mrp.ringRole ≠ .mrc ∧ TestMgrHdr.sa (subTlvBody buf) ≠ mrp.macaddr ∧
        TestMgrHdr.otherSa (subTlvBody buf) = mrp.macaddr) := by
  unfold recvNack
  by_cases hrole : mrp.ringRole = .mrc
  · simp only [hrole, if_true]
    exact iff_of_true (.refl mrp) (by simp)
  · by_cases hsa : TestMgrHdr.sa (subTlvBody buf) = mrp.macaddr
    · simp only [hrole, hsa, etherAddrEqual_iff, if_true, if_false]
      exact iff_of_true (.refl mrp) (by simp)
    · by_cases hother : TestMgrHdr.otherSa (subTlvBody buf) = mrp.macaddr
      · simp only [hrole, hsa, hother, etherAddrEqual_iff, if_false, not_true_eq_false]
        refine iff_of_false ?_ (not_not.mpr ⟨hrole, hsa, trivial⟩)
        apply RingKept.not_of_cons (w := .ringTopo) (c := .timerStop .ringTopo)
        · simp [ringTimers]
        · rw [yieldRole_timerCalls, recordHost_timerCalls]
      · simp only [hrole, hsa, hother, etherAddrEqual_iff, if_false, not_false_eq_true, if_true]
        exact iff_of_true (.refl mrp) (by simp)

theorem recvPropagate_ringKept_iff (buf : Buf) :
    RingKept mrp (mrp.recvPropagate buf) ↔
      ¬(mrp.ringRole ≠ .mrm ∧ TestMgrHdr.sa (subTlvBody buf) = mrp.macaddr ∧
        TestMgrHdr.otherPrio (subTlvBody buf) = TestMgrHdr.prio (subTlvBody buf) ∧
        mrp.ringMonCurr ≠ 0) := by
  unfold recvPropagate
  by_cases hrole : mrp.ringRole = .mrm
  · simp only [hrole, if_true]
    exact iff_of_true (.refl mrp) (by simp)
  · by_cases hsa : TestMgrHdr.sa (subTlvBody buf) = mrp.macaddr
    · by_cases hprio : TestMgrHdr.otherPrio (subTlvBody buf) = TestMgrHdr.prio (subTlvBody buf)
      · simp only [hrole, hsa, hprio, etherAddrEqual_iff, if_false, not_true_eq_false, ne_eq,
          not_false_eq_true, true_and, not_not]
        constructor
        · intro hkept
          exact hkept.ringMonCurr.symm
        · intro hmon
          exact ⟨rfl, rfl, rfl, fun _ => rfl, rfl, rfl, rfl, hmon.symm, rfl, rfl,
            fun w _ => ⟨by cases w <;> rfl, rfl⟩, rfl⟩
      · simp only [hrole, hsa, hprio, etherAddrEqual_iff, if_false, not_true_eq_false, ne_eq,
          not_false_eq_true, if_true]
        exact iff_of_true (.refl mrp) (by simp)
    · simp only [hrole, hsa, etherAddrEqual_iff, if_false, not_false_eq_true, if_true]
      exact iff_of_true (.refl mrp) (by simp)

theorem recvOption_ringKept_iff (buf : Buf) :
    RingKept mrp (mrp.recvOption buf) ↔ ¬mrp.OptionActs buf := by
  have hne : subTlvTestMgrNack ≠ subTlvTestPropagate := by decide
  simp only [recvOption, OptionActs]
  by_cases hnack : subTlv buf 0 = subTlvTestMgrNack
  · rw [if_pos hnack, recvNack_ringKept_iff]
    simp [hnack, hne]
  · rw [if_neg hnack]
    by_cases hprop : subTlv buf 0 = subTlvTestPropagate
    · rw [if_pos hprop, recvPropagate_ringKept_iff]
      simp [hprop, hne.symm]
    · rw [if_neg hprop]
      exact iff_of_true (.refl mrp) (by simp [hnack, hprop])

/-- A handler of a ring frame leaves the ring side alone exactly when the frame is
not one that acts on it. -/
theorem process_ringKept_iff (hblocked : mrp.blocked ≠ 0) (buf : Buf) {type : TlvType}
    (hring : type.isRingFrame = true) :
    RingKept mrp (mrp.process buf type) ↔ ¬mrp.ActsOnRing buf type := by
  cases type with
  | ringTest => exact mrp.recvRingTest_ringKept_iff buf
  | ringTopo => exact mrp.recvRingTopo_ringKept_iff buf
  | ringLinkDown => exact mrp.recvRingLink_ringKept_iff hblocked buf
  | ringLinkUp => exact mrp.recvRingLink_ringKept_iff hblocked buf
  | option => exact mrp.recvOption_ringKept_iff buf
  | _ => simp [TlvType.isRingFrame] at hring

end Handlers

/-! ## Received frames -/

/-- A ring frame from the interconnection port is relayed to no port. -/
theorem relay_inter (mrp : Mrp) (fb : FrameBuf) {type : TlvType}
    (hring : type.isRingFrame = true) : mrp.relay .inter fb type = mrp := by
  simp [relay, checkAndForward, targets, hring, ringTargets, Targets.none, forwardIf]

end Mrp

/-- A ring frame that arrives on the interconnection port leaves the ring side alone,
and is relayed nowhere, exactly when the drop filter or the process filter stops it
or it is a frame that its handler does not react to. -/
theorem neighbour_ringFrame_iff {env : Env} {a : AddArgs} {mrp : Mrp} (h : Reachable env a mrp)
    {rx : RxFrame} (hring : (getTlvType rx.frameBuf.data).isRingFrame = true) :
    RingKept mrp (mrp.recv .inter rx) ↔
      ¬(mrp.admitted .inter rx = true ∧
        mrp.shouldProcess (getTlvType rx.frameBuf.data) = true ∧
        mrp.ActsOnRing (mrp.handlerBuf .inter rx) (getTlvType rx.frameBuf.data)) := by
  have hrelay := mrp.relay_inter rx.frameBuf hring
  cases hdel : mrp.delivered .inter rx with
  | none =>
      have hkept : RingKept mrp (mrp.recv .inter rx) := by
        rcases Mrp.recv_of_not_delivered hdel with h | h <;> rw [h]
        · exact .refl mrp
        · rw [hrelay]
          exact .refl mrp
      refine iff_of_true hkept ?_
      rintro ⟨hadm, hproc, -⟩
      rw [Mrp.delivered_eq, if_pos ⟨hadm, hproc⟩] at hdel
      cases hdel
  | some x =>
      rcases x with ⟨type, buf⟩
      rcases mrp.eq_of_delivered hdel with ⟨hadm, rfl, rfl⟩
      rcases Mrp.recv_of_delivered hdel with ⟨hproc, hrecv⟩
      rw [hrecv, hrelay, mrp.process_ringKept_iff h.blocked _ hring]
      simp [hadm, hproc]

namespace Sample

/-- Another bridge tells the sample interconnection manager that the interconnection is open. -/
def inLinkDown : Event := .recv (.ring .primary) (frame (mac 9) 0x8000 (.inLink false 0))

/-- The sample manager of ring and interconnection, with the interconnection port open. -/
def opened : Mrp := run Mrp.step (mrp ringRoleMrm inRoleMim) [inLinkDown]

theorem reachable_opened : Reachable env (args ringRoleMrm inRoleMim) opened :=
  ⟨_, [inLinkDown], created (by decide +kernel), rfl⟩

end Sample

/-- A topology change of the neighbouring ring is no frame for a manager. -/
theorem neighbour_ringFrame_iff_sample :
    RingKept Sample.opened
      (Sample.opened.recv .inter (Sample.frame (Sample.mac 9) 0x8000 (.ringTopo 0))) :=
  (neighbour_ringFrame_iff Sample.reachable_opened (by decide +kernel)).mpr fun h =>
    absurd h.2.1 (by decide +kernel)

/-- A link-down frame of the neighbouring ring makes the manager of a closed ring
open its secondary port. -/
theorem neighbour_linkDown_opens_ring :
    ∃ mrp rx, Reachable Sample.env (Sample.args ringRoleMrm inRoleMim) mrp ∧
      mrp.iPort.map MrpPort.state = some .forwarding ∧
      getTlvType rx.frameBuf.data = .ringLinkDown ∧
      mrp.mrmState = .chkRc ∧ mrp.sState = .blocked ∧
      (mrp.recv .inter rx).mrmState = .chkRo ∧ (mrp.recv .inter rx).sState = .forwarding ∧
      ¬RingKept mrp (mrp.recv .inter rx) := by
  refine ⟨Sample.opened, Sample.frame (Sample.mac 9) 0x8000 (.ringLink false 0),
    Sample.reachable_opened, by decide +kernel, by decide +kernel, by decide +kernel,
    by decide +kernel, by decide +kernel, by decide +kernel, ?_⟩
  intro hkept
  exact absurd hkept.mrmState (by decide +kernel)

end Umrp
