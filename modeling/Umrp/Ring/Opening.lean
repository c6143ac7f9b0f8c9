import Umrp.Ring.Role
import Umrp.Ring.TestTimer

/-!
# Opening the ring

A manager takes the ring for open after too many test frames were missed, or when a
client says so.  The number of missed frames and its limit are two fields that many
handlers write.  Here they are tied to the run: the first is the number of expiries
of the test timer since the ring was last seen to be closed.

Main results:

- Theorem `Mrp.RingCounted.step`: an event moves the counter of a manager as it moves
  the number of expiries.
- Theorem `Mrp.RingCounted.opening`: what makes a manager open the ring.
- Theorem `Created.ringCounted`: a created manager has missed nothing.
-/

namespace Umrp

open Octets EventMachine

namespace Mrp

section Causes

variable (mrp : Mrp)

/-- An own MRP_Test frame. -/
def isOwnTest (type : TlvType) (buf : Buf) : Bool :=
  type = .ringTest && etherAddrEqual (RingTestHdr.sa (tlvBody buf)) mrp.macaddr

/-- An MRP_LinkDown frame: `mrp_recv_ring_link` reads the type from the copy again. -/
def isLinkDown (type : TlvType) (buf : Buf) : Bool :=
  (type = .ringLinkDown || type = .ringLinkUp) && getTlvType buf = .ringLinkDown

/-- The ring is taken for closed. -/
def inChkRc : Bool := mrp.mrmState = .chkRc

/-- The ring is seen to be closed: CHK_RC is entered or an own test frame processed. -/
def ringCountRestarts (e : Event) : Bool :=
  mrp.handlesFrame mrp.isOwnTest e || (!mrp.inChkRc && (mrp.step e).inChkRc)

end Causes

/-- A manager without auto-manager support that is in CHK_RC has counted `n` missed
test frames and is not yet at its limit. -/
structure RingCounted (n : Nat) (mrp : Mrp) : Prop where
  role : mrp.ringRole = .mrm ∨ mrp.ringRole = .mrc
  support : mrp.mraSupport = false
  blocked : mrp.blocked ≠ 0
  max : 0 < mrp.ringTestConfMax.toNat
  counted : mrp.ringRole = .mrm → mrp.mrmState = .chkRc →
    mrp.ringTestCurr.toNat = n ∧ mrp.ringTestCurrMax = mrp.ringTestConfMax - 1 ∧
      n < mrp.ringTestConfMax.toNat

/-- The missed frames of a manager that had missed `n`: none are counted outside CHK_RC. -/
def missed (n : Nat) (mrp : Mrp) : Nat := if mrp.inChkRc then n else 0

namespace RingCounted

variable {n k : Nat} {mrp a b : Mrp}

/-- Settings stay, so only the counter is to be looked at. -/
theorem of_counted (h : RingCounted n a) (hconf : b.toMrpConf = a.toMrpConf)
    (hrole : b.ringRole = .mrm ∨ b.ringRole = .mrc)
    (hcounted : b.ringRole = .mrm → b.mrmState = .chkRc →
      b.ringTestCurr.toNat = k ∧ b.ringTestCurrMax = a.ringTestConfMax - 1 ∧
        k < a.ringTestConfMax.toNat) : RingCounted k b := by
  rcases h with ⟨-, hsupport, hblocked, hmax, -⟩
  rw [← hconf] at hsupport hblocked hmax hcounted
  exact ⟨hrole, hsupport, hblocked, hmax, hcounted⟩

/-- Outside CHK_RC nothing is counted. -/
theorem of_ne (h : RingCounted n mrp) (hstate : mrp.mrmState ≠ .chkRc) : RingCounted k mrp :=
  h.of_counted rfl h.role fun _ hchk => absurd hchk hstate

/-- The count is about nothing but the test frames. -/
theorem of_kept (h : RingCounted n a) (hkept : TestKept a b) : RingCounted n b := by
  refine h.of_counted hkept.toMrpConf ?_ ?_
  · rw [hkept.ringRole]
    exact h.role
  · rw [hkept.ringRole, hkept.mrmState, hkept.ringTestCurr, hkept.ringTestCurrMax]
    exact h.counted

/-- After a restart nothing was missed. -/
theorem of_restarted (h : RingCounted n a) (hconf : b.toMrpConf = a.toMrpConf)
    (hrole : b.ringRole = a.ringRole) (hcurr : b.ringTestCurr = 0)
    (hmax : b.ringTestCurrMax = a.ringTestConfMax - 1) : RingCounted 0 b := by
  refine h.of_counted hconf ?_ fun _ _ => ⟨?_, hmax, h.max⟩
  · rw [hrole]
    exact h.role
  · rw [hcurr]
    rfl

end RingCounted

attribute [local simp] call ringTestStart ringTestStop portSetState_ring RingPart.setPortState
  setRingRole setMrcInit setMrmState setMrcState promote demote restartTestCount noteRingLink
  setAddTest setNoTc nextRingTransition setRingTestCurr setRingTestCurrMax resetRingTestCount
  sendRingTest ringTestSend ringTestReq ringTopoStop sendTestProp testPropReq

namespace RingCounted

variable {n : Nat} {mrp : Mrp}

/-- Links: CHK_RC is entered with a fresh count and never kept with another one. -/
theorem of_moved {b : Mrp} (h : RingCounted n mrp) (hmoved : LinkMoved mrp b) :
    RingCounted (missed n mrp) b := by
  refine h.of_counted hmoved.toMrpConf ?_ ?_
  · rw [hmoved.ringRole]
    exact h.role
  · intro hmrm hchk
    rw [hmoved.ringRole] at hmrm
    unfold missed inChkRc
    rcases hmoved.count hchk with ⟨hstate, hcurr, hmax⟩ | ⟨hstate, hcurr, hmax⟩
    · rcases h.counted hmrm hstate with ⟨hn, hlimit, hlt⟩
      rw [if_pos (by simpa using hstate), hcurr]
      refine ⟨hn, ?_, hlt⟩
      rcases hmax with hmax | hmax
      · rw [hmax, hlimit]
      · exact hmax
    · rw [if_neg (by simpa using hstate), hcurr]
      exact ⟨rfl, hmax, h.max⟩

/-- An own test frame restarts the count. -/
theorem mrmRecvRingTest (h : RingCounted n mrp) : RingCounted 0 mrp.mrmRecvRingTest := by
  have hconf := (mrp.mrmRecvRingTest_op : RingOp NoNack _ _).toMrpConf
  unfold Mrp.mrmRecvRingTest at hconf ⊢
  cases hstate : mrp.mrmState with
  | acStat1 => exact h.of_ne (by simp [hstate])
  | prmUp =>
      simp only [hstate] at hconf ⊢
      exact h.of_restarted hconf (by simp) (by simp) (by simp)
  | chkRo =>
      simp only [hstate] at hconf ⊢
      exact h.of_restarted hconf (by simp) (by simp) (by simp)
  | chkRc => exact h.of_restarted rfl rfl rfl rfl

/-- Giving up the role leaves no manager behind. -/
theorem yieldRole (h : RingCounted n mrp) (k : Nat) : RingCounted k mrp.yieldRole := by
  have hconf := (mrp.yieldRole_op : RingOp NoNack _ _).toMrpConf
  have hrole := h.role
  refine h.of_counted hconf ?_ ?_ <;> unfold Mrp.yieldRole enterClient <;>
    cases hstate : mrp.mrmState <;> simp [hstate, hrole]

/-- An expiry in CHK_RC counts one more missed frame or opens the ring. -/
theorem mrmRingTestExpired (h : RingCounted n mrp) (hmrm : mrp.ringRole = .mrm) :
    RingCounted (missed (n + 1) mrp) mrp.mrmRingTestExpired := by
  have hconf := (mrp.mrmRingTestExpired_op : RingOp NoNack _ _).toMrpConf
  unfold Mrp.mrmRingTestExpired at hconf ⊢
  cases hstate : mrp.mrmState with
  | acStat1 => exact h.of_ne (by simp [hstate])
  | prmUp =>
      simp only [hstate] at hconf ⊢
      exact h.of_counted hconf (by simp [hmrm]) (by simp [hstate])
  | chkRo =>
      simp only [hstate] at hconf ⊢
      exact h.of_counted hconf (by simp [hmrm]) (by simp [hstate])
  | chkRc =>
      simp only [hstate] at hconf ⊢
      have hmissed : missed (n + 1) mrp = n + 1 := by simp [missed, inChkRc, hstate]
      rw [hmissed]
      rcases h.counted hmrm hstate with ⟨hcurr, hmax, hlt⟩
      by_cases hlimit : mrp.ringTestCurr ≥ mrp.ringTestCurrMax
      · rw [if_pos hlimit] at hconf ⊢
        refine h.of_counted hconf ?_ ?_ <;> split_ifs <;> simp [hmrm]
      · rw [if_neg hlimit] at hconf ⊢
        refine h.of_counted hconf (by simp [hmrm]) fun _ _ => ?_
        have hnext : n + 1 < mrp.ringTestConfMax.toNat := by
          rw [hmax, ge_iff_le, limit_le_iff h.max, hcurr] at hlimit
          exact Nat.lt_of_not_le hlimit
        have hsucc := toNat_add_one_of_lt (hcurr ▸ hlt)
        rw [hcurr] at hsucc
        refine ⟨Eq.trans (congrArg UInt32.toNat ?_) hsucc, by simpa using hmax, hnext⟩
        simp

/-- Test frames: only an own one is looked at without auto-manager support. -/
theorem recvRingTest (h : RingCounted n mrp) (buf : Buf) :
    RingCounted (if mrp.isOwnTest .ringTest buf then 0 else n) (mrp.recvRingTest buf) := by
  have hsupport := h.support
  simp only [Mrp.recvRingTest, isOwnTest, decide_true, Bool.true_and]
  split
  · exact h.mrmRecvRingTest
  · rwa [if_neg (by simp [hsupport])]

/-- A NACK. -/
theorem recvNack (h : RingCounted n mrp) (buf : Buf) : RingCounted n (mrp.recvNack buf) := by
  simp only [Mrp.recvNack]
  split_ifs
  · exact h
  · exact h
  · exact (h.of_kept (mrp.recordHost_testKept _)).yieldRole n
  · exact h

/-- An option frame. -/
theorem recvOption (h : RingCounted n mrp) (buf : Buf) : RingCounted n (mrp.recvOption buf) := by
  simp only [Mrp.recvOption]
  split_ifs
  · exact h.recvNack _
  · exact h.of_kept (mrp.recvPropagate_testKept _)
  · exact h

/-- Outside CHK_RC the count may as well be zero. -/
theorem orZero (h : RingCounted n mrp) :
    RingCounted (missed n mrp) mrp := by
  unfold missed inChkRc
  split
  · exact h
  next hstate => exact h.of_ne (by simpa using hstate)

/-- A link event. -/
theorem portLinkChange (h : RingCounted n mrp) (p : Port) (up : Bool) :
    RingCounted (missed n mrp) (mrp.portLinkChange p up) := by
  cases p with
  | inter => exact h.orZero.of_kept (mrp.portLinkChange_inter_op up).testKept
  | ring r =>
      have hnote : RingCounted n (mrp.noteRingLink r up) := h.of_kept ⟨rfl, rfl, rfl, rfl, rfl, rfl⟩
      simp only [Mrp.portLinkChange]
      cases (mrp.noteRingLink r up).ringRole with
      | mrm => exact hnote.of_moved (mrmPortLink_moved _ r up)
      | mrc => exact hnote.orZero.of_kept (mrcPortLink_testKept _ r up)
      | disabled => exact hnote.orZero
      | mra => exact hnote.orZero

/-- A netlink notification. -/
theorem netlinkOperstate (h : RingCounted n mrp) (p : Port) (state : UInt8) :
    RingCounted (missed n mrp) (mrp.netlinkOperstate p state) := by
  have hkept := mrp.setOperstate_testKept p (storedOperstate state)
  unfold Mrp.netlinkOperstate
  split
  · exact h.orZero
  · split
    · exact h.orZero
    · dsimp only
      split
      · have hlink := (h.of_kept hkept).portLinkChange p
        rw [missed, inChkRc, hkept.mrmState] at hlink
        exact hlink _
      · exact h.orZero.of_kept hkept

/-- The handlers of received frames. -/
theorem process (h : RingCounted n mrp) (buf : Buf) (type : TlvType) :
    RingCounted (if mrp.isOwnTest type buf then 0 else missed n mrp) (mrp.process buf type) := by
  by_cases htype : type = .ringTest
  · rw [htype]
    exact h.orZero.recvRingTest buf
  · rw [if_neg (by simp [isOwnTest, htype])]
    cases type with
    | ringTest => exact absurd rfl htype
    | ringTopo => exact h.orZero.of_kept (mrp.recvRingTopo_testKept buf)
    | ringLinkDown => exact h.of_moved (mrp.recvRingLink_moved buf)
    | ringLinkUp => exact h.of_moved (mrp.recvRingLink_moved buf)
    | option => exact h.orZero.recvOption buf
    | tlvEnd => exact h.orZero
    | common => exact h.orZero
    | unknown => exact h.orZero
    | _ => exact h.orZero.of_kept (mrp.process_testKept buf rfl)

/-- The callback of the test timer. -/
theorem ringTestExpired (h : RingCounted n mrp) :
    RingCounted (missed (n + 1) mrp) mrp.ringTestExpired := by
  have hsupport := h.support
  unfold Mrp.ringTestExpired
  rw [if_neg (by simp [hsupport])]
  split
  next hmrm => exact h.mrmRingTestExpired hmrm
  next hmrm => exact h.of_counted rfl h.role fun hbad => absurd hbad hmrm

/-- One event: the counter of missed test frames is the number of expiries of the
test timer in CHK_RC since the ring was last seen to be closed. -/
theorem step (h : RingCounted n mrp) (e : Event) :
    RingCounted (countNext (expires · .ringTest) (fun m => m.handlesFrame m.isOwnTest) inChkRc n mrp e)
      (mrp.step e) := by
  suffices hsuff : RingCounted
      (if mrp.handlesFrame mrp.isOwnTest e then 0
        else missed (if mrp.expires .ringTest e then n + 1 else n) mrp) (mrp.step e) from hsuff
  cases e with
  | recv p rx =>
      have hrelay : ∀ type, RingCounted n (mrp.relay p rx.frameBuf type) := fun type =>
        h.of_kept (mrp.relay_testKept p _ type)
      simp only [handlesFrame, expires, Bool.false_eq_true, if_false]
      cases hdel : mrp.delivered p rx with
      | none =>
          rcases recv_of_not_delivered hdel with hrecv | hrecv
          · rw [Mrp.step, hrecv]
            exact h.orZero
          · rw [Mrp.step, hrecv]
            exact h.orZero.of_kept (mrp.relay_testKept p _ _)
      | some x =>
          rcases x with ⟨type, buf⟩
          rw [Mrp.step, (recv_of_delivered hdel).2]
          have hproc := (hrelay type).process buf type
          rwa [missed, inChkRc, relay_toRingPart, isOwnTest, relay_macaddr] at hproc
  | linkChange p up =>
      simp only [Mrp.step, handlesFrame, expires, Bool.false_eq_true, if_false]
      split
      · exact h.portLinkChange p up
      · exact h.orZero
  | operstate p state => exact h.netlinkOperstate p state
  | cfmLinkChange defect => exact h.orZero.of_kept (mrp.cfmLinkChange_op defect).testKept
  | portMac p mac => exact h.orZero.of_kept (mrp.portMacChange_testKept p mac)
  | bridgeMac mac => exact h.orZero.of_kept ⟨rfl, rfl, rfl, rfl, rfl, rfl⟩
  | expired w =>
      simp only [Mrp.step, handlesFrame, expires, Bool.false_eq_true, if_false]
      by_cases hw : w = .ringTest
      · rw [hw]
        by_cases hactive : (mrp.timer .ringTest).active = true
        · simp only [hactive, decide_true, Bool.and_true, if_true]
          exact h.ringTestExpired
        · simp only [hactive, decide_true, Bool.true_and]
          exact h.orZero
      · simp only [hw, decide_false, Bool.false_and, Bool.false_eq_true, if_false]
        split
        · exact h.orZero.of_kept (mrp.expired_testKept hw)
        · exact h.orZero

/-- The count along a run. -/
theorem run (h : RingCounted 0 mrp) (es : List Event) :
    RingCounted (countSince Mrp.step (expires · .ringTest) ringCountRestarts 0 mrp es)
      (EventMachine.run Mrp.step mrp es) :=
  countSince_invariant (I := RingCounted) (P := inChkRc) (fun _ _ => rfl)
    (fun k hm hstate => hm.of_ne (by simpa [inChkRc] using hstate)) (fun _ _ e hm => hm.step e) h es

end RingCounted

end Mrp

/-- Link events of a client do not reach the manager machine. -/
theorem Ring.mrcLink_mrm (c : LinkConf) (x : Ring) (r : RingPort) (up : Bool) :
    (x.mrcLink c r up).mrm = x.mrm := by
  unfold mrcLink
  cases x.mrc <;> dsimp only <;> split_ifs <;> rfl

/-- Without auto-manager support the ring machine leaves CHK_RC for CHK_RO by one event only. -/
theorem Ring.opened_of_chkRo {x : Ring} {c : LinkConf} {ev : Ring.Event}
    (hen : x.Enabled false ev) (hfrom : x.mrm = .chkRc) (hto : (x.step c ev).mrm = .chkRo) :
    ev = .opened := by
  cases ev with
  | opened => rfl
  | link r up =>
      simp only [step, linkEvent] at hto
      cases hrole : x.role <;> simp only [hrole] at hto
      · simp [note, hfrom] at hto
      · rw [mrcLink_mrm] at hto
        simp [note, hfrom] at hto
      · simp only [mrmLink, note, Ring.set, hfrom] at hto
        split_ifs at hto
      · simp [note, hfrom] at hto
  | closed => simp [step, close, hfrom] at hto
  | topologyChange =>
      simp only [step, topology, Ring.set] at hto
      split at hto <;> simp [hfrom] at hto
  | nacked => simp [step, giveUp, Ring.set, hfrom] at hto
  | managerLost => simp [Enabled] at hen
  | linkUpTick =>
      simp only [step, upTick, Ring.set] at hto
      split_ifs at hto <;> simp [hfrom] at hto
  | linkDownTick =>
      simp only [step, downTick] at hto
      split_ifs at hto <;> simp [hfrom] at hto
  | silent => simp [step, hfrom] at hto

namespace Mrp

/-- What opens the ring. -/
theorem exists_of_ringOpened {mrp : Mrp} {e : Event} (h : mrp.ringEvent e = .opened) :
    (mrp.handlesFrame isLinkDown e = true ∧ mrp.reactOnLinkChange ≠ 0) ∨
      (mrp.expires .ringTest e = true ∧ mrp.ringRole = .mrm ∧
        mrp.ringTestCurr ≥ mrp.ringTestCurrMax) := by
  cases e with
  | recv p rx =>
      simp only [ringEvent] at h
      split at h
      next type buf hdel =>
        refine .inl ?_
        simp only [handlesFrame, hdel]
        cases type with
        | ringLinkDown =>
            simp only [frameEvent] at h
            split_ifs at h with hclosed hopened
            simp [isLinkDown, hopened.2]
        | ringLinkUp =>
            simp only [frameEvent] at h
            split_ifs at h with hclosed hopened
            simp [isLinkDown, hopened.2]
        | _ =>
            simp only [frameEvent] at h
            repeat' split at h
            all_goals cases h
      · cases h
  | linkChange p up => cases p <;> cases h
  | operstate p state =>
      cases p with
      | inter => cases h
      | ring r =>
          simp only [ringEvent] at h
          split at h
          · cases h
          · split at h <;> cases h
  | expired w =>
      simp only [ringEvent] at h
      split at h
      next hactive =>
        cases w with
        | ringTest =>
            refine .inr ?_
            simp only [timerEvent] at h
            split_ifs at h with hmrc hmon hopened
            exact ⟨by simpa [expires] using hactive, hopened.1, hopened.2.2⟩
        | _ => cases h
      · cases h
  | _ => cases h

/-- What opens the ring, with the count at that moment. -/
theorem RingCounted.opening {n : Nat} {mrp : Mrp} (h : RingCounted n mrp) {e : Event}
    (hfrom : mrp.mrmState = .chkRc) (hto : (mrp.step e).mrmState = .chkRo) :
    (mrp.handlesFrame isLinkDown e = true ∧ mrp.reactOnLinkChange ≠ 0) ∨
      (mrp.expires .ringTest e = true ∧ n + 1 = mrp.ringTestConfMax.toNat) := by
  have hen := mrp.ringEvent_enabled e
  have hring := congrArg Ring.mrm (mrp.step_ring e)
  rw [h.support] at hen
  rcases exists_of_ringOpened (Ring.opened_of_chkRo hen hfrom (hring.symm.trans hto)) with
    hdown | ⟨htick, hmrm, hlimit⟩
  · exact .inl hdown
  · rcases h.counted hmrm hfrom with ⟨hcurr, hmax, hlt⟩
    rw [hmax, ge_iff_le, limit_le_iff h.max, hcurr] at hlimit
    exact .inr ⟨htick, by omega⟩

end Mrp

/-- A manager without auto-manager support starts with nothing missed. -/
theorem Created.ringCounted {env : Env} {a : AddArgs} {mrp : Mrp} (h : Created env a mrp)
    (hrole : a.ringRole = ringRoleMrm) : mrp.RingCounted 0 := by
  have hrec := recovered_configure env a
  have hconf := configure_configured env a
  have hmra : ¬ringRoleMrm = ringRoleMra := by decide
  refine h.manager_of_linkless (.inl hrole)
    (fun hc hring hx => hx.of_kept (.of_toRingPart hc hring)) ?_ ?_
  · intro x r hx
    have hlink := hx.portLinkChange (.ring r) true
    have hzero : Mrp.missed 0 x = 0 := ite_self 0
    rwa [hzero] at hlink
  · intro x hc hmrm hstate _
    refine ⟨.inl hmrm, ?_, ?_, ?_, ?_⟩
    · simp [hc, Mrp.supported, hrole, hmra]
    · simp [hc, Mrp.supported, hconf.blocked]
    · rw [hc]
      exact hrec.max_pos.1
    · simp [hstate]

end Umrp
