import Umrp.Recovery

/-!
# Opening the interconnection

The manager of an interconnection counts missed test frames as the manager of a ring
does.  Its limit is not always the same: a link change frame raises it by one.

Main results:

- Theorem `Mrp.InCounted.step`: an event moves the counter of a manager as it moves
  the number of expiries.
- Theorem `Mrp.InCounted.opening`: what makes a manager open the interconnection.
- Theorem `Created.inCounted`: a created manager has missed nothing.
-/

namespace Umrp

open Octets EventMachine

namespace Mrp

section Causes

variable (mrp : Mrp)

/-- An MRP_InTest frame of the own interconnection. -/
def isInTest (type : TlvType) (buf : Buf) : Bool :=
  type = .inTest && mrp.inId = InTestHdr.id (tlvBody buf)

/-- An MRP_InLinkDown frame of the own interconnection. -/
def isInLinkDown (type : TlvType) (buf : Buf) : Bool :=
  (type = .inLinkDown || type = .inLinkUp) && getTlvType buf = .inLinkDown &&
    InLinkHdr.id (tlvBody buf) = mrp.inId

/-- The interconnection is taken for closed. -/
def inChkIc : Bool := mrp.mimState = .chkIc

/-- The interconnection is seen to be closed: CHK_IC is entered or a test frame with
the own ID processed. -/
def inCountRestarts (e : Event) : Bool :=
  mrp.handlesFrame mrp.isInTest e || (!mrp.inChkIc && (mrp.step e).inChkIc)

end Causes

/-! ## Handlers that leave the test frames alone -/

/-- What belongs to the test frames of the interconnection is the same in `b` as in `a`. -/
structure InTestKept (a b : Mrp) : Prop where
  toMrpConf : b.toMrpConf = a.toMrpConf
  mimState : b.mimState = a.mimState
  inTestCurr : b.inTestCurr = a.inTestCurr
  inTestCurrMax : b.inTestCurrMax = a.inTestCurrMax

/-- It is enough that settings and interconnection side are the same. -/
theorem InTestKept.of_toInPart {a b : Mrp} (hconf : b.toMrpConf = a.toMrpConf)
    (hin : b.toInPart = a.toInPart) : InTestKept a b :=
  ⟨hconf, by rw [hin], by rw [hin], by rw [hin]⟩

/-- Handlers of the ring side do not touch the test frames of the interconnection. -/
theorem RingOp.inTestKept {nack : Mac → Prop} {a b : Mrp} (h : RingOp nack a b) :
    InTestKept a b :=
  .of_toInPart h.toMrpConf h.toInPart

attribute [local simp] call clearFdbStart flush inTestStart inTestStop inTopoStart inTopoStop
  inLinkUpStart inLinkUpStop inLinkDownStart inLinkDownStop inLinkStatusStart inLinkStatusStop
  setMimState setMicState noteInLink setInOperstate nextInTransition setInTestCurr
  setInTestCurrMax resetInTestCount setInTopoCurrMax setInLinkCurrMax setInLinkStatusCurrMax
  sendInTest inTestSend inTestReq sendInTopo inTopoSend sendInLink inLinkReq
  sendInLinkStatus inLinkStatusReq

section InKept

variable (mrp : Mrp)

/-- Link events of an interconnection client. -/
theorem micPortLink_inTestKept (up : Bool) : InTestKept mrp (mrp.micPortLink up) := by
  refine ⟨(mrp.micPortLink_op up).toMrpConf, ?_, ?_, ?_⟩ <;> unfold micPortLink <;>
    split <;> (try split) <;> simp

/-- A topology change of the interconnection. -/
theorem recvInTopo_inTestKept (buf : Buf) : InTestKept mrp (mrp.recvInTopo buf) := by
  simp only [recvInTopo]
  generalize intervalUs (InTopoHdr.interval (tlvBody buf)) = interval
  have hring := mrp.restartRingTopo_op interval
  have hop := inTopoByRole_op (mrp.restartRingTopo interval) (tlvBody buf) interval
  refine ⟨hop.toMrpConf.trans hring.toMrpConf, ?_, ?_, ?_⟩ <;> rw [← hring.toInPart] <;>
    unfold inTopoByRole micRecvInTopo <;> repeat' split
  all_goals simp

/-- A link status poll. -/
theorem recvInLinkStatus_inTestKept (buf : Buf) : InTestKept mrp (mrp.recvInLinkStatus buf) := by
  refine ⟨(mrp.recvInLinkStatus_op buf).toMrpConf, ?_, ?_, ?_⟩ <;> unfold recvInLinkStatus <;>
    repeat' split
  all_goals simp

/-- The callbacks of all other timers. -/
theorem expired_inTestKept {w : TimerId} (hw : w ≠ .inTest) : InTestKept mrp (mrp.expired w) := by
  have hconf := (mrp.expired_op w).toMrpConf
  cases w with
  | clearFdb => exact ⟨rfl, rfl, rfl, rfl⟩
  | ringTopo => exact (mrp.ringTopoExpired_op : RingOp NoNack _ _).inTestKept
  | ringTest => exact (mrp.ringTestExpired_op : RingOp NoNack _ _).inTestKept
  | ringLinkUp => exact (mrp.ringLinkUpExpired_op : RingOp NoNack _ _).inTestKept
  | ringLinkDown => exact (mrp.ringLinkDownExpired_op : RingOp NoNack _ _).inTestKept
  | inTest => exact absurd rfl hw
  | inTopo =>
      refine ⟨hconf, ?_, ?_, ?_⟩ <;> simp only [expired, inTopoExpired] <;> split <;> simp
  | inLinkUp =>
      refine ⟨hconf, ?_, ?_, ?_⟩ <;> simp only [expired, inLinkUpExpired] <;> split <;> simp
  | inLinkDown =>
      refine ⟨hconf, ?_, ?_, ?_⟩ <;> simp only [expired, inLinkDownExpired] <;> split <;> simp
  | inLinkStatus =>
      refine ⟨hconf, ?_, ?_, ?_⟩ <;> simp only [expired, inLinkStatusExpired, inLinkStatusReq] <;>
        split_ifs <;> simp
  | cfmCcm => exact ⟨rfl, rfl, rfl, rfl⟩

end InKept

section InTopoReq

variable (mrp : Mrp) (time : UInt32)

/-- A topology change request of the interconnection touches nothing but its own timer. -/
theorem inTopoReq_eq :
    ∃ work, (mrp.inTopoReq time).toInPart = { mrp.toInPart with inTopoWork := work } := by
  unfold inTopoReq
  by_cases h : time = 0
  · exact ⟨mrp.inTopoWork, by simp [h]⟩
  · exact ⟨.again mrp.inTopoConfInterval, by simp [h]⟩

@[simp]
theorem inTopoReq_mimState : (mrp.inTopoReq time).mimState = mrp.mimState := by
  rcases mrp.inTopoReq_eq time with ⟨_, h⟩
  rw [h]

@[simp]
theorem inTopoReq_inTestCurr : (mrp.inTopoReq time).inTestCurr = mrp.inTestCurr := by
  rcases mrp.inTopoReq_eq time with ⟨_, h⟩
  rw [h]

@[simp]
theorem inTopoReq_inTestCurrMax : (mrp.inTopoReq time).inTestCurrMax = mrp.inTestCurrMax := by
  rcases mrp.inTopoReq_eq time with ⟨_, h⟩
  rw [h]

end InTopoReq

/-- The manager of an interconnection in ring check mode that is in CHK_IC has counted
`n` missed test frames.  Its limit is the configured number or one less. -/
structure InCounted (n : Nat) (mrp : Mrp) : Prop where
  mode : mrp.inMode = .rc
  max : 0 < mrp.inTestConfMax.toNat
  counted : mrp.mimState = .chkIc →
    mrp.inTestCurr.toNat = n ∧ mrp.inTestConfMax - 1 ≤ mrp.inTestCurrMax ∧
      mrp.inTestCurrMax ≤ mrp.inTestConfMax ∧ n ≤ mrp.inTestCurrMax.toNat

/-- The missed frames of an interconnection manager that had missed `n`. -/
def inMissed (n : Nat) (mrp : Mrp) : Nat := if mrp.inChkIc then n else 0

namespace InCounted

variable {n k : Nat} {mrp a b : Mrp}

/-- Settings stay, so only the counter is to be looked at. -/
theorem of_counted (h : InCounted n a) (hconf : b.toMrpConf = a.toMrpConf)
    (hcounted : b.mimState = .chkIc →
      b.inTestCurr.toNat = k ∧ a.inTestConfMax - 1 ≤ b.inTestCurrMax ∧
        b.inTestCurrMax ≤ a.inTestConfMax ∧ k ≤ b.inTestCurrMax.toNat) : InCounted k b := by
  rcases h with ⟨hmode, hmax, -⟩
  rw [← hconf] at hmode hmax hcounted
  exact ⟨hmode, hmax, hcounted⟩

/-- Outside CHK_IC nothing is counted. -/
theorem of_ne (h : InCounted n mrp) (hstate : mrp.mimState ≠ .chkIc) : InCounted k mrp :=
  h.of_counted rfl fun hchk => absurd hchk hstate

/-- The count is about nothing but the test frames. -/
theorem of_kept (h : InCounted n a) (hkept : InTestKept a b) : InCounted n b := by
  refine h.of_counted hkept.toMrpConf ?_
  rw [hkept.mimState, hkept.inTestCurr, hkept.inTestCurrMax]
  exact h.counted

/-- After a restart nothing was missed. -/
theorem of_restarted (h : InCounted n a) (hconf : b.toMrpConf = a.toMrpConf)
    (hcurr : b.inTestCurr = 0) (hmax : b.inTestCurrMax = a.inTestConfMax - 1) :
    InCounted 0 b := by
  refine h.of_counted hconf fun _ => ⟨?_, ?_, ?_, Nat.zero_le _⟩
  · rw [hcurr]
    rfl
  · exact UInt32.le_of_eq hmax.symm
  · have hone : (1 : UInt32) ≤ a.inTestConfMax := UInt32.le_iff_toNat_le.mpr h.max
    rw [hmax, UInt32.le_iff_toNat_le, UInt32.toNat_sub_of_le _ _ hone]
    exact Nat.sub_le _ _

/-- Outside CHK_IC the count may as well be zero. -/
theorem orZero (h : InCounted n mrp) : InCounted (inMissed n mrp) mrp := by
  unfold inMissed inChkIc
  split
  · exact h
  next hstate => exact h.of_ne (by simpa using hstate)

/-- Link events in ring check mode: CHK_IC is entered with a fresh count. -/
theorem mimPortLink (h : InCounted n mrp) (up : Bool) :
    InCounted (inMissed n mrp) (mrp.mimPortLink up) := by
  have hconf := (mrp.mimPortLink_op up).toMrpConf
  have hzero := h.orZero
  unfold Mrp.mimPortLink at hconf ⊢
  rw [h.mode] at hconf ⊢
  cases up with
  | true =>
      cases hstate : mrp.mimState with
      | acStat1 =>
          simp only [hstate, inMissed, inChkIc] at hconf ⊢
          exact h.of_restarted hconf (by simp) (by simp)
      | chkIo => simpa only [hstate] using hzero
      | chkIc => simpa only [hstate] using hzero
  | false =>
      cases hstate : mrp.mimState with
      | acStat1 => simpa only [hstate] using hzero
      | chkIo =>
          simp only [hstate] at hconf ⊢
          exact h.of_counted hconf (by simp)
      | chkIc =>
          simp only [hstate] at hconf ⊢
          exact h.of_counted hconf (by simp)

/-- A test frame with the own ID restarts the count. -/
theorem recvInTest (h : InCounted n mrp) (buf : Buf) :
    InCounted (if mrp.isInTest .inTest buf then 0 else n) (mrp.recvInTest buf) := by
  have hconf := (mrp.recvInTest_op buf).toMrpConf
  by_cases hid : mrp.inId = InTestHdr.id (tlvBody buf)
  · rw [if_pos (by simp [isInTest, hid])]
    rw [Mrp.recvInTest, if_neg (not_not.mpr hid)] at hconf ⊢
    unfold Mrp.mimRecvInTest at hconf ⊢
    cases hstate : mrp.mimState with
    | acStat1 =>
        simp only [hstate] at hconf ⊢
        exact h.of_restarted hconf (by simp) (by simp)
    | chkIo =>
        simp only [hstate] at hconf ⊢
        exact h.of_restarted hconf (by simp) (by simp)
    | chkIc => exact h.of_restarted rfl rfl rfl
  · rw [if_neg (by simp [isInTest, hid]), Mrp.recvInTest, if_pos hid]
    exact h

/-- A link change frame opens the interconnection or leaves the count alone; it may
raise the limit. -/
theorem recvInLink (h : InCounted n mrp) (buf : Buf) :
    InCounted (inMissed n mrp) (mrp.recvInLink buf) := by
  have hconf := (mrp.recvInLink_op buf).toMrpConf
  have hzero := h.orZero
  unfold Mrp.recvInLink at hconf ⊢
  cases hstate : mrp.mimState with
  | acStat1 => exact hzero
  | chkIo =>
      simp only [hstate] at hconf ⊢
      refine h.of_counted hconf ?_
      split_ifs <;> simp [hstate]
  | chkIc =>
      have hmissed : inMissed n mrp = n := by simp [inMissed, inChkIc, hstate]
      rcases h.counted hstate with ⟨hcurr, hlow, hhigh, hle⟩
      simp only [hstate] at hconf ⊢
      rw [hmissed]
      refine h.of_counted hconf ?_
      split_ifs
      · have hself := UInt32.le_trans hlow hhigh
        simpa [hcurr, hself, hstate] using Nat.le_trans hle (UInt32.le_iff_toNat_le.mp hhigh)
      · simp
      · exact fun _ => ⟨hcurr, hlow, hhigh, hle⟩

/-- An expiry in CHK_IC counts one more missed frame or opens the interconnection. -/
theorem inTestExpired (h : InCounted n mrp) :
    InCounted (inMissed (n + 1) mrp) mrp.inTestExpired := by
  have hconf := mrp.inTestExpired_op.toMrpConf
  unfold Mrp.inTestExpired at hconf ⊢
  cases hstate : mrp.mimState with
  | acStat1 => exact h.of_ne (by simp [hstate])
  | chkIo =>
      simp only [hstate] at hconf ⊢
      exact h.of_counted hconf (by simp [hstate])
  | chkIc =>
      have hmissed : inMissed (n + 1) mrp = n + 1 := by simp [inMissed, inChkIc, hstate]
      rcases h.counted hstate with ⟨hcurr, hlow, hhigh, hle⟩
      simp only [hstate] at hconf ⊢
      rw [hmissed]
      by_cases hlimit : mrp.inTestCurr ≥ mrp.inTestCurrMax
      · rw [if_pos hlimit] at hconf ⊢
        exact h.of_counted hconf (by simp)
      · rw [if_neg hlimit] at hconf ⊢
        have hlt : mrp.inTestCurr.toNat < mrp.inTestCurrMax.toNat :=
          UInt32.lt_iff_toNat_lt.mp (UInt32.not_le.mp hlimit)
        have hsucc := toNat_add_one_of_lt hlt
        rw [hcurr] at hsucc hlt
        refine h.of_counted hconf fun _ => ?_
        refine ⟨Eq.trans (congrArg UInt32.toNat ?_) hsucc, ?_, ?_, ?_⟩
        · simp
        · simpa using hlow
        · simpa using hhigh
        · simpa using Nat.succ_le_of_lt hlt

/-- The handlers of received frames. -/
theorem process (h : InCounted n mrp) (buf : Buf) (type : TlvType) :
    InCounted (if mrp.isInTest type buf then 0 else inMissed n mrp) (mrp.process buf type) := by
  by_cases htype : type = .inTest
  · rw [htype]
    exact h.orZero.recvInTest buf
  · rw [if_neg (by simp [isInTest, htype])]
    cases type with
    | ringTest =>
        have hop : RingOp (fun _ => True) mrp (mrp.recvRingTest buf) :=
          mrp.recvRingTest_op buf fun _ _ _ _ => trivial
        exact h.orZero.of_kept hop.inTestKept
    | ringTopo => exact h.orZero.of_kept (mrp.recvRingTopo_op buf : RingOp NoNack _ _).inTestKept
    | ringLinkDown => exact h.orZero.of_kept (mrp.recvRingLink_op buf : RingOp NoNack _ _).inTestKept
    | ringLinkUp => exact h.orZero.of_kept (mrp.recvRingLink_op buf : RingOp NoNack _ _).inTestKept
    | option => exact h.orZero.of_kept (mrp.recvOption_op buf : RingOp NoNack _ _).inTestKept
    | inTest => exact absurd rfl htype
    | inTopo => exact h.orZero.of_kept (mrp.recvInTopo_inTestKept buf)
    | inLinkDown => exact h.recvInLink buf
    | inLinkUp => exact h.recvInLink buf
    | inLinkStatus => exact h.orZero.of_kept (mrp.recvInLinkStatus_inTestKept buf)
    | tlvEnd => exact h.orZero
    | common => exact h.orZero
    | unknown => exact h.orZero

/-- Telling the manager machine about a link. -/
theorem mimLink (h : InCounted n mrp) (operstate : UInt8) (up : Bool) :
    InCounted (inMissed n mrp) (((mrp.setInOperstate operstate).noteInLink up).mimPortLink up) := by
  have hnote : InTestKept mrp ((mrp.setInOperstate operstate).noteInLink up) := ⟨rfl, rfl, rfl, rfl⟩
  exact (h.of_kept hnote).mimPortLink up

/-- Telling the client machine about a link. -/
theorem micLink (h : InCounted n mrp) (operstate : UInt8) (up : Bool) :
    InCounted (inMissed n mrp) (((mrp.setInOperstate operstate).noteInLink up).micPortLink up) := by
  have hnote : InTestKept mrp ((mrp.setInOperstate operstate).noteInLink up) := ⟨rfl, rfl, rfl, rfl⟩
  exact (h.orZero.of_kept hnote).of_kept (micPortLink_inTestKept _ up)

/-- A link event. -/
theorem portLinkChange (h : InCounted n mrp) (p : Port) (up : Bool) :
    InCounted (inMissed n mrp) (mrp.portLinkChange p up) := by
  cases p with
  | ring r =>
      have hop : RingOp NoNack mrp (mrp.portLinkChange (.ring r) up) :=
        mrp.portLinkChange_ring_op r up
      exact h.orZero.of_kept hop.inTestKept
  | inter =>
      rw [Mrp.portLinkChange, if_neg (by simp [h.mode])]
      dsimp only
      split
      · exact h.mimLink _ up
      · exact h.micLink _ up
      · exact h.orZero.of_kept ⟨rfl, rfl, rfl, rfl⟩

/-- A CFM notification. -/
theorem cfmLinkChange (h : InCounted n mrp) (defect : Bool) :
    InCounted (inMissed n mrp) (mrp.cfmLinkChange defect) := by
  unfold Mrp.cfmLinkChange
  split
  · exact h.orZero
  · dsimp only
    split
    · exact h.mimLink _ _
    · exact h.micLink _ _
    · exact h.orZero.of_kept ⟨rfl, rfl, rfl, rfl⟩

/-- A netlink notification. -/
theorem netlinkOperstate (h : InCounted n mrp) (p : Port) (state : UInt8) :
    InCounted (inMissed n mrp) (mrp.netlinkOperstate p state) := by
  have hkept : InTestKept mrp (mrp.setOperstate p (storedOperstate state)) := by
    cases p <;> exact ⟨rfl, rfl, rfl, rfl⟩
  unfold Mrp.netlinkOperstate
  split
  · exact h.orZero
  · split
    · exact h.orZero
    · dsimp only
      split
      · have hlink := (h.of_kept hkept).portLinkChange p
        rw [inMissed, inChkIc, hkept.mimState] at hlink
        exact hlink _
      · exact h.orZero.of_kept hkept

/-- One event: the counter of missed test frames is the number of expiries of the
test timer in CHK_IC since the interconnection was last seen to be closed. -/
theorem step (h : InCounted n mrp) (e : Event) :
    InCounted (countNext (expires · .inTest) (fun m => m.handlesFrame m.isInTest) inChkIc n mrp e)
      (mrp.step e) := by
  suffices hsuff : InCounted
      (if mrp.handlesFrame mrp.isInTest e then 0
        else inMissed (if mrp.expires .inTest e then n + 1 else n) mrp) (mrp.step e) from hsuff
  cases e with
  | recv p rx =>
      have hrelay : ∀ type, InTestKept mrp (mrp.relay p rx.frameBuf type) := fun type =>
        .of_toInPart (mrp.relay_toMrpConf p _ type) (mrp.relay_toInPart p _ type)
      simp only [handlesFrame, expires, Bool.false_eq_true, if_false]
      cases hdel : mrp.delivered p rx with
      | none =>
          rcases recv_of_not_delivered hdel with hrecv | hrecv
          · rw [Mrp.step, hrecv]
            exact h.orZero
          · rw [Mrp.step, hrecv]
            exact h.orZero.of_kept (hrelay _)
      | some x =>
          rcases x with ⟨type, buf⟩
          rw [Mrp.step, (recv_of_delivered hdel).2]
          have hproc := (h.of_kept (hrelay type)).process buf type
          rwa [inMissed, inChkIc, relay_toInPart, isInTest, relay_toMrpConf] at hproc
  | linkChange p up =>
      simp only [Mrp.step, handlesFrame, expires, Bool.false_eq_true, if_false]
      split
      · exact h.portLinkChange p up
      · exact h.orZero
  | operstate p state => exact h.netlinkOperstate p state
  | cfmLinkChange defect => exact h.cfmLinkChange defect
  | portMac p mac => cases p <;> exact h.orZero.of_kept ⟨rfl, rfl, rfl, rfl⟩
  | bridgeMac mac => exact h.orZero.of_kept ⟨rfl, rfl, rfl, rfl⟩
  | expired w =>
      simp only [Mrp.step, handlesFrame, expires, Bool.false_eq_true, if_false]
      by_cases hw : w = .inTest
      · rw [hw]
        by_cases hactive : (mrp.timer .inTest).active = true
        · simp only [hactive, decide_true, Bool.and_true, if_true]
          exact h.inTestExpired
        · simp only [hactive, decide_true, Bool.true_and]
          exact h.orZero
      · simp only [hw, decide_false, Bool.false_and, Bool.false_eq_true, if_false]
        split
        · exact h.orZero.of_kept (mrp.expired_inTestKept hw)
        · exact h.orZero

/-- The count along a run. -/
theorem run (h : InCounted 0 mrp) (es : List Event) :
    InCounted (countSince Mrp.step (expires · .inTest) inCountRestarts 0 mrp es)
      (EventMachine.run Mrp.step mrp es) :=
  countSince_invariant (I := InCounted) (P := inChkIc) (fun _ _ => rfl)
    (fun k hm hstate => hm.of_ne (by simpa [inChkIc] using hstate)) (fun _ _ e hm => hm.step e) h es

end InCounted

end Mrp

/-- The interconnection machine leaves CHK_IC for CHK_IO by one event only. -/
theorem Inter.opened_of_chkIo {x : Inter} {c : InterConf} {ev : Inter.Event}
    (hfrom : x.mim = .chkIc) (hto : (x.step c ev).mim = .chkIo) : ev = .opened := by
  cases ev with
  | opened => rfl
  | link up =>
      simp only [step, linkEvent] at hto
      cases hrole : x.role <;> simp only [hrole] at hto
      · simp [hfrom] at hto
      · simp only [micLink, micDown, note, Inter.set] at hto
        repeat' split at hto
        all_goals simp [hfrom] at hto
      · simp only [mimLink, note, Inter.set, hfrom] at hto
        repeat' split at hto
        all_goals simp_all
  | closed => simp [step, close, hfrom] at hto
  | topologyChange own =>
      simp only [step, topology, Inter.set] at hto
      repeat' split at hto
      all_goals simp [hfrom] at hto
  | linkUpTick =>
      simp only [step, upTick, Inter.set] at hto
      split_ifs at hto <;> simp [hfrom] at hto
  | linkDownTick =>
      simp only [step, downTick] at hto
      split_ifs at hto <;> simp [hfrom] at hto
  | silent => simp [step, hfrom] at hto

namespace Mrp

/-- What opens the interconnection. -/
theorem exists_of_inOpened {mrp : Mrp} {e : Event} (h : mrp.interEvent e = .opened) :
    mrp.handlesFrame mrp.isInLinkDown e = true ∨
      (mrp.expires .inTest e = true ∧ mrp.inTestCurr ≥ mrp.inTestCurrMax) := by
  cases e with
  | recv p rx =>
      simp only [interEvent] at h
      split at h
      next type buf hdel =>
        refine .inl ?_
        simp only [handlesFrame, hdel]
        cases type with
        | inLinkDown =>
            simp only [inFrameEvent] at h
            split_ifs at h with hopened
            simp [isInLinkDown, hopened.2]
        | inLinkUp =>
            simp only [inFrameEvent] at h
            split_ifs at h with hopened
            simp [isInLinkDown, hopened.2]
        | _ =>
            simp only [inFrameEvent] at h
            repeat' split at h
            all_goals cases h
      · cases h
  | linkChange p up =>
      cases p with
      | ring r => cases h
      | inter =>
          simp only [interEvent, inLinkEvent] at h
          repeat' split at h
          all_goals cases h
  | operstate p state =>
      cases p with
      | ring r => cases h
      | inter =>
          simp only [interEvent, inLinkEvent] at h
          repeat' split at h
          all_goals cases h
  | cfmLinkChange defect =>
      simp only [interEvent] at h
      split at h <;> cases h
  | expired w =>
      simp only [interEvent] at h
      split at h
      next hactive =>
        cases w with
        | inTest =>
            refine .inr ?_
            simp only [inTimerEvent] at h
            split_ifs at h with hopened
            exact ⟨by simpa [expires] using hactive, hopened.2⟩
        | _ => cases h
      · cases h
  | _ => cases h

/-- What opens the interconnection, with the count at that moment. -/
theorem InCounted.opening {n : Nat} {mrp : Mrp} (h : InCounted n mrp) {e : Event}
    (hfrom : mrp.mimState = .chkIc) (hto : (mrp.step e).mimState = .chkIo) :
    mrp.handlesFrame mrp.isInLinkDown e = true ∨
      (mrp.expires .inTest e = true ∧ mrp.inTestConfMax.toNat ≤ n + 1) := by
  have hinter := congrArg Inter.mim (mrp.step_inter e)
  rcases exists_of_inOpened (Inter.opened_of_chkIo hfrom (hinter.symm.trans hto)) with
    hdown | ⟨htick, hlimit⟩
  · exact .inl hdown
  · rcases h.counted hfrom with ⟨hcurr, hlow, -, -⟩
    have hreached := (limit_le_iff h.max).mp (UInt32.le_trans hlow hlimit)
    rw [hcurr] at hreached
    exact .inr ⟨htick, hreached⟩

end Mrp

/-- Taking the role of an interconnection manager in ring check mode. -/
theorem Registry.inCounted_takeInRole (reg : Registry) {mrp : Mrp} (env : Env) (role : InRole)
    (h : mrp.InCounted 0) : (reg.takeInRole mrp env role).2.1.InCounted 0 := by
  have htaken : Mrp.InCounted 0
      ({ mrp with mimState := .acStat1, micState := .acStat1 }.setInRole role) :=
    h.of_counted rfl fun hchk => MimState.noConfusion hchk
  have hblocked : Mrp.InCounted 0 (({ mrp with mimState := .acStat1, micState := .acStat1 }.setInRole
      role).portSetState .inter .blocked) :=
    htaken.of_kept ⟨by simp, by simp, by simp, by simp⟩
  simp only [takeInRole]
  split
  · exact h
  · split
    · exact htaken
    · unfold announceInLink
      rw [if_pos hblocked.mode]
      split
      · have hlink := hblocked.portLinkChange .inter true
        rwa [Mrp.inMissed, ite_self] at hlink
      · exact hblocked

/-- The manager of an interconnection in ring check mode starts with nothing missed. -/
theorem Created.inCounted {env : Env} {a : AddArgs} {mrp : Mrp} (h : Created env a mrp)
    (hrole : a.inRole = inRoleMim) (hmode : a.inMode = 0) : mrp.InCounted 0 := by
  rcases h.exists_registry with ⟨reg, x, rfl, rfl, -⟩
  have hconf := configure_configured env a
  have hop := Mrp.configure_ringRole_op env a
  have hmim : (Mrp.configure env a).mimState = .acStat1 := congrArg Inter.mim hconf.inter
  have hring : ((Mrp.configure env a).setRingRoleByNumber env a.ringRole).1.InCounted 0 := by
    refine ⟨?_, ?_, ?_⟩
    · rw [hop.toMrpConf]
      exact hconf.inMode.trans (by rw [hmode]; rfl)
    · rw [hop.toMrpConf]
      exact (recovered_configure env a).max_pos.2
    · rw [hop.toInPart]
      exact fun hchk => MimState.noConfusion (hmim.symm.trans hchk)
  rw [Registry.setInRoleByNumber, if_pos hrole]
  exact reg.inCounted_takeInRole env .mim hring

end Umrp
