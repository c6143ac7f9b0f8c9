import Umrp.Inter.Opening
import Umrp.System.AllOrNothing

/-!
# Timers that outlive their instance

`mrp_timer_stop` stops the test timer of the interconnection in ring check mode only,
and the link status and CCM timers outside it.  The handlers of received frames do not
look at the mode, and `mrp_add` does not look at the role when it starts CFM.

Main results:

- Theorem `Mrp.Bare.step`: without an interconnection role no timer of it is started.
- Theorem `Mrp.otherModeWork_step`: the events that start the timer of the other mode.
- Theorem `lifetime_quiet_iff`: along a run, `mrp_destroy` leaves no active timer behind
  exactly if no such event happens and CFM was not started without a role.
-/

namespace Umrp

open Octets EventMachine

namespace Mrp

/-- The timer of the interconnection that belongs to the other mode: `mrp_timer_stop`
leaves it alone. -/
def otherModeWork (mrp : Mrp) : EvTimer :=
  if mrp.inMode = .rc then mrp.inLinkStatusWork else mrp.inTestWork

/-- In each mode it is enough to look at one timer. -/
theorem otherModeWork_eq {a b : Mrp} (hconf : b.toMrpConf = a.toMrpConf)
    (hstatus : a.inMode = .rc → b.inLinkStatusWork = a.inLinkStatusWork)
    (htest : a.inMode ≠ .rc → b.inTestWork = a.inTestWork) :
    b.otherModeWork = a.otherModeWork := by
  unfold otherModeWork
  rw [hconf]
  split
  next hrc => exact hstatus hrc
  next hrc => exact htest hrc

/-- Handlers of the ring side do not touch it. -/
theorem RingOp.otherModeWork {nack : Mac → Prop} {a b : Mrp} (h : RingOp nack a b) :
    b.otherModeWork = a.otherModeWork := by
  refine otherModeWork_eq h.toMrpConf (fun _ => ?_) fun _ => ?_
  · rw [h.toInPart]
  · rw [h.toInPart]

/-! ## Handlers that keep to the mode -/

attribute [local simp] call clearFdbStart flush inTestStart inTestStop inTopoStart inTopoStop
  inLinkUpStart inLinkUpStop inLinkDownStart inLinkDownStop inLinkStatusStart inLinkStatusStop
  setMimState setMicState noteInLink setInOperstate nextInTransition setInTestCurr
  setInTestCurrMax resetInTestCount setInTopoCurrMax setInLinkCurrMax setInLinkStatusCurrMax
  sendInTest inTestSend inTestReq sendInTopo inTopoSend sendInLink inLinkReq
  sendInLinkStatus

section Handlers

variable (mrp : Mrp)

@[simp]
theorem inTopoReq_inTestWork (time : UInt32) : (mrp.inTopoReq time).inTestWork = mrp.inTestWork := by
  rcases mrp.inTopoReq_eq time with ⟨_, h⟩
  rw [h]

@[simp]
theorem inTopoReq_inLinkStatusWork (time : UInt32) :
    (mrp.inTopoReq time).inLinkStatusWork = mrp.inLinkStatusWork := by
  rcases mrp.inTopoReq_eq time with ⟨_, h⟩
  rw [h]

/-- A status request starts nothing but its own timer. -/
@[simp]
theorem inLinkStatusReq_inTestWork (interval : UInt32) :
    (mrp.inLinkStatusReq interval).inTestWork = mrp.inTestWork := by
  unfold inLinkStatusReq
  dsimp only
  split <;> simp

/-- Link events of an interconnection manager. -/
theorem mimPortLink_otherModeWork (up : Bool) :
    (mrp.mimPortLink up).otherModeWork = mrp.otherModeWork := by
  refine otherModeWork_eq (mrp.mimPortLink_op up).toMrpConf (fun hrc => ?_) fun hrc => ?_
  · unfold mimPortLink
    rw [hrc]
    cases up <;> cases hstate : mrp.mimState <;> simp
  · unfold mimPortLink
    cases hmode : mrp.inMode with
    | rc => exact absurd hmode hrc
    | lc => cases up <;> cases hstate : mrp.mimState <;> simp
    | unknown v => cases up <;> rfl

/-- Link events of an interconnection client. -/
theorem micPortLink_otherModeWork (up : Bool) :
    (mrp.micPortLink up).otherModeWork = mrp.otherModeWork := by
  refine otherModeWork_eq (mrp.micPortLink_op up).toMrpConf (fun _ => ?_) fun _ => ?_ <;>
    unfold micPortLink <;> split <;> (try split) <;> simp

/-- A topology change of the interconnection. -/
theorem recvInTopo_otherModeWork (buf : Buf) :
    (mrp.recvInTopo buf).otherModeWork = mrp.otherModeWork := by
  simp only [recvInTopo]
  generalize intervalUs (InTopoHdr.interval (tlvBody buf)) = interval
  have hring := mrp.restartRingTopo_op interval
  rw [← hring.otherModeWork]
  refine otherModeWork_eq (inTopoByRole_op _ _ interval).toMrpConf (fun _ => ?_) fun _ => ?_ <;>
    unfold inTopoByRole micRecvInTopo <;> repeat' split
  all_goals simp

/-- A link status poll. -/
theorem recvInLinkStatus_otherModeWork (buf : Buf) :
    (mrp.recvInLinkStatus buf).otherModeWork = mrp.otherModeWork := by
  refine otherModeWork_eq (mrp.recvInLinkStatus_op buf).toMrpConf (fun _ => ?_) fun _ => ?_ <;>
    unfold recvInLinkStatus <;> repeat' split
  all_goals simp

/-- The callbacks of all timers but the two. -/
theorem expired_otherModeWork {w : TimerId} (htest : w ≠ .inTest) (hstatus : w ≠ .inLinkStatus) :
    (mrp.expired w).otherModeWork = mrp.otherModeWork := by
  have hconf := (mrp.expired_op w).toMrpConf
  cases w with
  | clearFdb => rfl
  | ringTopo => exact (mrp.ringTopoExpired_op : RingOp NoNack _ _).otherModeWork
  | ringTest => exact (mrp.ringTestExpired_op : RingOp NoNack _ _).otherModeWork
  | ringLinkUp => exact (mrp.ringLinkUpExpired_op : RingOp NoNack _ _).otherModeWork
  | ringLinkDown => exact (mrp.ringLinkDownExpired_op : RingOp NoNack _ _).otherModeWork
  | inTest => exact absurd rfl htest
  | inTopo =>
      refine otherModeWork_eq hconf (fun _ => ?_) fun _ => ?_ <;>
        simp only [expired, inTopoExpired] <;> split <;> simp
  | inLinkUp =>
      refine otherModeWork_eq hconf (fun _ => ?_) fun _ => ?_ <;>
        simp only [expired, inLinkUpExpired] <;> split <;> simp
  | inLinkDown =>
      refine otherModeWork_eq hconf (fun _ => ?_) fun _ => ?_ <;>
        simp only [expired, inLinkDownExpired] <;> split <;> simp
  | inLinkStatus => exact absurd rfl hstatus
  | cfmCcm => rfl

/-- Frames that make a manager start its test timer, whatever the mode: a test frame
outside CHK_IC and a link up frame in CHK_IO, both of the own interconnection. -/
def asksForInTest (type : TlvType) (buf : Buf) : Bool :=
  mrp.isInTest type buf && mrp.mimState ≠ .chkIc ||
    (type = .inLinkDown || type = .inLinkUp) && getTlvType buf = .inLinkUp &&
      InLinkHdr.id (tlvBody buf) = mrp.inId && mrp.mimState = .chkIo

/-- The event starts the test timer of the interconnection outside ring check mode. -/
def startsOtherMode (e : Event) : Bool :=
  mrp.inMode ≠ .rc && mrp.inTestConfInterval != 0 && mrp.handlesFrame mrp.asksForInTest e

/-- A test frame of the interconnection. -/
theorem recvInTest_otherModeWork (buf : Buf) (h : mrp.otherModeWork.active = false) :
    (mrp.recvInTest buf).otherModeWork.active =
      (mrp.inMode ≠ .rc && mrp.inTestConfInterval != 0 && mrp.asksForInTest .inTest buf) := by
  have hmode : (mrp.recvInTest buf).inMode = mrp.inMode := by rw [(mrp.recvInTest_op buf).toMrpConf]
  unfold otherModeWork at h ⊢
  rw [hmode]
  unfold recvInTest mimRecvInTest asksForInTest isInTest
  by_cases hid : mrp.inId = InTestHdr.id (tlvBody buf)
  · rw [if_neg (not_not.mpr hid)]
    by_cases hrc : mrp.inMode = .rc
    · rw [if_pos hrc] at h ⊢
      cases hstate : mrp.mimState <;> simp [hrc, h]
    · rw [if_neg hrc] at h ⊢
      cases hstate : mrp.mimState <;> simp [hrc, h, hid]
  · rw [if_pos hid]
    simp [hid, h]

/-- A link change frame of the interconnection. -/
theorem recvInLink_otherModeWork (buf : Buf) {type : TlvType}
    (htype : type = .inLinkDown ∨ type = .inLinkUp) (h : mrp.otherModeWork.active = false) :
    (mrp.recvInLink buf).otherModeWork.active =
      (mrp.inMode ≠ .rc && mrp.inTestConfInterval != 0 && mrp.asksForInTest type buf) := by
  have hmode : (mrp.recvInLink buf).inMode = mrp.inMode := by rw [(mrp.recvInLink_op buf).toMrpConf]
  have hnot : mrp.isInTest type buf = false := by
    rcases htype with rfl | rfl <;> rfl
  have hlink : (decide (type = .inLinkDown) || decide (type = .inLinkUp)) = true := by
    simpa using htype
  unfold otherModeWork at h ⊢
  rw [hmode]
  simp only [asksForInTest, hnot, hlink, recvInLink]
  by_cases hrc : mrp.inMode = .rc
  · rw [if_pos hrc] at h ⊢
    cases hstate : mrp.mimState <;> dsimp only <;> (try split_ifs) <;> simp [hrc, h]
  · rw [if_neg hrc] at h ⊢
    cases hstate : mrp.mimState with
    | acStat1 => simp [h]
    | chkIo =>
        dsimp only
        split
        next hup => simp [hrc, hup]
        next hup =>
          rw [h, eq_comm, Bool.and_eq_false_iff]
          right
          simpa using fun hup' hid => hup ⟨hid, hup'⟩
    | chkIc =>
        dsimp only
        split_ifs <;> simp [h]

/-- The handlers of received frames. -/
theorem process_otherModeWork (buf : Buf) (type : TlvType) (h : mrp.otherModeWork.active = false) :
    (mrp.process buf type).otherModeWork.active =
      (mrp.inMode ≠ .rc && mrp.inTestConfInterval != 0 && mrp.asksForInTest type buf) := by
  have hkept : ∀ b : Mrp, b.otherModeWork = mrp.otherModeWork → mrp.asksForInTest type buf = false →
      b.otherModeWork.active =
        (mrp.inMode ≠ .rc && mrp.inTestConfInterval != 0 && mrp.asksForInTest type buf) := by
    intro b hsame hasks
    rw [hsame, h, hasks, Bool.and_false]
  cases type with
  | ringTest =>
      have hop : RingOp (fun _ => True) mrp (mrp.recvRingTest buf) :=
        mrp.recvRingTest_op buf fun _ _ _ _ => trivial
      exact hkept _ hop.otherModeWork rfl
  | ringTopo => exact hkept _ (mrp.recvRingTopo_op buf : RingOp NoNack _ _).otherModeWork rfl
  | ringLinkDown => exact hkept _ (mrp.recvRingLink_op buf : RingOp NoNack _ _).otherModeWork rfl
  | ringLinkUp => exact hkept _ (mrp.recvRingLink_op buf : RingOp NoNack _ _).otherModeWork rfl
  | option => exact hkept _ (mrp.recvOption_op buf : RingOp NoNack _ _).otherModeWork rfl
  | inTest => exact mrp.recvInTest_otherModeWork buf h
  | inTopo => exact hkept _ (mrp.recvInTopo_otherModeWork buf) rfl
  | inLinkDown => exact mrp.recvInLink_otherModeWork buf (.inl rfl) h
  | inLinkUp => exact mrp.recvInLink_otherModeWork buf (.inr rfl) h
  | inLinkStatus => exact hkept _ (mrp.recvInLinkStatus_otherModeWork buf) rfl
  | tlvEnd => exact hkept _ rfl rfl
  | common => exact hkept _ rfl rfl
  | unknown => exact hkept _ rfl rfl

/-- Telling the machine of a role about a link. -/
theorem deliverInLink_otherModeWork (operstate : UInt8) (up : Bool) :
    (match mrp.inRole with
      | .mim => ((mrp.setInOperstate operstate).noteInLink up).mimPortLink up
      | .mic => ((mrp.setInOperstate operstate).noteInLink up).micPortLink up
      | .disabled => mrp.setInOperstate operstate).otherModeWork = mrp.otherModeWork := by
  cases mrp.inRole with
  | mim => exact mimPortLink_otherModeWork _ up
  | mic => exact micPortLink_otherModeWork _ up
  | disabled => rfl

/-- A link event. -/
theorem portLinkChange_otherModeWork (p : Port) (up : Bool) :
    (mrp.portLinkChange p up).otherModeWork = mrp.otherModeWork := by
  cases p with
  | ring r => exact (mrp.portLinkChange_ring_op r up : RingOp NoNack _ _).otherModeWork
  | inter =>
      simp only [portLinkChange]
      split
      · rfl
      · exact mrp.deliverInLink_otherModeWork _ up

/-- A CFM notification. -/
theorem cfmLinkChange_otherModeWork (defect : Bool) :
    (mrp.cfmLinkChange defect).otherModeWork = mrp.otherModeWork := by
  unfold cfmLinkChange
  split
  · rfl
  · exact mrp.deliverInLink_otherModeWork _ _

/-- A netlink notification. -/
theorem netlinkOperstate_otherModeWork (p : Port) (state : UInt8) :
    (mrp.netlinkOperstate p state).otherModeWork = mrp.otherModeWork := by
  have hset : (mrp.setOperstate p (storedOperstate state)).otherModeWork = mrp.otherModeWork := by
    cases p <;> rfl
  unfold netlinkOperstate
  split
  · rfl
  · split
    · rfl
    · dsimp only
      split
      · exact (portLinkChange_otherModeWork _ p _).trans hset
      · exact hset

/-- Relaying a frame. -/
theorem relay_otherModeWork (p : Port) (fb : FrameBuf) (type : TlvType) :
    (mrp.relay p fb type).otherModeWork = mrp.otherModeWork := by
  refine otherModeWork_eq (mrp.relay_toMrpConf p fb type) (fun _ => ?_) fun _ => ?_
  · rw [relay_toInPart]
  · rw [relay_toInPart]

end Handlers

/-- The events that start the timer of the other mode. -/
theorem otherModeWork_step {mrp : Mrp} (h : mrp.otherModeWork.active = false) (e : Event) :
    (mrp.step e).otherModeWork.active = mrp.startsOtherMode e := by
  have hkept : ∀ b : Mrp, b.otherModeWork = mrp.otherModeWork →
      mrp.handlesFrame mrp.asksForInTest e = false →
        b.otherModeWork.active = mrp.startsOtherMode e := by
    intro b hsame hnot
    rw [hsame, h, startsOtherMode, hnot, Bool.and_false]
  cases e with
  | recv p rx =>
      cases hdel : mrp.delivered p rx with
      | none =>
          have hnot : mrp.handlesFrame mrp.asksForInTest (.recv p rx) = false := by
            simp [handlesFrame, hdel]
          rcases recv_of_not_delivered hdel with hrecv | hrecv
          · rw [step, hrecv]
            exact hkept mrp rfl hnot
          · rw [step, hrecv]
            exact hkept _ (mrp.relay_otherModeWork p _ _) hnot
      | some x =>
          rcases x with ⟨type, buf⟩
          have hrelay := mrp.relay_otherModeWork p rx.frameBuf type
          have hproc := process_otherModeWork (mrp.relay p rx.frameBuf type) buf type
            (hrelay.symm ▸ h)
          rw [step, (recv_of_delivered hdel).2, hproc]
          simp only [startsOtherMode, handlesFrame, hdel, asksForInTest, isInTest, relay_toMrpConf,
            relay_toInPart]
  | linkChange p up =>
      simp only [step]
      split
      · exact hkept _ (mrp.portLinkChange_otherModeWork p up) rfl
      · exact hkept mrp rfl rfl
  | operstate p state => exact hkept _ (mrp.netlinkOperstate_otherModeWork p state) rfl
  | cfmLinkChange defect => exact hkept _ (mrp.cfmLinkChange_otherModeWork defect) rfl
  | portMac p mac => cases p <;> exact hkept _ rfl rfl
  | bridgeMac mac => exact hkept _ rfl rfl
  | expired w =>
      simp only [step]
      split
      next hactive =>
        -- the timer of the other mode is not the one that expires
        by_cases htest : w = .inTest
        · subst htest
          have hrc : mrp.inMode = .rc := by
            by_contra hrc
            rw [otherModeWork, if_neg hrc] at h
            exact Bool.false_ne_true (h.symm.trans hactive)
          refine hkept _ (otherModeWork_eq (mrp.expired_op .inTest).toMrpConf (fun _ => ?_)
            fun hne => absurd hrc hne) rfl
          simp only [expired, inTestExpired]
          repeat' split
          all_goals simp
        · by_cases hstatus : w = .inLinkStatus
          · subst hstatus
            have hrc : mrp.inMode ≠ .rc := by
              intro hrc
              rw [otherModeWork, if_pos hrc] at h
              exact Bool.false_ne_true (h.symm.trans hactive)
            refine hkept _ (otherModeWork_eq (mrp.expired_op .inLinkStatus).toMrpConf
              (fun hrc' => absurd hrc' hrc) fun _ => ?_) rfl
            simp only [expired, inLinkStatusExpired]
            split <;> simp
          · exact hkept _ (mrp.expired_otherModeWork htest hstatus) rfl
      next => exact hkept mrp rfl rfl

/-! ## Instances without a role -/

/-- An instance without an interconnection role, none of whose timers is active. -/
structure Bare (mrp : Mrp) : Prop where
  role : mrp.inRole = .disabled
  idle : mrp.toInPart.Idle

/-- Nothing else counts than the interconnection side. -/
theorem Bare.of_toInPart {a b : Mrp} (h : Bare a) (hin : b.toInPart = a.toInPart) : Bare b := by
  constructor
  · rw [hin]
    exact h.role
  · rw [hin]
    exact h.idle

/-- Of the port nothing counts. -/
theorem Bare.setPort {mrp : Mrp} (h : Bare mrp) (port : Option MrpPort) :
    Bare { mrp with iPort := port } :=
  ⟨h.role, h.idle.update _ _ _ _⟩

/-- Without an interconnection role only the ring reacts to a change in another ring. -/
theorem process_inTopo_of_disabled {mrp : Mrp} (h : mrp.inRole = .disabled) (buf : Buf) :
    mrp.process buf .inTopo =
      mrp.restartRingTopo (intervalUs (InTopoHdr.interval (tlvBody buf))) := by
  have hring : RingOp NoNack mrp (mrp.restartRingTopo
      (intervalUs (InTopoHdr.interval (tlvBody buf)))) := mrp.restartRingTopo_op _
  simp only [Mrp.process, recvInTopo, inTopoByRole, hring.toInPart, h]

/-- The handlers of received frames that run leave the interconnection side alone. -/
theorem Bare.process {mrp : Mrp} (h : Bare mrp) (buf : Buf) {type : TlvType}
    (htype : mrp.shouldProcess type = true) : Bare (mrp.process buf type) := by
  have hrole := h.role
  cases type with
  | ringTest =>
      have hop : RingOp (fun _ => True) mrp (mrp.recvRingTest buf) :=
        mrp.recvRingTest_op buf fun _ _ _ _ => trivial
      exact h.of_toInPart hop.toInPart
  | ringTopo => exact h.of_toInPart (mrp.recvRingTopo_op buf : RingOp NoNack _ _).toInPart
  | ringLinkDown => exact h.of_toInPart (mrp.recvRingLink_op buf : RingOp NoNack _ _).toInPart
  | ringLinkUp => exact h.of_toInPart (mrp.recvRingLink_op buf : RingOp NoNack _ _).toInPart
  | option => exact h.of_toInPart (mrp.recvOption_op buf : RingOp NoNack _ _).toInPart
  | inTopo =>
      rw [process_inTopo_of_disabled hrole]
      exact h.of_toInPart (mrp.restartRingTopo_op _ : RingOp NoNack _ _).toInPart
  | inTest => simp [shouldProcess, hrole] at htype
  | inLinkDown => simp [shouldProcess, hrole] at htype
  | inLinkUp => simp [shouldProcess, hrole] at htype
  | inLinkStatus => cases htype
  | tlvEnd => cases htype
  | common => cases htype
  | unknown => cases htype

/-- Link events only store the state of the link. -/
theorem Bare.portLinkChange {mrp : Mrp} (h : Bare mrp) (p : Port) (up : Bool) :
    Bare (mrp.portLinkChange p up) := by
  cases p with
  | ring r => exact h.of_toInPart (mrp.portLinkChange_ring_op r up : RingOp NoNack _ _).toInPart
  | inter =>
      have hrole : ∀ v, (mrp.setInOperstate v).inRole = .disabled := fun _ => h.role
      simp only [Mrp.portLinkChange, hrole]
      split
      · exact h
      · exact h.setPort _

theorem Bare.cfmLinkChange {mrp : Mrp} (h : Bare mrp) (defect : Bool) :
    Bare (mrp.cfmLinkChange defect) := by
  have hrole : ∀ v, (mrp.setInOperstate v).inRole = .disabled := fun _ => h.role
  simp only [Mrp.cfmLinkChange, hrole]
  split
  · exact h
  · exact h.setPort _

/-- The callbacks of timers that can expire. -/
theorem Bare.expired {mrp : Mrp} (h : Bare mrp) {w : TimerId} (hw : (mrp.timer w).active = true) :
    Bare (mrp.expired w) := by
  cases w with
  | clearFdb => exact h.of_toInPart rfl
  | ringTopo => exact h.of_toInPart (mrp.ringTopoExpired_op : RingOp NoNack _ _).toInPart
  | ringTest => exact h.of_toInPart (mrp.ringTestExpired_op : RingOp NoNack _ _).toInPart
  | ringLinkUp => exact h.of_toInPart (mrp.ringLinkUpExpired_op : RingOp NoNack _ _).toInPart
  | ringLinkDown => exact h.of_toInPart (mrp.ringLinkDownExpired_op : RingOp NoNack _ _).toInPart
  | inTest => exact absurd (h.idle.test.symm.trans hw) Bool.false_ne_true
  | inTopo => exact absurd (h.idle.topo.symm.trans hw) Bool.false_ne_true
  | inLinkUp => exact absurd (h.idle.linkUp.symm.trans hw) Bool.false_ne_true
  | inLinkDown => exact absurd (h.idle.linkDown.symm.trans hw) Bool.false_ne_true
  | inLinkStatus => exact absurd (h.idle.linkStatus.symm.trans hw) Bool.false_ne_true
  | cfmCcm => exact h.of_toInPart rfl

theorem keptByHandlers_bare : KeptByHandlers Bare where
  relay mrp p fb type h := h.of_toInPart (mrp.relay_toInPart p fb type)
  process _ buf _ h htype := h.process buf htype
  link _ p up h := h.portLinkChange p up
  cfm _ defect h := h.cfmLinkChange defect
  operstate _ p _ h := by
    cases p with
    | ring r => exact h.of_toInPart rfl
    | inter => exact h.setPort _
  portMac _ p _ h := by
    cases p with
    | ring r => exact h.of_toInPart rfl
    | inter => exact h.setPort _
  bridgeMac _ _ h := h.of_toInPart rfl

/-- Without an interconnection role no timer of it is started. -/
theorem Bare.step {mrp : Mrp} (h : Bare mrp) (e : Event) : Bare (mrp.step e) :=
  keptByHandlers_bare.step h e fun _ _ hw => h.expired hw

/-- The CCM timer runs for life or never. -/
theorem step_ccm_active {mrp : Mrp} (hperiod : mrp.cfmCcmPeriod ≠ 0) (e : Event) :
    (mrp.step e).cfmCcmWork.active = mrp.cfmCcmWork.active := by
  by_cases he : e = .expired .cfmCcm
  · rw [he]
    simp only [step]
    split
    next hactive =>
      have hrestart : (mrp.expired .cfmCcm).cfmCcmWork = .again mrp.cfmCcmPeriod := rfl
      have hccm : mrp.cfmCcmWork.active = true := hactive
      rw [hrestart, hccm]
      simpa using hperiod
    next => rfl
  · exact congrArg (fun x => x.1.active) (mrp.step_lasting he)

/-! ## Runs -/

/-- What holds of the timers of an instance for life if CFM was not started without a
role: only the timer of the other mode can outlive it. -/
structure Timed (mrp : Mrp) : Prop where
  period : mrp.cfmCcmPeriod ≠ 0
  idle : mrp.inRole = .disabled → mrp.toInPart.Idle
  ccm : mrp.inRole = .disabled ∨ mrp.inMode = .rc → mrp.cfmCcmWork.active = false

theorem Timed.step {mrp : Mrp} (h : Timed mrp) (e : Event) : Timed (mrp.step e) := by
  have hconf := mrp.step_toMrpConf e
  refine ⟨?_, ?_, ?_⟩
  · rw [hconf]
    exact h.period
  · rw [step_inRole]
    exact fun hrole => (Bare.step ⟨hrole, h.idle hrole⟩ e).idle
  · rw [step_inRole, step_ccm_active h.period, hconf]
    exact h.ccm

/-- Then the instance is left quiet exactly if the timer of the other mode is not
active. -/
theorem Timed.quiet_iff {mrp : Mrp} (h : Timed mrp) :
    mrp.destroy.Quiet ↔ mrp.otherModeWork.active = false := by
  by_cases hrole : mrp.inRole = .disabled
  · have hidle := h.idle hrole
    refine iff_of_true ((quiet_destroy_iff hidle).mpr h.ccm) ?_
    unfold otherModeWork
    split
    · exact hidle.linkStatus
    · exact hidle.test
  · constructor
    · intro hquiet
      unfold otherModeWork
      split
      next hrc =>
        have hstatus := hquiet .inLinkStatus
        rw [destroy_active] at hstatus
        simpa [stops, timer, hrc] using hstatus
      next hrc =>
        have htest := hquiet .inTest
        rw [destroy_active] at htest
        simpa [stops, timer, hrc] using htest
    · intro hother w
      rw [destroy_active]
      unfold otherModeWork at hother
      by_cases hrc : mrp.inMode = .rc
      · rw [if_pos hrc] at hother
        have hccm := h.ccm (.inr hrc)
        cases w <;> simp [stops, timer, hrole, hrc, hother, hccm]
      · rw [if_neg hrc] at hother
        cases w <;> simp [stops, timer, hrole, hrc, hother]

end Mrp

namespace Registry

variable (reg : Registry)

/-- What `mrp_add` builds keeps to the mode. -/
theorem built_otherModeWork (env : Env) (a : AddArgs) :
    (reg.built env a).2.1.otherModeWork.active = false := by
  have hport : ∀ (m : Mrp) state, (m.portSetState .inter state).otherModeWork = m.otherModeWork :=
    fun m state => Mrp.otherModeWork_eq (m.portSetState_inter_toMrpConf state) (fun _ => by simp)
      fun _ => by simp
  have hsame : (reg.built env a).2.1.otherModeWork = (Mrp.withRing env a).1.otherModeWork :=
    observe_built (fun _ _ => rfl) hport (fun m => m.portLinkChange_otherModeWork .inter)
      Mrp.cfmLinkChange_otherModeWork reg env a
  have hidle := Mrp.withRing_idle env a
  rw [hsame]
  unfold Mrp.otherModeWork
  split
  · exact hidle.linkStatus
  · exact hidle.test

end Registry

namespace Created

variable {env : Env} {a : AddArgs} {mrp : Mrp}

/-- A created instance without an interconnection role was not asked for one. -/
theorem built_eq (h : Created env a mrp) :
    ∃ reg : Registry, (reg.built env a).2.1 = mrp ∧ (reg.built env a).2.2 = 0 ∧
      (mrp.inRole = .disabled ↔ ¬IsInRole a.inRole) := by
  rcases h.exists_registry with ⟨reg, x, hx, rfl, hok⟩
  have hbuilt : reg.built env a = x := hx.symm
  refine ⟨reg, by rw [hbuilt], by rw [hbuilt, hok], ?_⟩
  rw [← hbuilt] at hok ⊢
  rw [Registry.built_inRole, ← inRoleOf_eq_disabled]
  by_cases hrole : IsInRole a.inRole
  · rw [Registry.built_ok_iff, if_pos hrole] at hok
    rw [if_neg hok.1]
  · have hnone := inRoleOf_eq_disabled.mpr hrole
    simp [hnone]

/-- The timers of a created instance. -/
theorem timed (h : Created env a mrp) (hcfm : a.StartsCfm → IsInRole a.inRole) : mrp.Timed := by
  have hrecovered : Reachable env a mrp := ⟨mrp, [], h, rfl⟩
  have hperiod := hrecovered.recovered.ccmPeriod
  have hmode := h.inMode
  rcases h.built_eq with ⟨reg, hbuilt, -, hrole⟩
  have hwork := congrArg Prod.fst (reg.built_lasting env a)
  simp only [Mrp.lasting, hbuilt] at hwork
  refine ⟨?_, ?_, ?_⟩
  · rw [hperiod]
    decide
  · intro hdisabled
    have hnot := hrole.mp hdisabled
    simp only [IsInRole, not_or] at hnot
    have hring : (reg.built env a).2.1 = (Mrp.withRing env a).1 := by
      simp [Registry.built, Registry.setInRoleByNumber, hnot]
    rw [← hbuilt, hring]
    exact Mrp.withRing_idle env a
  · intro hnot
    have hstarts : ¬a.StartsCfm := by
      intro hbad
      rcases hnot with hdisabled | hrc
      · exact hrole.mp hdisabled (hcfm hbad)
      · exact hbad.1 (hmode.symm.trans hrc)
    rw [hwork, if_neg hstarts]
    rfl

/-- CFM without a role leaves its timer behind from the start. -/
theorem not_quiet (h : Created env a mrp) (hcfm : a.StartsCfm) (hrole : ¬IsInRole a.inRole) :
    ¬mrp.destroy.Quiet := by
  rcases h.built_eq with ⟨reg, hbuilt, -, hdisabled⟩
  have hwork := congrArg Prod.fst (reg.built_lasting env a)
  simp only [Mrp.lasting, hbuilt, if_pos hcfm] at hwork
  intro hquiet
  have hccm := hquiet .cfmCcm
  rw [Mrp.destroy_active] at hccm
  simp [Mrp.stops, Mrp.timer, hdisabled.mpr hrole, hwork] at hccm

end Created

/-- Along the life of an instance, `mrp_destroy` leaves no active timer behind in any
state exactly if CFM was not started without an interconnection role, and no frame
makes a manager start its test timer outside ring check mode. -/
theorem lifetime_quiet_iff {env : Env} {a : AddArgs} {mrp : Mrp} (h : Created env a mrp)
    (es : List Event) :
    Always Mrp.step (fun m => m.destroy.Quiet) mrp es ↔
      (a.StartsCfm → IsInRole a.inRole) ∧
        Guarded Mrp.step (fun m e => m.startsOtherMode e = false) mrp es := by
  by_cases hcfm : a.StartsCfm → IsInRole a.inRole
  · have htimed := h.timed hcfm
    have hquiet : mrp.destroy.Quiet := by
      rcases h.built_eq with ⟨reg, hbuilt, -⟩
      rw [htimed.quiet_iff, ← hbuilt]
      exact reg.built_otherModeWork env a
    have hruns : Always Mrp.step (fun m => m.destroy.Quiet) mrp es ↔
        Guarded Mrp.step (fun m e => m.startsOtherMode e = false) mrp es := by
      refine always_iff_guarded (I := Mrp.Timed) (fun m e hm _ _ => hm.step e) ?_ htimed hquiet es
      intro m e hm hP
      rw [(hm.step e).quiet_iff, Mrp.otherModeWork_step (hm.quiet_iff.mp hP)]
    rw [hruns]
    exact ⟨fun hguarded => ⟨hcfm, hguarded⟩, And.right⟩
  · constructor
    · intro halways
      have hfirst := always_iff_forall_take.mp halways 0
      have hstarts := Classical.not_imp.mp hcfm
      exact absurd hfirst (h.not_quiet hstarts.1 hstarts.2)
    · exact fun hright => absurd hright.1 hcfm

namespace Sample

/-- Arguments of an instance in link check mode. -/
def linkCheck (inRole : UInt32) : AddArgs := { args ringRoleMrm inRole with inMode := 1 }

/-- The sample manager in link check mode loses its link and then receives a test frame
of its own interconnection. -/
def testAfterDown : List Event :=
  [.cfmLinkChange true, .recv .inter (frame (mac 9) 0x8000 (.inTest true 0 0))]

end Sample

/-- In ring check mode the sample manager can be destroyed at any time. -/
theorem lifetime_quiet_sample :
    Created Sample.env (Sample.args ringRoleMrm inRoleMim) (Sample.mrp ringRoleMrm inRoleMim) ∧
      Always Mrp.step (fun m => m.destroy.Quiet) (Sample.mrp ringRoleMrm inRoleMim)
        [.linkChange .inter false, .recv .inter (Sample.frame (Sample.mac 9) 0x8000 (.inTest true 0 0))] := by
  have hcr := Sample.created (show (firstInstance Sample.env
    (Sample.args ringRoleMrm inRoleMim)).2 = 0 by decide +kernel)
  refine ⟨hcr, (lifetime_quiet_iff hcr _).mpr ⟨fun _ => .inl rfl, ?_⟩⟩
  exact ⟨by decide +kernel, by decide +kernel, trivial⟩

/-- In link check mode the test timer is started by a frame and not stopped, and the CCM
timer of an instance without an interconnection role is never stopped. -/
theorem lifetime_not_quiet :
    (∃ mrp, Created Sample.env (Sample.linkCheck inRoleMim) mrp ∧
      ¬(run Mrp.step mrp Sample.testAfterDown).destroy.Quiet) ∧
    ∃ mrp, Created Sample.env (Sample.linkCheck 0) mrp ∧ ¬mrp.destroy.Quiet := by
  constructor
  · refine ⟨(firstInstance Sample.env (Sample.linkCheck inRoleMim)).1,
      created_firstInstance rfl (by decide +kernel), fun hquiet => ?_⟩
    exact absurd (hquiet .inTest) (by decide +kernel)
  · refine ⟨(firstInstance Sample.env (Sample.linkCheck 0)).1,
      created_firstInstance rfl (by decide +kernel), fun hquiet => ?_⟩
    exact absurd (hquiet .cfmCcm) (by decide +kernel)

end Umrp
