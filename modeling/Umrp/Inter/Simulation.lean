import Umrp.Inter.Machine
import Umrp.Model.Effects

/-!
# The instance simulates the interconnection machine

Each event of an instance is one event of the interconnection machine, or none.

Main results:

- Theorem `Mrp.step_inter`: the interconnection machine follows the instance
  step by step.
- Theorem `Mrp.interEvent_enabled`: and only by events that the machine allows.
- Theorems `Mrp.inter_expired` and `Mrp.inter_process`: the same for the callbacks
  and the receive handlers alone.
-/

namespace Umrp

open Octets

/-! ## Abstraction -/

/-- The port of the interconnection machine behind a port structure. -/
def MrpPort.inter (port : MrpPort) : InterPort := ⟨port.state, port.lastLink⟩

/-- The interconnection machine behind the interconnection side of an instance. -/
def InPart.inter (x : InPart) : Inter where
  port := x.iPort.map MrpPort.inter
  role := x.inRole
  mim := x.mimState
  mic := x.micState
  linkUp := x.inLinkUpWork.active
  linkDown := x.inLinkDownWork.active
  count := x.inLinkCurrMax

/-- The setting of link announcements on the interconnection side. -/
def MrpConf.interConf (c : MrpConf) : InterConf :=
  ⟨⟨c.inLinkConfMax, c.inLinkConfInterval != 0⟩, c.inMode⟩

namespace Mrp

/-- The event of the interconnection machine that a handled frame is. -/
def inFrameEvent (mrp : Mrp) (buf : Buf) (type : TlvType) : Inter.Event :=
  match type with
  | .inTest => if mrp.inId = InTestHdr.id (tlvBody buf) then .closed else .silent
  | .inTopo =>
      if mrp.inRole = .mic then .topologyChange (InTopoHdr.id (tlvBody buf) = mrp.inId)
      else .silent
  | .inLinkDown | .inLinkUp =>
      if mrp.mimState = .chkIc ∧ InLinkHdr.id (tlvBody buf) = mrp.inId ∧
          getTlvType buf = .inLinkDown then .opened
      else .silent
  | _ => .silent

/-- The event of the interconnection machine that an expired timer is. -/
def inTimerEvent (mrp : Mrp) : TimerId → Inter.Event
  | .inTest =>
      if mrp.mimState = .chkIc ∧ mrp.inTestCurr ≥ mrp.inTestCurrMax then .opened else .silent
  | .inLinkUp => .linkUpTick
  | .inLinkDown => .linkDownTick
  | _ => .silent

/-- The event of the interconnection machine that a call of
`mrp_port_link_change` is: in link check mode only CFM speaks for the port. -/
def inLinkEvent (mrp : Mrp) (up : Bool) : Inter.Event :=
  if mrp.inMode = .lc then .silent else .link up

/-- The event of the interconnection machine that an event of the instance is. -/
def interEvent (mrp : Mrp) : Event → Inter.Event
  | .recv p rx =>
      match mrp.delivered p rx with
      | some (type, buf) => mrp.inFrameEvent buf type
      | none => .silent
  | .linkChange .inter up => if mrp.iPort.isSome then mrp.inLinkEvent up else .silent
  | .operstate .inter state =>
      match mrp.iPort with
      | none => .silent
      | some port =>
          if port.operstate = state then .silent
          else
            match operstateLink state with
            | some up => mrp.inLinkEvent up
            | none => .silent
  | .cfmLinkChange defect => if mrp.iPort.isSome then .link (!defect) else .silent
  | .expired w => if (mrp.timer w).active then mrp.inTimerEvent w else .silent
  | _ => .silent

/-! ## Building blocks -/

/-- The interconnection machine behind an instance. -/
def inter (mrp : Mrp) : Inter := mrp.toInPart.inter

section BuildingBlocks

variable (mrp : Mrp)

/-- Two instances with the same interconnection side have the same machine. -/
theorem inter_congr {a b : Mrp} (h : a.toInPart = b.toInPart) : a.inter = b.inter :=
  congrArg InPart.inter h

@[simp]
theorem inter_port : mrp.inter.port = mrp.iPort.map MrpPort.inter :=
  rfl

@[simp]
theorem inter_role : mrp.inter.role = mrp.inRole :=
  rfl

@[simp]
theorem inter_mim : mrp.inter.mim = mrp.mimState :=
  rfl

@[simp]
theorem inter_mic : mrp.inter.mic = mrp.micState :=
  rfl

@[simp]
theorem inter_linkUp : mrp.inter.linkUp = mrp.inLinkUpWork.active :=
  rfl

@[simp]
theorem inter_linkDown : mrp.inter.linkDown = mrp.inLinkDownWork.active :=
  rfl

@[simp]
theorem inter_count : mrp.inter.count = mrp.inLinkCurrMax :=
  rfl

@[simp]
theorem inter_ite (c : Prop) [Decidable c] (a b : Mrp) :
    (if c then a else b).inter = if c then a.inter else b.inter :=
  apply_ite _ _ _ _

@[simp]
theorem inter_send (p : Port) (frame : Frame) : (mrp.send p frame).inter = mrp.inter :=
  inter_congr (mrp.send_toInPart p frame)

/-- A write to the state of the port. -/
@[simp]
theorem inter_portSetState (state : PortState) :
    (mrp.portSetState .inter state).inter = mrp.inter.set state := by
  simp only [inter, portSetState_inter_toInPart, InPart.inter, Inter.set, Option.map_map]
  rfl

/-- Noting a link event. -/
@[simp]
theorem inter_noteInLink (up : Bool) : (mrp.noteInLink up).inter = mrp.inter.note up := by
  simp only [inter, noteInLink, InPart.inter, Inter.note, Option.map_map]
  rfl

/-- Storing the operational state. -/
@[simp]
theorem inter_setInOperstate (operstate : UInt8) :
    (mrp.setInOperstate operstate).inter = mrp.inter := by
  simp only [inter, setInOperstate, InPart.inter, Option.map_map]
  rfl

@[simp]
theorem inter_inTestReq (interval : UInt32) : (mrp.inTestReq interval).inter = mrp.inter := by
  change (mrp.inTestSend).inter = mrp.inter
  simp [inTestSend, sendInTest]

@[simp]
theorem inter_inTopoSend (time : UInt32) : (mrp.inTopoSend time).inter = mrp.inter := by
  simp [inTopoSend, sendInTopo]

@[simp]
theorem inter_inTopoStart (interval : UInt32) : (mrp.inTopoStart interval).inter = mrp.inter :=
  rfl

@[simp]
theorem inter_inTopoStop : mrp.inTopoStop.inter = mrp.inter :=
  rfl

@[simp]
theorem inter_flush : mrp.flush.inter = mrp.inter :=
  rfl

@[simp]
theorem inter_inTopoReq (time : UInt32) : (mrp.inTopoReq time).inter = mrp.inter := by
  unfold inTopoReq
  split <;> simp

@[simp]
theorem inter_inLinkReq (up : Bool) (interval : UInt32) :
    (mrp.inLinkReq up interval).inter = mrp.inter := by
  simp [inLinkReq, sendInLink]

@[simp]
theorem inter_inLinkStatusStart (interval : UInt32) :
    (mrp.inLinkStatusStart interval).inter = mrp.inter :=
  rfl

@[simp]
theorem inter_inLinkStatusStop : mrp.inLinkStatusStop.inter = mrp.inter :=
  rfl

@[simp]
theorem inter_inLinkStatusReq (interval : UInt32) :
    (mrp.inLinkStatusReq interval).inter = mrp.inter := by
  unfold inLinkStatusReq
  split <;> simp [sendInLinkStatus]

@[simp]
theorem inter_inLinkUpStart (interval : UInt32) :
    (mrp.inLinkUpStart interval).inter = { mrp.inter with linkUp := interval != 0 } :=
  rfl

@[simp]
theorem inter_inLinkUpStop : mrp.inLinkUpStop.inter = { mrp.inter with linkUp := false } :=
  rfl

@[simp]
theorem inter_inLinkDownStart (interval : UInt32) :
    (mrp.inLinkDownStart interval).inter = { mrp.inter with linkDown := interval != 0 } :=
  rfl

@[simp]
theorem inter_inLinkDownStop : mrp.inLinkDownStop.inter = { mrp.inter with linkDown := false } :=
  rfl

@[simp]
theorem inter_setMimState (state : MimState) :
    (mrp.setMimState state).inter = { mrp.inter with mim := state } :=
  rfl

@[simp]
theorem inter_setMicState (state : MicState) :
    (mrp.setMicState state).inter = { mrp.inter with mic := state } :=
  rfl

@[simp]
theorem inter_resetInTestCount : mrp.resetInTestCount.inter = mrp.inter :=
  rfl

@[simp]
theorem inter_setInTestCurr (n : UInt32) : (mrp.setInTestCurr n).inter = mrp.inter :=
  rfl

@[simp]
theorem inter_setInTestCurrMax (n : UInt32) : (mrp.setInTestCurrMax n).inter = mrp.inter :=
  rfl

@[simp]
theorem inter_nextInTransition : mrp.nextInTransition.inter = mrp.inter :=
  rfl

@[simp]
theorem inter_setInTopoCurrMax (n : UInt32) : (mrp.setInTopoCurrMax n).inter = mrp.inter :=
  rfl

@[simp]
theorem inter_setInLinkCurrMax (n : UInt32) :
    (mrp.setInLinkCurrMax n).inter = { mrp.inter with count := n } :=
  rfl

@[simp]
theorem inter_setInLinkStatusCurrMax (n : UInt32) :
    (mrp.setInLinkStatusCurrMax n).inter = mrp.inter :=
  rfl

@[simp]
theorem inter_clearFdbStart (interval : UInt32) :
    (mrp.clearFdbStart interval).inter = mrp.inter := by
  unfold clearFdbStart
  split <;> rfl

end BuildingBlocks

/-! ## Handlers -/

section Handlers

variable (mrp : Mrp)

/-- Link changes on an interconnection manager. -/
theorem inter_mimPortLink (up : Bool) :
    (mrp.mimPortLink up).inter = mrp.inter.mimLink mrp.interConf up := by
  have hmode : mrp.interConf.mode = mrp.inMode := rfl
  simp only [mimPortLink, Inter.mimLink, hmode, inter_mim]
  cases mrp.inMode <;> cases up <;> cases mrp.mimState <;> simp

/-- Link changes on an interconnection client. -/
theorem inter_micPortLink (up : Bool) :
    (mrp.micPortLink up).inter = mrp.inter.micLink mrp.interConf up := by
  have hmode : mrp.interConf.mode = mrp.inMode := rfl
  simp only [micPortLink, Inter.micLink, hmode, inter_mic]
  cases mrp.inMode <;> cases up <;> cases mrp.micState <;>
    simp [Inter.micDown, Inter.set, MrpConf.interConf]

/-- A test frame of the interconnection. -/
theorem inter_recvInTest (buf : Buf) :
    (mrp.recvInTest buf).inter = mrp.inter.step mrp.interConf (mrp.inFrameEvent buf .inTest) := by
  simp only [recvInTest, inFrameEvent]
  by_cases hid : mrp.inId = InTestHdr.id (tlvBody buf)
  · simp only [hid, ne_eq, not_true_eq_false, if_false, if_true, Inter.step, Inter.close,
      mimRecvInTest, inter_mim]
    cases mrp.mimState <;> simp
  · simp [hid, Inter.step]

/-- A topology change of the interconnection. -/
theorem inter_recvInTopo (buf : Buf) :
    (mrp.recvInTopo buf).inter = mrp.inter.step mrp.interConf (mrp.inFrameEvent buf .inTopo) := by
  have hconf := (mrp.restartRingTopo_op (intervalUs (InTopoHdr.interval (tlvBody buf)))).toMrpConf
  have hin := (mrp.restartRingTopo_op (intervalUs (InTopoHdr.interval (tlvBody buf)))).toInPart
  simp only [recvInTopo, inTopoByRole, hin, inFrameEvent]
  cases hrole : mrp.inRole with
  | mim => simp [inter_congr hin, Inter.step]
  | disabled => simpa [Inter.step] using inter_congr hin
  | mic =>
      simp only [if_true, Inter.step, Inter.topology, micRecvInTopo, hin, hconf, inter_mic]
      cases h : mrp.micState <;>
        simp [inter_congr hin, Inter.set, MrpConf.interConf, h]

/-- A link change frame of the interconnection. -/
theorem inter_recvInLink (buf : Buf) {type : TlvType}
    (htype : type = .inLinkDown ∨ type = .inLinkUp) :
    (mrp.recvInLink buf).inter = mrp.inter.step mrp.interConf (mrp.inFrameEvent buf type) := by
  have hev : mrp.inFrameEvent buf type = mrp.inFrameEvent buf .inLinkUp := by
    rcases htype with rfl | rfl <;> rfl
  rw [hev]
  unfold recvInLink inFrameEvent
  cases h : mrp.mimState with
  | acStat1 => simp [Inter.step]
  | chkIo => simp [Inter.step]
  | chkIc =>
      by_cases hopen : InLinkHdr.id (tlvBody buf) = mrp.inId ∧ getTlvType buf = .inLinkDown
      · simp [hopen, Inter.step, Inter.opening, h]
      · simp [hopen, Inter.step]

/-- A link status poll. -/
theorem inter_recvInLinkStatus (buf : Buf) : (mrp.recvInLinkStatus buf).inter = mrp.inter := by
  unfold recvInLinkStatus
  cases mrp.micState <;> simp

/-- The handlers of received frames. -/
theorem inter_process (buf : Buf) (type : TlvType) :
    (mrp.process buf type).inter =
      mrp.inter.step mrp.interConf (mrp.inFrameEvent buf type) := by
  cases type with
  | ringTest =>
      have hop : RingOp (fun _ => True) mrp (mrp.recvRingTest buf) :=
        mrp.recvRingTest_op buf fun _ _ _ _ => trivial
      exact inter_congr hop.toInPart
  | ringTopo => exact inter_congr (mrp.recvRingTopo_op buf : RingOp NoNack _ _).toInPart
  | ringLinkDown => exact inter_congr (mrp.recvRingLink_op buf : RingOp NoNack _ _).toInPart
  | ringLinkUp => exact inter_congr (mrp.recvRingLink_op buf : RingOp NoNack _ _).toInPart
  | option => exact inter_congr (mrp.recvOption_op buf : RingOp NoNack _ _).toInPart
  | inTest => exact mrp.inter_recvInTest buf
  | inTopo => exact mrp.inter_recvInTopo buf
  | inLinkDown => exact mrp.inter_recvInLink buf (.inl rfl)
  | inLinkUp => exact mrp.inter_recvInLink buf (.inr rfl)
  | inLinkStatus => exact mrp.inter_recvInLinkStatus buf
  | tlvEnd => rfl
  | common => rfl
  | unknown => rfl

/-- The callbacks of the timers. -/
theorem inter_expired (w : TimerId) :
    (mrp.expired w).inter = mrp.inter.step mrp.interConf (mrp.inTimerEvent w) := by
  cases w with
  | clearFdb => rfl
  | ringTopo => exact inter_congr (mrp.ringTopoExpired_op : RingOp NoNack _ _).toInPart
  | ringTest => exact inter_congr (mrp.ringTestExpired_op : RingOp NoNack _ _).toInPart
  | ringLinkUp => exact inter_congr (mrp.ringLinkUpExpired_op : RingOp NoNack _ _).toInPart
  | ringLinkDown => exact inter_congr (mrp.ringLinkDownExpired_op : RingOp NoNack _ _).toInPart
  | inTest =>
      simp only [expired, inTestExpired, inTimerEvent]
      cases h : mrp.mimState with
      | acStat1 => simp [Inter.step]
      | chkIo => simp [Inter.step]
      | chkIc =>
          by_cases hlast : mrp.inTestCurrMax ≤ mrp.inTestCurr
          · simp [hlast, Inter.step, Inter.opening, h]
          · simp [hlast, Inter.step]
  | inTopo =>
      simp only [expired, inTopoExpired]
      split <;> simp [inTimerEvent, Inter.step]
  | inLinkUp =>
      simp only [expired, inLinkUpExpired, inTimerEvent, Inter.step, Inter.upTick]
      simp [Inter.set, MrpConf.interConf]
  | inLinkDown =>
      simp only [expired, inLinkDownExpired, inTimerEvent, Inter.step, Inter.downTick]
      simp [MrpConf.interConf]
  | inLinkStatus =>
      simp only [expired, inLinkStatusExpired]
      split <;> simp [inTimerEvent, Inter.step]
  | cfmCcm => rfl

end Handlers

/-! ## Events -/

section Events

variable (mrp : Mrp)

/-- A link event that reaches the interconnection port. -/
theorem inter_deliverInLink (up : Bool) (operstate : UInt8) :
    (match (mrp.setInOperstate operstate).inRole with
      | .mim => ((mrp.setInOperstate operstate).noteInLink up).mimPortLink up
      | .mic => ((mrp.setInOperstate operstate).noteInLink up).micPortLink up
      | .disabled => mrp.setInOperstate operstate).inter =
      mrp.inter.step mrp.interConf (.link up) := by
  have hrole : (mrp.setInOperstate operstate).inRole = mrp.inRole := rfl
  have hconf : ((mrp.setInOperstate operstate).noteInLink up).interConf = mrp.interConf := rfl
  rw [hrole]
  simp only [Inter.step, Inter.linkEvent, inter_role]
  cases mrp.inRole with
  | mim => simp [inter_mimPortLink, hconf]
  | mic => simp [inter_micPortLink, hconf]
  | disabled => simp

/-- A call of `mrp_port_link_change` for the interconnection port. -/
theorem inter_portLinkChange (up : Bool) :
    (mrp.portLinkChange .inter up).inter = mrp.inter.step mrp.interConf (mrp.inLinkEvent up) := by
  simp only [portLinkChange, inLinkEvent]
  split
  · rfl
  · exact mrp.inter_deliverInLink up _

/-- A CFM notification. -/
theorem inter_cfmLinkChange (defect : Bool) :
    (mrp.cfmLinkChange defect).inter =
      mrp.inter.step mrp.interConf (mrp.interEvent (.cfmLinkChange defect)) := by
  simp only [cfmLinkChange, interEvent]
  cases h : mrp.iPort with
  | none => rfl
  | some port => exact mrp.inter_deliverInLink (!defect) _

/-- Storing the operational state of a port. -/
theorem inter_setOperstate (p : Port) (operstate : UInt8) :
    (mrp.setOperstate p operstate).inter = mrp.inter := by
  cases p with
  | ring r => rfl
  | inter => exact mrp.inter_setInOperstate operstate

/-- A changed address of a port. -/
theorem inter_portMacChange (p : Port) (mac : Mac) :
    (mrp.portMacChange p mac).inter = mrp.inter := by
  cases p with
  | ring r => rfl
  | inter =>
      simp only [portMacChange, inter, InPart.inter, Option.map_map]
      rfl

/-- A netlink notification. -/
theorem inter_netlinkOperstate (p : Port) (state : UInt8) :
    (mrp.netlinkOperstate p state).inter =
      mrp.inter.step mrp.interConf (mrp.interEvent (.operstate p state)) := by
  have hconf : (mrp.setOperstate p (storedOperstate state)).toMrpConf = mrp.toMrpConf :=
    (mrp.setOperstate_op _ _).toMrpConf
  cases p with
  | ring r =>
      simp only [netlinkOperstate, port?, interEvent, Inter.step]
      split
      · rfl
      · split
        · rw [inter_congr (portLinkChange_ring_op _ _ _).toInPart, inter_setOperstate]
        · exact mrp.inter_setOperstate _ _
  | inter =>
      simp only [netlinkOperstate, port?, interEvent]
      cases mrp.iPort with
      | none => rfl
      | some port =>
          simp only
          split
          · rfl
          · cases operstateLink state with
            | none => exact mrp.inter_setOperstate _ _
            | some up =>
                simp only
                rw [inter_portLinkChange, inter_setOperstate, hconf, inLinkEvent, inLinkEvent,
                  hconf]

/-- A received frame. -/
theorem inter_recv (p : Port) (rx : RxFrame) :
    (mrp.recv p rx).inter = mrp.inter.step mrp.interConf (mrp.interEvent (.recv p rx)) := by
  simp only [interEvent]
  cases hdel : mrp.delivered p rx with
  | none =>
      rcases recv_of_not_delivered hdel with h | h
      · rw [h]
        rfl
      · rw [h]
        exact inter_congr (mrp.relay_toInPart _ _ _)
  | some x =>
      rcases x with ⟨type, buf⟩
      have hinter : (mrp.relay p rx.frameBuf type).inter = mrp.inter :=
        inter_congr (mrp.relay_toInPart _ _ _)
      have hev : (mrp.relay p rx.frameBuf type).inFrameEvent buf type =
          mrp.inFrameEvent buf type := by
        cases type <;> simp [inFrameEvent]
      rw [(recv_of_delivered hdel).2, inter_process, hinter, hev, relay_toMrpConf]

/-- The interconnection machine follows the instance step by step. -/
theorem step_inter (e : Event) :
    (mrp.step e).inter = mrp.inter.step mrp.interConf (mrp.interEvent e) := by
  cases e with
  | recv p rx => exact mrp.inter_recv p rx
  | linkChange p up =>
      cases p with
      | ring r => exact inter_congr (mrp.portLinkChange_ring_op r up).toInPart
      | inter =>
          have hport : mrp.port? .inter = mrp.iPort := rfl
          simp only [step, interEvent]
          rw [hport]
          split
          · exact mrp.inter_portLinkChange up
          · rfl
  | operstate p state => exact mrp.inter_netlinkOperstate p state
  | cfmLinkChange defect => exact mrp.inter_cfmLinkChange defect
  | portMac p mac => exact mrp.inter_portMacChange p mac
  | bridgeMac mac => rfl
  | expired w =>
      simp only [step, interEvent]
      split
      · exact mrp.inter_expired w
      · rfl

/-- A frame raises an event of the interconnection machine only when it is enabled. -/
theorem inFrameEvent_enabled {buf : Buf} {type : TlvType} (h : mrp.shouldProcess type = true) :
    mrp.inter.Enabled (mrp.inFrameEvent buf type) := by
  cases type with
  | inTest =>
      simp only [shouldProcess, decide_eq_true_eq] at h
      simp only [inFrameEvent]
      split
      · exact h
      · trivial
  | inTopo =>
      simp only [inFrameEvent]
      split
      next hrole => exact hrole
      · trivial
  | inLinkDown | inLinkUp =>
      simp only [inFrameEvent]
      split
      next hopen => exact hopen.1
      · trivial
  | _ => trivial

/-- An active timer raises an event of the interconnection machine only when it is
enabled. -/
theorem inTimerEvent_enabled {w : TimerId} (h : (mrp.timer w).active = true) :
    mrp.inter.Enabled (mrp.inTimerEvent w) := by
  cases w with
  | inTest =>
      simp only [inTimerEvent]
      split
      next hopen => exact hopen.1
      · trivial
  | inLinkUp => exact h
  | inLinkDown => exact h
  | _ => trivial

/-- Every event of the instance is enabled in the interconnection machine. -/
theorem interEvent_enabled (e : Event) : mrp.inter.Enabled (mrp.interEvent e) := by
  have hlink : ∀ up, mrp.inter.Enabled (mrp.inLinkEvent up) := by
    intro up
    unfold inLinkEvent
    split <;> trivial
  cases e with
  | recv p rx =>
      simp only [interEvent]
      split
      next hdel => exact mrp.inFrameEvent_enabled (recv_of_delivered hdel).1
      · trivial
  | linkChange p up =>
      cases p with
      | ring r => trivial
      | inter =>
          simp only [interEvent]
          split
          · exact hlink up
          · trivial
  | operstate p state =>
      cases p with
      | ring r => trivial
      | inter =>
          simp only [interEvent]
          split
          · trivial
          · split
            · trivial
            · split
              · exact hlink _
              · trivial
  | cfmLinkChange defect =>
      simp only [interEvent]
      split <;> trivial
  | expired w =>
      simp only [interEvent]
      split
      next hactive => exact mrp.inTimerEvent_enabled hactive
      · trivial
  | _ => trivial

end Events

end Mrp

end Umrp
