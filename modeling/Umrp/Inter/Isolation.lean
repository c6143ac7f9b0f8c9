import Umrp.Creation

/-!
# Frames of a foreign interconnection

A node of a middle ring sees the frames of several interconnections.  Each frame
carries the ID of its interconnection, at an offset that depends on its type, and
each handler has a test of its own for it.

Main results:

- Theorem `Mrp.handler_inId`: a handler finds the ID where the frame has it.
- Theorem `foreign_inFrame_iff`: a frame of a foreign interconnection leaves the
  interconnection side alone unless it is a topology change that reaches a client
  in PT.
-/

namespace Umrp

open Octets EventMachine

/-! ## The ID of a frame -/

/-- Where the field MRP_InID stands behind the TLV header, for the types that have one. -/
def TlvType.inIdOffset : TlvType → Option Nat
  | .inTest => some 0
  | .inTopo => some 6
  | .inLinkDown | .inLinkUp | .inLinkStatus => some 8
  | _ => none

/-- The field MRP_InID of a received frame, if it is an interconnection frame that
is long enough to have it. -/
def RxFrame.inId? (rx : RxFrame) : Option UInt16 :=
  match (getTlvType rx.frameBuf.data).inIdOffset with
  | some off =>
      if sizeofEthhdr + sizeofVersion + sizeofTlvHdr + off + 2 ≤ rx.bytes.length then
        some ((tlvBody rx.frameBuf.data).be16 off)
      else none
  | none => none

/-- A handler that looks where the ID of the type stands finds the ID of the frame. -/
theorem Mrp.handler_inId (mrp : Mrp) (p : Port) {rx : RxFrame} {id : UInt16} {off : Nat}
    (hid : rx.inId? = some id) (hoff : (getTlvType rx.frameBuf.data).inIdOffset = some off) :
    (tlvBody (mrp.handlerBuf p rx)).be16 off = id := by
  unfold RxFrame.inId? at hid
  simp only [hoff, Option.ite_none_right_eq_some, Option.some.injEq] at hid
  rcases hid with ⟨hlen, rfl⟩
  have hbyte : ∀ i, i < off + 2 → tlvBody (mrp.handlerBuf p rx) i = tlvBody rx.frameBuf.data i := by
    intro i hi
    unfold tlvBody Buf.drop
    apply mrp.handlerBuf_of_lt
    omega
  rw [Buf.be16, hbyte off (by omega), hbyte (off + 1) (by omega)]
  rfl

/-! ## What a foreign frame must leave alone -/

/-- The timers of the interconnection side. -/
def interTimers : List TimerId := [.inTest, .inTopo, .inLinkUp, .inLinkDown, .inLinkStatus]

/-- States, port, counters and timers of the interconnection side are the same in
`b` as in `a`, and no timer was restarted in between. -/
structure InterKept (a b : Mrp) : Prop where
  mimState : b.mimState = a.mimState
  micState : b.micState = a.micState
  portState : b.iPort.map MrpPort.state = a.iPort.map MrpPort.state
  inTestCurr : b.inTestCurr = a.inTestCurr
  inTestCurrMax : b.inTestCurrMax = a.inTestCurrMax
  inLinkCurrMax : b.inLinkCurrMax = a.inLinkCurrMax
  inLinkStatusCurrMax : b.inLinkStatusCurrMax = a.inLinkStatusCurrMax
  timers : ∀ w ∈ interTimers, b.timer w = a.timer w ∧ b.timerCalls w = a.timerCalls w

/-- It is enough that the whole interconnection side is the same. -/
theorem InterKept.of_toInPart {a b : Mrp} (hin : b.toInPart = a.toInPart)
    (hcalls : ∀ w ∈ interTimers, b.timerCalls w = a.timerCalls w) : InterKept a b where
  mimState := by rw [hin]
  micState := by rw [hin]
  portState := by rw [hin]
  inTestCurr := by rw [hin]
  inTestCurrMax := by rw [hin]
  inLinkCurrMax := by rw [hin]
  inLinkStatusCurrMax := by rw [hin]
  timers := by
    intro w hw
    refine ⟨?_, hcalls w hw⟩
    simp only [interTimers, List.mem_cons, List.not_mem_nil, or_false] at hw
    rcases hw with rfl | rfl | rfl | rfl | rfl <;> simp only [Mrp.timer, hin]

theorem InterKept.refl (a : Mrp) : InterKept a a :=
  .of_toInPart rfl fun _ _ => rfl

/-- A step that keeps the interconnection side does not show. -/
theorem InterKept.congr_left {a b c : Mrp} (hab : InterKept a b) :
    InterKept b c ↔ InterKept a c := by
  constructor
  · intro hbc
    refine ⟨hbc.mimState.trans hab.mimState, hbc.micState.trans hab.micState,
      hbc.portState.trans hab.portState, hbc.inTestCurr.trans hab.inTestCurr,
      hbc.inTestCurrMax.trans hab.inTestCurrMax, hbc.inLinkCurrMax.trans hab.inLinkCurrMax,
      hbc.inLinkStatusCurrMax.trans hab.inLinkStatusCurrMax, ?_⟩
    intro w hw
    exact ⟨(hbc.timers w hw).1.trans (hab.timers w hw).1,
      (hbc.timers w hw).2.trans (hab.timers w hw).2⟩
  · intro hac
    refine ⟨hac.mimState.trans hab.mimState.symm, hac.micState.trans hab.micState.symm,
      hac.portState.trans hab.portState.symm, hac.inTestCurr.trans hab.inTestCurr.symm,
      hac.inTestCurrMax.trans hab.inTestCurrMax.symm, hac.inLinkCurrMax.trans hab.inLinkCurrMax.symm,
      hac.inLinkStatusCurrMax.trans hab.inLinkStatusCurrMax.symm, ?_⟩
    intro w hw
    exact ⟨(hac.timers w hw).1.trans (hab.timers w hw).1.symm,
      (hac.timers w hw).2.trans (hab.timers w hw).2.symm⟩

/-! ## Handlers -/

namespace Mrp

variable (mrp : Mrp)

/-- Relaying does not touch the interconnection side. -/
theorem relay_interKept (p : Port) (fb : FrameBuf) (type : TlvType) :
    InterKept mrp (mrp.relay p fb type) :=
  .of_toInPart (mrp.relay_toInPart p fb type) fun w _ => mrp.timerCalls_relay w p fb type

/-- A test frame of a foreign interconnection is ignored. -/
theorem recvInTest_foreign {buf : Buf} (h : InTestHdr.id (tlvBody buf) ≠ mrp.inId) :
    mrp.recvInTest buf = mrp := by
  rw [recvInTest, if_pos (Ne.symm h)]

/-- A link change frame of a foreign interconnection is ignored. -/
theorem recvInLink_foreign {buf : Buf} (h : InLinkHdr.id (tlvBody buf) ≠ mrp.inId) :
    mrp.recvInLink buf = mrp := by
  unfold recvInLink
  cases mrp.mimState <;> simp [h]

/-- A ring manager that starts a topology change of its own does not touch the
interconnection side. -/
theorem restartRingTopo_interKept (interval : UInt32) :
    InterKept mrp (mrp.restartRingTopo interval) := by
  refine .of_toInPart (mrp.restartRingTopo_op interval).toInPart ?_
  intro w hw
  have hne : w ≠ .ringTopo := by
    rintro rfl
    simp [interTimers] at hw
  unfold restartRingTopo ringTopoReq ringTopoSend sendRingTopo ringTopoStart flush call timerCalls
  split
  · split
    · simp [Call.isTimer]
    · simp [Call.isTimer, hne.symm]
  · rfl

/-- Clearing the forwarding database does not touch the interconnection side. -/
theorem clearFdbStart_interKept (interval : UInt32) :
    InterKept mrp (mrp.clearFdbStart interval) := by
  have hin : (mrp.clearFdbStart interval).toInPart = mrp.toInPart := by
    unfold clearFdbStart
    split <;> rfl
  refine .of_toInPart hin ?_
  intro w hw
  have hne : w ≠ .clearFdb := by
    rintro rfl
    simp [interTimers] at hw
  unfold clearFdbStart flush call timerCalls
  split <;> simp [Call.isTimer, hne.symm]

/-- A topology change of a foreign interconnection reaches only a client in PT. -/
theorem inTopoByRole_interKept_iff {hdr : Buf} (h : InTopoHdr.id hdr ≠ mrp.inId)
    (interval : UInt32) :
    InterKept mrp (mrp.inTopoByRole hdr interval) ↔ ¬(mrp.inRole = .mic ∧ mrp.micState = .pt) := by
  unfold inTopoByRole
  cases hrole : mrp.inRole with
  | mim =>
      simp only [reduceCtorEq, false_and, not_false_eq_true, iff_true]
      split
      · exact .refl mrp
      · exact mrp.clearFdbStart_interKept interval
  | mic =>
      unfold micRecvInTopo
      cases hstate : mrp.micState with
      | acStat1 =>
          simp only [if_neg h, reduceCtorEq, and_false, not_false_eq_true, iff_true]
          exact .refl mrp
      | pt =>
          simp only [and_self, not_true_eq_false, iff_false]
          intro hkept
          have hmic := hkept.micState
          rw [hstate] at hmic
          cases hmic
      | ipIdle =>
          simp only [reduceCtorEq, and_false, not_false_eq_true, iff_true]
          exact .refl mrp
  | disabled =>
      simp only [reduceCtorEq, false_and, not_false_eq_true, iff_true]
      exact .refl mrp

/-- The same for the whole handler. -/
theorem recvInTopo_interKept_iff {buf : Buf} (h : InTopoHdr.id (tlvBody buf) ≠ mrp.inId) :
    InterKept mrp (mrp.recvInTopo buf) ↔ ¬(mrp.inRole = .mic ∧ mrp.micState = .pt) := by
  simp only [recvInTopo]
  generalize intervalUs (InTopoHdr.interval (tlvBody buf)) = interval
  have hop := mrp.restartRingTopo_op interval
  have hid : InTopoHdr.id (tlvBody buf) ≠ (mrp.restartRingTopo interval).inId := by
    rwa [hop.toMrpConf]
  rw [← (mrp.restartRingTopo_interKept interval).congr_left, inTopoByRole_interKept_iff _ hid,
    hop.toInPart]

/-- A poll of a foreign interconnection is ignored. -/
theorem recvInLinkStatus_foreign {buf : Buf} (h : InLinkHdr.id (tlvBody buf) ≠ mrp.inId) :
    mrp.recvInLinkStatus buf = mrp := by
  unfold recvInLinkStatus
  simp [h]

/-- The handlers of the five types together. -/
theorem process_interKept_iff {buf : Buf} {type : TlvType} {off : Nat}
    (hoff : type.inIdOffset = some off) (h : (tlvBody buf).be16 off ≠ mrp.inId) :
    InterKept mrp (mrp.process buf type) ↔
      ¬(type = .inTopo ∧ mrp.inRole = .mic ∧ mrp.micState = .pt) := by
  have hsilent : type ≠ .inTopo → mrp.process buf type = mrp →
      (InterKept mrp (mrp.process buf type) ↔
        ¬(type = .inTopo ∧ mrp.inRole = .mic ∧ mrp.micState = .pt)) := by
    intro htype heq
    rw [heq]
    exact iff_of_true (.refl mrp) fun hbad => htype hbad.1
  cases type with
  | inTest =>
      cases hoff
      exact hsilent (by simp) (mrp.recvInTest_foreign h)
  | inTopo =>
      cases hoff
      rw [process, mrp.recvInTopo_interKept_iff h]
      simp
  | inLinkDown =>
      cases hoff
      exact hsilent (by simp) (mrp.recvInLink_foreign h)
  | inLinkUp =>
      cases hoff
      exact hsilent (by simp) (mrp.recvInLink_foreign h)
  | inLinkStatus =>
      cases hoff
      exact hsilent (by simp) (mrp.recvInLinkStatus_foreign h)
  | _ => cases hoff

/-- A topology change of an interconnection passes the drop filter of every port
that is not disabled. -/
theorem admitted_inTopo {p : Port} {rx : RxFrame}
    (htype : getTlvType rx.frameBuf.data = .inTopo) :
    mrp.admitted p rx = true ↔ ∃ port, mrp.port? p = some port ∧ port.state ≠ .disabled := by
  unfold admitted
  cases mrp.port? p with
  | none => simp
  | some port => cases hstate : port.state <;> simp [htype, shouldDrop, hstate]

end Mrp

/-! ## Received frames -/

/-- A frame with an ID is of a type that has one. -/
theorem exists_inIdOffset {rx : RxFrame} {id : UInt16} (hid : rx.inId? = some id) :
    ∃ off, (getTlvType rx.frameBuf.data).inIdOffset = some off := by
  unfold RxFrame.inId? at hid
  split at hid
  next off hoff => exact ⟨off, hoff⟩
  next => cases hid

/-- A frame of a foreign interconnection leaves the interconnection side alone,
except for a topology change that a client in PT receives on a port that is not
disabled. -/
theorem foreign_inFrame_iff (mrp : Mrp) (p : Port) {rx : RxFrame} {id : UInt16}
    (hid : rx.inId? = some id) (hne : id ≠ mrp.inId) :
    InterKept mrp (mrp.recv p rx) ↔
      ¬(getTlvType rx.frameBuf.data = .inTopo ∧ mrp.inRole = .mic ∧ mrp.micState = .pt ∧
        ∃ port, mrp.port? p = some port ∧ port.state ≠ .disabled) := by
  have hrelay := mrp.relay_interKept p rx.frameBuf (getTlvType rx.frameBuf.data)
  cases hdel : mrp.delivered p rx with
  | none =>
      have hkept : InterKept mrp (mrp.recv p rx) := by
        rcases Mrp.recv_of_not_delivered hdel with h | h <;> rw [h]
        · exact .refl mrp
        · exact hrelay
      refine iff_of_true hkept ?_
      -- the process filter would have let a topology change through to a client
      rintro ⟨htype, hrole, -, hport⟩
      have hadm := (mrp.admitted_inTopo htype).mpr hport
      rw [Mrp.delivered_eq, htype, if_pos ⟨hadm, by simp [Mrp.shouldProcess, hrole]⟩] at hdel
      cases hdel
  | some x =>
      rcases x with ⟨type, buf⟩
      rcases mrp.eq_of_delivered hdel with ⟨hadm, rfl, rfl⟩
      rcases exists_inIdOffset hid with ⟨off, hoff⟩
      have hread : (tlvBody (mrp.handlerBuf p rx)).be16 off ≠
          (mrp.relay p rx.frameBuf (getTlvType rx.frameBuf.data)).inId := by
        rwa [mrp.handler_inId p hid hoff, mrp.relay_toMrpConf]
      rw [(Mrp.recv_of_delivered hdel).2, ← hrelay.congr_left,
        Mrp.process_interKept_iff _ hoff hread, mrp.relay_toInPart, not_iff_not]
      constructor
      · rintro ⟨htype, hrole, hstate⟩
        exact ⟨htype, hrole, hstate, (mrp.admitted_inTopo htype).mp hadm⟩
      · rintro ⟨htype, hrole, hstate, -⟩
        exact ⟨htype, hrole, hstate⟩

/-- A frame of interconnection 8, as bridge 9 builds it. -/
def Sample.foreign (f : Frame) : RxFrame where
  bytes := Sent.bytes
    { port := .ring .primary, src := mac 9, prio := 0x8000, sa := mac 9, inId := 8, blocked := 1,
      seq := 1, view := ⟨.primary, .secondary, .forwarding, .blocked, none⟩, frame := f }
  stale := fun _ => 0
  nstale := fun _ => 0

/-- The sample client of interconnection 7 hears a test frame of interconnection 8. -/
theorem foreign_inFrame_iff_sample :
    InterKept (Sample.mrp ringRoleMrc inRoleMic)
      ((Sample.mrp ringRoleMrc inRoleMic).recv (.ring .primary)
        (Sample.foreign (.inTest true 0 0))) :=
  (@foreign_inFrame_iff _ _ _ 8 (by decide +kernel) (by decide +kernel)).mpr fun h =>
    absurd h.1 (by decide +kernel)

/-- The sample client of interconnection 7 waits in PT with its port blocked.  A
topology change of interconnection 8 makes it open the port. -/
theorem foreign_inTopo_opens_port :
    ∃ mrp rx, Reachable Sample.env (Sample.args ringRoleMrc inRoleMic) mrp ∧
      mrp.inRole = .mic ∧ mrp.inId = 7 ∧ rx.inId? = some 8 ∧
      mrp.micState = .pt ∧ mrp.iPort.map MrpPort.state = some .blocked ∧
      (mrp.recv (.ring .primary) rx).micState = .ipIdle ∧
      (mrp.recv (.ring .primary) rx).iPort.map MrpPort.state = some .forwarding ∧
      ¬InterKept mrp (mrp.recv (.ring .primary) rx) := by
  refine ⟨Sample.mrp ringRoleMrc inRoleMic, Sample.foreign (.inTopo 20000),
    Sample.reachable (by decide +kernel), by decide +kernel, by decide +kernel, by decide +kernel,
    by decide +kernel, by decide +kernel, by decide +kernel, by decide +kernel, ?_⟩
  intro hkept
  exact absurd hkept.micState (by decide +kernel)

end Umrp
