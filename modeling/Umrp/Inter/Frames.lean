import Umrp.Codec
import Umrp.Relay

/-!
# Interconnection frames at a ring client

Two things that the code means to do with the frames of an interconnection.  A client
of the ring keeps the frames of its own interconnection from going on through the ring,
and a client of the interconnection answers when it is polled for the state of its link.

The first looks for the ID where MRP_InTest frames have it, whatever the type of the
frame is; in the other types the address of the sender is there.  The second never
happens, because the filter in front of the handlers does not know the poll.

Main results:

- Theorem `Sent.comparedId_eq`: what is compared with the ID of the instance.
- Theorem `Mrp.crosses_iff`: which frames go on through the ring.
- Theorem `inId_honoured_iff`: for which frames the comparison is the right one.
- Theorem `poll_answered_iff`: a poll is not answered.
-/

namespace Umrp

open Octets EventMachine

/-! ## The ID of a frame -/

/-- The ID that `mrp_check_and_forward` compares with that of the instance. -/
def comparedId (data : Buf) : UInt16 := InTestHdr.id (tlvBody data)

/-- The first two octets of the sender's address, read as an ID. -/
def Sent.saId (s : Sent) : UInt16 :=
  UInt16.ofNat (s.sa.b0.toNat * 256 + s.sa.b1.toNat)

theorem Sent.saId_of_starts {s : Sent} {b : Buf} (h : b.Starts s.sa.octets) :
    b.be16 0 = s.saId := by
  have h0 := h 0 (by simp [Mac.octets])
  have h1 := h 1 (by simp [Mac.octets])
  simp only [Mac.octets, List.getElem_cons_zero, List.getElem_cons_succ] at h0 h1
  rw [Buf.be16, Nat.zero_add, h0, h1, Sent.saId]

/-- Only an MRP_InTest frame has its ID where it is looked for. -/
theorem Sent.comparedId_eq {s : Sent} (hin : s.frame.type.isInFrame = true) {buf : Buf}
    (h : buf.Starts s.payload) :
    comparedId buf = if s.frame.type = .inTest then s.inId else s.saId := by
  cases hf : s.frame with
  | inTest closed transitions timestamp => exact (inTest_of_starts h hf).1
  | inTopo interval =>
      rw [Sent.payload, Sent.tlv, hf] at h
      simp only [List.append_assoc] at h
      have hsa := Sent.saId_of_starts h.of_append.2.of_append.2.of_append.1
      exact hsa
  | inLink up interval =>
      rw [Sent.payload, Sent.tlv, hf] at h
      simp only [List.append_assoc] at h
      have hsa := Sent.saId_of_starts h.of_append.2.of_append.2.of_append.1
      cases up <;> exact hsa
  | inLinkStatus =>
      rw [Sent.payload, Sent.tlv, hf] at h
      simp only [List.append_assoc] at h
      have hsa := Sent.saId_of_starts h.of_append.2.of_append.2.of_append.1
      exact hsa
  | ringLink up interval => cases up <;> simp [hf, Frame.type, TlvType.isInFrame] at hin
  | _ => simp [hf, Frame.type, TlvType.isInFrame] at hin

/-! ## The way through the ring -/

/-- The frame goes on to a ring port. -/
def Targets.crosses (t : Targets) : Bool := t.p || t.s

namespace Mrp

/-- A client of the interconnection hands a poll from the ring to its interconnection
port only. -/
def KeepsPoll (mrp : Mrp) (type : TlvType) : Prop :=
  mrp.inRole = .mic ∧ type = .inLinkStatus

/-- A ring client with an interconnection role lets an interconnection frame go on
through the ring unless its ID seems to be the own one.  Apart from that, its own test
frames and polls stop here. -/
theorem crosses_iff {mrp : Mrp} (hrole : mrp.ringRole = .mrc) (hin : mrp.inRole ≠ .disabled)
    (hd : mrp.pPort ≠ mrp.sPort) (r : RingPort) (data : Buf) {type : TlvType}
    (htype : type.isInFrame = true) :
    (mrp.targets (.ring r) data type).crosses = true ↔
      comparedId data ≠ mrp.inId ∧ ¬ mrp.KeepsPoll type ∧
        ¬ (mrp.inRole = .mim ∧ type = .inTest ∧
          InTestHdr.sa (tlvBody data) = mrp.macaddr) := by
  have hring : type.isRingFrame = false := by
    cases type <;> simp [TlvType.isInFrame, TlvType.isRingFrame] at htype ⊢
  have hgoes : (mrp.ingressTargets (.ring r)).crosses = true := by
    rcases ingressTargets_ring hd r with ⟨-, -, ht⟩ | ⟨-, -, ht⟩ <;> simp [ht, Targets.crosses]
  have hby : mrp.inTargetsByRing (.ring r) (tlvBody data) =
      if comparedId data = mrp.inId then (mrp.ingressTargets (.ring r)).noRing
      else mrp.ingressTargets (.ring r) := by
    simp [inTargetsByRing, hrole, hin, Port.isRingPort, comparedId, eq_comm]
  have hcrosses : (mrp.inTargetsByRing (.ring r) (tlvBody data)).crosses = true ↔
      comparedId data ≠ mrp.inId := by
    rw [hby]
    split
    next h => simp [h, Targets.crosses, Targets.noRing]
    next h => simp [h, hgoes]
  have htargets : mrp.targets (.ring r) data type = mrp.inTargets (.ring r) (tlvBody data) type := by
    simp [targets, hring, htype]
  rw [htargets, KeepsPoll, ← hcrosses]
  simp only [inTargets, Port.isInPort, Port.isRingPort]
  generalize mrp.inTargetsByRing (.ring r) (tlvBody data) = t
  cases hmode : mrp.inRole with
  | disabled => exact absurd hmode hin
  | mim =>
      by_cases htest : type = .inTest
      · by_cases hsa : InTestHdr.sa (tlvBody data) = mrp.macaddr
        · simp [htest, hsa, Targets.crosses, Targets.none]
        · simp [htest, hsa, Targets.crosses, Targets.noInter]
      · simp [htest, Targets.crosses, Targets.noInter]
  | mic =>
      cases type <;>
        simp [TlvType.isInFrame, Targets.crosses, Targets.noInter, Targets.noRing] at htype ⊢

/-- What the decision depends on: whether the compared ID is the own one, and for a test
frame whether the address of the sender is. -/
theorem targets_congr {mrp : Mrp} {p : Port} {data data' : Buf} {type : TlvType}
    (hid : comparedId data = mrp.inId ↔ comparedId data' = mrp.inId)
    (hsa : type = .inTest →
      (InTestHdr.sa (tlvBody data) = mrp.macaddr ↔ InTestHdr.sa (tlvBody data') = mrp.macaddr)) :
    mrp.targets p data type = mrp.targets p data' type := by
  have hby : mrp.inTargetsByRing p (tlvBody data) = mrp.inTargetsByRing p (tlvBody data') := by
    have hid' : mrp.inId = InTestHdr.id (tlvBody data) ↔
        mrp.inId = InTestHdr.id (tlvBody data') := by
      rw [eq_comm, @eq_comm _ mrp.inId]
      exact hid
    simp only [inTargetsByRing, hid']
  have hin : mrp.inTargets p (tlvBody data) type = mrp.inTargets p (tlvBody data') type := by
    simp only [inTargets, hby]
    split
    · by_cases htest : type = .inTest
      · simp only [etherAddrEqual_iff, hsa htest]
      · simp only [htest, if_false]
    · rfl
    · rfl
  simp only [targets, hin]

/-- A poll that stays at the ring port goes to the interconnection port, whatever is
in it. -/
theorem targets_keepsPoll {mrp : Mrp} {type : TlvType} (h : mrp.KeepsPoll type) (r : RingPort)
    (data data' : Buf) : mrp.targets (.ring r) data type = mrp.targets (.ring r) data' type := by
  rcases h with ⟨hrole, rfl⟩
  have hnoRing : ∀ d, (mrp.inTargetsByRing (.ring r) d).noRing =
      (mrp.ingressTargets (.ring r)).noRing := by
    intro d
    unfold inTargetsByRing
    dsimp only
    repeat' split
    all_goals rfl
  simp only [targets, TlvType.isRingFrame, TlvType.isInFrame, inTargets, hrole, Port.isRingPort]
  simp [hnoRing]

/-- The decision about an interconnection frame from a ring port follows its ID: the
compared ID is that of the frame, so a frame of the own interconnection stays out of the
other ring port, and the address of a foreign sender makes no difference. -/
structure HonoursInId (mrp : Mrp) (r : RingPort) (s : Sent) : Prop where
  compared : ∀ rx, s.ArrivesAs rx → comparedId rx.frameBuf.data = s.inId
  stops : ∀ rx, s.ArrivesAs rx → s.inId = mrp.inId →
    (mrp.targets (.ring r) rx.frameBuf.data s.frame.type).crosses = false
  ignoresSa : ∀ sa rx rx', s.ArrivesAs rx → { s with sa := sa }.ArrivesAs rx' →
    s.sa ≠ mrp.macaddr → sa ≠ mrp.macaddr →
    mrp.targets (.ring r) rx.frameBuf.data s.frame.type =
      mrp.targets (.ring r) rx'.frameBuf.data s.frame.type

end Mrp

/-- An address other than `own` whose first two octets read as the given ID. -/
def Mac.withId (id : UInt16) (own : Mac) : Mac :=
  ⟨UInt8.ofNat (id.toNat / 256), UInt8.ofNat id.toNat, 0, 0, 0, own.b5 + 1⟩

theorem Mac.withId_ne (id : UInt16) (own : Mac) : Mac.withId id own ≠ own := by
  intro h
  have h5 : own.b5 + 1 = own.b5 := congrArg Mac.b5 h
  have hnat := congrArg UInt8.toNat h5
  have hlt := own.b5.toNat_lt
  rw [UInt8.toNat_add, UInt8.toNat_one] at hnat
  omega

theorem Sent.saId_withId (s : Sent) (id : UInt16) (own : Mac) :
    { s with sa := Mac.withId id own }.saId = id := by
  have hlt := id.toNat_lt
  apply UInt16.toNat_inj.mp
  simp only [Sent.saId, Mac.withId, UInt16.toNat_ofNat', UInt8.toNat_ofNat']
  omega

/-- A frame as it arrives in cleared buffers. -/
def Sent.arrived (s : Sent) : RxFrame := ⟨s.bytes, fun _ => 0, fun _ => 0⟩

theorem Sent.arrivesAs_arrived (s : Sent) : s.ArrivesAs s.arrived :=
  rfl

namespace Mrp

section HonoursInId

variable {mrp : Mrp} {r : RingPort} {s : Sent}

/-- A frame whose compared ID is its own stays out of the other ring port if it is one
of the own interconnection. -/
theorem crosses_of_own (hrole : mrp.ringRole = .mrc) (hin : mrp.inRole ≠ .disabled)
    (hd : mrp.pPort ≠ mrp.sPort) (htype : s.frame.type.isInFrame = true) {data : Buf}
    (hid : comparedId data = mrp.inId) :
    (mrp.targets (.ring r) data s.frame.type).crosses = false := by
  rw [← Bool.not_eq_true, crosses_iff hrole hin hd r data htype]
  exact fun h => h.1 hid

/-- The ID of a test frame is where it is looked for. -/
theorem honoursInId_inTest (hrole : mrp.ringRole = .mrc) (hin : mrp.inRole ≠ .disabled)
    (hd : mrp.pPort ≠ mrp.sPort) (hs : s.frame.type = .inTest) : mrp.HonoursInId r s := by
  have htype : s.frame.type.isInFrame = true := by
    rw [hs]
    rfl
  have hcompared : ∀ (s' : Sent) {rx}, s'.frame.type = .inTest → s'.ArrivesAs rx →
      comparedId rx.frameBuf.data = s'.inId := by
    intro s' rx hs' hrx
    have htype' : s'.frame.type.isInFrame = true := by
      rw [hs']
      rfl
    rw [Sent.comparedId_eq htype' hrx.data, if_pos hs']
  have hsa : ∀ (s' : Sent) {rx}, s'.frame.type = .inTest → s'.ArrivesAs rx →
      InTestHdr.sa (tlvBody rx.frameBuf.data) = s'.sa := by
    intro s' rx hs' hrx
    cases hf : s'.frame with
    | inTest closed transitions timestamp => exact (inTest_of_starts hrx.data hf).2
    | ringLink up _ | inLink up _ => cases up <;> simp [hf, Frame.type] at hs'
    | _ => simp [hf, Frame.type] at hs'
  refine ⟨fun rx hrx => hcompared s hs hrx, ?_, ?_⟩
  · intro rx hrx hid
    exact crosses_of_own hrole hin hd htype ((hcompared s hs hrx).trans hid)
  · intro sa rx rx' hrx hrx' hne hne'
    have hid' := hcompared { s with sa := sa } hs hrx'
    have hsa' := hsa { s with sa := sa } hs hrx'
    refine targets_congr ?_ fun _ => ?_
    · rw [hcompared s hs hrx, hid']
    · rw [hsa s hs hrx, hsa']
      exact iff_of_false hne hne'

/-- Another sender of the same frame, with an address that is not the own one, for
which the decision is the other one. -/
theorem exists_other_decision (hrole : mrp.ringRole = .mrc) (hin : mrp.inRole ≠ .disabled)
    (hd : mrp.pPort ≠ mrp.sPort) (htype : s.frame.type.isInFrame = true)
    (htest : s.frame.type ≠ .inTest) (hpoll : ¬ mrp.KeepsPoll s.frame.type) :
    ∃ sa, sa ≠ mrp.macaddr ∧
      mrp.targets (.ring r) s.arrived.frameBuf.data s.frame.type ≠
        mrp.targets (.ring r) { s with sa := sa }.arrived.frameBuf.data s.frame.type := by
  have hcrosses : ∀ s' : Sent, s'.frame = s.frame →
      ((mrp.targets (.ring r) s'.arrived.frameBuf.data s.frame.type).crosses = true ↔
        s'.saId ≠ mrp.inId) := by
    intro s' hs'
    have hid := Sent.comparedId_eq (s := s') (by rwa [hs']) s'.arrivesAs_arrived.data
    rw [hs', if_neg htest] at hid
    rw [crosses_iff hrole hin hd r _ htype, hid]
    simp [hpoll, htest]
  -- an ID that is the own one exactly when the sender's address does not look like it
  have hother : ∃ id, (s.saId = mrp.inId ↔ id ≠ mrp.inId) := by
    by_cases h : s.saId = mrp.inId
    · exact ⟨mrp.inId + 1, by simp [h]⟩
    · exact ⟨mrp.inId, by simp [h]⟩
  rcases hother with ⟨id, hother⟩
  refine ⟨.withId id mrp.macaddr, Mac.withId_ne _ _, fun heq => ?_⟩
  have hmine := hcrosses s rfl
  have hyours := hcrosses { s with sa := .withId id mrp.macaddr } rfl
  rw [Sent.saId_withId, ← heq, hmine] at hyours
  exact absurd hother (by rw [← hyours]; exact fun h => (iff_not_self h).elim)

end HonoursInId

end Mrp

/-- At a client of the ring with an interconnection role the decision about an
interconnection frame follows the ID of the frame exactly for test frames.  For another
type it only seems to, if the address of the sender begins with the ID, and only if the
sender is the instance itself or the frame is a poll that never goes through the ring. -/
theorem inId_honoured_iff {env : Env} {a : AddArgs} {mrp : Mrp} (h : Reachable env a mrp)
    (hrole : mrp.ringRole = .mrc) (hin : mrp.inRole ≠ .disabled) (r : RingPort) (s : Sent)
    (htype : s.frame.type.isInFrame = true) :
    mrp.HonoursInId r s ↔
      s.frame.type = .inTest ∨
        s.saId = s.inId ∧ (s.sa = mrp.macaddr ∨ mrp.KeepsPoll s.frame.type) := by
  have hd := h.distinct
  constructor
  · intro hon
    by_cases htest : s.frame.type = .inTest
    · exact .inl htest
    · right
      constructor
      · have hcompared := hon.compared s.arrived s.arrivesAs_arrived
        rwa [Sent.comparedId_eq htype s.arrivesAs_arrived.data, if_neg htest] at hcompared
      · by_contra hsender
        rw [not_or] at hsender
        rcases Mrp.exists_other_decision (r := r) hrole hin hd htype htest hsender.2 with
          ⟨sa, hsa, hne⟩
        exact hne (hon.ignoresSa sa _ _ s.arrivesAs_arrived
          (Sent.arrivesAs_arrived { s with sa := sa }) hsender.1 hsa)
  · rintro (htest | ⟨hid, hsender⟩)
    · exact Mrp.honoursInId_inTest hrole hin hd htest
    · have hcompared : ∀ rx, s.ArrivesAs rx → comparedId rx.frameBuf.data = s.inId := by
        intro rx hrx
        rw [Sent.comparedId_eq htype hrx.data, hid, ite_self]
      refine ⟨hcompared, ?_, ?_⟩
      · intro rx hrx hown
        exact Mrp.crosses_of_own hrole hin hd htype ((hcompared rx hrx).trans hown)
      · intro sa rx rx' hrx hrx' hne hne'
        rcases hsender with hsender | hpoll
        · exact absurd hsender hne
        · exact Mrp.targets_keepsPoll hpoll r _ _

/-- A frame of interconnection 7, as bridge 9 builds it. -/
def Sample.peer (f : Frame) : Sent where
  port := .ring .primary
  src := mac 9
  prio := 0x8000
  sa := mac 9
  inId := 7
  blocked := 1
  seq := 1
  view := ⟨.primary, .secondary, .forwarding, .blocked, none⟩
  frame := f

/-- The sample client honours the ID of a test frame. -/
theorem inId_honoured_iff_sample :
    (Sample.mrp ringRoleMrc inRoleMic).HonoursInId .primary (Sample.peer (.inTest true 0 0)) :=
  (inId_honoured_iff (Sample.reachable (by decide +kernel)) (by decide +kernel)
    (by decide +kernel) .primary _ rfl).mpr (.inl rfl)

/-- The sample client of interconnection 7 gets a topology change of its own
interconnection on one ring port and sends it out on the other. -/
theorem own_inTopo_crosses :
    ∃ mrp rx, Reachable Sample.env (Sample.args ringRoleMrc inRoleMic) mrp ∧
      mrp.ringRole = .mrc ∧ mrp.inRole = .mic ∧ mrp.inId = 7 ∧
      (Sample.peer (.inTopo 20000)).ArrivesAs rx ∧ (Sample.peer (.inTopo 20000)).inId = 7 ∧
      mrp.Transmits (.ring .primary) rx (.ring .secondary) ∧
      ¬ mrp.HonoursInId .primary (Sample.peer (.inTopo 20000)) := by
  refine ⟨Sample.mrp ringRoleMrc inRoleMic, (Sample.peer (.inTopo 20000)).arrived,
    Sample.reachable (by decide +kernel), by decide +kernel, by decide +kernel, by decide +kernel,
    rfl, rfl, Mrp.transmits_ring_iff.mpr (by decide +kernel), ?_⟩
  intro hon
  have hstops := hon.stops _ (Sent.arrivesAs_arrived _) (by decide +kernel)
  exact absurd hstops (by decide +kernel)

/-! ## Polls -/

namespace Mrp

/-- A client of an interconnection in link check mode receives a poll with its ID on a
port that forwards. -/
structure Polled (mrp : Mrp) (p : Port) (rx : RxFrame) : Prop where
  role : mrp.inRole = .mic
  mode : mrp.inMode = .lc
  poll : ∃ s : Sent, s.frame = .inLinkStatus ∧ s.inId = mrp.inId ∧ s.ArrivesAs rx
  port : ∃ port, mrp.port? p = some port ∧ port.state = .forwarding

/-- The answer to a poll: a link change frame leaves through each of the three ports
that is up, and says whether the interconnection is connected. -/
def AnswersPoll (mrp : Mrp) (p : Port) (rx : RxFrame) : Prop :=
  ∃ news, (mrp.recv p rx).sent = news ++ mrp.sent ∧
    ∀ q ∈ [.ring mrp.pPort, .ring mrp.sPort, .inter], mrp.isOperUp q = true →
      ∃ x ∈ news, x.port = q ∧ ∃ interval, x.frame = .inLink (mrp.micState ≠ .acStat1) interval

/-- The handler for polls would answer as it should. -/
theorem recvInLinkStatus_eq {mrp : Mrp} {p : Port} {rx : RxFrame} (h : mrp.Polled p rx) :
    mrp.recvInLinkStatus (mrp.handlerBuf p rx) = mrp.inLinkReq (mrp.micState ≠ .acStat1) 0 := by
  rcases h.poll with ⟨s, hs, hid, hrx⟩
  have hread := inLinkStatus_of_starts (handlerBuf_starts hrx mrp p) hs
  rw [hid] at hread
  simp only [recvInLinkStatus, h.role, h.mode, hread, ne_eq, not_true_eq_false, if_false]
  cases mrp.micState <;> rfl

/-- It does not get to see them: the filter in front of the handlers has no case for
polls, so nothing is sent. -/
theorem recv_poll_sent (mrp : Mrp) (p : Port) {rx : RxFrame}
    (htype : getTlvType rx.frameBuf.data = .inLinkStatus) : (mrp.recv p rx).sent = mrp.sent := by
  have hdel : mrp.delivered p rx = none := by
    rw [delivered_eq, htype]
    simp [shouldProcess]
  rcases recv_of_not_delivered hdel with hrecv | hrecv
  · rw [hrecv]
  · rw [hrecv, relay_sent]

end Mrp

/-- A poll goes unanswered in every state, so the answer is only complete where there is
no port that it could leave through. -/
theorem poll_answered_iff {mrp : Mrp} {p : Port} {rx : RxFrame} (h : mrp.Polled p rx) :
    mrp.AnswersPoll p rx ↔
      mrp.isOperUp (.ring mrp.pPort) = false ∧ mrp.isOperUp (.ring mrp.sPort) = false ∧
        mrp.isOperUp .inter = false := by
  rcases h.poll with ⟨s, hs, -, hrx⟩
  have htype : getTlvType rx.frameBuf.data = .inLinkStatus := by
    rw [getTlvType_of_starts hrx.data, hs]
    rfl
  have hanswer : mrp.AnswersPoll p rx ↔
      ∀ q ∈ [.ring mrp.pPort, .ring mrp.sPort, .inter], mrp.isOperUp q = false := by
    unfold Mrp.AnswersPoll
    rw [Mrp.recv_poll_sent _ _ htype]
    constructor
    · rintro ⟨news, hnews, hall⟩ q hq
      rw [List.self_eq_append_left] at hnews
      by_contra hup
      rcases hall q hq (by simpa using hup) with ⟨x, hx, -⟩
      simp [hnews] at hx
    · intro hdown
      refine ⟨[], rfl, fun q hq hup => ?_⟩
      rw [hdown q hq] at hup
      cases hup
  rw [hanswer]
  simp

namespace Sample

/-- A client of the ring and of interconnection 7 in link check mode. -/
def checked : Mrp := (firstInstance env { args ringRoleMrc inRoleMic with inMode := 1 }).1

theorem reachable_checked :
    Reachable env { args ringRoleMrc inRoleMic with inMode := 1 } checked :=
  ⟨_, [], created_firstInstance rfl (by decide +kernel), rfl⟩

theorem polled_checked : checked.Polled (.ring .primary) (peer .inLinkStatus).arrived :=
  ⟨by decide +kernel, by decide +kernel,
    ⟨_, rfl, by decide +kernel, Sent.arrivesAs_arrived _⟩,
    ⟨_, rfl, by decide +kernel⟩⟩

end Sample

/-- The sample client has ports that are up, so its answer is not complete. -/
theorem poll_answered_iff_sample :
    ¬ Sample.checked.AnswersPoll (.ring .primary) (Sample.peer .inLinkStatus).arrived :=
  fun h => absurd ((poll_answered_iff Sample.polled_checked).mp h).1 (by decide +kernel)

/-- The sample client in PT is polled on a forwarding port, with all its links up, and
sends nothing. -/
theorem poll_unanswered :
    Reachable Sample.env { Sample.args ringRoleMrc inRoleMic with inMode := 1 } Sample.checked ∧
      Sample.checked.Polled (.ring .primary) (Sample.peer .inLinkStatus).arrived ∧
      Sample.checked.micState = .pt ∧
      (∀ q ∈ [.ring .primary, .ring .secondary, .inter], Sample.checked.isOperUp q = true) ∧
      (Sample.checked.recv (.ring .primary) (Sample.peer .inLinkStatus).arrived).sent =
        Sample.checked.sent ∧
      ¬ Sample.checked.AnswersPoll (.ring .primary) (Sample.peer .inLinkStatus).arrived := by
  have hsent := Sample.checked.recv_poll_sent (.ring .primary)
    (show getTlvType (Sample.peer .inLinkStatus).arrived.frameBuf.data = .inLinkStatus by
      decide +kernel)
  refine ⟨Sample.reachable_checked, Sample.polled_checked, by decide +kernel, by decide +kernel,
    hsent, ?_⟩
  rintro ⟨news, hnews, hall⟩
  rw [hsent, List.self_eq_append_left] at hnews
  rcases hall (.ring .primary) (by decide +kernel) (by decide +kernel) with ⟨x, hx, -⟩
  simp [hnews] at hx

end Umrp
