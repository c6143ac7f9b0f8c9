import Umrp.Creation
import Umrp.Wire

/-!
# Senders and handlers agree on the frame formats

The send functions append fields to a buffer, the receive handlers add up header
sizes, and the two sides share no code.  This file runs each send function
against the handler of its frame, for every value of every field and every
receiver: the type is recognised, and each field that the handler reads is the
one that the sender wrote.

One load does not fit.  A client that notes the priority of a test frame copies
the field as it lies in memory, so on a little-endian host it gets the octets
exchanged.

Main results:

- Theorem `SendCall.length_le_max`: no frame is larger than its buffer.
- Theorem `SendCall.reads_of_starts`: every field that a handler reads is the
  sender's.
- Theorem `codec_agrees_iff`: sender and receiver agree except in the load of the
  client.
-/

namespace Umrp

open Octets EventMachine

/-! ## Calls of the send functions -/

/-- The size of the buffer that `mrp_fb_alloc` asks for, `MRP_MAX_FRAME_LENGTH`. -/
def mrpMaxFrameLength : Nat := 200

/-- A call of one of the send functions, with its arguments beside the instance. -/
inductive SendCall
  | ringTest (p : RingPort)
  | ringTopo (p : RingPort) (interval : UInt32)
  | ringLink (p : RingPort) (up : Bool) (interval : UInt32)
  | testMgrNack (p : RingPort) (sa : Mac)
  | testProp (p : RingPort)
  | inTest (p : Port)
  | inTopo (p : Port) (interval : UInt32)
  | inLink (p : Port) (up : Bool) (interval : UInt32)
  | inLinkStatus (p : Port)

namespace SendCall

/-- The effect of the call on the sender. -/
def exec (m : Mrp) : SendCall → Mrp
  | .ringTest p => m.sendRingTest p
  | .ringTopo p interval => m.sendRingTopo p interval
  | .ringLink p up interval => m.ringLinkReq p up interval
  | .testMgrNack p sa => m.sendTestMgrNack p sa
  | .testProp p => m.sendTestProp p
  | .inTest p => m.sendInTest p
  | .inTopo p interval => m.sendInTopo p interval
  | .inLink p up interval => m.sendInLink p up interval
  | .inLinkStatus p => m.sendInLinkStatus p

/-- The port that the call sends on. -/
def port : SendCall → Port
  | .ringTest p | .ringTopo p _ | .ringLink p _ _ | .testMgrNack p _ | .testProp p => .ring p
  | .inTest p | .inTopo p _ | .inLink p _ _ | .inLinkStatus p => p

/-- What the call puts into its frame, beside the settings of the sender. -/
def frame (m : Mrp) : SendCall → Frame
  | .ringTest _ => .ringTest (m.mrmState = .chkRc) m.ringTransitions (m.clock m.sent.length)
  | .ringTopo _ interval => .ringTopo interval
  | .ringLink _ up interval => .ringLink up interval
  | .testMgrNack _ sa => .testMgrNack sa
  | .testProp _ => .testProp m.ringPrio m.ringMac
  | .inTest _ => .inTest (m.mimState = .chkIc) m.inTransitions (m.clock m.sent.length)
  | .inTopo _ interval => .inTopo interval
  | .inLink _ up interval => .inLink up interval
  | .inLinkStatus _ => .inLinkStatus

/-- The interval argument of the call; zero if it has none. -/
def interval : SendCall → UInt32
  | .ringTopo _ interval | .ringLink _ _ interval | .inTopo _ interval | .inLink _ _ interval =>
      interval
  | .ringTest _ | .testMgrNack _ _ | .testProp _ | .inTest _ | .inLinkStatus _ => 0

/-- The frame that the call builds for a port structure, whether or not it leaves. -/
def build (c : SendCall) (m : Mrp) (port : MrpPort) : Sent :=
  m.compose c.port port (c.frame m)

/-- Every send function hands its frame to `mrp_send`. -/
theorem exec_eq (c : SendCall) (m : Mrp) : c.exec m = m.send c.port (c.frame m) := by
  cases c <;> rfl

/-- On a port that is up, the frame that is built is the frame that leaves. -/
theorem exec_sent (c : SendCall) {m : Mrp} {port : MrpPort} (hport : m.port? c.port = some port)
    (hup : port.operstate = ifOperUp) : (c.exec m).sent = c.build m port :: m.sent := by
  rw [exec_eq]
  simp [Mrp.send, hport, hup, build]

end SendCall

/-! ## Sizes -/

/-- The TLV of a frame has at most 28 octets. -/
theorem Sent.length_tlv (s : Sent) : s.tlv.length ≤ 28 := by
  unfold Sent.tlv
  cases s.frame <;>
    simp [fbTlv, fbSubTlv, optionHead, Mac.octets, sizeofOuiHdr, sizeofSubOptHdr]

theorem Sent.length_payload (s : Sent) : s.payload.length = s.tlv.length + 24 := by
  simp [Sent.payload, fbCommon, fbTlv, mrpDomain]
  omega

/-- Version, TLVs and padding fit into the frame buffer. -/
theorem SendCall.length_le_max (c : SendCall) (m : Mrp) (port : MrpPort) :
    ((c.build m port).payload ++ (c.build m port).padding).length ≤ mrpMaxFrameLength := by
  have htlv := (c.build m port).length_tlv
  have hpayload := (c.build m port).length_payload
  rw [List.length_append, mrpMaxFrameLength]
  unfold Sent.padding
  split
  · rw [List.length_replicate]
    omega
  · rw [List.length_nil]
    omega

/-! ## Fields -/

/-- An interval that fits into 16 bits of milliseconds is sent in whole milliseconds. -/
theorem toNat_intervalField {interval : UInt32} (h : interval.toNat < 65536000) :
    (intervalField interval).toNat = interval.toNat / 1000 := by
  unfold intervalField
  split
  next hz =>
    rw [hz]
    rfl
  next =>
    rw [UInt32.toNat_toUInt16, UInt32.toNat_div]
    have hmod : (1000 : UInt32).toNat = 1000 := rfl
    rw [hmod]
    omega

/-- Each field that the handler of the frame reads is what the call of the sender
`m` put there. -/
def SendCall.Reads (c : SendCall) (m : Mrp) (buf : Buf) : Prop :=
  match c with
  | .ringTest _ =>
      RingTestHdr.prio (tlvBody buf) = m.prio ∧ RingTestHdr.sa (tlvBody buf) = m.macaddr
  | .ringTopo _ interval =>
      RingTopoHdr.sa (tlvBody buf) = m.macaddr ∧
        (RingTopoHdr.interval (tlvBody buf)).toNat = interval.toNat / 1000
  -- the handler of a link change frame of the ring looks at nothing but the type
  | .ringLink .. => True
  | .testMgrNack _ sa =>
      subTlv buf 0 = subTlvTestMgrNack ∧
        TestMgrHdr.prio (subTlvBody (subTlv buf)) = m.prio ∧
        TestMgrHdr.sa (subTlvBody (subTlv buf)) = m.macaddr ∧
        TestMgrHdr.otherSa (subTlvBody (subTlv buf)) = sa
  | .testProp _ =>
      subTlv buf 0 = subTlvTestPropagate ∧
        TestMgrHdr.prio (subTlvBody (subTlv buf)) = m.prio ∧
        TestMgrHdr.sa (subTlvBody (subTlv buf)) = m.macaddr ∧
        TestMgrHdr.otherPrio (subTlvBody (subTlv buf)) = m.ringPrio ∧
        TestMgrHdr.otherSa (subTlvBody (subTlv buf)) = m.ringMac
  | .inTest _ => InTestHdr.id (tlvBody buf) = m.inId ∧ InTestHdr.sa (tlvBody buf) = m.macaddr
  | .inTopo _ interval =>
      InTopoHdr.sa (tlvBody buf) = m.macaddr ∧ InTopoHdr.id (tlvBody buf) = m.inId ∧
        (InTopoHdr.interval (tlvBody buf)).toNat = interval.toNat / 1000
  | .inLink .. | .inLinkStatus _ => InLinkHdr.id (tlvBody buf) = m.inId

/-- Every field that a handler reads is the sender's. -/
theorem SendCall.reads_of_starts (c : SendCall) (m : Mrp) (port : MrpPort) {buf : Buf}
    (hinterval : c.interval.toNat < 65536000) (h : buf.Starts (c.build m port).payload) :
    c.Reads m buf := by
  cases c with
  | ringTest p => exact ringTest_of_starts h rfl
  | ringTopo p interval =>
      rcases ringTopo_of_starts h rfl with ⟨hsa, hfield⟩
      refine ⟨hsa, ?_⟩
      rw [hfield]
      exact toNat_intervalField hinterval
  | ringLink p up interval => trivial
  | testMgrNack p sa => exact testMgrNack_of_starts h rfl
  | testProp p => exact ⟨testProp_of_starts h rfl, testPropHdr_of_starts h rfl⟩
  | inTest p => exact inTest_of_starts h rfl
  | inTopo p interval =>
      rcases inTopo_of_starts h rfl with ⟨hsa, hid, hfield⟩
      refine ⟨hsa, hid, ?_⟩
      rw [hfield]
      exact toNat_intervalField hinterval
  | inLink p up interval => exact inLink_of_starts h rfl
  | inLinkStatus p => exact inLinkStatus_of_starts h rfl

/-! ## Sender and receiver -/

namespace Mrp

/-- The receiver is a client that follows a manager and hears a test frame of a
third bridge `sa`: the branch of `mrp_mra_recv_ring_test` that notes the priority. -/
def NotesPrio (mrp : Mrp) (p : Port) (rx : RxFrame) (sa : Mac) : Prop :=
  mrp.admitted p rx = true ∧ mrp.mraSupport = true ∧ mrp.ringRole = .mrc ∧
    sa ≠ mrp.macaddr ∧ sa ≠ mrp.ringMac

/-- A sent frame reaches its handler unchanged, whatever the receiver relays. -/
theorem handlerBuf_starts {s : Sent} {rx : RxFrame} (h : s.ArrivesAs rx) (mrp : Mrp) (p : Port) :
    (mrp.handlerBuf p rx).Starts s.payload := by
  have hsize : 60 ≤ rx.frameBuf.size := by
    rw [h.size]
    exact s.length_bytes
  rw [handlerBuf, mrp.checkAndForward_frameBuf p _ hsize]
  exact h.copy

/-- What a client notes is the field as it lies in memory. -/
theorem ringPrio_of_notesPrio {s : Sent} {rx : RxFrame} (h : s.ArrivesAs rx) {mrp : Mrp} {p : Port}
    {closed : Bool} {transitions : UInt16} {timestamp : UInt32}
    (hf : s.frame = .ringTest closed transitions timestamp) (hnotes : mrp.NotesPrio p rx s.sa) :
    (mrp.recv p rx).ringPrio = swap16 s.prio := by
  rcases hnotes with ⟨hadm, hmra, hrole, hsa, hmac⟩
  have hbuf := handlerBuf_starts h mrp p
  have htype : getTlvType rx.frameBuf.data = .ringTest := by
    rw [getTlvType_of_starts h.data, hf]
    rfl
  have hdel : mrp.delivered p rx = some (.ringTest, mrp.handlerBuf p rx) := by
    rw [delivered_eq, htype, if_pos ⟨hadm, by simp [shouldProcess, hrole, hmra]⟩]
  rw [(recv_of_delivered hdel).2]
  have hread := (ringTest_of_starts hbuf hf).2
  have hraw := ringTest_le16_of_starts hbuf hf
  simp [process, recvRingTest, mraRecvRingTest, hread, hsa, hmac, hmra, hrole, setRingPrio, hraw]

end Mrp

/-- The receiver `m'` understands the frame that the call `c` of the sender `m`
built for `port`. -/
structure SendCall.Agrees (c : SendCall) (m : Mrp) (port : MrpPort) (m' : Mrp) (p : Port)
    (rx : RxFrame) : Prop where
  fits : ((c.build m port).payload ++ (c.build m port).padding).length ≤ mrpMaxFrameLength
  dispatched : getTlvType rx.frameBuf.data = (c.frame m).type
  handled : getTlvType (m'.handlerBuf p rx) = (c.frame m).type
  reads : c.Reads m (m'.handlerBuf p rx)
  noted : ∀ q, c = .ringTest q → m'.NotesPrio p rx m.macaddr → (m'.recv p rx).ringPrio = m.prio

/-- Sender and receiver agree on every frame, with one exception: the priority of a
test frame that a client notes, unless its two octets are equal. -/
theorem codec_agrees_iff (c : SendCall) (m : Mrp) (port : MrpPort)
    (hinterval : c.interval.toNat < 65536000) (m' : Mrp) (p : Port) {rx : RxFrame}
    (h : (c.build m port).ArrivesAs rx) :
    c.Agrees m port m' p rx ↔
      ∀ q, c = .ringTest q → m'.NotesPrio p rx m.macaddr →
        m.prio.toNat / 256 = m.prio.toNat % 256 := by
  have hnoted : ∀ q, c = .ringTest q → m'.NotesPrio p rx m.macaddr →
      (m'.recv p rx).ringPrio = swap16 m.prio := by
    rintro q rfl hnotes
    exact Mrp.ringPrio_of_notesPrio h rfl hnotes
  constructor
  · intro hagrees q hc hnotes
    have hprio := hagrees.noted q hc hnotes
    rw [hnoted q hc hnotes] at hprio
    exact (swap16_eq_self_iff _).mp hprio
  · intro heq
    have hbuf := Mrp.handlerBuf_starts h m' p
    refine ⟨c.length_le_max m port, getTlvType_of_starts h.data, getTlvType_of_starts hbuf,
      c.reads_of_starts m port hinterval hbuf, ?_⟩
    intro q hc hnotes
    rw [hnoted q hc hnotes]
    exact (swap16_eq_self_iff _).mpr (heq q hc hnotes)

namespace Sample

/-- A NACK of bridge 9 for the sample auto-manager. -/
def nackOf9 : Event := .recv (.ring .primary) (frame (mac 9) 0x1000 (.testMgrNack (mac 1)))

/-- The sample auto-manager after the NACK has made it a client. -/
def follower : Mrp := run Mrp.step (mrp ringRoleMra 0) [nackOf9]

/-- A bridge with address 8. -/
def neighbour : Mrp := { mrp ringRoleMra 0 with macaddr := mac 8 }

/-- The frame that a call of the neighbour puts on the wire. -/
def rxOf (c : SendCall) : RxFrame :=
  ⟨(c.build neighbour (neighbour.ringPort .primary)).bytes, fun _ => 0, fun _ => 0⟩

theorem arrivesAs_rxOf (c : SendCall) :
    (c.build neighbour (neighbour.ringPort .primary)).ArrivesAs (rxOf c) :=
  rfl

end Sample

/-- A topology change of the neighbour is understood. -/
theorem codec_agrees_iff_sample :
    (SendCall.ringTopo .primary 60000).Agrees Sample.neighbour
      (Sample.neighbour.ringPort .primary) Sample.follower (.ring .secondary)
      (Sample.rxOf (.ringTopo .primary 60000)) :=
  (codec_agrees_iff _ _ _ (by decide) _ _ (Sample.arrivesAs_rxOf _)).mpr fun _ hq => nomatch hq

/-- A test frame of the neighbour has priority 0x8000.  The client, which follows
bridge 9, notes 0x0080. -/
theorem client_notes_swapped_prio :
    Reachable Sample.env (Sample.args ringRoleMra 0) Sample.follower ∧
      Sample.neighbour.prio = 0x8000 ∧
      (Sample.follower.recv (.ring .primary) (Sample.rxOf (.ringTest .primary))).ringPrio = 0x0080 ∧
      ¬(SendCall.ringTest .primary).Agrees Sample.neighbour (Sample.neighbour.ringPort .primary)
        Sample.follower (.ring .primary) (Sample.rxOf (.ringTest .primary)) := by
  have hprio : (Sample.follower.recv (.ring .primary)
      (Sample.rxOf (.ringTest .primary))).ringPrio = 0x0080 := by
    decide +kernel
  refine ⟨⟨_, [Sample.nackOf9], Sample.created (by decide +kernel), rfl⟩, by decide +kernel,
    hprio, ?_⟩
  intro hagrees
  have hnotes : Sample.follower.NotesPrio (.ring .primary) (Sample.rxOf (.ringTest .primary))
      Sample.neighbour.macaddr := by
    refine ⟨?_, ?_, ?_, ?_, ?_⟩ <;> decide +kernel
  have hsame := hagrees.noted _ rfl hnotes
  rw [hprio] at hsame
  exact absurd hsame (by decide +kernel)

end Umrp
