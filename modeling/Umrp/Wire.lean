import Umrp.Model.Step

/-!
# Reading back what was sent

A frame that some instance has sent and that arrives with its octets unchanged
is read by the handlers as what it was built from: its type, priority, addresses.
The octets behind the frame, which a handler could also look at, do not matter.

Main results:

- Theorem `Mrp.delivered_of_sent`: a sent frame that reaches its handler has kept
  its type and its contents.
- Theorems `ringTest_of_starts` and `testMgrNack_of_starts`: what a handler reads
  out of a test frame and out of a NACK.
-/

namespace Umrp

open Octets

/-- The TLV type of a frame. -/
def Frame.type : Frame → TlvType
  | .ringTest .. => .ringTest
  | .ringTopo .. => .ringTopo
  | .ringLink up _ => if up then .ringLinkUp else .ringLinkDown
  | .testMgrNack .. | .testProp .. => .option
  | .inTest .. => .inTest
  | .inTopo .. => .inTopo
  | .inLink up _ => if up then .inLinkUp else .inLinkDown
  | .inLinkStatus => .inLinkStatus

/-- Decoding an assigned type inverts encoding it. -/
theorem TlvType.ofUInt8_toUInt8 (frame : Frame) :
    TlvType.ofUInt8 frame.type.toUInt8 = frame.type := by
  cases frame with
  | ringLink up _ | inLink up _ => cases up <;> rfl
  | _ => rfl

/-- A frame arrives as it was sent: same octets, anything behind them. -/
def Sent.ArrivesAs (s : Sent) (rx : RxFrame) : Prop := rx.bytes = s.bytes

/-! ## Octets -/

theorem Sent.length_eth (s : Sent) : s.eth.length = sizeofEthhdr := by
  simp [Sent.eth, Mac.octets, sizeofEthhdr]

theorem Sent.payload_le_bytes (s : Sent) : sizeofEthhdr + s.payload.length ≤ s.bytes.length := by
  simp only [Sent.bytes, List.length_append, s.length_eth]
  omega

/-- Every TLV begins with its type. -/
theorem Sent.tlv_head (s : Sent) : ∃ l, s.tlv = s.frame.type.toUInt8 :: l := by
  unfold Sent.tlv
  cases h : s.frame with
  | ringLink up _ | inLink up _ => cases up <;> exact ⟨_, rfl⟩
  | _ => exact ⟨_, rfl⟩

section Arrival

variable {s : Sent} {rx : RxFrame}

/-- The receive buffer of a frame that arrives as it was sent. -/
theorem Sent.ArrivesAs.data (h : s.ArrivesAs rx) : rx.frameBuf.data.Starts s.payload := by
  have hmem : rx.frameBuf.mem.Starts (s.eth ++ (s.payload ++ s.padding)) := by
    have hbytes : s.eth ++ (s.payload ++ s.padding) = rx.bytes := by
      rw [h]
      simp [Sent.bytes]
    rw [hbytes]
    exact Buf.starts_ofList rx.bytes rx.stale
  have hdata := hmem.of_append.2.of_append.1
  rw [s.length_eth] at hdata
  exact hdata

theorem Sent.ArrivesAs.size (h : s.ArrivesAs rx) : rx.frameBuf.size = s.bytes.length := by
  rw [← h]
  rfl

/-- The buffer that the handler reads. -/
theorem Sent.ArrivesAs.copy (h : s.ArrivesAs rx) :
    (rx.frameBuf.copy rx.nstale).Starts s.payload := by
  intro i hi
  have hsize : i < rx.frameBuf.size - sizeofEthhdr := by
    have := s.payload_le_bytes
    rw [h.size]
    omega
  rw [FrameBuf.copy, if_pos hsize]
  exact h.data i hi

end Arrival

/-! ## Headers -/

theorem macAt_of_starts {b : Buf} {mac : Mac} (h : b.Starts mac.octets) : macAt b 0 = mac := by
  have h0 := h 0 (by simp [Mac.octets])
  have h1 := h 1 (by simp [Mac.octets])
  have h2 := h 2 (by simp [Mac.octets])
  have h3 := h 3 (by simp [Mac.octets])
  have h4 := h 4 (by simp [Mac.octets])
  have h5 := h 5 (by simp [Mac.octets])
  simp only [macAt, h0, h1, h2, h3, h4, h5, Nat.zero_add]
  rfl

section Readers

variable {buf : Buf} {s : Sent}

/-- The type of a frame is read back. -/
theorem getTlvType_of_starts (h : buf.Starts s.payload) : getTlvType buf = s.frame.type := by
  rcases s.tlv_head with ⟨l, hl⟩
  have htype : buf sizeofVersion = s.frame.type.toUInt8 := by
    rw [h sizeofVersion (by simp [Sent.payload, hl, sizeofVersion])]
    simp [Sent.payload, hl, sizeofVersion, Octets.be16]
  rw [getTlvType, htype, TlvType.ofUInt8_toUInt8]

/-- What a handler reads out of a test frame. -/
theorem ringTest_of_starts (h : buf.Starts s.payload) {closed : Bool} {transitions : UInt16}
    {timestamp : UInt32} (hf : s.frame = .ringTest closed transitions timestamp) :
    RingTestHdr.prio (tlvBody buf) = s.prio ∧ RingTestHdr.sa (tlvBody buf) = s.sa := by
  rw [Sent.payload, Sent.tlv, hf] at h
  simp only [List.append_assoc] at h
  have hbody := h.of_append.2.of_append.2
  exact ⟨hbody.of_append.1.be16, macAt_of_starts hbody.of_append.2.of_append.1⟩

/-- What a handler reads out of a NACK. -/
theorem testMgrNack_of_starts (h : buf.Starts s.payload) {otherSa : Mac}
    (hf : s.frame = .testMgrNack otherSa) :
    subTlv buf 0 = subTlvTestMgrNack ∧
      TestMgrHdr.prio (subTlvBody (subTlv buf)) = s.prio ∧
      TestMgrHdr.sa (subTlvBody (subTlv buf)) = s.sa ∧
      TestMgrHdr.otherSa (subTlvBody (subTlv buf)) = otherSa := by
  rw [Sent.payload, Sent.tlv, hf] at h
  simp only [List.append_assoc] at h
  have hsub := h.of_append.2.of_append.2.of_append.2
  have hbody := hsub.of_append.2
  have hsa := hbody.of_append.2
  have hother := hsa.of_append.2.of_append.2
  exact ⟨hsub.of_append.1 0 (by simp [fbSubTlv]), hbody.of_append.1.be16,
    macAt_of_starts hsa.of_append.1, macAt_of_starts hother.of_append.1⟩

/-- A propagate frame is no NACK. -/
theorem testProp_of_starts (h : buf.Starts s.payload) {otherPrio : UInt16} {otherSa : Mac}
    (hf : s.frame = .testProp otherPrio otherSa) : subTlv buf 0 = subTlvTestPropagate := by
  rw [Sent.payload, Sent.tlv, hf] at h
  simp only [List.append_assoc] at h
  have hsub := h.of_append.2.of_append.2.of_append.2
  exact hsub.of_append.1 0 (by simp [fbSubTlv])

/-- A client's raw load of the priority of a test frame. -/
theorem ringTest_le16_of_starts (h : buf.Starts s.payload) {closed : Bool} {transitions : UInt16}
    {timestamp : UInt32} (hf : s.frame = .ringTest closed transitions timestamp) :
    (tlvBody buf).le16 0 = swap16 s.prio := by
  rw [Sent.payload, Sent.tlv, hf] at h
  simp only [List.append_assoc] at h
  have hbody := h.of_append.2.of_append.2
  exact hbody.of_append.1.le16

/-- What a handler reads out of a topology change frame. -/
theorem ringTopo_of_starts (h : buf.Starts s.payload) {interval : UInt32}
    (hf : s.frame = .ringTopo interval) :
    RingTopoHdr.sa (tlvBody buf) = s.sa ∧
      RingTopoHdr.interval (tlvBody buf) = intervalField interval := by
  rw [Sent.payload, Sent.tlv, hf] at h
  simp only [List.append_assoc] at h
  have hsa := h.of_append.2.of_append.2.of_append.2
  exact ⟨macAt_of_starts hsa.of_append.1, hsa.of_append.2.of_append.1.be16⟩

/-- What a handler reads out of a propagate frame. -/
theorem testPropHdr_of_starts (h : buf.Starts s.payload) {otherPrio : UInt16} {otherSa : Mac}
    (hf : s.frame = .testProp otherPrio otherSa) :
    TestMgrHdr.prio (subTlvBody (subTlv buf)) = s.prio ∧
      TestMgrHdr.sa (subTlvBody (subTlv buf)) = s.sa ∧
      TestMgrHdr.otherPrio (subTlvBody (subTlv buf)) = otherPrio ∧
      TestMgrHdr.otherSa (subTlvBody (subTlv buf)) = otherSa := by
  rw [Sent.payload, Sent.tlv, hf] at h
  simp only [List.append_assoc] at h
  have hbody := h.of_append.2.of_append.2.of_append.2.of_append.2
  have hsa := hbody.of_append.2
  have hother := hsa.of_append.2
  exact ⟨hbody.of_append.1.be16, macAt_of_starts hsa.of_append.1, hother.of_append.1.be16,
    macAt_of_starts hother.of_append.2.of_append.1⟩

/-- What a handler reads out of a test frame of the interconnection. -/
theorem inTest_of_starts (h : buf.Starts s.payload) {closed : Bool} {transitions : UInt16}
    {timestamp : UInt32} (hf : s.frame = .inTest closed transitions timestamp) :
    InTestHdr.id (tlvBody buf) = s.inId ∧ InTestHdr.sa (tlvBody buf) = s.sa := by
  rw [Sent.payload, Sent.tlv, hf] at h
  simp only [List.append_assoc] at h
  have hbody := h.of_append.2.of_append.2
  exact ⟨hbody.of_append.1.be16, macAt_of_starts hbody.of_append.2.of_append.1⟩

/-- What a handler reads out of a topology change frame of the interconnection. -/
theorem inTopo_of_starts (h : buf.Starts s.payload) {interval : UInt32}
    (hf : s.frame = .inTopo interval) :
    InTopoHdr.sa (tlvBody buf) = s.sa ∧ InTopoHdr.id (tlvBody buf) = s.inId ∧
      InTopoHdr.interval (tlvBody buf) = intervalField interval := by
  rw [Sent.payload, Sent.tlv, hf] at h
  simp only [List.append_assoc] at h
  have hbody := h.of_append.2.of_append.2
  have hsa := macAt_of_starts hbody.of_append.1
  have hid := hbody.of_append.2
  exact ⟨hsa, hid.of_append.1.be16, hid.of_append.2.of_append.1.be16⟩

/-- What a handler reads out of a link change frame of the interconnection. -/
theorem inLink_of_starts (h : buf.Starts s.payload) {up : Bool} {interval : UInt32}
    (hf : s.frame = .inLink up interval) : InLinkHdr.id (tlvBody buf) = s.inId := by
  rw [Sent.payload, Sent.tlv, hf] at h
  simp only [List.append_assoc] at h
  have hbody := h.of_append.2.of_append.2
  exact hbody.of_append.2.of_append.2.of_append.1.be16

/-- What a handler reads out of a link status poll. -/
theorem inLinkStatus_of_starts (h : buf.Starts s.payload) (hf : s.frame = .inLinkStatus) :
    InLinkHdr.id (tlvBody buf) = s.inId := by
  rw [Sent.payload, Sent.tlv, hf] at h
  simp only [List.append_assoc] at h
  have hbody := h.of_append.2.of_append.2
  exact hbody.of_append.2.of_append.2.of_append.1.be16

end Readers

/-! ## Delivery -/

namespace Mrp

/-- Relaying does not change a frame that is long enough. -/
theorem checkAndForward_frameBuf (mrp : Mrp) (p : Port) {fb : FrameBuf} (type : TlvType)
    (h : 60 ≤ fb.size) : (mrp.checkAndForward p fb type).2 = fb := by
  have hpad : fb.pad = fb := by
    rw [FrameBuf.pad, if_neg (by omega)]
  have hforward : ∀ (go : Bool) (q : Port) (m : Mrp), (forwardIf go q (m, fb)).2 = fb := by
    intro go q m
    simp only [forwardIf, forward, hpad]
    repeat' split
    all_goals rfl
  have hpair : ∀ (go : Bool) (q : Port) (x : Mrp × FrameBuf), x.2 = fb →
      (forwardIf go q x).2 = fb := by
    rintro go q ⟨m, _⟩ rfl
    exact hforward go q m
  exact hpair _ _ _ (hpair _ _ _ (hpair _ _ _ rfl))

section Delivery

variable {mrp : Mrp} {p : Port} {s : Sent} {rx : RxFrame}

/-- A sent frame passes the drop filter, and reaches its handler, according to its type. -/
theorem delivered_arrived (h : s.ArrivesAs rx) {port : MrpPort} (hport : mrp.port? p = some port)
    (hdrop : shouldDrop p port.state s.frame.type = false)
    (hproc : mrp.shouldProcess s.frame.type = true) :
    mrp.delivered p rx = some (s.frame.type, rx.frameBuf.copy rx.nstale) := by
  have hsize : 60 ≤ rx.frameBuf.size := by
    rw [h.size]
    exact s.length_bytes
  simp only [delivered, hport, getTlvType_of_starts h.data, hdrop, hproc,
    mrp.checkAndForward_frameBuf p _ hsize]
  rfl

/-- A sent frame that reaches its handler has kept its type and its contents. -/
theorem delivered_of_sent (h : s.ArrivesAs rx) {type : TlvType} {buf : Buf}
    (hdel : mrp.delivered p rx = some (type, buf)) :
    type = s.frame.type ∧ buf.Starts s.payload := by
  have hsize : 60 ≤ rx.frameBuf.size := by
    rw [h.size]
    exact s.length_bytes
  simp only [delivered, getTlvType_of_starts h.data, mrp.checkAndForward_frameBuf p _ hsize] at hdel
  repeat' split at hdel
  all_goals cases hdel
  exact ⟨rfl, h.copy⟩

end Delivery

end Mrp

end Umrp
