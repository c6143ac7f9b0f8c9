import Umrp.Model.Types

/-!
# Frames on the wire

The frame formats of `pdu.h`: what each sender of `state_machine.c` puts into
its buffer, octet by octet, and where each receive handler looks for a field.
The two sides are kept apart, as they are in the source: writers append to a
list, readers add up header sizes.

Main results:

- Theorem `Sent.length_bytes`: every frame the code sends has at least 60 octets.
-/

namespace Umrp

open Octets

/-! ## Constants of the headers -/

/-- Size of an Ethernet header. -/
def sizeofEthhdr : Nat := 14

/-- Size of the version field in front of the first TLV. -/
def sizeofVersion : Nat := 2

/-- Size of `struct br_mrp_tlv_hdr`. -/
def sizeofTlvHdr : Nat := 2

/-- Size of `struct br_mrp_oui_hdr`. -/
def sizeofOuiHdr : Nat := 3

/-- Size of `struct br_mrp_sub_opt_hdr`. -/
def sizeofSubOptHdr : Nat := 3

/-- Size of `struct br_mrp_sub_tlv_hdr`. -/
def sizeofSubTlvHdr : Nat := 2

/-- Destination of MRP_Test and option frames. -/
def mrpTestDmac : Mac := ⟨0x1, 0x15, 0x4e, 0x0, 0x0, 0x1⟩

/-- Destination of ring control frames. -/
def mrpControlDmac : Mac := ⟨0x1, 0x15, 0x4e, 0x0, 0x0, 0x2⟩

/-- Destination of MRP_InTest frames. -/
def mrpItestDmac : Mac := ⟨0x1, 0x15, 0x4e, 0x0, 0x0, 0x3⟩

/-- Destination of interconnection control frames. -/
def mrpIcontrolDmac : Mac := ⟨0x1, 0x15, 0x4e, 0x0, 0x0, 0x4⟩

/-- The EtherType `ETH_P_MRP`. -/
def ethPMrp : UInt16 := 0x88E3

/-- The domain UUID: `mrp_create` fills it with ones and nothing writes it later. -/
def mrpDomain : List UInt8 := List.replicate 16 0xFF

/-! ## Frames and their senders -/

/-- What the arguments of a send function say, beyond the settings of the
instance.  Intervals are the arguments in microseconds, before encoding. -/
inductive Frame
  | ringTest (closed : Bool) (transitions : UInt16) (timestamp : UInt32)
  | ringTopo (interval : UInt32)
  | ringLink (up : Bool) (interval : UInt32)
  | testMgrNack (otherSa : Mac)
  | testProp (otherPrio : UInt16) (otherSa : Mac)
  | inTest (closed : Bool) (transitions : UInt16) (timestamp : UInt32)
  | inTopo (interval : UInt32)
  | inLink (up : Bool) (interval : UInt32)
  | inLinkStatus
deriving DecidableEq

/-- Where the ports of the sender stood when a frame left.  The code does not
put this on the wire; it is recorded for the properties about sending. -/
structure PortView where
  pPort : RingPort
  sPort : RingPort
  pState : PortState
  sState : PortState
  iState : Option PortState
deriving DecidableEq

/-- One frame handed to `packet_send` by a send function. -/
structure Sent where
  port : Port
  src : Mac
  prio : UInt16
  sa : Mac
  inId : UInt16
  blocked : UInt32
  seq : UInt16
  view : PortView
  frame : Frame
deriving DecidableEq

/-! ## Layout -/

/-- The source's `mrp_fb_tlv`. -/
def fbTlv (type : TlvType) (length : UInt8) : List UInt8 :=
  [type.toUInt8, length]

/-- The source's `mrp_fb_sub_tlv`. -/
def fbSubTlv (type length : UInt8) : List UInt8 :=
  [type, length]

/-- The source's `mrp_fb_common`, without the counting of `mrp_next_seq`. -/
def fbCommon (seq : UInt16) : List UInt8 :=
  fbTlv .common 18 ++ be16 seq ++ mrpDomain

/-- An interval argument as it is written into a frame, in milliseconds. -/
def intervalField (interval : UInt32) : UInt16 :=
  if interval = 0 then 0 else (interval / 1000).toUInt16

/-- The OUI and the sub-option header of an option frame, all zero. -/
def optionHead : List UInt8 :=
  List.replicate sizeofOuiHdr 0 ++ List.replicate sizeofSubOptHdr 0

/-- The frame's own TLV, as the send function for it lays it out. -/
def Sent.tlv (s : Sent) : List UInt8 :=
  match s.frame with
  | .ringTest closed transitions timestamp =>
      fbTlv .ringTest 18 ++ be16 s.prio ++ s.sa.octets ++ be16 s.port.role ++
        be16 (if closed then 1 else 0) ++ be16 transitions ++ be32 timestamp
  | .ringTopo interval =>
      fbTlv .ringTopo 10 ++ be16 s.prio ++ s.sa.octets ++ be16 (intervalField interval)
  | .ringLink up interval =>
      fbTlv (if up then .ringLinkUp else .ringLinkDown) 12 ++ s.sa.octets ++
        be16 s.port.role ++ be16 (intervalField interval) ++ be16 s.blocked.toUInt16
  | .testMgrNack otherSa =>
      fbTlv .option 24 ++ optionHead ++ fbSubTlv subTlvTestMgrNack 18 ++
        be16 s.prio ++ s.sa.octets ++ be16 0 ++ otherSa.octets ++ [0, 0]
  | .testProp otherPrio otherSa =>
      fbTlv .option 24 ++ optionHead ++ fbSubTlv subTlvTestPropagate 18 ++
        be16 s.prio ++ s.sa.octets ++ be16 otherPrio ++ otherSa.octets
  | .inTest closed transitions timestamp =>
      fbTlv .inTest 18 ++ be16 s.inId ++ s.sa.octets ++ be16 s.port.role ++
        be16 (if closed then 1 else 0) ++ be16 transitions ++ be32 timestamp
  | .inTopo interval =>
      fbTlv .inTopo 10 ++ s.sa.octets ++ be16 s.inId ++ be16 (intervalField interval)
  | .inLink up interval =>
      fbTlv (if up then .inLinkUp else .inLinkDown) 12 ++ s.sa.octets ++
        be16 s.port.role ++ be16 s.inId ++ be16 (intervalField interval)
  | .inLinkStatus =>
      fbTlv .inLinkStatus 10 ++ s.sa.octets ++ be16 s.port.role ++ be16 s.inId

/-- The destination address a send function gives to `mrp_eth_alloc`. -/
def Frame.dmac : Frame → Mac
  | .ringTest .. | .testMgrNack .. | .testProp .. => mrpTestDmac
  | .ringTopo .. | .ringLink .. => mrpControlDmac
  | .inTest .. => mrpItestDmac
  | .inTopo .. | .inLink .. | .inLinkStatus => mrpIcontrolDmac

/-- The frame buffer: the version, the frame's own TLV, COMMON and END. -/
def Sent.payload (s : Sent) : List UInt8 :=
  be16 1 ++ s.tlv ++ fbCommon s.seq ++ fbTlv .tlvEnd 0

/-- The Ethernet header of `mrp_eth_alloc`. -/
def Sent.eth (s : Sent) : List UInt8 :=
  s.frame.dmac.octets ++ s.src.octets ++ be16 ethPMrp

/-- Zeros that `mrp_send` takes from the cleared frame buffer to reach 60 octets. -/
def Sent.padding (s : Sent) : List UInt8 :=
  if sizeofEthhdr + s.payload.length < 60 then
    List.replicate (60 - s.payload.length - sizeofEthhdr) 0
  else []

/-- The octets that leave the interface. -/
def Sent.bytes (s : Sent) : List UInt8 :=
  s.eth ++ s.payload ++ s.padding

/-- Every frame the code sends has at least 60 octets. -/
theorem Sent.length_bytes (s : Sent) : 60 ≤ s.bytes.length := by
  have heth : s.eth.length = 14 := by simp [Sent.eth, Mac.octets]
  unfold Sent.bytes Sent.padding
  split
  next h =>
    simp only [sizeofEthhdr] at h ⊢
    simp only [List.length_append, heth, List.length_replicate]
    omega
  next h =>
    simp only [sizeofEthhdr] at h
    simp only [List.length_append, heth, List.length_nil]
    omega

/-! ## Readers

A handler casts an address inside the frame to a header structure.  Each reader
below takes the buffer at that address and the offset of one field.
-/

/-- Read an Ethernet address. -/
def macAt (b : Buf) (off : Nat) : Mac :=
  ⟨b off, b (off + 1), b (off + 2), b (off + 3), b (off + 4), b (off + 5)⟩

/-- The source's `mrp_get_tlv_hdr`, followed by reading the type. -/
def getTlvType (buf : Buf) : TlvType :=
  TlvType.ofUInt8 (buf sizeofVersion)

/-- Skip the version and the TLV header. -/
def tlvBody (buf : Buf) : Buf :=
  buf.drop (sizeofVersion + sizeofTlvHdr)

/-- Skip everything in front of the sub-TLV of an option frame. -/
def subTlv (buf : Buf) : Buf :=
  buf.drop (sizeofVersion + sizeofTlvHdr + sizeofOuiHdr + sizeofSubOptHdr)

/-- Skip the header of a sub-TLV. -/
def subTlvBody (buf : Buf) : Buf :=
  buf.drop sizeofSubTlvHdr

namespace RingTestHdr

/-- Priority of the sender of an MRP_Test frame. -/
def prio (hdr : Buf) : UInt16 := hdr.be16 0

/-- Address of the sender of an MRP_Test frame. -/
def sa (hdr : Buf) : Mac := macAt hdr 2

end RingTestHdr

namespace RingTopoHdr

/-- Address of the sender of an MRP_TopologyChange frame. -/
def sa (hdr : Buf) : Mac := macAt hdr 2

/-- Announced interval of an MRP_TopologyChange frame, in milliseconds. -/
def interval (hdr : Buf) : UInt16 := hdr.be16 8

end RingTopoHdr

/-! The NACK and the propagate header have the same four fields. -/

namespace TestMgrHdr

/-- Priority of the sender of an option frame. -/
def prio (hdr : Buf) : UInt16 := hdr.be16 0

/-- Address of the sender of an option frame. -/
def sa (hdr : Buf) : Mac := macAt hdr 2

/-- Priority of the node an option frame names. -/
def otherPrio (hdr : Buf) : UInt16 := hdr.be16 8

/-- Address of the node an option frame names. -/
def otherSa (hdr : Buf) : Mac := macAt hdr 10

end TestMgrHdr

namespace InTestHdr

/-- Interconnection ID of an MRP_InTest frame. -/
def id (hdr : Buf) : UInt16 := hdr.be16 0

/-- Address of the sender of an MRP_InTest frame. -/
def sa (hdr : Buf) : Mac := macAt hdr 2

end InTestHdr

namespace InTopoHdr

/-- Address of the sender of an MRP_InTopologyChange frame. -/
def sa (hdr : Buf) : Mac := macAt hdr 0

/-- Interconnection ID of an MRP_InTopologyChange frame. -/
def id (hdr : Buf) : UInt16 := hdr.be16 6

/-- Announced interval of an MRP_InTopologyChange frame, in milliseconds. -/
def interval (hdr : Buf) : UInt16 := hdr.be16 8

end InTopoHdr

/-! The link change and the link status header have the ID at the same offset. -/

namespace InLinkHdr

/-- Interconnection ID of an MRP_InLinkChange or MRP_InLinkStatusPoll frame. -/
def id (hdr : Buf) : UInt16 := hdr.be16 8

end InLinkHdr

end Umrp
