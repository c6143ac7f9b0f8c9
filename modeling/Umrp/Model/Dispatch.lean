import Umrp.Model.Receive

/-!
# Drop, relay, process

What happens to a received frame between the socket and its handler: the drop
filter, the relay decision, the process filter and the dispatch.  The frame
stays in the buffer it was received into; the handler works on a second buffer
that only the announced number of octets is copied to.  What the two buffers
hold behind those octets is left over from earlier frames and is arbitrary.
-/

namespace Umrp

open Octets

/-! ## Buffers -/

/-- A received frame together with the left-over contents of the receive buffer
and of the buffer that the handlers read. -/
structure RxFrame where
  bytes : List UInt8
  stale : Buf
  nstale : Buf

/-- The source's `struct frame_buf` on the receive path: the memory from
`start` on and the size. -/
structure FrameBuf where
  mem : Buf
  size : Nat

/-- The frame buffer that `mrp_recv` sets up. -/
def RxFrame.frameBuf (rx : RxFrame) : FrameBuf :=
  ⟨Buf.ofList rx.bytes rx.stale, rx.bytes.length⟩

/-- The memory behind the Ethernet header, `fb->data`. -/
def FrameBuf.data (fb : FrameBuf) : Buf :=
  fb.mem.drop sizeofEthhdr

/-- The first `size` octets. -/
def FrameBuf.octets (fb : FrameBuf) : List UInt8 :=
  (List.range fb.size).map fb.mem

/-- The effect of `mrp_forward` on the size. -/
def FrameBuf.pad (fb : FrameBuf) : FrameBuf :=
  if fb.size < 60 then { fb with size := 60 } else fb

/-- The copy of the frame that a handler reads, `nbuf`. -/
def FrameBuf.copy (fb : FrameBuf) (nstale : Buf) : Buf :=
  fun i => if i < fb.size - sizeofEthhdr then fb.data i else nstale i

/-! ## Frame classes -/

/-- The source's `mrp_is_ring_frame`. -/
def TlvType.isRingFrame (type : TlvType) : Bool :=
  type = .ringTest || type = .ringTopo || type = .ringLinkDown || type = .ringLinkUp ||
    type = .option

/-- The source's `mrp_is_in_frame`. -/
def TlvType.isInFrame (type : TlvType) : Bool :=
  type = .inTest || type = .inTopo || type = .inLinkDown || type = .inLinkUp ||
    type = .inLinkStatus

/-- The source's `mrp_is_ring_port`. -/
def Port.isRingPort : Port → Bool
  | .ring _ => true
  | .inter => false

/-- The source's `mrp_is_in_port`. -/
def Port.isInPort : Port → Bool
  | .ring _ => false
  | .inter => true

/-! ## Drop filter -/

/-- The source's `mrp_should_drop`, for a port that belongs to an instance. -/
def shouldDrop (p : Port) (state : PortState) (type : TlvType) : Bool :=
  if state = .disabled then true
  else if p.isRingPort = true ∧ state = .blocked ∧
      type ≠ .ringTopo ∧ type ≠ .ringTest ∧ type ≠ .ringLinkUp ∧ type ≠ .ringLinkDown ∧
      type ≠ .inTopo ∧ type ≠ .inLinkUp ∧ type ≠ .inLinkDown ∧ type ≠ .option then true
  else if p.isInPort = true ∧ state = .blocked ∧
      type ≠ .inTest ∧ type ≠ .inLinkUp ∧ type ≠ .inLinkDown ∧ type ≠ .inTopo then true
  else false

/-! ## Relay decision -/

/-- The three pointers of `mrp_check_and_forward`: whether the frame goes to the
primary, the secondary and the interconnection port. -/
structure Targets where
  p : Bool
  s : Bool
  i : Bool
deriving DecidableEq

/-- A frame that is not relayed. -/
def Targets.none : Targets := ⟨false, false, false⟩

/-- Drop both ring ports from the targets. -/
def Targets.noRing (t : Targets) : Targets := { t with p := false, s := false }

/-- Drop the interconnection port from the targets. -/
def Targets.noInter (t : Targets) : Targets := { t with i := false }

namespace Mrp

/-- Possible ways out according to the receiving port. -/
def ingressTargets (mrp : Mrp) (p : Port) : Targets :=
  if p = .ring mrp.pPort then ⟨false, true, mrp.iPort.isSome⟩
  else if p = .ring mrp.sPort then ⟨true, false, mrp.iPort.isSome⟩
  else if p = .inter then ⟨true, true, false⟩
  else .none

/-- The part of `mrp_check_and_forward` for ring frames. -/
def ringTargets (mrp : Mrp) (p : Port) (type : TlvType) : Targets :=
  if p = .inter then .none
  else
    match mrp.ringRole with
    | .mrm => .none
    | .mrc =>
        if type = .option ∧ mrp.mraSupport = false then .none
        else (mrp.ingressTargets p).noInter
    | .disabled | .mra => (mrp.ingressTargets p).noInter

/-- The first switch of `mrp_check_and_forward` for interconnection frames. -/
def inTargetsByRing (mrp : Mrp) (p : Port) (hdr : Buf) : Targets :=
  let t := mrp.ingressTargets p
  match mrp.ringRole with
  | .mrm =>
      if (mrp.pState ≠ .forwarding ∨ mrp.sState ≠ .forwarding) ∧ p.isRingPort = true then t.noRing
      else t
  | .mrc =>
      if mrp.inRole ≠ .disabled ∧ mrp.inId = InTestHdr.id hdr ∧ p.isRingPort = true then t.noRing
      else t
  | .disabled | .mra => t

/-- The part of `mrp_check_and_forward` for interconnection frames.  Every type
is read through the header of MRP_InTest. -/
def inTargets (mrp : Mrp) (p : Port) (hdr : Buf) (type : TlvType) : Targets :=
  let t := mrp.inTargetsByRing p hdr
  match mrp.inRole with
  | .mim =>
      if type = .inTest then
        if etherAddrEqual (InTestHdr.sa hdr) mrp.macaddr then .none
        else if p.isInPort then .none
        else t.noInter
      else if p.isInPort then .none
      else t.noInter
  | .mic =>
      if type = .inTest then t
      else if (type = .inLinkUp ∨ type = .inLinkDown) ∧ p.isRingPort = true then t
      else if type = .inLinkStatus ∧ p.isRingPort = true then t.noRing
      else if type = .inTopo then t.noInter
      else .none
  | .disabled => t

/-- Where `mrp_check_and_forward` sends a frame.  A type that is neither a ring
nor an interconnection frame goes out on every other port. -/
def targets (mrp : Mrp) (p : Port) (data : Buf) (type : TlvType) : Targets :=
  if type.isRingFrame then mrp.ringTargets p type
  else if type.isInFrame then mrp.inTargets p (tlvBody data) type
  else mrp.ingressTargets p

/-- The source's `mrp_forward`: the size is raised to 60 even if nothing is sent. -/
def forward (mrp : Mrp) (p : Port) (fb : FrameBuf) : Mrp × FrameBuf :=
  let fb := fb.pad
  match mrp.port? p with
  | none => (mrp.call .nullDeref, fb)
  | some port =>
      if port.operstate = ifOperUp then
        ({ mrp with relayed := ⟨p, fb.octets⟩ :: mrp.relayed }, fb)
      else (mrp, fb)

/-- Relay to a port if its pointer is set. -/
def forwardIf (go : Bool) (p : Port) (x : Mrp × FrameBuf) : Mrp × FrameBuf :=
  if go then x.1.forward p x.2 else x

/-- The source's `mrp_check_and_forward`. -/
def checkAndForward (mrp : Mrp) (p : Port) (fb : FrameBuf) (type : TlvType) : Mrp × FrameBuf :=
  let t := mrp.targets p fb.data type
  forwardIf t.i .inter
    (forwardIf t.s (.ring mrp.sPort)
      (forwardIf t.p (.ring mrp.pPort) (mrp, fb)))

/-! ## Process filter and dispatch -/

/-- The source's `mrp_should_process`.  The option case has no `break`: without
auto-manager support it goes on to the test for MRP_InTest. -/
def shouldProcess (mrp : Mrp) (type : TlvType) : Bool :=
  match type with
  | .ringTest =>
      mrp.ringRole = .mrm || (mrp.ringRole = .mrc && mrp.mraSupport)
  | .ringLinkDown | .ringLinkUp => mrp.ringRole = .mrm
  | .ringTopo =>
      mrp.ringRole = .mrc || (mrp.ringRole = .mrm && mrp.mraSupport)
  | .option => mrp.mraSupport || mrp.inRole = .mim
  | .inTest => mrp.inRole = .mim
  | .inTopo => mrp.inRole = .mic || mrp.inRole = .mim || mrp.ringRole = .mrm
  | .inLinkUp | .inLinkDown => mrp.inRole = .mim
  | .inLinkStatus | .tlvEnd | .common | .unknown _ => false

/-- The source's `mrp_process`. -/
def process (mrp : Mrp) (buf : Buf) (type : TlvType) : Mrp :=
  match type with
  | .ringTest => mrp.recvRingTest buf
  | .ringTopo => mrp.recvRingTopo buf
  | .ringLinkDown | .ringLinkUp => mrp.recvRingLink buf
  | .option => mrp.recvOption buf
  | .inTest => mrp.recvInTest buf
  | .inTopo => mrp.recvInTopo buf
  | .inLinkDown | .inLinkUp => mrp.recvInLink buf
  | .inLinkStatus => mrp.recvInLinkStatus buf
  | .tlvEnd | .common | .unknown _ => mrp

/-- The source's `mrp_process_frame`. -/
def processFrame (mrp : Mrp) (p : Port) (fb : FrameBuf) (nstale : Buf) (type : TlvType) : Mrp :=
  let (mrp, fb) := mrp.checkAndForward p fb type
  if mrp.shouldProcess type then mrp.process (fb.copy nstale) type else mrp

/-- The source's `mrp_recv`, once `mrp_get_port` has found the port. -/
def recv (mrp : Mrp) (p : Port) (rx : RxFrame) : Mrp :=
  match mrp.port? p with
  | none => mrp
  | some port =>
      let fb := rx.frameBuf
      let type := getTlvType fb.data
      if shouldDrop p port.state type then mrp else mrp.processFrame p fb rx.nstale type

end Mrp

end Umrp
