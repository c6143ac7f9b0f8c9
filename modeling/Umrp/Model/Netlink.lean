import Umrp.Lib.Attributes
import Umrp.Model.System

/-!
# Netlink messages

The functions of `libnetlink.c` that the server uses to put a message together and to take
one apart, the requests of the interface driver `ifdriver_netlink.c`, and the way of a
notification from the octets of a datagram to the listener of `server_cmds.c`.

A message is raw memory.  The fields of its two headers are accessed by name and are kept
as fields; attributes are reached by counting octets from the start of the message, the
headers included.  Lengths that the code checks against the size of a buffer are natural
numbers.  The host is little-endian.
-/

namespace Umrp

open Octets Attributes

/-! ## Numbers of the protocol -/

/-- Size of `struct nlmsghdr`. -/
def sizeofNlmsghdr : Nat := 16

/-- Size of `struct nlmsghdr` and `struct ifinfomsg`, where the attributes of a link
message begin. -/
def linkHdrLen : Nat := 32

/-- The flag `NLA_F_NESTED` of an attribute type. -/
def nlaFNested : UInt16 := 0x8000

/-- The message type `RTM_SETLINK`. -/
def rtmSetlink : UInt16 := 19

/-- The flag `NLM_F_REQUEST`. -/
def nlmFRequest : UInt16 := 1

/-- The family `PF_BRIDGE`, also `AF_BRIDGE`. -/
def pfBridge : UInt8 := 7

/-- The number of a port state. -/
def PortState.number : PortState → UInt32
  | .disabled => 0
  | .blocked => 1
  | .forwarding => 2
  | .notConnected => 3

/-- The number of a ring role. -/
def RingRole.number : RingRole → UInt32
  | .disabled => 0
  | .mrc => ringRoleMrc
  | .mrm => ringRoleMrm
  | .mra => ringRoleMra

/-- The number of an interconnection role. -/
def InRole.number : InRole → UInt32
  | .disabled => 0
  | .mic => inRoleMic
  | .mim => inRoleMim

/-! The types of the attributes, each in the numbering of the level it is found on. -/

namespace Ifla

/-- `IFLA_ADDRESS`. -/
def address : UInt16 := 1

/-- `IFLA_IFNAME`. -/
def ifname : UInt16 := 3

/-- `IFLA_MASTER`. -/
def master : UInt16 := 10

/-- `IFLA_PROTINFO`. -/
def protinfo : UInt16 := 12

/-- `IFLA_OPERSTATE`. -/
def operstate : UInt16 := 16

/-- `IFLA_AF_SPEC`. -/
def afSpec : UInt16 := 26

/-- `IFLA_MAX`. -/
def max : Nat := 55

/-- `IFLA_BRIDGE_FLAGS`. -/
def bridgeFlags : UInt16 := 0

/-- `IFLA_BRIDGE_MRP`. -/
def bridgeMrp : UInt16 := 4

/-- `IFLA_BRIDGE_CFM`. -/
def bridgeCfm : UInt16 := 5

/-- `IFLA_BRIDGE_MAX`. -/
def bridgeMax : Nat := 5

/-- `IFLA_BRIDGE_MRP_PORT_STATE`. -/
def mrpPortState : UInt16 := 2

/-- `IFLA_BRIDGE_MRP_RING_ROLE`. -/
def mrpRingRole : UInt16 := 5

/-- `IFLA_BRIDGE_MRP_IN_ROLE`. -/
def mrpInRole : UInt16 := 8

/-- `IFLA_BRIDGE_MRP_MAX`. -/
def mrpMax : Nat := 10

/-- `IFLA_BRIDGE_MRP_PORT_STATE_STATE`. -/
def portStateState : UInt16 := 1

/-- `IFLA_BRIDGE_MRP_RING_ROLE_RING_ID`. -/
def ringRoleRingId : UInt16 := 1

/-- `IFLA_BRIDGE_MRP_RING_ROLE_ROLE`. -/
def ringRoleRole : UInt16 := 2

/-- `IFLA_BRIDGE_MRP_IN_ROLE_RING_ID`. -/
def inRoleRingId : UInt16 := 1

/-- `IFLA_BRIDGE_MRP_IN_ROLE_IN_ID`. -/
def inRoleInId : UInt16 := 2

/-- `IFLA_BRIDGE_MRP_IN_ROLE_ROLE`. -/
def inRoleRole : UInt16 := 3

/-- `IFLA_BRIDGE_MRP_IN_ROLE_I_IFINDEX`. -/
def inRoleIIfindex : UInt16 := 4

/-- `IFLA_BRPORT_FLUSH`. -/
def brportFlush : UInt16 := 24

/-- `IFLA_BRIDGE_CFM_CC_PEER_STATUS_INFO`. -/
def ccPeerStatusInfo : UInt16 := 16

/-- `IFLA_BRIDGE_CFM_CC_PEER_STATUS_INSTANCE`. -/
def peerStatusInstance : UInt16 := 1

/-- `IFLA_BRIDGE_CFM_CC_PEER_STATUS_PEER_MEPID`. -/
def peerStatusMepid : UInt16 := 2

/-- `IFLA_BRIDGE_CFM_CC_PEER_STATUS_CCM_DEFECT`. -/
def peerStatusDefect : UInt16 := 3

/-- `IFLA_BRIDGE_CFM_CC_PEER_STATUS_MAX`. -/
def peerStatusMax : Nat := 9

/-- `IFLA_BRIDGE_CFM_MEP_STATUS_MAX`. -/
def mepStatusMax : Nat := 4

end Ifla

/-! ## Putting a request together -/

/-- The size of `struct request`: two headers and 1024 octets. -/
def sizeofRequest : Nat := 1056

/-- A `struct request`.  Besides its contents it has a log: the blocks that were written
through pointers into it, and whether an attribute was refused for lack of room. -/
structure Request where
  nlmsgLen : Nat
  nlmsgType : UInt16
  nlmsgFlags : UInt16
  ifiFamily : UInt8
  ifiIndex : UInt32
  mem : Buf
  writes : List Range
  refused : Bool

namespace Request

/-- A cleared request. -/
def zeroed : Request := ⟨0, 0, 0, 0, 0, fun _ => 0, [], false⟩

/-- Write a block through a pointer. -/
def write (req : Request) (pos : Nat) (l : List UInt8) : Request :=
  { req with mem := req.mem.put pos l, writes := ⟨pos, l.length⟩ :: req.writes }

/-- The source's `addattr_l`, whose result no caller looks at. -/
def addattrL (req : Request) (maxlen : Nat) (type : UInt16) (data : List UInt8) : Request :=
  let len := 4 + data.length
  let rta := align req.nlmsgLen
  if rta + align len > maxlen then { req with refused := true }
  else
    let req := (req.write (rta + 2) (le16 type)).write rta (le16 (UInt16.ofNat len))
    let req := if data.length ≠ 0 then req.write (rta + 4) data else req
    { req with nlmsgLen := rta + align len }

/-- The source's `addattr`. -/
def addattr (req : Request) (maxlen : Nat) (type : UInt16) : Request :=
  req.addattrL maxlen type []

/-- The source's `addattr16`. -/
def addattr16 (req : Request) (maxlen : Nat) (type data : UInt16) : Request :=
  req.addattrL maxlen type (le16 data)

/-- The source's `addattr32`. -/
def addattr32 (req : Request) (maxlen : Nat) (type : UInt16) (data : UInt32) : Request :=
  req.addattrL maxlen type (le32 data)

/-- The source's `addattr_nest`: the request and where the attribute stands. -/
def addattrNest (req : Request) (maxlen : Nat) (type : UInt16) : Request × Nat :=
  (req.addattrL maxlen type [], align req.nlmsgLen)

/-- The source's `addattr_nest_end`: the length of the attribute is written again. -/
def addattrNestEnd (req : Request) (nest : Nat) : Request :=
  req.write nest (le16 (UInt16.ofNat (align req.nlmsgLen - nest)))

end Request

/-- The three attributes that are open while a request is filled. -/
structure OpenNests where
  afspec : Nat
  afmrp : Nat
  afSubmrp : Nat

/-- The headers that every request of the driver begins with. -/
def Request.setHeader (req : Request) (cmd : UInt16) (ifindex : UInt32) : Request :=
  { req with
    nlmsgLen := linkHdrLen
    nlmsgFlags := nlmFRequest
    nlmsgType := cmd
    ifiFamily := pfBridge
    ifiIndex := ifindex }

/-- The source's `mrp_nl_bridge_prepare`. -/
def mrpNlBridgePrepare (ifindex : UInt32) (cmd : UInt16) (req : Request) (mrpAttr : UInt16) :
    Request × OpenNests :=
  let req := req.setHeader cmd ifindex
  let (req, afspec) := req.addattrNest sizeofRequest Ifla.afSpec
  let req := req.addattr16 sizeofRequest Ifla.bridgeFlags 2
  let (req, afmrp) := req.addattrNest sizeofRequest (Ifla.bridgeMrp ||| nlaFNested)
  let (req, afSubmrp) := req.addattrNest sizeofRequest (mrpAttr ||| nlaFNested)
  (req, ⟨afspec, afmrp, afSubmrp⟩)

/-- The source's `mrp_nl_port_prepare`. -/
def mrpNlPortPrepare (port : MrpPort) (cmd : UInt16) (req : Request) (mrpAttr : UInt16) :
    Request × OpenNests :=
  let req := req.setHeader cmd port.ifindex
  let (req, afspec) := req.addattrNest sizeofRequest Ifla.afSpec
  let (req, afmrp) := req.addattrNest sizeofRequest (Ifla.bridgeMrp ||| nlaFNested)
  let (req, afSubmrp) := req.addattrNest sizeofRequest (mrpAttr ||| nlaFNested)
  (req, ⟨afspec, afmrp, afSubmrp⟩)

/-- The source's `mrp_nl_terminate`, up to the call of `rtnl_talk`. -/
def mrpNlTerminate (req : Request) (nests : OpenNests) : Request :=
  req.addattrNestEnd nests.afSubmrp
    |>.addattrNestEnd nests.afmrp
    |>.addattrNestEnd nests.afspec

/-- The request of the driver's `netlink_port_set_state`. -/
def netlinkPortSetState (port : MrpPort) (state : PortState) : Request :=
  let (req, nests) := mrpNlPortPrepare port rtmSetlink .zeroed Ifla.mrpPortState
  mrpNlTerminate (req.addattr32 sizeofRequest Ifla.portStateState state.number) nests

/-- The request of the driver's `netlink_set_ring_role`: an auto-manager is always
announced as such. -/
def netlinkSetRingRole (mrp : Mrp) (role : RingRole) : Request :=
  let (req, nests) := mrpNlBridgePrepare mrp.ifindex rtmSetlink .zeroed Ifla.mrpRingRole
  let role := if mrp.mraSupport then .mra else role
  let req := req.addattr32 sizeofRequest Ifla.ringRoleRingId mrp.ringNr
  mrpNlTerminate (req.addattr32 sizeofRequest Ifla.ringRoleRole role.number) nests

/-- The request of the driver's `netlink_set_in_role`.  It follows the interconnection port
without looking whether there is one. -/
def netlinkSetInRole (mrp : Mrp) (role : InRole) : Option Request :=
  let (req, nests) := mrpNlBridgePrepare mrp.ifindex rtmSetlink .zeroed Ifla.mrpInRole
  match mrp.iPort with
  | none => none
  | some port =>
      let req := req.addattr32 sizeofRequest Ifla.inRoleRingId mrp.ringNr
      let req := req.addattr16 sizeofRequest Ifla.inRoleInId mrp.inId
      let req := req.addattr32 sizeofRequest Ifla.inRoleIIfindex port.ifindex
      some (mrpNlTerminate (req.addattr32 sizeofRequest Ifla.inRoleRole role.number) nests)

/-- The request that the driver's `netlink_flush` puts together before it names a port. -/
def flushRequest : Request :=
  let req := Request.zeroed.setHeader rtmSetlink 0
  let (req, protinfo) := req.addattrNest sizeofRequest (Ifla.protinfo ||| nlaFNested)
  (req.addattr 1024 Ifla.brportFlush).addattrNestEnd protinfo

/-- The requests of the driver's `netlink_flush`, one for each port.  The answer to the
`i`-th one is negative where `fails i` holds, and then the rest is not sent. -/
def netlinkFlush (mrp : Mrp) (fails : Nat → Bool) : List Request :=
  let p := { flushRequest with ifiIndex := (mrp.ringPort mrp.pPort).ifindex }
  let s := { flushRequest with ifiIndex := (mrp.ringPort mrp.sPort).ifindex }
  if fails 0 then [p]
  else if fails 1 then [p, s]
  else
    match mrp.iPort with
    | none => [p, s]
    | some port => [p, s, { flushRequest with ifiIndex := port.ifindex }]

/-! ## Taking a message apart -/

/-- The table that `parse_rtattr_flags` fills, by the type of the attribute. -/
abbrev AttrTable := UInt16 → Option Cell

/-- A type without the given flags. -/
def maskedType (flags type : UInt16) : UInt16 := type &&& ~~~flags

/-- The body of the loop of `parse_rtattr_flags`: the first attribute of a type is kept. -/
def storeAttr (max : Nat) (flags : UInt16) (tb : AttrTable) (rta : Cell) : AttrTable :=
  let type := maskedType flags rta.type
  if type.toNat ≤ max ∧ (tb type).isNone then Function.update tb type (some rta) else tb

/-- The source's `parse_rtattr_flags`, for the attributes from `pos` on. -/
def parseRtattrFlags (b : Buf) (max pos : Nat) (len : Int) (flags : UInt16) : AttrTable :=
  (walk b pos len).foldl (storeAttr max flags) fun _ => none

/-- The payload of an attribute begins behind its header, `RTA_DATA`. -/
def rtaData (rta : Cell) : Nat := rta.pos + 4

/-- The source's `RTA_PAYLOAD`. -/
def rtaPayload (rta : Cell) : Int := rta.len - 4

/-- The attributes nested in another one. -/
def parseNested (b : Buf) (max : Nat) (rta : Cell) : AttrTable :=
  parseRtattrFlags b max (rtaData rta) (rtaPayload rta) nlaFNested

/-! ## The listener -/

/-- The message type `NLMSG_DONE`. -/
def nlmsgDone : UInt16 := 3

/-- The message type `RTM_NEWLINK`. -/
def rtmNewlink : UInt16 := 16

/-- The message type `RTM_DELLINK`. -/
def rtmDellink : UInt16 := 17

/-- The family `AF_UNSPEC`. -/
def afUnspec : UInt8 := 0

/-- The number of entries of the table `infotb`. -/
def sizeofInfotb : Nat := Ifla.mepStatusMax + 1

/-- How many entries of its table `parse_rtattr_flags` clears. -/
def clearedEntries (max : Nat) : Nat := max + 1

section Listener

variable (b : Buf)

/-- The body of the loop of `netlink_listen` over the states of peers.  An attribute that is
missing is followed all the same, which is `none` here. -/
def listenPeer (ifindex : UInt32) (reg : Registry) (i : Cell) : Option Registry :=
  if i.type ≠ Ifla.ccPeerStatusInfo ||| nlaFNested then some reg
  else
    let infotb := parseNested b Ifla.peerStatusMax i
    match infotb Ifla.peerStatusInstance with
    | none => some reg
    | some _ => do
        let peer ← infotb Ifla.peerStatusMepid
        let defect ← infotb Ifla.peerStatusDefect
        return reg.cfmLinkChange ifindex (b.le32 (rtaData peer)) (b.le32 (rtaData defect) != 0)

/-- The attributes in which `netlink_listen` looks for the states of peers. -/
def peerCells (tb : AttrTable) : List Cell :=
  match tb Ifla.afSpec with
  | none => []
  | some af =>
      match parseNested b Ifla.bridgeMax af Ifla.bridgeCfm with
      | none => []
      | some list => walk b (rtaData list) (rtaPayload list)

/-- The part of `netlink_listen` about the address. -/
def listenAddressAt (ifindex : UInt32) (tb : AttrTable) (reg : Registry) : Registry :=
  match tb Ifla.address with
  | some a => reg.mrpMacChange ifindex (macAt b (rtaData a))
  | none => reg

/-- The part of `netlink_listen` about the operational state of a port. -/
def listenOperstateAt (ifindex : UInt32) (tb : AttrTable) (reg : Registry) : Registry :=
  match tb Ifla.operstate with
  | some a => reg.onPort ifindex fun mrp p => mrp.step (.operstate p (b (rtaData a)))
  | none => reg

/-- The part of `netlink_listen` behind its checks. -/
def listenAttrs (t : Table) (ifindex : UInt32) (tb : AttrTable) : Option Table := do
  let reg ← (peerCells b tb).foldlM (listenPeer b ifindex)
    (listenAddressAt b ifindex tb t.instances)
  match t.instances.mrpGetPort ifindex with
  | none => return { t with instances := reg }
  | some (mrp, _) =>
      let t := { t with instances := listenOperstateAt b ifindex tb reg }
      if (tb Ifla.master).isSome then return t else return t.mrpDestroy mrp.ifindex mrp.ringNr

/-- The attributes of the message at `h`. -/
def linkAttrs (h : Nat) : AttrTable :=
  parseRtattrFlags b Ifla.max (h + linkHdrLen) ((b.le32 h).toInt32 - 32).toInt nlaFNested

/-- The source's `netlink_listen` for the message at `h`: the table and the result, and
`none` if an attribute is followed that is not there. -/
def netlinkListenAt (t : Table) (h : Nat) : Option (Table × Int) :=
  let type := b.le16 (h + 4)
  let family := b (h + 16)
  if type = nlmsgDone then some (t, 0)
  else if (b.le32 h).toInt32 - 32 < 0 then some (t, -1)
  else if family ≠ pfBridge ∧ family ≠ afUnspec then some (t, 0)
  else if type ≠ rtmNewlink ∧ type ≠ rtmDellink then some (t, 0)
  else if (linkAttrs b h Ifla.ifname).isNone then some (t, -1)
  else (listenAttrs b t (b.le32 (h + 20)) (linkAttrs b h)).map fun t => (t, 0)

/-- The entries of `infotb` that are cleared while the message at `h` is handled: all of a
table for the states of peers, although `infotb` has the size of another one. -/
def infotbCleared (h : Nat) : List Nat :=
  ((peerCells b (linkAttrs b h)).filter fun i => i.type = Ifla.ccPeerStatusInfo ||| nlaFNested).map
    fun _ => clearedEntries Ifla.peerStatusMax

end Listener

/-! ## Receiving notifications -/

/-- What `recvmsg` can come back with.  The buffer of a datagram holds whatever was there
before behind the octets that were received. -/
inductive Received
  | failed (errno : Nat)
  | eof
  | datagram (namelenOk : Bool) (buf : Buf) (status : Nat) (truncated : Bool)

/-- How `rtnl_listen`, or a part of it, ends. -/
inductive Listened
  | waiting
  | returned (err : Int)
  | exited
  | outside
  | nullFollowed
deriving DecidableEq

/-- The size of the buffer of `rtnl_listen`. -/
def sizeofListenBuf : Nat := 16384

/-- The source's `NLMSG_ALIGN`, of an `int`. -/
def nlmsgAlign (len : Int32) : UInt32 := (len.toUInt32 + 3) &&& ~~~3

/-- The loop of `rtnl_listen` over the messages of a datagram, from `h` on, with `status`
octets left.  The loop compares `status` as an unsigned number.  A header that does not lie
in the buffer is an access outside; each message takes 16 octets, so that there is always
enough fuel. -/
def rtnlMessages (b : Buf) (truncated : Bool) : Nat → Table → Nat → Int32 → Table × Listened
  | 0, t, _, _ => (t, .outside)
  | fuel + 1, t, h, status =>
      if 16 ≤ status.toInt64.toUInt64 then
        if sizeofListenBuf < h + 16 then (t, .outside)
        else
          let len := (b.le32 h).toInt32
          if len - 16 < 0 ∨ status < len then
            if truncated then (t, .returned (-1)) else (t, .exited)
          else
            match netlinkListenAt b t h with
            | none => (t, .nullFollowed)
            | some (t, err) =>
                if err < 0 then (t, .returned err)
                else
                  rtnlMessages b truncated fuel t (h + (nlmsgAlign len).toNat)
                    (status.toUInt32 - nlmsgAlign len).toInt32
      else if truncated then (t, .returned 0)
      else if status ≠ 0 then (t, .exited)
      else (t, .waiting)

/-- `EINTR`, `EAGAIN` and `ENOBUFS`. -/
def endsListening (errno : Nat) : Bool := errno = 4 ∨ errno = 11 ∨ errno = 105

/-- The source's `rtnl_listen`, for what `recvmsg` comes back with call after call. -/
def rtnlListen (t : Table) : List Received → Table × Listened
  | [] => (t, .waiting)
  | .failed errno :: _ => (t, .returned (if endsListening errno then 0 else -1))
  | .eof :: _ => (t, .returned (-1))
  | .datagram namelenOk buf status truncated :: rs =>
      if namelenOk then
        match rtnlMessages buf truncated (sizeofListenBuf / 16 + 1) t 0 (Int32.ofNat status) with
        | (t, .waiting) => rtnlListen t rs
        | other => other
      else (t, .exited)

end Umrp
