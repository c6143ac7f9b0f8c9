import Umrp.Lib.Ranges
import Umrp.Model.System

/-!
# The control socket

A request is a datagram: a header of four integers and the structure of the command.
The server checks the header against the length of the datagram, copies the structure
out of `msg_inbuf`, runs the command, and copies what the command returns to
`msg_outbuf`.  Both buffers are static; how far an access into them goes is decided by
numbers that the client has written.

Next to what the functions compute, the model keeps a log of every block of memory that
they touch: what is copied, cleared and sent, and what a command reads and writes
through the pointers into its own two structures that it is given.  Fields that are
accessed by name lie in their structure and are not in the log.

Integers have 32 bits, a `size_t` has 64, and the host is little-endian.  The bytes that
a structure of the reply is made of are left out.
-/

namespace Umrp

open Octets

/-! ## Integers and sizes -/

/-- An `int` where the code needs a `size_t`: the sign is extended. -/
def toSize (x : Int32) : UInt64 := x.toInt64.toUInt64

/-- The size of `msg_inbuf` and of `msg_outbuf`, `MSG_BUF_LEN`. -/
def msgBufLen : Nat := 10000

/-- The number of entries of a status array, `MAX_MRP_INSTANCES`. -/
def maxMrpInstances : Nat := 20

/-! ## Messages -/

/-- The header of a request and of its answer, `struct ctl_msg_hdr`. -/
structure CtlMsgHdr where
  cmd : Int32
  lin : Int32
  lout : Int32
  res : Int32

/-- The size of the header. -/
def sizeofCtlMsgHdr : UInt64 := 16

/-- What `recvmsg` leaves behind: the flags, the length it returns, the header and the
contents of `msg_inbuf`. -/
structure CtlMsg where
  msgFlags : Int32
  l : Int32
  mhdr : CtlMsgHdr
  inbuf : Buf

/-- The commands of `SERVER_MESSAGE_CASE`. -/
inductive Cmd
  | addmrp | delmrp | getmrp
deriving DecidableEq

namespace Cmd

/-- The code of a command, `CMD_CODE_*`. -/
def code : Cmd → Int32
  | .addmrp => 101
  | .delmrp => 102
  | .getmrp => 103

/-- The switch of `handle_message`. -/
def ofCode? (cmd : Int32) : Option Cmd :=
  if cmd = Cmd.addmrp.code then some .addmrp
  else if cmd = Cmd.delmrp.code then some .delmrp
  else if cmd = Cmd.getmrp.code then some .getmrp
  else none

/-- Offset of `cfm_maid` in `struct addmrp_IN`, behind seventeen integers. -/
def maidOffset : Nat := 68

/-- Offset of `cfm_dmac` in `struct addmrp_IN`, behind the 48 octets of `cfm_maid`. -/
def dmacOffset : Nat := 116

/-- The size of one `struct mrp_status`: sixteen integers. -/
def sizeofMrpStatus : Nat := 64

/-- The size of the structure `*_IN` of a command.  That of `addmrp` ends with two
octets of padding. -/
def inSize : Cmd → Nat
  | .addmrp => 124
  | .delmrp => 8
  | .getmrp => 0

/-- The size of the structure `*_OUT` of a command. -/
def outSize : Cmd → Nat
  | .addmrp => 0
  | .delmrp => 0
  | .getmrp => 4 + maxMrpInstances * sizeofMrpStatus

end Cmd

/-! ## Accesses -/

/-- The objects in memory that a request can touch. -/
inductive Memory
  | msgInbuf
  | msgOutbuf
  | inStruct (c : Cmd)
  | outStruct (c : Cmd)

/-- The size of an object. -/
def Memory.size : Memory → Nat
  | .msgInbuf => msgBufLen
  | .msgOutbuf => msgBufLen
  | .inStruct c => c.inSize
  | .outStruct c => c.outSize

/-- Who touches memory: the two functions that handle a message, or the command that
they call, through a pointer into its structures. -/
inductive Accessor
  | handler | command
deriving DecidableEq

/-- A block of memory that is read or written at once. -/
structure Access where
  accessor : Accessor
  mem : Memory
  range : Range

/-- The access stays inside the object that it is made to. -/
def Access.Inside (a : Access) : Prop := a.range.Within a.mem.size

instance (a : Access) : Decidable a.Inside :=
  inferInstanceAs (Decidable (a.range.Within a.mem.size))

/-- A block that `memcpy` copies from the start of one object to the start of another. -/
def memcpy (dst src : Memory) (n : UInt64) : List Access :=
  [⟨.handler, dst, 0, n.toNat⟩, ⟨.handler, src, 0, n.toNat⟩]

/-! ## The commands -/

/-- The state of the ring machine in a status; it is not written for other roles. -/
inductive RingStatus
  | mrm (state : MrmState)
  | mrc (state : MrcState)
  | unset
deriving DecidableEq

/-- The state of the interconnection machine in a status; `disabled` is the number -1. -/
inductive InStatus
  | mim (state : MimState)
  | mic (state : MicState)
  | disabled
deriving DecidableEq

/-- The status of one instance, `struct mrp_status`. -/
structure MrpStatus where
  br : UInt32
  ringNr : UInt32
  pport : UInt32
  sport : UInt32
  mraSupport : Bool
  ringRole : RingRole
  ringState : RingStatus
  prio : UInt16
  ringRecv : UInt8
  reactOnLinkChange : UInt32
  inRole : InRole
  inState : InStatus
  iport : Option UInt32
  inId : UInt16
  inMode : InMode
  inRecv : UInt8
deriving DecidableEq

/-- The two tests of `mrp_get` on the ring role. -/
def Mrp.ringStatus (mrp : Mrp) : RingStatus :=
  match mrp.ringRole with
  | .mrm => .mrm mrp.mrmState
  | .mrc => .mrc mrp.mrcState
  | .disabled | .mra => .unset

/-- The three tests of `mrp_get` on the interconnection role. -/
def Mrp.inStatus (mrp : Mrp) : InStatus :=
  match mrp.inRole with
  | .mim => .mim mrp.mimState
  | .mic => .mic mrp.micState
  | .disabled => .disabled

/-- The body of the loop of `mrp_get`. -/
def Mrp.status (mrp : Mrp) : MrpStatus where
  br := mrp.ifindex
  ringNr := mrp.ringNr
  pport := (mrp.ringPort mrp.pPort).ifindex
  sport := (mrp.ringPort mrp.sPort).ifindex
  mraSupport := mrp.mraSupport
  ringRole := mrp.ringRole
  ringState := mrp.ringStatus
  prio := mrp.prio
  ringRecv := mrp.ringRecv
  reactOnLinkChange := mrp.reactOnLinkChange
  inRole := mrp.inRole
  inState := mrp.inStatus
  iport := mrp.iPort.map MrpPort.ifindex
  inId := mrp.inId
  inMode := mrp.inMode
  inRecv := mrp.inRecv

/-- What a command leaves: the table, its result, the status entries that it wrote, and
the blocks of memory that were touched. -/
structure Outcome where
  table : Table
  res : Int
  status : List MrpStatus
  accesses : List Access

/-- The arguments in `struct addmrp_IN`, as `addmrp_CALL` passes them on. -/
def addmrpArgs (inp : Buf) : AddArgs where
  brIfindex := inp.le32 0
  pport := inp.le32 4
  sport := inp.le32 8
  ringNr := inp.le32 12
  ringRole := inp.le32 16
  prio := (inp.le32 20).toUInt16
  ringRecv := (inp.le32 24).toUInt8
  reactOnLinkChange := (inp.le32 28).toUInt8
  inRole := inp.le32 32
  inId := (inp.le32 36).toUInt16
  iport := inp.le32 40
  inMode := inp.le32 44
  inRecv := (inp.le32 48).toUInt8
  cfmInstance := inp.le32 52
  cfmLevel := inp.le32 56
  cfmMepid := inp.le32 60
  cfmPeerMepid := inp.le32 64
  cfmMaid :=
    (List.range (inp.strnlen Cmd.maidOffset (Cmd.addmrp.inSize - Cmd.maidOffset))).map
      (inp.drop Cmd.maidOffset)
  cfmDmac := macAt inp Cmd.dmacOffset

/-- `mrp_add` gets as far as the text of `mrp_start_cfm` that reads the strings of the
request.  Without an interconnection port a null pointer is followed before that. -/
def Table.startsCfm (t : Table) (env : Env) (a : AddArgs) : Bool :=
  (t.instances.mrpFind a.brIfindex a.ringNr).isNone && Registry.allocated env a &&
    (InMode.ofUInt32 a.inMode != .rc && a.iport != 0)

/-- What `mrp_start_cfm` reads of the structure of the request: the address twice, and
the name once for its length and once to copy it.  A name without an end is read at
least one octet further than the structure goes. -/
def startCfmReads (inp : Buf) : List Access :=
  let maidLen := inp.strnlen Cmd.maidOffset (Cmd.addmrp.inSize - Cmd.maidOffset)
  [⟨.command, .inStruct .addmrp, Cmd.dmacOffset, 6⟩,
    ⟨.command, .inStruct .addmrp, Cmd.dmacOffset, 6⟩,
    ⟨.command, .inStruct .addmrp, Cmd.maidOffset, maidLen + 1⟩,
    ⟨.command, .inStruct .addmrp, Cmd.maidOffset, maidLen⟩]

/-- The entries of the status array that `mrp_get` writes, one for each instance, and
the count in front of them. -/
def Registry.mrpGetWrites (reg : Registry) : List Access :=
  (List.range reg.length).map (fun i =>
    ⟨.command, .outStruct .getmrp, 4 + i * Cmd.sizeofMrpStatus, Cmd.sizeofMrpStatus⟩) ++
    [⟨.command, .outStruct .getmrp, 0, 4⟩]

namespace Table

/-- The source's `CTL_addmrp`, called with the fields of its structure. -/
def ctlAddmrp (t : Table) (env : Env) (inp : Buf) : Outcome where
  table := (t.mrpAdd env (addmrpArgs inp)).1
  res := (t.mrpAdd env (addmrpArgs inp)).2
  status := []
  accesses := if t.startsCfm env (addmrpArgs inp) then startCfmReads inp else []

/-- The source's `CTL_delmrp`, called with the fields of its structure. -/
def ctlDelmrp (t : Table) (inp : Buf) : Outcome where
  table := (t.mrpDel (inp.le32 0) (inp.le32 4)).1
  res := (t.mrpDel (inp.le32 0) (inp.le32 4)).2
  status := []
  accesses := []

/-- The source's `CTL_getmrp` and `mrp_get`. -/
def ctlGetmrp (t : Table) : Outcome where
  table := t
  res := 0
  status := t.instances.map Mrp.status
  accesses := t.instances.mrpGetWrites

/-- The call in a `SERVER_MESSAGE_CASE`. -/
def callCmd (t : Table) (env : Env) (inp : Buf) : Cmd → Outcome
  | .addmrp => t.ctlAddmrp env inp
  | .delmrp => t.ctlDelmrp inp
  | .getmrp => t.ctlGetmrp

/-! ## Handling a message -/

/-- The result -1 with nothing done. -/
def refuse (t : Table) : Outcome := ⟨t, -1, [], []⟩

/-- The source's `SERVER_MESSAGE_CASE`. -/
def messageCase (t : Table) (env : Env) (c : Cmd) (inbuf : Buf) (lin lout : Int32) : Outcome :=
  if UInt64.ofNat c.inSize ≠ toSize lin ∨ UInt64.ofNat c.outSize ≠ toSize lout then t.refuse
  else
    let copyIn := memcpy (.inStruct c) .msgInbuf (toSize lin)
    let o := t.callCmd env inbuf c
    if o.res ≠ 0 then { o with accesses := copyIn ++ o.accesses }
    else
      { o with
        accesses := copyIn ++ o.accesses ++ memcpy .msgOutbuf (.outStruct c) (toSize lout) }

/-- The source's `handle_message`. -/
def handleMessage (t : Table) (env : Env) (cmd : Int32) (inbuf : Buf) (lin lout : Int32) :
    Outcome :=
  match Cmd.ofCode? cmd with
  | some c => t.messageCase env c inbuf lin lout
  | none => t.refuse

end Table

/-- The check of `ctl_rcv_handler`, in its order: lengths are compared as sizes, the
length of the answer and the command as integers. -/
def CtlMsg.unexpected (m : CtlMsg) : Bool :=
  decide (0 ≠ m.msgFlags) || decide (sizeofCtlMsgHdr > toSize m.l) ||
    decide (toSize m.l ≠ sizeofCtlMsgHdr + toSize m.mhdr.lin) ||
    decide (Int32.ofNat msgBufLen < m.mhdr.lout) || decide (0 > m.mhdr.cmd)

/-- An answer: its header, the number of octets of `msg_outbuf` behind it, and the status
entries in them. -/
structure Reply where
  mhdr : CtlMsgHdr
  len : UInt64
  status : List MrpStatus

/-- What the handling of a datagram leaves.  Without an answer it was ignored. -/
structure Handled where
  table : Table
  reply : Option Reply
  accesses : List Access

/-- The source's `ctl_rcv_handler`, from the return of `recvmsg` on. -/
def Table.ctlRcvHandler (t : Table) (env : Env) (m : CtlMsg) : Handled :=
  if m.unexpected then ⟨t, none, []⟩
  else
    let o := t.handleMessage env m.mhdr.cmd m.inbuf m.mhdr.lin m.mhdr.lout
    let clear : List Access :=
      if 0 > o.res then [⟨.handler, .msgOutbuf, 0, (toSize m.mhdr.lout).toNat⟩] else []
    let send : Access := ⟨.handler, .msgOutbuf, 0, (toSize m.mhdr.lout).toNat⟩
    ⟨o.table,
      some ⟨{ m.mhdr with res := Int32.ofInt o.res }, toSize m.mhdr.lout, o.status⟩,
      o.accesses ++ clear ++ [send]⟩

end Umrp
