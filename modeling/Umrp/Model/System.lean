import Umrp.Lib.KeyedList
import Umrp.Model.Step

/-!
# The list of instances in use

The functions that work on the list `mrp_instances` as a whole: `mrp_add` as it is
written, with the instance in the list while it is configured, `mrp_del`,
`mrp_destroy` and `mrp_uninit`, the lookup of ports, and the netlink listener.
Everything that can happen to the list is one step function.

Memory that was freed is not forgotten: the table keeps every freed instance in the
state in which `mrp_destroy` left it, because a timer that is still active there is a
timer whose callback will run on freed memory.

Left out are the locks, the deletion of the CFM instance in the kernel, and netlink
messages that the listener ignores because of their header.
-/

namespace Umrp

open EventMachine KeyedList

/-! ## Keys and ports -/

/-- What `mrp_find` looks for: the bridge and the ring number. -/
def Mrp.key (mrp : Mrp) : UInt32 × UInt32 := (mrp.ifindex, mrp.ringNr)

/-- The key that the arguments of `mrp_add` ask for. -/
def AddArgs.key (a : AddArgs) : UInt32 × UInt32 := (a.brIfindex, a.ringNr)

/-- The tests of `mrp_get_port` for one instance, in their order. -/
def Mrp.findPort (mrp : Mrp) (ifindex : UInt32) : Option Port :=
  if (mrp.ringPort mrp.pPort).ifindex = ifindex then some (.ring mrp.pPort)
  else if (mrp.ringPort mrp.sPort).ifindex = ifindex then some (.ring mrp.sPort)
  else if mrp.iPort.map MrpPort.ifindex = some ifindex then some .inter
  else none

namespace Registry

/-- The test of `mrp_find`. -/
def isKey (brIfindex ringNr : UInt32) (mrp : Mrp) : Bool :=
  mrp.ringNr = ringNr && mrp.ifindex = brIfindex

/-- The source's `mrp_get_port`: the first instance that has the port, and which of
its ports it is. -/
def mrpGetPort (reg : Registry) (ifindex : UInt32) : Option (Mrp × Port) :=
  reg.findSome? fun mrp => (mrp.findPort ifindex).map fun p => (mrp, p)

/-- Work on the port that `mrp_get_port` returns. -/
def onPort (reg : Registry) (ifindex : UInt32) (f : Mrp → Port → Mrp) : Registry :=
  modifyFirst (fun mrp => (mrp.findPort ifindex).isSome)
    (fun mrp =>
      match mrp.findPort ifindex with
      | some p => f mrp p
      | none => mrp) reg

/-- The source's `mrp_mac_change`. -/
def mrpMacChange (reg : Registry) (ifindex : UInt32) (mac : Mac) : Registry :=
  if (reg.mrpGetPort ifindex).isSome then reg.onPort ifindex fun mrp p => mrp.step (.portMac p mac)
  else reg.map fun mrp => if mrp.ifindex = ifindex then mrp.step (.bridgeMac mac) else mrp

end Registry

/-! ## The table -/

/-- The list `mrp_instances` and the memory that was freed, newest first. -/
structure Table where
  instances : Registry
  freed : List Mrp

/-- What `mrp_destroy` does to an instance before it frees it. -/
def Mrp.destroy (mrp : Mrp) : Mrp := mrp.resetRingState

/-- What `mrp_add` does to the interconnection port of an instance that it gives up. -/
def Mrp.dropInPort (mrp : Mrp) : Mrp := { mrp with iPort := none }

/-- The assignments with which `mrp_add` starts, up to the ports. -/
def Mrp.settle (mrp : Mrp) (env : Env) (a : AddArgs) : Mrp :=
  { (mrp.setPrio a.prio).updateRecovery env.timeFactor a.ringRecv a.inRecv with
    reactOnLinkChange := a.reactOnLinkChange.toUInt32
    inMode := .ofUInt32 a.inMode
    macaddr := env.ifGetMac a.brIfindex }

namespace Table

/-- The table before anything was added. -/
def empty : Table := ⟨[], []⟩

/-- The keys in the list, in the order of the list. -/
def keys (t : Table) : List (UInt32 × UInt32) := t.instances.map Mrp.key

/-- Work on the instance that `mrp_find` returns. -/
def modify (t : Table) (brIfindex ringNr : UInt32) (f : Mrp → Mrp) : Table :=
  { t with instances := modifyFirst (Registry.isKey brIfindex ringNr) f t.instances }

/-- The source's `mrp_create`, once the allocation has succeeded. -/
def mrpCreate (t : Table) (env : Env) (brIfindex ringNr : UInt32) (inId : UInt16) : Table :=
  { t with instances := t.instances ++ [Mrp.create env brIfindex ringNr inId] }

/-- The source's `mrp_destroy`. -/
def mrpDestroy (t : Table) (brIfindex ringNr : UInt32) : Table :=
  match t.instances.mrpFind brIfindex ringNr with
  | none => t
  | some mrp => ⟨t.instances.eraseP (Registry.isKey brIfindex ringNr), mrp.destroy :: t.freed⟩

/-- The source's `mrp_del`: the table and the error code. -/
def mrpDel (t : Table) (brIfindex ringNr : UInt32) : Table × Int :=
  if (t.instances.mrpFind brIfindex ringNr).isNone then (t, -einval)
  else (t.mrpDestroy brIfindex ringNr, 0)

/-- The source's `mrp_uninit`. -/
def mrpUninit (t : Table) : Table :=
  t.instances.foldl (fun t mrp => t.mrpDestroy mrp.ifindex mrp.ringNr) t

/-! ## Adding an instance in place -/

/-- The part of `mrp_add` that sets the ring role. -/
def setRingRole (t : Table) (env : Env) (a : AddArgs) : Table × Int :=
  match t.instances.mrpFind a.brIfindex a.ringNr with
  | none => (t, 0)
  | some mrp =>
      (t.modify a.brIfindex a.ringNr fun mrp => (mrp.setRingRoleByNumber env a.ringRole).1,
        (mrp.setRingRoleByNumber env a.ringRole).2)

/-- The last part of `mrp_set_mim_role` and `mrp_set_mic_role` for the instance `mrp`:
outside ring check mode the event goes to the first instance that fits. -/
def announceInLink (t : Table) (mrp : Mrp) (env : Env) : Table :=
  if env.ifGetLink .inter then
    if mrp.inMode = .rc then t.modify mrp.ifindex mrp.ringNr (·.portLinkChange .inter true)
    else { t with instances := t.instances.cfmLinkChange mrp.ifindex mrp.cfmPeerMepid false }
  else t

/-- The common text of `mrp_set_mim_role` and `mrp_set_mic_role`, on the list. -/
def takeInRole (t : Table) (env : Env) (a : AddArgs) (role : InRole) : Table × Int :=
  match t.instances.mrpFind a.brIfindex a.ringNr with
  | none => (t, 0)
  | some mrp =>
      if mrp.iPort.isNone then (t, -einval)
      else
        let t := t.modify a.brIfindex a.ringNr fun mrp =>
          { mrp with mimState := .acStat1, micState := .acStat1 }.setInRole role
        if env.setInRole ≠ 0 then (t, env.setInRole)
        else
          let t := t.modify a.brIfindex a.ringNr (·.portSetState .inter .blocked)
          (t.announceInLink mrp env, 0)

/-- The part of `mrp_add` that sets the interconnection role. -/
def setInRole (x : Table × Int) (env : Env) (a : AddArgs) : Table × Int :=
  if a.inRole = inRoleMim then x.1.takeInRole env a .mim
  else if a.inRole = inRoleMic then x.1.takeInRole env a .mic
  else x

/-- The instance is configured, before any role is set. -/
def configure (t : Table) (env : Env) (a : AddArgs) : Table :=
  let t :=
    if a.iport > 0 then t.modify a.brIfindex a.ringNr (·.portInit env a.iport .inter) else t
  t.modify a.brIfindex a.ringNr fun mrp => if mrp.inMode ≠ .rc then mrp.startCfm a else mrp

/-- The source's `mrp_add`: the table afterwards and the error code. -/
def mrpAdd (t : Table) (env : Env) (a : AddArgs) : Table × Int :=
  if (t.instances.mrpFind a.brIfindex a.ringNr).isSome then (t, -einval)
  else if env.mallocMrp = false then (t, -enomem)
  else
    let t := t.mrpCreate env a.brIfindex a.ringNr a.inId
    let t := t.modify a.brIfindex a.ringNr (·.settle env a)
    if env.mallocPort (.ring .primary) = false then
      (t.mrpDestroy a.brIfindex a.ringNr, -enomem)
    else
      let t := t.modify a.brIfindex a.ringNr (·.portInit env a.pport (.ring .primary))
      if env.mallocPort (.ring .secondary) = false then
        (t.mrpDestroy a.brIfindex a.ringNr, -enomem)
      else
        let t := t.modify a.brIfindex a.ringNr (·.portInit env a.sport (.ring .secondary))
        if a.iport > 0 ∧ env.mallocPort .inter = false then
          (t.mrpDestroy a.brIfindex a.ringNr, -enomem)
        else
          let (t, err) := setInRole ((t.configure env a).setRingRole env a) env a
          if err ≠ 0 then
            -- the ring ports are freed as well, but nothing reads them any more
            let t := t.modify a.brIfindex a.ringNr (·.dropInPort)
            (t.mrpDestroy a.brIfindex a.ringNr, err)
          else (t, 0)

end Table

/-! ## The netlink listener -/

/-- The attributes of a link message that the listener looks at. -/
structure LinkMsg where
  ifindex : UInt32
  address : Option Mac
  cfm : List (UInt32 × Bool)
  operstate : Option UInt8
  master : Bool

namespace Registry

/-- The part of `netlink_listen` about the address. -/
def listenAddress (reg : Registry) (msg : LinkMsg) : Registry :=
  match msg.address with
  | some mac => reg.mrpMacChange msg.ifindex mac
  | none => reg

/-- The part of `netlink_listen` about CFM: one event for each peer in the message. -/
def listenCfm (reg : Registry) (msg : LinkMsg) : Registry :=
  msg.cfm.foldl (fun reg x => Registry.cfmLinkChange reg msg.ifindex x.1 x.2) reg

/-- The part of `netlink_listen` about the operational state of a port. -/
def listenOperstate (reg : Registry) (msg : LinkMsg) : Registry :=
  match msg.operstate with
  | some state => reg.onPort msg.ifindex fun mrp p => mrp.step (.operstate p state)
  | none => reg

end Registry

/-- The source's `netlink_listen`, for a message that passes the first checks.  The
port is looked up before anything else. -/
def Table.netlinkListen (t : Table) (msg : LinkMsg) : Table :=
  let reg := (t.instances.listenAddress msg).listenCfm msg
  match t.instances.mrpGetPort msg.ifindex with
  | none => { t with instances := reg }
  | some (mrp, _) =>
      let t := { t with instances := reg.listenOperstate msg }
      if msg.master then t else t.mrpDestroy mrp.ifindex mrp.ringNr

/-! ## Events -/

/-- What can happen to the list. -/
inductive SystemEvent
  | add (env : Env) (a : AddArgs)
  | del (brIfindex ringNr : UInt32)
  | destroy (brIfindex ringNr : UInt32)
  | uninit
  | recv (ifindex : UInt32) (rx : RxFrame)
  | netlink (msg : LinkMsg)
  | expired (brIfindex ringNr : UInt32) (w : TimerId)

/-- One event. -/
def Table.step (t : Table) : SystemEvent → Table
  | .add env a => (t.mrpAdd env a).1
  | .del brIfindex ringNr => (t.mrpDel brIfindex ringNr).1
  | .destroy brIfindex ringNr => t.mrpDestroy brIfindex ringNr
  | .uninit => t.mrpUninit
  | .recv ifindex rx =>
      { t with instances := t.instances.onPort ifindex fun mrp p => mrp.step (.recv p rx) }
  | .netlink msg => t.netlinkListen msg
  | .expired brIfindex ringNr w => t.modify brIfindex ringNr (·.step (.expired w))

/-- The tables that a sequence of events can lead to. -/
def Table.Reachable (t : Table) : Prop :=
  ∃ es, t = run Table.step .empty es

end Umrp
