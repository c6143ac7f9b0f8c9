import Umrp.Lib.LinkedRing
import Umrp.Model.System

/-!
# The list of instances in memory

What `Umrp.Model.System` has as a list is a ring of nodes in the source: every instance
is a block of memory that `malloc` gave, with the links of the list inside it, and its
ports are blocks of their own that point back to it.  The functions that work on
`mrp_instances` are modelled once more on this memory, with the operations of `list.h`
that they use.  Following a pointer to a block that is not allocated, or freeing one, has
no result; neither has a loop that runs out of fuel.

A block is a struct: what a handler does inside an instance is the function of the
instance from the other modules, which marks a NULL pointer to a port that it follows.
An address belongs to one kind of block, so that each kind has a memory of its own.
Left out are the locks, as before, and the assignment of NULL to `port->mrp` in a port
structure that is freed with the next statement.
-/

namespace Umrp

open LinkedRing

/-! ## The operations of `list.h` -/

/-- The addresses that the source knows from the start: of the head `mrp_instances`, NULL
and the two poisons of `list.h`. -/
structure Known (α : Type) where
  mrpInstances : α
  null : α
  listPoison1 : α
  listPoison2 : α

section List

variable {α : Type} [DecidableEq α] (s : Links α)

/-- The source's `__list_add`. -/
def listAddBetween (new prev next : α) : Option (Links α) := do
  let s ← setPrev s next new
  let s ← setNext s new next
  let s ← setPrev s new prev
  setNext s prev new

/-- The source's `list_add_tail`. -/
def listAddTail (new head : α) : Option (Links α) := do
  listAddBetween s new (← prev? s head) head

/-- The source's `__list_del`. -/
def listDelBetween (prev next : α) : Option (Links α) := do
  let s ← setPrev s next prev
  setNext s prev next

/-- The source's `list_del`. -/
def listDel (known : Known α) (entry : α) : Option (Links α) := do
  let s ← listDelBetween s (← prev? s entry) (← next? s entry)
  let s ← setNext s entry known.listPoison1
  setPrev s entry known.listPoison2

end List

/-! ## Memory -/

/-- A `struct mrp`: the instance, and where the structures of its ports lie. -/
structure Block (α : Type) where
  mrp : Mrp
  port : Port → Option α

/-- The port whose structure lies at an address. -/
def Block.portAt {α : Type} [DecidableEq α] (c : Block α) (port : α) : Option Port :=
  [.ring .primary, .ring .secondary, .inter].find? fun p => c.port p = some port

/-- The memory: the nodes of the list, the instances around them, and the port structures,
of which only the pointer to the instance is kept here. -/
structure Heap (α : Type) where
  links : Links α
  instances : α → Option (Block α)
  ports : α → Option α

/-- What `malloc` returns while an instance is added, where it does not fail. -/
structure Allocation (α : Type) where
  mrp : α
  port : Port → α

namespace Heap

variable {α : Type} [DecidableEq α] (known : Known α) (fuel : Nat) (m : Heap α)

/-- The memory when the server starts: `LIST_HEAD(mrp_instances)`. -/
def initial : Heap α where
  links := Function.update (fun _ => none) known.mrpInstances
    (some ⟨known.mrpInstances, known.mrpInstances⟩)
  instances := fun _ => none
  ports := fun _ => none

/-- Work inside an instance. -/
def update (mrp : α) (f : Mrp → Mrp) : Option (Heap α) := do
  let c ← m.instances mrp
  return { m with instances := Function.update m.instances mrp (some { c with mrp := f c.mrp }) }

/-- Work on a port, for a function that is given the port and finds the instance through it. -/
def onPort (port : α) (f : Mrp → Port → Mrp) : Option (Heap α) := do
  let mrp ← m.ports port
  let c ← m.instances mrp
  let p ← c.portAt port
  m.update mrp fun mrp => f mrp p

/-! ### Lookups -/

/-- The source's `mrp_find`. -/
def mrpFind (brIfindex ringNr : UInt32) : Option (Option α) :=
  searchRing m.links known.mrpInstances (fun mrp => do
    let c ← m.instances mrp
    return if Registry.isKey brIfindex ringNr c.mrp then some mrp else none) fuel

/-- One of the three tests of `mrp_get_port`: a port structure is only looked at if the
pointer to it is not NULL. -/
def portIs (c : Block α) (ifindex : UInt32) (p : Port) : Option Bool :=
  match c.port p with
  | none => some false
  | some port => do
      let _ ← m.ports port
      return (c.mrp.port? p).map MrpPort.ifindex = some ifindex

/-- The three tests of `mrp_get_port` for one instance. -/
def portWith (ifindex : UInt32) (mrp : α) : Option (Option α) := do
  let c ← m.instances mrp
  if ← m.portIs c ifindex (.ring c.mrp.pPort) then return c.port (.ring c.mrp.pPort)
  else if ← m.portIs c ifindex (.ring c.mrp.sPort) then return c.port (.ring c.mrp.sPort)
  else if ← m.portIs c ifindex .inter then return c.port .inter
  else return none

/-- The source's `mrp_get_port`. -/
def mrpGetPort (ifindex : UInt32) : Option (Option α) :=
  searchRing m.links known.mrpInstances (m.portWith ifindex) fuel

/-- The source's `mrp_get_mrp`. -/
def mrpGetMrp (ifindex peerMepid : UInt32) : Option (Option α) :=
  searchRing m.links known.mrpInstances (fun mrp => do
    let c ← m.instances mrp
    return if Registry.isMrp c.mrp ifindex peerMepid then some mrp else none) fuel

/-! ### Events -/

/-- The source's `mrp_recv`. -/
def mrpRecv (ifindex : UInt32) (rx : RxFrame) : Option (Heap α) := do
  match ← m.mrpGetPort known fuel ifindex with
  | none => return m
  | some port => m.onPort port fun mrp p => mrp.step (.recv p rx)

/-- The body of the loop in `mrp_mac_change`. -/
def bridgeMacChange (ifindex : UInt32) (mac : Mac) (mrp : α) : Option (Heap α) := do
  let c ← m.instances mrp
  if c.mrp.ifindex = ifindex then m.update mrp (·.step (.bridgeMac mac)) else return m

/-- The source's `mrp_mac_change`. -/
def mrpMacChange (ifindex : UInt32) (mac : Mac) : Option (Heap α) := do
  match ← m.mrpGetPort known fuel ifindex with
  | some port => m.onPort port fun mrp p => mrp.step (.portMac p mac)
  | none =>
      forEachRing links known.mrpInstances (fun m => m.bridgeMacChange ifindex mac) fuel m

/-- The source's `mrp_cfm_link_change`. -/
def mrpCfmLinkChange (ifindex peerMepid : UInt32) (defect : Bool) : Option (Heap α) := do
  match ← m.mrpGetMrp known fuel ifindex peerMepid with
  | none => return m
  | some mrp => m.update mrp (·.step (.cfmLinkChange defect))

/-! ### Destroying an instance -/

/-- `free`, of a port structure. -/
def freePort (port : α) : Option (Heap α) := do
  let _ ← m.ports port
  return { m with ports := Function.update m.ports port none }

/-- A port structure is freed unless the pointer to it is NULL. -/
def freePortOf (mrp : α) (p : Block α → Port) : Option (Heap α) := do
  let c ← m.instances mrp
  match c.port (p c) with
  | none => return m
  | some port => m.freePort port

/-- The part of `mrp_destroy` about the ports. -/
def freePorts (mrp : α) : Option (Heap α) := do
  let m ← m.freePortOf mrp fun c => .ring c.mrp.pPort
  let m ← m.freePortOf mrp fun c => .ring c.mrp.sPort
  m.freePortOf mrp fun _ => .inter

/-- The source's `mrp_destroy`. -/
def mrpDestroy (brIfindex ringNr : UInt32) : Option (Heap α) := do
  match ← m.mrpFind known fuel brIfindex ringNr with
  | none => return m
  | some mrp =>
      let m ← m.update mrp Mrp.destroy
      let m ← m.freePorts mrp
      let links ← listDel m.links known mrp
      -- the links lie inside the instance and are freed with it
      return { m with
        links := Function.update links mrp none
        instances := Function.update m.instances mrp none }

/-- The source's `mrp_del`: the memory and the error code. -/
def mrpDel (brIfindex ringNr : UInt32) : Option (Heap α × Int) := do
  match ← m.mrpFind known fuel brIfindex ringNr with
  | none => return (m, -einval)
  | some _ => return (← m.mrpDestroy known fuel brIfindex ringNr, 0)

/-- The body of the loop in `mrp_uninit`. -/
def destroyAt (mrp : α) : Option (Heap α) := do
  let c ← m.instances mrp
  m.mrpDestroy known fuel c.mrp.ifindex c.mrp.ringNr

/-- The source's `mrp_uninit`. -/
def mrpUninit : Option (Heap α) :=
  forEachRingSafe links known.mrpInstances (fun m => m.destroyAt known fuel) fuel m

/-! ### Adding an instance -/

/-- The source's `mrp_create`, once the allocation has succeeded. -/
def mrpCreate (env : Env) (mrp : α) (brIfindex ringNr : UInt32) (inId : UInt16) :
    Option (Heap α) := do
  let links := Function.update m.links mrp (some ⟨known.null, known.null⟩)
  return { m with
    instances := Function.update m.instances mrp
      (some ⟨Mrp.create env brIfindex ringNr inId, fun _ => none⟩)
    links := ← listAddTail links mrp known.mrpInstances }

/-- The source's `mrp_port_init`, once the allocation has succeeded. -/
def mrpPortInit (env : Env) (mrp port : α) (ifindex : UInt32) (p : Port) : Option (Heap α) := do
  let c ← m.instances mrp
  return { m with
    instances := Function.update m.instances mrp
      (some ⟨c.mrp.portInit env ifindex p, Function.update c.port p (some port)⟩)
    ports := Function.update m.ports port (some mrp) }

/-- The source's `mrp_port_uninit`. -/
def mrpPortUninit : Option α → Option (Heap α)
  | none => some m
  | some port => do
      let mrp ← m.ports port
      let _ ← m.instances mrp
      m.freePort port

/-- `mrp_add` gives up a port: the structure is freed and the pointer set to NULL. -/
def dropPort (mrp : α) (p : Block α → Port) : Option (Heap α) := do
  let c ← m.instances mrp
  let m ← m.mrpPortUninit (c.port (p c))
  let c ← m.instances mrp
  return { m with
    instances := Function.update m.instances mrp
      (some ⟨if p c = .inter then c.mrp.dropInPort else c.mrp,
        Function.update c.port (p c) none⟩) }

/-- From the label `delete_port` of `mrp_add` on. -/
def deletePort (mrp : α) (a : AddArgs) : Option (Heap α) := do
  let m ← m.dropPort mrp fun c => .ring c.mrp.pPort
  m.mrpDestroy known fuel a.brIfindex a.ringNr

/-- From the label `delete_ports` of `mrp_add` on. -/
def deletePorts (mrp : α) (a : AddArgs) : Option (Heap α) := do
  let m ← m.dropPort mrp fun c => .ring c.mrp.sPort
  m.deletePort known fuel mrp a

/-- From the label `clear` of `mrp_add` on. -/
def clear (mrp : α) (a : AddArgs) : Option (Heap α) := do
  let m ← m.dropPort mrp fun _ => .inter
  m.deletePorts known fuel mrp a

/-- The part of `mrp_add` that sets the ring role. -/
def setRingRole (env : Env) (mrp : α) (ringRole : UInt32) : Option (Heap α × Int) := do
  let c ← m.instances mrp
  let m ← m.update mrp fun mrp => (mrp.setRingRoleByNumber env ringRole).1
  return (m, (c.mrp.setRingRoleByNumber env ringRole).2)

/-- The last part of `mrp_set_mim_role` and `mrp_set_mic_role`. -/
def announceInLink (env : Env) (mrp : α) : Option (Heap α) := do
  if env.ifGetLink .inter then
    let c ← m.instances mrp
    if c.mrp.inMode = .rc then m.update mrp (·.portLinkChange .inter true)
    else m.mrpCfmLinkChange known fuel c.mrp.ifindex c.mrp.cfmPeerMepid false
  else return m

/-- The common text of `mrp_set_mim_role` and `mrp_set_mic_role`. -/
def takeInRole (env : Env) (mrp : α) (role : InRole) : Option (Heap α × Int) := do
  let c ← m.instances mrp
  if c.mrp.iPort.isNone then return (m, -einval)
  else
    let m ← m.update mrp fun mrp =>
      { mrp with mimState := .acStat1, micState := .acStat1 }.setInRole role
    if env.setInRole ≠ 0 then return (m, env.setInRole)
    else
      let m ← m.update mrp (·.portSetState .inter .blocked)
      return (← m.announceInLink known fuel env mrp, 0)

/-- The part of `mrp_add` that sets the interconnection role. -/
def setInRole (x : Heap α × Int) (env : Env) (mrp : α) (inRole : UInt32) :
    Option (Heap α × Int) :=
  if inRole = inRoleMim then x.1.takeInRole known fuel env mrp .mim
  else if inRole = inRoleMic then x.1.takeInRole known fuel env mrp .mic
  else some x

/-- The part of `mrp_add` behind the initialisation of the ports. -/
def configure (env : Env) (mrp : α) (a : AddArgs) : Option (Heap α × Int) := do
  let m ← m.update mrp fun mrp => if mrp.inMode ≠ .rc then mrp.startCfm a else mrp
  let x ← m.setRingRole env mrp a.ringRole
  let (m, err) ← setInRole known fuel x env mrp a.inRole
  if err ≠ 0 then return (← m.clear known fuel mrp a, err) else return (m, 0)

/-- The part of `mrp_add` that initialises the ports, and all behind it. -/
def addPorts (env : Env) (mrp : α) (a : AddArgs) (blocks : Allocation α) :
    Option (Heap α × Int) := do
  if env.mallocPort (.ring .primary) = false then
    return (← m.mrpDestroy known fuel a.brIfindex a.ringNr, -enomem)
  else
    let m ← m.mrpPortInit env mrp (blocks.port (.ring .primary)) a.pport (.ring .primary)
    if env.mallocPort (.ring .secondary) = false then
      return (← m.deletePort known fuel mrp a, -enomem)
    else
      let m ← m.mrpPortInit env mrp (blocks.port (.ring .secondary)) a.sport (.ring .secondary)
      if a.iport > 0 then
        if env.mallocPort .inter = false then
          return (← m.deletePorts known fuel mrp a, -enomem)
        else
          let m ← m.mrpPortInit env mrp (blocks.port .inter) a.iport .inter
          m.configure known fuel env mrp a
      else m.configure known fuel env mrp a

/-- The source's `mrp_add`: the memory afterwards and the error code.  The instance that
was created is looked up and followed without a check. -/
def mrpAdd (env : Env) (a : AddArgs) (blocks : Allocation α) : Option (Heap α × Int) := do
  if (← m.mrpFind known fuel a.brIfindex a.ringNr).isSome then return (m, -einval)
  else if env.mallocMrp = false then return (m, -enomem)
  else
    let m ← m.mrpCreate known env blocks.mrp a.brIfindex a.ringNr a.inId
    let mrp ← (← m.mrpFind known fuel a.brIfindex a.ringNr)
    let m ← m.update mrp (·.settle env a)
    m.addPorts known fuel env mrp a blocks

/-! ### The netlink listener -/

/-- The part of `netlink_listen` about the address. -/
def listenAddress (msg : LinkMsg) : Option (Heap α) :=
  match msg.address with
  | some mac => m.mrpMacChange known fuel msg.ifindex mac
  | none => some m

/-- The part of `netlink_listen` about the operational state of a port. -/
def listenOperstate (msg : LinkMsg) (port : α) : Option (Heap α) :=
  match msg.operstate with
  | some state => m.onPort port fun mrp p => mrp.step (.operstate p state)
  | none => some m

/-- The source's `netlink_listen`, for a message that passes the first checks.  The pointer
to the port is looked up before anything else and used until the end. -/
def netlinkListen (msg : LinkMsg) : Option (Heap α) := do
  let port ← m.mrpGetPort known fuel msg.ifindex
  let m ← m.listenAddress known fuel msg
  let m ← msg.cfm.foldlM (fun m x => mrpCfmLinkChange known fuel m msg.ifindex x.1 x.2) m
  match port with
  | none => return m
  | some port =>
      let m ← m.listenOperstate msg port
      if msg.master then return m else m.destroyAt known fuel (← m.ports port)

end Heap

/-! ## Events -/

/-- What can happen to the memory.  A timer has a pointer to its instance. -/
inductive HeapEvent (α : Type)
  | add (env : Env) (a : AddArgs) (blocks : Allocation α)
  | del (brIfindex ringNr : UInt32)
  | destroy (brIfindex ringNr : UInt32)
  | uninit
  | recv (ifindex : UInt32) (rx : RxFrame)
  | netlink (msg : LinkMsg)
  | expired (mrp : α) (w : TimerId)

variable {α : Type} [DecidableEq α] (known : Known α) (fuel : Nat)

/-- One event. -/
def Heap.step (m : Heap α) : HeapEvent α → Option (Heap α)
  | .add env a blocks => (m.mrpAdd known fuel env a blocks).map Prod.fst
  | .del brIfindex ringNr => (m.mrpDel known fuel brIfindex ringNr).map Prod.fst
  | .destroy brIfindex ringNr => m.mrpDestroy known fuel brIfindex ringNr
  | .uninit => m.mrpUninit known fuel
  | .recv ifindex rx => m.mrpRecv known fuel ifindex rx
  | .netlink msg => m.netlinkListen known fuel msg
  | .expired mrp w => m.update mrp (·.step (.expired w))

/-- A run of events, as long as no step goes wrong. -/
def Heap.stepFrom (m : Option (Heap α)) (e : HeapEvent α) : Option (Heap α) :=
  m.bind fun m => m.step known fuel e

end Umrp
