import Umrp.Model.Link

/-!
# Creating instances

The list of instances and `mrp_add` with everything it calls.  What
the code learns from the operating system on the way is collected in `Env`: the
time factor, addresses and links of interfaces, allocation and the answers of
the interface driver.  The locks are left out.
-/

namespace Umrp

/-! ## Surroundings and arguments -/

/-- What `mrp_add` asks of its surroundings.  Each port is asked for its link at
most once, so `ifGetLink` is a function of the port. -/
structure Env where
  timeFactor : UInt32
  clock : Nat → UInt32
  ifGetMac : UInt32 → Mac
  ifGetLink : Port → Bool
  mallocMrp : Bool
  mallocPort : Port → Bool
  setRingRole : Int
  setInRole : Int

/-- The arguments of `mrp_add`. -/
structure AddArgs where
  brIfindex : UInt32
  ringNr : UInt32
  pport : UInt32
  sport : UInt32
  ringRole : UInt32
  prio : UInt16
  ringRecv : UInt8
  reactOnLinkChange : UInt8
  inRole : UInt32
  inId : UInt16
  iport : UInt32
  inMode : UInt32
  inRecv : UInt8
  cfmInstance : UInt32
  cfmLevel : UInt32
  cfmMepid : UInt32
  cfmPeerMepid : UInt32
  cfmMaid : List UInt8
  cfmDmac : Mac

/-- The number of the client role, `BR_MRP_RING_ROLE_MRC`. -/
def ringRoleMrc : UInt32 := 1

/-- The number of the manager role, `BR_MRP_RING_ROLE_MRM`. -/
def ringRoleMrm : UInt32 := 2

/-- The number of the auto-manager role, `BR_MRP_RING_ROLE_MRA`. -/
def ringRoleMra : UInt32 := 3

/-- The number of the interconnection client role, `BR_MRP_IN_ROLE_MIC`. -/
def inRoleMic : UInt32 := 1

/-- The number of the interconnection manager role, `BR_MRP_IN_ROLE_MIM`. -/
def inRoleMim : UInt32 := 2

/-- The error number `EINVAL`. -/
def einval : Int := 22

/-- The error number `ENOMEM`. -/
def enomem : Int := 12

/-! ## Recovery profiles -/

/-- The values that one case of the first switch of `mrp_update_recovery` sets. -/
structure RingProfile where
  topoInterval : UInt32
  topoMax : UInt32
  testShort : UInt32
  testInterval : UInt32
  testMax : UInt32
  linkInterval : UInt32
  linkMax : UInt32

/-- The cases of the first switch; intervals in microseconds. -/
def ringProfile (ringRecv : UInt8) : Option RingProfile :=
  if ringRecv = 0 then some ⟨20000, 3, 30000, 50000, 5, 100000, 4⟩
  else if ringRecv = 1 then some ⟨10000, 3, 10000, 20000, 3, 20000, 4⟩
  else if ringRecv = 2 then some ⟨500, 3, 1000, 3500, 3, 1000, 4⟩
  else if ringRecv = 3 then some ⟨500, 3, 500, 1000, 3, 1000, 4⟩
  else none

/-- The values that one case of the second switch of `mrp_update_recovery` sets. -/
structure InProfile where
  topoInterval : UInt32
  topoMax : UInt32
  testInterval : UInt32
  testMax : UInt32
  linkInterval : UInt32
  linkMax : UInt32
  linkStatusInterval : UInt32
  linkStatusMax : UInt32
  ccmPeriod : UInt32

/-- The cases of the second switch. -/
def inProfile (inRecv : UInt8) : Option InProfile :=
  if inRecv = 0 then some ⟨20000, 3, 50000, 8, 20000, 4, 20000, 8, 10000000⟩
  else if inRecv = 1 then some ⟨10000, 3, 20000, 8, 20000, 4, 20000, 8, 10000000⟩
  else none

namespace Mrp

/-- One case of the first switch of `mrp_update_recovery`. -/
def setRingProfile (mrp : Mrp) (pr : RingProfile) : Mrp :=
  { mrp with
    ringTopoConfInterval := pr.topoInterval
    ringTopoConfMax := pr.topoMax
    ringTopoCurrMax := pr.topoMax - 1
    ringTestConfShort := pr.testShort
    ringTestConfInterval := pr.testInterval
    ringTestConfMax := pr.testMax
    ringTestCurrMax := pr.testMax
    ringMonCurrMax := pr.testMax
    ringLinkConfInterval := pr.linkInterval
    ringLinkConfMax := pr.linkMax
    ringLinkCurrMax := 0 }

/-- One case of the second switch of `mrp_update_recovery`. -/
def setInProfile (mrp : Mrp) (pr : InProfile) : Mrp :=
  { mrp with
    inTopoConfInterval := pr.topoInterval
    inTopoConfMax := pr.topoMax
    inTopoCurrMax := pr.topoMax - 1
    inTestConfInterval := pr.testInterval
    inTestConfMax := pr.testMax
    inTestCurrMax := pr.testMax
    inLinkConfInterval := pr.linkInterval
    inLinkConfMax := pr.linkMax
    inLinkCurrMax := 0
    inLinkStatusConfInterval := pr.linkStatusInterval
    inLinkStatusConfMax := pr.linkStatusMax
    inLinkStatusCurrMax := 0
    cfmCcmPeriod := pr.ccmPeriod }

/-- The source's `mrp_update_recovery`.  An unknown profile keeps the values that
are there, and they are multiplied by the time factor once more. -/
def updateRecovery (mrp : Mrp) (timeFactor : UInt32) (ringRecv inRecv : UInt8) : Mrp :=
  let mrp := { mrp with ringRecv := ringRecv, inRecv := inRecv }
  let mrp :=
    match ringProfile ringRecv with
    | some pr => mrp.setRingProfile pr
    | none => mrp
  let mrp :=
    { mrp with
      ringTopoConfInterval := mrp.ringTopoConfInterval * timeFactor
      ringTestConfShort := mrp.ringTestConfShort * timeFactor
      ringTestConfInterval := mrp.ringTestConfInterval * timeFactor
      ringLinkConfInterval := mrp.ringLinkConfInterval * timeFactor }
  let mrp :=
    match inProfile inRecv with
    | some pr => mrp.setInProfile pr
    | none => mrp
  { mrp with
    inTopoConfInterval := mrp.inTopoConfInterval * timeFactor
    inTestConfInterval := mrp.inTestConfInterval * timeFactor
    inLinkConfInterval := mrp.inLinkConfInterval * timeFactor
    inLinkStatusConfInterval := mrp.inLinkStatusConfInterval * timeFactor }

/-! ## Construction -/

/-- A zeroed port structure. -/
def zeroPort : MrpPort := ⟨.disabled, 0, .zero, ifOperUnknown, none⟩

/-- A zeroed `struct mrp`, with empty logs.  The two ring ports are there from
the start; `mrp_port_init` fills them before anything reads them. -/
def zeroed (clock : Nat → UInt32) : Mrp where
  ifindex := 0
  ringNr := 0
  inId := 0
  mraSupport := false
  ringRecv := 0
  inMode := .rc
  inRecv := 0
  prio := 0
  ringTestConfShort := 0
  ringTestConfInterval := 0
  ringTestConfMax := 0
  ringMonCurrMax := 0
  ringTopoConfInterval := 0
  ringTopoConfMax := 0
  ringLinkConfInterval := 0
  ringLinkConfMax := 0
  inTestConfInterval := 0
  inTestConfMax := 0
  inTopoConfInterval := 0
  inTopoConfMax := 0
  inLinkConfInterval := 0
  inLinkConfMax := 0
  inLinkStatusConfInterval := 0
  inLinkStatusConfMax := 0
  blocked := 0
  reactOnLinkChange := 0
  cfmCcmPeriod := 0
  cfmInstance := 0
  cfmMepid := 0
  cfmPeerMepid := 0
  cfmCcmDmac := .zero
  clock := clock
  pPort := .primary
  sPort := .secondary
  ringPort := fun _ => zeroPort
  ringPrio := 0
  ringMac := .zero
  ringRole := .disabled
  mrmState := .acStat1
  mrcState := .acStat1
  addTest := false
  noTc := false
  ringTransitions := 0
  ringTestWork := .init
  ringTestCurr := 0
  ringTestCurrMax := 0
  ringMonCurr := 0
  ringTopoWork := .init
  ringTopoCurrMax := 0
  ringTopoRunning := false
  ringLinkUpWork := .init
  ringLinkDownWork := .init
  ringLinkCurrMax := 0
  iPort := none
  inRole := .disabled
  mimState := .acStat1
  micState := .acStat1
  inTransitions := 0
  inTestWork := .init
  inTestCurr := 0
  inTestCurrMax := 0
  inTopoWork := .init
  inTopoCurrMax := 0
  inLinkUpWork := .init
  inLinkDownWork := .init
  inLinkCurrMax := 0
  inLinkStatusWork := .init
  inLinkStatusCurrMax := 0
  macaddr := .zero
  seqId := 0
  clearFdbWork := .init
  cfmCcmWork := .init
  sent := []
  relayed := []
  calls := []

/-- The source's `mrp_create`, once the allocation has succeeded. -/
def create (env : Env) (brIfindex ringNr : UInt32) (inId : UInt16) : Mrp :=
  let mrp :=
    { zeroed env.clock with
      ifindex := brIfindex
      ringNr := ringNr
      inId := inId
      ringRole := .mrc
      inRole := .disabled
      prio := 0x8000 }
  { mrp.updateRecovery env.timeFactor 0 0 with
    blocked := 1
    reactOnLinkChange := 1 }

/-- The port structure that `mrp_port_init` fills. -/
def initialPort (env : Env) (ifindex : UInt32) : MrpPort :=
  { zeroPort with ifindex := ifindex, macaddr := env.ifGetMac ifindex }

/-- The source's `mrp_port_init`, once the allocation has succeeded. -/
def portInit (mrp : Mrp) (env : Env) (ifindex : UInt32) : Port → Mrp
  | .ring r =>
      { mrp with ringPort := Function.update mrp.ringPort r (initialPort env ifindex) }
  | .inter => { mrp with iPort := some (initialPort env ifindex) }

/-- The source's `mrp_start_cfm`.  It follows the interconnection port without
looking whether there is one. -/
def startCfm (mrp : Mrp) (a : AddArgs) : Mrp :=
  let mrp :=
    { mrp with
      cfmMepid := a.cfmMepid
      cfmPeerMepid := a.cfmPeerMepid
      cfmInstance := a.cfmInstance }
  match mrp.iPort with
  | none => mrp.call .nullDeref
  | some port =>
      { mrp with cfmCcmDmac := a.cfmDmac }
        |>.call (.cfmMepCreate a.cfmInstance port.ifindex)
        |>.call (.cfmMepConfig a.cfmInstance port.macaddr a.cfmLevel a.cfmMepid)
        |>.call (.cfmCcConfig a.cfmInstance a.cfmMaid)
        |>.call (.cfmCcPeer a.cfmInstance a.cfmPeerMepid)
        |>.call (.cfmCcmTx a.cfmInstance a.cfmDmac mrp.cfmCcmPeriod)
        |>.cfmCcmStart mrp.cfmCcmPeriod

/-- The two assignments of the priority in `mrp_add`. -/
def setPrio (mrp : Mrp) (prio : UInt16) : Mrp := { mrp with prio := prio, ringPrio := prio }

/-- The instance that `mrp_add` has when it starts to initialise the ports. -/
def applySettings (env : Env) (a : AddArgs) : Mrp :=
  let mrp := (create env a.brIfindex a.ringNr a.inId).setPrio a.prio
  { mrp.updateRecovery env.timeFactor a.ringRecv a.inRecv with
    reactOnLinkChange := a.reactOnLinkChange.toUInt32
    inMode := .ofUInt32 a.inMode
    macaddr := env.ifGetMac a.brIfindex }

/-- The ports that `mrp_add` initialises. -/
def initPorts (mrp : Mrp) (env : Env) (a : AddArgs) : Mrp :=
  let mrp := mrp.portInit env a.pport (.ring .primary)
  let mrp := mrp.portInit env a.sport (.ring .secondary)
  if a.iport > 0 then mrp.portInit env a.iport .inter else mrp

/-- The instance that `mrp_add` has built when it starts to set roles. -/
def configure (env : Env) (a : AddArgs) : Mrp :=
  let mrp := (applySettings env a).initPorts env a
  if mrp.inMode ≠ .rc then mrp.startCfm a else mrp

/-! ## Setting roles

Both ring ports exist when a role is set, so the first check of the three ring
functions never fails and is left out.
-/

/-- A ring port whose link is up when a role is set. -/
def announceRingLink (mrp : Mrp) (env : Env) (r : RingPort) : Mrp :=
  if env.ifGetLink (.ring r) then mrp.portLinkChange (.ring r) true else mrp

/-- The links that are up when a ring role is set are announced to its machine. -/
def announceRingLinks (mrp : Mrp) (env : Env) : Mrp :=
  let mrp := mrp.announceRingLink env mrp.pPort
  mrp.announceRingLink env mrp.sPort

/-- The common end of the three functions that set a ring role. -/
def takeRingRole (mrp : Mrp) (env : Env) (role : RingRole) : Mrp × Int :=
  let mrp := mrp.portSetState (.ring mrp.pPort) .blocked
  let mrp := mrp.portSetState (.ring mrp.sPort) .blocked
  let mrp := mrp.setRingRole role
  if env.setRingRole ≠ 0 then (mrp, env.setRingRole) else (mrp.announceRingLinks env, 0)

/-- The source's `mrp_set_mra_role`. -/
def setMraRole (mrp : Mrp) (env : Env) : Mrp × Int :=
  { mrp with mraSupport := true }.resetRingState.setMrmInit.setMrcInit
    |>.setMrmState .acStat1
    |>.takeRingRole env .mrm

/-- The source's `mrp_set_mrm_role`. -/
def setMrmRole (mrp : Mrp) (env : Env) : Mrp × Int :=
  mrp.resetRingState.setMrmInit
    |>.setMrmState .acStat1
    |>.takeRingRole env .mrm

/-- The source's `mrp_set_mrc_role`. -/
def setMrcRole (mrp : Mrp) (env : Env) : Mrp × Int :=
  mrp.resetRingState.setMrcInit
    |>.setMrcState .acStat1
    |>.takeRingRole env .mrc

/-- The part of `mrp_add` that sets the ring role; a number outside the list
sets none and keeps the error code, which is zero. -/
def setRingRoleByNumber (mrp : Mrp) (env : Env) (ringRole : UInt32) : Mrp × Int :=
  if ringRole = ringRoleMrm then mrp.setMrmRole env
  else if ringRole = ringRoleMrc then mrp.setMrcRole env
  else if ringRole = ringRoleMra then mrp.setMraRole env
  else (mrp, 0)

end Mrp

/-! ## The list of instances -/

/-- The list `mrp_instances`. -/
abbrev Registry := List Mrp

namespace Registry

/-- The source's `mrp_find`. -/
def mrpFind (reg : Registry) (brIfindex ringNr : UInt32) : Option Mrp :=
  reg.find? fun mrp => mrp.ringNr = ringNr && mrp.ifindex = brIfindex

/-- The test of `mrp_get_mrp`. -/
def isMrp (mrp : Mrp) (ifindex peerMepid : UInt32) : Bool :=
  mrp.ifindex = ifindex && mrp.cfmPeerMepid = peerMepid

/-- The source's `mrp_cfm_link_change`: the first instance that fits gets the event. -/
def cfmLinkChange : Registry → UInt32 → UInt32 → Bool → Registry
  | [], _, _, _ => []
  | mrp :: reg, ifindex, peerMepid, defect =>
      if isMrp mrp ifindex peerMepid then mrp.cfmLinkChange defect :: reg
      else mrp :: cfmLinkChange reg ifindex peerMepid defect

/-- The event that an in-role function raises for a new instance `mrp`, which is
the last of the list: an older instance can catch a CFM event. -/
def announceInLink (reg : Registry) (mrp : Mrp) (env : Env) : Registry × Mrp :=
  if env.ifGetLink .inter then
    if mrp.inMode = .rc then (reg, mrp.portLinkChange .inter true)
    else if reg.any fun other => isMrp other mrp.ifindex mrp.cfmPeerMepid then
      (reg.cfmLinkChange mrp.ifindex mrp.cfmPeerMepid false, mrp)
    else (reg, mrp.cfmLinkChange false)
  else (reg, mrp)

/-- The common text of `mrp_set_mim_role` and `mrp_set_mic_role`.  Besides the
role they differ in whether the state is logged before or after the driver is
asked. -/
def takeInRole (reg : Registry) (mrp : Mrp) (env : Env) (role : InRole) : Registry × Mrp × Int :=
  if mrp.iPort.isNone then (reg, mrp, -einval)
  else
    let mrp := { mrp with mimState := .acStat1, micState := .acStat1 }.setInRole role
    if env.setInRole ≠ 0 then (reg, mrp, env.setInRole)
    else
      let (reg, mrp) := reg.announceInLink (mrp.portSetState .inter .blocked) env
      (reg, mrp, 0)

/-- The source's `mrp_set_mim_role`. -/
def setMimRole (reg : Registry) (mrp : Mrp) (env : Env) : Registry × Mrp × Int :=
  reg.takeInRole mrp env .mim

/-- The source's `mrp_set_mic_role`. -/
def setMicRole (reg : Registry) (mrp : Mrp) (env : Env) : Registry × Mrp × Int :=
  reg.takeInRole mrp env .mic

/-- The part of `mrp_add` that sets the interconnection role; the error code of
the ring role is overwritten. -/
def setInRoleByNumber (reg : Registry) (x : Mrp × Int) (env : Env) (inRole : UInt32) :
    Registry × Mrp × Int :=
  if inRole = inRoleMim then reg.setMimRole x.1 env
  else if inRole = inRoleMic then reg.setMicRole x.1 env
  else (reg, x.1, x.2)

/-- The allocations of `mrp_add`. -/
def allocated (env : Env) (a : AddArgs) : Bool :=
  env.mallocMrp && env.mallocPort (.ring .primary) && env.mallocPort (.ring .secondary) &&
    (a.iport = 0 || env.mallocPort .inter)

/-- The source's `mrp_add`: the list afterwards and the error code.  On an error
the new instance is taken out of the list again. -/
def mrpAdd (env : Env) (reg : Registry) (a : AddArgs) : Registry × Int :=
  if (reg.mrpFind a.brIfindex a.ringNr).isSome then (reg, -einval)
  else if allocated env a = false then (reg, -enomem)
  else
    let (reg, mrp, err) :=
      reg.setInRoleByNumber ((Mrp.configure env a).setRingRoleByNumber env a.ringRole) env a.inRole
    if err ≠ 0 then (reg, err) else (reg ++ [mrp], 0)

end Registry

/-- The instance is what a successful `mrp_add` appended to some list. -/
def Created (env : Env) (a : AddArgs) (mrp : Mrp) : Prop :=
  ∃ reg reg', Registry.mrpAdd env reg a = (reg' ++ [mrp], 0)

end Umrp
