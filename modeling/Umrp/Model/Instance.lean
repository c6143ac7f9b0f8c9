import Umrp.Model.Pdu
import Mathlib.Logic.Function.Basic

/-!
# The MRP instance

The fields of `struct mrp` and `struct mrp_port`, grouped by the machine that
writes them: settings that stay as `mrp_add` left them, the ring, the
interconnection, and the rest.  Behind the C fields an instance carries three
logs, newest entry first: the frames it built and sent, the frames it relayed,
and its calls into the interface driver, libcfm and libev.  They are how the
later files speak about what the code did, not only about where it ended.

Fields that no function below reads (names, locks, list links, the extended and
short test limits of `timer.c` that are only printed) are left out.
-/

namespace Umrp

/-! ## Timers -/

/-- A libev timer: whether it is active, and its repeat value in microseconds. -/
structure EvTimer where
  active : Bool
  period : UInt32
deriving DecidableEq

/-- A timer after `ev_init`. -/
def EvTimer.init : EvTimer := ⟨false, 0⟩

/-- A timer after its repeat value was set and `ev_timer_again` called: a zero
repeat value stops the timer, any other starts or restarts it. -/
def EvTimer.again (interval : UInt32) : EvTimer := ⟨interval != 0, interval⟩

/-- A timer after `ev_timer_stop`. -/
def EvTimer.stop (w : EvTimer) : EvTimer := { w with active := false }

@[simp]
theorem EvTimer.active_stop (w : EvTimer) : w.stop.active = false :=
  rfl

@[simp]
theorem EvTimer.active_again (interval : UInt32) :
    (EvTimer.again interval).active = (interval != 0) :=
  rfl

/-- The timers of an instance. -/
inductive TimerId
  | clearFdb | ringTopo | ringTest | ringLinkUp | ringLinkDown
  | inTest | inTopo | inLinkUp | inLinkDown | inLinkStatus | cfmCcm
deriving DecidableEq

/-! ## Logs -/

/-- A frame relayed by `mrp_forward`, as it left the interface. -/
structure Relay where
  port : Port
  bytes : List UInt8
deriving DecidableEq

/-- Calls that leave the state machine other than `packet_send`.  A
`nullDeref` entry marks the use of a port pointer that is NULL. -/
inductive Call
  | portSetState (p : Port) (state : PortState)
  | setRingRole (role : RingRole)
  | setInRole (role : InRole)
  | flush
  | timerAgain (w : TimerId) (interval : UInt32)
  | timerStop (w : TimerId)
  | cfmMepCreate (cfmInstance ifindex : UInt32)
  | cfmMepConfig (cfmInstance : UInt32) (smac : Mac) (level mepid : UInt32)
  | cfmCcConfig (cfmInstance : UInt32) (maid : List UInt8)
  | cfmCcPeer (cfmInstance peerMepid : UInt32)
  | cfmCcmTx (cfmInstance : UInt32) (dmac : Mac) (period : UInt32)
  | nullDeref
deriving DecidableEq

/-! ## The instance -/

/-- A port, `struct mrp_port`.  The last field is not in the source: it records
the direction of the last link event that a state machine was given for the
port. -/
structure MrpPort where
  state : PortState
  ifindex : UInt32
  macaddr : Mac
  operstate : UInt8
  lastLink : Option Bool
deriving DecidableEq

/-- Settings of an instance.  Once `mrp_add` has returned, nothing writes them.
The clock is not a field of `struct mrp`: `clock n` is what `CLOCK_MONOTONIC`
reads, in milliseconds, when the frame after the first `n` sent ones is built. -/
structure MrpConf where
  ifindex : UInt32
  ringNr : UInt32
  inId : UInt16
  mraSupport : Bool
  ringRecv : UInt8
  inMode : InMode
  inRecv : UInt8
  prio : UInt16
  ringTestConfShort : UInt32
  ringTestConfInterval : UInt32
  ringTestConfMax : UInt32
  ringMonCurrMax : UInt32
  ringTopoConfInterval : UInt32
  ringTopoConfMax : UInt32
  ringLinkConfInterval : UInt32
  ringLinkConfMax : UInt32
  inTestConfInterval : UInt32
  inTestConfMax : UInt32
  inTopoConfInterval : UInt32
  inTopoConfMax : UInt32
  inLinkConfInterval : UInt32
  inLinkConfMax : UInt32
  inLinkStatusConfInterval : UInt32
  inLinkStatusConfMax : UInt32
  blocked : UInt32
  reactOnLinkChange : UInt32
  cfmCcmPeriod : UInt32
  cfmInstance : UInt32
  cfmMepid : UInt32
  cfmPeerMepid : UInt32
  cfmCcmDmac : Mac
  clock : Nat → UInt32

/-- The ring side of an instance. -/
structure RingPart where
  pPort : RingPort
  sPort : RingPort
  ringPort : RingPort → MrpPort
  ringPrio : UInt16
  ringMac : Mac
  ringRole : RingRole
  mrmState : MrmState
  mrcState : MrcState
  addTest : Bool
  noTc : Bool
  ringTransitions : UInt16
  ringTestWork : EvTimer
  ringTestCurr : UInt32
  ringTestCurrMax : UInt32
  ringMonCurr : UInt32
  ringTopoWork : EvTimer
  ringTopoCurrMax : UInt32
  ringTopoRunning : Bool
  ringLinkUpWork : EvTimer
  ringLinkDownWork : EvTimer
  ringLinkCurrMax : UInt32

/-- The interconnection side of an instance; `iPort` is `none` where the C
pointer is NULL. -/
structure InPart where
  iPort : Option MrpPort
  inRole : InRole
  mimState : MimState
  micState : MicState
  inTransitions : UInt16
  inTestWork : EvTimer
  inTestCurr : UInt32
  inTestCurrMax : UInt32
  inTopoWork : EvTimer
  inTopoCurrMax : UInt32
  inLinkUpWork : EvTimer
  inLinkDownWork : EvTimer
  inLinkCurrMax : UInt32
  inLinkStatusWork : EvTimer
  inLinkStatusCurrMax : UInt32

/-- An MRP instance, `struct mrp`, with its logs. -/
structure Mrp extends MrpConf, RingPart, InPart where
  macaddr : Mac
  seqId : UInt16
  clearFdbWork : EvTimer
  cfmCcmWork : EvTimer
  sent : List Sent
  relayed : List Relay
  calls : List Call

/-! ## Ports -/

/-- Write the state of a ring port. -/
def RingPart.setPortState (x : RingPart) (r : RingPort) (state : PortState) : RingPart :=
  { x with ringPort := Function.update x.ringPort r { x.ringPort r with state := state } }

/-- State of the port that is the primary ring port at the moment. -/
def RingPart.pState (x : RingPart) : PortState := (x.ringPort x.pPort).state

/-- State of the port that is the secondary ring port at the moment. -/
def RingPart.sState (x : RingPart) : PortState := (x.ringPort x.sPort).state

namespace Mrp

/-- The port structure behind a port, if there is one. -/
def port? (mrp : Mrp) : Port → Option MrpPort
  | .ring r => some (mrp.ringPort r)
  | .inter => mrp.iPort

/-- Record a call that leaves the state machine. -/
def call (mrp : Mrp) (c : Call) : Mrp := { mrp with calls := c :: mrp.calls }

/-- The source's `mrp_port_set_state`.  The driver's answer is ignored by every
caller, so it is not modelled. -/
def portSetState (mrp : Mrp) (p : Port) (state : PortState) : Mrp :=
  match p with
  | .ring r =>
      { mrp with toRingPart := mrp.toRingPart.setPortState r state }.call
        (.portSetState p state)
  | .inter =>
      match mrp.iPort with
      | none => mrp.call .nullDeref
      | some port =>
          { mrp with iPort := some { port with state := state } }.call (.portSetState p state)

/-- The source's `ifdriver_flush`, whose answer every caller ignores. -/
def flush (mrp : Mrp) : Mrp := mrp.call .flush

/-! ## Starting and stopping timers -/

/-- The source's `mrp_clear_fdb_start`. -/
def clearFdbStart (mrp : Mrp) (interval : UInt32) : Mrp :=
  let mrp := { mrp with clearFdbWork := .again interval }.call (.timerAgain .clearFdb interval)
  if interval = 0 then mrp.flush else mrp

/-- The source's `mrp_clear_fdb_stop`. -/
def clearFdbStop (mrp : Mrp) : Mrp :=
  { mrp with clearFdbWork := mrp.clearFdbWork.stop }.call (.timerStop .clearFdb)

/-- The source's `mrp_ring_test_start`. -/
def ringTestStart (mrp : Mrp) (interval : UInt32) : Mrp :=
  { mrp with ringTestWork := .again interval }.call (.timerAgain .ringTest interval)

/-- The source's `mrp_ring_test_stop`. -/
def ringTestStop (mrp : Mrp) : Mrp :=
  { mrp with ringTestWork := mrp.ringTestWork.stop }.call (.timerStop .ringTest)

/-- The source's `mrp_ring_topo_start`. -/
def ringTopoStart (mrp : Mrp) (interval : UInt32) : Mrp :=
  { mrp with ringTopoRunning := true, ringTopoWork := .again interval }.call
    (.timerAgain .ringTopo interval)

/-- The source's `mrp_ring_topo_stop`. -/
def ringTopoStop (mrp : Mrp) : Mrp :=
  { mrp with ringTopoRunning := false, ringTopoWork := mrp.ringTopoWork.stop }.call
    (.timerStop .ringTopo)

/-- The source's `mrp_ring_link_up_start`. -/
def ringLinkUpStart (mrp : Mrp) (interval : UInt32) : Mrp :=
  { mrp with ringLinkUpWork := .again interval }.call (.timerAgain .ringLinkUp interval)

/-- The source's `mrp_ring_link_up_stop`. -/
def ringLinkUpStop (mrp : Mrp) : Mrp :=
  { mrp with ringLinkUpWork := mrp.ringLinkUpWork.stop }.call (.timerStop .ringLinkUp)

/-- The source's `mrp_ring_link_down_start`. -/
def ringLinkDownStart (mrp : Mrp) (interval : UInt32) : Mrp :=
  { mrp with ringLinkDownWork := .again interval }.call (.timerAgain .ringLinkDown interval)

/-- The source's `mrp_ring_link_down_stop`. -/
def ringLinkDownStop (mrp : Mrp) : Mrp :=
  { mrp with ringLinkDownWork := mrp.ringLinkDownWork.stop }.call (.timerStop .ringLinkDown)

/-- The source's `mrp_in_test_start`. -/
def inTestStart (mrp : Mrp) (interval : UInt32) : Mrp :=
  { mrp with inTestWork := .again interval }.call (.timerAgain .inTest interval)

/-- The source's `mrp_in_test_stop`. -/
def inTestStop (mrp : Mrp) : Mrp :=
  { mrp with inTestWork := mrp.inTestWork.stop }.call (.timerStop .inTest)

/-- The source's `mrp_in_topo_start`. -/
def inTopoStart (mrp : Mrp) (interval : UInt32) : Mrp :=
  { mrp with inTopoWork := .again interval }.call (.timerAgain .inTopo interval)

/-- The source's `mrp_in_topo_stop`. -/
def inTopoStop (mrp : Mrp) : Mrp :=
  { mrp with inTopoWork := mrp.inTopoWork.stop }.call (.timerStop .inTopo)

/-- The source's `mrp_in_link_up_start`. -/
def inLinkUpStart (mrp : Mrp) (interval : UInt32) : Mrp :=
  { mrp with inLinkUpWork := .again interval }.call (.timerAgain .inLinkUp interval)

/-- The source's `mrp_in_link_up_stop`. -/
def inLinkUpStop (mrp : Mrp) : Mrp :=
  { mrp with inLinkUpWork := mrp.inLinkUpWork.stop }.call (.timerStop .inLinkUp)

/-- The source's `mrp_in_link_down_start`. -/
def inLinkDownStart (mrp : Mrp) (interval : UInt32) : Mrp :=
  { mrp with inLinkDownWork := .again interval }.call (.timerAgain .inLinkDown interval)

/-- The source's `mrp_in_link_down_stop`. -/
def inLinkDownStop (mrp : Mrp) : Mrp :=
  { mrp with inLinkDownWork := mrp.inLinkDownWork.stop }.call (.timerStop .inLinkDown)

/-- The source's `mrp_in_link_status_start`. -/
def inLinkStatusStart (mrp : Mrp) (interval : UInt32) : Mrp :=
  { mrp with inLinkStatusWork := .again interval }.call (.timerAgain .inLinkStatus interval)

/-- The source's `mrp_in_link_status_stop`. -/
def inLinkStatusStop (mrp : Mrp) : Mrp :=
  { mrp with inLinkStatusWork := mrp.inLinkStatusWork.stop }.call (.timerStop .inLinkStatus)

/-- The source's `mrp_cfm_ccm_start`. -/
def cfmCcmStart (mrp : Mrp) (interval : UInt32) : Mrp :=
  { mrp with cfmCcmWork := .again interval }.call (.timerAgain .cfmCcm interval)

/-- The source's `mrp_cfm_ccm_stop`. -/
def cfmCcmStop (mrp : Mrp) : Mrp :=
  { mrp with cfmCcmWork := mrp.cfmCcmWork.stop }.call (.timerStop .cfmCcm)

/-- The source's `mrp_timer_stop`: which timers are stopped depends on the
interconnection role and mode. -/
def timerStop (mrp : Mrp) : Mrp :=
  let mrp := mrp.clearFdbStop.ringTopoStop.ringLinkUpStop.ringLinkDownStop.ringTestStop
  if mrp.inRole ≠ .disabled then
    let mrp := mrp.inTopoStop.inLinkUpStop.inLinkDownStop
    if mrp.inMode = .rc then mrp.inTestStop else mrp.inLinkStatusStop.cfmCcmStop
  else mrp

/-- The timer behind a name. -/
def timer (mrp : Mrp) : TimerId → EvTimer
  | .clearFdb => mrp.clearFdbWork
  | .ringTopo => mrp.ringTopoWork
  | .ringTest => mrp.ringTestWork
  | .ringLinkUp => mrp.ringLinkUpWork
  | .ringLinkDown => mrp.ringLinkDownWork
  | .inTest => mrp.inTestWork
  | .inTopo => mrp.inTopoWork
  | .inLinkUp => mrp.inLinkUpWork
  | .inLinkDown => mrp.inLinkDownWork
  | .inLinkStatus => mrp.inLinkStatusWork
  | .cfmCcm => mrp.cfmCcmWork

/-! ## State setters -/

/-- The source's `mrp_set_ring_role`, without the driver's answer. -/
def setRingRole (mrp : Mrp) (role : RingRole) : Mrp :=
  { mrp with ringRole := role }.call (.setRingRole role)

/-- The source's `mrp_set_in_role`, without the driver's answer. -/
def setInRole (mrp : Mrp) (role : InRole) : Mrp :=
  { mrp with inRole := role }.call (.setInRole role)

/-- The source's `mrp_set_mrm_init`. -/
def setMrmInit (mrp : Mrp) : Mrp :=
  { mrp with addTest := false, noTc := false, ringTestCurr := 0 }

/-- The source's `mrp_set_mrc_init`. -/
def setMrcInit (mrp : Mrp) : Mrp :=
  { mrp with ringLinkCurrMax := mrp.ringLinkConfMax, ringMonCurr := 0 }

/-- The source's `mrp_set_mrm_state`; it clears `no_tc` as well. -/
def setMrmState (mrp : Mrp) (state : MrmState) : Mrp :=
  { mrp with mrmState := state, noTc := false }

/-- The source's `mrp_set_mrc_state`. -/
def setMrcState (mrp : Mrp) (state : MrcState) : Mrp :=
  { mrp with mrcState := state }

/-- The source's `mrp_set_mim_state`. -/
def setMimState (mrp : Mrp) (state : MimState) : Mrp :=
  { mrp with mimState := state }

/-- The source's `mrp_set_mic_state`. -/
def setMicState (mrp : Mrp) (state : MicState) : Mrp :=
  { mrp with micState := state }

/-! ## Assignments to counters and flags -/

/-- Assign `add_test`. -/
def setAddTest (mrp : Mrp) (b : Bool) : Mrp := { mrp with addTest := b }

/-- Assign `no_tc`. -/
def setNoTc (mrp : Mrp) (b : Bool) : Mrp := { mrp with noTc := b }

/-- Count a transition of the ring, `ring_transitions++`. -/
def nextRingTransition (mrp : Mrp) : Mrp :=
  { mrp with ringTransitions := mrp.ringTransitions + 1 }

/-- Assign `ring_test_curr`. -/
def setRingTestCurr (mrp : Mrp) (n : UInt32) : Mrp := { mrp with ringTestCurr := n }

/-- Assign `ring_test_curr_max`. -/
def setRingTestCurrMax (mrp : Mrp) (n : UInt32) : Mrp := { mrp with ringTestCurrMax := n }

/-- The two assignments with which the count of missed test frames restarts. -/
def resetRingTestCount (mrp : Mrp) : Mrp :=
  (mrp.setRingTestCurrMax (mrp.ringTestConfMax - 1)).setRingTestCurr 0

/-- Assign `ring_mon_curr`. -/
def setRingMonCurr (mrp : Mrp) (n : UInt32) : Mrp := { mrp with ringMonCurr := n }

/-- Assign `ring_prio`. -/
def setRingPrio (mrp : Mrp) (prio : UInt16) : Mrp := { mrp with ringPrio := prio }

/-- Assign `ring_mac`. -/
def setRingMac (mrp : Mrp) (mac : Mac) : Mrp := { mrp with ringMac := mac }

/-- Assign `ring_topo_curr_max`. -/
def setRingTopoCurrMax (mrp : Mrp) (n : UInt32) : Mrp := { mrp with ringTopoCurrMax := n }

/-- Assign `ring_link_curr_max`. -/
def setRingLinkCurrMax (mrp : Mrp) (n : UInt32) : Mrp := { mrp with ringLinkCurrMax := n }

/-- Count a transition of the interconnection, `in_transitions++`. -/
def nextInTransition (mrp : Mrp) : Mrp := { mrp with inTransitions := mrp.inTransitions + 1 }

/-- Assign `in_test_curr`. -/
def setInTestCurr (mrp : Mrp) (n : UInt32) : Mrp := { mrp with inTestCurr := n }

/-- Assign `in_test_curr_max`. -/
def setInTestCurrMax (mrp : Mrp) (n : UInt32) : Mrp := { mrp with inTestCurrMax := n }

/-- The two assignments with which the count of missed interconnection tests restarts. -/
def resetInTestCount (mrp : Mrp) : Mrp :=
  (mrp.setInTestCurrMax (mrp.inTestConfMax - 1)).setInTestCurr 0

/-- Assign `in_topo_curr_max`. -/
def setInTopoCurrMax (mrp : Mrp) (n : UInt32) : Mrp := { mrp with inTopoCurrMax := n }

/-- Assign `in_link_curr_max`. -/
def setInLinkCurrMax (mrp : Mrp) (n : UInt32) : Mrp := { mrp with inLinkCurrMax := n }

/-- Assign `in_link_status_curr_max`. -/
def setInLinkStatusCurrMax (mrp : Mrp) (n : UInt32) : Mrp :=
  { mrp with inLinkStatusCurrMax := n }

/-- The source's `mrp_reset_ring_state`. -/
def resetRingState (mrp : Mrp) : Mrp :=
  { mrp.timerStop with mrmState := .acStat1, mrcState := .acStat1 }

end Mrp

end Umrp
