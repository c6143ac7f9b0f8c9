import Umrp.Model.Send

/-!
# Timer expiry

The callbacks of `timer.c`.  Starting and stopping the timers is part of the
instance model; here is what runs when one of them fires.
-/

namespace Umrp

namespace Mrp

/-- The source's `mrp_clear_fdb_expired`. -/
def clearFdbExpired (mrp : Mrp) : Mrp :=
  mrp.flush.clearFdbStop

/-- The source's `mrp_mrm_ring_test_expired`. -/
def mrmRingTestExpired (mrp : Mrp) : Mrp :=
  match mrp.mrmState with
  | .acStat1 => mrp
  | .prmUp | .chkRo =>
      (mrp.setAddTest false).ringTestReq mrp.ringTestConfInterval
  | .chkRc =>
      if mrp.ringTestCurr ≥ mrp.ringTestCurrMax then
        let mrp :=
          (mrp.portSetState (.ring mrp.sPort) .forwarding).resetRingTestCount.setAddTest false
        let mrp := if mrp.noTc then mrp else mrp.ringTopoReq mrp.ringTopoConfInterval
        let mrp := mrp.ringTestReq mrp.ringTestConfInterval
        mrp.nextRingTransition.setMrmState .chkRo
      else
        (mrp.setRingTestCurr (mrp.ringTestCurr + 1)).setAddTest false
          |>.ringTestReq mrp.ringTestConfInterval

/-- The last part of `mrp_mrc_ring_test_expired`: the client state decides how
the manager starts. -/
def enterManager (mrp : Mrp) : Mrp :=
  match mrp.mrcState with
  | .deIdle => (mrp.setMrmState .prmUp).setRingRole .mrm
  | .pt => (mrp.setMrmState .chkRc).setRingRole .mrm
  | .de => (mrp.setMrmState .prmUp).setRingRole .mrm
  | .ptIdle => (mrp.setMrmState .chkRo).setRingRole .mrm
  | .acStat1 => mrp

/-- The source's `mrp_mrc_ring_test_expired`: a client counts the periods in
which it saw no manager and takes over when there were too many. -/
def mrcRingTestExpired (mrp : Mrp) : Mrp :=
  if mrp.ringMonCurr ≤ mrp.ringMonCurrMax then
    (mrp.setRingMonCurr (mrp.ringMonCurr + 1)).ringTestStart mrp.ringTestConfShort
  else
    (mrp.ringTestStart mrp.ringTestConfShort).setMrmInit.enterManager

/-- The source's `mrp_ring_test_expired`. -/
def ringTestExpired (mrp : Mrp) : Mrp :=
  if mrp.mraSupport = true ∧ mrp.ringRole = .mrc then mrp.mrcRingTestExpired
  else if mrp.ringRole = .mrm then mrp.mrmRingTestExpired
  else mrp

/-- The source's `mrp_ring_topo_expired`. -/
def ringTopoExpired (mrp : Mrp) : Mrp :=
  if mrp.ringTopoCurrMax > 0 then
    let mrp := mrp.ringTopoSend (mrp.ringTopoCurrMax * mrp.ringTopoConfInterval)
    mrp.setRingTopoCurrMax (mrp.ringTopoCurrMax - 1)
  else
    mrp.setRingTopoCurrMax (mrp.ringTopoConfMax - 1)
      |>.flush
      |>.ringTopoSend 0
      |>.ringTopoStop

/-- The source's `mrp_ring_link_up_expired`. -/
def ringLinkUpExpired (mrp : Mrp) : Mrp :=
  let delay := mrp.ringLinkConfInterval
  if mrp.ringLinkCurrMax > 0 then
    let mrp := mrp.setRingLinkCurrMax (mrp.ringLinkCurrMax - 1)
    mrp.ringLinkUpStart delay
      |>.ringLinkReq mrp.pPort true (mrp.ringLinkCurrMax * delay)
  else
    mrp.setRingLinkCurrMax mrp.ringLinkConfMax
      |>.portSetState (.ring mrp.sPort) .forwarding
      |>.setMrcState .ptIdle
      |>.ringLinkUpStop

/-- The source's `mrp_ring_link_down_expired`. -/
def ringLinkDownExpired (mrp : Mrp) : Mrp :=
  let delay := mrp.ringLinkConfInterval
  if mrp.ringLinkCurrMax > 0 then
    let mrp := mrp.setRingLinkCurrMax (mrp.ringLinkCurrMax - 1)
    mrp.ringLinkDownStart delay
      |>.ringLinkReq mrp.pPort false (mrp.ringLinkCurrMax * delay)
  else
    mrp.setRingLinkCurrMax mrp.ringLinkConfMax
      |>.setMrcState .deIdle
      |>.ringLinkDownStop

/-- The source's `mrp_in_test_expired`. -/
def inTestExpired (mrp : Mrp) : Mrp :=
  match mrp.mimState with
  | .acStat1 => mrp
  | .chkIo => mrp.inTestReq mrp.inTestConfInterval
  | .chkIc =>
      if mrp.inTestCurr ≥ mrp.inTestCurrMax then
        let mrp :=
          (mrp.portSetState .inter .forwarding).resetInTestCount
            |>.inTopoReq mrp.inTopoConfInterval
            |>.inTestReq mrp.inTestConfInterval
        mrp.nextInTransition.setMimState .chkIo
      else
        (mrp.setInTestCurr (mrp.inTestCurr + 1)).inTestReq mrp.inTestConfInterval

/-- The source's `mrp_in_topo_expired`. -/
def inTopoExpired (mrp : Mrp) : Mrp :=
  if mrp.inTopoCurrMax > 0 then
    let mrp := mrp.inTopoSend (mrp.inTopoCurrMax * mrp.inTopoConfInterval)
    mrp.setInTopoCurrMax (mrp.inTopoCurrMax - 1)
  else
    mrp.setInTopoCurrMax (mrp.inTopoConfMax - 1)
      |>.flush
      |>.inTopoSend 0
      |>.inTopoStop

/-- The source's `mrp_in_link_up_expired`. -/
def inLinkUpExpired (mrp : Mrp) : Mrp :=
  let delay := mrp.inLinkConfInterval
  if mrp.inLinkCurrMax > 0 then
    let mrp := mrp.setInLinkCurrMax (mrp.inLinkCurrMax - 1)
    mrp.inLinkUpStart delay
      |>.inLinkReq true (mrp.inLinkCurrMax * delay)
  else
    mrp.setInLinkCurrMax mrp.inLinkConfMax
      |>.portSetState .inter .forwarding
      |>.setMicState .ipIdle
      |>.inLinkUpStop

/-- The source's `mrp_in_link_down_expired`. -/
def inLinkDownExpired (mrp : Mrp) : Mrp :=
  let delay := mrp.inLinkConfInterval
  if mrp.inLinkCurrMax > 0 then
    let mrp := mrp.setInLinkCurrMax (mrp.inLinkCurrMax - 1)
    mrp.inLinkDownStart delay
      |>.inLinkReq false (mrp.inLinkCurrMax * delay)
  else
    (mrp.setInLinkCurrMax mrp.inLinkConfMax).inLinkDownStop

/-- The source's `mrp_in_link_status_expired`. -/
def inLinkStatusExpired (mrp : Mrp) : Mrp :=
  let delay := mrp.inLinkStatusConfInterval
  if mrp.inLinkStatusCurrMax > 0 then
    let mrp := mrp.setInLinkStatusCurrMax (mrp.inLinkStatusCurrMax - 1)
    mrp.inLinkStatusReq (mrp.inLinkStatusCurrMax * delay)
  else
    (mrp.setInLinkStatusCurrMax mrp.inLinkStatusConfMax).inLinkStatusStop

/-- The source's `mrp_cfm_ccm_expired`. -/
def cfmCcmExpired (mrp : Mrp) : Mrp :=
  (mrp.cfmCcmStart mrp.cfmCcmPeriod).call
    (.cfmCcmTx mrp.cfmInstance mrp.cfmCcmDmac mrp.cfmCcmPeriod)

/-- The callback that `mrp_timer_init` ties to a timer. -/
def expired (mrp : Mrp) : TimerId → Mrp
  | .clearFdb => mrp.clearFdbExpired
  | .ringTopo => mrp.ringTopoExpired
  | .ringTest => mrp.ringTestExpired
  | .ringLinkUp => mrp.ringLinkUpExpired
  | .ringLinkDown => mrp.ringLinkDownExpired
  | .inTest => mrp.inTestExpired
  | .inTopo => mrp.inTopoExpired
  | .inLinkUp => mrp.inLinkUpExpired
  | .inLinkDown => mrp.inLinkDownExpired
  | .inLinkStatus => mrp.inLinkStatusExpired
  | .cfmCcm => mrp.cfmCcmExpired

end Mrp

end Umrp
