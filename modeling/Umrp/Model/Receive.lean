import Umrp.Model.Send

/-!
# Receive handlers

One function per handler of `state_machine.c`.  A handler gets the buffer that
`mrp_process_frame` copied the frame into, from the version field on.  The host
is little-endian, which shows in the one place where a priority is stored
without swapping its octets.
-/

namespace Umrp

open Octets

/-- A frame's interval field in microseconds. -/
def intervalUs (interval : UInt16) : UInt32 :=
  interval.toUInt32 * 1000

namespace Mrp

/-! ## MRP_Test -/

/-- The three assignments with which the manager restarts its miss counter. -/
def restartTestCount (mrp : Mrp) : Mrp :=
  mrp.resetRingTestCount.setNoTc false

/-- The source's `mrp_mrm_recv_ring_test`. -/
def mrmRecvRingTest (mrp : Mrp) : Mrp :=
  match mrp.mrmState with
  | .acStat1 => mrp
  | .prmUp =>
      mrp.restartTestCount
        |>.ringTestReq mrp.ringTestConfInterval
        |>.setMrmState .chkRc
  | .chkRo =>
      let topoInterval :=
        if mrp.reactOnLinkChange ≠ 0 then 0 else mrp.ringTopoConfInterval
      (mrp.portSetState (.ring mrp.sPort) .blocked).restartTestCount
        |>.ringTestReq mrp.ringTestConfInterval
        |>.ringTopoReq topoInterval
        |>.setMrmState .chkRc
  | .chkRc => mrp.restartTestCount

/-- The source's `mrp_better_than_own`: the sender of a test frame beats this instance. -/
def betterThanOwn (mrp : Mrp) (hdr : Buf) : Bool :=
  RingTestHdr.prio hdr < mrp.prio ||
    (RingTestHdr.prio hdr = mrp.prio &&
      etherAddrToU64 (RingTestHdr.sa hdr) < etherAddrToU64 mrp.macaddr)

/-- The source's `mrp_mra_recv_ring_test`.  A client stores the sender's
priority as the host loads it, without swapping. -/
def mraRecvRingTest (mrp : Mrp) (hdr : Buf) : Mrp :=
  match mrp.ringRole with
  | .mrm =>
      if mrp.betterThanOwn hdr then mrp else mrp.testMgrNackReq (RingTestHdr.sa hdr)
  | .mrc =>
      if etherAddrEqual (RingTestHdr.sa hdr) mrp.ringMac then mrp
      else
        let mrp := if mrp.betterThanOwn hdr then mrp.setRingMonCurr 0 else mrp
        mrp.setRingPrio (hdr.le16 0)
  | .disabled | .mra => mrp

/-- The source's `mrp_recv_ring_test`. -/
def recvRingTest (mrp : Mrp) (buf : Buf) : Mrp :=
  let hdr := tlvBody buf
  if etherAddrEqual (RingTestHdr.sa hdr) mrp.macaddr then mrp.mrmRecvRingTest
  else if mrp.mraSupport then mrp.mraRecvRingTest hdr
  else mrp

/-! ## MRP_TopologyChange -/

/-- The source's `mrp_mra_recv_ring_topo`. -/
def mraRecvRingTopo (mrp : Mrp) (buf : Buf) : Mrp :=
  let hdr := tlvBody buf
  if etherAddrEqual (RingTopoHdr.sa hdr) mrp.macaddr then mrp
  else mrp.clearFdbStart (intervalUs (RingTopoHdr.interval hdr))

/-- The source's `mrp_mrc_recv_ring_topo`. -/
def mrcRecvRingTopo (mrp : Mrp) (buf : Buf) : Mrp :=
  let interval := intervalUs (RingTopoHdr.interval (tlvBody buf))
  match mrp.mrcState with
  | .acStat1 => mrp
  | .deIdle => mrp.clearFdbStart interval
  | .pt =>
      mrp.setRingLinkCurrMax mrp.ringLinkConfMax
        |>.ringLinkUpStop
        |>.portSetState (.ring mrp.sPort) .forwarding
        |>.clearFdbStart interval
        |>.setMrcState .ptIdle
  | .de =>
      mrp.setRingLinkCurrMax mrp.ringLinkConfMax
        |>.ringLinkDownStop
        |>.clearFdbStart interval
        |>.setMrcState .deIdle
  | .ptIdle => mrp.clearFdbStart interval

/-- The source's `mrp_recv_ring_topo`. -/
def recvRingTopo (mrp : Mrp) (buf : Buf) : Mrp :=
  if mrp.mraSupport = true ∧ mrp.ringRole = .mrm then mrp.mraRecvRingTopo buf
  else mrp.mrcRecvRingTopo buf

/-! ## MRP_LinkChange -/

/-- The source's `mrp_recv_ring_link`. -/
def recvRingLink (mrp : Mrp) (buf : Buf) : Mrp :=
  let type := getTlvType buf
  match mrp.mrmState with
  | .acStat1 => mrp
  | .prmUp =>
      if mrp.blocked ≠ 0 then
        if mrp.addTest then mrp
        else (mrp.setAddTest true).ringTestReq mrp.ringTestConfInterval
      else if type = .ringLinkDown then mrp
      else
        let mrp :=
          if mrp.addTest then mrp
          else (mrp.setAddTest true).ringTestReq mrp.ringTestConfShort
        mrp.ringTopoReq 0
  | .chkRo =>
      if mrp.addTest = false ∧ type = .ringLinkUp ∧ mrp.blocked ≠ 0 then
        (mrp.setAddTest true).ringTestReq mrp.ringTestConfShort
      else if mrp.addTest = true ∧ type = .ringLinkUp ∧ mrp.blocked ≠ 0 then mrp
      else if mrp.addTest = true ∧ type = .ringLinkDown then mrp
      else if mrp.addTest = false ∧ type = .ringLinkDown then
        (mrp.setAddTest true).ringTestReq mrp.ringTestConfShort
      else if type = .ringLinkUp ∧ mrp.blocked = 0 then
        let mrp := (mrp.portSetState (.ring mrp.sPort) .blocked).resetRingTestCount
        let mrp :=
          if mrp.addTest then mrp.ringTestReq mrp.ringTestConfInterval
          else (mrp.ringTestReq mrp.ringTestConfShort).setAddTest true
        mrp.ringTopoReq 0 |>.setMrmState .chkRc
      else mrp
  | .chkRc =>
      if mrp.addTest = true ∧ mrp.reactOnLinkChange = 0 ∧ mrp.blocked ≠ 0 then mrp
      else if mrp.addTest = false ∧ mrp.reactOnLinkChange = 0 ∧ mrp.blocked ≠ 0 then
        (mrp.setAddTest true).ringTestReq mrp.ringTestConfShort
      else if type = .ringLinkDown ∧ mrp.reactOnLinkChange ≠ 0 then
        let mrp := mrp.portSetState (.ring mrp.sPort) .forwarding
        mrp.nextRingTransition
          |>.ringTopoReq 0
          |>.setMrmState .chkRo
      else if type = .ringLinkUp ∧ mrp.reactOnLinkChange ≠ 0 then
        -- the source repeats this branch for both values of `blocked`
        (mrp.setRingTestCurrMax (mrp.ringTestConfMax - 1)).ringTopoReq 0
      else mrp

/-! ## MRP_Option -/

/-- The source's `mrp_better_than_host`: the sender of a NACK beats the recorded manager. -/
def betterThanHost (mrp : Mrp) (hdr : Buf) : Bool :=
  TestMgrHdr.prio hdr < mrp.ringPrio ||
    (TestMgrHdr.prio hdr = mrp.ringPrio &&
      etherAddrToU64 (TestMgrHdr.sa hdr) < etherAddrToU64 mrp.ringMac)

/-- The last part of `mrp_recv_nack`: the manager state decides how the client starts. -/
def enterClient (mrp : Mrp) : Mrp :=
  match mrp.mrmState with
  | .prmUp => (mrp.setMrcState .deIdle).setRingRole .mrc
  | .chkRo => (mrp.setMrcState .ptIdle).setRingRole .mrc
  | .chkRc => (mrp.setMrcState .ptIdle).setRingRole .mrc
  | .acStat1 => mrp

/-- The part of `mrp_recv_nack` that records the sender as the manager. -/
def recordHost (mrp : Mrp) (hdr : Buf) : Mrp :=
  if mrp.betterThanHost hdr then
    (mrp.setRingPrio (TestMgrHdr.prio hdr)).setRingMac (TestMgrHdr.sa hdr)
  else mrp

/-- The part of `mrp_recv_nack` that gives up the manager role. -/
def yieldRole (mrp : Mrp) : Mrp :=
  let mrp :=
    if mrp.mrmState = .chkRc then mrp.portSetState (.ring mrp.sPort) .forwarding else mrp
  mrp.ringTopoStop.setMrcInit.testPropReq.enterClient

/-- The source's `mrp_recv_nack`; `buf` starts at the sub-TLV. -/
def recvNack (mrp : Mrp) (buf : Buf) : Mrp :=
  let hdr := subTlvBody buf
  if mrp.ringRole = .mrc then mrp
  else if etherAddrEqual (TestMgrHdr.sa hdr) mrp.macaddr then mrp
  else if ¬ etherAddrEqual (TestMgrHdr.otherSa hdr) mrp.macaddr then mrp
  else (mrp.recordHost hdr).yieldRole

/-- The source's `mrp_recv_propagate`; `buf` starts at the sub-TLV. -/
def recvPropagate (mrp : Mrp) (buf : Buf) : Mrp :=
  let hdr := subTlvBody buf
  if mrp.ringRole = .mrm then mrp
  else if ¬ etherAddrEqual (TestMgrHdr.sa hdr) mrp.macaddr then mrp
  else if TestMgrHdr.otherPrio hdr ≠ TestMgrHdr.prio hdr then mrp
  else
    mrp.setRingPrio (TestMgrHdr.otherPrio hdr)
      |>.setRingMac (TestMgrHdr.otherSa hdr)
      |>.setRingMonCurr 0

/-- The source's `mrp_recv_option`. -/
def recvOption (mrp : Mrp) (buf : Buf) : Mrp :=
  let buf := subTlv buf
  if buf 0 = subTlvTestMgrNack then mrp.recvNack buf
  else if buf 0 = subTlvTestPropagate then mrp.recvPropagate buf
  else mrp

/-! ## Interconnection frames -/

/-- The source's `mrp_mim_recv_in_test`. -/
def mimRecvInTest (mrp : Mrp) : Mrp :=
  match mrp.mimState with
  | .acStat1 =>
      (mrp.portSetState .inter .blocked).resetInTestCount
        |>.inTestReq mrp.inTestConfInterval
        |>.setMimState .chkIc
  | .chkIo =>
      (mrp.portSetState .inter .blocked).resetInTestCount
        |>.inTopoReq mrp.inTopoConfInterval
        |>.inTestReq mrp.inTestConfInterval
        |>.setMimState .chkIc
  | .chkIc => mrp.resetInTestCount

/-- The source's `mrp_recv_in_test`. -/
def recvInTest (mrp : Mrp) (buf : Buf) : Mrp :=
  if mrp.inId ≠ InTestHdr.id (tlvBody buf) then mrp else mrp.mimRecvInTest

/-- The part of `mrp_recv_in_topo` for an interconnection client. -/
def micRecvInTopo (mrp : Mrp) (hdr : Buf) : Mrp :=
  match mrp.micState with
  | .acStat1 => if InTopoHdr.id hdr = mrp.inId then mrp.inLinkDownStop else mrp
  | .pt =>
      mrp.setInLinkCurrMax mrp.inLinkConfMax
        |>.inLinkUpStop
        |>.portSetState .inter .forwarding
        |>.setMicState .ipIdle
  | .ipIdle => mrp

/-- The first part of `mrp_recv_in_topo`: a ring manager starts a topology change
of its own unless one is running. -/
def restartRingTopo (mrp : Mrp) (interval : UInt32) : Mrp :=
  if mrp.ringRole = .mrm ∧ mrp.ringTopoRunning = false then mrp.ringTopoReq interval else mrp

/-- The second part of `mrp_recv_in_topo`. -/
def inTopoByRole (mrp : Mrp) (hdr : Buf) (interval : UInt32) : Mrp :=
  match mrp.inRole with
  | .mim =>
      if etherAddrEqual (InTopoHdr.sa hdr) mrp.macaddr then mrp else mrp.clearFdbStart interval
  | .mic => mrp.micRecvInTopo hdr
  | .disabled => mrp

/-- The source's `mrp_recv_in_topo`. -/
def recvInTopo (mrp : Mrp) (buf : Buf) : Mrp :=
  let hdr := tlvBody buf
  let interval := intervalUs (InTopoHdr.interval hdr)
  (mrp.restartRingTopo interval).inTopoByRole hdr interval

/-- The source's `mrp_recv_in_link`. -/
def recvInLink (mrp : Mrp) (buf : Buf) : Mrp :=
  let type := getTlvType buf
  let hdr := tlvBody buf
  match mrp.mimState with
  | .acStat1 => mrp
  | .chkIo =>
      if InLinkHdr.id hdr = mrp.inId ∧ type = .inLinkUp then
        mrp.inTestReq mrp.inTestConfInterval
      else mrp
  | .chkIc =>
      if InLinkHdr.id hdr = mrp.inId ∧ type = .inLinkUp then
        (mrp.setInTestCurrMax mrp.inTestConfMax).inTopoReq mrp.inTopoConfInterval
      else if InLinkHdr.id hdr = mrp.inId ∧ type = .inLinkDown then
        mrp.portSetState .inter .forwarding
          |>.inTopoReq mrp.inTopoConfInterval
          |>.setMimState .chkIo
      else mrp

/-- The source's `mrp_recv_in_link_status`. -/
def recvInLinkStatus (mrp : Mrp) (buf : Buf) : Mrp :=
  if mrp.inRole ≠ .mic then mrp
  else if mrp.inMode ≠ .lc then mrp
  else if InLinkHdr.id (tlvBody buf) ≠ mrp.inId then mrp
  else
    match mrp.micState with
    | .acStat1 => mrp.inLinkReq false 0
    | .pt => mrp.inLinkReq true 0
    | .ipIdle => mrp.inLinkReq true 0

end Mrp

end Umrp
