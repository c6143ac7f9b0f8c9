import Umrp.Model.Instance

/-!
# Sending frames

The send functions of `state_machine.c`.  Each of them builds a frame from the
instance's settings and its own arguments and passes it to `mrp_send`, which
drops it unless the port's operational state is up.  The sequence number is
consumed either way.  Allocation of the frame buffer is taken to succeed.
-/

namespace Umrp

namespace Mrp

/-- Where the ports stand at the moment. -/
def view (mrp : Mrp) : PortView where
  pPort := mrp.pPort
  sPort := mrp.sPort
  pState := mrp.pState
  sState := mrp.sState
  iState := mrp.iPort.map MrpPort.state

/-- The record of a frame that leaves through `port`, numbered by `mrp_next_seq`. -/
def compose (mrp : Mrp) (p : Port) (port : MrpPort) (frame : Frame) : Sent where
  port := p
  src := port.macaddr
  prio := mrp.prio
  sa := mrp.macaddr
  inId := mrp.inId
  blocked := mrp.blocked
  seq := mrp.seqId + 1
  view := mrp.view
  frame := frame

/-- Build a frame, as every send function does, and hand it to `mrp_send`. -/
def send (mrp : Mrp) (p : Port) (frame : Frame) : Mrp :=
  match mrp.port? p with
  | none => mrp.call .nullDeref
  | some port =>
      if port.operstate = ifOperUp then
        { mrp with seqId := mrp.seqId + 1, sent := mrp.compose p port frame :: mrp.sent }
      else { mrp with seqId := mrp.seqId + 1 }

/-! ## Ring frames -/

/-- The source's `mrp_send_ring_test`. -/
def sendRingTest (mrp : Mrp) (p : RingPort) : Mrp :=
  mrp.send (.ring p)
    (.ringTest (mrp.mrmState = .chkRc) mrp.ringTransitions (mrp.clock mrp.sent.length))

/-- The source's `mrp_ring_test_send`. -/
def ringTestSend (mrp : Mrp) : Mrp :=
  (mrp.sendRingTest mrp.pPort).sendRingTest mrp.sPort

/-- The source's `mrp_ring_test_req`. -/
def ringTestReq (mrp : Mrp) (interval : UInt32) : Mrp :=
  mrp.ringTestSend.ringTestStart interval

/-- The source's `mrp_send_ring_topo`. -/
def sendRingTopo (mrp : Mrp) (p : RingPort) (interval : UInt32) : Mrp :=
  mrp.send (.ring p) (.ringTopo interval)

/-- The source's `mrp_ring_topo_send`. -/
def ringTopoSend (mrp : Mrp) (time : UInt32) : Mrp :=
  (mrp.sendRingTopo mrp.pPort time).sendRingTopo mrp.sPort time

/-- The source's `mrp_ring_topo_req`. -/
def ringTopoReq (mrp : Mrp) (time : UInt32) : Mrp :=
  let mrp := mrp.ringTopoSend (time * mrp.ringTopoConfMax)
  if time = 0 then mrp.flush else mrp.ringTopoStart mrp.ringTopoConfInterval

/-- The source's `mrp_send_ring_link` and `mrp_ring_link_req`, which only logs
and calls it. -/
def ringLinkReq (mrp : Mrp) (p : RingPort) (up : Bool) (interval : UInt32) : Mrp :=
  mrp.send (.ring p) (.ringLink up interval)

/-- The source's `mrp_send_test_mgr_nack`. -/
def sendTestMgrNack (mrp : Mrp) (p : RingPort) (sa : Mac) : Mrp :=
  mrp.send (.ring p) (.testMgrNack sa)

/-- The source's `mrp_test_mgr_nack_req`. -/
def testMgrNackReq (mrp : Mrp) (sa : Mac) : Mrp :=
  (mrp.sendTestMgrNack mrp.pPort sa).sendTestMgrNack mrp.sPort sa

/-- The source's `mrp_send_test_prop`. -/
def sendTestProp (mrp : Mrp) (p : RingPort) : Mrp :=
  mrp.send (.ring p) (.testProp mrp.ringPrio mrp.ringMac)

/-- The source's `mrp_test_prop_req`. -/
def testPropReq (mrp : Mrp) : Mrp :=
  (mrp.sendTestProp mrp.pPort).sendTestProp mrp.sPort

/-! ## Interconnection frames -/

/-- The source's `mrp_send_in_test`. -/
def sendInTest (mrp : Mrp) (p : Port) : Mrp :=
  mrp.send p (.inTest (mrp.mimState = .chkIc) mrp.inTransitions (mrp.clock mrp.sent.length))

/-- The source's `mrp_in_test_send`. -/
def inTestSend (mrp : Mrp) : Mrp :=
  ((mrp.sendInTest (.ring mrp.pPort)).sendInTest (.ring mrp.sPort)).sendInTest .inter

/-- The source's `mrp_in_test_req`. -/
def inTestReq (mrp : Mrp) (interval : UInt32) : Mrp :=
  mrp.inTestSend.inTestStart interval

/-- The source's `mrp_send_in_topo`. -/
def sendInTopo (mrp : Mrp) (p : Port) (interval : UInt32) : Mrp :=
  mrp.send p (.inTopo interval)

/-- The source's `mrp_in_topo_send`. -/
def inTopoSend (mrp : Mrp) (interval : UInt32) : Mrp :=
  ((mrp.sendInTopo (.ring mrp.pPort) interval).sendInTopo (.ring mrp.sPort) interval).sendInTopo
    .inter interval

/-- The source's `mrp_in_topo_req`. -/
def inTopoReq (mrp : Mrp) (time : UInt32) : Mrp :=
  let mrp := mrp.inTopoSend (time * mrp.inTopoConfMax)
  if time = 0 then mrp.flush else mrp.inTopoStart mrp.inTopoConfInterval

/-- The source's `mrp_send_in_link`. -/
def sendInLink (mrp : Mrp) (p : Port) (up : Bool) (interval : UInt32) : Mrp :=
  mrp.send p (.inLink up interval)

/-- The source's `mrp_in_link_req`. -/
def inLinkReq (mrp : Mrp) (up : Bool) (interval : UInt32) : Mrp :=
  ((mrp.sendInLink (.ring mrp.pPort) up interval).sendInLink (.ring mrp.sPort) up
    interval).sendInLink .inter up interval

/-- The source's `mrp_send_in_link_status`. -/
def sendInLinkStatus (mrp : Mrp) (p : Port) : Mrp :=
  mrp.send p .inLinkStatus

/-- The source's `mrp_in_link_status_req`. -/
def inLinkStatusReq (mrp : Mrp) (interval : UInt32) : Mrp :=
  let delay := mrp.inLinkStatusConfInterval
  let mrp := (mrp.sendInLinkStatus (.ring mrp.pPort)).sendInLinkStatus (.ring mrp.sPort)
  if interval ≠ 0 then mrp.inLinkStatusStart delay else mrp

end Mrp

end Umrp
