import Umrp.Topology.Round

/-!
# What the handlers do to a round

For each handler: the event of a round that it stands for.  The handlers that request a
topology change are followed through their building blocks, since the ports that the
announcements leave through and the flush depend on where in the handler the request
stands.  For the others it is enough that they write neither the fields of the round nor
its log.
-/

namespace Umrp

open Octets

/-! ## What the building blocks do -/

/-- Everything that a topology change reads or writes. -/
structure Topo where
  pPort : RingPort
  sPort : RingPort
  up : Port → Bool
  conf : TopoSide → RoundConf
  round : TopoSide → Round
  flushes : Nat

namespace Topo

variable (x : Topo)

/-- The ports that announcements leave through. -/
def ports : TopoSide → List Port
  | .ring => [.ring x.pPort, .ring x.sPort].filter x.up
  | .inter => [.ring x.pPort, .ring x.sPort, .inter].filter x.up

/-- Replace the round of one side. -/
def set (side : TopoSide) (y : Round) : Topo :=
  { x with round := Function.update x.round side y }

/-- An announcement of one side. -/
def announce (side : TopoSide) (time : UInt32) : Topo :=
  x.set side ((x.round side).announce (x.ports side) time)

/-- A request of one side. -/
def request (side : TopoSide) (time : UInt32) : Topo :=
  { x.set side ((x.round side).request (x.conf side) (x.ports side) time) with
    flushes := if time = 0 then x.flushes + 1 else x.flushes }

/-- An expiry of the timer of one side. -/
def tick (side : TopoSide) : Topo :=
  { x.set side ((x.round side).tick (x.conf side) (x.ports side)) with
    flushes := x.flushes + Round.Event.tick.flushes (x.round side).left }

/-- From `x` to `y` the round of one side takes an event, and nothing else flushes. -/
structure Follows (side : TopoSide) (ev : Round.Event) (x y : Topo) : Prop where
  round : y.round side = (x.round side).step (x.conf side) (y.ports side) ev
  flushes : y.flushes = x.flushes + ev.flushes (x.round side).left

variable {x} {x' y : Topo} {side : TopoSide}

/-- A request in a state that differs in the ports only. -/
theorem follows_request (hround : x'.round = x.round) (hconf : x'.conf = x.conf)
    (hflushes : x'.flushes = x.flushes) (time : UInt32) :
    Follows side (.request time) x (x'.request side time) where
  round := by
    simp only [request, set, Function.update_self, Round.step, hround, hconf]
    rfl
  flushes := by
    simp only [request, Round.Event.flushes, hflushes]
    split <;> rfl

/-- Nothing happens to the round. -/
theorem follows_silent (hround : y.round = x.round) (hflushes : y.flushes = x.flushes) :
    Follows side .silent x y where
  round := by rw [hround]; rfl
  flushes := hflushes

/-- An expiry of the timer. -/
theorem follows_tick : Follows side .tick x (x.tick side) where
  round := by
    simp only [tick, set, Function.update_self, Round.step]
    rfl
  flushes := rfl

end Topo

namespace Mrp

/-- The part of an instance that topology changes are about. -/
def topo (mrp : Mrp) : Topo where
  pPort := mrp.pPort
  sPort := mrp.sPort
  up := mrp.isOperUp
  conf := mrp.roundConf
  round := mrp.round
  flushes := mrp.flushes

section BuildingBlocks

variable (mrp : Mrp)

theorem topo_ports (side : TopoSide) : mrp.topo.ports side = mrp.topoPorts side := by
  cases side <;> rfl

/-- What a frame adds to the log of announcements. -/
theorem announced_send (p : Port) (frame : Frame) (type : TlvType) :
    (mrp.send p frame).announced type =
      (if frame.type = type ∧ mrp.isOperUp p = true then [(p, frame.interval)] else []) ++
        mrp.announced type := by
  have hsent := mrp.filter_sent_send (fun t => decide (t = type)) p frame
  have hemits : (mrp.emits p frame).map (fun x => (x.port, x.frame.interval)) =
      if mrp.isOperUp p = true then [(p, frame.interval)] else [] := by
    unfold emits isOperUp
    cases mrp.port? p with
    | none => rfl
    | some port => by_cases hup : port.operstate = ifOperUp <;> simp [hup, compose]
  unfold announced sentOf
  rw [hsent, List.map_append]
  by_cases htype : frame.type = type
  · simp [htype, hemits]
  · simp [htype]

@[simp]
theorem isOperUp_send (p q : Port) (frame : Frame) :
    (mrp.send p frame).isOperUp q = mrp.isOperUp q := by
  cases q <;> simp [isOperUp, port?]

@[simp]
theorem flushes_send (p : Port) (frame : Frame) : (mrp.send p frame).flushes = mrp.flushes := by
  unfold send flushes
  cases mrp.port? p with
  | none => simp [call]
  | some port => by_cases hup : port.operstate = ifOperUp <;> simp [hup]

/-- Frames of other types do not belong to a round. -/
theorem topo_send (type : TlvType) (hring : type ≠ .ringTopo) (hinter : type ≠ .inTopo)
    {frame : Frame} (h : frame.type = type) (p : Port) : (mrp.send p frame).topo = mrp.topo := by
  have hup : (mrp.send p frame).isOperUp = mrp.isOperUp := by
    funext q
    simp
  have hround : (mrp.send p frame).round = mrp.round := by
    funext side
    cases side <;> simp [round, announced_send, h, hring, hinter]
  simp [topo, hup, hround]

/-- A frame is sent through several ports. -/
def sendAll (ports : List Port) (frame : Frame) : Mrp :=
  ports.foldl (fun m p => m.send p frame) mrp

/-- Sending a frame through several ports adds an entry for each port that is up. -/
theorem announced_sendAll (ports : List Port) (frame : Frame) (type : TlvType) :
    (mrp.sendAll ports frame).announced type =
      (if frame.type = type then
        ((ports.filter mrp.isOperUp).map fun p => (p, frame.interval)).reverse
      else []) ++ mrp.announced type := by
  unfold sendAll
  induction ports generalizing mrp with
  | nil => simp
  | cons p ports ih =>
      have hup : (mrp.send p frame).isOperUp = mrp.isOperUp := by
        funext q
        simp
      rw [List.foldl_cons, ih, announced_send, hup, List.filter_cons]
      by_cases htype : frame.type = type
      · by_cases hp : mrp.isOperUp p = true <;> simp [htype, hp]
      · simp [htype]

/-- The announcements of a round leave everything but its log alone. -/
theorem topo_sendAll (side : TopoSide) {frame : Frame} (h : frame.type = side.type)
    (ports : List Port) :
    (mrp.sendAll ports frame).topo =
      mrp.topo.set side
        ((mrp.round side).announce (ports.filter mrp.isOperUp) frame.interval) := by
  have hkeep : (mrp.sendAll ports frame).toMrpConf = mrp.toMrpConf ∧
      (mrp.sendAll ports frame).toRingPart = mrp.toRingPart ∧
      (mrp.sendAll ports frame).toInPart = mrp.toInPart ∧
      (mrp.sendAll ports frame).flushes = mrp.flushes := by
    unfold sendAll
    induction ports generalizing mrp with
    | nil => simp
    | cons p ports ih => simpa using ih (mrp.send p frame)
  rcases hkeep with ⟨hconf, hring, hinter, hflush⟩
  have hup : (mrp.sendAll ports frame).isOperUp = mrp.isOperUp := by
    funext q
    cases q <;> simp [isOperUp, port?, hring, hinter]
  have hround : ∀ side', (mrp.sendAll ports frame).round side' =
      if side' = side then (mrp.round side).announce (ports.filter mrp.isOperUp) frame.interval
      else mrp.round side' := by
    intro side'
    cases side <;> cases side' <;> simp_all [round, Round.announce, announced_sendAll, TopoSide.type]
  have hupdate : (mrp.sendAll ports frame).round = Function.update mrp.round side
      ((mrp.round side).announce (ports.filter mrp.isOperUp) frame.interval) := by
    funext side'
    rw [hround side', Function.update_apply]
  simp [topo, Topo.set, hup, hupdate, hconf, hring, hflush]

/-- An announcement of the ring. -/
theorem topo_ringTopoSend (time : UInt32) :
    (mrp.ringTopoSend time).topo = mrp.topo.announce .ring time :=
  mrp.topo_sendAll .ring rfl [.ring mrp.pPort, .ring mrp.sPort]

/-- An announcement of the interconnection. -/
theorem topo_inTopoSend (time : UInt32) :
    (mrp.inTopoSend time).topo = mrp.topo.announce .inter time :=
  mrp.topo_sendAll .inter rfl [.ring mrp.pPort, .ring mrp.sPort, .inter]

@[simp]
theorem topo_flush : mrp.flush.topo = { mrp.topo with flushes := mrp.topo.flushes + 1 } := by
  have hcount : mrp.flush.flushes = mrp.flushes + 1 := List.count_cons_self
  exact congrArg (fun n => { mrp.topo with flushes := n }) hcount

/-- Starting the timer of the ring. -/
theorem topo_ringTopoStart (interval : UInt32) :
    (mrp.ringTopoStart interval).topo = mrp.topo.set .ring ((mrp.round .ring).start interval) := by
  have hround : (mrp.ringTopoStart interval).round =
      Function.update mrp.round .ring ((mrp.round .ring).start interval) := by
    funext side
    cases side <;> rfl
  exact congrArg (fun f => { mrp.topo with round := f }) hround

/-- Stopping the timer of the ring. -/
theorem topo_ringTopoStop :
    mrp.ringTopoStop.topo = mrp.topo.set .ring (mrp.topo.round .ring).cancel := by
  have hround : mrp.ringTopoStop.round =
      Function.update mrp.round .ring (mrp.round .ring).cancel := by
    funext side
    cases side <;> rfl
  exact congrArg (fun f => { mrp.topo with round := f }) hround

/-- Starting the timer of the interconnection. -/
theorem topo_inTopoStart (interval : UInt32) :
    (mrp.inTopoStart interval).topo =
      mrp.topo.set .inter ((mrp.round .inter).start interval) := by
  have hround : (mrp.inTopoStart interval).round =
      Function.update mrp.round .inter ((mrp.round .inter).start interval) := by
    funext side
    cases side <;> rfl
  exact congrArg (fun f => { mrp.topo with round := f }) hround

/-- Stopping the timer of the interconnection. -/
theorem topo_inTopoStop :
    mrp.inTopoStop.topo = mrp.topo.set .inter (mrp.topo.round .inter).cancel := by
  have hround : mrp.inTopoStop.round =
      Function.update mrp.round .inter (mrp.round .inter).cancel := by
    funext side
    cases side <;> rfl
  exact congrArg (fun f => { mrp.topo with round := f }) hround

/-- Assigning the counter of the ring. -/
theorem topo_setRingTopoCurrMax (n : UInt32) :
    (mrp.setRingTopoCurrMax n).topo =
      mrp.topo.set .ring { mrp.topo.round .ring with left := n } := by
  have hround : (mrp.setRingTopoCurrMax n).round =
      Function.update mrp.round .ring { mrp.round .ring with left := n } := by
    funext side
    cases side <;> rfl
  exact congrArg (fun f => { mrp.topo with round := f }) hround

/-- Assigning the counter of the interconnection. -/
theorem topo_setInTopoCurrMax (n : UInt32) :
    (mrp.setInTopoCurrMax n).topo =
      mrp.topo.set .inter { mrp.topo.round .inter with left := n } := by
  have hround : (mrp.setInTopoCurrMax n).round =
      Function.update mrp.round .inter { mrp.round .inter with left := n } := by
    funext side
    cases side <;> rfl
  exact congrArg (fun f => { mrp.topo with round := f }) hround

/-- A request: an announcement, and then a flush or a start of the timer. -/
theorem topo_request {m : Mrp} {side : TopoSide} {time : UInt32}
    (hsend : m.topo = mrp.topo.announce side (time * (mrp.roundConf side).max)) {m' : Mrp}
    (h : m'.topo =
      if time = 0 then m.flush.topo else m.topo.set side ((m.round side).start (m.roundConf side).interval)) :
    m'.topo = mrp.topo.request side time := by
  have hround : m.round = (mrp.topo.announce side (time * (mrp.roundConf side).max)).round := by
    rw [← hsend]
    rfl
  have hconf : m.roundConf = (mrp.topo.announce side (time * (mrp.roundConf side).max)).conf := by
    rw [← hsend]
    rfl
  rw [h]
  by_cases htime : time = 0
  · rw [if_pos htime, topo_flush, hsend]
    simp [Topo.announce, Topo.request, Topo.set, Round.request, htime, topo]
  · rw [if_neg htime, hsend, hround, hconf]
    simp [Topo.announce, Topo.request, Topo.set, Round.request, htime, topo]

/-- A request of the ring. -/
@[simp]
theorem topo_ringTopoReq (time : UInt32) :
    (mrp.ringTopoReq time).topo = mrp.topo.request .ring time := by
  refine mrp.topo_request (mrp.topo_ringTopoSend (time * mrp.ringTopoConfMax)) ?_
  simp only [ringTopoReq]
  split
  · rfl
  · exact topo_ringTopoStart _ _

/-- A request of the interconnection. -/
@[simp]
theorem topo_inTopoReq (time : UInt32) :
    (mrp.inTopoReq time).topo = mrp.topo.request .inter time := by
  refine mrp.topo_request (mrp.topo_inTopoSend (time * mrp.inTopoConfMax)) ?_
  simp only [inTopoReq]
  split
  · rfl
  · exact topo_inTopoStart _ _

/-- An expiry of the timer of the ring. -/
theorem topo_ringTopoExpired : mrp.ringTopoExpired.topo = mrp.topo.tick .ring := by
  have hleft : ∀ time, (mrp.ringTopoSend time).ringTopoCurrMax = mrp.ringTopoCurrMax :=
    fun time => congrArg RingPart.ringTopoCurrMax (by simp [ringTopoSend, sendRingTopo])
  unfold ringTopoExpired
  by_cases h : mrp.ringTopoCurrMax > 0
  · have hne : mrp.ringTopoCurrMax ≠ 0 := UInt32.pos_iff_ne_zero.mp h
    simp only [if_pos h, hleft, topo_setRingTopoCurrMax, topo_ringTopoSend]
    simp [Topo.tick, Topo.announce, Topo.set, Round.tick, Round.Event.flushes, topo, round,
      MrpConf.roundConf, hne, h]
  · have hzero : mrp.ringTopoCurrMax = 0 := by simpa [UInt32.pos_iff_ne_zero] using h
    simp only [if_neg h, topo_ringTopoStop, topo_ringTopoSend, topo_flush, topo_setRingTopoCurrMax]
    simp [Topo.tick, Topo.announce, Topo.set, Round.tick, Round.Event.flushes, topo, round,
      MrpConf.roundConf, hzero]
    rfl

/-- An expiry of the timer of the interconnection. -/
theorem topo_inTopoExpired : mrp.inTopoExpired.topo = mrp.topo.tick .inter := by
  have hleft : ∀ time, (mrp.inTopoSend time).inTopoCurrMax = mrp.inTopoCurrMax :=
    fun time => congrArg InPart.inTopoCurrMax (by simp [inTopoSend, sendInTopo])
  unfold inTopoExpired
  by_cases h : mrp.inTopoCurrMax > 0
  · have hne : mrp.inTopoCurrMax ≠ 0 := UInt32.pos_iff_ne_zero.mp h
    simp only [if_pos h, hleft, topo_setInTopoCurrMax, topo_inTopoSend]
    simp [Topo.tick, Topo.announce, Topo.set, Round.tick, Round.Event.flushes, topo, round,
      MrpConf.roundConf, hne, h]
  · have hzero : mrp.inTopoCurrMax = 0 := by simpa [UInt32.pos_iff_ne_zero] using h
    simp only [if_neg h, topo_inTopoStop, topo_inTopoSend, topo_flush, topo_setInTopoCurrMax]
    simp [Topo.tick, Topo.announce, Topo.set, Round.tick, Round.Event.flushes, topo, round,
      MrpConf.roundConf, hzero]
    rfl

end BuildingBlocks

/-! ## What does not concern the rounds -/

section Assignments

variable (mrp : Mrp)

@[simp]
theorem topo_setMrmState (state : MrmState) : (mrp.setMrmState state).topo = mrp.topo :=
  rfl

@[simp]
theorem topo_setMimState (state : MimState) : (mrp.setMimState state).topo = mrp.topo :=
  rfl

@[simp]
theorem topo_nextRingTransition : mrp.nextRingTransition.topo = mrp.topo :=
  rfl

@[simp]
theorem topo_nextInTransition : mrp.nextInTransition.topo = mrp.topo :=
  rfl

@[simp]
theorem topo_setAddTest (b : Bool) : (mrp.setAddTest b).topo = mrp.topo :=
  rfl

@[simp]
theorem topo_setNoTc (b : Bool) : (mrp.setNoTc b).topo = mrp.topo :=
  rfl

@[simp]
theorem topo_setRingTestCurr (n : UInt32) : (mrp.setRingTestCurr n).topo = mrp.topo :=
  rfl

@[simp]
theorem topo_setRingTestCurrMax (n : UInt32) : (mrp.setRingTestCurrMax n).topo = mrp.topo :=
  rfl

@[simp]
theorem topo_resetRingTestCount : mrp.resetRingTestCount.topo = mrp.topo :=
  rfl

@[simp]
theorem topo_restartTestCount : mrp.restartTestCount.topo = mrp.topo := by
  rw [restartTestCount, topo_setNoTc, topo_resetRingTestCount]

@[simp]
theorem topo_setInTestCurr (n : UInt32) : (mrp.setInTestCurr n).topo = mrp.topo :=
  rfl

@[simp]
theorem topo_setInTestCurrMax (n : UInt32) : (mrp.setInTestCurrMax n).topo = mrp.topo :=
  rfl

@[simp]
theorem topo_resetInTestCount : mrp.resetInTestCount.topo = mrp.topo :=
  rfl

@[simp]
theorem topo_setInLinkStatusCurrMax (n : UInt32) : (mrp.setInLinkStatusCurrMax n).topo = mrp.topo :=
  rfl

@[simp]
theorem topo_ringTestStart (interval : UInt32) : (mrp.ringTestStart interval).topo = mrp.topo :=
  rfl

@[simp]
theorem topo_ringTestStop : mrp.ringTestStop.topo = mrp.topo :=
  rfl

@[simp]
theorem topo_inTestStart (interval : UInt32) : (mrp.inTestStart interval).topo = mrp.topo :=
  rfl

@[simp]
theorem topo_inLinkStatusStart (interval : UInt32) :
    (mrp.inLinkStatusStart interval).topo = mrp.topo :=
  rfl

@[simp]
theorem topo_inLinkStatusStop : mrp.inLinkStatusStop.topo = mrp.topo :=
  rfl

@[simp]
theorem topo_promote (r : RingPort) :
    (mrp.promote r).topo = { mrp.topo with sPort := mrp.pPort, pPort := r } :=
  rfl

@[simp]
theorem topo_demote (r : RingPort) :
    (mrp.demote r).topo = { mrp.topo with pPort := mrp.sPort, sPort := r } :=
  rfl

@[simp]
theorem isOperUp_portSetState (p q : Port) (state : PortState) :
    (mrp.portSetState p state).isOperUp q = mrp.isOperUp q := by
  cases p with
  | ring r =>
      cases q with
      | ring r' =>
          by_cases hr : r' = r
          · subst hr
            simp [portSetState, RingPart.setPortState, isOperUp, port?, call]
          · simp [portSetState, RingPart.setPortState, isOperUp, port?, call, hr]
      | inter => rfl
  | inter =>
      cases hport : mrp.iPort with
      | none => simp [portSetState, hport, isOperUp, port?, call]
      | some port => cases q <;> simp [portSetState, hport, isOperUp, port?, call]

@[simp]
theorem topo_portSetState (p : Port) (state : PortState) :
    (mrp.portSetState p state).topo = mrp.topo := by
  have hup : (mrp.portSetState p state).isOperUp = mrp.isOperUp := by
    funext q
    simp
  have hrest : ∀ up, { (mrp.portSetState p state).topo with up := up } =
      { mrp.topo with up := up } := by
    intro up
    cases p with
    | ring r => rfl
    | inter =>
        unfold portSetState
        cases mrp.iPort <;> rfl
  calc (mrp.portSetState p state).topo
    _ = { (mrp.portSetState p state).topo with up := (mrp.portSetState p state).isOperUp } := rfl
    _ = { (mrp.portSetState p state).topo with up := mrp.isOperUp } := by rw [hup]
    _ = mrp.topo := hrest mrp.isOperUp

@[simp]
theorem topo_ringTestReq (interval : UInt32) : (mrp.ringTestReq interval).topo = mrp.topo := by
  simp only [ringTestReq, ringTestSend, sendRingTest, topo_ringTestStart]
  rw [topo_send _ .ringTest (by decide) (by decide) rfl,
    topo_send _ .ringTest (by decide) (by decide) rfl]

@[simp]
theorem topo_inTestReq (interval : UInt32) : (mrp.inTestReq interval).topo = mrp.topo := by
  simp only [inTestReq, inTestSend, sendInTest, topo_inTestStart]
  rw [topo_send _ .inTest (by decide) (by decide) rfl,
    topo_send _ .inTest (by decide) (by decide) rfl,
    topo_send _ .inTest (by decide) (by decide) rfl]

@[simp]
theorem topo_inLinkStatusReq (interval : UInt32) :
    (mrp.inLinkStatusReq interval).topo = mrp.topo := by
  have hsend : ((mrp.sendInLinkStatus (.ring mrp.pPort)).sendInLinkStatus
      (.ring mrp.sPort)).topo = mrp.topo := by
    simp only [sendInLinkStatus]
    rw [topo_send _ .inLinkStatus (by decide) (by decide) rfl,
      topo_send _ .inLinkStatus (by decide) (by decide) rfl]
  simp only [inLinkStatusReq]
  split
  · rw [topo_inLinkStatusStart, hsend]
  · exact hsend

end Assignments

/-! ## Handlers of the ring -/

section RingHandlers

variable (mrp : Mrp)

/-- Link changes on a manager. -/
theorem mrmPortLink_follows (r : RingPort) (up : Bool) :
    Topo.Follows .ring
      (if up = false ∧ r = mrp.pPort ∧ (mrp.mrmState = .chkRo ∨ mrp.mrmState = .chkRc) then
        .request mrp.ringTopoConfInterval
      else .silent) mrp.topo (mrp.mrmPortLink r up).topo := by
  unfold mrmPortLink
  cases mrp.mrmState with
  | acStat1 | prmUp =>
      simp only [reduceCtorEq, or_self, and_false, if_false]
      repeat' split
      all_goals exact Topo.follows_silent (by simp) (by simp)
  | chkRo | chkRc =>
      simp only [reduceCtorEq, or_false, false_or, and_true]
      split
      · simp only [topo_setMrmState, topo_nextRingTransition, topo_ringTopoReq, topo_ringTestReq,
          topo_portSetState, topo_demote]
        apply Topo.follows_request <;> rfl
      · split
        all_goals exact Topo.follows_silent (by simp) (by simp)

/-- An own test frame. -/
theorem mrmRecvRingTest_follows :
    Topo.Follows .ring
      (if mrp.mrmState = .chkRo then
        .request (if mrp.reactOnLinkChange ≠ 0 then 0 else mrp.ringTopoConfInterval)
      else .silent) mrp.topo mrp.mrmRecvRingTest.topo := by
  unfold mrmRecvRingTest
  cases mrp.mrmState with
  | acStat1 | prmUp | chkRc => exact Topo.follows_silent (by simp) (by simp)
  | chkRo =>
      simp only [if_true, topo_setMrmState, topo_ringTopoReq, topo_ringTestReq,
        topo_restartTestCount, topo_portSetState]
      apply Topo.follows_request <;> rfl

/-- A link change frame.  With `blocked` set the manager only sends more tests, unless it
reacts to link changes. -/
theorem recvRingLink_follows (buf : Buf) :
    Topo.Follows .ring (mrp.frameRound buf .ringLinkUp .ring) mrp.topo
      (mrp.recvRingLink buf).topo := by
  unfold recvRingLink
  cases hstate : mrp.mrmState with
  | acStat1 =>
      simp only [frameRound, hstate]
      exact Topo.follows_silent rfl rfl
  | prmUp =>
      simp only [frameRound, hstate]
      by_cases hblocked : mrp.blocked = 0
      · by_cases htype : getTlvType buf = .ringLinkDown
        · simp only [hblocked, htype, ne_eq, not_true_eq_false, and_false, if_false, if_true]
          exact Topo.follows_silent rfl rfl
        · simp only [hblocked, htype, ne_eq, not_true_eq_false, not_false_eq_true, and_self,
            if_false, if_true, topo_ringTopoReq]
          apply Topo.follows_request <;> split <;> simp
      · simp only [hblocked, ne_eq, not_false_eq_true, false_and, if_false, if_true]
        split
        · exact Topo.follows_silent rfl rfl
        · exact Topo.follows_silent (by simp) (by simp)
  | chkRo =>
      simp only [frameRound, hstate]
      by_cases hup : mrp.blocked = 0 ∧ getTlvType buf = .ringLinkUp
      · simp only [hup, ne_eq, not_true_eq_false, reduceCtorEq, and_false, and_self, if_false,
          if_true, topo_setMrmState, topo_ringTopoReq]
        apply Topo.follows_request <;> split <;> simp
      · have hup' : ¬ (getTlvType buf = .ringLinkUp ∧ mrp.blocked = 0) := fun h => hup h.symm
        rw [if_neg hup]
        simp only [hup', if_false]
        repeat' split
        all_goals exact Topo.follows_silent (by simp) (by simp)
  | chkRc =>
      simp only [frameRound, hstate]
      by_cases hreact : mrp.reactOnLinkChange = 0
      · simp only [hreact, ne_eq, not_true_eq_false, and_false, false_and, if_false]
        repeat' split
        all_goals exact Topo.follows_silent (by simp) (by simp)
      · simp only [hreact, ne_eq, not_false_eq_true, false_and, and_false, and_true, true_and,
          if_false]
        by_cases hdown : getTlvType buf = .ringLinkDown
        · simp only [hdown, true_or, if_true, topo_setMrmState, topo_ringTopoReq]
          apply Topo.follows_request <;> simp
        · by_cases hup : getTlvType buf = .ringLinkUp
          · simp only [hup, reduceCtorEq, or_true, if_false, if_true, topo_ringTopoReq]
            apply Topo.follows_request <;> simp
          · simp only [hdown, hup, or_self, if_false]
            exact Topo.follows_silent rfl rfl

/-- An expiry of the test timer on a manager. -/
theorem mrmRingTestExpired_follows :
    Topo.Follows .ring
      (if mrp.mrmState = .chkRc ∧ mrp.ringTestCurr ≥ mrp.ringTestCurrMax ∧ mrp.noTc = false then
        .request mrp.ringTopoConfInterval
      else .silent) mrp.topo mrp.mrmRingTestExpired.topo := by
  unfold mrmRingTestExpired
  cases mrp.mrmState with
  | acStat1 => exact Topo.follows_silent rfl rfl
  | prmUp | chkRo => exact Topo.follows_silent (by simp) (by simp)
  | chkRc =>
      simp only [true_and]
      by_cases hopen : mrp.ringTestCurr ≥ mrp.ringTestCurrMax
      · rw [if_pos hopen]
        have hnoTc : ((mrp.portSetState (.ring mrp.sPort) .forwarding).resetRingTestCount.setAddTest
            false).noTc = mrp.noTc := rfl
        have hinterval : ((mrp.portSetState (.ring mrp.sPort)
            .forwarding).resetRingTestCount.setAddTest false).ringTopoConfInterval =
            mrp.ringTopoConfInterval := rfl
        cases htc : mrp.noTc with
        | true =>
            simp only [hnoTc, htc, hopen, reduceCtorEq, and_false, if_true, if_false]
            exact Topo.follows_silent (by simp) (by simp)
        | false =>
            simp only [hnoTc, htc, hopen, hinterval, and_self, reduceCtorEq, if_true, if_false,
              topo_setMrmState, topo_nextRingTransition, topo_ringTestReq, topo_ringTopoReq]
            apply Topo.follows_request <;> simp
      · simp only [hopen, false_and, if_false]
        exact Topo.follows_silent (by simp) (by simp)

/-- A topology change of the interconnection, on the side of the ring. -/
theorem restartRingTopo_follows (buf : Buf) :
    Topo.Follows .ring (mrp.frameRound buf .inTopo .ring) mrp.topo
      (mrp.restartRingTopo (intervalUs (InTopoHdr.interval (tlvBody buf)))).topo := by
  simp only [restartRingTopo, frameRound]
  split
  · rw [topo_ringTopoReq]
    apply Topo.follows_request <;> rfl
  · exact Topo.follows_silent rfl rfl

end RingHandlers

/-! ## Handlers of the interconnection -/

section InHandlers

variable (mrp : Mrp)

/-- Link changes on an interconnection manager. -/
theorem mimPortLink_follows (up : Bool) :
    Topo.Follows .inter
      (if up = false ∧ mrp.inMode = .rc ∧ (mrp.mimState = .chkIo ∨ mrp.mimState = .chkIc) then
        .request mrp.inTopoConfInterval
      else .silent) mrp.topo (mrp.mimPortLink up).topo := by
  unfold mimPortLink
  cases up with
  | true =>
      simp only [reduceCtorEq, false_and, if_false]
      cases mrp.inMode with
      | rc => cases mrp.mimState <;> exact Topo.follows_silent (by simp) (by simp)
      | lc => cases mrp.mimState <;> exact Topo.follows_silent (by simp) (by simp)
      | unknown => exact Topo.follows_silent rfl rfl
  | false =>
      cases mrp.inMode with
      | rc =>
          cases mrp.mimState with
          | acStat1 => exact Topo.follows_silent rfl rfl
          | chkIo | chkIc =>
              simp only [reduceCtorEq, or_true, true_or, and_self, if_true, topo_setMimState,
                topo_inTestReq, topo_inTopoReq]
              apply Topo.follows_request <;> simp
      | lc =>
          simp only [reduceCtorEq, false_and, and_false, if_false]
          cases mrp.mimState <;> exact Topo.follows_silent (by simp) (by simp)
      | unknown => exact Topo.follows_silent rfl rfl

/-- A test frame of the interconnection. -/
theorem recvInTest_follows (buf : Buf) :
    Topo.Follows .inter (mrp.frameRound buf .inTest .inter) mrp.topo (mrp.recvInTest buf).topo := by
  simp only [recvInTest, frameRound]
  by_cases hid : mrp.inId = InTestHdr.id (tlvBody buf)
  · rw [if_neg (not_not.mpr hid)]
    unfold mimRecvInTest
    cases mrp.mimState with
    | acStat1 | chkIc =>
        simp only [reduceCtorEq, and_false, if_false]
        exact Topo.follows_silent (by simp) (by simp)
    | chkIo =>
        simp only [hid, and_self, if_true, topo_setMimState, topo_inTestReq, topo_inTopoReq]
        apply Topo.follows_request <;> simp
  · simp only [hid, ne_eq, not_false_eq_true, false_and, if_true, if_false]
    exact Topo.follows_silent rfl rfl

/-- A link change frame of the interconnection. -/
theorem recvInLink_follows (buf : Buf) :
    Topo.Follows .inter (mrp.frameRound buf .inLinkUp .inter) mrp.topo
      (mrp.recvInLink buf).topo := by
  simp only [recvInLink, frameRound]
  cases mrp.mimState with
  | acStat1 => exact Topo.follows_silent rfl rfl
  | chkIo =>
      simp only [reduceCtorEq, false_and, if_false]
      split
      · exact Topo.follows_silent (by simp) (by simp)
      · exact Topo.follows_silent rfl rfl
  | chkIc =>
      by_cases hid : InLinkHdr.id (tlvBody buf) = mrp.inId
      · by_cases hup : getTlvType buf = .inLinkUp
        · simp only [hid, hup, reduceCtorEq, or_false, and_self, if_true, topo_inTopoReq]
          apply Topo.follows_request <;> simp
        · by_cases hdown : getTlvType buf = .inLinkDown
          · simp only [hid, hdown, reduceCtorEq, or_true, and_true, and_false, if_true, if_false,
              topo_setMimState, topo_inTopoReq]
            apply Topo.follows_request <;> simp
          · simp only [hid, hup, hdown, or_self, and_false, if_false]
            exact Topo.follows_silent rfl rfl
      · simp only [hid, false_and, and_false, if_false]
        exact Topo.follows_silent rfl rfl

/-- An expiry of the interconnection test timer. -/
theorem inTestExpired_follows :
    Topo.Follows .inter (mrp.timerRound .inTest .inter) mrp.topo mrp.inTestExpired.topo := by
  simp only [inTestExpired, timerRound]
  cases mrp.mimState with
  | acStat1 => exact Topo.follows_silent rfl rfl
  | chkIo => exact Topo.follows_silent (by simp) (by simp)
  | chkIc =>
      by_cases hopen : mrp.inTestCurr ≥ mrp.inTestCurrMax
      · simp only [hopen, and_self, if_true, topo_setMimState, topo_nextInTransition,
          topo_inTestReq, topo_inTopoReq]
        apply Topo.follows_request <;> simp
      · simp only [hopen, and_false, if_false]
        exact Topo.follows_silent (by simp) (by simp)

end InHandlers

/-! ## Handlers that leave a round alone -/

section Quiet

variable {a b : Mrp}

/-- The round of the ring is on the ring side and in the log of sent frames. -/
theorem round_ring_congr (hwork : b.ringTopoWork = a.ringTopoWork)
    (hrunning : b.ringTopoRunning = a.ringTopoRunning)
    (hleft : b.ringTopoCurrMax = a.ringTopoCurrMax)
    (hsent : b.sentOf (fun t => t = .ringTopo) = a.sentOf fun t => t = .ringTopo) :
    b.round .ring = a.round .ring := by
  simp only [round, announced, hwork, hrunning, hleft, hsent]

/-- The round of the interconnection is on its side and in the log of sent frames. -/
theorem round_inter_congr (hwork : b.inTopoWork = a.inTopoWork)
    (hleft : b.inTopoCurrMax = a.inTopoCurrMax)
    (hsent : b.sentOf (fun t => t = .inTopo) = a.sentOf fun t => t = .inTopo) :
    b.round .inter = a.round .inter := by
  simp only [round, announced, hwork, hleft, hsent]

/-- Operations of the interconnection leave the ring alone. -/
theorem InOp.round_ring (h : InOp a b)
    (hsent : b.sentOf (fun t => t = .ringTopo) = a.sentOf fun t => t = .ringTopo) :
    b.round .ring = a.round .ring := by
  apply round_ring_congr
  · rw [h.toRingPart]
  · rw [h.toRingPart]
  · rw [h.toRingPart]
  · exact hsent

/-- Operations of the ring leave the interconnection alone. -/
theorem RingOp.round_inter {nack : Mac → Prop} (h : RingOp nack a b)
    (hsent : b.sentOf (fun t => t = .inTopo) = a.sentOf fun t => t = .inTopo) :
    b.round .inter = a.round .inter := by
  apply round_inter_congr
  · rw [h.toInPart]
  · rw [h.toInPart]
  · exact hsent

attribute [local simp] call ringTestStart ringLinkUpStart ringLinkUpStop ringLinkDownStart
  ringLinkDownStop clearFdbStart clearFdbStop flush portSetState_ring setRingRole setMrmInit
  setMrcInit setMrmState setMrcState promote demote setRingMonCurr setRingPrio setRingMac
  setRingLinkCurrMax ringLinkReq sendTestMgrNack testMgrNackReq sendTestProp testPropReq
  RingPart.setPortState

attribute [local simp] inLinkUpStart inLinkUpStop inLinkDownStart inLinkDownStop
  inLinkStatusStart inLinkStatusStop setMicState setInLinkCurrMax setInLinkStatusCurrMax
  sendInLink inLinkReq sendInLinkStatus inLinkStatusReq

variable (mrp : Mrp)

/-- Link changes on a client. -/
theorem mrcPortLink_round (r : RingPort) (up : Bool) :
    (mrp.mrcPortLink r up).round .ring = mrp.round .ring := by
  apply round_ring_congr _ _ _ (mrp.mrcPortLink_sentOf rfl rfl r up)
  all_goals
    unfold mrcPortLink
    cases mrp.mrcState <;> dsimp only <;> repeat' split
    all_goals simp

/-- A topology change. -/
theorem recvRingTopo_round (buf : Buf) : (mrp.recvRingTopo buf).round .ring = mrp.round .ring := by
  apply round_ring_congr _ _ _ (mrp.recvRingTopo_sentOf buf)
  all_goals
    unfold recvRingTopo mraRecvRingTopo mrcRecvRingTopo
    dsimp only
    repeat' split
    all_goals simp

/-- A foreign test frame. -/
theorem mraRecvRingTest_round (hdr : Buf) :
    (mrp.mraRecvRingTest hdr).round .ring = mrp.round .ring := by
  apply round_ring_congr _ _ _ (mrp.mraRecvRingTest_sentOf rfl hdr)
  all_goals
    unfold mraRecvRingTest
    cases mrp.ringRole <;> dsimp only <;> repeat' split
    all_goals simp

/-- An expiry of the test timer on a client. -/
theorem mrcRingTestExpired_round : mrp.mrcRingTestExpired.round .ring = mrp.round .ring := by
  apply round_ring_congr _ _ _ (by rw [sentOf, mrcRingTestExpired_sent, sentOf])
  all_goals
    unfold mrcRingTestExpired enterManager
    repeat' split
    all_goals simp

/-- Link changes on an interconnection client. -/
theorem micPortLink_round (up : Bool) : (mrp.micPortLink up).round .inter = mrp.round .inter := by
  apply round_inter_congr _ _ (mrp.micPortLink_sentOf rfl rfl up)
  all_goals
    unfold micPortLink
    cases up <;> cases mrp.inMode <;> cases mrp.micState <;> simp

/-- The reaction to a topology change of the interconnection by role. -/
theorem inTopoByRole_round (hdr : Buf) (interval : UInt32) :
    (mrp.inTopoByRole hdr interval).round .inter = mrp.round .inter := by
  apply round_inter_congr _ _ (mrp.inTopoByRole_sentOf hdr interval)
  all_goals
    unfold inTopoByRole micRecvInTopo
    repeat' split
    all_goals simp

/-- A link status poll. -/
theorem recvInLinkStatus_round (buf : Buf) :
    (mrp.recvInLinkStatus buf).round .inter = mrp.round .inter := by
  apply round_inter_congr _ _ (mrp.recvInLinkStatus_sentOf rfl rfl buf)
  all_goals
    unfold recvInLinkStatus
    repeat' split
    all_goals simp

/-- An expiry of a link timer of the ring. -/
theorem ringLinkExpired_round {w : TimerId} (hw : w = .ringLinkUp ∨ w = .ringLinkDown) :
    (mrp.expired w).round .ring = mrp.round .ring := by
  have hsent : (mrp.expired w).sentOf (fun t => t = .ringTopo) =
      mrp.sentOf fun t => t = .ringTopo := by
    rcases hw with rfl | rfl <;> exact mrp.expired_sentOf (by decide)
  apply round_ring_congr _ _ _ hsent
  all_goals
    rcases hw with rfl | rfl <;> simp only [expired, ringLinkUpExpired, ringLinkDownExpired] <;> split
    all_goals simp

/-- An expiry of a link timer of the interconnection. -/
theorem inLinkExpired_round {w : TimerId} (hw : w = .inLinkUp ∨ w = .inLinkDown) :
    (mrp.expired w).round .inter = mrp.round .inter := by
  have hsent : (mrp.expired w).sentOf (fun t => t = .inTopo) =
      mrp.sentOf fun t => t = .inTopo := by
    rcases hw with rfl | rfl <;> exact mrp.expired_sentOf (by decide)
  apply round_inter_congr _ _ hsent
  all_goals
    rcases hw with rfl | rfl <;> simp only [expired, inLinkUpExpired, inLinkDownExpired] <;> split
    all_goals simp

/-- An expiry of the link status timer. -/
theorem inLinkStatusExpired_round : mrp.inLinkStatusExpired.round = mrp.round := by
  have htopo : mrp.inLinkStatusExpired.topo = mrp.topo := by
    simp only [inLinkStatusExpired]
    split
    · rw [topo_inLinkStatusReq, topo_setInLinkStatusCurrMax]
    · rfl
  exact congrArg Topo.round htopo

theorem enterClient_round : mrp.enterClient.round .ring = mrp.round .ring := by
  unfold enterClient
  cases mrp.mrmState <;> rfl

theorem recordHost_round (hdr : Buf) : (mrp.recordHost hdr).round .ring = mrp.round .ring := by
  unfold recordHost
  split <;> rfl

/-- Giving up the manager role ends the round. -/
theorem yieldRole_round : mrp.yieldRole.round .ring = (mrp.round .ring).cancel := by
  have hstop : ∀ m : Mrp, m.ringTopoStop.setMrcInit.testPropReq.topo.round .ring =
      (m.topo.round .ring).cancel := by
    intro m
    simp only [testPropReq, sendTestProp]
    rw [topo_send _ .option (by decide) (by decide) rfl,
      topo_send _ .option (by decide) (by decide) rfl]
    exact congrFun (congrArg Topo.round m.topo_ringTopoStop) .ring
  simp only [yieldRole]
  rw [enterClient_round]
  split
  · refine (hstop _).trans ?_
    rw [topo_portSetState]
    rfl
  · exact hstop mrp

/-- An option frame. -/
theorem recvOption_round (buf : Buf) (ports : List Port) :
    (mrp.recvOption buf).round .ring =
      (mrp.round .ring).step (mrp.roundConf .ring) ports (mrp.frameRound buf .option .ring) := by
  simp only [recvOption, frameRound]
  by_cases hnack : subTlv buf 0 = subTlvTestMgrNack
  · rw [if_pos hnack, recvNack_eq]
    by_cases hyield : mrp.yieldsTo (subTlv buf) = true
    · rw [if_pos hyield, if_pos ⟨hnack, hyield⟩, yieldRole_round, recordHost_round]
      rfl
    · rw [if_neg hyield, if_neg fun h => hyield h.2]
      rfl
  · simp only [hnack, false_and, if_false]
    have hpropagate : ∀ b, (mrp.recvPropagate b).round .ring = mrp.round .ring := by
      intro b
      unfold recvPropagate
      dsimp only
      repeat' split
      all_goals rfl
    split
    · exact hpropagate _
    · rfl

end Quiet

end Mrp

end Umrp
