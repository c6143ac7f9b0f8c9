import Umrp.Inter.Simulation
import Umrp.Lib.Countdown
import Umrp.Relay
import Umrp.Ring.Simulation
import Umrp.Sending

/-!
# Topology rounds

A topology change is announced in rounds.  A request announces the change and starts a
timer; while the timer runs, each expiry announces it once more and lowers a counter, and
the expiry that finds the counter at zero flushes the bridge's own forwarding database and
ends the round.  The ring and the interconnection have a round each.

This file has the round as a machine of its own and the table of the events that drive
it.  The file on the simulation shows that an instance follows the table.
-/

namespace Umrp

open Octets

/-! ## The round -/

/-- The two sides of an instance that announce topology changes. -/
inductive TopoSide
  | ring | inter
deriving DecidableEq

/-- The timer of a round. -/
def TopoSide.timer : TopoSide → TimerId
  | .ring => .ringTopo
  | .inter => .inTopo

/-- The frames of a round. -/
def TopoSide.type : TopoSide → TlvType
  | .ring => .ringTopo
  | .inter => .inTopo

/-- The settings of a round: the interval of the timer and the number of announcements. -/
structure RoundConf where
  interval : UInt32
  max : UInt32

/-- Where a round stands: the timer, the counter, and the announcements that were sent,
newest first.  The ring keeps a flag besides its timer; the interconnection has none. -/
structure Round where
  timer : EvTimer
  running : Option Bool
  left : UInt32
  sent : List (Port × UInt32)

namespace Round

/-- What can happen to a round. -/
inductive Event
  | request (time : UInt32)
  | tick
  | cancel
  | silent
deriving DecidableEq

/-- How often an event flushes while the counter of the round is at `left`. -/
def Event.flushes (left : UInt32) : Event → Nat
  | .request time => if time = 0 then 1 else 0
  | .tick => if left = 0 then 1 else 0
  | .cancel | .silent => 0

variable (c : RoundConf) (ports : List Port) (x : Round)

/-- One frame with the given interval leaves through each of the ports. -/
def announce (time : UInt32) : Round :=
  { x with sent := (ports.map fun p => (p, time)).reverse ++ x.sent }

/-- The timer is started.  The counter stays as it is. -/
def start (interval : UInt32) : Round :=
  { x with timer := .again interval, running := x.running.map fun _ => true }

/-- A request. -/
def request (time : UInt32) : Round :=
  let x := x.announce ports (time * c.max)
  if time = 0 then x else x.start c.interval

/-- The timer is stopped.  The counter stays as it is. -/
def cancel : Round :=
  { x with timer := x.timer.stop, running := x.running.map fun _ => false }

/-- An expiry of the timer. -/
def tick : Round :=
  if x.left > 0 then { x.announce ports (x.left * c.interval) with left := x.left - 1 }
  else { (x.announce ports 0).cancel with left := c.max - 1 }

/-- One event. -/
def step : Event → Round
  | .request time => x.request c ports time
  | .tick => x.tick c ports
  | .cancel => x.cancel
  | .silent => x

end Round

/-! ## The round of an instance -/

/-- The interval that a frame carries, as it was passed to the send function. -/
def Frame.interval : Frame → UInt32
  | .ringTopo interval | .ringLink _ interval | .inTopo interval | .inLink _ interval => interval
  | .ringTest .. | .testMgrNack _ | .testProp .. | .inTest .. | .inLinkStatus => 0

/-- The settings of the rounds of an instance. -/
def MrpConf.roundConf (c : MrpConf) : TopoSide → RoundConf
  | .ring => ⟨c.ringTopoConfInterval, c.ringTopoConfMax⟩
  | .inter => ⟨c.inTopoConfInterval, c.inTopoConfMax⟩

namespace Mrp

/-- The frames of one type that were sent, newest first: port and interval. -/
def announced (mrp : Mrp) (type : TlvType) : List (Port × UInt32) :=
  (mrp.sentOf fun t => t = type).map fun x => (x.port, x.frame.interval)

/-- The round of a side. -/
def round (mrp : Mrp) : TopoSide → Round
  | .ring =>
      ⟨mrp.ringTopoWork, some mrp.ringTopoRunning, mrp.ringTopoCurrMax, mrp.announced .ringTopo⟩
  | .inter => ⟨mrp.inTopoWork, none, mrp.inTopoCurrMax, mrp.announced .inTopo⟩

/-- The ports that the announcements of a side leave through: those whose link is up. -/
def topoPorts (mrp : Mrp) : TopoSide → List Port
  | .ring => [.ring mrp.pPort, .ring mrp.sPort].filter mrp.isOperUp
  | .inter => [.ring mrp.pPort, .ring mrp.sPort, .inter].filter mrp.isOperUp

/-- How often the forwarding database was flushed. -/
def flushes (mrp : Mrp) : Nat := mrp.calls.count .flush

/-! ## The table -/

/-- What a handled frame does to a round. -/
def frameRound (mrp : Mrp) (buf : Buf) (type : TlvType) : TopoSide → Round.Event
  | .ring =>
      match type with
      | .ringTest =>
          if etherAddrEqual (RingTestHdr.sa (tlvBody buf)) mrp.macaddr = true ∧
              mrp.mrmState = .chkRo then
            .request (if mrp.reactOnLinkChange ≠ 0 then 0 else mrp.ringTopoConfInterval)
          else .silent
      | .ringLinkDown | .ringLinkUp =>
          match mrp.mrmState with
          | .acStat1 => .silent
          | .prmUp =>
              if mrp.blocked = 0 ∧ getTlvType buf ≠ .ringLinkDown then .request 0 else .silent
          | .chkRo =>
              if mrp.blocked = 0 ∧ getTlvType buf = .ringLinkUp then .request 0 else .silent
          | .chkRc =>
              if mrp.reactOnLinkChange ≠ 0 ∧
                  (getTlvType buf = .ringLinkDown ∨ getTlvType buf = .ringLinkUp) then .request 0
              else .silent
      | .option =>
          if subTlv buf 0 = subTlvTestMgrNack ∧ mrp.yieldsTo (subTlv buf) = true then .cancel
          else .silent
      | .inTopo =>
          if mrp.ringRole = .mrm ∧ mrp.ringTopoRunning = false then
            .request (intervalUs (InTopoHdr.interval (tlvBody buf)))
          else .silent
      | _ => .silent
  | .inter =>
      match type with
      | .inTest =>
          if mrp.inId = InTestHdr.id (tlvBody buf) ∧ mrp.mimState = .chkIo then
            .request mrp.inTopoConfInterval
          else .silent
      | .inLinkDown | .inLinkUp =>
          if mrp.mimState = .chkIc ∧ InLinkHdr.id (tlvBody buf) = mrp.inId ∧
              (getTlvType buf = .inLinkUp ∨ getTlvType buf = .inLinkDown) then
            .request mrp.inTopoConfInterval
          else .silent
      | _ => .silent

/-- What a link event on a ring port does to the round of the ring. -/
def ringLinkRound (mrp : Mrp) (r : RingPort) (up : Bool) : Round.Event :=
  if mrp.ringRole = .mrm ∧ up = false ∧ r = mrp.pPort ∧
      (mrp.mrmState = .chkRo ∨ mrp.mrmState = .chkRc) then
    .request mrp.ringTopoConfInterval
  else .silent

/-- What a link event on the interconnection port does to the round of its side. -/
def inLinkRound (mrp : Mrp) (up : Bool) : Round.Event :=
  if mrp.inRole = .mim ∧ up = false ∧ mrp.inMode = .rc ∧
      (mrp.mimState = .chkIo ∨ mrp.mimState = .chkIc) then
    .request mrp.inTopoConfInterval
  else .silent

/-- What a link notification does to a round. -/
def linkRound (mrp : Mrp) (e : Event) : TopoSide → Round.Event
  | .ring =>
      match mrp.ringEvent e with
      | .link r up => mrp.ringLinkRound r up
      | _ => .silent
  | .inter =>
      match mrp.interEvent e with
      | .link up => mrp.inLinkRound up
      | _ => .silent

/-- What an expired timer does to a round. -/
def timerRound (mrp : Mrp) (w : TimerId) : TopoSide → Round.Event
  | .ring =>
      match w with
      | .ringTopo => .tick
      | .ringTest =>
          if mrp.ringRole = .mrm ∧ mrp.mrmState = .chkRc ∧
              mrp.ringTestCurr ≥ mrp.ringTestCurrMax ∧ mrp.noTc = false then
            .request mrp.ringTopoConfInterval
          else .silent
      | _ => .silent
  | .inter =>
      match w with
      | .inTopo => .tick
      | .inTest =>
          if mrp.mimState = .chkIc ∧ mrp.inTestCurr ≥ mrp.inTestCurrMax then
            .request mrp.inTopoConfInterval
          else .silent
      | _ => .silent

/-- What an event of the instance does to the round of a side. -/
def roundEvent (mrp : Mrp) (side : TopoSide) (e : Event) : Round.Event :=
  match e with
  | .recv p rx =>
      match mrp.delivered p rx with
      | some (type, buf) => mrp.frameRound buf type side
      | none => .silent
  | .expired w => if (mrp.timer w).active then mrp.timerRound w side else .silent
  | _ => mrp.linkRound e side

end Mrp

end Umrp
