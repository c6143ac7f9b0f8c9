import Umrp.Ring.Machine

/-!
# The interconnection machine

The counterpart of the ring machine for the interconnection side: one port that
may be missing, the role, the states of the interconnection manager and client,
and the two timers that announce link changes.  The event `closed` stands for an
accepted test frame, `opened` for a manager that finds the interconnection open.

Ring check and link check mode differ in which events they raise and in one
timer call of the client, and agree otherwise.
-/

namespace Umrp

/-- The interconnection port, reduced to its state and its last link event. -/
structure InterPort where
  state : PortState
  link : Option Bool
deriving DecidableEq

/-- The interconnection side of an instance, reduced to what decides about its port. -/
structure Inter where
  port : Option InterPort
  role : InRole
  mim : MimState
  mic : MicState
  linkUp : Bool
  linkDown : Bool
  count : UInt32

/-- The setting of link announcements, and the mode. -/
structure InterConf extends LinkConf where
  mode : InMode

namespace Inter

/-- Events of the interconnection machine. -/
inductive Event
  | link (up : Bool)
  | closed
  | opened
  | topologyChange (own : Bool)
  | linkUpTick
  | linkDownTick
  | silent
deriving DecidableEq

/-- Set the state of the port. -/
def set (x : Inter) (state : PortState) : Inter :=
  { x with port := x.port.map fun port => { port with state := state } }

/-- Note a link event. -/
def note (x : Inter) (up : Bool) : Inter :=
  { x with port := x.port.map fun port => { port with link := some up } }

/-- Link changes in the manager machine. -/
def mimLink (c : InterConf) (x : Inter) (up : Bool) : Inter :=
  match c.mode with
  | .rc | .lc =>
      match up, x.mim with
      | true, .acStat1 => { x.set .blocked with mim := .chkIc }
      | true, .chkIo | true, .chkIc | false, .acStat1 => x
      | false, .chkIo | false, .chkIc => { x.set .blocked with mim := .acStat1 }
  | .unknown _ => x

/-- The client announces that its link went down. -/
def micDown (c : InterConf) (x : Inter) : Inter :=
  { x.set .blocked with count := c.max, linkDown := c.runs, mic := .acStat1 }

/-- Link changes in the client machine.  In ring check mode a client that has
finished its announcement does not stop the link-up timer. -/
def micLink (c : InterConf) (x : Inter) (up : Bool) : Inter :=
  match up, c.mode with
  | true, .rc | true, .lc =>
      match x.mic with
      | .acStat1 => { x with count := c.max, linkDown := false, linkUp := c.runs, mic := .pt }
      | .pt | .ipIdle => x
  | false, .rc =>
      match x.mic with
      | .acStat1 => x
      | .pt => { x with linkUp := false }.micDown c
      | .ipIdle => x.micDown c
  | false, .lc =>
      match x.mic with
      | .acStat1 => x
      | .pt | .ipIdle => { x with linkUp := false }.micDown c
  | _, .unknown _ => x

/-- A link event goes to the machine of the current role. -/
def linkEvent (c : InterConf) (x : Inter) (up : Bool) : Inter :=
  match x.role with
  | .mim => (x.note up).mimLink c up
  | .mic => (x.note up).micLink c up
  | .disabled => x

/-- A test frame was accepted. -/
def close (x : Inter) : Inter :=
  match x.mim with
  | .acStat1 | .chkIo => { x.set .blocked with mim := .chkIc }
  | .chkIc => x

/-- The interconnection is seen to be open. -/
def opening (x : Inter) : Inter :=
  match x.mim with
  | .chkIc => { x.set .forwarding with mim := .chkIo }
  | .acStat1 | .chkIo => x

/-- A topology change is announced to the client machine. -/
def topology (c : InterConf) (x : Inter) (own : Bool) : Inter :=
  match x.mic with
  | .acStat1 => if own then { x with linkDown := false } else x
  | .pt => { x.set .forwarding with count := c.max, linkUp := false, mic := .ipIdle }
  | .ipIdle => x

/-- An expiry of the link-up timer.  Neither role nor state is looked at. -/
def upTick (c : InterConf) (x : Inter) : Inter :=
  if x.count > 0 then { x with count := x.count - 1, linkUp := c.runs }
  else { x.set .forwarding with count := c.max, linkUp := false, mic := .ipIdle }

/-- An expiry of the link-down timer. -/
def downTick (c : InterConf) (x : Inter) : Inter :=
  if x.count > 0 then { x with count := x.count - 1, linkDown := c.runs }
  else { x with count := c.max, linkDown := false }

/-- One event of the interconnection machine. -/
def step (c : InterConf) (x : Inter) : Event → Inter
  | .link up => x.linkEvent c up
  | .closed => x.close
  | .opened => x.opening
  | .topologyChange own => x.topology c own
  | .linkUpTick => x.upTick c
  | .linkDownTick => x.downTick c
  | .silent => x

/-- When an event can occur. -/
def Enabled (x : Inter) : Event → Prop
  | .link _ | .silent => True
  | .closed => x.role = .mim
  | .opened => x.mim = .chkIc
  | .topologyChange _ => x.role = .mic
  | .linkUpTick => x.linkUp = true
  | .linkDownTick => x.linkDown = true

end Inter

end Umrp
