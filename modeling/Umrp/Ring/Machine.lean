import Umrp.Model.Types
import Mathlib.Logic.Function.Basic

/-!
# The ring machine

What the ring side of an instance is for, with everything left out that does
not decide about ports: two ports with a state and a link each, the role, the
state of the manager machine and of the client machine, and the two timers that
announce link changes.  Counters and frames appear only through the events they
cause: `closed` when the ring is seen to be closed, `opened` when it is seen to be
open, `nacked` when the role is given up and `managerLost` when it is taken.

The manager and the client machine share the ports, and both keep their state
while the other one is in charge.
-/

namespace Umrp

/-- The ring side of an instance, reduced to what decides about the ports. -/
structure Ring where
  pPort : RingPort
  sPort : RingPort
  state : RingPort → PortState
  link : RingPort → Option Bool
  ifindex : RingPort → UInt32
  role : RingRole
  mrm : MrmState
  mrc : MrcState
  linkUp : Bool
  linkDown : Bool
  count : UInt32

/-- The setting of link announcements: how many follow the first one, and
whether the interval between them is long enough for the timer to start. -/
structure LinkConf where
  max : UInt32
  runs : Bool

namespace Ring

/-- Events of the ring machine. -/
inductive Event
  | link (r : RingPort) (up : Bool)
  | closed
  | opened
  | topologyChange
  | nacked
  | managerLost
  | linkUpTick
  | linkDownTick
  | silent
deriving DecidableEq

/-- Set the state of a port. -/
def set (x : Ring) (r : RingPort) (state : PortState) : Ring :=
  { x with state := Function.update x.state r state }

/-- Note a link event. -/
def note (x : Ring) (r : RingPort) (up : Bool) : Ring :=
  { x with link := Function.update x.link r (some up) }

/-- Link changes in the manager machine. -/
def mrmLink (x : Ring) (r : RingPort) (up : Bool) : Ring :=
  match x.mrm with
  | .acStat1 =>
      if up = true ∧ r = x.pPort then { x.set x.pPort .forwarding with mrm := .prmUp }
      else if up = true ∧ r ≠ x.pPort then
        { { x with pPort := r, sPort := x.pPort }.set r .forwarding with mrm := .prmUp }
      else x
  | .prmUp =>
      if up = false ∧ r = x.pPort then { x.set x.pPort .blocked with mrm := .acStat1 }
      else if up = true ∧ r ≠ x.pPort then { x with mrm := .chkRc }
      else x
  | .chkRo =>
      if up = false ∧ r = x.pPort then
        { { x with pPort := x.sPort, sPort := r }.set r .blocked with mrm := .prmUp }
      else if up = false ∧ r ≠ x.pPort then { x.set x.sPort .blocked with mrm := .prmUp }
      else x
  | .chkRc =>
      if up = false ∧ r = x.pPort then
        { ({ x with pPort := x.sPort, sPort := r }.set r .blocked).set x.sPort .forwarding with
          mrm := .prmUp }
      else if up = false ∧ r ≠ x.pPort then { x with mrm := .prmUp }
      else x

/-- Link changes in the client machine. -/
def mrcLink (c : LinkConf) (x : Ring) (r : RingPort) (up : Bool) : Ring :=
  match x.mrc with
  | .acStat1 =>
      if up = true ∧ r = x.pPort then { x.set x.pPort .forwarding with mrc := .deIdle }
      else if up = true ∧ r ≠ x.pPort then
        { { x with pPort := r, sPort := x.pPort }.set r .forwarding with mrc := .deIdle }
      else x
  | .deIdle =>
      if up = true ∧ r ≠ x.pPort then { x with count := c.max, linkUp := c.runs, mrc := .pt }
      else if up = false ∧ r = x.pPort then { x.set x.pPort .blocked with mrc := .acStat1 }
      else x
  | .pt =>
      if up = false ∧ r ≠ x.pPort then
        { x.set x.sPort .blocked with
          count := c.max, linkUp := false, linkDown := c.runs, mrc := .de }
      else if up = false ∧ r = x.pPort then
        { ({ x with pPort := x.sPort, sPort := r }.set x.sPort .forwarding).set r .blocked with
          count := c.max, linkUp := false, linkDown := c.runs, mrc := .de }
      else x
  | .de =>
      if up = true ∧ r ≠ x.pPort then
        { x with count := c.max, linkDown := false, linkUp := c.runs, mrc := .pt }
      else if up = false ∧ r = x.pPort then
        { x.set x.pPort .blocked with count := c.max, linkDown := false, mrc := .acStat1 }
      else x
  | .ptIdle =>
      if up = false ∧ r ≠ x.pPort then
        { x.set x.sPort .blocked with count := c.max, linkDown := c.runs, mrc := .de }
      else if up = false ∧ r = x.pPort then
        { { x with pPort := x.sPort, sPort := r }.set r .blocked with
          count := c.max, linkDown := c.runs, mrc := .de }
      else x

/-- The ring is seen to be closed.  The manager machine reacts in either role. -/
def close (x : Ring) : Ring :=
  match x.mrm with
  | .acStat1 | .chkRc => x
  | .prmUp => { x with mrm := .chkRc }
  | .chkRo => { x.set x.sPort .blocked with mrm := .chkRc }

/-- The ring is seen to be open. -/
def opening (x : Ring) : Ring :=
  match x.mrm with
  | .chkRc => { x.set x.sPort .forwarding with mrm := .chkRo }
  | .acStat1 | .prmUp | .chkRo => x

/-- A topology change is announced to the client machine. -/
def topology (c : LinkConf) (x : Ring) : Ring :=
  match x.mrc with
  | .pt => { x.set x.sPort .forwarding with count := c.max, linkUp := false, mrc := .ptIdle }
  | .de => { x with count := c.max, linkDown := false, mrc := .deIdle }
  | .acStat1 | .deIdle | .ptIdle => x

/-- A manager gives up its role. -/
def giveUp (c : LinkConf) (x : Ring) : Ring :=
  match x.mrm with
  | .acStat1 => { x with count := c.max }
  | .prmUp => { x with count := c.max, mrc := .deIdle, role := .mrc }
  | .chkRo => { x with count := c.max, mrc := .ptIdle, role := .mrc }
  | .chkRc => { x.set x.sPort .forwarding with count := c.max, mrc := .ptIdle, role := .mrc }

/-- A client takes over. -/
def takeOver (x : Ring) : Ring :=
  match x.mrc with
  | .acStat1 => x
  | .deIdle | .de => { x with mrm := .prmUp, role := .mrm }
  | .pt => { x with mrm := .chkRc, role := .mrm }
  | .ptIdle => { x with mrm := .chkRo, role := .mrm }

/-- An expiry of the link-up timer.  Neither role nor state is looked at. -/
def upTick (c : LinkConf) (x : Ring) : Ring :=
  if x.count > 0 then { x with count := x.count - 1, linkUp := c.runs }
  else { x.set x.sPort .forwarding with count := c.max, linkUp := false, mrc := .ptIdle }

/-- An expiry of the link-down timer.  Neither role nor state is looked at. -/
def downTick (c : LinkConf) (x : Ring) : Ring :=
  if x.count > 0 then { x with count := x.count - 1, linkDown := c.runs }
  else { x with count := c.max, linkDown := false, mrc := .deIdle }

/-- A link event goes to the machine of the current role. -/
def linkEvent (c : LinkConf) (x : Ring) (r : RingPort) (up : Bool) : Ring :=
  match x.role with
  | .mrm => (x.note r up).mrmLink r up
  | .mrc => (x.note r up).mrcLink c r up
  | .disabled | .mra => x.note r up

/-- One event of the ring machine. -/
def step (c : LinkConf) (x : Ring) : Event → Ring
  | .link r up => x.linkEvent c r up
  | .closed => x.close
  | .opened => x.opening
  | .topologyChange => x.topology c
  | .nacked => x.giveUp c
  | .managerLost => x.takeOver
  | .linkUpTick => x.upTick c
  | .linkDownTick => x.downTick c
  | .silent => x

/-- When an event can occur; `mra` says whether the instance may change its role.
The manager machine can be told about its own test frames while the client is in
charge, and a NACK is only looked at outside the client role. -/
def Enabled (mra : Bool) (x : Ring) : Event → Prop
  | .link _ _ | .silent => True
  | .closed => x.role = .mrm ∨ x.role = .mrc ∧ mra = true
  | .opened => x.role = .mrm ∧ x.mrm = .chkRc
  | .topologyChange => x.role = .mrc
  | .nacked => x.role ≠ .mrc
  | .managerLost => x.role = .mrc ∧ mra = true
  | .linkUpTick => x.linkUp = true
  | .linkDownTick => x.linkDown = true

end Ring

end Umrp
