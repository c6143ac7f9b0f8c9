import Umrp.Lib.EventMachine
import Umrp.Model.Dispatch
import Umrp.Model.Registry
import Umrp.Model.Timer

/-!
# Events and runs

Everything that can happen to one instance between its creation and its
destruction, as one step function: a received frame, a link notification of the
kernel, a CFM notification, a changed address, an expired timer.  Events for a
port that the instance does not have, and expiries of timers that are not
active, change nothing.

Main results:

- Theorem `Mrp.recv_eq`: receiving a frame is relaying it and then running the
  handler on the copy, if there is one to run.
- Theorem `Mrp.recv_of_delivered`: the same for a frame that reaches its handler.
-/

namespace Umrp

open Octets EventMachine

/-! ## Events -/

/-- What can happen to an instance.  The constructor `linkChange` is a call of
`mrp_port_link_change`; `operstate` is the part of the netlink listener that
makes such calls when the operational state of an interface has changed. -/
inductive Event
  | recv (p : Port) (rx : RxFrame)
  | linkChange (p : Port) (up : Bool)
  | operstate (p : Port) (state : UInt8)
  | cfmLinkChange (defect : Bool)
  | portMac (p : Port) (mac : Mac)
  | bridgeMac (mac : Mac)
  | expired (w : TimerId)

/-- The operational states that the netlink listener takes for a link that is down. -/
def isDownState (state : UInt8) : Bool :=
  state = ifOperNotPresent || state = ifOperDown || state = ifOperLowerLayerDown ||
    state = ifOperTesting || state = ifOperDormant

/-- What the netlink listener stores: an unknown operational state counts as up. -/
def storedOperstate (state : UInt8) : UInt8 :=
  if state = ifOperUnknown then ifOperUp else state

/-- The call of `mrp_port_link_change` that the netlink listener makes, if any. -/
def operstateLink (state : UInt8) : Option Bool :=
  if isDownState state then some false
  else if state = ifOperUnknown ∨ state = ifOperUp then some true
  else none

namespace Mrp

/-- Write the operational state of a port. -/
def setOperstate (mrp : Mrp) (p : Port) (operstate : UInt8) : Mrp :=
  match p with
  | .ring r =>
      { mrp with
        ringPort := Function.update mrp.ringPort r
          { mrp.ringPort r with operstate := operstate } }
  | .inter => mrp.setInOperstate operstate

/-- The part of `netlink_listen` that deals with the operational state. -/
def netlinkOperstate (mrp : Mrp) (p : Port) (state : UInt8) : Mrp :=
  match mrp.port? p with
  | none => mrp
  | some port =>
      if port.operstate = state then mrp
      else
        let mrp := mrp.setOperstate p (storedOperstate state)
        match operstateLink state with
        | some up => mrp.portLinkChange p up
        | none => mrp

/-- The source's `mrp_mac_change` for an interface that is a port. -/
def portMacChange (mrp : Mrp) (p : Port) (mac : Mac) : Mrp :=
  match p with
  | .ring r =>
      { mrp with
        ringPort := Function.update mrp.ringPort r { mrp.ringPort r with macaddr := mac } }
  | .inter => { mrp with iPort := mrp.iPort.map fun port => { port with macaddr := mac } }

/-- One event. -/
def step (mrp : Mrp) : Event → Mrp
  | .recv p rx => mrp.recv p rx
  | .linkChange p up => if (mrp.port? p).isSome then mrp.portLinkChange p up else mrp
  | .operstate p state => mrp.netlinkOperstate p state
  | .cfmLinkChange defect => mrp.cfmLinkChange defect
  | .portMac p mac => mrp.portMacChange p mac
  | .bridgeMac mac => { mrp with macaddr := mac }
  | .expired w => if (mrp.timer w).active then mrp.expired w else mrp

end Mrp

/-- The states that an instance created with these arguments can get into. -/
def Reachable (env : Env) (a : AddArgs) (mrp : Mrp) : Prop :=
  ∃ mrp₀ es, Created env a mrp₀ ∧ mrp = run Mrp.step mrp₀ es

/-! ## The receive path -/

namespace Mrp

/-- The state after `mrp_check_and_forward`. -/
def relay (mrp : Mrp) (p : Port) (fb : FrameBuf) (type : TlvType) : Mrp :=
  (mrp.checkAndForward p fb type).1

/-- The frame that the handler sees, if the frame is neither dropped nor left
alone: its type and the copy of it. -/
def delivered (mrp : Mrp) (p : Port) (rx : RxFrame) : Option (TlvType × Buf) :=
  match mrp.port? p with
  | none => none
  | some port =>
      let type := getTlvType rx.frameBuf.data
      if shouldDrop p port.state type then none
      else if mrp.shouldProcess type then
        some (type, (mrp.checkAndForward p rx.frameBuf type).2.copy rx.nstale)
      else none

/-- Whether the frame passes the drop filter. -/
def admitted (mrp : Mrp) (p : Port) (rx : RxFrame) : Bool :=
  match mrp.port? p with
  | none => false
  | some port => !shouldDrop p port.state (getTlvType rx.frameBuf.data)

/-- The copy of a received frame that `mrp_process_frame` hands to the handler. -/
def handlerBuf (mrp : Mrp) (p : Port) (rx : RxFrame) : Buf :=
  (mrp.checkAndForward p rx.frameBuf (getTlvType rx.frameBuf.data)).2.copy rx.nstale

/-- A frame reaches its handler if the drop filter and the process filter let it pass. -/
theorem delivered_eq (mrp : Mrp) (p : Port) (rx : RxFrame) :
    mrp.delivered p rx =
      if mrp.admitted p rx = true ∧ mrp.shouldProcess (getTlvType rx.frameBuf.data) = true then
        some (getTlvType rx.frameBuf.data, mrp.handlerBuf p rx)
      else none := by
  unfold delivered admitted handlerBuf
  cases mrp.port? p with
  | none => simp
  | some port =>
      by_cases hdrop : shouldDrop p port.state (getTlvType rx.frameBuf.data) = true
      · simp [hdrop]
      · simp [hdrop]

/-- Relaying leaves the receive buffer alone and at most raises the size. -/
theorem forwardIf_frameBuf (go : Bool) (p : Port) (x : Mrp × FrameBuf) :
    (forwardIf go p x).2.mem = x.2.mem ∧ x.2.size ≤ (forwardIf go p x).2.size := by
  have hpad : x.2.pad.mem = x.2.mem ∧ x.2.size ≤ x.2.pad.size := by
    unfold FrameBuf.pad
    split
    · exact ⟨rfl, by simp only; omega⟩
    · exact ⟨rfl, Nat.le_refl _⟩
  unfold forwardIf forward
  repeat' split
  all_goals first | exact hpad | exact ⟨rfl, Nat.le_refl _⟩

/-- The handler sees every octet that was received. -/
theorem handlerBuf_of_lt (mrp : Mrp) (p : Port) (rx : RxFrame) {i : Nat}
    (h : sizeofEthhdr + i < rx.bytes.length) : mrp.handlerBuf p rx i = rx.frameBuf.data i := by
  have hcheck : ∀ type, (mrp.checkAndForward p rx.frameBuf type).2.mem = rx.frameBuf.mem ∧
      rx.bytes.length ≤ (mrp.checkAndForward p rx.frameBuf type).2.size := by
    intro type
    rcases forwardIf_frameBuf (mrp.targets p rx.frameBuf.data type).p (.ring mrp.pPort)
      (mrp, rx.frameBuf) with ⟨hmem, hsize⟩
    rcases forwardIf_frameBuf (mrp.targets p rx.frameBuf.data type).s (.ring mrp.sPort)
      (forwardIf (mrp.targets p rx.frameBuf.data type).p (.ring mrp.pPort) (mrp, rx.frameBuf))
      with ⟨hmem', hsize'⟩
    rcases forwardIf_frameBuf (mrp.targets p rx.frameBuf.data type).i .inter
      (forwardIf (mrp.targets p rx.frameBuf.data type).s (.ring mrp.sPort)
        (forwardIf (mrp.targets p rx.frameBuf.data type).p (.ring mrp.pPort) (mrp, rx.frameBuf)))
      with ⟨hmem'', hsize''⟩
    exact ⟨by rw [checkAndForward, hmem'', hmem', hmem],
      Nat.le_trans hsize (Nat.le_trans hsize' hsize'')⟩
  rcases hcheck (getTlvType rx.frameBuf.data) with ⟨hmem, hsize⟩
  rw [handlerBuf, FrameBuf.copy, if_pos (by omega), FrameBuf.data, hmem]
  rfl

/-- Relaying adds to the logs and changes nothing else. -/
theorem forwardIf_eq (go : Bool) (p : Port) (x : Mrp × FrameBuf) :
    ∃ relayed calls, (forwardIf go p x).1 =
      { x.1 with relayed := relayed, calls := calls } := by
  unfold forwardIf forward
  split
  · split
    · exact ⟨_, _, rfl⟩
    · split
      · exact ⟨_, _, rfl⟩
      · exact ⟨_, _, rfl⟩
  · exact ⟨_, _, rfl⟩

/-- Relaying adds to the logs and changes nothing else. -/
theorem relay_eq (mrp : Mrp) (p : Port) (fb : FrameBuf) (type : TlvType) :
    ∃ relayed calls, mrp.relay p fb type = { mrp with relayed := relayed, calls := calls } := by
  unfold relay checkAndForward
  rcases forwardIf_eq (mrp.targets p fb.data type).p (.ring mrp.pPort) (mrp, fb) with ⟨r1, c1, h1⟩
  obtain ⟨r2, c2, h2⟩ := forwardIf_eq (mrp.targets p fb.data type).s (.ring mrp.sPort)
    (forwardIf (mrp.targets p fb.data type).p (.ring mrp.pPort) (mrp, fb))
  obtain ⟨r3, c3, h3⟩ := forwardIf_eq (mrp.targets p fb.data type).i .inter
    (forwardIf (mrp.targets p fb.data type).s (.ring mrp.sPort)
      (forwardIf (mrp.targets p fb.data type).p (.ring mrp.pPort) (mrp, fb)))
  exact ⟨r3, c3, by rw [h3, h2, h1]⟩

section Relay

variable (mrp : Mrp) (p : Port) (fb : FrameBuf) (type : TlvType)

@[simp]
theorem relay_toMrpConf : (mrp.relay p fb type).toMrpConf = mrp.toMrpConf := by
  rcases mrp.relay_eq p fb type with ⟨_, _, h⟩
  rw [h]

@[simp]
theorem relay_toRingPart : (mrp.relay p fb type).toRingPart = mrp.toRingPart := by
  rcases mrp.relay_eq p fb type with ⟨_, _, h⟩
  rw [h]

@[simp]
theorem relay_toInPart : (mrp.relay p fb type).toInPart = mrp.toInPart := by
  rcases mrp.relay_eq p fb type with ⟨_, _, h⟩
  rw [h]

@[simp]
theorem relay_macaddr : (mrp.relay p fb type).macaddr = mrp.macaddr := by
  rcases mrp.relay_eq p fb type with ⟨_, _, h⟩
  rw [h]

@[simp]
theorem relay_sent : (mrp.relay p fb type).sent = mrp.sent := by
  rcases mrp.relay_eq p fb type with ⟨_, _, h⟩
  rw [h]

@[simp]
theorem relay_shouldProcess (type' : TlvType) :
    (mrp.relay p fb type).shouldProcess type' = mrp.shouldProcess type' := by
  unfold shouldProcess
  rw [relay_toRingPart, relay_toMrpConf, relay_toInPart]

end Relay

/-- Receiving a frame is relaying it and then running the handler on the copy,
if there is one to run. -/
theorem recv_eq (mrp : Mrp) (p : Port) (rx : RxFrame) :
    mrp.recv p rx =
      if mrp.admitted p rx then
        match mrp.delivered p rx with
        | some (type, buf) => (mrp.relay p rx.frameBuf type).process buf type
        | none => mrp.relay p rx.frameBuf (getTlvType rx.frameBuf.data)
      else mrp := by
  unfold recv admitted delivered
  cases mrp.port? p with
  | none => rfl
  | some port =>
      simp only [Bool.not_eq_true']
      by_cases hdrop : shouldDrop p port.state (getTlvType rx.frameBuf.data) = true
      · simp [hdrop]
      · have hproc := mrp.relay_shouldProcess p rx.frameBuf (getTlvType rx.frameBuf.data)
          (getTlvType rx.frameBuf.data)
        unfold relay at hproc
        by_cases hp : mrp.shouldProcess (getTlvType rx.frameBuf.data) = true
        · simp [hdrop, hp, processFrame, relay, hproc]
        · simp [hdrop, hp, processFrame, relay, hproc]

/-- A frame that reaches its handler was let in, is of the type that the filter
accepts, and is handled after it was relayed. -/
theorem recv_of_delivered {mrp : Mrp} {p : Port} {rx : RxFrame} {type : TlvType} {buf : Buf}
    (h : mrp.delivered p rx = some (type, buf)) :
    mrp.shouldProcess type = true ∧
      mrp.recv p rx = (mrp.relay p rx.frameBuf type).process buf type := by
  have hrecv := mrp.recv_eq p rx
  rw [h] at hrecv
  unfold delivered at h
  unfold admitted at hrecv
  cases hport : mrp.port? p with
  | none => simp [hport] at h
  | some port =>
      simp only [hport] at h hrecv
      by_cases hdrop : shouldDrop p port.state (getTlvType rx.frameBuf.data) = true
      · simp [hdrop] at h
      · by_cases hp : mrp.shouldProcess (getTlvType rx.frameBuf.data) = true
        · simp only [hdrop, hp, if_true, Bool.false_eq_true, if_false, Option.some.injEq,
            Prod.mk.injEq] at h
          exact ⟨h.1 ▸ hp, by simpa [hdrop] using hrecv⟩
        · simp [hdrop, hp] at h

/-- A frame that reaches no handler is at most relayed. -/
theorem recv_of_not_delivered {mrp : Mrp} {p : Port} {rx : RxFrame}
    (h : mrp.delivered p rx = none) :
    mrp.recv p rx = mrp ∨
      mrp.recv p rx = mrp.relay p rx.frameBuf (getTlvType rx.frameBuf.data) := by
  rw [recv_eq, h]
  split
  · exact .inr rfl
  · exact .inl rfl

/-! ## Handlers -/

/-- A predicate that the handlers of all events keep, apart from timers. -/
structure KeptByHandlers (I : Mrp → Prop) : Prop where
  relay : ∀ mrp p fb type, I mrp → I (mrp.relay p fb type)
  process : ∀ mrp buf type, I mrp → mrp.shouldProcess type = true → I (mrp.process buf type)
  link : ∀ mrp p up, I mrp → I (mrp.portLinkChange p up)
  cfm : ∀ mrp defect, I mrp → I (mrp.cfmLinkChange defect)
  operstate : ∀ mrp p operstate, I mrp → I (mrp.setOperstate p operstate)
  portMac : ∀ mrp p mac, I mrp → I (mrp.portMacChange p mac)
  bridgeMac : ∀ (mrp : Mrp) mac, I mrp → I { mrp with macaddr := mac }

/-- It is kept by every event if the callback of a timer that expires keeps it as well. -/
theorem KeptByHandlers.step {I : Mrp → Prop} (h : KeptByHandlers I) {mrp : Mrp} (hI : I mrp)
    (e : Event) (hexpired : ∀ w, e = .expired w → (mrp.timer w).active = true → I (mrp.expired w)) :
    I (mrp.step e) := by
  cases e with
  | recv p rx =>
      cases hdel : mrp.delivered p rx with
      | none =>
          rcases recv_of_not_delivered hdel with hrecv | hrecv
          · rw [Mrp.step, hrecv]
            exact hI
          · rw [Mrp.step, hrecv]
            exact h.relay mrp p _ _ hI
      | some x =>
          rcases recv_of_delivered hdel with ⟨htype, hrecv⟩
          rw [Mrp.step, hrecv]
          refine h.process _ x.2 x.1 (h.relay mrp p _ _ hI) ?_
          rwa [relay_shouldProcess]
  | linkChange p up =>
      simp only [Mrp.step]
      split
      · exact h.link mrp p up hI
      · exact hI
  | operstate p state =>
      simp only [Mrp.step, netlinkOperstate]
      split
      · exact hI
      · split
        · exact hI
        · split
          · exact h.link _ p _ (h.operstate mrp p _ hI)
          · exact h.operstate mrp p _ hI
  | cfmLinkChange defect => exact h.cfm mrp defect hI
  | portMac p mac => exact h.portMac mrp p mac hI
  | bridgeMac mac => exact h.bridgeMac mrp mac hI
  | expired w =>
      simp only [Mrp.step]
      split
      next hactive => exact hexpired w rfl hactive
      next => exact hI

/-! ## Causes -/

section Causes

variable (mrp : Mrp)

/-- The timer `w` expires while it is active. -/
def expires (w : TimerId) : Event → Bool
  | .expired w' => w' = w && (mrp.timer w).active
  | _ => false

/-- A frame reaches its handler, and its type and the copy of it satisfy `P`. -/
def handlesFrame (P : TlvType → Buf → Bool) : Event → Bool
  | .recv p rx =>
      match mrp.delivered p rx with
      | some (type, buf) => P type buf
      | none => false
  | _ => false

end Causes

end Mrp

end Umrp
