import Umrp.System.Faults

/-!
# What the bridge is told

An instance decides about port states and roles, and the bridge acts on them.  The two are
tied by the calls of the interface driver alone, most of whose answers are ignored.  This
file replays the calls on the side of the bridge: the states and roles that it ends up with
are those of the instance, and the calls are ones that every driver has a case for.

Main results:

- Theorem `Mrp.Agrees.step`: no event makes the bridge and the instance disagree.
- Theorem `bridge_agrees`: they agree in every reachable state.
-/

namespace Umrp

open Octets EventMachine

/-! ## The side of the bridge -/

/-- What the bridge has been told about an instance. -/
structure Bridge where
  port : Port → PortState
  ringRole : Option RingRole
  inRole : InRole

namespace Bridge

/-- The bridge before the first call. -/
def untold : Bridge := ⟨fun _ => .disabled, none, .disabled⟩

/-- The bridge does what a call says. -/
def take (b : Bridge) : Call → Bridge
  | .portSetState p state => { b with port := Function.update b.port p state }
  | .setRingRole role => { b with ringRole := some role }
  | .setInRole role => { b with inRole := role }
  | .flush | .timerAgain _ _ | .timerStop _ | .cfmMepCreate _ _ | .cfmMepConfig _ _ _ _
  | .cfmCcConfig _ _ | .cfmCcPeer _ _ | .cfmCcmTx _ _ _ | .nullDeref => b

/-- The bridge after all calls of a log. -/
def told (calls : List Call) : Bridge := calls.foldr (fun c b => b.take c) untold

@[simp]
theorem told_cons (c : Call) (calls : List Call) : told (c :: calls) = (told calls).take c :=
  rfl

end Bridge

/-! ## The driver for a hardware switch -/

/-- The switch in the source's `kbact_port_set_state`: the number that goes into the command.
Without a number it ends in `BUG`. -/
def kbactStatus : PortState → Option Nat
  | .blocked => some 1
  | .disabled => some 0
  | .forwarding => some 3
  | .notConnected => none

/-- The switch in the source's `kbact_set_ring_role` has a case. -/
def kbactHasRingRole : RingRole → Bool
  | .mrm | .mrc => true
  | .disabled | .mra => false

/-- The switch in the source's `kbact_set_in_role` has a case. -/
def kbactHasInRole : InRole → Bool
  | .mim | .mic => true
  | .disabled => false

/-- The call does not end in `BUG`, in the functions named `kbact_`. -/
def Call.kbactHas : Call → Bool
  | .portSetState _ state => (kbactStatus state).isSome
  | .setRingRole role => kbactHasRingRole role
  | .setInRole role => kbactHasInRole role
  | .flush | .timerAgain _ _ | .timerStop _ | .cfmMepCreate _ _ | .cfmMepConfig _ _ _ _
  | .cfmCcConfig _ _ | .cfmCcPeer _ _ | .cfmCcmTx _ _ _ | .nullDeref => true

/-! ## Agreement -/

/-- The states of the three ports; a port that is missing counts as disabled. -/
def portStates (ringPort : RingPort → MrpPort) (iPort : Option MrpPort) : Port → PortState
  | .ring r => (ringPort r).state
  | .inter => (iPort.map MrpPort.state).getD .disabled

theorem portStates_update (ringPort : RingPort → MrpPort) (iPort : Option MrpPort) (r : RingPort)
    (port : MrpPort) : portStates (Function.update ringPort r port) iPort =
      Function.update (portStates ringPort iPort) (.ring r) port.state := by
  funext p
  cases p with
  | ring q => by_cases hq : q = r <;> simp [portStates, hq]
  | inter => simp [portStates]

theorem update_portStates_ring (ringPort : RingPort → MrpPort) (iPort : Option MrpPort)
    (r : RingPort) : Function.update (portStates ringPort iPort) (.ring r) (ringPort r).state =
      portStates ringPort iPort :=
  Function.update_eq_self (.ring r) (portStates ringPort iPort)

/-- Work on the interconnection port that leaves its state alone. -/
theorem portStates_map (ringPort : RingPort → MrpPort) (iPort : Option MrpPort)
    {f : MrpPort → MrpPort} (hf : ∀ port, (f port).state = port.state) :
    portStates ringPort (iPort.map f) = portStates ringPort iPort := by
  funext p
  cases p with
  | ring q => rfl
  | inter => simp [portStates, Function.comp_def, hf]

/-- A state that is written to the interconnection port, if there is one. -/
theorem portStates_map_state (ringPort : RingPort → MrpPort) (iPort : Option MrpPort)
    (state : PortState) :
    portStates ringPort (iPort.map fun port => { port with state := state }) =
      if iPort.isSome then Function.update (portStates ringPort iPort) .inter state
      else portStates ringPort iPort := by
  cases iPort with
  | none => rfl
  | some port =>
      funext p
      cases p <;> simp [portStates]

namespace Mrp

/-- The bridge has the states and roles of the instance, and was told of them by calls that
every driver has a case for. -/
structure Agrees (mrp : Mrp) : Prop where
  told : Bridge.told mrp.calls =
    ⟨portStates mrp.ringPort mrp.iPort, some mrp.ringRole, mrp.inRole⟩
  taken : mrp.calls.all Call.kbactHas = true

theorem agrees_iff {mrp : Mrp} : mrp.Agrees ↔
    Bridge.told mrp.calls = ⟨portStates mrp.ringPort mrp.iPort, some mrp.ringRole, mrp.inRole⟩ ∧
      mrp.calls.all Call.kbactHas = true :=
  ⟨fun h => ⟨h.told, h.taken⟩, fun h => ⟨h.1, h.2⟩⟩

/-! ## Handlers -/

@[simp]
theorem told_ite (c : Prop) [Decidable c] (a b : List Call) :
    Bridge.told (if c then a else b) = if c then Bridge.told a else Bridge.told b :=
  apply_ite _ _ _ _

theorem ite_port (c : Prop) [Decidable c] (f g : Port → PortState) (ringRole : Option RingRole)
    (inRole : InRole) :
    (if c then (⟨f, ringRole, inRole⟩ : Bridge) else ⟨g, ringRole, inRole⟩) =
      ⟨if c then f else g, ringRole, inRole⟩ :=
  (apply_ite (Bridge.mk · ringRole inRole) _ _ _).symm

theorem cons_ite (c : Prop) [Decidable c] (x y : Call) (calls : List Call) :
    (if c then x else y) :: calls = if c then x :: calls else y :: calls :=
  apply_ite (List.cons · calls) _ _ _

@[simp]
theorem all_ite (c : Prop) [Decidable c] (a b : List Call) (f : Call → Bool) :
    (if c then a else b).all f = if c then a.all f else b.all f :=
  apply_ite (List.all · f) _ _ _

@[simp]
theorem ite_ringPort (c : Prop) [Decidable c] (x y : RingPart) :
    (if c then x else y).ringPort = if c then x.ringPort else y.ringPort :=
  apply_ite _ _ _ _

@[simp]
theorem ite_ringRole (c : Prop) [Decidable c] (x y : RingPart) :
    (if c then x else y).ringRole = if c then x.ringRole else y.ringRole :=
  apply_ite _ _ _ _

@[simp]
theorem ite_inRole (c : Prop) [Decidable c] (x y : InPart) :
    (if c then x else y).inRole = if c then x.inRole else y.inRole :=
  apply_ite _ _ _ _

/-- Sending a frame tells the bridge nothing. -/
theorem told_send (mrp : Mrp) (p : Port) (frame : Frame) :
    Bridge.told (mrp.send p frame).calls = Bridge.told mrp.calls := by
  rw [send_calls]
  split <;> rfl

theorem all_send (mrp : Mrp) (p : Port) (frame : Frame) :
    (mrp.send p frame).calls.all Call.kbactHas = mrp.calls.all Call.kbactHas := by
  rw [send_calls]
  split <;> rfl

attribute [local simp] told_send all_send Bridge.take Call.kbactHas kbactStatus kbactHasRingRole kbactHasInRole
  ite_port cons_ite portStates_update update_portStates_ring portStates_map portStates_map_state RingPart.setPortState

attribute [local simp] call flush port?
  clearFdbStart clearFdbStop ringTestStart ringTestStop ringTopoStart ringTopoStop
  ringLinkUpStart ringLinkUpStop ringLinkDownStart ringLinkDownStop
  inTestStart inTestStop inTopoStart inTopoStop inLinkUpStart inLinkUpStop
  inLinkDownStart inLinkDownStop inLinkStatusStart inLinkStatusStop cfmCcmStop

attribute [local simp] portSetState_ring setRingRole setInRole setMrmInit setMrcInit setMrmState
  setMrcState setMimState setMicState promote demote restartTestCount noteInLink setInOperstate
  noteRingLink setAddTest setNoTc nextRingTransition setRingTestCurr setRingTestCurrMax
  resetRingTestCount setRingMonCurr setRingPrio setRingMac setRingTopoCurrMax setRingLinkCurrMax
  nextInTransition setInTestCurr setInTestCurrMax resetInTestCount setInTopoCurrMax
  setInLinkCurrMax setInLinkStatusCurrMax

attribute [local simp] sendRingTest ringTestSend ringTestReq sendRingTopo ringTopoSend ringTopoReq
  ringLinkReq sendTestMgrNack testMgrNackReq sendTestProp testPropReq sendInTest inTestSend
  inTestReq sendInTopo inTopoSend inTopoReq sendInLink inLinkReq sendInLinkStatus inLinkStatusReq

section Handlers

variable {mrp : Mrp} (h : mrp.Agrees)

include h

theorem agrees_mrmPortLink (p : RingPort) (up : Bool) : (mrp.mrmPortLink p up).Agrees := by
  unfold mrmPortLink
  cases mrp.mrmState <;> dsimp only <;> split_ifs <;> simp [agrees_iff, h.told, h.taken, -send_calls]

theorem agrees_mrcPortLink (p : RingPort) (up : Bool) : (mrp.mrcPortLink p up).Agrees := by
  unfold mrcPortLink
  cases mrp.mrcState <;> dsimp only <;> split_ifs <;> simp [agrees_iff, h.told, h.taken, -send_calls]

theorem agrees_recvRingTest (buf : Buf) : (mrp.recvRingTest buf).Agrees := by
  unfold recvRingTest mrmRecvRingTest mraRecvRingTest
  dsimp only
  repeat' split
  all_goals simp [agrees_iff, h.told, h.taken, -send_calls]

theorem agrees_recvRingTopo (buf : Buf) : (mrp.recvRingTopo buf).Agrees := by
  unfold recvRingTopo mraRecvRingTopo mrcRecvRingTopo
  dsimp only
  repeat' split
  all_goals simp [agrees_iff, h.told, h.taken, -send_calls]

theorem agrees_recvRingLink (buf : Buf) : (mrp.recvRingLink buf).Agrees := by
  unfold recvRingLink
  cases mrp.mrmState <;> dsimp only <;> repeat' split
  all_goals simp [agrees_iff, h.told, h.taken, -send_calls]

theorem agrees_recvNack (buf : Buf) : (mrp.recvNack buf).Agrees := by
  unfold recvNack recordHost yieldRole enterClient
  dsimp only
  repeat' split
  all_goals simp [agrees_iff, h.told, h.taken, -send_calls]

theorem agrees_recvOption (buf : Buf) : (mrp.recvOption buf).Agrees := by
  unfold recvOption recvPropagate
  dsimp only
  repeat' split
  · exact agrees_recvNack h _
  all_goals simp [agrees_iff, h.told, h.taken, -send_calls]

/-- A state that every driver has a number for. -/
theorem agrees_portSetState (p : Port) (state : PortState) (hstate : (kbactStatus state).isSome) :
    (mrp.portSetState p state).Agrees := by
  cases p with
  | ring r =>
      rw [agrees_iff]
      refine ⟨by simp [h.told], ?_⟩
      rw [portSetState_ring]
      exact Bool.and_eq_true_iff.mpr ⟨hstate, h.taken⟩
  | inter =>
      cases hport : mrp.iPort with
      | none =>
          have hsame : mrp.portSetState .inter state = mrp.call .nullDeref := by
            simp only [portSetState, hport]
          rw [hsame]
          exact ⟨h.told, h.taken⟩
      | some port =>
          rw [agrees_iff]
          refine ⟨by simp [h.told], ?_⟩
          rw [portSetState_inter_calls, hport]
          exact Bool.and_eq_true_iff.mpr ⟨hstate, h.taken⟩

theorem agrees_setMimState (state : MimState) : (mrp.setMimState state).Agrees :=
  ⟨h.told, h.taken⟩

theorem agrees_resetInTestCount : mrp.resetInTestCount.Agrees :=
  ⟨h.told, h.taken⟩

theorem agrees_setInLinkStatusCurrMax (max : UInt32) : (mrp.setInLinkStatusCurrMax max).Agrees :=
  ⟨h.told, h.taken⟩

theorem agrees_inLinkStatusStop : mrp.inLinkStatusStop.Agrees :=
  ⟨h.told, h.taken⟩

theorem agrees_inTestReq (interval : UInt32) : (mrp.inTestReq interval).Agrees := by
  simp [agrees_iff, h.told, h.taken, -send_calls]

theorem agrees_inTopoReq (time : UInt32) : (mrp.inTopoReq time).Agrees := by
  simp [agrees_iff, h.told, h.taken, -send_calls]

theorem agrees_inLinkStatusReq (interval : UInt32) : (mrp.inLinkStatusReq interval).Agrees := by
  simp [agrees_iff, h.told, h.taken, -send_calls]

theorem agrees_mimPortLink (up : Bool) : (mrp.mimPortLink up).Agrees := by
  have hblock := agrees_portSetState h .inter .blocked rfl
  have hready := agrees_portSetState (agrees_setInLinkStatusCurrMax h mrp.inLinkStatusConfMax)
    .inter .blocked rfl
  unfold mimPortLink
  repeat' split
  · exact agrees_setMimState (agrees_inTestReq (agrees_resetInTestCount hblock) _) _
  · exact h
  · exact h
  · exact h
  · exact agrees_setMimState (agrees_inTestReq (agrees_inTopoReq hblock _) _) _
  · exact agrees_setMimState (agrees_inTestReq (agrees_inTopoReq hblock _) _) _
  · exact agrees_setMimState (agrees_inLinkStatusReq hready _) _
  · exact h
  · exact h
  · exact h
  · exact agrees_setMimState (agrees_inLinkStatusStop hblock) _
  · exact agrees_setMimState hblock _
  · exact h

theorem agrees_micPortLink (up : Bool) : (mrp.micPortLink up).Agrees := by
  unfold micPortLink
  repeat' split
  all_goals simp [agrees_iff, h.told, h.taken, -send_calls]

theorem agrees_recvInTest (buf : Buf) : (mrp.recvInTest buf).Agrees := by
  have hreset := agrees_resetInTestCount (agrees_portSetState h .inter .blocked rfl)
  unfold recvInTest mimRecvInTest
  repeat' split
  · exact h
  · exact agrees_setMimState (agrees_inTestReq hreset _) _
  · exact agrees_setMimState (agrees_inTestReq (agrees_inTopoReq hreset _) _) _
  · exact agrees_resetInTestCount h

theorem agrees_recvInTopo (buf : Buf) : (mrp.recvInTopo buf).Agrees := by
  unfold recvInTopo restartRingTopo inTopoByRole micRecvInTopo
  dsimp only
  repeat' split
  all_goals simp [agrees_iff, h.told, h.taken, -send_calls]

theorem agrees_recvInLink (buf : Buf) : (mrp.recvInLink buf).Agrees := by
  unfold recvInLink
  cases mrp.mimState <;> dsimp only <;> repeat' split
  all_goals simp [agrees_iff, h.told, h.taken, -send_calls]

theorem agrees_recvInLinkStatus (buf : Buf) : (mrp.recvInLinkStatus buf).Agrees := by
  unfold recvInLinkStatus
  repeat' split
  all_goals simp [agrees_iff, h.told, h.taken, -send_calls]

theorem agrees_process (buf : Buf) (type : TlvType) : (mrp.process buf type).Agrees := by
  cases type with
  | ringTest => exact agrees_recvRingTest h buf
  | ringTopo => exact agrees_recvRingTopo h buf
  | ringLinkDown => exact agrees_recvRingLink h buf
  | ringLinkUp => exact agrees_recvRingLink h buf
  | option => exact agrees_recvOption h buf
  | inTest => exact agrees_recvInTest h buf
  | inTopo => exact agrees_recvInTopo h buf
  | inLinkDown => exact agrees_recvInLink h buf
  | inLinkUp => exact agrees_recvInLink h buf
  | inLinkStatus => exact agrees_recvInLinkStatus h buf
  | tlvEnd => exact h
  | common => exact h
  | unknown => exact h

theorem agrees_expired (w : TimerId) : (mrp.expired w).Agrees := by
  cases w with
  | clearFdb => simp [expired, clearFdbExpired, agrees_iff, h.told, h.taken, -send_calls]
  | ringTopo =>
      simp only [expired, ringTopoExpired]
      split <;> simp [agrees_iff, h.told, h.taken, -send_calls]
  | ringTest =>
      simp only [expired, ringTestExpired, mrcRingTestExpired, enterManager, mrmRingTestExpired]
      repeat' split
      all_goals simp [agrees_iff, h.told, h.taken, -send_calls]
  | ringLinkUp =>
      simp only [expired, ringLinkUpExpired]
      split <;> simp [agrees_iff, h.told, h.taken, -send_calls]
  | ringLinkDown =>
      simp only [expired, ringLinkDownExpired]
      split <;> simp [agrees_iff, h.told, h.taken, -send_calls]
  | inTest =>
      simp only [expired, inTestExpired]
      repeat' split
      all_goals simp [agrees_iff, h.told, h.taken, -send_calls]
  | inTopo =>
      simp only [expired, inTopoExpired]
      split <;> simp [agrees_iff, h.told, h.taken, -send_calls]
  | inLinkUp =>
      simp only [expired, inLinkUpExpired]
      split <;> simp [agrees_iff, h.told, h.taken, -send_calls]
  | inLinkDown =>
      simp only [expired, inLinkDownExpired]
      split <;> simp [agrees_iff, h.told, h.taken, -send_calls]
  | inLinkStatus =>
      simp only [expired, inLinkStatusExpired]
      split <;> simp [agrees_iff, h.told, h.taken, -send_calls]
  | cfmCcm => simp [expired, cfmCcmExpired, cfmCcmStart, agrees_iff, h.told, h.taken, -send_calls]

/-- A link event at the interconnection port. -/
theorem agrees_interLink (operstate : UInt8) (up : Bool) :
    (match (mrp.setInOperstate operstate).inRole with
      | .mim => ((mrp.setInOperstate operstate).noteInLink up).mimPortLink up
      | .mic => ((mrp.setInOperstate operstate).noteInLink up).micPortLink up
      | .disabled => mrp.setInOperstate operstate).Agrees := by
  have hset : (mrp.setInOperstate operstate).Agrees := by
    simp [agrees_iff, h.told, h.taken, -send_calls]
  have hnote : ((mrp.setInOperstate operstate).noteInLink up).Agrees := by
    simp [agrees_iff, h.told, h.taken, -send_calls]
  split
  · exact agrees_mimPortLink hnote up
  · exact agrees_micPortLink hnote up
  · exact hset

theorem agrees_setOperstate (p : Port) (operstate : UInt8) : (mrp.setOperstate p operstate).Agrees := by
  cases p <;> simp [setOperstate, agrees_iff, h.told, h.taken, -send_calls]

theorem agrees_portLinkChange (p : Port) (up : Bool) : (mrp.portLinkChange p up).Agrees := by
  cases p with
  | ring r =>
      have hnote : (mrp.noteRingLink r up).Agrees := by
        simp [agrees_iff, h.told, h.taken, -send_calls]
      simp only [portLinkChange]
      split
      · exact agrees_mrmPortLink hnote r up
      · exact agrees_mrcPortLink hnote r up
      · exact hnote
      · exact hnote
  | inter =>
      simp only [portLinkChange]
      split
      · exact h
      · exact agrees_interLink h (if up then ifOperUp else ifOperDown) up

theorem agrees_cfmLinkChange (defect : Bool) : (mrp.cfmLinkChange defect).Agrees := by
  unfold cfmLinkChange
  split
  · exact h
  · exact agrees_interLink h (if defect then ifOperDown else ifOperUp) (!defect)

theorem agrees_portMacChange (p : Port) (mac : Mac) : (mrp.portMacChange p mac).Agrees := by
  cases p <;> simp [portMacChange, agrees_iff, h.told, h.taken, -send_calls]

theorem agrees_relay (p : Port) (fb : FrameBuf) (type : TlvType) : (mrp.relay p fb type).Agrees := by
  have hforward : ∀ (go : Bool) q (x : Mrp × FrameBuf), x.1.Agrees → (forwardIf go q x).1.Agrees := by
    intro go q x hx
    unfold forwardIf forward
    repeat' split
    · simp [agrees_iff, hx.told, hx.taken]
    · exact ⟨hx.told, hx.taken⟩
    · exact hx
    · exact hx
  exact hforward _ _ _ (hforward _ _ _ (hforward _ _ _ h))

end Handlers

theorem keptByHandlers_agrees : KeptByHandlers Agrees where
  relay _ p fb type h := agrees_relay h p fb type
  process _ buf type h _ := agrees_process h buf type
  link _ p up h := agrees_portLinkChange h p up
  cfm _ defect h := agrees_cfmLinkChange h defect
  operstate _ p operstate h := agrees_setOperstate h p operstate
  portMac _ p mac h := agrees_portMacChange h p mac
  bridgeMac _ _ h := ⟨h.told, h.taken⟩

/-- No event makes the bridge and the instance disagree. -/
theorem Agrees.step {mrp : Mrp} (h : mrp.Agrees) (e : Event) : (mrp.step e).Agrees :=
  keptByHandlers_agrees.step h e fun w _ _ => agrees_expired h w

/-! ## Construction -/

/-- The bridge was told nothing yet, and the ports are in the state they have without that. -/
structure Untold (mrp : Mrp) : Prop where
  told : Bridge.told mrp.calls = ⟨portStates mrp.ringPort mrp.iPort, none, .disabled⟩
  taken : mrp.calls.all Call.kbactHas = true
  inRole : mrp.inRole = .disabled

theorem configure_untold (env : Env) (a : AddArgs) : (configure env a).Untold := by
  have hcalls : ((applySettings env a).initPorts env a).calls = [] := by
    simp only [initPorts]
    split <;> exact applySettings_calls env a
  have hports : portStates ((applySettings env a).initPorts env a).ringPort
      ((applySettings env a).initPorts env a).iPort = fun _ => .disabled := by
    rw [initPorts_iPort]
    have hring : ∀ r, (((applySettings env a).initPorts env a).ringPort r).state = .disabled := by
      intro r
      simp only [initPorts]
      cases r <;> split <;> rfl
    funext p
    cases p with
    | ring r => exact hring r
    | inter =>
        simp only [portStates]
        split <;> rfl
  have hinit : Bridge.told ((applySettings env a).initPorts env a).calls =
      ⟨portStates ((applySettings env a).initPorts env a).ringPort
        ((applySettings env a).initPorts env a).iPort, none, .disabled⟩ := by
    rw [hcalls, hports]
    rfl
  have htaken : ((applySettings env a).initPorts env a).calls.all Call.kbactHas = true := by
    rw [hcalls]
    rfl
  have hall : Bridge.told (configure env a).calls =
      ⟨portStates (configure env a).ringPort (configure env a).iPort, none, .disabled⟩ ∧
        (configure env a).calls.all Call.kbactHas = true := by
    unfold configure
    dsimp only
    split
    · simp only [startCfm]
      split <;> exact ⟨hinit, htaken⟩
    · exact ⟨hinit, htaken⟩
  exact ⟨hall.1, hall.2, configure_inRole env a⟩

/-- `mrp_reset_ring_state` stops timers only. -/
theorem told_resetRingState (mrp : Mrp) :
    Bridge.told mrp.resetRingState.calls = Bridge.told mrp.calls := by
  unfold Mrp.resetRingState timerStop
  dsimp only
  split_ifs <;> simp

theorem Untold.resetRingState {mrp : Mrp} (h : mrp.Untold) : mrp.resetRingState.Untold := by
  unfold Mrp.resetRingState timerStop
  dsimp only
  split_ifs <;> refine ⟨?_, ?_, ?_⟩ <;> simp [h.told, h.taken, h.inRole]

/-- Setting up the state machines tells it nothing either. -/
theorem Untold.setMrmInit {mrp : Mrp} (h : mrp.Untold) : mrp.setMrmInit.Untold :=
  ⟨h.told, h.taken, h.inRole⟩

theorem Untold.setMrcInit {mrp : Mrp} (h : mrp.Untold) : mrp.setMrcInit.Untold :=
  ⟨h.told, h.taken, h.inRole⟩

theorem Untold.setMrmState {mrp : Mrp} (h : mrp.Untold) (state : MrmState) :
    (mrp.setMrmState state).Untold :=
  ⟨h.told, h.taken, h.inRole⟩

theorem Untold.setMrcState {mrp : Mrp} (h : mrp.Untold) (state : MrcState) :
    (mrp.setMrcState state).Untold :=
  ⟨h.told, h.taken, h.inRole⟩

/-- The first call for a ring role makes them agree. -/
theorem Untold.takeRingRole {mrp : Mrp} (h : mrp.Untold) (env : Env) (role : RingRole)
    (hrole : kbactHasRingRole role = true) : (mrp.takeRingRole env role).1.Agrees := by
  have hset : (((mrp.portSetState (.ring mrp.pPort) .blocked).portSetState
      (.ring mrp.sPort) .blocked).setRingRole role).Agrees := by
    rw [agrees_iff]
    refine ⟨by simp [h.told, h.inRole], ?_⟩
    exact Bool.and_eq_true_iff.mpr ⟨hrole, h.taken⟩
  have hlink : ∀ {m : Mrp} r, m.Agrees → (m.announceRingLink env r).Agrees := by
    intro m r hm
    unfold announceRingLink
    split
    · exact agrees_portLinkChange hm _ true
    · exact hm
  simp only [Mrp.takeRingRole]
  split
  · exact hset
  · exact hlink _ (hlink _ hset)

theorem Untold.setRingRoleByNumber {mrp : Mrp} (h : mrp.Untold) (env : Env) {ringRole : UInt32}
    (hrole : IsRingRole ringRole) : (mrp.setRingRoleByNumber env ringRole).1.Agrees := by
  have hmra : { mrp with mraSupport := true }.Untold := ⟨h.told, h.taken, h.inRole⟩
  have hreset := h.resetRingState
  rcases hrole with rfl | rfl | rfl
  · rw [Mrp.setRingRoleByNumber, if_neg (by decide), if_pos rfl]
    exact (hreset.setMrcInit.setMrcState _).takeRingRole env .mrc rfl
  · rw [Mrp.setRingRoleByNumber, if_pos rfl]
    exact (hreset.setMrmInit.setMrmState _).takeRingRole env .mrm rfl
  · rw [Mrp.setRingRoleByNumber, if_neg (by decide), if_neg (by decide), if_pos rfl]
    exact (hmra.resetRingState.setMrmInit.setMrcInit.setMrmState _).takeRingRole env .mrm rfl

theorem agrees_takeInRole {mrp : Mrp} (h : mrp.Agrees) (reg : Registry) (env : Env) (role : InRole)
    (hrole : kbactHasInRole role = true) : (reg.takeInRole mrp env role).2.1.Agrees := by
  have hset : ({ mrp with mimState := .acStat1, micState := .acStat1 }.setInRole role).Agrees := by
    rw [agrees_iff]
    refine ⟨by simp [h.told], ?_⟩
    exact Bool.and_eq_true_iff.mpr ⟨hrole, h.taken⟩
  have hlink : ∀ {m : Mrp}, m.Agrees → (reg.announceInLink m env).2.Agrees := by
    intro m hm
    unfold Registry.announceInLink
    repeat' split
    · exact agrees_portLinkChange hm .inter true
    · exact hm
    · exact agrees_cfmLinkChange hm false
    · exact hm
  simp only [Registry.takeInRole]
  repeat' split
  · exact h
  · exact hset
  · exact hlink (agrees_portSetState hset .inter .blocked rfl)

end Mrp

theorem Created.agrees {env : Env} {a : AddArgs} {mrp : Mrp} (ha : IsRingRole a.ringRole)
    (h : Created env a mrp) : mrp.Agrees := by
  rcases h.exists_registry with ⟨reg, x, rfl, rfl, -⟩
  have hring := (Mrp.configure_untold env a).setRingRoleByNumber env ha
  unfold Registry.setInRoleByNumber Registry.setMimRole Registry.setMicRole
  repeat' split
  · exact Mrp.agrees_takeInRole hring reg env _ rfl
  · exact Mrp.agrees_takeInRole hring reg env _ rfl
  · exact hring

/-- Whatever an instance has been through, the bridge has every one of its ports in the state
that the instance has it in, and both roles, although the instance never looks at what its
calls return.  No call was one that the driver for a switch has no case for.  When the
instance is destroyed the bridge is told nothing: the ports stay as they are. -/
theorem bridge_agrees {env : Env} {a : AddArgs} {mrp : Mrp} (ha : IsRingRole a.ringRole)
    (h : Reachable env a mrp) :
    (∀ p port, mrp.port? p = some port → (Bridge.told mrp.calls).port p = port.state) ∧
      (Bridge.told mrp.calls).ringRole = some mrp.ringRole ∧
      (Bridge.told mrp.calls).inRole = mrp.inRole ∧
      (∀ c ∈ mrp.calls, c.kbactHas = true) ∧
      Bridge.told mrp.destroy.calls = Bridge.told mrp.calls := by
  have hagrees : mrp.Agrees := by
    obtain ⟨m, es, hm, rfl⟩ := h
    exact run_invariant (I := Mrp.Agrees) (fun _ e hm => hm.step e) (hm.agrees ha) es
  refine ⟨?_, ?_, ?_, List.all_eq_true.mp hagrees.taken,
    mrp.told_resetRingState⟩
  · intro p port hport
    rw [hagrees.told]
    cases p with
    | ring r => exact congrArg MrpPort.state (Option.some.inj hport)
    | inter =>
        have hsome : mrp.iPort = some port := hport
        simp [portStates, hsome]
  · rw [hagrees.told]
  · rw [hagrees.told]

/-- A manager whose primary link is lost and comes back. -/
theorem bridge_agrees_sample :
    (Bridge.told (run Mrp.step (Sample.mrp ringRoleMrm inRoleMim)
      [.linkChange (.ring .primary) false, .linkChange (.ring .primary) true]).calls).ringRole =
        some .mrm := by
  have hreach : Reachable Sample.env (Sample.args ringRoleMrm inRoleMim)
      (Sample.mrp ringRoleMrm inRoleMim) := Sample.reachable (by decide +kernel)
  obtain ⟨-, hrole, -⟩ := bridge_agrees (.inr (.inl rfl)) (hreach.goOn
    [.linkChange (.ring .primary) false, .linkChange (.ring .primary) true])
  rw [hrole]
  decide +kernel

end Umrp
