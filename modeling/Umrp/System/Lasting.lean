import Umrp.Creation

/-!
# What lasts as long as the instance

The interfaces of the ports, the interconnection role and the timer of the CCM frames
are set up by `mrp_add`.  No handler changes them afterwards, with one exception: the
CCM timer is restarted by its own callback.

Main results:

- Theorem `Mrp.step_lasting`: no event but an expiry of the CCM timer touches it, and
  no event moves a port to another interface.
- Theorems `Mrp.step_portIndexes` and `Mrp.step_inRole`: every event keeps the
  interfaces and the interconnection role.
-/

namespace Umrp

open Octets EventMachine

namespace Mrp

/-- The CCM timer and the interface of the interconnection port. -/
def lasting (mrp : Mrp) : EvTimer × Option UInt32 :=
  (mrp.cfmCcmWork, mrp.iPort.map MrpPort.ifindex)

/-! ## Primitives -/

section Primitives

variable (mrp : Mrp)

@[simp]
theorem send_cfmCcmWork (p : Port) (frame : Frame) :
    (mrp.send p frame).cfmCcmWork = mrp.cfmCcmWork := by
  rcases mrp.send_eq p frame with ⟨_, _, _, h⟩
  rw [h]

@[simp]
theorem portSetState_inter_cfmCcmWork (state : PortState) :
    (mrp.portSetState .inter state).cfmCcmWork = mrp.cfmCcmWork := by
  rcases mrp.portSetState_inter_eq state with ⟨_, h⟩
  rw [h]

@[simp]
theorem ite_cfmCcmWork (c : Prop) [Decidable c] (a b : Mrp) :
    (if c then a else b).cfmCcmWork = if c then a.cfmCcmWork else b.cfmCcmWork :=
  apply_ite _ _ _ _

theorem relay_lasting (p : Port) (fb : FrameBuf) (type : TlvType) :
    (mrp.relay p fb type).lasting = mrp.lasting := by
  rcases mrp.relay_eq p fb type with ⟨_, _, h⟩
  rw [h]
  rfl

@[simp]
theorem ite_iPort (c : Prop) [Decidable c] (x y : InPart) :
    (if c then x else y).iPort = if c then x.iPort else y.iPort :=
  apply_ite _ _ _ _

end Primitives

attribute [local simp] lasting call flush
  clearFdbStart clearFdbStop ringTestStart ringTestStop ringTopoStart ringTopoStop
  ringLinkUpStart ringLinkUpStop ringLinkDownStart ringLinkDownStop
  inTestStart inTestStop inTopoStart inTopoStop inLinkUpStart inLinkUpStop
  inLinkDownStart inLinkDownStop inLinkStatusStart inLinkStatusStop

attribute [local simp] portSetState_ring setRingRole setInRole setMrmInit setMrcInit setMrmState
  setMrcState setMimState setMicState promote demote restartTestCount noteInLink setInOperstate
  noteRingLink setAddTest setNoTc nextRingTransition setRingTestCurr setRingTestCurrMax
  resetRingTestCount setRingMonCurr setRingPrio setRingMac setRingTopoCurrMax setRingLinkCurrMax
  nextInTransition setInTestCurr setInTestCurrMax resetInTestCount setInTopoCurrMax
  setInLinkCurrMax setInLinkStatusCurrMax

attribute [local simp] sendRingTest ringTestSend ringTestReq sendRingTopo ringTopoSend ringTopoReq
  ringLinkReq sendTestMgrNack testMgrNackReq sendTestProp testPropReq sendInTest inTestSend
  inTestReq sendInTopo inTopoSend inTopoReq sendInLink inLinkReq sendInLinkStatus inLinkStatusReq

attribute [local simp] Function.comp_def

section Handlers

variable (mrp : Mrp)

theorem setMrmInit_lasting : mrp.setMrmInit.lasting = mrp.lasting := by
  simp

theorem setMrcInit_lasting : mrp.setMrcInit.lasting = mrp.lasting := by
  simp

theorem setMrmState_lasting (state : MrmState) : (mrp.setMrmState state).lasting = mrp.lasting := by
  simp

theorem setMrcState_lasting (state : MrcState) : (mrp.setMrcState state).lasting = mrp.lasting := by
  simp

theorem setRingRole_lasting (role : RingRole) : (mrp.setRingRole role).lasting = mrp.lasting := by
  simp

theorem setInRole_lasting (role : InRole) : (mrp.setInRole role).lasting = mrp.lasting := by
  simp

theorem portSetState_lasting (p : Port) (state : PortState) :
    (mrp.portSetState p state).lasting = mrp.lasting := by
  cases p <;> simp

theorem mrmPortLink_lasting (p : RingPort) (up : Bool) :
    (mrp.mrmPortLink p up).lasting = mrp.lasting := by
  unfold mrmPortLink
  cases mrp.mrmState <;> dsimp only <;> split_ifs <;> simp

theorem mrcPortLink_lasting (p : RingPort) (up : Bool) :
    (mrp.mrcPortLink p up).lasting = mrp.lasting := by
  unfold mrcPortLink
  cases mrp.mrcState <;> dsimp only <;> split_ifs <;> simp

theorem mimPortLink_lasting (up : Bool) : (mrp.mimPortLink up).lasting = mrp.lasting := by
  unfold mimPortLink
  split <;> (try split) <;> simp

theorem micPortLink_lasting (up : Bool) : (mrp.micPortLink up).lasting = mrp.lasting := by
  unfold micPortLink
  split <;> (try split) <;> simp

theorem recvRingTest_lasting (buf : Buf) : (mrp.recvRingTest buf).lasting = mrp.lasting := by
  unfold recvRingTest mrmRecvRingTest mraRecvRingTest
  dsimp only
  repeat' split
  all_goals simp

theorem recvRingTopo_lasting (buf : Buf) : (mrp.recvRingTopo buf).lasting = mrp.lasting := by
  unfold recvRingTopo mraRecvRingTopo mrcRecvRingTopo
  dsimp only
  repeat' split
  all_goals simp

theorem recvRingLink_lasting (buf : Buf) : (mrp.recvRingLink buf).lasting = mrp.lasting := by
  unfold recvRingLink
  cases mrp.mrmState <;> dsimp only <;> split_ifs <;> simp

theorem recvNack_lasting (buf : Buf) : (mrp.recvNack buf).lasting = mrp.lasting := by
  unfold recvNack recordHost yieldRole enterClient
  dsimp only
  repeat' split
  all_goals simp

theorem recvOption_lasting (buf : Buf) : (mrp.recvOption buf).lasting = mrp.lasting := by
  unfold recvOption recvPropagate
  dsimp only
  split_ifs <;> first | exact mrp.recvNack_lasting _ | simp

theorem recvInTest_lasting (buf : Buf) : (mrp.recvInTest buf).lasting = mrp.lasting := by
  unfold recvInTest mimRecvInTest
  repeat' split
  all_goals simp

theorem recvInTopo_lasting (buf : Buf) : (mrp.recvInTopo buf).lasting = mrp.lasting := by
  unfold recvInTopo restartRingTopo inTopoByRole micRecvInTopo
  dsimp only
  repeat' split
  all_goals simp

theorem recvInLink_lasting (buf : Buf) : (mrp.recvInLink buf).lasting = mrp.lasting := by
  unfold recvInLink
  cases mrp.mimState <;> dsimp only <;> split_ifs <;> simp

theorem recvInLinkStatus_lasting (buf : Buf) :
    (mrp.recvInLinkStatus buf).lasting = mrp.lasting := by
  unfold recvInLinkStatus
  repeat' split
  all_goals simp

theorem process_lasting (buf : Buf) (type : TlvType) :
    (mrp.process buf type).lasting = mrp.lasting := by
  cases type with
  | ringTest => exact mrp.recvRingTest_lasting buf
  | ringTopo => exact mrp.recvRingTopo_lasting buf
  | ringLinkDown => exact mrp.recvRingLink_lasting buf
  | ringLinkUp => exact mrp.recvRingLink_lasting buf
  | option => exact mrp.recvOption_lasting buf
  | inTest => exact mrp.recvInTest_lasting buf
  | inTopo => exact mrp.recvInTopo_lasting buf
  | inLinkDown => exact mrp.recvInLink_lasting buf
  | inLinkUp => exact mrp.recvInLink_lasting buf
  | inLinkStatus => exact mrp.recvInLinkStatus_lasting buf
  | tlvEnd => rfl
  | common => rfl
  | unknown => rfl

/-- The callbacks of all other timers. -/
theorem expired_lasting {w : TimerId} (hw : w ≠ .cfmCcm) :
    (mrp.expired w).lasting = mrp.lasting := by
  cases w with
  | clearFdb => rfl
  | ringTopo =>
      simp only [expired, ringTopoExpired]
      split <;> simp
  | ringTest =>
      simp only [expired, ringTestExpired, mrcRingTestExpired, enterManager, mrmRingTestExpired]
      repeat' split
      all_goals simp
  | ringLinkUp =>
      simp only [expired, ringLinkUpExpired]
      split <;> simp
  | ringLinkDown =>
      simp only [expired, ringLinkDownExpired]
      split <;> simp
  | inTest =>
      simp only [expired, inTestExpired]
      repeat' split
      all_goals simp
  | inTopo =>
      simp only [expired, inTopoExpired]
      split <;> simp
  | inLinkUp =>
      simp only [expired, inLinkUpExpired]
      split <;> simp
  | inLinkDown =>
      simp only [expired, inLinkDownExpired]
      split <;> simp
  | inLinkStatus =>
      simp only [expired, inLinkStatusExpired]
      split <;> simp
  | cfmCcm => exact absurd rfl hw

/-- Noting a link event. -/
theorem noteInLink_lasting (up : Bool) : (mrp.noteInLink up).lasting = mrp.lasting := by
  simp

/-- Storing an operational state. -/
theorem setOperstate_lasting (p : Port) (operstate : UInt8) :
    (mrp.setOperstate p operstate).lasting = mrp.lasting := by
  cases p <;> simp [setOperstate]

/-- A link event. -/
theorem portLinkChange_lasting (p : Port) (up : Bool) :
    (mrp.portLinkChange p up).lasting = mrp.lasting := by
  cases p with
  | ring r =>
      simp only [portLinkChange]
      split
      · exact mrmPortLink_lasting _ r up
      · exact mrcPortLink_lasting _ r up
      · rfl
      · rfl
  | inter =>
      have hset := mrp.setOperstate_lasting .inter (if up then ifOperUp else ifOperDown)
      have hnote := ((mrp.setInOperstate (if up then ifOperUp else ifOperDown)).noteInLink_lasting up)
      simp only [portLinkChange]
      split
      · rfl
      · split
        · exact (mimPortLink_lasting _ up).trans (hnote.trans hset)
        · exact (micPortLink_lasting _ up).trans (hnote.trans hset)
        · exact hset

/-- A CFM notification. -/
theorem cfmLinkChange_lasting (defect : Bool) :
    (mrp.cfmLinkChange defect).lasting = mrp.lasting := by
  have hset := mrp.setOperstate_lasting .inter (if defect then ifOperDown else ifOperUp)
  have hnote := ((mrp.setInOperstate (if defect then ifOperDown else ifOperUp)).noteInLink_lasting
    !defect)
  unfold cfmLinkChange
  split
  · rfl
  · dsimp only
    split
    · exact (mimPortLink_lasting _ _).trans (hnote.trans hset)
    · exact (micPortLink_lasting _ _).trans (hnote.trans hset)
    · exact hset

/-- Storing an address. -/
theorem portMacChange_lasting (p : Port) (mac : Mac) :
    (mrp.portMacChange p mac).lasting = mrp.lasting := by
  cases p <;> simp [portMacChange]

/-- The handlers keep all of it. -/
theorem keptByHandlers_lasting (x : EvTimer × Option UInt32) :
    KeptByHandlers fun mrp => mrp.lasting = x where
  relay mrp p fb type h := (mrp.relay_lasting p fb type).trans h
  process mrp buf type h _ := (mrp.process_lasting buf type).trans h
  link mrp p up h := (mrp.portLinkChange_lasting p up).trans h
  cfm mrp defect h := (mrp.cfmLinkChange_lasting defect).trans h
  operstate mrp p operstate h := (mrp.setOperstate_lasting p operstate).trans h
  portMac mrp p mac h := (mrp.portMacChange_lasting p mac).trans h
  bridgeMac _ _ h := h

/-- Every event keeps the interface of the interconnection port, and all but an expiry
of the CCM timer leave that timer alone. -/
theorem step_lasting {e : Event} (he : e ≠ .expired .cfmCcm) :
    (mrp.step e).lasting = mrp.lasting := by
  refine (keptByHandlers_lasting mrp.lasting).step rfl e ?_
  rintro w rfl -
  exact mrp.expired_lasting fun hw => he (congrArg Event.expired hw)

end Handlers

end Mrp

/-! ## Interfaces and role -/

/-- No event of the ring machine moves a port to another interface. -/
theorem Ring.step_ifindex (c : LinkConf) (x : Ring) (ev : Ring.Event) :
    (x.step c ev).ifindex = x.ifindex := by
  cases ev with
  | link r up =>
      simp only [step, linkEvent, mrmLink, mrcLink]
      repeat' split
      all_goals rfl
  | closed =>
      simp only [step, close]
      split <;> rfl
  | opened =>
      simp only [step, opening]
      split <;> rfl
  | topologyChange =>
      simp only [step, topology]
      split <;> rfl
  | nacked =>
      simp only [step, giveUp]
      split <;> rfl
  | managerLost =>
      simp only [step, takeOver]
      split <;> rfl
  | linkUpTick =>
      simp only [step, upTick]
      split <;> rfl
  | linkDownTick =>
      simp only [step, downTick]
      split <;> rfl
  | silent => rfl

/-- No event of the interconnection machine changes the role. -/
theorem Inter.step_role (c : InterConf) (x : Inter) (ev : Inter.Event) :
    (x.step c ev).role = x.role := by
  cases ev with
  | link up =>
      simp only [step, linkEvent, mimLink, micLink, micDown]
      repeat' split
      all_goals rfl
  | closed =>
      simp only [step, close]
      split <;> rfl
  | opened =>
      simp only [step, opening]
      split <;> rfl
  | topologyChange own =>
      simp only [step, topology]
      repeat' split
      all_goals rfl
  | linkUpTick =>
      simp only [step, upTick]
      split <;> rfl
  | linkDownTick =>
      simp only [step, downTick]
      split <;> rfl
  | silent => rfl

namespace Mrp

/-- The interfaces of the ports that an instance has. -/
def portIndexes (mrp : Mrp) : List UInt32 :=
  (mrp.ringPort .primary).ifindex :: (mrp.ringPort .secondary).ifindex ::
    (mrp.iPort.map MrpPort.ifindex).toList

/-- Every event keeps the interconnection role. -/
theorem step_inRole (mrp : Mrp) (e : Event) : (mrp.step e).inRole = mrp.inRole := by
  have hrole := congrArg Inter.role (mrp.step_inter e)
  rwa [Inter.step_role] at hrole

/-- Every event keeps the interface of the interconnection port. -/
theorem step_inIndex (mrp : Mrp) (e : Event) :
    (mrp.step e).iPort.map MrpPort.ifindex = mrp.iPort.map MrpPort.ifindex := by
  by_cases he : e = .expired .cfmCcm
  · rw [he]
    simp only [step]
    split <;> rfl
  · exact congrArg Prod.snd (mrp.step_lasting he)

/-- Every event keeps the interfaces. -/
@[simp]
theorem step_portIndexes (mrp : Mrp) (e : Event) : (mrp.step e).portIndexes = mrp.portIndexes := by
  have hring : (mrp.step e).ring.ifindex = mrp.ring.ifindex := by
    rw [mrp.step_ring e, Ring.step_ifindex]
  have hindex : ∀ r, ((mrp.step e).ringPort r).ifindex = (mrp.ringPort r).ifindex := congrFun hring
  rw [portIndexes, hindex, hindex, mrp.step_inIndex e]
  rfl

end Mrp

end Umrp
