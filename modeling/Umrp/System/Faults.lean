import Umrp.System.Lifetime

/-!
# Missing ports

The interconnection port of an instance is optional.  Some functions look whether it is
there, others follow the pointer.  The model logs every use of a pointer that is NULL;
this file is about when there is one.

Main results:

- Theorem `Mrp.Wired.step`: no event follows a NULL pointer if the instance has an
  interconnection port, or has no role and no active timer that needs one.
- Theorem `Registry.built_faults`: `mrp_start_cfm` is the exception.
- Theorem `Reachable.wired`: every reachable instance is one of those.
-/

namespace Umrp

open Octets EventMachine

/-- The timers whose callbacks belong to the interconnection. -/
def TimerId.isInter : TimerId → Bool
  | .inTest | .inTopo | .inLinkUp | .inLinkDown | .inLinkStatus => true
  | .clearFdb | .ringTopo | .ringTest | .ringLinkUp | .ringLinkDown | .cfmCcm => false

/-- None of them is active in an idle interconnection. -/
theorem InPart.Idle.timer {mrp : Mrp} (h : mrp.toInPart.Idle) {w : TimerId} (hw : w.isInter = true) :
    (mrp.timer w).active = false := by
  cases w with
  | inTest => exact h.test
  | inTopo => exact h.topo
  | inLinkUp => exact h.linkUp
  | inLinkDown => exact h.linkDown
  | inLinkStatus => exact h.linkStatus
  | _ => cases hw

/-- The entry for a pointer that is NULL. -/
def Call.isFault : Call → Bool
  | .nullDeref => true
  | _ => false

namespace Mrp

/-- How often a pointer was followed that is NULL. -/
def faults (mrp : Mrp) : Nat := mrp.calls.countP Call.isFault

/-! ## Primitives -/

section Primitives

variable (mrp : Mrp)

@[simp]
theorem send_calls (p : Port) (frame : Frame) :
    (mrp.send p frame).calls =
      if (mrp.port? p).isSome then mrp.calls else .nullDeref :: mrp.calls := by
  unfold send
  cases mrp.port? p with
  | none => rfl
  | some port =>
      dsimp only
      split <;> rfl

@[simp]
theorem portSetState_inter_calls (state : PortState) :
    (mrp.portSetState .inter state).calls =
      (if mrp.iPort.isSome then .portSetState .inter state else .nullDeref) :: mrp.calls := by
  simp only [portSetState]
  cases mrp.iPort with
  | none => rfl
  | some port => rfl

@[simp]
theorem ite_calls (c : Prop) [Decidable c] (a b : Mrp) :
    (if c then a else b).calls = if c then a.calls else b.calls :=
  apply_ite _ _ _ _

theorem countP_ite (c : Prop) [Decidable c] (a b : List Call) :
    (if c then a else b).countP Call.isFault =
      if c then a.countP Call.isFault else b.countP Call.isFault :=
  apply_ite _ _ _ _

end Primitives

attribute [local simp] faults call flush port? Call.isFault
  clearFdbStart clearFdbStop ringTestStart ringTestStop ringTopoStart ringTopoStop
  ringLinkUpStart ringLinkUpStop ringLinkDownStart ringLinkDownStop
  inTestStart inTestStop inTopoStart inTopoStop inLinkUpStart inLinkUpStop
  inLinkDownStart inLinkDownStop inLinkStatusStart inLinkStatusStop cfmCcmStop

attribute [local simp] portSetState_ring setRingRole setInRole setMrmInit setMrcInit setMrmState
  setMrcState setMimState setMicState promote demote restartTestCount noteInLink setInOperstate
  noteRingLink setAddTest setNoTc nextRingTransition setRingTestCurr setRingTestCurrMax
  resetRingTestCount setRingMonCurr setRingPrio setRingMac setRingTopoCurrMax setRingLinkCurrMax
  nextInTransition setInTestCurr setInTestCurrMax resetInTestCount setInTopoCurrMax
  setInLinkCurrMax setInLinkStatusCurrMax

attribute [local simp] sendRingTest ringTestSend ringTestReq sendRingTopo ringTopoSend ringTopoReq
  ringLinkReq sendTestMgrNack testMgrNackReq sendTestProp testPropReq sendInTest inTestSend
  inTestReq sendInTopo inTopoSend inTopoReq sendInLink inLinkReq sendInLinkStatus inLinkStatusReq

attribute [local simp] List.countP_cons countP_ite

section Handlers

variable (mrp : Mrp)

/-! ## The ring -/

theorem mrmPortLink_faults (p : RingPort) (up : Bool) :
    (mrp.mrmPortLink p up).faults = mrp.faults := by
  unfold mrmPortLink
  cases mrp.mrmState <;> dsimp only <;> split_ifs <;> simp

theorem mrcPortLink_faults (p : RingPort) (up : Bool) :
    (mrp.mrcPortLink p up).faults = mrp.faults := by
  unfold mrcPortLink
  cases mrp.mrcState <;> dsimp only <;> split_ifs <;> simp

theorem recvRingTest_faults (buf : Buf) : (mrp.recvRingTest buf).faults = mrp.faults := by
  unfold recvRingTest mrmRecvRingTest mraRecvRingTest
  dsimp only
  repeat' split
  all_goals simp

theorem recvRingTopo_faults (buf : Buf) : (mrp.recvRingTopo buf).faults = mrp.faults := by
  unfold recvRingTopo mraRecvRingTopo mrcRecvRingTopo
  dsimp only
  repeat' split
  all_goals simp

theorem recvRingLink_faults (buf : Buf) : (mrp.recvRingLink buf).faults = mrp.faults := by
  unfold recvRingLink
  cases mrp.mrmState <;> dsimp only <;> split_ifs <;> simp

theorem recvNack_faults (buf : Buf) : (mrp.recvNack buf).faults = mrp.faults := by
  unfold recvNack recordHost yieldRole enterClient
  dsimp only
  repeat' split
  all_goals simp

theorem recvOption_faults (buf : Buf) : (mrp.recvOption buf).faults = mrp.faults := by
  unfold recvOption recvPropagate
  dsimp only
  split_ifs <;> first | exact mrp.recvNack_faults _ | simp

theorem restartRingTopo_faults (interval : UInt32) :
    (mrp.restartRingTopo interval).faults = mrp.faults := by
  unfold restartRingTopo
  repeat' split
  all_goals simp

/-- The callbacks of the ring. -/
theorem expired_faults_ring {w : TimerId} (hw : w.isInter = false) :
    (mrp.expired w).faults = mrp.faults := by
  cases w with
  | clearFdb => simp [expired, clearFdbExpired]
  | ringTopo =>
      simp only [expired, ringTopoExpired]
      split <;> simp
  | ringTest =>
      simp only [expired, ringTestExpired, mrcRingTestExpired, enterManager, mrmRingTestExpired]
      repeat' split
      all_goals simp
  | ringLinkUp =>
      simp only [expired, ringLinkUpExpired]
      split <;> simp
  | ringLinkDown =>
      simp only [expired, ringLinkDownExpired]
      split <;> simp
  | cfmCcm => simp [expired, cfmCcmExpired, cfmCcmStart]
  | _ => cases hw

/-- `mrp_reset_ring_state`. -/
theorem resetRingState_faults : mrp.resetRingState.faults = mrp.faults := by
  unfold resetRingState timerStop
  dsimp only
  split_ifs <;> simp

/-! ## The interconnection -/

variable (h : mrp.iPort.isSome = true)

include h

theorem mimPortLink_faults (up : Bool) : (mrp.mimPortLink up).faults = mrp.faults := by
  unfold mimPortLink
  split <;> (try split) <;> simp [h]

theorem micPortLink_faults (up : Bool) : (mrp.micPortLink up).faults = mrp.faults := by
  unfold micPortLink
  split <;> (try split) <;> simp [h]

theorem recvInTest_faults (buf : Buf) : (mrp.recvInTest buf).faults = mrp.faults := by
  unfold recvInTest mimRecvInTest
  repeat' split
  all_goals simp [h]

theorem recvInTopo_faults (buf : Buf) : (mrp.recvInTopo buf).faults = mrp.faults := by
  unfold recvInTopo restartRingTopo inTopoByRole micRecvInTopo
  dsimp only
  repeat' split
  all_goals simp [h]

theorem recvInLink_faults (buf : Buf) : (mrp.recvInLink buf).faults = mrp.faults := by
  unfold recvInLink
  cases mrp.mimState <;> dsimp only <;> split_ifs <;> simp [h]

/-- The callbacks of the interconnection. -/
theorem expired_faults_inter {w : TimerId} (hw : w.isInter = true) :
    (mrp.expired w).faults = mrp.faults := by
  cases w with
  | inTest =>
      simp only [expired, inTestExpired]
      repeat' split
      all_goals simp [h]
  | inTopo =>
      simp only [expired, inTopoExpired]
      split <;> simp [h]
  | inLinkUp =>
      simp only [expired, inLinkUpExpired]
      split <;> simp [h]
  | inLinkDown =>
      simp only [expired, inLinkDownExpired]
      split <;> simp [h]
  | inLinkStatus =>
      simp only [expired, inLinkStatusExpired]
      split <;> simp
  | _ => cases hw

end Handlers

/-! ## Relaying -/

/-- A frame is relayed to the interconnection port only if there is one. -/
theorem isSome_of_targets {mrp : Mrp} {p : Port} {data : Buf} {type : TlvType}
    (h : (mrp.targets p data type).i = true) : mrp.iPort.isSome = true := by
  have hingress : (mrp.ingressTargets p).i = true → mrp.iPort.isSome = true := by
    unfold ingressTargets
    split_ifs <;> simp [Targets.none]
  have hring : (mrp.inTargetsByRing p (tlvBody data)).i = true → mrp.iPort.isSome = true := by
    unfold inTargetsByRing
    dsimp only
    repeat' split
    all_goals exact hingress
  unfold targets at h
  split_ifs at h
  · exfalso
    revert h
    unfold ringTargets
    repeat' split
    all_goals simp [Targets.none, Targets.noInter]
  · revert h
    unfold inTargets
    dsimp only
    repeat' split
    all_goals first | exact hring | simp [Targets.none, Targets.noInter]
  · exact hingress h

/-- A port that is there is not a fault. -/
theorem forwardIf_calls {go : Bool} {p : Port} {x : Mrp × FrameBuf}
    (h : go = true → (x.1.port? p).isSome = true) : (forwardIf go p x).1.calls = x.1.calls := by
  unfold forwardIf
  split
  next hgo =>
    rcases Option.isSome_iff_exists.mp (h hgo) with ⟨port, hport⟩
    simp only [forward, hport]
    split <;> rfl
  next => rfl

/-- Relaying follows no NULL pointer. -/
theorem relay_faults (mrp : Mrp) (p : Port) (fb : FrameBuf) (type : TlvType) :
    (mrp.relay p fb type).faults = mrp.faults := by
  have hring : ∀ (m : Mrp) r, (m.port? (.ring r)).isSome = true := fun _ _ => rfl
  have hinter : (mrp.targets p fb.data type).i = true →
      ((forwardIf (mrp.targets p fb.data type).s (.ring mrp.sPort)
        (forwardIf (mrp.targets p fb.data type).p (.ring mrp.pPort) (mrp, fb))).1.port?
          .inter).isSome = true := by
    intro hi
    rcases forwardIf_eq (mrp.targets p fb.data type).p (.ring mrp.pPort) (mrp, fb) with ⟨r1, c1, h1⟩
    obtain ⟨r2, c2, h2⟩ := forwardIf_eq (mrp.targets p fb.data type).s (.ring mrp.sPort)
      (forwardIf (mrp.targets p fb.data type).p (.ring mrp.pPort) (mrp, fb))
    rw [h2, h1]
    exact isSome_of_targets hi
  unfold faults relay checkAndForward
  rw [forwardIf_calls hinter, forwardIf_calls fun _ => hring _ _, forwardIf_calls fun _ => hring _ _]

/-! ## Events -/

/-- What an instance needs so that no handler follows a NULL pointer: an interconnection
port, or no role and no active timer of the interconnection. -/
def Wired (mrp : Mrp) : Prop := mrp.iPort.isSome = true ∨ Bare mrp

/-- A link event at the interconnection port, as far as it gets there. -/
theorem interLink_faults {mrp : Mrp} (h : Wired mrp) (operstate : UInt8) (up : Bool) :
    (match (mrp.setInOperstate operstate).inRole with
      | .mim => ((mrp.setInOperstate operstate).noteInLink up).mimPortLink up
      | .mic => ((mrp.setInOperstate operstate).noteInLink up).micPortLink up
      | .disabled => mrp.setInOperstate operstate).faults = mrp.faults := by
  have hnote : ((mrp.setInOperstate operstate).noteInLink up).iPort.isSome = mrp.iPort.isSome := by
    simp [noteInLink, setInOperstate]
  have hsome : mrp.inRole ≠ .disabled →
      ((mrp.setInOperstate operstate).noteInLink up).iPort.isSome = true := by
    intro hrole
    rcases h with hport | hbare
    · rw [hnote, hport]
    · exact absurd hbare.role hrole
  have hsame : (mrp.setInOperstate operstate).inRole = mrp.inRole := rfl
  cases hrole : mrp.inRole with
  | mim =>
      simp only [hsame, hrole]
      rw [mimPortLink_faults _ (hsome (by rw [hrole]; decide))]
      rfl
  | mic =>
      simp only [hsame, hrole]
      rw [micPortLink_faults _ (hsome (by rw [hrole]; decide))]
      rfl
  | disabled =>
      simp only [hsame, hrole]
      rfl

/-- A link event of the ring. -/
theorem portLinkChange_ring_faults (mrp : Mrp) (r : RingPort) (up : Bool) :
    (mrp.portLinkChange (.ring r) up).faults = mrp.faults := by
  simp only [portLinkChange]
  split
  · exact mrmPortLink_faults _ r up
  · exact mrcPortLink_faults _ r up
  · rfl
  · rfl

/-- A link event. -/
theorem portLinkChange_faults {mrp : Mrp} (h : Wired mrp) (p : Port) (up : Bool) :
    (mrp.portLinkChange p up).faults = mrp.faults := by
  cases p with
  | ring r => exact mrp.portLinkChange_ring_faults r up
  | inter =>
      simp only [portLinkChange]
      split
      · rfl
      · exact interLink_faults h _ up

/-- A CFM notification. -/
theorem cfmLinkChange_faults {mrp : Mrp} (h : Wired mrp) (defect : Bool) :
    (mrp.cfmLinkChange defect).faults = mrp.faults := by
  unfold cfmLinkChange
  split
  · rfl
  · exact interLink_faults h _ (!defect)

/-- A frame that is processed. -/
theorem process_faults {mrp : Mrp} (h : Wired mrp) (buf : Buf) {type : TlvType}
    (htype : mrp.shouldProcess type = true) : (mrp.process buf type).faults = mrp.faults := by
  have hport : mrp.inRole ≠ .disabled → mrp.iPort.isSome = true := by
    intro hrole
    exact h.resolve_right fun hbare => hrole hbare.role
  cases type with
  | ringTest => exact mrp.recvRingTest_faults buf
  | ringTopo => exact mrp.recvRingTopo_faults buf
  | ringLinkDown => exact mrp.recvRingLink_faults buf
  | ringLinkUp => exact mrp.recvRingLink_faults buf
  | option => exact mrp.recvOption_faults buf
  | inTopo =>
      by_cases hrole : mrp.inRole = .disabled
      · rw [process_inTopo_of_disabled hrole]
        exact mrp.restartRingTopo_faults _
      · exact mrp.recvInTopo_faults (hport hrole) buf
  | inTest =>
      have hrole : mrp.inRole = .mim := by simpa [shouldProcess] using htype
      exact mrp.recvInTest_faults (hport (by simp [hrole])) buf
  | inLinkDown =>
      have hrole : mrp.inRole = .mim := by simpa [shouldProcess] using htype
      exact mrp.recvInLink_faults (hport (by simp [hrole])) buf
  | inLinkUp =>
      have hrole : mrp.inRole = .mim := by simpa [shouldProcess] using htype
      exact mrp.recvInLink_faults (hport (by simp [hrole])) buf
  | inLinkStatus => cases htype
  | tlvEnd => cases htype
  | common => cases htype
  | unknown => cases htype

/-- An expired timer. -/
theorem expired_faults {mrp : Mrp} (h : Wired mrp) {w : TimerId}
    (hw : (mrp.timer w).active = true) : (mrp.expired w).faults = mrp.faults := by
  by_cases hinter : w.isInter = true
  · rcases h with hport | hbare
    · exact mrp.expired_faults_inter hport hinter
    · exact absurd ((hbare.idle.timer hinter).symm.trans hw) Bool.false_ne_true
  · exact mrp.expired_faults_ring (by simpa using hinter)

/-- Whether there is an interconnection port does not change. -/
theorem Wired.of_lasting {a b : Mrp} (h : Wired a) (hlasting : b.lasting = a.lasting)
    (hbare : Bare a → Bare b) : Wired b := by
  have hindex := congrArg (fun x => x.2.isSome) hlasting
  simp only [lasting, Option.isSome_map] at hindex
  rcases h with hport | h
  · exact .inl (hindex.trans hport)
  · exact .inr (hbare h)

/-- No handler follows a NULL pointer. -/
theorem keptByHandlers_faults (n : Nat) : KeptByHandlers fun mrp => Wired mrp ∧ mrp.faults = n where
  relay mrp p fb type h :=
    ⟨h.1.of_lasting (mrp.relay_lasting p fb type) (keptByHandlers_bare.relay mrp p fb type),
      (mrp.relay_faults p fb type).trans h.2⟩
  process mrp buf type h htype :=
    ⟨h.1.of_lasting (mrp.process_lasting buf type) fun hbare => hbare.process buf htype,
      (process_faults h.1 buf htype).trans h.2⟩
  link mrp p up h :=
    ⟨h.1.of_lasting (mrp.portLinkChange_lasting p up) fun hbare => hbare.portLinkChange p up,
      (portLinkChange_faults h.1 p up).trans h.2⟩
  cfm mrp defect h :=
    ⟨h.1.of_lasting (mrp.cfmLinkChange_lasting defect) fun hbare => hbare.cfmLinkChange defect,
      (cfmLinkChange_faults h.1 defect).trans h.2⟩
  operstate mrp p operstate h := by
    refine ⟨h.1.of_lasting (mrp.setOperstate_lasting p operstate)
      (keptByHandlers_bare.operstate mrp p operstate), ?_⟩
    cases p <;> exact h.2
  portMac mrp p mac h := by
    refine ⟨h.1.of_lasting (mrp.portMacChange_lasting p mac)
      (keptByHandlers_bare.portMac mrp p mac), ?_⟩
    cases p <;> exact h.2
  bridgeMac mrp mac h := ⟨h.1.of_lasting rfl (keptByHandlers_bare.bridgeMac mrp mac), h.2⟩

/-- No event follows a NULL pointer. -/
theorem Wired.step {mrp : Mrp} (h : Wired mrp) (e : Event) :
    Wired (mrp.step e) ∧ (mrp.step e).faults = mrp.faults := by
  refine (keptByHandlers_faults mrp.faults).step ⟨h, rfl⟩ e fun w _ hw => ?_
  refine ⟨?_, expired_faults h hw⟩
  by_cases hccm : w = .cfmCcm
  · subst hccm
    exact h.imp (fun hport => hport) fun hbare => hbare.expired hw
  · exact h.of_lasting (mrp.expired_lasting hccm) fun hbare => hbare.expired hw

/-- No run follows a NULL pointer. -/
theorem After.faults {a b : Mrp} (h : a.After b) (ha : Wired a) : Wired b ∧ b.faults = a.faults := by
  rcases h with ⟨es, rfl⟩
  refine run_invariant (I := fun m : Mrp => Wired m ∧ m.faults = a.faults) ?_ ⟨ha, rfl⟩ es
  rintro m e ⟨hm, hfaults⟩
  exact ⟨(hm.step e).1, (hm.step e).2.trans hfaults⟩

/-! ## Construction -/

section Construction

variable (env : Env) (a : AddArgs)

/-- Without an interconnection port, `mrp_start_cfm` follows a NULL pointer. -/
theorem configure_faults : (configure env a).faults =
    if InMode.ofUInt32 a.inMode ≠ .rc ∧ a.iport = 0 then 1 else 0 := by
  have hcalls : ((applySettings env a).initPorts env a).calls = [] := by
    simp only [initPorts]
    split <;> exact applySettings_calls env a
  have hport := initPorts_iPort env a
  have hmode : ((applySettings env a).initPorts env a).inMode = .ofUInt32 a.inMode := by
    rw [(initPorts_keeps (applySettings env a) env a).1]
    rfl
  unfold configure
  dsimp only
  rw [hmode]
  by_cases hrc : InMode.ofUInt32 a.inMode = .rc
  · simp [hrc, hcalls]
  · rw [if_pos hrc]
    by_cases hzero : a.iport = 0
    · rw [if_pos hzero] at hport
      simp [startCfm, hport, hrc, hzero, hcalls]
    · rw [if_neg hzero] at hport
      simp [startCfm, hport, hrc, hzero, hcalls, cfmCcmStart]

/-- An instance that lacks a port has followed no pointer yet. -/
theorem unfinished_faults : (unfinished env a).faults = 0 := by
  have hcalls := applySettings_calls env a
  simp only [unfinished]
  repeat' split
  all_goals simp [portInit, hcalls]

/-- Setting a ring role follows no NULL pointer. -/
theorem withRing_faults : (withRing env a).1.faults = (configure env a).faults := by
  have hlink : ∀ (m : Mrp) r, (m.announceRingLink env r).faults = m.faults := by
    intro m r
    unfold announceRingLink
    split
    · exact m.portLinkChange_ring_faults r true
    · rfl
  have htake : ∀ (m : Mrp) role, (m.takeRingRole env role).1.faults = m.faults := by
    intro m role
    simp only [takeRingRole, announceRingLinks]
    split
    · simp
    · rw [hlink, hlink]
      simp
  have hmrm : ∀ m : Mrp, m.setMrmInit.faults = m.faults := fun _ => rfl
  have hmrc : ∀ m : Mrp, m.setMrcInit.faults = m.faults := fun _ => rfl
  have hmrmState : ∀ (m : Mrp) state, (m.setMrmState state).faults = m.faults := fun _ _ => rfl
  have hmrcState : ∀ (m : Mrp) state, (m.setMrcState state).faults = m.faults := fun _ _ => rfl
  have hauto : ({ configure env a with mraSupport := true } : Mrp).faults =
      (configure env a).faults := rfl
  unfold withRing setRingRoleByNumber
  split
  · rw [setMrmRole, htake, hmrmState, hmrm, resetRingState_faults]
  · split
    · rw [setMrcRole, htake, hmrcState, hmrc, resetRingState_faults]
    · split
      · rw [setMraRole, htake, hmrmState, hmrc, hmrm, resetRingState_faults, hauto]
      · rfl

end Construction

end Mrp

namespace Registry

variable (reg : Registry) (env : Env) (a : AddArgs)

/-- Without an interface for it, no interconnection role is set. -/
theorem built_of_portless (h : a.iport = 0) :
    (reg.built env a).2.1 = (Mrp.withRing env a).1 := by
  have hnone : (Mrp.withRing env a).1.iPort.isNone = true := by
    rw [Mrp.withRing_iPort, h]
    rfl
  refine built_cases (P := fun x => x.2.1 = (Mrp.withRing env a).1) ?_ rfl
  intro role
  simp only [takeInRole, hnone, if_true]

/-- Only `mrp_start_cfm` follows a NULL pointer while an instance is built. -/
theorem built_faults : (reg.built env a).2.1.faults =
    if InMode.ofUInt32 a.inMode ≠ .rc ∧ a.iport = 0 then 1 else 0 := by
  rw [← Mrp.configure_faults env a, ← Mrp.withRing_faults env a]
  by_cases hzero : a.iport = 0
  · rw [reg.built_of_portless env a hzero]
  · -- What counts is only seen where there is a port, and there no part adds to it.
    let g : Mrp → Bool × Nat := fun m => (m.iPort.isSome, if m.iPort.isSome then m.faults else 0)
    have hg : ∀ {m m' : Mrp}, m'.lasting = m.lasting →
        (m.iPort.isSome = true → m'.faults = m.faults) → g m' = g m := by
      intro m m' hlasting hfaults
      have hsome := congrArg (fun x => x.2.isSome) hlasting
      simp only [Mrp.lasting, Option.isSome_map] at hsome
      simp only [g, hsome]
      split
      next hport => rw [hfaults hport]
      next => rfl
    have hbuilt : g (reg.built env a).2.1 = g (Mrp.withRing env a).1 := by
      refine observe_built ?_ ?_ ?_ ?_ reg env a
      · exact fun m role => hg rfl fun _ => rfl
      · intro m state
        refine hg (m.portSetState_lasting .inter state) fun hport => ?_
        simp [Mrp.faults, hport, Call.isFault]
      · exact fun m up => hg (m.portLinkChange_lasting .inter up) fun hport =>
          Mrp.portLinkChange_faults (.inl hport) .inter up
      · exact fun m defect => hg (m.cfmLinkChange_lasting defect) fun hport =>
          Mrp.cfmLinkChange_faults (.inl hport) defect
    have hport : (Mrp.withRing env a).1.iPort.isSome = true := by
      have hnone := Mrp.withRing_iPort env a
      rw [← Option.not_isNone, hnone]
      simp [hzero]
    have hsome := congrArg Prod.fst hbuilt
    have hcount := congrArg Prod.snd hbuilt
    simp only [g, hport] at hsome hcount
    simpa [hsome] using hcount

/-- The interconnection port is there if an interface was given for it. -/
theorem built_isSome (h : a.iport ≠ 0) : (reg.built env a).2.1.iPort.isSome = true := by
  have hlasting := congrArg (fun x => x.2.isSome) (reg.built_lasting env a)
  simpa [Mrp.lasting, h] using hlasting

/-- An instance that is built has an interconnection port or does without one. -/
theorem built_wired : (reg.built env a).2.1.Wired := by
  by_cases hzero : a.iport = 0
  · right
    rw [reg.built_of_portless env a hzero]
    refine ⟨?_, Mrp.withRing_idle env a⟩
    rw [Mrp.withRing_toInPart]
    exact configure_inRole env a
  · exact .inl (reg.built_isSome env a hzero)

theorem built_faults_eq_zero_iff :
    (reg.built env a).2.1.faults = 0 ↔ InMode.ofUInt32 a.inMode = .rc ∨ a.iport ≠ 0 := by
  rw [built_faults]
  by_cases hrc : InMode.ofUInt32 a.inMode = .rc <;> by_cases hzero : a.iport = 0 <;>
    simp [hrc, hzero]

variable {reg env a} in
/-- Link check mode without a port is among the faults. -/
theorem built_inPort (h : (reg.built env a).2.1.faults = 0) :
    (reg.built env a).2.1.inMode = .lc → (reg.built env a).2.1.iPort.isSome = true := by
  intro hmode
  rw [built_inMode] at hmode
  have hport := (reg.built_faults_eq_zero_iff env a).mp h
  exact reg.built_isSome env a (hport.resolve_left (by rw [hmode]; decide))

end Registry

/-- The memory for both ring ports of a created instance was there. -/
theorem Created.allocated {env : Env} {a : AddArgs} {mrp : Mrp} (h : Created env a mrp) :
    Registry.allocated env a = true := by
  rcases h with ⟨reg, reg', hadd⟩
  by_contra halloc
  unfold Registry.mrpAdd at hadd
  split at hadd
  · have herr : -einval = 0 := congrArg Prod.snd hadd
    exact absurd herr (by decide)
  · rw [if_pos (by simpa using halloc)] at hadd
    have herr : -enomem = 0 := congrArg Prod.snd hadd
    exact absurd herr (by decide)

/-- A reachable instance has an interconnection port or does without one. -/
theorem Reachable.wired {env : Env} {a : AddArgs} {mrp : Mrp} (h : Reachable env a mrp) :
    mrp.Wired := by
  rcases h with ⟨mrp₀, es, hcr, rfl⟩
  rcases hcr.built_eq with ⟨reg, rfl, -, -⟩
  exact (Mrp.After.faults ⟨es, rfl⟩ (reg.built_wired env a)).1

end Umrp
