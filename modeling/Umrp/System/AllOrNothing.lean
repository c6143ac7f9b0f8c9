import Umrp.System.Built

/-!
# Giving an instance up

`mrp_destroy` frees an instance after `mrp_timer_stop`, and which timers that stops
depends on the interconnection role and mode.  A timer that is still active runs its
callback on freed memory.  `mrp_add` ends in `mrp_destroy` when it fails, so what it
leaves behind depends on how far it got.

Main results:

- Theorem `Mrp.destroy_active`: the timers that are active after `mrp_destroy`.
- Theorem `Mrp.quiet_destroy_iff`: an instance without interconnection timers is left
  quiet unless its CCM timer is not stopped.
- Theorem `mrpAdd_allOrNothing_iff`: when `mrp_add` does all or nothing.
-/

namespace Umrp

open EventMachine KeyedList

/-! ## Timers that are stopped -/

/-- No timer of the interconnection is active. -/
structure InPart.Idle (x : InPart) : Prop where
  test : x.inTestWork.active = false
  topo : x.inTopoWork.active = false
  linkUp : x.inLinkUpWork.active = false
  linkDown : x.inLinkDownWork.active = false
  linkStatus : x.inLinkStatusWork.active = false

/-- This is about nothing else of the interconnection. -/
theorem InPart.Idle.update {x : InPart} (h : x.Idle) (port : Option MrpPort) (role : InRole)
    (mim : MimState) (mic : MicState) :
    InPart.Idle { x with iPort := port, inRole := role, mimState := mim, micState := mic } :=
  ⟨h.test, h.topo, h.linkUp, h.linkDown, h.linkStatus⟩

namespace Mrp

/-- No timer of the instance is active. -/
def Quiet (mrp : Mrp) : Prop := ∀ w, (mrp.timer w).active = false

/-- The timers that `mrp_timer_stop` stops. -/
def stops (mrp : Mrp) : TimerId → Bool
  | .clearFdb | .ringTopo | .ringTest | .ringLinkUp | .ringLinkDown => true
  | .inTopo | .inLinkUp | .inLinkDown => mrp.inRole ≠ .disabled
  | .inTest => mrp.inRole ≠ .disabled && mrp.inMode = .rc
  | .inLinkStatus | .cfmCcm => mrp.inRole ≠ .disabled && mrp.inMode ≠ .rc

/-- After `mrp_destroy` the active timers are those that were active before and are
not stopped. -/
theorem destroy_active (mrp : Mrp) (w : TimerId) :
    (mrp.destroy.timer w).active = (!mrp.stops w && (mrp.timer w).active) := by
  simp only [destroy, resetRingState, timerStop, clearFdbStop, ringTopoStop, ringLinkUpStop,
    ringLinkDownStop, ringTestStop, inTopoStop, inLinkUpStop, inLinkDownStop, inTestStop,
    inLinkStatusStop, cfmCcmStop, call]
  by_cases hrole : mrp.inRole = .disabled
  · cases w <;> simp [timer, stops, hrole]
  · by_cases hmode : mrp.inMode = .rc
    · cases w <;> simp [timer, stops, hrole, hmode]
    · cases w <;> simp [timer, stops, hrole, hmode]

/-- Without interconnection timers only the CCM timer can be left. -/
theorem quiet_destroy_iff {mrp : Mrp} (h : mrp.toInPart.Idle) :
    mrp.destroy.Quiet ↔ (mrp.inRole = .disabled ∨ mrp.inMode = .rc → mrp.cfmCcmWork.active = false) := by
  constructor
  · intro hquiet hnot
    have hccm := hquiet .cfmCcm
    rw [destroy_active] at hccm
    have hstops : mrp.stops .cfmCcm = false := by
      rcases hnot with hrole | hmode
      · simp [stops, hrole]
      · simp [stops, hmode]
    rw [hstops] at hccm
    exact hccm
  · intro hccm w
    rw [destroy_active]
    rcases h with ⟨htest, htopo, hup, hdown, hstatus⟩
    cases w with
    | clearFdb => rfl
    | ringTopo => rfl
    | ringTest => rfl
    | ringLinkUp => rfl
    | ringLinkDown => rfl
    | inTest => simp [timer, htest]
    | inTopo => simp [timer, htopo]
    | inLinkUp => simp [timer, hup]
    | inLinkDown => simp [timer, hdown]
    | inLinkStatus => simp [timer, hstatus]
    | cfmCcm =>
        by_cases hnot : mrp.inRole = .disabled ∨ mrp.inMode = .rc
        · simp [timer, hccm hnot]
        · rw [not_or] at hnot
          simp [stops, hnot]

/-! ## What `mrp_add` gives up -/

theorem applySettings_idle (env : Env) (a : AddArgs) : (applySettings env a).toInPart.Idle := by
  simp only [applySettings, updateRecovery]
  cases ringProfile a.ringRecv <;> cases inProfile a.inRecv <;> exact ⟨rfl, rfl, rfl, rfl, rfl⟩

/-- Initialising a port starts no timer. -/
theorem portInit_idle {mrp : Mrp} (h : mrp.toInPart.Idle) (env : Env) (ifindex : UInt32) (p : Port) :
    (mrp.portInit env ifindex p).toInPart.Idle := by
  cases p with
  | ring r => exact h
  | inter => exact h.update _ _ _ _

/-- CFM starts no timer of the interconnection but its own. -/
theorem startCfm_idle {mrp : Mrp} (h : mrp.toInPart.Idle) (a : AddArgs) :
    (mrp.startCfm a).toInPart.Idle := by
  unfold startCfm
  dsimp only
  split <;> exact h

theorem configure_idle (env : Env) (a : AddArgs) : (configure env a).toInPart.Idle := by
  have hring := portInit_idle (portInit_idle (applySettings_idle env a) env a.pport (.ring .primary))
    env a.sport (.ring .secondary)
  have hports : ((applySettings env a).initPorts env a).toInPart.Idle := by
    simp only [initPorts]
    split
    · exact portInit_idle hring env a.iport .inter
    · exact hring
  simp only [configure]
  split
  · exact startCfm_idle hports a
  · exact hports

/-- Setting the ring role starts timers of the ring only. -/
theorem withRing_idle (env : Env) (a : AddArgs) : (withRing env a).1.toInPart.Idle := by
  rw [withRing_toInPart]
  exact configure_idle env a

/-- An instance that lacks a port has started nothing. -/
theorem quiet_destroy_unfinished (env : Env) (a : AddArgs) : (unfinished env a).destroy.Quiet := by
  have hwork : (unfinished env a).cfmCcmWork = .init := by
    rw [← applySettings_cfmCcmWork env a]
    simp only [unfinished]
    repeat' split
    all_goals rfl
  have hidle : (unfinished env a).toInPart.Idle := by
    simp only [unfinished]
    split
    · exact applySettings_idle env a
    · split
      · exact portInit_idle (applySettings_idle env a) env a.pport (.ring .primary)
      · exact portInit_idle (portInit_idle (applySettings_idle env a) env a.pport (.ring .primary))
          env a.sport (.ring .secondary)
  rw [quiet_destroy_iff hidle, hwork]
  exact fun _ => rfl

end Mrp

/-- The interconnection role that a number asks for. -/
def inRoleOf (inRole : UInt32) : InRole :=
  if inRole = inRoleMim then .mim else if inRole = inRoleMic then .mic else .disabled

theorem inRoleOf_eq_disabled {inRole : UInt32} : inRoleOf inRole = .disabled ↔ ¬IsInRole inRole := by
  unfold inRoleOf IsInRole
  by_cases hmim : inRole = inRoleMim
  · simp [hmim]
  · rw [if_neg hmim]
    by_cases hmic : inRole = inRoleMic
    · simp [hmic]
    · simp [hmim, hmic]

namespace Registry

variable (reg : Registry)

theorem announceInLink_inRole (mrp : Mrp) (env : Env) :
    (reg.announceInLink mrp env).2.inRole = mrp.inRole := by
  unfold announceInLink
  split
  · split
    · have hrole := congrArg Inter.role (mrp.inter_portLinkChange true)
      rwa [Inter.step_role] at hrole
    · split
      · rfl
      · exact mrp.step_inRole (.cfmLinkChange false)
  · rfl

/-- A role is stored as soon as there is a port, before the driver is asked. -/
theorem takeInRole_inRole (mrp : Mrp) (env : Env) (role : InRole) :
    (reg.takeInRole mrp env role).2.1.inRole = if mrp.iPort.isNone then mrp.inRole else role := by
  simp only [takeInRole]
  split
  · rfl
  · split
    · rfl
    · rw [announceInLink_inRole]
      simp [Mrp.setInRole, Mrp.call]

/-- The interconnection role of what `mrp_add` builds. -/
theorem built_inRole (env : Env) (a : AddArgs) :
    (reg.built env a).2.1.inRole = if a.iport = 0 then .disabled else inRoleOf a.inRole := by
  have hin : (Mrp.withRing env a).1.inRole = .disabled := by
    rw [Mrp.withRing_toInPart]
    exact configure_inRole env a
  have htake : ∀ role, (reg.takeInRole (Mrp.withRing env a).1 env role).2.1.inRole =
      if a.iport = 0 then .disabled else role := by
    intro role
    rw [takeInRole_inRole, Mrp.withRing_iPort, hin]
    simp
  unfold built setInRoleByNumber inRoleOf
  split
  · exact htake .mim
  · split
    · exact htake .mic
    · rw [ite_self]
      exact hin

theorem built_inMode (env : Env) (a : AddArgs) :
    (reg.built env a).2.1.inMode = .ofUInt32 a.inMode := by
  have hin := reg.setInRoleByNumber_op env (Mrp.withRing env a) a.inRole
  rw [built, hin.toMrpConf, Mrp.withRing_inMode]

/-- A role that cannot be set has started no timer. -/
theorem takeInRole_idle {mrp : Mrp} {env : Env} {role : InRole} (h : mrp.toInPart.Idle)
    (herr : (reg.takeInRole mrp env role).2.2 ≠ 0) :
    (reg.takeInRole mrp env role).2.1.toInPart.Idle := by
  simp only [takeInRole] at herr ⊢
  split
  · exact h
  next hport =>
    rw [if_neg hport] at herr
    split
    · exact h.update _ _ _ _
    next hok =>
      rw [if_neg hok] at herr
      exact absurd rfl herr

/-- An instance that is given up after its roles were set has no timer of the
interconnection. -/
theorem built_idle {env : Env} {a : AddArgs} (herr : (reg.built env a).2.2 ≠ 0) :
    (reg.built env a).2.1.toInPart.Idle := by
  have hidle := Mrp.withRing_idle env a
  revert herr
  exact built_cases (P := fun x => x.2.2 ≠ 0 → x.2.1.toInPart.Idle)
    (fun _ => takeInRole_idle reg hidle) fun _ => hidle

/-- What is freed of such an instance is quiet unless CFM runs and nothing knows it. -/
theorem quiet_destroy_built {env : Env} {a : AddArgs} (herr : (reg.built env a).2.2 ≠ 0) :
    (reg.built env a).2.1.dropInPort.destroy.Quiet ↔ ¬(a.StartsCfm ∧ ¬IsInRole a.inRole) := by
  have hidle := reg.built_idle herr
  have hrole := reg.built_inRole env a
  have hmode := reg.built_inMode env a
  have hwork := congrArg Prod.fst (reg.built_lasting env a)
  simp only [Mrp.lasting] at hwork
  have hdrop : (reg.built env a).2.1.dropInPort.toInPart.Idle := hidle.update _ _ _ _
  rw [Mrp.quiet_destroy_iff hdrop]
  simp only [Mrp.dropInPort, hrole, hmode, hwork]
  by_cases hcfm : a.StartsCfm
  · rw [if_pos hcfm, if_neg hcfm.2, inRoleOf_eq_disabled]
    simp [hcfm, hcfm.1]
  · rw [if_neg hcfm]
    exact iff_of_true (fun _ => rfl) fun hbad => hcfm hbad.1

end Registry

/-! ## All or nothing -/

/-- Every role that was asked for is set: the functions that set them return no error. -/
def RolesSet (reg : Registry) (env : Env) (a : AddArgs) : Prop :=
  (Mrp.withRing env a).2 = 0 ∧
    (reg.setInRoleByNumber ((Mrp.withRing env a).1, 0) env a.inRole).2.2 = 0

/-- `mrp_add` returns 0 only if all roles are set; if it returns an error, the list is
as it was and nothing that it has freed has an active timer. -/
def AllOrNothing (reg : Registry) (env : Env) (a : AddArgs) : Prop :=
  (((Table.mk reg []).mrpAdd env a).2 = 0 → RolesSet reg env a) ∧
    (((Table.mk reg []).mrpAdd env a).2 ≠ 0 →
      ((Table.mk reg []).mrpAdd env a).1.instances = reg ∧
        ∀ mrp ∈ ((Table.mk reg []).mrpAdd env a).1.freed, mrp.Quiet)

/-- A call that fails. -/
theorem AllOrNothing.of_error {reg : Registry} {env : Env} {a : AddArgs} {freed : List Mrp}
    {err : Int} (hadd : (Table.mk reg []).mrpAdd env a = (⟨reg, freed⟩, err)) (herr : err ≠ 0)
    (hquiet : ∀ mrp ∈ freed, mrp.Quiet) : AllOrNothing reg env a := by
  rw [AllOrNothing, hadd]
  exact ⟨fun hok => absurd hok herr, fun _ => ⟨rfl, hquiet⟩⟩

/-- The ring role is refused by the driver, and nothing that `mrp_add` does afterwards
shows it: an interconnection role is set, or the CCM timer runs without one. -/
def LosesRingError (reg : Registry) (env : Env) (a : AddArgs) : Prop :=
  a.key ∉ reg.map Mrp.key ∧ Registry.allocated env a = true ∧
    IsRingRole a.ringRole ∧ env.setRingRole ≠ 0 ∧
    if IsInRole a.inRole then a.iport ≠ 0 ∧ env.setInRole = 0 else a.StartsCfm

instance (reg : Registry) (env : Env) (a : AddArgs) : Decidable (LosesRingError reg env a) :=
  inferInstanceAs (Decidable (_ ∧ _ ∧ _ ∧ _ ∧ _))

/-- In terms of the answers of the driver. -/
theorem rolesSet_iff (reg : Registry) (env : Env) (a : AddArgs) :
    RolesSet reg env a ↔
      (IsRingRole a.ringRole → env.setRingRole = 0) ∧
        (IsInRole a.inRole → a.iport ≠ 0 ∧ env.setInRole = 0) := by
  have hring : (Mrp.withRing env a).2 = 0 ↔ (IsRingRole a.ringRole → env.setRingRole = 0) := by
    rw [Mrp.withRing_err]
    by_cases hrole : IsRingRole a.ringRole
    · simp [hrole]
    · simp [hrole]
  have hin : (reg.setInRoleByNumber ((Mrp.withRing env a).1, 0) env a.inRole).2.2 = 0 ↔
      (IsInRole a.inRole → a.iport ≠ 0 ∧ env.setInRole = 0) := by
    by_cases hrole : IsInRole a.inRole
    · have hsame : reg.setInRoleByNumber ((Mrp.withRing env a).1, 0) env a.inRole =
          reg.built env a := by
        unfold Registry.built Registry.setInRoleByNumber
        rcases hrole with hmim | hmic
        · rw [if_pos hmim, if_pos hmim]
        · rw [if_pos hmic, if_pos hmic]
      rw [hsame, Registry.built_ok_iff, if_pos hrole]
      exact ⟨fun h _ => h, fun h => h hrole⟩
    · have hrole' := hrole
      simp only [IsInRole, not_or] at hrole'
      simp [Registry.setInRoleByNumber, hrole, hrole']
  rw [RolesSet, hring, hin]

/-- Giving up after the roles were set. -/
theorem allOrNothing_of_error {reg : Registry} {env : Env} {a : AddArgs}
    (hnew : a.key ∉ reg.map Mrp.key) (halloc : Registry.allocated env a = true)
    (herr : (reg.built env a).2.2 ≠ 0) :
    ¬(a.StartsCfm ∧ ¬IsInRole a.inRole) ↔ ¬LosesRingError reg env a := by
  rw [Registry.built_err] at herr
  unfold LosesRingError
  by_cases hin : IsInRole a.inRole
  · rw [if_pos hin] at herr ⊢
    refine iff_of_true (fun hbad => hbad.2 hin) ?_
    rintro ⟨-, -, -, -, hport, hzero⟩
    rw [if_neg hport] at herr
    exact herr hzero
  · rw [if_neg hin] at herr ⊢
    by_cases hring : IsRingRole a.ringRole
    · rw [if_pos hring] at herr
      simp [hnew, halloc, hring, herr, hin]
    · exact absurd (if_neg hring) herr

/-- Returning 0. -/
theorem allOrNothing_of_ok {reg : Registry} {env : Env} {a : AddArgs}
    (hnew : a.key ∉ reg.map Mrp.key) (halloc : Registry.allocated env a = true)
    (hok : (reg.built env a).2.2 = 0) :
    RolesSet reg env a ↔ ¬LosesRingError reg env a := by
  rw [Registry.built_ok_iff] at hok
  rw [rolesSet_iff]
  unfold LosesRingError
  by_cases hin : IsInRole a.inRole
  · rw [if_pos hin] at hok ⊢
    by_cases hring : IsRingRole a.ringRole
    · simp [hnew, halloc, hring, hin, hok]
    · simp [hring, hin, hok]
  · rw [if_neg hin] at hok ⊢
    refine iff_of_true ⟨hok, fun hbad => absurd hbad hin⟩ ?_
    rintro ⟨-, -, hring, hfail, -⟩
    exact hfail (hok hring)

/-- `mrp_add` does all or nothing exactly if it does not lose an error of the ring
role. -/
theorem mrpAdd_allOrNothing_iff (reg : Registry) (env : Env) (a : AddArgs) :
    AllOrNothing reg env a ↔ ¬LosesRingError reg env a := by
  have hmalloc : Registry.allocated env a = true → env.mallocMrp = true := by
    simp only [Registry.allocated, Bool.and_eq_true]
    exact fun h => h.1.1.1
  have hadd := (Table.mk reg []).mrpAdd_eq env a
  simp only [Table.keys] at hadd
  by_cases hnew : a.key ∈ reg.map Mrp.key
  · rw [if_pos hnew] at hadd
    refine iff_of_true (.of_error hadd (by decide) ?_) fun hbad => hbad.1 hnew
    exact fun mrp hmem => absurd hmem List.not_mem_nil
  rw [if_neg hnew] at hadd
  by_cases hmrp : env.mallocMrp = false
  · rw [if_pos hmrp] at hadd
    refine iff_of_true (.of_error hadd (by decide) ?_) fun hbad => ?_
    · exact fun mrp hmem => absurd hmem List.not_mem_nil
    · rw [hmalloc hbad.2.1] at hmrp
      cases hmrp
  rw [if_neg hmrp] at hadd
  by_cases halloc : Registry.allocated env a = false
  · rw [if_pos halloc] at hadd
    refine iff_of_true (.of_error hadd (by decide) ?_) fun hbad => ?_
    · intro mrp hmem
      rw [List.mem_singleton.mp hmem]
      exact Mrp.quiet_destroy_unfinished env a
    · rw [hbad.2.1] at halloc
      cases halloc
  rw [if_neg halloc] at hadd
  rw [Bool.not_eq_false] at halloc
  by_cases herr : (reg.built env a).2.2 = 0
  · rw [if_neg (not_not.mpr herr)] at hadd
    rw [← allOrNothing_of_ok hnew halloc herr, AllOrNothing, hadd]
    simp
  · rw [if_pos herr] at hadd
    rw [← allOrNothing_of_error hnew halloc herr, ← reg.quiet_destroy_built herr, AllOrNothing, hadd]
    simp [herr, Registry.built_of_error herr]

/-- The driver refuses the ring role of the sample manager and accepts its
interconnection role. -/
def Sample.refusing : Env := { env with setRingRole := -5 }

/-- `mrp_add` returns 0 although the ring role was refused; without an interconnection
role it reports the error, but leaves the CCM timer of a link check instance running. -/
theorem mrpAdd_not_allOrNothing :
    ¬AllOrNothing [] Sample.refusing (Sample.args ringRoleMrm inRoleMim) ∧
      ¬AllOrNothing [] Sample.refusing { Sample.args ringRoleMrm 0 with inMode := 1 } := by
  constructor
  · rintro ⟨hok, -⟩
    have hset := hok (by decide +kernel)
    exact absurd hset.1 (by decide +kernel)
  · rintro ⟨-, herr⟩
    have hactive : ∃ mrp ∈ ((Table.mk [] []).mrpAdd Sample.refusing
        { Sample.args ringRoleMrm 0 with inMode := 1 }).1.freed,
        (mrp.timer .cfmCcm).active = true := by
      decide +kernel
    rcases hactive with ⟨mrp, hmem, hccm⟩
    have hstopped := (herr (by decide +kernel)).2 mrp hmem .cfmCcm
    rw [hccm] at hstopped
    cases hstopped

end Umrp
