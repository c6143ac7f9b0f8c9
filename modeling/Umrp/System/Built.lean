import Umrp.System.Instances

/-!
# What `mrp_add` builds

The interfaces, the CCM timer and the interconnection role of the instance that
`mrp_add` has built when it looks at the error code, also if it then gives it up.

Main results:

- Theorem `Registry.built_lasting`: the CCM timer runs exactly if CFM was started.
- Theorem `Registry.built_portIndexes`: the ports are at the interfaces that were given.
-/

namespace Umrp

open EventMachine KeyedList

/-- The interfaces that the arguments of `mrp_add` give to ports. -/
def AddArgs.portIndexes (a : AddArgs) : List UInt32 :=
  a.pport :: a.sport :: if a.iport = 0 then [] else [a.iport]

/-- `mrp_add` starts CFM for a port. -/
def AddArgs.StartsCfm (a : AddArgs) : Prop := InMode.ofUInt32 a.inMode ≠ .rc ∧ a.iport ≠ 0

instance (a : AddArgs) : Decidable a.StartsCfm :=
  inferInstanceAs (Decidable (_ ∧ _))

namespace Mrp

/-! ## Configuration -/

/-- Before the ports are initialised there is no interconnection port. -/
theorem applySettings_iPort (env : Env) (a : AddArgs) : (applySettings env a).iPort = none := by
  have hport := congrArg Inter.port (applySettings_machines env a).2
  exact Option.map_eq_none_iff.mp hport

theorem applySettings_cfmCcmWork (env : Env) (a : AddArgs) :
    (applySettings env a).cfmCcmWork = .init := by
  simp only [applySettings, updateRecovery]
  cases ringProfile a.ringRecv <;> cases inProfile a.inRecv <;> rfl

/-- The interconnection port after `initPorts`. -/
theorem initPorts_iPort (env : Env) (a : AddArgs) :
    ((applySettings env a).initPorts env a).iPort =
      if a.iport = 0 then none else some (initialPort env a.iport) := by
  have hnone := applySettings_iPort env a
  simp only [initPorts]
  by_cases hzero : a.iport = 0
  · rw [if_neg (by simp [hzero]), if_pos hzero]
    exact hnone
  · rw [if_pos (UInt32.pos_iff_ne_zero.mpr hzero), if_neg hzero]
    rfl

/-- The configured instance: its CCM timer runs if CFM was started. -/
theorem configure_lasting (env : Env) (a : AddArgs) :
    (configure env a).lasting =
      (if a.StartsCfm then .again 10000000 else .init,
        if a.iport = 0 then none else some a.iport) := by
  have hport := initPorts_iPort env a
  have hwork : ((applySettings env a).initPorts env a).cfmCcmWork = .init := by
    simp only [initPorts]
    split <;> exact applySettings_cfmCcmWork env a
  have hmode : ((applySettings env a).initPorts env a).inMode = .ofUInt32 a.inMode := by
    rw [(initPorts_keeps _ env a).1]
    rfl
  have hperiod := (recovered_configure env a).ccmPeriod
  simp only [configure, hmode] at hperiod ⊢
  generalize (applySettings env a).initPorts env a = mrp at *
  by_cases hrc : InMode.ofUInt32 a.inMode = .rc
  · rw [if_neg (not_not.mpr hrc), if_neg fun h => h.1 hrc, lasting, hwork, hport]
    split <;> rfl
  · rw [if_pos hrc] at hperiod ⊢
    by_cases hzero : a.iport = 0
    · rw [if_pos hzero] at hport
      simp only [startCfm, hport, lasting, call, hwork, AddArgs.StartsCfm, hzero]
      simp
    · rw [if_neg hzero] at hport
      simp only [startCfm, hport] at hperiod ⊢
      simp only [call, cfmCcmStart] at hperiod ⊢
      simp [lasting, hport, hzero, AddArgs.StartsCfm, hrc, hperiod, initialPort]

/-! ## Roles -/

/-- Stopping the timers before there is an interconnection role. -/
theorem resetRingState_lasting {mrp : Mrp} (h : mrp.inRole = .disabled) :
    mrp.resetRingState.lasting = mrp.lasting := by
  have hstop : mrp.timerStop =
      mrp.clearFdbStop.ringTopoStop.ringLinkUpStop.ringLinkDownStop.ringTestStop :=
    if_neg (not_not.mpr h)
  simp only [resetRingState, hstop, lasting, clearFdbStop, ringTopoStop, ringLinkUpStop,
    ringLinkDownStop, ringTestStop, call]

theorem announceRingLink_lasting (mrp : Mrp) (env : Env) (r : RingPort) :
    (mrp.announceRingLink env r).lasting = mrp.lasting := by
  unfold announceRingLink
  split
  · exact mrp.portLinkChange_lasting _ _
  · rfl

theorem takeRingRole_lasting (mrp : Mrp) (env : Env) (role : RingRole) :
    (mrp.takeRingRole env role).1.lasting = mrp.lasting := by
  have hblocked : (((mrp.portSetState (.ring mrp.pPort) .blocked).portSetState
      (.ring mrp.sPort) .blocked).setRingRole role).lasting = mrp.lasting := by
    rw [setRingRole_lasting, portSetState_lasting, portSetState_lasting]
  simp only [takeRingRole]
  split
  · exact hblocked
  · simp only [announceRingLinks, announceRingLink_lasting]
    exact hblocked

/-- Setting the ring role. -/
theorem withRing_lasting (env : Env) (a : AddArgs) :
    (withRing env a).1.lasting = (configure env a).lasting := by
  have hin := configure_inRole env a
  have hauto : ({ configure env a with mraSupport := true } : Mrp).lasting =
      (configure env a).lasting := by
    simp only [lasting]
  unfold withRing setRingRoleByNumber
  split
  · rw [setMrmRole, takeRingRole_lasting, setMrmState_lasting, setMrmInit_lasting,
      resetRingState_lasting hin]
  · split
    · rw [setMrcRole, takeRingRole_lasting, setMrcState_lasting, setMrcInit_lasting,
        resetRingState_lasting hin]
    · split
      · rw [setMraRole, takeRingRole_lasting, setMrmState_lasting, setMrcInit_lasting,
          setMrmInit_lasting, resetRingState_lasting, hauto]
        exact hin
      · rfl

end Mrp

/-! ## What an interconnection role leaves alone -/

namespace Registry

section Observe

variable {β : Type} {g : Mrp → β}
  (htaken : ∀ (m : Mrp) role,
    g ({ m with mimState := .acStat1, micState := .acStat1 }.setInRole role) = g m)
  (hport : ∀ (m : Mrp) state, g (m.portSetState .inter state) = g m)
  (hlink : ∀ (m : Mrp) up, g (m.portLinkChange .inter up) = g m)
  (hcfm : ∀ (m : Mrp) defect, g (m.cfmLinkChange defect) = g m) (reg : Registry)

include htaken hport hlink hcfm

/-- What the parts of setting an interconnection role keep is kept by the whole. -/
theorem observe_takeInRole (mrp : Mrp) (env : Env) (role : InRole) :
    g (reg.takeInRole mrp env role).2.1 = g mrp := by
  have hannounce : ∀ m : Mrp, g (reg.announceInLink m env).2 = g m := by
    intro m
    unfold announceInLink
    split
    · split
      · exact hlink m true
      · split
        · rfl
        · exact hcfm m false
    · rfl
  simp only [takeInRole]
  split
  · rfl
  · split
    · exact htaken mrp role
    · rw [hannounce, hport, htaken]

/-- It is then the same in the instance that is built as before the role was set. -/
theorem observe_built (env : Env) (a : AddArgs) :
    g (reg.built env a).2.1 = g (Mrp.withRing env a).1 := by
  exact built_cases (P := fun x => g x.2.1 = g (Mrp.withRing env a).1)
    (observe_takeInRole htaken hport hlink hcfm reg _ env) rfl

end Observe

/-- The CCM timer and the interconnection port of what `mrp_add` builds. -/
theorem built_lasting (reg : Registry) (env : Env) (a : AddArgs) :
    (reg.built env a).2.1.lasting =
      (if a.StartsCfm then .again 10000000 else .init,
        if a.iport = 0 then none else some a.iport) := by
  have htaken : ∀ (m : Mrp) role, ({ m with mimState := .acStat1, micState := .acStat1 }.setInRole
      role).lasting = m.lasting := by
    intro m role
    rw [Mrp.setInRole_lasting]
    simp only [Mrp.lasting]
  rw [← Mrp.configure_lasting env a, ← Mrp.withRing_lasting env a]
  exact observe_built htaken (fun m => m.portSetState_lasting .inter)
    (fun m => m.portLinkChange_lasting .inter) Mrp.cfmLinkChange_lasting reg env a

end Registry

/-- The ring ports of what `mrp_add` builds. -/
theorem Mrp.withRing_ifindex (env : Env) (a : AddArgs) :
    (Mrp.withRing env a).1.ring.ifindex = (Ring.fresh a.pport a.sport .mrc 0).ifindex := by
  have hconf := configure_configured env a
  by_cases hrole : IsRingRole a.ringRole
  · refine Mrp.ring_setRingRoleByNumber (I := fun x =>
      x.ifindex = (Ring.fresh a.pport a.sport .mrc 0).ifindex) hconf hrole rfl ?_
    intro x r hx
    rw [Ring.step_ifindex, hx]
  · simp only [IsRingRole, not_or] at hrole
    have hnone : Mrp.withRing env a = (Mrp.configure env a, 0) := by
      simp [Mrp.withRing, Mrp.setRingRoleByNumber, hrole]
    rw [hnone, hconf.ring]

/-- The ports are at the interfaces that were given. -/
theorem Registry.built_portIndexes (reg : Registry) (env : Env) (a : AddArgs) :
    (reg.built env a).2.1.portIndexes = a.portIndexes := by
  have hop := reg.setInRoleByNumber_op env (Mrp.withRing env a) a.inRole
  have hindex : (reg.built env a).2.1.ring.ifindex = (Ring.fresh a.pport a.sport .mrc 0).ifindex := by
    rw [Registry.built, Mrp.ring_congr hop.toRingPart]
    exact Mrp.withRing_ifindex env a
  have hp : ((reg.built env a).2.1.ringPort .primary).ifindex = a.pport := congrFun hindex .primary
  have hs : ((reg.built env a).2.1.ringPort .secondary).ifindex = a.sport :=
    congrFun hindex .secondary
  have hi := congrArg Prod.snd (reg.built_lasting env a)
  simp only [Mrp.lasting] at hi
  rw [Mrp.portIndexes, hp, hs, hi, AddArgs.portIndexes]
  split <;> rfl

end Umrp
