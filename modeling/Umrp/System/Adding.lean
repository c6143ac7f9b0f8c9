import Umrp.Model.System
import Umrp.Recovery

/-!
# Adding an instance in place

`mrp_add` puts a raw instance into the list, looks it up again and works on it
there; if something fails, it is looked up once more and removed.  Because no other
instance has its key, all of this is as if the instance were built outside the list.

Main results:

- Theorem `Table.mrpAdd_eq`: the list, the freed memory and the error code after
  `mrp_add`, in terms of the instance alone.
- Theorem `Table.mrpAdd_instances`: on the list, `mrp_add` in place is
  `Registry.mrpAdd`.
- Theorem `Table.mrpAdd_ok_iff`: when `mrp_add` succeeds.
-/

namespace Umrp

open EventMachine KeyedList

/-! ## Keys -/

namespace Registry

theorem isKey_iff {brIfindex ringNr : UInt32} {mrp : Mrp} :
    isKey brIfindex ringNr mrp = true ↔ mrp.key = (brIfindex, ringNr) := by
  simp [isKey, Mrp.key, and_comm]

theorem isKey_eq (brIfindex ringNr : UInt32) :
    isKey brIfindex ringNr = fun mrp => decide (mrp.key = (brIfindex, ringNr)) := by
  funext mrp
  simp [isKey, Mrp.key, Bool.and_comm]

/-- `mrp_find` is the lookup of a key. -/
theorem mrpFind_eq (reg : Registry) (brIfindex ringNr : UInt32) :
    reg.mrpFind brIfindex ringNr = reg.find? fun mrp => mrp.key = (brIfindex, ringNr) := by
  rw [← isKey_eq]
  rfl

theorem isSome_mrpFind {reg : Registry} {brIfindex ringNr : UInt32} :
    (reg.mrpFind brIfindex ringNr).isSome = true ↔ (brIfindex, ringNr) ∈ reg.map Mrp.key := by
  rw [mrpFind_eq, isSome_find?]

/-- `mrp_cfm_link_change` works on the first instance that fits. -/
theorem cfmLinkChange_eq (reg : Registry) (ifindex peerMepid : UInt32) (defect : Bool) :
    reg.cfmLinkChange ifindex peerMepid defect =
      modifyFirst (fun mrp => isMrp mrp ifindex peerMepid) (·.step (.cfmLinkChange defect)) reg := by
  induction reg with
  | nil => rfl
  | cons mrp reg ih => simp only [cfmLinkChange, modifyFirst, ih, Mrp.step]

end Registry

/-- Settings decide about the key. -/
theorem Mrp.key_of_toMrpConf {a b : Mrp} (h : b.toMrpConf = a.toMrpConf) : b.key = a.key := by
  rw [Mrp.key, h]
  rfl

@[simp]
theorem Mrp.step_key (mrp : Mrp) (e : Event) : (mrp.step e).key = mrp.key :=
  Mrp.key_of_toMrpConf (mrp.step_toMrpConf e)

theorem Mrp.applySettings_key (env : Env) (a : AddArgs) : (Mrp.applySettings env a).key = a.key := by
  simp only [Mrp.applySettings, Mrp.updateRecovery, Mrp.key]
  cases ringProfile a.ringRecv <;> cases inProfile a.inRecv <;> rfl

theorem Mrp.startCfm_key (mrp : Mrp) (a : AddArgs) : (mrp.startCfm a).key = mrp.key := by
  simp only [Mrp.startCfm]
  split <;> rfl

/-- The key that was asked for. -/
theorem Mrp.configure_key (env : Env) (a : AddArgs) : (Mrp.configure env a).key = a.key := by
  have hports : ((Mrp.applySettings env a).initPorts env a).key = a.key :=
    (Mrp.key_of_toMrpConf (initPorts_keeps _ env a).1).trans (Mrp.applySettings_key env a)
  simp only [Mrp.configure]
  split
  · rw [Mrp.startCfm_key, hports]
  · exact hports

/-- `b` is what `a` is after some events. -/
def Mrp.After (a b : Mrp) : Prop := ∃ es, b = run Mrp.step a es

theorem Mrp.After.refl (mrp : Mrp) : mrp.After mrp := ⟨[], rfl⟩

theorem Mrp.After.trans {a b c : Mrp} (hab : a.After b) (hbc : b.After c) : a.After c := by
  rcases hab with ⟨es, rfl⟩
  rcases hbc with ⟨fs, rfl⟩
  exact ⟨es ++ fs, by simp [run]⟩

theorem Mrp.after_step (mrp : Mrp) (e : Event) : mrp.After (mrp.step e) := ⟨[e], rfl⟩

/-- What no event changes is the same. -/
theorem Mrp.After.same {a b : Mrp} (h : a.After b) {β : Type} {g : Mrp → β}
    (hg : ∀ mrp e, g (mrp.step e) = g mrp) : g b = g a := by
  rcases h with ⟨es, rfl⟩
  exact run_invariant (I := fun mrp => g mrp = g a) (fun mrp e hmrp => (hg mrp e).trans hmrp) rfl es

/-- The ring role that `mrp_add` sets. -/
def Mrp.withRing (env : Env) (a : AddArgs) : Mrp × Int :=
  (Mrp.configure env a).setRingRoleByNumber env a.ringRole

theorem Mrp.withRing_op (env : Env) (a : AddArgs) :
    RingOp NoNack ((Mrp.configure env a).supported a) (Mrp.withRing env a).1 :=
  Mrp.configure_ringRole_op env a

theorem Mrp.withRing_key (env : Env) (a : AddArgs) : (Mrp.withRing env a).1.key = a.key :=
  (Mrp.key_of_toMrpConf (Mrp.withRing_op env a).toMrpConf).trans (Mrp.configure_key env a)

theorem Mrp.withRing_inMode (env : Env) (a : AddArgs) :
    (Mrp.withRing env a).1.inMode = .ofUInt32 a.inMode := by
  rw [(Mrp.withRing_op env a).toMrpConf]
  exact (configure_configured env a).inMode

/-- Setting the ring role leaves the interconnection side alone. -/
theorem Mrp.withRing_toInPart (env : Env) (a : AddArgs) :
    (Mrp.withRing env a).1.toInPart = (Mrp.configure env a).toInPart :=
  (Mrp.withRing_op env a).toInPart

/-! ## The last instance of the list -/

namespace Table

/-- The table with one more instance at the end of the list. -/
def withLast (t : Table) (mrp : Mrp) : Table := { t with instances := t.instances ++ [mrp] }

section WithLast

variable {t : Table} {brIfindex ringNr : UInt32} {mrp : Mrp}
  (hnew : (brIfindex, ringNr) ∉ t.keys) (hkey : mrp.key = (brIfindex, ringNr))

include hnew in
theorem isKey_of_new : ∀ x ∈ t.instances, Registry.isKey brIfindex ringNr x = false := by
  intro x hx
  rw [← Bool.not_eq_true, Registry.isKey_iff]
  intro hbad
  exact hnew (hbad ▸ List.mem_map_of_mem hx)

include hnew hkey in
/-- A lookup finds the last instance. -/
theorem mrpFind_withLast :
    (t.withLast mrp).instances.mrpFind brIfindex ringNr = some mrp := by
  have hfirst : t.instances.find? (Registry.isKey brIfindex ringNr) = none := by
    rw [List.find?_eq_none]
    intro x hx
    simp [isKey_of_new hnew x hx]
  have hlast : Registry.isKey brIfindex ringNr mrp = true := Registry.isKey_iff.mpr hkey
  change (t.instances ++ [mrp]).find? (Registry.isKey brIfindex ringNr) = some mrp
  rw [List.find?_append, hfirst, List.find?_singleton, hlast]
  rfl

include hnew hkey in
/-- Work on the instance that was looked up is work on the last instance. -/
theorem modify_withLast (f : Mrp → Mrp) :
    (t.withLast mrp).modify brIfindex ringNr f = t.withLast (f mrp) := by
  have hlast : Registry.isKey brIfindex ringNr mrp = true := Registry.isKey_iff.mpr hkey
  simp only [modify, withLast, modifyFirst_append_of_forall_not (isKey_of_new hnew), modifyFirst,
    hlast, if_true]

include hnew hkey in
/-- Destroying the last instance restores the list. -/
theorem mrpDestroy_withLast :
    (t.withLast mrp).mrpDestroy brIfindex ringNr = ⟨t.instances, mrp.destroy :: t.freed⟩ := by
  have hlast : Registry.isKey brIfindex ringNr mrp = true := Registry.isKey_iff.mpr hkey
  have herase : (t.instances ++ [mrp]).eraseP (Registry.isKey brIfindex ringNr) = t.instances := by
    rw [List.eraseP_append_right _ fun x hx => by simp [isKey_of_new hnew x hx],
      List.eraseP_cons_of_pos hlast, List.append_nil]
  rw [mrpDestroy, mrpFind_withLast hnew hkey]
  exact congrArg (Table.mk · _) herase

end WithLast

/-- The event of CFM goes to an older instance or to the last one. -/
theorem cfmLinkChange_withLast (t : Table) (mrp : Mrp) (defect : Bool) :
    (t.instances ++ [mrp]).cfmLinkChange mrp.ifindex mrp.cfmPeerMepid defect =
      if t.instances.any fun other => Registry.isMrp other mrp.ifindex mrp.cfmPeerMepid then
        t.instances.cfmLinkChange mrp.ifindex mrp.cfmPeerMepid defect ++ [mrp]
      else t.instances ++ [mrp.cfmLinkChange defect] := by
  have hself : Registry.isMrp mrp mrp.ifindex mrp.cfmPeerMepid = true := by simp [Registry.isMrp]
  rw [Registry.cfmLinkChange_eq, Registry.cfmLinkChange_eq]
  split
  next hany => exact modifyFirst_append_of_any hany
  next hany =>
    rw [modifyFirst_append_of_forall_not]
    · simp [modifyFirst, hself, Mrp.step]
    · intro x hx
      simp only [List.any_eq_true, not_exists, not_and, Bool.not_eq_true] at hany
      exact hany x hx

/-- Announcing the link of the interconnection port in place; `mrp` is the last
instance as it was looked up before, with the settings that it still has. -/
theorem announceInLink_withLast {t : Table} {env : Env} {mrp last : Mrp}
    (hnew : mrp.key ∉ t.keys) (hconf : last.toMrpConf = mrp.toMrpConf) :
    (t.withLast last).announceInLink mrp env =
      withLast ⟨(t.instances.announceInLink last env).1, t.freed⟩
        (t.instances.announceInLink last env).2 := by
  have hcfm := cfmLinkChange_withLast t last false
  have hmodify := modify_withLast hnew (Mrp.key_of_toMrpConf hconf) (·.portLinkChange .inter true)
  rw [hconf] at hcfm
  simp only [announceInLink, Registry.announceInLink, hconf]
  split
  · split
    · exact hmodify
    · change Table.mk ((t.instances ++ [last]).cfmLinkChange mrp.ifindex mrp.cfmPeerMepid false) _ = _
      rw [hcfm]
      split <;> rfl
  · rfl

/-- Setting an interconnection role in place. -/
theorem takeInRole_withLast {t : Table} {env : Env} {a : AddArgs} {mrp : Mrp} (role : InRole)
    (hnew : a.key ∉ t.keys) (hkey : mrp.key = a.key) :
    (t.withLast mrp).takeInRole env a role =
      (withLast ⟨(t.instances.takeInRole mrp env role).1, t.freed⟩
        (t.instances.takeInRole mrp env role).2.1, (t.instances.takeInRole mrp env role).2.2) := by
  have htaken : ({ mrp with mimState := .acStat1, micState := .acStat1 }.setInRole role).toMrpConf =
      mrp.toMrpConf := rfl
  simp only [takeInRole, mrpFind_withLast hnew hkey, Registry.takeInRole,
    modify_withLast hnew hkey]
  generalize { mrp with mimState := .acStat1, micState := .acStat1 }.setInRole role = taken at *
  have hblocked := (taken.portSetState_inter_toMrpConf .blocked).trans htaken
  split
  · rfl
  · split
    · rfl
    · rw [modify_withLast hnew ((Mrp.key_of_toMrpConf htaken).trans hkey),
        announceInLink_withLast (hkey ▸ hnew) hblocked]

end Table

/-- What `mrp_add` has of the instance when a port cannot be allocated. -/
def Mrp.unfinished (env : Env) (a : AddArgs) : Mrp :=
  let mrp := Mrp.applySettings env a
  if env.mallocPort (.ring .primary) = false then mrp
  else
    let mrp := mrp.portInit env a.pport (.ring .primary)
    if env.mallocPort (.ring .secondary) = false then mrp
    else mrp.portInit env a.sport (.ring .secondary)

/-- The instance that `mrp_add` has built when it looks at the error code, the other
instances at that moment, and the error code. -/
def Registry.built (reg : Registry) (env : Env) (a : AddArgs) : Registry × Mrp × Int :=
  reg.setInRoleByNumber (Mrp.withRing env a) env a.inRole

namespace Registry

/-- An interconnection role is set, or nothing more happens. -/
theorem built_cases {reg : Registry} {env : Env} {a : AddArgs} {P : Registry × Mrp × Int → Prop}
    (htake : ∀ role, P (reg.takeInRole (Mrp.withRing env a).1 env role))
    (hnone : P (reg, Mrp.withRing env a)) : P (reg.built env a) := by
  unfold built setInRoleByNumber
  split
  · exact htake .mim
  · split
    · exact htake .mic
    · exact hnone

/-- One after the other, the instances of `reg'` are those of `reg` after some events. -/
def Evolved (reg reg' : Registry) : Prop := List.Forall₂ Mrp.After reg reg'

theorem Evolved.refl (reg : Registry) : Evolved reg reg :=
  List.forall₂_same.mpr fun mrp _ => .refl mrp

theorem Evolved.trans {a b c : Registry} (hab : Evolved a b) (hbc : Evolved b c) : Evolved a c := by
  unfold Evolved at hab hbc ⊢
  induction hab generalizing c with
  | nil =>
      cases hbc
      exact .nil
  | cons hx _ ih =>
      cases hbc with
      | cons hy hrest => exact .cons (hx.trans hy) (ih hrest)

/-- What no event changes is the same in both. -/
theorem Evolved.map {a b : Registry} (h : Evolved a b) {β : Type} {g : Mrp → β}
    (hg : ∀ mrp e, g (mrp.step e) = g mrp) : b.map g = a.map g := by
  unfold Evolved at h
  induction h with
  | nil => rfl
  | cons hx _ ih => rw [List.map_cons, List.map_cons, ih, hx.same hg]

/-- Every instance has a past. -/
theorem Evolved.exists_of_mem {a b : Registry} (h : Evolved a b) {mrp : Mrp} (hmem : mrp ∈ b) :
    ∃ old ∈ a, old.After mrp := by
  unfold Evolved at h
  induction h with
  | nil => cases hmem
  | @cons x y _ _ hx _ ih =>
      rcases List.mem_cons.mp hmem with rfl | hmem
      · exact ⟨x, List.mem_cons_self, hx⟩
      · rcases ih hmem with ⟨old, hold, hafter⟩
        exact ⟨old, List.mem_cons_of_mem _ hold, hafter⟩

section Evolved

variable (reg : Registry)

/-- An event for the first instance that passes a test. -/
theorem evolved_modifyFirst {p : Mrp → Bool} {f : Mrp → Mrp} (hf : ∀ mrp : Mrp, mrp.After (f mrp)) :
    Evolved reg (modifyFirst p f reg) :=
  forall₂_modifyFirst Mrp.After.refl (fun mrp _ => hf mrp) reg

theorem evolved_cfmLinkChange (ifindex peerMepid : UInt32) (defect : Bool) :
    Evolved reg (reg.cfmLinkChange ifindex peerMepid defect) := by
  rw [cfmLinkChange_eq]
  exact reg.evolved_modifyFirst fun mrp => mrp.after_step _

theorem evolved_announceInLink (mrp : Mrp) (env : Env) :
    Evolved reg (reg.announceInLink mrp env).1 := by
  unfold announceInLink
  repeat' split
  all_goals first | exact .refl reg | exact reg.evolved_cfmLinkChange _ _ _

theorem evolved_takeInRole (mrp : Mrp) (env : Env) (role : InRole) :
    Evolved reg (reg.takeInRole mrp env role).1 := by
  simp only [takeInRole]
  split
  · exact .refl reg
  · split
    · exact .refl reg
    · exact reg.evolved_announceInLink _ env

/-- While an instance is built the others see at most events. -/
theorem evolved_built (env : Env) (a : AddArgs) : Evolved reg (reg.built env a).1 := by
  exact built_cases (P := fun x => Evolved reg x.1) (reg.evolved_takeInRole _ env) (.refl reg)

end Evolved

/-- Setting an interconnection role changes other instances only if it succeeds. -/
theorem takeInRole_of_error {reg : Registry} {mrp : Mrp} {env : Env} {role : InRole}
    (h : (reg.takeInRole mrp env role).2.2 ≠ 0) : (reg.takeInRole mrp env role).1 = reg := by
  simp only [takeInRole] at h ⊢
  split
  · rfl
  next hport =>
    rw [if_neg hport] at h
    split
    · rfl
    next hok => exact absurd (by rw [if_neg hok]) h

/-- An instance that is given up leaves no trace in the others. -/
theorem built_of_error {reg : Registry} {env : Env} {a : AddArgs}
    (h : (reg.built env a).2.2 ≠ 0) : (reg.built env a).1 = reg := by
  revert h
  exact built_cases (P := fun x => x.2.2 ≠ 0 → x.1 = reg) (fun _ => takeInRole_of_error)
    fun _ => rfl

theorem built_key (reg : Registry) (env : Env) (a : AddArgs) :
    (reg.built env a).2.1.key = a.key :=
  (Mrp.key_of_toMrpConf (reg.setInRoleByNumber_op env _ a.inRole).toMrpConf).trans
    (Mrp.withRing_key env a)

end Registry

namespace Table

/-- Setting the roles in place. -/
theorem setRoles_withLast {t : Table} {env : Env} {a : AddArgs} (hnew : a.key ∉ t.keys) :
    setInRole ((t.withLast (Mrp.configure env a)).setRingRole env a) env a =
      (withLast ⟨(t.instances.built env a).1, t.freed⟩ (t.instances.built env a).2.1,
        (t.instances.built env a).2.2) := by
  have hring : (t.withLast (Mrp.configure env a)).setRingRole env a =
      (t.withLast (Mrp.withRing env a).1, (Mrp.withRing env a).2) := by
    rw [setRingRole, mrpFind_withLast hnew (Mrp.configure_key env a),
      modify_withLast hnew (Mrp.configure_key env a)]
    rfl
  have hkey := Mrp.withRing_key env a
  rw [hring, setInRole, Registry.built, Registry.setInRoleByNumber]
  split
  · exact takeInRole_withLast .mim hnew hkey
  · split
    · exact takeInRole_withLast .mic hnew hkey
    · rfl

/-- The rest of the configuration in place, once the ring ports are there. -/
theorem configure_withLast {t : Table} {env : Env} {a : AddArgs} (hnew : a.key ∉ t.keys) :
    (t.withLast (((Mrp.applySettings env a).portInit env a.pport (.ring .primary)).portInit env
      a.sport (.ring .secondary))).configure env a = t.withLast (Mrp.configure env a) := by
  have hkey : (((Mrp.applySettings env a).portInit env a.pport (.ring .primary)).portInit env
      a.sport (.ring .secondary)).key = a.key := Mrp.applySettings_key env a
  have hports : (if a.iport > 0 then
      (t.withLast (((Mrp.applySettings env a).portInit env a.pport (.ring .primary)).portInit env
        a.sport (.ring .secondary))).modify a.brIfindex a.ringNr (·.portInit env a.iport .inter)
      else t.withLast (((Mrp.applySettings env a).portInit env a.pport (.ring .primary)).portInit
        env a.sport (.ring .secondary))) = t.withLast ((Mrp.applySettings env a).initPorts env a) := by
    by_cases hi : a.iport > 0
    · rw [if_pos hi, modify_withLast hnew hkey, Mrp.initPorts, if_pos hi]
    · rw [if_neg hi, Mrp.initPorts, if_neg hi]
  have hinit := (Mrp.key_of_toMrpConf (initPorts_keeps (Mrp.applySettings env a) env a).1).trans
    (Mrp.applySettings_key env a)
  rw [configure, hports]
  exact modify_withLast hnew hinit _

/-- `mrp_add` in terms of the instance that it builds. -/
theorem mrpAdd_eq (t : Table) (env : Env) (a : AddArgs) :
    t.mrpAdd env a =
      if a.key ∈ t.keys then (t, -einval)
      else if env.mallocMrp = false then (t, -enomem)
      else if Registry.allocated env a = false then
        (⟨t.instances, (Mrp.unfinished env a).destroy :: t.freed⟩, -enomem)
      else if (t.instances.built env a).2.2 ≠ 0 then
        (⟨(t.instances.built env a).1,
          (t.instances.built env a).2.1.dropInPort.destroy :: t.freed⟩,
          (t.instances.built env a).2.2)
      else (⟨(t.instances.built env a).1 ++ [(t.instances.built env a).2.1], t.freed⟩, 0) := by
  by_cases hnew : a.key ∈ t.keys
  · rw [mrpAdd, if_pos (Registry.isSome_mrpFind.mpr hnew), if_pos hnew]
  rw [mrpAdd, if_neg (fun hfind => hnew (Registry.isSome_mrpFind.mp hfind)), if_neg hnew]
  by_cases hmrp : env.mallocMrp = false
  · rw [if_pos hmrp, if_pos hmrp]
  rw [if_neg hmrp, if_neg hmrp]
  have hsettle : (t.mrpCreate env a.brIfindex a.ringNr a.inId).modify a.brIfindex a.ringNr
      (·.settle env a) = t.withLast (Mrp.applySettings env a) :=
    modify_withLast hnew rfl _
  have hkey := Mrp.applySettings_key env a
  have hkeyP : ((Mrp.applySettings env a).portInit env a.pport (.ring .primary)).key = a.key := hkey
  have hkeyS : (((Mrp.applySettings env a).portInit env a.pport (.ring .primary)).portInit env
      a.sport (.ring .secondary)).key = a.key := hkey
  simp only [hsettle, Registry.allocated, Mrp.unfinished]
  by_cases hp : env.mallocPort (.ring .primary) = false
  · rw [if_pos hp, mrpDestroy_withLast hnew hkey, if_pos (by simp [hp]), if_pos hp]
  rw [if_neg hp, modify_withLast hnew hkey, if_neg hp]
  by_cases hs : env.mallocPort (.ring .secondary) = false
  · rw [if_pos hs, mrpDestroy_withLast hnew hkeyP, if_pos (by simp [hs]), if_pos hs]
  rw [if_neg hs, modify_withLast hnew hkeyP, if_neg hs]
  by_cases hi : a.iport > 0 ∧ env.mallocPort .inter = false
  · have hiport : ¬a.iport = 0 := by
      intro hzero
      simp [hzero] at hi
    rw [if_pos hi, mrpDestroy_withLast hnew hkeyS, if_pos (by simp [hi.2, hiport])]
  have halloc : ¬(env.mallocMrp && env.mallocPort (.ring .primary) &&
      env.mallocPort (.ring .secondary) && (a.iport = 0 || env.mallocPort .inter)) = false := by
    simp only [Bool.not_eq_false] at hmrp hp hs
    simp only [hmrp, hp, hs, Bool.true_and, Bool.not_eq_false, Bool.or_eq_true, decide_eq_true_eq]
    by_contra hbad
    rw [not_or] at hbad
    exact hi ⟨UInt32.pos_iff_ne_zero.mpr hbad.1, by simpa using hbad.2⟩
  rw [if_neg hi, if_neg halloc, configure_withLast hnew, setRoles_withLast hnew]
  have hnew' : a.key ∉ Table.keys ⟨(t.instances.built env a).1, t.freed⟩ := by
    rw [keys, (t.instances.evolved_built env a).map Mrp.step_key]
    exact hnew
  have hlast := t.instances.built_key env a
  split
  · have hdrop : (t.instances.built env a).2.1.dropInPort.key = a.key := hlast
    rw [modify_withLast hnew' hlast, mrpDestroy_withLast hnew' hdrop]
  · rfl

/-- On the list, `mrp_add` in place is `mrp_add` as it was modelled before. -/
theorem mrpAdd_instances (t : Table) (env : Env) (a : AddArgs) :
    ((t.mrpAdd env a).1.instances, (t.mrpAdd env a).2) = Registry.mrpAdd env t.instances a := by
  rw [mrpAdd_eq, Registry.mrpAdd]
  by_cases hnew : a.key ∈ t.keys
  · rw [if_pos hnew, if_pos (Registry.isSome_mrpFind.mpr hnew)]
  rw [if_neg hnew, if_neg (fun hfind => hnew (Registry.isSome_mrpFind.mp hfind))]
  by_cases hmrp : env.mallocMrp = false
  · have halloc : Registry.allocated env a = false := by simp [Registry.allocated, hmrp]
    rw [if_pos hmrp, if_pos halloc]
  rw [if_neg hmrp]
  split
  · rfl
  · change _ = if (t.instances.built env a).2.2 ≠ 0 then
        ((t.instances.built env a).1, (t.instances.built env a).2.2)
      else ((t.instances.built env a).1 ++ [(t.instances.built env a).2.1], 0)
    split <;> rfl

/-- A failed `mrp_add` leaves the list as it was. -/
theorem mrpAdd_of_error {t : Table} {env : Env} {a : AddArgs} (h : (t.mrpAdd env a).2 ≠ 0) :
    (t.mrpAdd env a).1.instances = t.instances := by
  rw [mrpAdd_eq] at h ⊢
  split
  · rfl
  next hnew =>
    split
    · rfl
    next hmrp =>
      split
      · rfl
      next halloc =>
        rw [if_neg hnew, if_neg hmrp, if_neg halloc] at h
        split
        next herr => exact Registry.built_of_error herr
        next herr => exact absurd (by rw [if_neg herr]) h

end Table

/-! ## When it succeeds -/

/-- The number is that of an interconnection role. -/
def IsInRole (inRole : UInt32) : Prop := inRole = inRoleMim ∨ inRole = inRoleMic

instance (ringRole : UInt32) : Decidable (IsRingRole ringRole) :=
  inferInstanceAs (Decidable (_ ∨ _ ∨ _))

instance (inRole : UInt32) : Decidable (IsInRole inRole) :=
  inferInstanceAs (Decidable (_ ∨ _))

/-- What is built with an interconnection role. -/
theorem Registry.exists_built_eq (reg : Registry) (env : Env) {a : AddArgs}
    (h : IsInRole a.inRole) :
    ∃ role, reg.built env a = reg.takeInRole (Mrp.withRing env a).1 env role := by
  unfold built setInRoleByNumber
  rcases h with hmim | hmic
  · exact ⟨.mim, if_pos hmim⟩
  · refine ⟨.mic, ?_⟩
    rw [if_neg (by rw [hmic]; decide), if_pos hmic]
    rfl

/-- What is built without one. -/
theorem Registry.built_eq_withRing (reg : Registry) (env : Env) {a : AddArgs}
    (h : ¬IsInRole a.inRole) : reg.built env a = (reg, Mrp.withRing env a) := by
  simp only [IsInRole, not_or] at h
  unfold built setInRoleByNumber
  rw [if_neg h.1, if_neg h.2]

/-- The error code of a ring role is the answer of the driver. -/
theorem Mrp.takeRingRole_err (mrp : Mrp) (env : Env) (role : RingRole) :
    (mrp.takeRingRole env role).2 = env.setRingRole := by
  simp only [Mrp.takeRingRole]
  split
  · rfl
  next hok => exact (not_not.mp hok).symm

/-- The error code of the ring role. -/
theorem Mrp.withRing_err (env : Env) (a : AddArgs) :
    (Mrp.withRing env a).2 = if IsRingRole a.ringRole then env.setRingRole else 0 := by
  unfold Mrp.withRing Mrp.setRingRoleByNumber
  by_cases hmrm : a.ringRole = ringRoleMrm
  · rw [if_pos hmrm, if_pos (.inr (.inl hmrm))]
    exact Mrp.takeRingRole_err _ env _
  by_cases hmrc : a.ringRole = ringRoleMrc
  · rw [if_neg hmrm, if_pos hmrc, if_pos (.inl hmrc)]
    exact Mrp.takeRingRole_err _ env _
  by_cases hmra : a.ringRole = ringRoleMra
  · rw [if_neg hmrm, if_neg hmrc, if_pos hmra, if_pos (.inr (.inr hmra))]
    exact Mrp.takeRingRole_err _ env _
  · rw [if_neg hmrm, if_neg hmrc, if_neg hmra, if_neg (by simp [IsRingRole, hmrm, hmrc, hmra])]

/-- The interconnection port is there exactly if an interface was given. -/
theorem Mrp.withRing_iPort (env : Env) (a : AddArgs) :
    (Mrp.withRing env a).1.iPort.isNone = decide (a.iport = 0) := by
  have hport := congrArg Inter.port (configure_configured env a).inter
  have hnone : (Mrp.withRing env a).1.iPort.isNone = (Mrp.configure env a).inter.port.isNone := by
    rw [Mrp.withRing_toInPart, Mrp.inter_port, Option.isNone_map]
  rw [hnone, hport]
  by_cases hzero : a.iport = 0
  · simp [hzero]
  · simp [hzero, UInt32.pos_iff_ne_zero]

/-- The error code of an interconnection role. -/
theorem Registry.takeInRole_err (reg : Registry) (mrp : Mrp) (env : Env) (role : InRole) :
    (reg.takeInRole mrp env role).2.2 = if mrp.iPort.isNone then -einval else env.setInRole := by
  simp only [takeInRole]
  split
  · rfl
  · split
    · rfl
    next hok => exact (not_not.mp hok).symm

/-- The error code that `mrp_add` looks at in the end: that of the interconnection
role, if one was asked for, else that of the ring role. -/
theorem Registry.built_err (reg : Registry) (env : Env) (a : AddArgs) :
    (reg.built env a).2.2 =
      if IsInRole a.inRole then if a.iport = 0 then -einval else env.setInRole
      else if IsRingRole a.ringRole then env.setRingRole else 0 := by
  by_cases hrole : IsInRole a.inRole
  · rcases reg.exists_built_eq env hrole with ⟨role, hbuilt⟩
    rw [if_pos hrole, hbuilt, takeInRole_err, Mrp.withRing_iPort]
    simp
  · rw [if_neg hrole, reg.built_eq_withRing env hrole]
    exact Mrp.withRing_err env a

/-- What it takes for `mrp_add` to succeed: the key is new, memory is there, and the
last role that was asked for can be set. -/
def AddOk (keys : List (UInt32 × UInt32)) (env : Env) (a : AddArgs) : Prop :=
  a.key ∉ keys ∧ Registry.allocated env a = true ∧
    if IsInRole a.inRole then a.iport ≠ 0 ∧ env.setInRole = 0
    else IsRingRole a.ringRole → env.setRingRole = 0

theorem Registry.built_ok_iff (reg : Registry) (env : Env) (a : AddArgs) :
    (reg.built env a).2.2 = 0 ↔
      if IsInRole a.inRole then a.iport ≠ 0 ∧ env.setInRole = 0
      else IsRingRole a.ringRole → env.setRingRole = 0 := by
  rw [built_err]
  by_cases hin : IsInRole a.inRole
  · rw [if_pos hin, if_pos hin]
    by_cases hzero : a.iport = 0
    · simp [hzero, einval]
    · simp [hzero]
  · rw [if_neg hin, if_neg hin]
    by_cases hring : IsRingRole a.ringRole
    · simp [hring]
    · simp [hring]

namespace Table

variable {t : Table} {env : Env} {a : AddArgs}

/-- When `mrp_add` succeeds. -/
theorem mrpAdd_ok_iff : (t.mrpAdd env a).2 = 0 ↔ AddOk t.keys env a := by
  have hmalloc : Registry.allocated env a = true → env.mallocMrp = true := by
    simp only [Registry.allocated, Bool.and_eq_true]
    exact fun h => h.1.1.1
  rw [mrpAdd_eq, AddOk, ← t.instances.built_ok_iff]
  by_cases hnew : a.key ∈ t.keys
  · simp [hnew, einval]
  by_cases hmrp : env.mallocMrp = false
  · have halloc : ¬Registry.allocated env a = true := fun h => by simp [hmalloc h] at hmrp
    simp [hnew, hmrp, halloc, enomem]
  by_cases halloc : Registry.allocated env a = false
  · simp [hnew, hmrp, halloc, enomem]
  · by_cases herr : (t.instances.built env a).2.2 = 0
    · simp [hnew, hmrp, halloc, herr]
    · simp [hnew, hmrp, halloc, herr]

/-- What a successful `mrp_add` does. -/
theorem mrpAdd_of_ok (h : AddOk t.keys env a) :
    (t.mrpAdd env a).1 =
      ⟨(t.instances.built env a).1 ++ [(t.instances.built env a).2.1], t.freed⟩ := by
  rcases h with ⟨hnew, halloc, hok⟩
  have hmrp : ¬env.mallocMrp = false := by
    simp only [Registry.allocated, Bool.and_eq_true] at halloc
    simp [halloc.1.1.1]
  have hbuilt := (t.instances.built_ok_iff env a).mpr hok
  rw [mrpAdd_eq, if_neg hnew, if_neg hmrp, if_neg (by simp [halloc]), if_neg (not_not.mpr hbuilt)]

/-- The instance that a successful `mrp_add` appends is a created one. -/
theorem created_of_ok (h : AddOk t.keys env a) : Created env a (t.instances.built env a).2.1 := by
  refine ⟨t.instances, (t.instances.built env a).1, ?_⟩
  rw [← mrpAdd_instances, mrpAdd_of_ok h, mrpAdd_ok_iff.mpr h]

end Table

end Umrp
