import Umrp.Links.Operstates
import Umrp.System.Lifetime
import Umrp.System.Separation

/-!
# Link check mode

In link check mode CFM is to decide whether the link of the interconnection port counts as
up.  The entry point for ordinary link changes ignores the port in this mode, but the
netlink listener has written the operational state of the port before it calls it.

Main results:

- Theorem `Mrp.LinkChecked.step_isOperUp`: what an event makes of the link.
- Theorem `Registry.built_isOperUp`: the link after the role was set.
- Theorem `cfm_decides_iff`: the runs in which CFM decides.
-/

namespace Umrp

open EventMachine

/-! ## Notifications -/

/-- The latest CFM notification: whether it reported a defect. -/
def noteCfm (latest : Option Bool) : Event → Option Bool
  | .cfmLinkChange defect => some defect
  | _ => latest

/-- The CFM notification that an instance gets when its interconnection role is set.  It is
issued if the link is up, and the first instance that fits gets it. -/
def Registry.roleCfm (reg : Registry) (env : Env) (a : AddArgs) : Option Bool :=
  if env.ifGetLink .inter = true ∧
      (reg.any fun other => isMrp other a.brIfindex a.cfmPeerMepid) = false then
    some false
  else none

namespace Mrp

/-- The step of a run at which the kernel agrees with CFM: a message with a new operational
state of the interconnection port reports that the link is up exactly if it counts as up
already. -/
def CfmGuard (mrp : Mrp) : Event → Prop
  | .operstate .inter state => mrp.operstate? .inter ≠ some state →
      (storedOperstate state = ifOperUp ↔ mrp.isOperUp .inter = true)
  | _ => True

/-- In link check mode ordinary link changes do not reach the interconnection port. -/
theorem portLinkChange_inter_of_lc {mrp : Mrp} (h : mrp.inMode = .lc) (up : Bool) :
    mrp.portLinkChange .inter up = mrp := by
  simp only [portLinkChange, h, if_true]

/-- What the listener makes of an operational state of the interconnection port. -/
theorem netlinkOperstate_inter_of_lc {mrp : Mrp} (h : mrp.inMode = .lc)
    (hport : mrp.iPort.isSome = true) (state : UInt8) :
    (mrp.netlinkOperstate .inter state).operstate? .inter =
      if mrp.operstate? .inter = some state then some state else some (storedOperstate state) := by
  rcases Option.isSome_iff_exists.mp hport with ⟨port, hport⟩
  have hstored : mrp.operstate? .inter = some port.operstate := by
    simp only [operstate?, port?, hport, Option.map_some]
  have hset : (mrp.setOperstate .inter (storedOperstate state)).operstate? .inter =
      some (storedOperstate state) := by
    rw [operstate_setOperstate, if_pos rfl, hstored, Option.map_some]
  have hmode : (mrp.setOperstate .inter (storedOperstate state)).inMode = .lc := h
  simp only [netlinkOperstate, port?, hport]
  by_cases hsame : port.operstate = state
  · rw [if_pos hsame, hstored, hsame, if_pos rfl]
  · rw [if_neg hsame, if_neg (by rw [hstored]; simpa using hsame)]
    -- whatever the listener then calls, the state machine returns at once
    split
    · rw [portLinkChange_inter_of_lc hmode, hset]
    · exact hset

/-- What a CFM notification makes of it. -/
theorem cfmLinkChange_inter {mrp : Mrp} (hport : mrp.iPort.isSome = true) (defect : Bool) :
    (mrp.cfmLinkChange defect).operstate? .inter =
      some (if defect then ifOperDown else ifOperUp) := by
  rcases Option.isSome_iff_exists.mp hport with ⟨port, hport⟩
  have hnote : ∀ state up, ((mrp.setInOperstate state).noteInLink up).iPort.map MrpPort.operstate =
      some state := by
    intro state up
    simp [noteInLink, setInOperstate, hport]
  simp only [cfmLinkChange, hport, operstate?, port?]
  split
  · rw [inOperstate_mimPortLink, hnote]
  · rw [inOperstate_micPortLink, hnote]
  · simp [setInOperstate, hport]

/-! ## Steps -/

/-- The instance has an interconnection port in link check mode. -/
def LinkChecked (mrp : Mrp) : Prop := mrp.inMode = .lc ∧ mrp.iPort.isSome = true

theorem LinkChecked.step {mrp : Mrp} (h : mrp.LinkChecked) (e : Event) :
    (mrp.step e).LinkChecked := by
  have hport : (mrp.step e).iPort.isSome = mrp.iPort.isSome := by
    have hindex := congrArg Option.isSome (mrp.step_inIndex e)
    rwa [Option.isSome_map, Option.isSome_map] at hindex
  have hmode : (mrp.step e).inMode = mrp.inMode := congrArg MrpConf.inMode (mrp.step_toMrpConf e)
  exact ⟨hmode.trans h.1, hport.trans h.2⟩

/-- What an event makes of the link: CFM decides, and so does a new operational state. -/
theorem LinkChecked.step_isOperUp {mrp : Mrp} (h : mrp.LinkChecked) (e : Event) :
    (mrp.step e).isOperUp .inter = true ↔
      match e with
      | .cfmLinkChange defect => defect = false
      | .operstate .inter state =>
          if mrp.operstate? .inter = some state then mrp.isOperUp .inter = true
          else storedOperstate state = ifOperUp
      | _ => mrp.isOperUp .inter = true := by
  have hother : mrp.isLinkEvent (· = .inter) e = false →
      ((mrp.step e).isOperUp .inter = true ↔ mrp.isOperUp .inter = true) := by
    intro hlink
    rw [mrp.step_isOperUp hlink (decide_eq_true rfl)]
  cases e with
  | cfmLinkChange defect =>
      rw [isOperUp_eq, decide_eq_true_eq, Mrp.step, cfmLinkChange_inter h.2]
      cases defect <;> simp [ifOperDown, ifOperUp]
  | operstate p state =>
      cases p with
      | ring r => exact hother rfl
      | inter =>
          rw [isOperUp_eq, isOperUp_eq, decide_eq_true_eq, Mrp.step,
            netlinkOperstate_inter_of_lc h.1 h.2]
          by_cases hsame : mrp.operstate? .inter = some state
          · simp [hsame]
          · simp [hsame]
  | linkChange p up =>
      cases p with
      | ring r => exact hother rfl
      | inter =>
          simp only [Mrp.step]
          split
          · rw [portLinkChange_inter_of_lc h.1]
          · rfl
  | recv p rx => exact hother rfl
  | portMac p mac => exact hother rfl
  | bridgeMac mac => exact hother rfl
  | expired w => exact hother rfl

/-- If CFM has decided before an event, it has decided after it exactly if the guard holds. -/
theorem LinkChecked.agree_step_iff {mrp : Mrp} (h : mrp.LinkChecked) {latest : Option Bool}
    (hlatest : mrp.isOperUp .inter = true ↔ latest = some false) (e : Event) :
    ((mrp.step e).isOperUp .inter = true ↔ noteCfm latest e = some false) ↔ mrp.CfmGuard e := by
  rw [h.step_isOperUp e]
  cases e with
  | cfmLinkChange defect => simp [noteCfm, CfmGuard]
  | operstate p state =>
      cases p with
      | ring r => simpa [noteCfm, CfmGuard] using hlatest
      | inter =>
          simp only [noteCfm, CfmGuard, ← hlatest]
          by_cases hsame : mrp.operstate? .inter = some state
          · simp [hsame]
          · simp [hsame]
  | linkChange p up => simpa [noteCfm, CfmGuard] using hlatest
  | recv p rx => simpa [noteCfm, CfmGuard] using hlatest
  | portMac p mac => simpa [noteCfm, CfmGuard] using hlatest
  | bridgeMac mac => simpa [noteCfm, CfmGuard] using hlatest
  | expired w => simpa [noteCfm, CfmGuard] using hlatest

/-! ## The role is set -/

/-- Before a role is set no state was reported for the interconnection port. -/
theorem withRing_iPort_of_ne (env : Env) {a : AddArgs} (hport : a.iport ≠ 0) :
    (withRing env a).1.iPort = some (initialPort env a.iport) := by
  have hinit := initPorts_iPort env a
  rw [if_neg hport] at hinit
  rw [withRing_toInPart]
  simp only [configure]
  split
  · simp only [startCfm, hinit]
    exact hinit
  · exact hinit

end Mrp

namespace Registry

variable (reg : Registry)

/-- What the announcement of the link makes of a new instance in link check mode. -/
theorem announceInLink_isOperUp {mrp : Mrp} (h : mrp.LinkChecked)
    (hdown : mrp.isOperUp .inter = false) (env : Env) :
    (reg.announceInLink mrp env).2.isOperUp .inter = true ↔
      env.ifGetLink .inter = true ∧
        (reg.any fun other => isMrp other mrp.ifindex mrp.cfmPeerMepid) = false := by
  have hrc : ¬mrp.inMode = .rc := by simp [h.1]
  unfold announceInLink
  by_cases hlink : env.ifGetLink .inter = true
  · rw [if_pos hlink, if_neg hrc]
    by_cases hany : (reg.any fun other => isMrp other mrp.ifindex mrp.cfmPeerMepid) = true
    · simp [hany, hdown]
    · have hup : (mrp.cfmLinkChange false).isOperUp .inter = true :=
        (h.step_isOperUp (.cfmLinkChange false)).mpr rfl
      simp [hany, hlink, hup]
  · simp [hlink, hdown]

/-- The announcement is a CFM event or nothing. -/
theorem announceInLink_linkChecked {mrp : Mrp} (h : mrp.LinkChecked) (env : Env) :
    (reg.announceInLink mrp env).2.LinkChecked := by
  have hrc : ¬mrp.inMode = .rc := by simp [h.1]
  unfold announceInLink
  rw [if_neg hrc]
  split
  · split
    · exact h
    · exact h.step (.cfmLinkChange false)
  · exact h

/-- Setting the role of an instance whose link was not reported yet. -/
theorem takeInRole_isOperUp {mrp : Mrp} (h : mrp.LinkChecked)
    (hdown : mrp.isOperUp .inter = false) {env : Env} (hset : env.setInRole = 0) (role : InRole) :
    (reg.takeInRole mrp env role).2.1.LinkChecked ∧
      ((reg.takeInRole mrp env role).2.1.isOperUp .inter = true ↔
        env.ifGetLink .inter = true ∧
          (reg.any fun other => isMrp other mrp.ifindex mrp.cfmPeerMepid) = false) := by
  have hport : ¬mrp.iPort.isNone = true := by
    rw [Option.isNone_iff_eq_none, ← ne_eq, Option.ne_none_iff_isSome]
    exact h.2
  simp only [takeInRole]
  rw [if_neg hport, if_neg (not_not.mpr hset)]
  rw [Mrp.isOperUp_eq, Mrp.operstate?] at hdown
  generalize hm : ({ mrp with mimState := .acStat1, micState := .acStat1 }.setInRole
    role).portSetState .inter .blocked = m
  have hconf : m.toMrpConf = mrp.toMrpConf := by
    rw [← hm, Mrp.portSetState_inter_toMrpConf]
    rfl
  have hstate : m.iPort.map MrpPort.operstate = mrp.iPort.map MrpPort.operstate := by
    rw [← hm, Mrp.portSetState_inter_toInPart]
    simp [Mrp.setInRole, Mrp.call, Function.comp_def]
  have hchecked : m.LinkChecked := by
    have hsome := congrArg Option.isSome hstate
    rw [Option.isSome_map, Option.isSome_map] at hsome
    exact ⟨(congrArg MrpConf.inMode hconf).trans h.1, hsome.trans h.2⟩
  have hdown' : m.isOperUp .inter = false := by
    rw [Mrp.isOperUp_eq, Mrp.operstate?, Mrp.port?, hstate]
    exact hdown
  have hup := reg.announceInLink_isOperUp hchecked hdown' env
  rw [hconf] at hup
  exact ⟨reg.announceInLink_linkChecked hchecked env, hup⟩

/-- The state of the link after the role was set. -/
theorem built_isOperUp {env : Env} {a : AddArgs} (hok : (reg.built env a).2.2 = 0)
    (hmode : InMode.ofUInt32 a.inMode = .lc) (hrole : IsInRole a.inRole) :
    (reg.built env a).2.1.LinkChecked ∧
      ((reg.built env a).2.1.isOperUp .inter = true ↔ reg.roleCfm env a = some false) := by
  rw [built_ok_iff, if_pos hrole] at hok
  have hport := Mrp.withRing_iPort_of_ne env hok.1
  have hchecked : (Mrp.withRing env a).1.LinkChecked :=
    ⟨(Mrp.withRing_inMode env a).trans hmode, by rw [hport]; rfl⟩
  have hdown : (Mrp.withRing env a).1.isOperUp .inter = false := by
    rw [Mrp.isOperUp_eq, Mrp.operstate?, Mrp.port?, hport]
    rfl
  have hindex : (Mrp.withRing env a).1.ifindex = a.brIfindex :=
    congrArg Prod.fst (Mrp.withRing_key env a)
  have hpeer := Mrp.withRing_cfmPeerMepid env a (by rw [hmode]; exact InMode.noConfusion)
  have hcfm : reg.roleCfm env a = some false ↔ env.ifGetLink .inter = true ∧
      (reg.any fun other => isMrp other a.brIfindex a.cfmPeerMepid) = false := by
    simp [roleCfm]
  have htake := reg.takeInRole_isOperUp hchecked hdown hok.2
  rw [hindex, hpeer] at htake
  rcases reg.exists_built_eq env hrole with ⟨role, hbuilt⟩
  rw [hcfm, hbuilt]
  exact htake role

end Registry

/-- In link check mode CFM alone decides, in a run of an instance that `mrp_add` appended to
the list, whether the link of the interconnection port counts as up, exactly if the kernel
never reports anything else. -/
theorem cfm_decides_iff {env : Env} {a : AddArgs} {reg reg' : Registry} {mrp : Mrp}
    (hadd : Registry.mrpAdd env reg a = (reg' ++ [mrp], 0))
    (hmode : InMode.ofUInt32 a.inMode = .lc) (hrole : IsInRole a.inRole) (es : List Event) :
    (∀ k, (run Mrp.step mrp (es.take k)).isOperUp .inter = true ↔
      (es.take k).foldl noteCfm (reg.roleCfm env a) = some false) ↔
    Guarded Mrp.step Mrp.CfmGuard mrp es := by
  rcases Registry.last_of_mrpAdd hadd with ⟨hlast, hok⟩
  rcases reg.built_isOperUp hok hmode hrole with ⟨hchecked, hup⟩
  have hbuilt : (reg.built env a).2.1 = mrp := hlast
  rw [hbuilt] at hchecked hup
  exact forall_agree_iff_guarded
    (R := fun (m : Mrp) latest => m.isOperUp .inter = true ↔ latest = some false)
    (I := Mrp.LinkChecked) (fun _ e hm => hm.step e)
    (fun _ _ e hm hagree => hm.agree_step_iff hagree e) hchecked hup es

namespace Sample

/-- The sample manager in link check mode. -/
def linkChecked : Mrp := (firstInstance env (linkCheck inRoleMim)).1

theorem add_linkChecked : Registry.mrpAdd env [] (linkCheck inRoleMim) =
    ((Registry.built [] env (linkCheck inRoleMim)).1 ++ [linkChecked], 0) :=
  mrpAdd_firstInstance rfl (by decide +kernel)

/-- The link fails and comes back.  The kernel reports it as well, but after CFM. -/
def bothReport : List Event :=
  [.cfmLinkChange true, .operstate .inter ifOperDown, .cfmLinkChange false,
    .operstate .inter ifOperUp]

end Sample

/-- CFM decides as long as the kernel says the same afterwards. -/
theorem cfm_decides_sample :
    Guarded Mrp.step Mrp.CfmGuard Sample.linkChecked Sample.bothReport ∧
    ∀ k, (run Mrp.step Sample.linkChecked (Sample.bothReport.take k)).isOperUp .inter = true ↔
      (Sample.bothReport.take k).foldl noteCfm
        (Registry.roleCfm [] Sample.env (Sample.linkCheck inRoleMim)) = some false := by
  have hguarded : Guarded Mrp.step Mrp.CfmGuard Sample.linkChecked Sample.bothReport := by
    refine ⟨trivial, ?_, trivial, ?_, trivial⟩
    · unfold Mrp.CfmGuard
      decide +kernel
    · unfold Mrp.CfmGuard
      decide +kernel
  exact ⟨hguarded, (cfm_decides_iff Sample.add_linkChecked (by decide) (.inl rfl)
    Sample.bothReport).mpr hguarded⟩

/-- CFM has reported no defect, and the kernel takes the link away; then CFM reports one, and
the kernel puts the link back. -/
theorem kernel_overrules_cfm :
    (∃ reg', Registry.mrpAdd Sample.env [] (Sample.linkCheck inRoleMim) =
      (reg' ++ [Sample.linkChecked], 0)) ∧
    Registry.roleCfm [] Sample.env (Sample.linkCheck inRoleMim) = some false ∧
    ¬((run Mrp.step Sample.linkChecked [.operstate .inter ifOperDown]).isOperUp .inter = true ↔
      [Event.operstate .inter ifOperDown].foldl noteCfm
        (Registry.roleCfm [] Sample.env (Sample.linkCheck inRoleMim)) = some false) ∧
    ¬((run Mrp.step Sample.linkChecked [.cfmLinkChange true, .operstate .inter ifOperUp]).isOperUp
        .inter = true ↔
      [Event.cfmLinkChange true, .operstate .inter ifOperUp].foldl noteCfm
        (Registry.roleCfm [] Sample.env (Sample.linkCheck inRoleMim)) = some false) :=
  ⟨⟨_, Sample.add_linkChecked⟩, by decide +kernel, by decide +kernel, by decide +kernel⟩

end Umrp
