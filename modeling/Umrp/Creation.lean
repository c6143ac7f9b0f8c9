import Umrp.Inter.Simulation
import Umrp.Ring.Simulation

/-!
# The instance that `mrp_add` returns

`mrp_add` configures an instance, sets its ring role and then its
interconnection role.  Setting a role is made of the operations that the
handlers are made of: after it the two machines are where a few link events have
brought them from a fresh state with blocked ports.

Main results:

- Theorem `Created.ring_of_fresh`: a property of the fresh ring machine that link
  events keep holds of the created instance.
- Theorem `Created.inter_of_fresh`: the same for the interconnection machine.
- Theorems `Reachable.ring_invariant` and `Reachable.inter_invariant`: what the
  fresh machine satisfies and its events keep holds of every reachable instance.
- Theorem `KeptByRoles.created`: what holds before the roles are set and is kept by
  every step from there on holds of the created instance.
- Theorem `Created.op`: settings, address and logs of the created instance.
- Theorem `created_firstInstance`: on an empty list `mrp_add` can succeed.
-/

namespace Umrp

/-! ## Fresh machines -/

/-- The ring machine with both ports blocked and nothing known about the links. -/
def Ring.fresh (pport sport : UInt32) (role : RingRole) (count : UInt32) : Ring where
  pPort := .primary
  sPort := .secondary
  state := fun _ => .blocked
  link := fun _ => none
  ifindex := fun
    | .primary => pport
    | .secondary => sport
  role := role
  mrm := .acStat1
  mrc := .acStat1
  linkUp := false
  linkDown := false
  count := count

theorem Ring.fresh_distinct {pport sport : UInt32} {role : RingRole} {count : UInt32} :
    (Ring.fresh pport sport role count).pPort ≠ (Ring.fresh pport sport role count).sPort :=
  nofun

/-- The interconnection machine with its port blocked. -/
def Inter.fresh (role : InRole) : Inter where
  port := some ⟨.blocked, none⟩
  role := role
  mim := .acStat1
  mic := .acStat1
  linkUp := false
  linkDown := false
  count := 0

/-! ## Configuration -/

/-- Every ring profile has an interval between link announcements. -/
theorem ringProfile_linkInterval {ringRecv : UInt8} {pr : RingProfile}
    (h : ringProfile ringRecv = some pr) : pr.linkInterval ≠ 0 := by
  unfold ringProfile at h
  split at h
  · cases h; decide
  · split at h
    · cases h; decide
    · split at h
      · cases h; decide
      · split at h
        · cases h; decide
        · cases h

/-- Every interconnection profile has an interval between link announcements. -/
theorem inProfile_linkInterval {inRecv : UInt8} {pr : InProfile}
    (h : inProfile inRecv = some pr) : pr.linkInterval ≠ 0 := by
  unfold inProfile at h
  split at h
  · cases h; decide
  · split at h
    · cases h; decide
    · cases h

namespace Mrp

section UpdateRecovery

variable (mrp : Mrp) (timeFactor : UInt32) (ringRecv inRecv : UInt8)

/-- A recovery profile resets the announcement counter of the ring machine. -/
theorem ring_updateRecovery (h : mrp.ringLinkCurrMax = 0) :
    (mrp.updateRecovery timeFactor ringRecv inRecv).ring = mrp.ring := by
  unfold updateRecovery
  cases ringProfile ringRecv <;> cases inProfile inRecv <;>
    simp [ring, RingPart.ring, setRingProfile, setInProfile, h]

/-- A recovery profile resets the announcement counter of the interconnection machine. -/
theorem inter_updateRecovery (h : mrp.inLinkCurrMax = 0) :
    (mrp.updateRecovery timeFactor ringRecv inRecv).inter = mrp.inter := by
  unfold updateRecovery
  cases ringProfile ringRecv <;> cases inProfile inRecv <;>
    simp [inter, InPart.inter, setRingProfile, setInProfile, h]

/-- Settings and logs that a recovery profile does not touch. -/
theorem updateRecovery_keeps :
    (mrp.updateRecovery timeFactor ringRecv inRecv).mraSupport = mrp.mraSupport ∧
      (mrp.updateRecovery timeFactor ringRecv inRecv).prio = mrp.prio ∧
      (mrp.updateRecovery timeFactor ringRecv inRecv).blocked = mrp.blocked ∧
      (mrp.updateRecovery timeFactor ringRecv inRecv).inId = mrp.inId ∧
      (mrp.updateRecovery timeFactor ringRecv inRecv).sent = mrp.sent ∧
      (mrp.updateRecovery timeFactor ringRecv inRecv).relayed = mrp.relayed := by
  unfold updateRecovery
  cases ringProfile ringRecv <;> cases inProfile inRecv <;>
    exact ⟨rfl, rfl, rfl, rfl, rfl, rfl⟩

/-- With the default time factor link announcements keep an interval. -/
theorem updateRecovery_intervals (hring : mrp.ringLinkConfInterval ≠ 0)
    (hin : mrp.inLinkConfInterval ≠ 0) :
    (mrp.updateRecovery 1 ringRecv inRecv).ringLinkConfInterval ≠ 0 ∧
      (mrp.updateRecovery 1 ringRecv inRecv).inLinkConfInterval ≠ 0 := by
  unfold updateRecovery
  cases hr : ringProfile ringRecv with
  | none =>
      cases hi : inProfile inRecv with
      | none => simp [hring, hin]
      | some pr => simp [setInProfile, hring, inProfile_linkInterval hi]
  | some pr =>
      cases hi : inProfile inRecv with
      | none => simp [setRingProfile, hin, ringProfile_linkInterval hr]
      | some pr' =>
          simp [setRingProfile, setInProfile, ringProfile_linkInterval hr,
            inProfile_linkInterval hi]

end UpdateRecovery

end Mrp

/-- What is known of an instance whose roles are not set yet. -/
structure Configured (env : Env) (a : AddArgs) (mrp : Mrp) : Prop where
  ring : mrp.ring =
    { Ring.fresh a.pport a.sport .mrc 0 with state := fun _ => .disabled }
  inter : mrp.inter =
    { Inter.fresh .disabled with
      port := if a.iport > 0 then some ⟨.disabled, none⟩ else none }
  mraSupport : mrp.mraSupport = false
  prio : mrp.prio = a.prio
  blocked : mrp.blocked = 1
  reactOnLinkChange : mrp.reactOnLinkChange = a.reactOnLinkChange.toUInt32
  inMode : mrp.inMode = .ofUInt32 a.inMode
  inId : mrp.inId = a.inId
  macaddr : mrp.macaddr = env.ifGetMac a.brIfindex
  sent : mrp.sent = []
  relayed : mrp.relayed = []
  ringLinkInterval : env.timeFactor = 1 → mrp.ringLinkConfInterval ≠ 0
  inLinkInterval : env.timeFactor = 1 → mrp.inLinkConfInterval ≠ 0

/-- Starting CFM stores settings of CFM and makes calls. -/
theorem Configured.startCfm {env : Env} {a : AddArgs} {mrp : Mrp} (h : Configured env a mrp) :
    Configured env a (mrp.startCfm a) := by
  rcases h with ⟨h1, h2, h3, h4, h5, h6, h7, h8, h9, h10, h11, h12, h13⟩
  simp only [Mrp.startCfm]
  split
  · exact ⟨h1, h2, h3, h4, h5, h6, h7, h8, h9, h10, h11, h12, h13⟩
  · exact ⟨h1, h2, h3, h4, h5, h6, h7, h8, h9, h10, h11, h12, h13⟩

/-- A created instance, before its settings. -/
theorem create_machines (env : Env) (brIfindex ringNr : UInt32) (inId : UInt16) :
    (Mrp.create env brIfindex ringNr inId).ring =
        { Ring.fresh 0 0 .mrc 0 with state := fun _ => .disabled } ∧
      (Mrp.create env brIfindex ringNr inId).inter =
        { Inter.fresh .disabled with port := none } := by
  have hring : (MrpPort.ifindex ∘ fun _ : RingPort => Mrp.zeroPort) =
      (Ring.fresh 0 0 .mrc 0).ifindex := by
    funext r
    cases r <;> rfl
  constructor
  · simp only [Mrp.create, Mrp.updateRecovery, ringProfile, inProfile, if_true, Mrp.setRingProfile,
      Mrp.setInProfile, Mrp.ring, RingPart.ring, Mrp.zeroed, Ring.fresh, Ring.mk.injEq, true_and]
    exact ⟨rfl, rfl, hring, rfl, rfl, trivial⟩
  · simp only [Mrp.create, Mrp.updateRecovery, ringProfile, inProfile, if_true, Mrp.setRingProfile,
      Mrp.setInProfile, Mrp.inter, InPart.inter, Mrp.zeroed, Inter.fresh]
    rfl

/-- The counters of link announcements are zero after the first recovery profile. -/
theorem create_counts (env : Env) (brIfindex ringNr : UInt32) (inId : UInt16) :
    (Mrp.create env brIfindex ringNr inId).ringLinkCurrMax = 0 ∧
      (Mrp.create env brIfindex ringNr inId).inLinkCurrMax = 0 := by
  simp [Mrp.create, Mrp.updateRecovery, ringProfile, inProfile, Mrp.setRingProfile,
    Mrp.setInProfile]

/-- The settings are in place and the ports are still empty. -/
theorem applySettings_machines (env : Env) (a : AddArgs) :
    (Mrp.applySettings env a).ring =
        { Ring.fresh 0 0 .mrc 0 with state := fun _ => .disabled } ∧
      (Mrp.applySettings env a).inter = { Inter.fresh .disabled with port := none } := by
  rcases create_machines env a.brIfindex a.ringNr a.inId with ⟨hring, hinter⟩
  rcases create_counts env a.brIfindex a.ringNr a.inId with ⟨hcount, hincount⟩
  constructor
  · rw [← hring]
    exact Mrp.ring_updateRecovery
      ((Mrp.create env a.brIfindex a.ringNr a.inId).setPrio a.prio) _ _ _ hcount
  · rw [← hinter]
    exact Mrp.inter_updateRecovery
      ((Mrp.create env a.brIfindex a.ringNr a.inId).setPrio a.prio) _ _ _ hincount

/-- Settings and logs before the ports are initialised. -/
theorem applySettings_conf (env : Env) (a : AddArgs) :
    (Mrp.applySettings env a).mraSupport = false ∧
      (Mrp.applySettings env a).prio = a.prio ∧
      (Mrp.applySettings env a).blocked = 1 ∧
      (Mrp.applySettings env a).inId = a.inId ∧
      (Mrp.applySettings env a).sent = [] ∧
      (Mrp.applySettings env a).relayed = [] := by
  obtain ⟨h1, h2, h3, h4, h5, h6⟩ := Mrp.updateRecovery_keeps
    ((Mrp.create env a.brIfindex a.ringNr a.inId).setPrio a.prio) env.timeFactor a.ringRecv
    a.inRecv
  exact ⟨h1, h2, h3, h4, h5, h6⟩

/-- Nothing is called while the settings are written. -/
theorem Mrp.updateRecovery_calls (mrp : Mrp) (timeFactor : UInt32) (ringRecv inRecv : UInt8) :
    (mrp.updateRecovery timeFactor ringRecv inRecv).calls = mrp.calls := by
  unfold Mrp.updateRecovery
  cases ringProfile ringRecv <;> cases inProfile inRecv <;> rfl

theorem applySettings_calls (env : Env) (a : AddArgs) : (Mrp.applySettings env a).calls = [] := by
  have hcreate : (Mrp.create env a.brIfindex a.ringNr a.inId).calls = [] := by
    simp only [Mrp.create, Mrp.updateRecovery_calls]
    rfl
  simp only [Mrp.applySettings, Mrp.updateRecovery_calls]
  exact hcreate

/-- With the default time factor link announcements have an interval. -/
theorem applySettings_intervals (env : Env) (a : AddArgs) (h : env.timeFactor = 1) :
    (Mrp.applySettings env a).ringLinkConfInterval ≠ 0 ∧
      (Mrp.applySettings env a).inLinkConfInterval ≠ 0 := by
  have hcreate : (Mrp.create env a.brIfindex a.ringNr a.inId).ringLinkConfInterval ≠ 0 ∧
      (Mrp.create env a.brIfindex a.ringNr a.inId).inLinkConfInterval ≠ 0 := by
    simp [Mrp.create, Mrp.updateRecovery, ringProfile, inProfile, Mrp.setRingProfile,
      Mrp.setInProfile, h]
  have := Mrp.updateRecovery_intervals
    ((Mrp.create env a.brIfindex a.ringNr a.inId).setPrio a.prio) a.ringRecv a.inRecv
    hcreate.1 hcreate.2
  rw [← h] at this
  exact this

/-- An initialised ring port is disabled. -/
theorem ring_portInit (mrp : Mrp) (env : Env) (ifindex : UInt32) (r : RingPort) :
    (mrp.portInit env ifindex (.ring r)).ring =
      { mrp.ring with
        state := Function.update mrp.ring.state r .disabled
        link := Function.update mrp.ring.link r none
        ifindex := Function.update mrp.ring.ifindex r ifindex } := by
  simp [Mrp.portInit, Mrp.ring, RingPart.ring, Function.comp_update, Mrp.initialPort, Mrp.zeroPort]

/-- The ring ports carry the interfaces that were asked for. -/
theorem ring_initPorts {mrp : Mrp} (env : Env) (a : AddArgs)
    (h : mrp.ring = { Ring.fresh 0 0 .mrc 0 with state := fun _ => .disabled }) :
    (mrp.initPorts env a).ring =
      { Ring.fresh a.pport a.sport .mrc 0 with state := fun _ => .disabled } := by
  have hboth : ((mrp.portInit env a.pport (.ring .primary)).portInit env a.sport
      (.ring .secondary)).ring =
        { Ring.fresh a.pport a.sport .mrc 0 with state := fun _ => .disabled } := by
    rw [ring_portInit, ring_portInit, h]
    simp only [Ring.fresh, Ring.mk.injEq, true_and, and_true]
    refine ⟨?_, ?_, ?_⟩ <;> funext r <;> cases r <;> rfl
  simp only [Mrp.initPorts]
  split
  · exact hboth
  · exact hboth

/-- The interconnection port is there if an interface was given for it. -/
theorem inter_initPorts {mrp : Mrp} (env : Env) (a : AddArgs)
    (h : mrp.inter = { Inter.fresh .disabled with port := none }) :
    (mrp.initPorts env a).inter =
      { Inter.fresh .disabled with
        port := if a.iport > 0 then some ⟨.disabled, none⟩ else none } := by
  have hboth : ((mrp.portInit env a.pport (.ring .primary)).portInit env a.sport
      (.ring .secondary)).inter = { Inter.fresh .disabled with port := none } := h
  simp only [Mrp.initPorts]
  split
  · exact congrArg (fun x : Inter => { x with port := some ⟨.disabled, none⟩ }) hboth
  · exact hboth

/-- Initialising ports touches the ports alone. -/
theorem initPorts_keeps (mrp : Mrp) (env : Env) (a : AddArgs) :
    (mrp.initPorts env a).toMrpConf = mrp.toMrpConf ∧
      (mrp.initPorts env a).macaddr = mrp.macaddr ∧
      (mrp.initPorts env a).sent = mrp.sent ∧ (mrp.initPorts env a).relayed = mrp.relayed := by
  simp only [Mrp.initPorts]
  split
  · exact ⟨rfl, rfl, rfl, rfl⟩
  · exact ⟨rfl, rfl, rfl, rfl⟩

/-- The instance that `mrp_add` has built when it starts to set roles. -/
theorem configure_configured (env : Env) (a : AddArgs) :
    Configured env a (Mrp.configure env a) := by
  have hports : Configured env a ((Mrp.applySettings env a).initPorts env a) := by
    rcases applySettings_machines env a with ⟨hring, hinter⟩
    rcases applySettings_conf env a with ⟨hmra, hprio, hblocked, hid, hsent, hrelayed⟩
    rcases initPorts_keeps (Mrp.applySettings env a) env a with ⟨hconf, hmac, hsent', hrelayed'⟩
    constructor
    · exact ring_initPorts env a hring
    · exact inter_initPorts env a hinter
    · rw [hconf, hmra]
    · rw [hconf, hprio]
    · rw [hconf, hblocked]
    · rw [hconf]
      rfl
    · rw [hconf]
      rfl
    · rw [hconf, hid]
    · rw [hmac]
      rfl
    · rw [hsent', hsent]
    · rw [hrelayed', hrelayed]
    · intro h
      rw [hconf]
      exact (applySettings_intervals env a h).1
    · intro h
      rw [hconf]
      exact (applySettings_intervals env a h).2
  simp only [Mrp.configure]
  split
  · exact hports.startCfm
  · exact hports

/-- The configured instance has no interconnection role yet. -/
theorem configure_inRole (env : Env) (a : AddArgs) : (Mrp.configure env a).inRole = .disabled := by
  have hrole := congrArg Inter.role (configure_configured env a).inter
  exact hrole

/-! ## Setting the ring role -/

namespace Mrp

section RingRole

attribute [local simp] call clearFdbStop ringTestStop ringTopoStop ringLinkUpStop ringLinkDownStop
  setRingRole setMrmInit setMrcInit setMrmState setMrcState portSetState_ring

variable (mrp : Mrp) (env : Env)

/-- Resetting the ring before there is an interconnection role. -/
theorem resetRingState_op (h : mrp.inRole = .disabled) :
    RingOp NoNack mrp mrp.resetRingState := by
  unfold resetRingState timerStop
  apply RingOp.intro <;> intros <;> simp [*]

/-- Announcing a link that is up. -/
theorem announceRingLink_op (r : RingPort) : RingOp NoNack mrp (mrp.announceRingLink env r) := by
  unfold announceRingLink
  split
  · exact mrp.portLinkChange_ring_op _ _
  · exact .refl mrp

/-- Taking a ring role. -/
theorem takeRingRole_op (role : RingRole) : RingOp NoNack mrp (mrp.takeRingRole env role).1 := by
  have hblock : RingOp NoNack mrp (((mrp.portSetState (.ring mrp.pPort) .blocked).portSetState
      (.ring mrp.sPort) .blocked).setRingRole role) := by
    apply RingOp.intro <;> intros <;> simp [*]
  simp only [takeRingRole]
  split
  · exact hblock
  · exact (hblock.trans (announceRingLink_op _ env _)).trans (announceRingLink_op _ env _)

/-- The settings that a ring role leaves behind: the auto-manager flag is part of them. -/
def supported (a : AddArgs) : Mrp := { mrp with mraSupport := decide (a.ringRole = ringRoleMra) }

/-- Setting the ring role. -/
theorem setRingRoleByNumber_op (a : AddArgs) (hmra : mrp.mraSupport = false)
    (h : mrp.inRole = .disabled) :
    RingOp NoNack (mrp.supported a) (mrp.setRingRoleByNumber env a.ringRole).1 := by
  have hnot : a.ringRole ≠ ringRoleMra → mrp.supported a = mrp := by
    intro hne
    simp only [supported, hne, decide_false, ← hmra]
  unfold setRingRoleByNumber
  split
  next hrole =>
    rw [hnot (by rw [hrole]; decide)]
    refine (mrp.resetRingState_op h).trans (RingOp.trans ?_ (takeRingRole_op _ env _))
    apply RingOp.intro <;> intros <;> simp [*]
  next =>
    split
    next hrole =>
      rw [hnot (by rw [hrole]; decide)]
      refine (mrp.resetRingState_op h).trans (RingOp.trans ?_ (takeRingRole_op _ env _))
      apply RingOp.intro <;> intros <;> simp [*]
    next =>
      split
      next hrole =>
        have hsup : mrp.supported a = { mrp with mraSupport := true } := by
          simp only [supported, hrole, decide_true]
        rw [hsup]
        refine (resetRingState_op _ ?_).trans (RingOp.trans ?_ (takeRingRole_op _ env _))
        · exact h
        · apply RingOp.intro <;> intros <;> simp [*]
      next hrole =>
        rw [hnot hrole]
        exact .refl mrp

/-- Stopping the timers stops both announcements. -/
theorem ring_timerStop :
    mrp.timerStop.ring = { mrp.ring with linkUp := false, linkDown := false } := by
  simp only [timerStop]
  split
  · split
    · rfl
    · rfl
  · rfl

/-- Resetting the ring machine. -/
theorem ring_resetRingState :
    mrp.resetRingState.ring =
      { mrp.ring with mrm := .acStat1, mrc := .acStat1, linkUp := false, linkDown := false } :=
  congrArg (fun x : Ring => { x with mrm := .acStat1, mrc := .acStat1 }) mrp.ring_timerStop

variable {mrp env}

/-- What link events keep is kept when a link is announced. -/
theorem ring_announceRingLink {I : Ring → Prop} {r : RingPort} (hI : I mrp.ring)
    (hlink : ∀ x r, I x → I (x.step mrp.linkConf (.link r true))) :
    I (mrp.announceRingLink env r).ring := by
  unfold announceRingLink
  split
  · rw [ring_portLinkChange]
    exact hlink _ _ hI
  · exact hI

/-- What holds with both ports blocked and is kept by link events holds after a
ring role was taken. -/
theorem ring_takeRingRole {I : Ring → Prop} {role : RingRole}
    (hI : I { (mrp.ring.set mrp.pPort .blocked).set mrp.sPort .blocked with role := role })
    (hlink : ∀ x r, I x → I (x.step mrp.linkConf (.link r true))) :
    I (mrp.takeRingRole env role).1.ring := by
  have hblock : I (((mrp.portSetState (.ring mrp.pPort) .blocked).portSetState
      (.ring mrp.sPort) .blocked).setRingRole role).ring := by
    simpa only [ring_setRingRole, ring_portSetState] using hI
  simp only [takeRingRole]
  split
  · exact hblock
  · refine ring_announceRingLink (ring_announceRingLink hblock hlink) ?_
    rw [(announceRingLink_op _ env _).toMrpConf]
    exact hlink

end RingRole

end Mrp

/-- The three ring roles that can be asked for. -/
def IsRingRole (ringRole : UInt32) : Prop :=
  ringRole = ringRoleMrc ∨ ringRole = ringRoleMrm ∨ ringRole = ringRoleMra

/-- The role that an instance starts in: an auto-manager starts as a manager. -/
def initialRole (ringRole : UInt32) : RingRole :=
  if ringRole = ringRoleMrc then .mrc else .mrm

/-- The announcement counter that an instance starts with. -/
def initialCount (c : LinkConf) (ringRole : UInt32) : UInt32 :=
  if ringRole = ringRoleMrm then 0 else c.max

/-- What holds of the fresh ring machine and is kept by link events holds after a
ring role was taken. -/
theorem Mrp.ring_takeRingRole_of_fresh {env : Env} {mrp : Mrp} {pport sport count : UInt32}
    {role : RingRole} {I : Ring → Prop} {c : LinkConf}
    (hring : mrp.ring = { Ring.fresh pport sport .mrc count with state := fun _ => .disabled })
    (hc : mrp.linkConf = c) (hI : I (Ring.fresh pport sport role count))
    (hlink : ∀ x r, I x → I (x.step c (.link r true))) :
    I (mrp.takeRingRole env role).1.ring := by
  subst hc
  have hp : mrp.pPort = .primary := congrArg Ring.pPort hring
  have hs : mrp.sPort = .secondary := congrArg Ring.sPort hring
  apply Mrp.ring_takeRingRole _ hlink
  convert hI using 1
  rw [hp, hs, hring]
  simp only [Ring.set, Ring.fresh, Ring.mk.injEq, true_and, and_true]
  funext r
  cases r <;> rfl

/-- Initialising the machines leaves the settings alone. -/
theorem Mrp.setMrmInit_toMrpConf (mrp : Mrp) : mrp.setMrmInit.toMrpConf = mrp.toMrpConf :=
  rfl

theorem Mrp.setMrcInit_toMrpConf (mrp : Mrp) : mrp.setMrcInit.toMrpConf = mrp.toMrpConf :=
  rfl

theorem Mrp.setMrmState_toMrpConf (mrp : Mrp) (st : MrmState) :
    (mrp.setMrmState st).toMrpConf = mrp.toMrpConf :=
  rfl

theorem Mrp.setMrcState_toMrpConf (mrp : Mrp) (st : MrcState) :
    (mrp.setMrcState st).toMrpConf = mrp.toMrpConf :=
  rfl

section SetRingRole

variable {mrp : Mrp} {pport sport : UInt32}
  (hring : mrp.ring = { Ring.fresh pport sport .mrc 0 with state := fun _ => .disabled })
  (hin : mrp.inRole = .disabled)

include hring in
/-- Resetting an instance without a role changes nothing in its ring machine. -/
theorem Mrp.ring_resetRingState_of_fresh :
    mrp.resetRingState.ring =
      { Ring.fresh pport sport .mrc 0 with state := fun _ => .disabled } := by
  rw [Mrp.ring_resetRingState, hring]
  rfl

include hin in
theorem Mrp.linkConf_resetRingState : mrp.resetRingState.linkConf = mrp.linkConf := by
  rw [(mrp.resetRingState_op hin).toMrpConf]

include hring hin in
/-- Initialising the client machine sets its announcement counter. -/
theorem Mrp.ring_setMrcInit_of_fresh :
    mrp.resetRingState.setMrcInit.ring =
      { Ring.fresh pport sport .mrc mrp.linkConf.max with state := fun _ => .disabled } := by
  have hmax : mrp.resetRingState.ringLinkConfMax = mrp.linkConf.max :=
    congrArg LinkConf.max (Mrp.linkConf_resetRingState hin)
  rw [Mrp.ring_setMrcInit, Mrp.ring_resetRingState_of_fresh hring, hmax]
  rfl

variable {env : Env} {I : Ring → Prop}
  (hlink : ∀ x r, I x → I (x.step mrp.linkConf (.link r true)))

include hring hin hlink

/-- What holds of the fresh ring machine and is kept by link events holds of a client. -/
theorem Mrp.ring_setMrcRole (hI : I (Ring.fresh pport sport .mrc mrp.linkConf.max)) :
    I (mrp.setMrcRole env).1.ring := by
  refine Mrp.ring_takeRingRole_of_fresh ?_ ?_ hI hlink
  · rw [Mrp.ring_setMrcState, Mrp.ring_setMrcInit_of_fresh hring hin]
    rfl
  · rw [Mrp.setMrcState_toMrpConf, Mrp.setMrcInit_toMrpConf, Mrp.linkConf_resetRingState hin]

/-- The same for a manager. -/
theorem Mrp.ring_setMrmRole (hI : I (Ring.fresh pport sport .mrm 0)) :
    I (mrp.setMrmRole env).1.ring := by
  refine Mrp.ring_takeRingRole_of_fresh ?_ ?_ hI hlink
  · rw [Mrp.ring_setMrmState, Mrp.ring_setMrmInit, Mrp.ring_resetRingState_of_fresh hring]
    rfl
  · rw [Mrp.setMrmState_toMrpConf, Mrp.setMrmInit_toMrpConf, Mrp.linkConf_resetRingState hin]

/-- The same for an auto-manager, which has both machines initialised. -/
theorem Mrp.ring_setMraRole (hI : I (Ring.fresh pport sport .mrm mrp.linkConf.max)) :
    I (mrp.setMraRole env).1.ring := by
  have hauto : ({ mrp with mraSupport := true } : Mrp).inRole = .disabled := hin
  have hinit := @Mrp.ring_setMrcInit_of_fresh { mrp with mraSupport := true } _ _ hring hauto
  refine Mrp.ring_takeRingRole_of_fresh ?_ ?_ hI hlink
  · rw [Mrp.ring_setMrmState]
    exact congrArg (fun x : Ring => { x with mrm := .acStat1 }) hinit
  · rw [Mrp.setMrmState_toMrpConf, Mrp.setMrcInit_toMrpConf, Mrp.setMrmInit_toMrpConf,
      Mrp.linkConf_resetRingState hauto]
    rfl

end SetRingRole

/-- What holds of the fresh ring machine and is kept by link events holds after
the ring role was set. -/
theorem Mrp.ring_setRingRoleByNumber {env : Env} {a : AddArgs} {mrp : Mrp}
    (hconf : Configured env a mrp) (hrole : IsRingRole a.ringRole) {I : Ring → Prop}
    (hI : I (Ring.fresh a.pport a.sport (initialRole a.ringRole)
      (initialCount mrp.linkConf a.ringRole)))
    (hlink : ∀ x r, I x → I (x.step mrp.linkConf (.link r true))) :
    I (mrp.setRingRoleByNumber env a.ringRole).1.ring := by
  have hin : mrp.inRole = .disabled := congrArg Inter.role hconf.inter
  rcases hrole with h | h | h
  · rw [h] at hI ⊢
    exact Mrp.ring_setMrcRole hconf.ring hin hlink hI
  · rw [h] at hI ⊢
    exact Mrp.ring_setMrmRole hconf.ring hin hlink hI
  · rw [h] at hI ⊢
    exact Mrp.ring_setMraRole hconf.ring hin hlink hI

/-! ## Setting the interconnection role -/

namespace Registry

variable (reg : Registry) (mrp : Mrp) (env : Env)

/-- Announcing a link of the interconnection port touches no ring. -/
theorem announceInLink_op : Mrp.InOp mrp (reg.announceInLink mrp env).2 := by
  unfold announceInLink
  split
  · split
    · exact mrp.portLinkChange_inter_op true
    · split
      · exact .refl mrp
      · exact mrp.cfmLinkChange_op false
  · exact .refl mrp

/-- Storing an interconnection role. -/
theorem setInRole_op (role : InRole) :
    Mrp.InOp mrp ({ mrp with mimState := .acStat1, micState := .acStat1 }.setInRole role) := by
  apply Mrp.InOp.intro <;> intros <;> simp [*, Mrp.setInRole, Mrp.call]

/-- Setting an interconnection role touches no ring. -/
theorem takeInRole_op (role : InRole) : Mrp.InOp mrp (reg.takeInRole mrp env role).2.1 := by
  simp only [takeInRole]
  split
  · exact .refl mrp
  · split
    · exact setInRole_op mrp role
    · refine (setInRole_op mrp role).trans (Mrp.InOp.trans ?_ (announceInLink_op _ _ _))
      apply Mrp.InOp.intro <;> intros <;> simp [*]

/-- The interconnection part of `mrp_add` touches no ring. -/
theorem setInRoleByNumber_op (x : Mrp × Int) (inRole : UInt32) :
    Mrp.InOp x.1 (reg.setInRoleByNumber x env inRole).2.1 := by
  unfold setInRoleByNumber
  split
  · exact takeInRole_op _ _ _ _
  · split
    · exact takeInRole_op _ _ _ _
    · exact .refl _

/-- What link events keep is kept when a link is announced. -/
theorem inter_announceInLink {I : Inter → Prop} (hI : I mrp.inter)
    (hlink : ∀ x, I x → I (x.step mrp.interConf (.link true))) :
    I (reg.announceInLink mrp env).2.inter := by
  unfold announceInLink
  split
  · split
    next hmode =>
      have hev : mrp.inLinkEvent true = .link true := by
        rw [Mrp.inLinkEvent, hmode]
        rfl
      rw [Mrp.inter_portLinkChange, hev]
      exact hlink _ hI
    next =>
      split
      · exact hI
      · rw [Mrp.inter_cfmLinkChange]
        simp only [Mrp.interEvent]
        split
        · exact hlink _ hI
        · exact hI
  · exact hI

/-- Blocking the port of a configured interconnection machine makes it fresh. -/
theorem inter_block {iport : UInt32} (role : InRole)
    (hinter : mrp.inter = { Inter.fresh .disabled with
      port := if iport > 0 then some ⟨.disabled, none⟩ else none })
    (hport : mrp.iPort.isNone = false) :
    (({ mrp with mimState := .acStat1, micState := .acStat1 }.setInRole role).portSetState
      .inter .blocked).inter = Inter.fresh role := by
  have hrest : ({ mrp with mimState := .acStat1, micState := .acStat1 }.setInRole role).inter =
      { mrp.inter with role := role, mim := .acStat1, mic := .acStat1 } := rfl
  have hpos : iport > 0 := by
    by_contra hneg
    have h := congrArg Inter.port hinter
    simp only [if_neg hneg, Mrp.inter_port, Option.map_eq_none_iff] at h
    rw [h] at hport
    cases hport
  rw [Mrp.inter_portSetState, hrest, hinter]
  simp only [if_pos hpos]
  rfl

/-- What holds of the fresh interconnection machine and is kept by link events
holds after the role was set without an error. -/
theorem inter_takeInRole {iport : UInt32} {role : InRole} {I : Inter → Prop}
    (hinter : mrp.inter = { Inter.fresh .disabled with
      port := if iport > 0 then some ⟨.disabled, none⟩ else none })
    (hok : (reg.takeInRole mrp env role).2.2 = 0)
    (hI : I (Inter.fresh role)) (hlink : ∀ x, I x → I (x.step mrp.interConf (.link true))) :
    I (reg.takeInRole mrp env role).2.1.inter := by
  simp only [takeInRole] at hok ⊢
  split at hok
  · cases hok
  next hport =>
    rw [if_neg hport]
    rw [Bool.not_eq_true] at hport
    split at hok
    next herr => exact absurd hok herr
    next herr =>
      rw [if_neg herr]
      refine inter_announceInLink _ _ _ ?_ ?_
      · rw [inter_block mrp role hinter hport]
        exact hI
      · rw [Mrp.portSetState_inter_toMrpConf]
        exact hlink

end Registry

/-! ## Created instances -/

/-- Setting the ring role of the configured instance. -/
theorem Mrp.configure_ringRole_op (env : Env) (a : AddArgs) :
    RingOp NoNack ((configure env a).supported a)
      ((configure env a).setRingRoleByNumber env a.ringRole).1 :=
  (configure env a).setRingRoleByNumber_op env a (configure_configured env a).mraSupport
    (configure_inRole env a)

/-- What a successful `mrp_add` appends to the list. -/
theorem Registry.last_of_mrpAdd {env : Env} {a : AddArgs} {reg reg' : Registry} {mrp : Mrp}
    (h : mrpAdd env reg a = (reg' ++ [mrp], 0)) :
    (reg.setInRoleByNumber ((Mrp.configure env a).setRingRoleByNumber env a.ringRole) env
      a.inRole).2.1 = mrp ∧
    (reg.setInRoleByNumber ((Mrp.configure env a).setRingRoleByNumber env a.ringRole) env
      a.inRole).2.2 = 0 := by
  simp only [mrpAdd] at h
  split at h
  · cases h
  · split at h
    · cases h
    · split at h
      next herr => exact absurd (Prod.mk.inj h).2 herr
      next herr =>
        have hlist := (Prod.mk.inj h).1
        exact ⟨List.singleton_inj.mp (List.append_inj' hlist rfl).2, not_not.mp herr⟩

namespace Created

variable {env : Env} {a : AddArgs} {mrp : Mrp}

/-- A created instance is what setting the two roles has made of the configured one. -/
theorem exists_registry (h : Created env a mrp) :
    ∃ reg : Registry, ∃ x : Registry × Mrp × Int,
      x = reg.setInRoleByNumber ((Mrp.configure env a).setRingRoleByNumber env a.ringRole) env
        a.inRole ∧ x.2.1 = mrp ∧ x.2.2 = 0 := by
  rcases h with ⟨reg, reg', h⟩
  exact ⟨reg, _, rfl, Registry.last_of_mrpAdd h⟩

/-- Settings, address and logs of a created instance. -/
theorem op (h : Created env a mrp) :
    Mrp.Op Mrp.NoNack ((Mrp.configure env a).supported a) mrp := by
  rcases h.exists_registry with ⟨reg, x, rfl, rfl, -⟩
  exact (Mrp.configure_ringRole_op env a).toOp.trans (reg.setInRoleByNumber_op env _ a.inRole).toOp

/-- Only an auto-manager supports it. -/
theorem mraSupport (h : Created env a mrp) :
    mrp.mraSupport = decide (a.ringRole = ringRoleMra) := by
  rw [h.op.toMrpConf]
  rfl

theorem inMode (h : Created env a mrp) : mrp.inMode = .ofUInt32 a.inMode := by
  rw [h.op.toMrpConf]
  exact (configure_configured env a).inMode

/-- Nothing was relayed yet. -/
theorem relayed (h : Created env a mrp) : mrp.relayed = [] := by
  rw [h.op.relayed]
  exact (configure_configured env a).relayed

/-- What was sent already is the instance's own, and no NACK. -/
theorem sent_own (h : Created env a mrp) {x : Sent} (hx : x ∈ mrp.sent) :
    x.prio = mrp.prio ∧ x.sa = mrp.macaddr ∧ ∀ otherSa, x.frame ≠ .testMgrNack otherSa := by
  rcases h.op.sent x hx with hx | ⟨hprio, hsa, hframe⟩
  · have hnil : ((Mrp.configure env a).supported a).sent = [] :=
      (configure_configured env a).sent
    rw [hnil] at hx
    cases hx
  · rw [h.op.toMrpConf, h.op.macaddr]
    exact ⟨hprio, hsa, hframe⟩

/-- With the default time factor both link announcements have an interval. -/
theorem intervals (h : Created env a mrp) (htf : env.timeFactor = 1) :
    mrp.linkConf.runs = true ∧ mrp.interConf.runs = true := by
  have hconf := configure_configured env a
  rw [h.op.toMrpConf]
  exact ⟨bne_iff_ne.mpr (hconf.ringLinkInterval htf), bne_iff_ne.mpr (hconf.inLinkInterval htf)⟩

/-- What holds of the fresh ring machine and is kept by link events holds of a
created instance. -/
theorem ring_of_fresh (h : Created env a mrp) (hrole : IsRingRole a.ringRole) {I : Ring → Prop}
    (hI : I (Ring.fresh a.pport a.sport (initialRole a.ringRole)
      (initialCount mrp.linkConf a.ringRole)))
    (hlink : ∀ x r, I x → I (x.step mrp.linkConf (.link r true))) : I mrp.ring := by
  have hc : mrp.linkConf = (Mrp.configure env a).linkConf := by
    rw [h.op.toMrpConf]
    rfl
  rw [hc] at hI hlink
  rcases h.exists_registry with ⟨reg, x, rfl, rfl, -⟩
  rw [Mrp.ring_congr (reg.setInRoleByNumber_op env _ a.inRole).toRingPart]
  exact Mrp.ring_setRingRoleByNumber (configure_configured env a) hrole hI hlink

/-- What holds of the fresh interconnection machine and is kept by link events
holds of a created instance. -/
theorem inter_of_fresh (h : Created env a mrp) {role : InRole}
    (hrole : a.inRole = inRoleMim ∧ role = .mim ∨ a.inRole = inRoleMic ∧ role = .mic)
    {I : Inter → Prop} (hI : I (Inter.fresh role))
    (hlink : ∀ x, I x → I (x.step mrp.interConf (.link true))) : I mrp.inter := by
  have hc : mrp.interConf = (Mrp.configure env a).interConf := by
    rw [h.op.toMrpConf]
    rfl
  rw [hc] at hlink
  rcases h.exists_registry with ⟨reg, x, rfl, rfl, hok⟩
  have hconf := configure_configured env a
  have hop := Mrp.configure_ringRole_op env a
  have hinter : ((Mrp.configure env a).setRingRoleByNumber env a.ringRole).1.inter =
      { Inter.fresh .disabled with
        port := if a.iport > 0 then some ⟨.disabled, none⟩ else none } := by
    rw [Mrp.inter_congr hop.toInPart]
    exact hconf.inter
  have hlink' : ∀ x, I x → I (x.step
      ((Mrp.configure env a).setRingRoleByNumber env a.ringRole).1.interConf (.link true)) := by
    rw [hop.toMrpConf]
    exact hlink
  simp only [Registry.setInRoleByNumber] at hok ⊢
  rcases hrole with ⟨ha, rfl⟩ | ⟨ha, rfl⟩
  · rw [ha] at hok ⊢
    exact Registry.inter_takeInRole _ _ _ hinter hok hI hlink'
  · rw [ha] at hok ⊢
    exact Registry.inter_takeInRole _ _ _ hinter hok hI hlink'

section Linkless

variable {J : Mrp → Prop} {c : MrpConf}
  (hlink : ∀ {x : Mrp} (r : RingPort), J x → J (x.portLinkChange (.ring r) true))
  (hfresh : ∀ x : Mrp, x.toMrpConf = c → x.ringRole = .mrm → x.mrmState = .acStat1 →
    x.ringTestWork.active = false → J x)

include hlink in
theorem announceRingLink_of_link {x : Mrp} (r : RingPort) (hx : J x) :
    J (x.announceRingLink env r) := by
  unfold Mrp.announceRingLink
  split
  · exact hlink r hx
  · exact hx

include hlink hfresh in
/-- What holds of a manager without a link and is kept by link events holds after
the role was taken. -/
theorem takeRingRole_of_linkless {x : Mrp} (hx : x.toMrpConf = c) (hstate : x.mrmState = .acStat1)
    (htimer : x.ringTestWork.active = false) : J (x.takeRingRole env .mrm).1 := by
  have hblocked : J (((x.portSetState (.ring x.pPort) .blocked).portSetState
      (.ring x.sPort) .blocked).setRingRole .mrm) :=
    hfresh _ hx rfl hstate htimer
  simp only [Mrp.takeRingRole]
  split
  · exact hblocked
  · exact announceRingLink_of_link hlink _ (announceRingLink_of_link hlink _ hblocked)

include hlink hfresh in
/-- The same for the two functions that make an instance a manager. -/
theorem setManagerRole_of_linkless {x : Mrp} (hin : x.inRole = .disabled)
    (hrole : a.ringRole = ringRoleMrm ∨ a.ringRole = ringRoleMra) (hmra : x.mraSupport = false)
    (hx : (x.supported a).toMrpConf = c) : J (x.setRingRoleByNumber env a.ringRole).1 := by
  have hreset : ∀ y : Mrp, y.resetRingState.ringTestWork.active = false := by
    intro y
    unfold Mrp.resetRingState Mrp.timerStop
    dsimp only
    repeat' split
    all_goals rfl
  rcases hrole with hrole | hrole
  · have hne : ringRoleMrm ≠ ringRoleMra := by decide
    have hsup : x.supported a = x := by
      simp only [Mrp.supported, hrole, hne, decide_false, ← hmra]
    rw [hsup] at hx
    rw [Mrp.setRingRoleByNumber, if_pos hrole, Mrp.setMrmRole]
    refine takeRingRole_of_linkless hlink hfresh ?_ rfl (hreset x)
    rw [Mrp.setMrmState_toMrpConf, Mrp.setMrmInit_toMrpConf, (x.resetRingState_op hin).toMrpConf, hx]
  · have hnot : ringRoleMra ≠ ringRoleMrm ∧ ringRoleMra ≠ ringRoleMrc := by decide
    have hsup : x.supported a = { x with mraSupport := true } := by
      simp only [Mrp.supported, hrole, decide_true]
    rw [hsup] at hx
    rw [Mrp.setRingRoleByNumber, hrole, if_neg hnot.1, if_neg hnot.2, if_pos rfl, Mrp.setMraRole]
    refine takeRingRole_of_linkless hlink hfresh ?_ rfl (hreset { x with mraSupport := true })
    rw [Mrp.setMrmState_toMrpConf, Mrp.setMrcInit_toMrpConf, Mrp.setMrmInit_toMrpConf,
      (Mrp.resetRingState_op { x with mraSupport := true } hin).toMrpConf, hx]

end Linkless

/-- What is about settings and ring side, holds of a manager without a link and is
kept by link events holds of every created manager. -/
theorem manager_of_linkless (h : Created env a mrp)
    (hrole : a.ringRole = ringRoleMrm ∨ a.ringRole = ringRoleMra) {J : Mrp → Prop}
    (hcongr : ∀ {x y : Mrp}, y.toMrpConf = x.toMrpConf → y.toRingPart = x.toRingPart → J x → J y)
    (hlink : ∀ {x : Mrp} (r : RingPort), J x → J (x.portLinkChange (.ring r) true))
    (hfresh : ∀ x : Mrp, x.toMrpConf = ((Mrp.configure env a).supported a).toMrpConf →
      x.ringRole = .mrm → x.mrmState = .acStat1 → x.ringTestWork.active = false → J x) :
    J mrp := by
  rcases h.exists_registry with ⟨reg, x, rfl, rfl, -⟩
  have hconf := configure_configured env a
  have hop := reg.setInRoleByNumber_op env
    ((Mrp.configure env a).setRingRoleByNumber env a.ringRole) a.inRole
  have hset : J ((Mrp.configure env a).setRingRoleByNumber env a.ringRole).1 :=
    setManagerRole_of_linkless hlink hfresh (configure_inRole env a) hrole hconf.mraSupport rfl
  exact hcongr hop.toMrpConf hop.toRingPart hset

end Created

/-! ## Invariants of the construction -/

/-- A predicate that every step of `mrp_add` keeps from the first role on. -/
structure KeptByRoles (I : Mrp → Prop) : Prop where
  mraSupport : ∀ m : Mrp, I m → I { m with mraSupport := true }
  resetRingState : ∀ m : Mrp, I m → I m.resetRingState
  setMrmInit : ∀ m : Mrp, I m → I m.setMrmInit
  setMrcInit : ∀ m : Mrp, I m → I m.setMrcInit
  setMrmState : ∀ m : Mrp, I m → I (m.setMrmState .acStat1)
  setMrcState : ∀ m : Mrp, I m → I (m.setMrcState .acStat1)
  portSetState : ∀ (m : Mrp) p state, I m → I (m.portSetState p state)
  setRingRole : ∀ (m : Mrp) role, I m → I (m.setRingRole role)
  setInRole : ∀ (m : Mrp) role, I m →
    I ({ m with mimState := .acStat1, micState := .acStat1 }.setInRole role)
  portLinkChange : ∀ (m : Mrp) p, I m → I (m.portLinkChange p true)
  cfmLinkChange : ∀ m : Mrp, I m → I (m.cfmLinkChange false)

namespace KeptByRoles

variable {I : Mrp → Prop} (hI : KeptByRoles I) {env : Env} {mrp : Mrp}

include hI

/-- The common end of the functions that set a ring role. -/
theorem takeRingRole (h : I mrp) (role : RingRole) : I (mrp.takeRingRole env role).1 := by
  have hlink : ∀ {m : Mrp} r, I m → I (m.announceRingLink env r) := by
    intro m r hm
    unfold Mrp.announceRingLink
    split
    · exact hI.portLinkChange m _ hm
    · exact hm
  have hset : I (((mrp.portSetState (.ring mrp.pPort) .blocked).portSetState
      (.ring mrp.sPort) .blocked).setRingRole role) :=
    hI.setRingRole _ _ (hI.portSetState _ _ _ (hI.portSetState _ _ _ h))
  simp only [Mrp.takeRingRole]
  split
  · exact hset
  · exact hlink _ (hlink _ hset)

/-- Setting the ring role. -/
theorem setRingRoleByNumber (h : I mrp) (ringRole : UInt32) :
    I (mrp.setRingRoleByNumber env ringRole).1 := by
  unfold Mrp.setRingRoleByNumber
  repeat' split
  · exact hI.takeRingRole (hI.setMrmState _ (hI.setMrmInit _ (hI.resetRingState _ h))) _
  · exact hI.takeRingRole (hI.setMrcState _ (hI.setMrcInit _ (hI.resetRingState _ h))) _
  · exact hI.takeRingRole (hI.setMrmState _ (hI.setMrcInit _ (hI.setMrmInit _
      (hI.resetRingState _ (hI.mraSupport _ h))))) _
  · exact h

/-- Setting the interconnection role. -/
theorem takeInRole (h : I mrp) (reg : Registry) (role : InRole) :
    I (reg.takeInRole mrp env role).2.1 := by
  have hlink : ∀ {m : Mrp}, I m → I (reg.announceInLink m env).2 := by
    intro m hm
    unfold Registry.announceInLink
    repeat' split
    · exact hI.portLinkChange m .inter hm
    · exact hm
    · exact hI.cfmLinkChange m hm
    · exact hm
  simp only [Registry.takeInRole]
  repeat' split
  · exact h
  · exact hI.setInRole _ _ h
  · exact hlink (hI.portSetState _ _ _ (hI.setInRole _ _ h))

/-- What holds of the configured instance and is kept from there on holds of the
created one. -/
theorem created {a : AddArgs} (hconf : I (Mrp.configure env a)) (h : Created env a mrp) : I mrp := by
  rcases h.exists_registry with ⟨reg, x, rfl, rfl, -⟩
  have hring : I ((Mrp.configure env a).setRingRoleByNumber env a.ringRole).1 :=
    hI.setRingRoleByNumber hconf a.ringRole
  unfold Registry.setInRoleByNumber Registry.setMimRole Registry.setMicRole
  repeat' split
  · exact hI.takeInRole hring reg _
  · exact hI.takeInRole hring reg _
  · exact hring

end KeptByRoles

/-- The instance that `mrp_add` builds while the list is empty, and its error code. -/
def firstInstance (env : Env) (a : AddArgs) : Mrp × Int :=
  (Registry.setInRoleByNumber [] ((Mrp.configure env a).setRingRoleByNumber env a.ringRole) env
    a.inRole).2

/-- While the list is empty, `mrp_add` succeeds unless memory runs out or a role
cannot be set. -/
theorem mrpAdd_firstInstance {env : Env} {a : AddArgs} (hmalloc : Registry.allocated env a = true)
    (hok : (firstInstance env a).2 = 0) :
    Registry.mrpAdd env [] a =
      ((Registry.setInRoleByNumber [] ((Mrp.configure env a).setRingRoleByNumber env a.ringRole)
        env a.inRole).1 ++ [(firstInstance env a).1], 0) := by
  unfold firstInstance at hok
  simp [Registry.mrpAdd, Registry.mrpFind, hmalloc, hok, firstInstance]

theorem created_firstInstance {env : Env} {a : AddArgs} (hmalloc : Registry.allocated env a = true)
    (hok : (firstInstance env a).2 = 0) : Created env a (firstInstance env a).1 :=
  ⟨[], _, mrpAdd_firstInstance hmalloc hok⟩

/-! ## A sample network

Concrete arguments and frames for the runs that the later files exhibit.
-/

namespace Sample

/-- The address of bridge or interface `i`. -/
def mac (i : UInt8) : Mac := ⟨2, 0, 0, 0, 0, i⟩

/-- Surroundings in which every call succeeds and every link is up. -/
def env : Env where
  timeFactor := 1
  clock := UInt32.ofNat
  ifGetMac := fun ifindex => mac ifindex.toUInt8
  ifGetLink := fun _ => true
  mallocMrp := true
  mallocPort := fun _ => true
  setRingRole := 0
  setInRole := 0

/-- Arguments for bridge 1 with ring ports 2 and 3 and interconnection port 4. -/
def args (ringRole inRole : UInt32) : AddArgs where
  brIfindex := 1
  ringNr := 1
  pport := 2
  sport := 3
  ringRole := ringRole
  prio := 0x8000
  ringRecv := 0
  reactOnLinkChange := 1
  inRole := inRole
  inId := 7
  iport := 4
  inMode := 0
  inRecv := 0
  cfmInstance := 0
  cfmLevel := 0
  cfmMepid := 0
  cfmPeerMepid := 0
  cfmMaid := []
  cfmDmac := mac 0

/-- The instance that `mrp_add` makes of the sample arguments. -/
def mrp (ringRole inRole : UInt32) : Mrp := (firstInstance env (args ringRole inRole)).1

/-- A frame as another bridge with the given address and priority builds it. -/
def frame (sa : Mac) (prio : UInt16) (f : Frame) : RxFrame where
  bytes := Sent.bytes
    { port := .ring .primary, src := sa, prio := prio, sa := sa, inId := 7, blocked := 1,
      seq := 1, view := ⟨.primary, .secondary, .forwarding, .blocked, none⟩, frame := f }
  stale := fun _ => 0
  nstale := fun _ => 0

theorem created {ringRole inRole : UInt32}
    (hok : (firstInstance env (args ringRole inRole)).2 = 0) :
    Created env (args ringRole inRole) (mrp ringRole inRole) :=
  created_firstInstance rfl hok

end Sample

/-! ## Invariants of reachable instances -/

open EventMachine

theorem Sample.reachable {ringRole inRole : UInt32}
    (hok : (firstInstance env (args ringRole inRole)).2 = 0) :
    Reachable env (args ringRole inRole) (mrp ringRole inRole) :=
  ⟨_, [], created hok, rfl⟩

/-- What holds before the roles are set and is kept by every step of `mrp_add` from
there on, by every handler and by every callback holds of every reachable instance. -/
theorem Reachable.invariant {env : Env} {a : AddArgs} {mrp : Mrp} (h : Reachable env a mrp)
    {I : Mrp → Prop} (hroles : KeptByRoles I) (hhandlers : Mrp.KeptByHandlers I)
    (hexpired : ∀ (m : Mrp) w, I m → (m.timer w).active = true → I (m.expired w))
    (hconf : I (Mrp.configure env a)) : I mrp := by
  rcases h with ⟨m, es, hm, rfl⟩
  refine run_invariant ?_ (hroles.created hconf hm) es
  exact fun m e hI => hhandlers.step hI e fun w _ hactive => hexpired m w hI hactive

/-- A reachable instance stays reachable. -/
theorem Reachable.goOn {env : Env} {a : AddArgs} {mrp : Mrp} (h : Reachable env a mrp)
    (es : List Event) : Reachable env a (run Mrp.step mrp es) := by
  rcases h with ⟨m, es', hm, rfl⟩
  exact ⟨m, es' ++ es, hm, (run_append m es' es).symm⟩

/-- Settings do not change along a run. -/
theorem run_toMrpConf (mrp : Mrp) (es : List Event) :
    (run Mrp.step mrp es).toMrpConf = mrp.toMrpConf :=
  run_invariant (I := fun m : Mrp => m.toMrpConf = mrp.toMrpConf)
    (fun m e h => (m.step_toMrpConf e).trans h) rfl es

/-- What enabled events of the ring machine keep is kept by every run. -/
theorem ring_run_invariant {mrp : Mrp} {I : Ring → Prop}
    (hstep : ∀ x ev, I x → x.Enabled mrp.mraSupport ev → I (x.step mrp.linkConf ev))
    (hI : I mrp.ring) (es : List Event) : I (run Mrp.step mrp es).ring := by
  refine (run_invariant (I := fun m : Mrp => m.toMrpConf = mrp.toMrpConf ∧ I m.ring) ?_
    ⟨rfl, hI⟩ es).2
  rintro m e ⟨hconf, hm⟩
  refine ⟨(m.step_toMrpConf e).trans hconf, ?_⟩
  have hen := m.ringEvent_enabled e
  rw [m.step_ring e]
  rw [hconf] at hen ⊢
  exact hstep _ _ hm hen

/-- What holds of the fresh ring machine and is kept by its enabled events holds of
every reachable instance. -/
theorem Reachable.ring_invariant {env : Env} {a : AddArgs} {mrp : Mrp}
    (h : Reachable env a mrp) (hrole : IsRingRole a.ringRole) {I : Ring → Prop}
    (hfresh : I (Ring.fresh a.pport a.sport (initialRole a.ringRole)
      (initialCount mrp.linkConf a.ringRole)))
    (hstep : ∀ x ev, I x → x.Enabled (decide (a.ringRole = ringRoleMra)) ev →
      I (x.step mrp.linkConf ev)) : I mrp.ring := by
  rcases h with ⟨m, es, hm, rfl⟩
  rw [run_toMrpConf] at hfresh hstep
  refine ring_run_invariant ?_ (hm.ring_of_fresh hrole hfresh ?_) es
  · rw [hm.mraSupport]
    exact hstep
  · intro x r hx
    exact hstep x _ hx trivial

/-- The settings of a reachable instance are those it was created with. -/
theorem Reachable.toMrpConf {env : Env} {a : AddArgs} {mrp : Mrp} (h : Reachable env a mrp) :
    mrp.toMrpConf = ((Mrp.configure env a).supported a).toMrpConf := by
  rcases h with ⟨mrp₀, es, hcr, rfl⟩
  rw [run_toMrpConf, hcr.op.toMrpConf]

theorem Reachable.blocked {env : Env} {a : AddArgs} {mrp : Mrp} (h : Reachable env a mrp) :
    mrp.blocked ≠ 0 := by
  rw [h.toMrpConf]
  have hblocked := (configure_configured env a).blocked
  simp [Mrp.supported, hblocked]

/-- The mode of the interconnection stays the one that was asked for. -/
theorem Reachable.inMode {env : Env} {a : AddArgs} {mrp : Mrp} (h : Reachable env a mrp) :
    mrp.inMode = .ofUInt32 a.inMode := by
  rcases h with ⟨m, es, hm, rfl⟩
  rw [run_toMrpConf, hm.inMode]

/-- With the default time factor link announcements have an interval, along a run. -/
theorem Reachable.intervals {env : Env} {a : AddArgs} {mrp : Mrp} (h : Reachable env a mrp)
    (htf : env.timeFactor = 1) : mrp.linkConf.runs = true ∧ mrp.interConf.runs = true := by
  rcases h with ⟨m, es, hm, rfl⟩
  rw [run_toMrpConf]
  exact hm.intervals htf

/-- What the interconnection machine keeps is kept by every run. -/
theorem inter_run_invariant {mrp : Mrp} {I : Inter → Prop}
    (hstep : ∀ x ev, I x → x.Enabled ev → I (x.step mrp.interConf ev))
    (hI : I mrp.inter) (es : List Event) : I (run Mrp.step mrp es).inter := by
  refine (run_invariant (I := fun m : Mrp => m.toMrpConf = mrp.toMrpConf ∧ I m.inter) ?_
    ⟨rfl, hI⟩ es).2
  rintro m e ⟨hconf, hm⟩
  refine ⟨(m.step_toMrpConf e).trans hconf, ?_⟩
  have hen := m.interEvent_enabled e
  rw [m.step_inter e]
  rw [hconf]
  exact hstep _ _ hm hen

/-- What holds of the fresh interconnection machine and is kept by its events
holds of every reachable instance. -/
theorem Reachable.inter_invariant {env : Env} {a : AddArgs} {mrp : Mrp}
    (h : Reachable env a mrp) {role : InRole}
    (hrole : a.inRole = inRoleMim ∧ role = .mim ∨ a.inRole = inRoleMic ∧ role = .mic)
    {I : Inter → Prop} (hfresh : I (Inter.fresh role))
    (hstep : ∀ x ev, I x → x.Enabled ev → I (x.step mrp.interConf ev)) : I mrp.inter := by
  rcases h with ⟨m, es, hm, rfl⟩
  rw [run_toMrpConf] at hstep
  refine inter_run_invariant hstep (hm.inter_of_fresh hrole hfresh ?_) es
  intro x hx
  exact hstep x _ hx trivial

end Umrp
