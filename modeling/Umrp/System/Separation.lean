import Umrp.System.Ports

/-!
# Instances side by side

An event that is addressed to one instance reaches it through its key or through one of
its ports, and other instances do not see it.  There is one exception: outside ring
check mode `mrp_add` announces the link of the interconnection port to the first
instance on the bridge that has the same peer.

Main results:

- Theorem `Mrp.cfmLinkChange_up_iff`: when the news that a link is up change an instance.
- Theorem `Registry.built_others`: what adding an instance does to the others.
- Theorem `beside_unchanged_iff`: an event that is addressed beside an instance leaves it
  unchanged exactly if it is not an announcement that it takes for its own.
-/

namespace Umrp

open EventMachine KeyedList

/-! ## News of a link -/

namespace Mrp

/-- The instance without the notes about link events, which are not in the source. -/
def forgetLinks (mrp : Mrp) : Mrp :=
  { mrp with
    ringPort := fun r => { mrp.ringPort r with lastLink := none }
    iPort := mrp.iPort.map fun port => { port with lastLink := none } }

/-- The machine of the role leaves its first state when it hears of a link. -/
def AwaitsLink (mrp : Mrp) : Prop :=
  (mrp.inMode = .rc ∨ mrp.inMode = .lc) ∧
    (mrp.inRole = .mim ∧ mrp.mimState = .acStat1 ∨ mrp.inRole = .mic ∧ mrp.micState = .acStat1)

/-- The news that the link of the interconnection port is up change something. -/
def TakesLinkUp (mrp : Mrp) : Prop :=
  ∃ port, mrp.iPort = some port ∧ (port.operstate ≠ ifOperUp ∨ mrp.AwaitsLink)

section LinkUp

variable {mrp : Mrp}

/-- Only the machine of a role that awaits a link does anything. -/
theorem mimPortLink_of_not_awaits (hrole : mrp.inRole = .mim) (h : ¬mrp.AwaitsLink) :
    mrp.mimPortLink true = mrp := by
  have hstate : mrp.inMode = .rc ∨ mrp.inMode = .lc → mrp.mimState ≠ .acStat1 :=
    fun hmode hbad => h ⟨hmode, .inl ⟨hrole, hbad⟩⟩
  unfold mimPortLink
  cases hmode : mrp.inMode with
  | rc =>
      have hne := hstate (.inl hmode)
      cases hmim : mrp.mimState <;> first | rfl | exact absurd hmim hne
  | lc =>
      have hne := hstate (.inr hmode)
      cases hmim : mrp.mimState <;> first | rfl | exact absurd hmim hne
  | unknown v => rfl

theorem micPortLink_of_not_awaits (hrole : mrp.inRole = .mic) (h : ¬mrp.AwaitsLink) :
    mrp.micPortLink true = mrp := by
  have hstate : mrp.inMode = .rc ∨ mrp.inMode = .lc → mrp.micState ≠ .acStat1 :=
    fun hmode hbad => h ⟨hmode, .inr ⟨hrole, hbad⟩⟩
  unfold micPortLink
  cases hmode : mrp.inMode with
  | rc =>
      have hne := hstate (.inl hmode)
      cases hmic : mrp.micState <;> first | rfl | exact absurd hmic hne
  | lc =>
      have hne := hstate (.inr hmode)
      cases hmic : mrp.micState <;> first | rfl | exact absurd hmic hne
  | unknown v => rfl

/-- A manager that awaits a link takes it for closed. -/
theorem mimPortLink_mimState (hmode : mrp.inMode = .rc ∨ mrp.inMode = .lc)
    (hstate : mrp.mimState = .acStat1) : (mrp.mimPortLink true).mimState = .chkIc := by
  unfold mimPortLink
  rcases hmode with hmode | hmode
  · simp [hmode, hstate, setMimState]
  · simp [hmode, hstate, setMimState]

/-- A client that awaits a link announces it. -/
theorem micPortLink_micState (hmode : mrp.inMode = .rc ∨ mrp.inMode = .lc)
    (hstate : mrp.micState = .acStat1) : (mrp.micPortLink true).micState = .pt := by
  unfold micPortLink
  rcases hmode with hmode | hmode
  · simp [hmode, hstate, setMicState]
  · simp [hmode, hstate, setMicState]

end LinkUp

section Operstate

attribute [local simp] call inTestStart inTestReq sendInTest inTestSend inLinkStatusStart
  inLinkStatusReq sendInLinkStatus inLinkUpStart inLinkDownStop inLinkReq sendInLink setMimState
  setMicState resetInTestCount setInTestCurr setInTestCurrMax setInLinkCurrMax
  setInLinkStatusCurrMax Function.comp_def

variable (mrp : Mrp)

/-- The machines do not touch the operational state. -/
theorem mimPortLink_operstate :
    (mrp.mimPortLink true).iPort.map MrpPort.operstate = mrp.iPort.map MrpPort.operstate := by
  unfold mimPortLink
  cases mrp.inMode <;> cases mrp.mimState <;> simp

theorem micPortLink_operstate :
    (mrp.micPortLink true).iPort.map MrpPort.operstate = mrp.iPort.map MrpPort.operstate := by
  unfold micPortLink
  cases mrp.inMode <;> cases mrp.micState <;> simp

end Operstate

/-- The instance with the news noted. -/
def noteLinkUp (mrp : Mrp) : Mrp := (mrp.setInOperstate ifOperUp).noteInLink true

/-- News that are no news. -/
theorem noteLinkUp_forgetLinks {mrp : Mrp} {port : MrpPort} (hport : mrp.iPort = some port)
    (hup : port.operstate = ifOperUp) : mrp.noteLinkUp.forgetLinks = mrp.forgetLinks := by
  simp [noteLinkUp, setInOperstate, noteInLink, forgetLinks, hport, ← hup]

/-- What an instance with an interconnection port makes of the news. -/
theorem cfmLinkChange_up {mrp : Mrp} {port : MrpPort} (hport : mrp.iPort = some port) :
    mrp.cfmLinkChange false =
      match mrp.inRole with
      | .mim => mrp.noteLinkUp.mimPortLink true
      | .mic => mrp.noteLinkUp.micPortLink true
      | .disabled => mrp.setInOperstate ifOperUp := by
  simp only [cfmLinkChange, hport]
  rfl

/-- Afterwards the link is known to be up. -/
theorem cfmLinkChange_operstate {mrp : Mrp} {port : MrpPort} (hport : mrp.iPort = some port) :
    (mrp.cfmLinkChange false).iPort.map MrpPort.operstate = some ifOperUp := by
  have hnote : mrp.noteLinkUp.iPort.map MrpPort.operstate = some ifOperUp := by
    simp [noteLinkUp, setInOperstate, noteInLink, hport]
  rw [cfmLinkChange_up hport]
  cases mrp.inRole with
  | mim => exact (mimPortLink_operstate _).trans hnote
  | mic => exact (micPortLink_operstate _).trans hnote
  | disabled => simp [setInOperstate, hport]

/-- The machine of a role that awaits a link moves on. -/
theorem cfmLinkChange_of_awaits {mrp : Mrp} {port : MrpPort} (hport : mrp.iPort = some port)
    (h : mrp.AwaitsLink) :
    ((mrp.cfmLinkChange false).mimState, (mrp.cfmLinkChange false).micState) ≠
      (mrp.mimState, mrp.micState) := by
  rw [cfmLinkChange_up hport]
  rcases h with ⟨hmode, ⟨hrole, hstate⟩ | ⟨hrole, hstate⟩⟩
  · have hmoved : (mrp.noteLinkUp.mimPortLink true).mimState = .chkIc :=
      mimPortLink_mimState hmode hstate
    simp [hrole, hmoved, hstate]
  · have hmoved : (mrp.noteLinkUp.micPortLink true).micState = .pt :=
      micPortLink_micState hmode hstate
    simp [hrole, hmoved, hstate]

/-- The machine of a role that does not await a link stays. -/
theorem cfmLinkChange_of_not_awaits {mrp : Mrp} {port : MrpPort} (hport : mrp.iPort = some port)
    (hup : port.operstate = ifOperUp) (h : ¬mrp.AwaitsLink) :
    (mrp.cfmLinkChange false).forgetLinks = mrp.forgetLinks := by
  have hnote := noteLinkUp_forgetLinks hport hup
  have hsame : ¬mrp.noteLinkUp.AwaitsLink := h
  rw [cfmLinkChange_up hport]
  cases hrole : mrp.inRole with
  | mim =>
      have hmim : mrp.noteLinkUp.inRole = .mim := hrole
      simpa only [mimPortLink_of_not_awaits hmim hsame] using hnote
  | mic =>
      have hmic : mrp.noteLinkUp.inRole = .mic := hrole
      simpa only [micPortLink_of_not_awaits hmic hsame] using hnote
  | disabled => simp [setInOperstate, forgetLinks, hport, ← hup]

/-- The news that a link is up change an instance exactly if it did not know it or awaits
it. -/
theorem cfmLinkChange_up_iff (mrp : Mrp) :
    (mrp.cfmLinkChange false).forgetLinks = mrp.forgetLinks ↔ ¬mrp.TakesLinkUp := by
  constructor
  · rintro hsame ⟨port, hport, hop | hawaits⟩
    · have hoper := congrArg (fun m : Mrp => m.iPort.map MrpPort.operstate) hsame
      simp only [forgetLinks, Option.map_map, Function.comp_def] at hoper
      rw [cfmLinkChange_operstate hport, hport] at hoper
      exact hop (Option.some.inj hoper).symm
    · have hstates := congrArg (fun m : Mrp => (m.mimState, m.micState)) hsame
      exact cfmLinkChange_of_awaits hport hawaits hstates
  · intro hnot
    cases hport : mrp.iPort with
    | none => rw [show mrp.cfmLinkChange false = mrp by simp only [cfmLinkChange, hport]]
    | some port =>
        have hup : port.operstate = ifOperUp := by
          by_contra hop
          exact hnot ⟨port, hport, .inl hop⟩
        exact cfmLinkChange_of_not_awaits hport hup fun hawaits => hnot ⟨port, hport, .inr hawaits⟩

end Mrp

/-! ## Adding an instance beside others -/

/-- Outside ring check mode the peer is the one that was asked for. -/
theorem Mrp.withRing_cfmPeerMepid (env : Env) (a : AddArgs) (hmode : InMode.ofUInt32 a.inMode ≠ .rc) :
    (Mrp.withRing env a).1.cfmPeerMepid = a.cfmPeerMepid := by
  have hinit : ((Mrp.applySettings env a).initPorts env a).inMode ≠ .rc := by
    rw [(initPorts_keeps _ env a).1]
    exact hmode
  rw [(Mrp.withRing_op env a).toMrpConf]
  change (Mrp.configure env a).cfmPeerMepid = a.cfmPeerMepid
  simp only [Mrp.configure]
  rw [if_pos hinit, Mrp.startCfm]
  split <;> rfl

namespace Registry

/-- The source's `mrp_get_mrp`. -/
def mrpGetMrp (reg : Registry) (ifindex peerMepid : UInt32) : Option Mrp :=
  reg.find? fun mrp => isMrp mrp ifindex peerMepid

variable (reg : Registry)

/-- The announcement goes to another instance if there is one that fits. -/
theorem announceInLink_others (mrp : Mrp) (env : Env) :
    (reg.announceInLink mrp env).1 =
      if mrp.inMode ≠ .rc ∧ env.ifGetLink .inter = true then
        reg.cfmLinkChange mrp.ifindex mrp.cfmPeerMepid false
      else reg := by
  unfold announceInLink
  by_cases hlink : env.ifGetLink .inter = true
  · by_cases hmode : mrp.inMode = .rc
    · simp [hlink, hmode]
    · have hboth : mrp.inMode ≠ .rc ∧ env.ifGetLink .inter = true := ⟨hmode, hlink⟩
      rw [if_pos hlink, if_neg hmode, if_pos hboth]
      split
      · rfl
      next hany =>
        simp only [List.any_eq_true, not_exists, not_and, Bool.not_eq_true] at hany
        rw [cfmLinkChange_eq, modifyFirst_of_forall_not hany]
  · simp [hlink]

/-- What a successful `mrp_add` does to the instances that were there before. -/
theorem built_others {env : Env} {a : AddArgs} (hok : (reg.built env a).2.2 = 0) :
    (reg.built env a).1 =
      if IsInRole a.inRole ∧ InMode.ofUInt32 a.inMode ≠ .rc ∧ env.ifGetLink .inter = true then
        reg.cfmLinkChange a.brIfindex a.cfmPeerMepid false
      else reg := by
  have hindex : (Mrp.withRing env a).1.ifindex = a.brIfindex :=
    congrArg Prod.fst (Mrp.withRing_key env a)
  have htake : IsInRole a.inRole → ∀ role, (reg.takeInRole (Mrp.withRing env a).1 env role).1 =
      if InMode.ofUInt32 a.inMode ≠ .rc ∧ env.ifGetLink .inter = true then
        reg.cfmLinkChange a.brIfindex a.cfmPeerMepid false
      else reg := by
    intro hrole role
    rw [built_ok_iff, if_pos hrole] at hok
    have htaken : ((({ (Mrp.withRing env a).1 with mimState := .acStat1, micState := .acStat1
        }.setInRole role).portSetState .inter .blocked)).toMrpConf =
          (Mrp.withRing env a).1.toMrpConf := by
      rw [Mrp.portSetState_inter_toMrpConf]
      rfl
    simp only [takeInRole, Mrp.withRing_iPort, decide_eq_true_eq]
    rw [if_neg hok.1, if_neg (not_not.mpr hok.2), announceInLink_others, htaken,
      Mrp.withRing_inMode, hindex]
    split
    next hannounce => rw [Mrp.withRing_cfmPeerMepid env a hannounce.1]
    next => rfl
  by_cases hrole : IsInRole a.inRole
  · simp only [hrole, true_and]
    rcases reg.exists_built_eq env hrole with ⟨role, hbuilt⟩
    rw [hbuilt]
    exact htake hrole role
  · rw [if_neg fun hbad => hrole hbad.1, reg.built_eq_withRing env hrole]

end Registry

/-! ## Events beside an instance -/

namespace Table

/-- The table has the instance with this key, in the state given. -/
def Holds (t : Table) (mrp : Mrp) : Prop :=
  (t.instances.mrpFind mrp.ifindex mrp.ringNr).map Mrp.forgetLinks = some mrp.forgetLinks

/-- The interface is a port of an instance other than `mrp`, and the two have no
interface in common. -/
def BesidePort (t : Table) (mrp : Mrp) (ifindex : UInt32) : Prop :=
  ∃ other ∈ t.instances, other.key ≠ mrp.key ∧ other.portIndexes.Disjoint mrp.portIndexes ∧
    ifindex ∈ other.portIndexes

/-- The event is addressed to an instance other than `mrp`.  A link message is about one
of the ports of that instance; news of CFM in it are addressed to a bridge. -/
def Beside (t : Table) (mrp : Mrp) : SystemEvent → Prop
  | .add _ a => a.key ≠ mrp.key ∧ a.portIndexes.Disjoint mrp.portIndexes
  | .del brIfindex ringNr => (brIfindex, ringNr) ≠ mrp.key
  | .destroy brIfindex ringNr => (brIfindex, ringNr) ≠ mrp.key
  | .uninit => False
  | .recv ifindex _ => t.BesidePort mrp ifindex
  | .netlink msg => t.BesidePort mrp msg.ifindex ∧ (msg.cfm = [] ∨ msg.ifindex ≠ mrp.ifindex)
  | .expired brIfindex ringNr _ => (brIfindex, ringNr) ≠ mrp.key

/-- The event is an `mrp_add` outside ring check mode that announces the link of its
interconnection port to `mrp`, which takes it for news of its own link. -/
def CatchesLink (t : Table) (mrp : Mrp) : SystemEvent → Prop
  | .add env a =>
      AddOk t.keys env a ∧ IsInRole a.inRole ∧ InMode.ofUInt32 a.inMode ≠ .rc ∧
        env.ifGetLink .inter = true ∧
        t.instances.mrpGetMrp a.brIfindex a.cfmPeerMepid = some mrp ∧ mrp.TakesLinkUp
  | _ => False

theorem holds_iff {t : Table} {mrp : Mrp} :
    t.Holds mrp ↔
      (t.instances.find? fun x => x.key = mrp.key).map Mrp.forgetLinks = some mrp.forgetLinks := by
  rw [Holds, Registry.mrpFind_eq]
  rfl

/-- The lookup decides. -/
theorem holds_of_find {t t' : Table} {mrp : Mrp} (hnodup : t.keys.Nodup)
    (hmem : mrp ∈ t.instances)
    (h : (t'.instances.find? fun x => x.key = mrp.key) = t.instances.find? fun x => x.key = mrp.key) :
    t'.Holds mrp := by
  rw [holds_iff, h, (find?_eq_some_iff hnodup).mpr ⟨hmem, rfl⟩]
  rfl

end Table

namespace Registry

/-- No instance with the key has a port at the interface. -/
def Avoids (reg : Registry) (ifindex : UInt32) (k : UInt32 × UInt32) : Prop :=
  ∀ x ∈ reg, ifindex ∈ x.portIndexes → x.key ≠ k

/-- This is about keys and interfaces only. -/
theorem Avoids.congr {reg reg' : Registry} {ifindex : UInt32} {k : UInt32 × UInt32}
    (h : reg.Avoids ifindex k)
    (hmap : (reg'.map fun m => (m.key, m.portIndexes)) = reg.map fun m => (m.key, m.portIndexes)) :
    reg'.Avoids ifindex k := by
  intro x hx hport
  have hpair : (x.key, x.portIndexes) ∈ reg.map fun m => (m.key, m.portIndexes) := by
    rw [← hmap]
    exact List.mem_map_of_mem hx
  rcases List.mem_map.mp hpair with ⟨y, hy, heq⟩
  rcases Prod.mk.inj heq with ⟨hkey, hindex⟩
  rw [← hkey]
  exact h y hy (hindex ▸ hport)

/-- An event on a port does not show at the keys of instances without that port. -/
theorem Avoids.find?_onPort {reg : Registry} {ifindex : UInt32} {k : UInt32 × UInt32}
    (h : reg.Avoids ifindex k) (e : Port → Event) :
    ((reg.onPort ifindex fun mrp p => mrp.step (e p)).find? fun x => x.key = k) =
      reg.find? fun x => x.key = k := by
  apply find?_modifyFirst_of_ne
  intro x hx hsome
  rcases Option.isSome_iff_exists.mp hsome with ⟨p, hp⟩
  have hindex : ifindex ∈ x.portIndexes := Mrp.mem_portIndexes.mpr ⟨p, Mrp.portIndex_of_findPort hp⟩
  refine ⟨?_, h x hx hindex⟩
  rw [hp]
  exact x.step_key _

/-- News of CFM for one bridge do not show at the instances of another. -/
theorem find?_listenCfm (reg : Registry) (msg : LinkMsg) {k : UInt32 × UInt32}
    (h : msg.cfm = [] ∨ msg.ifindex ≠ k.1) :
    ((reg.listenCfm msg).find? fun x => x.key = k) = reg.find? fun x => x.key = k := by
  rcases h with hnil | hne
  · rw [listenCfm, hnil]
    rfl
  · unfold listenCfm
    induction msg.cfm generalizing reg with
    | nil => rfl
    | cons x cfm ih =>
        rw [List.foldl_cons, ih, cfmLinkChange_eq]
        apply find?_modifyFirst_of_ne
        intro mrp _ hmrp
        simp only [isMrp, Bool.and_eq_true, decide_eq_true_eq] at hmrp
        refine ⟨mrp.step_key _, fun hkey => hne ?_⟩
        rw [← hkey, ← hmrp.1]
        rfl

end Registry

namespace Table

variable {t : Table} {mrp : Mrp}

/-- An interface beside an instance is not one of its own. -/
theorem BesidePort.avoids {ifindex : UInt32} (hnodup : t.keys.Nodup) (hmem : mrp ∈ t.instances)
    (h : t.BesidePort mrp ifindex) : t.instances.Avoids ifindex mrp.key := by
  rcases h with ⟨other, -, -, hdisjoint, hother⟩
  intro x hx hport hkey
  have hfind := (find?_eq_some_iff hnodup).mpr ⟨hx, hkey⟩
  rw [(find?_eq_some_iff hnodup).mpr ⟨hmem, rfl⟩] at hfind
  rw [← Option.some.inj hfind] at hport
  exact hdisjoint hother hport

/-- There is an instance with that port, and the first one is not `mrp`. -/
theorem BesidePort.mrpGetPort {ifindex : UInt32} (ht : t.Reachable) (hmem : mrp ∈ t.instances)
    (h : t.BesidePort mrp ifindex) :
    ∃ found p, t.instances.mrpGetPort ifindex = some (found, p) ∧ found.key ≠ mrp.key := by
  have havoids := h.avoids ht.keys_nodup hmem
  rcases h with ⟨other, hmemOther, -, -, hother⟩
  have hsome : (t.instances.mrpGetPort ifindex).isSome = true := by
    rw [Registry.mrpGetPort, List.findSome?_isSome_iff]
    refine ⟨other, hmemOther, ?_⟩
    rw [Option.isSome_map]
    exact (Mrp.isSome_findPort (ht.ring_distinct other hmemOther)).mpr hother
  rcases Option.isSome_iff_exists.mp hsome with ⟨⟨found, p⟩, hget⟩
  rcases List.exists_of_findSome?_eq_some hget with ⟨x, hx, hport⟩
  rcases Option.map_eq_some_iff.mp hport with ⟨q, hq, heq⟩
  rcases Prod.mk.inj heq with ⟨rfl, rfl⟩
  refine ⟨x, q, hget, havoids x hx ?_⟩
  exact Mrp.mem_portIndexes.mpr ⟨q, Mrp.portIndex_of_findPort hq⟩

/-- Destroying another instance. -/
theorem find?_mrpDestroy (t : Table) {brIfindex ringNr : UInt32} {k : UInt32 × UInt32}
    (h : (brIfindex, ringNr) ≠ k) :
    ((t.mrpDestroy brIfindex ringNr).instances.find? fun x => x.key = k) =
      t.instances.find? fun x => x.key = k := by
  rw [mrpDestroy_instances]
  apply find?_eraseP_of_ne
  intro x _ hx
  rw [Registry.isKey_iff.mp hx]
  exact h

/-- A link message about a port beside the instance. -/
theorem find?_netlinkListen {msg : LinkMsg} (ht : t.Reachable) (hmem : mrp ∈ t.instances)
    (hport : t.BesidePort mrp msg.ifindex) (hcfm : msg.cfm = [] ∨ msg.ifindex ≠ mrp.ifindex) :
    ((t.netlinkListen msg).instances.find? fun x => x.key = mrp.key) =
      t.instances.find? fun x => x.key = mrp.key := by
  have havoids := hport.avoids ht.keys_nodup hmem
  rcases hport.mrpGetPort ht hmem with ⟨found, p, hget, hfound⟩
  have haddress : ((t.instances.listenAddress msg).find? fun x => x.key = mrp.key) =
      t.instances.find? fun x => x.key = mrp.key := by
    unfold Registry.listenAddress
    split
    next mac _ =>
      rw [Registry.mrpMacChange, hget, Option.isSome_some, if_pos rfl]
      exact havoids.find?_onPort fun p => .portMac p mac
    next => rfl
  have hlisten : (((t.instances.listenAddress msg).listenCfm msg).find? fun x => x.key = mrp.key) =
      t.instances.find? fun x => x.key = mrp.key :=
    (Registry.find?_listenCfm _ msg hcfm).trans haddress
  have hoper : ((((t.instances.listenAddress msg).listenCfm msg).listenOperstate msg).find?
      fun x => x.key = mrp.key) = t.instances.find? fun x => x.key = mrp.key := by
    have hmap := (t.instances.evolved_listen msg).map (g := fun m => (m.key, m.portIndexes))
      fun m e => by rw [m.step_key, m.step_portIndexes]
    unfold Registry.listenOperstate
    split
    next state _ =>
      exact ((havoids.congr hmap).find?_onPort fun p => .operstate p state).trans hlisten
    next => exact hlisten
  simp only [netlinkListen, hget]
  split
  · exact hoper
  · exact (find?_mrpDestroy _ hfound).trans hoper

/-- Adding an instance beside another. -/
theorem holds_mrpAdd_iff {env : Env} {a : AddArgs} (hnodup : t.keys.Nodup)
    (hmem : mrp ∈ t.instances) (hkey : a.key ≠ mrp.key) :
    (t.mrpAdd env a).1.Holds mrp ↔ ¬t.CatchesLink mrp (.add env a) := by
  by_cases hok : AddOk t.keys env a
  · have hbuilt : (t.instances.built env a).2.2 = 0 := (t.instances.built_ok_iff env a).mpr hok.2.2
    have hlast : decide ((t.instances.built env a).2.1.key = mrp.key) = false := by
      rw [Registry.built_key]
      simpa using hkey
    have hfind : ((t.mrpAdd env a).1.instances.find? fun x => x.key = mrp.key) =
        (t.instances.built env a).1.find? fun x => x.key = mrp.key := by
      rw [mrpAdd_of_ok hok, List.find?_append, List.find?_singleton, hlast]
      simp
    rw [holds_iff, hfind, t.instances.built_others hbuilt]
    split
    next hannounce =>
      have hfirst := find?_modifyFirst hnodup
        (p := fun x => Registry.isMrp x a.brIfindex a.cfmPeerMepid)
        (f := fun x => x.step (.cfmLinkChange false)) (fun x => x.step_key _) hmem
      rw [Registry.cfmLinkChange_eq]
      by_cases hget : t.instances.mrpGetMrp a.brIfindex a.cfmPeerMepid = some mrp
      · rw [hfirst.1 hget, Option.map_some, Option.some_inj, Mrp.step, mrp.cfmLinkChange_up_iff]
        refine not_congr ⟨fun htakes => ?_, fun hcatches => hcatches.2.2.2.2.2⟩
        exact ⟨hok, hannounce.1, hannounce.2.1, hannounce.2.2, hget, htakes⟩
      · rw [hfirst.2 hget]
        exact iff_of_true rfl fun hbad => hget hbad.2.2.2.2.1
    next hannounce =>
      rw [(find?_eq_some_iff hnodup).mpr ⟨hmem, rfl⟩]
      exact iff_of_true rfl fun hbad => hannounce ⟨hbad.2.1, hbad.2.2.1, hbad.2.2.2.1⟩
  · have hsame := mrpAdd_of_error fun hzero => hok (mrpAdd_ok_iff.mp hzero)
    refine iff_of_true (holds_of_find hnodup hmem ?_) fun hbad => hok hbad.1
    rw [hsame]

end Table

/-- In every reachable table, an event that is addressed to another instance leaves an
instance unchanged exactly if it is not an `mrp_add` whose announcement the instance
takes for news of its own link. -/
theorem beside_unchanged_iff {t : Table} (ht : t.Reachable) {mrp : Mrp} (hmem : mrp ∈ t.instances)
    {e : SystemEvent} (he : t.Beside mrp e) :
    (t.step e).Holds mrp ↔ ¬t.CatchesLink mrp e := by
  have hnodup := ht.keys_nodup
  cases e with
  | add env a => exact Table.holds_mrpAdd_iff hnodup hmem he.1
  | del brIfindex ringNr =>
      rw [Table.step, Table.mrpDel_eq]
      exact iff_of_true (Table.holds_of_find hnodup hmem (t.find?_mrpDestroy he)) id
  | destroy brIfindex ringNr =>
      exact iff_of_true (Table.holds_of_find hnodup hmem (t.find?_mrpDestroy he)) id
  | uninit => exact he.elim
  | recv ifindex rx =>
      refine iff_of_true (Table.holds_of_find hnodup hmem ?_) id
      exact (Table.BesidePort.avoids hnodup hmem he).find?_onPort fun p => .recv p rx
  | netlink msg =>
      refine iff_of_true (Table.holds_of_find hnodup hmem ?_) id
      exact Table.find?_netlinkListen ht hmem he.1 he.2
  | expired brIfindex ringNr w =>
      refine iff_of_true (Table.holds_of_find hnodup hmem ?_) id
      apply find?_modifyFirst_of_ne
      intro x _ hx
      refine ⟨x.step_key _, ?_⟩
      rw [Registry.isKey_iff.mp hx]
      exact he

namespace Sample

/-- Surroundings in which the link of the interconnection port is down. -/
def unlinked : Env := { env with ifGetLink := fun p => p ≠ .inter }

/-- Arguments of a second instance on the same bridge, with ports of its own, in link
check mode. -/
def second : AddArgs :=
  { args ringRoleMrc inRoleMic with ringNr := 2, pport := 5, sport := 6, iport := 7, inMode := 1 }

/-- The table with one manager in ring check mode, whose interconnection has no link. -/
def lone : Table := Table.empty.step (.add unlinked (args ringRoleMrm inRoleMim))

/-- That manager. -/
def waiting : Mrp := (firstInstance unlinked (args ringRoleMrm inRoleMim)).1

theorem lone_reachable : lone.Reachable := ⟨[.add unlinked (args ringRoleMrm inRoleMim)], rfl⟩

theorem lone_instances : lone.instances = [waiting] := by
  have hok : AddOk Table.empty.keys unlinked (args ringRoleMrm inRoleMim) := by
    rw [← Table.mrpAdd_ok_iff]
    decide +kernel
  rw [lone, Table.step, Table.mrpAdd_of_ok hok]
  rfl

theorem waiting_mem : waiting ∈ lone.instances := by
  rw [lone_instances]
  exact List.mem_singleton_self waiting

theorem second_disjoint : second.portIndexes.Disjoint waiting.portIndexes := by
  have hall : (second.portIndexes.all fun i => !waiting.portIndexes.contains i) = true := by
    decide +kernel
  intro i hi hport
  have hnot := List.all_eq_true.mp hall i hi
  rw [List.contains_iff_mem.mpr hport] at hnot
  cases hnot

end Sample

/-- Adding a second instance in ring check mode does not disturb the first. -/
theorem beside_unchanged_sample :
    (Sample.lone.step (.add Sample.env { Sample.second with inMode := 0 })).Holds Sample.waiting := by
  refine (beside_unchanged_iff Sample.lone_reachable Sample.waiting_mem ?_).mpr ?_
  · exact ⟨by decide +kernel, Sample.second_disjoint⟩
  · exact fun hcatches => absurd hcatches.2.2.1 (by decide)

/-- Adding a second instance in link check mode makes the first one take the link of the
second for its own and move on. -/
theorem beside_disturbed :
    Sample.lone.Reachable ∧ Sample.waiting ∈ Sample.lone.instances ∧
      Sample.lone.Beside Sample.waiting (.add Sample.env Sample.second) ∧
      ¬(Sample.lone.step (.add Sample.env Sample.second)).Holds Sample.waiting := by
  refine ⟨Sample.lone_reachable, Sample.waiting_mem, ⟨by decide +kernel, Sample.second_disjoint⟩, ?_⟩
  intro hholds
  have hstate := congrArg (Option.map fun m : Mrp => m.mimState) hholds
  exact absurd hstate (by decide +kernel)

end Umrp
