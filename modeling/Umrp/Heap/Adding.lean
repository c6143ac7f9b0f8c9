import Umrp.Heap.Events
import Umrp.System.Faults

/-!
# Adding an instance in memory

`mrp_add` puts an instance without ports into the list and works on it there until all is
set or something fails.  The instance that is being built is the last one of the ring, it
has the key that was asked for, and the labels at the end of the function give back
whatever it has by then.

Main results:

- Theorem `Heap.Last.takeInRole`: an interconnection role is set in place, and the link
  may be announced to another instance.
- Theorem `Heap.Last.addPorts`: the ports, and what is given back without memory for one.
- Theorem `Heap.Represents.mrpAdd`: `mrp_add` does in memory what it does to the list.
-/

namespace Umrp

open KeyedList LinkedRing

/-! ## The ports of an instance that is built -/

/-- Setting roles never makes one port of two. -/
theorem Mrp.distinct_keptByRoles : KeptByRoles fun mrp => mrp.pPort ≠ mrp.sPort where
  mraSupport _ h := h
  resetRingState m h := by
    have hring := m.ring_resetRingState
    rw [show m.resetRingState.pPort = m.pPort from congrArg Ring.pPort hring,
      show m.resetRingState.sPort = m.sPort from congrArg Ring.sPort hring]
    exact h
  setMrmInit _ h := h
  setMrcInit _ h := h
  setMrmState _ h := h
  setMrcState _ h := h
  portSetState m p state h := by
    unfold Mrp.portSetState
    repeat' split
    all_goals exact h
  setRingRole _ _ h := h
  setInRole _ _ h := h
  portLinkChange _ p h := Mrp.distinct_portLinkChange h p true
  cfmLinkChange m h := by
    rw [(m.cfmLinkChange_op false).toRingPart]
    exact h

theorem Mrp.updateRecovery_distinct (mrp : Mrp) (h : mrp.pPort ≠ mrp.sPort) (timeFactor : UInt32)
    (ringRecv inRecv : UInt8) :
    (mrp.updateRecovery timeFactor ringRecv inRecv).pPort ≠
      (mrp.updateRecovery timeFactor ringRecv inRecv).sPort := by
  unfold Mrp.updateRecovery
  repeat' split
  all_goals exact h

theorem Mrp.create_distinct (env : Env) (a : AddArgs) :
    (Mrp.create env a.brIfindex a.ringNr a.inId).pPort ≠
      (Mrp.create env a.brIfindex a.ringNr a.inId).sPort := by
  refine Mrp.updateRecovery_distinct
    { Mrp.zeroed env.clock with
      ifindex := a.brIfindex
      ringNr := a.ringNr
      inId := a.inId
      ringRole := .mrc
      inRole := .disabled
      prio := 0x8000 } ?_ env.timeFactor 0 0
  simp [Mrp.zeroed]

theorem Mrp.applySettings_distinct (env : Env) (a : AddArgs) :
    (Mrp.applySettings env a).pPort ≠ (Mrp.applySettings env a).sPort :=
  Mrp.updateRecovery_distinct ((Mrp.create env a.brIfindex a.ringNr a.inId).setPrio a.prio)
    (Mrp.create_distinct env a) env.timeFactor a.ringRecv a.inRecv

theorem Mrp.startCfm_distinct {mrp : Mrp} (h : mrp.pPort ≠ mrp.sPort) (a : AddArgs) :
    (mrp.startCfm a).pPort ≠ (mrp.startCfm a).sPort := by
  simp only [Mrp.startCfm]
  split <;> exact h

namespace Registry

theorem built_distinct (reg : Registry) (env : Env) (a : AddArgs) :
    (reg.built env a).2.1.pPort ≠ (reg.built env a).2.1.sPort := by
  have hconfigured : (Mrp.configure env a).pPort ≠ (Mrp.configure env a).sPort := by
    have hring := (configure_configured env a).ring
    rw [show (Mrp.configure env a).pPort = _ from congrArg Ring.pPort hring,
      show (Mrp.configure env a).sPort = _ from congrArg Ring.sPort hring]
    exact @Ring.fresh_distinct a.pport a.sport .mrc 0
  rw [built, (reg.setInRoleByNumber_op env _ a.inRole).toRingPart]
  exact Mrp.distinct_keptByRoles.setRingRoleByNumber hconfigured a.ringRole

theorem built_iPort_isSome (reg : Registry) (env : Env) (a : AddArgs) :
    (reg.built env a).2.1.iPort.isSome = decide (a.iport > 0) := by
  have hlasting := congrArg (fun x => x.2.isSome) (reg.built_lasting env a)
  by_cases hzero : a.iport = 0
  · simpa [Mrp.lasting, hzero] using hlasting
  · simpa [Mrp.lasting, hzero, UInt32.pos_iff_ne_zero] using hlasting

end Registry

/-- Without memory nothing stays. -/
theorem Table.mrpAdd_of_not_allocated {t : Table} {env : Env} {a : AddArgs} (hnew : a.key ∉ t.keys)
    (halloc : Registry.allocated env a = false) :
    (t.mrpAdd env a).2 = -enomem ∧ (t.mrpAdd env a).1.instances = t.instances := by
  rw [mrpAdd_eq, if_neg hnew, if_pos halloc]
  split <;> exact ⟨rfl, rfl⟩

/-- The pointers of an instance to some of its ports. -/
def Allocation.pointers {α : Type} (blocks : Allocation α) (ps : List Port) (p : Port) : Option α :=
  if p ∈ ps then some (blocks.port p) else none

theorem Allocation.update_pointers {α : Type} (blocks : Allocation α) (ps : List Port) (p : Port) :
    Function.update (blocks.pointers ps) p (some (blocks.port p)) = blocks.pointers (p :: ps) := by
  funext q
  by_cases hq : q = p
  · simp [pointers, hq]
  · simp [pointers, hq]

namespace Heap

variable {α : Type}

/-- The memory that `malloc` returns was free. -/
structure Fresh (m : Heap α) (blocks : Allocation α) : Prop where
  mrp : m.links blocks.mrp = none
  port : ∀ p, m.ports (blocks.port p) = none
  injective : Function.Injective blocks.port

/-- No instance of a list uses a port structure. -/
def Unused (bs : List (α × Block α)) (port : α) : Prop := ∀ x ∈ bs, ∀ p, x.2.port p ≠ some port

/-- While an instance is added: it is the last one, with the key that was asked for. -/
structure Last (a : AddArgs) (known : Known α) (m : Heap α) (bs : List (α × Block α)) (mrp : α)
    (b : Block α) : Prop where
  holds : Holds known m (bs ++ [(mrp, b)])
  others : a.key ∉ (contents bs).map Mrp.key
  key : b.mrp.key = a.key
  distinct : b.mrp.pPort ≠ b.mrp.sPort

/-- The other instances and the new one have become those of `x`, where they lie. -/
def Became (a : AddArgs) (known : Known α) (bs : List (α × Block α)) (mrp : α) (b : Block α)
    (m : Heap α) (x : Registry × Mrp) : Prop :=
  ∃ bs' b', Last a known m bs' mrp b' ∧ Moved bs bs' ∧ b'.port = b.port ∧ contents bs' = x.1 ∧
    b'.mrp = x.2

section Adding

variable {known : Known α} {m : Heap α} {bs : List (α × Block α)} {a : AddArgs} {mrp : α}
  {b : Block α} {fuel : Nat}

theorem Moved.keys {bs bs' : List (α × Block α)} (h : Moved bs bs') :
    (contents bs').map Mrp.key = (contents bs).map Mrp.key := by
  unfold Moved at h
  induction h with
  | nil => rfl
  | cons hx _ ih =>
      simp only [contents, List.map_cons, List.map_map] at ih ⊢
      rw [ih, hx.2.2.1.same Mrp.step_key]

/-- The last instance stays the last one. -/
theorem Moved.split_last {bs' : List (α × Block α)} (h : Moved (bs ++ [(mrp, b)]) bs') :
    ∃ bs₁ b', bs' = bs₁ ++ [(mrp, b')] ∧ Moved bs bs₁ ∧ b'.port = b.port ∧ b.mrp.Calm b'.mrp := by
  obtain ⟨bs₁, b', post, rfl, hmoved, hport, hcalm⟩ := h.split
  have hlength := h.length
  have hsame := hmoved.length
  simp only [List.length_append, List.length_cons, List.length_nil] at hlength
  have hpost : post = [] := List.eq_nil_of_length_eq_zero (by omega)
  subst hpost
  exact ⟨bs₁, b', rfl, hmoved, hport, hcalm⟩

/-- An address that is free is no port structure of an instance, and the other way round. -/
theorem Holds.ports_eq_none_iff (h : Holds known m bs) (port : α) :
    m.ports port = none ↔ Unused bs port := by
  constructor
  · intro hnone x hx p hp
    have hport := (h.ports port x.1).mpr ⟨x.2, p, hx, hp⟩
    rw [hnone] at hport
    cases hport
  · intro hunused
    cases hport : m.ports port with
    | none => rfl
    | some owner =>
        obtain ⟨c, p, hc, hp⟩ := (h.ports port owner).mp hport
        exact absurd hp (hunused (owner, c) hc p)

theorem unused_last {port : α} (h : Unused bs port) (hb : ∀ p, b.port p ≠ some port) :
    Unused (bs ++ [(mrp, b)]) port := by
  intro x hx
  rcases List.mem_append.mp hx with hx | hx
  · exact h x hx
  · rw [List.mem_singleton.mp hx]
    exact hb

theorem Last.isKey_others (h : Last a known m bs mrp b) :
    ∀ x ∈ bs, Registry.isKey a.brIfindex a.ringNr x.2.mrp = false :=
  forall_isKey_iff.mpr h.others

theorem Last.isKey (h : Last a known m bs mrp b) :
    Registry.isKey a.brIfindex a.ringNr b.mrp = true :=
  Registry.isKey_iff.mpr h.key

theorem Last.became (h : Last a known m bs mrp b) :
    Became a known bs mrp b m (contents bs, b.mrp) :=
  ⟨bs, b, h, .refl bs, rfl, rfl, rfl⟩

theorem contents_last : contents (bs ++ [(mrp, b)]) = contents bs ++ [b.mrp] := by
  simp [contents]

/-- The instance that `mrp_add` has built finds its ports. -/
theorem sound_built {reg : Registry} {env : Env} {blocks : Allocation α} {ps : List Port}
    (hb : b.mrp = (reg.built env a).2.1) (hport : b.port = blocks.pointers ps)
    (hring : ∀ r, .ring r ∈ ps) (hinter : .inter ∈ ps ↔ a.iport > 0) : b.Sound where
  ring r := by simp [hport, Allocation.pointers, hring r]
  inter := by
    rw [hport, hb, Registry.built_iPort_isSome]
    by_cases hiport : a.iport > 0
    · simp [Allocation.pointers, hinter.mpr hiport, hiport]
    · simp [Allocation.pointers, mt hinter.mp hiport, hiport]
  distinct := by
    rw [hb]
    exact reg.built_distinct env a

variable [DecidableEq α]

/-- `mrp_find` finds the new instance. -/
theorem Last.mrpFind (h : Last a known m bs mrp b) (hfuel : bs.length + 1 < fuel) :
    m.mrpFind known fuel a.brIfindex a.ringNr = some (some mrp) := by
  refine h.holds.search_middle (by simpa using hfuel) (fun x hx => ?_) h.isKey_others h.isKey
  rw [(h.holds.instances x.1 x.2).mpr hx]
  rfl

/-- Work inside the new instance. -/
theorem Last.update (h : Last a known m bs mrp b) {f : Mrp → Mrp}
    (hkey : (f b.mrp).key = b.mrp.key)
    (hdistinct : b.mrp.pPort ≠ b.mrp.sPort → (f b.mrp).pPort ≠ (f b.mrp).sPort) :
    ∃ m', m.update mrp f = some m' ∧ Last a known m' bs mrp { b with mrp := f b.mrp } := by
  obtain ⟨m', hm', h'⟩ := h.holds.update f
  exact ⟨m', hm', h', h.others, hkey.trans h.key, hdistinct h.distinct⟩

/-- A port of the new instance. -/
theorem Last.mrpPortInit (h : Last a known m bs mrp b) {p : Port} {port : α}
    (hunused : Unused bs port) (hown : ∀ q, b.port q ≠ some port) (hnone : b.port p = none)
    (env : Env) (ifindex : UInt32) :
    ∃ m', m.mrpPortInit env mrp port ifindex p = some m' ∧
      Last a known m' bs mrp
        ⟨b.mrp.portInit env ifindex p, Function.update b.port p (some port)⟩ := by
  have hfree := (h.holds.ports_eq_none_iff port).mpr (unused_last hunused hown)
  obtain ⟨m', hm', h'⟩ := h.holds.mrpPortInit hfree hnone env ifindex
  refine ⟨m', hm', h', h.others, ?_, ?_⟩
  · cases p <;> exact h.key
  · cases p <;> exact h.distinct

/-! ## Giving up -/

/-- The new instance is destroyed. -/
theorem Last.mrpDestroy (h : Last a known m bs mrp b) (hfuel : bs.length + 1 < fuel) :
    ∃ m', m.mrpDestroy known fuel a.brIfindex a.ringNr = some m' ∧ Holds known m' bs := by
  obtain ⟨m', hm', h'⟩ :=
    h.holds.mrpDestroy (by simpa using hfuel) h.distinct h.isKey_others h.isKey
  rw [List.append_nil] at h'
  exact ⟨m', hm', h'⟩

/-- A port of the new instance is given up. -/
theorem Last.dropPort (h : Last a known m bs mrp b) (p : Block α → Port) :
    ∃ m' b', m.dropPort mrp p = some m' ∧ Last a known m' bs mrp b' := by
  obtain ⟨m', hm', h'⟩ := h.holds.dropPort p
  refine ⟨m', _, hm', h', h.others, ?_, ?_⟩
  · dsimp only
    split <;> exact h.key
  · dsimp only
    split <;> exact h.distinct

theorem Last.deletePort (h : Last a known m bs mrp b) (hfuel : bs.length + 1 < fuel) :
    ∃ m', m.deletePort known fuel mrp a = some m' ∧ Holds known m' bs := by
  obtain ⟨m₁, b₁, hm₁, h₁⟩ := h.dropPort fun c => .ring c.mrp.pPort
  obtain ⟨m', hm', h'⟩ := h₁.mrpDestroy hfuel
  exact ⟨m', by rw [Heap.deletePort, hm₁]; exact hm', h'⟩

theorem Last.deletePorts (h : Last a known m bs mrp b) (hfuel : bs.length + 1 < fuel) :
    ∃ m', m.deletePorts known fuel mrp a = some m' ∧ Holds known m' bs := by
  obtain ⟨m₁, b₁, hm₁, h₁⟩ := h.dropPort fun c => .ring c.mrp.sPort
  obtain ⟨m', hm', h'⟩ := h₁.deletePort hfuel
  exact ⟨m', by rw [Heap.deletePorts, hm₁]; exact hm', h'⟩

/-- Everything that the new instance has is given back. -/
theorem Last.clear (h : Last a known m bs mrp b) (hfuel : bs.length + 1 < fuel) :
    ∃ m', m.clear known fuel mrp a = some m' ∧ Holds known m' bs := by
  obtain ⟨m₁, b₁, hm₁, h₁⟩ := h.dropPort fun _ => .inter
  obtain ⟨m', hm', h'⟩ := h₁.deletePorts hfuel
  exact ⟨m', by rw [Heap.clear, hm₁]; exact hm', h'⟩

/-! ## Setting roles -/

/-- The link of the interconnection port is announced: to the new instance, or to the first
one that has the same MEP for a peer. -/
theorem Last.announceInLink (h : Last a known m bs mrp b) (hfuel : bs.length + 1 < fuel)
    (env : Env) :
    ∃ m', m.announceInLink known fuel env mrp = some m' ∧
      Became a known bs mrp b m' ((contents bs).announceInLink b.mrp env) := by
  rw [Heap.announceInLink, Registry.announceInLink]
  by_cases hlink : env.ifGetLink .inter = true
  · rw [if_pos hlink, if_pos hlink, h.holds.instance_eq]
    simp only [Option.bind_eq_bind, Option.bind_some]
    by_cases hmode : b.mrp.inMode = .rc
    · rw [if_pos hmode, if_pos hmode]
      obtain ⟨m', hm', h'⟩ := h.update (f := (·.portLinkChange .inter true))
        (Mrp.key_of_toMrpConf (b.mrp.portLinkChange_op .inter true).toMrpConf)
        fun hd => Mrp.distinct_portLinkChange hd .inter true
      exact ⟨m', hm', h'.became⟩
    · rw [if_neg hmode, if_neg hmode]
      obtain ⟨m', bs', hm', h', hmoved, hcontents⟩ := h.holds.mrpCfmLinkChange
        (by simpa using hfuel) b.mrp.ifindex b.mrp.cfmPeerMepid false
      obtain ⟨bs₁, b₁, rfl, hmoved₁, hport, hcalm⟩ := hmoved.split_last
      have hlast : Last a known m' bs₁ mrp b₁ :=
        ⟨h', hmoved₁.keys ▸ h.others, (hcalm.1.same Mrp.step_key).trans h.key,
          hcalm.1.distinct h.distinct⟩
      rw [contents_last, contents_last,
        Table.cfmLinkChange_withLast ⟨contents bs, []⟩ b.mrp false] at hcontents
      refine ⟨m', hm', bs₁, b₁, hlast, hmoved₁, hport, ?_⟩
      split at hcontents
      next hany =>
        rw [if_pos hany]
        simpa using List.append_inj' hcontents rfl
      next hany =>
        rw [if_neg hany]
        simpa using List.append_inj' hcontents rfl
  · rw [if_neg hlink, if_neg hlink]
    exact ⟨m, rfl, h.became⟩

/-- An interconnection role is set in place. -/
theorem Last.takeInRole (h : Last a known m bs mrp b) (hfuel : bs.length + 1 < fuel) (env : Env)
    (role : InRole) :
    ∃ m', m.takeInRole known fuel env mrp role =
        some (m', ((contents bs).takeInRole b.mrp env role).2.2) ∧
      Became a known bs mrp b m' (((contents bs).takeInRole b.mrp env role).1,
        ((contents bs).takeInRole b.mrp env role).2.1) := by
  rw [Heap.takeInRole, h.holds.instance_eq, Registry.takeInRole]
  simp only [Option.bind_eq_bind, Option.bind_some]
  by_cases hport : b.mrp.iPort.isNone = true
  · rw [if_pos hport, if_pos hport]
    exact ⟨m, rfl, h.became⟩
  · rw [if_neg hport, if_neg hport]
    obtain ⟨m₁, hm₁, h₁⟩ := h.update
      (f := fun mrp => { mrp with mimState := .acStat1, micState := .acStat1 }.setInRole role)
      rfl id
    rw [hm₁]
    simp only [Option.bind_some]
    by_cases henv : env.setInRole ≠ 0
    · rw [if_pos henv, if_pos henv]
      exact ⟨m₁, rfl, h₁.became⟩
    · rw [if_neg henv, if_neg henv]
      obtain ⟨m₂, hm₂, h₂⟩ := h₁.update (f := (·.portSetState .inter .blocked))
        (Mrp.key_of_toMrpConf (Mrp.portSetState_inter_toMrpConf _ .blocked))
        fun hd => Mrp.distinct_keptByRoles.portSetState _ .inter .blocked hd
      obtain ⟨m₃, hm₃, h₃⟩ := h₂.announceInLink hfuel env
      refine ⟨m₃, ?_, h₃⟩
      rw [hm₂, Option.bind_some, hm₃]
      rfl

/-- The interconnection role that was asked for. -/
theorem Last.setInRole (h : Last a known m bs mrp b) (hfuel : bs.length + 1 < fuel) (env : Env)
    (inRole : UInt32) (err : Int) :
    ∃ m', Heap.setInRole known fuel (m, err) env mrp inRole =
        some (m', ((contents bs).setInRoleByNumber (b.mrp, err) env inRole).2.2) ∧
      Became a known bs mrp b m' (((contents bs).setInRoleByNumber (b.mrp, err) env inRole).1,
        ((contents bs).setInRoleByNumber (b.mrp, err) env inRole).2.1) := by
  rw [Heap.setInRole, Registry.setInRoleByNumber]
  split
  · exact h.takeInRole hfuel env .mim
  · split
    · exact h.takeInRole hfuel env .mic
    · exact ⟨m, rfl, h.became⟩

/-- The rest of the configuration, and what remains of it on an error. -/
theorem Last.configure {env : Env} {port : Port → Option α}
    (h : Last a known m bs mrp ⟨(Mrp.applySettings env a).initPorts env a, port⟩)
    (hfuel : bs.length + 1 < fuel) :
    ∃ m', m.configure known fuel env mrp a = some (m', ((contents bs).built env a).2.2) ∧
      if ((contents bs).built env a).2.2 ≠ 0 then
        ∃ bs', Holds known m' bs' ∧ Moved bs bs' ∧ contents bs' = ((contents bs).built env a).1
      else Became a known bs mrp ⟨(Mrp.applySettings env a).initPorts env a, port⟩ m'
        (((contents bs).built env a).1, ((contents bs).built env a).2.1) := by
  obtain ⟨m₁, hm₁, h₁⟩ : ∃ m', m.update mrp
      (fun mrp => if mrp.inMode ≠ .rc then mrp.startCfm a else mrp) = some m' ∧
      Last a known m' bs mrp ⟨Mrp.configure env a, port⟩ := by
    refine h.update ?_ fun hd => ?_
    · split
      · exact Mrp.startCfm_key _ a
      · rfl
    · split
      · exact Mrp.startCfm_distinct hd a
      · exact hd
  obtain ⟨m₂, hm₂, h₂⟩ : ∃ m', m₁.setRingRole env mrp a.ringRole =
      some (m', (Mrp.withRing env a).2) ∧
      Last a known m' bs mrp ⟨(Mrp.withRing env a).1, port⟩ := by
    obtain ⟨m₂, hm₂, h₂⟩ := h₁.update (f := fun mrp => (mrp.setRingRoleByNumber env a.ringRole).1)
      ((Mrp.withRing_key env a).trans (Mrp.configure_key env a).symm)
      fun hd => Mrp.distinct_keptByRoles.setRingRoleByNumber hd a.ringRole
    refine ⟨m₂, ?_, h₂⟩
    rw [Heap.setRingRole, h₁.holds.instance_eq]
    simp only [Option.bind_eq_bind, Option.bind_some, hm₂]
    rfl
  obtain ⟨m₃, hm₃, bs', b', h₃, hmoved, hport, hcontents, hb'⟩ :=
    h₂.setInRole hfuel env a.inRole (Mrp.withRing env a).2
  have hroles : Heap.setInRole known fuel (m₂, (Mrp.withRing env a).2) env mrp a.inRole =
      some (m₃, ((contents bs).built env a).2.2) := hm₃
  rw [Heap.configure, hm₁]
  simp only [Option.bind_eq_bind, Option.bind_some, hm₂, hroles]
  by_cases herr : ((contents bs).built env a).2.2 = 0
  · simp only [herr, ne_eq, not_true_eq_false, if_false]
    exact ⟨m₃, rfl, bs', b', h₃, hmoved, hport, hcontents, hb'⟩
  · obtain ⟨m₄, hm₄, h₄⟩ := h₃.clear (hmoved.length.symm ▸ hfuel)
    simp only [herr, ne_eq, not_false_eq_true, if_true, hm₄]
    exact ⟨m₄, rfl, bs', h₄, hmoved, hcontents⟩

/-! ## The whole of `mrp_add` -/

/-- One more port of the new instance. -/
theorem Last.portInit {blocks : Allocation α} {x : Mrp} {ps : List Port}
    (h : Last a known m bs blocks.mrp ⟨x, blocks.pointers ps⟩) {p : Port} (hp : p ∉ ps)
    (hunused : ∀ q, Unused bs (blocks.port q)) (hinj : Function.Injective blocks.port) (env : Env)
    (ifindex : UInt32) :
    ∃ m', m.mrpPortInit env blocks.mrp (blocks.port p) ifindex p = some m' ∧
      Last a known m' bs blocks.mrp ⟨x.portInit env ifindex p, blocks.pointers (p :: ps)⟩ := by
  have hown : ∀ q, blocks.pointers ps q ≠ some (blocks.port p) := by
    intro q hq
    unfold Allocation.pointers at hq
    split at hq
    next hmem =>
      rw [hinj (Option.some.inj hq)] at hmem
      exact hp hmem
    next => cases hq
  obtain ⟨m', hm', h'⟩ := h.mrpPortInit (hunused p) hown (if_neg hp) env ifindex
  rw [Allocation.update_pointers] at h'
  exact ⟨m', hm', h'⟩

/-- Once the ports are there: the instance stays, or everything is given back. -/
theorem Last.finish {t : Table} {env : Env} {blocks : Allocation α} {ps : List Port}
    (h : Last a known m bs mrp ⟨(Mrp.applySettings env a).initPorts env a, blocks.pointers ps⟩)
    (hfuel : bs.length + 1 < fuel) (hs : ∀ x ∈ bs, x.2.Sound) (hbs : contents bs = t.instances)
    (hring : ∀ r, .ring r ∈ ps) (hinter : .inter ∈ ps ↔ a.iport > 0)
    (halloc : Registry.allocated env a = true) :
    ∃ m', m.configure known fuel env mrp a = some (m', (t.mrpAdd env a).2) ∧
      Represents known m' (t.mrpAdd env a).1.instances := by
  obtain ⟨m', hm', h'⟩ := h.configure hfuel
  have hnew : a.key ∉ t.keys := by
    rw [Table.keys, ← hbs]
    exact h.others
  have hmrp : ¬env.mallocMrp = false := by
    simp only [Registry.allocated, Bool.and_eq_true] at halloc
    simp [halloc.1.1.1]
  rw [Table.mrpAdd_eq, if_neg hnew, if_neg hmrp, if_neg (by simp [halloc])]
  rw [hbs] at hm' h'
  by_cases herr : (t.instances.built env a).2.2 = 0
  · rw [if_neg (not_not.mpr herr)] at h' ⊢
    obtain ⟨bs', b', hlast, hmoved, hport, hcontents, hb'⟩ := h'
    refine ⟨m', herr ▸ hm', _, hlast.holds, fun x hx => ?_, ?_⟩
    · rcases List.mem_append.mp hx with hx | hx
      · exact hmoved.sound hs x hx
      · rw [List.mem_singleton.mp hx]
        exact sound_built hb' hport hring hinter
    · rw [contents_last, hcontents, hb']
  · rw [if_pos herr] at h' ⊢
    obtain ⟨bs', hholds, hmoved, hcontents⟩ := h'
    exact ⟨m', hm', bs', hholds, hmoved.sound hs, hcontents⟩

/-- The ports are initialised one after the other; without memory for one of them everything
is given back. -/
theorem Last.addPorts {t : Table} {env : Env} {blocks : Allocation α}
    (h : Last a known m bs blocks.mrp ⟨Mrp.applySettings env a, blocks.pointers []⟩)
    (hfuel : bs.length + 1 < fuel) (hs : ∀ x ∈ bs, x.2.Sound) (hbs : contents bs = t.instances)
    (hunused : ∀ q, Unused bs (blocks.port q)) (hinj : Function.Injective blocks.port)
    (hmrp : env.mallocMrp = true) :
    ∃ m', m.addPorts known fuel env blocks.mrp a blocks = some (m', (t.mrpAdd env a).2) ∧
      Represents known m' (t.mrpAdd env a).1.instances := by
  have hfailed : Registry.allocated env a = false → (t.mrpAdd env a).2 = -enomem ∧
      (t.mrpAdd env a).1.instances = t.instances :=
    Table.mrpAdd_of_not_allocated (by rw [Table.keys, ← hbs]; exact h.others)
  rw [Heap.addPorts]
  by_cases hp : env.mallocPort (.ring .primary) = false
  · obtain ⟨herr, hsame⟩ := hfailed (by simp [Registry.allocated, hp])
    obtain ⟨m', hm', h'⟩ := h.mrpDestroy hfuel
    rw [if_pos hp, herr, hsame, hm']
    exact ⟨m', rfl, bs, h', hs, hbs⟩
  obtain ⟨m₁, hm₁, h₁⟩ := h.portInit (p := .ring .primary) (by simp) hunused hinj env a.pport
  rw [if_neg hp, hm₁]
  simp only [Option.bind_eq_bind, Option.bind_some]
  by_cases hsec : env.mallocPort (.ring .secondary) = false
  · obtain ⟨herr, hsame⟩ := hfailed (by simp [Registry.allocated, hsec])
    obtain ⟨m', hm', h'⟩ := h₁.deletePort hfuel
    rw [if_pos hsec, herr, hsame, hm']
    exact ⟨m', rfl, bs, h', hs, hbs⟩
  obtain ⟨m₂, hm₂, h₂⟩ := h₁.portInit (p := .ring .secondary) (by simp) hunused hinj env a.sport
  rw [if_neg hsec, hm₂, Option.bind_some]
  simp only [Bool.not_eq_false] at hp hsec
  by_cases hiport : a.iport > 0
  · rw [if_pos hiport]
    by_cases hi : env.mallocPort .inter = false
    · obtain ⟨herr, hsame⟩ :=
        hfailed (by simp [Registry.allocated, hi, UInt32.pos_iff_ne_zero.mp hiport])
      obtain ⟨m', hm', h'⟩ := h₂.deletePorts hfuel
      rw [if_pos hi, herr, hsame, hm']
      exact ⟨m', rfl, bs, h', hs, hbs⟩
    obtain ⟨m₃, hm₃, h₃⟩ := h₂.portInit (p := .inter) (by simp) hunused hinj env a.iport
    have hports : (Mrp.applySettings env a).initPorts env a = _ := if_pos hiport
    rw [if_neg hi, hm₃, Option.bind_some]
    simp only [Bool.not_eq_false] at hi
    rw [← hports] at h₃
    exact h₃.finish hfuel hs hbs (fun r => by cases r <;> simp) (by simp [hiport])
      (by simp [Registry.allocated, hmrp, hp, hsec, hi])
  · have hzero : a.iport = 0 := by simpa [UInt32.pos_iff_ne_zero] using hiport
    have hports : (Mrp.applySettings env a).initPorts env a = _ := if_neg hiport
    rw [if_neg hiport]
    rw [← hports] at h₂
    exact h₂.finish hfuel hs hbs (fun r => by cases r <;> simp) (by simp [hiport])
      (by simp [Registry.allocated, hmrp, hp, hsec, hzero])

/-- `mrp_add` does in memory what it does to the list. -/
theorem Represents.mrpAdd {t : Table} (h : Represents known m t.instances)
    (hfuel : t.instances.length + 1 < fuel) {blocks : Allocation α} (hfresh : m.Fresh blocks)
    (env : Env) (a : AddArgs) :
    ∃ m', m.mrpAdd known fuel env a blocks = some (m', (t.mrpAdd env a).2) ∧
      Represents known m' (t.mrpAdd env a).1.instances := by
  obtain ⟨bs, hm, hs, hbs⟩ := h
  have hlength : bs.length + 1 < fuel := by rwa [← hbs, contents, List.length_map] at hfuel
  have hkeys : t.keys = (contents bs).map Mrp.key := by rw [Table.keys, hbs]
  rw [Heap.mrpAdd]
  rcases hm.mrpFind_cases (Nat.lt_of_succ_lt hlength) a.brIfindex a.ringNr with ⟨hfind, hnone⟩ |
    ⟨pre, x, b, post, rfl, hpre, hkey, hfind⟩
  · have hnew : a.key ∉ (contents bs).map Mrp.key := forall_isKey_iff.mp hnone
    rw [hfind]
    simp only [Option.bind_eq_bind, Option.bind_some, Option.isSome_none, Bool.false_eq_true,
      if_false]
    by_cases hmrp : env.mallocMrp = false
    · have halloc : Registry.allocated env a = false := by simp [Registry.allocated, hmrp]
      obtain ⟨herr, hsame⟩ := Table.mrpAdd_of_not_allocated (hkeys ▸ hnew) halloc
      rw [if_pos hmrp, herr, hsame]
      exact ⟨m, rfl, bs, hm, hs, hbs⟩
    obtain ⟨m₁, hm₁, hcreated⟩ := hm.mrpCreate hfresh.mrp env a.brIfindex a.ringNr a.inId
    have h₁ : Last a known m₁ bs blocks.mrp ⟨Mrp.create env a.brIfindex a.ringNr a.inId, _⟩ :=
      ⟨hcreated, hnew, rfl, Mrp.create_distinct env a⟩
    obtain ⟨m₂, hm₂, h₂⟩ : ∃ m', m₁.update blocks.mrp (·.settle env a) = some m' ∧
        Last a known m' bs blocks.mrp ⟨Mrp.applySettings env a, blocks.pointers []⟩ :=
      h₁.update (Mrp.applySettings_key env a) fun _ => Mrp.applySettings_distinct env a
    simp only [if_neg hmrp, hm₁, h₁.mrpFind hlength, hm₂, Option.bind_some]
    exact h₂.addPorts hlength hs hbs (fun q => (hm.ports_eq_none_iff _).mp (hfresh.port q))
      hfresh.injective (by simpa using hmrp)
  · have hmem : a.key ∈ t.keys := by
      rw [hkeys]
      exact mem_keys_of_isKey hkey
    rw [hfind, Table.mrpAdd_eq, if_pos hmem]
    exact ⟨m, rfl, _, hm, hs, hbs⟩

end Adding

end Heap

end Umrp
