import Umrp.Heap.Holding
import Umrp.Ring.PortRole

/-!
# Events on the memory

Every function that works on the list of instances does in memory what it does to the
list.  The lookups find the same instances, the pointers that are kept across calls stay
valid, and no instance is without the port structures that its handlers follow.

Main results:

- Theorem `Heap.Holds.mrpGetPort_cases`: `mrp_get_port` finds the port in memory that it
  finds in the list.
- Theorem `Heap.Represents.mrpRecv`: a frame.
- Theorem `Heap.Represents.mrpDestroy`: an instance is given up.
- Theorem `Heap.Represents.mrpUninit`: all instances are given up.
- Theorem `Heap.Represents.netlinkListen`: a netlink message.
-/

namespace Umrp

open EventMachine KeyedList LinkedRing

/-! ## What events keep -/

namespace Mrp

/-- The interfaces of the ports are looked at in an order that only exchanged ports change. -/
theorem findPort_congr {a b : Mrp} (hp : b.pPort = a.pPort) (hs : b.sPort = a.sPort)
    (hring : ∀ r, (b.ringPort r).ifindex = (a.ringPort r).ifindex)
    (hinter : b.iPort.map MrpPort.ifindex = a.iPort.map MrpPort.ifindex) (ifindex : UInt32) :
    b.findPort ifindex = a.findPort ifindex := by
  simp only [findPort, hp, hs, hring, hinter]

theorem findPort_portMac (mrp : Mrp) (p : Port) (mac : Mac) (ifindex : UInt32) :
    (mrp.step (.portMac p mac)).findPort ifindex = mrp.findPort ifindex := by
  cases p with
  | ring r =>
      refine findPort_congr (a := mrp) (b := mrp.step (.portMac (.ring r) mac)) rfl rfl
        (fun q => ?_) rfl ifindex
      by_cases hq : q = r
      · simp [step, portMacChange, hq]
      · simp [step, portMacChange, hq]
  | inter =>
      refine findPort_congr (a := mrp) (b := mrp.step (.portMac .inter mac)) rfl rfl (fun _ => rfl)
        ?_ ifindex
      simp only [step, portMacChange, Option.map_map]
      rfl

theorem findPort_cfmLinkChange (mrp : Mrp) (defect : Bool) (ifindex : UInt32) :
    (mrp.step (.cfmLinkChange defect)).findPort ifindex = mrp.findPort ifindex := by
  have hring := (mrp.cfmLinkChange_op defect).toRingPart
  refine findPort_congr ?_ ?_ (fun r => ?_) (mrp.step_inIndex _) ifindex
  · rw [step, hring]
  · rw [step, hring]
  · rw [step, hring]

/-- `b` is what `a` is after some events that a lookup does not see. -/
def Calm (a b : Mrp) : Prop := a.After b ∧ ∀ ifindex, b.findPort ifindex = a.findPort ifindex

theorem Calm.refl (mrp : Mrp) : mrp.Calm mrp := ⟨.refl mrp, fun _ => rfl⟩

theorem Calm.trans {a b c : Mrp} (hab : a.Calm b) (hbc : b.Calm c) : a.Calm c :=
  ⟨hab.1.trans hbc.1, fun ifindex => (hbc.2 ifindex).trans (hab.2 ifindex)⟩

theorem step_iPort_isSome (mrp : Mrp) (e : Event) :
    (mrp.step e).iPort.isSome = mrp.iPort.isSome := by
  have hindex := congrArg Option.isSome (mrp.step_inIndex e)
  rwa [Option.isSome_map, Option.isSome_map] at hindex

theorem After.distinct {a b : Mrp} (h : a.After b) (hd : a.pPort ≠ a.sPort) :
    b.pPort ≠ b.sPort := by
  rcases h with ⟨es, rfl⟩
  exact run_invariant (I := fun mrp : Mrp => mrp.pPort ≠ mrp.sPort)
    (fun _ e hmrp => step_distinct hmrp e) hd es

end Mrp

/-- The pointers of an instance to its ports are as the handlers expect them. -/
structure Block.Sound {α : Type} (b : Block α) : Prop where
  ring : ∀ r, (b.port (.ring r)).isSome = true
  inter : (b.port .inter).isSome = b.mrp.iPort.isSome
  distinct : b.mrp.pPort ≠ b.mrp.sPort

theorem Block.Sound.after {α : Type} {b b' : Block α} (h : b.Sound) (hport : b'.port = b.port)
    (hafter : b.mrp.After b'.mrp) : b'.Sound where
  ring r := by
    rw [hport]
    exact h.ring r
  inter := by
    rw [hport, h.inter]
    exact (hafter.same (g := fun mrp => mrp.iPort.isSome) Mrp.step_iPort_isSome).symm
  distinct := hafter.distinct h.distinct

/-- A port that is found has a structure. -/
theorem Block.Sound.port_isSome {α : Type} {b : Block α} (hb : b.Sound) {ifindex : UInt32}
    {p : Port} (hp : b.mrp.findPort ifindex = some p) : (b.port p).isSome = true := by
  cases p with
  | ring r => exact hb.ring r
  | inter =>
      have hindex := Mrp.portIndex_of_findPort hp
      rw [hb.inter, ← Option.isSome_map (f := MrpPort.ifindex)]
      exact Option.isSome_of_mem hindex

namespace Heap

variable {α : Type}

/-- The list that the memory holds, without the addresses. -/
def contents (bs : List (α × Block α)) : Registry := bs.map fun x => x.2.mrp

/-- The memory stands for a list of instances. -/
def Represents (known : Known α) (m : Heap α) (reg : Registry) : Prop :=
  ∃ bs, Holds known m bs ∧ (∀ x ∈ bs, x.2.Sound) ∧ contents bs = reg

/-- The instances of `bs'` lie where those of `bs` lay, and a lookup finds what it found. -/
def Moved (bs bs' : List (α × Block α)) : Prop :=
  List.Forall₂ (fun x y => y.1 = x.1 ∧ y.2.port = x.2.port ∧ x.2.mrp.Calm y.2.mrp) bs bs'

theorem Moved.refl (bs : List (α × Block α)) : Moved bs bs :=
  List.forall₂_same.mpr fun x _ => ⟨rfl, rfl, .refl x.2.mrp⟩

theorem Moved.trans {bs bs' bs'' : List (α × Block α)} (h : Moved bs bs') (h' : Moved bs' bs'') :
    Moved bs bs'' := by
  unfold Moved at h h' ⊢
  induction h generalizing bs'' with
  | nil =>
      cases h'
      exact .nil
  | cons hx _ ih =>
      cases h' with
      | cons hy hrest =>
          exact .cons ⟨hy.1.trans hx.1, hy.2.1.trans hx.2.1, hx.2.2.trans hy.2.2⟩ (ih hrest)

theorem Moved.middle {pre post : List (α × Block α)} {a : α} {b : Block α} {mrp : Mrp}
    (h : b.mrp.Calm mrp) :
    Moved (pre ++ (a, b) :: post) (pre ++ (a, { b with mrp := mrp }) :: post) :=
  List.rel_append (Moved.refl pre) (.cons ⟨rfl, rfl, h⟩ (Moved.refl post))

theorem Moved.sound {bs bs' : List (α × Block α)} (h : Moved bs bs') (hs : ∀ x ∈ bs, x.2.Sound) :
    ∀ x ∈ bs', x.2.Sound := by
  unfold Moved at h
  induction h with
  | nil => exact hs
  | cons hx _ ih =>
      rw [List.forall_mem_cons] at hs ⊢
      exact ⟨hs.1.after hx.2.1 hx.2.2.1, ih hs.2⟩

/-- A pointer to an instance survives. -/
theorem Moved.split {pre post bs' : List (α × Block α)} {a : α} {b : Block α}
    (h : Moved (pre ++ (a, b) :: post) bs') :
    ∃ pre' b' post', bs' = pre' ++ (a, b') :: post' ∧ Moved pre pre' ∧ b'.port = b.port ∧
      b.mrp.Calm b'.mrp := by
  unfold Moved at h ⊢
  induction pre generalizing bs' with
  | nil =>
      cases h with
      | @cons _ y _ post' hy _ =>
          obtain ⟨a', b'⟩ := y
          obtain ⟨rfl, hport, hcalm⟩ := hy
          exact ⟨[], b', post', rfl, .nil, hport, hcalm⟩
  | cons x pre ih =>
      cases h with
      | @cons _ y _ rest hy hrest =>
          obtain ⟨pre', b', post', rfl, hpre, hport, hcalm⟩ := ih hrest
          exact ⟨y :: pre', b', post', rfl, .cons hy hpre, hport, hcalm⟩

/-- What a lookup did not find it does not find. -/
theorem Moved.findPort {bs bs' : List (α × Block α)} (h : Moved bs bs') {ifindex : UInt32}
    (hnone : ∀ x ∈ bs, x.2.mrp.findPort ifindex = none) :
    ∀ x ∈ bs', x.2.mrp.findPort ifindex = none := by
  unfold Moved at h
  induction h with
  | nil => exact hnone
  | cons hx _ ih =>
      rw [List.forall_mem_cons] at hnone ⊢
      exact ⟨(hx.2.2.2 ifindex).trans hnone.1, ih hnone.2⟩

theorem Moved.length {bs bs' : List (α × Block α)} (h : Moved bs bs') : bs'.length = bs.length :=
  (List.Forall₂.length_eq h).symm

/-- The first instance that passes a test is changed. -/
theorem contents_modifyFirst {pre post : List (α × Block α)} {a : α} {b : Block α}
    {p : Mrp → Bool} (f : Mrp → Mrp) (hpre : ∀ x ∈ pre, p x.2.mrp = false) (hp : p b.mrp = true) :
    modifyFirst p f (contents (pre ++ (a, b) :: post)) =
      contents (pre ++ (a, { b with mrp := f b.mrp }) :: post) := by
  have hnot : ∀ mrp ∈ contents pre, p mrp = false := by
    intro mrp hmrp
    obtain ⟨x, hx, rfl⟩ := List.mem_map.mp hmrp
    exact hpre x hx
  simp only [contents, List.map_append, List.map_cons] at hnot ⊢
  rw [modifyFirst_append_of_forall_not hnot, modifyFirst, if_pos hp]

theorem contents_eraseP {pre post : List (α × Block α)} {a : α} {b : Block α}
    {p : Mrp → Bool} (hpre : ∀ x ∈ pre, p x.2.mrp = false) (hp : p b.mrp = true) :
    (contents (pre ++ (a, b) :: post)).eraseP p = contents (pre ++ post) := by
  have hnot : ∀ mrp ∈ contents pre, ¬p mrp = true := by
    intro mrp hmrp
    obtain ⟨x, hx, rfl⟩ := List.mem_map.mp hmrp
    simp [hpre x hx]
  simp only [contents, List.map_append, List.map_cons] at hnot ⊢
  rw [List.eraseP_append_right _ hnot, List.eraseP_cons_of_pos hp]

theorem forall_contents {bs : List (α × Block α)} {p : Mrp → Bool}
    (h : ∀ x ∈ bs, p x.2.mrp = false) : ∀ mrp ∈ contents bs, p mrp = false := by
  intro mrp hmrp
  obtain ⟨x, hx, rfl⟩ := List.mem_map.mp hmrp
  exact h x hx

/-- No instance of a list passes the test of `mrp_find`. -/
theorem forall_isKey_iff {bs : List (α × Block α)} {brIfindex ringNr : UInt32} :
    (∀ x ∈ bs, Registry.isKey brIfindex ringNr x.2.mrp = false) ↔
      (brIfindex, ringNr) ∉ (contents bs).map Mrp.key := by
  simp only [← Bool.not_eq_true, Registry.isKey_iff, contents, List.map_map, List.mem_map,
    Function.comp_apply, not_exists, not_and]

theorem mem_keys_of_isKey {pre post : List (α × Block α)} {a : α} {b : Block α}
    {brIfindex ringNr : UInt32} (h : Registry.isKey brIfindex ringNr b.mrp = true) :
    (brIfindex, ringNr) ∈ (contents (pre ++ (a, b) :: post)).map Mrp.key := by
  simp [contents, Registry.isKey_iff.mp h]

/-! ## Lookups of ports -/

section Events

variable {known : Known α} {m : Heap α} {bs pre post : List (α × Block α)}
  {a : α} {b : Block α} {reg : Registry} {fuel : Nat}

theorem Holds.portIs (h : Holds known m (pre ++ (a, b) :: post)) (hb : b.Sound) (ifindex : UInt32)
    (p : Port) :
    m.portIs b ifindex p = some (decide ((b.mrp.port? p).map MrpPort.ifindex = some ifindex)) := by
  unfold Heap.portIs
  cases hp : b.port p with
  | some port => simp [h.ports_eq hp]
  | none =>
      cases p with
      | ring r =>
          have hsome := hb.ring r
          rw [hp] at hsome
          cases hsome
      | inter =>
          have hnone := hb.inter
          rw [hp] at hnone
          have hport : b.mrp.iPort = none := by simpa using hnone
          simp [Mrp.port?, hport]

/-- The tests for one instance find the port that they find in the list. -/
theorem Holds.portWith (h : Holds known m (pre ++ (a, b) :: post)) (hb : b.Sound)
    (ifindex : UInt32) : m.portWith ifindex a = some ((b.mrp.findPort ifindex).bind b.port) := by
  simp only [Heap.portWith, Option.bind_eq_bind, h.instance_eq, Option.bind_some, h.portIs hb,
    Mrp.findPort, Mrp.port?, Option.map_some, Option.some.injEq, decide_eq_true_eq]
  by_cases hp : (b.mrp.ringPort b.mrp.pPort).ifindex = ifindex
  · simp [hp]
  · by_cases hs : (b.mrp.ringPort b.mrp.sPort).ifindex = ifindex
    · simp [hp, hs]
    · by_cases hi : b.mrp.iPort.map MrpPort.ifindex = some ifindex
      · simp [hp, hs, hi]
      · simp [hp, hs, hi]

/-- Work on the port that was found. -/
theorem contents_onPort {ifindex : UInt32} {p : Port} (f : Mrp → Port → Mrp)
    (hpre : ∀ x ∈ pre, x.2.mrp.findPort ifindex = none) (hp : b.mrp.findPort ifindex = some p) :
    (contents (pre ++ (a, b) :: post)).onPort ifindex f =
      contents (pre ++ (a, { b with mrp := f b.mrp p }) :: post) := by
  rw [Registry.onPort, contents_modifyFirst]
  · rw [hp]
  · intro x hx
    rw [hpre x hx]
    rfl
  · rw [hp]
    rfl

/-- The lookup in the list. -/
theorem contents_mrpGetPort {ifindex : UInt32} {p : Port}
    (hpre : ∀ x ∈ pre, x.2.mrp.findPort ifindex = none) (hp : b.mrp.findPort ifindex = some p) :
    (contents (pre ++ (a, b) :: post)).mrpGetPort ifindex = some (b.mrp, p) := by
  have hnone : (contents pre).mrpGetPort ifindex = none := by
    rw [Registry.mrpGetPort, List.findSome?_eq_none_iff]
    intro mrp hmrp
    obtain ⟨x, hx, rfl⟩ := List.mem_map.mp hmrp
    rw [hpre x hx]
    rfl
  rw [Registry.mrpGetPort] at hnone ⊢
  rw [contents, List.map_append, List.map_cons, List.findSome?_append]
  change ((contents pre).findSome? _).or _ = _
  rw [hnone, List.findSome?_cons, hp]
  rfl

theorem mrpGetPort_of_none {ifindex : UInt32}
    (h : ∀ x ∈ bs, x.2.mrp.findPort ifindex = none) : (contents bs).mrpGetPort ifindex = none := by
  rw [Registry.mrpGetPort, List.findSome?_eq_none_iff]
  intro mrp hmrp
  obtain ⟨x, hx, rfl⟩ := List.mem_map.mp hmrp
  rw [h x hx]
  rfl

/-- Without such a port there is no work. -/
theorem onPort_of_none {ifindex : UInt32} (f : Mrp → Port → Mrp)
    (h : ∀ x ∈ bs, x.2.mrp.findPort ifindex = none) :
    (contents bs).onPort ifindex f = contents bs := by
  refine modifyFirst_of_forall_not (forall_contents fun x hx => ?_)
  rw [h x hx]
  rfl

theorem forall_sound_middle {b' : Block α} (hs : ∀ x ∈ pre ++ (a, b) :: post, x.2.Sound)
    (hb : b'.Sound) : ∀ x ∈ pre ++ (a, b') :: post, x.2.Sound := by
  intro x hx
  rcases List.mem_append.mp hx with hx | hx
  · exact hs x (List.mem_append_left _ hx)
  · rcases List.mem_cons.mp hx with rfl | hx
    · exact hb
    · exact hs x (List.mem_append_right _ (List.mem_cons_of_mem _ hx))

/-- What `mrp_mac_change` does to an instance on a bridge. -/
def bridgeMac (ifindex : UInt32) (mac : Mac) (x : α × Block α) : α × Block α :=
  (x.1, { x.2 with
    mrp := if x.2.mrp.ifindex = ifindex then x.2.mrp.step (.bridgeMac mac) else x.2.mrp })

theorem moved_bridgeMac (bs : List (α × Block α)) (ifindex : UInt32) (mac : Mac) :
    Moved bs (bs.map (bridgeMac ifindex mac)) := by
  refine List.forall₂_map_right_iff.mpr (List.forall₂_same.mpr fun x _ => ⟨rfl, rfl, ?_⟩)
  simp only [bridgeMac]
  split
  · exact ⟨x.2.mrp.after_step (.bridgeMac mac), fun _ => rfl⟩
  · exact .refl x.2.mrp

variable [DecidableEq α]

/-- `mrp_get_port` finds the port in memory that it finds in the list. -/
theorem Holds.mrpGetPort_cases (h : Holds known m bs) (hs : ∀ x ∈ bs, x.2.Sound)
    (hfuel : bs.length < fuel) (ifindex : UInt32) :
    m.mrpGetPort known fuel ifindex = some none ∧ (∀ x ∈ bs, x.2.mrp.findPort ifindex = none) ∨
      ∃ pre a b post p port, bs = pre ++ (a, b) :: post ∧
        (∀ x ∈ pre, x.2.mrp.findPort ifindex = none) ∧ b.mrp.findPort ifindex = some p ∧
        b.port p = some port ∧ m.mrpGetPort known fuel ifindex = some (some port) := by
  have htest : ∀ x ∈ bs, m.portWith ifindex x.1 =
      some ((x.2.mrp.findPort ifindex).bind x.2.port) := by
    intro x hx
    obtain ⟨pre, post, rfl⟩ := List.append_of_mem hx
    exact h.portWith (hs _ hx) ifindex
  have hno : ∀ x ∈ bs, (x.2.mrp.findPort ifindex).bind x.2.port = none →
      x.2.mrp.findPort ifindex = none := by
    intro x hx hnone
    cases hp : x.2.mrp.findPort ifindex with
    | none => rfl
    | some p =>
        have hsome := (hs x hx).port_isSome hp
        rw [hp, Option.bind_some] at hnone
        rw [hnone] at hsome
        cases hsome
  rw [Heap.mrpGetPort, h.search hfuel htest]
  cases hfound : bs.findSome? fun x => (x.2.mrp.findPort ifindex).bind x.2.port with
  | none => exact .inl ⟨rfl, fun x hx => hno x hx (List.findSome?_eq_none_iff.mp hfound x hx)⟩
  | some port =>
      obtain ⟨pre, x, post, rfl, hx, hpre⟩ := List.findSome?_eq_some_iff.mp hfound
      obtain ⟨p, hp, hport⟩ := Option.bind_eq_some_iff.mp hx
      exact .inr ⟨pre, x.1, x.2, post, p, port, rfl,
        fun y hy => hno y (List.mem_append_left _ hy) (hpre y hy), hp, hport, rfl⟩

/-! ## Events on one instance -/

/-- A frame is received. -/
theorem Represents.mrpRecv (h : Represents known m reg) (hfuel : reg.length < fuel)
    (ifindex : UInt32) (rx : RxFrame) :
    ∃ m', m.mrpRecv known fuel ifindex rx = some m' ∧
      Represents known m' (reg.onPort ifindex fun mrp p => mrp.step (.recv p rx)) := by
  obtain ⟨bs, hm, hs, rfl⟩ := h
  rw [contents, List.length_map] at hfuel
  rcases hm.mrpGetPort_cases hs hfuel ifindex with ⟨hget, hnone⟩ |
    ⟨pre, a, b, post, p, port, rfl, hpre, hp, hport, hget⟩
  · refine ⟨m, by rw [Heap.mrpRecv, hget]; rfl, bs, hm, hs, ?_⟩
    exact (onPort_of_none _ hnone).symm
  · obtain ⟨m', hm', h'⟩ := hm.onPort hport fun mrp p => mrp.step (.recv p rx)
    refine ⟨m', by rw [Heap.mrpRecv, hget]; exact hm', _, h',
      forall_sound_middle hs ?_, ?_⟩
    · exact (hs (a, b) (by simp)).after rfl (b.mrp.after_step (.recv p rx))
    · exact (contents_onPort (fun mrp p => mrp.step (.recv p rx)) hpre hp).symm

/-- A timer of an instance that is in the list expires. -/
theorem Represents.expired (h : Represents known m reg) {c : Block α}
    (hc : m.instances a = some c) (hnodup : (reg.map Mrp.key).Nodup) (w : TimerId) :
    ∃ m', m.update a (·.step (.expired w)) = some m' ∧
      Represents known m' (modifyFirst (Registry.isKey c.mrp.ifindex c.mrp.ringNr)
        (·.step (.expired w)) reg) := by
  obtain ⟨bs, hm, hs, rfl⟩ := h
  obtain ⟨pre, post, rfl⟩ := List.append_of_mem ((hm.instances a c).mp hc)
  obtain ⟨m', hm', h'⟩ := hm.update (·.step (.expired w))
  refine ⟨m', hm', _, h', forall_sound_middle hs
    ((hs (a, c) (by simp)).after rfl (c.mrp.after_step (.expired w))), ?_⟩
  refine (contents_modifyFirst (·.step (.expired w)) (forall_isKey_iff.mpr fun hmem => ?_)
    (Registry.isKey_iff.mpr rfl)).symm
  simp only [contents, List.map_append, List.map_cons, List.nodup_middle, List.nodup_cons] at hnodup
  exact hnodup.1 (List.mem_append_left _ hmem)

/-! ## Netlink messages -/

/-- An instance that `mrp_get_mrp` finds gets the event. -/
theorem Holds.mrpCfmLinkChange (h : Holds known m bs) (hfuel : bs.length < fuel)
    (ifindex peerMepid : UInt32) (defect : Bool) :
    ∃ m' bs', m.mrpCfmLinkChange known fuel ifindex peerMepid defect = some m' ∧
      Holds known m' bs' ∧ Moved bs bs' ∧
      contents bs' = (contents bs).cfmLinkChange ifindex peerMepid defect := by
  rw [Registry.cfmLinkChange_eq]
  rcases h.mrpGetMrp_cases hfuel ifindex peerMepid with ⟨hget, hnone⟩ |
    ⟨pre, a, b, post, rfl, hpre, hb, hget⟩
  · refine ⟨m, bs, by rw [Heap.mrpCfmLinkChange, hget]; rfl, h, .refl bs, ?_⟩
    exact (modifyFirst_of_forall_not (forall_contents (p := fun mrp =>
      Registry.isMrp mrp ifindex peerMepid) hnone)).symm
  · obtain ⟨m', hm', h'⟩ := h.update (·.step (.cfmLinkChange defect))
    refine ⟨m', _, by rw [Heap.mrpCfmLinkChange, hget]; exact hm', h', .middle ?_, ?_⟩
    · exact ⟨b.mrp.after_step (.cfmLinkChange defect), b.mrp.findPort_cfmLinkChange defect⟩
    · exact (contents_modifyFirst (p := fun mrp => Registry.isMrp mrp ifindex peerMepid)
        (·.step (.cfmLinkChange defect)) hpre hb).symm

/-- The loop over the instances on a bridge has visited `done` and not yet `todo`. -/
def Visited (known : Known α) (bs : List (α × Block α)) (ifindex : UInt32) (mac : Mac)
    (done todo : List α) (m : Heap α) : Prop :=
  ∃ bs₁ bs₂, bs = bs₁ ++ bs₂ ∧ done = bs₁.map Prod.fst ∧ todo = bs₂.map Prod.fst ∧
    Holds known m (bs₁.map (bridgeMac ifindex mac) ++ bs₂)

theorem Visited.step {ifindex : UInt32} {mac : Mac} {done todo : List α}
    (h : Visited known bs ifindex mac done (a :: todo) m) :
    ∃ m', m.bridgeMacChange ifindex mac a = some m' ∧
      Visited known bs ifindex mac (done ++ [a]) todo m' := by
  obtain ⟨bs₁, bs₂, hbs, rfl, htodo, h⟩ := h
  cases bs₂ with
  | nil => cases htodo
  | cons x bs₂ =>
      obtain ⟨rfl, rfl⟩ := List.cons.inj htodo
      have hnext : bs = (bs₁ ++ [x]) ++ bs₂ := by simpa using hbs
      have hx : m.instances x.1 = some x.2 := (h.instances x.1 x.2).mpr (by simp)
      by_cases hindex : x.2.mrp.ifindex = ifindex
      · obtain ⟨m', hm', h'⟩ := h.update (·.step (.bridgeMac mac))
        refine ⟨m', ?_, bs₁ ++ [x], bs₂, hnext, by simp, rfl, ?_⟩
        · simpa [bridgeMacChange, hx, hindex] using hm'
        · simpa [bridgeMac, hindex] using h'
      · refine ⟨m, ?_, bs₁ ++ [x], bs₂, hnext, by simp, rfl, ?_⟩
        · simp [bridgeMacChange, hx, hindex]
        · simpa [bridgeMac, hindex] using h

/-- The loop over the instances on a bridge. -/
theorem Holds.forEach_bridgeMac (h : Holds known m bs) (hfuel : bs.length < fuel)
    (ifindex : UInt32) (mac : Mac) :
    ∃ m', forEachRing links known.mrpInstances (fun m => m.bridgeMacChange ifindex mac) fuel m =
        some m' ∧ Holds known m' (bs.map (bridgeMac ifindex mac)) := by
  have hring : ∀ done todo m, Visited known bs ifindex mac done todo m →
      IsRing m.links known.mrpInstances (done ++ todo) := by
    rintro _ _ m' ⟨bs₁, bs₂, -, rfl, rfl, h'⟩
    have hring := h'.ring
    rwa [List.map_append, List.map_map] at hring
  have hlength : (bs.map Prod.fst).length < fuel := by rwa [List.length_map]
  obtain ⟨m', hm', bs₁, bs₂, hbs, -, htodo, h'⟩ :=
    forEachRing_rule hring (fun _ _ _ _ => Visited.step) ⟨[], bs, rfl, rfl, rfl, h⟩ hlength
  refine ⟨m', hm', ?_⟩
  rw [List.map_eq_nil_iff.mp htodo.symm, List.append_nil] at h' hbs
  rwa [hbs]

/-- The address of an interface changes. -/
theorem Holds.mrpMacChange (h : Holds known m bs) (hs : ∀ x ∈ bs, x.2.Sound)
    (hfuel : bs.length < fuel) (ifindex : UInt32) (mac : Mac) :
    ∃ m' bs', m.mrpMacChange known fuel ifindex mac = some m' ∧ Holds known m' bs' ∧
      Moved bs bs' ∧ contents bs' = (contents bs).mrpMacChange ifindex mac := by
  rcases h.mrpGetPort_cases hs hfuel ifindex with ⟨hget, hnone⟩ |
    ⟨pre, a, b, post, p, port, rfl, hpre, hp, hport, hget⟩
  · obtain ⟨m', hm', h'⟩ := h.forEach_bridgeMac hfuel ifindex mac
    refine ⟨m', _, by rw [Heap.mrpMacChange, hget]; exact hm', h',
      moved_bridgeMac bs ifindex mac, ?_⟩
    rw [Registry.mrpMacChange, mrpGetPort_of_none hnone, contents, contents, List.map_map,
      List.map_map]
    rfl
  · obtain ⟨m', hm', h'⟩ := h.onPort hport fun mrp p => mrp.step (.portMac p mac)
    refine ⟨m', _, by rw [Heap.mrpMacChange, hget]; exact hm', h', .middle ?_, ?_⟩
    · exact ⟨b.mrp.after_step (.portMac p mac), b.mrp.findPort_portMac p mac⟩
    · rw [Registry.mrpMacChange, contents_mrpGetPort hpre hp]
      exact (contents_onPort (fun mrp p => mrp.step (.portMac p mac)) hpre hp).symm

/-! ## Destroying instances -/

/-- `mrp_destroy` takes the first instance with the key. -/
theorem Represents.mrpDestroy (h : Represents known m reg) (hfuel : reg.length < fuel)
    (brIfindex ringNr : UInt32) :
    ∃ m', m.mrpDestroy known fuel brIfindex ringNr = some m' ∧
      Represents known m' (reg.eraseP (Registry.isKey brIfindex ringNr)) := by
  obtain ⟨bs, hm, hs, rfl⟩ := h
  rw [contents, List.length_map] at hfuel
  rcases hm.mrpFind_cases hfuel brIfindex ringNr with ⟨hfind, hnone⟩ |
    ⟨pre, a, b, post, rfl, hpre, hkey, hfind⟩
  · refine ⟨m, by rw [Heap.mrpDestroy, hfind]; rfl, bs, hm, hs, ?_⟩
    refine (List.eraseP_of_forall_not fun mrp hmrp => ?_).symm
    simp [forall_contents hnone mrp hmrp]
  · obtain ⟨m', hm', h'⟩ := hm.mrpDestroy hfuel (hs (a, b) (by simp)).distinct hpre hkey
    refine ⟨m', hm', pre ++ post, h', fun x hx => hs x ?_, (contents_eraseP hpre hkey).symm⟩
    simp only [List.mem_append, List.mem_cons] at hx ⊢
    tauto

/-- The first instance of the list is destroyed through its own key. -/
theorem Holds.destroyAt_first (h : Holds known m ((a, b) :: post)) (hb : b.Sound)
    (hfuel : ((a, b) :: post).length < fuel) :
    ∃ m', m.destroyAt known fuel a = some m' ∧ Holds known m' post := by
  have hfirst : Holds known m ([] ++ (a, b) :: post) := h
  obtain ⟨m', hm', h'⟩ := hfirst.mrpDestroy hfuel hb.distinct (by simp) (Registry.isKey_iff.mpr rfl)
  refine ⟨m', ?_, h'⟩
  rw [destroyAt, (h.instances a b).mpr List.mem_cons_self]
  exact hm'

/-- `mrp_uninit` leaves nothing behind. -/
theorem Represents.mrpUninit (h : Represents known m reg) (hfuel : reg.length < fuel) :
    ∃ m', m.mrpUninit known fuel = some m' ∧ Represents known m' [] := by
  obtain ⟨bs, hm, hs, rfl⟩ := h
  rw [contents, List.length_map] at hfuel
  have hstep : ∀ (a : α) todo m, (∃ bs, (bs.map Prod.fst = a :: todo ∧ bs.length < fuel) ∧
      Holds known m bs ∧ ∀ x ∈ bs, x.2.Sound) → ∃ m', m.destroyAt known fuel a = some m' ∧
      ∃ bs, (bs.map Prod.fst = todo ∧ bs.length < fuel) ∧ Holds known m' bs ∧
        ∀ x ∈ bs, x.2.Sound := by
    rintro a todo m ⟨bs, ⟨hbs, hfuel⟩, hm, hs⟩
    cases bs with
    | nil => cases hbs
    | cons x bs =>
        obtain ⟨rfl, rfl⟩ := List.cons.inj hbs
        rw [List.forall_mem_cons] at hs
        obtain ⟨m', hm', h'⟩ := hm.destroyAt_first hs.1 hfuel
        exact ⟨m', hm', bs, ⟨rfl, Nat.lt_of_succ_lt hfuel⟩, h', hs.2⟩
  have hring : ∀ todo m, (∃ bs, (bs.map Prod.fst = todo ∧ bs.length < fuel) ∧
      Holds known m bs ∧ ∀ x ∈ bs, x.2.Sound) → IsRing m.links known.mrpInstances todo := by
    rintro _ m ⟨bs, ⟨rfl, -⟩, hm, -⟩
    exact hm.ring
  have hlength : (bs.map Prod.fst).length < fuel := by rwa [List.length_map]
  obtain ⟨m', hm', bs', ⟨hbs', -⟩, h', hs'⟩ :=
    forEachRingSafe_rule hring hstep ⟨bs, ⟨rfl, hfuel⟩, hm, hs⟩ hlength
  refine ⟨m', hm', bs', h', hs', ?_⟩
  rw [List.map_eq_nil_iff.mp hbs']
  rfl

/-! ## Netlink messages -/

/-- The peers in a message. -/
theorem Holds.listenCfm (h : Holds known m bs) (hfuel : bs.length < fuel) (ifindex : UInt32)
    (cfm : List (UInt32 × Bool)) :
    ∃ m' bs', cfm.foldlM (fun m x => Heap.mrpCfmLinkChange known fuel m ifindex x.1 x.2) m =
        some m' ∧ Holds known m' bs' ∧ Moved bs bs' ∧ contents bs' = cfm.foldl
          (fun reg x => Registry.cfmLinkChange reg ifindex x.1 x.2) (contents bs) := by
  induction cfm generalizing m bs with
  | nil => exact ⟨m, bs, rfl, h, .refl bs, rfl⟩
  | cons x cfm ih =>
      obtain ⟨m', bs', hm', h', hmoved, hcontents⟩ := h.mrpCfmLinkChange hfuel ifindex x.1 x.2
      obtain ⟨m'', bs'', hm'', h'', hmoved', hcontents'⟩ := ih h' (hmoved.length.symm ▸ hfuel)
      refine ⟨m'', bs'', ?_, h'', hmoved.trans hmoved', ?_⟩
      · rw [List.foldlM_cons, hm']
        exact hm''
      · rw [hcontents', hcontents]
        rfl

/-- The address in a message. -/
theorem Holds.listenAddress (h : Holds known m bs) (hs : ∀ x ∈ bs, x.2.Sound)
    (hfuel : bs.length < fuel) (msg : LinkMsg) :
    ∃ m' bs', m.listenAddress known fuel msg = some m' ∧ Holds known m' bs' ∧ Moved bs bs' ∧
      contents bs' = (contents bs).listenAddress msg := by
  unfold Registry.listenAddress Heap.listenAddress
  cases msg.address with
  | none => exact ⟨m, bs, rfl, h, .refl bs, rfl⟩
  | some mac => exact h.mrpMacChange hs hfuel msg.ifindex mac

/-- The operational state in a message, for the port that was found before. -/
theorem Holds.listenOperstate (h : Holds known m (pre ++ (a, b) :: post)) (msg : LinkMsg) {p : Port}
    {port : α} (hpre : ∀ x ∈ pre, x.2.mrp.findPort msg.ifindex = none)
    (hp : b.mrp.findPort msg.ifindex = some p) (hport : b.port p = some port) :
    ∃ m' mrp, m.listenOperstate msg port = some m' ∧
      Holds known m' (pre ++ (a, { b with mrp := mrp }) :: post) ∧ b.mrp.After mrp ∧
      contents (pre ++ (a, { b with mrp := mrp }) :: post) =
        (contents (pre ++ (a, b) :: post)).listenOperstate msg := by
  unfold Registry.listenOperstate Heap.listenOperstate
  cases msg.operstate with
  | none => exact ⟨m, b.mrp, rfl, h, .refl b.mrp, rfl⟩
  | some state =>
      obtain ⟨m', hm', h'⟩ := h.onPort hport fun mrp p => mrp.step (.operstate p state)
      exact ⟨m', _, hm', h', b.mrp.after_step (.operstate p state),
        (contents_onPort (fun mrp p => mrp.step (.operstate p state)) hpre hp).symm⟩

/-- An instance that lost its bridge is destroyed through its own key. -/
theorem Represents.destroyAt (h : Represents known m reg) {c : Block α}
    (hc : m.instances a = some c) (hfuel : reg.length < fuel) :
    ∃ m', m.destroyAt known fuel a = some m' ∧
      Represents known m' (reg.eraseP (Registry.isKey c.mrp.ifindex c.mrp.ringNr)) := by
  obtain ⟨m', hm', h'⟩ := h.mrpDestroy hfuel c.mrp.ifindex c.mrp.ringNr
  refine ⟨m', ?_, h'⟩
  rw [Heap.destroyAt, hc]
  exact hm'

/-- A netlink message. -/
theorem Represents.netlinkListen {t : Table} (h : Represents known m t.instances)
    (hfuel : t.instances.length < fuel) (msg : LinkMsg) :
    ∃ m', m.netlinkListen known fuel msg = some m' ∧
      Represents known m' (t.netlinkListen msg).instances := by
  obtain ⟨bs, hm, hs, hbs⟩ := h
  have hlength : bs.length < fuel := by rwa [← hbs, contents, List.length_map] at hfuel
  obtain ⟨m₁, bs₁, hm₁, h₁, hmoved₁, hbs₁⟩ := hm.listenAddress hs hlength msg
  obtain ⟨m₂, bs₂, hm₂, h₂, hmoved₂, hbs₂⟩ :=
    h₁.listenCfm (hmoved₁.length.symm ▸ hlength) msg.ifindex msg.cfm
  have hmoved := hmoved₁.trans hmoved₂
  have hreg : contents bs₂ = (t.instances.listenAddress msg).listenCfm msg := by
    rw [hbs₂, hbs₁, hbs]
    rfl
  have hs₂ := hmoved.sound hs
  rcases hm.mrpGetPort_cases hs hlength msg.ifindex with ⟨hget, hnone⟩ |
    ⟨pre, a, b, post, p, port, rfl, hpre, hp, hport, hget⟩
  · refine ⟨m₂, ?_, bs₂, h₂, hs₂, ?_⟩
    · simp only [Heap.netlinkListen, hget, hm₁, hm₂, Option.bind_eq_bind, Option.bind_some]
      rfl
    · rw [Table.netlinkListen, ← hbs, mrpGetPort_of_none hnone, hbs]
      exact hreg
  · obtain ⟨pre₂, b₂, post₂, rfl, hpre₂, hport₂, hcalm⟩ := hmoved.split
    obtain ⟨m₃, mrp, hm₃, h₃, hafter, hbs₃⟩ := h₂.listenOperstate msg (hpre₂.findPort hpre)
      ((hcalm.2 msg.ifindex).trans hp) ((congrFun hport₂ p).trans hport)
    have hsound : Block.Sound ⟨mrp, b₂.port⟩ := (hs₂ (a, b₂) (by simp)).after rfl hafter
    have hs₃ := forall_sound_middle hs₂ hsound
    have hkey : mrp.key = b.mrp.key := (hcalm.1.trans hafter).same Mrp.step_key
    rw [Table.netlinkListen, ← hbs, contents_mrpGetPort hpre hp, hbs]
    dsimp only
    rw [← hreg, ← hbs₃]
    simp only [Heap.netlinkListen, hget, hm₁, hm₂, hm₃, Option.bind_eq_bind, Option.bind_some]
    split
    next hmaster => exact ⟨m₃, rfl, _, h₃, hs₃, rfl⟩
    next hmaster =>
      rw [Table.mrpDestroy_instances, h₃.ports_eq ((congrFun hport₂ p).trans hport)]
      obtain ⟨hifindex, hringNr⟩ := Prod.mk.inj hkey
      rw [← hifindex, ← hringNr]
      refine Represents.destroyAt ⟨_, h₃, hs₃, rfl⟩ h₃.instance_eq ?_
      have hsame := hmoved.length
      rw [contents, List.length_map]
      simp only [List.length_append, List.length_cons] at hsame hlength ⊢
      omega

end Events

end Heap

end Umrp
