import Umrp.Model.Heap
import Umrp.System.Ports

/-!
# What the memory holds

The memory holds a list of instances if the list of the source is a ring with these
instances as its nodes, in this order, if nothing else is allocated, and if every port
structure belongs to one port of one instance.  This file says what the operations on the
memory do to the list that it holds.

Main results:

- Theorem `Heap.Holds.mrpFind_cases`: `mrp_find` returns the first instance with the key.
- Theorem `Heap.Holds.mrpCreate`: a new instance is the last one.
- Theorem `Heap.Holds.mrpDestroy`: an instance goes with all its ports.
-/

namespace Umrp

open LinkedRing

/-! ## The operations of `list.h` -/

section List

variable {α : Type} [DecidableEq α] {s : Links α} {head : α}

/-- `list_add_tail` puts a node in before the head. -/
theorem listAddTail_ring {xs : List α} {new : α} (h : IsRing s head xs) (hnew : new ∉ head :: xs)
    (hsome : (s new).isSome = true) :
    ∃ s', listAddTail s new head = some s' ∧ IsRing s' head (xs ++ [new]) ∧
      ∀ x, (s' x).isSome = (s x).isSome := by
  obtain ⟨p, hp, hprev, hring⟩ := h.insertLast hnew
  have hnewHead : new ≠ head := fun heq => hnew (heq ▸ List.mem_cons_self)
  have hnewP : new ≠ p := fun heq => hnew (heq ▸ hp)
  obtain ⟨s₁, hs₁, hsome₁, hprev₁, hnext₁⟩ :=
    exists_setPrev (h.segment.isSome List.mem_cons_self) new
  obtain ⟨s₂, hs₂, hsome₂, hnext₂, hprev₂⟩ := exists_setNext ((hsome₁ new).trans hsome) head
  obtain ⟨s₃, hs₃, hsome₃, hprev₃, hnext₃⟩ :=
    exists_setPrev ((hsome₂ new).trans ((hsome₁ new).trans hsome)) p
  have hsomeP : (s₃ p).isSome = true := by
    rw [hsome₃, hsome₂, hsome₁]
    exact h.segment.isSome hp
  obtain ⟨s₄, hs₄, hsome₄, hnext₄, hprev₄⟩ := exists_setNext hsomeP new
  refine ⟨s₄, ?_, hring s₄ ?_ ?_ ?_ ?_ ?_ ?_, fun x => ?_⟩
  · rw [listAddTail, hprev, Option.bind_eq_bind, Option.bind_some, listAddBetween, hs₁]
    simp only [Option.bind_eq_bind, Option.bind_some, hs₂, hs₃]
    exact hs₄
  · rw [hnext₄, if_pos rfl]
  · rw [hnext₄, if_neg hnewP, hnext₃, hnext₂, if_pos rfl]
  · rw [hprev₄, hprev₃, if_pos rfl]
  · rw [hprev₄, hprev₃, if_neg hnewHead.symm, hprev₂, hprev₁, if_pos rfl]
  · intro x hxp hxn
    rw [hnext₄, if_neg hxp, hnext₃, hnext₂, if_neg hxn, hnext₁]
  · intro x hxh hxn
    rw [hprev₄, hprev₃, if_neg hxn, hprev₂, hprev₁, if_neg hxh]
  · rw [hsome₄, hsome₃, hsome₂, hsome₁]

/-- `list_del` takes a node out. -/
theorem listDel_ring {pre post : List α} {entry : α} (known : Known α)
    (h : IsRing s head (pre ++ entry :: post)) :
    ∃ s', listDel s known entry = some s' ∧ IsRing s' head (pre ++ post) ∧
      ∀ x, (s' x).isSome = (s x).isSome := by
  obtain ⟨p, hp, n, hn, hprev, hnext, hring⟩ := h.bypass
  have hout : entry ∉ head :: (pre ++ post) := by
    have hnodup := h.nodup
    rw [← List.cons_append, List.nodup_middle, List.nodup_cons] at hnodup
    exact hnodup.1
  have hkept : ∀ x ∈ head :: (pre ++ post), (s x).isSome = true := fun x hx =>
    h.segment.isSome (List.Sublist.mem hx
      (.cons_cons _ (.append_left (List.sublist_cons_self entry post) pre)))
  have hpy : p ≠ entry := fun heq => hout (heq ▸ hp)
  have hny : n ≠ entry := fun heq => hout (heq ▸ hn)
  have hentry : (s entry).isSome = true := h.segment.isSome (by simp)
  obtain ⟨s₁, hs₁, hsome₁, hprev₁, hnext₁⟩ := exists_setPrev (hkept n hn) p
  obtain ⟨s₂, hs₂, hsome₂, hnext₂, hprev₂⟩ := exists_setNext ((hsome₁ p).trans (hkept p hp)) n
  obtain ⟨s₃, hs₃, hsome₃, hnext₃, hprev₃⟩ :=
    exists_setNext ((hsome₂ entry).trans ((hsome₁ entry).trans hentry)) known.listPoison1
  have hsomeE : (s₃ entry).isSome = true := by
    rw [hsome₃, hsome₂, hsome₁]
    exact hentry
  obtain ⟨s₄, hs₄, hsome₄, hprev₄, hnext₄⟩ := exists_setPrev hsomeE known.listPoison2
  refine ⟨s₄, ?_, hring s₄ ?_ ?_ ?_ ?_, fun x => ?_⟩
  · rw [listDel, hprev, hnext]
    simp only [Option.bind_eq_bind, Option.bind_some, listDelBetween, hs₁, hs₂, hs₃]
    exact hs₄
  · rw [hnext₄, hnext₃, if_neg hpy, hnext₂, if_pos rfl]
  · rw [hprev₄, if_neg hny, hprev₃, hprev₂, hprev₁, if_pos rfl]
  · intro x hxp hxy
    rw [hnext₄, hnext₃, if_neg hxy, hnext₂, if_neg hxp, hnext₁]
  · intro x hxn hxy
    rw [hprev₄, if_neg hxy, hprev₃, hprev₂, hprev₁, if_neg hxn]
  · rw [hsome₄, hsome₃, hsome₂, hsome₁]

end List

namespace Heap

variable {α : Type}

/-- The instances in memory, with their addresses. -/
structure Holds (known : Known α) (m : Heap α) (bs : List (α × Block α)) : Prop where
  ring : IsRing m.links known.mrpInstances (bs.map Prod.fst)
  nodes : ∀ a, (m.links a).isSome = true → a ∈ known.mrpInstances :: bs.map Prod.fst
  instances : ∀ a b, m.instances a = some b ↔ (a, b) ∈ bs
  ports : ∀ port a, m.ports port = some a ↔ ∃ b p, (a, b) ∈ bs ∧ b.port p = some port
  apart : ∀ x ∈ bs, ∀ p q port, x.2.port p = some port → x.2.port q = some port → p = q

variable {known : Known α} {m : Heap α} {bs pre post : List (α × Block α)} {a : α} {b : Block α}

/-- The addresses are distinct. -/
theorem Holds.nodup (h : Holds known m bs) : (bs.map Prod.fst).Nodup := h.ring.nodup.of_cons

/-- One of the instances and the others. -/
theorem mem_middle (hnodup : ((pre ++ (a, b) :: post).map Prod.fst).Nodup) {x : α} {c : Block α} :
    (x, c) ∈ pre ++ (a, b) :: post ↔ x = a ∧ c = b ∨ x ≠ a ∧ (x, c) ∈ pre ++ post := by
  have hother : ∀ d, (a, d) ∉ pre ++ post := by
    intro d hd
    rw [List.map_append, List.map_cons, List.nodup_middle, List.nodup_cons,
      ← List.map_append] at hnodup
    exact hnodup.1 (List.mem_map.mpr ⟨_, hd, rfl⟩)
  have hmem : (x, c) ∈ pre ++ (a, b) :: post ↔ (x, c) = (a, b) ∨ (x, c) ∈ pre ++ post := by
    simp only [List.mem_append, List.mem_cons]
    exact or_left_comm
  rw [hmem, Prod.mk.injEq]
  refine or_congr_right ⟨fun hin => ⟨?_, hin⟩, And.right⟩
  rintro rfl
  exact hother c hin

/-! ## Lookups -/

section Lookups

variable [DecidableEq α] {β : Type} {fuel : Nat}

/-- A loop with a `return` in it. -/
theorem Holds.search (h : Holds known m bs) (hfuel : bs.length < fuel)
    {test : α → Option (Option β)} {g : α × Block α → Option β}
    (htest : ∀ x ∈ bs, test x.1 = some (g x)) :
    searchRing m.links known.mrpInstances test fuel = some (bs.findSome? g) := by
  have hfound : (bs.map Prod.fst).findSome? (fun a => (test a).join) = bs.findSome? g := by
    rw [List.findSome?_map]
    clear h hfuel
    induction bs with
    | nil => rfl
    | cons x bs ih =>
        have hx : (test x.1).join = g x := by
          rw [htest x List.mem_cons_self]
          rfl
        rw [List.findSome?_cons, List.findSome?_cons, Function.comp_apply, hx,
          ih fun y hy => htest y (List.mem_cons_of_mem _ hy)]
  rw [← hfound]
  refine h.ring.searchRing ?_ (by simpa using hfuel)
  intro a ha
  obtain ⟨x, hx, rfl⟩ := List.mem_map.mp ha
  rw [htest x hx]
  rfl

/-- The instance that a loop looks for. -/
theorem Holds.search_middle (h : Holds known m (pre ++ (a, b) :: post))
    (hfuel : (pre ++ (a, b) :: post).length < fuel) {p : Mrp → Bool} {test : α → Option (Option α)}
    (htest : ∀ x ∈ pre ++ (a, b) :: post,
      test x.1 = some (if p x.2.mrp then some x.1 else none))
    (hpre : ∀ x ∈ pre, p x.2.mrp = false) (hp : p b.mrp = true) :
    searchRing m.links known.mrpInstances test fuel = some (some a) := by
  have hnone : pre.findSome? (fun x => if p x.2.mrp then some x.1 else none) = none := by
    rw [List.findSome?_eq_none_iff]
    intro x hx
    simp [hpre x hx]
  rw [h.search hfuel htest, List.findSome?_append, hnone, List.findSome?_cons]
  simp [hp]

/-- An instance that a loop looks for, or its absence. -/
theorem Holds.search_cases (h : Holds known m bs) (hfuel : bs.length < fuel) {p : Mrp → Bool}
    {test : α → Option (Option α)}
    (htest : ∀ x ∈ bs, test x.1 = some (if p x.2.mrp then some x.1 else none)) :
    searchRing m.links known.mrpInstances test fuel = some none ∧ (∀ x ∈ bs, p x.2.mrp = false) ∨
      ∃ pre a b post, bs = pre ++ (a, b) :: post ∧ (∀ x ∈ pre, p x.2.mrp = false) ∧
        p b.mrp = true ∧ searchRing m.links known.mrpInstances test fuel = some (some a) := by
  rw [h.search hfuel htest]
  cases hfound : bs.findSome? fun x => if p x.2.mrp then some x.1 else none with
  | none =>
      refine .inl ⟨rfl, fun x hx => ?_⟩
      have hx' := List.findSome?_eq_none_iff.mp hfound x hx
      simpa using hx'
  | some a =>
      obtain ⟨pre, x, post, hbs, hx, hpre⟩ := List.findSome?_eq_some_iff.mp hfound
      refine .inr ⟨pre, x.1, x.2, post, hbs, fun y hy => by simpa using hpre y hy, ?_, ?_⟩
      · by_contra hno
        simp [hno] at hx
      · split at hx
        · rw [Option.some.inj hx]
        · cases hx

/-- `mrp_find` returns the first instance with the key. -/
theorem Holds.mrpFind_cases (h : Holds known m bs) (hfuel : bs.length < fuel)
    (brIfindex ringNr : UInt32) :
    m.mrpFind known fuel brIfindex ringNr = some none ∧
        (∀ x ∈ bs, Registry.isKey brIfindex ringNr x.2.mrp = false) ∨
      ∃ pre a b post, bs = pre ++ (a, b) :: post ∧
        (∀ x ∈ pre, Registry.isKey brIfindex ringNr x.2.mrp = false) ∧
        Registry.isKey brIfindex ringNr b.mrp = true ∧
        m.mrpFind known fuel brIfindex ringNr = some (some a) := by
  refine h.search_cases hfuel ?_
  intro x hx
  rw [(h.instances x.1 x.2).mpr hx]
  rfl

/-- `mrp_get_mrp` returns the first instance that fits. -/
theorem Holds.mrpGetMrp_cases (h : Holds known m bs) (hfuel : bs.length < fuel)
    (ifindex peerMepid : UInt32) :
    m.mrpGetMrp known fuel ifindex peerMepid = some none ∧
        (∀ x ∈ bs, Registry.isMrp x.2.mrp ifindex peerMepid = false) ∨
      ∃ pre a b post, bs = pre ++ (a, b) :: post ∧
        (∀ x ∈ pre, Registry.isMrp x.2.mrp ifindex peerMepid = false) ∧
        Registry.isMrp b.mrp ifindex peerMepid = true ∧
        m.mrpGetMrp known fuel ifindex peerMepid = some (some a) := by
  refine h.search_cases (p := fun mrp => Registry.isMrp mrp ifindex peerMepid) hfuel ?_
  intro x hx
  rw [(h.instances x.1 x.2).mpr hx]
  rfl

end Lookups

/-! ## Work inside an instance -/

/-- The instance at an address. -/
theorem Holds.instance_eq (h : Holds known m (pre ++ (a, b) :: post)) :
    m.instances a = some b :=
  (h.instances a b).mpr (by simp)

/-- A port structure belongs to an instance in the list. -/
theorem Holds.ports_eq (h : Holds known m (pre ++ (a, b) :: post)) {p : Port} {port : α}
    (hp : b.port p = some port) : m.ports port = some a :=
  (h.ports port a).mpr ⟨b, p, by simp, hp⟩

/-- The port structures of an instance. -/
theorem Holds.own_iff (h : Holds known m (pre ++ (a, b) :: post)) (port : α) :
    m.ports port = some a ↔ ∃ p, b.port p = some port := by
  rw [h.ports port a]
  simp [mem_middle h.nodup]

theorem Holds.apart_middle (h : Holds known m (pre ++ (a, b) :: post)) {p q : Port} {port : α}
    (hp : b.port p = some port) (hq : b.port q = some port) : p = q :=
  h.apart (a, b) (by simp) p q port hp hq

section Instance

variable [DecidableEq α]

/-- An instance is changed, and maybe its ports; the port structures of the others stay. -/
theorem Holds.rewire (h : Holds known m (pre ++ (a, b) :: post)) {b' : Block α}
    {ports : α → Option α} (hown : ∀ port, ports port = some a ↔ ∃ p, b'.port p = some port)
    (hother : ∀ port x, x ≠ a → (ports port = some x ↔ m.ports port = some x))
    (hapart : ∀ p q port, b'.port p = some port → b'.port q = some port → p = q) :
    Holds known { m with instances := Function.update m.instances a (some b'), ports := ports }
      (pre ++ (a, b') :: post) := by
  have hmap : (pre ++ (a, b') :: post).map Prod.fst = (pre ++ (a, b) :: post).map Prod.fst := by
    simp
  have hnodup' : ((pre ++ (a, b') :: post).map Prod.fst).Nodup := hmap ▸ h.nodup
  refine ⟨hmap ▸ h.ring, hmap ▸ h.nodes, ?_, ?_, ?_⟩
  · intro x c
    rw [mem_middle hnodup']
    by_cases hx : x = a
    · simp [hx, eq_comm]
    · simp [hx, h.instances x c, mem_middle h.nodup]
  · intro port x
    by_cases hx : x = a
    · subst hx
      rw [hown port]
      simp [mem_middle hnodup']
    · rw [hother port x hx, h.ports port x]
      simp [mem_middle hnodup', mem_middle h.nodup, hx]
  · intro x hx
    rcases (mem_middle hnodup').mp hx with ⟨-, hb⟩ | ⟨-, hx⟩
    · rw [hb]
      exact hapart
    · exact h.apart x (by simp only [List.mem_append, List.mem_cons] at hx ⊢; tauto)

/-- Work inside an instance. -/
theorem Holds.update (h : Holds known m (pre ++ (a, b) :: post)) (f : Mrp → Mrp) :
    ∃ m', m.update a f = some m' ∧
      Holds known m' (pre ++ (a, { b with mrp := f b.mrp }) :: post) := by
  refine ⟨_, ?_, h.rewire h.own_iff (fun _ _ _ => Iff.rfl) fun _ _ _ => h.apart_middle⟩
  rw [Heap.update, h.instance_eq]
  rfl

/-- A port structure leads to its instance, and is one of its ports. -/
theorem Holds.onPort (h : Holds known m (pre ++ (a, b) :: post)) {p : Port} {port : α}
    (hp : b.port p = some port) (f : Mrp → Port → Mrp) :
    ∃ m', m.onPort port f = some m' ∧
      Holds known m' (pre ++ (a, { b with mrp := f b.mrp p }) :: post) := by
  have hat : b.portAt port = some p := by
    have hsome : (b.portAt port).isSome = true := by
      rw [Block.portAt, List.find?_isSome]
      refine ⟨p, ?_, by simpa using hp⟩
      cases p with
      | ring r => cases r <;> simp
      | inter => simp
    obtain ⟨q, hq⟩ := Option.isSome_iff_exists.mp hsome
    have hfound : b.port q = some port := by simpa using List.find?_some hq
    rw [hq, h.apart_middle hfound hp]
  obtain ⟨m', hm', hholds⟩ := h.update fun mrp => f mrp p
  refine ⟨m', ?_, hholds⟩
  rw [Heap.onPort, h.ports_eq hp]
  simp only [Option.bind_eq_bind, Option.bind_some, h.instance_eq, hat]
  exact hm'

/-! ## Building an instance -/

/-- A new instance is the last one, and has no ports. -/
theorem Holds.mrpCreate (h : Holds known m bs) (hfree : m.links a = none) (env : Env)
    (brIfindex ringNr : UInt32) (inId : UInt16) :
    ∃ m', m.mrpCreate known env a brIfindex ringNr inId = some m' ∧
      Holds known m' (bs ++ [(a, ⟨Mrp.create env brIfindex ringNr inId, fun _ => none⟩)]) := by
  have hnew : a ∉ known.mrpInstances :: bs.map Prod.fst := by
    intro hmem
    have hsome := h.ring.segment.isSome hmem
    rw [hfree] at hsome
    cases hsome
  have hring : IsRing (Function.update m.links a (some ⟨known.null, known.null⟩))
      known.mrpInstances (bs.map Prod.fst) := by
    refine h.ring.congr fun x hx => Function.update_of_ne ?_ _ _
    rintro rfl
    exact hnew hx
  obtain ⟨links, hlinks, hring', hsome⟩ := listAddTail_ring hring hnew (by simp)
  have hbs : ∀ c, (a, c) ∉ bs := fun c hc =>
    hnew (List.mem_cons_of_mem _ (List.mem_map.mpr ⟨_, hc, rfl⟩))
  refine ⟨_, by rw [Heap.mrpCreate, hlinks]; rfl, ?_, ?_, ?_, ?_, ?_⟩
  · rw [List.map_append]
    exact hring'
  · intro x hx
    rw [hsome x] at hx
    rw [List.map_append, ← List.cons_append, List.mem_append]
    by_cases hxa : x = a
    · exact .inr (by simp [hxa])
    · rw [Function.update_of_ne hxa] at hx
      exact .inl (h.nodes x hx)
  · intro x c
    by_cases hxa : x = a
    · simp [hxa, hbs, eq_comm]
    · simp [hxa, h.instances x c]
  · intro port x
    rw [h.ports port x]
    refine exists_congr fun c => exists_congr fun p => and_congr_left fun hp => ?_
    rw [List.mem_append, List.mem_singleton, Prod.mk.injEq]
    refine ⟨.inl, fun hc => hc.resolve_right ?_⟩
    rintro ⟨-, rfl⟩
    cases hp
  · intro x hx p q port hp
    rcases List.mem_append.mp hx with hx | hx
    · exact h.apart x hx p q port hp
    · rw [List.mem_singleton.mp hx] at hp
      cases hp

/-- A port of the instance gets a structure that was free. -/
theorem Holds.mrpPortInit (h : Holds known m (pre ++ (a, b) :: post)) {p : Port} {port : α}
    (hfree : m.ports port = none) (hnone : b.port p = none) (env : Env) (ifindex : UInt32) :
    ∃ m', m.mrpPortInit env a port ifindex p = some m' ∧
      Holds known m' (pre ++ (a, ⟨b.mrp.portInit env ifindex p,
        Function.update b.port p (some port)⟩) :: post) := by
  have hunused : ∀ q, b.port q ≠ some port := by
    intro q hq
    have hsome := h.ports_eq hq
    rw [hfree] at hsome
    cases hsome
  refine ⟨_, by rw [Heap.mrpPortInit, h.instance_eq]; rfl, h.rewire ?_ ?_ ?_⟩
  · intro x
    dsimp only
    by_cases hx : x = port
    · subst hx
      rw [Function.update_self]
      exact iff_of_true rfl ⟨p, Function.update_self ..⟩
    · rw [Function.update_of_ne hx, h.own_iff x]
      refine exists_congr fun q => ?_
      by_cases hq : q = p
      · subst hq
        simp [hnone, Ne.symm hx]
      · rw [Function.update_of_ne hq]
  · intro x y hy
    by_cases hx : x = port
    · subst hx
      simp [hfree, Ne.symm hy]
    · rw [Function.update_of_ne hx]
  · intro q r x hq hr
    dsimp only at hq hr
    by_cases hqp : q = p
    · subst hqp
      rw [Function.update_self] at hq
      by_contra hne
      rw [Function.update_of_ne (Ne.symm hne)] at hr
      exact hunused r (hr.trans hq.symm)
    · rw [Function.update_of_ne hqp] at hq
      by_cases hrp : r = p
      · subst hrp
        rw [Function.update_self] at hr
        exact absurd (hq.trans hr.symm) (hunused q)
      · rw [Function.update_of_ne hrp] at hr
        exact h.apart_middle hq hr

/-! ## Giving up ports -/

/-- The port structures without the one that a pointer points to. -/
def without (ports : α → Option α) (pointer : Option α) : α → Option α :=
  fun x => if pointer = some x then none else ports x

theorem without_none (ports : α → Option α) : without ports none = ports := by
  funext x
  simp [without]

theorem without_some (ports : α → Option α) (port : α) :
    without ports (some port) = Function.update ports port none := by
  funext x
  simp [without, Function.update_apply, eq_comm]

/-- A pointer to a port structure is NULL or leads to one. -/
theorem freePortOf_eq {p : Block α → Port} (hb : m.instances a = some b)
    (hlive : ∀ port, b.port (p b) = some port → m.ports port = some a) :
    m.freePortOf a p = some { m with ports := without m.ports (b.port (p b)) } := by
  rw [freePortOf, hb]
  simp only [Option.bind_eq_bind, Option.bind_some]
  cases hp : b.port (p b) with
  | none =>
      rw [without_none]
      rfl
  | some port => simp [freePort, hlive port hp, without_some]

theorem mrpPortUninit_eq {p : Port} (hb : m.instances a = some b)
    (hlive : ∀ port, b.port p = some port → m.ports port = some a) :
    m.mrpPortUninit (b.port p) = some { m with ports := without m.ports (b.port p) } := by
  cases hp : b.port p with
  | none => rw [without_none, mrpPortUninit]
  | some port => simp [mrpPortUninit, freePort, hlive port hp, hb, without_some]

/-- `mrp_add` gives up a port. -/
theorem Holds.dropPort (h : Holds known m (pre ++ (a, b) :: post)) (p : Block α → Port) :
    ∃ m', m.dropPort a p = some m' ∧
      Holds known m' (pre ++ (a, ⟨if p b = .inter then b.mrp.dropInPort else b.mrp,
        Function.update b.port (p b) none⟩) :: post) := by
  refine ⟨{ m with
    instances := Function.update m.instances a
      (some ⟨if p b = .inter then b.mrp.dropInPort else b.mrp, Function.update b.port (p b) none⟩)
    ports := without m.ports (b.port (p b)) }, ?_, h.rewire ?_ ?_ ?_⟩
  · rw [Heap.dropPort, h.instance_eq]
    simp only [Option.bind_eq_bind, Option.bind_some,
      mrpPortUninit_eq h.instance_eq fun _ hp => h.ports_eq hp, h.instance_eq]
    rfl
  · intro x
    by_cases hx : b.port (p b) = some x
    · rw [without, if_pos hx]
      refine iff_of_false (by simp) ?_
      rintro ⟨q, hq⟩
      by_cases hqp : q = p b
      · simp [hqp] at hq
      · dsimp only at hq
        rw [Function.update_of_ne hqp] at hq
        exact hqp (h.apart_middle hq hx)
    · rw [without, if_neg hx, h.own_iff x]
      refine exists_congr fun q => ?_
      by_cases hqp : q = p b
      · simp [hqp, hx]
      · dsimp only
        rw [Function.update_of_ne hqp]
  · intro x y hy
    by_cases hx : b.port (p b) = some x
    · simp [without, hx, h.ports_eq hx, Ne.symm hy]
    · rw [without, if_neg hx]
  · intro q r x hq hr
    dsimp only at hq hr
    by_cases hqp : q = p b
    · simp [hqp] at hq
    · by_cases hrp : r = p b
      · simp [hrp] at hr
      · rw [Function.update_of_ne hqp] at hq
        rw [Function.update_of_ne hrp] at hr
        exact h.apart_middle hq hr

/-- The three pointers of an instance lead to its port structures, and to each of them once. -/
theorem Holds.freePorts (h : Holds known m (pre ++ (a, b) :: post))
    (hdistinct : b.mrp.pPort ≠ b.mrp.sPort) :
    ∃ ports, m.freePorts a = some { m with ports := ports } ∧
      ∀ port x, ports port = some x ↔ x ≠ a ∧ m.ports port = some x := by
  have hfirst := freePortOf_eq (p := fun c => .ring c.mrp.pPort) h.instance_eq
    fun _ hp => h.ports_eq hp
  have hsecond := freePortOf_eq
    (m := ⟨m.links, m.instances, without m.ports (b.port (.ring b.mrp.pPort))⟩)
    (p := fun c => .ring c.mrp.sPort) h.instance_eq fun port hp => by
      have hother : b.port (.ring b.mrp.pPort) ≠ some port := fun heq =>
        hdistinct (by simpa using h.apart_middle heq hp)
      exact (if_neg hother).trans (h.ports_eq hp)
  have hthird := freePortOf_eq
    (m := ⟨m.links, m.instances, without (without m.ports (b.port (.ring b.mrp.pPort)))
      (b.port (.ring b.mrp.sPort))⟩)
    (p := fun _ => .inter) h.instance_eq fun port hp => by
      have hother : ∀ r, b.port (.ring r) ≠ some port := fun r heq => by
        simpa using h.apart_middle heq hp
      exact (if_neg (hother _)).trans ((if_neg (hother _)).trans (h.ports_eq hp))
  refine ⟨without (without (without m.ports (b.port (.ring b.mrp.pPort)))
    (b.port (.ring b.mrp.sPort))) (b.port .inter), ?_, fun port x => ?_⟩
  · simp only [Heap.freePorts, Option.bind_eq_bind, hfirst, Option.bind_some, hsecond]
    exact hthird
  · by_cases hown : ∃ p, b.port p = some port
    · obtain ⟨p, hp⟩ := hown
      have hgone : b.port (.ring b.mrp.pPort) = some port ∨
          b.port (.ring b.mrp.sPort) = some port ∨ b.port .inter = some port := by
        cases p with
        | inter => exact .inr (.inr hp)
        | ring r =>
            rcases Mrp.ringPort_cases hdistinct r with rfl | rfl
            · exact .inl hp
            · exact .inr (.inl hp)
      rw [h.ports_eq hp, Option.some.injEq]
      refine iff_of_false ?_ fun hxa => hxa.1 hxa.2.symm
      rcases hgone with hg | hg | hg <;> simp [without, hg]
    · rw [not_exists] at hown
      simp only [without, hown, if_false]
      refine ⟨fun hx => ⟨?_, hx⟩, And.right⟩
      rintro rfl
      obtain ⟨p, hp⟩ := (h.own_iff port).mp hx
      exact hown p hp

/-- An instance is taken out of the list and freed, once its port structures are. -/
theorem Holds.remove (h : Holds known m (pre ++ (a, b) :: post)) {ports : α → Option α}
    (hports : ∀ port x, ports port = some x ↔ x ≠ a ∧ m.ports port = some x) :
    ∃ links, listDel m.links known a = some links ∧
      Holds known ⟨Function.update links a none, Function.update m.instances a none, ports⟩
        (pre ++ post) := by
  have hring : IsRing m.links known.mrpInstances (pre.map Prod.fst ++ a :: post.map Prod.fst) := by
    have hring := h.ring
    rwa [List.map_append, List.map_cons] at hring
  have hnodup := hring.nodup
  rw [← List.cons_append, List.nodup_middle, List.nodup_cons] at hnodup
  have hother : ∀ c, (a, c) ∉ pre ++ post := by
    intro c hc
    have hmem : a ∈ pre.map Prod.fst ++ post.map Prod.fst := by
      rw [← List.map_append]
      exact List.mem_map.mpr ⟨_, hc, rfl⟩
    exact hnodup.1 (List.mem_cons_of_mem _ hmem)
  obtain ⟨links, hlinks, hring', hsome⟩ := listDel_ring known hring
  refine ⟨links, hlinks, ?_, fun x hx => ?_, fun x c => ?_, fun port x => ?_, fun x hx => ?_⟩
  · rw [List.map_append]
    refine hring'.congr fun x hx => Function.update_of_ne ?_ _ _
    rintro rfl
    exact hnodup.1 hx
  · by_cases hxa : x = a
    · simp [hxa] at hx
    · dsimp only at hx
      rw [Function.update_of_ne hxa, hsome x] at hx
      have hmem := h.nodes x hx
      simp only [List.map_append, List.map_cons, List.mem_cons, List.mem_append] at hmem ⊢
      tauto
  · by_cases hxa : x = a
    · simp [hxa, hother]
    · dsimp only
      rw [Function.update_of_ne hxa, h.instances x c, mem_middle h.nodup]
      simp [hxa]
  · rw [hports port x, h.ports port x]
    constructor
    · rintro ⟨hxa, c, p, hc, hp⟩
      rw [mem_middle h.nodup] at hc
      exact ⟨c, p, (hc.resolve_left fun hx => hxa hx.1).2, hp⟩
    · rintro ⟨c, p, hc, hp⟩
      have hxa : x ≠ a := fun heq => hother c (heq ▸ hc)
      exact ⟨hxa, c, p, (mem_middle h.nodup).mpr (.inr ⟨hxa, hc⟩), hp⟩
  · exact h.apart x (by simp only [List.mem_append, List.mem_cons] at hx ⊢; tauto)

/-- An instance goes with all its ports. -/
theorem Holds.mrpDestroy (h : Holds known m (pre ++ (a, b) :: post)) {fuel : Nat}
    (hfuel : (pre ++ (a, b) :: post).length < fuel) (hdistinct : b.mrp.pPort ≠ b.mrp.sPort)
    {brIfindex ringNr : UInt32}
    (hpre : ∀ x ∈ pre, Registry.isKey brIfindex ringNr x.2.mrp = false)
    (hkey : Registry.isKey brIfindex ringNr b.mrp = true) :
    ∃ m', m.mrpDestroy known fuel brIfindex ringNr = some m' ∧ Holds known m' (pre ++ post) := by
  have hfind : m.mrpFind known fuel brIfindex ringNr = some (some a) := by
    refine h.search_middle hfuel (fun x hx => ?_) hpre hkey
    rw [(h.instances x.1 x.2).mpr hx]
    rfl
  obtain ⟨m₁, hm₁, h₁⟩ := h.update Mrp.destroy
  have hring := b.mrp.ring_resetRingState
  have hp : b.mrp.destroy.pPort = b.mrp.pPort := congrArg Ring.pPort hring
  have hs : b.mrp.destroy.sPort = b.mrp.sPort := congrArg Ring.sPort hring
  obtain ⟨ports, hfree, hports⟩ := h₁.freePorts (by rw [hp, hs]; exact hdistinct)
  obtain ⟨links, hlinks, hholds⟩ := h₁.remove hports
  refine ⟨_, ?_, hholds⟩
  rw [Heap.mrpDestroy, hfind]
  simp only [Option.bind_eq_bind, Option.bind_some, hm₁, hfree, hlinks]
  rfl

end Instance

end Heap

end Umrp
