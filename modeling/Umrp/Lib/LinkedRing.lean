import Mathlib.Data.List.Nodup
import Mathlib.Logic.Function.Basic
import Mathlib.Tactic.Common

/-!
# Rings of linked nodes

A doubly linked list whose first and last node are linked to a head that is a node
itself.  The nodes lie in memory, each at its own address; an address without a node
must not be read or written.  This file describes such rings by the addresses of their
nodes, says how the writes that put a node in or take one out change the ring, and gives
rules for the loops that go around it.

Main results:

- Theorem `Segment.exists_last`: the node before the end of a stretch, and what has to
  be written to lead the stretch somewhere else.
- Theorem `IsRing.insertLast`: four links put a node in before the head.
- Theorem `IsRing.bypass`: two links take a node out.
- Theorem `IsRing.searchRing`: the loop that stops at the first node that passes a test.
- Theorems `forEachRing_rule` and `forEachRingSafe_rule`: the loops over all nodes.
-/

namespace LinkedRing

universe u

variable {α : Type u}

/-- The links of a node. -/
structure Node (α : Type u) where
  next : α
  prev : α

/-- The nodes in memory. -/
abbrev Links (α : Type u) := α → Option (Node α)

section Words

variable (s : Links α)

/-- Follow the link to the next node. -/
def next? (a : α) : Option α := (s a).map Node.next

/-- Follow the link to the previous node. -/
def prev? (a : α) : Option α := (s a).map Node.prev

variable [DecidableEq α]

/-- Write the link to the next node. -/
def setNext (a v : α) : Option (Links α) :=
  (s a).map fun n => Function.update s a (some { n with next := v })

/-- Write the link to the previous node. -/
def setPrev (a v : α) : Option (Links α) :=
  (s a).map fun n => Function.update s a (some { n with prev := v })

variable {s}

/-- A node that can be read can be written. -/
theorem exists_setNext {a : α} (h : (s a).isSome = true) (v : α) :
    ∃ s', setNext s a v = some s' ∧ (∀ x, (s' x).isSome = (s x).isSome) ∧
      (∀ x, next? s' x = if x = a then some v else next? s x) ∧ ∀ x, prev? s' x = prev? s x := by
  obtain ⟨n, hn⟩ := Option.isSome_iff_exists.mp h
  refine ⟨_, by rw [setNext, hn]; rfl, ?_, ?_, ?_⟩ <;> intro x
  · by_cases hx : x = a
    · simp [hx, hn]
    · simp [hx]
  · by_cases hx : x = a
    · simp [hx, next?]
    · simp [hx, next?]
  · by_cases hx : x = a
    · simp [hx, prev?, hn]
    · simp [hx, prev?]

theorem exists_setPrev {a : α} (h : (s a).isSome = true) (v : α) :
    ∃ s', setPrev s a v = some s' ∧ (∀ x, (s' x).isSome = (s x).isSome) ∧
      (∀ x, prev? s' x = if x = a then some v else prev? s x) ∧ ∀ x, next? s' x = next? s x := by
  obtain ⟨n, hn⟩ := Option.isSome_iff_exists.mp h
  refine ⟨_, by rw [setPrev, hn]; rfl, ?_, ?_, ?_⟩ <;> intro x
  · by_cases hx : x = a
    · simp [hx, hn]
    · simp [hx]
  · by_cases hx : x = a
    · simp [hx, prev?]
    · simp [hx, prev?]
  · by_cases hx : x = a
    · simp [hx, next?, hn]
    · simp [hx, next?]

end Words

/-! ## Stretches -/

/-- From `a` the links lead through `xs` to `b`, and back. -/
def Segment (s : Links α) : α → List α → α → Prop
  | a, [], b => next? s a = some b ∧ prev? s b = some a
  | a, x :: xs, b => next? s a = some x ∧ prev? s x = some a ∧ Segment s x xs b

/-- Only the links that a stretch follows matter. -/
theorem Segment.congr {s s' : Links α} {a b : α} {xs : List α} (h : Segment s a xs b)
    (hnext : ∀ x ∈ a :: xs, next? s' x = next? s x)
    (hprev : ∀ x ∈ xs ++ [b], prev? s' x = prev? s x) : Segment s' a xs b := by
  induction xs generalizing a with
  | nil =>
      exact ⟨(hnext a List.mem_cons_self).trans h.1, (hprev b List.mem_cons_self).trans h.2⟩
  | cons x xs ih =>
      refine ⟨(hnext a List.mem_cons_self).trans h.1, (hprev x List.mem_cons_self).trans h.2.1, ?_⟩
      exact ih h.2.2 (fun y hy => hnext y (List.mem_cons_of_mem _ hy))
        fun y hy => hprev y (List.mem_cons_of_mem _ hy)

/-- A node inside splits a stretch. -/
theorem segment_append {s : Links α} {a b y : α} {xs ys : List α} :
    Segment s a (xs ++ y :: ys) b ↔ Segment s a xs y ∧ Segment s y ys b := by
  induction xs generalizing a with
  | nil => simp [Segment, and_assoc]
  | cons x xs ih => simp [Segment, ih, and_assoc]

/-- There is a node at every address of a stretch. -/
theorem Segment.isSome {s : Links α} {a b : α} {xs : List α} (h : Segment s a xs b) {x : α}
    (hx : x ∈ a :: xs) : (s x).isSome = true := by
  induction xs generalizing a with
  | nil =>
      rw [List.mem_singleton.mp hx, ← Option.isSome_map (f := Node.next)]
      exact Option.isSome_of_mem h.1
  | cons y xs ih =>
      rcases List.mem_cons.mp hx with rfl | hx
      · rw [← Option.isSome_map (f := Node.next)]
        exact Option.isSome_of_mem h.1
      · exact ih h.2.2 hx

/-- The end of a stretch and its last node are linked.  Writing these two links anew leads
the stretch to another end. -/
theorem Segment.exists_last {s : Links α} {a b : α} {xs : List α} (h : Segment s a xs b)
    (hnodup : (a :: xs).Nodup) :
    ∃ p ∈ a :: xs, prev? s b = some p ∧ ∀ s' c, next? s' p = some c → prev? s' c = some p →
      (∀ x ∈ a :: xs, x ≠ p → next? s' x = next? s x) → (∀ x ∈ xs, prev? s' x = prev? s x) →
      Segment s' a xs c := by
  induction xs generalizing a with
  | nil => exact ⟨a, List.mem_cons_self, h.2, fun s' c hnext hprev _ _ => ⟨hnext, hprev⟩⟩
  | cons x xs ih =>
      obtain ⟨p, hp, hb, hlead⟩ := ih h.2.2 hnodup.of_cons
      refine ⟨p, List.mem_cons_of_mem _ hp, hb, fun s' c hnext hprev hnexts hprevs => ?_⟩
      have hne : a ≠ p := by
        rintro rfl
        exact (List.nodup_cons.mp hnodup).1 hp
      refine ⟨(hnexts a List.mem_cons_self hne).trans h.1,
        (hprevs x List.mem_cons_self).trans h.2.1, ?_⟩
      exact hlead s' c hnext hprev (fun y hy => hnexts y (List.mem_cons_of_mem _ hy))
        fun y hy => hprevs y (List.mem_cons_of_mem _ hy)

/-! ## Rings -/

/-- The ring with the nodes `xs` behind its head. -/
structure IsRing (s : Links α) (head : α) (xs : List α) : Prop where
  segment : Segment s head xs head
  nodup : (head :: xs).Nodup

namespace IsRing

variable {s : Links α} {head : α} {xs : List α}

theorem head_not_mem (h : IsRing s head xs) : head ∉ xs := (List.nodup_cons.mp h.nodup).1

/-- The empty ring: a head that is linked to itself. -/
theorem nil_iff : IsRing s head [] ↔ s head = some ⟨head, head⟩ := by
  constructor
  · intro h
    obtain ⟨n, hn⟩ := Option.isSome_iff_exists.mp (h.segment.isSome List.mem_cons_self)
    obtain ⟨hnext, hprev⟩ := h.segment
    rw [next?, hn] at hnext
    rw [prev?, hn] at hprev
    have hnode : n = ⟨head, head⟩ :=
      congrArg₂ Node.mk (Option.some.inj hnext) (Option.some.inj hprev)
    rw [hn, hnode]
  · intro h
    exact ⟨⟨by rw [next?, h]; rfl, by rw [prev?, h]; rfl⟩, List.nodup_singleton _⟩

/-- A change that no link of the ring sees. -/
theorem congr (h : IsRing s head xs) {s' : Links α}
    (hsame : ∀ x ∈ head :: xs, s' x = s x) : IsRing s' head xs := by
  refine ⟨h.segment.congr (fun x hx => ?_) fun x hx => ?_, h.nodup⟩
  · rw [next?, next?, hsame x hx]
  · have hx : x ∈ head :: xs := by
      rcases List.mem_append.mp hx with hx | hx
      · exact List.mem_cons_of_mem _ hx
      · rw [List.mem_singleton.mp hx]
        exact List.mem_cons_self
    rw [prev?, prev?, hsame x hx]

/-- A new node is put in between the last one and the head. -/
theorem insertLast (h : IsRing s head xs) {new : α} (hnew : new ∉ head :: xs) :
    ∃ p ∈ head :: xs, prev? s head = some p ∧ ∀ s', next? s' p = some new →
      next? s' new = some head → prev? s' new = some p → prev? s' head = some new →
      (∀ x, x ≠ p → x ≠ new → next? s' x = next? s x) →
      (∀ x, x ≠ head → x ≠ new → prev? s' x = prev? s x) → IsRing s' head (xs ++ [new]) := by
  obtain ⟨p, hp, hlast, hlead⟩ := h.segment.exists_last h.nodup
  refine ⟨p, hp, hlast, fun s' hpn hnh hnp hhn hnext hprev => ⟨?_, ?_⟩⟩
  · have hne : ∀ x ∈ head :: xs, x ≠ new := fun x hx heq => hnew (heq ▸ hx)
    refine segment_append.mpr ⟨hlead s' new hpn hnp (fun x hx hxp => hnext x hxp (hne x hx))
      fun x hx => ?_, hnh, hhn⟩
    have hhead : x ≠ head := fun heq => h.head_not_mem (heq ▸ hx)
    exact hprev x hhead (hne x (List.mem_cons_of_mem _ hx))
  · rw [← List.cons_append]
    exact List.nodup_append'.mpr ⟨h.nodup, List.nodup_singleton _, by simpa using hnew⟩

/-- A node is taken out: the nodes before and behind it are linked to each other. -/
theorem bypass {pre post : List α} {y : α} (h : IsRing s head (pre ++ y :: post)) :
    ∃ p ∈ head :: (pre ++ post), ∃ n ∈ head :: (pre ++ post),
      prev? s y = some p ∧ next? s y = some n ∧ ∀ s', next? s' p = some n →
        prev? s' n = some p → (∀ x, x ≠ p → x ≠ y → next? s' x = next? s x) →
        (∀ x, x ≠ n → x ≠ y → prev? s' x = prev? s x) → IsRing s' head (pre ++ post) := by
  have hsplit : (head :: pre ++ y :: post).Nodup := h.nodup
  rw [List.nodup_append'] at hsplit
  obtain ⟨hpre, hpost, hdisjoint⟩ := hsplit
  have hkept : (head :: (pre ++ post)).Nodup :=
    h.nodup.sublist (.cons_cons _ (.append_left (List.sublist_cons_self y post) pre))
  obtain ⟨hto, hfrom⟩ := segment_append.mp h.segment
  obtain ⟨p, hp, hlast, hlead⟩ := hto.exists_last hpre
  have hney : ∀ x ∈ head :: pre, x ≠ y := fun x hx heq =>
    hdisjoint hx (heq ▸ List.mem_cons_self)
  have hpmem : p ∈ head :: (pre ++ post) := by
    rw [← List.cons_append]
    exact List.mem_append_left _ hp
  cases post with
  | nil =>
      -- behind the node there is the head
      refine ⟨p, hpmem, head, List.mem_cons_self, hlast, hfrom.1, ?_⟩
      intro s' hpn hnp hnext hprev
      refine ⟨?_, hkept⟩
      rw [List.append_nil]
      refine hlead s' head hpn hnp (fun x hx hxp => hnext x hxp (hney x hx)) fun x hx => ?_
      have hhead : x ≠ head := fun heq => (List.nodup_cons.mp hpre).1 (heq ▸ hx)
      exact hprev x hhead (hney x (List.mem_cons_of_mem _ hx))
  | cons n post =>
      refine ⟨p, hpmem, n, by simp, hlast, hfrom.1, ?_⟩
      intro s' hpn hnp hnext hprev
      have hnin : ∀ x ∈ head :: pre, x ≠ n := fun x hx heq => hdisjoint hx (by simp [heq])
      have hy : y ∉ n :: post := (List.nodup_cons.mp hpost).1
      refine ⟨segment_append.mpr ⟨?_, hfrom.2.2.congr (fun x hx => ?_) fun x hx => ?_⟩, hkept⟩
      · exact hlead s' n hpn hnp (fun x hx hxp => hnext x hxp (hney x hx)) fun x hx =>
          hprev x (hnin x (List.mem_cons_of_mem _ hx)) (hney x (List.mem_cons_of_mem _ hx))
      · have hxp : x ≠ p := fun heq => hdisjoint hp (by rw [← heq]; exact List.mem_cons_of_mem _ hx)
        exact hnext x hxp fun heq => hy (heq ▸ hx)
      · rcases List.mem_append.mp hx with hx | hx
        · have hxn : x ≠ n := fun heq => (List.nodup_cons.mp hpost.of_cons).1 (heq ▸ hx)
          exact hprev x hxn fun heq => hy (heq ▸ List.mem_cons_of_mem _ hx)
        · rw [List.mem_singleton.mp hx]
          exact hprev head (hnin head List.mem_cons_self) (hney head List.mem_cons_self)

end IsRing

/-! ## Loops -/

section Search

variable [DecidableEq α] {β : Type u} (s : Links α) (head : α) (test : α → Option (Option β))

/-- Go from `a` towards the head and stop at the first node that passes the test.  Each
round takes a unit of fuel. -/
def search : Nat → α → Option (Option β)
  | 0, _ => none
  | fuel + 1, a =>
      if a = head then some none
      else do
        match ← test a with
        | some b => some (some b)
        | none => search fuel (← next? s a)

/-- Go around the ring. -/
def searchRing (fuel : Nat) : Option (Option β) := do
  search s head test fuel (← next? s head)

end Search

section ForEach

variable [DecidableEq α] {σ : Type u} (links : σ → Links α) (head : α)
  (body : σ → α → Option σ)

/-- Do something at every node from `a` to the head.  The next node is looked up afterwards. -/
def forEach : Nat → σ → α → Option σ
  | 0, _, _ => none
  | fuel + 1, m, a =>
      if a = head then some m
      else do
        let m ← body m a
        forEach fuel m (← next? (links m) a)

/-- Go around the ring. -/
def forEachRing (fuel : Nat) (m : σ) : Option σ := do
  forEach links head body fuel m (← next? (links m) head)

/-- Do something at every node from `a` to the head.  The node behind it is `b`, which was
looked up before, so that `a` can be taken out. -/
def forEachSafe : Nat → σ → α → α → Option σ
  | 0, _, _, _ => none
  | fuel + 1, m, a, b =>
      if a = head then some m
      else do
        let m ← body m a
        forEachSafe fuel m b (← next? (links m) b)

/-- Go around the ring. -/
def forEachRingSafe (fuel : Nat) (m : σ) : Option σ := do
  let a ← next? (links m) head
  forEachSafe links head body fuel m a (← next? (links m) a)

end ForEach

/-- The first node of a stretch, or its end. -/
theorem Segment.next_eq {s : Links α} {a b : α} {xs : List α} (h : Segment s a xs b) :
    next? s a = some (xs.headD b) := by
  cases xs with
  | nil => exact h.1
  | cons x xs => exact h.1

section Rules

variable [DecidableEq α] {head : α}

theorem search_eq {β : Type u} {s : Links α} {test : α → Option (Option β)} {a : α} {xs : List α}
    (h : Segment s a xs head) (hhead : head ∉ xs) {f : α → Option β}
    (htest : ∀ x ∈ xs, test x = some (f x)) {fuel : Nat} (hfuel : xs.length < fuel) :
    search s head test fuel (xs.headD head) = some (xs.findSome? f) := by
  induction xs generalizing a fuel with
  | nil =>
      cases fuel with
      | zero => cases hfuel
      | succ fuel => rw [List.headD_nil, search, if_pos rfl, List.findSome?_nil]
  | cons x xs ih =>
      cases fuel with
      | zero => cases hfuel
      | succ fuel =>
          have hx : x ≠ head := fun heq => hhead (heq ▸ List.mem_cons_self)
          rw [List.headD_cons, search, if_neg hx, htest x List.mem_cons_self, List.findSome?_cons]
          cases hf : f x with
          | some b => rfl
          | none =>
              simp only [Option.bind_eq_bind, Option.bind_some, h.2.2.next_eq]
              exact ih h.2.2 (fun hmem => hhead (List.mem_cons_of_mem _ hmem))
                (fun y hy => htest y (List.mem_cons_of_mem _ hy)) (Nat.lt_of_succ_lt_succ hfuel)

/-- The search finds what a search among the nodes finds. -/
theorem IsRing.searchRing {β : Type u} {s : Links α} {xs : List α} (h : IsRing s head xs)
    {test : α → Option (Option β)} {f : α → Option β} (htest : ∀ x ∈ xs, test x = some (f x))
    {fuel : Nat} (hfuel : xs.length < fuel) :
    searchRing s head test fuel = some (xs.findSome? f) := by
  rw [LinkedRing.searchRing, h.segment.next_eq]
  exact search_eq h.segment h.head_not_mem htest hfuel

variable {σ : Type u} {links : σ → Links α} {body : σ → α → Option σ}

/-- A loop over the nodes of a ring that stays: what holds of the nodes that were visited and
those that are left holds of all of them in the end. -/
theorem forEachRing_rule {I : List α → List α → σ → Prop}
    (hring : ∀ done todo m, I done todo m → IsRing (links m) head (done ++ todo))
    (hstep : ∀ done a todo m, I done (a :: todo) m →
      ∃ m', body m a = some m' ∧ I (done ++ [a]) todo m')
    {xs : List α} {m : σ} (hI : I [] xs m) {fuel : Nat} (hfuel : xs.length < fuel) :
    ∃ m', forEachRing links head body fuel m = some m' ∧ I xs [] m' := by
  have hloop : ∀ todo done m, I done todo m → ∀ fuel, todo.length < fuel →
      ∃ m', forEach links head body fuel m (todo.headD head) = some m' ∧
        I (done ++ todo) [] m' := by
    intro todo
    induction todo with
    | nil =>
        intro done m hI fuel hfuel
        cases fuel with
        | zero => cases hfuel
        | succ fuel => exact ⟨m, by simp [forEach], by simpa using hI⟩
    | cons a todo ih =>
        intro done m hI fuel hfuel
        cases fuel with
        | zero => cases hfuel
        | succ fuel =>
            have ha : a ≠ head := fun heq =>
              (hring done _ m hI).head_not_mem (by simp [← heq])
            obtain ⟨m', hbody, hI'⟩ := hstep done a todo m hI
            have hseg := (hring _ _ m' hI').segment
            rw [List.append_assoc, List.singleton_append, segment_append] at hseg
            obtain ⟨m'', hrest, hI''⟩ := ih _ m' hI' fuel (Nat.lt_of_succ_lt_succ hfuel)
            refine ⟨m'', ?_, by simpa using hI''⟩
            rw [List.headD_cons, forEach, if_neg ha, hbody]
            simpa [hseg.2.next_eq] using hrest
  obtain ⟨m', hrun, hI'⟩ := hloop xs [] m hI fuel hfuel
  refine ⟨m', ?_, hI'⟩
  rw [forEachRing, (hring [] xs m hI).segment.next_eq]
  exact hrun

/-- A loop that takes every node out. -/
theorem forEachRingSafe_rule {I : List α → σ → Prop}
    (hring : ∀ todo m, I todo m → IsRing (links m) head todo)
    (hstep : ∀ a todo m, I (a :: todo) m → ∃ m', body m a = some m' ∧ I todo m')
    {xs : List α} {m : σ} (hI : I xs m) {fuel : Nat} (hfuel : xs.length < fuel) :
    ∃ m', forEachRingSafe links head body fuel m = some m' ∧ I [] m' := by
  have hloop : ∀ todo m, I todo m → ∀ fuel b, todo.length < fuel →
      next? (links m) (todo.headD head) = some b →
      ∃ m', forEachSafe links head body fuel m (todo.headD head) b = some m' ∧ I [] m' := by
    intro todo
    induction todo with
    | nil =>
        intro m hI fuel b hfuel _
        cases fuel with
        | zero => cases hfuel
        | succ fuel => exact ⟨m, by simp [forEachSafe], hI⟩
    | cons a todo ih =>
        intro m hI fuel b hfuel hb
        cases fuel with
        | zero => cases hfuel
        | succ fuel =>
            have hseg := hring _ m hI
            have ha : a ≠ head := fun heq => hseg.head_not_mem (by simp [← heq])
            -- the node behind `a` was looked up before `a` was taken out
            have hnext : todo.headD head = b := by
              have hsome := hseg.segment.2.2.next_eq
              rw [List.headD_cons] at hb
              exact Option.some.inj (hsome.symm.trans hb)
            obtain ⟨m', hbody, hI'⟩ := hstep a todo m hI
            have hseg' := hring _ m' hI'
            obtain ⟨c, hc⟩ : ∃ c, next? (links m') b = some c := by
              rw [← hnext]
              cases todo with
              | nil => exact ⟨_, hseg'.segment.next_eq⟩
              | cons x todo => exact ⟨_, hseg'.segment.2.2.next_eq⟩
            obtain ⟨m'', hrest, hI''⟩ := ih m' hI' fuel c (Nat.lt_of_succ_lt_succ hfuel)
              (by rw [hnext]; exact hc)
            refine ⟨m'', ?_, hI''⟩
            rw [List.headD_cons, forEachSafe, if_neg ha, hbody]
            rw [hnext] at hrest
            simpa [hc] using hrest
  have hnext := (hring xs m hI).segment.next_eq
  obtain ⟨b, hb⟩ : ∃ b, next? (links m) (xs.headD head) = some b := by
    cases xs with
    | nil => exact ⟨_, hnext⟩
    | cons x xs => exact ⟨_, (hring _ m hI).segment.2.2.next_eq⟩
  obtain ⟨m', hrun, hI'⟩ := hloop xs m hI fuel b hfuel hb
  refine ⟨m', ?_, hI'⟩
  rw [forEachRingSafe, hnext, Option.bind_eq_bind, Option.bind_some, hb]
  exact hrun

end Rules

end LinkedRing
