import Mathlib.Data.List.Forall2
import Mathlib.Data.List.Nodup
import Mathlib.Tactic.Common

/-!
# Lists of records with a key

A linked list of records is used as a finite map: a record is found, changed and
removed through the first entry that satisfies a test.  If no two entries have the
same key, the first entry with a key is the only one, and the list behaves as a map
that remembers the order of insertion.  Nothing here mentions a concrete record.

Main results:

- Theorem `find?_eq_some_iff`: under distinct keys a lookup finds the entry.
- Theorem `eraseP_eq_filter`: removing the first entry with a key removes exactly
  the entries with that key.
- Theorem `find?_modifyFirst_of_ne`: changing one entry does not show at other keys.
- Theorem `find?_modifyFirst`: which entry changes.
- Theorem `MapOp.nodup_apply`: the operations of a map keep its keys distinct.
-/

namespace KeyedList

variable {α κ : Type*}

/-! ## Changing the first entry that passes a test -/

/-- Apply `f` to the first entry that satisfies `p`. -/
def modifyFirst (p : α → Bool) (f : α → α) : List α → List α
  | [] => []
  | x :: xs => if p x then f x :: xs else x :: modifyFirst p f xs

section ModifyFirst

variable {p : α → Bool} {f : α → α}

/-- Without such an entry nothing changes. -/
theorem modifyFirst_of_forall_not {xs : List α} (h : ∀ x ∈ xs, p x = false) :
    modifyFirst p f xs = xs := by
  induction xs with
  | nil => rfl
  | cons x xs ih =>
      rw [List.forall_mem_cons] at h
      simp [modifyFirst, h.1, ih h.2]

/-- Entries before the first one that passes stay. -/
theorem modifyFirst_append_of_forall_not {xs ys : List α} (h : ∀ x ∈ xs, p x = false) :
    modifyFirst p f (xs ++ ys) = xs ++ modifyFirst p f ys := by
  induction xs with
  | nil => rfl
  | cons x xs ih =>
      rw [List.forall_mem_cons] at h
      simp [modifyFirst, h.1, ih h.2]

/-- Entries behind the first one that passes stay. -/
theorem modifyFirst_append_of_any {xs ys : List α} (h : xs.any p = true) :
    modifyFirst p f (xs ++ ys) = modifyFirst p f xs ++ ys := by
  induction xs with
  | nil => simp at h
  | cons x xs ih =>
      by_cases hx : p x = true
      · simp [modifyFirst, hx]
      · simp only [List.any_cons, hx, Bool.false_or] at h
        simp [modifyFirst, hx, ih h]

/-- Entry by entry, the changed list is related to the old one as `f` relates them. -/
theorem forall₂_modifyFirst {R : α → α → Prop} (hrefl : ∀ x, R x x)
    (hf : ∀ x, p x = true → R x (f x)) (xs : List α) : List.Forall₂ R xs (modifyFirst p f xs) := by
  induction xs with
  | nil => exact .nil
  | cons x xs ih =>
      rw [modifyFirst]
      split
      next hx => exact .cons (hf x hx) (List.forall₂_same.mpr fun y _ => hrefl y)
      next => exact .cons (hrefl x) ih

end ModifyFirst

/-! ## Distinct keys -/

section Keys

variable {key : α → κ} [DecidableEq κ]

/-- Under distinct keys the lookup of a key finds the entry with that key. -/
theorem find?_eq_some_iff {xs : List α} (h : (xs.map key).Nodup) {k : κ} {x : α} :
    xs.find? (fun y => key y = k) = some x ↔ x ∈ xs ∧ key x = k := by
  constructor
  · intro hx
    exact ⟨List.mem_of_find?_eq_some hx, by simpa using List.find?_some hx⟩
  · rintro ⟨hx, rfl⟩
    induction xs with
    | nil => cases hx
    | cons y ys ih =>
        rw [List.map_cons, List.nodup_cons] at h
        rcases List.mem_cons.mp hx with rfl | hx
        · simp
        · have hne : key y ≠ key x := by
            intro heq
            exact h.1 (heq ▸ List.mem_map_of_mem hx)
          simpa [hne] using ih h.2 hx

/-- A key is found exactly if it is one of the keys. -/
theorem isSome_find? {xs : List α} {k : κ} :
    (xs.find? fun y => key y = k).isSome = true ↔ k ∈ xs.map key := by
  simp

/-- Removing the first entry with a key removes exactly the entries with that key. -/
theorem eraseP_eq_filter {xs : List α} (h : (xs.map key).Nodup) (k : κ) :
    xs.eraseP (fun y => key y = k) = xs.filter fun y => key y ≠ k := by
  induction xs with
  | nil => rfl
  | cons x xs ih =>
      rw [List.map_cons, List.nodup_cons] at h
      by_cases hx : key x = k
      · have hrest : ∀ y ∈ xs, key y ≠ k := by
          rintro y hy rfl
          exact h.1 (hx ▸ List.mem_map_of_mem hy)
        rw [List.eraseP_cons_of_pos (by simpa using hx), List.filter_cons_of_neg (by simpa using hx)]
        exact (List.filter_eq_self.mpr fun y hy => by simpa using hrest y hy).symm
      · rw [List.eraseP_cons_of_neg (by simpa using hx), List.filter_cons_of_pos (by simpa using hx),
          ih h.2]

/-- Changing an entry, but not its key, does not show at other keys. -/
theorem find?_modifyFirst_of_ne {xs : List α} {p : α → Bool} {f : α → α} {k : κ}
    (hkey : ∀ x ∈ xs, p x = true → key (f x) = key x ∧ key x ≠ k) :
    (modifyFirst p f xs).find? (fun y => key y = k) = xs.find? fun y => key y = k := by
  induction xs with
  | nil => rfl
  | cons x xs ih =>
      rw [List.forall_mem_cons] at hkey
      by_cases hx : p x = true
      · rcases hkey.1 hx with ⟨hsame, hne⟩
        simp [modifyFirst, hx, hsame, hne]
      · simp [modifyFirst, hx, List.find?_cons, ih hkey.2]

/-- An entry changes only if it is the first one that passes the test. -/
theorem find?_modifyFirst {xs : List α} (h : (xs.map key).Nodup) {p : α → Bool} {f : α → α}
    (hkey : ∀ x, key (f x) = key x) {x : α} (hx : x ∈ xs) :
    (xs.find? p = some x →
        (modifyFirst p f xs).find? (fun y => key y = key x) = some (f x)) ∧
      (xs.find? p ≠ some x → (modifyFirst p f xs).find? (fun y => key y = key x) = some x) := by
  induction xs with
  | nil => cases hx
  | cons y ys ih =>
      have hself := (find?_eq_some_iff h).mpr ⟨hx, rfl⟩
      rw [List.map_cons, List.nodup_cons] at h
      have hother : x ∈ ys → key y ≠ key x := fun hx heq => h.1 (heq ▸ List.mem_map_of_mem hx)
      by_cases hy : p y = true
      · rw [List.find?_cons_of_pos hy, modifyFirst, if_pos hy]
        rcases List.mem_cons.mp hx with rfl | hx
        · simp [hkey]
        · have hne : y ≠ x := fun heq => hother hx (congrArg key heq)
          have hskip := hother hx
          refine ⟨fun heq => absurd (Option.some.inj heq) hne, fun _ => ?_⟩
          rw [List.find?_cons_of_neg (by simpa using hskip)] at hself
          rwa [List.find?_cons_of_neg (by simpa [hkey] using hskip)]
      · rw [List.find?_cons_of_neg hy, modifyFirst, if_neg hy]
        rcases List.mem_cons.mp hx with rfl | hx
        · refine ⟨fun heq => absurd (List.find?_some heq) hy, fun _ => ?_⟩
          simp
        · rw [List.find?_cons_of_neg (by simpa using hother hx)]
          exact ih h.2 hx

/-- Removing entries with other keys does not show at a key. -/
theorem find?_eraseP_of_ne {xs : List α} {p : α → Bool} {k : κ}
    (hkey : ∀ x ∈ xs, p x = true → key x ≠ k) :
    (xs.eraseP p).find? (fun y => key y = k) = xs.find? fun y => key y = k := by
  induction xs with
  | nil => rfl
  | cons x xs ih =>
      rw [List.forall_mem_cons] at hkey
      by_cases hx : p x = true
      · simp [hx, hkey.1 hx]
      · simp [hx, List.find?_cons, ih hkey.2]

end Keys

/-! ## Maps that remember the order of insertion -/

/-- What can be done to such a map, as far as its keys are concerned. -/
inductive MapOp (κ : Type*)
  | insert (k : κ)
  | erase (k : κ)
  | clear
  | skip

/-- The keys after an operation, oldest first. -/
def MapOp.apply [DecidableEq κ] : MapOp κ → List κ → List κ
  | .insert k, ks => if k ∈ ks then ks else ks ++ [k]
  | .erase k, ks => ks.filter (· ≠ k)
  | .clear, _ => []
  | .skip, ks => ks

/-- No operation brings a key in twice. -/
theorem MapOp.nodup_apply [DecidableEq κ] (op : MapOp κ) {ks : List κ} (h : ks.Nodup) :
    (op.apply ks).Nodup := by
  cases op with
  | insert k =>
      simp only [apply]
      split
      · exact h
      next hk => exact List.nodup_append'.mpr ⟨h, List.nodup_singleton _, by simpa using hk⟩
  | erase k => exact h.filter _
  | clear => exact List.nodup_nil
  | skip => exact h

/-- A bounded map stays within its bound exactly if no new key comes into a full one. -/
theorem MapOp.length_apply_le_iff [DecidableEq κ] (op : MapOp κ) {ks : List κ} {n : Nat}
    (h : ks.length ≤ n) :
    (op.apply ks).length ≤ n ↔ ∀ k, op = .insert k → k ∉ ks → ks.length < n := by
  cases op with
  | insert k =>
      simp only [apply]
      by_cases hk : k ∈ ks
      · simp [hk, h]
      · have hlen : (ks ++ [k]).length ≤ n ↔ ks.length < n := by
          rw [List.length_append, List.length_singleton]
          exact Nat.succ_le_iff
        rw [if_neg hk, hlen]
        constructor
        · intro hlt k' _ _
          exact hlt
        · intro hlt
          exact hlt k rfl hk
  | erase k => simpa [apply] using Nat.le_trans (List.length_filter_le _ ks) h
  | clear => simp [apply]
  | skip => simpa [apply] using h

end KeyedList
