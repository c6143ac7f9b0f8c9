import Umrp.Model.Netlink

/-!
# Reading attributes

What `parse_rtattr_flags` makes of memory: of any memory, and of memory that holds a
sequence of attributes.

Main results:

- Theorem `parseRtattrFlags_eq`: the table has the first attribute of each type.
- Theorem `parse_find`: in a sequence of attributes it finds what was written.
-/

namespace Umrp

open Octets Attributes

/-! ## Any memory -/

/-- What the loop makes of a table. -/
theorem foldl_storeAttr (max : Nat) (flags : UInt16) (cells : List Cell) (tb : AttrTable)
    (type : UInt16) :
    cells.foldl (storeAttr max flags) tb type =
      if type.toNat ≤ max then
        (tb type).or (cells.find? fun c => maskedType flags c.type = type)
      else tb type := by
  induction cells generalizing tb with
  | nil => simp
  | cons c cells ih =>
      rw [List.foldl_cons, ih]
      have hstore : storeAttr max flags tb c type =
          if maskedType flags c.type = type ∧ type.toNat ≤ max ∧ (tb type).isNone then some c
          else tb type := by
        unfold storeAttr
        by_cases htype : maskedType flags c.type = type
        · subst htype
          split
          next h => simp [h]
          next h => rw [if_neg fun hc => h hc.2]
        · simp only [htype, false_and, if_false]
          split
          · exact Function.update_of_ne (Ne.symm htype) _ _
          · rfl
      rw [hstore, List.find?_cons]
      by_cases hmax : type.toNat ≤ max
      · by_cases htype : maskedType flags c.type = type
        · cases htb : tb type with
          | none => simp [hmax, htype]
          | some d => simp [hmax]
        · simp [hmax, htype]
      · simp [hmax]

/-- The table has the first attribute of each type up to `max`. -/
theorem parseRtattrFlags_eq (b : Buf) (max pos : Nat) (len : Int) (flags type : UInt16) :
    parseRtattrFlags b max pos len flags type =
      if type.toNat ≤ max then
        (walk b pos len).find? fun c => maskedType flags c.type = type
      else none := by
  rw [parseRtattrFlags, foldl_storeAttr]
  simp

/-- Whatever the memory holds, an attribute in the table lies inside the part that was
parsed, and is of the type under which it was stored. -/
theorem inside_of_parse {b : Buf} {max pos : Nat} {len : Int} {flags type : UInt16} {c : Cell}
    (h : parseRtattrFlags b max pos len flags type = some c) :
    type.toNat ≤ max ∧ maskedType flags c.type = type ∧ c ∈ walk b pos len := by
  rw [parseRtattrFlags_eq] at h
  split at h
  next hmax =>
    have htype := List.find?_some h
    exact ⟨hmax, by simpa using htype, List.mem_of_find?_eq_some h⟩
  next => cases h

/-! ## A sequence of attributes -/

/-- The attribute `a` stands in memory as the header `c` says. -/
structure Carries (b : Buf) (c : Cell) (a : Attr) : Prop where
  type : c.type = a.type
  payload : (b.drop (rtaData c)).Starts a.payload
  length : rtaPayload c = a.payload.length

/-- The attributes of a sequence stand where the layout says. -/
theorem find_layout {b : Buf} {pos : Nat} {as : List Attr} (h : (b.drop pos).Starts (encode as))
    (p : UInt16 → Bool) :
    ((as.find? fun a => p a.type) = none → ((layout pos as).find? fun c => p c.type) = none) ∧
      ∀ a, (as.find? fun a => p a.type) = some a →
        ∃ c, ((layout pos as).find? fun c => p c.type) = some c ∧ Carries b c a := by
  induction as generalizing pos with
  | nil => exact ⟨fun _ => rfl, fun _ ha => absurd ha (by simp)⟩
  | cons a as ih =>
      rw [encode_cons] at h
      have hrest := h.of_append.2
      rw [a.length_octets, Buf.drop_drop] at hrest
      rw [layout, List.find?_cons, List.find?_cons]
      cases hp : p a.type with
      | true =>
          refine ⟨fun ha => absurd ha (by simp), ?_⟩
          rintro _ ⟨rfl⟩
          refine ⟨_, rfl, rfl, payload_of_starts h.of_append.1, ?_⟩
          simp only [rtaPayload, Attr.len]
          omega
      | false => exact ih hrest

section Parse

variable {b : Buf} {pos : Nat} {as : List Attr} (h : (b.drop pos).Starts (encode as))
  (hfits : ∀ a ∈ as, a.Fits) (max : Nat) (type flags : UInt16)

include h hfits

/-- The table has the first attribute of a type that was written. -/
theorem parse_find (hmax : type.toNat ≤ max) {a : Attr}
    (ha : (as.find? fun a => maskedType flags a.type = type) = some a) :
    ∃ c, parseRtattrFlags b max pos (encode as).length flags type = some c ∧ Carries b c a := by
  rw [parseRtattrFlags_eq, if_pos hmax, walk_eq_layout h hfits]
  exact (find_layout h fun t => maskedType flags t = type).2 a ha

/-- The table has no attribute that was not written. -/
theorem parse_none (ha : (as.find? fun a => maskedType flags a.type = type) = none) :
    parseRtattrFlags b max pos (encode as).length flags type = none := by
  rw [parseRtattrFlags_eq, walk_eq_layout h hfits,
    (find_layout h fun t => maskedType flags t = type).1 ha, ite_self]

end Parse

namespace Carries

variable {b : Buf} {c : Cell} {a : Attr}

/-- The attributes in the payload of another one. -/
theorem parseNested_find (h : Carries b c a) {as : List Attr} (hnest : a.payload = encode as)
    (hfits : ∀ a ∈ as, a.Fits) (max : Nat) (type : UInt16) (hmax : type.toNat ≤ max) {a' : Attr}
    (ha : (as.find? fun a => maskedType nlaFNested a.type = type) = some a') :
    ∃ c', parseNested b max c type = some c' ∧ Carries b c' a' := by
  have hpayload := h.payload
  rw [hnest] at hpayload
  rw [parseNested, h.length, hnest]
  exact parse_find hpayload hfits max type nlaFNested hmax ha

/-- An attribute that is not in the payload of another one. -/
theorem parseNested_none (h : Carries b c a) {as : List Attr} (hnest : a.payload = encode as)
    (hfits : ∀ a ∈ as, a.Fits) {max : Nat} {type : UInt16}
    (ha : (as.find? fun a => maskedType nlaFNested a.type = type) = none) :
    parseNested b max c type = none := by
  have hpayload := h.payload
  rw [hnest] at hpayload
  rw [parseNested, h.length, hnest]
  exact parse_none hpayload hfits max type nlaFNested ha

/-- A 32-bit payload is read as it was written. -/
theorem le32 (h : Carries b c a) {x : UInt32} (hx : a.payload = Octets.le32 x) :
    b.le32 (rtaData c) = x := by
  have hpayload := h.payload
  rw [hx] at hpayload
  exact hpayload.le32_host

/-- A 16-bit payload is read as it was written. -/
theorem le16 (h : Carries b c a) {x : UInt16} (hx : a.payload = Octets.le16 x) :
    b.le16 (rtaData c) = x := by
  have hpayload := h.payload
  rw [hx] at hpayload
  exact hpayload.le16_host

end Carries

end Umrp
