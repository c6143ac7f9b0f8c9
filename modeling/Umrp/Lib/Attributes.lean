import Umrp.Lib.Ranges

/-!
# Attributes in memory

A message can carry a sequence of attributes.  Each of them begins with a header of four
octets, its length and its type, and the next one follows at the next multiple of four.
A reader knows nothing but the headers: it takes an attribute if what is left can hold
it, steps over it, and stops otherwise.  Attributes can be nested: the payload of one is
then a sequence of attributes again.  Nothing here mentions a concrete message.

Main results:

- Theorem `inside_of_mem_walk`: whatever the memory holds, a reader meets attributes only
  inside the part that it is given.
- Theorem `walk_eq_layout`: a reader meets exactly the attributes that were written.
- Theorem `walk_congr`: it depends on nothing outside that part.
-/

namespace Attributes

open Octets

/-! ## Alignment -/

/-- A number of octets, rounded up to a multiple of four. -/
def align (n : Nat) : Nat := (n + 3) / 4 * 4

theorem le_align (n : Nat) : n ≤ align n := by
  unfold align
  omega

theorem align_lt (n : Nat) : align n < n + 4 := by
  unfold align
  omega

@[simp]
theorem align_mod (n : Nat) : align n % 4 = 0 := by
  unfold align
  omega

theorem align_of_mod {n : Nat} (h : n % 4 = 0) : align n = n := by
  unfold align
  omega

/-! ## Reading -/

/-- An attribute in memory: where it starts, and the length and the type in its header. -/
structure Cell where
  pos : Nat
  len : Nat
  type : UInt16
deriving DecidableEq

/-- What the header at `pos` says. -/
def cellAt (b : Buf) (pos : Nat) : Cell := ⟨pos, (b.le16 pos).toNat, b.le16 (pos + 2)⟩

/-- The attribute fits into what is left; that number can be negative. -/
def Cell.Ok (c : Cell) (left : Int) : Prop := 4 ≤ left ∧ 4 ≤ c.len ∧ (c.len : Int) ≤ left

instance (c : Cell) (left : Int) : Decidable (c.Ok left) :=
  inferInstanceAs (Decidable (_ ∧ _ ∧ _))

/-- Take attributes from `pos` on as long as they fit, at most `fuel` of them. -/
def cells (b : Buf) : Nat → Nat → Int → List Cell
  | 0, _, _ => []
  | fuel + 1, pos, left =>
      let c := cellAt b pos
      if c.Ok left then c :: cells b fuel (pos + align c.len) (left - align c.len) else []

/-- The attributes that a reader meets from `pos` on.  Each of them takes at least four
octets, so that there is always enough fuel. -/
def walk (b : Buf) (pos : Nat) (left : Int) : List Cell := cells b left.toNat pos left

section Walk

variable {b : Buf}

/-- Fuel is never short. -/
theorem cells_eq_walk {fuel pos : Nat} {left : Int} (h : left.toNat ≤ fuel) :
    cells b fuel pos left = walk b pos left := by
  suffices hfuel : ∀ n m pos (left : Int), left.toNat ≤ n → left.toNat ≤ m →
      cells b n pos left = cells b m pos left from hfuel _ _ _ _ h (Nat.le_refl _)
  intro n
  induction n with
  | zero =>
      intro m pos left hn _
      cases m with
      | zero => rfl
      | succ m =>
          have hnot : ¬ (cellAt b pos).Ok left := by
            rintro ⟨hleft, -⟩
            omega
          rw [cells, cells, if_neg hnot]
  | succ n ih =>
      intro m pos left hn hm
      cases m with
      | zero =>
          have hnot : ¬ (cellAt b pos).Ok left := by
            rintro ⟨hleft, -⟩
            omega
          rw [cells, cells, if_neg hnot]
      | succ m =>
          simp only [cells]
          split
          next hok =>
            rcases hok with ⟨_, hlen, _⟩
            have hle := le_align (cellAt b pos).len
            rw [ih m _ _ (by omega) (by omega)]
          next => rfl

/-- One step of a reader. -/
theorem walk_eq (pos : Nat) (left : Int) :
    walk b pos left =
      if (cellAt b pos).Ok left then
        cellAt b pos :: walk b (pos + align (cellAt b pos).len) (left - align (cellAt b pos).len)
      else [] := by
  rw [← cells_eq_walk (Nat.le_succ left.toNat), cells]
  split
  next hok =>
    have hle := le_align (cellAt b pos).len
    rcases hok with ⟨_, hlen, _⟩
    rw [cells_eq_walk (by omega)]
  next => rfl

/-- Induction along the steps of a reader. -/
theorem walk_induction {P : Nat → Int → Prop}
    (stop : ∀ pos left, ¬ (cellAt b pos).Ok left → P pos left)
    (next : ∀ pos left, (cellAt b pos).Ok left →
      P (pos + align (cellAt b pos).len) (left - align (cellAt b pos).len) → P pos left)
    (pos : Nat) (left : Int) : P pos left := by
  suffices h : ∀ (n pos : Nat) (left : Int), left.toNat ≤ n → P pos left from
    h _ _ _ (Nat.le_refl _)
  intro n
  induction n with
  | zero =>
      intro pos left hn
      refine stop pos left ?_
      rintro ⟨hleft, -⟩
      omega
  | succ n ih =>
      intro pos left hn
      by_cases hok : (cellAt b pos).Ok left
      · refine next pos left hok (ih _ _ ?_)
        have hle := le_align (cellAt b pos).len
        have hlen := hok.2.1
        omega
      · exact stop pos left hok

/-- A reader meets attributes only inside the part that it is given. -/
theorem inside_of_mem_walk {pos : Nat} {left : Int} {c : Cell} (h : c ∈ walk b pos left) :
    c = cellAt b c.pos ∧ pos ≤ c.pos ∧ 4 ≤ c.len ∧ (c.pos + c.len : Int) ≤ pos + left := by
  induction pos, left using walk_induction (b := b) with
  | stop pos left hnot =>
      rw [walk_eq, if_neg hnot] at h
      cases h
  | next pos left hok ih =>
      rw [walk_eq, if_pos hok] at h
      rcases hok with ⟨_, hlen, hleft⟩
      rcases List.mem_cons.mp h with rfl | hrest
      · exact ⟨rfl, Nat.le_refl _, hlen, by simp only [cellAt] at hleft ⊢; omega⟩
      · rcases ih hrest with ⟨hcell, hpos, hc, hend⟩
        refine ⟨hcell, by omega, hc, ?_⟩
        push_cast at hend
        omega

/-- A header depends on its four octets. -/
theorem cellAt_congr {b' : Buf} {pos : Nat} (h : ∀ i, pos ≤ i → i < pos + 4 → b i = b' i) :
    cellAt b pos = cellAt b' pos := by
  simp only [cellAt, Buf.le16]
  rw [h pos (by omega) (by omega), h (pos + 1) (by omega) (by omega),
    h (pos + 2) (by omega) (by omega), h (pos + 2 + 1) (by omega) (by omega)]

/-- A reader depends on nothing outside the part that it is given. -/
theorem walk_congr {b' : Buf} {pos : Nat} {left : Int}
    (h : ∀ i : Nat, pos ≤ i → (i : Int) < pos + left → b i = b' i) :
    walk b pos left = walk b' pos left := by
  induction pos, left using walk_induction (b := b) with
  | stop pos left hnot =>
      have hnot' : ¬ (cellAt b' pos).Ok left := by
        intro hok
        have hleft := hok.1
        rw [← cellAt_congr fun i hi hi' => h i hi (by omega)] at hok
        exact hnot hok
      rw [walk_eq, if_neg hnot, walk_eq, if_neg hnot']
  | next pos left hok ih =>
      have hleft := hok.1
      have hcell : cellAt b pos = cellAt b' pos :=
        cellAt_congr fun i hi hi' => h i hi (by omega)
      have hle := le_align (cellAt b pos).len
      rw [walk_eq, if_pos hok, walk_eq (b := b'), ← hcell, if_pos hok]
      congr 1
      exact ih fun i hpos hi => h i (by omega) (by push_cast at hi; omega)

end Walk

/-! ## Writing -/

/-- An attribute: its type and its payload. -/
structure Attr where
  type : UInt16
  payload : List UInt8
deriving DecidableEq

namespace Attr

/-- The length in the header. -/
def len (a : Attr) : Nat := 4 + a.payload.length

/-- An attribute as it is written, up to the next multiple of four. -/
def octets (a : Attr) : List UInt8 :=
  le16 (UInt16.ofNat a.len) ++ le16 a.type ++ a.payload ++ List.replicate (align a.len - a.len) 0

/-- The length can be written into the header. -/
def Fits (a : Attr) : Prop := a.len < 65536

@[simp]
theorem length_octets (a : Attr) : a.octets.length = align a.len := by
  have hle := le_align a.len
  simp only [octets, List.length_append, le16_length, List.length_replicate]
  unfold len at hle ⊢
  omega

end Attr

/-- A sequence of attributes as it is written. -/
def encode (as : List Attr) : List UInt8 := as.flatMap Attr.octets

/-- Where the attributes of a sequence stand that begins at `pos`. -/
def layout : Nat → List Attr → List Cell
  | _, [] => []
  | pos, a :: as => ⟨pos, a.len, a.type⟩ :: layout (pos + align a.len) as

@[simp]
theorem encode_nil : encode [] = [] :=
  rfl

@[simp]
theorem encode_cons (a : Attr) (as : List Attr) : encode (a :: as) = a.octets ++ encode as :=
  rfl

@[simp]
theorem encode_append (as bs : List Attr) : encode (as ++ bs) = encode as ++ encode bs :=
  List.flatMap_append

/-- A sequence of attributes fills a multiple of four. -/
theorem encode_mod (as : List Attr) : (encode as).length % 4 = 0 := by
  induction as with
  | nil => rfl
  | cons a as ih =>
      have ha := align_mod a.len
      rw [encode_cons, List.length_append, a.length_octets]
      omega

/-- The header of an attribute is read as it was written. -/
theorem cellAt_of_starts {b : Buf} {pos : Nat} {a : Attr} (h : (b.drop pos).Starts a.octets)
    (ha : a.Fits) : cellAt b pos = ⟨pos, a.len, a.type⟩ := by
  rw [Attr.octets, List.append_assoc, List.append_assoc] at h
  have hlen := h.of_append.1.le16_host
  have htype := h.of_append.2.of_append.1.le16_host
  have hto : (UInt16.ofNat a.len).toNat = a.len := by
    rw [UInt16.toNat_ofNat']
    exact Nat.mod_eq_of_lt ha
  have hlen' : b.le16 pos = UInt16.ofNat a.len := hlen
  have htype' : b.le16 (pos + 2) = a.type := htype
  rw [cellAt, hlen', htype', hto]

/-- The payload of an attribute stands behind its header. -/
theorem payload_of_starts {b : Buf} {pos : Nat} {a : Attr} (h : (b.drop pos).Starts a.octets) :
    (b.drop (pos + 4)).Starts a.payload := by
  rw [Attr.octets, List.append_assoc, List.append_assoc] at h
  have hpayload := h.of_append.2.of_append.2.of_append.1
  simpa [Buf.drop_drop] using hpayload

/-- A reader meets exactly the attributes that were written. -/
theorem walk_eq_layout {b : Buf} {pos : Nat} {as : List Attr} (h : (b.drop pos).Starts (encode as))
    (hfits : ∀ a ∈ as, a.Fits) : walk b pos (encode as).length = layout pos as := by
  induction as generalizing pos with
  | nil =>
      rw [walk_eq, if_neg]
      · rfl
      · rintro ⟨hleft, -⟩
        simp at hleft
  | cons a as ih =>
      rw [List.forall_mem_cons] at hfits
      rw [encode_cons] at h
      have hcell := cellAt_of_starts h.of_append.1 hfits.1
      have hrest := h.of_append.2
      rw [a.length_octets, Buf.drop_drop] at hrest
      have hlen : (encode (a :: as)).length = align a.len + (encode as).length := by
        rw [encode_cons, List.length_append, a.length_octets]
      have hle := le_align a.len
      have hfour : 4 ≤ a.len := by
        unfold Attr.len
        omega
      have hok : (⟨pos, a.len, a.type⟩ : Cell).Ok (encode (a :: as)).length := by
        refine ⟨by omega, hfour, ?_⟩
        dsimp only
        omega
      have hleft : ((encode (a :: as)).length - align a.len : Int) = (encode as).length := by omega
      rw [walk_eq, hcell, if_pos hok, layout, ← ih hrest hfits.2]
      dsimp only
      rw [hleft]

end Attributes
