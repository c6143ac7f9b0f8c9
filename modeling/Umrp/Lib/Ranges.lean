import Umrp.Lib.Octets

/-!
# Ranges of octets

C code touches memory in ranges: a field that is loaded, a block that is copied.  A
range lies in a buffer when all of its octets do, and a block that is written changes
nothing outside its range.
-/

namespace Octets

/-- A range of octets: where it starts and how many there are. -/
structure Range where
  pos : Nat
  len : Nat
deriving DecidableEq

/-- The range lies in the first `n` octets. -/
def Range.Within (r : Range) (n : Nat) : Prop := r.pos + r.len ≤ n

instance (r : Range) (n : Nat) : Decidable (r.Within n) :=
  inferInstanceAs (Decidable (r.pos + r.len ≤ n))

/-! ## Writing a block -/

/-- Two octets of a 16-bit value, least significant first. -/
def le16 (x : UInt16) : List UInt8 :=
  [UInt8.ofNat (x.toNat % 256), UInt8.ofNat (x.toNat / 256)]

@[simp]
theorem le16_length (x : UInt16) : (le16 x).length = 2 :=
  rfl

/-- Four octets of a 32-bit value, least significant first. -/
def le32 (x : UInt32) : List UInt8 :=
  [UInt8.ofNat (x.toNat % 256), UInt8.ofNat (x.toNat / 256 % 256),
    UInt8.ofNat (x.toNat / 65536 % 256), UInt8.ofNat (x.toNat / 16777216)]

@[simp]
theorem le32_length (x : UInt32) : (le32 x).length = 4 :=
  rfl

namespace Buf

/-- The buffer after a block has been written at `pos`. -/
def put (b : Buf) (pos : Nat) (l : List UInt8) : Buf :=
  fun i => if pos ≤ i then l.getD (i - pos) (b i) else b i

variable (b : Buf) {pos : Nat} {l : List UInt8}

/-- Inside its range a write has stored its block. -/
theorem put_add {i : Nat} (h : i < l.length) : b.put pos l (pos + i) = l[i] := by
  simp [put, h]

/-- Outside its range a write changes nothing. -/
theorem put_of_outside {i : Nat} (h : i < pos ∨ pos + l.length ≤ i) : b.put pos l i = b i := by
  unfold put
  split
  next hpos =>
    have hlen : l.length ≤ i - pos := by omega
    rw [List.getD_eq_getElem?_getD, List.getElem?_eq_none hlen, Option.getD_none]
  next => rfl

/-- An integer is read as it was written. -/
theorem le32_put (x : UInt32) : (b.put pos (Octets.le32 x)).le32 pos = x := by
  have hx := x.toNat_lt
  have hbyte : ∀ i (h : i < (Octets.le32 x).length),
      b.put pos (Octets.le32 x) (pos + i) = (Octets.le32 x)[i] := fun _ h => b.put_add h
  have h0 := hbyte 0 (by simp)
  have h1 := hbyte 1 (by simp)
  have h2 := hbyte 2 (by simp)
  have h3 := hbyte 3 (by simp)
  rw [Nat.add_zero] at h0
  rw [Buf.le32, h0, h1, h2, h3]
  simp only [Octets.le32, List.getElem_cons_zero, List.getElem_cons_succ, UInt8.toNat_ofNat']
  rw [← UInt32.toNat_inj, UInt32.toNat_ofNat']
  omega

/-- A block stands where it was written. -/
theorem starts_put : ((b.put pos l).drop pos).Starts l :=
  fun _ h => b.put_add h

/-- A block stays where it was if nothing is written into it. -/
theorem Starts.put_of_outside {b : Buf} {n : Nat} {m : List UInt8} (h : (b.drop n).Starts m)
    (hout : n + m.length ≤ pos ∨ pos + l.length ≤ n) : ((b.put pos l).drop n).Starts m := by
  intro i hi
  have hkept : b.put pos l (n + i) = b (n + i) := b.put_of_outside (by omega)
  exact hkept.trans (h i hi)

/-- Two blocks, one behind the other. -/
theorem Starts.append {b : Buf} {l l' : List UInt8} (h : b.Starts l)
    (h' : (b.drop l.length).Starts l') : b.Starts (l ++ l') := by
  intro i hi
  rw [List.length_append] at hi
  by_cases hlt : i < l.length
  · rw [h i hlt, List.getElem_append_left hlt]
  · have hrest := h' (i - l.length) (by omega)
    rw [Buf.drop, Nat.add_sub_cancel' (by omega)] at hrest
    rw [hrest, List.getElem_append_right (by omega)]

/-- A 16-bit value in the order of the host is read as it was written. -/
theorem Starts.le16_host {b : Buf} {x : UInt16} (h : b.Starts (Octets.le16 x)) : b.le16 0 = x := by
  have hx := x.toNat_lt
  have h0 := h 0 (by simp)
  have h1 := h 1 (by simp)
  rw [Buf.le16, Nat.zero_add, h0, h1]
  simp only [Octets.le16, List.getElem_cons_zero, List.getElem_cons_succ, UInt8.toNat_ofNat']
  rw [← UInt16.toNat_inj, UInt16.toNat_ofNat']
  omega

/-- A 32-bit value in the order of the host is read as it was written. -/
theorem Starts.le32_host {b : Buf} {x : UInt32} (h : b.Starts (Octets.le32 x)) : b.le32 0 = x := by
  have hx := x.toNat_lt
  have h0 := h 0 (by simp)
  have h1 := h 1 (by simp)
  have h2 := h 2 (by simp)
  have h3 := h 3 (by simp)
  rw [Buf.le32]
  simp only [Nat.zero_add, h0, h1, h2, h3]
  simp only [Octets.le32, List.getElem_cons_zero, List.getElem_cons_succ, UInt8.toNat_ofNat']
  rw [← UInt32.toNat_inj, UInt32.toNat_ofNat']
  omega

/-- Skipping twice. -/
theorem drop_drop (n m : Nat) : (b.drop n).drop m = b.drop (n + m) := by
  funext i
  simp only [drop, Nat.add_assoc]

@[simp]
theorem drop_zero : b.drop 0 = b := by
  funext i
  exact congrArg b (Nat.zero_add i)

/-- A write behind or in front of an integer leaves it. -/
theorem le32_put_of_disjoint {off : Nat} (h : off + 4 ≤ pos ∨ pos + l.length ≤ off) :
    (b.put pos l).le32 off = b.le32 off := by
  have hbyte : ∀ i < 4, b.put pos l (off + i) = b (off + i) := fun i hi =>
    b.put_of_outside (by omega)
  have h0 := hbyte 0 (by omega)
  rw [Nat.add_zero] at h0
  rw [Buf.le32, Buf.le32, h0, hbyte 1 (by omega), hbyte 2 (by omega), hbyte 3 (by omega)]

end Buf

end Octets
