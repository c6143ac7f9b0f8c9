import Mathlib.Tactic.Common

/-!
# Octet buffers and network byte order

Frames are written as lists of octets and read back out of raw memory.  A read
buffer is a total function from addresses to octets: C code that looks behind
the last octet it received still reads something, and that something is left
arbitrary here.

Main results:

- Theorem `Buf.Starts.of_append`: a buffer that starts with a concatenation holds
  its parts one behind the other.
- Theorem `Buf.Starts.be16`: the big-endian reader inverts the big-endian writer.
- Theorem `Buf.Starts.le16`: a load without swapping reads the octets exchanged.
-/

namespace Octets

/-- Two octets of a 16-bit value, most significant first. -/
def be16 (x : UInt16) : List UInt8 :=
  [UInt8.ofNat (x.toNat / 256), UInt8.ofNat (x.toNat % 256)]

/-- Four octets of a 32-bit value, most significant first. -/
def be32 (x : UInt32) : List UInt8 :=
  [UInt8.ofNat (x.toNat / 16777216), UInt8.ofNat (x.toNat / 65536 % 256),
    UInt8.ofNat (x.toNat / 256 % 256), UInt8.ofNat (x.toNat % 256)]

/-- Raw memory, addressed from the start of a buffer. -/
abbrev Buf := Nat → UInt8

/-- A buffer that holds `l`, followed by whatever `rest` says. -/
def Buf.ofList (l : List UInt8) (rest : Buf) : Buf :=
  fun i => l.getD i (rest i)

/-- Skip the first `n` octets. -/
def Buf.drop (b : Buf) (n : Nat) : Buf :=
  fun i => b (n + i)

/-- Read a 16-bit value stored in network byte order. -/
def Buf.be16 (b : Buf) (off : Nat) : UInt16 :=
  UInt16.ofNat ((b off).toNat * 256 + (b (off + 1)).toNat)

/-- Load a 16-bit value as a little-endian host does, without swapping. -/
def Buf.le16 (b : Buf) (off : Nat) : UInt16 :=
  UInt16.ofNat ((b (off + 1)).toNat * 256 + (b off).toNat)

/-- Load a 32-bit value as a little-endian host does. -/
def Buf.le32 (b : Buf) (off : Nat) : UInt32 :=
  UInt32.ofNat ((b (off + 3)).toNat * 16777216 + (b (off + 2)).toNat * 65536 +
    (b (off + 1)).toNat * 256 + (b off).toNat)

/-- How many octets stand in front of the first zero, if one is among the `n` octets
from `off` on, and `n` otherwise. -/
def Buf.strnlen (b : Buf) (off : Nat) : Nat → Nat
  | 0 => 0
  | n + 1 => if b off = 0 then 0 else b.strnlen (off + 1) n + 1

/-- A 16-bit value with its two octets exchanged. -/
def swap16 (x : UInt16) : UInt16 :=
  UInt16.ofNat (x.toNat % 256 * 256 + x.toNat / 256)

/-- Exchanging the octets changes nothing exactly when they are equal. -/
theorem swap16_eq_self_iff (x : UInt16) : swap16 x = x ↔ x.toNat / 256 = x.toNat % 256 := by
  have hx : x.toNat < 65536 := x.toNat_lt
  rw [← UInt16.toNat_inj, swap16, UInt16.toNat_ofNat']
  omega

@[simp]
theorem be16_length (x : UInt16) : (be16 x).length = 2 :=
  rfl

@[simp]
theorem be32_length (x : UInt32) : (be32 x).length = 4 :=
  rfl

/-- Reading the two octets of a value in network byte order gives the value. -/
theorem Buf.be16_of_octets {b : Buf} {off : Nat} {x : UInt16}
    (hhi : b off = UInt8.ofNat (x.toNat / 256))
    (hlo : b (off + 1) = UInt8.ofNat (x.toNat % 256)) : b.be16 off = x := by
  have hx : x.toNat < 65536 := x.toNat_lt
  have hsum : (b off).toNat * 256 + (b (off + 1)).toNat = x.toNat := by
    rw [hhi, hlo, UInt8.toNat_ofNat', UInt8.toNat_ofNat']
    omega
  rw [Buf.be16, hsum, UInt16.ofNat_toNat]

/-- A string is terminated in a block exactly when the block holds a zero. -/
theorem Buf.strnlen_lt_iff (b : Buf) (off n : Nat) :
    b.strnlen off n < n ↔ ∃ i < n, b (off + i) = 0 := by
  induction n generalizing off with
  | zero => simp
  | succ n ih =>
      by_cases h : b off = 0
      · simp only [Buf.strnlen, if_pos h, Nat.zero_lt_succ, true_iff]
        exact ⟨0, n.zero_lt_succ, h⟩
      · simp only [Buf.strnlen, if_neg h, Nat.add_lt_add_iff_right, ih]
        constructor
        · rintro ⟨i, hi, hz⟩
          exact ⟨i + 1, by omega, by rw [← hz]; congr 1; omega⟩
        · rintro ⟨i, hi, hz⟩
          cases i with
          | zero => exact absurd hz h
          | succ i => exact ⟨i, by omega, by rw [← hz]; congr 1; omega⟩

/-- A string ends at its first zero. -/
theorem Buf.strnlen_eq {b : Buf} {off n k : Nat} (hk : k < n) (hzero : b (off + k) = 0)
    (hne : ∀ i < k, b (off + i) ≠ 0) : b.strnlen off n = k := by
  induction k generalizing off n with
  | zero =>
      cases n with
      | zero => omega
      | succ n =>
          have hfirst : b off = 0 := hzero
          rw [Buf.strnlen, if_pos hfirst]
  | succ k ih =>
      cases n with
      | zero => omega
      | succ n =>
          have hfirst : b off ≠ 0 := hne 0 (by omega)
          have hshift : ∀ i, off + 1 + i = off + (i + 1) := by omega
          rw [Buf.strnlen, if_neg hfirst, ih (by omega)]
          · rwa [hshift]
          · intro i hi
            rw [hshift]
            exact hne (i + 1) (by omega)

/-! ## Buffers that start with a list -/

namespace Buf

/-- The first octets of the buffer are `l`. -/
def Starts (b : Buf) (l : List UInt8) : Prop :=
  ∀ i, ∀ h : i < l.length, b i = l[i]

/-- A list in a buffer is what the buffer starts with. -/
theorem starts_ofList (l : List UInt8) (rest : Buf) : (Buf.ofList l rest).Starts l := by
  intro i hi
  simp [Buf.ofList, hi]

variable {b : Buf} {l l' : List UInt8}

/-- The two parts of a concatenation stand one behind the other. -/
theorem Starts.of_append (h : b.Starts (l ++ l')) :
    b.Starts l ∧ (b.drop l.length).Starts l' := by
  constructor
  · intro i hi
    rw [h i (by simp; omega), List.getElem_append_left hi]
  · intro i hi
    rw [Buf.drop, h (l.length + i) (by simp; omega), List.getElem_append_right (by omega)]
    simp

/-- The reader inverts the writer. -/
theorem Starts.be16 {x : UInt16} (h : b.Starts (Octets.be16 x)) : b.be16 0 = x :=
  be16_of_octets (h 0 (by simp)) (h 1 (by simp))

/-- A load without swapping exchanges the octets that the writer wrote. -/
theorem Starts.le16 {x : UInt16} (h : b.Starts (Octets.be16 x)) : b.le16 0 = swap16 x := by
  have hx : x.toNat < 65536 := x.toNat_lt
  have hhi : (b 0).toNat = x.toNat / 256 := by
    rw [h 0 (by simp)]
    simp only [Octets.be16, List.getElem_cons_zero, UInt8.toNat_ofNat']
    omega
  have hlo : (b 1).toNat = x.toNat % 256 := by
    rw [h 1 (by simp)]
    simp only [Octets.be16, List.getElem_cons_succ, List.getElem_cons_zero, UInt8.toNat_ofNat']
    omega
  rw [Buf.le16, Nat.zero_add, hhi, hlo, swap16]

end Buf

end Octets
