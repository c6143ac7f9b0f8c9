import Mathlib.Tactic.Common

/-!
# Chains of type-length-value records

A message is a sequence of records, each of which announces its own length.  A reader
knows nothing but the announced lengths: it takes a record, steps over it, and goes on
until it has met the record that ends the chain.  Nothing here mentions a concrete
message.

Main results:

- Theorem `next_octets`: a record that announces its length is taken as it was written.
- Theorem `walk_octets`: a reader meets exactly the records that were written.
-/

namespace Tlv

/-- A record: its type and its value.  The announced length is that of the value. -/
structure Record where
  type : UInt8
  value : List UInt8
deriving DecidableEq

/-- A record as it is written. -/
def Record.octets (r : Record) : List UInt8 :=
  r.type :: UInt8.ofNat r.value.length :: r.value

/-- Take one record, as far as its announced length says, and keep what follows it. -/
def next : List UInt8 → Option (Record × List UInt8)
  | type :: length :: rest =>
      if length.toNat ≤ rest.length then
        some (⟨type, rest.take length.toNat⟩, rest.drop length.toNat)
      else none
  | _ => none

/-- Take records up to and including the first one of type `last`, at most `fuel` of them. -/
def walk (last : UInt8) : Nat → List UInt8 → Option (List Record × List UInt8)
  | 0, _ => none
  | fuel + 1, octets => do
      let (r, rest) ← next octets
      if r.type = last then some ([r], rest)
      else
        let (rs, rest) ← walk last fuel rest
        some (r :: rs, rest)

/-- A record that announces its length is taken as it was written. -/
theorem next_octets {r : Record} (h : r.value.length < 256) (rest : List UInt8) :
    next (r.octets ++ rest) = some (r, rest) := by
  have hlength : (UInt8.ofNat r.value.length).toNat = r.value.length := by
    rw [UInt8.toNat_ofNat']
    omega
  simp [Record.octets, next, hlength]

/-- A reader with enough fuel meets exactly the records that were written. -/
theorem walk_octets {last : UInt8} {rs : List Record} {r : Record}
    (hlength : ∀ r ∈ rs, r.value.length < 256) (htype : ∀ r ∈ rs, r.type ≠ last)
    (hlast : r.value.length < 256) (hend : r.type = last) (rest : List UInt8) {fuel : Nat}
    (hfuel : rs.length < fuel) :
    walk last fuel (rs.flatMap Record.octets ++ (r.octets ++ rest)) = some (rs ++ [r], rest) := by
  induction rs generalizing fuel with
  | nil =>
      cases fuel with
      | zero => omega
      | succ fuel => simp [walk, next_octets hlast, hend]
  | cons x rs ih =>
      simp only [List.mem_cons, forall_eq_or_imp] at hlength htype
      rw [List.length_cons] at hfuel
      cases fuel with
      | zero => omega
      | succ fuel =>
          have hrest := ih hlength.2 htype.2 (Nat.lt_of_succ_lt_succ hfuel)
          simp only [List.flatMap_cons, List.append_assoc]
          rw [walk, next_octets hlength.1]
          simp [htype.1, hrest]

end Tlv
