import Umrp.Lib.Octets

/-!
# Computations that read a buffer

A computation that looks at a buffer asks for one octet after the other, and which
octet it asks for next may depend on those it has seen.  Written as a tree of such
questions it has a result and a log of the addresses it asked for, and the octets in
the log are all that the result depends on.

Main results:

- Theorem `Reading.log_bind`: a sequence of two computations asks for what the first
  asks for and then for what the second does.
- Theorem `Reading.congr`: a computation does the same on a buffer that agrees on the
  octets it asks for.
- Theorem `Reading.Within.congr`: a computation that stays among the first octets does
  the same whatever the buffer holds behind them.
-/

namespace Octets

/-- A computation that asks for octets of a buffer. -/
inductive Reading (α : Type) where
  | done (a : α)
  | octet (i : Nat) (next : UInt8 → Reading α)

namespace Reading

variable {α β : Type}

/-- The result on a buffer. -/
def eval : Reading α → Buf → α
  | .done a, _ => a
  | .octet i next, b => (next (b i)).eval b

/-- The addresses that are asked for on a buffer, in their order. -/
def log : Reading α → Buf → List Nat
  | .done _, _ => []
  | .octet i next, b => i :: (next (b i)).log b

/-- Go on with the result of a computation. -/
def andThen (m : Reading α) (f : α → Reading β) : Reading β :=
  match m with
  | .done a => f a
  | .octet i next => .octet i fun x => (next x).andThen f

instance : Monad Reading where
  pure := .done
  bind := andThen

/-- Ask for one octet. -/
def octetAt (i : Nat) : Reading UInt8 := .octet i .done

/-- Ask for a 16-bit value in network byte order. -/
def be16At (off : Nat) : Reading UInt16 := do
  let hi ← octetAt off
  let lo ← octetAt (off + 1)
  return UInt16.ofNat (hi.toNat * 256 + lo.toNat)

/-- Ask for a 16-bit value as a little-endian host loads it. -/
def le16At (off : Nat) : Reading UInt16 := do
  let lo ← octetAt off
  let hi ← octetAt (off + 1)
  return UInt16.ofNat (hi.toNat * 256 + lo.toNat)

/-! ## Results and logs -/

@[simp]
theorem eval_pure (a : α) (b : Buf) : (pure a : Reading α).eval b = a :=
  rfl

@[simp]
theorem log_pure (a : α) (b : Buf) : (pure a : Reading α).log b = [] :=
  rfl

/-- The result of a sequence. -/
@[simp]
theorem eval_bind (m : Reading α) (f : α → Reading β) (b : Buf) :
    (m >>= f).eval b = (f (m.eval b)).eval b := by
  induction m with
  | done a => rfl
  | octet i next ih => exact ih (b i)

/-- The log of a sequence. -/
theorem log_bind (m : Reading α) (f : α → Reading β) (b : Buf) :
    (m >>= f).log b = m.log b ++ (f (m.eval b)).log b := by
  induction m with
  | done a => rfl
  | octet i next ih => exact congrArg (i :: ·) (ih (b i))

@[simp]
theorem eval_ite (c : Prop) [Decidable c] (m m' : Reading α) (b : Buf) :
    (if c then m else m').eval b = if c then m.eval b else m'.eval b := by
  split <;> rfl

@[simp]
theorem eval_be16At (off : Nat) (b : Buf) : (be16At off).eval b = b.be16 off :=
  (rfl)

@[simp]
theorem eval_le16At (off : Nat) (b : Buf) : (le16At off).eval b = b.le16 off :=
  (rfl)

@[simp]
theorem eval_octetAt (i : Nat) (b : Buf) : (octetAt i).eval b = b i :=
  (rfl)

/-- A computation does the same on a buffer that agrees on the octets it asks for. -/
theorem congr {m : Reading α} {b b' : Buf} (h : ∀ i ∈ m.log b, b' i = b i) :
    m.eval b' = m.eval b ∧ m.log b' = m.log b := by
  induction m with
  | done a => exact ⟨rfl, rfl⟩
  | octet i next ih =>
      have hi : b' i = b i := h i (by simp [log])
      have hnext := ih (b i) fun j hj => h j (by simp [log, hj])
      constructor
      · rw [eval, eval, hi, hnext.1]
      · rw [log, log, hi, hnext.2]

/-! ## Computations that stay among the first octets -/

/-- On the buffer, only octets among the first `n` are asked for. -/
def Within (m : Reading α) (b : Buf) (n : Nat) : Prop :=
  ∀ i ∈ m.log b, i < n

section Within

variable {b : Buf} {n : Nat}

@[simp]
theorem within_pure (a : α) : (pure a : Reading α).Within b n := by
  simp [Within]

@[simp]
theorem within_bind (m : Reading α) (f : α → Reading β) :
    (m >>= f).Within b n ↔ m.Within b n ∧ (f (m.eval b)).Within b n := by
  simp only [Within, log_bind, List.forall_mem_append]

@[simp]
theorem within_ite (c : Prop) [Decidable c] (m m' : Reading α) :
    (if c then m else m').Within b n ↔ (c → m.Within b n) ∧ (¬ c → m'.Within b n) := by
  split <;> simp_all

@[simp]
theorem within_octetAt (i : Nat) : (octetAt i).Within b n ↔ i < n := by
  simp [Within, octetAt, log]

@[simp]
theorem within_be16At (off : Nat) : (be16At off).Within b n ↔ off + 1 < n := by
  simp only [be16At, within_bind, within_octetAt, within_pure, and_true]
  omega

@[simp]
theorem within_le16At (off : Nat) : (le16At off).Within b n ↔ off + 1 < n := by
  simp only [le16At, within_bind, within_octetAt, within_pure, and_true]
  omega

/-- What stands behind the first octets does not matter to a computation that stays
among them. -/
theorem Within.congr {m : Reading α} {b' : Buf} (h : m.Within b n)
    (hb : ∀ i < n, b' i = b i) : m.eval b' = m.eval b ∧ m.Within b' n := by
  have hagree := Reading.congr fun i hi => hb i (h i hi)
  refine ⟨hagree.1, ?_⟩
  rw [Within, hagree.2]
  exact h

end Within

end Reading

end Octets
