import Umrp.Creation
import Umrp.Model.Client

/-!
# The name of an association

The client is given a name for the CFM association of an interconnection.  It lays out a
binary header in front of it, which holds a zero octet; the server copies what it gets
up to the first zero.  This file follows a name from the command line to the kernel.

Main results:

- Theorem `addmrpArgs_copyIn`: a request crosses the socket unchanged, but for the name,
  of which only two octets of the header arrive.
- Theorem `maid_of_name`: what is left of a name.
-/

namespace Umrp

open Octets

/-! ## The socket -/

/-- The header of a name. -/
theorem cfmMaidGet_header (argv : List UInt8) (maid : Buf) :
    cfmMaidGet argv maid 0 = 1 ∧ cfmMaidGet argv maid 1 = 2 ∧ cfmMaidGet argv maid 2 = 0 := by
  simp [cfmMaidGet, Buf.put, cfmMaidLength]

/-- The array of a name in the structure of the request. -/
theorem addmrpCopyIn_maid (inp : Buf) (a : AddArgs) (cfmMaid : Buf) {i : Nat}
    (h : i < cfmMaidLength) : addmrpCopyIn inp a cfmMaid (Cmd.maidOffset + i) = cfmMaid i := by
  have hlen : i < ((List.range cfmMaidLength).map cfmMaid).length := by simpa using h
  have hbefore : Cmd.maidOffset + i < Cmd.dmacOffset := by
    unfold cfmMaidLength at h
    unfold Cmd.maidOffset Cmd.dmacOffset
    omega
  unfold addmrpCopyIn
  rw [Buf.put_of_outside _ (.inl hbefore), Buf.put_add _ hlen]
  simp

/-- The address in the structure of the request. -/
theorem addmrpCopyIn_dmac (inp : Buf) (a : AddArgs) (cfmMaid : Buf) :
    macAt (addmrpCopyIn inp a cfmMaid) Cmd.dmacOffset = a.cfmDmac := by
  simp [addmrpCopyIn, macAt, Buf.put, Cmd.dmacOffset, Mac.octets]

/-- A request crosses the socket unchanged, but for the name. -/
theorem addmrpArgs_copyIn (inp : Buf) (a : AddArgs) (cfmMaid : Buf) :
    addmrpArgs (addmrpCopyIn inp a cfmMaid) =
      { a with cfmMaid := (addmrpArgs (addmrpCopyIn inp a cfmMaid)).cfmMaid } := by
  have hdmac := addmrpCopyIn_dmac inp a cfmMaid
  simp only [addmrpArgs, hdmac]
  congr 1
  all_goals
    simp [addmrpCopyIn, Cmd.maidOffset, Cmd.dmacOffset, cfmMaidLength, Mac.octets, Buf.le32_put,
      Buf.le32_put_of_disjoint]

/-- Of a name only the two octets of the header in front of the first zero arrive. -/
theorem addmrpArgs_cfmMaidGet (inp : Buf) (a : AddArgs) (argv : List UInt8) (maid : Buf) :
    addmrpArgs (addmrpCopyIn inp a (cfmMaidGet argv maid)) = { a with cfmMaid := [1, 2] } := by
  rcases cfmMaidGet_header argv maid with ⟨h0, h1, h2⟩
  have hoctet : ∀ i < cfmMaidLength, addmrpCopyIn inp a (cfmMaidGet argv maid)
      (Cmd.maidOffset + i) = cfmMaidGet argv maid i := fun i hi =>
    addmrpCopyIn_maid inp a (cfmMaidGet argv maid) hi
  have hlen : (addmrpCopyIn inp a (cfmMaidGet argv maid)).strnlen Cmd.maidOffset
      (Cmd.addmrp.inSize - Cmd.maidOffset) = 2 := by
    apply Buf.strnlen_eq
    · decide
    · rw [hoctet 2 (by decide), h2]
    · intro i hi
      rw [hoctet i (by unfold cfmMaidLength; omega)]
      rcases (by omega : i = 0 ∨ i = 1) with rfl | rfl
      · rw [h0]
        decide
      · rw [h1]
        decide
  have hmaid : (addmrpArgs (addmrpCopyIn inp a (cfmMaidGet argv maid))).cfmMaid = [1, 2] := by
    have hrange : List.range 2 = [0, 1] := rfl
    simp only [addmrpArgs, hlen, hrange, List.map_cons, List.map_nil, Buf.drop]
    rw [hoctet 0 (by decide), hoctet 1 (by decide), h0, h1]
  rw [addmrpArgs_copyIn, hmaid]

/-- The server takes the datagram for a request to add an instance. -/
theorem ctlRcvHandler_addmrp (t : Table) (env : Env) (inp : Buf) (a : AddArgs) (cfmMaid : Buf)
    (res : Int32) :
    (ctlAddmrpMsg inp a cfmMaid res).unexpected = false ∧
      (t.ctlRcvHandler env (ctlAddmrpMsg inp a cfmMaid res)).table =
        (t.mrpAdd env (addmrpArgs (addmrpCopyIn inp a cfmMaid))).1 := by
  have hexpected : (ctlAddmrpMsg inp a cfmMaid res).unexpected = false := by
    rfl
  have hcode : Cmd.ofCode? Cmd.addmrp.code = some .addmrp := by decide
  have hsizes : ¬ (UInt64.ofNat Cmd.addmrp.inSize ≠ toSize (Int32.ofNat Cmd.addmrp.inSize) ∨
      UInt64.ofNat Cmd.addmrp.outSize ≠ toSize (Int32.ofNat Cmd.addmrp.outSize)) := by decide
  have hcase : (t.messageCase env .addmrp (addmrpCopyIn inp a cfmMaid)
      (Int32.ofNat Cmd.addmrp.inSize) (Int32.ofNat Cmd.addmrp.outSize)).table =
        (t.mrpAdd env (addmrpArgs (addmrpCopyIn inp a cfmMaid))).1 := by
    unfold Table.messageCase
    rw [if_neg hsizes]
    dsimp only
    split <;> rfl
  refine ⟨hexpected, ?_⟩
  rw [Table.ctlRcvHandler, if_neg (ne_true_of_eq_false hexpected), ← hcase]
  simp only [ctlAddmrpMsg, Table.handleMessage, hcode]

/-! ## The kernel -/

/-- The association that an instance with an interconnection port is configured with. -/
theorem configure_maids {env : Env} {a : AddArgs} (hmode : InMode.ofUInt32 a.inMode ≠ .rc)
    (hport : a.iport ≠ 0) : (Mrp.configure env a).maids = [maidData a.cfmMaid] := by
  have hpos : a.iport > 0 := UInt32.pos_iff_ne_zero.mpr hport
  have hcalls := applySettings_calls env a
  have hinit : ((Mrp.applySettings env a).initPorts env a).inMode ≠ .rc := by
    rw [(initPorts_keeps (Mrp.applySettings env a) env a).1]
    exact hmode
  rw [Mrp.configure, if_pos hinit]
  simp only [Mrp.initPorts, if_pos hpos, Mrp.portInit, Mrp.startCfm, Mrp.maids, Mrp.call,
    Mrp.cfmCcmStart, hcalls]
  rfl

/-- Two octets and zeros. -/
theorem maidData_header : maidData [1, 2] = 1 :: 2 :: List.replicate 46 0 := by
  decide

/-- Which texts stand in a MAID that is two octets and zeros. -/
theorem infix_header_iff {name : List UInt8} (hname : 0 ∉ name) (n : Nat) :
    name <:+: 1 :: 2 :: List.replicate n 0 ↔ name ∈ [[], [1], [2], [1, 2]] := by
  have hzeros : ∀ l : List UInt8, 0 ∉ l → l ⊆ List.replicate n 0 → l = [] := by
    intro l hl hsub
    cases l with
    | nil => rfl
    | cons x l =>
        have hx : x = 0 := List.eq_of_mem_replicate (hsub (List.mem_cons_self ..))
        exact absurd (hx ▸ List.mem_cons_self ..) hl
  constructor
  · intro h
    rcases List.infix_cons_iff.mp h with hpre | hinf
    · rcases List.prefix_cons_iff.mp hpre with rfl | ⟨l, rfl, hl⟩
      · simp
      · rcases List.prefix_cons_iff.mp hl with rfl | ⟨l', rfl, hl'⟩
        · simp
        · have hnil : l' = [] := hzeros l' (by simp_all) hl'.subset
          simp [hnil]
    · rcases List.infix_cons_iff.mp hinf with hpre | hinf'
      · rcases List.prefix_cons_iff.mp hpre with rfl | ⟨l, rfl, hl⟩
        · simp
        · have hnil : l = [] := hzeros l (by simp_all) hl.subset
          simp [hnil]
      · have hnil : name = [] := hzeros name hname hinf'.subset
        simp [hnil]
  · intro h
    simp only [List.mem_cons, List.not_mem_nil, or_false] at h
    rcases h with rfl | rfl | rfl | rfl
    · exact List.nil_infix
    · exact ⟨[], 2 :: List.replicate n 0, rfl⟩
    · exact ⟨[1], List.replicate n 0, rfl⟩
    · exact ⟨[], List.replicate n 0, rfl⟩

/-! ## What is left of a name -/

/-- The MAIDs that the kernel is given for a request of the client. -/
def maidsOf (env : Env) (inp : Buf) (a : AddArgs) (maid : Buf) (name : List UInt8) :
    List (List UInt8) :=
  (Mrp.configure env (addmrpArgs (addmrpCopyIn inp a (cfmMaidGet name maid)))).maids

/-- What a name is for: if it fits it stands in the MAID, and no other name has the
same MAID.  It is always stored inside its array. -/
structure NameKept (env : Env) (inp : Buf) (a : AddArgs) (maid : Buf) (name : List UInt8) :
    Prop where
  contained : name.length ≤ cfmMaidLength - 3 → ∀ m ∈ maidsOf env inp a maid name, name <:+: m
  distinct : name.length ≤ cfmMaidLength - 3 → ∀ other : List UInt8, 0 ∉ other →
    other.length ≤ cfmMaidLength - 3 → other ≠ name →
    maidsOf env inp a maid other ≠ maidsOf env inp a maid name
  inside : ∀ r ∈ cfmMaidGetWrites name, r.Within cfmMaidLength

/-- The blocks of a name lie in its array exactly when the name fits behind the header. -/
theorem cfmMaidGetWrites_within_iff (name : List UInt8) :
    (∀ r ∈ cfmMaidGetWrites name, r.Within cfmMaidLength) ↔ name.length ≤ cfmMaidLength - 3 := by
  simp only [cfmMaidGetWrites, List.forall_mem_cons, Range.Within, cfmMaidLength]
  constructor
  · rintro ⟨-, -, -, -, h, -⟩
    omega
  · intro h
    refine ⟨by omega, by omega, by omega, by omega, by omega, fun _ hr => ?_⟩
    cases hr

/-- What becomes of a name that the client is given, in every request that starts CFM and
that the server takes.  The kernel gets the two octets of the header, whatever the name is:
only a text of these octets stands in the MAID, and all names have the same one.  The name
stays in its array exactly if it fits behind the header.  So no name serves its purpose. -/
theorem maid_of_name (env : Env) (inp : Buf) {a : AddArgs}
    (hmode : InMode.ofUInt32 a.inMode ≠ .rc) (hport : a.iport ≠ 0) (maid : Buf)
    {name : List UInt8} (hname : 0 ∉ name) :
    (∀ (t : Table) (res : Int32),
      (ctlAddmrpMsg inp a (cfmMaidGet name maid) res).unexpected = false ∧
        (t.ctlRcvHandler env (ctlAddmrpMsg inp a (cfmMaidGet name maid) res)).table =
          (t.mrpAdd env (addmrpArgs (addmrpCopyIn inp a (cfmMaidGet name maid)))).1) ∧
    maidsOf env inp a maid name = [1 :: 2 :: List.replicate 46 0] ∧
    ((∀ m ∈ maidsOf env inp a maid name, name <:+: m) ↔ name ∈ [[], [1], [2], [1, 2]]) ∧
    (∀ other : List UInt8, maidsOf env inp a maid other = maidsOf env inp a maid name) ∧
    ((∀ r ∈ cfmMaidGetWrites name, r.Within cfmMaidLength) ↔ name.length ≤ cfmMaidLength - 3) ∧
    ¬ NameKept env inp a maid name := by
  have hmaids : ∀ text, maidsOf env inp a maid text = [1 :: 2 :: List.replicate 46 0] := by
    intro text
    unfold maidsOf
    rw [addmrpArgs_cfmMaidGet, ← maidData_header]
    exact configure_maids (a := { a with cfmMaid := [1, 2] }) hmode hport
  have hsame : ∀ text other, maidsOf env inp a maid other = maidsOf env inp a maid text := by
    intro text other
    rw [hmaids, hmaids]
  refine ⟨fun t res => ctlRcvHandler_addmrp t env inp a _ res, hmaids name, ?_, hsame name,
    cfmMaidGetWrites_within_iff name, ?_⟩
  · rw [hmaids, List.forall_mem_singleton]
    exact infix_header_iff hname 46
  · intro hkept
    have hfits := (cfmMaidGetWrites_within_iff name).mp hkept.inside
    -- One octet or two: one of these names is another one.
    by_cases hone : name = [65]
    · exact hkept.distinct hfits [66] (by decide) (by decide) (by rw [hone]; decide)
        (hsame name [66])
    · exact hkept.distinct hfits [65] (by decide) (by decide) (Ne.symm hone) (hsame name [65])

/-- A request of the sample bridge for an interconnection that CFM monitors. -/
def Sample.monitored : AddArgs := { args ringRoleMrm inRoleMim with inMode := 1 }

theorem maid_of_name_sample :
    maidsOf Sample.env (fun _ => 0) Sample.monitored (fun _ => 0) [65] =
      [1 :: 2 :: List.replicate 46 0] :=
  (maid_of_name Sample.env (fun _ => 0) (a := Sample.monitored) (by decide) (by decide)
    (fun _ => 0) (show (0 : UInt8) ∉ [65] by decide)).2.1

/-- The names A and B are the same to the kernel, neither of them stands in the MAID, and a
name of 46 letters is written past the end of its array. -/
theorem names_lost :
    maidsOf Sample.env (fun _ => 0) Sample.monitored (fun _ => 0) [65] =
        maidsOf Sample.env (fun _ => 0) Sample.monitored (fun _ => 0) [66] ∧
      (∀ m ∈ maidsOf Sample.env (fun _ => 0) Sample.monitored (fun _ => 0) [65], 65 ∉ m) ∧
      (⟨3, 46⟩ : Range) ∈ cfmMaidGetWrites (List.replicate 46 65) ∧
      ¬ (⟨3, 46⟩ : Range).Within cfmMaidLength := by
  refine ⟨?_, ?_, ?_, ?_⟩
  · decide +kernel
  · decide +kernel
  · decide
  · decide

end Umrp
