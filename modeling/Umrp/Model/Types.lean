import Umrp.Lib.Octets

/-!
# Roles, states and addresses

The enumerations of `linux/mrp_bridge.h` and `utils.h`, Ethernet addresses with
the three helpers of `utils.c`, and the libev timer.  A C enumeration that is
filled from a request or from a received octet can hold a value outside its
list; such types have an `unknown` constructor.

Main results:

- Theorem `etherAddrEqual_iff`: the comparison of three 16-bit words is equality.
- Theorem `etherAddrToU64_injective`: folding an address into a 64-bit number
  loses nothing.
-/

namespace Umrp

/-! ## Enumerations -/

/-- Ring roles, `enum br_mrp_ring_role_type`. -/
inductive RingRole
  | disabled | mrc | mrm | mra
deriving DecidableEq

/-- Interconnection roles, `enum br_mrp_in_role_type`. -/
inductive InRole
  | disabled | mic | mim
deriving DecidableEq

/-- Port states, `enum br_mrp_port_state_type`. -/
inductive PortState
  | disabled | blocked | forwarding | notConnected
deriving DecidableEq

/-- The two ring ports of an instance, named by the role they were created with. -/
inductive RingPort
  | primary | secondary
deriving DecidableEq

/-- The ring port at the other end. -/
def RingPort.other : RingPort → RingPort
  | .primary => .secondary
  | .secondary => .primary

/-- A port of an instance.  Its `role` is written once, by `mrp_port_init`, and
differs between the ports of one instance, so it serves as the identity that C
code compares pointers for. -/
inductive Port
  | ring (r : RingPort)
  | inter
deriving DecidableEq

/-- The number of a port's role, `enum br_mrp_port_role_type`. -/
def Port.role : Port → UInt16
  | .ring .primary => 0
  | .ring .secondary => 1
  | .inter => 2

/-- Manager states, `enum mrp_mrm_state_type`. -/
inductive MrmState
  | acStat1 | prmUp | chkRo | chkRc
deriving DecidableEq

/-- Client states, `enum mrp_mrc_state_type`. -/
inductive MrcState
  | acStat1 | deIdle | pt | de | ptIdle
deriving DecidableEq

/-- Interconnection manager states, `enum mrp_mim_state_type`. -/
inductive MimState
  | acStat1 | chkIo | chkIc
deriving DecidableEq

/-- Interconnection client states, `enum mrp_mic_state_type`. -/
inductive MicState
  | acStat1 | pt | ipIdle
deriving DecidableEq

/-- Interconnection modes, `enum mrp_in_mode_type`; a request can carry any number. -/
inductive InMode
  | rc | lc
  | unknown (v : UInt32)
deriving DecidableEq

/-- The mode a request's number stands for. -/
def InMode.ofUInt32 (v : UInt32) : InMode :=
  if v = 0 then .rc else if v = 1 then .lc else .unknown v

/-- TLV types, `enum br_mrp_tlv_header_type`; a frame can carry any octet. -/
inductive TlvType
  | tlvEnd | common | ringTest | ringTopo | ringLinkDown | ringLinkUp
  | inTest | inTopo | inLinkDown | inLinkUp | inLinkStatus | option
  | unknown (v : UInt8)
deriving DecidableEq

/-- The type a received octet stands for. -/
def TlvType.ofUInt8 (v : UInt8) : TlvType :=
  if v = 0x0 then .tlvEnd else if v = 0x1 then .common
  else if v = 0x2 then .ringTest else if v = 0x3 then .ringTopo
  else if v = 0x4 then .ringLinkDown else if v = 0x5 then .ringLinkUp
  else if v = 0x6 then .inTest else if v = 0x7 then .inTopo
  else if v = 0x8 then .inLinkDown else if v = 0x9 then .inLinkUp
  else if v = 0xa then .inLinkStatus else if v = 0x7f then .option
  else .unknown v

/-- The octet that stands for a type. -/
def TlvType.toUInt8 : TlvType → UInt8
  | .tlvEnd => 0x0
  | .common => 0x1
  | .ringTest => 0x2
  | .ringTopo => 0x3
  | .ringLinkDown => 0x4
  | .ringLinkUp => 0x5
  | .inTest => 0x6
  | .inTopo => 0x7
  | .inLinkDown => 0x8
  | .inLinkUp => 0x9
  | .inLinkStatus => 0xa
  | .option => 0x7f
  | .unknown v => v

/-- Sub-TLV type of a test manager NACK. -/
def subTlvTestMgrNack : UInt8 := 0x1

/-- Sub-TLV type of a test propagate. -/
def subTlvTestPropagate : UInt8 := 0x2

/-! ## Operational states of an interface -/

/-- `IF_OPER_UNKNOWN`; also what a zeroed port structure holds. -/
def ifOperUnknown : UInt8 := 0

/-- `IF_OPER_NOTPRESENT`. -/
def ifOperNotPresent : UInt8 := 1

/-- `IF_OPER_DOWN`. -/
def ifOperDown : UInt8 := 2

/-- `IF_OPER_LOWERLAYERDOWN`. -/
def ifOperLowerLayerDown : UInt8 := 3

/-- `IF_OPER_TESTING`. -/
def ifOperTesting : UInt8 := 4

/-- `IF_OPER_DORMANT`. -/
def ifOperDormant : UInt8 := 5

/-- `IF_OPER_UP`. -/
def ifOperUp : UInt8 := 6

/-! ## Ethernet addresses -/

/-- An Ethernet address: `ETH_ALEN` octets in transmission order. -/
structure Mac where
  b0 : UInt8
  b1 : UInt8
  b2 : UInt8
  b3 : UInt8
  b4 : UInt8
  b5 : UInt8
deriving DecidableEq

/-- The octets of an address in transmission order. -/
def Mac.octets (a : Mac) : List UInt8 :=
  [a.b0, a.b1, a.b2, a.b3, a.b4, a.b5]

/-- The all-zero address of a zeroed structure. -/
def Mac.zero : Mac := ⟨0, 0, 0, 0, 0, 0⟩

/-- A 16-bit word of an address as a little-endian host loads it. -/
def Mac.word (lo hi : UInt8) : UInt16 :=
  UInt16.ofNat (hi.toNat * 256 + lo.toNat)

/-- The source's `ether_addr_equal`: three words are compared by exclusive or. -/
def etherAddrEqual (a b : Mac) : Bool :=
  ((Mac.word a.b0 a.b1 ^^^ Mac.word b.b0 b.b1) |||
    (Mac.word a.b2 a.b3 ^^^ Mac.word b.b2 b.b3) |||
    (Mac.word a.b4 a.b5 ^^^ Mac.word b.b4 b.b5)) == 0

/-- The source's `ether_addr_to_u64`: the octets are shifted into one number. -/
def etherAddrToU64 (a : Mac) : UInt64 :=
  a.octets.foldl (fun u b => u <<< 8 ||| b.toUInt64) 0

/-- A number determines its last base-256 digit and the digits before it. -/
theorem appendOctet_injective {x y : Nat} {b c : UInt8}
    (h : x * 256 + b.toNat = y * 256 + c.toNat) : x = y ∧ b = c := by
  have hb := b.toNat_lt
  have hc := c.toNat_lt
  constructor
  · omega
  · apply UInt8.toNat_inj.mp
    omega

/-- Two words agree only when both their octets do. -/
theorem Mac.word_injective {lo hi lo' hi' : UInt8}
    (h : Mac.word lo hi = Mac.word lo' hi') : lo = lo' ∧ hi = hi' := by
  have hlo := lo.toNat_lt
  have hhi := hi.toNat_lt
  have hlo' := lo'.toNat_lt
  have hhi' := hi'.toNat_lt
  have hnat : hi.toNat * 256 + lo.toNat = hi'.toNat * 256 + lo'.toNat := by
    have := congrArg UInt16.toNat h
    simp only [Mac.word, UInt16.toNat_ofNat'] at this
    omega
  rcases appendOctet_injective hnat with ⟨hhi, hlo⟩
  exact ⟨hlo, UInt8.toNat_inj.mp hhi⟩

/-- The comparison of three words is equality of addresses. -/
@[simp]
theorem etherAddrEqual_iff (a b : Mac) : etherAddrEqual a b = true ↔ a = b := by
  rw [etherAddrEqual, beq_iff_eq]
  constructor
  · intro h
    simp only [UInt16.or_eq_zero_iff, UInt16.xor_eq_zero_iff] at h
    rcases h with ⟨⟨h01, h23⟩, h45⟩
    rcases Mac.word_injective h01 with ⟨h0, h1⟩
    rcases Mac.word_injective h23 with ⟨h2, h3⟩
    rcases Mac.word_injective h45 with ⟨h4, h5⟩
    cases a
    cases b
    simp_all
  · rintro rfl
    simp

@[simp]
theorem etherAddrEqual_eq_false (a b : Mac) : etherAddrEqual a b = false ↔ a ≠ b := by
  rw [← Bool.not_eq_true, etherAddrEqual_iff]

/-- Shifting in one more octet appends a base-256 digit. -/
theorem toNat_shiftLeft_or {u : UInt64} {b : UInt8} (hu : u.toNat < 72057594037927936) :
    (u <<< 8 ||| b.toUInt64).toNat = u.toNat * 256 + b.toNat := by
  have hshift : (u <<< 8).toNat = u.toNat <<< 8 := by
    rw [UInt64.toNat_shiftLeft]
    have hlt : u.toNat <<< 8 < 18446744073709551616 := by
      rw [Nat.shiftLeft_eq]
      omega
    simpa using Nat.mod_eq_of_lt hlt
  rw [UInt64.toNat_or, hshift, UInt8.toNat_toUInt64,
    ← Nat.shiftLeft_add_eq_or_of_lt b.toNat_lt, Nat.shiftLeft_eq]

/-- The number an address is folded into, digit by digit. -/
theorem etherAddrToU64_toNat (a : Mac) :
    (etherAddrToU64 a).toNat =
      ((((a.b0.toNat * 256 + a.b1.toNat) * 256 + a.b2.toNat) * 256 + a.b3.toNat) * 256 +
        a.b4.toNat) * 256 + a.b5.toNat := by
  have h0 := a.b0.toNat_lt
  have h1 := a.b1.toNat_lt
  have h2 := a.b2.toNat_lt
  have h3 := a.b3.toNat_lt
  have h4 := a.b4.toNat_lt
  simp only [etherAddrToU64, Mac.octets, List.foldl_cons, List.foldl_nil]
  have e0 := toNat_shiftLeft_or (u := 0) (b := a.b0) (by decide)
  rw [UInt64.toNat_zero, Nat.zero_mul, Nat.zero_add] at e0
  have e1 := toNat_shiftLeft_or (b := a.b1) (by rw [e0]; omega)
  rw [e0] at e1
  have e2 := toNat_shiftLeft_or (b := a.b2) (by rw [e1]; omega)
  rw [e1] at e2
  have e3 := toNat_shiftLeft_or (b := a.b3) (by rw [e2]; omega)
  rw [e2] at e3
  have e4 := toNat_shiftLeft_or (b := a.b4) (by rw [e3]; omega)
  rw [e3] at e4
  rw [toNat_shiftLeft_or (by rw [e4]; omega), e4]

/-- Folding an address into a 64-bit number loses nothing. -/
theorem etherAddrToU64_injective {a b : Mac}
    (h : (etherAddrToU64 a).toNat = (etherAddrToU64 b).toNat) : a = b := by
  rw [etherAddrToU64_toNat, etherAddrToU64_toNat] at h
  rcases appendOctet_injective h with ⟨h, h5⟩
  rcases appendOctet_injective h with ⟨h, h4⟩
  rcases appendOctet_injective h with ⟨h, h3⟩
  rcases appendOctet_injective h with ⟨h, h2⟩
  rcases appendOctet_injective h with ⟨h, h1⟩
  have h0 := UInt8.toNat_inj.mp h
  cases a
  cases b
  simp_all

end Umrp
