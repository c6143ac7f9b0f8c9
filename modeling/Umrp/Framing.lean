import Umrp.Codec
import Umrp.Lib.Tlv

/-!
# Frames as chains of TLVs

The receiver of this program looks for fields at fixed offsets and never at a length.
A peer that follows the announced lengths has nothing else to go by, so they have to
add up: behind the version a frame is its own TLV, the COMMON TLV and the END TLV, and
an OPTION TLV is filled by what it contains.

The two option frames miss this by the two octets of padding, which one of them
leaves out of the announced length and the other announces without writing them.

Main results:

- Theorem `Sent.tlv_eq`: every other TLV announces the length of its value.
- Theorem `tlvChain_iff`: which frames are well-formed chains.
-/

namespace Umrp

open Octets EventMachine

namespace Sent

/-- The payload behind the version, as a reader of TLVs walks through it. -/
def walk (s : Sent) : Option (List Tlv.Record × List UInt8) :=
  Tlv.walk TlvType.tlvEnd.toUInt8 s.payload.length (s.payload.drop sizeofVersion)

/-- The value of an OPTION TLV: the OUI and the sub-option header, followed by one
sub-TLV that reaches to the end. -/
def OptionFilled (value : List UInt8) : Prop :=
  ∃ sub, Tlv.next (value.drop (sizeofOuiHdr + sizeofSubOptHdr)) = some (sub, [])

/-- A well-formed chain: the frame's own TLV, COMMON with length 18, END with length 0,
and nothing else.  An OPTION TLV is filled by what it contains. -/
def TlvChain (s : Sent) : Prop :=
  ∃ own common, s.walk = some ([own, common, ⟨TlvType.tlvEnd.toUInt8, []⟩], []) ∧
    own.octets = s.tlv ∧ common.type = TlvType.common.toUInt8 ∧ common.value.length = 18 ∧
    (s.frame.type = .option → OptionFilled own.value)

/-- The value of the COMMON TLV. -/
def common (s : Sent) : Tlv.Record :=
  ⟨TlvType.common.toUInt8, be16 s.seq ++ mrpDomain⟩

theorem octets_common (s : Sent) : s.common.octets = fbCommon s.seq :=
  rfl

/-- A TLV that is no OPTION announces the length of its value. -/
theorem tlv_eq (s : Sent) (h : s.frame.type ≠ .option) :
    ∃ own : Tlv.Record, own.type = s.frame.type.toUInt8 ∧ own.value.length < 256 ∧
      own.octets = s.tlv := by
  refine ⟨⟨s.frame.type.toUInt8, s.tlv.drop 2⟩, rfl, ?_, ?_⟩
  · have hle := s.length_tlv
    rw [List.length_drop]
    omega
  · unfold Sent.tlv
    cases hf : s.frame with
    | testMgrNack otherSa =>
        rw [hf] at h
        exact absurd rfl h
    | testProp otherPrio otherSa =>
        rw [hf] at h
        exact absurd rfl h
    | ringLink up interval => cases up <;> rfl
    | inLink up interval => cases up <;> rfl
    | _ => rfl

/-- No frame is of the type that ends a chain. -/
theorem type_ne_tlvEnd (s : Sent) : s.frame.type.toUInt8 ≠ TlvType.tlvEnd.toUInt8 := by
  cases s.frame with
  | ringLink up _ => cases up <;> simp [Frame.type, TlvType.toUInt8]
  | inLink up _ => cases up <;> simp [Frame.type, TlvType.toUInt8]
  | _ => simp [Frame.type, TlvType.toUInt8]

/-- Behind the version stand the three TLVs. -/
theorem drop_payload (s : Sent) :
    s.payload.drop sizeofVersion = s.tlv ++ (fbCommon s.seq ++ fbTlv .tlvEnd 0) := by
  simp [payload, sizeofVersion, Octets.be16]

/-- Without an OPTION the reader meets what was written. -/
theorem walk_eq (s : Sent) {own : Tlv.Record} (htype : own.type = s.frame.type.toUInt8)
    (hlength : own.value.length < 256) (hown : own.octets = s.tlv) :
    s.walk = some ([own, s.common, ⟨TlvType.tlvEnd.toUInt8, []⟩], []) := by
  have hcommon : s.common.value.length = 18 := by simp [common, mrpDomain]
  have hoctets : s.payload.drop sizeofVersion =
      [own, s.common].flatMap Tlv.Record.octets ++
        ((⟨TlvType.tlvEnd.toUInt8, []⟩ : Tlv.Record).octets ++ []) := by
    have hend : (⟨TlvType.tlvEnd.toUInt8, []⟩ : Tlv.Record).octets = fbTlv .tlvEnd 0 := rfl
    simp [drop_payload, hown, octets_common, hend]
  have hfuel : [own, s.common].length < s.payload.length := by
    rw [s.length_payload]
    simp
  rw [walk, hoctets]
  refine Tlv.walk_octets ?_ ?_ (by simp) rfl [] hfuel
  · simp [hlength, hcommon]
  · simp only [List.mem_cons, List.not_mem_nil, or_false, forall_eq_or_imp, forall_eq, htype]
    exact ⟨s.type_ne_tlvEnd, by simp [common, TlvType.toUInt8]⟩

/-- An OPTION TLV announces 24 octets and a sub-TLV of 18, which do not fit into it. -/
theorem tlv_option (s : Sent) (h : s.frame.type = .option) :
    ∃ rest, s.tlv = fbTlv .option 24 ++ rest ∧
      Tlv.next ((rest.take 24).drop (sizeofOuiHdr + sizeofSubOptHdr)) = none := by
  unfold tlv
  cases hf : s.frame with
  | testMgrNack otherSa => exact ⟨_, rfl, rfl⟩
  | testProp otherPrio otherSa => exact ⟨_, rfl, rfl⟩
  | ringLink up _ => cases up <;> simp [hf, Frame.type] at h
  | inLink up _ => cases up <;> simp [hf, Frame.type] at h
  | _ => simp [hf, Frame.type] at h

/-- So an option frame is no chain. -/
theorem not_tlvChain_of_option (s : Sent) (htype : s.frame.type = .option) : ¬ s.TlvChain := by
  rintro ⟨own, common, -, hown, -, -, hfilled⟩
  rcases s.tlv_option htype with ⟨rest, htlv, hnext⟩
  rcases hfilled htype with ⟨sub, hsub⟩
  have hle := s.length_tlv
  simp only [htlv, fbTlv, List.cons_append, List.nil_append, List.length_cons] at hle
  simp only [Tlv.Record.octets, htlv, fbTlv, List.cons_append, List.nil_append,
    List.cons.injEq] at hown
  rcases hown with ⟨-, hannounced, hvalue⟩
  have hlength : own.value.length = 24 := by
    have := congrArg UInt8.toNat hannounced
    rw [UInt8.toNat_ofNat'] at this
    change own.value.length % 256 = 24 at this
    rw [hvalue] at this ⊢
    omega
  have hexact : rest.take 24 = own.value := by
    rw [← hvalue, ← hlength, List.take_length]
  rw [hexact, hsub] at hnext
  cases hnext

end Sent

/-- A frame is a well-formed chain of TLVs unless it is an option frame: a test manager
NACK or a test propagate. -/
theorem tlvChain_iff (s : Sent) : s.TlvChain ↔ s.frame.type ≠ .option := by
  constructor
  · exact fun hchain htype => s.not_tlvChain_of_option htype hchain
  · intro htype
    rcases s.tlv_eq htype with ⟨own, hown, hlength, hoctets⟩
    refine ⟨own, s.common, s.walk_eq hown hlength hoctets, hoctets, rfl, ?_, ?_⟩
    · simp [Sent.common, mrpDomain]
    · exact fun hoption => absurd hoption htype

namespace Sample

/-- The sample auto-manager after it has seen the test frame of a bridge that it beats. -/
def objector : Mrp :=
  run Mrp.step (mrp ringRoleMra 0)
    [.recv (.ring .primary) (frame (mac 9) 0xF000 (.ringTest true 0 0))]

end Sample

/-- The NACK with which the auto-manager objects and the propagate frame that it sends
when it is told of a better manager are both no well-formed chains. -/
theorem option_not_tlvChain :
    Reachable Sample.env (Sample.args ringRoleMra 0) Sample.objector ∧
      Reachable Sample.env (Sample.args ringRoleMra 0) Sample.follower ∧
      (∃ s ∈ Sample.objector.sent, s.frame = .testMgrNack (Sample.mac 9) ∧ ¬ s.TlvChain) ∧
      ∃ s ∈ Sample.follower.sent, s.frame = .testProp 0x1000 (Sample.mac 9) ∧ ¬ s.TlvChain := by
  have hnack : ∃ s ∈ Sample.objector.sent, s.frame = .testMgrNack (Sample.mac 9) := by
    decide +kernel
  have hprop : ∃ s ∈ Sample.follower.sent, s.frame = .testProp 0x1000 (Sample.mac 9) := by
    decide +kernel
  rcases hnack with ⟨s, hs, hframe⟩
  rcases hprop with ⟨s', hs', hframe'⟩
  have hcreated : Created Sample.env (Sample.args ringRoleMra 0) (Sample.mrp ringRoleMra 0) :=
    Sample.created (by decide +kernel)
  have hoption : s.frame.type = .option := by
    rw [hframe]
    rfl
  have hoption' : s'.frame.type = .option := by
    rw [hframe']
    rfl
  exact ⟨⟨_, _, hcreated, rfl⟩, ⟨_, _, hcreated, rfl⟩,
    ⟨s, hs, hframe, s.not_tlvChain_of_option hoption⟩,
    s', hs', hframe', s'.not_tlvChain_of_option hoption'⟩

end Umrp
