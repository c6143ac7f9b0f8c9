import Umrp.Netlink.Notifications

/-!
# What the listener reads

The listener follows lengths that it finds in the message, at three levels of nesting.
Whatever they are, the attributes that it looks at lie inside the message, and if their
values do as well, what it does is decided by the octets of the message alone.

Main results:

- Theorem `SameMessage.listen`: what stands behind the message does not matter.
- Theorem `listening_inside`: at no level an attribute reaches beyond the message.
-/

namespace Umrp

open Octets Attributes

/-! ## Parts of memory -/

/-- Two memories are the same from `lo` up to `hi`. -/
def SameOn (b b' : Buf) (lo : Nat) (hi : Int) : Prop :=
  ∀ i : Nat, lo ≤ i → (i : Int) < hi → b i = b' i

/-- An attribute lies between `lo` and `hi`, with its header at least. -/
structure Inside (lo : Nat) (hi : Int) (c : Cell) : Prop where
  lower : lo ≤ c.pos
  header : 4 ≤ c.len
  upper : (c.pos + c.len : Int) ≤ hi

/-- There are `n` octets of the value of an attribute before `hi`. -/
def HasValue (hi : Int) (n : Nat) (c : Cell) : Prop := (rtaData c + n : Int) ≤ hi

section Parts

variable {b b' : Buf} {lo pos max : Nat} {hi len : Int} {c d : Cell} {flags type : UInt16}

theorem SameOn.le32 (h : SameOn b b' lo hi) (hlo : lo ≤ pos) (hhi : (pos + 4 : Int) ≤ hi) :
    b.le32 pos = b'.le32 pos := by
  simp only [Buf.le32]
  rw [h pos hlo (by omega), h (pos + 1) (by omega) (by omega), h (pos + 2) (by omega) (by omega),
    h (pos + 3) (by omega) (by omega)]

theorem SameOn.le16 (h : SameOn b b' lo hi) (hlo : lo ≤ pos) (hhi : (pos + 2 : Int) ≤ hi) :
    b.le16 pos = b'.le16 pos := by
  simp only [Buf.le16]
  rw [h pos hlo (by omega), h (pos + 1) (by omega) (by omega)]

/-- The attributes of a part lie in it. -/
theorem inside_of_mem (h : c ∈ walk b pos len) (hlo : lo ≤ pos) (hhi : pos + len ≤ hi) :
    Inside lo hi c := by
  obtain ⟨-, hpos, hlen, hend⟩ := inside_of_mem_walk h
  exact ⟨hlo.trans hpos, hlen, hend.trans hhi⟩

/-- So do those that are nested in one of them. -/
theorem Inside.of_payload (hc : Inside lo hi c) (h : d ∈ walk b (rtaData c) (rtaPayload c)) :
    Inside lo hi d := by
  refine inside_of_mem h (hc.lower.trans (Nat.le_add_right _ 4)) ?_
  have hupper := hc.upper
  simp only [rtaData, rtaPayload]
  omega

theorem Inside.nested (hc : Inside lo hi c) (h : parseNested b max c type = some d) :
    Inside lo hi d :=
  hc.of_payload (inside_of_parse h).2.2

/-- The attributes of a part are decided by its octets. -/
theorem SameOn.parse (h : SameOn b b' pos (pos + len)) :
    parseRtattrFlags b max pos len flags = parseRtattrFlags b' max pos len flags := by
  rw [parseRtattrFlags, walk_congr h, ← parseRtattrFlags]

theorem SameOn.payload (h : SameOn b b' lo hi) (hc : Inside lo hi c) :
    SameOn b b' (rtaData c) (rtaData c + rtaPayload c) := by
  intro i hpos hend
  have hlower := hc.lower
  have hupper := hc.upper
  simp only [rtaData, rtaPayload] at hpos hend
  exact h i (by omega) (by omega)

/-- A value that is there is the same. -/
theorem SameOn.value (h : SameOn b b' lo hi) (hc : Inside lo hi c) {n : Nat}
    (hv : HasValue hi n c) {k : Nat} (hk : k < n) : b (rtaData c + k) = b' (rtaData c + k) := by
  have hlower := hc.lower
  simp only [HasValue, rtaData] at hv ⊢
  exact h _ (by omega) (by omega)

theorem SameOn.parseNested (h : SameOn b b' lo hi) (hc : Inside lo hi c) :
    parseNested b max c = parseNested b' max c :=
  (h.payload hc).parse

theorem inside_peerCells_of_table {tb : AttrTable}
    (htb : ∀ type c, tb type = some c → Inside lo hi c) (hc : c ∈ peerCells b tb) :
    Inside lo hi c := by
  unfold peerCells at hc
  cases haf : tb Ifla.afSpec with
  | none =>
      rw [haf] at hc
      cases hc
  | some af =>
      rw [haf] at hc
      dsimp only at hc
      cases hlist : parseNested b Ifla.bridgeMax af Ifla.bridgeCfm with
      | none =>
          rw [hlist] at hc
          cases hc
      | some list =>
          rw [hlist] at hc
          exact ((htb _ af haf).nested hlist).of_payload hc

theorem SameOn.peerCells {tb : AttrTable} (h : SameOn b b' lo hi)
    (htb : ∀ type c, tb type = some c → Inside lo hi c) :
    peerCells b tb = peerCells b' tb := by
  unfold Umrp.peerCells
  cases haf : tb Ifla.afSpec with
  | none => rfl
  | some af =>
      have hinside := htb _ af haf
      dsimp only
      rw [← h.parseNested hinside]
      cases hlist : Umrp.parseNested b Ifla.bridgeMax af Ifla.bridgeCfm with
      | none => rfl
      | some list => exact walk_congr (h.payload (hinside.nested hlist))

theorem foldlM_congr_of_mem {σ ε : Type} {f g : σ → ε → Option σ} {l : List ε}
    (h : ∀ x ∈ l, ∀ s, f s x = g s x) (s : σ) : l.foldlM f s = l.foldlM g s := by
  induction l generalizing s with
  | nil => rfl
  | cons x l ih =>
      rw [List.foldlM_cons, List.foldlM_cons, h x List.mem_cons_self]
      refine congrArg _ (funext fun s' => ih (fun y hy => h y (List.mem_cons_of_mem _ hy)) s')

/-- A report about a peer, read in both memories. -/
theorem SameOn.listenPeer {lo : Nat} {hi : Int} (hs : SameOn b b' lo hi) {i : Cell}
    (hinside : Inside lo hi i)
    (hvalues : i.type = Ifla.ccPeerStatusInfo ||| nlaFNested → ∀ type c,
      type = Ifla.peerStatusMepid ∨ type = Ifla.peerStatusDefect →
        Umrp.parseNested b Ifla.peerStatusMax i type = some c → HasValue hi 4 c)
    (ifindex : UInt32) (reg : Registry) :
    listenPeer b ifindex reg i = listenPeer b' ifindex reg i := by
  have hread : i.type = Ifla.ccPeerStatusInfo ||| nlaFNested → ∀ type c,
      type = Ifla.peerStatusMepid ∨ type = Ifla.peerStatusDefect →
        Umrp.parseNested b Ifla.peerStatusMax i type = some c →
          b.le32 (rtaData c) = b'.le32 (rtaData c) := by
    intro htype type c hkind hc
    have hlower := (hinside.nested hc).lower
    exact hs.le32 (hlower.trans (Nat.le_add_right _ 4)) (hvalues htype type c hkind hc)
  unfold Umrp.listenPeer
  rw [← hs.parseNested hinside]
  generalize Umrp.parseNested b Ifla.peerStatusMax i = infotb at hread ⊢
  by_cases htype : i.type = Ifla.ccPeerStatusInfo ||| nlaFNested
  · simp only [htype, ne_eq, not_true_eq_false, if_false]
    cases infotb Ifla.peerStatusInstance with
    | none => rfl
    | some _ =>
        cases hpeer : infotb Ifla.peerStatusMepid with
        | none => simp only [Option.bind_eq_bind, Option.bind_none]
        | some peer =>
            cases hdefect : infotb Ifla.peerStatusDefect with
            | none => simp only [Option.bind_eq_bind, Option.bind_some, Option.bind_none]
            | some defect =>
                simp only [Option.bind_eq_bind, Option.bind_some,
                  hread htype _ peer (.inl rfl) hpeer, hread htype _ defect (.inr rfl) hdefect]
  · rw [if_pos htype, if_pos htype]

/-- The values that the listener reads lie before `hi`. -/
structure ValuesBefore (b : Buf) (tb : AttrTable) (hi : Int) : Prop where
  address : ∀ c, tb Ifla.address = some c → HasValue hi 6 c
  operstate : ∀ c, tb Ifla.operstate = some c → HasValue hi 1 c
  peers : ∀ i ∈ peerCells b tb, i.type = Ifla.ccPeerStatusInfo ||| nlaFNested → ∀ type c,
    type = Ifla.peerStatusMepid ∨ type = Ifla.peerStatusDefect →
      parseNested b Ifla.peerStatusMax i type = some c → HasValue hi 4 c

/-- What the listener does with attributes, in both memories. -/
theorem SameOn.listenAttrs {tb : AttrTable} (hs : SameOn b b' lo hi)
    (htb : ∀ type c, tb type = some c → Inside lo hi c) (hv : ValuesBefore b tb hi) (t : Table)
    (ifindex : UInt32) : listenAttrs b t ifindex tb = listenAttrs b' t ifindex tb := by
  have haddress : ∀ reg, listenAddressAt b ifindex tb reg = listenAddressAt b' ifindex tb reg := by
    intro reg
    unfold listenAddressAt
    cases ha : tb Ifla.address with
    | none => rfl
    | some a =>
        have hoctet : ∀ k, k < 6 → b (rtaData a + k) = b' (rtaData a + k) := fun _ hk =>
          hs.value (htb _ a ha) (hv.address a ha) hk
        have hmac : macAt b (rtaData a) = macAt b' (rtaData a) := by
          simp only [macAt]
          rw [hoctet 1 (by decide), hoctet 2 (by decide), hoctet 3 (by decide),
            hoctet 4 (by decide), hoctet 5 (by decide)]
          exact congrArg (Mac.mk · _ _ _ _ _) (hoctet 0 (by decide))
        dsimp only
        rw [hmac]
  have hoperstate : ∀ reg,
      listenOperstateAt b ifindex tb reg = listenOperstateAt b' ifindex tb reg := by
    intro reg
    unfold listenOperstateAt
    cases ha : tb Ifla.operstate with
    | none => rfl
    | some a =>
        have hoctet : b (rtaData a) = b' (rtaData a) :=
          hs.value (htb _ a ha) (hv.operstate a ha) (Nat.zero_lt_one)
        dsimp only
        rw [hoctet]
  have hcells := hs.peerCells htb
  have hpeers : ∀ reg, (Umrp.peerCells b tb).foldlM (Umrp.listenPeer b ifindex) reg =
      (Umrp.peerCells b' tb).foldlM (Umrp.listenPeer b' ifindex) reg := by
    rw [← hcells]
    exact foldlM_congr_of_mem fun i hi reg =>
      hs.listenPeer (inside_peerCells_of_table htb hi) (hv.peers i hi) ifindex reg
  simp only [Umrp.listenAttrs, haddress, hpeers, hoperstate]

/-- A buffer with other contents behind the same octets. -/
theorem sameOn_ofList (l : List UInt8) (rest rest' : Buf) (hhi : hi ≤ l.length) :
    SameOn (.ofList l rest) (.ofList l rest') lo hi := by
  intro i _ hi'
  have hlt : i < l.length := by omega
  simp [Buf.ofList, List.getD, hlt]

end Parts

/-! ## Messages -/

/-- Where the attributes of the message at `h` end, as its length says. -/
def attrsEnd (b : Buf) (h : Nat) : Int :=
  ((h + linkHdrLen : Nat) : Int) + ((b.le32 h).toInt32 - 32).toInt

section Messages

variable {b b' : Buf} {h : Nat}

theorem inside_linkAttrs {type : UInt16} {c : Cell} (hc : linkAttrs b h type = some c) :
    Inside (h + linkHdrLen) (attrsEnd b h) c := by
  rw [linkAttrs] at hc
  refine inside_of_mem (inside_of_parse hc).2.2 (Nat.le_refl _) ?_
  rw [attrsEnd]

/-- The attributes in which the listener looks for the states of peers. -/
theorem inside_peerCells {i : Cell} (hi : i ∈ peerCells b (linkAttrs b h)) :
    Inside (h + linkHdrLen) (attrsEnd b h) i := by
  have htable : ∀ type c, linkAttrs b h type = some c →
      Inside (h + linkHdrLen) (attrsEnd b h) c := fun _ _ hc => inside_linkAttrs hc
  generalize linkAttrs b h = tb at htable hi
  exact inside_peerCells_of_table htable hi

/-- The same message in two memories: its headers and its attributes. -/
structure SameMessage (b b' : Buf) (h : Nat) : Prop where
  headers : SameOn b b' h (h + linkHdrLen : Nat)
  attrs : SameOn b b' (h + linkHdrLen) (attrsEnd b h)

theorem SameMessage.length (hs : SameMessage b b' h) : b.le32 h = b'.le32 h :=
  hs.headers.le32 (Nat.le_refl h) (by simp only [linkHdrLen]; omega)

theorem SameMessage.linkAttrs (hs : SameMessage b b' h) : linkAttrs b h = linkAttrs b' h := by
  have hattrs := hs.attrs
  rw [attrsEnd] at hattrs
  rw [Umrp.linkAttrs, Umrp.linkAttrs, ← hs.length, hattrs.parse]

/-- Of the same message in both memories the listener makes the same. -/
theorem SameMessage.listen (hs : SameMessage b b' h)
    (hv : ValuesBefore b (Umrp.linkAttrs b h) (attrsEnd b h)) (t : Table) :
    netlinkListenAt b t h = netlinkListenAt b' t h := by
  have htype : b.le16 (h + 4) = b'.le16 (h + 4) :=
    hs.headers.le16 (Nat.le_add_right h 4) (by simp only [linkHdrLen]; omega)
  have hfamily : b (h + 16) = b' (h + 16) :=
    hs.headers _ (Nat.le_add_right h 16) (by simp only [linkHdrLen]; omega)
  have hifindex : b.le32 (h + 20) = b'.le32 (h + 20) :=
    hs.headers.le32 (Nat.le_add_right h 20) (by simp only [linkHdrLen]; omega)
  have htable : ∀ type c, Umrp.linkAttrs b h type = some c →
      Inside (h + linkHdrLen) (attrsEnd b h) c := fun _ _ hc => inside_linkAttrs hc
  have hlink := hs.linkAttrs
  have hlength := hs.length
  have hattrs := hs.attrs
  unfold netlinkListenAt
  rw [← htype, ← hfamily, ← hifindex, ← hlength, ← hlink]
  generalize Umrp.linkAttrs b h = tb at htable hv ⊢
  rw [hattrs.listenAttrs htable hv]

end Messages

/-- Whatever lengths stand in a message, and whatever stands behind it in memory: at no level
of nesting the listener looks at an attribute that reaches beyond the message.  If the values
that it reads, whose lengths it never checks, end before the message does, its octets decide
what the listener does. -/
theorem listening_inside (b : Buf) (h : Nat) :
    (∀ type c, linkAttrs b h type = some c → Inside (h + linkHdrLen) (attrsEnd b h) c) ∧
      (∀ i ∈ peerCells b (linkAttrs b h), Inside (h + linkHdrLen) (attrsEnd b h) i ∧
        ∀ type c, parseNested b Ifla.peerStatusMax i type = some c →
          Inside (h + linkHdrLen) (attrsEnd b h) c) ∧
      ∀ b', SameMessage b b' h → ValuesBefore b (linkAttrs b h) (attrsEnd b h) →
        ∀ t, netlinkListenAt b t h = netlinkListenAt b' t h := by
  refine ⟨fun _ _ hc => inside_linkAttrs hc, fun i hi => ?_, fun _ hs hv t => hs.listen hv t⟩
  exact ⟨inside_peerCells hi, fun _ _ hc => (inside_peerCells hi).nested hc⟩

/-- The notification that a link is up, with different memory behind it. -/
theorem listening_inside_up :
    netlinkListenAt (.ofList upNote.octets fun _ => 0) .empty 0 =
      netlinkListenAt (.ofList upNote.octets fun _ => 255) .empty 0 := by
  have hend : attrsEnd (.ofList upNote.octets fun _ => 0) 0 = 56 := by decide +kernel
  have haddress : linkAttrs (.ofList upNote.octets fun _ => 0) 0 Ifla.address = none := by
    decide +kernel
  have hoperstate : linkAttrs (.ofList upNote.octets fun _ => 0) 0 Ifla.operstate =
      some ⟨40, 5, Ifla.operstate⟩ := by
    decide +kernel
  have hpeers : peerCells (.ofList upNote.octets fun _ => 0)
      (linkAttrs (.ofList upNote.octets fun _ => 0) 0) = [] := by
    decide +kernel
  refine (listening_inside (.ofList upNote.octets fun _ => 0) 0).2.2 _ ⟨?_, ?_⟩ ?_ .empty
  · exact sameOn_ofList _ _ _ (by decide +kernel)
  · exact sameOn_ofList _ _ _ (by decide +kernel)
  · refine ⟨fun c hc => ?_, fun c hc => ?_, fun i hi => ?_⟩
    · rw [haddress] at hc
      cases hc
    · rw [hoperstate] at hc
      rw [← Option.some.inj hc, hend]
      simp [HasValue, rtaData]
    · rw [hpeers] at hi
      cases hi

end Umrp
