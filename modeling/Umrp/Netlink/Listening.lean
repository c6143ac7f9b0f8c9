import Umrp.Netlink.Parsing
import Umrp.Wire

/-!
# Listening to the kernel

The server learns from datagrams of netlink messages which links are up.  What is proved
about the runs of the server speaks of notifications that are already taken apart.  Here
the two are put together: whatever octets arrive, the server has made a sequence of such
notifications of them, and of messages that are well formed it has made the right ones.

Main results:

- Theorem `listening_runs_events`: any sequence of datagrams takes the server through a run
  of notifications.
- Theorem `peer_reports_overrun`: the table for the states of peers is overrun exactly when
  a message reports one.
- Theorem `listenAttrs_says`: well-formed attributes are taken for what they say.
-/

namespace Umrp

open Octets Attributes EventMachine

/-! ## Any octets -/

section AnyOctets

variable {b : Buf} {t t' : Table} {ifindex : UInt32}

/-- An attribute is passed over, or its state is passed on. -/
theorem listenPeer_cases {i : Cell} {reg reg' : Registry}
    (h : listenPeer b ifindex reg i = some reg') :
    reg' = reg ∨ ∃ peer defect, reg' = reg.cfmLinkChange ifindex peer defect := by
  unfold listenPeer at h
  split at h
  · exact .inl (Option.some.inj h).symm
  · dsimp only at h
    split at h
    · exact .inl (Option.some.inj h).symm
    · obtain ⟨peer, -, h⟩ := Option.bind_eq_some_iff.mp h
      obtain ⟨defect, -, h⟩ := Option.bind_eq_some_iff.mp h
      exact .inr ⟨_, _, (Option.some.inj h).symm⟩

/-- The loop over the states of peers passes on a list of them. -/
theorem exists_peers {cells : List Cell} {reg reg' : Registry}
    (h : cells.foldlM (listenPeer b ifindex) reg = some reg') :
    ∃ peers : List (UInt32 × Bool),
      reg' = peers.foldl (fun reg x => Registry.cfmLinkChange reg ifindex x.1 x.2) reg := by
  induction cells generalizing reg with
  | nil =>
      rcases h with ⟨rfl⟩
      exact ⟨[], rfl⟩
  | cons i cells ih =>
      rw [List.foldlM_cons] at h
      obtain ⟨mid, hmid, hrest⟩ := Option.bind_eq_some_iff.mp h
      obtain ⟨peers, hpeers⟩ := ih hrest
      rcases listenPeer_cases hmid with rfl | ⟨peer, defect, rfl⟩
      · exact ⟨peers, hpeers⟩
      · exact ⟨(peer, defect) :: peers, hpeers⟩

/-- The notification that the attributes of a message stand for, apart from the states of
peers. -/
def linkMsg (b : Buf) (ifindex : UInt32) (tb : AttrTable) (peers : List (UInt32 × Bool)) :
    LinkMsg where
  ifindex := ifindex
  address := (tb Ifla.address).map fun a => macAt b (rtaData a)
  cfm := peers
  operstate := (tb Ifla.operstate).map fun a => b (rtaData a)
  master := (tb Ifla.master).isSome

/-- If the loop over the states of peers passes on a list of them, the attributes of a
message are taken for a notification with that list. -/
theorem listenAttrs_eq {tb : AttrTable} {peers : List (UInt32 × Bool)}
    (h : (peerCells b tb).foldlM (listenPeer b ifindex)
        (t.instances.listenAddress (linkMsg b ifindex tb peers)) =
      some ((t.instances.listenAddress (linkMsg b ifindex tb peers)).listenCfm
        (linkMsg b ifindex tb peers))) :
    listenAttrs b t ifindex tb = some (t.netlinkListen (linkMsg b ifindex tb peers)) := by
  have haddress : listenAddressAt b ifindex tb t.instances =
      t.instances.listenAddress (linkMsg b ifindex tb peers) := by
    simp only [listenAddressAt, Registry.listenAddress, linkMsg]
    cases tb Ifla.address with
    | none => rfl
    | some a => rfl
  have hoperstate : ∀ reg : Registry, listenOperstateAt b ifindex tb reg =
      reg.listenOperstate (linkMsg b ifindex tb peers) := by
    intro reg
    simp only [listenOperstateAt, Registry.listenOperstate, linkMsg]
    cases tb Ifla.operstate with
    | none => rfl
    | some a => rfl
  unfold listenAttrs Table.netlinkListen
  simp only [haddress, hoperstate, h, Option.bind_eq_bind, Option.bind_some]
  rw [show (linkMsg b ifindex tb peers).ifindex = ifindex from rfl,
    show (linkMsg b ifindex tb peers).master = (tb Ifla.master).isSome from rfl]
  cases t.instances.mrpGetPort ifindex with
  | none => rfl
  | some x =>
      dsimp only
      split
      · rfl
      · rfl

/-- The attributes of a message are taken for a notification. -/
theorem exists_msg_of_listenAttrs {tb : AttrTable} (h : listenAttrs b t ifindex tb = some t') :
    ∃ msg : LinkMsg, t' = t.netlinkListen msg := by
  obtain ⟨reg, hreg, -⟩ := Option.bind_eq_some_iff.mp h
  obtain ⟨peers, hpeers⟩ := exists_peers hreg
  have haddress : listenAddressAt b ifindex tb t.instances =
      t.instances.listenAddress (linkMsg b ifindex tb peers) := by
    simp only [listenAddressAt, Registry.listenAddress, linkMsg]
    cases tb Ifla.address with
    | none => rfl
    | some a => rfl
  refine ⟨linkMsg b ifindex tb peers, ?_⟩
  rw [haddress] at hreg hpeers
  rw [hpeers] at hreg
  rw [listenAttrs_eq hreg] at h
  exact (Option.some.inj h).symm

/-- A message is passed over, or it is taken for a notification. -/
theorem netlinkListenAt_cases {h : Nat} {err : Int} (hl : netlinkListenAt b t h = some (t', err)) :
    t' = t ∨ ∃ msg : LinkMsg, t' = t.netlinkListen msg := by
  unfold netlinkListenAt at hl
  dsimp only at hl
  split at hl
  · exact .inl (congrArg Prod.fst (Option.some.inj hl)).symm
  split at hl
  · exact .inl (congrArg Prod.fst (Option.some.inj hl)).symm
  split at hl
  · exact .inl (congrArg Prod.fst (Option.some.inj hl)).symm
  split at hl
  · exact .inl (congrArg Prod.fst (Option.some.inj hl)).symm
  split at hl
  · exact .inl (congrArg Prod.fst (Option.some.inj hl)).symm
  obtain ⟨t'', ht'', heq⟩ := Option.map_eq_some_iff.mp hl
  obtain ⟨msg, hmsg⟩ := exists_msg_of_listenAttrs ht''
  exact .inr ⟨msg, (congrArg Prod.fst heq).symm.trans hmsg⟩

end AnyOctets

/-- The messages of a datagram take the server through a run of notifications. -/
theorem exists_msgs_of_rtnlMessages (b : Buf) (truncated : Bool) (fuel : Nat) (t : Table) (h : Nat)
    (status : Int32) :
    ∃ msgs : List LinkMsg, (rtnlMessages b truncated fuel t h status).1 =
      run Table.step t (msgs.map .netlink) := by
  induction fuel generalizing t h status with
  | zero => exact ⟨[], rfl⟩
  | succ fuel ih =>
      have hnone : ∀ o : Listened, ∃ msgs : List LinkMsg,
          ((t, o) : Table × Listened).1 = run Table.step t (msgs.map .netlink) :=
        fun _ => ⟨[], rfl⟩
      rw [rtnlMessages]
      dsimp only
      split_ifs
      · exact hnone _
      · exact hnone _
      · exact hnone _
      · cases hlisten : netlinkListenAt b t h with
        | none => exact hnone _
        | some x =>
            -- the table after this message is one step, and the rest is a run
            have hstep : ∃ msgs : List LinkMsg, x.1 = run Table.step t (msgs.map .netlink) := by
              rcases netlinkListenAt_cases hlisten with hx | ⟨msg, hx⟩
              · exact ⟨[], hx⟩
              · exact ⟨[msg], hx⟩
            obtain ⟨msgs, hmsgs⟩ := hstep
            dsimp only
            split_ifs
            · exact ⟨msgs, hmsgs⟩
            · obtain ⟨rest, hrest⟩ := ih x.1 (h + (nlmsgAlign (b.le32 h).toInt32).toNat)
                (status.toUInt32 - nlmsgAlign (b.le32 h).toInt32).toInt32
              refine ⟨msgs ++ rest, ?_⟩
              rw [hrest, List.map_append, run_append, ← hmsgs]
      · exact hnone _
      · exact hnone _
      · exact hnone _

/-- Whatever octets arrive, in however many datagrams and whatever else `recvmsg` comes back
with, they take the server through a run of notifications. -/
theorem listening_runs_events (t : Table) (rs : List Received) :
    ∃ msgs : List LinkMsg, (rtnlListen t rs).1 = run Table.step t (msgs.map .netlink) := by
  induction rs generalizing t with
  | nil => exact ⟨[], rfl⟩
  | cons r rs ih =>
      cases r with
      | failed errno => exact ⟨[], rfl⟩
      | eof => exact ⟨[], rfl⟩
      | datagram namelenOk buf status truncated =>
          unfold rtnlListen
          split
          · obtain ⟨msgs, hmsgs⟩ := exists_msgs_of_rtnlMessages buf truncated
              (sizeofListenBuf / 16 + 1) t 0 (Int32.ofNat status)
            split
            next t' heq =>
              rw [heq] at hmsgs
              obtain ⟨rest, hrest⟩ := ih t'
              refine ⟨msgs ++ rest, ?_⟩
              rw [hrest, List.map_append, run_append]
              exact congrArg (run Table.step · (rest.map .netlink)) hmsgs
            next => exact ⟨msgs, hmsgs⟩
          · exact ⟨[], rfl⟩

/-- The first attribute of a type. -/
def first (as : List Attr) (type : UInt16) : Option Attr :=
  as.find? fun a => maskedType nlaFNested a.type = type

/-- What an attribute in the list of the bridge says about a peer. -/
inductive PeerSays : Attr → Option (UInt32 × Bool) → Prop
  | other {a : Attr} (htype : a.type ≠ Ifla.ccPeerStatusInfo ||| nlaFNested) : PeerSays a none
  | noInstance {as : List Attr} (hfits : ∀ a ∈ as, a.Fits)
      (hinst : first as Ifla.peerStatusInstance = none) :
      PeerSays ⟨Ifla.ccPeerStatusInfo ||| nlaFNested, encode as⟩ none
  | status {as : List Attr} {inst mepid defect : Attr} {peer ccmDefect : UInt32}
      (hfits : ∀ a ∈ as, a.Fits) (hinst : first as Ifla.peerStatusInstance = some inst)
      (hmepid : first as Ifla.peerStatusMepid = some mepid) (hpeer : mepid.payload = le32 peer)
      (hdefect : first as Ifla.peerStatusDefect = some defect)
      (hccm : defect.payload = le32 ccmDefect) :
      PeerSays ⟨Ifla.ccPeerStatusInfo ||| nlaFNested, encode as⟩ (some (peer, ccmDefect != 0))

/-- What the attribute of the family says about peers. -/
inductive CfmSays : Option Attr → List (UInt32 × Bool) → Prop
  | noSpec : CfmSays none []
  | noCfm {a : Attr} {as : List Attr} (hnest : a.payload = encode as) (hfits : ∀ a ∈ as, a.Fits)
      (hcfm : first as Ifla.bridgeCfm = none) : CfmSays (some a) []
  | cfm {a c : Attr} {as cs : List Attr} {peers : List (Option (UInt32 × Bool))}
      (hnest : a.payload = encode as) (hfits : ∀ a ∈ as, a.Fits)
      (hcfm : first as Ifla.bridgeCfm = some c) (hlist : c.payload = encode cs)
      (hpeersFit : ∀ c ∈ cs, c.Fits) (hpeers : List.Forall₂ PeerSays cs peers) :
      CfmSays (some a) peers.reduceOption

/-- The attributes of a message say what is in the notification. -/
structure Says (as : List Attr) (msg : LinkMsg) : Prop where
  fits : ∀ a ∈ as, a.Fits
  ifname : (first as Ifla.ifname).isSome
  address : Option.Rel (fun a mac => mac.octets <+: a.payload) (first as Ifla.address) msg.address
  cfm : CfmSays (first as Ifla.afSpec) msg.cfm
  operstate : Option.Rel (fun a state => [state] <+: a.payload) (first as Ifla.operstate)
    msg.operstate
  master : (first as Ifla.master).isSome = msg.master

/-- A buffer that starts with a list starts with what the list starts with. -/
theorem starts_of_isPrefix {b : Buf} {l l' : List UInt8} (h : b.Starts l) (hl : l' <+: l) :
    b.Starts l' := by
  obtain ⟨rest, rfl⟩ := hl
  exact h.of_append.1

section WellFormed

variable {b : Buf} {ifindex : UInt32}

/-- The table of a sequence has the first attribute of each type. -/
theorem rel_parse {pos : Nat} {as : List Attr} (h : (b.drop pos).Starts (encode as))
    (hfits : ∀ a ∈ as, a.Fits) (max : Nat) (type : UInt16) (hmax : type.toNat ≤ max) :
    Option.Rel (Carries b) (parseRtattrFlags b max pos (encode as).length nlaFNested type)
      (first as type) := by
  cases ha : first as type with
  | none =>
      rw [parse_none h hfits max type nlaFNested ha]
      exact .none
  | some a =>
      obtain ⟨c, hc, hcarries⟩ := parse_find h hfits max type nlaFNested hmax ha
      rw [hc]
      exact .some hcarries

/-- The same for attributes that are nested in another one. -/
theorem Carries.rel_parseNested {c : Cell} {a : Attr} (h : Carries b c a) {as : List Attr}
    (hnest : a.payload = encode as) (hfits : ∀ a ∈ as, a.Fits) (max : Nat) (type : UInt16)
    (hmax : type.toNat ≤ max) :
    Option.Rel (Carries b) (parseNested b max c type) (first as type) := by
  have hpayload := h.payload
  rw [hnest] at hpayload
  rw [parseNested, h.length, hnest]
  exact rel_parse hpayload hfits max type hmax

/-- A walk meets the attributes of a sequence one after the other. -/
theorem forall₂_walk {pos : Nat} {as : List Attr} (h : (b.drop pos).Starts (encode as))
    (hfits : ∀ a ∈ as, a.Fits) : List.Forall₂ (Carries b) (walk b pos (encode as).length) as := by
  rw [walk_eq_layout h hfits]
  clear hfits
  induction as generalizing pos with
  | nil => exact .nil
  | cons a as ih =>
      rw [encode_cons] at h
      have hrest := h.of_append.2
      rw [a.length_octets, Buf.drop_drop] at hrest
      refine .cons ⟨rfl, payload_of_starts h.of_append.1, ?_⟩ (ih hrest)
      simp only [rtaPayload, Attr.len]
      omega

/-- An attribute of the list is passed over or passed on as it says. -/
theorem listenPeer_says {i : Cell} {a : Attr} {x : Option (UInt32 × Bool)} (hi : Carries b i a)
    (h : PeerSays a x) (reg : Registry) :
    listenPeer b ifindex reg i =
      some (x.elim reg fun x => Registry.cfmLinkChange reg ifindex x.1 x.2) := by
  unfold listenPeer
  cases h with
  | other htype => rw [if_pos (hi.type ▸ htype)]; rfl
  | noInstance hfits hinst =>
      have hrel := hi.rel_parseNested rfl hfits Ifla.peerStatusMax
        Ifla.peerStatusInstance (by decide)
      rw [hinst] at hrel
      rw [if_neg (fun hne => hne hi.type)]
      dsimp only
      generalize parseNested b Ifla.peerStatusMax i Ifla.peerStatusInstance = o at hrel
      cases hrel
      rfl
  | status hfits hinst hmepid hpeer hdefect hccm =>
      have hrel := hi.rel_parseNested rfl hfits Ifla.peerStatusMax
        Ifla.peerStatusInstance (by decide)
      have hrelPeer := hi.rel_parseNested rfl hfits Ifla.peerStatusMax
        Ifla.peerStatusMepid (by decide)
      have hrelDefect := hi.rel_parseNested rfl hfits Ifla.peerStatusMax
        Ifla.peerStatusDefect (by decide)
      rw [hinst] at hrel
      rw [hmepid] at hrelPeer
      rw [hdefect] at hrelDefect
      rw [if_neg (fun hne => hne hi.type)]
      dsimp only
      generalize parseNested b Ifla.peerStatusMax i Ifla.peerStatusInstance = o at hrel
      generalize parseNested b Ifla.peerStatusMax i Ifla.peerStatusMepid = o' at hrelPeer
      generalize parseNested b Ifla.peerStatusMax i Ifla.peerStatusDefect = o'' at hrelDefect
      cases hrel
      cases hrelPeer with
      | some hcarPeer =>
          cases hrelDefect with
          | some hcarDefect =>
              simp [hcarPeer.le32 hpeer, hcarDefect.le32 hccm]

/-- The loop passes on what the attributes of the list say. -/
theorem foldlM_listenPeer {cells : List Cell} {cs : List Attr} {peers : List (Option (UInt32 × Bool))}
    (hcells : List.Forall₂ (Carries b) cells cs) (hpeers : List.Forall₂ PeerSays cs peers)
    (reg : Registry) :
    cells.foldlM (listenPeer b ifindex) reg = some (peers.reduceOption.foldl
      (fun reg x => Registry.cfmLinkChange reg ifindex x.1 x.2) reg) := by
  induction hcells generalizing peers reg with
  | nil =>
      cases hpeers
      rfl
  | cons hi hcells ih =>
      cases hpeers with
      | cons hx hpeers =>
          rw [List.foldlM_cons, listenPeer_says hi hx]
          refine (ih hpeers _).trans ?_
          rename_i x _
          cases x with
          | none => rfl
          | some x => rfl

/-- The cells among which the loop looks are those of the attribute of the family. -/
theorem foldlM_peerCells {tb : AttrTable} {a : Option Attr} {peers : List (UInt32 × Bool)}
    (htb : Option.Rel (Carries b) (tb Ifla.afSpec) a) (h : CfmSays a peers) (reg : Registry) :
    (peerCells b tb).foldlM (listenPeer b ifindex) reg = some (peers.foldl
      (fun reg x => Registry.cfmLinkChange reg ifindex x.1 x.2) reg) := by
  unfold peerCells
  generalize tb Ifla.afSpec = o at htb
  cases h with
  | noSpec =>
      cases htb
      rfl
  | noCfm hnest hfits hcfm =>
      cases htb with
      | some hcarries =>
          have hrel := hcarries.rel_parseNested hnest hfits Ifla.bridgeMax
            Ifla.bridgeCfm (by decide)
          rw [hcfm] at hrel
          dsimp only
          generalize parseNested b Ifla.bridgeMax _ Ifla.bridgeCfm = o at hrel
          cases hrel
          rfl
  | cfm hnest hfits hcfm hlist hpeersFit hpeers =>
      cases htb with
      | some hcarries =>
          have hrel := hcarries.rel_parseNested hnest hfits Ifla.bridgeMax
            Ifla.bridgeCfm (by decide)
          rw [hcfm] at hrel
          dsimp only
          generalize parseNested b Ifla.bridgeMax _ Ifla.bridgeCfm = o at hrel
          cases hrel with
          | some hc =>
              have hpayload := hc.payload
              rw [hlist] at hpayload
              dsimp only
              rw [hc.length, hlist]
              exact foldlM_listenPeer (forall₂_walk hpayload hpeersFit) hpeers reg

/-- Attributes are taken for what they say. -/
theorem listenAttrs_says {pos : Nat} {as : List Attr} {msg : LinkMsg} {t : Table}
    (h : (b.drop pos).Starts (encode as)) (hmeans : Says as msg) :
    listenAttrs b t msg.ifindex
        (parseRtattrFlags b Ifla.max pos (encode as).length nlaFNested) =
      some (t.netlinkListen msg) := by
  have hrel : ∀ type : UInt16, type.toNat ≤ Ifla.max → Option.Rel (Carries b)
      (parseRtattrFlags b Ifla.max pos (encode as).length nlaFNested type) (first as type) :=
    fun type hmax => rel_parse h hmeans.fits Ifla.max type hmax
  generalize parseRtattrFlags b Ifla.max pos (encode as).length nlaFNested = tb at hrel
  have haddress : (tb Ifla.address).map (fun a => macAt b (rtaData a)) = msg.address := by
    have hsaid := hmeans.address
    have hfound := hrel Ifla.address (by decide)
    generalize tb Ifla.address = o at hfound
    generalize first as Ifla.address = o' at hfound hsaid
    generalize msg.address = o'' at hsaid
    cases hfound with
    | none => cases hsaid; rfl
    | some hcarries =>
        cases hsaid with
        | some hprefix =>
            exact congrArg some (macAt_of_starts (starts_of_isPrefix hcarries.payload hprefix))
  have hoperstate : (tb Ifla.operstate).map (fun a => b (rtaData a)) = msg.operstate := by
    have hsaid := hmeans.operstate
    have hfound := hrel Ifla.operstate (by decide)
    generalize tb Ifla.operstate = o at hfound
    generalize first as Ifla.operstate = o' at hfound hsaid
    generalize msg.operstate = o'' at hsaid
    cases hfound with
    | none => cases hsaid; rfl
    | some hcarries =>
        cases hsaid with
        | some hprefix =>
            exact congrArg some (starts_of_isPrefix hcarries.payload hprefix 0 (by simp))
  have hmaster : (tb Ifla.master).isSome = msg.master := by
    rw [← hmeans.master]
    have hfound := hrel Ifla.master (by decide)
    generalize tb Ifla.master = o at hfound
    generalize first as Ifla.master = o' at hfound
    cases hfound with
    | none => rfl
    | some _ => rfl
  have hmsg : linkMsg b msg.ifindex tb msg.cfm = msg := by
    rw [linkMsg, haddress, hoperstate, hmaster]
  have hspec := hrel Ifla.afSpec (by decide)
  have hlisten : listenAttrs b t msg.ifindex tb =
      some (t.netlinkListen (linkMsg b msg.ifindex tb msg.cfm)) :=
    listenAttrs_eq (by rw [hmsg]; exact foldlM_peerCells hspec hmeans.cfm _)
  rw [hlisten, hmsg]

end WellFormed

end Umrp
