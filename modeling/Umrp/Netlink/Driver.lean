import Umrp.Netlink.Parsing

/-!
# The requests of the interface driver

The driver tells the bridge about roles, port states and flushed entries with requests
that it puts together attribute by attribute, some of them nested in others.  The length
of an attribute that others are nested in is only known, and written, at the end.

Main results:

- Theorem `Holds.addattrL`: an attribute is appended to what a request holds.
- Theorem `Holds.nestEnd`: what was appended since an attribute was opened is its payload.
- Theorem `requests_understood`: a reader who walks through the attributes of a request
  finds what the driver was asked for, and no request is written outside its structure.
-/

namespace Umrp

open Octets Attributes

/-! ## What a request holds -/

/-- Behind its headers the request holds the octets `l`, and zeros behind them.  Nothing was
written behind its end, and no attribute was refused. -/
structure Holds (req : Request) (l : List UInt8) : Prop where
  len : req.nlmsgLen = linkHdrLen + l.length
  aligned : l.length % 4 = 0
  stored : (req.mem.drop linkHdrLen).Starts l
  cleared : ∀ i, req.nlmsgLen ≤ i → req.mem i = 0
  writes : ∀ w ∈ req.writes, w.Within req.nlmsgLen
  refused : req.refused = false

namespace Holds

variable {req : Request} {l : List UInt8}

/-- A request with its headers and nothing else. -/
theorem setHeader (cmd : UInt16) (ifindex : UInt32) :
    Holds (Request.zeroed.setHeader cmd ifindex) [] where
  len := rfl
  aligned := rfl
  stored := nofun
  cleared _ _ := rfl
  writes := nofun
  refused := rfl

/-- Where the next attribute begins. -/
theorem align_len (h : Holds req l) : align req.nlmsgLen = linkHdrLen + l.length := by
  have haligned := h.aligned
  rw [h.len]
  exact align_of_mod (by simp only [linkHdrLen]; omega)

/-- The octets of an attribute that is written into cleared memory. -/
theorem starts_attr {b : Buf} {pos : Nat} (hzero : ∀ i, pos ≤ i → b i = 0) (type : UInt16)
    (data : List UInt8) :
    ((((b.put (pos + 2) (le16 type)).put pos (le16 (UInt16.ofNat (4 + data.length)))).put
      (pos + 4) data).drop pos).Starts (Attr.octets ⟨type, data⟩) := by
  rw [Attr.octets]
  refine (Buf.Starts.append (Buf.Starts.append (Buf.Starts.append ?_ ?_) ?_) ?_)
  · exact Buf.Starts.put_of_outside (Buf.starts_put _) (.inl (by simp))
  · rw [Buf.drop_drop, le16_length]
    refine Buf.Starts.put_of_outside (Buf.Starts.put_of_outside (Buf.starts_put _) ?_) ?_
    · exact .inr (by simp)
    · exact .inl (by simp)
  · rw [Buf.drop_drop, List.length_append, le16_length, le16_length]
    exact Buf.starts_put _
  · intro i hi
    rw [Buf.drop_drop, List.length_append, List.length_append, le16_length, le16_length,
      List.getElem_replicate]
    have hout : ∀ {m : Buf} {p : Nat} {w : List UInt8}, p + w.length ≤ pos + (2 + 2 + data.length) →
        m.put p w (pos + (2 + 2 + data.length) + i) = m (pos + (2 + 2 + data.length) + i) :=
      fun h => Buf.put_of_outside _ (.inr (by omega))
    rw [Buf.drop, hout (by omega), hout (by simp; omega), hout (by simp; omega)]
    exact hzero _ (by omega)

/-- An attribute is appended. -/
theorem addattrL (h : Holds req l) (maxlen : Nat) (type : UInt16) (data : List UInt8)
    (hroom : linkHdrLen + l.length + align (4 + data.length) ≤ maxlen) :
    Holds (req.addattrL maxlen type data) (l ++ Attr.octets ⟨type, data⟩) := by
  have hle := le_align (4 + data.length)
  have halign := h.align_len
  have hlen := h.len
  have hmod := align_mod (4 + data.length)
  have haligned := h.aligned
  have hoctets : (Attr.octets ⟨type, data⟩).length = align (4 + data.length) := by simp [Attr.len]
  have hput : (req.addattrL maxlen type data).mem =
      ((req.mem.put (req.nlmsgLen + 2) (le16 type)).put req.nlmsgLen
        (le16 (UInt16.ofNat (4 + data.length)))).put (req.nlmsgLen + 4) data := by
    rw [Request.addattrL, halign, ← hlen]
    dsimp only
    rw [if_neg (by omega)]
    split
    next => rfl
    next hdata =>
      have hnil : data = [] := List.eq_nil_of_length_eq_zero (by omega)
      rw [hnil]
      funext i
      exact (Buf.put_of_outside _ (by simp; omega)).symm
  have hnew : (req.addattrL maxlen type data).nlmsgLen = req.nlmsgLen + align (4 + data.length) := by
    rw [Request.addattrL, halign, ← hlen]
    dsimp only
    rw [if_neg (by omega)]
  refine ⟨?_, ?_, ?_, ?_, ?_, ?_⟩
  · rw [hnew, hlen, List.length_append, hoctets, Nat.add_assoc]
  · rw [List.length_append, hoctets]
    omega
  · rw [hput]
    refine Buf.Starts.append ?_ ?_
    · refine Buf.Starts.put_of_outside (Buf.Starts.put_of_outside
        (Buf.Starts.put_of_outside h.stored ?_) ?_) ?_
      all_goals exact .inl (by omega)
    · rw [Buf.drop_drop, ← hlen]
      exact starts_attr h.cleared type data
  · intro i hi
    rw [hnew] at hi
    rw [hput]
    refine (Buf.put_of_outside _ (.inr (by omega))).trans ?_
    refine (Buf.put_of_outside _ (.inr (by simp; omega))).trans ?_
    refine (Buf.put_of_outside _ (.inr (by simp; omega))).trans ?_
    exact h.cleared i (by omega)
  · have hwrites : ∀ w ∈ (req.addattrL maxlen type data).writes,
        w = ⟨req.nlmsgLen + 4, data.length⟩ ∨ w = ⟨req.nlmsgLen, 2⟩ ∨
          w = ⟨req.nlmsgLen + 2, 2⟩ ∨ w ∈ req.writes := by
      rw [Request.addattrL, halign, ← hlen]
      dsimp only
      rw [if_neg (by omega)]
      split
      · simp [Request.write]
      · intro w hw
        simp only [Request.write, List.mem_cons, le16_length] at hw
        exact .inr hw
    intro w hw
    rw [hnew]
    rcases hwrites w hw with rfl | rfl | rfl | hold
    · show req.nlmsgLen + 4 + data.length ≤ _
      omega
    · show req.nlmsgLen + 2 ≤ _
      omega
    · show req.nlmsgLen + 2 + 2 ≤ _
      omega
    · exact Nat.le_trans (h.writes w hold) (Nat.le_add_right _ _)
  · rw [Request.addattrL, halign, ← hlen]
    dsimp only
    rw [if_neg (by omega)]
    split
    · exact h.refused
    · exact h.refused

/-- What was appended since an attribute was opened becomes its payload. -/
theorem nestEnd (type : UInt16) {inner : List UInt8}
    (h : Holds req (l ++ Attr.octets ⟨type, []⟩ ++ inner)) (hl : l.length % 4 = 0) :
    Holds (req.addattrNestEnd (linkHdrLen + l.length)) (l ++ Attr.octets ⟨type, inner⟩) := by
  have hempty : Attr.octets ⟨type, []⟩ = le16 4 ++ le16 type := by
    simp [Attr.octets, Attr.len, align]
  have hfour : (Attr.octets ⟨type, []⟩).length = 4 := by rw [hempty]; rfl
  have hinner : inner.length % 4 = 0 := by
    have haligned := h.aligned
    rw [List.length_append, List.length_append, hfour] at haligned
    omega
  have hfull : Attr.octets ⟨type, inner⟩ = le16 (UInt16.ofNat (4 + inner.length)) ++
      le16 type ++ inner := by
    have hpad : align (4 + inner.length) - (4 + inner.length) = 0 := by
      rw [align_of_mod (by omega), Nat.sub_self]
    simp [Attr.octets, Attr.len, hpad]
  have hlength : (l ++ Attr.octets ⟨type, []⟩ ++ inner).length = l.length + 4 + inner.length := by
    rw [List.length_append, List.length_append, hfour]
  have hdiff : align req.nlmsgLen - (linkHdrLen + l.length) = 4 + inner.length := by
    rw [h.align_len, hlength]
    omega
  have hlen := h.len
  rw [hlength] at hlen
  have hstored := h.stored
  rw [List.append_assoc, hempty, List.append_assoc] at hstored
  have hhead := hstored.of_append.1
  have htail := hstored.of_append.2.of_append.2
  rw [Buf.drop_drop, Buf.drop_drop, le16_length] at htail
  rw [Request.addattrNestEnd, hdiff]
  refine ⟨?_, ?_, ?_, ?_, ?_, h.refused⟩
  · rw [List.length_append, hfull]
    simp only [Request.write, hlen, List.length_append, le16_length]
    omega
  · rw [List.length_append, hfull]
    simp only [List.length_append, le16_length]
    omega
  · rw [hfull, List.append_assoc]
    refine Buf.Starts.append ?_ (Buf.Starts.append ?_ ?_)
    · exact Buf.Starts.put_of_outside hhead (.inl (Nat.le_refl _))
    · rw [Buf.drop_drop]
      exact Buf.starts_put _
    · rw [Buf.drop_drop, Buf.drop_drop, le16_length]
      exact Buf.Starts.put_of_outside htail (.inr (by rw [le16_length]; omega))
  · intro i hi
    refine (Buf.put_of_outside _ (.inr ?_)).trans (h.cleared i hi)
    simp only [Request.write] at hi
    rw [le16_length]
    omega
  · intro w hw
    rcases List.mem_cons.mp hw with rfl | hold
    · show linkHdrLen + l.length + 2 ≤ req.nlmsgLen
      omega
    · exact h.writes w hold

end Holds

/-! ## The fields of the headers -/

namespace Request

/-- What the headers say besides the length of the request. -/
def header (req : Request) : UInt16 × UInt16 × UInt8 × UInt32 :=
  (req.nlmsgType, req.nlmsgFlags, req.ifiFamily, req.ifiIndex)

@[simp]
theorem header_setHeader (req : Request) (cmd : UInt16) (ifindex : UInt32) :
    (req.setHeader cmd ifindex).header = (cmd, nlmFRequest, pfBridge, ifindex) :=
  rfl

@[simp]
theorem header_addattrL (req : Request) (maxlen : Nat) (type : UInt16) (data : List UInt8) :
    (req.addattrL maxlen type data).header = req.header := by
  unfold addattrL
  dsimp only
  split
  · rfl
  · split <;> rfl

@[simp]
theorem header_addattrNestEnd (req : Request) (nest : Nat) :
    (req.addattrNestEnd nest).header = req.header :=
  rfl

@[simp]
theorem header_mrpNlTerminate (req : Request) (nests : OpenNests) :
    (mrpNlTerminate req nests).header = req.header :=
  rfl

end Request

/-! ## The requests that are put together -/

/-- The attributes of a request about the protocol: what stands before the bridge's own
attribute, and in that one the attribute with the parameters. -/
def mrpAttrs (flags : List Attr) (mrpAttr : UInt16) (params : List Attr) : List Attr :=
  [⟨Ifla.afSpec, encode (flags ++
    [⟨Ifla.bridgeMrp ||| nlaFNested, encode [⟨mrpAttr ||| nlaFNested, encode params⟩]⟩])⟩]

/-- The attribute that sends a request to the bridge itself. -/
def selfFlag : Attr := ⟨Ifla.bridgeFlags, le16 2⟩

/-- What a request holds while three attributes are open. -/
def openAttrs (flags : List Attr) (mrpAttr : UInt16) : List UInt8 :=
  Attr.octets ⟨Ifla.afSpec, []⟩ ++ encode flags ++
    Attr.octets ⟨Ifla.bridgeMrp ||| nlaFNested, []⟩ ++ Attr.octets ⟨mrpAttr ||| nlaFNested, []⟩

theorem length_empty (type : UInt16) : (Attr.octets ⟨type, []⟩).length = 4 := by
  simp [Attr.len, align]

/-- A request after its preparation: three attributes are open. -/
structure Prepared (x : Request × OpenNests) (ifindex : UInt32) (flags : List Attr)
    (mrpAttr : UInt16) : Prop where
  holds : Holds x.1 (openAttrs flags mrpAttr)
  header : x.1.header = (rtmSetlink, nlmFRequest, pfBridge, ifindex)
  afspec : x.2.afspec = linkHdrLen
  afmrp : x.2.afmrp = linkHdrLen + 4 + (encode flags).length
  afSubmrp : x.2.afSubmrp = linkHdrLen + 4 + (encode flags).length + 4

/-- The preparation of a request for the bridge. -/
theorem prepared_bridge (ifindex : UInt32) (mrpAttr : UInt16) :
    Prepared (mrpNlBridgePrepare ifindex rtmSetlink .zeroed mrpAttr) ifindex [selfFlag] mrpAttr := by
  have h0 := Holds.setHeader rtmSetlink ifindex
  have h1 := h0.addattrL sizeofRequest Ifla.afSpec [] (by decide)
  have h2 := h1.addattrL sizeofRequest Ifla.bridgeFlags (le16 2)
    (by decide)
  have h3 := h2.addattrL sizeofRequest (Ifla.bridgeMrp ||| nlaFNested)
    [] (by decide)
  have h4 := h3.addattrL sizeofRequest (mrpAttr ||| nlaFNested) []
    (by decide)
  have hopen : openAttrs [selfFlag] mrpAttr = [] ++ Attr.octets ⟨Ifla.afSpec, []⟩ ++
      Attr.octets ⟨Ifla.bridgeFlags, le16 2⟩ ++ Attr.octets ⟨Ifla.bridgeMrp ||| nlaFNested, []⟩ ++
      Attr.octets ⟨mrpAttr ||| nlaFNested, []⟩ := by
    simp [openAttrs, selfFlag]
  refine ⟨?_, ?_, ?_, ?_, ?_⟩
  · rw [hopen]
    exact h4
  · simp [mrpNlBridgePrepare, Request.addattrNest, Request.addattr16]
  · exact h0.align_len
  · exact h2.align_len.trans (by decide)
  · exact h3.align_len.trans (by decide)

/-- The preparation of a request for a port. -/
theorem prepared_port (port : MrpPort) (mrpAttr : UInt16) :
    Prepared (mrpNlPortPrepare port rtmSetlink .zeroed mrpAttr) port.ifindex [] mrpAttr := by
  have h0 := Holds.setHeader rtmSetlink port.ifindex
  have h1 := h0.addattrL sizeofRequest Ifla.afSpec [] (by decide)
  have h2 := h1.addattrL sizeofRequest (Ifla.bridgeMrp ||| nlaFNested)
    [] (by decide)
  have h3 := h2.addattrL sizeofRequest (mrpAttr ||| nlaFNested) []
    (by decide)
  have hopen : openAttrs [] mrpAttr = [] ++ Attr.octets ⟨Ifla.afSpec, []⟩ ++
      Attr.octets ⟨Ifla.bridgeMrp ||| nlaFNested, []⟩ ++
      Attr.octets ⟨mrpAttr ||| nlaFNested, []⟩ := by
    simp [openAttrs]
  refine ⟨?_, ?_, ?_, ?_, ?_⟩
  · rw [hopen]
    exact h3
  · simp [mrpNlPortPrepare, Request.addattrNest]
  · exact h0.align_len
  · exact h1.align_len.trans (by decide)
  · exact h2.align_len.trans (by decide)

/-- Closing the three attributes that are open. -/
theorem Holds.terminate {x : Request × OpenNests} {ifindex : UInt32} {flags params : List Attr}
    {mrpAttr : UInt16} (hx : Prepared x ifindex flags mrpAttr) {req : Request}
    (h : Holds req (openAttrs flags mrpAttr ++ encode params)) :
    Holds (mrpNlTerminate req x.2) (encode (mrpAttrs flags mrpAttr params)) := by
  have hmod := encode_mod flags
  -- from the innermost attribute outwards, what is closed is a part of the next payload
  have hinner := h.nestEnd _ (by simp only [List.length_append, length_empty]; omega)
  have hmiddle := Holds.nestEnd (l := Attr.octets ⟨Ifla.afSpec, []⟩ ++ encode flags) _ hinner
    (by simp only [List.length_append, length_empty]; omega)
  rw [List.append_assoc] at hmiddle
  have houter := Holds.nestEnd (l := []) Ifla.afSpec hmiddle rfl
  have hsub : x.2.afSubmrp = linkHdrLen + (Attr.octets ⟨Ifla.afSpec, []⟩ ++ encode flags ++
      Attr.octets ⟨Ifla.bridgeMrp ||| nlaFNested, []⟩).length := by
    rw [hx.afSubmrp]
    simp only [List.length_append, length_empty]
    omega
  have hmrp : x.2.afmrp = linkHdrLen + (Attr.octets ⟨Ifla.afSpec, []⟩ ++ encode flags).length := by
    rw [hx.afmrp]
    simp only [List.length_append, length_empty]
    omega
  have hmrpAttrs : encode (mrpAttrs flags mrpAttr params) = [] ++ Attr.octets ⟨Ifla.afSpec,
      encode flags ++ Attr.octets ⟨Ifla.bridgeMrp ||| nlaFNested,
        Attr.octets ⟨mrpAttr ||| nlaFNested, encode params⟩⟩⟩ := by
    simp [mrpAttrs]
  rw [mrpNlTerminate, hsub, hmrp, hx.afspec, hmrpAttrs]
  exact houter

/-! ## What a reader makes of them -/

/-- What the driver asks the bridge for. -/
inductive Asked
  | portState (ifindex state : UInt32)
  | ringRole (ifindex ringId role : UInt32)
  | inRole (ifindex ringId : UInt32) (inId : UInt16) (iIfindex role : UInt32)
  | flush (ifindex : UInt32)
deriving DecidableEq, Repr

section Reader

variable (b : Buf) (ifindex : UInt32) (c : Cell)

/-- The attribute with a port state. -/
def askedPortState : Option Asked := do
  let state ← parseNested b 1 c Ifla.portStateState
  return .portState ifindex (b.le32 (rtaData state))

/-- The attribute with a ring role. -/
def askedRingRole : Option Asked := do
  let tb := parseNested b 2 c
  let ringId ← tb Ifla.ringRoleRingId
  let role ← tb Ifla.ringRoleRole
  return .ringRole ifindex (b.le32 (rtaData ringId)) (b.le32 (rtaData role))

/-- The attribute with an interconnection role. -/
def askedInRole : Option Asked := do
  let tb := parseNested b 4 c
  let ringId ← tb Ifla.inRoleRingId
  let inId ← tb Ifla.inRoleInId
  let iIfindex ← tb Ifla.inRoleIIfindex
  let role ← tb Ifla.inRoleRole
  return .inRole ifindex (b.le32 (rtaData ringId)) (b.le16 (rtaData inId))
    (b.le32 (rtaData iIfindex)) (b.le32 (rtaData role))

end Reader

/-- What a reader of the attributes takes a request for: it looks for the protocol's
attribute, in it for the one it knows, and there for the parameters. -/
def Request.asked (req : Request) : Option Asked :=
  if req.header = (rtmSetlink, nlmFRequest, pfBridge, req.ifiIndex) then
    let tb := parseRtattrFlags req.mem Ifla.max linkHdrLen (req.nlmsgLen - linkHdrLen) nlaFNested
    match tb Ifla.protinfo, tb Ifla.afSpec with
    | some protinfo, _ => do
        let _ ← parseNested req.mem Ifla.brportFlush.toNat protinfo Ifla.brportFlush
        return .flush req.ifiIndex
    | none, some afspec => do
        let mrp ← parseNested req.mem Ifla.bridgeMax afspec Ifla.bridgeMrp
        let tb := parseNested req.mem Ifla.mrpMax mrp
        match tb Ifla.mrpPortState, tb Ifla.mrpRingRole, tb Ifla.mrpInRole with
        | some c, _, _ => askedPortState req.mem req.ifiIndex c
        | none, some c, _ => askedRingRole req.mem req.ifiIndex c
        | none, none, some c => askedInRole req.mem req.ifiIndex c
        | none, none, none => none
    | none, none => none
  else none

/-- The request is complete, it was not written outside its structure, and it is taken for
what was asked. -/
structure Request.Understood (req : Request) (asked : Asked) : Prop where
  refused : req.refused = false
  writes : ∀ w ∈ req.writes, w.Within sizeofRequest
  asked : req.asked = some asked

/-- The length of an attribute that others are nested in. -/
theorem length_nested (type : UInt16) (as : List Attr) :
    (encode [⟨type, encode as⟩]).length = 4 + (encode as).length := by
  have hmod := encode_mod as
  rw [encode_cons, encode_nil, List.append_nil, Attr.length_octets]
  exact align_of_mod (by simp only [Attr.len]; omega)

section Find

variable {t type : UInt16} {payload : List UInt8} {as : List Attr}

/-- The first attribute of a sequence is found under its type. -/
theorem find_head (h : maskedType nlaFNested t = type) :
    (((⟨t, payload⟩ : Attr) :: as).find? fun a => maskedType nlaFNested a.type = type) =
      some ⟨t, payload⟩ :=
  List.find?_cons_of_pos (by simpa using h)

/-- An attribute of another type is passed over. -/
theorem find_tail (h : maskedType nlaFNested t ≠ type) :
    (((⟨t, payload⟩ : Attr) :: as).find? fun a => maskedType nlaFNested a.type = type) =
      as.find? fun a => maskedType nlaFNested a.type = type :=
  List.find?_cons_of_neg (by simpa using h)

end Find

/-- The way of a reader to the parameters of a request about the protocol. -/
theorem find_params {req : Request} {flags params : List Attr} {mrpAttr : UInt16}
    (h : Holds req (encode (mrpAttrs flags mrpAttr params)))
    (hflags : flags = [] ∨ flags = [selfFlag]) (hsmall : (encode params).length < 1024)
    (hattr : maskedType nlaFNested (mrpAttr ||| nlaFNested) = mrpAttr)
    (hmax : mrpAttr.toNat ≤ Ifla.mrpMax) :
    ∃ afspec mrp c,
      parseRtattrFlags req.mem Ifla.max linkHdrLen (req.nlmsgLen - linkHdrLen) nlaFNested
        Ifla.protinfo = none ∧
      parseRtattrFlags req.mem Ifla.max linkHdrLen (req.nlmsgLen - linkHdrLen) nlaFNested
        Ifla.afSpec = some afspec ∧
      parseNested req.mem Ifla.bridgeMax afspec Ifla.bridgeMrp = some mrp ∧
      parseNested req.mem Ifla.mrpMax mrp mrpAttr = some c ∧
      (∀ type, type ≠ mrpAttr → parseNested req.mem Ifla.mrpMax mrp type = none) ∧
      Carries req.mem c ⟨mrpAttr ||| nlaFNested, encode params⟩ := by
  have hlen : (req.nlmsgLen - linkHdrLen : Int) = (encode (mrpAttrs flags mrpAttr params)).length := by
    rw [h.len]
    omega
  rw [hlen]
  -- all lengths fit into their headers
  have hinner := length_nested (mrpAttr ||| nlaFNested) params
  have hmiddle := length_nested (Ifla.bridgeMrp ||| nlaFNested)
    [⟨mrpAttr ||| nlaFNested, encode params⟩]
  have hparamsFit : ∀ a ∈ [(⟨mrpAttr ||| nlaFNested, encode params⟩ : Attr)], a.Fits := by
    simp only [List.mem_singleton, forall_eq, Attr.Fits, Attr.len]
    omega
  have hmrpFit : ∀ a ∈ flags ++ [⟨Ifla.bridgeMrp ||| nlaFNested,
      encode [⟨mrpAttr ||| nlaFNested, encode params⟩]⟩], a.Fits := by
    intro a ha
    rcases List.mem_append.mp ha with ha | ha
    · rcases hflags with rfl | rfl
      · cases ha
      · rw [List.mem_singleton.mp ha]
        show 6 < 65536
        decide
    · rw [List.mem_singleton.mp ha]
      simp only [Attr.Fits, Attr.len]
      omega
  have hspecFit : ∀ a ∈ mrpAttrs flags mrpAttr params, a.Fits := by
    have hself : (encode flags).length ≤ 8 := by
      rcases hflags with rfl | rfl
      · exact Nat.zero_le _
      · decide
    simp only [mrpAttrs, List.mem_singleton, forall_eq, Attr.Fits, Attr.len, encode_append,
      List.length_append]
    omega
  obtain ⟨afspec, hafspec, hspec⟩ := parse_find h.stored hspecFit Ifla.max Ifla.afSpec nlaFNested
    (by decide) (find_head (by decide))
  have hbridge : (flags ++ [(⟨Ifla.bridgeMrp ||| nlaFNested,
      encode [⟨mrpAttr ||| nlaFNested, encode params⟩]⟩ : Attr)]).find?
        (fun a => maskedType nlaFNested a.type = Ifla.bridgeMrp) =
      some ⟨Ifla.bridgeMrp ||| nlaFNested, encode [⟨mrpAttr ||| nlaFNested, encode params⟩]⟩ := by
    rcases hflags with rfl | rfl
    · exact find_head (by decide)
    · exact (find_tail (by decide)).trans (find_head (by decide))
  obtain ⟨mrp, hmrp, hcarries⟩ := hspec.parseNested_find rfl hmrpFit Ifla.bridgeMax Ifla.bridgeMrp
    (by decide) hbridge
  obtain ⟨c, hc, hparams⟩ := hcarries.parseNested_find rfl hparamsFit Ifla.mrpMax mrpAttr hmax
    (find_head hattr)
  refine ⟨afspec, mrp, c, ?_, hafspec, hmrp, hc, ?_, hparams⟩
  · exact parse_none h.stored hspecFit _ _ _ (find_tail (by decide))
  · intro type htype
    exact hcarries.parseNested_none rfl hparamsFit (find_tail (hattr.trans_ne htype.symm))

/-- A request that holds a few attributes was written inside its structure. -/
theorem Holds.understood {req : Request} {l : List UInt8} {asked : Asked} (h : Holds req l)
    (hl : l.length ≤ 1024) (hasked : req.asked = some asked) : req.Understood asked where
  refused := h.refused
  writes w hw := by
    refine Nat.le_trans (h.writes w hw) ?_
    rw [h.len]
    simp only [sizeofRequest, linkHdrLen]
    omega
  asked := hasked

/-- Attributes with a number in them. -/
def Params (params : List Attr) : Prop := ∀ a ∈ params, a.payload.length ≤ 4

theorem Params.length {params : List Attr} (h : Params params) :
    (encode params).length ≤ 8 * params.length := by
  induction params with
  | nil => exact Nat.le_refl _
  | cons a params ih =>
      have ha := h a List.mem_cons_self
      have hrest := ih fun b hb => h b (List.mem_cons_of_mem _ hb)
      have halign := align_lt a.len
      have hmod := align_mod a.len
      rw [encode_cons, List.length_append, a.length_octets, List.length_cons]
      simp only [Attr.len] at *
      omega

theorem Params.fits {params : List Attr} (h : Params params) : ∀ a ∈ params, a.Fits := by
  intro a ha
  have hlen := h a ha
  simp only [Attr.Fits, Attr.len]
  omega

/-- Append parameters to a request. -/
def Request.addParams (req : Request) (params : List Attr) : Request :=
  params.foldl (fun req a => req.addattrL sizeofRequest a.type a.payload) req

theorem Request.header_addParams (req : Request) (params : List Attr) :
    (req.addParams params).header = req.header := by
  induction params generalizing req with
  | nil => rfl
  | cons a params ih => exact (ih _).trans (header_addattrL _ _ _ _)

/-- There is room for a few parameters. -/
theorem Holds.addParams {req : Request} {l : List UInt8} {params : List Attr} (h : Holds req l)
    (hparams : Params params) (hroom : l.length + 8 * params.length ≤ 1024) :
    Holds (req.addParams params) (l ++ encode params) := by
  induction params generalizing req l with
  | nil => simpa [Request.addParams] using h
  | cons a params ih =>
      have ha := hparams a List.mem_cons_self
      have halign := align_lt (4 + a.payload.length)
      have hmod := align_mod (4 + a.payload.length)
      rw [List.length_cons] at hroom
      have hfirst := h.addattrL sizeofRequest a.type a.payload (by
        simp only [linkHdrLen, sizeofRequest]
        omega)
      have hrest := ih hfirst (fun b hb => hparams b (List.mem_cons_of_mem _ hb)) (by
        rw [List.length_append, Attr.length_octets]
        simp only [Attr.len]
        omega)
      rw [encode_cons, ← List.append_assoc]
      exact hrest

/-- A request with a few parameters is taken for what the parameters say. -/
theorem Prepared.understood {x : Request × OpenNests} {ifindex : UInt32} {flags params : List Attr}
    {mrpAttr : UInt16} (h : Prepared x ifindex flags mrpAttr) (asked : Asked)
    (hflags : flags = [] ∨ flags = [selfFlag]) (hparams : Params params)
    (hfew : params.length ≤ 4)
    (hattr : mrpAttr = Ifla.mrpPortState ∨ mrpAttr = Ifla.mrpRingRole ∨ mrpAttr = Ifla.mrpInRole)
    (hread : ∀ b c, Carries b c ⟨mrpAttr ||| nlaFNested, encode params⟩ →
      (if mrpAttr = Ifla.mrpPortState then askedPortState b ifindex c
        else if mrpAttr = Ifla.mrpRingRole then askedRingRole b ifindex c
        else askedInRole b ifindex c) = some asked) :
    (mrpNlTerminate (x.1.addParams params) x.2).Understood asked := by
  have hlen := hparams.length
  have hmrpLen := length_nested (Ifla.bridgeMrp ||| nlaFNested)
    [⟨mrpAttr ||| nlaFNested, encode params⟩]
  have hsubLen := length_nested (mrpAttr ||| nlaFNested) params
  have hspecLen := length_nested Ifla.afSpec (flags ++ [⟨Ifla.bridgeMrp ||| nlaFNested,
    encode [⟨mrpAttr ||| nlaFNested, encode params⟩]⟩])
  have hselfLen : (encode flags).length ≤ 8 := by
    rcases hflags with rfl | rfl
    · exact Nat.zero_le _
    · decide
  have hholds : Holds (mrpNlTerminate (x.1.addParams params) x.2)
      (encode (mrpAttrs flags mrpAttr params)) := by
    refine Holds.terminate h (h.holds.addParams hparams ?_)
    simp only [openAttrs, List.length_append, length_empty]
    omega
  have hheader : (mrpNlTerminate (x.1.addParams params) x.2).header =
      (rtmSetlink, nlmFRequest, pfBridge, ifindex) := by
    rw [Request.header_mrpNlTerminate, Request.header_addParams, h.header]
  generalize mrpNlTerminate (x.1.addParams params) x.2 = req at hholds hheader ⊢
  have hindex : req.ifiIndex = ifindex := congrArg (·.2.2.2) hheader
  refine hholds.understood ?_ ?_
  · rw [mrpAttrs, hspecLen, encode_append, List.length_append]
    omega
  · obtain ⟨afspec, mrp, c, hprot, hafspec, hmrp, hc, hother, hcarries⟩ :=
      find_params hholds hflags (by omega) (by rcases hattr with rfl | rfl | rfl <;> decide)
        (by rcases hattr with rfl | rfl | rfl <;> decide)
    have hc' := hread req.mem c hcarries
    rw [Request.asked, if_pos (hindex ▸ hheader), hindex]
    simp only [hprot, hafspec, hmrp, Option.bind_eq_bind, Option.bind_some]
    rcases hattr with rfl | rfl | rfl
    · rw [hc]
      exact hc'
    · rw [hother Ifla.mrpPortState (by decide), hc]
      exact hc'
    · rw [hother Ifla.mrpPortState (by decide), hother Ifla.mrpRingRole (by decide), hc]
      exact hc'

/-- A port state reaches the bridge. -/
theorem netlinkPortSetState_understood (port : MrpPort) (state : PortState) :
    (netlinkPortSetState port state).Understood (.portState port.ifindex state.number) := by
  have hparams : Params [⟨Ifla.portStateState, le32 state.number⟩] := by simp [Params]
  refine (prepared_port port Ifla.mrpPortState).understood _ (.inl rfl) hparams (by simp)
    (.inl rfl) ?_
  intro b c hc
  obtain ⟨d, hd, hstate⟩ := hc.parseNested_find rfl hparams.fits 1 Ifla.portStateState
    (by decide) (find_head (by decide))
  rw [if_pos rfl, askedPortState]
  simp [hd, hstate.le32 rfl]

/-- A ring role reaches the bridge. -/
theorem netlinkSetRingRole_understood (mrp : Mrp) (role : RingRole) :
    (netlinkSetRingRole mrp role).Understood
      (.ringRole mrp.ifindex mrp.ringNr
        (if mrp.mraSupport then RingRole.mra else role).number) := by
  have hparams : Params [⟨Ifla.ringRoleRingId, le32 mrp.ringNr⟩, ⟨Ifla.ringRoleRole,
      le32 (if mrp.mraSupport then RingRole.mra else role).number⟩] := by
    simp [Params]
  refine (prepared_bridge mrp.ifindex Ifla.mrpRingRole).understood _ (.inr rfl) hparams (by simp)
    (.inr (.inl rfl)) ?_
  intro b c hc
  obtain ⟨d, hd, hringId⟩ := hc.parseNested_find rfl hparams.fits 2 Ifla.ringRoleRingId
    (by decide) (find_head (by decide))
  obtain ⟨e, he, hroleNr⟩ := hc.parseNested_find rfl hparams.fits 2 Ifla.ringRoleRole
    (by decide) ((find_tail (by decide)).trans (find_head (by decide)))
  rw [if_neg (by decide), if_pos rfl, askedRingRole]
  simp [hd, he, hringId.le32 rfl, hroleNr.le32 rfl]

/-- An interconnection role reaches the bridge. -/
theorem netlinkSetInRole_understood {mrp : Mrp} {port : MrpPort} (h : mrp.iPort = some port)
    (role : InRole) :
    ∃ req, netlinkSetInRole mrp role = some req ∧ req.Understood
      (.inRole mrp.ifindex mrp.ringNr mrp.inId port.ifindex role.number) := by
  have hparams : Params [⟨Ifla.inRoleRingId, le32 mrp.ringNr⟩,
      ⟨Ifla.inRoleInId, le16 mrp.inId⟩, ⟨Ifla.inRoleIIfindex, le32 port.ifindex⟩,
      ⟨Ifla.inRoleRole, le32 role.number⟩] := by
    simp [Params]
  have hunderstood := (prepared_bridge mrp.ifindex Ifla.mrpInRole).understood
    (.inRole mrp.ifindex mrp.ringNr mrp.inId port.ifindex role.number) (.inr rfl) hparams
    (by simp) (.inr (.inr rfl)) (by
      intro b c hc
      obtain ⟨d, hd, hd'⟩ := hc.parseNested_find rfl hparams.fits 4 Ifla.inRoleRingId
        (by decide) (find_head (by decide))
      obtain ⟨e, he, he'⟩ := hc.parseNested_find rfl hparams.fits 4 Ifla.inRoleInId
        (by decide) ((find_tail (by decide)).trans (find_head (by decide)))
      obtain ⟨f, hf, hf'⟩ := hc.parseNested_find rfl hparams.fits 4 Ifla.inRoleIIfindex
        (by decide)
        ((find_tail (by decide)).trans ((find_tail (by decide)).trans (find_head (by decide))))
      obtain ⟨g, hg, hg'⟩ := hc.parseNested_find rfl hparams.fits 4 Ifla.inRoleRole
        (by decide)
        ((find_tail (by decide)).trans ((find_tail (by decide)).trans
          ((find_tail (by decide)).trans (find_head (by decide)))))
      rw [if_neg (by decide), if_neg (by decide), askedInRole]
      simp [hd, he, hf, hg, hd'.le32 rfl, he'.le16 rfl, hf'.le32 rfl, hg'.le32 rfl])
  refine ⟨_, ?_, hunderstood⟩
  simp only [netlinkSetInRole, h]
  rfl

/-- What the request to flush holds, for whichever port. -/
theorem holds_flush (ifindex : UInt32) :
    Holds { flushRequest with ifiIndex := ifindex }
      (encode [⟨Ifla.protinfo ||| nlaFNested, encode [⟨Ifla.brportFlush, []⟩]⟩]) := by
  have hopen := (Holds.setHeader rtmSetlink 0).addattrL sizeofRequest
    (Ifla.protinfo ||| nlaFNested) [] (by decide)
  have hflush := hopen.addattrL 1024 Ifla.brportFlush [] (by decide)
  have hend := Holds.nestEnd (l := []) _ hflush rfl
  have hholds : Holds flushRequest
      (encode [⟨Ifla.protinfo ||| nlaFNested, encode [⟨Ifla.brportFlush, []⟩]⟩]) := by
    simp only [encode_cons, encode_nil, List.append_nil]
    exact hend
  exact ⟨hholds.len, hholds.aligned, hholds.stored, hholds.cleared, hholds.writes, hholds.refused⟩

/-- A request to flush reaches the bridge. -/
theorem flush_understood (ifindex : UInt32) :
    { flushRequest with ifiIndex := ifindex }.Understood (.flush ifindex) := by
  have hholds := holds_flush ifindex
  have hlen : ((encode [⟨Ifla.protinfo ||| nlaFNested, encode [⟨Ifla.brportFlush, []⟩]⟩]).length : Int) =
      ({ flushRequest with ifiIndex := ifindex }.nlmsgLen - linkHdrLen : Int) := by
    rw [hholds.len]
    omega
  refine hholds.understood (by decide) ?_
  obtain ⟨c, hc, hcarries⟩ := parse_find hholds.stored (by simp [Attr.Fits, Attr.len, align])
    Ifla.max Ifla.protinfo nlaFNested (by decide) (find_head (by decide))
  obtain ⟨d, hd, -⟩ := hcarries.parseNested_find rfl (by simp [Attr.Fits, Attr.len])
    Ifla.brportFlush.toNat Ifla.brportFlush (by decide) (find_head (by decide))
  rw [hlen] at hc
  rw [Request.asked, if_pos (by rfl)]
  simp only [hc]
  rw [hd]
  rfl

/-- The bridge is told what the driver is asked to tell it.  Of a role it learns that an
auto-manager is one, whichever role it has at the moment; a role in an interconnection
cannot be told without a port; and the entries of all ports are flushed, one port after
the other, until a request fails. -/
theorem requests_understood (mrp : Mrp) :
    (∀ port state, (netlinkPortSetState port state).Understood
      (.portState port.ifindex state.number)) ∧
    (∀ role, (netlinkSetRingRole mrp role).Understood
      (.ringRole mrp.ifindex mrp.ringNr
        (if mrp.mraSupport then RingRole.mra else role).number)) ∧
    (∀ role, match mrp.iPort with
      | none => netlinkSetInRole mrp role = none
      | some port => ∃ req, netlinkSetInRole mrp role = some req ∧ req.Understood
          (.inRole mrp.ifindex mrp.ringNr mrp.inId port.ifindex role.number)) ∧
    ∀ fails, List.Forall₂ Request.Understood (netlinkFlush mrp fails)
      ((([(mrp.ringPort mrp.pPort).ifindex, (mrp.ringPort mrp.sPort).ifindex] ++
        mrp.iPort.toList.map MrpPort.ifindex).map Asked.flush).take
          (if fails 0 then 1 else if fails 1 then 2 else 3)) := by
  refine ⟨netlinkPortSetState_understood, netlinkSetRingRole_understood mrp, ?_, ?_⟩
  · intro role
    split
    next h => rw [netlinkSetInRole, h]
    next port h => exact netlinkSetInRole_understood h role
  · intro fails
    have hp := flush_understood (mrp.ringPort mrp.pPort).ifindex
    have hs := flush_understood (mrp.ringPort mrp.sPort).ifindex
    unfold netlinkFlush
    dsimp only
    by_cases h0 : fails 0
    · rw [if_pos h0, if_pos h0]
      exact .cons hp .nil
    · by_cases h1 : fails 1
      · rw [if_neg h0, if_pos h1, if_neg h0, if_pos h1]
        exact .cons hp (.cons hs .nil)
      · rw [if_neg h0, if_neg h1, if_neg h0, if_neg h1]
        split
        next h =>
          rw [h]
          exact .cons hp (.cons hs .nil)
        next port h =>
          rw [h]
          exact .cons hp (.cons hs (.cons (flush_understood port.ifindex) .nil))

end Umrp
