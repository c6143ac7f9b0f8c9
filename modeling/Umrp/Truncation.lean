import Umrp.Reads
import Umrp.Relay
import Umrp.System.Instances

/-!
# Truncated frames

Nothing on the receive path looks at the length of a frame.  A frame that ends before a
field that is read is read on in whatever the buffer held before, and a frame of less
than 60 octets that is relayed is filled up with the same.

Main results:

- Theorem `Mrp.within_readTargets_iff`: the length that the relay decision needs.
- Theorem `Mrp.within_readProcess_iff`: the length that each handler needs.
- Theorem `received_suffices_iff`: the frames for which the received octets are all that
  counts.
-/

namespace Umrp

open Octets Reading

/-- The frame with zeros behind it. -/
def RxFrame.zeroFilled (bytes : List UInt8) : RxFrame := ⟨bytes, fun _ => 0, fun _ => 0⟩

namespace Mrp

/-! ## Lengths -/

/-- The frame is long enough for the relay decision. -/
def RelayFits (mrp : Mrp) (n : Nat) (type : TlvType) : Prop :=
  type.isInFrame = true →
    (mrp.ringRole = .mrc → mrp.inRole ≠ .disabled → 20 ≤ n) ∧
      (mrp.inRole = .mim → type = .inTest → 26 ≤ n)

/-- The frame is long enough for `mrp_recv_nack`. -/
def NackFits (mrp : Mrp) (b : Buf) (n : Nat) : Prop :=
  mrp.ringRole ≠ .mrc →
    34 ≤ n ∧ (macAt b (subBodyOff 2) ≠ mrp.macaddr → 42 ≤ n)

/-- The frame is long enough for `mrp_recv_propagate`. -/
def PropagateFits (mrp : Mrp) (b : Buf) (n : Nat) : Prop :=
  mrp.ringRole ≠ .mrm →
    34 ≤ n ∧ (macAt b (subBodyOff 2) = mrp.macaddr →
      36 ≤ n ∧ (b.be16 (subBodyOff 8) = b.be16 (subBodyOff 0) → 42 ≤ n))

/-- The frame is long enough for the handler of its type.  The lengths include the
Ethernet header; `b` holds what follows it. -/
def HandlerFits (mrp : Mrp) (b : Buf) (n : Nat) (type : TlvType) : Prop :=
  match type with
  | .ringTest => 26 ≤ n
  | .ringTopo =>
      if mrp.mraSupport = true ∧ mrp.ringRole = .mrm then
        26 ≤ n ∧ (macAt b (bodyOff 2) ≠ mrp.macaddr → 28 ≤ n)
      else mrp.mrcState ≠ .acStat1 → 28 ≤ n
  | .ringLinkDown | .ringLinkUp => 17 ≤ n
  | .option =>
      25 ≤ n ∧ (b (subTlvOff 0) = subTlvTestMgrNack → mrp.NackFits b n) ∧
        (b (subTlvOff 0) = subTlvTestPropagate → mrp.PropagateFits b n)
  | .inTest => 20 ≤ n
  | .inTopo =>
      (mrp.ringRole = .mrm → mrp.ringTopoRunning = false → 28 ≤ n) ∧
        (mrp.inRole = .mim → 24 ≤ n ∧ (macAt b (bodyOff 0) ≠ mrp.macaddr → 28 ≤ n)) ∧
        (mrp.inRole = .mic → mrp.micState = .acStat1 → 26 ≤ n)
  | .inLinkDown | .inLinkUp => 17 ≤ n ∧ (mrp.mimState ≠ .acStat1 → 28 ≤ n)
  | .inLinkStatus => mrp.inRole = .mic → mrp.inMode = .lc → 28 ≤ n
  | .tlvEnd | .common | .unknown _ => True

section Lengths

variable (mrp : Mrp) (b : Buf) (n : Nat)

/-- An address behind the Ethernet header lies in the frame. -/
theorem lt_data_iff (k : Nat) : k < n - sizeofEthhdr ↔ k + 15 ≤ n := by
  simp only [sizeofEthhdr]
  omega

attribute [local simp] lt_data_iff bodyOff subBodyOff subTlvOff sizeofVersion sizeofTlvHdr
  sizeofOuiHdr sizeofSubOptHdr sizeofSubTlvHdr

/-- The relay decision looks no further than the address behind the ID. -/
theorem within_readTargets_iff (p : Port) (type : TlvType) :
    (mrp.readTargets p type).Within b (n - sizeofEthhdr) ↔ mrp.RelayFits n type := by
  have hby : (mrp.readTargetsByRing p).Within b (n - sizeofEthhdr) ↔
      (mrp.ringRole = .mrc → mrp.inRole ≠ .disabled → 20 ≤ n) := by
    unfold readTargetsByRing
    cases mrp.ringRole <;> simp
  have hrole : ∀ t, (mrp.readTargetsByIn p type t).Within b (n - sizeofEthhdr) ↔
      (mrp.inRole = .mim → type = .inTest → 26 ≤ n) := by
    intro t
    unfold readTargetsByIn
    cases mrp.inRole <;> simp
  unfold readTargets RelayFits
  by_cases hin : type.isInFrame = true
  · have hring : type.isRingFrame = false := by
      cases type <;> simp_all [TlvType.isInFrame, TlvType.isRingFrame]
    simp only [hin, hring, Bool.false_eq_true, if_false, if_true, within_bind, hby, hrole,
      true_implies]
  · simp [hin]

theorem within_readRingTest_iff : mrp.readRingTest.Within b (n - sizeofEthhdr) ↔ 26 ≤ n := by
  have hbetter : 26 ≤ n → mrp.readBetterThanOwn.Within b (n - sizeofEthhdr) := by
    intro h
    simp [readBetterThanOwn, h]
    omega
  have hmra : 26 ≤ n → mrp.readMraRingTest.Within b (n - sizeofEthhdr) := by
    intro h
    have hprio : 20 ≤ n := by omega
    unfold readMraRingTest
    cases mrp.ringRole <;> simp [hbetter h, h, hprio]
  simp only [readRingTest, within_bind, within_readMac, within_ite, within_pure]
  constructor
  · rintro ⟨h, -⟩
    simpa using h
  · intro h
    refine ⟨by simpa using h, ?_⟩
    simp [hmra h]

theorem within_readRingTopo_iff :
    mrp.readRingTopo.Within b (n - sizeofEthhdr) ↔ mrp.HandlerFits b n .ringTopo := by
  unfold readRingTopo HandlerFits
  by_cases hmra : mrp.mraSupport = true ∧ mrp.ringRole = .mrm
  · simp only [if_pos hmra]
    simp [readMraRingTopo]
  · simp only [if_neg hmra]
    unfold readMrcRingTopo
    cases mrp.mrcState <;> simp

theorem within_readNack_iff :
    mrp.readNack.Within b (n - sizeofEthhdr) ↔ mrp.NackFits b n := by
  have hhost : 42 ≤ n → mrp.readHost.Within b (n - sizeofEthhdr) := by
    intro h
    have h28 : 28 ≤ n := by omega
    have h34 : 34 ≤ n := by omega
    simp [readHost, readBetterThanHost, h28, h34]
  have hrest : (42 ≤ n ∧ (macAt b (subBodyOff 10) = mrp.macaddr →
      mrp.readHost.Within b (n - sizeofEthhdr))) ↔ 42 ≤ n :=
    ⟨fun h => h.1, fun h => ⟨h, fun _ => hhost h⟩⟩
  unfold NackFits
  rw [← hrest]
  simp [readNack]

theorem within_readPropagate_iff :
    mrp.readPropagate.Within b (n - sizeofEthhdr) ↔ mrp.PropagateFits b n := by
  unfold PropagateFits
  have hprio : (36 ≤ n ∧ 28 ≤ n) ↔ 36 ≤ n := by omega
  rw [← hprio]
  simp [readPropagate, and_assoc]

theorem within_readOption_iff :
    mrp.readOption.Within b (n - sizeofEthhdr) ↔ mrp.HandlerFits b n .option := by
  have hne : subTlvTestPropagate ≠ subTlvTestMgrNack := by decide
  simp only [HandlerFits, readOption, within_bind, within_octetAt, within_ite, within_pure,
    eval_octetAt, within_readNack_iff, within_readPropagate_iff, lt_data_iff, implies_true,
    and_true]
  refine and_congr (by simp) (and_congr_right fun _ => ?_)
  constructor
  · intro h htype
    exact h (by rw [htype]; exact hne) htype
  · intro h _ htype
    exact h htype

theorem within_readInTest_iff : mrp.readInTest.Within b (n - sizeofEthhdr) ↔ 20 ≤ n := by
  simp [readInTest]

theorem within_readInTopo_iff :
    mrp.readInTopo.Within b (n - sizeofEthhdr) ↔ mrp.HandlerFits b n .inTopo := by
  have hrestart : mrp.readRestartRingTopo.Within b (n - sizeofEthhdr) ↔
      (mrp.ringRole = .mrm → mrp.ringTopoRunning = false → 28 ≤ n) := by
    simp [readRestartRingTopo]
  have hrole : ∀ mrp : Mrp, mrp.readInTopoByRole.Within b (n - sizeofEthhdr) ↔
      (mrp.inRole = .mim → 24 ≤ n ∧ (macAt b (bodyOff 0) ≠ mrp.macaddr → 28 ≤ n)) ∧
        (mrp.inRole = .mic → mrp.micState = .acStat1 → 26 ≤ n) := by
    intro mrp
    unfold readInTopoByRole
    cases mrp.inRole with
    | mim => simp
    | mic => cases mrp.micState <;> simp
    | disabled => simp
  have hkept := mrp.restartRingTopo_op (intervalUs (b.be16 (bodyOff 8)))
  simp only [readInTopo, within_bind, hrestart, hrole, HandlerFits, eval_readRestartRingTopo]
  rw [hkept.toInPart, hkept.macaddr]

theorem within_readInLink_iff :
    mrp.readInLink.Within b (n - sizeofEthhdr) ↔
      17 ≤ n ∧ (mrp.mimState ≠ .acStat1 → 28 ≤ n) := by
  simp only [readInLink, readType, within_bind, within_octetAt, within_pure]
  cases mrp.mimState <;> simp

theorem within_readInLinkStatus_iff :
    mrp.readInLinkStatus.Within b (n - sizeofEthhdr) ↔
      (mrp.inRole = .mic → mrp.inMode = .lc → 28 ≤ n) := by
  unfold readInLinkStatus
  cases mrp.micState <;> simp

/-- A handler stays inside the frame exactly when the frame has the length for it. -/
theorem within_readProcess_iff (type : TlvType) :
    (mrp.readProcess type).Within b (n - sizeofEthhdr) ↔ mrp.HandlerFits b n type := by
  cases type with
  | ringTest => exact mrp.within_readRingTest_iff b n
  | ringTopo => exact mrp.within_readRingTopo_iff b n
  | ringLinkDown => simp [readProcess, readRingLink, HandlerFits]
  | ringLinkUp => simp [readProcess, readRingLink, HandlerFits]
  | option => exact mrp.within_readOption_iff b n
  | inTest => exact mrp.within_readInTest_iff b n
  | inTopo => exact mrp.within_readInTopo_iff b n
  | inLinkDown => exact mrp.within_readInLink_iff b n
  | inLinkUp => exact mrp.within_readInLink_iff b n
  | inLinkStatus => exact mrp.within_readInLinkStatus_iff b n
  | tlvEnd => simp [readProcess, HandlerFits]
  | common => simp [readProcess, HandlerFits]
  | unknown v => simp [readProcess, HandlerFits]

end Lengths

/-! ## The receive path -/

/-- The addresses in the frame that `mrp_recv`, `mrp_check_and_forward` and the handler
read, in their order. -/
def recvReads (mrp : Mrp) (p : Port) (rx : RxFrame) : List Nat :=
  let type := getTlvType rx.frameBuf.data
  let mrp' := mrp.relay p rx.frameBuf type
  let reads :=
    if (mrp.port? p).isNone then []
    else
      readType.log rx.frameBuf.data ++
        if mrp.admitted p rx then
          (mrp.readTargets p type).log rx.frameBuf.data ++
            if mrp.shouldProcess type then (mrp'.readProcess type).log (mrp.handlerBuf p rx)
            else []
        else []
  reads.map (sizeofEthhdr + ·)

/-- Whatever the buffers held before, what is read of a frame was received, what is
relayed is what was received and zeros behind it, and the instance ends in the same
state. -/
structure ActsOnReceived (mrp : Mrp) (p : Port) (bytes : List UInt8) : Prop where
  reads : ∀ stale nstale, ∀ i ∈ mrp.recvReads p ⟨bytes, stale, nstale⟩, i < bytes.length
  relays : ∀ stale nstale, ∀ x ∈ mrp.relays p ⟨bytes, stale, nstale⟩,
    ∃ k, x.bytes = bytes ++ List.replicate k 0
  same : ∀ stale nstale stale' nstale',
    mrp.recv p ⟨bytes, stale, nstale⟩ = mrp.recv p ⟨bytes, stale', nstale'⟩

/-- No port that a frame is relayed to is up. -/
def RelaysNothing (mrp : Mrp) (t : Targets) : Prop :=
  (t.p = true → mrp.isOperUp (.ring mrp.pPort) = false) ∧
    (t.s = true → mrp.isOperUp (.ring mrp.sPort) = false) ∧
    (t.i = true → mrp.isOperUp .inter = false)

section Frames

variable {mrp : Mrp} {p : Port} {rx rx' : RxFrame}

/-- The length that the receive path needs for a frame, from its own reads. -/
theorem recvReads_within_iff :
    (∀ i ∈ mrp.recvReads p rx, i < rx.bytes.length) ↔
      ((mrp.port? p).isSome = true → 17 ≤ rx.bytes.length ∧
        (mrp.admitted p rx = true →
          mrp.RelayFits rx.bytes.length (getTlvType rx.frameBuf.data) ∧
            (mrp.shouldProcess (getTlvType rx.frameBuf.data) = true →
              (mrp.readProcess (getTlvType rx.frameBuf.data)).Within (mrp.handlerBuf p rx)
                (rx.bytes.length - sizeofEthhdr)))) := by
  have hmap : ∀ l : List Nat, (∀ i ∈ l.map (sizeofEthhdr + ·), i < rx.bytes.length) ↔
      ∀ i ∈ l, i < rx.bytes.length - sizeofEthhdr := by
    intro l
    rw [List.forall_mem_map]
    refine forall₂_congr fun i _ => ?_
    omega
  have htype : readType.Within rx.frameBuf.data (rx.bytes.length - sizeofEthhdr) ↔
      17 ≤ rx.bytes.length := by
    simp only [readType, within_bind, within_octetAt, within_pure, and_true, lt_data_iff]
    rfl
  rcases mrp.relay_eq p rx.frameBuf (getTlvType rx.frameBuf.data) with ⟨relayed, calls, hrelay⟩
  have hprocess : ((mrp.relay p rx.frameBuf (getTlvType rx.frameBuf.data)).readProcess
      (getTlvType rx.frameBuf.data)).Within (mrp.handlerBuf p rx)
        (rx.bytes.length - sizeofEthhdr) ↔
      (mrp.readProcess (getTlvType rx.frameBuf.data)).Within (mrp.handlerBuf p rx)
        (rx.bytes.length - sizeofEthhdr) := by
    rw [within_readProcess_iff, within_readProcess_iff, hrelay]
    rfl
  simp only [recvReads, hmap]
  cases hport : mrp.port? p with
  | none => simp
  | some port =>
      simp only [Option.isNone_some, Bool.false_eq_true, if_false, Option.isSome_some,
        true_implies, List.forall_mem_append]
      refine and_congr htype ?_
      by_cases hadm : mrp.admitted p rx = true
      · simp only [hadm, if_true, true_implies, List.forall_mem_append]
        refine and_congr (mrp.within_readTargets_iff rx.frameBuf.data _ p _) ?_
        by_cases hproc : mrp.shouldProcess (getTlvType rx.frameBuf.data) = true
        · simp only [hproc, if_true, true_implies]
          exact hprocess
        · simp [hproc]
      · simp [hadm]

/-- The octets of a frame do not depend on what stands behind it. -/
theorem data_zeroFilled {i : Nat} (hi : i < rx.bytes.length - sizeofEthhdr) :
    rx.frameBuf.data i = (RxFrame.zeroFilled rx.bytes).frameBuf.data i := by
  have hlt : sizeofEthhdr + i < rx.bytes.length := by omega
  simp [RxFrame.zeroFilled, RxFrame.frameBuf, FrameBuf.data, Buf.drop, Buf.ofList, hlt]

/-- Nor do they in the copy that the handler sees. -/
theorem handlerBuf_zeroFilled {i : Nat} (hi : i < rx.bytes.length - sizeofEthhdr) :
    mrp.handlerBuf p rx i = (RxFrame.zeroFilled rx.bytes).frameBuf.data i := by
  rw [mrp.handlerBuf_of_lt p rx (by omega), data_zeroFilled hi]

/-- The type of a frame is among its octets. -/
theorem type_zeroFilled (h : 17 ≤ rx.bytes.length) :
    getTlvType rx.frameBuf.data = getTlvType (RxFrame.zeroFilled rx.bytes).frameBuf.data := by
  have hlt : sizeofVersion < rx.bytes.length - sizeofEthhdr := by
    simp only [sizeofVersion, sizeofEthhdr]
    omega
  rw [getTlvType, getTlvType, data_zeroFilled hlt]

theorem admitted_zeroFilled (h : 17 ≤ rx.bytes.length) :
    mrp.admitted p rx = mrp.admitted p (.zeroFilled rx.bytes) := by
  unfold admitted
  rw [type_zeroFilled h]

/-- A relay decision for which the frame is long enough. -/
theorem targets_zeroFilled {type : TlvType} (h : mrp.RelayFits rx.bytes.length type) :
    mrp.targets p rx.frameBuf.data type =
      mrp.targets p (RxFrame.zeroFilled rx.bytes).frameBuf.data type := by
  have hwithin := (mrp.within_readTargets_iff rx.frameBuf.data _ p type).mpr h
  have hcongr := (hwithin.congr fun _ hi => (data_zeroFilled hi).symm).1
  rw [eval_readTargets, eval_readTargets] at hcongr
  exact hcongr.symm

/-- The length that a handler needs. -/
theorem within_handlerBuf_iff {type : TlvType} :
    (mrp.readProcess type).Within (mrp.handlerBuf p rx) (rx.bytes.length - sizeofEthhdr) ↔
      mrp.HandlerFits (RxFrame.zeroFilled rx.bytes).frameBuf.data rx.bytes.length type := by
  rw [← within_readProcess_iff]
  constructor
  · intro h
    exact (h.congr fun _ hi => (handlerBuf_zeroFilled hi).symm).2
  · intro h
    exact (h.congr fun _ hi => handlerBuf_zeroFilled hi).2

/-- What a handler does for which the frame is long enough. -/
theorem process_zeroFilled {type : TlvType} (m : Mrp)
    (h : (m.readProcess type).Within (mrp.handlerBuf p rx) (rx.bytes.length - sizeofEthhdr)) :
    m.process (mrp.handlerBuf p rx) type =
      m.process (mrp.handlerBuf p (.zeroFilled rx.bytes)) type := by
  have hagree : ∀ i < rx.bytes.length - sizeofEthhdr,
      mrp.handlerBuf p (.zeroFilled rx.bytes) i = mrp.handlerBuf p rx i := by
    intro i hi
    rw [handlerBuf_zeroFilled hi]
    exact handlerBuf_zeroFilled hi
  have hcongr := (h.congr hagree).1
  rw [eval_readProcess, eval_readProcess] at hcongr
  exact hcongr.symm

/-- Relaying a frame to one port depends on what it adds to the log. -/
theorem forwardIf_congr {go : Bool} {q : Port} {fb fb' : FrameBuf}
    (h : mrp.relayVia go q fb' = mrp.relayVia go q fb) :
    (forwardIf go q (mrp, fb')).1 = (forwardIf go q (mrp, fb)).1 := by
  unfold relayVia isOperUp at h
  unfold forwardIf forward
  cases go with
  | false => rfl
  | true =>
      cases hport : mrp.port? q with
      | none => rfl
      | some port =>
          by_cases hup : port.operstate = ifOperUp
          · simp only [hport, hup, decide_true, Bool.and_self, if_true, List.cons.injEq,
              Relay.mk.injEq, and_true, true_and] at h
            simp [hup, h]
          · simp [hup]

/-- Two points of a relay at which the same is added to the log, for every port that
satisfies `P`. -/
structure Alike (P : Bool → Port → Prop) (x x' : Mrp × FrameBuf) : Prop where
  fst : x'.1 = x.1
  via : ∀ go q, P go q → x.1.relayVia go q x'.2 = x.1.relayVia go q x.2

/-- Relaying to one of the ports keeps two points alike. -/
theorem Alike.forwardIf {P : Bool → Port → Prop} {x x' : Mrp × FrameBuf} (h : Alike P x x')
    {go : Bool} {q : Port} (hq : P go q) :
    Alike P (Mrp.forwardIf go q x) (Mrp.forwardIf go q x') := by
  rcases x with ⟨m, fb⟩
  rcases x' with ⟨m', fb'⟩
  rcases h with ⟨rfl, hvia⟩
  have hfst := forwardIf_congr (hvia go q hq)
  refine ⟨hfst, fun go' q' hq' => ?_⟩
  rw [relayVia_forwardIf, ← hfst, relayVia_forwardIf]
  exact hvia go' q' hq'

/-- What is added to the log is the octets that are relayed, if any are. -/
theorem relayVia_congr {go : Bool} {q : Port} {fb fb' : FrameBuf}
    (h : (go = true → mrp.isOperUp q = false) ∨ fb'.pad.octets = fb.pad.octets) :
    mrp.relayVia go q fb' = mrp.relayVia go q fb := by
  unfold relayVia
  rcases h with h | h
  · cases go with
    | false => rfl
    | true => simp [h rfl]
  · rw [h]

/-- Relaying a frame depends on the decision and on the octets that are relayed, if any
are. -/
theorem relay_congr {fb fb' : FrameBuf} {type : TlvType}
    (ht : mrp.targets p fb'.data type = mrp.targets p fb.data type)
    (h : mrp.RelaysNothing (mrp.targets p fb.data type) ∨ fb'.pad.octets = fb.pad.octets) :
    mrp.relay p fb' type = mrp.relay p fb type := by
  let P : Bool → Port → Prop := fun go q =>
    (go = true → mrp.isOperUp q = false) ∨ fb'.pad.octets = fb.pad.octets
  have hstart : Alike P (mrp, fb) (mrp, fb') := ⟨rfl, fun _ _ hq => relayVia_congr hq⟩
  have hp : P (mrp.targets p fb.data type).p (.ring mrp.pPort) := h.imp_left fun h => h.1
  have hs : P (mrp.targets p fb.data type).s (.ring mrp.sPort) := h.imp_left fun h => h.2.1
  have hi : P (mrp.targets p fb.data type).i .inter := h.imp_left fun h => h.2.2
  have hend := ((hstart.forwardIf hp).forwardIf hs).forwardIf hi
  unfold relay checkAndForward
  rw [ht]
  exact hend.fst

/-- A frame that needs no padding is relayed as it was received. -/
theorem octets_pad_of_le (h : 60 ≤ rx.bytes.length) : rx.frameBuf.pad.octets = rx.bytes := by
  have hsize : ¬ rx.frameBuf.size < 60 := by simpa [RxFrame.frameBuf] using h
  rw [FrameBuf.pad, if_neg hsize, FrameBuf.octets]
  apply List.ext_getElem
  · simp [RxFrame.frameBuf]
  · intro i hi hi'
    simp [RxFrame.frameBuf, Buf.ofList, hi']

/-- Nothing is relayed exactly when no port that the frame is meant for is up. -/
theorem relays_eq_nil_iff :
    mrp.relays p rx = [] ↔ (mrp.admitted p rx = true →
      mrp.RelaysNothing (mrp.targets p rx.frameBuf.data (getTlvType rx.frameBuf.data))) := by
  unfold relays
  split
  next hadm =>
    simp only [hadm, true_implies, RelaysNothing, relaysOf, relayVia, List.append_eq_nil_iff,
      ite_eq_right_iff, Bool.and_eq_true, reduceCtorEq, imp_false, not_and, Bool.not_eq_true]
    tauto
  next hadm => simp [hadm]

/-- Every frame that is relayed is the received one, padded. -/
theorem bytes_of_mem_relays {x : Relay} (h : x ∈ mrp.relays p rx) :
    x.bytes = rx.frameBuf.pad.octets := by
  unfold relays at h
  split at h
  · simp only [relaysOf, List.mem_append, mem_relayVia] at h
    rcases h with (⟨-, -, rfl⟩ | ⟨-, -, rfl⟩) | ⟨-, -, rfl⟩ <;> rfl
  · cases h

end Frames

end Mrp

/-! ## Frames that are long enough -/

namespace Mrp

/-- The frame reaches the type field, and if it is not dropped it reaches as far as the
relay decision and its handler look; and if it has less than 60 octets, no port that it
would be relayed to is up. -/
def LongEnough (mrp : Mrp) (p : Port) (bytes : List UInt8) : Prop :=
  let b := (RxFrame.zeroFilled bytes).frameBuf.data
  let type := getTlvType b
  17 ≤ bytes.length ∧
    (mrp.admitted p (.zeroFilled bytes) = true →
      mrp.RelayFits bytes.length type ∧
        (mrp.shouldProcess type = true → mrp.HandlerFits b bytes.length type) ∧
        (bytes.length < 60 → mrp.RelaysNothing (mrp.targets p b type)))

section LongEnough

variable {mrp : Mrp} {p : Port} {bytes : List UInt8}

/-- Receiving a frame, with the buffer of the handler named. -/
theorem recv_eq_process (rx : RxFrame) :
    mrp.recv p rx =
      if mrp.admitted p rx = true then
        let m := mrp.relay p rx.frameBuf (getTlvType rx.frameBuf.data)
        if mrp.shouldProcess (getTlvType rx.frameBuf.data) = true then
          m.process (mrp.handlerBuf p rx) (getTlvType rx.frameBuf.data)
        else m
      else mrp := by
  rw [Mrp.recv_eq, delivered_eq]
  by_cases ha : mrp.admitted p rx = true
  · by_cases hproc : mrp.shouldProcess (getTlvType rx.frameBuf.data) = true <;> simp [ha, hproc]
  · simp [ha]

/-- Where the frame is long enough, the left-over contents of the buffers do not matter. -/
theorem LongEnough.recv_eq {rx : RxFrame} (h : mrp.LongEnough p rx.bytes) :
    mrp.recv p rx = mrp.recv p (.zeroFilled rx.bytes) := by
  rcases h with ⟨h17, hadmitted⟩
  rw [recv_eq_process, recv_eq_process, admitted_zeroFilled h17, type_zeroFilled h17]
  by_cases ha : mrp.admitted p (.zeroFilled rx.bytes) = true
  · rcases hadmitted ha with ⟨hrelay, hhandler, hpad⟩
    have hsame : mrp.relay p rx.frameBuf (getTlvType (RxFrame.zeroFilled rx.bytes).frameBuf.data) =
        mrp.relay p (RxFrame.zeroFilled rx.bytes).frameBuf
          (getTlvType (RxFrame.zeroFilled rx.bytes).frameBuf.data) := by
      refine relay_congr (targets_zeroFilled hrelay) ?_
      by_cases h60 : 60 ≤ rx.bytes.length
      · right
        have hzero : (RxFrame.zeroFilled rx.bytes).frameBuf.pad.octets = rx.bytes :=
          octets_pad_of_le h60
        rw [octets_pad_of_le h60, hzero]
      · exact .inl (hpad (by omega))
    simp only [ha, if_true, hsame]
    by_cases hproc :
        mrp.shouldProcess (getTlvType (RxFrame.zeroFilled rx.bytes).frameBuf.data) = true
    · simp only [hproc, if_true]
      apply process_zeroFilled
      have hwithin := (within_handlerBuf_iff (p := p)).mpr (hhandler hproc)
      rw [within_readProcess_iff] at hwithin ⊢
      -- relaying changes none of the fields that decide how far a handler looks
      rcases mrp.relay_eq p (RxFrame.zeroFilled rx.bytes).frameBuf
        (getTlvType (RxFrame.zeroFilled rx.bytes).frameBuf.data) with ⟨relayed, calls, heq⟩
      rw [heq]
      exact hwithin
    · simp only [hproc, Bool.false_eq_true, if_false]
  · simp only [ha, Bool.false_eq_true, if_false]

/-- A frame that is long enough acts by its own octets. -/
theorem LongEnough.actsOnReceived (h : mrp.LongEnough p bytes) : mrp.ActsOnReceived p bytes := by
  have hrecv : ∀ rx : RxFrame, rx.bytes = bytes → mrp.recv p rx = mrp.recv p (.zeroFilled bytes) := by
    rintro rx rfl
    exact h.recv_eq
  rcases h with ⟨h17, hadmitted⟩
  have hreads : ∀ rx : RxFrame, rx.bytes = bytes →
      ∀ i ∈ mrp.recvReads p rx, i < rx.bytes.length := by
    rintro rx rfl
    rw [recvReads_within_iff, type_zeroFilled h17, admitted_zeroFilled h17]
    intro _
    refine ⟨h17, fun ha => ⟨(hadmitted ha).1, fun hproc => ?_⟩⟩
    exact within_handlerBuf_iff.mpr ((hadmitted ha).2.1 hproc)
  have hrelays : ∀ rx : RxFrame, rx.bytes = bytes →
      ∀ x ∈ mrp.relays p rx, ∃ k, x.bytes = rx.bytes ++ List.replicate k 0 := by
    rintro rx rfl x hx
    by_cases h60 : 60 ≤ rx.bytes.length
    · refine ⟨0, ?_⟩
      rw [bytes_of_mem_relays hx, octets_pad_of_le h60]
      simp
    · have hnil : mrp.relays p rx = [] := by
        rw [relays_eq_nil_iff, type_zeroFilled h17, admitted_zeroFilled h17]
        intro ha
        rw [targets_zeroFilled (hadmitted ha).1]
        exact (hadmitted ha).2.2 (by omega)
      rw [hnil] at hx
      cases hx
  constructor
  · exact fun stale nstale => hreads ⟨bytes, stale, nstale⟩ rfl
  · exact fun stale nstale => hrelays ⟨bytes, stale, nstale⟩ rfl
  · intro stale nstale stale' nstale'
    rw [hrecv ⟨bytes, stale, nstale⟩ rfl, hrecv ⟨bytes, stale', nstale'⟩ rfl]

/-- A short frame that is padded with something else than zeros. -/
theorem octets_pad_ne {rx : RxFrame} (h : rx.bytes.length < 60) (hstale : rx.stale = fun _ => 1)
    (k : Nat) : rx.frameBuf.pad.octets ≠ rx.bytes ++ List.replicate k 0 := by
  intro heq
  have hat : rx.frameBuf.pad.octets[rx.bytes.length]? = some 1 := by
    simp [FrameBuf.pad, FrameBuf.octets, RxFrame.frameBuf, h, Buf.ofList, hstale]
  rw [heq, List.getElem?_append_right (Nat.le_refl _)] at hat
  have hzero := List.mem_of_getElem? hat
  rw [List.mem_replicate] at hzero
  exact absurd hzero.2 (by decide)

/-- A frame that acts by its own octets is long enough. -/
theorem ActsOnReceived.longEnough (hport : (mrp.port? p).isSome = true)
    (h : mrp.ActsOnReceived p bytes) : mrp.LongEnough p bytes := by
  have hreads : ∀ i ∈ mrp.recvReads p (.zeroFilled bytes), i < bytes.length := h.reads _ _
  have hfits := recvReads_within_iff.mp hreads hport
  rcases hfits with ⟨h17, hadmitted⟩
  refine ⟨h17, fun ha => ?_⟩
  rcases hadmitted ha with ⟨hrelay, hhandler⟩
  refine ⟨hrelay, fun hproc => within_handlerBuf_iff.mp (hhandler hproc), fun h60 => ?_⟩
  -- with ones behind it, a short frame that is relayed is not padded with zeros
  let rx : RxFrame := ⟨bytes, fun _ => 1, fun _ => 1⟩
  have hnil : mrp.relays p rx = [] := by
    rw [List.eq_nil_iff_forall_not_mem]
    intro x hx
    rcases h.relays (fun _ => 1) (fun _ => 1) x hx with ⟨k, hk⟩
    rw [bytes_of_mem_relays hx] at hk
    exact octets_pad_ne h60 rfl k hk
  have htype : getTlvType rx.frameBuf.data =
      getTlvType (RxFrame.zeroFilled bytes).frameBuf.data := type_zeroFilled h17
  have hadm : mrp.admitted p rx = mrp.admitted p (.zeroFilled bytes) := admitted_zeroFilled h17
  have htargets : ∀ type, mrp.RelayFits bytes.length type → mrp.targets p rx.frameBuf.data type =
      mrp.targets p (RxFrame.zeroFilled bytes).frameBuf.data type :=
    fun _ hfits => targets_zeroFilled hfits
  rw [relays_eq_nil_iff, htype, hadm] at hnil
  have hnothing := hnil ha
  rw [htargets _ hrelay] at hnothing
  exact hnothing

/-- A port that `mrp_get_port` finds is there. -/
theorem isSome_port?_of_findPort {ifindex : UInt32} (h : mrp.findPort ifindex = some p) :
    (mrp.port? p).isSome = true := by
  unfold findPort at h
  split at h
  · cases h; rfl
  · split at h
    · cases h; rfl
    · split at h
      next hin =>
        cases h
        cases hport : mrp.iPort with
        | none => simp [hport] at hin
        | some port => simp [port?, hport]
      next => cases h

end LongEnough

end Mrp

/-- The frame acts by its own octets at the instance that `mrp_get_port` finds for it. -/
def Registry.ActsOnReceived (reg : Registry) (ifindex : UInt32) (bytes : List UInt8) : Prop :=
  ∀ mrp p, reg.mrpGetPort ifindex = some (mrp, p) → mrp.ActsOnReceived p bytes

theorem Registry.isSome_port?_of_mrpGetPort {reg : Registry} {ifindex : UInt32} {mrp : Mrp}
    {p : Port} (h : reg.mrpGetPort ifindex = some (mrp, p)) : (mrp.port? p).isSome = true := by
  rcases List.exists_of_findSome?_eq_some h with ⟨m, -, hm⟩
  rcases Option.map_eq_some_iff.mp hm with ⟨q, hq, heq⟩
  cases heq
  exact Mrp.isSome_port?_of_findPort hq

/-- What is read of a received frame and what is relayed of it was received, and nothing
left over in the buffers has an effect, exactly when the frame is long enough for the
instance that gets it. -/
theorem received_suffices_iff (reg : Registry) (ifindex : UInt32) (bytes : List UInt8) :
    reg.ActsOnReceived ifindex bytes ↔
      ∀ mrp p, reg.mrpGetPort ifindex = some (mrp, p) → mrp.LongEnough p bytes := by
  refine forall₃_congr fun mrp p hfound => ?_
  have hport := Registry.isSome_port?_of_mrpGetPort hfound
  exact ⟨Mrp.ActsOnReceived.longEnough hport, Mrp.LongEnough.actsOnReceived⟩

namespace Sample

/-- An Ethernet header with the MRP type and nothing behind it. -/
def headerOnly : List UInt8 := mrpTestDmac.octets ++ (mac 9).octets ++ be16 ethPMrp

/-- A buffer that holds a link down frame of earlier. -/
def leftover : Buf := fun _ => TlvType.ringLinkDown.toUInt8

end Sample

/-- A frame that ends with its Ethernet header opens the ring of the sample manager, if
the buffer still holds the type of a link down frame; with zeros in the buffer nothing
happens. -/
theorem header_opens_ring :
    Sample.table.Reachable ∧ Sample.headerOnly.length = 14 ∧
      ((Sample.table.step (.recv 2 (.zeroFilled Sample.headerOnly))).instances.map
        fun mrp => mrp.mrmState) = [.chkRc] ∧
      ((Sample.table.step
        (.recv 2 ⟨Sample.headerOnly, Sample.leftover, Sample.leftover⟩)).instances.map
        fun mrp => mrp.mrmState) = [.chkRo] ∧
      ¬ Sample.table.instances.ActsOnReceived 2 Sample.headerOnly := by
  refine ⟨Sample.table_reachable, by decide +kernel, by decide +kernel, by decide +kernel, ?_⟩
  intro h
  have hfound : (Sample.table.instances.mrpGetPort 2).isSome = true := by decide +kernel
  rcases Option.isSome_iff_exists.mp hfound with ⟨⟨mrp, p⟩, hget⟩
  have hlong := (h mrp p hget).longEnough (Registry.isSome_port?_of_mrpGetPort hget)
  exact absurd hlong.1 (by decide)

end Umrp
