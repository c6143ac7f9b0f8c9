import Umrp.Topology.Handlers

/-!
# The rounds of an instance

Every event does to the rounds of an instance what its row of the table says.

Main results:

- Theorem `Mrp.step_takes`: the rounds follow the instance step by step, and what
  announces a topology change flushes exactly when the table says so.
- Theorem `Mrp.step_flushes_tick`: an expiry of the timer of a round flushes once if the
  counter is at zero, and not at all otherwise.
-/

namespace Umrp

open Octets

/-- The events of a round that send announcements. -/
def Round.Event.announces : Round.Event → Bool
  | .request _ | .tick => true
  | .cancel | .silent => false

namespace Mrp

/-- From `a` to `b` the round of one side takes an event. -/
structure Takes (side : TopoSide) (ev : Round.Event) (a b : Mrp) : Prop where
  round : b.round side = (a.round side).step (a.roundConf side) (b.topoPorts side) ev
  flushes : ev.announces = true →
    (b.flushes = a.flushes ↔ ev.flushes (a.round side).left = 0)

namespace Takes

variable {side : TopoSide} {ev : Round.Event} {a b : Mrp}

/-- What follows a row of the table. -/
theorem of_follows (h : Topo.Follows side ev a.topo b.topo) : Takes side ev a b where
  round := by
    rw [← topo_ports]
    exact h.round
  flushes := by
    have hflushes : b.flushes = a.flushes + ev.flushes (a.round side).left := h.flushes
    intro _
    omega

/-- What leaves the round alone. -/
theorem of_round (h : b.round side = a.round side) : Takes side .silent a b where
  round := h
  flushes := fun h => nomatch h

theorem refl (side : TopoSide) (a : Mrp) : Takes side .silent a a := of_round rfl

/-- An operation of the ring leaves the interconnection alone. -/
theorem of_ringOp {nack : Mac → Prop} (h : RingOp nack a b)
    (hsent : b.sentOf (fun t => t = .inTopo) = a.sentOf fun t => t = .inTopo) :
    Takes .inter .silent a b :=
  of_round (h.round_inter hsent)

/-- An operation of the interconnection leaves the ring alone. -/
theorem of_inOp (h : InOp a b)
    (hsent : b.sentOf (fun t => t = .ringTopo) = a.sentOf fun t => t = .ringTopo) :
    Takes .ring .silent a b :=
  of_round (h.round_ring hsent)

/-- The event may be taken by an instance that differs in what the round does not see. -/
theorem of_eq {a' : Mrp} (h : Takes side ev a' b) (hround : a'.round side = a.round side)
    (hconf : a'.toMrpConf = a.toMrpConf) (hflushes : a'.flushes = a.flushes) :
    Takes side ev a b where
  round := by
    rw [h.round, hround, hconf]
  flushes := by
    rw [← hround, ← hflushes]
    exact h.flushes

end Takes

section Events

variable (mrp : Mrp)

/-! ## Frames -/

/-- The ports of the ring are on the ring side. -/
theorem topoPorts_ring_congr {a b : Mrp} (h : b.toRingPart = a.toRingPart) :
    b.topoPorts .ring = a.topoPorts .ring := by
  simp [topoPorts, List.filter_cons, isOperUp, port?, h]

theorem clearFdbStart_flushes (interval : UInt32) :
    (mrp.clearFdbStart interval).flushes = mrp.flushes + if interval = 0 then 1 else 0 := by
  simp only [clearFdbStart]
  by_cases h : interval = 0 <;> simp [h, flushes, flush, call]

/-- The reaction to a topology change of the interconnection flushes at most if the frame
asks for it at once. -/
theorem inTopoByRole_flushes (hdr : Buf) (interval : UInt32) :
    ∃ n, (mrp.inTopoByRole hdr interval).flushes = mrp.flushes + n ∧ (interval ≠ 0 → n = 0) := by
  have hmic : (mrp.micRecvInTopo hdr).flushes = mrp.flushes := by
    unfold micRecvInTopo
    cases mrp.micState with
    | acStat1 =>
        dsimp only
        split <;> rfl
    | pt =>
        exact congrArg Topo.flushes (topo_portSetState
          (mrp.setInLinkCurrMax mrp.inLinkConfMax).inLinkUpStop .inter .forwarding)
    | ipIdle => rfl
  unfold inTopoByRole
  cases mrp.inRole with
  | mim =>
      dsimp only
      split
      · exact ⟨0, rfl, fun _ => rfl⟩
      · exact ⟨_, mrp.clearFdbStart_flushes interval, fun h => if_neg h⟩
  | mic => exact ⟨0, hmic, fun _ => rfl⟩
  | disabled => exact ⟨0, rfl, fun _ => rfl⟩

/-- A topology change of the interconnection, on the side of the ring. -/
theorem recvInTopo_takes (buf : Buf) :
    Takes .ring (mrp.frameRound buf .inTopo .ring) mrp (mrp.recvInTopo buf) := by
  have hop := inTopoByRole_op (mrp.restartRingTopo (intervalUs (InTopoHdr.interval
    (tlvBody buf)))) (tlvBody buf) (intervalUs (InTopoHdr.interval (tlvBody buf)))
  have hrestart := mrp.restartRingTopo_follows buf
  constructor
  · simp only [recvInTopo]
    rw [hop.round_ring (inTopoByRole_sentOf _ _ _), topoPorts_ring_congr hop.toRingPart]
    exact (Takes.of_follows hrestart).round
  · have hflushes : (mrp.restartRingTopo (intervalUs (InTopoHdr.interval (tlvBody buf)))).flushes =
        mrp.flushes + (mrp.frameRound buf .inTopo .ring).flushes (mrp.round .ring).left :=
      hrestart.flushes
    rcases inTopoByRole_flushes (mrp.restartRingTopo (intervalUs (InTopoHdr.interval
      (tlvBody buf)))) (tlvBody buf) (intervalUs (InTopoHdr.interval (tlvBody buf)))
      with ⟨n, hrole, hn⟩
    simp only [recvInTopo, hrole, hflushes, frameRound]
    by_cases hrow : mrp.ringRole = .mrm ∧ mrp.ringTopoRunning = false
    · simp only [hrow, and_self, if_true, Round.Event.flushes]
      by_cases htime : intervalUs (InTopoHdr.interval (tlvBody buf)) = 0
      · simp [htime]
        omega
      · simp [htime, hn htime]
    · simp [hrow, Round.Event.announces]

/-- An option frame. -/
theorem recvOption_takes (buf : Buf) :
    Takes .ring (mrp.frameRound buf .option .ring) mrp (mrp.recvOption buf) where
  round := mrp.recvOption_round buf _
  flushes := by
    simp only [frameRound]
    split <;> intro h <;> cases h

/-- A received frame does to the ring's round what its row says. -/
theorem process_takes_ring (buf : Buf) (type : TlvType) :
    Takes .ring (mrp.frameRound buf type .ring) mrp (mrp.process buf type) := by
  cases type with
  | ringTest =>
      simp only [process, recvRingTest, frameRound]
      by_cases hsa : etherAddrEqual (RingTestHdr.sa (tlvBody buf)) mrp.macaddr = true
      · simp only [hsa, if_true, true_and]
        exact .of_follows mrp.mrmRecvRingTest_follows
      · have hrow : ¬ (etherAddrEqual (RingTestHdr.sa (tlvBody buf)) mrp.macaddr = true ∧
            mrp.mrmState = .chkRo) := fun h => hsa h.1
        rw [if_neg hsa, if_neg hrow]
        split
        · exact .of_round (mrp.mraRecvRingTest_round _)
        · exact .refl .ring mrp
  | ringTopo => exact .of_round (mrp.recvRingTopo_round buf)
  | ringLinkDown | ringLinkUp => exact .of_follows (mrp.recvRingLink_follows buf)
  | option => exact mrp.recvOption_takes buf
  | inTest => exact .of_inOp (mrp.recvInTest_op buf) (mrp.recvInTest_sentOf rfl rfl buf)
  | inTopo => exact mrp.recvInTopo_takes buf
  | inLinkDown | inLinkUp =>
      exact .of_inOp (mrp.recvInLink_op buf) (mrp.recvInLink_sentOf rfl rfl buf)
  | inLinkStatus =>
      exact .of_inOp (mrp.recvInLinkStatus_op buf) (mrp.recvInLinkStatus_sentOf rfl rfl buf)
  | tlvEnd | common | unknown => exact .refl .ring mrp

/-- A received frame does to the round of the interconnection what its row says. -/
theorem process_takes_inter (buf : Buf) (type : TlvType) :
    Takes .inter (mrp.frameRound buf type .inter) mrp (mrp.process buf type) := by
  have hsent : (∀ t ∈ type.answers, decide (t = .inTopo) = false) →
      (mrp.process buf type).sentOf (fun t => t = .inTopo) = mrp.sentOf fun t => t = .inTopo :=
    fun h => mrp.process_sentOf h buf
  cases type with
  | ringTest =>
      have hop : RingOp (fun _ => True) mrp (mrp.recvRingTest buf) :=
        mrp.recvRingTest_op buf fun _ _ _ _ => trivial
      exact .of_ringOp hop (hsent (by decide))
  | ringTopo => exact .of_ringOp (mrp.recvRingTopo_op buf : RingOp NoNack _ _) (hsent (by decide))
  | ringLinkDown | ringLinkUp =>
      exact .of_ringOp (mrp.recvRingLink_op buf : RingOp NoNack _ _) (hsent (by decide))
  | option => exact .of_ringOp (mrp.recvOption_op buf : RingOp NoNack _ _) (hsent (by decide))
  | inTest => exact .of_follows (mrp.recvInTest_follows buf)
  | inTopo =>
      apply Takes.of_round
      simp only [process, recvInTopo]
      rw [inTopoByRole_round]
      exact (mrp.restartRingTopo_op _).round_inter (mrp.restartRingTopo_sentOf rfl _)
  | inLinkDown | inLinkUp => exact .of_follows (mrp.recvInLink_follows buf)
  | inLinkStatus => exact .of_round (mrp.recvInLinkStatus_round buf)
  | tlvEnd | common | unknown => exact .refl .inter mrp

/-! ## Timers -/

/-- An expired timer does to the ring's round what its row says. -/
theorem expired_takes_ring (w : TimerId) :
    Takes .ring (mrp.timerRound w .ring) mrp (mrp.expired w) := by
  have hsent : (∀ t ∈ w.announces, decide (t = .ringTopo) = false) →
      (mrp.expired w).sentOf (fun t => t = .ringTopo) = mrp.sentOf fun t => t = .ringTopo :=
    fun h => mrp.expired_sentOf h
  cases w with
  | ringTopo =>
      apply Takes.of_follows
      simp only [expired, timerRound]
      rw [topo_ringTopoExpired]
      exact Topo.follows_tick
  | ringTest =>
      simp only [expired, ringTestExpired, timerRound]
      by_cases hmrc : mrp.mraSupport = true ∧ mrp.ringRole = .mrc
      · simp only [hmrc, and_self, if_true, reduceCtorEq, false_and, if_false]
        exact .of_round mrp.mrcRingTestExpired_round
      · rw [if_neg hmrc]
        by_cases hmrm : mrp.ringRole = .mrm
        · simp only [hmrm, if_true, true_and]
          exact .of_follows mrp.mrmRingTestExpired_follows
        · simp only [hmrm, if_false, false_and]
          exact .refl .ring mrp
  | ringLinkUp => exact .of_round (mrp.ringLinkExpired_round (.inl rfl))
  | ringLinkDown => exact .of_round (mrp.ringLinkExpired_round (.inr rfl))
  | inTest => exact .of_inOp mrp.inTestExpired_op (hsent (by decide))
  | inTopo => exact .of_inOp mrp.inTopoExpired_op (hsent (by decide))
  | inLinkUp => exact .of_inOp mrp.inLinkUpExpired_op (hsent (by decide))
  | inLinkDown => exact .of_inOp mrp.inLinkDownExpired_op (hsent (by decide))
  | inLinkStatus => exact .of_round (congrFun mrp.inLinkStatusExpired_round .ring)
  | clearFdb | cfmCcm => exact .of_round rfl

/-- An expired timer does to the round of the interconnection what its row says. -/
theorem expired_takes_inter (w : TimerId) :
    Takes .inter (mrp.timerRound w .inter) mrp (mrp.expired w) := by
  have hring : RingOp NoNack mrp (mrp.expired w) →
      (∀ t ∈ w.announces, decide (t = .inTopo) = false) → Takes .inter .silent mrp (mrp.expired w) :=
    fun hop h => .of_ringOp hop (mrp.expired_sentOf h)
  cases w with
  | inTopo =>
      apply Takes.of_follows
      simp only [expired, timerRound]
      rw [topo_inTopoExpired]
      exact Topo.follows_tick
  | inTest => exact .of_follows mrp.inTestExpired_follows
  | ringTopo => exact hring mrp.ringTopoExpired_op (by decide)
  | ringTest => exact hring mrp.ringTestExpired_op (by decide)
  | ringLinkUp => exact hring mrp.ringLinkUpExpired_op (by decide)
  | ringLinkDown => exact hring mrp.ringLinkDownExpired_op (by decide)
  | inLinkUp => exact .of_round (mrp.inLinkExpired_round (.inl rfl))
  | inLinkDown => exact .of_round (mrp.inLinkExpired_round (.inr rfl))
  | inLinkStatus => exact .of_round (congrFun mrp.inLinkStatusExpired_round .inter)
  | clearFdb | cfmCcm => exact .of_round rfl

/-! ## Link events -/

/-- A link event on a ring port. -/
theorem portLinkChange_takes_ring (r : RingPort) (up : Bool) :
    Takes .ring (mrp.ringLinkRound r up) mrp (mrp.portLinkChange (.ring r) up) := by
  have hrole : (mrp.noteRingLink r up).ringRole = mrp.ringRole := rfl
  have hstate : (mrp.noteRingLink r up).mrmState = mrp.mrmState := rfl
  have hport : (mrp.noteRingLink r up).pPort = mrp.pPort := rfl
  have hconf : (mrp.noteRingLink r up).toMrpConf = mrp.toMrpConf := rfl
  have hround : (mrp.noteRingLink r up).round .ring = mrp.round .ring := rfl
  simp only [portLinkChange, ringLinkRound, hrole]
  cases mrp.ringRole with
  | mrm =>
      have hlink := Takes.of_follows (mrmPortLink_follows (mrp.noteRingLink r up) r up)
      rw [hconf, hport, hstate] at hlink
      simp only [true_and]
      exact hlink.of_eq hround hconf rfl
  | mrc => exact .of_round ((mrcPortLink_round _ r up).trans hround)
  | disabled => exact .of_round hround
  | mra => exact .of_round hround

/-- A link event that is given to the machine of the interconnection. -/
theorem inLink_takes (operstate : UInt8) (up : Bool) :
    Takes .inter (mrp.inLinkRound up) mrp
      (match (mrp.setInOperstate operstate).inRole with
        | .mim => ((mrp.setInOperstate operstate).noteInLink up).mimPortLink up
        | .mic => ((mrp.setInOperstate operstate).noteInLink up).micPortLink up
        | .disabled => mrp.setInOperstate operstate) := by
  have hrole : (mrp.setInOperstate operstate).inRole = mrp.inRole := rfl
  have hround : ((mrp.setInOperstate operstate).noteInLink up).round .inter = mrp.round .inter := rfl
  have hstate : ((mrp.setInOperstate operstate).noteInLink up).mimState = mrp.mimState := rfl
  have hconf : ((mrp.setInOperstate operstate).noteInLink up).toMrpConf = mrp.toMrpConf := rfl
  simp only [inLinkRound, hrole]
  cases mrp.inRole with
  | mim =>
      have hlink := Takes.of_follows
        (mimPortLink_follows ((mrp.setInOperstate operstate).noteInLink up) up)
      rw [hconf, hstate] at hlink
      simp only [true_and]
      exact hlink.of_eq hround hconf rfl
  | mic => exact .of_round ((micPortLink_round _ up).trans hround)
  | disabled => exact .of_round rfl

/-- What a call of `mrp_port_link_change` does to a round. -/
def portRound (p : Port) (up : Bool) (side : TopoSide) : Round.Event :=
  match p, side with
  | .ring r, .ring => mrp.ringLinkRound r up
  | .inter, .inter => if mrp.inMode = .lc then .silent else mrp.inLinkRound up
  | .ring _, .inter | .inter, .ring => .silent

/-- A call of `mrp_port_link_change`. -/
theorem portLinkChange_takes (p : Port) (up : Bool) (side : TopoSide) :
    Takes side (mrp.portRound p up side) mrp (mrp.portLinkChange p up) := by
  cases p with
  | ring r =>
      cases side with
      | ring => exact mrp.portLinkChange_takes_ring r up
      | inter =>
          exact .of_ringOp (mrp.portLinkChange_ring_op r up)
            (mrp.portLinkChange_sentOf (p := .ring r) (by simp [Port.announces]) up)
  | inter =>
      cases side with
      | ring =>
          exact .of_inOp (mrp.portLinkChange_inter_op up)
            (mrp.portLinkChange_sentOf (p := .inter) (by simp [Port.announces]) up)
      | inter =>
          simp only [portLinkChange, portRound]
          split
          · exact .refl .inter mrp
          · exact mrp.inLink_takes _ up

/-- A link change in the table. -/
theorem roundEvent_linkChange (side : TopoSide) (p : Port) (up : Bool) :
    mrp.roundEvent side (.linkChange p up) =
      if (mrp.port? p).isSome then mrp.portRound p up side else .silent := by
  cases p with
  | ring r => cases side <;> rfl
  | inter =>
      cases side with
      | ring =>
          simp only [roundEvent, linkRound, ringEvent, portRound]
          split <;> rfl
      | inter =>
          simp only [roundEvent, linkRound, interEvent, inLinkEvent, portRound, port?]
          by_cases hport : mrp.iPort.isSome = true
          · by_cases hmode : mrp.inMode = .lc <;> simp [hport, hmode]
          · simp [hport]

/-- A netlink notification in the table. -/
theorem roundEvent_operstate (side : TopoSide) (p : Port) (state : UInt8) :
    mrp.roundEvent side (.operstate p state) =
      match mrp.port? p with
      | none => .silent
      | some port =>
          if port.operstate = state then .silent
          else
            match operstateLink state with
            | some up => mrp.portRound p up side
            | none => .silent := by
  cases p with
  | ring r =>
      simp only [roundEvent, port?]
      by_cases hsame : (mrp.ringPort r).operstate = state
      · cases side <;> simp [linkRound, ringEvent, interEvent, hsame]
      · cases hlink : operstateLink state <;>
          cases side <;> simp [linkRound, ringEvent, interEvent, hsame, hlink, portRound]
  | inter =>
      simp only [roundEvent, port?]
      cases side with
      | ring =>
          simp only [linkRound, ringEvent, portRound]
          repeat' split
          all_goals rfl
      | inter =>
          cases hport : mrp.iPort with
          | none => simp [linkRound, interEvent, hport]
          | some port =>
              by_cases hsame : port.operstate = state
              · simp [linkRound, interEvent, hport, hsame]
              · cases hlink : operstateLink state with
                | none => simp [linkRound, interEvent, hport, hsame, hlink]
                | some up =>
                    by_cases hmode : mrp.inMode = .lc <;>
                      simp [linkRound, interEvent, hport, hsame, hlink, inLinkEvent, portRound,
                        hmode]

/-- A netlink notification. -/
theorem netlinkOperstate_takes (p : Port) (state : UInt8) (side : TopoSide) :
    Takes side (mrp.roundEvent side (.operstate p state)) mrp (mrp.netlinkOperstate p state) := by
  have hround : (mrp.setOperstate p (storedOperstate state)).round = mrp.round := by
    cases p <;> rfl
  have hconf : (mrp.setOperstate p (storedOperstate state)).toMrpConf = mrp.toMrpConf :=
    (mrp.setOperstate_op _ _).toMrpConf
  have hflushes : (mrp.setOperstate p (storedOperstate state)).flushes = mrp.flushes := by
    cases p <;> rfl
  have hrow : ∀ up, (mrp.setOperstate p (storedOperstate state)).portRound p up side =
      mrp.portRound p up side := by
    intro up
    cases p <;> cases side <;> rfl
  rw [roundEvent_operstate]
  simp only [netlinkOperstate]
  cases mrp.port? p with
  | none => exact .refl side mrp
  | some port =>
      by_cases hsame : port.operstate = state
      · simp only [if_pos hsame]
        exact .refl side mrp
      · simp only [if_neg hsame]
        cases operstateLink state with
        | none => exact .of_round (congrFun hround side)
        | some up =>
            have hlink := portLinkChange_takes (mrp.setOperstate p (storedOperstate state)) p up side
            rw [hrow] at hlink
            exact hlink.of_eq (congrFun hround side) hconf hflushes

/-- A CFM notification. -/
theorem cfmLinkChange_takes (defect : Bool) (side : TopoSide) :
    Takes side (mrp.roundEvent side (.cfmLinkChange defect)) mrp (mrp.cfmLinkChange defect) := by
  cases side with
  | ring =>
      exact .of_inOp (mrp.cfmLinkChange_op defect)
        (mrp.cfmLinkChange_sentOf (by simp [Port.announces]) defect)
  | inter =>
      simp only [cfmLinkChange, roundEvent, linkRound, interEvent]
      cases mrp.iPort with
      | none => exact .refl .inter mrp
      | some port => exact mrp.inLink_takes _ _

/-! ## Steps -/

theorem relay_round (p : Port) (fb : FrameBuf) (type : TlvType) :
    (mrp.relay p fb type).round = mrp.round := by
  funext side
  cases side <;> simp [round, announced, sentOf]

theorem relay_flushes (p : Port) (fb : FrameBuf) (type : TlvType) :
    (mrp.relay p fb type).flushes = mrp.flushes := by
  have hforward : ∀ go q (x : Mrp × FrameBuf), (forwardIf go q x).1.flushes = x.1.flushes := by
    intro go q x
    unfold forwardIf forward
    repeat' split
    · simp [flushes, call]
    · rfl
    · rfl
    · rfl
  simp only [relay, checkAndForward, hforward]

theorem relay_frameRound (p : Port) (fb : FrameBuf) (type : TlvType) (buf : Buf) :
    (mrp.relay p fb type).frameRound buf type = mrp.frameRound buf type := by
  funext side
  cases side <;> cases type <;> simp [frameRound, yieldsTo]

/-- A received frame. -/
theorem recv_takes (p : Port) (rx : RxFrame) (side : TopoSide) :
    Takes side (mrp.roundEvent side (.recv p rx)) mrp (mrp.recv p rx) := by
  simp only [roundEvent]
  cases hdel : mrp.delivered p rx with
  | none =>
      rcases recv_of_not_delivered hdel with hrecv | hrecv
      · rw [hrecv]
        exact .refl side mrp
      · rw [hrecv]
        exact .of_round (congrFun (mrp.relay_round p _ _) side)
  | some x =>
      rcases x with ⟨type, buf⟩
      have hprocess : ∀ m : Mrp, Takes side (m.frameRound buf type side) m (m.process buf type) := by
        intro m
        cases side with
        | ring => exact m.process_takes_ring buf type
        | inter => exact m.process_takes_inter buf type
      have hrelay := hprocess (mrp.relay p rx.frameBuf type)
      rw [relay_frameRound] at hrelay
      rw [(recv_of_delivered hdel).2]
      exact hrelay.of_eq (congrFun (mrp.relay_round p _ _) side) (mrp.relay_toMrpConf p _ _)
        (mrp.relay_flushes p _ _)

/-- The rounds follow the instance step by step. -/
theorem step_takes (side : TopoSide) (e : Event) :
    Takes side (mrp.roundEvent side e) mrp (mrp.step e) := by
  cases e with
  | recv p rx => exact mrp.recv_takes p rx side
  | linkChange p up =>
      rw [roundEvent_linkChange]
      simp only [step]
      split
      · exact mrp.portLinkChange_takes p up side
      · exact .refl side mrp
  | operstate p state => exact mrp.netlinkOperstate_takes p state side
  | cfmLinkChange defect => exact mrp.cfmLinkChange_takes defect side
  | portMac p mac => cases p <;> cases side <;> exact .of_round rfl
  | bridgeMac mac => cases side <;> exact .of_round rfl
  | expired w =>
      simp only [step, roundEvent]
      split
      · cases side with
        | ring => exact mrp.expired_takes_ring w
        | inter => exact mrp.expired_takes_inter w
      · exact .refl side mrp

/-- Only an expiry of its own timer is a tick of a round. -/
theorem roundEvent_eq_tick {side : TopoSide} {e : Event} :
    mrp.roundEvent side e = .tick ↔ mrp.expires side.timer e = true := by
  have hrow : ∀ (c : Prop) [Decidable c] time,
      (if c then Round.Event.request time else .silent) ≠ .tick := by
    intro c _ time
    split <;> exact Round.Event.noConfusion
  have hlink : ∀ e, mrp.linkRound e side ≠ .tick := by
    intro e
    cases side with
    | ring =>
        simp only [linkRound]
        split
        · exact hrow _ _
        · exact Round.Event.noConfusion
    | inter =>
        simp only [linkRound]
        split
        · exact hrow _ _
        · exact Round.Event.noConfusion
  have hframe : ∀ buf type, mrp.frameRound buf type side ≠ .tick := by
    intro buf type
    cases side <;> cases type <;> simp only [frameRound] <;> repeat' split
    all_goals exact Round.Event.noConfusion
  have htimer : ∀ w, mrp.timerRound w side = .tick ↔ w = side.timer := by
    intro w
    cases side <;> cases w <;> simp [timerRound, TopoSide.timer, hrow]
  cases e with
  | recv p rx =>
      simp only [roundEvent, expires, Bool.false_eq_true, iff_false]
      split
      · exact hframe _ _
      · exact Round.Event.noConfusion
  | expired w =>
      simp only [roundEvent, expires, Bool.and_eq_true, decide_eq_true_eq]
      constructor
      · intro h
        split at h
        next hactive =>
          have hw := (htimer w).mp h
          exact ⟨hw, hw ▸ hactive⟩
        next => cases h
      · rintro ⟨rfl, hactive⟩
        rw [if_pos hactive, htimer]
  | linkChange p up => simpa [roundEvent, expires] using hlink _
  | operstate p state => simpa [roundEvent, expires] using hlink _
  | cfmLinkChange defect => simpa [roundEvent, expires] using hlink _
  | portMac p mac => simpa [roundEvent, expires] using hlink _
  | bridgeMac mac => simpa [roundEvent, expires] using hlink _

/-- An expiry flushes once if the counter of its round is at zero, and not at all otherwise. -/
theorem step_flushes_tick {side : TopoSide} {e : Event} (h : mrp.expires side.timer e = true) :
    (mrp.step e).flushes = mrp.flushes + if (mrp.round side).left = 0 then 1 else 0 := by
  cases e with
  | expired w =>
      simp only [expires, Bool.and_eq_true, decide_eq_true_eq] at h
      rcases h with ⟨rfl, hactive⟩
      rw [step, if_pos hactive]
      cases side with
      | ring => exact congrArg Topo.flushes mrp.topo_ringTopoExpired
      | inter => exact congrArg Topo.flushes mrp.topo_inTopoExpired
  | _ => simp [expires] at h

end Events

end Mrp

end Umrp
