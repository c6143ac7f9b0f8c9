import Umrp.Codec
import Umrp.Links.Phase
import Umrp.Recovery
import Umrp.Topology.Completion

/-!
# Announced intervals

A topology or link change frame tells its receivers how long they have: a counter times
an interval, in microseconds, divided down to 16 bits of milliseconds.  The interval is
the one of a recovery profile, multiplied by the factor of the command line, or the one
of a received frame.  Every product is taken in 32 bits.  This file compares what goes
out with the product that the code would have computed without overflow.

Main results:

- Theorem `interval_configure`: a configured interval is the exact one modulo 2^32.
- Theorem `decodes_iff`: a receiver decodes the exact product exactly when it is below
  65536 milliseconds.
- Theorem `intervals_truthful_iff`: the intervals of a run.
-/

namespace Umrp

open Octets EventMachine

/-! ## Settings -/

/-- The intervals that `mrp_update_recovery` configures. -/
inductive IntervalId
  | ringTopo | ringTestShort | ringTest | ringLink | inTopo | inTest | inLink | inLinkStatus
deriving DecidableEq

/-- A configured interval. -/
def MrpConf.interval (c : MrpConf) : IntervalId → UInt32
  | .ringTopo => c.ringTopoConfInterval
  | .ringTestShort => c.ringTestConfShort
  | .ringTest => c.ringTestConfInterval
  | .ringLink => c.ringLinkConfInterval
  | .inTopo => c.inTopoConfInterval
  | .inTest => c.inTestConfInterval
  | .inLink => c.inLinkConfInterval
  | .inLinkStatus => c.inLinkStatusConfInterval

/-- What the recovery profiles say about an interval, if they are known. -/
def recoveryInterval (ringRecv inRecv : UInt8) : IntervalId → Option UInt32
  | .ringTopo => (ringProfile ringRecv).map RingProfile.topoInterval
  | .ringTestShort => (ringProfile ringRecv).map RingProfile.testShort
  | .ringTest => (ringProfile ringRecv).map RingProfile.testInterval
  | .ringLink => (ringProfile ringRecv).map RingProfile.linkInterval
  | .inTopo => (inProfile inRecv).map InProfile.topoInterval
  | .inTest => (inProfile inRecv).map InProfile.testInterval
  | .inLink => (inProfile inRecv).map InProfile.linkInterval
  | .inLinkStatus => (inProfile inRecv).map InProfile.linkStatusInterval

/-- The interval that a setting stands for, without overflow.  An unknown profile keeps the
default, which is multiplied by the factor once more. -/
def exactInterval (timeFactor : UInt32) (ringRecv inRecv : UInt8) (i : IntervalId) : Nat :=
  match recoveryInterval ringRecv inRecv i with
  | some interval => interval.toNat * timeFactor.toNat
  | none => ((recoveryInterval 0 0 i).getD 0).toNat * timeFactor.toNat * timeFactor.toNat

/-- One call of `mrp_update_recovery`. -/
theorem interval_updateRecovery (m : Mrp) (timeFactor : UInt32) (ringRecv inRecv : UInt8)
    (i : IntervalId) :
    (m.updateRecovery timeFactor ringRecv inRecv).toMrpConf.interval i =
      (recoveryInterval ringRecv inRecv i).getD (m.toMrpConf.interval i) * timeFactor := by
  unfold Mrp.updateRecovery recoveryInterval
  cases ringProfile ringRecv <;> cases inProfile inRecv <;> cases i <;> rfl

/-- A configured interval is the exact one modulo 2^32. -/
theorem interval_configure (env : Env) (a : AddArgs) (i : IntervalId) :
    (Mrp.configure env a).toMrpConf.interval i =
      UInt32.ofNat (exactInterval env.timeFactor a.ringRecv a.inRecv i) := by
  have hcreate : (Mrp.create env a.brIfindex a.ringNr a.inId).toMrpConf.interval i =
      (recoveryInterval 0 0 i).getD 0 * env.timeFactor := by
    have hupdate := interval_updateRecovery
      { Mrp.zeroed env.clock with
        ifindex := a.brIfindex, ringNr := a.ringNr, inId := a.inId, ringRole := .mrc,
        inRole := .disabled, prio := 0x8000 } env.timeFactor 0 0 i
    cases i <;> exact hupdate
  have hsettings : (Mrp.applySettings env a).toMrpConf.interval i =
      (recoveryInterval a.ringRecv a.inRecv i).getD
        ((recoveryInterval 0 0 i).getD 0 * env.timeFactor) * env.timeFactor := by
    rw [← hcreate]
    have hupdate := interval_updateRecovery
      ((Mrp.create env a.brIfindex a.ringNr a.inId).setPrio a.prio) env.timeFactor a.ringRecv
      a.inRecv i
    cases i <;> exact hupdate
  have hconf : (Mrp.configure env a).toMrpConf.interval i =
      (Mrp.applySettings env a).toMrpConf.interval i := by
    have hports := (initPorts_keeps (Mrp.applySettings env a) env a).1
    unfold Mrp.configure
    dsimp only
    split
    · unfold Mrp.startCfm
      dsimp only
      rw [← hports]
      split <;> cases i <;> rfl
    · rw [hports]
  rw [hconf, hsettings, exactInterval]
  cases recoveryInterval a.ringRecv a.inRecv i with
  | some interval => simp [UInt32.ofNat_mul]
  | none => simp [UInt32.ofNat_mul]

/-- A configured interval is missing exactly when the exact one is a multiple of 2^32. -/
theorem ofNat_ne_zero_iff (n : Nat) : UInt32.ofNat n ≠ 0 ↔ n % 4294967296 ≠ 0 := by
  rw [ne_eq, ← UInt32.toNat_inj, UInt32.toNat_ofNat']
  rfl

/-! ## The field -/

/-- The receiver of a frame that was built with `interval` takes it for less than a
millisecond below `exact` microseconds. -/
def Decodes (interval : UInt32) (exact : Nat) : Prop :=
  (intervalUs (intervalField interval)).toNat ≤ exact ∧
    exact < (intervalUs (intervalField interval)).toNat + 1000

instance (interval : UInt32) (exact : Nat) : Decidable (Decodes interval exact) :=
  inferInstanceAs (Decidable (_ ∧ _))

/-- A receiver multiplies the field by 1000 without overflow. -/
theorem toNat_intervalUs (field : UInt16) : (intervalUs field).toNat = field.toNat * 1000 := by
  have hlt := field.toNat_lt
  have hmod : (1000 : UInt32).toNat = 1000 := rfl
  rw [intervalUs, UInt32.toNat_mul, UInt16.toNat_toUInt32, hmod]
  omega

/-- The product in 32 bits. -/
theorem intervalUs_eq (field : UInt16) : intervalUs field = UInt32.ofNat (field.toNat * 1000) := by
  have hlt := field.toNat_lt
  rw [← UInt32.toNat_inj, toNat_intervalUs, UInt32.toNat_ofNat']
  omega

/-- A product that is taken in 32 bits and sent in 16 bits of milliseconds arrives exactly
when it is below 65536 milliseconds. -/
theorem decodes_iff (n : Nat) : Decodes (UInt32.ofNat n) n ↔ n < 65536000 := by
  unfold Decodes
  rw [toNat_intervalUs]
  constructor
  · rintro ⟨-, hlt⟩
    have hfield := (intervalField (UInt32.ofNat n)).toNat_lt
    omega
  · intro hn
    have hsmall : (UInt32.ofNat n).toNat = n := by
      rw [UInt32.toNat_ofNat']
      omega
    have hfield : (intervalField (UInt32.ofNat n)).toNat = n / 1000 := by
      rw [toNat_intervalField (by rwa [hsmall]), hsmall]
    rw [hfield]
    omega

/-! ## What a sender means -/

/-- The frames that carry an interval. -/
def TlvType.timed : TlvType → Bool
  | .ringTopo | .inTopo | .ringLinkDown | .ringLinkUp | .inLinkDown | .inLinkUp => true
  | _ => false

namespace Mrp

section Meaning

variable (exact : IntervalId → Nat) (mrp : Mrp) (e : Event)

/-- The time that a topology change request of the ring stands for: the configured
interval, nothing where the manager reacts on link changes, or the interval of a received
frame. -/
def ringTopoTime : Nat :=
  match e with
  | .recv p rx =>
      match mrp.delivered p rx with
      | some (.inTopo, buf) => (InTopoHdr.interval (tlvBody buf)).toNat * 1000
      | some (.ringTest, _) => if mrp.reactOnLinkChange ≠ 0 then 0 else exact .ringTopo
      | _ => 0
  | _ => exact .ringTopo

/-- The product that the topology change frames of an event stand for. -/
def meantTopo (side : TopoSide) : Nat :=
  match mrp.roundEvent side e with
  | .request _ =>
      match side with
      | .ring => mrp.ringTopoTime exact e * mrp.ringTopoConfMax.toNat
      | .inter => exact .inTopo * mrp.inTopoConfMax.toNat
  | .tick =>
      match side with
      | .ring => mrp.ringTopoCurrMax.toNat * exact .ringTopo
      | .inter => mrp.inTopoCurrMax.toNat * exact .inTopo
  | .cancel | .silent => 0

/-- The interval of the link change frames of a side. -/
def linkIntervalId : TopoSide → IntervalId
  | .ring => .ringLink
  | .inter => .inLink

/-- The product that the link change frames of an event stand for: the full count at a
link event, what is left of it at an expiry, nothing in the answer to a poll. -/
def meantLink (side : TopoSide) : Nat :=
  match e with
  | .recv .. => 0
  | .expired _ => ((mrp.linkLeft side).toNat - 1) * exact (linkIntervalId side)
  | _ => (mrp.announceConf side).max.toNat * exact (linkIntervalId side)

/-- The product that the frames of one type stand for which an event makes the instance
send. -/
def meant : TlvType → Nat
  | .ringTopo => mrp.meantTopo exact e .ring
  | .inTopo => mrp.meantTopo exact e .inter
  | .ringLinkDown | .ringLinkUp => mrp.meantLink exact e .ring
  | .inLinkDown | .inLinkUp => mrp.meantLink exact e .inter
  | _ => 0

end Meaning

/-- The intervals of the frames of one type that an event makes the instance send. -/
def newIntervals (mrp : Mrp) (e : Event) (type : TlvType) : List UInt32 :=
  (((mrp.step e).announced type).take
    (((mrp.step e).announced type).length - (mrp.announced type).length)).map Prod.snd

/-- From `a` to `b` every new frame of the type carries the interval `i`. -/
def Carries (type : TlvType) (i : UInt32) (a b : Mrp) : Prop :=
  ∃ ports : List Port, b.announced type = (ports.map fun p => (p, i)) ++ a.announced type

namespace Carries

variable {type : TlvType} {i : UInt32} {a b c : Mrp}

/-- Nothing is sent. -/
theorem of_eq (h : b.announced type = a.announced type) : Carries type i a b :=
  ⟨[], h⟩

/-- Nothing of the type is sent. -/
theorem of_sentOf (h : b.sentOf (fun t => t = type) = a.sentOf fun t => t = type) :
    Carries type i a b :=
  of_eq (by unfold announced; rw [h])

theorem trans (hab : Carries type i a b) (hbc : Carries type i b c) : Carries type i a c := by
  rcases hab with ⟨ports, hb⟩
  rcases hbc with ⟨ports', hc⟩
  exact ⟨ports' ++ ports, by rw [hc, hb, List.map_append, List.append_assoc]⟩

/-- A frame with the interval is sent. -/
theorem send (a : Mrp) (p : Port) {frame : Frame} (h : frame.interval = i) :
    Carries type i a (a.send p frame) := by
  refine ⟨if frame.type = type ∧ a.isOperUp p = true then [p] else [], ?_⟩
  rw [announced_send, h]
  split <;> rfl

/-- Only the log of sent frames matters. -/
theorem of_sent {b' : Mrp} (h : Carries type i a b) (hsent : b'.sent = b.sent) :
    Carries type i a b' := by
  unfold Carries announced sentOf at h ⊢
  rwa [hsent]

/-- Only the log of sent frames matters. -/
theorem of_sent_left {a' : Mrp} (h : Carries type i a b) (hsent : a'.sent = a.sent) :
    Carries type i a' b := by
  unfold Carries announced sentOf at h ⊢
  rwa [hsent]

theorem setMrcState_iff {state : MrcState} :
    Carries type i a (b.setMrcState state) ↔ Carries type i a b :=
  Iff.rfl

theorem setMicState_iff {state : MicState} :
    Carries type i a (b.setMicState state) ↔ Carries type i a b :=
  Iff.rfl

/-- The new frames carry the interval. -/
theorem eq_of_mem {mrp : Mrp} {e : Event} (h : Carries type i mrp (mrp.step e)) {j : UInt32}
    (hj : j ∈ mrp.newIntervals e type) : j = i := by
  rcases h with ⟨ports, hstep⟩
  unfold newIntervals at hj
  rw [hstep, List.length_append, Nat.add_sub_cancel, List.take_left', List.map_map] at hj
  · rcases List.mem_map.mp hj with ⟨p, -, rfl⟩
    rfl
  · rfl

end Carries

/-! ## Topology changes -/

/-- The settings of the instance are the exact ones modulo 2^32. -/
def Configures (mrp : Mrp) (exact : IntervalId → Nat) : Prop :=
  ∀ i, mrp.toMrpConf.interval i = UInt32.ofNat (exact i)

section Topology

variable {mrp : Mrp} {exact : IntervalId → Nat} (h : mrp.Configures exact)

include h

/-- A request of the ring is made for the time that it stands for. -/
theorem time_of_ringRequest {e : Event} {time : UInt32}
    (hreq : mrp.roundEvent .ring e = .request time) :
    time = UInt32.ofNat (mrp.ringTopoTime exact e) := by
  have hconf : mrp.ringTopoConfInterval = UInt32.ofNat (exact .ringTopo) := h .ringTopo
  have hlink : mrp.linkRound e .ring = .request time → time = UInt32.ofNat (exact .ringTopo) := by
    intro hround
    simp only [linkRound, ringLinkRound] at hround
    repeat' split at hround
    all_goals cases hround
    exact hconf
  cases e with
  | recv p rx =>
      simp only [roundEvent] at hreq
      simp only [ringTopoTime]
      cases hdel : mrp.delivered p rx with
      | none => simp [hdel] at hreq
      | some x =>
          rcases x with ⟨type, buf⟩
          simp only [hdel, frameRound] at hreq
          cases type with
          | ringTest =>
              dsimp only at hreq ⊢
              split_ifs at hreq ⊢ with hown hreact
              · cases hreq
                rfl
              · cases hreq
                exact hconf
          | inTopo =>
              dsimp only at hreq ⊢
              split_ifs at hreq
              cases hreq
              exact intervalUs_eq _
          | ringLinkDown | ringLinkUp =>
              dsimp only at hreq
              repeat' split at hreq
              all_goals cases hreq
              all_goals rfl
          | _ =>
              dsimp only at hreq
              repeat' split at hreq
              all_goals cases hreq
  | expired w =>
      simp only [roundEvent] at hreq
      simp only [ringTopoTime]
      split at hreq
      · cases w <;> simp only [timerRound] at hreq <;> (try split at hreq) <;> cases hreq
        exact hconf
      · cases hreq
  | linkChange p up => exact hlink hreq
  | operstate p state => exact hlink hreq
  | cfmLinkChange defect => exact hlink hreq
  | portMac p mac => exact hlink hreq
  | bridgeMac mac => exact hlink hreq

omit h in
/-- A request of the interconnection is made for the configured interval. -/
theorem time_of_inRequest {e : Event} {time : UInt32}
    (hreq : mrp.roundEvent .inter e = .request time) : time = mrp.inTopoConfInterval := by
  have hlink : mrp.linkRound e .inter = .request time → time = mrp.inTopoConfInterval := by
    intro hround
    simp only [linkRound, inLinkRound] at hround
    repeat' split at hround
    all_goals cases hround
    rfl
  cases e with
  | recv p rx =>
      simp only [roundEvent, frameRound] at hreq
      repeat' split at hreq
      all_goals cases hreq
      all_goals rfl
  | expired w =>
      simp only [roundEvent] at hreq
      split at hreq
      · cases w <;> simp only [timerRound] at hreq <;> (try split at hreq) <;> cases hreq
        rfl
      · cases hreq
  | linkChange p up => exact hlink hreq
  | operstate p state => exact hlink hreq
  | cfmLinkChange defect => exact hlink hreq
  | portMac p mac => exact hlink hreq
  | bridgeMac mac => exact hlink hreq

/-- The topology change frames of an event carry the product that they stand for. -/
theorem carries_topo (e : Event) (side : TopoSide) :
    Carries side.type (UInt32.ofNat (mrp.meantTopo exact e side)) mrp (mrp.step e) := by
  have hsent : (mrp.step e).announced side.type =
      ((mrp.round side).step (mrp.roundConf side) ((mrp.step e).topoPorts side)
        (mrp.roundEvent side e)).sent := by
    rw [← (mrp.step_takes side e).round, round_sent]
  have hold : (mrp.round side).sent = mrp.announced side.type := mrp.round_sent side
  generalize (mrp.step e).topoPorts side = ports at hsent
  cases hround : mrp.roundEvent side e with
  | request time =>
      refine ⟨ports.reverse, ?_⟩
      have hsum : (Round.request (mrp.roundConf side) ports (mrp.round side) time).sent =
          (ports.map fun p => (p, time * (mrp.roundConf side).max)).reverse ++
            mrp.announced side.type := by
        rw [← hold]
        unfold Round.request
        dsimp only
        split <;> rfl
      rw [hsent, hround, Round.step, hsum, ← List.map_reverse]
      cases side with
      | ring =>
          rw [time_of_ringRequest h hround]
          simp only [meantTopo, hround, MrpConf.roundConf]
          rw [UInt32.ofNat_mul, UInt32.ofNat_toNat]
      | inter =>
          have hconf : mrp.inTopoConfInterval = UInt32.ofNat (exact .inTopo) := h .inTopo
          rw [time_of_inRequest hround]
          simp only [meantTopo, hround, MrpConf.roundConf]
          rw [UInt32.ofNat_mul, UInt32.ofNat_toNat, hconf]
  | tick =>
      refine ⟨ports.reverse, ?_⟩
      have hsum : (Round.tick (mrp.roundConf side) ports (mrp.round side)).sent =
          (ports.map fun p => (p, (mrp.round side).left * (mrp.roundConf side).interval)).reverse ++
            mrp.announced side.type := by
        rw [← hold]
        unfold Round.tick
        split
        next => rfl
        next hzero =>
          have hleft : (mrp.round side).left = 0 := by simpa using hzero
          rw [hleft, UInt32.zero_mul]
          rfl
      rw [hsent, hround, Round.step, hsum, ← List.map_reverse]
      cases side with
      | ring =>
          have hconf : mrp.ringTopoConfInterval = UInt32.ofNat (exact .ringTopo) := h .ringTopo
          simp only [meantTopo, hround, MrpConf.roundConf, round]
          rw [UInt32.ofNat_mul, UInt32.ofNat_toNat, hconf]
      | inter =>
          have hconf : mrp.inTopoConfInterval = UInt32.ofNat (exact .inTopo) := h .inTopo
          simp only [meantTopo, hround, MrpConf.roundConf, round]
          rw [UInt32.ofNat_mul, UInt32.ofNat_toNat, hconf]
  | cancel =>
      rw [hround] at hsent
      exact .of_eq (hsent.trans hold)
  | silent =>
      rw [hround] at hsent
      exact .of_eq (hsent.trans hold)

end Topology

/-! ## Link changes -/

section Links

variable (mrp : Mrp) (type : TlvType)

/-- A request of the ring sends what it is told to. -/
theorem ringLinkReq_carries {m : Mrp} (hm : mrp.sent = m.sent) (r : RingPort) (up : Bool)
    (i : UInt32) : Carries type i mrp (m.ringLinkReq r up i) :=
  (Carries.send m _ rfl).of_sent_left hm

/-- A request of the interconnection sends what it is told to. -/
theorem inLinkReq_carries {m : Mrp} (hm : mrp.sent = m.sent) (up : Bool) (i : UInt32) :
    Carries type i mrp (m.inLinkReq up i) :=
  (((Carries.send m _ rfl).trans (.send _ _ rfl)).trans (.send _ _ rfl)).of_sent_left hm

/-- A client of the ring announces every link event with the full count. -/
theorem mrcPortLink_carries (r : RingPort) (up : Bool) :
    Carries type (mrp.ringLinkConfMax * mrp.ringLinkConfInterval) mrp (mrp.mrcPortLink r up) := by
  unfold mrcPortLink
  cases mrp.mrcState with
  | acStat1 =>
      dsimp only
      split_ifs <;> exact .of_eq rfl
  | deIdle =>
      dsimp only
      split_ifs
      · rw [Carries.setMrcState_iff]
        apply ringLinkReq_carries
        rfl
      · exact .of_eq rfl
      · exact .of_eq rfl
  | pt =>
      dsimp only
      split_ifs
      · rw [Carries.setMrcState_iff]
        apply ringLinkReq_carries
        rfl
      · rw [Carries.setMrcState_iff]
        apply ringLinkReq_carries
        rfl
      · exact .of_eq rfl
  | de =>
      dsimp only
      split_ifs
      · rw [Carries.setMrcState_iff]
        apply ringLinkReq_carries
        rfl
      · exact .of_eq rfl
      · exact .of_eq rfl
  | ptIdle =>
      dsimp only
      split_ifs
      · rw [Carries.setMrcState_iff]
        apply ringLinkReq_carries
        rfl
      · rw [Carries.setMrcState_iff]
        apply ringLinkReq_carries
        rfl
      · exact .of_eq rfl

/-- A client of the interconnection blocks the port before it announces its link. -/
theorem announceBlocked_carries (m : Mrp) (hm : mrp.sent = m.sent) (interval i : UInt32) :
    Carries type i mrp ((((m.portSetState .inter .blocked).inLinkDownStart interval).inLinkReq
      false i).setMicState .acStat1) := by
  have hblocked : mrp.sent = ((m.portSetState .inter .blocked).inLinkDownStart interval).sent :=
    hm.trans (m.portSetState_sent .inter .blocked).symm
  rw [Carries.setMicState_iff]
  exact inLinkReq_carries mrp type hblocked false i

/-- A client of the interconnection announces every link event with the full count. -/
theorem micPortLink_carries (up : Bool) :
    Carries type (mrp.inLinkConfMax * mrp.inLinkConfInterval) mrp (mrp.micPortLink up) := by
  unfold micPortLink
  cases up with
  | true =>
      cases mrp.inMode with
      | unknown mode => exact .of_eq rfl
      | rc | lc =>
          cases mrp.micState with
          | acStat1 =>
              rw [Carries.setMicState_iff]
              apply inLinkReq_carries
              rfl
          | pt | ipIdle => exact .of_eq rfl
  | false =>
      cases mrp.inMode with
      | unknown mode => exact .of_eq rfl
      | rc =>
          cases mrp.micState with
          | acStat1 => exact .of_eq rfl
          | pt =>
              exact announceBlocked_carries mrp type
                (mrp.setInLinkCurrMax mrp.inLinkConfMax).inLinkUpStop rfl _ _
          | ipIdle =>
              exact announceBlocked_carries mrp type
                (mrp.setInLinkCurrMax mrp.inLinkConfMax) rfl _ _
      | lc =>
          cases mrp.micState with
          | acStat1 => exact .of_eq rfl
          | pt | ipIdle =>
              exact announceBlocked_carries mrp type
                (mrp.setInLinkCurrMax mrp.inLinkConfMax).inLinkUpStop rfl _ _

/-- The answer to a poll announces no time. -/
theorem recvInLinkStatus_carries (buf : Buf) : Carries type 0 mrp (mrp.recvInLinkStatus buf) := by
  unfold recvInLinkStatus
  repeat' split
  · exact .of_eq rfl
  · exact .of_eq rfl
  · exact .of_eq rfl
  · exact inLinkReq_carries mrp type rfl _ _
  · exact inLinkReq_carries mrp type rfl _ _
  · exact inLinkReq_carries mrp type rfl _ _

end Links

/-- The full count of a side, as it is computed. -/
theorem fullCount_eq {mrp : Mrp} {exact : IntervalId → Nat} (h : mrp.Configures exact)
    (side : TopoSide) :
    UInt32.ofNat ((mrp.announceConf side).max.toNat * exact (linkIntervalId side)) =
      (mrp.announceConf side).max * (mrp.announceConf side).interval := by
  have hconf : (mrp.announceConf side).interval = UInt32.ofNat (exact (linkIntervalId side)) := by
    cases side with
    | ring => exact h .ringLink
    | inter => exact h .inLink
  rw [UInt32.ofNat_mul, UInt32.ofNat_toNat, hconf]

section LinkEvents

variable (mrp : Mrp) (side : TopoSide) (up : Bool)

/-- A link event that reaches the interconnection port. -/
theorem interLink_carries (operstate : UInt8) (up' : Bool) :
    Carries (side.linkType up) ((mrp.announceConf side).max * (mrp.announceConf side).interval) mrp
      (match (mrp.setInOperstate operstate).inRole with
        | .mim => ((mrp.setInOperstate operstate).noteInLink up').mimPortLink up'
        | .mic => ((mrp.setInOperstate operstate).noteInLink up').micPortLink up'
        | .disabled => mrp.setInOperstate operstate) := by
  cases side with
  | ring =>
      exact .of_sentOf (mrp.interLink_sentOf (TopoSide.ring_linkType_not_announced up) operstate up')
  | inter =>
      split
      · refine .of_sentOf (mimPortLink_sentOf _ ?_ ?_ ?_ up') <;> cases up <;> rfl
      · have hmic := micPortLink_carries ((mrp.setInOperstate operstate).noteInLink up')
          (TopoSide.inter.linkType up) up'
        exact hmic.of_sent_left rfl
      · exact .of_eq rfl

/-- A link event. -/
theorem portLinkChange_carries (p : Port) (up' : Bool) :
    Carries (side.linkType up) ((mrp.announceConf side).max * (mrp.announceConf side).interval) mrp
      (mrp.portLinkChange p up') := by
  cases p with
  | ring r =>
      cases side with
      | ring =>
          simp only [portLinkChange]
          cases (mrp.noteRingLink r up').ringRole with
          | mrm =>
              exact .of_sentOf (mrmPortLink_sentOf (mrp.noteRingLink r up')
                (by cases up <;> rfl) (by cases up <;> rfl) r up')
          | mrc => exact (mrcPortLink_carries (mrp.noteRingLink r up') _ r up').of_sent_left rfl
          | disabled => exact .of_eq rfl
          | mra => exact .of_eq rfl
      | inter =>
          exact .of_sentOf (mrp.portLinkChange_sentOf (TopoSide.inter_linkType_not_announced r up) up')
  | inter =>
      simp only [portLinkChange]
      split
      · exact .of_eq rfl
      · exact mrp.interLink_carries side up _ up'

/-- A handled frame. -/
theorem process_carries_link (buf : Buf) (type : TlvType) :
    Carries (side.linkType up) 0 mrp (mrp.process buf type) := by
  by_cases hstatus : type = .inLinkStatus ∧ side = .inter
  · rcases hstatus with ⟨rfl, rfl⟩
    exact mrp.recvInLinkStatus_carries _ buf
  · refine .of_sentOf (mrp.process_sentOf (TopoSide.linkType_not_answered fun hpoll => ?_) buf)
    cases side with
    | ring => rfl
    | inter => exact absurd ⟨hpoll, rfl⟩ hstatus

/-- A CFM notification. -/
theorem cfmLinkChange_carries (defect : Bool) :
    Carries (side.linkType up) ((mrp.announceConf side).max * (mrp.announceConf side).interval) mrp
      (mrp.cfmLinkChange defect) := by
  unfold cfmLinkChange
  split
  · exact .of_eq rfl
  · exact mrp.interLink_carries side up _ (!defect)

/-- A notification of the kernel. -/
theorem netlinkOperstate_carries (p : Port) (state : UInt8) :
    Carries (side.linkType up) ((mrp.announceConf side).max * (mrp.announceConf side).interval) mrp
      (mrp.netlinkOperstate p state) := by
  have hset : (mrp.setOperstate p (storedOperstate state)).sent = mrp.sent ∧
      (mrp.setOperstate p (storedOperstate state)).toMrpConf = mrp.toMrpConf := by
    cases p <;> exact ⟨rfl, rfl⟩
  have hlink := portLinkChange_carries (mrp.setOperstate p (storedOperstate state)) side up p
  rw [hset.2] at hlink
  unfold netlinkOperstate
  dsimp only
  repeat' split
  · exact .of_eq rfl
  · exact .of_eq rfl
  · exact (hlink _).of_sent_left hset.1.symm
  · exact (Carries.of_eq (a := mrp) rfl).of_sent hset.1

/-- A received frame. -/
theorem recv_carries_link (p : Port) (rx : RxFrame) :
    Carries (side.linkType up) 0 mrp (mrp.recv p rx) := by
  have hrelay : ∀ type, Carries (side.linkType up) 0 mrp (mrp.relay p rx.frameBuf type) := fun _ =>
    (Carries.of_eq (a := mrp) rfl).of_sent (mrp.relay_sent p _ _)
  rw [recv_eq]
  split
  · split
    · exact (hrelay _).trans (process_carries_link _ side up _ _)
    · exact hrelay _
  · exact .of_eq rfl

/-- An expired timer. -/
theorem expired_carries_link {exact : IntervalId → Nat} (h : mrp.Configures exact) (w : TimerId) :
    Carries (side.linkType up) (UInt32.ofNat (mrp.meantLink exact (.expired w) side)) mrp
      (mrp.step (.expired w)) := by
  by_cases hown : mrp.expires (side.linkTimer up) (.expired w) = true
  · have hsent := announced_of_expires hown
    by_cases hleft : mrp.linkLeft side > 0
    · rw [if_pos hleft, ← List.map_reverse] at hsent
      refine ⟨(mrp.linkPorts side).reverse, ?_⟩
      have hpred : UInt32.ofNat ((mrp.linkLeft side).toNat - 1) = mrp.linkLeft side - 1 := by
        have hpos : 0 < (mrp.linkLeft side).toNat := hleft
        rw [← UInt32.toNat_inj, UInt32.toNat_ofNat', UInt32.toNat_sub_of_le _ _ hpos]
        have hlt := (mrp.linkLeft side).toNat_lt
        have hone : (1 : UInt32).toNat = 1 := rfl
        omega
      have hinterval : (mrp.announceConf side).interval =
          UInt32.ofNat (exact (linkIntervalId side)) := by
        cases side with
        | ring => exact h .ringLink
        | inter => exact h .inLink
      rw [hsent, meantLink, UInt32.ofNat_mul, hpred, hinterval]
    · rw [if_neg hleft, List.nil_append] at hsent
      exact .of_eq hsent
  · simp only [expires, Bool.and_eq_true, decide_eq_true_eq, not_and] at hown
    simp only [step]
    split
    next hactive =>
      refine .of_sentOf (mrp.expired_sentOf (TopoSide.linkType_not_expired ?_))
      rintro rfl
      exact hown rfl hactive
    next => exact .of_eq rfl

/-- The link change frames of an event carry the product that they stand for. -/
theorem carries_link {exact : IntervalId → Nat} (h : mrp.Configures exact) (e : Event) :
    Carries (side.linkType up) (UInt32.ofNat (mrp.meantLink exact e side)) mrp (mrp.step e) := by
  have hfull := fullCount_eq h side
  cases e with
  | recv p rx => exact mrp.recv_carries_link side up p rx
  | expired w => exact mrp.expired_carries_link side up h w
  | linkChange p up' =>
      simp only [meantLink, hfull, step]
      split
      · exact mrp.portLinkChange_carries side up p up'
      · exact .of_eq rfl
  | operstate p state =>
      simp only [meantLink, hfull]
      exact mrp.netlinkOperstate_carries side up p state
  | cfmLinkChange defect =>
      simp only [meantLink, hfull]
      exact mrp.cfmLinkChange_carries side up defect
  | portMac p mac => cases p <;> exact .of_eq rfl
  | bridgeMac mac => exact .of_eq rfl

end LinkEvents

/-- The frames of an event carry the product that they stand for. -/
theorem carries {mrp : Mrp} {exact : IntervalId → Nat} (h : mrp.Configures exact) (e : Event)
    {type : TlvType} (ht : type.timed = true) :
    Carries type (UInt32.ofNat (mrp.meant exact e type)) mrp (mrp.step e) := by
  cases type with
  | ringTopo => exact carries_topo h e .ring
  | inTopo => exact carries_topo h e .inter
  | ringLinkDown => exact mrp.carries_link .ring false h e
  | ringLinkUp => exact mrp.carries_link .ring true h e
  | inLinkDown => exact mrp.carries_link .inter false h e
  | inLinkUp => exact mrp.carries_link .inter true h e
  | _ => cases ht

/-! ## Creation -/

/-- Only full counts have been announced. -/
def AnnouncesFull (mrp : Mrp) : Prop :=
  ∀ side up, ∀ x ∈ mrp.announced (side.linkType up),
    x.2 = (mrp.announceConf side).max * (mrp.announceConf side).interval

namespace AnnouncesFull

variable {a b : Mrp}

theorem of_carries (ha : a.AnnouncesFull) (hconf : b.toMrpConf = a.toMrpConf)
    (h : ∀ side up, Carries (side.linkType up)
      ((a.announceConf side).max * (a.announceConf side).interval) a b) : b.AnnouncesFull := by
  intro side up x hx
  rcases h side up with ⟨ports, hb⟩
  rw [hb] at hx
  rw [hconf]
  rcases List.mem_append.mp hx with hnew | hold
  · rcases List.mem_map.mp hnew with ⟨p, -, rfl⟩
    rfl
  · exact ha side up x hold

theorem of_sent (ha : a.AnnouncesFull) (hconf : b.toMrpConf.announceConf = a.toMrpConf.announceConf)
    (hsent : b.sent = a.sent) : b.AnnouncesFull := by
  unfold AnnouncesFull announced sentOf at ha ⊢
  rwa [hconf, hsent]

end AnnouncesFull

/-- Creating an instance announces full counts. -/
theorem announcesFull_keptByRoles : KeptByRoles AnnouncesFull where
  mraSupport := fun _ h => h.of_sent rfl rfl
  resetRingState := fun m h =>
    h.of_sent (congrArg MrpConf.announceConf m.resetRingState_toMrpConf) m.resetRingState_sent
  setMrmInit := fun _ h => h.of_sent rfl rfl
  setMrcInit := fun _ h => h.of_sent rfl rfl
  setMrmState := fun _ h => h.of_sent rfl rfl
  setMrcState := fun _ h => h.of_sent rfl rfl
  portSetState := by
    intro m p state h
    have hconf : (m.portSetState p state).toMrpConf = m.toMrpConf := by
      cases p with
      | ring r => rfl
      | inter => exact portSetState_inter_toMrpConf m state
    exact h.of_sent (congrArg MrpConf.announceConf hconf) (m.portSetState_sent p state)
  setRingRole := fun _ _ h => h.of_sent rfl rfl
  setInRole := fun _ _ h => h.of_sent rfl rfl
  portLinkChange := fun m p h =>
    h.of_carries (m.portLinkChange_op p true).toMrpConf fun side up =>
      m.portLinkChange_carries side up p true
  cfmLinkChange := fun m h =>
    h.of_carries (m.cfmLinkChange_op false).toMrpConf fun side up =>
      m.cfmLinkChange_carries side up false

end Mrp

namespace Created

variable {env : Env} {a : AddArgs} {mrp : Mrp} (h : Created env a mrp)

include h

/-- The settings of an instance stand for the intervals that it was asked for. -/
theorem configures : mrp.Configures (exactInterval env.timeFactor a.ringRecv a.inRecv) := by
  intro i
  rw [h.op.toMrpConf, ← interval_configure]
  cases i <;> rfl

/-- Creating an instance announces its links with full counts. -/
theorem announcesFull : mrp.AnnouncesFull := by
  refine Mrp.announcesFull_keptByRoles.created ?_ h
  have hnil : (Mrp.configure env a).sent = [] := (configure_configured env a).sent
  intro side up x hx
  simp [Mrp.announced, Mrp.sentOf, hnil] at hx

/-- Creating an instance announces no change of topology. -/
theorem no_topo (side : TopoSide) : mrp.announced side.type = [] := by
  rw [← Mrp.round_sent]
  exact (h.noRound.idle side).sent

end Created

/-! ## Runs -/

/-- The settings and the intervals of an instance, for every factor of the command line,
every recovery profile and every run.  A configured interval is missing exactly when the
product with the factor is a multiple of 2^32 microseconds.  While an instance is created it
announces no change of topology, and its link announcements are understood exactly when the
full count lasts less than 65536 milliseconds.  From then on a topology or link change
frame is understood exactly when the product that it stands for, of the counter and the
configured or received interval, is below 65536 milliseconds. -/
theorem intervals_truthful_iff {env : Env} {a : AddArgs} {mrp : Mrp} (h : Created env a mrp) :
    (∀ i, mrp.toMrpConf.interval i ≠ 0 ↔
      exactInterval env.timeFactor a.ringRecv a.inRecv i % 4294967296 ≠ 0) ∧
    (∀ side : TopoSide, mrp.announced side.type = []) ∧
    (∀ (side : TopoSide) (up : Bool), ∀ x ∈ mrp.announced (side.linkType up),
      (Decodes x.2 ((mrp.announceConf side).max.toNat *
          exactInterval env.timeFactor a.ringRecv a.inRecv (Mrp.linkIntervalId side)) ↔
        (mrp.announceConf side).max.toNat *
          exactInterval env.timeFactor a.ringRecv a.inRecv (Mrp.linkIntervalId side) < 65536000)) ∧
    ∀ (es : List Event) (e : Event) (type : TlvType), type.timed = true →
      ∀ i ∈ (run Mrp.step mrp es).newIntervals e type,
        (Decodes i ((run Mrp.step mrp es).meant
            (exactInterval env.timeFactor a.ringRecv a.inRecv) e type) ↔
          (run Mrp.step mrp es).meant
            (exactInterval env.timeFactor a.ringRecv a.inRecv) e type < 65536000) := by
  have hconf := h.configures
  refine ⟨?_, h.no_topo, ?_, ?_⟩
  · intro i
    rw [hconf i]
    exact ofNat_ne_zero_iff _
  · intro side up x hx
    rw [h.announcesFull side up x hx, ← Mrp.fullCount_eq hconf side]
    exact decodes_iff _
  · intro es e type ht i hi
    have hrun : (run Mrp.step mrp es).Configures
        (exactInterval env.timeFactor a.ringRecv a.inRecv) := by
      intro id
      rw [run_toMrpConf]
      exact hconf id
    rw [(Mrp.carries hrun e ht).eq_of_mem hi]
    exact decodes_iff _

/-- A short interval arrives. -/
theorem intervals_truthful_iff_sample :
    (Sample.mrp ringRoleMrc 0).toMrpConf.interval .ringLink ≠ 0 ∧
      ∀ x ∈ (Sample.mrp ringRoleMrc 0).announced .ringLinkUp, Decodes x.2 400000 := by
  have hcr : Created Sample.env (Sample.args ringRoleMrc 0) (Sample.mrp ringRoleMrc 0) :=
    Sample.created (by decide +kernel)
  have h := intervals_truthful_iff hcr
  constructor
  · exact (h.1 .ringLink).mpr (by decide)
  · intro x hx
    exact (h.2.2.1 .ring true x hx).mpr (by decide +kernel)

/-- A change of topology in the other ring, which is announced for half a minute. -/
def Sample.longTopo : Event :=
  .recv (.ring .primary) (frame (mac 9) 0xA000 (.inTopo 30000000))

/-- Three times half a minute does not fit into the field, and a factor of 2^31, which the
command line accepts, makes an interval vanish. -/
theorem intervals_overflow :
    Created Sample.env (Sample.args ringRoleMrm 0) (Sample.mrp ringRoleMrm 0) ∧
      (Sample.mrp ringRoleMrm 0).newIntervals Sample.longTopo .ringTopo = [90000000, 90000000] ∧
      (Sample.mrp ringRoleMrm 0).meant (exactInterval 1 0 0) Sample.longTopo .ringTopo = 90000000 ∧
      ¬ Decodes 90000000 90000000 ∧ intervalField 90000000 = 24464 ∧
      (firstInstance { Sample.env with timeFactor := 2147483648 }
        (Sample.args ringRoleMrm 0)).1.toMrpConf.interval .ringTopo = 0 := by
  refine ⟨Sample.created (by decide +kernel), ?_, ?_, ?_, ?_, ?_⟩
  · decide +kernel
  · decide +kernel
  · decide
  · decide
  · decide +kernel

end Umrp
