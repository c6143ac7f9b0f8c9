import Umrp.Ring.Ports
import Umrp.Wire

/-!
# Relaying frames

What a received frame adds to the relay log.  A manager that keeps the ring closed
must not let a frame through from one ring port to the other.  It stops every frame
of a known type; the others fall through the relay decision and go on.

Main results:

- Theorem `Mrp.recv_relayed`: the frames that a received frame adds to the log.
- Theorem `manager_relays_iff`: which frames a manager with a closed ring relays
  from one ring port to the other.
-/

namespace Umrp

open Octets EventMachine

namespace Mrp

/-! ## The relay log -/

/-- Whether frames can leave through a port. -/
def isOperUp (mrp : Mrp) (p : Port) : Bool :=
  match mrp.port? p with
  | some port => port.operstate = ifOperUp
  | none => false

/-- What relaying to one port adds to the log. -/
def relayVia (mrp : Mrp) (go : Bool) (p : Port) (fb : FrameBuf) : List Relay :=
  if go && mrp.isOperUp p then [⟨p, fb.pad.octets⟩] else []

/-- What relaying to the given targets adds to the log, newest entry first. -/
def relaysOf (mrp : Mrp) (t : Targets) (fb : FrameBuf) : List Relay :=
  mrp.relayVia t.i .inter fb ++ mrp.relayVia t.s (.ring mrp.sPort) fb ++
    mrp.relayVia t.p (.ring mrp.pPort) fb

/-- What a received frame adds to the log. -/
def relays (mrp : Mrp) (p : Port) (rx : RxFrame) : List Relay :=
  if mrp.admitted p rx then
    mrp.relaysOf (mrp.targets p rx.frameBuf.data (getTlvType rx.frameBuf.data)) rx.frameBuf
  else []

/-- Raising the size twice is raising it once. -/
@[simp]
theorem pad_pad (fb : FrameBuf) : fb.pad.pad = fb.pad := by
  unfold FrameBuf.pad
  split <;> simp_all

section Log

variable (mrp : Mrp)

/-- Relaying to one port. -/
theorem forwardIf_relayed (go : Bool) (p : Port) (fb : FrameBuf) :
    (forwardIf go p (mrp, fb)).1.relayed = mrp.relayVia go p fb ++ mrp.relayed := by
  unfold forwardIf forward relayVia isOperUp
  cases go with
  | false => simp
  | true =>
      cases mrp.port? p with
      | none => simp [call]
      | some port => by_cases h : port.operstate = ifOperUp <;> simp [h]

/-- The size after relaying to one port is that of a padded frame, or the old one. -/
theorem forwardIf_pad (go : Bool) (p : Port) (fb : FrameBuf) :
    (forwardIf go p (mrp, fb)).2.pad = fb.pad := by
  unfold forwardIf forward
  repeat' split
  all_goals simp

/-- Relaying to one port does not change what relaying to another adds. -/
theorem relayVia_forwardIf (go go' : Bool) (p q : Port) (fb : FrameBuf) :
    (forwardIf go p (mrp, fb)).1.relayVia go' q (forwardIf go p (mrp, fb)).2 =
      mrp.relayVia go' q fb := by
  rcases forwardIf_eq go p (mrp, fb) with ⟨relayed, calls, h⟩
  have hup : (forwardIf go p (mrp, fb)).1.isOperUp q = mrp.isOperUp q := by
    rw [h]
    rfl
  rw [relayVia, relayVia, hup, forwardIf_pad]

/-- What relaying adds to the log. -/
theorem relay_relayed (p : Port) (fb : FrameBuf) (type : TlvType) :
    (mrp.relay p fb type).relayed =
      mrp.relaysOf (mrp.targets p fb.data type) fb ++ mrp.relayed := by
  let t := mrp.targets p fb.data type
  let x := forwardIf t.p (.ring mrp.pPort) (mrp, fb)
  let y := forwardIf t.s (.ring mrp.sPort) x
  calc (mrp.relay p fb type).relayed
      = y.1.relayVia t.i .inter y.2 ++ y.1.relayed := forwardIf_relayed y.1 t.i .inter y.2
    _ = x.1.relayVia t.i .inter x.2 ++
          (x.1.relayVia t.s (.ring mrp.sPort) x.2 ++ x.1.relayed) := by
        rw [relayVia_forwardIf x.1, forwardIf_relayed x.1]
    _ = mrp.relayVia t.i .inter fb ++ (mrp.relayVia t.s (.ring mrp.sPort) fb ++
          (mrp.relayVia t.p (.ring mrp.pPort) fb ++ mrp.relayed)) := by
        rw [relayVia_forwardIf, relayVia_forwardIf, forwardIf_relayed]
    _ = mrp.relaysOf t fb ++ mrp.relayed := by
        rw [relaysOf, List.append_assoc, List.append_assoc]

/-- What a received frame adds to the log. -/
theorem recv_relayed (p : Port) (rx : RxFrame) :
    (mrp.recv p rx).relayed = mrp.relays p rx ++ mrp.relayed := by
  have h := (mrp.step_op (.recv p rx)).relayed
  simp only [step, beforeHandler] at h
  rw [h, relays]
  split
  · exact mrp.relay_relayed _ _ _
  · rfl

end Log

/-- Receiving the frame transmits it on port `q`. -/
def Transmits (mrp : Mrp) (p : Port) (rx : RxFrame) (q : Port) : Prop :=
  ∃ news bytes, (mrp.recv p rx).relayed = news ++ mrp.relayed ∧ ⟨q, bytes⟩ ∈ news

theorem transmits_iff {mrp : Mrp} {p : Port} {rx : RxFrame} {q : Port} :
    mrp.Transmits p rx q ↔ ∃ bytes, ⟨q, bytes⟩ ∈ mrp.relays p rx := by
  simp only [Transmits, mrp.recv_relayed, List.append_left_inj]
  constructor
  · rintro ⟨_, bytes, rfl, h⟩
    exact ⟨bytes, h⟩
  · rintro ⟨bytes, h⟩
    exact ⟨_, bytes, rfl, h⟩

theorem mem_relayVia {mrp : Mrp} {go : Bool} {p : Port} {fb : FrameBuf} {x : Relay} :
    x ∈ mrp.relayVia go p fb ↔
      go = true ∧ mrp.isOperUp p = true ∧ x = ⟨p, fb.pad.octets⟩ := by
  unfold relayVia
  split <;> simp_all

/-- A frame goes out on a ring port if it passes the drop filter, the port is among
the targets under one of its names, and the port is up. -/
theorem transmits_ring_iff {mrp : Mrp} {p : Port} {rx : RxFrame} {q : RingPort} :
    mrp.Transmits p rx (.ring q) ↔
      mrp.admitted p rx = true ∧ mrp.isOperUp (.ring q) = true ∧
        (q = mrp.pPort ∧
            (mrp.targets p rx.frameBuf.data (getTlvType rx.frameBuf.data)).p = true ∨
          q = mrp.sPort ∧
            (mrp.targets p rx.frameBuf.data (getTlvType rx.frameBuf.data)).s = true) := by
  rw [transmits_iff, relays]
  split
  next hadm =>
    simp only [relaysOf, List.mem_append, mem_relayVia, Relay.mk.injEq, Port.ring.injEq,
      reduceCtorEq, false_and, and_false, false_or, hadm, true_and]
    constructor
    · rintro ⟨_, ⟨hs, hup, rfl, -⟩ | ⟨hp, hup, rfl, -⟩⟩
      · exact ⟨hup, .inr ⟨rfl, hs⟩⟩
      · exact ⟨hup, .inl ⟨rfl, hp⟩⟩
    · rintro ⟨hup, ⟨rfl, hp⟩ | ⟨rfl, hs⟩⟩
      · exact ⟨_, .inr ⟨hp, hup, rfl, rfl⟩⟩
      · exact ⟨_, .inl ⟨hs, hup, rfl, rfl⟩⟩
  next hadm => simp [hadm]

/-- The way out that the receiving port leaves open is the other ring port. -/
theorem ingressTargets_ring {mrp : Mrp} (hd : mrp.pPort ≠ mrp.sPort) (r : RingPort) :
    r = mrp.pPort ∧ r.other = mrp.sPort ∧
        mrp.ingressTargets (.ring r) = ⟨false, true, mrp.iPort.isSome⟩ ∨
      r = mrp.sPort ∧ r.other = mrp.pPort ∧
        mrp.ingressTargets (.ring r) = ⟨true, false, mrp.iPort.isSome⟩ := by
  unfold ingressTargets
  cases r <;> cases hp : mrp.pPort <;> cases hs : mrp.sPort <;>
    simp_all [RingPort.other]

/-! ## Frames that a manager stops -/

section Manager

variable {mrp : Mrp}

/-- A frame that is neither a ring nor an interconnection frame passes a ring port
exactly when the port is neither disabled nor blocked. -/
theorem shouldDrop_other {r : RingPort} {state : PortState} {type : TlvType}
    (hring : type.isRingFrame = false) (hin : type.isInFrame = false) :
    shouldDrop (.ring r) state type = false ↔ state ≠ .disabled ∧ state ≠ .blocked := by
  simp only [TlvType.isRingFrame, TlvType.isInFrame, Bool.or_eq_false_iff,
    decide_eq_false_iff_not] at hring hin
  cases state <;> simp [shouldDrop, Port.isRingPort, Port.isInPort, hring, hin]

/-- A frame of a known type never goes from one ring port to another through a
manager with a port that does not forward. -/
theorem targets_manager (hrole : mrp.ringRole = .mrm)
    (hblocked : mrp.pState ≠ .forwarding ∨ mrp.sState ≠ .forwarding) (r : RingPort) (data : Buf)
    {type : TlvType} (htype : type.isRingFrame = true ∨ type.isInFrame = true) :
    (mrp.targets (.ring r) data type).p = false ∧ (mrp.targets (.ring r) data type).s = false := by
  unfold targets
  split
  · simp [ringTargets, hrole, Targets.none]
  next hring =>
    have hin : type.isInFrame = true := by simpa [hring] using htype
    have hby : mrp.inTargetsByRing (.ring r) (tlvBody data) =
        (mrp.ingressTargets (.ring r)).noRing := by
      simp [inTargetsByRing, hrole, hblocked, Port.isRingPort]
    rw [if_pos hin]
    simp only [inTargets, hby, Port.isInPort, Port.isRingPort]
    repeat' split
    all_goals simp [Targets.none, Targets.noRing, Targets.noInter]

/-- A frame of no known type goes from one ring port to the other. -/
theorem goes_other (hd : mrp.pPort ≠ mrp.sPort) {r : RingPort} (rx : RxFrame)
    (hring : (getTlvType rx.frameBuf.data).isRingFrame = false)
    (hin : (getTlvType rx.frameBuf.data).isInFrame = false) :
    r.other = mrp.pPort ∧
        (mrp.targets (.ring r) rx.frameBuf.data (getTlvType rx.frameBuf.data)).p = true ∨
      r.other = mrp.sPort ∧
        (mrp.targets (.ring r) rx.frameBuf.data (getTlvType rx.frameBuf.data)).s = true := by
  simp only [targets, hring, hin, Bool.false_eq_true, if_false]
  rcases ingressTargets_ring hd r with ⟨-, hother, ht⟩ | ⟨-, hother, ht⟩
  · exact .inr ⟨hother, by rw [ht]⟩
  · exact .inl ⟨hother, by rw [ht]⟩

end Manager

end Mrp

/-- The two ring ports of an instance are distinct from its creation on, whatever
its arguments were. -/
theorem Created.distinct {env : Env} {a : AddArgs} {mrp : Mrp} (h : Created env a mrp) :
    mrp.ring.pPort ≠ mrp.ring.sPort := by
  by_cases hrole : IsRingRole a.ringRole
  · exact h.ring_of_fresh (I := fun x => x.pPort ≠ x.sPort) hrole Ring.fresh_distinct
      fun x r hx => (Ring.step_kept hx _).distinct
  · rcases h.exists_registry with ⟨reg, x, rfl, rfl, -⟩
    simp only [IsRingRole, not_or] at hrole
    have hnone : (Mrp.configure env a).setRingRoleByNumber env a.ringRole =
        (Mrp.configure env a, 0) := by
      simp [Mrp.setRingRoleByNumber, hrole]
    rw [Mrp.ring_congr (reg.setInRoleByNumber_op env _ a.inRole).toRingPart, hnone,
      (configure_configured env a).ring]
    exact @Ring.fresh_distinct a.pport a.sport .mrc 0

/-- The two ring ports of an instance are distinct in every reachable state. -/
theorem Reachable.distinct {env : Env} {a : AddArgs} {mrp : Mrp} (h : Reachable env a mrp) :
    mrp.pPort ≠ mrp.sPort := by
  rcases h with ⟨m, es, hm, rfl⟩
  exact ring_run_invariant (I := fun x => x.pPort ≠ x.sPort)
    (fun x ev hx _ => (Ring.step_kept hx ev).distinct) hm.distinct es

/-- A manager with a ring port that does not forward keeps a frame from going from
one ring port to the other exactly when the frame is of a known type, or arrives on
a port that is closed to it, or the other port is not up. -/
theorem manager_relays_iff {env : Env} {a : AddArgs} {mrp : Mrp} (h : Reachable env a mrp)
    (hrole : mrp.ringRole = .mrm)
    (hblocked : mrp.pState ≠ .forwarding ∨ mrp.sState ≠ .forwarding) (r : RingPort)
    (rx : RxFrame) :
    ¬ mrp.Transmits (.ring r) rx (.ring r.other) ↔
      (getTlvType rx.frameBuf.data).isRingFrame = true ∨
        (getTlvType rx.frameBuf.data).isInFrame = true ∨
        (mrp.ringPort r).state = .disabled ∨ (mrp.ringPort r).state = .blocked ∨
        (mrp.ringPort r.other).operstate ≠ ifOperUp := by
  rw [Mrp.transmits_ring_iff]
  by_cases htype : (getTlvType rx.frameBuf.data).isRingFrame = true ∨
      (getTlvType rx.frameBuf.data).isInFrame = true
  · rcases Mrp.targets_manager hrole hblocked r rx.frameBuf.data htype with ⟨hp, hs⟩
    refine iff_of_true (by simp [hp, hs]) ?_
    rw [← or_assoc]
    exact .inl htype
  · simp only [not_or, Bool.not_eq_true] at htype
    have hgoes := Mrp.goes_other h.distinct (r := r) rx htype.1 htype.2
    have hadm : mrp.admitted (.ring r) rx = true ↔
        (mrp.ringPort r).state ≠ .disabled ∧ (mrp.ringPort r).state ≠ .blocked := by
      rw [← Mrp.shouldDrop_other (r := r) htype.1 htype.2]
      simp [Mrp.admitted, Mrp.port?]
    have hup : mrp.isOperUp (.ring r.other) = true ↔
        (mrp.ringPort r.other).operstate = ifOperUp := by
      simp [Mrp.isOperUp, Mrp.port?]
    rw [hadm, hup, and_iff_left hgoes, htype.1, htype.2]
    rw [not_and_or, not_and_or, not_ne_iff, not_ne_iff, or_assoc]
    simp only [Bool.false_eq_true, false_or]

/-- A frame of the unassigned type 0x55. -/
def Sample.unassigned : RxFrame where
  bytes := List.replicate 60 0x55
  stale := fun _ => 0
  nstale := fun _ => 0

/-- A test frame stays where it is. -/
theorem manager_relays_iff_sample :
    ¬ (Sample.mrp ringRoleMrm 0).Transmits (.ring .primary)
      (Sample.frame (Sample.mac 9) 0x8000 (.ringTest true 0 0)) (.ring .secondary) :=
  (manager_relays_iff (Sample.reachable (by decide +kernel)) (by decide +kernel)
    (by decide +kernel) .primary _).mpr (.inl (by decide +kernel))

/-- A manager that keeps its ring closed relays a frame of an unassigned type. -/
theorem manager_relays_unassigned :
    ∃ mrp, Reachable Sample.env (Sample.args ringRoleMrm 0) mrp ∧ mrp.ringRole = .mrm ∧
      mrp.sState = .blocked ∧
      mrp.Transmits (.ring .primary) Sample.unassigned (.ring .secondary) :=
  ⟨Sample.mrp ringRoleMrm 0, Sample.reachable (by decide +kernel), by decide +kernel,
    by decide +kernel, Mrp.transmits_ring_iff.mpr (by decide +kernel)⟩

end Umrp
