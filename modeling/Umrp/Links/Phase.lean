import Umrp.Inter.Ports
import Umrp.Lib.Countdown
import Umrp.Links.Operstates
import Umrp.Topology.Handlers

/-!
# Announcing a link change

A client that notices a link change announces it: at once, and then with every expiry of a
timer until a counter is used up.  There are four such timers, two for each side of an
instance, and the two of a side share the counter.

Main results:

- Theorem `Mrp.ring_step_of_calm` and `Mrp.inter_step_of_calm`: what is left of the events of a
  client while no link event and no topology change comes in.
- Theorem `Mrp.announced_of_calm` and `Mrp.announced_of_expires`: what is announced meanwhile.
-/

namespace Umrp

open EventMachine

/-- The timer that announces a link change. -/
def TopoSide.linkTimer : TopoSide → Bool → TimerId
  | .ring, true => .ringLinkUp
  | .ring, false => .ringLinkDown
  | .inter, true => .inLinkUp
  | .inter, false => .inLinkDown

/-- The type of the frames that announce a link change. -/
def TopoSide.linkType : TopoSide → Bool → TlvType
  | .ring, true => .ringLinkUp
  | .ring, false => .ringLinkDown
  | .inter, true => .inLinkUp
  | .inter, false => .inLinkDown

/-- The ports whose links decide where the announcements of a side go. -/
def TopoSide.uses : TopoSide → Port → Bool
  | .ring => Port.isRingPort
  | .inter => fun _ => true

/-! ## Who announces a link change -/

/-- No frame is answered by one, except for the poll of an interconnection. -/
theorem TopoSide.linkType_not_answered {side : TopoSide} {up : Bool} {type : TlvType}
    (h : type = .inLinkStatus → side = .ring) :
    ∀ t ∈ type.answers, decide (t = side.linkType up) = false := by
  cases type with
  | inLinkStatus =>
      obtain rfl := h rfl
      cases up <;> decide
  | ringTopo | tlvEnd | common | unknown => simp [TlvType.answers]
  | ringTest | ringLinkDown | ringLinkUp | option | inTest | inTopo | inLinkDown | inLinkUp =>
      cases side <;> cases up <;> decide

/-- A link event of the interconnection port announces nothing on the ring. -/
theorem TopoSide.ring_linkType_not_announced (up : Bool) :
    ∀ t ∈ Port.inter.announces, decide (t = TopoSide.ring.linkType up) = false := by
  cases up <;> decide

/-- A link event of a ring port announces nothing on the interconnection. -/
theorem TopoSide.inter_linkType_not_announced (r : RingPort) (up : Bool) :
    ∀ t ∈ (Port.ring r).announces, decide (t = TopoSide.inter.linkType up) = false := by
  cases r <;> cases up <;> decide

/-- A timer announces link changes only if it is the one for them. -/
theorem TopoSide.linkType_not_expired {side : TopoSide} {up : Bool} {w : TimerId}
    (h : side.linkTimer up ≠ w) : ∀ t ∈ w.announces, decide (t = side.linkType up) = false := by
  revert h
  cases side <;> cases up <;> cases w <;> decide

/-- The ring does without the interconnection port only. -/
theorem TopoSide.eq_of_uses_eq_false {side : TopoSide} {p : Port} (h : side.uses p = false) :
    side = .ring ∧ p = .inter := by
  cases side with
  | ring =>
      cases p with
      | ring r => cases h
      | inter => exact ⟨rfl, rfl⟩
  | inter => cases h

/-- The settings of the announcements of a side. -/
def MrpConf.announceConf (c : MrpConf) : TopoSide → RoundConf
  | .ring => ⟨c.ringLinkConfInterval, c.ringLinkConfMax⟩
  | .inter => ⟨c.inLinkConfInterval, c.inLinkConfMax⟩

/-- The tick of a link timer in the ring machine. -/
def Ring.Event.ofTick : Bool → Ring.Event
  | true => .linkUpTick
  | false => .linkDownTick

/-- The tick of a link timer in the interconnection machine. -/
def Inter.Event.ofTick : Bool → Inter.Event
  | true => .linkUpTick
  | false => .linkDownTick

/-- Only a link event exchanges primary and secondary port. -/
theorem Ring.step_pPort {c : LinkConf} {x : Ring} {ev : Event} (h : ∀ r up, ev ≠ .link r up) :
    (x.step c ev).pPort = x.pPort ∧ (x.step c ev).sPort = x.sPort := by
  cases ev with
  | link r up => exact absurd rfl (h r up)
  | closed =>
      simp only [step, close]
      split <;> exact ⟨rfl, rfl⟩
  | opened =>
      simp only [step, opening]
      split <;> exact ⟨rfl, rfl⟩
  | topologyChange =>
      simp only [step, topology]
      split <;> exact ⟨rfl, rfl⟩
  | nacked =>
      simp only [step, giveUp]
      split <;> exact ⟨rfl, rfl⟩
  | managerLost =>
      simp only [step, takeOver]
      split <;> exact ⟨rfl, rfl⟩
  | linkUpTick =>
      simp only [step, upTick]
      split <;> exact ⟨rfl, rfl⟩
  | linkDownTick =>
      simp only [step, downTick]
      split <;> exact ⟨rfl, rfl⟩
  | silent => exact ⟨rfl, rfl⟩

namespace Mrp

/-- The counter of a side. -/
def linkLeft (mrp : Mrp) : TopoSide → UInt32
  | .ring => mrp.ringLinkCurrMax
  | .inter => mrp.inLinkCurrMax

/-- The ports that the announcements of a side leave through: the primary port or all
three, as far as their links are up. -/
def linkPorts (mrp : Mrp) : TopoSide → List Port
  | .ring => [.ring mrp.pPort].filter mrp.isOperUp
  | .inter => [.ring mrp.pPort, .ring mrp.sPort, .inter].filter mrp.isOperUp

/-- The countdown of an announcement. -/
def linkClock (mrp : Mrp) (side : TopoSide) (up : Bool) : Countdown.Clock :=
  ⟨(mrp.timer (side.linkTimer up)).active, (mrp.linkLeft side).toNat⟩

/-- The event is a link event or a handled frame that announces a change of topology. -/
def disturbs (mrp : Mrp) (side : TopoSide) (e : Event) : Bool :=
  mrp.isLinkEvent side.uses e || mrp.handlesFrame (fun type _ => type = side.type) e

section Calm

variable {mrp : Mrp} {side : TopoSide} {e : Event}

theorem isLinkEvent_of_calm (h : mrp.disturbs side e = false) :
    mrp.isLinkEvent side.uses e = false :=
  (Bool.or_eq_false_iff.mp h).1

/-- A report about a ring port is a link event for both sides. -/
theorem ringLink_of_calm (h : mrp.disturbs side e = false) (r : RingPort) (up : Bool) :
    mrp.ringEvent e ≠ .link r up := by
  intro hev
  have hlink := isLinkEvent_of_calm h
  have hr : side.uses (.ring r) = true := by cases side <;> rfl
  rcases ringEvent_eq_link hev with rfl | ⟨state, rfl, hsame, -⟩
  · simp [isLinkEvent, hr] at hlink
  · simp [isLinkEvent, hr, operstate?, port?, hsame] at hlink

/-- The announcements keep leaving through the same ports. -/
theorem linkPorts_of_calm (h : mrp.disturbs side e = false) :
    (mrp.step e).linkPorts side = mrp.linkPorts side ∧ (mrp.step e).pPort = mrp.pPort := by
  have hring := mrp.step_ring e
  rcases Ring.step_pPort (c := mrp.linkConf) (x := mrp.ring) (ringLink_of_calm h) with ⟨hp, hs⟩
  rw [← hring] at hp hs
  have hp' : (mrp.step e).pPort = mrp.pPort := hp
  have hs' : (mrp.step e).sPort = mrp.sPort := hs
  have hup : ∀ q, side.uses q = true → (mrp.step e).isOperUp q = mrp.isOperUp q :=
    fun q => mrp.step_isOperUp (isLinkEvent_of_calm h)
  refine ⟨?_, hp'⟩
  cases side with
  | ring => simp only [linkPorts, List.filter_cons, List.filter_nil, hp', hup (.ring mrp.pPort) rfl]
  | inter =>
      simp only [linkPorts, List.filter_cons, List.filter_nil, hp', hs', hup (.ring mrp.pPort) rfl,
        hup (.ring mrp.sPort) rfl, hup .inter rfl]

/-! ## What is left of the two machines -/

/-- Ticks of the ring machine are expiries. -/
theorem ringEvent_eq_tick {up : Bool} :
    mrp.ringEvent e = Ring.Event.ofTick up ↔ mrp.expires (TopoSide.ring.linkTimer up) e = true := by
  constructor
  · intro h
    cases e with
    | recv p rx =>
        simp only [ringEvent, Ring.Event.ofTick] at h
        split at h
        next type buf hdel =>
          cases type <;> cases up <;> simp only [frameEvent] at h <;> repeat' split at h
          all_goals cases h
        · cases up <;> cases h
    | operstate p state =>
        cases p with
        | inter => cases up <;> cases h
        | ring r =>
            simp only [ringEvent, Ring.Event.ofTick] at h
            repeat' split at h
            all_goals cases h
    | expired w =>
        simp only [ringEvent, Ring.Event.ofTick] at h
        split at h
        next hactive =>
          cases w with
          | ringLinkUp =>
              cases up with
              | true => simpa [expires, TopoSide.linkTimer] using hactive
              | false => cases h
          | ringLinkDown =>
              cases up with
              | true => cases h
              | false => simpa [expires, TopoSide.linkTimer] using hactive
          | _ =>
              cases up <;> simp only [timerEvent] at h <;> repeat' split at h
              all_goals cases h
        · cases up <;> cases h
    | linkChange p up' => cases p <;> cases up <;> cases h
    | _ => cases up <;> cases h
  · intro h
    cases e with
    | expired w =>
        simp only [expires, Bool.and_eq_true, decide_eq_true_eq] at h
        rcases h with ⟨rfl, hactive⟩
        cases up <;> simp_all [ringEvent, Ring.Event.ofTick, TopoSide.linkTimer, timerEvent]
    | _ => cases h

/-- Ticks of the interconnection machine are expiries. -/
theorem interEvent_eq_tick {up : Bool} :
    mrp.interEvent e = Inter.Event.ofTick up ↔ mrp.expires (TopoSide.inter.linkTimer up) e = true := by
  constructor
  · intro h
    cases e with
    | recv p rx =>
        simp only [interEvent, Inter.Event.ofTick] at h
        split at h
        next type buf hdel =>
          cases type <;> cases up <;> simp only [inFrameEvent] at h <;> repeat' split at h
          all_goals cases h
        · cases up <;> cases h
    | operstate p state =>
        cases p with
        | ring r => cases up <;> cases h
        | inter =>
            simp only [interEvent, Inter.Event.ofTick, inLinkEvent] at h
            repeat' split at h
            all_goals cases h
    | linkChange p up' =>
        cases p with
        | ring r => cases up <;> cases h
        | inter =>
            simp only [interEvent, Inter.Event.ofTick, inLinkEvent] at h
            repeat' split at h
            all_goals cases h
    | cfmLinkChange defect =>
        simp only [interEvent, Inter.Event.ofTick] at h
        repeat' split at h
        all_goals cases h
    | expired w =>
        simp only [interEvent, Inter.Event.ofTick] at h
        split at h
        next hactive =>
          cases w with
          | inLinkUp =>
              cases up with
              | true => simpa [expires, TopoSide.linkTimer] using hactive
              | false => cases h
          | inLinkDown =>
              cases up with
              | true => cases h
              | false => simpa [expires, TopoSide.linkTimer] using hactive
          | _ =>
              cases up <;> simp only [inTimerEvent] at h <;> repeat' split at h
              all_goals cases h
        · cases up <;> cases h
    | _ => cases up <;> cases h
  · intro h
    cases e with
    | expired w =>
        simp only [expires, Bool.and_eq_true, decide_eq_true_eq] at h
        rcases h with ⟨rfl, hactive⟩
        cases up <;> simp_all [interEvent, Inter.Event.ofTick, TopoSide.linkTimer, inTimerEvent]
    | _ => cases h

/-- Topology changes of the ring machine are handled frames. -/
theorem handlesFrame_of_ringTopology (h : mrp.ringEvent e = .topologyChange) :
    mrp.handlesFrame (fun type _ => type = .ringTopo) e = true := by
  cases e with
  | recv p rx =>
      simp only [ringEvent] at h
      split at h
      next type buf hdel =>
        simp only [handlesFrame, hdel]
        cases type with
        | ringTopo => rfl
        | _ =>
            simp only [frameEvent] at h
            repeat' split at h
            all_goals cases h
      · cases h
  | linkChange p up => cases p <;> cases h
  | operstate p state =>
      cases p <;> simp only [ringEvent] at h <;> repeat' split at h
      all_goals cases h
  | expired w =>
      cases w <;> simp only [ringEvent, timerEvent] at h <;> repeat' split at h
      all_goals cases h
  | _ => cases h

/-- Topology changes of the interconnection machine are handled frames. -/
theorem handlesFrame_of_inTopology {own : Bool} (h : mrp.interEvent e = .topologyChange own) :
    mrp.handlesFrame (fun type _ => type = .inTopo) e = true := by
  cases e with
  | recv p rx =>
      simp only [interEvent] at h
      split at h
      next type buf hdel =>
        simp only [handlesFrame, hdel]
        cases type with
        | inTopo => rfl
        | _ =>
            simp only [inFrameEvent] at h
            repeat' split at h
            all_goals cases h
      · cases h
  | linkChange p up =>
      cases p <;> simp only [interEvent, inLinkEvent] at h <;> repeat' split at h
      all_goals cases h
  | operstate p state =>
      cases p <;> simp only [interEvent, inLinkEvent] at h <;> repeat' split at h
      all_goals cases h
  | cfmLinkChange defect =>
      simp only [interEvent] at h
      split at h <;> cases h
  | expired w =>
      cases w <;> simp only [interEvent, inTimerEvent] at h <;> repeat' split at h
      all_goals cases h
  | _ => cases h

/-- Link events of the interconnection machine are reports about its port. -/
theorem interLink_of_calm (h : mrp.disturbs .inter e = false) (up : Bool) :
    mrp.interEvent e ≠ .link up := by
  intro hev
  have hlink := isLinkEvent_of_calm h
  cases e with
  | recv p rx =>
      simp only [interEvent] at hev
      split at hev
      next type buf hdel =>
        cases type <;> simp only [inFrameEvent] at hev <;> repeat' split at hev
        all_goals cases hev
      · cases hev
  | linkChange p up' => cases hlink
  | operstate p state =>
      cases p with
      | ring r => cases hev
      | inter =>
          simp only [interEvent] at hev
          split at hev
          · cases hev
          next port hport =>
            split at hev
            · cases hev
            next hsame => simp [isLinkEvent, TopoSide.uses, operstate?, port?, hport, hsame] at hlink
  | cfmLinkChange defect => cases hlink
  | expired w =>
      cases w <;> simp only [interEvent, inTimerEvent] at hev <;> repeat' split at hev
      all_goals cases hev
  | _ => cases hev

/-- While nothing disturbs a client of the ring, only the two timers move its machine. -/
theorem ring_step_of_calm (hinv : Ring.ClientInv mrp.linkConf mrp.ring)
    (hmra : mrp.mraSupport = false) (h : mrp.disturbs .ring e = false) :
    mrp.ringEvent e = .silent ∨ ∃ up, mrp.ringEvent e = Ring.Event.ofTick up := by
  have hen := mrp.ringEvent_enabled e
  have hrole : mrp.ringRole = .mrc := hinv.role
  rw [hmra] at hen
  cases hev : mrp.ringEvent e with
  | link r up => exact absurd hev (ringLink_of_calm h r up)
  | closed => simp [hev, Ring.Enabled, hrole] at hen
  | opened => simp [hev, Ring.Enabled, hrole] at hen
  | topologyChange =>
      have hframe := (Bool.or_eq_false_iff.mp h).2
      rw [TopoSide.type, handlesFrame_of_ringTopology hev] at hframe
      cases hframe
  | nacked => simp [hev, Ring.Enabled, hrole] at hen
  | managerLost => simp [hev, Ring.Enabled] at hen
  | linkUpTick => exact .inr ⟨true, rfl⟩
  | linkDownTick => exact .inr ⟨false, rfl⟩
  | silent => exact .inl rfl

/-- While nothing disturbs a client of the interconnection, only the two timers move its
machine. -/
theorem inter_step_of_calm (hinv : Inter.ClientInv mrp.interConf mrp.inter)
    (h : mrp.disturbs .inter e = false) :
    mrp.interEvent e = .silent ∨ ∃ up, mrp.interEvent e = Inter.Event.ofTick up := by
  have hen := mrp.interEvent_enabled e
  have hrole : mrp.inRole = .mic := hinv.role
  have hmim : mrp.mimState = .acStat1 := hinv.mim
  cases hev : mrp.interEvent e with
  | link up => exact absurd hev (interLink_of_calm h up)
  | closed => simp [hev, Inter.Enabled, hrole] at hen
  | opened => simp [hev, Inter.Enabled, hmim] at hen
  | topologyChange own =>
      have hframe := (Bool.or_eq_false_iff.mp h).2
      rw [TopoSide.type, handlesFrame_of_inTopology hev] at hframe
      cases hframe
  | linkUpTick => exact .inr ⟨true, rfl⟩
  | linkDownTick => exact .inr ⟨false, rfl⟩
  | silent => exact .inl rfl

/-! ## What is announced meanwhile -/

/-- What a request on the ring announces. -/
theorem announced_ringLinkReq (mrp : Mrp) (up : Bool) (time : UInt32) :
    (mrp.ringLinkReq mrp.pPort up time).announced (TopoSide.ring.linkType up) =
      ((mrp.linkPorts .ring).map fun p => (p, time)).reverse ++
        mrp.announced (TopoSide.ring.linkType up) := by
  have hsent := mrp.announced_sendAll [.ring mrp.pPort] (.ringLink up time)
    (TopoSide.ring.linkType up)
  rwa [if_pos (by cases up <;> rfl)] at hsent

/-- What a request on the interconnection announces. -/
theorem announced_inLinkReq (mrp : Mrp) (up : Bool) (time : UInt32) :
    (mrp.inLinkReq up time).announced (TopoSide.inter.linkType up) =
      ((mrp.linkPorts .inter).map fun p => (p, time)).reverse ++
        mrp.announced (TopoSide.inter.linkType up) := by
  have hsent := mrp.announced_sendAll [.ring mrp.pPort, .ring mrp.sPort, .inter]
    (.inLink up time) (TopoSide.inter.linkType up)
  have hreq : mrp.sendAll [.ring mrp.pPort, .ring mrp.sPort, .inter] (.inLink up time) =
      mrp.inLinkReq up time := by
    simp [sendAll, inLinkReq, sendInLink]
  rw [if_pos (by cases up <;> rfl), hreq] at hsent
  exact hsent

/-- A write to the port of the interconnection sends nothing. -/
theorem announced_portSetState (mrp : Mrp) (p : Port) (state : PortState) (type : TlvType) :
    (mrp.portSetState p state).announced type = mrp.announced type := by
  simp only [announced, sentOf, portSetState_sent]

/-- What an expiry announces. -/
theorem announced_of_expires {up : Bool} (h : mrp.expires (side.linkTimer up) e = true) :
    (mrp.step e).announced (side.linkType up) =
      (if mrp.linkLeft side > 0 then
        ((mrp.linkPorts side).map fun p =>
          (p, (mrp.linkLeft side - 1) * (mrp.announceConf side).interval)).reverse
      else []) ++ mrp.announced (side.linkType up) := by
  cases e with
  | expired w =>
      simp only [expires, Bool.and_eq_true, decide_eq_true_eq] at h
      rcases h with ⟨rfl, hactive⟩
      rw [step, if_pos hactive]
      by_cases hleft : mrp.linkLeft side > 0
      · rw [if_pos hleft]
        cases side with
        | ring =>
            have hpos : mrp.ringLinkCurrMax > 0 := hleft
            cases up with
            | true =>
                simp only [expired, TopoSide.linkTimer, ringLinkUpExpired, if_pos hpos]
                exact announced_ringLinkReq _ true _
            | false =>
                simp only [expired, TopoSide.linkTimer, ringLinkDownExpired, if_pos hpos]
                exact announced_ringLinkReq _ false _
        | inter =>
            have hpos : mrp.inLinkCurrMax > 0 := hleft
            cases up with
            | true =>
                simp only [expired, TopoSide.linkTimer, inLinkUpExpired, if_pos hpos]
                exact announced_inLinkReq _ true _
            | false =>
                simp only [expired, TopoSide.linkTimer, inLinkDownExpired, if_pos hpos]
                exact announced_inLinkReq _ false _
      · rw [if_neg hleft, List.nil_append]
        cases side with
        | ring =>
            have hzero : ¬ mrp.ringLinkCurrMax > 0 := hleft
            cases up with
            | true =>
                simp only [expired, TopoSide.linkTimer, ringLinkUpExpired, if_neg hzero]
                rfl
            | false =>
                simp only [expired, TopoSide.linkTimer, ringLinkDownExpired, if_neg hzero]
                rfl
        | inter =>
            have hzero : ¬ mrp.inLinkCurrMax > 0 := hleft
            cases up with
            | true =>
                simp only [expired, TopoSide.linkTimer, inLinkUpExpired, if_neg hzero]
                exact announced_portSetState (mrp.setInLinkCurrMax mrp.inLinkConfMax) .inter _ _
            | false =>
                simp only [expired, TopoSide.linkTimer, inLinkDownExpired, if_neg hzero]
                rfl
  | _ => cases h

/-- Other events announce nothing while it is calm. -/
theorem announced_of_calm {up : Bool} (h : mrp.disturbs side e = false)
    (hexp : mrp.expires (side.linkTimer up) e = false) :
    (mrp.step e).announced (side.linkType up) = mrp.announced (side.linkType up) := by
  have hlink := isLinkEvent_of_calm h
  have hquiet : (∀ t ∈ mrp.announces e, decide (t = side.linkType up) = false) →
      (mrp.step e).announced (side.linkType up) = mrp.announced (side.linkType up) := by
    intro hrow
    unfold announced
    rw [mrp.step_sentOf hrow]
  cases e with
  | recv p rx =>
      apply hquiet
      simp only [announces]
      cases hdel : mrp.delivered p rx with
      | none => simp
      | some x =>
          rcases x with ⟨type, buf⟩
          have hprocess := (recv_of_delivered hdel).1
          refine TopoSide.linkType_not_answered fun hpoll => ?_
          rw [hpoll] at hprocess
          cases hprocess
  | linkChange p up' =>
      rcases TopoSide.eq_of_uses_eq_false hlink with ⟨rfl, rfl⟩
      exact hquiet (TopoSide.ring_linkType_not_announced up)
  | operstate p state =>
      by_cases huses : side.uses p = true
      · have hsame : mrp.operstate? p = some state := by
          simpa [isLinkEvent, huses] using hlink
        simp only [step, netlinkOperstate]
        cases hport : mrp.port? p with
        | none => rfl
        | some port =>
            simp only [operstate?, hport, Option.map_some, Option.some.injEq] at hsame
            simp only [if_pos hsame]
      · rcases TopoSide.eq_of_uses_eq_false (Bool.eq_false_iff.mpr huses) with ⟨rfl, rfl⟩
        exact hquiet (TopoSide.ring_linkType_not_announced up)
  | cfmLinkChange defect =>
      rcases TopoSide.eq_of_uses_eq_false hlink with ⟨rfl, -⟩
      exact hquiet (TopoSide.ring_linkType_not_announced up)
  | portMac p mac => exact hquiet (by simp [announces])
  | bridgeMac mac => exact hquiet (by simp [announces])
  | expired w =>
      by_cases hactive : (mrp.timer w).active = true
      · refine hquiet (TopoSide.linkType_not_expired ?_)
        rintro rfl
        simp [expires, hactive] at hexp
      · rw [step, if_neg hactive]

end Calm

end Mrp

end Umrp
