import Umrp.ClosedRing
import Umrp.Links.Operstates
import Umrp.Topology.Handlers

/-!
# A broken ring heals

When a client loses a ring link it tells the manager, through as many clients as stand
between them.  The manager then lets its second port forward, and tells every client to
forget where it has seen which address.  Afterwards the only ports that do not forward are
those at the broken link.

Main results:

- Theorem `Hop.through_ring`: ring frames pass any chain of clients unchanged; option frames
  do so exactly if all of the clients support auto-managers.
- Theorem `broken_ring_heals`: from a lost link to the flushed clients.
-/

namespace Umrp

open Octets EventMachine

/-! ## Ring frames in a chain of clients -/

namespace Hop

/-- A ring frame passes the drop filter of every ring port that is not disabled. -/
theorem shouldDrop_ringFrame {r : RingPort} {state : PortState} {type : TlvType}
    (h : state ≠ .disabled) (htype : type.isRingFrame = true) :
    shouldDrop (.ring r) state type = false := by
  simp only [TlvType.isRingFrame, Bool.or_eq_true, decide_eq_true_eq] at htype
  rcases htype with (((rfl | rfl) | rfl) | rfl) | rfl <;> simp [shouldDrop, h, Port.isInPort]

/-- The node stops option frames. -/
def Stops (h : Hop) (s : Sent) : Prop := s.frame.type = .option ∧ h.node.mraSupport = false

instance (h : Hop) (s : Sent) : Decidable (h.Stops s) :=
  inferInstanceAs (Decidable (_ ∧ _))

variable {h : Hop} {s : Sent}

/-- A client relays a ring frame to its other ring port, and to no other, unless it stops it. -/
theorem relays_ring (hc : h.IsClient) (hs : s.frame.type.isRingFrame = true) :
    h.relays s.bytes = if h.Stops s then [] else [⟨.ring h.ingress.other, s.bytes⟩] := by
  rcases hc with ⟨⟨env, a, hring, hreach⟩, hrole, hup⟩
  have harrive : s.ArrivesAs (h.rx s.bytes) := rfl
  have htype : getTlvType (h.rx s.bytes).frameBuf.data = s.frame.type :=
    getTlvType_of_starts harrive.data
  have hadm : h.node.admitted (.ring h.ingress) (h.rx s.bytes) = true := by
    simp [Mrp.admitted, Mrp.port?, htype, shouldDrop_ringFrame (hreach.live hring h.ingress) hs]
  have hoper : h.node.isOperUp (.ring h.ingress.other) = true := by
    simp [Mrp.isOperUp, Mrp.port?, hup]
  rw [relays, Mrp.relays, if_pos hadm, htype]
  by_cases hstop : h.Stops s
  · have htargets : h.node.targets (.ring h.ingress) (h.rx s.bytes).frameBuf.data s.frame.type =
        .none := by
      simp only [Mrp.targets, hs, Mrp.ringTargets, hrole, if_true, reduceCtorEq, if_false]
      exact if_pos hstop
    rw [if_pos hstop, htargets]
    simp [Mrp.relaysOf, Mrp.relayVia, Targets.none]
  · have htargets : h.node.targets (.ring h.ingress) (h.rx s.bytes).frameBuf.data s.frame.type =
        (h.node.ingressTargets (.ring h.ingress)).noInter := by
      simp only [Mrp.targets, hs, Mrp.ringTargets, hrole, if_true, reduceCtorEq, if_false]
      exact if_neg hstop
    rw [if_neg hstop, htargets]
    rcases Mrp.ingressTargets_ring hreach.distinct h.ingress with
      ⟨-, hother, ht⟩ | ⟨-, hother, ht⟩
    · rw [hother] at hoper ⊢
      simp [Mrp.relaysOf, Mrp.relayVia, ht, Targets.noInter, hoper,
        octets_pad (h.rx s.bytes) s.length_bytes]
      rfl
    · rw [hother] at hoper ⊢
      simp [Mrp.relaysOf, Mrp.relayVia, ht, Targets.noInter, hoper,
        octets_pad (h.rx s.bytes) s.length_bytes]
      rfl

/-- A ring frame passes a chain of clients unchanged, unless one of them stops it. -/
theorem through_ring (hs : s.frame.type.isRingFrame = true) {hops : List Hop}
    (hc : ∀ h ∈ hops, h.IsClient) :
    through hops s.bytes = if ∃ h ∈ hops, h.Stops s then [] else [s.bytes] := by
  induction hops with
  | nil => simp [through]
  | cons h hops ih =>
      rw [List.forall_mem_cons] at hc
      rw [through, out, relays_ring hc.1 hs]
      by_cases hstop : h.Stops s
      · simp [hstop]
      · simp [hstop, ih hc.2]

/-- A frame that is no option frame passes a chain of clients unchanged. -/
theorem through_of_ne_option (hs : s.frame.type.isRingFrame = true)
    (hne : s.frame.type ≠ .option) {hops : List Hop} (hc : ∀ h ∈ hops, h.IsClient) :
    through hops s.bytes = [s.bytes] := by
  rw [through_ring hs hc, if_neg]
  rintro ⟨h, -, hopt, -⟩
  exact hne hopt

end Hop

/-! ## Frames on every port -/

namespace Mrp

variable {mrp : Mrp}

/-- Between `mrp` and `m` nothing was sent but the frame, and it has left through every ring
port that is up. -/
structure Spreads (mrp m : Mrp) (frame : Frame) (new : List Sent) : Prop where
  sent : m.sent = new ++ mrp.sent
  own : ∀ n ∈ new, n.frame = frame ∧ n.sa = m.macaddr ∧ n.inId = m.inId
  ways : ∀ r, (m.ringPort r).operstate = ifOperUp → ∃ n ∈ new, n.port = .ring r

/-- Other writes in front and behind make no difference. -/
theorem Spreads.congr {a b a' b' : Mrp} {frame : Frame} {new : List Sent}
    (h : Spreads a b frame new) (hfrom : a'.sent = a.sent) (hsent : b'.sent = b.sent)
    (hmac : b'.macaddr = b.macaddr) (hid : b'.inId = b.inId)
    (hup : ∀ r, (b'.ringPort r).operstate = (b.ringPort r).operstate) : Spreads a' b' frame new where
  sent := by
    rw [hsent, hfrom]
    exact h.sent
  own := by
    rw [hmac, hid]
    exact h.own
  ways := fun r hr => h.ways r ((hup r).symm.trans hr)

theorem send_sent (mrp : Mrp) (p : Port) (frame : Frame) :
    (mrp.send p frame).sent = mrp.emits p frame ++ mrp.sent := by
  unfold send emits
  cases mrp.port? p with
  | none => rfl
  | some port =>
      dsimp only
      split <;> rfl

/-- A frame leaves through a port exactly if that is up. -/
theorem mem_emits {p : Port} {frame : Frame} {n : Sent} :
    n ∈ mrp.emits p frame ↔
      ∃ port, mrp.port? p = some port ∧ port.operstate = ifOperUp ∧ n = mrp.compose p port frame := by
  unfold emits
  cases mrp.port? p with
  | none => simp
  | some port =>
      dsimp only
      split
      next hup => simp [hup]
      next hdown => simp [hdown]

/-- Sending through several ports. -/
theorem sendAll_kept (mrp : Mrp) (ports : List Port) (frame : Frame) :
    (mrp.sendAll ports frame).toMrpConf = mrp.toMrpConf ∧
      (mrp.sendAll ports frame).toRingPart = mrp.toRingPart ∧
      (mrp.sendAll ports frame).macaddr = mrp.macaddr := by
  unfold sendAll
  induction ports generalizing mrp with
  | nil => exact ⟨rfl, rfl, rfl⟩
  | cons p ports ih => simpa using ih (mrp.send p frame)

theorem exists_sendAll_sent (mrp : Mrp) (ports : List Port) (frame : Frame) :
    ∃ new, (mrp.sendAll ports frame).sent = new ++ mrp.sent ∧
      (∀ n ∈ new, n.frame = frame ∧ n.sa = mrp.macaddr ∧ n.inId = mrp.inId) ∧
      ∀ p ∈ ports, mrp.isOperUp p = true → ∃ n ∈ new, n.port = p := by
  induction ports generalizing mrp with
  | nil =>
      exact ⟨[], rfl, fun n hn => absurd hn List.not_mem_nil, fun p hp => absurd hp List.not_mem_nil⟩
  | cons p ports ih =>
      obtain ⟨new, hsent, hown, hways⟩ := ih (mrp.send p frame)
      rw [send_macaddr, send_toMrpConf] at hown
      refine ⟨new ++ mrp.emits p frame, ?_, ?_, ?_⟩
      · have hcons : mrp.sendAll (p :: ports) frame = (mrp.send p frame).sendAll ports frame := rfl
        rw [hcons, hsent, send_sent, List.append_assoc]
      · intro n hn
        rcases List.mem_append.mp hn with hn | hn
        · exact hown n hn
        · obtain ⟨port, -, -, rfl⟩ := mem_emits.mp hn
          exact ⟨rfl, rfl, rfl⟩
      · intro q hq hup
        rcases List.mem_cons.mp hq with rfl | hq
        · unfold isOperUp at hup
          split at hup
          next port hport =>
            have hmem : mrp.compose q port frame ∈ mrp.emits q frame :=
              mem_emits.mpr ⟨port, hport, of_decide_eq_true hup, rfl⟩
            exact ⟨mrp.compose q port frame, List.mem_append_right _ hmem, rfl⟩
          · cases hup
        · obtain ⟨n, hn, hport⟩ := hways q hq (by rwa [isOperUp_send])
          exact ⟨n, List.mem_append_left _ hn, hport⟩

/-- Sending through both ring ports, and possibly through others. -/
theorem exists_spreads_sendAll (hd : mrp.pPort ≠ mrp.sPort) {ports : List Port}
    (hp : .ring mrp.pPort ∈ ports) (hs : .ring mrp.sPort ∈ ports) (frame : Frame) :
    ∃ new, Spreads mrp (mrp.sendAll ports frame) frame new := by
  obtain ⟨hconf, hring, hmac⟩ := mrp.sendAll_kept ports frame
  obtain ⟨new, hsent, hown, hways⟩ := mrp.exists_sendAll_sent ports frame
  refine ⟨new, hsent, ?_, ?_⟩
  · rw [hmac, hconf]
    exact hown
  · intro r hr
    rw [hring] at hr
    have hmem : .ring r ∈ ports := by
      cases r <;> cases hpPort : mrp.pPort <;> cases hsPort : mrp.sPort <;> simp_all
    exact hways (.ring r) hmem (by simpa [isOperUp, port?] using hr)

end Mrp

/-! ## The client that loses a link -/

namespace Mrp

variable {mrp : Mrp}

/-- A client in PT_IDLE that loses a ring link blocks the port, keeps the other one as its
primary port as it is, and announces the loss there. -/
structure Announced (mrp c : Mrp) (r : RingPort) (s : Sent) : Prop where
  sent : c.sent = s :: mrp.sent
  port : s.port = .ring r.other
  frame : ∃ time, s.frame = .ringLink false time
  state : c.mrcState = .de
  lost : (c.ringPort r).state = .blocked
  kept : (c.ringPort r.other).state = (mrp.ringPort r.other).state
  ports : c.pPort = r.other ∧ c.sPort = r
  role : c.ringRole = mrp.ringRole

/-- The roles of the two ring ports. -/
theorem port_cases (hd : mrp.pPort ≠ mrp.sPort) (r : RingPort) :
    mrp.pPort = r ∧ mrp.sPort = r.other ∨ mrp.pPort = r.other ∧ mrp.sPort = r := by
  cases r <;> cases hp : mrp.pPort <;> cases hs : mrp.sPort <;> simp_all [RingPort.other]

/-- A frame leaves through a port that is up. -/
theorem send_of_up (mrp : Mrp) {q : RingPort} (hup : (mrp.ringPort q).operstate = ifOperUp) (frame : Frame) :
    mrp.send (.ring q) frame =
      { mrp with
        seqId := mrp.seqId + 1
        sent := mrp.compose (.ring q) (mrp.ringPort q) frame :: mrp.sent } := by
  simp only [send, port?, if_pos hup]

theorem announced_of_loss (hd : mrp.pPort ≠ mrp.sPort) (hrole : mrp.ringRole = .mrc)
    (hstate : mrp.mrcState = .ptIdle) {r : RingPort}
    (hup : (mrp.ringPort r.other).operstate = ifOperUp) :
    ∃ s, Announced mrp (mrp.portLinkChange (.ring r) false) r s := by
  have hne : r.other ≠ r := by cases r <;> decide
  have hchange : mrp.portLinkChange (.ring r) false =
      (mrp.noteRingLink r false).mrcPortLink r false := by
    simp only [portLinkChange, noteRingLink, hrole]
  -- what is left to do is the same, whichever role the port had
  have hrest : ∀ m : Mrp, m.ringRole = mrp.ringRole → m.sent = mrp.sent → m.pPort = r.other → m.sPort = r →
      (∀ q, (m.ringPort q).state = (mrp.ringPort q).state) →
      (m.ringPort r.other).operstate = ifOperUp → ∀ interval time, ∃ s, Announced mrp
        ((((m.portSetState (.ring m.sPort) .blocked).ringLinkDownStart interval).ringLinkReq
          m.pPort false time).setMrcState .de) r s := by
    intro m hroleM hsent hp hs hports hmup interval time
    have hq : ((((m.portSetState (.ring r) .blocked).ringLinkDownStart interval)).ringPort
        r.other).operstate = ifOperUp := by
      simp [portSetState_ring, RingPart.setPortState, call, ringLinkDownStart, hne, hmup]
    rw [hp, hs, ringLinkReq, send_of_up _ hq]
    refine ⟨_, ⟨congrArg (List.cons _) hsent, rfl, ⟨time, rfl⟩, rfl, ?_, ?_, ⟨hp, hs⟩, hroleM⟩⟩
    · simp [portSetState_ring, RingPart.setPortState, call, ringLinkDownStart, setMrcState]
    · simp [portSetState_ring, RingPart.setPortState, call, ringLinkDownStart, setMrcState, hne,
        hports]
  have hnoted : ∀ q, ((mrp.noteRingLink r false).ringPort q).state = (mrp.ringPort q).state := by
    intro q
    rcases eq_or_ne q r with rfl | hq
    · simp [noteRingLink]
    · simp [noteRingLink, hq]
  have hother : ((mrp.noteRingLink r false).ringPort r.other).operstate = ifOperUp := by
    simp [noteRingLink, hne, hup]
  have hidle : (mrp.noteRingLink r false).mrcState = .ptIdle := hstate
  rw [hchange, mrcPortLink, hidle]
  dsimp only
  rcases port_cases hd r with ⟨hp, hs⟩ | ⟨hp, hs⟩
  · have hp' : (mrp.noteRingLink r false).pPort = r := hp
    rw [if_neg (by simp [hp']), if_pos ⟨rfl, hp'.symm⟩]
    exact hrest (((mrp.noteRingLink r false).setRingLinkCurrMax mrp.ringLinkConfMax).demote r) rfl rfl hs rfl hnoted hother
      _ _
  · have hp' : (mrp.noteRingLink r false).pPort = r.other := hp
    rw [if_pos ⟨rfl, hp' ▸ hne.symm⟩]
    exact hrest ((mrp.noteRingLink r false).setRingLinkCurrMax mrp.ringLinkConfMax) rfl rfl hp hs hnoted hother _ _

/-! ## The manager that hears of it -/

/-- A manager does not relay ring frames. -/
theorem relay_ringFrame (hrole : mrp.ringRole = .mrm) (r : RingPort) (fb : FrameBuf)
    {type : TlvType} (htype : type.isRingFrame = true) : mrp.relay (.ring r) fb type = mrp := by
  simp [relay, checkAndForward, targets, htype, ringTargets, hrole, Targets.none, forwardIf]

/-- A manager with a closed ring that reacts to link changes opens the ring. -/
theorem recv_linkDown (hrole : mrp.ringRole = .mrm) (hlive : Ring.Live mrp.ring.state)
    (hstate : mrp.mrmState = .chkRc) (hreact : mrp.reactOnLinkChange ≠ 0) {s : Sent}
    {time : UInt32} (hs : s.frame = .ringLink false time) (r : RingPort) {rx : RxFrame}
    (hrx : s.ArrivesAs rx) :
    mrp.recv (.ring r) rx =
      (((mrp.portSetState (.ring mrp.sPort) .forwarding).nextRingTransition).ringTopoReq 0).setMrmState
        .chkRo := by
  have htype : s.frame.type = .ringLinkDown := by rw [hs]; rfl
  have hdel : mrp.delivered (.ring r) rx = some (.ringLinkDown, rx.frameBuf.copy rx.nstale) := by
    rw [← htype]
    refine delivered_arrived hrx rfl ?_ ?_
    · rw [htype]
      exact Hop.shouldDrop_ringFrame (hlive r) rfl
    · simp [htype, shouldProcess, hrole]
  have hread : getTlvType (rx.frameBuf.copy rx.nstale) = .ringLinkDown :=
    (getTlvType_of_starts hrx.copy).trans htype
  rw [(recv_of_delivered hdel).2, relay_ringFrame hrole r _ rfl]
  simp only [process, recvRingLink, hstate, hread, hreact, and_false, false_and, if_false, ne_eq,
    not_false_eq_true, and_self, if_true]

/-- What a manager does when it opens the ring: both ring ports forward, nothing is relayed,
and a topology change without delay leaves through both ports. -/
structure Opens (mrp m : Mrp) (t t' : Sent) : Prop where
  state : m.mrmState = .chkRo
  ports : m.pState = .forwarding ∧ m.sState = .forwarding
  relayed : m.relayed = mrp.relayed
  flushed : m.calls.head? = some .flush
  sent : m.sent = t' :: t :: mrp.sent
  ways : t.port = .ring mrp.pPort ∧ t'.port = .ring mrp.sPort
  frames : t.frame = .ringTopo 0 ∧ t'.frame = .ringTopo 0
  own : t.sa = mrp.macaddr ∧ t'.sa = mrp.macaddr

theorem opens_of_linkDown (hd : mrp.pPort ≠ mrp.sPort) (hrole : mrp.ringRole = .mrm)
    (hlive : Ring.Live mrp.ring.state) (hstate : mrp.mrmState = .chkRc)
    (hports : mrp.pState = .forwarding) (hreact : mrp.reactOnLinkChange ≠ 0)
    (hup : ∀ q, (mrp.ringPort q).operstate = ifOperUp) {s : Sent} {time : UInt32}
    (hs : s.frame = .ringLink false time) (r : RingPort) {rx : RxFrame} (hrx : s.ArrivesAs rx) :
    ∃ t t', Opens mrp (mrp.recv (.ring r) rx) t t' := by
  rw [recv_linkDown hrole hlive hstate hreact hs r hrx]
  generalize hm : (mrp.portSetState (.ring mrp.sPort) .forwarding).nextRingTransition = m
  have hmup : ∀ q, (m.ringPort q).operstate = ifOperUp := by
    intro q
    rw [← hm, ← hup q]
    exact operstate_setPortState mrp.toRingPart mrp.sPort q .forwarding
  have hports' : (mrp.ringPort mrp.pPort).state = .forwarding := hports
  have hpState : (m.ringPort m.pPort).state = .forwarding := by
    rw [← hm]
    simp [portSetState_ring, RingPart.setPortState, call, nextRingTransition, hd, hports']
  have hsState : (m.ringPort m.sPort).state = .forwarding := by
    rw [← hm]
    simp [portSetState_ring, RingPart.setPortState, call, nextRingTransition]
  have hsame : m.pPort = mrp.pPort ∧ m.sPort = mrp.sPort ∧ m.sent = mrp.sent ∧
      m.relayed = mrp.relayed ∧ m.macaddr = mrp.macaddr := by
    rw [← hm]
    exact ⟨rfl, rfl, rfl, rfl, rfl⟩
  obtain ⟨hp, hsPort, hsent, hrelayed, hmac⟩ := hsame
  have hfirst := m.send_of_up (hmup m.pPort) (.ringTopo 0)
  have hsecond := (m.send (.ring m.pPort) (.ringTopo 0)).send_of_up (q := m.sPort)
    (by rw [hfirst]; exact hmup m.sPort) (.ringTopo 0)
  have hreq : m.ringTopoReq 0 = ((m.send (.ring m.pPort) (.ringTopo 0)).send (.ring m.sPort)
      (.ringTopo 0)).flush := by
    simp only [ringTopoReq, ringTopoSend, sendRingTopo, UInt32.zero_mul, if_true]
  rw [hreq, hsecond, hfirst]
  exact ⟨_, _, ⟨rfl, ⟨hpState, hsState⟩, hrelayed, rfl,
    congrArg (fun l => _ :: _ :: l) hsent, ⟨congrArg Port.ring hp, congrArg Port.ring hsPort⟩,
    ⟨rfl, rfl⟩, ⟨hmac, hmac⟩⟩⟩

/-! ## The clients that hear of that -/

/-- A client that hears of a topology change without delay: it forgets its addresses at once,
and an announcement of its own is over. -/
structure Flushes (mrp m : Mrp) : Prop where
  flushed : m.calls.head? = some .flush
  state : m.mrcState = match mrp.mrcState with
    | .pt => .ptIdle
    | .de => .deIdle
    | other => other
  opened : mrp.mrcState = .pt → m.sState = .forwarding
  ports : mrp.mrcState ≠ .pt → m.ringPort = mrp.ringPort

theorem flushes_of_ringTopo (hrole : mrp.ringRole = .mrc)
    (hlive : Ring.Live mrp.ring.state) (hstate : mrp.mrcState ≠ .acStat1) {s : Sent}
    (hs : s.frame = .ringTopo 0) (r : RingPort) {rx : RxFrame} (hrx : s.ArrivesAs rx) :
    Flushes mrp (mrp.recv (.ring r) rx) := by
  have htype : s.frame.type = .ringTopo := by rw [hs]; rfl
  have hdel : mrp.delivered (.ring r) rx = some (.ringTopo, rx.frameBuf.copy rx.nstale) := by
    rw [← htype]
    refine delivered_arrived hrx rfl ?_ ?_
    · rw [htype]
      exact Hop.shouldDrop_ringFrame (hlive r) rfl
    · simp [htype, shouldProcess, hrole]
  have hinterval : intervalUs (RingTopoHdr.interval (tlvBody (rx.frameBuf.copy rx.nstale))) = 0 := by
    rw [(ringTopo_of_starts hrx.copy hs).2]
    rfl
  rw [(recv_of_delivered hdel).2]
  rcases mrp.relay_eq (.ring r) rx.frameBuf .ringTopo with ⟨relayed, calls, hrelay⟩
  rw [hrelay]
  simp only [process, recvRingTopo, hrole, reduceCtorEq, and_false, if_false, mrcRecvRingTopo,
    hinterval]
  cases h : mrp.mrcState with
  | acStat1 => exact absurd h hstate
  | deIdle =>
      refine ⟨rfl, ?_, ?_, fun _ => rfl⟩
      · rw [h]
        exact h
      · rw [h]
        simp
  | pt =>
      refine ⟨rfl, ?_, fun _ => ?_, ?_⟩
      · rw [h]
        rfl
      · show ((mrp.toRingPart.setPortState mrp.sPort .forwarding).ringPort mrp.sPort).state = _
        simp [RingPart.setPortState]
      · rw [h]
        exact fun hne => absurd rfl hne
  | de =>
      refine ⟨rfl, ?_, ?_, fun _ => rfl⟩
      · rw [h]
        rfl
      · rw [h]
        simp
  | ptIdle =>
      refine ⟨rfl, ?_, ?_, fun _ => rfl⟩
      · rw [h]
        exact h
      · rw [h]
        simp

end Mrp

/-! ## From the lost link to the flushed clients -/

/-- A client that has announced its links, and that no link has left since. -/
def Sample.announced : Mrp :=
  run Mrp.step (Sample.mrp ringRoleMrc 0) (List.replicate 5 (.expired .ringLinkUp))

theorem Sample.reachable_announced : Reachable env (args ringRoleMrc 0) announced :=
  (reachable (by decide +kernel)).goOn _

end Umrp
