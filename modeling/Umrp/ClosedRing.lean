import Umrp.Relay

/-!
# A closed ring is detected

A client hands test frames on from one ring port to the other, whatever the states
of its ports are.  A test frame of a manager therefore travels through any number
of clients with its octets unchanged, and the manager recognises it on its other
ring port.

Main results:

- Theorem `Reachable.live`: once a ring role is set, no ring port is disabled.
- Theorem `Hop.relays_eq`: a client relays a test frame to its other ring port, and
  to no other.
- Theorem `closed_ring_detected`: a test frame goes around a ring of clients and
  brings the manager into CHK_RC.
-/

namespace Umrp

open Octets EventMachine

/-! ## Ports that are in use -/

namespace Ring

/-- No port is disabled. -/
def Live (state : RingPort → PortState) : Prop := ∀ r, state r ≠ .disabled

theorem Live.update {state : RingPort → PortState} (h : Live state) (r : RingPort)
    {st : PortState} (hst : st ≠ .disabled) : Live (Function.update state r st) := by
  intro q
  rcases eq_or_ne q r with rfl | hq
  · simpa using hst
  · simpa [hq] using h q

theorem Live.opened {state : RingPort → PortState} (h : Live state) (r : RingPort) :
    Live (Function.update state r .forwarding) :=
  h.update r nofun

theorem Live.blocked {state : RingPort → PortState} (h : Live state) (r : RingPort) :
    Live (Function.update state r .blocked) :=
  h.update r nofun

/-- No event disables a port. -/
theorem Live.step {c : LinkConf} {x : Ring} (h : Live x.state) (ev : Event) :
    Live (x.step c ev).state := by
  cases ev with
  | link r up =>
      simp only [Ring.step, linkEvent, mrmLink, mrcLink]
      repeat' split
      all_goals first
        | exact h
        | exact h.opened _
        | exact h.blocked _
        | exact (h.blocked _).opened _
        | exact (h.opened _).blocked _
  | closed =>
      simp only [Ring.step, close]
      split <;> first | exact h | exact h.blocked _
  | opened =>
      simp only [Ring.step, opening]
      split <;> first | exact h | exact h.opened _
  | topologyChange =>
      simp only [Ring.step, topology]
      split <;> first | exact h | exact h.opened _
  | nacked =>
      simp only [Ring.step, giveUp]
      split <;> first | exact h | exact h.opened _
  | managerLost =>
      simp only [Ring.step, takeOver]
      split <;> exact h
  | linkUpTick =>
      simp only [Ring.step, upTick]
      split <;> first | exact h | exact h.opened _
  | linkDownTick =>
      simp only [Ring.step, downTick]
      split <;> exact h
  | silent => exact h

end Ring

/-- Once a ring role is set, no ring port is disabled. -/
theorem Reachable.live {env : Env} {a : AddArgs} {mrp : Mrp} (h : Reachable env a mrp)
    (hrole : IsRingRole a.ringRole) (r : RingPort) : (mrp.ringPort r).state ≠ .disabled :=
  h.ring_invariant (I := fun x => Ring.Live x.state) hrole (fun _ => nofun)
    (fun _ ev hx _ => hx.step ev) r

/-! ## A chain of clients -/

/-- A node that a frame passes: the instance when the frame arrives, the port it
arrives on, and what is left in the buffers. -/
structure Hop where
  node : Mrp
  ingress : RingPort
  stale : Buf
  nstale : Buf

namespace Hop

/-- The node acts as a client in a reachable state, and its ring links are up. -/
structure IsClient (h : Hop) : Prop where
  reachable : ∃ env a, IsRingRole a.ringRole ∧ Reachable env a h.node
  role : h.node.ringRole = .mrc
  up : ∀ r, (h.node.ringPort r).operstate = ifOperUp

/-- A frame that arrives at the node. -/
def rx (h : Hop) (bytes : List UInt8) : RxFrame := ⟨bytes, h.stale, h.nstale⟩

/-- What the node relays when the frame arrives. -/
def relays (h : Hop) (bytes : List UInt8) : List Relay :=
  h.node.relays (.ring h.ingress) (h.rx bytes)

/-- The frames that go on to the next node. -/
def out (h : Hop) (bytes : List UInt8) : List (List UInt8) :=
  ((h.relays bytes).filter fun x => x.port = .ring h.ingress.other).map Relay.bytes

/-- The frames that come out at the end of a chain of nodes. -/
def through : List Hop → List UInt8 → List (List UInt8)
  | [], bytes => [bytes]
  | h :: hs, bytes => (h.out bytes).flatMap (through hs)

/-- How often a frame is relayed in a chain of nodes. -/
def count : List Hop → List UInt8 → Nat
  | [], _ => 0
  | h :: hs, bytes => (h.relays bytes).length + (h.out bytes).foldr (fun b n => count hs b + n) 0

/-- A frame that is long enough leaves with the octets it arrived with. -/
theorem octets_pad (rx : RxFrame) (hlen : 60 ≤ rx.bytes.length) :
    rx.frameBuf.pad.octets = rx.bytes := by
  have hpad : rx.frameBuf.pad = rx.frameBuf := by
    rw [FrameBuf.pad, if_neg (by simpa [RxFrame.frameBuf] using hlen)]
  rw [hpad]
  refine List.ext_getElem (by simp [FrameBuf.octets, RxFrame.frameBuf]) ?_
  intro i hi hi'
  simp only [FrameBuf.octets, List.getElem_map, List.getElem_range]
  exact Buf.starts_ofList rx.bytes rx.stale i hi'

/-- A test frame passes the drop filter of every ring port that is not disabled. -/
theorem shouldDrop_ringTest {r : RingPort} {state : PortState} (h : state ≠ .disabled) :
    shouldDrop (.ring r) state .ringTest = false := by
  simp [shouldDrop, h, Port.isInPort]

section Client

variable {h : Hop} {s : Sent}

/-- A client relays a test frame to its other ring port, and to no other. -/
theorem relays_eq (hc : h.IsClient) (hs : s.frame.type = .ringTest) :
    h.relays s.bytes = [⟨.ring h.ingress.other, s.bytes⟩] := by
  rcases hc with ⟨⟨env, a, hring, hreach⟩, hrole, hup⟩
  have harrive : s.ArrivesAs (h.rx s.bytes) := rfl
  have htype : getTlvType (h.rx s.bytes).frameBuf.data = .ringTest :=
    (getTlvType_of_starts harrive.data).trans hs
  have hadm : h.node.admitted (.ring h.ingress) (h.rx s.bytes) = true := by
    simp [Mrp.admitted, Mrp.port?, htype, shouldDrop_ringTest (hreach.live hring h.ingress)]
  have hoper : h.node.isOperUp (.ring h.ingress.other) = true := by
    simp [Mrp.isOperUp, Mrp.port?, hup]
  have htargets : h.node.targets (.ring h.ingress) (h.rx s.bytes).frameBuf.data .ringTest =
      (h.node.ingressTargets (.ring h.ingress)).noInter := by
    simp [Mrp.targets, TlvType.isRingFrame, Mrp.ringTargets, hrole]
  rw [relays, Mrp.relays, if_pos hadm, htype, htargets]
  rcases Mrp.ingressTargets_ring hreach.distinct h.ingress with
    ⟨-, hother, ht⟩ | ⟨-, hother, ht⟩
  · rw [hother] at hoper ⊢
    simp [Mrp.relaysOf, Mrp.relayVia, ht, Targets.noInter, hoper,
      octets_pad (h.rx s.bytes) s.length_bytes]
    rfl
  · rw [hother] at hoper ⊢
    simp [Mrp.relaysOf, Mrp.relayVia, ht, Targets.noInter, hoper,
      octets_pad (h.rx s.bytes) s.length_bytes]
    rfl

theorem out_eq (hc : h.IsClient) (hs : s.frame.type = .ringTest) : h.out s.bytes = [s.bytes] := by
  simp [out, relays_eq hc hs]

end Client

/-- A test frame passes any chain of clients, unchanged. -/
theorem through_eq {s : Sent} (hs : s.frame.type = .ringTest) {hops : List Hop}
    (hc : ∀ h ∈ hops, h.IsClient) : through hops s.bytes = [s.bytes] := by
  induction hops with
  | nil => rfl
  | cons h hops ih =>
      simp only [List.forall_mem_cons] at hc
      simp [through, out_eq hc.1 hs, ih hc.2]

/-- Each client of the chain relays it once. -/
theorem count_eq {s : Sent} (hs : s.frame.type = .ringTest) {hops : List Hop}
    (hc : ∀ h ∈ hops, h.IsClient) : count hops s.bytes = hops.length := by
  induction hops with
  | nil => rfl
  | cons h hops ih =>
      simp only [List.forall_mem_cons] at hc
      simp [count, out_eq hc.1 hs, relays_eq hc.1 hs, ih hc.2]
      omega

end Hop

/-! ## The manager -/

/-- What `mrp_send_ring_test` emits. -/
theorem sendRingTest_sent {mrp : Mrp} {r : RingPort} {s : Sent}
    (h : (mrp.sendRingTest r).sent = s :: mrp.sent) :
    s.frame.type = .ringTest ∧ s.sa = mrp.macaddr ∧
      ∃ closed transitions timestamp, s.frame = .ringTest closed transitions timestamp := by
  simp only [Mrp.sendRingTest, Mrp.send, Mrp.port?] at h
  split at h
  · obtain rfl := (List.cons.inj h).1
    exact ⟨rfl, rfl, _, _, _, rfl⟩
  · exact absurd h.symm (List.cons_ne_self s _)

/-- A manager detects the closed ring by a frame that arrives on a ring port: it
takes the frame for its own, does not relay it, and is in CHK_RC with a blocked
secondary port afterwards, unless it is in its initial state. -/
structure Detects (mrp : Mrp) (r : RingPort) (rx : RxFrame) : Prop where
  handled : mrp.HandlesOwnTest (.ring r) rx
  not_relayed : (mrp.recv (.ring r) rx).relayed = mrp.relayed
  closed : mrp.mrmState ≠ .acStat1 →
    (mrp.recv (.ring r) rx).mrmState = .chkRc ∧ (mrp.recv (.ring r) rx).sState = .blocked

/-- A manager detects the closed ring by any test frame with its own address. -/
theorem detects_of_arrivesAs {env : Env} {a : AddArgs} {mrp : Mrp}
    (ha : a.ringRole = ringRoleMrm) (h : Reachable env a mrp) (hrole : mrp.ringRole = .mrm)
    {s : Sent} {closed : Bool} {transitions : UInt16} {timestamp : UInt32}
    (hs : s.frame = .ringTest closed transitions timestamp) (hsa : s.sa = mrp.macaddr)
    (r : RingPort) {rx : RxFrame} (hrx : s.ArrivesAs rx) : Detects mrp r rx := by
  have htype : s.frame.type = .ringTest := by rw [hs]; rfl
  have hlive := h.live (.inr (.inl ha)) r
  have hdel : mrp.delivered (.ring r) rx = some (.ringTest, rx.frameBuf.copy rx.nstale) := by
    rw [← htype]
    refine Mrp.delivered_arrived hrx rfl ?_ ?_
    · rw [htype]
      exact Hop.shouldDrop_ringTest hlive
    · simp [htype, Mrp.shouldProcess, hrole]
  have hown : RingTestHdr.sa (tlvBody (rx.frameBuf.copy rx.nstale)) = mrp.macaddr :=
    (ringTest_of_starts hrx.copy hs).2.trans hsa
  have hring : (mrp.recv (.ring r) rx).ring = mrp.ring.close := by
    rw [mrp.ring_recv]
    simp [Mrp.ringEvent, hdel, Mrp.frameEvent, hown, Ring.step]
  refine ⟨⟨_, hdel, hown⟩, ?_, ?_⟩
  · have htlv : getTlvType rx.frameBuf.data = .ringTest :=
      (getTlvType_of_starts hrx.data).trans htype
    rw [mrp.recv_relayed]
    simp [Mrp.relays, htlv, Mrp.targets, TlvType.isRingFrame, Mrp.ringTargets, hrole,
      Targets.none, Mrp.relaysOf, Mrp.relayVia]
  · intro hstate
    have hinv := h.managerInv ha
    have hports := Ring.close_ports hinv.distinct (hinv.manager hrole).1
    have hmrm : mrp.ring.close.mrm = .chkRc := by
      unfold Ring.close
      cases hm : mrp.mrmState <;> simp_all
    rw [← hring] at hports hmrm
    rw [hmrm] at hports
    exact ⟨hmrm, (Prod.mk.inj hports).2⟩

/-- In a physically closed ring of one manager and any number of clients, in any of
their reachable states, with the ring links up: a test frame that the manager emits
on one ring port is relayed by each client to its other ring port and to no other,
comes back unchanged after as many relays as there are clients, and is detected on
the manager's other ring port.  The frame left in the state `m₀` of the manager;
what happened since then does not matter, as long as the address of the bridge is
the same. -/
theorem closed_ring_detected {env : Env} {a : AddArgs} {m₀ mrp : Mrp}
    (ha : a.ringRole = ringRoleMrm) (h : Reachable env a mrp) (hrole : mrp.ringRole = .mrm)
    {r : RingPort} {s : Sent} (hs : (m₀.sendRingTest r).sent = s :: m₀.sent)
    (hmac : m₀.macaddr = mrp.macaddr) {hops : List Hop} (hc : ∀ x ∈ hops, x.IsClient)
    (stale nstale : Buf) :
    (∀ x ∈ hops, (x.node.recv (.ring x.ingress) (x.rx s.bytes)).relayed =
      ⟨.ring x.ingress.other, s.bytes⟩ :: x.node.relayed) ∧
    Hop.through hops s.bytes = [s.bytes] ∧ Hop.count hops s.bytes = hops.length ∧
    Detects mrp r.other ⟨s.bytes, stale, nstale⟩ := by
  rcases sendRingTest_sent hs with ⟨htype, hsa, _, _, _, hframe⟩
  refine ⟨?_, Hop.through_eq htype hc, Hop.count_eq htype hc,
    detects_of_arrivesAs ha h hrole hframe (hsa.trans hmac) _ rfl⟩
  intro x hx
  rw [x.node.recv_relayed]
  exact congrArg (· ++ x.node.relayed) (Hop.relays_eq (hc x hx) htype)

namespace Sample

/-- The test frame that the sample manager emits on its primary port. -/
def test : Sent :=
  let m := mrp ringRoleMrm 0
  m.compose (.ring .primary) (m.ringPort .primary)
    (.ringTest (m.mrmState = .chkRc) m.ringTransitions (m.clock m.sent.length))

/-- The sample client, reached through its secondary port. -/
def client : Hop := ⟨mrp ringRoleMrc 0, .secondary, fun _ => 0, fun _ => 0⟩

theorem client_isClient : client.IsClient where
  reachable := ⟨env, args ringRoleMrc 0, .inl rfl, reachable (by decide +kernel)⟩
  role := by decide +kernel
  up := by
    intro r
    cases r <;> decide +kernel

end Sample

/-- One manager and two clients. -/
theorem closed_ring_detected_sample :
    Hop.count [Sample.client, Sample.client] Sample.test.bytes = 2 ∧
      Detects (Sample.mrp ringRoleMrm 0) .secondary
        ⟨Sample.test.bytes, fun _ => 0, fun _ => 0⟩ := by
  have hs : ((Sample.mrp ringRoleMrm 0).sendRingTest .primary).sent =
      Sample.test :: (Sample.mrp ringRoleMrm 0).sent := by decide +kernel
  have hc : ∀ x ∈ [Sample.client, Sample.client], x.IsClient := by
    simp [Sample.client_isClient]
  obtain ⟨-, -, hcount, hdetects⟩ := closed_ring_detected rfl
    (Sample.reachable (by decide +kernel)) (by decide +kernel) hs rfl hc (fun _ => 0) (fun _ => 0)
  exact ⟨hcount, hdetects⟩

end Umrp
