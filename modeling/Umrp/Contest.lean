import Umrp.Election
import Umrp.Healing

/-!
# Two auto-managers in a ring

Two bridges that both act as managers hear each other's test frames through the clients
between them.  One round of a test frame and its answer decides between them, provided that
every client on the way supports auto-managers: a client that does not keeps option frames
to itself, and then both stay managers.

Main results:

- Theorem `Mrp.recv_nack`: a manager that is named by a NACK gives up its role.
- Theorem `contest_decided`: from the test frame of the worse bridge to its change of role.
-/

namespace Umrp

open Octets EventMachine

namespace Mrp

variable {mrp : Mrp}

/-! ## The better bridge -/

/-- The answer to a test frame is a NACK on every ring port that is up. -/
theorem spreads_testMgrNackReq (hd : mrp.pPort ≠ mrp.sPort) (otherSa : Mac) :
    ∃ new, Spreads mrp (mrp.testMgrNackReq otherSa) (.testMgrNack otherSa) new := by
  have hreq : mrp.testMgrNackReq otherSa =
      mrp.sendAll [.ring mrp.pPort, .ring mrp.sPort] (.testMgrNack otherSa) :=
    rfl
  rw [hreq]
  exact exists_spreads_sendAll hd (by simp) (by simp) _

theorem testMgrNackReq_macaddr (mrp : Mrp) (otherSa : Mac) :
    (mrp.testMgrNackReq otherSa).macaddr = mrp.macaddr := by
  simp only [testMgrNackReq, sendTestMgrNack, send_macaddr]

/-! ## The worse bridge -/

/-- A manager takes no notice of the test frame of a bridge that it does not beat. -/
theorem recv_test_of_beaten {other : Mrp} (hmra : mrp.mraSupport = true)
    (hrole : mrp.ringRole = .mrm) (hlive : Ring.Live mrp.ring.state)
    (hbeats : other.Beats mrp) (hne : mrp.macaddr ≠ other.macaddr) {x : Sent}
    (hx : x.frame.type = .ringTest) (hprio : x.prio = other.prio) (hsa : x.sa = other.macaddr)
    (r : RingPort) {rx : RxFrame} (hrx : x.ArrivesAs rx) : mrp.recv (.ring r) rx = mrp := by
  rcases eq_ringTest_of_type hx with ⟨_, _, _, hframe⟩
  rcases ringTest_of_starts hrx.copy hframe with ⟨hprio', hsa'⟩
  rw [hprio] at hprio'
  rw [hsa] at hsa'
  have hdel : mrp.delivered (.ring r) rx = some (.ringTest, rx.frameBuf.copy rx.nstale) := by
    rw [← hx]
    refine delivered_arrived hrx rfl ?_ ?_
    · rw [hx]
      exact Hop.shouldDrop_ringTest (hlive r)
    · simp [hx, shouldProcess, hrole]
  have hbetter : mrp.betterThanOwn (tlvBody (rx.frameBuf.copy rx.nstale)) = true := by
    rw [← Bool.not_eq_false, betterThanOwn_eq_false_iff hprio' hsa' hne, beats_iff]
    rw [beats_iff] at hbeats
    exact lt_asymm hbeats
  rw [(recv_of_delivered hdel).2, relay_ringTest hrole]
  simp [process, recvRingTest, mraRecvRingTest, hsa', hne.symm, hmra, hrole, hbetter]

/-- A manager that is named by the NACK of another bridge gives up its role, unless it has
no link. -/
theorem recv_nack (hmra : mrp.mraSupport = true) (hrole : mrp.ringRole = .mrm)
    (hlive : Ring.Live mrp.ring.state) {n : Sent} (hn : n.frame = .testMgrNack mrp.macaddr)
    (hsa : n.sa ≠ mrp.macaddr) (r : RingPort) {rx : RxFrame} (hrx : n.ArrivesAs rx) :
    (mrp.recv (.ring r) rx).ringRole = if mrp.mrmState = .acStat1 then .mrm else .mrc := by
  have htype : n.frame.type = .option := by rw [hn]; rfl
  have hdel : mrp.delivered (.ring r) rx = some (.option, rx.frameBuf.copy rx.nstale) := by
    rw [← htype]
    refine delivered_arrived hrx rfl ?_ ?_
    · rw [htype]
      exact Hop.shouldDrop_ringFrame (hlive r) rfl
    · simp [htype, shouldProcess, hmra]
  obtain ⟨hsub, -, hsa', hother⟩ := testMgrNack_of_starts hrx.copy hn
  have hrecv : mrp.recv (.ring r) rx =
      (mrp.recordHost (subTlvBody (subTlv (rx.frameBuf.copy rx.nstale)))).yieldRole := by
    rw [(recv_of_delivered hdel).2, relay_ringFrame hrole r _ rfl]
    simp only [process, recvOption, hsub, if_true, recvNack, hrole, hsa', hother, reduceCtorEq,
      if_false]
    rw [if_neg (by simpa [etherAddrEqual_iff] using hsa), if_neg (by simp [etherAddrEqual_iff])]
  have hring : (mrp.recv (.ring r) rx).ring.role = (mrp.ring.giveUp mrp.linkConf).role := by
    rw [hrecv, ring_yieldRole, ring_recordHost]
    congr 2
    have hop : RingOp (fun _ => False) mrp
        (mrp.recordHost (subTlvBody (subTlv (rx.frameBuf.copy rx.nstale)))) :=
      recordHost_op mrp _
    exact congrArg MrpConf.linkConf hop.toMrpConf
  have hmrm : mrp.ring.mrm = mrp.mrmState := rfl
  have hrole' : mrp.ring.role = .mrm := hrole
  refine hring.trans ?_
  unfold Ring.giveUp
  rw [hmrm]
  cases mrp.mrmState with
  | acStat1 => exact hrole'
  | prmUp => rfl
  | chkRo => rfl
  | chkRc => rfl

end Mrp

/-- An instance created as an auto-manager supports them for good. -/
theorem Reachable.mraSupport {env : Env} {a : AddArgs} {mrp : Mrp} (h : Reachable env a mrp)
    (ha : a.ringRole = ringRoleMra) : mrp.mraSupport = true := by
  obtain ⟨m₀, es, hm₀, rfl⟩ := h
  rw [run_toMrpConf, hm₀.mraSupport, ha]
  rfl

/-- Two auto-managers of one ring that both act as managers, of which `m` beats `m'`.  The test
frame `s` of the worse one passes any chain of clients and is answered by the better one with
NACKs, on every ring port that is up.  A NACK passes a chain of clients unchanged if all of
them support auto-managers, and is lost otherwise; where it arrives, the worse bridge becomes
a client, unless it has no link.  The test frames of the better bridge change nothing at the
worse one. -/
theorem contest_decided {env env' : Env} {a a' : AddArgs} {m m' : Mrp}
    (ha : a.ringRole = ringRoleMra) (hm : Reachable env a m) (hrole : m.ringRole = .mrm)
    (ha' : a'.ringRole = ringRoleMra) (hm' : Reachable env' a' m') (hrole' : m'.ringRole = .mrm)
    (hne : m.macaddr ≠ m'.macaddr) (hbeats : m.Beats m') {s : Sent}
    (hs : s.frame.type = .ringTest) (hprio : s.prio = m'.prio) (hsa : s.sa = m'.macaddr) :
    (∀ hops : List Hop, (∀ h ∈ hops, h.IsClient) → Hop.through hops s.bytes = [s.bytes]) ∧
    (∀ q rx, s.ArrivesAs rx →
      ∃ new, m.Spreads (m.recv (.ring q) rx) (.testMgrNack m'.macaddr) new ∧
      ∀ n ∈ new,
        (∀ hops : List Hop, (∀ h ∈ hops, h.IsClient) → Hop.through hops n.bytes =
          if ∀ h ∈ hops, h.node.mraSupport = true then [n.bytes] else []) ∧
        ∀ q' rx', n.ArrivesAs rx' → (m'.recv (.ring q') rx').ringRole =
          if m'.mrmState = .acStat1 then .mrm else .mrc) ∧
    ∀ x : Sent, x.frame.type = .ringTest → x.prio = m.prio → x.sa = m.macaddr →
      ∀ q rx, x.ArrivesAs rx → m'.recv (.ring q) rx = m' := by
  have hmra : m.mraSupport = true := hm.mraSupport ha
  have hmra' : m'.mraSupport = true := hm'.mraSupport ha'
  have hlive : Ring.Live m.ring.state := hm.live (.inr (.inr ha))
  have hlive' : Ring.Live m'.ring.state := hm'.live (.inr (.inr ha'))
  refine ⟨?_, ?_, ?_⟩
  · exact fun hops hhops => Hop.through_eq hs hhops
  · intro q rx hrx
    have hrecv := (Mrp.recv_test_iff hmra hrole hlive hne hs hprio hsa q hrx).mpr hbeats
    obtain ⟨new, hnew⟩ := Mrp.spreads_testMgrNackReq hm.distinct m'.macaddr
    refine ⟨new, hrecv ▸ hnew, ?_⟩
    intro n hn
    obtain ⟨hframe, hsa', -⟩ := hnew.own n hn
    rw [Mrp.testMgrNackReq_macaddr] at hsa'
    have htype : n.frame.type = .option := by rw [hframe]; rfl
    refine ⟨?_, ?_⟩
    · intro hops hhops
      rw [Hop.through_ring (by rw [hframe]; rfl) hhops]
      by_cases hall : ∀ h ∈ hops, h.node.mraSupport = true
      · rw [if_pos hall, if_neg]
        rintro ⟨h, hh, -, hnone⟩
        rw [hall h hh] at hnone
        cases hnone
      · rw [if_neg hall, if_pos]
        obtain ⟨h, hnot⟩ := not_forall.mp hall
        obtain ⟨hh, hnone⟩ := Classical.not_imp.mp hnot
        exact ⟨h, hh, htype, by simpa using hnone⟩
    · intro q' rx' hrx'
      exact Mrp.recv_nack hmra' hrole' hlive' hframe (by rw [hsa']; exact hne) q' hrx'
  · intro x hx hxprio hxsa q rx hrx
    exact Mrp.recv_test_of_beaten hmra' hrole' hlive' hbeats hne.symm hx hxprio hxsa q hrx

/-- A test frame of the second of two auto-managers, after its creation. -/
def Sample.rival : Sent :=
  let m := auto false
  m.compose (.ring .primary) (m.ringPort .primary)
    (.ringTest (m.mrmState = .chkRc) m.ringTransitions (m.clock m.sent.length))

/-- The second of two auto-managers becomes a client when the NACK arrives. -/
theorem contest_decided_sample :
    ∃ new, (Sample.auto true).Spreads
      ((Sample.auto true).recv (.ring .primary) ⟨Sample.rival.bytes, fun _ => 0, fun _ => 0⟩)
      (.testMgrNack (Sample.auto false).macaddr) new ∧
      ∀ n ∈ new, ((Sample.auto false).recv (.ring .secondary)
        ⟨n.bytes, fun _ => 0, fun _ => 0⟩).ringRole = .mrc := by
  have hm : ∀ i, Reachable Sample.env (Sample.autoArgs i) (Sample.auto i) := by
    intro i
    refine ⟨Sample.auto i, [], created_firstInstance rfl ?_, rfl⟩
    cases i <;> decide +kernel
  have hstate : (Sample.auto false).mrmState = .chkRc := by decide +kernel
  obtain ⟨-, hanswer, -⟩ := contest_decided (s := Sample.rival) rfl (hm true) (by decide +kernel) rfl
    (hm false) (by decide +kernel) (by decide +kernel) (by unfold Mrp.Beats; decide +kernel) rfl rfl rfl
  obtain ⟨new, hnew, hall⟩ := hanswer .primary ⟨Sample.rival.bytes, fun _ => 0, fun _ => 0⟩ rfl
  refine ⟨new, hnew, ?_⟩
  intro n hn
  rw [(hall n hn).2 .secondary ⟨n.bytes, fun _ => 0, fun _ => 0⟩ rfl, hstate]
  rfl

end Umrp
