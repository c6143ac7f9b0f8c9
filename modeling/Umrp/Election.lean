import Umrp.ClosedRing
import Umrp.Lib.Network
import Umrp.Ring.Role
import Mathlib.Data.Prod.Lex
import Mathlib.Data.Fintype.Lattice

/-!
# Electing a manager

Auto-managers that hear each other's test frames decide by priority, and by address
among equal priorities, which of them stays the manager: the better one answers with
a NACK, and the worse one gives up when the NACK arrives.  The network may lose,
repeat, delay and reorder frames.

Main results:

- Theorem `Mrp.Beats.total`: of two bridges with different addresses exactly one
  beats the other.
- Theorem `election_safe`: every NACK on the wire comes from a bridge that beats the
  one it names, the best bridge never gives up, and there is always a manager.
-/

namespace Umrp

open Octets

namespace Mrp

/-! ## Who is better -/

/-- Lower priority value, or equal priority and lower address. -/
def Beats (a b : Mrp) : Prop :=
  a.prio < b.prio ∨
    a.prio = b.prio ∧ etherAddrToU64 a.macaddr < etherAddrToU64 b.macaddr

/-- Priority and address as one value; smaller is better. -/
def rank (mrp : Mrp) : ℕ ×ₗ ℕ :=
  toLex (mrp.prio.toNat, (etherAddrToU64 mrp.macaddr).toNat)

theorem beats_iff {a b : Mrp} : a.Beats b ↔ a.rank < b.rank := by
  simp only [Beats, rank, Prod.Lex.toLex_lt_toLex, UInt16.lt_iff_toNat_lt, UInt16.toNat_inj,
    UInt64.lt_iff_toNat_lt]

/-- Different addresses give different ranks. -/
theorem rank_ne {a b : Mrp} (h : a.macaddr ≠ b.macaddr) : a.rank ≠ b.rank := by
  intro hrank
  exact h (etherAddrToU64_injective (Prod.ext_iff.mp hrank).2)

/-- Of two bridges with different addresses exactly one beats the other. -/
theorem Beats.total {a b : Mrp} (h : a.macaddr ≠ b.macaddr) : Xor (a.Beats b) (b.Beats a) := by
  rw [beats_iff, beats_iff]
  rcases lt_or_gt_of_ne (rank_ne h) with hlt | hgt
  · exact .inl ⟨hlt, lt_asymm hlt⟩
  · exact .inr ⟨hgt, lt_asymm hgt⟩

/-- The comparison that the handler of a test frame makes. -/
theorem betterThanOwn_eq_false_iff {a b : Mrp} {hdr : Buf} (hprio : RingTestHdr.prio hdr = b.prio)
    (hsa : RingTestHdr.sa hdr = b.macaddr) (hne : a.macaddr ≠ b.macaddr) :
    a.betterThanOwn hdr = false ↔ a.Beats b := by
  have hbetter : a.betterThanOwn hdr = true ↔ b.Beats a := by
    simp [betterThanOwn, Beats, hprio, hsa]
  rw [← Bool.not_eq_true, hbetter, beats_iff, beats_iff, not_lt]
  exact ⟨fun h => lt_of_le_of_ne h (rank_ne hne), le_of_lt⟩

end Mrp

/-! ## Frames by type -/

/-- A frame of the type of test frames is one. -/
theorem eq_ringTest_of_type {frame : Frame} (h : frame.type = .ringTest) :
    ∃ closed transitions timestamp, frame = .ringTest closed transitions timestamp := by
  cases frame with
  | ringTest closed transitions timestamp => exact ⟨_, _, _, rfl⟩
  | ringLink up _ | inLink up _ => cases up <;> cases h
  | _ => cases h

/-- A frame of the type of option frames is a NACK or a propagate frame. -/
theorem eq_option_of_type {frame : Frame} (h : frame.type = .option) :
    (∃ otherSa, frame = .testMgrNack otherSa) ∨
      ∃ otherPrio otherSa, frame = .testProp otherPrio otherSa := by
  cases frame with
  | testMgrNack otherSa => exact .inl ⟨_, rfl⟩
  | testProp otherPrio otherSa => exact .inr ⟨_, _, rfl⟩
  | ringLink up _ | inLink up _ => cases up <;> cases h
  | _ => cases h

/-! ## The answer to a test frame -/

namespace Mrp

/-- A manager does not relay test frames. -/
theorem relay_ringTest {mrp : Mrp} (hrole : mrp.ringRole = .mrm) (r : RingPort) (fb : FrameBuf) :
    mrp.relay (.ring r) fb .ringTest = mrp := by
  simp [relay, checkAndForward, targets, TlvType.isRingFrame, ringTargets, hrole, Targets.none,
    forwardIf]

/-- A NACK request uses up sequence numbers, so it is never without effect. -/
theorem testMgrNackReq_ne (mrp : Mrp) (sa : Mac) : mrp.testMgrNackReq sa ≠ mrp := by
  have hseq : ∀ (m : Mrp) (r : RingPort) (frame : Frame),
      (m.send (.ring r) frame).seqId = m.seqId + 1 := by
    intro m r frame
    simp only [send, port?]
    split <;> rfl
  intro h
  have h2 : mrp.seqId + 1 + 1 = mrp.seqId := by
    rw [← hseq, ← hseq]
    exact congrArg Mrp.seqId h
  have hnat := congrArg UInt16.toNat h2
  have hlt := mrp.seqId.toNat_lt
  simp only [UInt16.toNat_add, UInt16.toNat_one] at hnat
  omega

/-- An auto-manager in the manager role answers the test frame of another bridge with
a NACK exactly when it beats that bridge. -/
theorem recv_test_iff {mrp other : Mrp} (hmra : mrp.mraSupport = true)
    (hrole : mrp.ringRole = .mrm) (hlive : Ring.Live mrp.ring.state)
    (hne : mrp.macaddr ≠ other.macaddr) {x : Sent} (hx : x.frame.type = .ringTest)
    (hprio : x.prio = other.prio) (hsa : x.sa = other.macaddr) (r : RingPort) {rx : RxFrame}
    (hrx : x.ArrivesAs rx) :
    mrp.recv (.ring r) rx = mrp.testMgrNackReq other.macaddr ↔ mrp.Beats other := by
  rcases eq_ringTest_of_type hx with ⟨_, _, _, hframe⟩
  rcases ringTest_of_starts hrx.copy hframe with ⟨hprio', hsa'⟩
  rw [hprio] at hprio'
  rw [hsa] at hsa'
  have hdel : mrp.delivered (.ring r) rx = some (.ringTest, rx.frameBuf.copy rx.nstale) := by
    rw [← hx]
    refine delivered_arrived hrx rfl ?_ ?_
    · rw [hx]
      exact Hop.shouldDrop_ringTest (hlive r)
    · simp [hx, shouldProcess, hrole]
  have hrecv : mrp.recv (.ring r) rx =
      if mrp.betterThanOwn (tlvBody (rx.frameBuf.copy rx.nstale)) then mrp
      else mrp.testMgrNackReq other.macaddr := by
    rw [(recv_of_delivered hdel).2, relay_ringTest hrole]
    simp [process, recvRingTest, mraRecvRingTest, hsa', hne.symm, hmra, hrole]
  rw [← betterThanOwn_eq_false_iff hprio' hsa' hne, hrecv]
  cases mrp.betterThanOwn (tlvBody (rx.frameBuf.copy rx.nstale)) with
  | true => simp [(mrp.testMgrNackReq_ne other.macaddr).symm]
  | false => simp

end Mrp

/-! ## Instances as parties -/

/-- An instance on the network: it writes the frames that it sends and passes on the
frames that it relays. -/
def party : Network.Party Mrp Event (List UInt8) where
  step := Mrp.step
  receives := fun
    | .recv _ rx => some rx.bytes
    | _ => none
  written := fun mrp => {bytes | ∃ x ∈ mrp.sent, bytes = x.bytes}
  passedOn := fun mrp => {bytes | ∃ x ∈ mrp.relayed, bytes = x.bytes}

/-- A created instance has not relayed anything. -/
theorem Created.passedOn {env : Env} {a : AddArgs} {mrp : Mrp} (h : Created env a mrp) :
    party.passedOn mrp = ∅ := by
  ext bytes
  simp [party, h.relayed]

/-- Events that leave the address of the bridge alone. -/
def KeepsAddress (e : Event) : Prop := ∀ mac, e ≠ .bridgeMac mac

/-- Every frame that is relayed is one that was received. -/
theorem bytes_of_relays {mrp : Mrp} {p : Port} {rx : RxFrame} (hlen : 60 ≤ rx.bytes.length)
    {x : Relay} (hx : x ∈ mrp.relays p rx) : x.bytes = rx.bytes := by
  unfold Mrp.relays at hx
  split at hx
  · simp only [Mrp.relaysOf, List.mem_append, Mrp.mem_relayVia] at hx
    rcases hx with (⟨-, -, rfl⟩ | ⟨-, -, rfl⟩) | ⟨-, -, rfl⟩
    all_goals exact Hop.octets_pad rx hlen
  · cases hx

/-- An instance passes on only what it receives, provided that it is not short. -/
theorem party_relays {kind : Event → Prop} : party.Relays kind fun bytes => 60 ≤ bytes.length where
  written_wf := by
    rintro mrp _ ⟨x, -, rfl⟩
    exact x.length_bytes
  written_mono := by
    rintro mrp e - _ ⟨x, hx, rfl⟩
    exact ⟨x, mrp.step_kept e hx, rfl⟩
  passedOn_step := by
    rintro mrp e - hwf _ ⟨x, hx, rfl⟩
    cases e with
    | recv p rx =>
        have hlen : 60 ≤ rx.bytes.length := hwf rx.bytes rfl
        have hx : x ∈ (mrp.recv p rx).relayed := hx
        rw [mrp.recv_relayed] at hx
        rcases List.mem_append.mp hx with hnew | hold
        · exact .inr (congrArg some (bytes_of_relays hlen hnew).symm)
        · exact .inl ⟨x, hold, rfl⟩
    | _ =>
        rcases mrp.step_relayed _ with hsame | ⟨_, _, h, -⟩
        · rw [party, hsame] at hx
          exact .inl ⟨x, hx, rfl⟩
        · cases h

section Election

variable {ι : Type*} (init : ι → Mrp)

/-- A frame that bridge `i` may have sent: it carries the priority and the address of
the bridge, and if it is a NACK then the bridge beats the one that is named. -/
structure Authored (i : ι) (x : Sent) : Prop where
  prio : x.prio = (init i).prio
  sa : x.sa = (init i).macaddr
  nack : ∀ otherSa, x.frame = .testMgrNack otherSa →
    ∃ k, (init k).macaddr = otherSa ∧ (init i).Beats (init k)

/-- What holds of bridge `i` throughout.  A bridge that no other one beats stays the
manager. -/
structure BridgeInv (i : ι) (mrp : Mrp) : Prop where
  prio : mrp.prio = (init i).prio
  macaddr : mrp.macaddr = (init i).macaddr
  mraSupport : mrp.mraSupport = true
  ring : mrp.ring.AutoInv
  live : Ring.Live mrp.ring.state
  sent : ∀ x ∈ mrp.sent, Authored init i x
  best : (∀ k, ¬ (init k).Beats (init i)) → mrp.ringRole = .mrm

variable {init}

/-- The frame that a handler reads was written by some bridge. -/
theorem exists_authored {e : Event} {p : Port} {rx : RxFrame} {mrp : Mrp} {type : TlvType}
    {buf : Buf} (he : e = .recv p rx) (hdel : mrp.delivered p rx = some (type, buf))
    (hrecv : ∀ bytes, party.receives e = some bytes →
      ∃ j, ∃ x : Sent, bytes = x.bytes ∧ Authored init j x) :
    ∃ j x, Authored init j x ∧ type = x.frame.type ∧ buf.Starts x.payload := by
  subst he
  rcases hrecv rx.bytes rfl with ⟨j, x, hbytes, hx⟩
  have harrive : x.ArrivesAs rx := hbytes
  exact ⟨j, x, hx, Mrp.delivered_of_sent harrive hdel⟩

section Step

variable {i : ι} {mrp : Mrp} {e : Event}
  (hrecv : ∀ bytes, party.receives e = some bytes →
    ∃ j, ∃ x : Sent, bytes = x.bytes ∧ Authored init j x)

include hrecv

/-- A bridge sends a NACK only if it beats the one that it names. -/
theorem BridgeInv.beats_of_nack (h : BridgeInv init i mrp) {otherSa : Mac}
    (hnack : mrp.StepNack e otherSa) :
    ∃ k, (init k).macaddr = otherSa ∧ (init i).Beats (init k) := by
  rcases hnack with ⟨p, rx, buf, he, hdel, -, -, rfl, hne, hbetter⟩
  rcases exists_authored he hdel hrecv with ⟨j, x, hx, htype, hbuf⟩
  rcases eq_ringTest_of_type htype.symm with ⟨_, _, _, hframe⟩
  rcases ringTest_of_starts hbuf hframe with ⟨hprio, hsa⟩
  rw [hx.prio] at hprio
  rw [hx.sa] at hsa
  refine ⟨j, hsa.symm, ?_⟩
  rw [hsa] at hne
  have hbeats := (Mrp.betterThanOwn_eq_false_iff hprio hsa hne.symm).mp hbetter
  simpa [Mrp.Beats, h.prio, h.macaddr] using hbeats

/-- A NACK reaches a bridge only from one that beats it. -/
theorem BridgeInv.beaten_of_nacked (h : BridgeInv init i mrp)
    (hinj : Function.Injective fun j => (init j).macaddr) (hev : mrp.ringEvent e = .nacked) :
    ∃ j, (init j).Beats (init i) := by
  rcases Mrp.exists_of_nacked hev with ⟨p, rx, buf, he, hdel, -, hsub, -, hother⟩
  rcases exists_authored he hdel hrecv with ⟨j, x, hx, htype, hbuf⟩
  rcases eq_option_of_type htype.symm with ⟨otherSa, hframe⟩ | ⟨_, _, hframe⟩
  · rcases testMgrNack_of_starts hbuf hframe with ⟨-, -, -, hread⟩
    rcases hx.nack otherSa hframe with ⟨k, hk, hbeats⟩
    rw [← hread, hother, h.macaddr] at hk
    obtain rfl : k = i := hinj hk
    exact ⟨j, hbeats⟩
  · rw [testProp_of_starts hbuf hframe] at hsub
    cases hsub

/-- One event of a bridge. -/
theorem BridgeInv.step (hinj : Function.Injective fun j => (init j).macaddr)
    (h : BridgeInv init i mrp) (he : KeepsAddress e) : BridgeInv init i (mrp.step e) := by
  have hmac := mrp.step_macaddr e he
  refine ⟨?_, hmac.trans h.macaddr, ?_, ?_, ?_, ?_, ?_⟩
  · rw [mrp.step_toMrpConf]
    exact h.prio
  · rw [mrp.step_toMrpConf]
    exact h.mraSupport
  · rw [mrp.step_ring e]
    exact h.ring.step _
  · rw [mrp.step_ring e]
    exact h.live.step _
  · intro x hx
    rcases mrp.step_sent e he x hx with hold | ⟨hprio, hsa, hnack⟩
    · exact h.sent x hold
    · refine ⟨hprio.trans h.prio, hsa.trans h.macaddr, ?_⟩
      intro otherSa hframe
      exact h.beats_of_nack hrecv (hnack otherSa hframe)
  · intro hbest
    have hring : (mrp.step e).ring.AutoInv := by
      rw [mrp.step_ring e]
      exact h.ring.step _
    refine hring.role.resolve_right fun hmrc => ?_
    have hev : mrp.ringEvent e = .nacked := by
      refine Ring.nacked_of_role (c := mrp.linkConf) (mrp.ringEvent_enabled e) (h.best hbest) ?_
      rw [← mrp.step_ring e]
      exact hmrc
    rcases h.beaten_of_nacked hrecv hinj hev with ⟨j, hj⟩
    exact hbest j hj

end Step

/-- A created auto-manager satisfies the invariant. -/
theorem BridgeInv.created {env : Env} {a : AddArgs} {i : ι} (ha : a.ringRole = ringRoleMra)
    (h : Created env a (init i)) : BridgeInv init i (init i) := by
  have hfresh : (init i).ring.AutoInv ∧ Ring.Live (init i).ring.state ∧
      (init i).ring.role = .mrm := by
    refine h.ring_of_fresh (I := fun x => x.AutoInv ∧ Ring.Live x.state ∧ x.role = .mrm)
      (.inr (.inr ha)) ?_ ?_
    · rw [ha]
      exact ⟨⟨Ring.fresh_distinct, .inl rfl⟩, fun _ => nofun, rfl⟩
    · rintro x r ⟨hinv, hlive, hrole⟩
      refine ⟨hinv.step _, hlive.step _, ?_⟩
      simp only [Ring.step, Ring.linkEvent, hrole]
      exact (Ring.mrmLink_role _ r true).trans hrole
  refine ⟨rfl, rfl, ?_, hfresh.1, hfresh.2.1, ?_, fun _ => hfresh.2.2⟩
  · rw [h.mraSupport, ha]
    rfl
  · intro x hx
    rcases h.sent_own hx with ⟨hprio, hsa, hnack⟩
    exact ⟨hprio, hsa, fun otherSa hframe => absurd hframe (hnack otherSa)⟩

variable [DecidableEq ι] {s : ι → Mrp}

/-- Every bridge keeps its invariant in every reachable state of the network. -/
theorem bridgeInv_of_reach
    (hinit : ∀ i, ∃ env a, a.ringRole = ringRoleMra ∧ Created env a (init i))
    (hinj : Function.Injective fun i => (init i).macaddr)
    (h : Network.Reach party KeepsAddress init s) (i : ι) : BridgeInv init i (s i) := by
  refine h.invariant party_relays ?_ (A := fun j bytes => ∃ x : Sent, bytes = x.bytes ∧
    Authored init j x) ?_ ?_ ?_ i
  · intro i
    rcases hinit i with ⟨env, a, -, hcreated⟩
    exact hcreated.passedOn
  · intro i
    rcases hinit i with ⟨env, a, ha, hcreated⟩
    exact BridgeInv.created ha hcreated
  · rintro i mrp hmrp _ ⟨x, hx, rfl⟩
    exact ⟨x, rfl, hmrp.sent x hx⟩
  · intro i mrp e he hmrp hrecv
    exact hmrp.step hrecv hinj he

/-- What the election guarantees in a state of the network. -/
structure ElectionSafe (s : ι → Mrp) : Prop where
  /-- every frame on the wire was sent by some bridge -/
  origin : ∀ bytes ∈ Network.pool party s, ∃ j, ∃ x ∈ (s j).sent, bytes = x.bytes
  /-- the sender of a NACK beats the bridge that is named in it -/
  nack : ∀ j, ∀ x ∈ (s j).sent, ∀ otherSa, x.frame = .testMgrNack otherSa →
    ∃ k, (s k).macaddr = otherSa ∧ (s j).Beats (s k)
  /-- a bridge that beats all others is a manager -/
  best : ∀ b, (∀ i, i ≠ b → (s b).Beats (s i)) → (s b).ringRole = .mrm
  /-- there is a manager -/
  manager : ∃ i, (s i).ringRole = .mrm
  /-- of two managers that get each other's test frames, exactly one answers with a NACK -/
  one_answers : ∀ i j, i ≠ j → (s i).ringRole = .mrm → (s j).ringRole = .mrm →
    ∀ x ∈ (s i).sent, ∀ y ∈ (s j).sent, x.frame.type = .ringTest → y.frame.type = .ringTest →
    ∀ p q rx ry, y.ArrivesAs rx → x.ArrivesAs ry →
      Xor ((s i).recv (.ring p) rx = (s i).testMgrNackReq (s j).macaddr)
        ((s j).recv (.ring q) ry = (s j).testMgrNackReq (s i).macaddr)

/-- Any number of auto-managers with different addresses, created as `mrp_add` does,
on a network that delivers their own frames in any order, any number of times, or
not at all, with any link events and timers in between. -/
theorem election_safe [Finite ι] [Nonempty ι]
    (hinit : ∀ i, ∃ env a, a.ringRole = ringRoleMra ∧ Created env a (init i))
    (hinj : Function.Injective fun i => (init i).macaddr)
    (h : Network.Reach party KeepsAddress init s) : ElectionSafe s := by
  have hinv := bridgeInv_of_reach hinit hinj h
  have hbeats : ∀ i j, (s i).Beats (s j) ↔ (init i).Beats (init j) := by
    intro i j
    simp [Mrp.Beats, (hinv i).prio, (hinv j).prio, (hinv i).macaddr, (hinv j).macaddr]
  have hne : ∀ i j, i ≠ j → (s i).macaddr ≠ (s j).macaddr := by
    intro i j hij hmac
    rw [(hinv i).macaddr, (hinv j).macaddr] at hmac
    exact hij (hinj hmac)
  refine ⟨?_, ?_, ?_, ?_, ?_⟩
  · intro bytes hbytes
    refine h.exists_author party_relays (fun i => ?_) hbytes
    rcases hinit i with ⟨env, a, -, hcreated⟩
    exact hcreated.passedOn
  · intro j x hx otherSa hframe
    rcases ((hinv j).sent x hx).nack otherSa hframe with ⟨k, hk, hjk⟩
    exact ⟨k, (hinv k).macaddr.trans hk, (hbeats j k).mpr hjk⟩
  · intro b hb
    refine (hinv b).best fun k hk => ?_
    rcases eq_or_ne k b with rfl | hkb
    · exact lt_irrefl _ (Mrp.beats_iff.mp hk)
    · have hbk := (hbeats b k).mp (hb k hkb)
      exact lt_asymm (Mrp.beats_iff.mp hk) (Mrp.beats_iff.mp hbk)
  · rcases Finite.exists_min fun i => (init i).rank with ⟨b, hb⟩
    refine ⟨b, (hinv b).best fun k hk => ?_⟩
    exact absurd (Mrp.beats_iff.mp hk) (not_lt.mpr (hb k))
  · intro i j hij hi hj x hx y hy hxt hyt p q rx ry hrx hry
    have hx' := (hinv i).sent x hx
    have hy' := (hinv j).sent y hy
    rw [Mrp.recv_test_iff (hinv i).mraSupport hi (hinv i).live (hne i j hij) hyt
        (hy'.prio.trans (hinv j).prio.symm) (hy'.sa.trans (hinv j).macaddr.symm) p hrx,
      Mrp.recv_test_iff (hinv j).mraSupport hj (hinv j).live (hne j i hij.symm) hxt
        (hx'.prio.trans (hinv i).prio.symm) (hx'.sa.trans (hinv i).macaddr.symm) q hry]
    exact Mrp.Beats.total (hne i j hij)

end Election

/-- Arguments for one of two auto-managers. -/
def Sample.autoArgs (first : Bool) : AddArgs :=
  { Sample.args ringRoleMra 0 with brIfindex := if first then 1 else 5 }

/-- One of two auto-managers. -/
def Sample.auto (first : Bool) : Mrp := (firstInstance env (autoArgs first)).1

/-- Two auto-managers, after the test timer of the first has expired. -/
theorem election_safe_sample :
    ElectionSafe (Function.update Sample.auto true
      (party.step (Sample.auto true) (.expired .ringTest))) := by
  have hinit : ∀ i, ∃ env a, a.ringRole = ringRoleMra ∧ Created env a (Sample.auto i) := by
    intro i
    refine ⟨Sample.env, Sample.autoArgs i, rfl, created_firstInstance rfl ?_⟩
    cases i <;> decide +kernel
  have hinj : Function.Injective fun i => (Sample.auto i).macaddr := by
    intro i j
    cases i <;> cases j <;> decide +kernel
  have hreach : Network.Reach party KeepsAddress Sample.auto Sample.auto := .init
  exact election_safe hinit hinj (hreach.step true (.expired .ringTest) nofun nofun)

end Umrp
