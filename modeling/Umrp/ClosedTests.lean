import Umrp.Inter.Ports
import Umrp.Ring.Ports
import Umrp.Sending

/-!
# Test frames that say the ring is closed

A manager puts into each test frame whether its ring is open or closed, as its state
says at that moment.  The frame should say closed only while the port that keeps the
ring closed is blocked.

When the manager opens the ring because its test frames do not come back, it opens the
port first, sends test frames next and changes its state last.  These frames still say
closed.

Main results:

- Theorem `closed_tests_blocked`: along a run without such an opening, and without the
  leftover expiries of an auto-manager, the frames say closed only while the port is
  blocked.
-/

namespace Umrp

open Octets EventMachine

/-! ## Frames -/

/-- A test frame that says closed left while the secondary port was blocked. -/
def Sent.RingTruthful (x : Sent) : Prop :=
  ∀ transitions timestamp, x.frame = .ringTest true transitions timestamp →
    x.view.sState = .blocked

/-- A test frame of the interconnection that says closed left while the
interconnection port was blocked. -/
def Sent.InTruthful (x : Sent) : Prop :=
  ∀ transitions timestamp, x.frame = .inTest true transitions timestamp →
    x.view.iState = some .blocked

/-- Every test frame of the ring in the log is truthful. -/
def RingTruthfulLog (log : List Sent) : Prop := ∀ x ∈ log, x.RingTruthful

/-- Every test frame of the interconnection in the log is truthful. -/
def InTruthfulLog (log : List Sent) : Prop := ∀ x ∈ log, x.InTruthful

/-- A manager in CHK_RC keeps its secondary port blocked. -/
def Ring.Shut (x : Ring) : Prop := x.mrm = .chkRc → x.state x.sPort = .blocked

/-- A manager in CHK_IC keeps its interconnection port blocked. -/
def Inter.Shut (x : Inter) : Prop :=
  x.mim = .chkIc → x.port.map InterPort.state = some .blocked

namespace Mrp

/-- Every test frame of the ring that was sent is truthful. -/
def RingTruthful (mrp : Mrp) : Prop := RingTruthfulLog mrp.sent

/-- Every test frame of the interconnection that was sent is truthful. -/
def InTruthful (mrp : Mrp) : Prop := InTruthfulLog mrp.sent

section Congr

variable {a b : Mrp}

/-- Only the test frames in the log matter. -/
theorem ringTruthful_congr (h : b.sentOf (· = .ringTest) = a.sentOf (· = .ringTest)) :
    b.RingTruthful ↔ a.RingTruthful := by
  have hof : ∀ m : Mrp, m.RingTruthful ↔ ∀ x ∈ m.sentOf (· = .ringTest), x.RingTruthful := by
    intro m
    simp only [RingTruthful, RingTruthfulLog, sentOf, List.mem_filter, decide_eq_true_eq, and_imp]
    constructor
    · exact fun hm x hx _ => hm x hx
    · intro hm x hx transitions timestamp hframe
      refine hm x hx ?_ transitions timestamp hframe
      rw [hframe]
      rfl
  rw [hof, hof, h]

theorem inTruthful_congr (h : b.sentOf (· = .inTest) = a.sentOf (· = .inTest)) :
    b.InTruthful ↔ a.InTruthful := by
  have hof : ∀ m : Mrp, m.InTruthful ↔ ∀ x ∈ m.sentOf (· = .inTest), x.InTruthful := by
    intro m
    simp only [InTruthful, InTruthfulLog, sentOf, List.mem_filter, decide_eq_true_eq, and_imp]
    constructor
    · exact fun hm x hx _ => hm x hx
    · intro hm x hx transitions timestamp hframe
      refine hm x hx ?_ transitions timestamp hframe
      rw [hframe]
      rfl
  rw [hof, hof, h]

end Congr

/-! ## Sending -/

section Sends

variable {b : Mrp}

/-- What is sent is truthful if the port is blocked, or if it says nothing. -/
theorem ringTruthful_send {p : Port} {frame : Frame}
    (h : ∀ transitions timestamp, frame = .ringTest true transitions timestamp →
      b.sState = .blocked) : (b.send p frame).RingTruthful ↔ b.RingTruthful := by
  unfold send
  split
  next => rfl
  next port _ =>
    split
    · simp only [RingTruthful, RingTruthfulLog, List.forall_mem_cons, and_iff_right_iff_imp]
      exact fun _ => h
    · rfl

theorem inTruthful_send {p : Port} {frame : Frame}
    (h : ∀ transitions timestamp, frame = .inTest true transitions timestamp →
      b.iPort.map MrpPort.state = some .blocked) : (b.send p frame).InTruthful ↔ b.InTruthful := by
  unfold send
  split
  next => rfl
  next port _ =>
    split
    · simp only [InTruthful, InTruthfulLog, List.forall_mem_cons, and_iff_right_iff_imp]
      exact fun _ => h
    · rfl

/-- The state that a test frame reports is the one that its sender is in. -/
@[simp]
theorem ringTruthful_ringTestReq (h : b.ring.mrm = .chkRc → b.ring.state b.ring.sPort = .blocked)
    (interval : UInt32) :
    RingTruthfulLog (b.ringTestReq interval).sent ↔ RingTruthfulLog b.sent := by
  have hsend : ∀ {c : Mrp} {r : RingPort}, c.ring = b.ring →
      ((c.sendRingTest r).RingTruthful ↔ c.RingTruthful) := by
    intro c r hring
    refine ringTruthful_send ?_
    intro transitions timestamp hframe
    rw [Frame.ringTest.injEq, decide_eq_true_eq] at hframe
    rw [← hring] at h
    exact h hframe.1
  have hsent : (b.ringTestReq interval).sent =
      ((b.sendRingTest b.pPort).sendRingTest b.sPort).sent := rfl
  rw [hsent]
  exact (hsend (c := b.sendRingTest b.pPort) (b.ring_send _ _)).trans (hsend (c := b) rfl)

@[simp]
theorem ringTruthful_ringTopoReq (time : UInt32) :
    RingTruthfulLog (b.ringTopoReq time).sent ↔ RingTruthfulLog b.sent :=
  ringTruthful_congr (b.ringTopoReq_sentOf rfl time)

@[simp]
theorem inTruthful_inTestReq
    (h : b.inter.mim = .chkIc → b.inter.port.map InterPort.state = some .blocked)
    (interval : UInt32) :
    InTruthfulLog (b.inTestReq interval).sent ↔ InTruthfulLog b.sent := by
  have hsend : ∀ {c : Mrp} {p : Port}, c.inter = b.inter →
      ((c.sendInTest p).InTruthful ↔ c.InTruthful) := by
    intro c p hinter
    refine inTruthful_send ?_
    intro transitions timestamp hframe
    rw [Frame.inTest.injEq, decide_eq_true_eq] at hframe
    rw [← hinter] at h
    have hport := h hframe.1
    rwa [inter_port, Option.map_map] at hport
  have hsent : (b.inTestReq interval).sent =
      (((b.sendInTest (.ring b.pPort)).sendInTest (.ring b.sPort)).sendInTest .inter).sent := rfl
  have hfirst : (b.sendInTest (.ring b.pPort)).inter = b.inter := b.inter_send _ _
  have hsecond : ((b.sendInTest (.ring b.pPort)).sendInTest (.ring b.sPort)).inter = b.inter :=
    (inter_send _ _ _).trans hfirst
  rw [hsent]
  exact ((hsend hsecond).trans (hsend hfirst)).trans (hsend (c := b) rfl)

@[simp]
theorem inTruthful_inTopoReq (time : UInt32) :
    InTruthfulLog (b.inTopoReq time).sent ↔ InTruthfulLog b.sent :=
  inTruthful_congr (b.inTopoReq_sentOf rfl time)

@[simp]
theorem inTruthful_inLinkStatusReq (interval : UInt32) :
    InTruthfulLog (b.inLinkStatusReq interval).sent ↔ InTruthfulLog b.sent :=
  inTruthful_congr (b.inLinkStatusReq_sentOf rfl interval)

end Sends

/-! ## Ring handlers -/

section RingHandlers

variable {mrp : Mrp}

/-- A manager that loses the link of its primary port in CHK_RC still says closed, and
the port it has just closed is now the secondary one. -/
theorem RingTruthful.mrmPortLink (h : mrp.RingTruthful) (r : RingPort) {up : Bool}
    (hd : up = false → mrp.pPort ≠ mrp.sPort) : (mrp.mrmPortLink r up).RingTruthful := by
  unfold RingTruthful at h ⊢
  unfold Mrp.mrmPortLink
  cases hm : mrp.mrmState with
  | acStat1 =>
      dsimp only
      repeat' split
      all_goals simpa [Ring.set, hm] using h
  | prmUp =>
      have htest := ringTruthful_ringTestReq (b := mrp.resetRingTestCount.setNoTc true)
        (by simp [hm]) mrp.ringTestConfInterval
      dsimp only
      repeat' split
      · simpa using h
      · rw [sent_setMrmState]
        exact htest.mpr h
      · exact h
  | chkRo =>
      dsimp only
      repeat' split
      all_goals simpa [Ring.set, hm] using h
  | chkRc =>
      dsimp only
      repeat' split
      next hp =>
        simpa [Ring.set, hp.2, hd hp.1] using h
      · simpa using h
      · exact h

/-- The answers to an own test frame are sent before the state changes. -/
theorem RingTruthful.mrmRecvRingTest (h : mrp.RingTruthful) :
    mrp.mrmRecvRingTest.RingTruthful := by
  unfold RingTruthful at h ⊢
  unfold Mrp.mrmRecvRingTest
  cases hm : mrp.mrmState with
  | acStat1 => exact h
  | prmUp =>
      have htest := ringTruthful_ringTestReq (b := mrp.restartTestCount) (by simp [hm])
        mrp.ringTestConfInterval
      rw [sent_setMrmState]
      exact htest.mpr h
  | chkRo => simpa [Ring.set, hm] using h
  | chkRc => simpa using h

/-- A link change frame makes a manager that stays in its state send test frames. -/
theorem RingTruthful.recvRingLink (h : mrp.RingTruthful) (hs : mrp.ring.Shut) (buf : Buf) :
    (mrp.recvRingLink buf).RingTruthful := by
  unfold RingTruthful at h ⊢
  have htest : ∀ interval,
      RingTruthfulLog ((mrp.setAddTest true).ringTestReq interval).sent := fun interval =>
    (ringTruthful_ringTestReq (b := mrp.setAddTest true) hs interval).mpr h
  unfold Mrp.recvRingLink
  cases hm : mrp.mrmState with
  | acStat1 => exact h
  | prmUp =>
      dsimp only
      repeat' split
      · exact h
      · exact htest _
      · exact h
      · exact (ringTruthful_ringTopoReq _).mpr h
      · exact (ringTruthful_ringTopoReq _).mpr (htest _)
  | chkRo =>
      dsimp only
      repeat' split
      · exact htest _
      · exact h
      · exact h
      · exact htest _
      · simpa [Ring.set, hm] using h
      · simpa [Ring.set, hm] using h
      · exact h
  | chkRc =>
      dsimp only
      repeat' split
      · exact h
      · exact htest _
      · simpa using h
      · simpa using h
      · exact h

/-- An expiry of the test timer sends what the state says, unless it opens the ring. -/
theorem RingTruthful.ringTestExpired (h : mrp.RingTruthful)
    (hs : mrp.ringRole = .mrm → mrp.ring.Shut)
    (hopen : ¬ (mrp.ringRole = .mrm ∧ mrp.mrmState = .chkRc ∧
      mrp.ringTestCurr ≥ mrp.ringTestCurrMax)) : mrp.ringTestExpired.RingTruthful := by
  unfold RingTruthful at h ⊢
  unfold Mrp.ringTestExpired
  split
  · rw [mrcRingTestExpired_sent]
    exact h
  · split
    next hrole =>
      have htest : ∀ {b : Mrp}, b.sent = mrp.sent → b.ring = mrp.ring →
          RingTruthfulLog (b.ringTestReq mrp.ringTestConfInterval).sent := by
        intro b hsent hring
        rw [ringTruthful_ringTestReq, hsent]
        · exact h
        · rw [hring]
          exact hs hrole
      unfold mrmRingTestExpired
      cases hm : mrp.mrmState with
      | acStat1 => exact h
      | prmUp => exact htest rfl rfl
      | chkRo => exact htest rfl rfl
      | chkRc =>
          dsimp only
          split
          next hmax => exact absurd ⟨hrole, hm, hmax⟩ hopen
          next => exact htest rfl rfl
    next => exact h

end RingHandlers

/-! ## Interconnection handlers -/

section InHandlers

variable {mrp : Mrp}

/-- A manager that loses its link blocks the port before it says anything. -/
theorem InTruthful.mimPortLink (h : mrp.InTruthful) {up : Bool}
    (hport : up = false → mrp.iPort.isSome = true) : (mrp.mimPortLink up).InTruthful := by
  unfold InTruthful at h ⊢
  unfold Mrp.mimPortLink
  cases up with
  | true =>
      cases mrp.inMode <;> cases hm : mrp.mimState <;> simpa [Inter.set, hm] using h
  | false =>
      rcases Option.isSome_iff_exists.mp (hport rfl) with ⟨port, hsome⟩
      cases mrp.inMode <;> cases hm : mrp.mimState <;>
        simpa [Inter.set, MrpPort.inter, hsome, hm] using h

/-- The answers to a test frame are sent before the state changes. -/
theorem InTruthful.recvInTest (h : mrp.InTruthful) (buf : Buf) :
    (mrp.recvInTest buf).InTruthful := by
  unfold InTruthful at h ⊢
  unfold Mrp.recvInTest mimRecvInTest
  split
  · exact h
  · cases hm : mrp.mimState <;> simpa [Inter.set, hm] using h

/-- A link change frame makes a manager in CHK_IO send test frames. -/
theorem InTruthful.recvInLink (h : mrp.InTruthful) (buf : Buf) :
    (mrp.recvInLink buf).InTruthful := by
  unfold InTruthful at h ⊢
  unfold Mrp.recvInLink
  cases hm : mrp.mimState with
  | acStat1 => exact h
  | chkIo =>
      dsimp only
      split
      · exact (inTruthful_inTestReq (by simp [hm]) _).mpr h
      · exact h
  | chkIc =>
      dsimp only
      repeat' split
      · simpa using h
      · simpa using h
      · exact h

/-- An expiry of the test timer sends what the state says, unless it opens the
interconnection. -/
theorem InTruthful.inTestExpired (h : mrp.InTruthful) (hs : mrp.inter.Shut)
    (hopen : ¬ (mrp.mimState = .chkIc ∧ mrp.inTestCurr ≥ mrp.inTestCurrMax)) :
    mrp.inTestExpired.InTruthful := by
  unfold Mrp.inTestExpired
  cases hm : mrp.mimState with
  | acStat1 => exact h
  | chkIo => exact (inTruthful_inTestReq hs _).mpr h
  | chkIc =>
      dsimp only
      split
      next hmax => exact absurd ⟨hm, hmax⟩ hopen
      next =>
        exact (inTruthful_inTestReq (b := mrp.setInTestCurr (mrp.inTestCurr + 1)) hs
          mrp.inTestConfInterval).mpr h

end InHandlers

end Mrp

/-! ## Ports while the ring is closed -/

namespace Ring

/-- The manager machine keeps the secondary port blocked unless it has opened the ring,
and without a link the primary port as well. -/
def MrmBlocks (x : Ring) : Prop :=
  (x.mrm ≠ .chkRo → x.state x.sPort = .blocked) ∧
    (x.mrm = .acStat1 → x.state x.pPort = .blocked)

/-- The same for the client machine. -/
def MrcBlocks (x : Ring) : Prop :=
  (x.mrc ≠ .ptIdle → x.state x.sPort = .blocked) ∧
    (x.mrc = .acStat1 → x.state x.pPort = .blocked)

/-- The machine in charge blocks the ports that its state says. -/
structure SecondaryInv (x : Ring) : Prop extends AutoInv x where
  mrm : x.role = .mrm → x.MrmBlocks
  mrc : x.role = .mrc → x.MrcBlocks

/-- The last expiry of an announcement timer that outlived the state it was started in
and leaves the secondary port open behind the back of the machine in charge. -/
def Unblocks (x : Ring) : Event → Prop
  | .linkUpTick => x.count = 0 ∧ x.role = .mrm ∧ x.mrm ≠ .chkRo
  | .linkDownTick => x.count = 0 ∧ x.role = .mrc ∧ x.mrc = .ptIdle
  | _ => False

variable {c : LinkConf} {x : Ring}

/-- Link changes on a manager. -/
theorem mrmLink_blocks (hd : x.pPort ≠ x.sPort) (hx : x.MrmBlocks) (r : RingPort) (up : Bool) :
    (x.mrmLink r up).MrmBlocks := by
  unfold mrmLink
  have hs := hd.symm
  rcases eq_or_ne r x.pPort with rfl | hr
  · cases hm : x.mrm <;> cases up <;> simp_all [MrmBlocks, set]
  · have hr' := hr.symm
    cases hm : x.mrm <;> cases up <;> simp_all [MrmBlocks, set]

/-- Link changes on a client. -/
theorem mrcLink_blocks (hd : x.pPort ≠ x.sPort) (hx : x.MrcBlocks) (r : RingPort) (up : Bool) :
    (x.mrcLink c r up).MrcBlocks := by
  unfold mrcLink
  have hs := hd.symm
  rcases eq_or_ne r x.pPort with rfl | hr
  · cases hm : x.mrc <;> cases up <;> simp_all [MrcBlocks, set]
  · have hr' := hr.symm
    cases hm : x.mrc <;> cases up <;> simp_all [MrcBlocks, set]

/-- A link event. -/
theorem SecondaryInv.link (hx : SecondaryInv x) (r : RingPort) (up : Bool) :
    SecondaryInv (x.linkEvent c r up) := by
  refine ⟨hx.toAutoInv.step (.link r up), ?_, ?_⟩
  · intro hrole
    rcases hx.role with h | h
    · have hlink : x.linkEvent c r up = (x.note r up).mrmLink r up := by simp [linkEvent, h]
      rw [hlink]
      exact mrmLink_blocks (x := x.note r up) hx.distinct (hx.mrm h) r up
    · have hkept : (x.linkEvent c r up).role = .mrc := by
        simp only [linkEvent, h]
        exact (mrcLink_role c (x.note r up) r up).trans h
      rw [hkept] at hrole
      cases hrole
  · intro hrole
    rcases hx.role with h | h
    · have hkept : (x.linkEvent c r up).role = .mrm := by
        simp only [linkEvent, h]
        exact ((x.note r up).mrmLink_role r up).trans h
      rw [hkept] at hrole
      cases hrole
    · have hlink : x.linkEvent c r up = (x.note r up).mrcLink c r up := by simp [linkEvent, h]
      rw [hlink]
      exact mrcLink_blocks (x := x.note r up) hx.distinct (hx.mrc h) r up

/-- Every other event keeps it. -/
theorem SecondaryInv.step (hx : SecondaryInv x) {mra : Bool} {ev : Event} (hen : x.Enabled mra ev)
    (hun : ¬ x.Unblocks ev) : SecondaryInv (x.step c ev) := by
  have hauto : AutoInv (x.step c ev) := hx.toAutoInv.step ev
  have hd := hx.distinct
  have hrole := hx.role
  have hmrm := hx.mrm
  have hmrc := hx.mrc
  cases ev with
  | link r up => exact hx.link r up
  | closed =>
      refine ⟨hauto, ?_, ?_⟩ <;> cases hm : x.mrm <;>
        simp_all [Ring.step, close, set, MrmBlocks, MrcBlocks]
  | opened =>
      refine ⟨hauto, ?_, ?_⟩ <;> cases hm : x.mrm <;>
        simp_all [Ring.step, opening, set, Enabled, MrmBlocks]
  | topologyChange =>
      refine ⟨hauto, ?_, ?_⟩ <;> cases hm : x.mrc <;>
        simp_all [Ring.step, topology, set, Enabled, MrcBlocks]
  | nacked =>
      refine ⟨hauto, ?_, ?_⟩ <;> cases hm : x.mrm <;>
        simp_all [Ring.step, giveUp, set, Enabled, MrmBlocks, MrcBlocks]
  | managerLost =>
      refine ⟨hauto, ?_, ?_⟩ <;> cases hm : x.mrc <;>
        simp_all [Ring.step, takeOver, Enabled, MrmBlocks, MrcBlocks]
  | linkUpTick =>
      by_cases hcount : x.count > 0
      · have hrest : x.step c .linkUpTick = { x with count := x.count - 1, linkUp := c.runs } := by
          simp [Ring.step, upTick, hcount]
        rw [hrest] at hauto ⊢
        exact ⟨hauto, hmrm, hmrc⟩
      · have hzero := count_eq_zero hcount
        refine ⟨hauto, ?_, ?_⟩ <;>
          simp_all [Ring.step, upTick, set, Unblocks, MrmBlocks, MrcBlocks]
  | linkDownTick =>
      by_cases hcount : x.count > 0
      · have hrest : x.step c .linkDownTick =
            { x with count := x.count - 1, linkDown := c.runs } := by
          simp [Ring.step, downTick, hcount]
        rw [hrest] at hauto ⊢
        exact ⟨hauto, hmrm, hmrc⟩
      · have hzero := count_eq_zero hcount
        refine ⟨hauto, ?_, ?_⟩ <;>
          simp_all [Ring.step, downTick, Unblocks, MrmBlocks, MrcBlocks]
  | silent => exact hx

end Ring

namespace Mrp

/-- The ring is opened because test frames do not come back. -/
def OpensRing (mrp : Mrp) : Event → Prop
  | .expired .ringTest =>
      mrp.ringTestWork.active = true ∧ mrp.ringRole = .mrm ∧ mrp.mrmState = .chkRc ∧
        mrp.ringTestCurr ≥ mrp.ringTestCurrMax
  | _ => False

/-- The last expiry of an announcement timer that outlived the state it was started in
and leaves the secondary port open behind the back of the machine in charge. -/
def UnblocksRing (mrp : Mrp) : Event → Prop
  | .expired .ringLinkUp =>
      mrp.ringLinkUpWork.active = true ∧ mrp.ringLinkCurrMax = 0 ∧ mrp.ringRole = .mrm ∧
        mrp.mrmState ≠ .chkRo
  | .expired .ringLinkDown =>
      mrp.ringLinkDownWork.active = true ∧ mrp.ringLinkCurrMax = 0 ∧ mrp.ringRole = .mrc ∧
        mrp.mrcState = .ptIdle
  | _ => False

/-- The interconnection is opened because test frames do not come back. -/
def OpensInter (mrp : Mrp) : Event → Prop
  | .expired .inTest =>
      mrp.inTestWork.active = true ∧ mrp.mimState = .chkIc ∧ mrp.inTestCurr ≥ mrp.inTestCurrMax
  | _ => False

/-- Such an expiry of the machine is one of the instance. -/
theorem unblocks_ringEvent {mrp : Mrp} {e : Event} (h : mrp.ring.Unblocks (mrp.ringEvent e)) :
    mrp.UnblocksRing e := by
  have hframe : ∀ {buf : Buf} {type : TlvType}, ¬ mrp.ring.Unblocks (mrp.frameEvent buf type) := by
    intro buf type
    unfold frameEvent
    repeat' split
    all_goals exact id
  cases e with
  | recv p rx =>
      simp only [ringEvent] at h
      split at h
      · exact absurd h hframe
      · exact h.elim
  | linkChange p up => cases p <;> exact h.elim
  | operstate p state =>
      cases p with
      | inter => exact h.elim
      | ring r =>
          simp only [ringEvent] at h
          repeat' split at h
          all_goals exact h.elim
  | expired w =>
      simp only [ringEvent] at h
      split at h
      next hactive =>
        cases w with
        | ringLinkUp => exact ⟨hactive, h⟩
        | ringLinkDown => exact ⟨hactive, h⟩
        | ringTest =>
            simp only [timerEvent] at h
            repeat' split at h
            all_goals exact h.elim
        | _ => exact h.elim
      next => exact h.elim
  | _ => exact h.elim

/-! ## Events -/

section Events

variable {mrp : Mrp}

/-- A link change. -/
theorem RingTruthful.portLinkChange (h : mrp.RingTruthful) (p : Port) {up : Bool}
    (hd : up = false → mrp.pPort ≠ mrp.sPort) : (mrp.portLinkChange p up).RingTruthful := by
  cases p with
  | inter => exact (ringTruthful_congr (mrp.portLinkChange_sentOf (by decide) up)).mpr h
  | ring r =>
      have hnote : (mrp.noteRingLink r up).RingTruthful := h
      simp only [Mrp.portLinkChange]
      cases (mrp.noteRingLink r up).ringRole with
      | mrm => exact hnote.mrmPortLink r hd
      | mrc => exact (ringTruthful_congr (mrcPortLink_sentOf _ rfl rfl r up)).mpr hnote
      | disabled => exact hnote
      | mra => exact hnote

/-- A received frame. -/
theorem RingTruthful.process (h : mrp.RingTruthful) (hs : mrp.ringRole = .mrm → mrp.ring.Shut)
    {type : TlvType} (htype : mrp.shouldProcess type = true) (buf : Buf) :
    (mrp.process buf type).RingTruthful := by
  cases type with
  | ringTest =>
      simp only [Mrp.process, recvRingTest]
      repeat' split
      · exact h.mrmRecvRingTest
      · exact (ringTruthful_congr (mrp.mraRecvRingTest_sentOf rfl _)).mpr h
      · exact h
  | ringLinkDown | ringLinkUp => exact h.recvRingLink (hs (of_decide_eq_true htype)) buf
  | ringTopo | option | inTest | inTopo | inLinkDown | inLinkUp | inLinkStatus =>
      exact (ringTruthful_congr (mrp.process_sentOf (by decide) buf)).mpr h
  | tlvEnd | common | unknown => exact h

/-- An event keeps the test frames truthful if it does not open the ring by timer. -/
theorem RingTruthful.step (h : mrp.RingTruthful) (hd : mrp.pPort ≠ mrp.sPort)
    (hs : mrp.ringRole = .mrm → mrp.ring.Shut) {e : Event} (hopen : ¬ mrp.OpensRing e) :
    (mrp.step e).RingTruthful := by
  cases e with
  | recv p rx =>
      simp only [Mrp.step]
      cases hdel : mrp.delivered p rx with
      | none =>
          refine (ringTruthful_congr (mrp.step_sentOf (e := .recv p rx) ?_)).mpr h
          simp [announces, hdel]
      | some x =>
          rcases recv_of_delivered hdel with ⟨htype, hrecv⟩
          rw [hrecv]
          refine RingTruthful.process ?_ ?_ ?_ x.2
          · refine (ringTruthful_congr (a := mrp) ?_).mpr h
            simp [sentOf]
          · rwa [ring_congr (mrp.relay_toRingPart p rx.frameBuf x.1), relay_toRingPart]
          · rwa [relay_shouldProcess]
  | linkChange p up =>
      simp only [Mrp.step]
      split
      · exact h.portLinkChange p fun _ => hd
      · exact h
  | operstate p state =>
      have hset : (mrp.setOperstate p (storedOperstate state)).RingTruthful := by
        cases p <;> exact h
      have hd' : (mrp.setOperstate p (storedOperstate state)).pPort ≠
          (mrp.setOperstate p (storedOperstate state)).sPort := by
        cases p <;> exact hd
      simp only [Mrp.step, netlinkOperstate]
      repeat' split
      · exact h
      · exact h
      · exact hset.portLinkChange p fun _ => hd'
      · exact hset
  | expired w =>
      simp only [Mrp.step]
      split
      next hactive =>
        cases w with
        | ringTest => exact h.ringTestExpired hs fun hopens => hopen ⟨hactive, hopens⟩
        | _ => exact (ringTruthful_congr (mrp.expired_sentOf (by decide))).mpr h
      next => exact h
  | cfmLinkChange | portMac | bridgeMac =>
      exact (ringTruthful_congr (mrp.step_sentOf (by simp [announces, Port.announces]))).mpr h

/-- A link event of the interconnection. -/
theorem InTruthful.interLink (h : mrp.InTruthful) (operstate : UInt8) {up : Bool}
    (hport : up = false → mrp.iPort.isSome = true) :
    (match (mrp.setInOperstate operstate).inRole with
      | .mim => ((mrp.setInOperstate operstate).noteInLink up).mimPortLink up
      | .mic => ((mrp.setInOperstate operstate).noteInLink up).micPortLink up
      | .disabled => mrp.setInOperstate operstate).InTruthful := by
  have hnote : ((mrp.setInOperstate operstate).noteInLink up).InTruthful := h
  split
  · refine hnote.mimPortLink fun hup => ?_
    simpa [setInOperstate, noteInLink] using hport hup
  · exact (inTruthful_congr (micPortLink_sentOf _ rfl rfl up)).mpr hnote
  · exact h

/-- A link change. -/
theorem InTruthful.portLinkChange (h : mrp.InTruthful) (p : Port) {up : Bool}
    (hport : up = false → mrp.iPort.isSome = true) : (mrp.portLinkChange p up).InTruthful := by
  cases p with
  | ring r => exact (inTruthful_congr (mrp.portLinkChange_sentOf (by simp [Port.announces]) up)).mpr h
  | inter =>
      simp only [Mrp.portLinkChange]
      split
      · exact h
      · exact h.interLink _ hport

/-- A CFM notification. -/
theorem InTruthful.cfmLinkChange (h : mrp.InTruthful) (defect : Bool) :
    (mrp.cfmLinkChange defect).InTruthful := by
  unfold Mrp.cfmLinkChange
  split
  · exact h
  next port hsome =>
    refine h.interLink _ fun _ => ?_
    rw [hsome]
    rfl

/-- A received frame. -/
theorem InTruthful.process (h : mrp.InTruthful) (type : TlvType) (buf : Buf) :
    (mrp.process buf type).InTruthful := by
  cases type with
  | inTest => exact h.recvInTest buf
  | inLinkDown | inLinkUp => exact h.recvInLink buf
  | ringTest | ringTopo | ringLinkDown | ringLinkUp | option | inTopo | inLinkStatus =>
      exact (inTruthful_congr (mrp.process_sentOf (by decide) buf)).mpr h
  | tlvEnd | common | unknown => exact h

/-- An event keeps the test frames truthful if it does not open the interconnection by
timer. -/
theorem InTruthful.step (h : mrp.InTruthful) (hinv : mrp.inter.ManagerInv) {e : Event}
    (hopen : ¬ mrp.OpensInter e) : (mrp.step e).InTruthful := by
  rcases hinv.port with ⟨link, hport⟩
  have hsome : mrp.iPort.isSome = true := by
    rw [inter_port] at hport
    rw [← Option.isSome_map (f := MrpPort.inter), hport]
    rfl
  have hs : mrp.inter.Shut := by
    intro hmim
    rw [hport, hmim]
    rfl
  cases e with
  | recv p rx =>
      simp only [Mrp.step]
      cases hdel : mrp.delivered p rx with
      | none =>
          refine (inTruthful_congr (mrp.step_sentOf (e := .recv p rx) ?_)).mpr h
          simp [announces, hdel]
      | some x =>
          rw [(recv_of_delivered hdel).2]
          refine InTruthful.process ?_ x.1 x.2
          refine (inTruthful_congr (a := mrp) ?_).mpr h
          simp [sentOf]
  | linkChange p up =>
      simp only [Mrp.step]
      split
      · exact h.portLinkChange p fun _ => hsome
      · exact h
  | operstate p state =>
      have hset : (mrp.setOperstate p (storedOperstate state)).InTruthful := by
        cases p <;> exact h
      have hsome' : (mrp.setOperstate p (storedOperstate state)).iPort.isSome = true := by
        cases p with
        | ring r => exact hsome
        | inter => simpa [setOperstate, setInOperstate] using hsome
      simp only [Mrp.step, netlinkOperstate]
      repeat' split
      · exact h
      · exact h
      · exact hset.portLinkChange p fun _ => hsome'
      · exact hset
  | cfmLinkChange defect => exact h.cfmLinkChange defect
  | expired w =>
      simp only [Mrp.step]
      split
      next hactive =>
        cases w with
        | inTest => exact h.inTestExpired hs fun hopens => hopen ⟨hactive, hopens⟩
        | _ => exact (inTruthful_congr (mrp.expired_sentOf (by decide))).mpr h
      next => exact h
  | portMac | bridgeMac => exact (inTruthful_congr (mrp.step_sentOf (by simp [announces]))).mpr h

end Events

/-! ## Creation -/

theorem ringTruthful_configure {env : Env} {a : AddArgs} : (configure env a).RingTruthful := by
  intro x hx
  rw [(configure_configured env a).sent] at hx
  cases hx

theorem inTruthful_configure {env : Env} {a : AddArgs} : (configure env a).InTruthful := by
  intro x hx
  rw [(configure_configured env a).sent] at hx
  cases hx

/-- What was sent while the roles were set is truthful. -/
theorem ringTruthful_keptByRoles : KeptByRoles RingTruthful := by
  refine ⟨fun _ h => h, ?_, fun _ h => h, fun _ h => h, fun _ h => h, fun _ h => h, ?_,
    fun _ _ h => h, fun _ _ h => h, fun m p h => h.portLinkChange p nofun, ?_⟩
  · intro m h
    rwa [RingTruthful, m.resetRingState_sent]
  · intro m p state h
    rwa [RingTruthful, m.portSetState_sent]
  · exact fun m h => (ringTruthful_congr (m.cfmLinkChange_sentOf (by decide) false)).mpr h

theorem inTruthful_keptByRoles : KeptByRoles InTruthful := by
  refine ⟨fun _ h => h, ?_, fun _ h => h, fun _ h => h, fun _ h => h, fun _ h => h, ?_,
    fun _ _ h => h, fun _ _ h => h, fun m p h => h.portLinkChange p nofun,
    fun m h => h.cfmLinkChange false⟩
  · intro m h
    rwa [InTruthful, m.resetRingState_sent]
  · intro m p state h
    rwa [InTruthful, m.portSetState_sent]

end Mrp

/-! ## Runs -/

/-- A manager blocks the secondary port in CHK_RC. -/
theorem Ring.ManagerInv.shut {pport sport : UInt32} {x : Ring} (h : ManagerInv pport sport x)
    (hrole : x.role = .mrm) : x.Shut := by
  intro hmrm
  have hports := (h.manager hrole).1
  rw [hmrm] at hports
  exact (Prod.mk.inj hports).2

/-- And so does an auto-manager that the leftover timers have spared. -/
theorem Ring.SecondaryInv.shut {x : Ring} (h : SecondaryInv x) (hrole : x.role = .mrm) :
    x.Shut := by
  intro hmrm
  refine (h.mrm hrole).1 ?_
  rw [hmrm]
  decide

section Runs

variable {env : Env} {a : AddArgs} {mrp : Mrp}

/-- The test frames of a manager. -/
theorem Created.ringTruthful_mrm (h : Created env a mrp) (ha : a.ringRole = ringRoleMrm)
    {es : List Event} (hes : Guarded Mrp.step (fun m e => ¬ m.OpensRing e) mrp es) :
    Always Mrp.step Mrp.RingTruthful mrp es := by
  have hmra : mrp.mraSupport = false := by
    rw [h.mraSupport, ha]
    decide
  have hinv : Ring.ManagerInv a.pport a.sport mrp.ring :=
    Reachable.managerInv ⟨mrp, [], h, rfl⟩ ha
  refine always_of_guarded (I := fun m : Mrp => m.mraSupport = false ∧
    Ring.ManagerInv a.pport a.sport m.ring ∧ m.RingTruthful) ?_ (fun m hm => hm.2.2)
    ⟨hmra, hinv, Mrp.ringTruthful_keptByRoles.created Mrp.ringTruthful_configure h⟩ hes
  rintro m e ⟨hmra, hinv, htrue⟩ hopen
  have hen := m.ringEvent_enabled e
  rw [hmra] at hen
  refine ⟨by rw [m.step_toMrpConf, hmra], ?_, htrue.step hinv.distinct hinv.shut hopen⟩
  rw [m.step_ring e]
  exact hinv.step hen

/-- The test frames of an auto-manager. -/
theorem Created.ringTruthful_mra (h : Created env a mrp) (ha : a.ringRole = ringRoleMra)
    {es : List Event}
    (hes : Guarded Mrp.step (fun m e => ¬ m.OpensRing e ∧ ¬ m.UnblocksRing e) mrp es) :
    Always Mrp.step Mrp.RingTruthful mrp es := by
  have hinv : mrp.ring.SecondaryInv := by
    refine h.ring_of_fresh (.inr (.inr ha)) ?_ fun x r hx => hx.link r true
    rw [ha]
    exact ⟨⟨Ring.fresh_distinct, .inl rfl⟩, fun _ => ⟨fun _ => rfl, fun _ => rfl⟩,
      fun hrole => by cases hrole⟩
  refine always_of_guarded (I := fun m : Mrp => m.ring.SecondaryInv ∧ m.RingTruthful) ?_
    (fun m hm => hm.2)
    ⟨hinv, Mrp.ringTruthful_keptByRoles.created Mrp.ringTruthful_configure h⟩ hes
  rintro m e ⟨hinv, htrue⟩ ⟨hopen, hun⟩
  refine ⟨?_, htrue.step hinv.distinct hinv.shut hopen⟩
  rw [m.step_ring e]
  exact hinv.step (m.ringEvent_enabled e) fun h => hun (Mrp.unblocks_ringEvent h)

/-- The test frames of an interconnection manager. -/
theorem Created.inTruthful (h : Created env a mrp) (ha : a.inRole = inRoleMim)
    {es : List Event} (hes : Guarded Mrp.step (fun m e => ¬ m.OpensInter e) mrp es) :
    Always Mrp.step Mrp.InTruthful mrp es := by
  have hinv : mrp.inter.ManagerInv :=
    h.inter_of_fresh (.inl ⟨ha, rfl⟩) ⟨rfl, ⟨none, rfl⟩, rfl, rfl⟩ fun _ hx => hx.linkEvent true
  refine always_of_guarded (I := fun m : Mrp => m.inter.ManagerInv ∧ m.InTruthful) ?_
    (fun m hm => hm.2)
    ⟨hinv, Mrp.inTruthful_keptByRoles.created Mrp.inTruthful_configure h⟩ hes
  rintro m e ⟨hinv, htrue⟩ hopen
  refine ⟨?_, htrue.step hinv hopen⟩
  rw [m.step_inter e]
  exact hinv.step (m.interEvent_enabled e)

end Runs

/-- In every run of a manager in which the test timer does not open the ring, a test
frame says closed only while the secondary port is blocked.  For an auto-manager the
run must not contain a leftover expiry that opens the port either.  In every run of an
interconnection manager in which the test timer does not open the interconnection, a
test frame says closed only while the interconnection port is blocked. -/
theorem closed_tests_blocked {env : Env} {a : AddArgs} {mrp : Mrp} (h : Created env a mrp)
    (es : List Event) :
    (a.ringRole = ringRoleMrm → Guarded Mrp.step (fun m e => ¬ m.OpensRing e) mrp es →
      Always Mrp.step Mrp.RingTruthful mrp es) ∧
    (a.ringRole = ringRoleMra →
      Guarded Mrp.step (fun m e => ¬ m.OpensRing e ∧ ¬ m.UnblocksRing e) mrp es →
      Always Mrp.step Mrp.RingTruthful mrp es) ∧
    (a.inRole = inRoleMim → Guarded Mrp.step (fun m e => ¬ m.OpensInter e) mrp es →
      Always Mrp.step Mrp.InTruthful mrp es) :=
  ⟨fun ha hes => h.ringTruthful_mrm ha hes, fun ha hes => h.ringTruthful_mra ha hes,
    fun ha hes => h.inTruthful ha hes⟩

/-- The sample manager loses the link of its secondary port, and its timers expire. -/
theorem closed_tests_blocked_sample :
    Always Mrp.step Mrp.RingTruthful (Sample.mrp ringRoleMrm inRoleMim)
        [.linkChange (.ring .secondary) false, .expired .ringTest] ∧
      Always Mrp.step Mrp.InTruthful (Sample.mrp ringRoleMrm inRoleMim) [.expired .inTest] := by
  have hcr : Created Sample.env (Sample.args ringRoleMrm inRoleMim)
      (Sample.mrp ringRoleMrm inRoleMim) := Sample.created (by decide +kernel)
  constructor
  · refine (closed_tests_blocked hcr _).1 rfl ⟨id, fun h => ?_, trivial⟩
    exact absurd h.2.2.1 (by decide +kernel)
  · refine (closed_tests_blocked hcr _).2.2 rfl ⟨fun h => ?_, trivial⟩
    exact absurd h.2.2 (by decide +kernel)

/-- The sample manager has heard nothing for five periods of the ring and eight periods
of the interconnection. -/
def Sample.deaf : Mrp :=
  run Mrp.step (mrp ringRoleMrm inRoleMim)
    (List.replicate 5 (.expired .ringTest) ++ List.replicate 8 (.expired .inTest))

/-- It has opened both, and has said closed while the ports were forwarding. -/
theorem closed_tests_after_opening :
    ∃ mrp, Reachable Sample.env (Sample.args ringRoleMrm inRoleMim) mrp ∧
      ¬ mrp.RingTruthful ∧ ¬ mrp.InTruthful := by
  have hring : ∃ x ∈ Sample.deaf.sent, x.frame = .ringTest true 0 16 ∧ x.view.sState = .forwarding := by
    decide +kernel
  have hinter : ∃ x ∈ Sample.deaf.sent, x.frame = .inTest true 0 42 ∧ x.view.iState = some .forwarding := by
    decide +kernel
  refine ⟨Sample.deaf, ⟨_, _, Sample.created (by decide +kernel), rfl⟩, ?_, ?_⟩
  · intro htrue
    rcases hring with ⟨x, hx, hframe, hview⟩
    have hblocked := htrue x hx _ _ hframe
    rw [hview] at hblocked
    cases hblocked
  · intro htrue
    rcases hinter with ⟨x, hx, hframe, hview⟩
    have hblocked := htrue x hx _ _ hframe
    rw [hview] at hblocked
    cases hblocked

end Umrp
