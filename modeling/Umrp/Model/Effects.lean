import Umrp.Model.Step

/-!
# What an operation leaves alone

Every handler is a chain of port writes, timer calls, state setters and sends.
This file says once, for each handler, which part of the instance it cannot
touch: settings, address and relay log stay, a ring handler leaves the
interconnection side alone and the other way round, and whatever is sent
carries the instance's own priority and address.

Main results:

- Theorem `Mrp.step_toMrpConf`: no event changes the settings.
- Theorem `Mrp.step_macaddr`: only an address change changes the address.
- Theorem `Mrp.step_relayed`: only a received frame is relayed.
- Theorem `Mrp.step_sent`: what a step sends is its own, and a NACK is only sent
  to answer a test frame that does not beat the instance.
-/

namespace Umrp

open Octets

namespace Mrp

/-! ## Primitives -/

/-- Sending moves the sequence number and the logs. -/
theorem send_eq (mrp : Mrp) (p : Port) (frame : Frame) :
    ∃ seqId sent calls, mrp.send p frame =
      { mrp with seqId := seqId, sent := sent, calls := calls } := by
  unfold send
  split
  · exact ⟨_, _, _, rfl⟩
  · split
    · exact ⟨_, _, _, rfl⟩
    · exact ⟨_, _, _, rfl⟩

/-- A port write on the interconnection side reaches its port, if there is one. -/
theorem portSetState_inter_eq (mrp : Mrp) (state : PortState) :
    ∃ calls, mrp.portSetState .inter state =
      { mrp with
        iPort := mrp.iPort.map fun port => { port with state := state }
        calls := calls } := by
  simp only [portSetState]
  split
  next h =>
    have hmap : (mrp.iPort.map fun port => { port with state := state }) = mrp.iPort := by
      rw [h]
      rfl
    rw [hmap]
    exact ⟨_, rfl⟩
  next port h =>
    rw [h]
    exact ⟨_, rfl⟩

section Primitives

variable (mrp : Mrp) (p : Port) (frame : Frame) (state : PortState)

@[simp]
theorem send_toMrpConf : (mrp.send p frame).toMrpConf = mrp.toMrpConf := by
  rcases mrp.send_eq p frame with ⟨_, _, _, h⟩
  rw [h]

@[simp]
theorem send_toRingPart : (mrp.send p frame).toRingPart = mrp.toRingPart := by
  rcases mrp.send_eq p frame with ⟨_, _, _, h⟩
  rw [h]

@[simp]
theorem send_toInPart : (mrp.send p frame).toInPart = mrp.toInPart := by
  rcases mrp.send_eq p frame with ⟨_, _, _, h⟩
  rw [h]

@[simp]
theorem send_macaddr : (mrp.send p frame).macaddr = mrp.macaddr := by
  rcases mrp.send_eq p frame with ⟨_, _, _, h⟩
  rw [h]

@[simp]
theorem send_relayed : (mrp.send p frame).relayed = mrp.relayed := by
  rcases mrp.send_eq p frame with ⟨_, _, _, h⟩
  rw [h]

/-- A port write on the ring side. -/
theorem portSetState_ring (r : RingPort) :
    mrp.portSetState (.ring r) state =
      { mrp with toRingPart := mrp.toRingPart.setPortState r state }.call
        (.portSetState (.ring r) state) :=
  rfl

@[simp]
theorem portSetState_inter_toMrpConf :
    (mrp.portSetState .inter state).toMrpConf = mrp.toMrpConf := by
  rcases mrp.portSetState_inter_eq state with ⟨_, h⟩
  rw [h]

@[simp]
theorem portSetState_inter_toRingPart :
    (mrp.portSetState .inter state).toRingPart = mrp.toRingPart := by
  rcases mrp.portSetState_inter_eq state with ⟨_, h⟩
  rw [h]

@[simp]
theorem portSetState_inter_toInPart :
    (mrp.portSetState .inter state).toInPart =
      { mrp.toInPart with
        iPort := mrp.iPort.map fun port => { port with state := state } } := by
  rcases mrp.portSetState_inter_eq state with ⟨_, h⟩
  rw [h]

@[simp]
theorem portSetState_inter_macaddr :
    (mrp.portSetState .inter state).macaddr = mrp.macaddr := by
  rcases mrp.portSetState_inter_eq state with ⟨_, h⟩
  rw [h]

@[simp]
theorem portSetState_inter_relayed :
    (mrp.portSetState .inter state).relayed = mrp.relayed := by
  rcases mrp.portSetState_inter_eq state with ⟨_, h⟩
  rw [h]

@[simp]
theorem portSetState_inter_sent : (mrp.portSetState .inter state).sent = mrp.sent := by
  rcases mrp.portSetState_inter_eq state with ⟨_, h⟩
  rw [h]

end Primitives

/-! ## Timer calls -/

end Mrp

/-- The call starts, restarts or stops the timer `w`. -/
def Call.isTimer (w : TimerId) : Call → Bool
  | .timerAgain w' _ | .timerStop w' => w' = w
  | _ => false

namespace Mrp

/-- The calls that start, restart or stop the timer `w`, newest first.  A restart
with the old interval shows here and nowhere else. -/
def timerCalls (mrp : Mrp) (w : TimerId) : List Call := mrp.calls.filter (Call.isTimer w)

section TimerCalls

variable (mrp : Mrp) (w : TimerId)

/-- Sending calls no timer. -/
@[simp]
theorem filter_calls_send (p : Port) (frame : Frame) :
    (mrp.send p frame).calls.filter (Call.isTimer w) = mrp.calls.filter (Call.isTimer w) := by
  unfold send
  split
  · rfl
  · split <;> rfl

theorem timerCalls_forwardIf (go : Bool) (p : Port) (x : Mrp × FrameBuf) :
    (forwardIf go p x).1.timerCalls w = x.1.timerCalls w := by
  unfold forwardIf forward
  repeat' split
  all_goals rfl

@[simp]
theorem timerCalls_relay (p : Port) (fb : FrameBuf) (type : TlvType) :
    (mrp.relay p fb type).timerCalls w = mrp.timerCalls w := by
  simp only [relay, checkAndForward, timerCalls_forwardIf]

end TimerCalls

section Branches

variable (c : Prop) [Decidable c] (a b : Mrp)

@[simp]
theorem ite_toMrpConf :
    (if c then a else b).toMrpConf = if c then a.toMrpConf else b.toMrpConf :=
  apply_ite _ _ _ _

@[simp]
theorem ite_toRingPart :
    (if c then a else b).toRingPart = if c then a.toRingPart else b.toRingPart :=
  apply_ite _ _ _ _

@[simp]
theorem ite_toInPart :
    (if c then a else b).toInPart = if c then a.toInPart else b.toInPart :=
  apply_ite _ _ _ _

@[simp]
theorem ite_macaddr : (if c then a else b).macaddr = if c then a.macaddr else b.macaddr :=
  apply_ite _ _ _ _

@[simp]
theorem ite_relayed : (if c then a else b).relayed = if c then a.relayed else b.relayed :=
  apply_ite _ _ _ _

@[simp]
theorem ite_sent : (if c then a else b).sent = if c then a.sent else b.sent :=
  apply_ite _ _ _ _

end Branches

/-! The remaining building blocks are record updates or chains of sends. -/

attribute [local simp] call flush
  clearFdbStart clearFdbStop ringTestStart ringTestStop ringTopoStart ringTopoStop
  ringLinkUpStart ringLinkUpStop ringLinkDownStart ringLinkDownStop
  inTestStart inTestStop inTopoStart inTopoStop inLinkUpStart inLinkUpStop
  inLinkDownStart inLinkDownStop inLinkStatusStart inLinkStatusStop cfmCcmStart cfmCcmStop

attribute [local simp] portSetState_ring setRingRole setInRole setMrmInit setMrcInit setMrmState
  setMrcState setMimState setMicState promote demote restartTestCount noteInLink setInOperstate noteRingLink
  setAddTest setNoTc nextRingTransition setRingTestCurr setRingTestCurrMax resetRingTestCount
  setRingMonCurr setRingPrio setRingMac setRingTopoCurrMax setRingLinkCurrMax nextInTransition
  setInTestCurr setInTestCurrMax resetInTestCount setInTopoCurrMax setInLinkCurrMax
  setInLinkStatusCurrMax

attribute [local simp] sendRingTest ringTestSend ringTestReq sendRingTopo ringTopoSend ringTopoReq
  ringLinkReq sendTestMgrNack testMgrNackReq sendTestProp testPropReq sendInTest inTestSend
  inTestReq sendInTopo inTopoSend inTopoReq sendInLink inLinkReq sendInLinkStatus inLinkStatusReq

/-! ## Operations -/

/-- Everything in the log was there before or is the instance's own; a NACK in it
answers to `nack`. -/
def OwnSent (nack : Mac → Prop) (a : Mrp) (sent : List Sent) : Prop :=
  ∀ x ∈ sent, x ∈ a.sent ∨
    x.prio = a.prio ∧ x.sa = a.macaddr ∧ ∀ otherSa, x.frame = .testMgrNack otherSa → nack otherSa

@[simp]
theorem ownSent_self {nack : Mac → Prop} {a : Mrp} : OwnSent nack a a.sent :=
  fun _ hx => .inl hx

/-- A frame that the instance sends is its own. -/
@[simp]
theorem ownSent_send {nack : Mac → Prop} {a b : Mrp} {p : Port} {frame : Frame}
    (hconf : b.toMrpConf = a.toMrpConf) (hmac : b.macaddr = a.macaddr)
    (hnack : ∀ otherSa, frame = .testMgrNack otherSa → nack otherSa) :
    OwnSent nack a (b.send p frame).sent ↔ OwnSent nack a b.sent := by
  unfold send
  split
  next => rfl
  next port _ =>
    split
    · simp only [OwnSent, List.forall_mem_cons, and_iff_right_iff_imp]
      intro _
      right
      exact ⟨by simp [compose, hconf], by simp [compose, hmac], by simpa [compose] using hnack⟩
    · rfl

@[simp]
theorem ownSent_ite {nack : Mac → Prop} {a : Mrp} {c : Prop} [Decidable c] {l l' : List Sent} :
    OwnSent nack a (if c then l else l') ↔ if c then OwnSent nack a l else OwnSent nack a l' := by
  split <;> rfl

/-- The frames that `send` adds to the log. -/
def emits (mrp : Mrp) (p : Port) (frame : Frame) : List Sent :=
  match mrp.port? p with
  | none => []
  | some port => if port.operstate = ifOperUp then [mrp.compose p port frame] else []

@[simp]
theorem mem_send {x : Sent} {b : Mrp} {p : Port} {frame : Frame} :
    x ∈ (b.send p frame).sent ↔ x ∈ b.emits p frame ∨ x ∈ b.sent := by
  unfold send emits
  cases b.port? p with
  | none => simp [call]
  | some port => by_cases h : port.operstate = ifOperUp <;> simp [h]

@[simp]
theorem mem_ite_sent {x : Sent} {c : Prop} [Decidable c] {l l' : List Sent} :
    (x ∈ if c then l else l') ↔ if c then x ∈ l else x ∈ l' := by
  split <;> rfl

/-- Weaken the reason for a NACK. -/
theorem OwnSent.mono {nack nack' : Mac → Prop} {a : Mrp} {l : List Sent}
    (h : OwnSent nack a l) (hnack : ∀ otherSa, nack otherSa → nack' otherSa) :
    OwnSent nack' a l := by
  intro x hx
  rcases h x hx with hold | ⟨hprio, hsa, hframe⟩
  · exact .inl hold
  · exact .inr ⟨hprio, hsa, fun otherSa ho => hnack _ (hframe _ ho)⟩

/-- No NACK is sent. -/
def NoNack : Mac → Prop := fun _ => False

/-- The effect of a handler as far as all of them agree. -/
structure Op (nack : Mac → Prop) (a b : Mrp) : Prop where
  toMrpConf : b.toMrpConf = a.toMrpConf
  macaddr : b.macaddr = a.macaddr
  relayed : b.relayed = a.relayed
  kept : ∀ x ∈ a.sent, x ∈ b.sent
  sent : OwnSent nack a b.sent

/-- Without a NACK there is nothing to justify. -/
theorem Op.of_noNack {nack : Mac → Prop} {a b : Mrp} (h : Op NoNack a b) : Op nack a b :=
  ⟨h.toMrpConf, h.macaddr, h.relayed, h.kept, h.sent.mono fun _ hf => False.elim hf⟩

/-- Operations compose. -/
theorem Op.trans {nack : Mac → Prop} {a b c : Mrp} (hab : Op nack a b) (hbc : Op nack b c) :
    Op nack a c := by
  refine ⟨by rw [hbc.toMrpConf, hab.toMrpConf], by rw [hbc.macaddr, hab.macaddr],
    by rw [hbc.relayed, hab.relayed], fun x hx => hbc.kept x (hab.kept x hx), ?_⟩
  intro x hx
  rcases hbc.sent x hx with hx | ⟨hprio, hsa, hframe⟩
  · exact hab.sent x hx
  · right
    rw [hab.toMrpConf] at hprio
    rw [hab.macaddr] at hsa
    exact ⟨hprio, hsa, hframe⟩

/-- The effect of a handler of the ring side. -/
structure RingOp (nack : Mac → Prop) (a b : Mrp) : Prop extends Op nack a b where
  toInPart : b.toInPart = a.toInPart

/-- The effect of a handler of the interconnection side. -/
structure InOp (a b : Mrp) : Prop extends Op NoNack a b where
  toRingPart : b.toRingPart = a.toRingPart

/-- The parts of the effect of a ring handler. -/
theorem RingOp.intro {nack : Mac → Prop} {a b : Mrp} (hconf : b.toMrpConf = a.toMrpConf)
    (hmac : b.macaddr = a.macaddr) (hrelayed : b.relayed = a.relayed)
    (hkept : ∀ x ∈ a.sent, x ∈ b.sent) (hsent : OwnSent nack a b.sent)
    (hin : b.toInPart = a.toInPart) : RingOp nack a b :=
  ⟨⟨hconf, hmac, hrelayed, hkept, hsent⟩, hin⟩

/-- Doing nothing is a ring operation. -/
theorem RingOp.refl {nack : Mac → Prop} (a : Mrp) : RingOp nack a a :=
  .intro rfl rfl rfl (fun _ => id) ownSent_self rfl

/-- Ring operations compose. -/
theorem RingOp.trans {nack : Mac → Prop} {a b c : Mrp} (hab : RingOp nack a b)
    (hbc : RingOp nack b c) : RingOp nack a c :=
  ⟨hab.toOp.trans hbc.toOp, by rw [hbc.toInPart, hab.toInPart]⟩

/-- The parts of the effect of an interconnection handler. -/
theorem InOp.intro {a b : Mrp} (hconf : b.toMrpConf = a.toMrpConf)
    (hmac : b.macaddr = a.macaddr) (hrelayed : b.relayed = a.relayed)
    (hkept : ∀ x ∈ a.sent, x ∈ b.sent) (hsent : OwnSent NoNack a b.sent)
    (hring : b.toRingPart = a.toRingPart) : InOp a b :=
  ⟨⟨hconf, hmac, hrelayed, hkept, hsent⟩, hring⟩

/-- Doing nothing is an interconnection operation. -/
theorem InOp.refl (a : Mrp) : InOp a a :=
  .intro rfl rfl rfl (fun _ => id) ownSent_self rfl

/-- Interconnection operations compose. -/
theorem InOp.trans {a b c : Mrp} (hab : InOp a b) (hbc : InOp b c) : InOp a c :=
  ⟨hab.toOp.trans hbc.toOp, by rw [hbc.toRingPart, hab.toRingPart]⟩

/-! ## Ring handlers -/

section RingHandlers

variable {nack : Mac → Prop} (mrp : Mrp)

/-- Link changes on a manager. -/
theorem mrmPortLink_op (p : RingPort) (up : Bool) : RingOp nack mrp (mrp.mrmPortLink p up) := by
  unfold mrmPortLink
  cases mrp.mrmState <;> apply RingOp.intro <;> intros <;> simp [*]

/-- Link changes on a client. -/
theorem mrcPortLink_op (p : RingPort) (up : Bool) : RingOp nack mrp (mrp.mrcPortLink p up) := by
  unfold mrcPortLink
  cases mrp.mrcState <;> apply RingOp.intro <;> intros <;> simp [*]

/-- An own test frame. -/
theorem mrmRecvRingTest_op : RingOp nack mrp mrp.mrmRecvRingTest := by
  unfold mrmRecvRingTest
  cases mrp.mrmState <;> apply RingOp.intro <;> intros <;> simp [*]

/-- A foreign test frame: the only handler that sends a NACK. -/
theorem mraRecvRingTest_op (hdr : Buf)
    (hnack : mrp.ringRole = .mrm → mrp.betterThanOwn hdr = false → nack (RingTestHdr.sa hdr)) :
    RingOp nack mrp (mrp.mraRecvRingTest hdr) := by
  unfold mraRecvRingTest
  cases hrole : mrp.ringRole with
  | mrm =>
      cases hbetter : mrp.betterThanOwn hdr with
      | true => apply RingOp.intro <;> intros <;> simp [*]
      | false =>
          have := hnack hrole hbetter
          apply RingOp.intro <;> intros <;> simp [*]
  | mrc => apply RingOp.intro <;> intros <;> simp [*]
  | disabled => apply RingOp.intro <;> intros <;> simp [*]
  | mra => apply RingOp.intro <;> intros <;> simp [*]

/-- A topology change, seen by a client. -/
theorem mrcRecvRingTopo_op (buf : Buf) : RingOp nack mrp (mrp.mrcRecvRingTopo buf) := by
  unfold mrcRecvRingTopo
  cases mrp.mrcState <;> apply RingOp.intro <;> intros <;> simp [*]

/-- A topology change. -/
theorem recvRingTopo_op (buf : Buf) : RingOp nack mrp (mrp.recvRingTopo buf) := by
  unfold recvRingTopo mraRecvRingTopo
  split
  · apply RingOp.intro <;> intros <;> simp [*]
  · exact mrp.mrcRecvRingTopo_op buf

/-- A link change frame. -/
theorem recvRingLink_op (buf : Buf) : RingOp nack mrp (mrp.recvRingLink buf) := by
  unfold recvRingLink
  cases mrp.mrmState <;> apply RingOp.intro <;> intros <;> simp [*]

/-- The start of the client after a NACK. -/
theorem enterClient_op : RingOp nack mrp mrp.enterClient := by
  unfold enterClient
  cases mrp.mrmState <;> apply RingOp.intro <;> intros <;> simp [*]

/-- Giving up the manager role. -/
theorem yieldRole_op : RingOp nack mrp mrp.yieldRole := by
  unfold yieldRole
  refine RingOp.trans ?_ (enterClient_op _)
  apply RingOp.intro <;> intros <;> simp [*]

/-- Recording the sender of a NACK. -/
theorem recordHost_op (hdr : Buf) : RingOp nack mrp (mrp.recordHost hdr) := by
  unfold recordHost
  apply RingOp.intro <;> intros <;> simp [*]

/-- A NACK. -/
theorem recvNack_op (buf : Buf) : RingOp nack mrp (mrp.recvNack buf) := by
  simp only [recvNack]
  split
  · exact .refl mrp
  · split
    · exact .refl mrp
    · split
      · exact .refl mrp
      · exact (mrp.recordHost_op _).trans (yieldRole_op _)

/-- An option frame. -/
theorem recvOption_op (buf : Buf) : RingOp nack mrp (mrp.recvOption buf) := by
  simp only [recvOption, recvPropagate]
  split
  · exact mrp.recvNack_op _
  · apply RingOp.intro <;> intros <;> simp [*]

/-- A test frame. -/
theorem recvRingTest_op (buf : Buf)
    (hnack : mrp.mraSupport = true → mrp.ringRole = .mrm →
      RingTestHdr.sa (tlvBody buf) ≠ mrp.macaddr →
      mrp.betterThanOwn (tlvBody buf) = false → nack (RingTestHdr.sa (tlvBody buf))) :
    RingOp nack mrp (mrp.recvRingTest buf) := by
  simp only [recvRingTest]
  split
  · exact mrp.mrmRecvRingTest_op
  next hsa =>
    split
    next hmra =>
      refine mrp.mraRecvRingTest_op _ fun hrole hbetter => hnack hmra hrole ?_ hbetter
      simpa using hsa
    · exact .refl mrp

/-- An expiry of the test timer on a manager. -/
theorem mrmRingTestExpired_op : RingOp nack mrp mrp.mrmRingTestExpired := by
  unfold mrmRingTestExpired
  cases mrp.mrmState <;> apply RingOp.intro <;> intros <;> simp [*]

/-- The start of the manager after a takeover. -/
theorem enterManager_op : RingOp nack mrp mrp.enterManager := by
  unfold enterManager
  cases mrp.mrcState <;> apply RingOp.intro <;> intros <;> simp [*]

/-- An expiry of the test timer. -/
theorem ringTestExpired_op : RingOp nack mrp mrp.ringTestExpired := by
  unfold ringTestExpired mrcRingTestExpired
  split
  · split
    · apply RingOp.intro <;> intros <;> simp [*]
    · refine RingOp.trans ?_ (enterManager_op _)
      apply RingOp.intro <;> intros <;> simp [*]
  · split
    · exact mrp.mrmRingTestExpired_op
    · exact .refl mrp

/-- An expiry of the topology change timer. -/
theorem ringTopoExpired_op : RingOp nack mrp mrp.ringTopoExpired := by
  unfold ringTopoExpired
  apply RingOp.intro <;> intros <;> simp [*]

/-- An expiry of the link-up timer. -/
theorem ringLinkUpExpired_op : RingOp nack mrp mrp.ringLinkUpExpired := by
  unfold ringLinkUpExpired
  apply RingOp.intro <;> intros <;> simp [*]

/-- An expiry of the link-down timer. -/
theorem ringLinkDownExpired_op : RingOp nack mrp mrp.ringLinkDownExpired := by
  unfold ringLinkDownExpired
  apply RingOp.intro <;> intros <;> simp [*]

end RingHandlers

/-! ## Interconnection handlers -/

section InHandlers

variable (mrp : Mrp)

/-- Link changes on an interconnection manager. -/
theorem mimPortLink_op (up : Bool) : InOp mrp (mrp.mimPortLink up) := by
  unfold mimPortLink
  cases up <;> cases mrp.inMode <;> cases mrp.mimState <;> apply InOp.intro <;> intros <;> simp [*]

/-- Link changes on an interconnection client. -/
theorem micPortLink_op (up : Bool) : InOp mrp (mrp.micPortLink up) := by
  unfold micPortLink
  cases up <;> cases mrp.inMode <;> cases mrp.micState <;> apply InOp.intro <;> intros <;> simp [*]

/-- A test frame of the interconnection. -/
theorem recvInTest_op (buf : Buf) : InOp mrp (mrp.recvInTest buf) := by
  unfold recvInTest mimRecvInTest
  split
  · apply InOp.intro <;> intros <;> simp [*]
  · cases mrp.mimState <;> apply InOp.intro <;> intros <;> simp [*]

/-- A topology change of the interconnection, seen by its client. -/
theorem micRecvInTopo_op (hdr : Buf) : InOp mrp (mrp.micRecvInTopo hdr) := by
  unfold micRecvInTopo
  cases mrp.micState <;> apply InOp.intro <;> intros <;> simp [*]

/-- A link change frame of the interconnection. -/
theorem recvInLink_op (buf : Buf) : InOp mrp (mrp.recvInLink buf) := by
  unfold recvInLink
  cases mrp.mimState <;> apply InOp.intro <;> intros <;> simp [*]

/-- A link status poll. -/
theorem recvInLinkStatus_op (buf : Buf) : InOp mrp (mrp.recvInLinkStatus buf) := by
  unfold recvInLinkStatus
  cases mrp.micState <;> apply InOp.intro <;> intros <;> simp [*]

/-- An expiry of the interconnection test timer. -/
theorem inTestExpired_op : InOp mrp mrp.inTestExpired := by
  unfold inTestExpired
  cases mrp.mimState <;> apply InOp.intro <;> intros <;> simp [*]

/-- An expiry of the interconnection topology change timer. -/
theorem inTopoExpired_op : InOp mrp mrp.inTopoExpired := by
  unfold inTopoExpired
  apply InOp.intro <;> intros <;> simp [*]

/-- An expiry of the interconnection link-up timer. -/
theorem inLinkUpExpired_op : InOp mrp mrp.inLinkUpExpired := by
  unfold inLinkUpExpired
  apply InOp.intro <;> intros <;> simp [*]

/-- An expiry of the interconnection link-down timer. -/
theorem inLinkDownExpired_op : InOp mrp mrp.inLinkDownExpired := by
  unfold inLinkDownExpired
  apply InOp.intro <;> intros <;> simp [*]

/-- An expiry of the link status timer. -/
theorem inLinkStatusExpired_op : InOp mrp mrp.inLinkStatusExpired := by
  unfold inLinkStatusExpired
  apply InOp.intro <;> intros <;> simp [*]

/-- A ring manager's own topology change, as a ring operation. -/
theorem restartRingTopo_op (interval : UInt32) :
    RingOp NoNack mrp (mrp.restartRingTopo interval) := by
  unfold restartRingTopo
  apply RingOp.intro <;> intros <;> simp [*]

/-- The rest of the reaction to a topology change of the interconnection. -/
theorem inTopoByRole_op (hdr : Buf) (interval : UInt32) :
    InOp mrp (mrp.inTopoByRole hdr interval) := by
  unfold inTopoByRole
  cases mrp.inRole with
  | mim => apply InOp.intro <;> intros <;> simp [*]
  | mic => exact mrp.micRecvInTopo_op _
  | disabled => apply InOp.intro <;> intros <;> simp [*]

end InHandlers

/-! ## Events -/

/-- Why a NACK is sent: an auto-manager in the manager role read the test frame
of another node that does not beat it. -/
def NackCause (mrp : Mrp) (buf : Buf) (otherSa : Mac) : Prop :=
  mrp.mraSupport = true ∧ mrp.ringRole = .mrm ∧ otherSa = RingTestHdr.sa (tlvBody buf) ∧
    otherSa ≠ mrp.macaddr ∧ mrp.betterThanOwn (tlvBody buf) = false

section Events

variable (mrp : Mrp)

/-- The handlers of received frames. -/
theorem process_op (buf : Buf) (type : TlvType) :
    Op (fun otherSa => type = .ringTest ∧ mrp.NackCause buf otherSa) mrp
      (mrp.process buf type) := by
  cases type with
  | ringTest =>
      refine (mrp.recvRingTest_op buf ?_).toOp
      intro hmra hrole hsa hbetter
      exact ⟨rfl, hmra, hrole, rfl, hsa, hbetter⟩
  | ringTopo => exact (mrp.recvRingTopo_op buf).toOp
  | ringLinkDown => exact (mrp.recvRingLink_op buf).toOp
  | ringLinkUp => exact (mrp.recvRingLink_op buf).toOp
  | option => exact (mrp.recvOption_op buf).toOp
  | inTest => exact (mrp.recvInTest_op buf).toOp.of_noNack
  | inTopo =>
      exact ((mrp.restartRingTopo_op _).toOp.trans (inTopoByRole_op _ _ _).toOp).of_noNack
  | inLinkDown => exact (mrp.recvInLink_op buf).toOp.of_noNack
  | inLinkUp => exact (mrp.recvInLink_op buf).toOp.of_noNack
  | inLinkStatus => exact (mrp.recvInLinkStatus_op buf).toOp.of_noNack
  | tlvEnd => exact (RingOp.refl mrp).toOp
  | common => exact (RingOp.refl mrp).toOp
  | unknown => exact (RingOp.refl mrp).toOp

/-- The callbacks of the timers. -/
theorem expired_op (w : TimerId) : Op NoNack mrp (mrp.expired w) := by
  cases w with
  | clearFdb => constructor <;> intros <;> simp [*, expired, clearFdbExpired]
  | ringTopo => exact mrp.ringTopoExpired_op.toOp
  | ringTest => exact mrp.ringTestExpired_op.toOp
  | ringLinkUp => exact mrp.ringLinkUpExpired_op.toOp
  | ringLinkDown => exact mrp.ringLinkDownExpired_op.toOp
  | inTest => exact mrp.inTestExpired_op.toOp
  | inTopo => exact mrp.inTopoExpired_op.toOp
  | inLinkUp => exact mrp.inLinkUpExpired_op.toOp
  | inLinkDown => exact mrp.inLinkDownExpired_op.toOp
  | inLinkStatus => exact mrp.inLinkStatusExpired_op.toOp
  | cfmCcm => constructor <;> intros <;> simp [*, expired, cfmCcmExpired]

/-- A link event on a ring port. -/
theorem portLinkChange_ring_op (r : RingPort) (up : Bool) :
    RingOp NoNack mrp (mrp.portLinkChange (.ring r) up) := by
  have hnote : RingOp NoNack mrp (mrp.noteRingLink r up) := by
    apply RingOp.intro <;> intros <;> simp [*]
  simp only [portLinkChange]
  cases (mrp.noteRingLink r up).ringRole with
  | mrm => exact hnote.trans (mrmPortLink_op _ r up)
  | mrc => exact hnote.trans (mrcPortLink_op _ r up)
  | disabled => exact hnote
  | mra => exact hnote

/-- Storing the operational state of the interconnection port. -/
theorem setInOperstate_op (operstate : UInt8) : InOp mrp (mrp.setInOperstate operstate) := by
  apply InOp.intro <;> intros <;> simp [*]

/-- Noting a link event on the interconnection port. -/
theorem noteInLink_op (up : Bool) : InOp mrp (mrp.noteInLink up) := by
  apply InOp.intro <;> intros <;> simp [*]

/-- A link event on the interconnection port. -/
theorem portLinkChange_inter_op (up : Bool) : InOp mrp (mrp.portLinkChange .inter up) := by
  simp only [portLinkChange]
  split
  · apply InOp.intro <;> intros <;> simp [*]
  · refine (mrp.setInOperstate_op (if up then ifOperUp else ifOperDown)).trans ?_
    generalize mrp.setInOperstate (if up then ifOperUp else ifOperDown) = b
    cases b.inRole with
    | mim => exact (b.noteInLink_op up).trans (mimPortLink_op _ up)
    | mic => exact (b.noteInLink_op up).trans (micPortLink_op _ up)
    | disabled => apply InOp.intro <;> intros <;> simp [*]

/-- A CFM notification. -/
theorem cfmLinkChange_op (defect : Bool) : InOp mrp (mrp.cfmLinkChange defect) := by
  simp only [cfmLinkChange]
  split
  · apply InOp.intro <;> intros <;> simp [*]
  · refine (mrp.setInOperstate_op (if defect then ifOperDown else ifOperUp)).trans ?_
    generalize mrp.setInOperstate (if defect then ifOperDown else ifOperUp) = b
    cases b.inRole with
    | mim => exact (b.noteInLink_op _).trans (mimPortLink_op _ _)
    | mic => exact (b.noteInLink_op _).trans (micPortLink_op _ _)
    | disabled => apply InOp.intro <;> intros <;> simp [*]

/-- A link event. -/
theorem portLinkChange_op (p : Port) (up : Bool) : Op NoNack mrp (mrp.portLinkChange p up) := by
  cases p with
  | ring r => exact (mrp.portLinkChange_ring_op r up).toOp
  | inter => exact (mrp.portLinkChange_inter_op up).toOp

/-- Storing the operational state of a port. -/
theorem setOperstate_op (p : Port) (operstate : UInt8) :
    Op NoNack mrp (mrp.setOperstate p operstate) := by
  cases p with
  | ring r => constructor <;> intros <;> simp [*, setOperstate]
  | inter => exact (mrp.setInOperstate_op operstate).toOp

/-- A netlink notification. -/
theorem netlinkOperstate_op (p : Port) (state : UInt8) :
    Op NoNack mrp (mrp.netlinkOperstate p state) := by
  have hrefl : Op NoNack mrp mrp := (RingOp.refl mrp).toOp
  simp only [netlinkOperstate]
  split
  · exact hrefl
  · split
    · exact hrefl
    · have hset := mrp.setOperstate_op p (storedOperstate state)
      split
      · exact hset.trans (portLinkChange_op _ p _)
      · exact hset

/-- What a step sends answers to this: a NACK is the answer to a processed test
frame of another node. -/
def StepNack (e : Event) (otherSa : Mac) : Prop :=
  ∃ p rx buf, e = .recv p rx ∧ mrp.delivered p rx = some (.ringTest, buf) ∧
    mrp.NackCause buf otherSa

/-- What happens to an event before its handler runs: a frame is relayed, an
address is stored, anything else goes straight to the handler. -/
def beforeHandler (e : Event) : Mrp :=
  match e with
  | .recv p rx =>
      if mrp.admitted p rx then mrp.relay p rx.frameBuf (getTlvType rx.frameBuf.data) else mrp
  | .portMac p mac => mrp.portMacChange p mac
  | .bridgeMac mac => { mrp with macaddr := mac }
  | .linkChange .. | .operstate .. | .cfmLinkChange .. | .expired .. => mrp

@[simp]
theorem beforeHandler_toMrpConf (e : Event) : (mrp.beforeHandler e).toMrpConf = mrp.toMrpConf := by
  cases e with
  | portMac p mac => cases p <;> rfl
  | _ => simp [beforeHandler]

@[simp]
theorem beforeHandler_sent (e : Event) : (mrp.beforeHandler e).sent = mrp.sent := by
  cases e with
  | portMac p mac => cases p <;> rfl
  | _ => simp [beforeHandler]

/-- What a handler is given is the copy of the frame. -/
theorem eq_of_delivered {p : Port} {rx : RxFrame} {type : TlvType} {buf : Buf}
    (h : mrp.delivered p rx = some (type, buf)) :
    mrp.admitted p rx = true ∧ type = getTlvType rx.frameBuf.data ∧
      buf = mrp.handlerBuf p rx := by
  rw [delivered_eq] at h
  split at h
  next hpass =>
    simp only [Option.some.injEq, Prod.mk.injEq] at h
    exact ⟨hpass.1, h.1.symm, h.2.symm⟩
  next => cases h

/-- The type of a frame that reaches its handler is the one read from the frame. -/
theorem type_of_delivered {p : Port} {rx : RxFrame} {type : TlvType} {buf : Buf}
    (h : mrp.delivered p rx = some (type, buf)) :
    mrp.admitted p rx = true ∧ type = getTlvType rx.frameBuf.data :=
  ⟨(mrp.eq_of_delivered h).1, (mrp.eq_of_delivered h).2.1⟩

/-- The handler of an event is an operation. -/
theorem step_op (e : Event) : Op (mrp.StepNack e) (mrp.beforeHandler e) (mrp.step e) := by
  have hrefl : ∀ b, Op (mrp.StepNack e) b b := fun b => (RingOp.refl b).toOp
  cases e with
  | recv p rx =>
      simp only [step, beforeHandler]
      rw [recv_eq]
      by_cases hadm : mrp.admitted p rx = true
      · rw [if_pos hadm, if_pos hadm]
        cases hdel : mrp.delivered p rx with
        | none => exact hrefl _
        | some x =>
            rcases x with ⟨type, buf⟩
            rcases mrp.type_of_delivered hdel with ⟨-, rfl⟩
            have hop := process_op
              (mrp.relay p rx.frameBuf (getTlvType rx.frameBuf.data)) buf
              (getTlvType rx.frameBuf.data)
            refine ⟨hop.toMrpConf, hop.macaddr, hop.relayed, hop.kept, hop.sent.mono ?_⟩
            rintro otherSa ⟨htype, hcause⟩
            rw [htype] at hdel
            refine ⟨p, rx, buf, rfl, hdel, ?_⟩
            simpa [NackCause, betterThanOwn] using hcause
      · rw [if_neg hadm, if_neg hadm]
        exact hrefl _
  | linkChange p up =>
      simp only [step, beforeHandler]
      split
      · exact (mrp.portLinkChange_op p up).of_noNack
      · exact hrefl _
  | operstate p state => exact (mrp.netlinkOperstate_op p state).of_noNack
  | cfmLinkChange defect => exact (mrp.cfmLinkChange_op defect).toOp.of_noNack
  | portMac p mac => exact hrefl _
  | bridgeMac mac => exact hrefl _
  | expired w =>
      simp only [step, beforeHandler]
      split
      · exact (mrp.expired_op w).of_noNack
      · exact hrefl _

/-- No event changes the settings. -/
@[simp]
theorem step_toMrpConf (e : Event) : (mrp.step e).toMrpConf = mrp.toMrpConf := by
  rw [(mrp.step_op e).toMrpConf, beforeHandler_toMrpConf]

/-- Only an address change of the bridge changes the address. -/
theorem step_macaddr (e : Event) (he : ∀ mac, e ≠ .bridgeMac mac) :
    (mrp.step e).macaddr = mrp.macaddr := by
  rw [(mrp.step_op e).macaddr]
  cases e with
  | portMac p mac => cases p <;> rfl
  | bridgeMac mac => exact absurd rfl (he mac)
  | _ => simp [beforeHandler]

/-- What is in the send log after a step was there before or is a frame of the
instance itself, with a reason for each NACK. -/
theorem step_sent (e : Event) (he : ∀ mac, e ≠ .bridgeMac mac) :
    OwnSent (mrp.StepNack e) mrp (mrp.step e).sent := by
  intro x hx
  have hmac := mrp.step_macaddr e he
  rw [(mrp.step_op e).macaddr] at hmac
  rcases (mrp.step_op e).sent x hx with h | ⟨hprio, hsa, hframe⟩
  · left
    simpa using h
  · right
    exact ⟨by simpa using hprio, by rw [hsa, hmac], hframe⟩

/-- The send log only grows. -/
theorem step_kept (e : Event) {x : Sent} (hx : x ∈ mrp.sent) : x ∈ (mrp.step e).sent := by
  apply (mrp.step_op e).kept
  rw [beforeHandler_sent]
  exact hx

/-- Only a received frame adds to the relay log, and only by being relayed. -/
theorem step_relayed (e : Event) :
    (mrp.step e).relayed = mrp.relayed ∨
      ∃ p rx, e = .recv p rx ∧
        (mrp.step e).relayed =
          (mrp.relay p rx.frameBuf (getTlvType rx.frameBuf.data)).relayed := by
  rw [(mrp.step_op e).relayed]
  cases e with
  | recv p rx =>
      simp only [beforeHandler]
      split
      · exact .inr ⟨p, rx, rfl, rfl⟩
      · exact .inl rfl
  | portMac p mac => cases p <;> exact .inl rfl
  | _ => exact .inl rfl

end Events

end Mrp

end Umrp
