import Umrp.Links.Phase
import Umrp.System.Lifetime

/-!
# The role of the port in a frame

Test frames and link change frames tell the role of the port that they leave through.  The
state machines exchange primary and secondary port by exchanging two pointers, and the role
that a frame tells is the one that the port was created with.

Main results:

- Theorem `Mrp.step_shows`: the frames of an event leave after the exchange that it makes.
- Theorem `Mrp.step_pPort_eq`: which events exchange the ports.
- Theorem `port_roles_right`: the frames whose role is that of their port, and the runs in
  which they all are.
-/

namespace Umrp

open Octets EventMachine

/-! ## Frames -/

/-- The types of the frames in question: MRP_Test and MRP_LinkChange. -/
def TlvType.tellsRole : TlvType → Bool
  | .ringTest | .ringLinkDown | .ringLinkUp => true
  | _ => false

namespace Sent

/-- The field MRP_PortRole.  In a test frame the priority and the address stand before it, in a
link change frame only the address. -/
def portRole (x : Sent) : UInt16 :=
  let hdr := tlvBody (Buf.ofList x.payload fun _ => 0)
  if x.frame.type = .ringTest then hdr.be16 8 else hdr.be16 6

/-- The field says where the ports of the sender stood when the frame left. -/
def RoleRight (x : Sent) : Prop :=
  (x.portRole = (Port.ring .primary).role ↔ x.port = .ring x.view.pPort) ∧
    (x.portRole = (Port.ring .secondary).role ↔ x.port = .ring x.view.sPort)

/-- The frame left through one of the two ring ports of its sender. -/
def Placed (x : Sent) : Prop :=
  x.view.pPort ≠ x.view.sPort ∧ (x.port = .ring x.view.pPort ∨ x.port = .ring x.view.sPort)

/-- The field is the role that the port was created with. -/
theorem portRole_eq {x : Sent} (h : x.frame.type.tellsRole = true) : x.portRole = x.port.role := by
  have hstarts := Buf.starts_ofList x.payload fun _ => 0
  unfold portRole
  generalize Buf.ofList x.payload (fun _ => 0) = buf at hstarts
  cases hf : x.frame with
  | ringTest closed transitions timestamp =>
      rw [payload, tlv, hf] at hstarts
      simp only [List.append_assoc] at hstarts
      have hbody := hstarts.of_append.2.of_append.2
      exact hbody.of_append.2.of_append.2.of_append.1.be16
  | ringLink up interval =>
      rw [payload, tlv, hf] at hstarts
      simp only [List.append_assoc] at hstarts
      have hbody := hstarts.of_append.2.of_append.2
      have htype : (Frame.ringLink up interval).type ≠ .ringTest := by
        cases up <;> simp [Frame.type]
      rw [if_neg htype]
      exact hbody.of_append.2.of_append.1.be16
  | inLink up interval =>
      rw [hf] at h
      cases up <;> cases h
  | _ =>
      rw [hf] at h
      cases h

/-- So it is right exactly if the ports are not exchanged. -/
theorem Placed.roleRight_iff {x : Sent} (h : x.Placed) (htells : x.frame.type.tellsRole = true) :
    x.RoleRight ↔ x.view.pPort = .primary := by
  rcases h with ⟨hne, hport⟩
  unfold RoleRight
  rw [portRole_eq htells]
  rcases hport with hport | hport
  · rw [hport]
    cases hp : x.view.pPort <;> cases hs : x.view.sPort <;> simp_all [Port.role]
  · rw [hport]
    cases hp : x.view.pPort <;> cases hs : x.view.sPort <;> simp_all [Port.role]

end Sent

namespace Mrp

/-! ## Fresh frames -/

/-- Where the ports of `b` stand is what every frame shows that `b` has sent and `a` has not. -/
def Shows (a b : Mrp) : Prop :=
  ∀ x ∈ b.sentOf TlvType.tellsRole, x ∈ a.sentOf TlvType.tellsRole ∨
    x.view.pPort = b.pPort ∧ x.view.sPort = b.sPort ∧
      (x.port = .ring b.pPort ∨ x.port = .ring b.sPort)

section Shows

variable {a b : Mrp}

theorem Shows.of_sentOf (h : b.sentOf TlvType.tellsRole = a.sentOf TlvType.tellsRole) :
    Shows a b := by
  intro x hx
  rw [h] at hx
  exact .inl hx

/-- What leaves the ports in their places and sends no such frame can follow. -/
theorem Shows.congr {c : Mrp} (h : Shows a b)
    (hsent : c.sentOf TlvType.tellsRole = b.sentOf TlvType.tellsRole) (hring : c.ring = b.ring) :
    Shows a c := by
  have hp : c.pPort = b.pPort := congrArg Ring.pPort hring
  have hs : c.sPort = b.sPort := congrArg Ring.sPort hring
  intro x hx
  rw [hsent] at hx
  rw [hp, hs]
  exact h x hx

/-- A frame that leaves through a ring port. -/
theorem Shows.send (h : Shows a b) {r : RingPort} (hr : r = b.pPort ∨ r = b.sPort) (frame : Frame) :
    Shows a (b.send (.ring r) frame) := by
  have hp : (b.send (.ring r) frame).pPort = b.pPort := congrArg Ring.pPort (b.ring_send _ frame)
  have hs : (b.send (.ring r) frame).sPort = b.sPort := congrArg Ring.sPort (b.ring_send _ frame)
  intro x hx
  rw [hp, hs]
  rw [sentOf, filter_sent_send, List.mem_append] at hx
  rcases hx with hx | hx
  · split at hx
    · simp only [emits, port?] at hx
      split at hx
      · rw [List.mem_singleton] at hx
        subst hx
        refine .inr ⟨rfl, rfl, ?_⟩
        rcases hr with rfl | rfl
        · exact .inl rfl
        · exact .inr rfl
      · cases hx
    · cases hx
  · exact h x hx

theorem shows_ringTestStart {interval : UInt32} : Shows a (b.ringTestStart interval) ↔ Shows a b :=
  Iff.rfl

theorem Shows.ringTestReq (h : Shows a b) (interval : UInt32) :
    Shows a (b.ringTestReq interval) := by
  have hfirst : Shows a (b.sendRingTest b.pPort) := h.send (.inl rfl) _
  have hs : (b.sendRingTest b.pPort).sPort = b.sPort :=
    congrArg Ring.sPort (b.ring_send _ _)
  rw [Mrp.ringTestReq, shows_ringTestStart, ringTestSend]
  exact hfirst.send (.inr hs.symm) _

theorem Shows.ringTopoReq (h : Shows a b) (time : UInt32) : Shows a (b.ringTopoReq time) :=
  h.congr (b.ringTopoReq_sentOf rfl time) (b.ring_ringTopoReq time)

theorem Shows.ringLinkReq (h : Shows a b) {r : RingPort} (hr : r = b.pPort) (up : Bool)
    (interval : UInt32) : Shows a (b.ringLinkReq r up interval) :=
  h.send (.inl hr) _

theorem shows_setMrmState {state : MrmState} : Shows a (b.setMrmState state) ↔ Shows a b :=
  Iff.rfl

theorem shows_setMrcState {state : MrcState} : Shows a (b.setMrcState state) ↔ Shows a b :=
  Iff.rfl

theorem shows_nextRingTransition : Shows a b.nextRingTransition ↔ Shows a b :=
  Iff.rfl

theorem shows_setAddTest {v : Bool} : Shows a (b.setAddTest v) ↔ Shows a b :=
  Iff.rfl

end Shows

section Handlers

variable (mrp : Mrp)

/-- A manager exchanges the ports before it sends anything. -/
theorem shows_mrmPortLink (r : RingPort) (up : Bool) : Shows mrp (mrp.mrmPortLink r up) := by
  unfold mrmPortLink
  cases mrp.mrmState with
  | acStat1 =>
      dsimp only
      repeat' split
      · rw [shows_setMrmState]
        apply Shows.ringTestReq
        exact .of_sentOf rfl
      · rw [shows_setMrmState]
        apply Shows.ringTestReq
        exact .of_sentOf rfl
      · exact .of_sentOf rfl
  | prmUp =>
      dsimp only
      repeat' split
      · exact .of_sentOf rfl
      · rw [shows_setMrmState]
        apply Shows.ringTestReq
        exact .of_sentOf rfl
      · exact .of_sentOf rfl
  | chkRo =>
      dsimp only
      repeat' split
      · rw [shows_setMrmState]
        apply Shows.ringTopoReq
        apply Shows.ringTestReq
        exact .of_sentOf rfl
      · exact .of_sentOf rfl
      · exact .of_sentOf rfl
  | chkRc =>
      dsimp only
      repeat' split
      · rw [shows_setMrmState, shows_nextRingTransition]
        apply Shows.ringTopoReq
        apply Shows.ringTestReq
        exact .of_sentOf rfl
      · exact .of_sentOf rfl
      · exact .of_sentOf rfl

/-- So does a client. -/
theorem shows_mrcPortLink (r : RingPort) (up : Bool) : Shows mrp (mrp.mrcPortLink r up) := by
  unfold mrcPortLink
  cases mrp.mrcState with
  | acStat1 =>
      dsimp only
      repeat' split
      all_goals exact .of_sentOf rfl
  | deIdle =>
      dsimp only
      repeat' split
      · rw [shows_setMrcState]
        apply Shows.ringLinkReq
        · exact .of_sentOf rfl
        · rfl
      · exact .of_sentOf rfl
      · exact .of_sentOf rfl
  | pt =>
      dsimp only
      repeat' split
      · rw [shows_setMrcState]
        apply Shows.ringLinkReq
        · exact .of_sentOf rfl
        · rfl
      · rw [shows_setMrcState]
        apply Shows.ringLinkReq
        · exact .of_sentOf rfl
        · rfl
      · exact .of_sentOf rfl
  | de =>
      dsimp only
      repeat' split
      · rw [shows_setMrcState]
        apply Shows.ringLinkReq
        · exact .of_sentOf rfl
        · rfl
      · exact .of_sentOf rfl
      · exact .of_sentOf rfl
  | ptIdle =>
      dsimp only
      repeat' split
      · rw [shows_setMrcState]
        apply Shows.ringLinkReq
        · exact .of_sentOf rfl
        · rfl
      · rw [shows_setMrcState]
        apply Shows.ringLinkReq
        · exact .of_sentOf rfl
        · rfl
      · exact .of_sentOf rfl

/-- An own test frame. -/
theorem shows_mrmRecvRingTest : Shows mrp mrp.mrmRecvRingTest := by
  unfold mrmRecvRingTest
  cases mrp.mrmState with
  | acStat1 => exact .of_sentOf rfl
  | prmUp =>
      rw [shows_setMrmState]
      apply Shows.ringTestReq
      exact .of_sentOf rfl
  | chkRo =>
      rw [shows_setMrmState]
      apply Shows.ringTopoReq
      apply Shows.ringTestReq
      exact .of_sentOf rfl
  | chkRc => exact .of_sentOf rfl

/-- A link change frame. -/
theorem shows_recvRingLink (buf : Buf) : Shows mrp (mrp.recvRingLink buf) := by
  have htest : ∀ interval, Shows mrp ((mrp.setAddTest true).ringTestReq interval) :=
    fun interval => Shows.ringTestReq (.of_sentOf rfl) interval
  have hsame : Shows mrp mrp := .of_sentOf rfl
  unfold recvRingLink
  cases mrp.mrmState with
  | acStat1 => exact hsame
  | prmUp =>
      dsimp only
      repeat' split
      · exact hsame
      · exact htest _
      · exact hsame
      · exact hsame.ringTopoReq _
      · exact (htest _).ringTopoReq _
  | chkRo =>
      dsimp only
      repeat' split
      · exact htest _
      · exact hsame
      · exact hsame
      · exact htest _
      · rw [shows_setMrmState]
        apply Shows.ringTopoReq
        apply Shows.ringTestReq
        exact .of_sentOf rfl
      · rw [shows_setMrmState]
        apply Shows.ringTopoReq
        rw [shows_setAddTest]
        apply Shows.ringTestReq
        exact .of_sentOf rfl
      · exact hsame
  | chkRc =>
      dsimp only
      repeat' split
      · exact hsame
      · exact htest _
      · rw [shows_setMrmState]
        apply Shows.ringTopoReq
        exact .of_sentOf rfl
      · exact Shows.ringTopoReq (.of_sentOf rfl) _
      · exact hsame

/-- An expiry of the test timer. -/
theorem shows_ringTestExpired : Shows mrp mrp.ringTestExpired := by
  unfold ringTestExpired
  split
  · refine .of_sentOf ?_
    rw [sentOf, mrcRingTestExpired_sent, sentOf]
  · split
    · unfold mrmRingTestExpired
      cases mrp.mrmState with
      | acStat1 => exact .of_sentOf rfl
      | prmUp => exact Shows.ringTestReq (.of_sentOf rfl) _
      | chkRo => exact Shows.ringTestReq (.of_sentOf rfl) _
      | chkRc =>
          dsimp only
          repeat' split
          · rw [shows_setMrmState, shows_nextRingTransition]
            apply Shows.ringTestReq
            exact .of_sentOf rfl
          · rw [shows_setMrmState, shows_nextRingTransition]
            apply Shows.ringTestReq
            apply Shows.ringTopoReq
            exact .of_sentOf rfl
          · exact Shows.ringTestReq (.of_sentOf rfl) _
    · exact .of_sentOf rfl

/-- An expiry of the timers of the link change frames. -/
theorem shows_ringLinkUpExpired : Shows mrp mrp.ringLinkUpExpired := by
  unfold ringLinkUpExpired
  dsimp only
  split
  · exact Shows.ringLinkReq (.of_sentOf rfl) rfl _ _
  · exact .of_sentOf rfl

theorem shows_ringLinkDownExpired : Shows mrp mrp.ringLinkDownExpired := by
  unfold ringLinkDownExpired
  dsimp only
  split
  · exact Shows.ringLinkReq (.of_sentOf rfl) rfl _ _
  · exact .of_sentOf rfl

/-- A link event. -/
theorem shows_portLinkChange (p : Port) (up : Bool) : Shows mrp (mrp.portLinkChange p up) := by
  cases p with
  | inter => exact .of_sentOf (mrp.portLinkChange_sentOf (by decide) up)
  | ring r =>
      simp only [portLinkChange]
      cases (mrp.noteRingLink r up).ringRole with
      | mrm => exact (mrp.noteRingLink r up).shows_mrmPortLink r up
      | mrc => exact (mrp.noteRingLink r up).shows_mrcPortLink r up
      | disabled => exact .of_sentOf rfl
      | mra => exact .of_sentOf rfl

/-- A handled frame. -/
theorem shows_process (buf : Buf) (type : TlvType) : Shows mrp (mrp.process buf type) := by
  cases type with
  | ringTest =>
      simp only [process, recvRingTest]
      repeat' split
      · exact mrp.shows_mrmRecvRingTest
      · exact .of_sentOf (mrp.mraRecvRingTest_sentOf rfl _)
      · exact .of_sentOf rfl
  | ringLinkDown => exact mrp.shows_recvRingLink buf
  | ringLinkUp => exact mrp.shows_recvRingLink buf
  | _ => exact .of_sentOf (mrp.process_sentOf (by simp [TlvType.answers, TlvType.tellsRole]) buf)

/-- The callback of a timer. -/
theorem shows_expired (w : TimerId) : Shows mrp (mrp.expired w) := by
  cases w with
  | ringTest => exact mrp.shows_ringTestExpired
  | ringLinkUp => exact mrp.shows_ringLinkUpExpired
  | ringLinkDown => exact mrp.shows_ringLinkDownExpired
  | _ => exact .of_sentOf (mrp.expired_sentOf (by decide))

/-- Every event exchanges the ports, if it does, before it sends anything. -/
theorem step_shows (e : Event) : Shows mrp (mrp.step e) := by
  have hrelay : ∀ p fb type, (mrp.relay p fb type).sentOf TlvType.tellsRole =
      mrp.sentOf TlvType.tellsRole := by
    intro p fb type
    rw [sentOf, relay_sent, sentOf]
  cases e with
  | recv p rx =>
      simp only [step]
      cases hdel : mrp.delivered p rx with
      | none =>
          rcases recv_of_not_delivered hdel with hrecv | hrecv
          · rw [hrecv]
            exact .of_sentOf rfl
          · rw [hrecv]
            exact .of_sentOf (hrelay p _ _)
      | some x =>
          rw [(recv_of_delivered hdel).2]
          intro y hy
          rw [← hrelay p rx.frameBuf x.1]
          exact shows_process _ x.2 x.1 y hy
  | linkChange p up =>
      simp only [step]
      split
      · exact mrp.shows_portLinkChange p up
      · exact .of_sentOf rfl
  | operstate p state =>
      have hset : (mrp.setOperstate p (storedOperstate state)).sentOf TlvType.tellsRole =
          mrp.sentOf TlvType.tellsRole := by
        cases p <;> rfl
      simp only [step, netlinkOperstate]
      repeat' split
      · exact .of_sentOf rfl
      · exact .of_sentOf rfl
      · intro x hx
        rw [← hset]
        exact shows_portLinkChange _ p _ x hx
      · exact .of_sentOf hset
  | cfmLinkChange defect => exact .of_sentOf (mrp.cfmLinkChange_sentOf (by decide) defect)
  | portMac p mac => cases p <;> exact .of_sentOf rfl
  | bridgeMac mac => exact .of_sentOf rfl
  | expired w =>
      simp only [step]
      split
      · exact mrp.shows_expired w
      · exact .of_sentOf rfl

end Handlers

end Mrp

/-! ## Exchanges -/

theorem RingPort.eq_other_of_ne {r q : RingPort} (h : r ≠ q) : r = q.other := by
  cases r <;> cases q <;> first | rfl | exact absurd rfl h

namespace Ring

/-- A link event exchanges primary and secondary port: the first link that comes up is not that
of the primary port, or the primary port loses its link while the secondary one has its own. -/
def exchanges (x : Ring) (r : RingPort) (up : Bool) : Bool :=
  match x.role, up with
  | .mrm, true => x.mrm = .acStat1 && r ≠ x.pPort
  | .mrm, false => (x.mrm = .chkRo || x.mrm = .chkRc) && r = x.pPort
  | .mrc, true => x.mrc = .acStat1 && r ≠ x.pPort
  | .mrc, false => (x.mrc = .pt || x.mrc = .ptIdle) && r = x.pPort
  | .disabled, _ | .mra, _ => false

/-- The primary port after a link event. -/
theorem linkEvent_pPort {c : LinkConf} {x : Ring} (h : x.pPort ≠ x.sPort) (r : RingPort)
    (up : Bool) :
    (x.linkEvent c r up).pPort = if x.exchanges r up then x.pPort.other else x.pPort := by
  have hs : x.sPort = x.pPort.other := RingPort.eq_other_of_ne h.symm
  unfold linkEvent exchanges mrmLink mrcLink
  by_cases hp : r = x.pPort
  · cases x.role with
    | disabled => rfl
    | mra => rfl
    | mrm => cases hm : x.mrm <;> cases up <;> simp [note, set, hm, hp, hs]
    | mrc => cases hm : x.mrc <;> cases up <;> simp [note, set, hm, hp, hs]
  · obtain rfl : r = x.pPort.other := RingPort.eq_other_of_ne hp
    cases x.role with
    | disabled => rfl
    | mra => rfl
    | mrm => cases hm : x.mrm <;> cases up <;> simp [note, set, hm, hp]
    | mrc => cases hm : x.mrc <;> cases up <;> simp [note, set, hm, hp]

/-- A link that comes up at the primary port exchanges nothing. -/
theorem exchanges_pPort (x : Ring) : x.exchanges x.pPort true = false := by
  unfold exchanges
  split <;> simp_all

/-- After it no link that comes up does. -/
theorem exchanges_linkEvent_up {c : LinkConf} {x : Ring} {r : RingPort} :
    (x.linkEvent c x.pPort true).exchanges r true = false := by
  unfold linkEvent mrmLink mrcLink
  cases hrole : x.role with
  | disabled => simp [exchanges, note, hrole]
  | mra => simp [exchanges, note, hrole]
  | mrm => cases hm : x.mrm <;> simp [exchanges, note, set, hrole, hm]
  | mrc => cases hm : x.mrc <;> simp [exchanges, note, set, hrole, hm]

end Ring

namespace Mrp

/-- The event makes the ring machine exchange the ports. -/
def exchanges (mrp : Mrp) (e : Event) : Bool :=
  match mrp.ringEvent e with
  | .link r up => mrp.ring.exchanges r up
  | _ => false

/-- The primary port after an event. -/
theorem step_pPort_eq {mrp : Mrp} (h : mrp.pPort ≠ mrp.sPort) (e : Event) :
    (mrp.step e).pPort = if mrp.exchanges e then mrp.pPort.other else mrp.pPort := by
  have hring : (mrp.step e).pPort = (mrp.ring.step mrp.linkConf (mrp.ringEvent e)).pPort :=
    congrArg Ring.pPort (mrp.step_ring e)
  rw [hring, exchanges]
  split
  next r up hlink =>
    rw [hlink]
    exact Ring.linkEvent_pPort h r up
  next hlink =>
    rw [if_neg Bool.false_ne_true]
    exact (Ring.step_pPort hlink).1

/-- An event that can make the instance send such a frame finds the ports in their places, or it
puts them there. -/
def RoleGuard (mrp : Mrp) (e : Event) : Prop :=
  (∃ t ∈ mrp.announces e, t.tellsRole = true) → (mrp.pPort = .primary ↔ mrp.exchanges e = false)

/-- All these frames say where the ports stood. -/
def RolesRight (mrp : Mrp) : Prop :=
  ∀ x ∈ mrp.sent, x.frame.type.tellsRole = true → x.RoleRight

theorem mem_sentOf {mrp : Mrp} {P : TlvType → Bool} {x : Sent} :
    x ∈ mrp.sentOf P ↔ x ∈ mrp.sent ∧ P x.frame.type = true :=
  List.mem_filter

theorem step_distinct {mrp : Mrp} (h : mrp.pPort ≠ mrp.sPort) (e : Event) :
    (mrp.step e).pPort ≠ (mrp.step e).sPort := by
  have hkept := (Ring.step_kept (c := mrp.linkConf) (x := mrp.ring) h (mrp.ringEvent e)).distinct
  rwa [← mrp.step_ring e] at hkept

theorem distinct_portLinkChange {mrp : Mrp} (h : mrp.pPort ≠ mrp.sPort) (p : Port) (up : Bool) :
    (mrp.portLinkChange p up).pPort ≠ (mrp.portLinkChange p up).sPort := by
  cases p with
  | ring r =>
      have hkept := (Ring.step_kept (c := mrp.linkConf) (x := mrp.ring) h (.link r up)).distinct
      rwa [← mrp.ring_portLinkChange r up] at hkept
  | inter =>
      rw [(mrp.portLinkChange_inter_op up).toRingPart]
      exact h

/-- What `Shows` says about a single frame. -/
theorem Shows.cases {a b : Mrp} (h : Shows a b) (hd : b.pPort ≠ b.sPort) {x : Sent}
    (hx : x ∈ b.sentOf TlvType.tellsRole) :
    x ∈ a.sentOf TlvType.tellsRole ∨ x.Placed ∧ x.view.pPort = b.pPort := by
  rcases h x hx with hold | ⟨hp, hs, hport⟩
  · exact .inl hold
  · refine .inr ⟨⟨?_, ?_⟩, hp⟩
    · rw [hp, hs]
      exact hd
    · rw [hp, hs]
      exact hport

/-- A step after which all these frames are still right. -/
theorem RolesRight.step {mrp : Mrp} (h : mrp.RolesRight) (hd : mrp.pPort ≠ mrp.sPort) {e : Event}
    (hguard : mrp.RoleGuard e) : (mrp.step e).RolesRight := by
  intro x hx htells
  have hmem : x ∈ (mrp.step e).sentOf TlvType.tellsRole := mem_sentOf.mpr ⟨hx, htells⟩
  by_cases hann : ∃ t ∈ mrp.announces e, t.tellsRole = true
  · rcases (mrp.step_shows e).cases (step_distinct hd e) hmem with hold | ⟨hplaced, hp⟩
    · exact h x (mem_sentOf.mp hold).1 htells
    · rw [hplaced.roleRight_iff htells, hp, step_pPort_eq hd]
      have hiff := hguard hann
      cases hpp : mrp.pPort with
      | primary => simp [hiff.mp hpp]
      | secondary =>
          have hex : mrp.exchanges e = true := by
            by_contra hfalse
            have hprim := hiff.mpr (Bool.eq_false_iff.mpr hfalse)
            rw [hpp] at hprim
            cases hprim
          simp [hex, RingPort.other]
  · -- the event sends nothing that tells a role
    have hnone : ∀ t ∈ mrp.announces e, t.tellsRole = false := by
      intro t ht
      by_contra hne
      exact hann ⟨t, ht, Bool.eq_true_of_not_eq_false hne⟩
    rw [mrp.step_sentOf hnone] at hmem
    exact h x (mem_sentOf.mp hmem).1 htells

/-! ## Creation -/

/-- The ports are in their places, and were so when a frame left. -/
def InPlace (mrp : Mrp) : Prop :=
  mrp.pPort = .primary ∧ mrp.pPort ≠ mrp.sPort ∧
    ∀ x ∈ mrp.sentOf TlvType.tellsRole, x.Placed ∧ x.view.pPort = .primary

theorem InPlace.congr {a b : Mrp} (h : a.InPlace) (hp : b.pPort = a.pPort) (hs : b.sPort = a.sPort)
    (hsent : b.sentOf TlvType.tellsRole = a.sentOf TlvType.tellsRole) : b.InPlace := by
  unfold InPlace
  rw [hp, hs, hsent]
  exact h

/-- A link that comes up without an exchange. -/
theorem InPlace.portLinkChange {mrp : Mrp} (h : mrp.InPlace) {r : RingPort}
    (hno : mrp.ring.exchanges r true = false) : (mrp.portLinkChange (.ring r) true).InPlace := by
  rcases h with ⟨hp, hd, hsent⟩
  have hring := mrp.ring_portLinkChange r true
  have hp' : (mrp.portLinkChange (.ring r) true).pPort = .primary := by
    have hlink := Ring.linkEvent_pPort (c := mrp.linkConf) (x := mrp.ring) hd r true
    rw [hno, if_neg Bool.false_ne_true] at hlink
    exact (congrArg Ring.pPort hring).trans (hlink.trans hp)
  have hd' := distinct_portLinkChange hd (.ring r) true
  refine ⟨hp', hd', fun x hx => ?_⟩
  rcases (mrp.shows_portLinkChange (.ring r) true).cases hd' hx with hold | ⟨hplaced, hview⟩
  · exact hsent x hold
  · exact ⟨hplaced, hview.trans hp'⟩

theorem InPlace.announceRingLink {mrp : Mrp} (h : mrp.InPlace) {env : Env} {r : RingPort}
    (hno : env.ifGetLink (.ring r) = true → mrp.ring.exchanges r true = false) :
    (mrp.announceRingLink env r).InPlace := by
  unfold Mrp.announceRingLink
  split
  next hup => exact h.portLinkChange (hno hup)
  next => exact h

/-- The links that are up when the role is set do not exchange the ports, unless only the secondary
one is. -/
theorem InPlace.announceRingLinks {mrp : Mrp} (h : mrp.InPlace) {env : Env}
    (henv : env.ifGetLink (.ring .primary) = true ∨ env.ifGetLink (.ring .secondary) = false) :
    (mrp.announceRingLinks env).InPlace := by
  have hfirst : (mrp.announceRingLink env mrp.pPort).InPlace :=
    h.announceRingLink fun _ => mrp.ring.exchanges_pPort
  refine hfirst.announceRingLink fun hsecond => ?_
  have hs : (mrp.announceRingLink env mrp.pPort).sPort = .secondary := by
    have hother := RingPort.eq_other_of_ne hfirst.2.1.symm
    rwa [hfirst.1] at hother
  have hprimary : env.ifGetLink (.ring mrp.pPort) = true := by
    rw [hs] at hsecond
    rw [h.1]
    refine henv.resolve_right ?_
    rw [hsecond]
    exact Bool.noConfusion
  have hup : mrp.announceRingLink env mrp.pPort = mrp.portLinkChange (.ring mrp.pPort) true :=
    if_pos hprimary
  rw [hup, ring_portLinkChange]
  exact Ring.exchanges_linkEvent_up

theorem InPlace.takeRingRole {mrp : Mrp} (h : mrp.InPlace) {env : Env}
    (henv : env.ifGetLink (.ring .primary) = true ∨ env.ifGetLink (.ring .secondary) = false)
    (role : RingRole) : (mrp.takeRingRole env role).1.InPlace := by
  have hset : (((mrp.portSetState (.ring mrp.pPort) .blocked).portSetState
      (.ring mrp.sPort) .blocked).setRingRole role).InPlace := h
  simp only [Mrp.takeRingRole]
  split
  · exact hset
  · exact hset.announceRingLinks henv

theorem configure_inPlace (env : Env) (a : AddArgs) : (configure env a).InPlace := by
  have hring := (configure_configured env a).ring
  have hp : (configure env a).pPort = .primary := congrArg Ring.pPort hring
  have hs : (configure env a).sPort = .secondary := congrArg Ring.sPort hring
  refine ⟨hp, by rw [hp, hs]; decide, fun x hx => ?_⟩
  rw [sentOf, (configure_configured env a).sent] at hx
  cases hx

/-- The ports after the ring role was set. -/
theorem withRing_inPlace {env : Env} (a : AddArgs)
    (henv : env.ifGetLink (.ring .primary) = true ∨ env.ifGetLink (.ring .secondary) = false) :
    (withRing env a).1.InPlace := by
  have hconf := configure_inPlace env a
  have hreset : ∀ {m : Mrp}, m.InPlace → m.resetRingState.InPlace := by
    intro m hm
    have hring := m.ring_resetRingState
    refine hm.congr (congrArg Ring.pPort hring) (congrArg Ring.sPort hring) ?_
    rw [sentOf, resetRingState_sent, sentOf]
  have hmrm : ∀ {m : Mrp}, m.InPlace → (m.setMrmInit.setMrmState .acStat1).InPlace := fun hm => hm
  have hmrc : ∀ {m : Mrp}, m.InPlace → (m.setMrcInit.setMrcState .acStat1).InPlace := fun hm => hm
  have hmra : ∀ {m : Mrp}, m.InPlace → (m.setMrmInit.setMrcInit.setMrmState .acStat1).InPlace :=
    fun hm => hm
  have hauto : ({ configure env a with mraSupport := true } : Mrp).InPlace := hconf
  unfold withRing setRingRoleByNumber
  repeat' split
  · exact (hmrm (hreset hconf)).takeRingRole henv .mrm
  · exact (hmrc (hreset hconf)).takeRingRole henv .mrc
  · exact (hmra (hreset hauto)).takeRingRole henv .mrm
  · exact hconf

end Mrp

/-! ## Runs -/

namespace Mrp

/-- The ring ports are distinct, and were so when a frame left through one of them. -/
def AllPlaced (mrp : Mrp) : Prop :=
  mrp.pPort ≠ mrp.sPort ∧ ∀ x ∈ mrp.sentOf TlvType.tellsRole, x.Placed

theorem AllPlaced.shows {a b : Mrp} (h : a.AllPlaced) (hshows : Shows a b)
    (hd : b.pPort ≠ b.sPort) : b.AllPlaced := by
  refine ⟨hd, fun x hx => ?_⟩
  rcases hshows.cases hd hx with hold | ⟨hplaced, -⟩
  · exact h.2 x hold
  · exact hplaced

theorem allPlaced_keptByRoles : KeptByRoles AllPlaced where
  mraSupport _ h := h
  resetRingState m h := by
    have hring := m.ring_resetRingState
    have hp : m.resetRingState.pPort = m.pPort := congrArg Ring.pPort hring
    have hs : m.resetRingState.sPort = m.sPort := congrArg Ring.sPort hring
    refine h.shows (.of_sentOf ?_) ?_
    · rw [sentOf, resetRingState_sent, sentOf]
    · rw [hp, hs]
      exact h.1
  setMrmInit _ h := h
  setMrcInit _ h := h
  setMrmState _ h := h
  setMrcState _ h := h
  portSetState m p state h := by
    cases p with
    | ring r => exact h
    | inter =>
        refine h.shows (.of_sentOf ?_) ?_
        · rw [sentOf, portSetState_sent, sentOf]
        · rw [portSetState_inter_toRingPart]
          exact h.1
  setRingRole _ _ h := h
  setInRole _ _ h := h
  portLinkChange m p h := h.shows (m.shows_portLinkChange p true) (distinct_portLinkChange h.1 p true)
  cfmLinkChange m h := by
    refine h.shows (.of_sentOf (m.cfmLinkChange_sentOf (by decide) false)) ?_
    rw [(m.cfmLinkChange_op false).toRingPart]
    exact h.1

end Mrp

namespace Created

variable {env : Env} {a : AddArgs} {mrp : Mrp}

/-- What was sent while the role was set left through one of the two ports. -/
theorem allPlaced (h : Created env a mrp) : mrp.AllPlaced := by
  refine Mrp.allPlaced_keptByRoles.created ?_ h
  rcases Mrp.configure_inPlace env a with ⟨-, hd, hsent⟩
  exact ⟨hd, fun x hx => (hsent x hx).1⟩

/-- It is right if the ports were not exchanged meanwhile. -/
theorem rolesRight (h : Created env a mrp)
    (henv : env.ifGetLink (.ring .primary) = true ∨ env.ifGetLink (.ring .secondary) = false) :
    mrp.RolesRight := by
  rcases h.built_eq with ⟨reg, rfl, -, -⟩
  have hplace := Mrp.withRing_inPlace a henv
  have hsame : (reg.built env a).2.1.sentOf TlvType.tellsRole =
      (Mrp.withRing env a).1.sentOf TlvType.tellsRole := by
    refine Registry.observe_built (g := fun m => m.sentOf TlvType.tellsRole) ?_ ?_ ?_ ?_ reg env a
    · exact fun m role => rfl
    · intro m state
      rw [Mrp.sentOf, Mrp.portSetState_sent, Mrp.sentOf]
    · exact fun m up => m.portLinkChange_sentOf (by decide) up
    · exact fun m defect => m.cfmLinkChange_sentOf (by decide) defect
  intro x hx htells
  have hmem : x ∈ (reg.built env a).2.1.sentOf TlvType.tellsRole :=
    Mrp.mem_sentOf.mpr ⟨hx, htells⟩
  rw [hsame] at hmem
  rcases hplace.2.2 x hmem with ⟨hplaced, hview⟩
  exact (hplaced.roleRight_iff htells).mpr hview

end Created

/-- A frame that tells the role of its port is right exactly if it leaves while `p_port` is the
port that was created as the primary one.  They are all right in a run that starts with the ports
in their places and in which no event comes that sends such frames with the ports exchanged. -/
theorem port_roles_right {env : Env} {a : AddArgs} {mrp : Mrp} (h : Created env a mrp)
    (es : List Event) :
    (∀ x ∈ (run Mrp.step mrp es).sent, x.frame.type.tellsRole = true →
      (x.RoleRight ↔ x.view.pPort = .primary)) ∧
    (env.ifGetLink (.ring .primary) = true ∨ env.ifGetLink (.ring .secondary) = false →
      Guarded Mrp.step Mrp.RoleGuard mrp es → Always Mrp.step Mrp.RolesRight mrp es) := by
  constructor
  · have hplaced : (run Mrp.step mrp es).AllPlaced :=
      run_invariant (fun m e hm => hm.shows (m.step_shows e) (Mrp.step_distinct hm.1 e)) h.allPlaced es
    intro x hx htells
    exact (hplaced.2 x (Mrp.mem_sentOf.mpr ⟨hx, htells⟩)).roleRight_iff htells
  · intro henv hguarded
    exact always_of_guarded (I := fun m => m.pPort ≠ m.sPort ∧ m.RolesRight)
      (fun m e hm hguard => ⟨Mrp.step_distinct hm.1 e, hm.2.step hm.1 hguard⟩) (fun m hm => hm.2)
      ⟨h.allPlaced.1, h.rolesRight henv⟩ hguarded

namespace Sample

/-- The secondary link of the sample manager fails and comes back, and it goes on testing. -/
def secondaryFails : List Event :=
  [.expired .ringTest, .linkChange (.ring .secondary) false, .expired .ringTest,
    .linkChange (.ring .secondary) true]

end Sample

/-- The ports of the sample manager stay in their places. -/
theorem port_roles_right_sample :
    Guarded Mrp.step Mrp.RoleGuard (Sample.mrp ringRoleMrm 0) Sample.secondaryFails ∧
      Always Mrp.step Mrp.RolesRight (Sample.mrp ringRoleMrm 0) Sample.secondaryFails := by
  have hguarded : Guarded Mrp.step Mrp.RoleGuard (Sample.mrp ringRoleMrm 0) Sample.secondaryFails := by
    refine ⟨fun _ => ?_, fun _ => ?_, fun _ => ?_, fun _ => ?_, trivial⟩
    · decide +kernel
    · decide +kernel
    · decide +kernel
    · decide +kernel
  exact ⟨hguarded, (port_roles_right (Sample.created (by decide +kernel)) Sample.secondaryFails).2
    (.inl rfl) hguarded⟩

/-- A manager and a client whose primary link fails: the frames that they then send through their
new primary port tell that it is the secondary one. -/
theorem exchanged_roles_wrong :
    (Created Sample.env (Sample.args ringRoleMrm 0) (Sample.mrp ringRoleMrm 0) ∧
      ∃ x ∈ ((Sample.mrp ringRoleMrm 0).step (.linkChange (.ring .primary) false)).sent,
        x.frame.type = .ringTest ∧ x.port = .ring x.view.pPort ∧
          x.portRole = (Port.ring .secondary).role ∧ ¬x.RoleRight) ∧
    Created Sample.env (Sample.args ringRoleMrc 0) (Sample.mrp ringRoleMrc 0) ∧
      ∃ x ∈ ((Sample.mrp ringRoleMrc 0).step (.linkChange (.ring .primary) false)).sent,
        x.frame.type = .ringLinkDown ∧ x.port = .ring x.view.pPort ∧
          x.portRole = (Port.ring .secondary).role ∧ ¬x.RoleRight := by
  unfold Sent.RoleRight
  exact ⟨⟨Sample.created (by decide +kernel), by decide +kernel⟩,
    Sample.created (by decide +kernel), by decide +kernel⟩

end Umrp
