import Umrp.Election
import Umrp.Sending

/-!
# Networks without auto-managers

A NACK demotes a manager that is an interconnection manager too, even one that was created
as a plain manager.  But only a bridge that supports auto-managers sends NACKs, so that
among managers and clients nobody ever gets one.

Main results:

- Theorem `Mrp.step_options`: without support for auto-managers, and without option frames
  to react to, an event sends no option frame.
- Theorem `roles_kept_in_network`: on a network of managers and clients every bridge keeps
  its role.
-/

namespace Umrp

open Octets EventMachine

/-! ## Option frames in the table -/

theorem TlvType.answers_option (type : TlvType) (htest : type ≠ .ringTest) (hoption : type ≠ .option) :
    ∀ t ∈ type.answers, decide (t = .option) = false := by
  cases type <;> simp_all [answers]

theorem Port.announces_option (p : Port) : ∀ t ∈ p.announces, decide (t = .option) = false := by
  cases p <;> simp [announces]

theorem TimerId.announces_option (w : TimerId) :
    ∀ t ∈ w.announces, decide (t = .option) = false := by
  cases w <;> simp [announces]

namespace Mrp

variable {mrp : Mrp}

/-- No frame that was sent is an option frame. -/
def OptionFree (mrp : Mrp) : Prop := mrp.sentOf (· = .option) = []

theorem OptionFree.type_ne (h : mrp.OptionFree) {x : Sent} (hx : x ∈ mrp.sent) :
    x.frame.type ≠ .option := by
  intro htype
  have hmem : x ∈ mrp.sentOf (· = .option) := List.mem_filter.mpr ⟨hx, by simpa using htype⟩
  rw [h] at hmem
  cases hmem

/-- The test frames of other managers are answered only with support for auto-managers. -/
theorem recvRingTest_options (hmra : mrp.mraSupport = false) (buf : Buf) :
    (mrp.recvRingTest buf).sentOf (· = .option) = mrp.sentOf (· = .option) := by
  unfold recvRingTest
  dsimp only
  split
  · exact mrp.mrmRecvRingTest_sentOf (by decide) (by decide)
  · rw [hmra]
    rfl

/-- Without support for auto-managers, an event other than an option frame sends no
option frame. -/
theorem step_options (hmra : mrp.mraSupport = false) (e : Event)
    (hnone : ∀ p rx buf, e = .recv p rx → mrp.delivered p rx ≠ some (.option, buf)) :
    (mrp.step e).sentOf (· = .option) = mrp.sentOf (· = .option) := by
  by_cases htest : ∃ p rx buf, e = .recv p rx ∧ mrp.delivered p rx = some (.ringTest, buf)
  · obtain ⟨p, rx, buf, rfl, hdel⟩ := htest
    have hrelay : (mrp.relay p rx.frameBuf .ringTest).mraSupport = false := by
      simpa using hmra
    simp only [step]
    rw [(recv_of_delivered hdel).2, process, recvRingTest_options hrelay]
    simp [sentOf]
  · refine mrp.step_sentOf ?_
    cases e with
    | recv p rx =>
        simp only [announces]
        split
        next type buf hdel =>
          refine type.answers_option ?_ ?_
          · rintro rfl
            exact htest ⟨p, rx, buf, rfl, hdel⟩
          · rintro rfl
            exact hnone p rx buf rfl hdel
        · simp
    | linkChange p up => exact p.announces_option
    | operstate p state => exact p.announces_option
    | cfmLinkChange defect => exact Port.inter.announces_option
    | portMac p mac => simp [announces]
    | bridgeMac mac => simp [announces]
    | expired w => exact w.announces_option

/-- Creating an instance sends no option frame. -/
theorem optionFree_keptByRoles : KeptByRoles OptionFree where
  mraSupport _ h := h
  resetRingState m h := by rwa [OptionFree, sentOf, resetRingState_sent]
  setMrmInit _ h := h
  setMrcInit _ h := h
  setMrmState _ h := h
  setMrcState _ h := h
  portSetState m p state h := by rwa [OptionFree, sentOf, portSetState_sent]
  setRingRole _ _ h := h
  setInRole _ _ h := h
  portLinkChange m p h := by
    rw [OptionFree, m.portLinkChange_sentOf p.announces_option]
    exact h
  cfmLinkChange m h := by
    rw [OptionFree, m.cfmLinkChange_sentOf Port.inter.announces_option]
    exact h

end Mrp

namespace Created

variable {env : Env} {a : AddArgs} {mrp : Mrp}

theorem optionFree (h : Created env a mrp) : mrp.OptionFree := by
  refine Mrp.optionFree_keptByRoles.created ?_ h
  rw [Mrp.OptionFree, Mrp.sentOf, (configure_configured env a).sent]
  rfl

/-- The role of a new manager or client. -/
theorem ringRole_of_plain (h : Created env a mrp)
    (ha : a.ringRole = ringRoleMrm ∨ a.ringRole = ringRoleMrc) :
    mrp.ringRole = .mrm ∨ mrp.ringRole = .mrc := by
  refine h.ring_of_fresh (I := fun x => x.role = .mrm ∨ x.role = .mrc) ?_ ?_ ?_
  · exact ha.elim (fun h => .inr (.inl h)) .inl
  · rcases ha with h | h
    · rw [h]
      exact .inl rfl
    · rw [h]
      exact .inr rfl
  · intro x r hx
    have hen : x.Enabled false (.link r true) := trivial
    rwa [(Ring.step_role_iff hx hen).mpr (by simp)]

end Created

/-- What holds of a manager or client `m₀` throughout, if it gets no option frames. -/
structure PlainInv (m₀ mrp : Mrp) : Prop where
  mraSupport : mrp.mraSupport = false
  plain : mrp.ringRole = .mrm ∨ mrp.ringRole = .mrc
  role : mrp.ringRole = m₀.ringRole
  free : mrp.OptionFree

/-- One event, if the frames that arrive are no option frames. -/
theorem PlainInv.step {m₀ mrp : Mrp} (h : PlainInv m₀ mrp) {e : Event}
    (hrecv : ∀ bytes, party.receives e = some bytes →
      ∃ x : Sent, bytes = x.bytes ∧ x.frame.type ≠ .option) : PlainInv m₀ (mrp.step e) := by
  have hnone : ∀ p rx buf, e = .recv p rx → mrp.delivered p rx ≠ some (.option, buf) := by
    rintro p rx buf rfl hdel
    obtain ⟨x, hbytes, hx⟩ := hrecv rx.bytes rfl
    exact hx (Mrp.delivered_of_sent hbytes hdel).1.symm
  have hen := mrp.ringEvent_enabled e
  rw [h.mraSupport] at hen
  have hrole : (mrp.step e).ringRole = mrp.ringRole := by
    have hiff := Ring.step_role_iff (c := mrp.linkConf) (x := mrp.ring) h.plain hen
    rw [← mrp.step_ring e] at hiff
    refine hiff.mpr fun hnacked => ?_
    obtain ⟨p, rx, buf, he, hdel, -, -⟩ := Mrp.exists_of_nacked hnacked.1
    exact hnone p rx buf he hdel
  refine ⟨?_, ?_, hrole.trans h.role, ?_⟩
  · rw [mrp.step_toMrpConf]
    exact h.mraSupport
  · rw [hrole]
    exact h.plain
  · rw [Mrp.OptionFree, Mrp.step_options h.mraSupport e hnone]
    exact h.free

/-- Any number of managers and clients, created as `mrp_add` does, on a network that delivers
their own frames in any order, any number of times, or not at all, with any link events and
timers in between: every bridge keeps its role, and no option frame is ever on the wire. -/
theorem roles_kept_in_network {ι : Type*} [DecidableEq ι] {init s : ι → Mrp}
    (hinit : ∀ i, ∃ env a, (a.ringRole = ringRoleMrm ∨ a.ringRole = ringRoleMrc) ∧
      Created env a (init i))
    (h : Network.Reach party (fun _ => True) init s) :
    (∀ i, (s i).ringRole = (init i).ringRole) ∧
      ∀ bytes ∈ Network.pool party s,
        ∃ j, ∃ x ∈ (s j).sent, bytes = x.bytes ∧ x.frame.type ≠ .option := by
  have hpassed : ∀ i, party.passedOn (init i) = ∅ := by
    intro i
    obtain ⟨env, a, -, hcreated⟩ := hinit i
    exact hcreated.passedOn
  have hinv : ∀ i, PlainInv (init i) (s i) := by
    refine fun i => h.invariant party_relays hpassed (J := fun i m => PlainInv (init i) m)
      (A := fun _ bytes => ∃ x : Sent, bytes = x.bytes ∧ x.frame.type ≠ .option) ?_ ?_ ?_ i
    · intro i
      obtain ⟨env, a, ha, hcreated⟩ := hinit i
      refine ⟨?_, hcreated.ringRole_of_plain ha, rfl, hcreated.optionFree⟩
      rw [hcreated.mraSupport]
      rcases ha with ha | ha <;> rw [ha] <;> decide
    · rintro i m hm _ ⟨x, hx, rfl⟩
      exact ⟨x, rfl, hm.free.type_ne hx⟩
    · intro i m e _ hm hrecv
      exact hm.step fun bytes hbytes => (hrecv bytes hbytes).elim fun _ hx => hx
  refine ⟨fun i => (hinv i).role, ?_⟩
  intro bytes hbytes
  obtain ⟨j, x, hx, rfl⟩ := h.exists_author party_relays hpassed hbytes
  exact ⟨j, x, hx, rfl, (hinv j).free.type_ne hx⟩

/-- A manager of both kinds, and a client of its ring. -/
def Sample.plain : Bool → Mrp
  | true => mrp ringRoleMrm inRoleMim
  | false => mrp ringRoleMrc inRoleMim

theorem Sample.created_plain (manager : Bool) : ∃ env a,
    (a.ringRole = ringRoleMrm ∨ a.ringRole = ringRoleMrc) ∧ Created env a (plain manager) := by
  cases manager with
  | true => exact ⟨env, args ringRoleMrm inRoleMim, .inl rfl, created (by decide +kernel)⟩
  | false => exact ⟨env, args ringRoleMrc inRoleMim, .inr rfl, created (by decide +kernel)⟩

/-- The two of them, after the test timer of the manager has expired. -/
theorem roles_kept_in_network_sample :
    (Function.update Sample.plain true
      (party.step (Sample.plain true) (.expired .ringTest)) true).ringRole =
      (Sample.plain true).ringRole := by
  have hreach : Network.Reach party (fun _ => True) Sample.plain Sample.plain := .init
  have hstep := hreach.step true (.expired .ringTest) trivial nofun
  exact (roles_kept_in_network Sample.created_plain hstep).1 true

end Umrp
