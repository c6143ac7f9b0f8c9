import Umrp.Ring.Ports

/-!
# Giving up the manager role

Only an auto-manager is meant to change its role.  The filter in front of the
handlers forgets to end the case of option frames, so a NACK reaches its handler
on every instance with the interconnection manager role as well.

Main results:

- Theorem `Ring.step_role_iff`: without auto-manager support only a NACK changes
  the role.
- Theorem `role_kept_iff`: an instance without auto-manager support keeps its role
  along a run exactly when no step of the run handles such a NACK.
-/

namespace Umrp

open Octets EventMachine

namespace Ring

variable {c : LinkConf} {x : Ring}

/-- Without auto-manager support the role changes exactly when a manager that has
left its initial state gets a NACK. -/
theorem step_role_iff {ev : Event} (hrole : x.role = .mrm ∨ x.role = .mrc)
    (hen : x.Enabled false ev) :
    (x.step c ev).role = x.role ↔ ¬ (ev = .nacked ∧ x.mrm ≠ .acStat1) := by
  cases ev with
  | link r up =>
      refine iff_of_true ?_ (by simp)
      rcases hrole with h | h
      · simp only [step, linkEvent, h]
        exact ((x.note r up).mrmLink_role r up).trans h
      · simp only [step, linkEvent, h]
        exact (mrcLink_role c (x.note r up) r up).trans h
  | closed => exact iff_of_true x.close_role (by simp)
  | opened => exact iff_of_true x.opening_role (by simp)
  | topologyChange => exact iff_of_true (topology_role c x) (by simp)
  | nacked =>
      have hmrm : x.role = .mrm := hrole.resolve_right hen
      cases hm : x.mrm <;> simp [step, giveUp, hm, hmrm]
  | managerLost => exact absurd hen.2 (by decide)
  | linkUpTick =>
      refine iff_of_true ?_ (by simp)
      simp only [step, upTick]
      split <;> rfl
  | linkDownTick =>
      refine iff_of_true ?_ (by simp)
      simp only [step, downTick]
      split <;> rfl
  | silent => exact iff_of_true rfl (by simp)

/-- With or without auto-manager support, a manager becomes a client by a NACK only. -/
theorem nacked_of_role {mra : Bool} {ev : Event} (hen : x.Enabled mra ev) (hrole : x.role = .mrm)
    (hstep : (x.step c ev).role = .mrc) : ev = .nacked := by
  by_contra hev
  have hen' : x.Enabled false ev := by
    cases ev with
    | closed => exact .inl hrole
    | managerLost =>
        have hmrc : x.role = .mrc := hen.1
        rw [hrole] at hmrc
        cases hmrc
    | _ => exact hen
  have hkept := (step_role_iff (c := c) (.inl hrole) hen').mpr fun h => hev h.1
  rw [hkept, hrole] at hstep
  cases hstep

end Ring

namespace Mrp

/-- A handled option frame that is a NACK of another bridge and names this one. -/
def NamedByNack (mrp : Mrp) (buf : Buf) : Prop :=
  subTlv buf 0 = subTlvTestMgrNack ∧
    TestMgrHdr.sa (subTlvBody (subTlv buf)) ≠ mrp.macaddr ∧
    TestMgrHdr.otherSa (subTlvBody (subTlv buf)) = mrp.macaddr

/-- Steps that demote a manager without auto-manager support: the instance is an
interconnection manager as well, its manager state is not the initial one, and it
handles a NACK of another bridge that names it. -/
def DemotedBy (mrp : Mrp) : Event → Prop
  | .recv p rx =>
      mrp.inRole = .mim ∧ mrp.ringRole = .mrm ∧ mrp.mrmState ≠ .acStat1 ∧
        ∃ buf, mrp.delivered p rx = some (.option, buf) ∧ mrp.NamedByNack buf
  | _ => False

/-- A handled frame is a NACK for the ring machine in one case only. -/
theorem frameEvent_eq_nacked {mrp : Mrp} {buf : Buf} {type : TlvType} :
    mrp.frameEvent buf type = .nacked ↔
      type = .option ∧ mrp.ringRole ≠ .mrc ∧ mrp.NamedByNack buf := by
  cases type with
  | option =>
      simp only [frameEvent, yieldsTo, NamedByNack, Bool.and_eq_true, decide_eq_true_eq,
        etherAddrEqual_iff, Bool.not_eq_true', etherAddrEqual_eq_false]
      split <;> simp_all
  | _ =>
      simp only [frameEvent]
      repeat' split
      all_goals simp

/-- Only a handled frame is a NACK. -/
theorem exists_of_nacked {mrp : Mrp} {e : Event} (h : mrp.ringEvent e = .nacked) :
    ∃ p rx buf, e = .recv p rx ∧ mrp.delivered p rx = some (.option, buf) ∧
      mrp.ringRole ≠ .mrc ∧ mrp.NamedByNack buf := by
  cases e with
  | recv p rx =>
      simp only [ringEvent] at h
      split at h
      next type buf hdel =>
        rcases frameEvent_eq_nacked.mp h with ⟨rfl, hrole, hnack⟩
        exact ⟨p, rx, buf, rfl, hdel, hrole, hnack⟩
      · cases h
  | linkChange p up => cases p <;> cases h
  | operstate p state =>
      cases p with
      | inter => cases h
      | ring r =>
          simp only [ringEvent] at h
          split at h
          · cases h
          · split at h <;> cases h
  | expired w =>
      simp only [ringEvent] at h
      split at h
      · cases w with
        | ringTest =>
            simp only [timerEvent] at h
            repeat' split at h
            all_goals cases h
        | _ => cases h
      · cases h
  | _ => cases h

/-- Without auto-manager support, a step gives up the role exactly when it is a
demoting one. -/
theorem nacked_iff_demotedBy {mrp : Mrp} (hmra : mrp.mraSupport = false)
    (hrole : mrp.ringRole = .mrm ∨ mrp.ringRole = .mrc) (e : Event) :
    mrp.ringEvent e = .nacked ∧ mrp.mrmState ≠ .acStat1 ↔ mrp.DemotedBy e := by
  constructor
  · rintro ⟨hev, hstate⟩
    rcases exists_of_nacked hev with ⟨p, rx, buf, rfl, hdel, hmrc, hnack⟩
    have hmim : mrp.inRole = .mim := by
      simpa [shouldProcess, hmra] using (recv_of_delivered hdel).1
    exact ⟨hmim, hrole.resolve_right hmrc, hstate, buf, hdel, hnack⟩
  · intro he
    cases e with
    | recv p rx =>
        rcases he with ⟨-, hmrm, hstate, buf, hdel, hnack⟩
        refine ⟨?_, hstate⟩
        simp only [ringEvent, hdel]
        exact frameEvent_eq_nacked.mpr ⟨rfl, by simp [hmrm], hnack⟩
    | _ => exact he.elim

end Mrp

/-- An instance that was created as a manager or as a client keeps its role all
along a run exactly when no step of the run demotes it. -/
theorem role_kept_iff {env : Env} {a : AddArgs} {mrp : Mrp}
    (ha : a.ringRole = ringRoleMrm ∨ a.ringRole = ringRoleMrc) (h : Created env a mrp)
    (es : List Event) :
    Always Mrp.step (fun m => m.ringRole = initialRole a.ringRole) mrp es ↔
      Guarded Mrp.step (fun m e => ¬ m.DemotedBy e) mrp es := by
  have hinit : initialRole a.ringRole = .mrm ∨ initialRole a.ringRole = .mrc := by
    rcases ha with h | h <;> rw [h] <;> decide
  refine always_iff_guarded (I := fun m : Mrp => m.mraSupport = false) ?_ ?_ ?_ ?_ es
  · intro m e hm _ _
    rw [m.step_toMrpConf]
    exact hm
  · intro m e hmra hm
    have hrole : m.ringRole = .mrm ∨ m.ringRole = .mrc := by rw [hm]; exact hinit
    have hen := m.ringEvent_enabled e
    rw [hmra] at hen
    have hstep := Ring.step_role_iff (c := m.linkConf) (x := m.ring) hrole hen
    rw [← m.step_ring e] at hstep
    rw [← hm]
    exact hstep.trans (not_congr (Mrp.nacked_iff_demotedBy hmra hrole e))
  · rw [h.mraSupport]
    rcases ha with h | h <;> rw [h] <;> decide
  · refine h.ring_of_fresh (I := fun x => x.role = initialRole a.ringRole) ?_ rfl ?_
    · rcases ha with h | h
      · exact .inr (.inl h)
      · exact .inl h
    · intro x r hx
      have hen : x.Enabled false (.link r true) := trivial
      have hrole : x.role = .mrm ∨ x.role = .mrc := by rw [hx]; exact hinit
      exact ((Ring.step_role_iff hrole hen).mpr (by simp)).trans hx

/-- A client that handles a link change and a timer. -/
theorem role_kept_iff_sample :
    Always Mrp.step (fun m => m.ringRole = initialRole ringRoleMrc)
      (Sample.mrp ringRoleMrc inRoleMim)
      [.linkChange (.ring .primary) false, .expired .ringLinkDown] :=
  (role_kept_iff (.inr rfl) (Sample.created (by decide +kernel)) _).mpr ⟨id, id, trivial⟩

/-- A manager of both kinds, without auto-manager support, becomes a client when
a NACK names it. -/
theorem manager_demoted :
    ∃ mrp, Created Sample.env (Sample.args ringRoleMrm inRoleMim) mrp ∧ mrp.mraSupport = false ∧
      mrp.ringRole = .mrm ∧
      (mrp.step (.recv (.ring .primary)
        (Sample.frame (Sample.mac 9) 0x1000 (.testMgrNack (Sample.mac 1))))).ringRole = .mrc :=
  ⟨Sample.mrp ringRoleMrm inRoleMim, Sample.created (by decide +kernel), by decide +kernel⟩

end Umrp
