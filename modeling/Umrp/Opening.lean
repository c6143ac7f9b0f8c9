import Umrp.Inter.Opening
import Umrp.Ring.Opening

/-!
# No spurious opening

Both managers open only for a reason: a client reported a lost link, or test frames
were missing for as long as the settings say.

Main result:

- Theorem `opening_cause`: what makes either of them open.
-/

namespace Umrp

open EventMachine

/-- No spurious opening.  A ring manager without auto-manager support leaves CHK_RC for
CHK_RO because of an MRP_LinkDown frame, if it reacts on link changes, or with the
configured number of consecutive expiries of its test timer since the ring was last
seen to be closed.  The manager of an interconnection in ring check mode leaves CHK_IC
for CHK_IO because of an MRP_InLinkDown frame with its ID, or after at least the
configured number of expiries. -/
theorem opening_cause {env : Env} {a : AddArgs} {mrp₀ : Mrp} (h : Created env a mrp₀)
    (es : List Event) (e : Event) {mrp : Mrp} (hrun : mrp = run Mrp.step mrp₀ es) :
    (a.ringRole = ringRoleMrm → mrp.mrmState = .chkRc → (mrp.step e).mrmState = .chkRo →
      (mrp.handlesFrame Mrp.isLinkDown e = true ∧ mrp.reactOnLinkChange ≠ 0) ∨
        (mrp.expires .ringTest e = true ∧
          countSince Mrp.step (Mrp.expires · .ringTest) Mrp.ringCountRestarts 0 mrp₀ es + 1 =
            mrp.ringTestConfMax.toNat)) ∧
      (a.inRole = inRoleMim → a.inMode = 0 → mrp.mimState = .chkIc →
        (mrp.step e).mimState = .chkIo →
        mrp.handlesFrame mrp.isInLinkDown e = true ∨
          (mrp.expires .inTest e = true ∧
            mrp.inTestConfMax.toNat ≤
              countSince Mrp.step (Mrp.expires · .inTest) Mrp.inCountRestarts 0 mrp₀ es + 1)) := by
  subst hrun
  constructor
  · intro hrole hfrom hto
    exact ((h.ringCounted hrole).run es).opening hfrom hto
  · intro hrole hmode hfrom hto
    exact ((h.inCounted hrole hmode).run es).opening hfrom hto

/-- Nothing happens but `n` expiries of the timer `w`. -/
def Sample.silence (w : TimerId) (n : Nat) : List Event := List.replicate n (.expired w)

/-- The sample manager opens its ring with the fifth expiry and its interconnection
with the eighth. -/
theorem opening_cause_sample :
    countSince Mrp.step (Mrp.expires · .ringTest) Mrp.ringCountRestarts 0
        (Sample.mrp ringRoleMrm inRoleMim) (Sample.silence .ringTest 4) + 1 = 5 ∧
      8 ≤ countSince Mrp.step (Mrp.expires · .inTest) Mrp.inCountRestarts 0
        (Sample.mrp ringRoleMrm inRoleMim) (Sample.silence .inTest 7) + 1 := by
  have hcr : Created Sample.env (Sample.args ringRoleMrm inRoleMim)
      (Sample.mrp ringRoleMrm inRoleMim) := Sample.created (by decide +kernel)
  constructor
  · rcases (opening_cause hcr (Sample.silence .ringTest 4) (.expired .ringTest) rfl).1 rfl
      (by decide +kernel) (by decide +kernel) with ⟨hframe, -⟩ | ⟨-, hcount⟩
    · cases hframe
    · exact hcount.trans (by decide +kernel)
  · rcases (opening_cause hcr (Sample.silence .inTest 7) (.expired .inTest) rfl).2 rfl rfl
      (by decide +kernel) (by decide +kernel) with hframe | ⟨-, hcount⟩
    · cases hframe
    · exact Nat.le_trans (by decide +kernel) hcount

end Umrp
