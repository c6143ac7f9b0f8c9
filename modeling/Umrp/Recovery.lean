import Umrp.Creation

/-!
# What every recovery profile guarantees

Limits and intervals come out of the two switches of `mrp_update_recovery`, which
runs twice for a new instance: with the default profiles, and with those asked for.
An unknown profile leaves the defaults in place.

Main results:

- Theorem `recovered_configure`: an instance has sound limits when its roles are set.
- Theorem `Reachable.recovered`: and keeps them for life.
-/

namespace Umrp

/-- Settings with sound limits.  The time factor can spoil intervals but no limit. -/
structure MrpConf.Recovered (timeFactor : UInt32) (c : MrpConf) : Prop where
  ringTestMax : c.ringTestConfMax = 3 ∨ c.ringTestConfMax = 5
  inTestMax : c.inTestConfMax = 8
  ccmPeriod : c.cfmCcmPeriod = 10000000
  testInterval : timeFactor = 1 → c.ringTestConfInterval ≠ 0
  testShort : timeFactor = 1 → c.ringTestConfShort ≠ 0

/-- The limits are positive, whatever the profile. -/
theorem MrpConf.Recovered.max_pos {timeFactor : UInt32} {c : MrpConf} (h : c.Recovered timeFactor) :
    0 < c.ringTestConfMax.toNat ∧ 0 < c.inTestConfMax.toNat := by
  constructor
  · rcases h.ringTestMax with hmax | hmax <;> rw [hmax] <;> decide
  · rw [h.inTestMax]
    decide

/-- The limit is one less than the configured number. -/
theorem limit_le_iff {curr max : UInt32} (hmax : 0 < max.toNat) :
    max - 1 ≤ curr ↔ max.toNat ≤ curr.toNat + 1 := by
  have hone : (1 : UInt32) ≤ max := UInt32.le_iff_toNat_le.mpr hmax
  rw [UInt32.le_iff_toNat_le, UInt32.toNat_sub_of_le _ _ hone]
  exact Nat.sub_le_iff_le_add

/-- A counter below a limit does not wrap. -/
theorem toNat_add_one_of_lt {curr max : UInt32} (h : curr.toNat < max.toNat) :
    (curr + 1).toNat = curr.toNat + 1 := by
  have := max.toNat_lt
  rw [UInt32.toNat_add, UInt32.toNat_one]
  omega

/-- The ring profiles differ in their values and agree in this. -/
theorem ringProfile_sound {ringRecv : UInt8} {pr : RingProfile}
    (h : ringProfile ringRecv = some pr) :
    (pr.testMax = 3 ∨ pr.testMax = 5) ∧ pr.testInterval ≠ 0 ∧ pr.testShort ≠ 0 := by
  unfold ringProfile at h
  split_ifs at h <;> cases h <;> decide

/-- The same for the interconnection profiles. -/
theorem inProfile_sound {inRecv : UInt8} {pr : InProfile} (h : inProfile inRecv = some pr) :
    pr.testMax = 8 ∧ pr.ccmPeriod = 10000000 := by
  unfold inProfile at h
  split_ifs at h <;> cases h <;> decide

/-- A profile that is known brings sound limits, an unknown one keeps those that are
there. -/
theorem recovered_updateRecovery (mrp : Mrp) (timeFactor : UInt32) (ringRecv inRecv : UInt8)
    (hring : ringProfile ringRecv = none → mrp.toMrpConf.Recovered timeFactor)
    (hin : inProfile inRecv = none → mrp.toMrpConf.Recovered timeFactor) :
    (mrp.updateRecovery timeFactor ringRecv inRecv).toMrpConf.Recovered timeFactor := by
  unfold Mrp.updateRecovery
  cases hr : ringProfile ringRecv with
  | none =>
      rcases hring hr with ⟨h1, h2, h3, h4, h5⟩
      cases hi : inProfile inRecv with
      | none => exact ⟨h1, h2, h3, fun h => by simpa [h] using h4 h, fun h => by simpa [h] using h5 h⟩
      | some pr =>
          rcases inProfile_sound hi with ⟨htest, hccm⟩
          exact ⟨h1, htest, hccm, fun h => by simpa [h, Mrp.setInProfile] using h4 h,
            fun h => by simpa [h, Mrp.setInProfile] using h5 h⟩
  | some pr =>
      rcases ringProfile_sound hr with ⟨hmax, hinterval, hshort⟩
      cases hi : inProfile inRecv with
      | none =>
          rcases hin hi with ⟨-, h2, h3, -, -⟩
          exact ⟨hmax, h2, h3, fun h => by simpa [h, Mrp.setRingProfile] using hinterval,
            fun h => by simpa [h, Mrp.setRingProfile] using hshort⟩
      | some pr' =>
          rcases inProfile_sound hi with ⟨htest, hccm⟩
          exact ⟨hmax, htest, hccm,
            fun h => by simpa [h, Mrp.setRingProfile, Mrp.setInProfile] using hinterval,
            fun h => by simpa [h, Mrp.setRingProfile, Mrp.setInProfile] using hshort⟩

/-- An instance has sound limits when its roles are set. -/
theorem recovered_configure (env : Env) (a : AddArgs) :
    (Mrp.configure env a).toMrpConf.Recovered env.timeFactor := by
  have hcreate : (Mrp.create env a.brIfindex a.ringNr a.inId).toMrpConf.Recovered
      env.timeFactor := by
    rcases recovered_updateRecovery
      { Mrp.zeroed env.clock with
        ifindex := a.brIfindex, ringNr := a.ringNr, inId := a.inId, ringRole := .mrc,
        inRole := .disabled, prio := 0x8000 }
      env.timeFactor 0 0 (fun h => by cases h) (fun h => by cases h) with ⟨h1, h2, h3, h4, h5⟩
    exact ⟨h1, h2, h3, h4, h5⟩
  have hsettings : (Mrp.applySettings env a).toMrpConf.Recovered env.timeFactor := by
    have hprio : ((Mrp.create env a.brIfindex a.ringNr a.inId).setPrio a.prio).toMrpConf.Recovered
        env.timeFactor := by
      rcases hcreate with ⟨h1, h2, h3, h4, h5⟩
      exact ⟨h1, h2, h3, h4, h5⟩
    rcases recovered_updateRecovery
      ((Mrp.create env a.brIfindex a.ringNr a.inId).setPrio a.prio) env.timeFactor a.ringRecv a.inRecv
      (fun _ => hprio) (fun _ => hprio) with ⟨h1, h2, h3, h4, h5⟩
    exact ⟨h1, h2, h3, h4, h5⟩
  have hports := (initPorts_keeps (Mrp.applySettings env a) env a).1
  rw [← hports] at hsettings
  unfold Mrp.configure
  dsimp only
  split
  · rcases hsettings with ⟨h1, h2, h3, h4, h5⟩
    unfold Mrp.startCfm
    dsimp only
    split <;> exact ⟨h1, h2, h3, h4, h5⟩
  · exact hsettings

/-- An instance keeps its limits for life. -/
theorem Reachable.recovered {env : Env} {a : AddArgs} {mrp : Mrp} (h : Reachable env a mrp) :
    mrp.toMrpConf.Recovered env.timeFactor := by
  rw [h.toMrpConf]
  rcases recovered_configure env a with ⟨h1, h2, h3, h4, h5⟩
  exact ⟨h1, h2, h3, h4, h5⟩

end Umrp
