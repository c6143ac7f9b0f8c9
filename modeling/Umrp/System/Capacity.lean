import Umrp.Model.Client
import Umrp.Requests
import Umrp.System.Instances

/-!
# Room for the status

The reply to `getmrp` has room for a fixed number of instances, on both sides of the
socket.  The loop of `mrp_get` runs over the whole list, and `mrp_add` does not look how
long the list is.

Main results:

- Theorem `Table.reportable_step_iff`: when one event keeps the status inside its arrays.
- Theorem `status_reportable_iff`: the same for every run from the start of the program.
-/

namespace Umrp

open Octets EventMachine KeyedList

namespace Table

/-- What `mrp_get` writes stays in the array that it is given, it reports at most as many
instances as there are entries, and the client copies no more into its own array. -/
structure Reportable (t : Table) : Prop where
  inside : ∀ a ∈ t.ctlGetmrp.accesses, a.Inside
  count : t.ctlGetmrp.status.length ≤ maxMrpInstances
  copied : (getmrpCopyOut t.ctlGetmrp.status.length).Within
    (maxMrpInstances * Cmd.sizeofMrpStatus)

/-- The status fits exactly if there are not too many instances. -/
theorem reportable_iff (t : Table) : t.Reportable ↔ t.keys.length ≤ maxMrpInstances := by
  have hlen : t.ctlGetmrp.status.length = t.keys.length := by
    simp [ctlGetmrp, keys]
  have hinside : (∀ a ∈ t.ctlGetmrp.accesses, a.Inside) ↔ t.keys.length ≤ maxMrpInstances := by
    rw [← hlen]
    simpa [ctlGetmrp] using mrpGetWrites_inside_iff t.instances
  constructor
  · intro h
    exact hinside.mp h.inside
  · intro h
    refine ⟨hinside.mpr h, hlen ▸ h, ?_⟩
    rw [hlen]
    simp only [getmrpCopyOut, Range.Within, Cmd.sizeofMrpStatus]
    omega

/-- The step of a run at which there is room: an `mrp_add` that succeeds finds a list
that is not full. -/
def RoomGuard (t : Table) : SystemEvent → Prop
  | .add env a => AddOk t.keys env a → t.instances.length < maxMrpInstances
  | _ => True

/-- Only a successful `mrp_add` inserts a key. -/
theorem mapOp_eq_insert_iff {t : Table} {e : SystemEvent} {k : UInt32 × UInt32} :
    t.mapOp e = .insert k ↔ ∃ env a, e = .add env a ∧ AddOk t.keys env a ∧ a.key = k := by
  constructor
  · intro h
    cases e with
    | add env a =>
        simp only [mapOp] at h
        split at h
        next hok =>
          cases h
          exact ⟨env, a, rfl, mrpAdd_ok_iff.mp hok, rfl⟩
        next => cases h
    | del brIfindex ringNr => cases h
    | destroy brIfindex ringNr => cases h
    | uninit => cases h
    | recv ifindex rx => cases h
    | expired brIfindex ringNr w => cases h
    | netlink msg =>
        simp only [mapOp] at h
        repeat' split at h
        all_goals cases h
  · rintro ⟨env, a, rfl, hok, rfl⟩
    simp only [mapOp, if_pos (mrpAdd_ok_iff.mpr hok)]

/-- One event leaves room for the status exactly if the guard holds. -/
theorem reportable_step_iff {t : Table} (hnodup : t.keys.Nodup) (h : t.Reportable) (e : SystemEvent) :
    (t.step e).Reportable ↔ t.RoomGuard e := by
  have hlen : t.keys.length = t.instances.length := by simp [keys]
  rw [reportable_iff] at h ⊢
  rw [keys_step hnodup, (t.mapOp e).length_apply_le_iff h]
  constructor
  · intro hins
    cases e with
    | add env a =>
        intro hok
        rw [← hlen]
        exact hins a.key (mapOp_eq_insert_iff.mpr ⟨env, a, rfl, hok, rfl⟩) hok.1
    | _ => trivial
  · intro hguard k hk hnew
    rcases mapOp_eq_insert_iff.mp hk with ⟨env, a, rfl, hok, -⟩
    rw [hlen]
    exact hguard hok

end Table

/-- Along a run from the start of the program the status always fits, into the array that
`mrp_get` fills and into the one of the client, exactly if no `mrp_add` succeeds while there
are as many instances as the arrays have entries. -/
theorem status_reportable_iff (es : List SystemEvent) :
    Always Table.step Table.Reportable .empty es ↔
      Guarded Table.step Table.RoomGuard .empty es := by
  refine always_iff_guarded (I := fun t => t.keys.Nodup) ?_ ?_ List.nodup_nil ?_ es
  · intro t e hnodup _ _
    rw [Table.keys_step hnodup]
    exact (t.mapOp e).nodup_apply hnodup
  · intro t e hnodup hfits
    exact Table.reportable_step_iff hnodup hfits e
  · exact (Table.reportable_iff _).mpr (Nat.zero_le _)

/-- One ring after the other is added to the sample bridge. -/
def Sample.rings (n : Nat) : List SystemEvent :=
  (List.range n).map fun i =>
    .add env { args ringRoleMrc 0 with ringNr := UInt32.ofNat (i + 1) }

/-- The server accepts 21 rings. -/
theorem status_overruns : ¬ Always Table.step Table.Reportable .empty (Sample.rings 21) := by
  intro h
  have hfits := (Table.reportable_iff _).mp (always_iff_forall_take.mp h 21)
  exact absurd hfits (by decide +kernel)

end Umrp
