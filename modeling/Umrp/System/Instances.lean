import Umrp.System.Adding
import Umrp.System.Lasting

/-!
# The list as a map

The list of instances is searched by bridge and ring number whenever something is
added, deleted, destroyed or given up.  It behaves as a map from these keys to
instances that remembers the order of insertion.

Main results:

- Theorem `Table.keys_step`: what every event does to the keys.
- Theorem `Table.Reachable.keys_nodup`: no two instances have the same key.
- Theorem `instances_orderedMap`: the map operations of a reachable table.
- Theorem `Table.Reachable.instance_reachable`: every instance in a reachable table
  is in a state that an instance can reach on its own.
-/

namespace Umrp

open EventMachine KeyedList

namespace Registry

variable (reg : Registry)

/-- An event on one of the ports. -/
theorem evolved_onPort (ifindex : UInt32) (e : Port → Event) :
    Evolved reg (reg.onPort ifindex fun mrp p => mrp.step (e p)) := by
  apply evolved_modifyFirst
  intro mrp
  split
  · exact mrp.after_step _
  · exact .refl mrp

theorem evolved_listenAddress (msg : LinkMsg) : Evolved reg (reg.listenAddress msg) := by
  unfold listenAddress mrpMacChange
  split
  · split
    · exact reg.evolved_onPort msg.ifindex _
    · refine List.forall₂_map_right_iff.mpr (List.forall₂_same.mpr fun mrp _ => ?_)
      split
      · exact mrp.after_step _
      · exact .refl mrp
  · exact .refl reg

theorem evolved_listenCfm (msg : LinkMsg) : Evolved reg (reg.listenCfm msg) := by
  unfold listenCfm
  induction msg.cfm generalizing reg with
  | nil => exact .refl reg
  | cons x cfm ih => exact (reg.evolved_cfmLinkChange msg.ifindex x.1 x.2).trans (ih _)

theorem evolved_listenOperstate (msg : LinkMsg) : Evolved reg (reg.listenOperstate msg) := by
  unfold listenOperstate
  split
  · exact reg.evolved_onPort msg.ifindex _
  · exact .refl reg

/-- While a netlink message is handled the instances see at most events. -/
theorem evolved_listen (msg : LinkMsg) :
    Evolved reg ((reg.listenAddress msg).listenCfm msg) :=
  (reg.evolved_listenAddress msg).trans (evolved_listenCfm _ msg)

end Registry

namespace Table

variable (t : Table) (brIfindex ringNr : UInt32)

/-! ## Single operations -/

/-- Destroying an instance takes the first one with its key out of the list. -/
theorem mrpDestroy_instances :
    (t.mrpDestroy brIfindex ringNr).instances =
      t.instances.eraseP (Registry.isKey brIfindex ringNr) := by
  unfold mrpDestroy
  cases hfind : t.instances.mrpFind brIfindex ringNr with
  | none =>
      refine (List.eraseP_of_forall_not ?_).symm
      exact List.find?_eq_none.mp hfind
  | some mrp => rfl

/-- Under distinct keys it takes out exactly the instance with that key. -/
theorem mrpDestroy_filter (h : t.keys.Nodup) :
    (t.mrpDestroy brIfindex ringNr).instances =
      t.instances.filter fun mrp => mrp.key ≠ (brIfindex, ringNr) := by
  rw [mrpDestroy_instances, Registry.isKey_eq]
  exact eraseP_eq_filter h _

theorem keys_mrpDestroy (h : t.keys.Nodup) :
    (t.mrpDestroy brIfindex ringNr).keys =
      (MapOp.erase (brIfindex, ringNr)).apply t.keys := by
  rw [keys, mrpDestroy_filter t brIfindex ringNr h, MapOp.apply, keys, List.filter_map]
  rfl

/-- Deleting an instance is destroying it; the error code says whether it was there. -/
theorem mrpDel_eq :
    t.mrpDel brIfindex ringNr =
      (t.mrpDestroy brIfindex ringNr, if (brIfindex, ringNr) ∈ t.keys then 0 else -einval) := by
  unfold mrpDel
  by_cases hmem : (brIfindex, ringNr) ∈ t.keys
  · have hsome := Registry.isSome_mrpFind.mpr hmem
    rw [if_neg (by simp [← Option.not_isSome, hsome]), if_pos hmem]
  · have hnone : t.instances.mrpFind brIfindex ringNr = none := by
      rw [← Option.not_isSome_iff_eq_none]
      exact fun hsome => hmem (Registry.isSome_mrpFind.mp hsome)
    rw [if_neg hmem, hnone, mrpDestroy, hnone]
    rfl

/-- `mrp_uninit` destroys the instances one after the other. -/
theorem mrpUninit_eq :
    t.mrpUninit = ⟨[], (t.instances.map Mrp.destroy).reverse ++ t.freed⟩ := by
  rcases t with ⟨reg, freed⟩
  unfold mrpUninit
  simp only
  induction reg generalizing freed with
  | nil => rfl
  | cons mrp reg ih =>
      have hself : Registry.isKey mrp.ifindex mrp.ringNr mrp = true := by simp [Registry.isKey]
      have hfind : Registry.mrpFind (mrp :: reg) mrp.ifindex mrp.ringNr = some mrp := by
        simp [Registry.mrpFind]
      have hfirst : mrpDestroy ⟨mrp :: reg, freed⟩ mrp.ifindex mrp.ringNr =
          ⟨reg, mrp.destroy :: freed⟩ := by
        simp only [mrpDestroy, hfind, List.eraseP_cons_of_pos hself]
      rw [List.foldl_cons, hfirst, ih]
      simp

/-- A successful `mrp_add` puts a new key at the end. -/
theorem keys_mrpAdd (env : Env) (a : AddArgs) :
    (t.mrpAdd env a).1.keys = if (t.mrpAdd env a).2 = 0 then t.keys ++ [a.key] else t.keys := by
  split
  next hok =>
    rw [mrpAdd_of_ok (mrpAdd_ok_iff.mp hok), keys, List.map_append,
      (t.instances.evolved_built env a).map Mrp.step_key, List.map_singleton, Registry.built_key]
    rfl
  next herr => rw [keys, mrpAdd_of_error herr, keys]

/-! ## Runs -/

/-- The map operation that an event is. -/
def mapOp (e : SystemEvent) : MapOp (UInt32 × UInt32) :=
  match e with
  | .add env a => if (t.mrpAdd env a).2 = 0 then .insert a.key else .skip
  | .del brIfindex ringNr => .erase (brIfindex, ringNr)
  | .destroy brIfindex ringNr => .erase (brIfindex, ringNr)
  | .uninit => .clear
  | .netlink msg =>
      match t.instances.mrpGetPort msg.ifindex with
      | some (mrp, _) => if msg.master then .skip else .erase mrp.key
      | none => .skip
  | .recv _ _ | .expired _ _ _ => .skip

variable {t} in
/-- What every event does to the keys. -/
theorem keys_step (h : t.keys.Nodup) (e : SystemEvent) :
    (t.step e).keys = (t.mapOp e).apply t.keys := by
  cases e with
  | add env a =>
      rw [step, keys_mrpAdd, mapOp]
      split
      next hok =>
        have hnew := (mrpAdd_ok_iff.mp hok).1
        rw [MapOp.apply, if_neg hnew]
      · rfl
  | del brIfindex ringNr =>
      rw [step, mrpDel_eq]
      exact t.keys_mrpDestroy brIfindex ringNr h
  | destroy brIfindex ringNr => exact t.keys_mrpDestroy brIfindex ringNr h
  | uninit =>
      rw [step, mrpUninit_eq]
      rfl
  | recv ifindex rx => exact (t.instances.evolved_onPort ifindex _).map Mrp.step_key
  | netlink msg =>
      have hlisten := t.instances.evolved_listen msg
      simp only [step, netlinkListen, mapOp]
      cases t.instances.mrpGetPort msg.ifindex with
      | none => exact hlisten.map Mrp.step_key
      | some x =>
          have hoper : keys { t with instances :=
              ((t.instances.listenAddress msg).listenCfm msg).listenOperstate msg } = t.keys :=
            (hlisten.trans (Registry.evolved_listenOperstate _ msg)).map Mrp.step_key
          simp only
          split
          · exact hoper
          · rw [keys_mrpDestroy _ _ _ (hoper.symm ▸ h), hoper]
            rfl
  | expired brIfindex ringNr w =>
      exact (t.instances.evolved_modifyFirst fun mrp => mrp.after_step _).map Mrp.step_key

/-- No two instances of a reachable table have the same key. -/
theorem Reachable.keys_nodup {t : Table} (h : t.Reachable) : t.keys.Nodup := by
  rcases h with ⟨es, rfl⟩
  refine run_invariant (I := fun t : Table => t.keys.Nodup) (s := .empty) ?_ List.nodup_nil es
  intro t e ht
  rw [keys_step ht]
  exact (t.mapOp e).nodup_apply ht

end Table

/-- In every reachable table the list is a map from keys to instances that remembers
the order of insertion: keys are distinct, a failed `mrp_add` changes nothing and a
successful one appends a new key, `mrp_destroy` and `mrp_del` remove exactly the
instance with the given key, `mrp_del` fails exactly if there is none, `mrp_uninit`
empties the list, and each event is a map operation on the keys. -/
theorem instances_orderedMap {t : Table} (h : t.Reachable) :
    t.keys.Nodup ∧
      (∀ env a, (t.mrpAdd env a).2 ≠ 0 → (t.mrpAdd env a).1.instances = t.instances) ∧
      (∀ env a, (t.mrpAdd env a).2 = 0 →
        a.key ∉ t.keys ∧ (t.mrpAdd env a).1.keys = t.keys ++ [a.key]) ∧
      (∀ brIfindex ringNr, (t.mrpDestroy brIfindex ringNr).instances =
        t.instances.filter fun mrp => mrp.key ≠ (brIfindex, ringNr)) ∧
      (∀ brIfindex ringNr, (t.mrpDel brIfindex ringNr).1.instances =
          (t.instances.filter fun mrp => mrp.key ≠ (brIfindex, ringNr)) ∧
        ((t.mrpDel brIfindex ringNr).2 ≠ 0 ↔ (brIfindex, ringNr) ∉ t.keys)) ∧
      t.mrpUninit.instances = [] ∧
      ∀ e, (t.step e).keys = (t.mapOp e).apply t.keys := by
  have hnodup := h.keys_nodup
  refine ⟨hnodup, fun env a => Table.mrpAdd_of_error, ?_, ?_, ?_, ?_, Table.keys_step hnodup⟩
  · intro env a hok
    have hkeys := t.keys_mrpAdd env a
    rw [if_pos hok] at hkeys
    exact ⟨(Table.mrpAdd_ok_iff.mp hok).1, hkeys⟩
  · intro brIfindex ringNr
    exact t.mrpDestroy_filter brIfindex ringNr hnodup
  · intro brIfindex ringNr
    rw [Table.mrpDel_eq]
    refine ⟨t.mrpDestroy_filter brIfindex ringNr hnodup, ?_⟩
    by_cases hmem : (brIfindex, ringNr) ∈ t.keys
    · simp [hmem]
    · simp [hmem, einval]
  · rw [Table.mrpUninit_eq]

namespace Sample

/-- The table after the sample manager was added. -/
def table : Table := Table.empty.step (.add env (args ringRoleMrm inRoleMim))

theorem table_reachable : table.Reachable := ⟨[.add env (args ringRoleMrm inRoleMim)], rfl⟩

end Sample

/-- Adding the sample manager again fails and changes nothing. -/
theorem instances_orderedMap_sample :
    Sample.table.keys = [(1, 1)] ∧
      (Sample.table.mrpAdd Sample.env (Sample.args ringRoleMrm 0)).1.instances =
        Sample.table.instances := by
  refine ⟨by decide +kernel, ?_⟩
  exact (instances_orderedMap Sample.table_reachable).2.1 Sample.env (Sample.args ringRoleMrm 0)
    (by decide +kernel)

/-! ## Instances -/

/-- More events. -/
theorem Reachable.after {env : Env} {a : AddArgs} {mrp mrp' : Mrp} (h : Reachable env a mrp)
    (hafter : mrp.After mrp') : Reachable env a mrp' := by
  rcases h with ⟨mrp₀, es, hcr, rfl⟩
  have hrun : mrp₀.After (run Mrp.step mrp₀ es) := ⟨es, rfl⟩
  rcases hrun.trans hafter with ⟨fs, hfs⟩
  exact ⟨mrp₀, fs, hcr, hfs⟩

namespace Table

/-- Every instance of the list is in a state that an instance reaches on its own. -/
def AllReachable (reg : Registry) : Prop :=
  ∀ mrp ∈ reg, ∃ env a, Umrp.Reachable env a mrp

/-- Events of single instances keep this. -/
theorem AllReachable.evolved {reg reg' : Registry} (h : AllReachable reg)
    (hevolved : reg.Evolved reg') : AllReachable reg' := by
  intro mrp hmem
  rcases hevolved.exists_of_mem hmem with ⟨old, hold, hafter⟩
  rcases h old hold with ⟨env, a, hreach⟩
  exact ⟨env, a, hreach.after hafter⟩

theorem AllReachable.mrpDestroy {t : Table} (h : AllReachable t.instances)
    (brIfindex ringNr : UInt32) : AllReachable (t.mrpDestroy brIfindex ringNr).instances := by
  rw [mrpDestroy_instances]
  exact fun mrp hmem => h mrp (List.mem_of_mem_eraseP hmem)

/-- Every event keeps all instances reachable. -/
theorem AllReachable.step {t : Table} (h : AllReachable t.instances) (e : SystemEvent) :
    AllReachable (t.step e).instances := by
  cases e with
  | add env a =>
      by_cases hok : AddOk t.keys env a
      · rw [Table.step, mrpAdd_of_ok hok]
        intro mrp hmem
        rcases List.mem_append.mp hmem with hmem | hmem
        · exact h.evolved (t.instances.evolved_built env a) mrp hmem
        · rw [List.mem_singleton.mp hmem]
          exact ⟨env, a, _, [], created_of_ok hok, rfl⟩
      · rw [Table.step, mrpAdd_of_error fun hzero => hok (mrpAdd_ok_iff.mp hzero)]
        exact h
  | del brIfindex ringNr =>
      rw [Table.step, mrpDel_eq]
      exact h.mrpDestroy brIfindex ringNr
  | destroy brIfindex ringNr => exact h.mrpDestroy brIfindex ringNr
  | uninit =>
      rw [Table.step, mrpUninit_eq]
      exact fun mrp hmem => absurd hmem List.not_mem_nil
  | recv ifindex rx => exact h.evolved (t.instances.evolved_onPort ifindex _)
  | netlink msg =>
      have hlisten := t.instances.evolved_listen msg
      have hoper := h.evolved (hlisten.trans (Registry.evolved_listenOperstate _ msg))
      simp only [Table.step, netlinkListen]
      split
      · exact h.evolved hlisten
      · split
        · exact hoper
        · exact AllReachable.mrpDestroy hoper _ _
  | expired brIfindex ringNr w =>
      exact h.evolved (t.instances.evolved_modifyFirst fun mrp => mrp.after_step _)

/-- An instance of a reachable table is in a state that an instance reaches on its own:
what is proved of reachable instances holds of all instances in the list. -/
theorem Reachable.instance_reachable {t : Table} (h : t.Reachable) {mrp : Mrp}
    (hmem : mrp ∈ t.instances) : ∃ env a, Umrp.Reachable env a mrp := by
  rcases h with ⟨es, rfl⟩
  refine run_invariant (I := fun t : Table => AllReachable t.instances) (s := .empty)
    (fun t e ht => ht.step e) ?_ es mrp hmem
  exact fun mrp hmem => absurd hmem List.not_mem_nil

end Table

end Umrp
