import Umrp.System.Faults
import Umrp.System.Ports

/-!
# Ports that are taken for granted

Whoever follows the pointer to a port relies on `mrp_add`, which allocates the ring ports
before it sets a role, and the interconnection port if there is an interface for it.

Main results:

- Theorem `Table.clean_step_iff`: when one event of the system follows no NULL pointer.
- Theorem `null_free_iff`: the runs in which none is followed.
-/

namespace Umrp

open EventMachine

/-- The interconnection port is taken for granted: the instance has an interconnection
role, it is in link check mode, or a timer of the interconnection can expire. -/
def Mrp.UsesInPort (mrp : Mrp) : Prop :=
  mrp.inRole ≠ .disabled ∨ mrp.inMode = .lc ∨
    ∃ w : TimerId, w.isInter = true ∧ (mrp.timer w).active = true

/-- Only the mode can ask for a port that is not there. -/
theorem Mrp.Wired.usesInPort_iff {mrp : Mrp} (h : Wired mrp) :
    (mrp.UsesInPort → mrp.iPort.isSome = true) ↔ (mrp.inMode = .lc → mrp.iPort.isSome = true) := by
  constructor
  · intro huses hmode
    exact huses (.inr (.inl hmode))
  · rintro hlc (hrole | hmode | ⟨w, hw, hactive⟩)
    · exact h.resolve_right fun hbare => hrole hbare.role
    · exact hlc hmode
    · refine h.resolve_right fun hbare => ?_
      exact absurd ((hbare.idle.timer hw).symm.trans hactive) Bool.false_ne_true

namespace Table

/-- No NULL pointer was followed, for an instance in the list or one that is gone, and
the ports of every instance in the list are there: the ring ports since before its roles
were set, and the interconnection port if it is taken for granted. -/
structure NullFree (t : Table) : Prop where
  faults : ∀ mrp ∈ t.instances ++ t.freed, mrp.faults = 0
  ringPorts : ∀ mrp ∈ t.instances, ∃ env a, Umrp.Reachable env a mrp ∧
    env.mallocPort (.ring .primary) = true ∧ env.mallocPort (.ring .secondary) = true
  inPort : ∀ mrp ∈ t.instances, mrp.UsesInPort → mrp.iPort.isSome = true

/-- What of this does not hold of every reachable table. -/
structure Clean (t : Table) : Prop where
  inUse : ∀ mrp ∈ t.instances, mrp.faults = 0 ∧ (mrp.inMode = .lc → mrp.iPort.isSome = true)
  freed : ∀ mrp ∈ t.freed, mrp.faults = 0

theorem Reachable.wired {t : Table} (h : t.Reachable) : ∀ mrp ∈ t.instances, mrp.Wired := by
  intro mrp hmem
  rcases h.instance_reachable hmem with ⟨env, a, hreach⟩
  exact hreach.wired

theorem Reachable.nullFree_iff {t : Table} (h : t.Reachable) : t.NullFree ↔ t.Clean := by
  constructor
  · intro hfree
    constructor
    · intro mrp hmem
      exact ⟨hfree.faults mrp (List.mem_append_left _ hmem),
        (h.wired mrp hmem).usesInPort_iff.mp (hfree.inPort mrp hmem)⟩
    · exact fun mrp hmem => hfree.faults mrp (List.mem_append_right _ hmem)
  · intro hclean
    refine ⟨?_, ?_, ?_⟩
    · intro mrp hmem
      rcases List.mem_append.mp hmem with hmem | hmem
      · exact (hclean.inUse mrp hmem).1
      · exact hclean.freed mrp hmem
    · intro mrp hmem
      rcases h.instance_reachable hmem with ⟨env, a, mrp₀, es, hcr, hrun⟩
      have halloc := hcr.allocated
      simp only [Registry.allocated, Bool.and_eq_true] at halloc
      exact ⟨env, a, ⟨mrp₀, es, hcr, hrun⟩, halloc.1.1.2, halloc.1.2⟩
    · exact fun mrp hmem => (h.wired mrp hmem).usesInPort_iff.mpr (hclean.inUse mrp hmem).2

/-- Events of single instances keep the table clean. -/
theorem Clean.evolved {t : Table} (h : t.Clean) (hwired : ∀ mrp ∈ t.instances, mrp.Wired)
    {reg : Registry} (hreg : t.instances.Evolved reg) : Clean ⟨reg, t.freed⟩ := by
  refine ⟨?_, h.freed⟩
  intro mrp hmem
  rcases hreg.exists_of_mem hmem with ⟨old, hold, hafter⟩
  have hmode : mrp.inMode = old.inMode :=
    hafter.same (g := fun m : Mrp => m.inMode) fun m e =>
      congrArg MrpConf.inMode (m.step_toMrpConf e)
  have hport : mrp.iPort.map MrpPort.ifindex = old.iPort.map MrpPort.ifindex :=
    hafter.same (g := fun m : Mrp => m.iPort.map MrpPort.ifindex) Mrp.step_inIndex
  have hsome := congrArg Option.isSome hport
  rw [Option.isSome_map, Option.isSome_map] at hsome
  rw [(hafter.faults (hwired old hold)).2, hmode, hsome]
  exact h.inUse old hold

/-- Destroying an instance keeps the table clean. -/
theorem Clean.mrpDestroy {t : Table} (h : t.Clean) (brIfindex ringNr : UInt32) :
    (t.mrpDestroy brIfindex ringNr).Clean := by
  constructor
  · intro mrp hmem
    rw [mrpDestroy_instances] at hmem
    exact h.inUse mrp (List.mem_of_mem_eraseP hmem)
  · intro mrp hmem
    unfold Table.mrpDestroy at hmem
    cases hfind : t.instances.mrpFind brIfindex ringNr with
    | none =>
        rw [hfind] at hmem
        exact h.freed mrp hmem
    | some old =>
        rw [hfind] at hmem
        rcases List.mem_cons.mp hmem with rfl | hmem
        · rw [Mrp.destroy, Mrp.resetRingState_faults]
          exact (h.inUse old (List.mem_of_find?_eq_some hfind)).1
        · exact h.freed mrp hmem

/-- The step of a run at which no pointer is followed that is NULL: an `mrp_add` that gets
as far as the ports asks for ring check mode or gives an interconnection port. -/
def PortGuard (t : Table) : SystemEvent → Prop
  | .add env a => a.key ∉ t.keys → Registry.allocated env a = true →
      InMode.ofUInt32 a.inMode = .rc ∨ a.iport ≠ 0
  | _ => True

/-- `mrp_add` keeps the table clean exactly if the guard holds. -/
theorem clean_mrpAdd_iff {t : Table} (h : t.Clean) (hwired : ∀ mrp ∈ t.instances, mrp.Wired)
    (env : Env) (a : AddArgs) : (t.mrpAdd env a).1.Clean ↔ t.PortGuard (.add env a) := by
  have hold := h.evolved hwired (t.instances.evolved_built env a)
  have hmalloc : Registry.allocated env a = true → env.mallocMrp = true := by
    simp only [Registry.allocated, Bool.and_eq_true]
    exact fun halloc => halloc.1.1.1
  rw [mrpAdd_eq, PortGuard]
  by_cases hnew : a.key ∈ t.keys
  · rw [if_pos hnew]
    exact iff_of_true h fun hbad => absurd hnew hbad
  rw [if_neg hnew]
  by_cases hmrp : env.mallocMrp = false
  · rw [if_pos hmrp]
    refine iff_of_true h fun _ halloc => ?_
    rw [hmalloc halloc] at hmrp
    cases hmrp
  rw [if_neg hmrp]
  by_cases halloc : Registry.allocated env a = false
  · rw [if_pos halloc]
    refine iff_of_true ⟨h.inUse, ?_⟩ fun _ hbad => absurd (halloc.symm.trans hbad) Bool.false_ne_true
    intro mrp hmem
    rcases List.mem_cons.mp hmem with rfl | hmem
    · rw [Mrp.destroy, Mrp.resetRingState_faults, Mrp.unfinished_faults]
    · exact h.freed mrp hmem
  rw [if_neg halloc]
  have hguard : (a.key ∉ t.keys → Registry.allocated env a = true →
      InMode.ofUInt32 a.inMode = .rc ∨ a.iport ≠ 0) ↔
        (t.instances.built env a).2.1.faults = 0 := by
    rw [Registry.built_faults_eq_zero_iff]
    exact ⟨fun hreq => hreq hnew (by simpa using halloc), fun hreq _ _ => hreq⟩
  rw [hguard]
  split
  · -- The instance that is given up is among the freed ones.
    constructor
    · intro hclean
      have hgone := hclean.freed _ (List.mem_cons_self ..)
      rwa [Mrp.destroy, Mrp.resetRingState_faults] at hgone
    · intro hzero
      refine ⟨hold.inUse, ?_⟩
      intro mrp hmem
      rcases List.mem_cons.mp hmem with rfl | hmem
      · rw [Mrp.destroy, Mrp.resetRingState_faults]
        exact hzero
      · exact h.freed mrp hmem
  · constructor
    · intro hclean
      exact (hclean.inUse _ (List.mem_append_right _ (List.mem_singleton_self _))).1
    · intro hzero
      refine ⟨?_, h.freed⟩
      intro mrp hmem
      rcases List.mem_append.mp hmem with hmem | hmem
      · exact hold.inUse mrp hmem
      · rw [List.mem_singleton.mp hmem]
        exact ⟨hzero, Registry.built_inPort hzero⟩

/-- One event keeps the table clean exactly if the guard holds. -/
theorem clean_step_iff {t : Table} (h : t.Clean) (hwired : ∀ mrp ∈ t.instances, mrp.Wired)
    (e : SystemEvent) : (t.step e).Clean ↔ t.PortGuard e := by
  cases e with
  | add env a => exact clean_mrpAdd_iff h hwired env a
  | del brIfindex ringNr =>
      rw [step, mrpDel_eq]
      exact iff_of_true (h.mrpDestroy brIfindex ringNr) trivial
  | destroy brIfindex ringNr => exact iff_of_true (h.mrpDestroy brIfindex ringNr) trivial
  | uninit =>
      refine iff_of_true ?_ trivial
      rw [step, mrpUninit_eq]
      refine ⟨fun mrp hmem => absurd hmem List.not_mem_nil, ?_⟩
      intro mrp hmem
      rcases List.mem_append.mp hmem with hmem | hmem
      · rcases List.mem_map.mp (List.mem_reverse.mp hmem) with ⟨old, hold, rfl⟩
        rw [Mrp.destroy, Mrp.resetRingState_faults]
        exact (h.inUse old hold).1
      · exact h.freed mrp hmem
  | recv ifindex rx =>
      exact iff_of_true (h.evolved hwired (t.instances.evolved_onPort ifindex _)) trivial
  | netlink msg =>
      have hlisten := t.instances.evolved_listen msg
      refine iff_of_true ?_ trivial
      simp only [step, netlinkListen]
      split
      · exact h.evolved hwired hlisten
      · have hoper := h.evolved hwired (hlisten.trans (Registry.evolved_listenOperstate _ msg))
        split
        · exact hoper
        · exact hoper.mrpDestroy _ _
  | expired brIfindex ringNr w =>
      exact iff_of_true (h.evolved hwired
        (t.instances.evolved_modifyFirst fun mrp => mrp.after_step _)) trivial

end Table

/-- Along a run from the start of the program no NULL port is followed and every port that
is taken for granted is there, exactly if every request that gets as far as the ports asks
for ring check mode or gives an interconnection port. -/
theorem null_free_iff (es : List SystemEvent) :
    Always Table.step Table.NullFree .empty es ↔
      Guarded Table.step Table.PortGuard .empty es := by
  refine always_iff_guarded (I := Table.Reachable) (fun t e ht _ _ => ht.step e) ?_ ⟨[], rfl⟩ ?_ es
  · intro t e ht hfree
    rw [(ht.step e).nullFree_iff]
    exact Table.clean_step_iff (ht.nullFree_iff.mp hfree) ht.wired e
  · have hempty : Table.empty.Reachable := ⟨[], rfl⟩
    refine hempty.nullFree_iff.mpr ⟨?_, ?_⟩
    · exact fun mrp hmem => absurd hmem List.not_mem_nil
    · exact fun mrp hmem => absurd hmem List.not_mem_nil

/-- A request for link check mode without an interconnection port. -/
def Sample.portless : List SystemEvent :=
  [.add env { args ringRoleMrm 0 with inMode := 1, iport := 0 }]

/-- The server accepts this request and follows a NULL pointer. -/
theorem portless_faults :
    (Table.empty.mrpAdd Sample.env
        { Sample.args ringRoleMrm 0 with inMode := 1, iport := 0 }).2 = 0 ∧
      ¬ Always Table.step Table.NullFree .empty Sample.portless := by
  refine ⟨by decide +kernel, fun h => ?_⟩
  have hfaults := (always_iff_forall_take.mp h 1).faults
  exact absurd hfaults (by decide +kernel)

end Umrp
