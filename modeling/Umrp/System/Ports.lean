import Mathlib.Data.List.Flatten
import Umrp.Relay
import Umrp.System.Built

/-!
# Owners of interfaces

Frames, link events and changes of addresses come with the index of an interface, and
`mrp_get_port` takes the first port that it finds there.  That port is the only one as
long as no interface is given to two ports, which `mrp_add` does not look at.

Main results:

- Theorem `Mrp.isSome_findPort`: an instance has the port that it is searched for
  exactly if one of its ports is at that interface.
- Theorem `Table.mrpGetPort_of_unique`: the lookup finds the owner of an interface.
- Theorem `ports_owned_iff`: in every state of a run all interfaces have one owner
  exactly if every successful `mrp_add` of the run gets interfaces of its own.
-/

namespace Umrp

open EventMachine KeyedList

/-! ## Ports of one instance -/

namespace Mrp

/-- The interface of a port, if the instance has that port. -/
def portIndex (mrp : Mrp) : Port → Option UInt32
  | .ring r => some (mrp.ringPort r).ifindex
  | .inter => mrp.iPort.map MrpPort.ifindex

theorem mem_portIndexes {mrp : Mrp} {i : UInt32} :
    i ∈ mrp.portIndexes ↔ ∃ p, mrp.portIndex p = some i := by
  constructor
  · intro hi
    simp only [portIndexes, List.mem_cons, Option.mem_toList] at hi
    rcases hi with rfl | rfl | hi
    · exact ⟨.ring .primary, rfl⟩
    · exact ⟨.ring .secondary, rfl⟩
    · exact ⟨.inter, hi⟩
  · rintro ⟨p, hp⟩
    simp only [portIndexes, List.mem_cons, Option.mem_toList]
    cases p with
    | ring r =>
        cases r with
        | primary => exact .inl (Option.some.inj hp).symm
        | secondary => exact .inr (.inl (Option.some.inj hp).symm)
    | inter => exact .inr (.inr hp)

/-- What the search returns is a port at that interface. -/
theorem portIndex_of_findPort {mrp : Mrp} {i : UInt32} {p : Port} (h : mrp.findPort i = some p) :
    mrp.portIndex p = some i := by
  simp only [findPort] at h
  split at h
  next hp =>
    rw [← Option.some.inj h]
    exact congrArg some hp
  next =>
    split at h
    next hs =>
      rw [← Option.some.inj h]
      exact congrArg some hs
    next =>
      split at h
      next hi =>
        rw [← Option.some.inj h]
        exact hi
      next => cases h

/-- One of the two ring ports is the primary one and the other the secondary one. -/
theorem ringPort_cases {mrp : Mrp} (h : mrp.pPort ≠ mrp.sPort) (r : RingPort) :
    r = mrp.pPort ∨ r = mrp.sPort := by
  generalize mrp.pPort = p at h ⊢
  generalize mrp.sPort = s at h ⊢
  cases r <;> cases p <;> cases s <;> simp at h ⊢

/-- The search finds something exactly if a port is at that interface. -/
theorem isSome_findPort {mrp : Mrp} (h : mrp.pPort ≠ mrp.sPort) {i : UInt32} :
    (mrp.findPort i).isSome = true ↔ i ∈ mrp.portIndexes := by
  constructor
  · intro hsome
    rcases Option.isSome_iff_exists.mp hsome with ⟨p, hp⟩
    exact mem_portIndexes.mpr ⟨p, portIndex_of_findPort hp⟩
  · intro hi
    rcases mem_portIndexes.mp hi with ⟨p, hp⟩
    by_contra hnone
    simp only [findPort] at hnone
    split at hnone
    · exact hnone rfl
    next hprimary =>
      split at hnone
      · exact hnone rfl
      next hsecondary =>
        cases p with
        | ring r =>
            rcases ringPort_cases h r with rfl | rfl
            · exact hprimary (Option.some.inj hp)
            · exact hsecondary (Option.some.inj hp)
        | inter =>
            have hinter : mrp.iPort.map MrpPort.ifindex = some i := hp
            rw [if_pos hinter] at hnone
            exact hnone rfl

/-- With interfaces of their own, two ports at one interface are the same port. -/
theorem port_unique {mrp : Mrp} {i : UInt32} (hi : i ≠ 0)
    (h : (mrp.portIndexes.filter (· ≠ 0)).Nodup) {p q : Port}
    (hp : mrp.portIndex p = some i) (hq : mrp.portIndex q = some i) : p = q := by
  have hcount : mrp.portIndexes.count i ≤ 1 := by
    rw [← List.count_filter (p := (· ≠ 0)) (by simpa using hi)]
    exact List.nodup_iff_count_le_one.mp h i
  simp only [portIndexes, List.count_cons, beq_iff_eq] at hcount
  have hinter : mrp.iPort.map MrpPort.ifindex = some i →
      List.count i (mrp.iPort.map MrpPort.ifindex).toList = 1 := by
    intro hport
    simp [hport]
  cases p with
  | ring r =>
      have hr := Option.some.inj hp
      cases q with
      | ring r' =>
          have hr' := Option.some.inj hq
          cases r <;> cases r' <;> first | rfl | (rw [if_pos hr, if_pos hr'] at hcount; omega)
      | inter =>
          rw [hinter hq] at hcount
          cases r <;> rw [if_pos hr] at hcount <;> omega
  | inter =>
      cases q with
      | ring r =>
          have hr := Option.some.inj hq
          rw [hinter hp] at hcount
          cases r <;> rw [if_pos hr] at hcount <;> omega
      | inter => rfl

end Mrp

/-! ## Ports of all instances -/

namespace Table

/-- The interfaces of all ports of all instances, with repetitions. -/
def usedPorts (t : Table) : List UInt32 := t.instances.flatMap Mrp.portIndexes

/-- No interface belongs to two ports, of one instance or of two. -/
def PortsUnique (t : Table) : Prop := (t.usedPorts.filter (· ≠ 0)).Nodup

/-- Every interface belongs to one port only, and `mrp_get_port` finds that port. -/
def PortsOwned (t : Table) : Prop :=
  t.PortsUnique ∧ ∀ mrp ∈ t.instances, ∀ p i, mrp.portIndex p = some i → i ≠ 0 →
    t.instances.mrpGetPort i = some (mrp, p)

/-- The interfaces that `mrp_add` is asked to use are used by no port, and each is
given to one port only. -/
def FreshPorts (t : Table) (a : AddArgs) : Prop :=
  (a.portIndexes.filter (· ≠ 0)).Nodup ∧ ∀ i ∈ a.portIndexes, i ≠ 0 → i ∉ t.usedPorts

instance (t : Table) : Decidable t.PortsUnique :=
  inferInstanceAs (Decidable (List.Nodup _))

/-- The interfaces depend on nothing else of the instances. -/
theorem usedPorts_eq (t : Table) : t.usedPorts = (t.instances.map Mrp.portIndexes).flatten :=
  List.flatMap_def

theorem usedPorts_congr {t t' : Table}
    (h : t'.instances.map Mrp.portIndexes = t.instances.map Mrp.portIndexes) :
    t'.usedPorts = t.usedPorts := by
  rw [usedPorts_eq, usedPorts_eq, h]

/-- Fewer instances use fewer interfaces. -/
theorem PortsUnique.of_sublist {t t' : Table} (h : t.PortsUnique)
    (hsub : (t'.instances.map Mrp.portIndexes).Sublist (t.instances.map Mrp.portIndexes)) :
    t'.PortsUnique := by
  rw [PortsUnique, usedPorts_eq] at h ⊢
  exact h.sublist (hsub.flatten.filter _)

/-- The lookup finds the owner of an interface. -/
theorem mrpGetPort_of_unique {t : Table} (hring : ∀ mrp ∈ t.instances, mrp.pPort ≠ mrp.sPort)
    (h : t.PortsUnique) {mrp : Mrp} (hmem : mrp ∈ t.instances) {p : Port} {i : UInt32}
    (hp : mrp.portIndex p = some i) (hi : i ≠ 0) :
    t.instances.mrpGetPort i = some (mrp, p) := by
  rcases t with ⟨reg, freed⟩
  simp only [PortsUnique, usedPorts] at h hring hmem ⊢
  have hindex : i ∈ mrp.portIndexes := Mrp.mem_portIndexes.mpr ⟨p, hp⟩
  induction reg with
  | nil => cases hmem
  | cons first reg ih =>
      rw [List.flatMap_cons, List.filter_append, List.nodup_append'] at h
      rw [List.forall_mem_cons] at hring
      rcases h with ⟨hfirst, hrest, hdisjoint⟩
      rw [Registry.mrpGetPort, List.findSome?_cons]
      rcases List.mem_cons.mp hmem with rfl | hmem
      · rcases Option.isSome_iff_exists.mp ((Mrp.isSome_findPort hring.1).mpr hindex) with ⟨q, hq⟩
        rw [hq, Mrp.port_unique hi hfirst (Mrp.portIndex_of_findPort hq) hp]
        rfl
      · have hnot : i ∉ first.portIndexes := by
          intro hbad
          refine hdisjoint (a := i) ?_ ?_
          · simpa [hi] using hbad
          · simpa [hi] using ⟨mrp, hmem, hindex⟩
        have hnone : first.findPort i = none := by
          rw [← Option.not_isSome_iff_eq_none]
          exact fun hsome => hnot ((Mrp.isSome_findPort hring.1).mp hsome)
        rw [hnone]
        exact ih hring.2 hrest hmem

/-- The two ring ports of an instance in a reachable table are different ports. -/
theorem Reachable.ring_distinct {t : Table} (h : t.Reachable) :
    ∀ mrp ∈ t.instances, mrp.pPort ≠ mrp.sPort := by
  intro mrp hmem
  rcases h.instance_reachable hmem with ⟨env, a, hmrp⟩
  exact hmrp.distinct

/-- In a reachable table the lookup needs nothing else. -/
theorem Reachable.portsOwned_iff {t : Table} (h : t.Reachable) : t.PortsOwned ↔ t.PortsUnique := by
  constructor
  · exact And.left
  · intro hunique
    refine ⟨hunique, fun mrp hmem p i hp hi => ?_⟩
    exact mrpGetPort_of_unique h.ring_distinct hunique hmem hp hi

/-! ## Runs -/

/-- One more event. -/
theorem Reachable.step {t : Table} (h : t.Reachable) (e : SystemEvent) : (t.step e).Reachable := by
  rcases h with ⟨es, rfl⟩
  exact ⟨es ++ [e], by simp [run]⟩

/-- A successful `mrp_add` adds its interfaces. -/
theorem usedPorts_mrpAdd {t : Table} {env : Env} {a : AddArgs} (h : AddOk t.keys env a) :
    (t.mrpAdd env a).1.usedPorts = t.usedPorts ++ a.portIndexes := by
  rw [usedPorts_eq, mrpAdd_of_ok h, List.map_append,
    (t.instances.evolved_built env a).map Mrp.step_portIndexes,
    List.map_singleton, Registry.built_portIndexes, usedPorts_eq]
  simp

/-- Destroying an instance takes interfaces away. -/
theorem PortsUnique.mrpDestroy {t : Table} (h : t.PortsUnique) (brIfindex ringNr : UInt32) :
    (t.mrpDestroy brIfindex ringNr).PortsUnique := by
  refine h.of_sublist ?_
  rw [mrpDestroy_instances]
  exact List.eraseP_sublist.map _

/-- Events that neither add nor take away an instance. -/
theorem PortsUnique.evolved {t t' : Table} (h : t.PortsUnique)
    (hevolved : t.instances.Evolved t'.instances) : t'.PortsUnique := by
  rw [PortsUnique, usedPorts_congr (hevolved.map Mrp.step_portIndexes)]
  exact h

/-- A new instance keeps the interfaces apart exactly if its own are fresh. -/
theorem portsUnique_mrpAdd {t : Table} {env : Env} {a : AddArgs} (h : t.PortsUnique)
    (hok : AddOk t.keys env a) : (t.mrpAdd env a).1.PortsUnique ↔ t.FreshPorts a := by
  rw [PortsUnique, usedPorts_mrpAdd hok, List.filter_append, List.nodup_append']
  constructor
  · rintro ⟨-, hown, hdisjoint⟩
    refine ⟨hown, fun i hi hzero hused => ?_⟩
    refine hdisjoint (a := i) ?_ ?_
    · simpa [hzero] using hused
    · simpa [hzero] using hi
  · rintro ⟨hown, hfresh⟩
    refine ⟨h, hown, ?_⟩
    intro i hused hi
    simp only [List.mem_filter, decide_eq_true_eq] at hused hi
    exact hfresh i hi.1 hi.2 hused.1

/-- The step of a run at which interfaces are kept apart: an `mrp_add` that succeeds
gets fresh interfaces. -/
def PortsGuard (t : Table) : SystemEvent → Prop
  | .add env a => AddOk t.keys env a → t.FreshPorts a
  | _ => True

/-- One event keeps the interfaces apart exactly if the guard holds. -/
theorem portsUnique_step_iff {t : Table} (h : t.PortsUnique) (e : SystemEvent) :
    (t.step e).PortsUnique ↔ t.PortsGuard e := by
  cases e with
  | add env a =>
      by_cases hok : AddOk t.keys env a
      · rw [step, portsUnique_mrpAdd h hok, PortsGuard]
        exact ⟨fun hfresh _ => hfresh, fun hguard => hguard hok⟩
      · have hsame := mrpAdd_of_error fun hzero => hok (mrpAdd_ok_iff.mp hzero)
        refine iff_of_true ?_ fun hbad => absurd hbad hok
        exact h.evolved (hsame ▸ .refl _)
  | del brIfindex ringNr =>
      rw [step, mrpDel_eq]
      exact iff_of_true (h.mrpDestroy brIfindex ringNr) trivial
  | destroy brIfindex ringNr => exact iff_of_true (h.mrpDestroy brIfindex ringNr) trivial
  | uninit =>
      rw [step, mrpUninit_eq]
      exact iff_of_true List.nodup_nil trivial
  | recv ifindex rx =>
      exact iff_of_true (h.evolved (t.instances.evolved_onPort ifindex _)) trivial
  | netlink msg =>
      have hlisten := t.instances.evolved_listen msg
      refine iff_of_true ?_ trivial
      simp only [step, netlinkListen]
      split
      · exact h.evolved hlisten
      · have hoper : PortsUnique { t with instances :=
            ((t.instances.listenAddress msg).listenCfm msg).listenOperstate msg } :=
          h.evolved (hlisten.trans (Registry.evolved_listenOperstate _ msg))
        split
        · exact hoper
        · exact hoper.mrpDestroy _ _
  | expired brIfindex ringNr w =>
      refine iff_of_true (h.evolved ?_) trivial
      exact t.instances.evolved_modifyFirst fun mrp => mrp.after_step _

end Table

/-- Along a run from the start of the program every interface belongs to one port only,
and `mrp_get_port` finds that port, exactly if every `mrp_add` that succeeds gets
interfaces that no port uses, a different one for each of its ports. -/
theorem ports_owned_iff (es : List SystemEvent) :
    Always Table.step Table.PortsOwned .empty es ↔
      Guarded Table.step Table.PortsGuard .empty es := by
  refine always_iff_guarded (I := Table.Reachable) (fun t e ht _ _ => ht.step e) ?_ ⟨[], rfl⟩ ?_ es
  · intro t e ht howned
    rw [(ht.step e).portsOwned_iff]
    exact Table.portsUnique_step_iff howned.1 e
  · exact ⟨List.nodup_nil, fun mrp hmem => absurd hmem List.not_mem_nil⟩

/-- The sample manager is added, and then a second ring with the same ports. -/
def Sample.sharing : List SystemEvent :=
  [.add env (args ringRoleMrm 0), .add env { args ringRoleMrc 0 with ringNr := 2 }]

/-- Two rings share their ports. -/
theorem ports_shared :
    ¬Always Table.step Table.PortsOwned .empty Sample.sharing := by
  intro h
  have howned := always_iff_forall_take.mp h 2
  exact absurd howned.1 (by decide +kernel)

end Umrp
