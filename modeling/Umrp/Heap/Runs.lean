import Umrp.Heap.Adding

/-!
# Runs of the server in memory

The run of the server on its memory and the run on the list of instances go side by side.
No pointer is followed or freed that leads nowhere, no loop goes around for ever, and when
the instances are given up in the end nothing is left of the memory that they had.

Main results:

- Theorem `Heap.Represents.step`: one event.
- Theorem `memory_represents`: every run, and what `mrp_uninit` leaves after it.
-/

namespace Umrp

open EventMachine LinkedRing

/-! ## Events of both sides -/

namespace Heap

variable {α : Type}

/-- What an event needs: `malloc` returns free memory, and a timer that expires belongs to
an instance that is there. -/
def Admits (m : Heap α) : HeapEvent α → Prop
  | .add _ _ blocks => m.Fresh blocks
  | .expired mrp _ => (m.instances mrp).isSome = true
  | _ => True

/-- What an event of a run needs. -/
def AdmitsFrom (m : Option (Heap α)) (e : HeapEvent α) : Prop := ∀ m' ∈ m, m'.Admits e

/-- The key of the instance at an address. -/
def keyAt (m : Option (Heap α)) (mrp : α) : UInt32 × UInt32 :=
  ((m.bind fun m => m.instances mrp).map fun c => c.mrp.key).getD (0, 0)

/-- The event as the list of instances sees it: addresses of new blocks do not matter, and
an instance is known by its key. -/
def systemEvent (m : Option (Heap α)) : HeapEvent α → SystemEvent
  | .add env a _ => .add env a
  | .del brIfindex ringNr => .del brIfindex ringNr
  | .destroy brIfindex ringNr => .destroy brIfindex ringNr
  | .uninit => .uninit
  | .recv ifindex rx => .recv ifindex rx
  | .netlink msg => .netlink msg
  | .expired mrp w => .expired (keyAt m mrp).1 (keyAt m mrp).2 w

variable {known : Known α} {m : Heap α} {reg : Registry} {fuel : Nat} [DecidableEq α]

/-! ## One event -/

/-- `mrp_del` finds what it destroys. -/
theorem Represents.mrpDel {t : Table} (h : Represents known m t.instances)
    (hfuel : t.instances.length < fuel) (brIfindex ringNr : UInt32) :
    ∃ m', m.mrpDel known fuel brIfindex ringNr = some (m', (t.mrpDel brIfindex ringNr).2) ∧
      Represents known m' (t.mrpDel brIfindex ringNr).1.instances := by
  obtain ⟨m', hm', h'⟩ := h.mrpDestroy hfuel brIfindex ringNr
  rw [Table.mrpDel_eq, Table.mrpDestroy_instances]
  obtain ⟨bs, hm, hs, hbs⟩ := h
  have hlength : bs.length < fuel := by rwa [← hbs, contents, List.length_map] at hfuel
  rcases hm.mrpFind_cases hlength brIfindex ringNr with ⟨hfind, hnone⟩ |
    ⟨pre, a, b, post, rfl, hpre, hkey, hfind⟩
  · have hnew : (brIfindex, ringNr) ∉ t.keys := by
      rw [Table.keys, ← hbs]
      exact forall_isKey_iff.mp hnone
    rw [Heap.mrpDestroy, hfind] at hm'
    rw [Heap.mrpDel, hfind, if_neg hnew]
    rw [← Option.some.inj hm'] at h'
    exact ⟨m, rfl, h'⟩
  · have hmem : (brIfindex, ringNr) ∈ t.keys := by
      rw [Table.keys, ← hbs]
      exact mem_keys_of_isKey hkey
    refine ⟨m', ?_, h'⟩
    rw [Heap.mrpDel, hfind, if_pos hmem]
    simp only [Option.bind_eq_bind, Option.bind_some, hm']
    rfl

/-- Every event does in memory what it does to the list. -/
theorem Represents.step {t : Table} (h : Represents known m t.instances) (hkeys : t.keys.Nodup)
    (hfuel : t.instances.length + 1 < fuel) {e : HeapEvent α} (he : m.Admits e) :
    ∃ m', m.step known fuel e = some m' ∧
      Represents known m' (t.step (systemEvent (some m) e)).instances := by
  have hlength := Nat.lt_of_succ_lt hfuel
  cases e with
  | add env a blocks =>
      obtain ⟨m', hm', h'⟩ := h.mrpAdd hfuel he env a
      exact ⟨m', by rw [Heap.step, hm']; rfl, h'⟩
  | del brIfindex ringNr =>
      obtain ⟨m', hm', h'⟩ := h.mrpDel hlength brIfindex ringNr
      exact ⟨m', by rw [Heap.step, hm']; rfl, h'⟩
  | destroy brIfindex ringNr =>
      rw [systemEvent, Table.step, Table.mrpDestroy_instances]
      exact h.mrpDestroy hlength brIfindex ringNr
  | uninit =>
      rw [systemEvent, Table.step, Table.mrpUninit_eq]
      exact h.mrpUninit hlength
  | recv ifindex rx => exact h.mrpRecv hlength ifindex rx
  | netlink msg => exact h.netlinkListen hlength msg
  | expired mrp w =>
      obtain ⟨c, hc⟩ := Option.isSome_iff_exists.mp he
      have hkey : keyAt (some m) mrp = c.mrp.key := by simp [keyAt, hc]
      obtain ⟨m', hm', h'⟩ := h.expired hc hkeys w
      rw [systemEvent, hkey]
      exact ⟨m', hm', h'⟩

/-! ## Runs -/

/-- Where no instance is left, all is as it was in the beginning. -/
theorem Represents.eq_initial (h : Represents known m []) : m = .initial known := by
  obtain ⟨bs, hm, -, hbs⟩ := h
  obtain rfl : bs = [] := List.map_eq_nil_iff.mp hbs
  obtain ⟨links, instances, ports⟩ := m
  have hlinks : links = Function.update (fun _ => none) known.mrpInstances
      (some ⟨known.mrpInstances, known.mrpInstances⟩) := by
    funext x
    by_cases hx : x = known.mrpInstances
    · rw [hx, Function.update_self]
      exact IsRing.nil_iff.mp hm.ring
    · rw [Function.update_of_ne hx, ← Option.not_isSome_iff_eq_none]
      exact fun hsome => hx (List.mem_singleton.mp (hm.nodes x hsome))
  have hinstances : instances = fun _ => none := by
    funext x
    rw [Option.eq_none_iff_forall_ne_some]
    exact fun c hc => List.not_mem_nil ((hm.instances x c).mp hc)
  have hports : ports = fun _ => none := by
    funext x
    exact (hm.ports_eq_none_iff x).mpr fun y hy => absurd hy List.not_mem_nil
  rw [hlinks, hinstances, hports, initial]

theorem represents_initial : Represents known (.initial known) [] := by
  refine ⟨[], ⟨IsRing.nil_iff.mpr (by simp [initial]), fun x hx => ?_, fun _ _ => ?_,
    fun _ _ => ?_, ?_⟩, ?_, rfl⟩
  · by_contra hne
    rw [List.map_nil, List.mem_singleton] at hne
    simp [initial, hne] at hx
  · simp [initial]
  · simp [initial]
  · simp
  · simp

end Heap

/-- A run adds at most one instance with each event. -/
theorem Table.length_run_le {t : Table} (h : t.keys.Nodup) (es : List SystemEvent) :
    (run Table.step t es).instances.length ≤ t.instances.length + es.length := by
  have hkeys : ∀ t : Table, t.keys.length = t.instances.length := fun t => List.length_map ..
  induction es generalizing t with
  | nil => exact Nat.le_refl _
  | cons e es ih =>
      have hstep := Table.keys_step h e
      have hle := (KeyedList.MapOp.length_apply_le_iff (t.mapOp e) (Nat.le_succ t.keys.length)).mpr
        fun _ _ _ => Nat.lt_succ_self t.keys.length
      rw [← hstep, hkeys, hkeys] at hle
      have hrest := ih (t := t.step e) (hstep ▸ (t.mapOp e).nodup_apply h)
      rw [run_cons, List.length_cons]
      omega

/-- Whatever the server goes through, as long as `malloc` returns free memory and only the
timers of instances that are there expire: no step goes wrong in memory, the memory holds
the instances that the list has after the same events, and if they are all given up then,
everything is free again. -/
theorem memory_represents {α : Type} [DecidableEq α] (known : Known α) {fuel : Nat}
    {es : List (HeapEvent α)}
    (hes : Guarded (Heap.stepFrom known fuel) Heap.AdmitsFrom (some (.initial known)) es)
    (hfuel : es.length < fuel) :
    ∃ m, run (Heap.stepFrom known fuel) (some (.initial known)) es = some m ∧
      Heap.Represents known m (run Table.step .empty (trace (Heap.stepFrom known fuel)
        Heap.systemEvent (some (.initial known)) es)).instances ∧
      m.mrpUninit known fuel = some (.initial known) := by
  have hrun := run_trace_invariant Heap.systemEvent
    (I := fun seen s => seen.length < fuel → ∃ m, s = some m ∧
      Heap.Represents known m (run Table.step .empty seen).instances)
    ?_ (l := []) (fun _ => ⟨_, rfl, Heap.represents_initial⟩) hes
  · obtain ⟨m, hm, h⟩ := hrun (by simpa using hfuel)
    have hlength := Table.length_run_le (t := .empty) List.nodup_nil
      (trace (Heap.stepFrom known fuel) Heap.systemEvent (some (.initial known)) es)
    rw [length_trace, Table.empty, List.length_nil, Nat.zero_add] at hlength
    obtain ⟨m', hm', h'⟩ := h.mrpUninit (lt_of_le_of_lt hlength hfuel)
    exact ⟨m, hm, h, by rw [hm', h'.eq_initial]⟩
  · intro seen s e hI hadmits hfuel
    rw [List.length_append, List.length_singleton] at hfuel
    obtain ⟨m, rfl, h⟩ := hI (Nat.lt_of_succ_lt hfuel)
    have hlength := Table.length_run_le (t := .empty) List.nodup_nil seen
    rw [Table.empty, List.length_nil, Nat.zero_add] at hlength
    obtain ⟨m', hm', h'⟩ := h.step (Table.Reachable.keys_nodup ⟨seen, rfl⟩)
      (lt_of_le_of_lt (Nat.succ_le_succ hlength) hfuel) (hadmits m rfl)
    refine ⟨m', hm', ?_⟩
    rw [run_append]
    exact h'

namespace Sample

/-- Addresses as a linker and a C library may place them. -/
def known : Known Nat where
  mrpInstances := 0x4000
  null := 0
  listPoison1 := 0x00100100
  listPoison2 := 0x00200200

def blocks : Allocation Nat where
  mrp := 0x8000
  port
    | .ring .primary => 0x9000
    | .ring .secondary => 0x9100
    | .inter => 0x9200

/-- An instance is added, one of its timers expires and it is deleted again. -/
def memoryEvents : List (HeapEvent Nat) :=
  [.add env (args ringRoleMrm inRoleMim) blocks, .expired blocks.mrp .ringTest, .del 1 1]

end Sample

/-- The sample run. -/
theorem memory_represents_sample :
    ∃ m, run (Heap.stepFrom Sample.known 4) (some (.initial Sample.known)) Sample.memoryEvents =
        some m ∧
      Heap.Represents Sample.known m (run Table.step .empty (trace
        (Heap.stepFrom Sample.known 4) Heap.systemEvent (some (.initial Sample.known))
        Sample.memoryEvents)).instances ∧
      m.mrpUninit Sample.known 4 = some (.initial Sample.known) := by
  have hfresh : (Heap.initial Sample.known).Fresh Sample.blocks := by
    refine ⟨by decide, fun _ => rfl, fun p q h => ?_⟩
    rcases p with (_ | _) | _ <;> rcases q with (_ | _) | _ <;>
      first | rfl | exact absurd h (by decide)
  have hadded : ((Heap.stepFrom Sample.known 4 (some (.initial Sample.known))
      (.add Sample.env (Sample.args ringRoleMrm inRoleMim) Sample.blocks)).map
      fun m => (m.instances Sample.blocks.mrp).isSome) = some true := by
    decide +kernel
  refine memory_represents Sample.known ⟨?_, fun m hm => ?_, fun _ _ => trivial, trivial⟩
    (by decide)
  · rintro _ ⟨⟩
    exact hfresh
  · rw [Option.mem_def.mp hm] at hadded
    exact Option.some.inj hadded

end Umrp
