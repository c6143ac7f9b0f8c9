import Umrp.Ring.Ports

/-!
# The client machine

The callbacks of the announcement timers change the state and open the secondary
port without a look at the state.  On a client this is safe, because a timer runs
exactly in the state that starts it: one invariant ties the state to the links,
the ports and the two timers.

Main results:

- Theorem `Ring.ClientInv.step`: every enabled event keeps the invariant.
- Theorem `client_safe`: every reachable client satisfies it.
-/

namespace Umrp

open EventMachine

/-- Whether the links of primary and secondary port are up in a client state. -/
def MrcState.links : MrcState → Bool × Bool
  | .acStat1 => (false, false)
  | .deIdle | .de => (true, false)
  | .pt | .ptIdle => (true, true)

/-- Whether the link-up and the link-down timer run in a client state. -/
def MrcState.timers : MrcState → Bool × Bool
  | .pt => (true, false)
  | .de => (false, true)
  | .acStat1 | .deIdle | .ptIdle => (false, false)

/-- A port that forwards in a client state has its link up in that state. -/
theorem MrcState.links_of_ports (st : MrcState) :
    (st.ports.1 = .forwarding → st.links.1 = true) ∧
      (st.ports.2 = .forwarding → st.links.2 = true) := by
  cases st <;> simp [MrcState.ports, MrcState.links]

namespace Ring

/-- The last link event of a port was up. -/
def isUp (x : Ring) (r : RingPort) : Bool := x.link r = some true

/-- The links of the current primary and the current secondary port. -/
def links (x : Ring) : Bool × Bool := (x.isUp x.pPort, x.isUp x.sPort)

/-- What ties the state of a client to links, ports and timers. -/
structure ClientInv (c : LinkConf) (x : Ring) : Prop where
  distinct : x.pPort ≠ x.sPort
  role : x.role = .mrc
  links : x.links = x.mrc.links
  ports : x.ports = x.mrc.ports
  timers : (x.linkUp, x.linkDown) = x.mrc.timers
  count : x.count ≤ c.max

variable {c : LinkConf} {x : Ring}

/-- A link event keeps state and links together. -/
theorem mrcLink_links (h : x.pPort ≠ x.sPort) (hx : x.links = x.mrc.links) (r : RingPort)
    (up : Bool) :
    ((x.note r up).mrcLink c r up).links = ((x.note r up).mrcLink c r up).mrc.links := by
  have hs := h.symm
  unfold mrcLink
  rcases eq_or_ne r x.pPort with rfl | hr
  · cases hm : x.mrc <;> cases up <;>
      simp_all [Ring.links, isUp, MrcState.links, note, set]
  · obtain rfl : r = x.sPort := eq_sPort h hr
    cases hm : x.mrc <;> cases up <;>
      simp_all [Ring.links, isUp, MrcState.links, note, set]

/-- A link event starts and stops the timers as the state requires. -/
theorem mrcLink_clientTimers (hc : c.runs = true) (hx : (x.linkUp, x.linkDown) = x.mrc.timers)
    (r : RingPort) (up : Bool) :
    ((x.mrcLink c r up).linkUp, (x.mrcLink c r up).linkDown) =
      (x.mrcLink c r up).mrc.timers := by
  unfold mrcLink
  cases hm : x.mrc <;> simp only [hm] at hx ⊢ <;> split <;> (try split) <;>
    simp_all [MrcState.timers, set]

/-- A link event restarts the counter or leaves it. -/
theorem mrcLink_count (hx : x.count ≤ c.max) (r : RingPort) (up : Bool) :
    (x.mrcLink c r up).count ≤ c.max := by
  unfold mrcLink
  split <;> split <;> (try split) <;> first | exact hx | exact UInt32.le_refl _

/-- An announced topology change ends PT and DE with their timers. -/
theorem ClientInv.topology (hx : ClientInv c x) : ClientInv c (x.topology c) := by
  rcases hx with ⟨hdistinct, hrole, hlinks, hports, htimers, hcount⟩
  unfold Ring.topology
  cases hm : x.mrc with
  | acStat1 | deIdle | ptIdle => exact ⟨hdistinct, hrole, hlinks, hports, htimers, hcount⟩
  | pt =>
      simp only [hm] at hlinks hports htimers
      refine ⟨hdistinct, hrole, hlinks, ?_, ?_, UInt32.le_refl _⟩
      · simp_all [Ring.ports, MrcState.ports, set]
      · simp_all [MrcState.timers, set]
  | de =>
      simp only [hm] at hlinks hports htimers
      refine ⟨hdistinct, hrole, hlinks, hports, ?_, UInt32.le_refl _⟩
      simp_all [MrcState.timers]

/-- The link-up timer runs only in PT, and its last expiry opens the secondary port. -/
theorem ClientInv.upTick (hc : c.runs = true) (hx : ClientInv c x) (hen : x.linkUp = true) :
    ClientInv c (x.upTick c) := by
  rcases hx with ⟨hdistinct, hrole, hlinks, hports, htimers, hcount⟩
  have hm : x.mrc = .pt := by
    cases hm : x.mrc <;> simp_all [MrcState.timers]
  unfold Ring.upTick
  split
  next hpos =>
    refine ⟨hdistinct, hrole, hlinks, hports, ?_, ?_⟩
    · simpa [hen, hc] using htimers
    · exact UInt32.le_trans (UInt32.sub_le hpos) hcount
  next =>
    simp only [hm] at hlinks hports htimers
    refine ⟨hdistinct, hrole, hlinks, ?_, ?_, UInt32.le_refl _⟩
    · simp_all [Ring.ports, MrcState.ports, set]
    · simp_all [MrcState.timers, set]

/-- The link-down timer runs only in DE, and its last expiry leaves the ports alone. -/
theorem ClientInv.downTick (hc : c.runs = true) (hx : ClientInv c x) (hen : x.linkDown = true) :
    ClientInv c (x.downTick c) := by
  rcases hx with ⟨hdistinct, hrole, hlinks, hports, htimers, hcount⟩
  have hm : x.mrc = .de := by
    cases hm : x.mrc <;> simp_all [MrcState.timers]
  unfold Ring.downTick
  split
  next hpos =>
    refine ⟨hdistinct, hrole, hlinks, hports, ?_, ?_⟩
    · simpa [hen, hc] using htimers
    · exact UInt32.le_trans (UInt32.sub_le hpos) hcount
  next =>
    simp only [hm] at hlinks hports htimers
    refine ⟨hdistinct, hrole, hlinks, hports, ?_, UInt32.le_refl _⟩
    simp_all [MrcState.timers]

/-- Every enabled event keeps the invariant of a client. -/
theorem ClientInv.step (hc : c.runs = true) (hx : ClientInv c x) {ev : Event}
    (hen : x.Enabled false ev) : ClientInv c (x.step c ev) := by
  have hrole := hx.role
  cases ev with
  | link r up =>
      have hdistinct := (step_kept (c := c) hx.distinct (.link r up)).distinct
      have hrole' := step_role_mrc (c := c) hen (ne_managerLost hen) hrole
      simp only [Ring.step, linkEvent, hrole] at hdistinct hrole' ⊢
      exact ⟨hdistinct, hrole', mrcLink_links hx.distinct hx.links r up,
        mrcLink_ports (x := x.note r up) hx.distinct hx.ports r up,
        mrcLink_clientTimers (x := x.note r up) hc hx.timers r up,
        mrcLink_count (x := x.note r up) hx.count r up⟩
  | closed => simp [Enabled, hrole] at hen
  | opened => simp [Enabled, hrole] at hen
  | topologyChange => exact hx.topology
  | nacked => exact absurd hrole hen
  | managerLost => exact absurd hen.2 (by decide)
  | linkUpTick => exact hx.upTick hc hen
  | linkDownTick => exact hx.downTick hc hen
  | silent => exact hx

end Ring

/-- What the state of a client says about links, ports and timers. -/
structure ClientSafe (mrp : Mrp) : Prop where
  ringRole : mrp.ringRole = .mrc
  acStat1_iff : mrp.mrcState = .acStat1 ↔ ∀ r, (mrp.ringPort r).lastLink ≠ some true
  acStat1 : mrp.mrcState = .acStat1 → mrp.pState = .blocked ∧ mrp.sState = .blocked
  de : mrp.mrcState = .deIdle ∨ mrp.mrcState = .de →
    (mrp.ringPort mrp.pPort).lastLink = some true ∧
      (mrp.ringPort mrp.sPort).lastLink ≠ some true ∧
      mrp.pState = .forwarding ∧ mrp.sState = .blocked
  pt : mrp.mrcState = .pt →
    (∀ r, (mrp.ringPort r).lastLink = some true) ∧
      mrp.pState = .forwarding ∧ mrp.sState = .blocked
  ptIdle : mrp.mrcState = .ptIdle →
    (∀ r, (mrp.ringPort r).lastLink = some true) ∧
      mrp.pState = .forwarding ∧ mrp.sState = .forwarding
  linkUp_iff : mrp.ringLinkUpWork.active = true ↔ mrp.mrcState = .pt
  linkDown_iff : mrp.ringLinkDownWork.active = true ↔ mrp.mrcState = .de
  count : mrp.ringLinkCurrMax ≤ mrp.ringLinkConfMax
  forwarding_up : ∀ r, (mrp.ringPort r).state = .forwarding →
    (mrp.ringPort r).lastLink = some true

/-- The invariant of the client machine, read as a statement about the instance. -/
theorem clientSafe_of_inv {mrp : Mrp} (h : Ring.ClientInv mrp.linkConf mrp.ring) :
    ClientSafe mrp := by
  rcases h with ⟨hdistinct, hrole, hlinks, hports, htimers, hcount⟩
  have hp : (mrp.ringPort mrp.pPort).lastLink = some true ↔ mrp.mrcState.links.1 = true := by
    rw [← mrp.ring_mrc, ← hlinks]
    exact decide_eq_true_iff.symm
  have hs : (mrp.ringPort mrp.sPort).lastLink = some true ↔ mrp.mrcState.links.2 = true := by
    rw [← mrp.ring_mrc, ← hlinks]
    exact decide_eq_true_iff.symm
  have hpState : mrp.pState = mrp.mrcState.ports.1 := congrArg Prod.fst hports
  have hsState : mrp.sState = mrp.mrcState.ports.2 := congrArg Prod.snd hports
  have hup : mrp.ringLinkUpWork.active = mrp.mrcState.timers.1 := congrArg Prod.fst htimers
  have hdown : mrp.ringLinkDownWork.active = mrp.mrcState.timers.2 := congrArg Prod.snd htimers
  have hall {Q : RingPort → Prop} : (∀ r, Q r) ↔ Q mrp.pPort ∧ Q mrp.sPort :=
    Ring.forall_port (x := mrp.ring) hdistinct
  refine ⟨hrole, ?_, ?_, ?_, ?_, ?_, ?_, ?_, hcount, hall.mpr ⟨?_, ?_⟩⟩
  -- the last two goals: a port that forwards has its link up
  case refine_8 =>
    intro hf
    exact hp.mpr (mrp.mrcState.links_of_ports.1 (hpState.symm.trans hf))
  case refine_9 =>
    intro hf
    exact hs.mpr (mrp.mrcState.links_of_ports.2 (hsState.symm.trans hf))
  all_goals
    simp only [hall, hp, hs, hpState, hsState, hup, hdown, ne_eq]
    cases mrp.mrcState <;> simp [MrcState.links, MrcState.ports, MrcState.timers]

/-- Every reachable client satisfies the invariant of the machine. -/
theorem Reachable.ring_clientInv {env : Env} {a : AddArgs} {mrp : Mrp} (h : Reachable env a mrp)
    (htf : env.timeFactor = 1) (ha : a.ringRole = ringRoleMrc) :
    Ring.ClientInv mrp.linkConf mrp.ring := by
  have hruns : mrp.linkConf.runs = true := (h.intervals htf).1
  have hmra : decide (a.ringRole = ringRoleMra) = false := by rw [ha]; decide
  refine h.ring_invariant (.inl ha) ?_ ?_
  · rw [ha]
    exact ⟨Ring.fresh_distinct, rfl, rfl, rfl, rfl, UInt32.le_refl _⟩
  · intro x ev hx hen
    rw [hmra] at hen
    exact hx.step hruns hen

/-- With the default time factor, every reachable state of an instance that was
created as a client ties the state of the client machine to links, ports and
timers.  A port that forwards has its link up, and each timer runs in exactly the
state its callback is meant for. -/
theorem client_safe {env : Env} {a : AddArgs} {mrp : Mrp} (htf : env.timeFactor = 1)
    (ha : a.ringRole = ringRoleMrc) (h : Reachable env a mrp) : ClientSafe mrp :=
  clientSafe_of_inv (h.ring_clientInv htf ha)

/-- A client that has lost the link of its primary port. -/
theorem client_safe_sample :
    ClientSafe (run Mrp.step (Sample.mrp ringRoleMrc 0) [.linkChange (.ring .primary) false]) :=
  client_safe rfl rfl ⟨_, _, Sample.created (by decide +kernel), rfl⟩

end Umrp
