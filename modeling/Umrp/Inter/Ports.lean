import Umrp.Creation

/-!
# Interconnection port and interconnection states

The states of the two interconnection machines stand for a state of the port in
the same way as the ring states do, and on a client the announcement timers run
only in the states that start them.

Main results:

- Theorems `Inter.ManagerInv.step` and `Inter.ClientInv.step`: every enabled event
  keeps the invariant of the role.
- Theorem `inter_ports`: the port and the timers of every reachable instance with
  an interconnection role.
-/

namespace Umrp

open EventMachine

/-- The state of the port that a manager state stands for. -/
def MimState.port : MimState → PortState
  | .acStat1 | .chkIc => .blocked
  | .chkIo => .forwarding

/-- The state of the port that a client state stands for. -/
def MicState.port : MicState → PortState
  | .acStat1 | .pt => .blocked
  | .ipIdle => .forwarding

namespace Inter

variable {c : InterConf} {x : Inter}

/-! ## The manager -/

/-- The port of a manager is as its state says, and no announcement is running. -/
structure ManagerInv (x : Inter) : Prop where
  role : x.role = .mim
  port : ∃ link, x.port = some ⟨x.mim.port, link⟩
  linkUp : x.linkUp = false
  linkDown : x.linkDown = false

/-- A state change that comes with the port state it stands for. -/
theorem ManagerInv.enter (hx : ManagerInv x) (mim : MimState) :
    ManagerInv { x.set mim.port with mim := mim } := by
  rcases hx with ⟨hrole, ⟨link, hport⟩, hup, hdown⟩
  exact ⟨hrole, ⟨link, by simp [set, hport]⟩, hup, hdown⟩

/-- A link event keeps the invariant of a manager. -/
theorem ManagerInv.linkEvent (hx : ManagerInv x) (up : Bool) :
    ManagerInv (x.linkEvent c up) := by
  rcases hx with ⟨hrole, ⟨link, hport⟩, hup, hdown⟩
  have hnote : ManagerInv (x.note up) := ⟨hrole, ⟨some up, by simp [note, hport]⟩, hup, hdown⟩
  simp only [Inter.linkEvent, hrole, mimLink]
  repeat' split
  all_goals first | exact hnote | exact hnote.enter .chkIc | exact hnote.enter .acStat1

/-- Every enabled event keeps the invariant of a manager. -/
theorem ManagerInv.step (hx : ManagerInv x) {ev : Event} (hen : x.Enabled ev) :
    ManagerInv (x.step c ev) := by
  cases ev with
  | link up => exact hx.linkEvent up
  | closed =>
      simp only [Inter.step, close]
      split
      · exact hx.enter .chkIc
      · exact hx.enter .chkIc
      · exact hx
  | opened =>
      simp only [Inter.step, opening]
      split
      · exact hx.enter .chkIo
      · exact hx
      · exact hx
  | topologyChange own =>
      rw [Enabled, hx.role] at hen
      cases hen
  | linkUpTick =>
      rw [Enabled, hx.linkUp] at hen
      cases hen
  | linkDownTick =>
      rw [Enabled, hx.linkDown] at hen
      cases hen
  | silent => exact hx

/-! ## The client -/

/-- What ties the state of a client to its port, its link and its timers.  The
manager state is the initial one. -/
structure ClientInv (c : InterConf) (x : Inter) : Prop where
  role : x.role = .mic
  mim : x.mim = .acStat1
  port : ∃ link, x.port = some ⟨x.mic.port, link⟩ ∧ (x.mic ≠ .acStat1 → link = some true)
  linkUp : x.linkUp = decide (x.mic = .pt)
  linkDown : x.linkDown = true → x.mic = .acStat1
  count : x.count ≤ c.max

/-- A link event keeps the invariant of a client. -/
theorem ClientInv.linkEvent (hmode : c.mode = .rc ∨ c.mode = .lc) (hruns : c.runs = true)
    (hx : ClientInv c x) (up : Bool) : ClientInv c (x.linkEvent c up) := by
  rcases hx with ⟨hrole, hmim, ⟨link, hport, hlink⟩, hup, hdown, hcount⟩
  simp only [Inter.linkEvent, hrole, micLink]
  rcases hmode with hmode | hmode <;> cases up <;> cases hm : x.mic <;>
    simp only [hmode, hm, note, micDown, set, hport] at hport hlink hup hdown ⊢ <;>
    constructor <;> simp_all [MicState.port]

/-- An announced topology change ends PT with its timer. -/
theorem ClientInv.topology (hx : ClientInv c x) (own : Bool) :
    ClientInv c (x.topology c own) := by
  have hx' := hx
  rcases hx with ⟨hrole, hmim, ⟨link, hport, hlink⟩, hup, hdown, hcount⟩
  simp only [Inter.topology]
  split
  next hm =>
    split
    · exact ⟨hrole, hmim, ⟨link, hport, hlink⟩, hup, by simp, hcount⟩
    · exact hx'
  next hm =>
    simp only [hm] at hport hlink hdown
    refine ⟨hrole, hmim, ⟨link, ?_, fun _ => hlink (by simp)⟩, rfl, ?_, UInt32.le_refl _⟩
    · simp [set, hport, MicState.port]
    · intro h
      cases hdown h
  next => exact hx'

/-- The link-up timer runs only in PT, and its last expiry opens the port. -/
theorem ClientInv.upTick (hruns : c.runs = true) (hx : ClientInv c x) (hen : x.linkUp = true) :
    ClientInv c (x.upTick c) := by
  rcases hx with ⟨hrole, hmim, ⟨link, hport, hlink⟩, hup, hdown, hcount⟩
  have hm : x.mic = .pt := by simpa [hen] using hup
  unfold Inter.upTick
  split
  next hpos =>
    refine ⟨hrole, hmim, ⟨link, hport, hlink⟩, ?_, hdown, ?_⟩
    · simp [hruns, hm]
    · exact UInt32.le_trans (UInt32.sub_le hpos) hcount
  next =>
    simp only [hm] at hport hlink hdown
    refine ⟨hrole, hmim, ⟨link, ?_, fun _ => hlink (by simp)⟩, rfl, ?_, UInt32.le_refl _⟩
    · simp [set, hport, MicState.port]
    · intro h
      cases hdown h

/-- The link-down timer runs only in AC_STAT1 and leaves the port alone. -/
theorem ClientInv.downTick (hx : ClientInv c x) (hen : x.linkDown = true) :
    ClientInv c (x.downTick c) := by
  rcases hx with ⟨hrole, hmim, hport, hup, hdown, hcount⟩
  unfold Inter.downTick
  split
  next hpos =>
    refine ⟨hrole, hmim, hport, hup, fun _ => hdown hen, ?_⟩
    exact UInt32.le_trans (UInt32.sub_le hpos) hcount
  next => exact ⟨hrole, hmim, hport, hup, by simp, UInt32.le_refl _⟩

/-- Every enabled event keeps the invariant of a client. -/
theorem ClientInv.step (hmode : c.mode = .rc ∨ c.mode = .lc) (hruns : c.runs = true)
    (hx : ClientInv c x) {ev : Event} (hen : x.Enabled ev) : ClientInv c (x.step c ev) := by
  cases ev with
  | link up => exact hx.linkEvent hmode hruns up
  | closed =>
      rw [Enabled, hx.role] at hen
      cases hen
  | opened =>
      rw [Enabled, hx.mim] at hen
      cases hen
  | topologyChange own => exact hx.topology own
  | linkUpTick => exact hx.upTick hruns hen
  | linkDownTick => exact hx.downTick hen
  | silent => exact hx

end Inter

/-! ## Instances -/

/-- The interconnection port of an interconnection manager. -/
structure MimPorts (mrp : Mrp) (port : MrpPort) : Prop where
  inRole : mrp.inRole = .mim
  acStat1 : mrp.mimState = .acStat1 → port.state = .blocked
  chkIc : mrp.mimState = .chkIc → port.state = .blocked
  chkIo : mrp.mimState = .chkIo → port.state = .forwarding

/-- The interconnection port and the timers of an interconnection client. -/
structure MicPorts (mrp : Mrp) (port : MrpPort) : Prop where
  inRole : mrp.inRole = .mic
  acStat1 : mrp.micState = .acStat1 → port.state = .blocked
  pt : mrp.micState = .pt → port.state = .blocked
  ipIdle : mrp.micState = .ipIdle → port.state = .forwarding
  linkUp_iff : mrp.inLinkUpWork.active = true ↔ mrp.micState = .pt
  linkDown : mrp.inLinkDownWork.active = true → mrp.micState = .acStat1
  count : mrp.inLinkCurrMax ≤ mrp.inLinkConfMax
  up : mrp.micState = .pt ∨ mrp.micState = .ipIdle → port.lastLink = some true

theorem mimPorts_of_inv {mrp : Mrp} (h : mrp.inter.ManagerInv) :
    ∃ port, mrp.iPort = some port ∧ MimPorts mrp port := by
  rcases h with ⟨hrole, ⟨link, hport⟩, -, -⟩
  rcases Option.map_eq_some_iff.mp hport with ⟨port, hsome, hstate⟩
  have hst : port.state = mrp.mimState.port := congrArg InterPort.state hstate
  refine ⟨port, hsome, hrole, ?_, ?_, ?_⟩
  all_goals
    intro hm
    rw [hst, hm]
    rfl

theorem micPorts_of_inv {mrp : Mrp} (h : Inter.ClientInv mrp.interConf mrp.inter) :
    ∃ port, mrp.iPort = some port ∧ MicPorts mrp port := by
  rcases h with ⟨hrole, -, ⟨link, hport, hlink⟩, hup, hdown, hcount⟩
  rcases Option.map_eq_some_iff.mp hport with ⟨port, hsome, hstate⟩
  have hst : port.state = mrp.micState.port := congrArg InterPort.state hstate
  have hl : port.lastLink = link := congrArg InterPort.link hstate
  refine ⟨port, hsome, hrole, ?_, ?_, ?_, ?_, hdown, hcount, ?_⟩
  · intro hm
    rw [hst, hm]
    rfl
  · intro hm
    rw [hst, hm]
    rfl
  · intro hm
    rw [hst, hm]
    rfl
  · have hup' : mrp.inLinkUpWork.active = decide (mrp.micState = .pt) := hup
    rw [hup', decide_eq_true_iff]
  · intro hm
    rw [hl]
    refine hlink fun h => ?_
    rw [Mrp.inter_mic] at h
    simp [h] at hm

/-- Every reachable interconnection client satisfies the invariant of the machine. -/
theorem Reachable.inter_clientInv {env : Env} {a : AddArgs} {mrp : Mrp} (h : Reachable env a mrp)
    (htf : env.timeFactor = 1) (hmode : mrp.inMode = .rc ∨ mrp.inMode = .lc)
    (hrole : a.inRole = inRoleMic) : Inter.ClientInv mrp.interConf mrp.inter := by
  have hruns := (h.intervals htf).2
  refine h.inter_invariant (.inr ⟨hrole, rfl⟩) ?_ fun _ _ hx hen => hx.step hmode hruns hen
  exact ⟨rfl, rfl, ⟨none, rfl, fun h => absurd rfl h⟩, rfl, by simp [Inter.fresh], UInt32.zero_le⟩

/-- With the default time factor and in ring or link check mode, every reachable
instance with an interconnection role has its interconnection port in the state
that the state of its role stands for, and a client runs its announcement timers
only where they belong. -/
theorem inter_ports {env : Env} {a : AddArgs} {mrp : Mrp} (htf : env.timeFactor = 1)
    (hmode : a.inMode = 0 ∨ a.inMode = 1) (h : Reachable env a mrp) :
    (a.inRole = inRoleMim → ∃ port, mrp.iPort = some port ∧ MimPorts mrp port) ∧
      (a.inRole = inRoleMic → ∃ port, mrp.iPort = some port ∧ MicPorts mrp port) := by
  constructor
  · intro hrole
    refine mimPorts_of_inv (h.inter_invariant (.inl ⟨hrole, rfl⟩) ?_ fun _ _ hx hen => hx.step hen)
    exact ⟨rfl, ⟨none, rfl⟩, rfl, rfl⟩
  · intro hrole
    have hmode' : mrp.inMode = .rc ∨ mrp.inMode = .lc := by
      rw [h.inMode]
      rcases hmode with hmode | hmode <;> rw [hmode] <;> decide
    exact micPorts_of_inv (h.inter_clientInv htf hmode' hrole)

/-- An interconnection client that has lost its link and got it back. -/
theorem inter_ports_sample :
    ∃ port, (run Mrp.step (Sample.mrp ringRoleMrc inRoleMic)
        [.linkChange .inter false, .linkChange .inter true]).iPort = some port ∧
      MicPorts (run Mrp.step (Sample.mrp ringRoleMrc inRoleMic)
        [.linkChange .inter false, .linkChange .inter true]) port :=
  (inter_ports rfl (.inl rfl) ⟨_, _, Sample.created (by decide +kernel), rfl⟩).2 rfl

end Umrp
