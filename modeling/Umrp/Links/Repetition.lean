import Umrp.Links.Operstates

/-!
# Repeated link events

The netlink listener reports a port that stays down again and again: an operational
state such as LOWERLAYERDOWN is stored as DOWN, so the next notification of it differs
from what is stored.  The state machines must not react twice.  After a link event each
of the four machines ignores another one of the same kind, also where the first one
exchanged the ring ports and the second one finds its port under the other name.

Main results:

- Theorems `Ring.mrmIgnores_mrmLink` and `Ring.mrcIgnores_mrcLink`: the ring machines
  ignore a repeated link event.
- Theorem `linkEvents_idempotent`: the second delivery of a link event or CFM
  notification changes nothing, logs of frames and calls included.
-/

namespace Umrp

open EventMachine

/-! ## The ring machine -/

namespace Ring

variable {x : Ring} {r : RingPort} {up : Bool}

/-- The manager machine does not react to the link event. -/
def mrmIgnores (x : Ring) (r : RingPort) (up : Bool) : Prop :=
  match x.mrm with
  | .acStat1 => up = false
  | .prmUp => up = true ↔ r = x.pPort
  | .chkRo | .chkRc => up = true

/-- The client machine does not react to the link event. -/
def mrcIgnores (x : Ring) (r : RingPort) (up : Bool) : Prop :=
  match x.mrc with
  | .acStat1 => up = false
  | .deIdle | .de => up = true ↔ r = x.pPort
  | .pt | .ptIdle => up = true

/-- An event that neither of the two ports reacts to goes in the other direction. -/
theorem eq_not_of_neither {b : Bool} {c : Prop} (hfirst : ¬(up = b ∧ c))
    (hsecond : ¬(up = b ∧ ¬c)) : up = !b := by
  by_contra hup
  have hb : up = b := by simpa using hup
  by_cases hc : c
  · exact hfirst ⟨hb, hc⟩
  · exact hsecond ⟨hb, hc⟩

/-- A manager ignores a repeated link event.  A port that is lost in CHK_RO or CHK_RC is
the secondary one afterwards. -/
theorem mrmIgnores_mrmLink (h : x.pPort ≠ x.sPort) : (x.mrmLink r up).mrmIgnores r up := by
  unfold mrmLink
  cases hstate : x.mrm with
  | acStat1 =>
      dsimp only
      split_ifs with hfirst hsecond
      · simp [mrmIgnores, hfirst, Ring.set]
      · simp [mrmIgnores, hsecond, Ring.set]
      · simp only [mrmIgnores, hstate]
        exact eq_not_of_neither hfirst hsecond
  | prmUp =>
      dsimp only
      split_ifs with hfirst hsecond
      · simp [mrmIgnores, hfirst]
      · simp [mrmIgnores, hsecond]
      · simp only [mrmIgnores, hstate]
        cases up with
        | true => simpa using hsecond
        | false => simpa using hfirst
  | chkRo =>
      dsimp only
      split_ifs with hfirst hsecond
      · simp [mrmIgnores, hfirst, Ring.set, h]
      · simp [mrmIgnores, hsecond, Ring.set]
      · simp only [mrmIgnores, hstate]
        exact eq_not_of_neither hfirst hsecond
  | chkRc =>
      dsimp only
      split_ifs with hfirst hsecond
      · simp [mrmIgnores, hfirst, Ring.set, h]
      · simp [mrmIgnores, hsecond]
      · simp only [mrmIgnores, hstate]
        exact eq_not_of_neither hfirst hsecond

/-- A client ignores a repeated link event. -/
theorem mrcIgnores_mrcLink (c : LinkConf) (h : x.pPort ≠ x.sPort) :
    (x.mrcLink c r up).mrcIgnores r up := by
  unfold mrcLink
  cases hstate : x.mrc with
  | acStat1 =>
      dsimp only
      split_ifs with hfirst hsecond
      · simp [mrcIgnores, hfirst, Ring.set]
      · simp [mrcIgnores, hsecond, Ring.set]
      · simp only [mrcIgnores, hstate]
        exact eq_not_of_neither hfirst hsecond
  | deIdle =>
      dsimp only
      split_ifs with hfirst hsecond
      · simp [mrcIgnores, hfirst]
      · simp [mrcIgnores, hsecond]
      · simp only [mrcIgnores, hstate]
        cases up with
        | true => simpa using hfirst
        | false => simpa using hsecond
  | pt =>
      dsimp only
      split_ifs with hfirst hsecond
      · simp [mrcIgnores, hfirst, Ring.set]
      · simp [mrcIgnores, hsecond, Ring.set, h]
      · simp only [mrcIgnores, hstate]
        exact eq_not_of_neither hsecond hfirst
  | de =>
      dsimp only
      split_ifs with hfirst hsecond
      · simp [mrcIgnores, hfirst]
      · simp [mrcIgnores, hsecond]
      · simp only [mrcIgnores, hstate]
        cases up with
        | true => simpa using hfirst
        | false => simpa using hsecond
  | ptIdle =>
      dsimp only
      split_ifs with hfirst hsecond
      · simp [mrcIgnores, hfirst, Ring.set]
      · simp [mrcIgnores, hsecond, Ring.set, h]
      · simp only [mrcIgnores, hstate]
        exact eq_not_of_neither hsecond hfirst

end Ring

/-- Link events do not change the role. -/
theorem Inter.mimLink_role (c : InterConf) (x : Inter) (up : Bool) :
    (x.mimLink c up).role = x.role := by
  unfold mimLink
  repeat' split
  all_goals rfl

/-- Link events do not change the role. -/
theorem Inter.micLink_role (c : InterConf) (x : Inter) (up : Bool) :
    (x.micLink c up).role = x.role := by
  unfold micLink micDown
  repeat' split
  all_goals rfl

/-! ## Ring ports -/

namespace Mrp

section RingLinks

variable {mrp : Mrp} {r : RingPort} {up : Bool}

/-- The manager of an instance does nothing where its machine ignores the event. -/
theorem mrmPortLink_of_ignores (h : mrp.ring.mrmIgnores r up) : mrp.mrmPortLink r up = mrp := by
  simp only [Ring.mrmIgnores, ring_mrm, ring_pPort] at h
  unfold mrmPortLink
  cases hstate : mrp.mrmState <;> simp only [hstate] at h <;> cases up <;> simp_all

/-- The client of an instance does nothing where its machine ignores the event. -/
theorem mrcPortLink_of_ignores (h : mrp.ring.mrcIgnores r up) : mrp.mrcPortLink r up = mrp := by
  simp only [Ring.mrcIgnores, ring_mrc, ring_pPort] at h
  unfold mrcPortLink
  cases hstate : mrp.mrcState <;> simp only [hstate] at h <;> cases up <;> simp_all

/-- Noting what is noted already. -/
theorem noteRingLink_eq_self
    (hstate : (mrp.ringPort r).operstate = if up then ifOperUp else ifOperDown)
    (hlink : (mrp.ringPort r).lastLink = some up) : mrp.noteRingLink r up = mrp := by
  have hport : { mrp.ringPort r with
      operstate := if up then ifOperUp else ifOperDown
      lastLink := some up } = mrp.ringPort r := by
    rw [← hstate, ← hlink]
  rw [noteRingLink, hport, Function.update_eq_self]

/-- A link event leaves its note behind. -/
theorem noteRingLink_portLinkChange (mrp : Mrp) (r : RingPort) (up : Bool) :
    (mrp.portLinkChange (.ring r) up).noteRingLink r up = mrp.portLinkChange (.ring r) up := by
  apply noteRingLink_eq_self
  · have hnote : ((mrp.noteRingLink r up).ringPort r).operstate =
        if up then ifOperUp else ifOperDown := by simp [noteRingLink]
    simp only [portLinkChange]
    cases (mrp.noteRingLink r up).ringRole with
    | mrm => rwa [operstate_mrmPortLink]
    | mrc => rwa [operstate_mrcPortLink]
    | disabled => exact hnote
    | mra => exact hnote
  · have hlink := congrFun (congrArg Ring.link (mrp.ring_portLinkChange r up)) r
    have hstep := mrp.ring.step_link mrp.linkConf (.link r up)
    exact hlink.trans (by rw [hstep]; simp)

/-- The handler of a link event on a ring port. -/
theorem portLinkChange_of_mrm (h : mrp.ringRole = .mrm) (r : RingPort) (up : Bool) :
    mrp.portLinkChange (.ring r) up = (mrp.noteRingLink r up).mrmPortLink r up := by
  have hrole : (mrp.noteRingLink r up).ringRole = .mrm := h
  simp only [portLinkChange, hrole]

theorem portLinkChange_of_mrc (h : mrp.ringRole = .mrc) (r : RingPort) (up : Bool) :
    mrp.portLinkChange (.ring r) up = (mrp.noteRingLink r up).mrcPortLink r up := by
  have hrole : (mrp.noteRingLink r up).ringRole = .mrc := h
  simp only [portLinkChange, hrole]

theorem portLinkChange_of_no_role (h : mrp.ringRole = .disabled ∨ mrp.ringRole = .mra)
    (r : RingPort) (up : Bool) : mrp.portLinkChange (.ring r) up = mrp.noteRingLink r up := by
  have hrole : (mrp.noteRingLink r up).ringRole = .disabled ∨
      (mrp.noteRingLink r up).ringRole = .mra := h
  rcases hrole with hrole | hrole
  · simp only [portLinkChange, hrole]
  · simp only [portLinkChange, hrole]

/-- The second of two equal link events on a ring port changes nothing. -/
theorem portLinkChange_ring_idem (h : mrp.pPort ≠ mrp.sPort) (r : RingPort) (up : Bool) :
    (mrp.portLinkChange (.ring r) up).portLinkChange (.ring r) up =
      mrp.portLinkChange (.ring r) up := by
  have hnote := mrp.noteRingLink_portLinkChange r up
  have hring := mrp.ring_portLinkChange r up
  simp only [Ring.step, Ring.linkEvent, ring_role] at hring
  generalize hb : mrp.portLinkChange (.ring r) up = b at hnote hring ⊢
  have hrole : b.ring.role = b.ringRole := rfl
  cases hmrp : mrp.ringRole with
  | mrm =>
      rw [hmrp] at hring
      have hmrm : b.ringRole = .mrm := by
        rw [← hrole, hring]
        exact ((mrp.ring.note r up).mrmLink_role r up).trans hmrp
      rw [portLinkChange_of_mrm hmrm, hnote]
      apply mrmPortLink_of_ignores
      rw [hring]
      exact Ring.mrmIgnores_mrmLink h
  | mrc =>
      rw [hmrp] at hring
      have hmrc : b.ringRole = .mrc := by
        rw [← hrole, hring]
        exact (Ring.mrcLink_role _ (mrp.ring.note r up) r up).trans hmrp
      rw [portLinkChange_of_mrc hmrc, hnote]
      apply mrcPortLink_of_ignores
      rw [hring]
      exact Ring.mrcIgnores_mrcLink _ h
  | disabled =>
      rw [hmrp] at hring
      have hdisabled : b.ringRole = .disabled := by
        rw [← hrole, hring]
        exact hmrp
      rw [portLinkChange_of_no_role (.inl hdisabled), hnote]
  | mra =>
      rw [hmrp] at hring
      have hmra : b.ringRole = .mra := by
        rw [← hrole, hring]
        exact hmrp
      rw [portLinkChange_of_no_role (.inr hmra), hnote]

end RingLinks

/-! ## The interconnection port -/

section InLinks

variable {mrp : Mrp} {up : Bool}

/-- A manager of the interconnection ignores a repeated link event. -/
theorem mimPortLink_idem (mrp : Mrp) (up : Bool) :
    (mrp.mimPortLink up).mimPortLink up = mrp.mimPortLink up := by
  have hmode : (mrp.mimPortLink up).inMode = mrp.inMode := by rw [(mrp.mimPortLink_op up).toMrpConf]
  have hstate : (mrp.mimPortLink up).mimState = (mrp.inter.mimLink mrp.interConf up).mim :=
    congrArg Inter.mim (mrp.inter_mimPortLink up)
  have hconf : mrp.interConf.mode = mrp.inMode := rfl
  generalize mrp.mimPortLink up = b at hmode hstate
  simp only [Inter.mimLink, hconf, inter_mim] at hstate
  unfold mimPortLink
  rw [hmode, hstate]
  cases up <;> cases mrp.inMode <;> cases hmim : mrp.mimState <;> simp [hmim]

/-- A client of the interconnection ignores a repeated link event. -/
theorem micPortLink_idem (mrp : Mrp) (up : Bool) :
    (mrp.micPortLink up).micPortLink up = mrp.micPortLink up := by
  have hmode : (mrp.micPortLink up).inMode = mrp.inMode := by rw [(mrp.micPortLink_op up).toMrpConf]
  have hstate : (mrp.micPortLink up).micState = (mrp.inter.micLink mrp.interConf up).mic :=
    congrArg Inter.mic (mrp.inter_micPortLink up)
  have hconf : mrp.interConf.mode = mrp.inMode := rfl
  generalize mrp.micPortLink up = b at hmode hstate
  simp only [Inter.micLink, hconf, inter_mic] at hstate
  unfold micPortLink
  rw [hmode, hstate]
  cases up <;> cases mrp.inMode <;> cases hmic : mrp.micState <;> simp [hmic, Inter.micDown]

/-- Storing what is stored already. -/
theorem setInOperstate_eq_self {operstate : UInt8}
    (h : ∀ port, mrp.iPort = some port → port.operstate = operstate) :
    mrp.setInOperstate operstate = mrp := by
  have hport : (mrp.iPort.map fun port => { port with operstate := operstate }) = mrp.iPort := by
    cases hp : mrp.iPort with
    | none => rfl
    | some port => simp [← h port hp]
  rw [setInOperstate, hport]

/-- Noting what is noted already. -/
theorem noteInLink_eq_self (h : ∀ port, mrp.iPort = some port → port.lastLink = some up) :
    mrp.noteInLink up = mrp := by
  have hport : (mrp.iPort.map fun port => { port with lastLink := some up }) = mrp.iPort := by
    cases hp : mrp.iPort with
    | none => rfl
    | some port => simp [← h port hp]
  rw [noteInLink, hport]

/-- The machine of a role: it keeps what a link event notes, and ignores a repetition. -/
structure InLinkMachine (f : Mrp → Mrp) : Prop where
  idem : ∀ m, f (f m) = f m
  operstate : ∀ m, (f m).iPort.map MrpPort.operstate = m.iPort.map MrpPort.operstate
  lastLink : ∀ m, (f m).iPort.map MrpPort.lastLink = m.iPort.map MrpPort.lastLink

/-- The manager machine. -/
theorem mimPortLink_machine (up : Bool) : InLinkMachine fun m => m.mimPortLink up where
  idem m := m.mimPortLink_idem up
  operstate m := m.inOperstate_mimPortLink up
  lastLink m := m.inLastLink_mimPortLink up

/-- The client machine. -/
theorem micPortLink_machine (up : Bool) : InLinkMachine fun m => m.micPortLink up where
  idem m := m.micPortLink_idem up
  operstate m := m.inOperstate_micPortLink up
  lastLink m := m.inLastLink_micPortLink up

/-- The second of two equal link events that reach the machine of a role changes nothing. -/
theorem InLinkMachine.deliver_idem {f : Mrp → Mrp} (h : InLinkMachine f) (mrp : Mrp)
    (operstate : UInt8) (up : Bool) :
    f (((f ((mrp.setInOperstate operstate).noteInLink up)).setInOperstate operstate).noteInLink up) =
      f ((mrp.setInOperstate operstate).noteInLink up) := by
  have hstate := h.operstate ((mrp.setInOperstate operstate).noteInLink up)
  have hlink := h.lastLink ((mrp.setInOperstate operstate).noteInLink up)
  have hidem := h.idem ((mrp.setInOperstate operstate).noteInLink up)
  generalize f ((mrp.setInOperstate operstate).noteInLink up) = b at hstate hlink hidem ⊢
  have hset : b.setInOperstate operstate = b := by
    apply setInOperstate_eq_self
    intro port hport
    rw [hport] at hstate
    cases hp : mrp.iPort <;> simp [noteInLink, setInOperstate, hp] at hstate
    exact hstate
  have hnote : b.noteInLink up = b := by
    apply noteInLink_eq_self
    intro port hport
    rw [hport] at hlink
    cases hp : mrp.iPort <;> simp [noteInLink, setInOperstate, hp] at hlink
    exact hlink
  rw [hset, hnote, hidem]

/-- A link event that reaches the interconnection port goes to the machine of its role. -/
def deliverInLink (mrp : Mrp) (operstate : UInt8) (up : Bool) : Mrp :=
  match mrp.inRole with
  | .mim => ((mrp.setInOperstate operstate).noteInLink up).mimPortLink up
  | .mic => ((mrp.setInOperstate operstate).noteInLink up).micPortLink up
  | .disabled => mrp.setInOperstate operstate

/-- It goes to the same machine again, which ignores it. -/
theorem deliverInLink_idem (mrp : Mrp) (operstate : UInt8) (up : Bool) :
    (mrp.deliverInLink operstate up).deliverInLink operstate up =
      mrp.deliverInLink operstate up := by
  unfold deliverInLink
  cases hrole : mrp.inRole with
  | mim =>
      have hagain : (((mrp.setInOperstate operstate).noteInLink up).mimPortLink up).inRole = .mim := by
        have hinter := congrArg Inter.role
          (((mrp.setInOperstate operstate).noteInLink up).inter_mimPortLink up)
        exact hinter.trans ((Inter.mimLink_role _ _ up).trans hrole)
      rw [hagain]
      exact (mimPortLink_machine up).deliver_idem mrp operstate up
  | mic =>
      have hagain : (((mrp.setInOperstate operstate).noteInLink up).micPortLink up).inRole = .mic := by
        have hinter := congrArg Inter.role
          (((mrp.setInOperstate operstate).noteInLink up).inter_micPortLink up)
        exact hinter.trans ((Inter.micLink_role _ _ up).trans hrole)
      rw [hagain]
      exact (micPortLink_machine up).deliver_idem mrp operstate up
  | disabled =>
      have hagain : (mrp.setInOperstate operstate).inRole = .disabled := hrole
      rw [hagain]
      apply setInOperstate_eq_self
      intro port hport
      cases hp : mrp.iPort <;> simp [setInOperstate, hp] at hport
      rw [← hport]

/-- The second of two equal link events on the interconnection port changes nothing. -/
theorem portLinkChange_inter_idem (mrp : Mrp) (up : Bool) :
    (mrp.portLinkChange .inter up).portLinkChange .inter up = mrp.portLinkChange .inter up := by
  have hdeliver : ∀ m : Mrp, m.portLinkChange .inter up =
      if m.inMode = .lc then m else m.deliverInLink (if up then ifOperUp else ifOperDown) up :=
    fun _ => rfl
  have hmode : (mrp.portLinkChange .inter up).inMode = mrp.inMode := by
    rw [(mrp.portLinkChange_inter_op up).toMrpConf]
  rw [hdeliver (mrp.portLinkChange .inter up), hmode, hdeliver mrp]
  split
  · rfl
  · exact mrp.deliverInLink_idem _ up

/-- The second of two equal CFM notifications changes nothing. -/
theorem cfmLinkChange_idem (mrp : Mrp) (defect : Bool) :
    (mrp.cfmLinkChange defect).cfmLinkChange defect = mrp.cfmLinkChange defect := by
  have hdeliver : ∀ m : Mrp, m.cfmLinkChange defect =
      if m.iPort.isNone then m
      else m.deliverInLink (if defect then ifOperDown else ifOperUp) (!defect) := by
    intro m
    unfold cfmLinkChange
    cases m.iPort with
    | none => rfl
    | some port => rfl
  rw [hdeliver (mrp.cfmLinkChange defect), hdeliver mrp]
  by_cases hport : mrp.iPort.isNone = true
  · rw [if_pos hport, if_pos hport]
  · rw [if_neg hport]
    generalize (if defect then ifOperDown else ifOperUp) = operstate
    split
    · rfl
    · exact mrp.deliverInLink_idem operstate _

/-- The second of two equal link events changes nothing. -/
theorem portLinkChange_idem (mrp : Mrp) (h : mrp.pPort ≠ mrp.sPort) (p : Port) (up : Bool) :
    (mrp.portLinkChange p up).portLinkChange p up = mrp.portLinkChange p up := by
  cases p with
  | ring r => exact portLinkChange_ring_idem h r up
  | inter => exact mrp.portLinkChange_inter_idem up

end InLinks

/-! ## Netlink notifications -/

section Netlink

variable (mrp : Mrp) (p : Port) (operstate : UInt8) (up : Bool)

/-- Storing an operational state twice. -/
theorem setOperstate_idem :
    (mrp.setOperstate p operstate).setOperstate p operstate = mrp.setOperstate p operstate := by
  cases p with
  | ring r => simp [setOperstate]
  | inter =>
      apply setInOperstate_eq_self
      intro port hport
      cases hp : mrp.iPort <;> simp [setOperstate, setInOperstate, hp] at hport
      rw [← hport]

/-- A link event overwrites the operational state of its port, unless it is ignored. -/
theorem portLinkChange_setOperstate :
    (mrp.setOperstate p operstate).portLinkChange p up =
      if p = .inter ∧ mrp.inMode = .lc then mrp.setOperstate p operstate
      else mrp.portLinkChange p up := by
  cases p with
  | ring r =>
      have hnote : (mrp.setOperstate (.ring r) operstate).noteRingLink r up =
          mrp.noteRingLink r up := by simp [setOperstate, noteRingLink]
      simp only [portLinkChange, hnote, reduceCtorEq, false_and, if_false]
  | inter =>
      have hset : ∀ state, (mrp.setOperstate .inter operstate).setInOperstate state =
          mrp.setInOperstate state := by
        intro state
        cases hp : mrp.iPort <;> simp [setOperstate, setInOperstate, hp]
      have hmode : (mrp.setOperstate .inter operstate).inMode = mrp.inMode := rfl
      simp only [portLinkChange, hset, hmode, true_and]
      split <;> rfl

/-- The listener has nothing to do if the call that it makes changes nothing. -/
theorem netlinkOperstate_eq_self {m : Mrp} {state : UInt8}
    (hnone : operstateLink state = none → m.setOperstate p (storedOperstate state) = m)
    (hsome : ∀ up, operstateLink state = some up →
      (m.setOperstate p (storedOperstate state)).portLinkChange p up = m) :
    m.netlinkOperstate p state = m := by
  unfold netlinkOperstate
  split
  · rfl
  · split
    · rfl
    · split
      next up hlink => exact hsome up hlink
      next hlink => exact hnone hlink

/-- The second of two equal notifications changes nothing. -/
theorem netlinkOperstate_idem (h : mrp.pPort ≠ mrp.sPort) (state : UInt8) :
    (mrp.netlinkOperstate p state).netlinkOperstate p state = mrp.netlinkOperstate p state := by
  cases hport : mrp.port? p with
  | none => simp [netlinkOperstate, hport]
  | some port =>
      by_cases hsame : port.operstate = state
      · simp [netlinkOperstate, hport, hsame]
      · cases hlink : operstateLink state with
        | none =>
            have hfirst : mrp.netlinkOperstate p state =
                mrp.setOperstate p (storedOperstate state) := by
              simp only [netlinkOperstate, hport, if_neg hsame, hlink]
            rw [hfirst]
            refine netlinkOperstate_eq_self p (fun _ => mrp.setOperstate_idem p _) fun up hup => ?_
            rw [hlink] at hup
            cases hup
        | some up =>
            have hfirst : mrp.netlinkOperstate p state =
                (mrp.setOperstate p (storedOperstate state)).portLinkChange p up := by
              simp only [netlinkOperstate, hport, if_neg hsame, hlink]
            rw [hfirst]
            refine netlinkOperstate_eq_self p (fun hnone => ?_) fun up' hup => ?_
            · rw [hlink] at hnone
              cases hnone
            rw [hlink, Option.some.injEq] at hup
            rw [← hup]
            by_cases hlc : p = .inter ∧ mrp.inMode = .lc
            · -- the event is ignored, the operational state stays stored
              have hstored : (mrp.setOperstate p (storedOperstate state)).portLinkChange p up =
                  mrp.setOperstate p (storedOperstate state) := by
                rw [portLinkChange_setOperstate, if_pos hlc]
              rw [hstored, setOperstate_idem, hstored]
            · have hmode : ((mrp.setOperstate p (storedOperstate state)).portLinkChange p up).inMode =
                  mrp.inMode := by
                rw [(portLinkChange_op _ p up).toMrpConf, (setOperstate_op _ p _).toMrpConf]
              rw [portLinkChange_setOperstate _ p _ up, hmode, if_neg hlc,
                portLinkChange_setOperstate, if_neg hlc, mrp.portLinkChange_idem h]

end Netlink

end Mrp

/-- The notification finds the same instance again. -/
theorem Registry.cfmLinkChange_idem (reg : Registry) (ifindex peerMepid : UInt32) (defect : Bool) :
    (reg.cfmLinkChange ifindex peerMepid defect).cfmLinkChange ifindex peerMepid defect =
      reg.cfmLinkChange ifindex peerMepid defect := by
  induction reg with
  | nil => rfl
  | cons mrp reg ih =>
      by_cases hfound : isMrp mrp ifindex peerMepid = true
      · have hagain : isMrp (mrp.cfmLinkChange defect) ifindex peerMepid = true := by
          rw [← hfound]
          unfold isMrp
          rw [(mrp.cfmLinkChange_op defect).toMrpConf]
        simp only [cfmLinkChange, hfound, if_true, hagain, mrp.cfmLinkChange_idem defect]
      · simp only [cfmLinkChange, hfound, Bool.false_eq_true, if_false, ih]

/-- Link events are idempotent.  Of two equal calls of `mrp_port_link_change`, of two equal
CFM notifications and of two equal notifications of an operational state the second one
leaves the instance as it is: states, counters and timers as well as the logs of sent
frames and of calls into the driver and libev. -/
theorem linkEvents_idempotent (mrp : Mrp) (h : mrp.pPort ≠ mrp.sPort) (reg : Registry) :
    (∀ p up, (mrp.portLinkChange p up).portLinkChange p up = mrp.portLinkChange p up) ∧
      (∀ ifindex peerMepid defect,
        (reg.cfmLinkChange ifindex peerMepid defect).cfmLinkChange ifindex peerMepid defect =
          reg.cfmLinkChange ifindex peerMepid defect) ∧
      ∀ p state, (mrp.netlinkOperstate p state).netlinkOperstate p state =
        mrp.netlinkOperstate p state :=
  ⟨mrp.portLinkChange_idem h, reg.cfmLinkChange_idem, fun p => mrp.netlinkOperstate_idem p h⟩

/-- The sample client loses its primary link twice and announces it once. -/
theorem linkEvents_idempotent_sample :
    (((Sample.mrp ringRoleMrc 0).portLinkChange (.ring .primary) false).portLinkChange
        (.ring .primary) false).sent.length = (Sample.mrp ringRoleMrc 0).sent.length + 1 := by
  have hports : (Sample.mrp ringRoleMrc 0).pPort ≠ (Sample.mrp ringRoleMrc 0).sPort := by
    decide +kernel
  rw [(linkEvents_idempotent (Sample.mrp ringRoleMrc 0) hports []).1]
  decide +kernel

end Umrp
