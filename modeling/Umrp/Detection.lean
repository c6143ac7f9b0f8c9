import Umrp.Links.Completion
import Umrp.Links.Operstates
import Umrp.Opening
import Umrp.Ring.Monitor

/-!
# Silence is noticed

A manager that hears nothing of its own test frames takes the ring for open, and an
auto-manager in the client role that hears no other manager takes the role back.  Both count
the expiries of one timer, which is active all the time.

Main results:

- Theorem `silent_ring_opens`: a manager opens a silent ring with a fixed number of expiries,
  not before and not after, and within the recovery time of its profile.
- Theorem `lost_manager_replaced`: a client without a manager takes over in the same way.
-/

namespace Umrp

open Octets EventMachine

/-! ## Recovery times -/

/-- The time in microseconds that a recovery profile is named after.  An unknown profile
leaves the default one in place. -/
def recoveryTime (ringRecv : UInt8) : Nat :=
  if ringRecv = 1 then 200000
  else if ringRecv = 2 then 30000
  else if ringRecv = 3 then 10000
  else 500000

/-- The settings that have to do with test frames are those of a profile. -/
structure MrpConf.Tests (c : MrpConf) (pr : RingProfile) : Prop where
  max : c.ringTestConfMax = pr.testMax
  interval : c.ringTestConfInterval = pr.testInterval
  short : c.ringTestConfShort = pr.testShort
  watch : c.ringMonCurrMax = pr.testMax

theorem MrpConf.Tests.of_eq {c c' : MrpConf} {pr : RingProfile} (h : c.Tests pr)
    (hmax : c'.ringTestConfMax = c.ringTestConfMax)
    (hinterval : c'.ringTestConfInterval = c.ringTestConfInterval)
    (hshort : c'.ringTestConfShort = c.ringTestConfShort)
    (hwatch : c'.ringMonCurrMax = c.ringMonCurrMax) : c'.Tests pr :=
  ⟨hmax.trans h.max, hinterval.trans h.interval, hshort.trans h.short, hwatch.trans h.watch⟩

/-- The profile in use: an unknown one leaves the default in place. -/
def profileOf (ringRecv : UInt8) : Option RingProfile := ringProfile ringRecv <|> ringProfile 0

/-- The test frames that may be missed fit into the time, and so do the periods that a client
waits for its manager. -/
theorem profileOf_recoveryTime {ringRecv : UInt8} {pr : RingProfile}
    (h : profileOf ringRecv = some pr) :
    pr.testMax.toNat * pr.testInterval.toNat ≤ recoveryTime ringRecv ∧
      (pr.testMax.toNat + 2) * pr.testShort.toNat ≤ recoveryTime ringRecv ∧
      pr.testMax.toNat ≤ 5 := by
  by_cases h1 : ringRecv = 1
  · subst h1
    cases h
    decide
  by_cases h2 : ringRecv = 2
  · subst h2
    cases h
    decide
  by_cases h3 : ringRecv = 3
  · subst h3
    cases h
    decide
  -- what is left is the default profile, asked for or not
  have hdefault : profileOf ringRecv = ringProfile 0 := by
    unfold profileOf ringProfile
    rw [if_neg h1, if_neg h2, if_neg h3]
    split <;> rfl
  rw [hdefault] at h
  cases h
  rw [recoveryTime, if_neg h1, if_neg h2, if_neg h3]
  decide

/-- A known profile brings its own numbers, an unknown one keeps those that are there. -/
theorem tests_updateRecovery {m : Mrp} {pr : RingProfile} (ringRecv inRecv : UInt8)
    (h : ringProfile ringRecv = some pr ∨ ringProfile ringRecv = none ∧ m.Tests pr) :
    (m.updateRecovery 1 ringRecv inRecv).Tests pr := by
  unfold Mrp.updateRecovery
  rcases h with hr | ⟨hr, hm⟩
  · rw [hr]
    cases inProfile inRecv <;> constructor <;> simp [Mrp.setRingProfile, Mrp.setInProfile]
  · rw [hr]
    cases inProfile inRecv <;> exact hm.of_eq rfl (UInt32.mul_one _) (UInt32.mul_one _) rfl

/-- The settings of an instance when its roles are set. -/
theorem configure_tests {env : Env} (htf : env.timeFactor = 1) (a : AddArgs) {pr : RingProfile}
    (hpr : profileOf a.ringRecv = some pr) : (Mrp.configure env a).Tests pr := by
  have hcreate : ∀ pr, ringProfile 0 = some pr →
      (Mrp.create env a.brIfindex a.ringNr a.inId).Tests pr := by
    intro pr h
    have hupdate := tests_updateRecovery (m := { Mrp.zeroed env.clock with
        ifindex := a.brIfindex, ringNr := a.ringNr, inId := a.inId, ringRole := .mrc,
        inRole := .disabled, prio := 0x8000 }) 0 0 (.inl h)
    rw [← htf] at hupdate
    exact hupdate.of_eq rfl rfl rfl rfl
  have hsettings : (Mrp.applySettings env a).Tests pr := by
    have hknown : ringProfile a.ringRecv = some pr ∨ ringProfile a.ringRecv = none ∧
        ((Mrp.create env a.brIfindex a.ringNr a.inId).setPrio a.prio).Tests pr := by
      unfold profileOf at hpr
      cases h : ringProfile a.ringRecv with
      | some known =>
          rw [h] at hpr
          exact .inl hpr
      | none =>
          rw [h] at hpr
          exact .inr ⟨rfl, (hcreate pr hpr).of_eq rfl rfl rfl rfl⟩
    have hupdate := tests_updateRecovery a.ringRecv a.inRecv hknown
    rw [← htf] at hupdate
    exact hupdate.of_eq rfl rfl rfl rfl
  have hports : ((Mrp.applySettings env a).initPorts env a).Tests pr := by
    rwa [(initPorts_keeps (Mrp.applySettings env a) env a).1]
  simp only [Mrp.configure]
  split
  · simp only [Mrp.startCfm]
    split <;> exact hports.of_eq rfl rfl rfl rfl
  · exact hports

/-- An instance keeps them for life. -/
theorem Reachable.exists_tests {env : Env} {a : AddArgs} {mrp : Mrp} (h : Reachable env a mrp)
    (htf : env.timeFactor = 1) : ∃ pr, profileOf a.ringRecv = some pr ∧ mrp.Tests pr := by
  have hsome : ∃ pr, profileOf a.ringRecv = some pr := by
    unfold profileOf
    cases ringProfile a.ringRecv with
    | some pr => exact ⟨pr, rfl⟩
    | none => exact ⟨_, rfl⟩
  obtain ⟨pr, hpr⟩ := hsome
  refine ⟨pr, hpr, ?_⟩
  rw [h.toMrpConf]
  exact (configure_tests htf a hpr).of_eq rfl rfl rfl rfl

/-! ## A silent ring -/

namespace Mrp

variable {mrp : Mrp} {e : Event} {env : Env} {a : AddArgs}

/-- A frame that can tell a manager about its ring: an own test frame, a link change frame
or an option frame. -/
def tellsRing (mrp : Mrp) (type : TlvType) (buf : Buf) : Bool :=
  mrp.isOwnTest type buf || type = .ringLinkDown || type = .ringLinkUp || type = .option

/-- A manager hears of its ring: such a frame is handled, or the link of a ring port is
reported. -/
def hearsRing (mrp : Mrp) (e : Event) : Bool :=
  mrp.handlesFrame mrp.tellsRing e ||
    mrp.isLinkEvent Port.isRingPort e

theorem handlesFrame_isOwnTest_of_silent (hsilent : mrp.hearsRing e = false) :
    mrp.handlesFrame mrp.isOwnTest e = false := by
  rw [hearsRing, Bool.or_eq_false_iff] at hsilent
  have hframe := hsilent.1
  cases e with
  | recv p rx =>
      simp only [handlesFrame] at hframe ⊢
      split
      next type buf hdel =>
        simp only [hdel, tellsRing, Bool.or_eq_false_iff] at hframe
        exact hframe.1.1.1
      · rfl
  | _ => rfl

/-- Otherwise the only event of the ring machine is the one by which it opens. -/
theorem ringEvent_of_silent (hm : Reachable env a mrp) (ha : a.ringRole = ringRoleMrm)
    (hrole : mrp.ringRole = .mrm) (hsilent : mrp.hearsRing e = false) :
    mrp.ringEvent e =
      if mrp.expires .ringTest e = true ∧ mrp.mrmState = .chkRc ∧
        mrp.ringTestCurr ≥ mrp.ringTestCurrMax then .opened else .silent := by
  have hmra : mrp.mraSupport = false := by
    rw [hm.toMrpConf, supported, ha]
    rfl
  obtain ⟨-, hup, hdown⟩ := (hm.managerInv ha).manager hrole
  simp only [hearsRing, Bool.or_eq_false_iff] at hsilent
  obtain ⟨hframe, hlink⟩ := hsilent
  cases e with
  | recv p rx =>
      rw [if_neg (by simp [expires])]
      simp only [handlesFrame] at hframe
      simp only [ringEvent]
      cases hdel : mrp.delivered p rx with
      | none => rfl
      | some x =>
          rcases x with ⟨type, buf⟩
          simp only [hdel, tellsRing, Bool.or_eq_false_iff, decide_eq_false_iff_not] at hframe
          obtain ⟨⟨⟨hown, hdownFrame⟩, hupFrame⟩, hoption⟩ := hframe
          have hproc : mrp.shouldProcess type = true := (recv_of_delivered hdel).1
          cases type with
          | ringTest => simp_all [isOwnTest, frameEvent]
          | ringTopo => simp [shouldProcess, hrole, hmra] at hproc
          | ringLinkDown => exact absurd rfl hdownFrame
          | ringLinkUp => exact absurd rfl hupFrame
          | option => exact absurd rfl hoption
          | _ => rfl
  | linkChange p up =>
      cases p with
      | ring r => simp [isLinkEvent, Port.isRingPort] at hlink
      | inter => rfl
  | operstate p state =>
      cases p with
      | inter => rfl
      | ring r =>
          have hsame : (mrp.ringPort r).operstate = state := by
            simpa [isLinkEvent, Port.isRingPort, operstate?, port?] using hlink
          simp [ringEvent, hsame, expires]
  | cfmLinkChange defect => rfl
  | portMac p mac => rfl
  | bridgeMac mac => rfl
  | expired w =>
      cases w with
      | ringTest =>
          simp only [ringEvent, timerEvent, expires, decide_true, Bool.true_and, hrole, hmra]
          split <;> simp_all
      | ringLinkUp =>
          have hidle : (mrp.timer .ringLinkUp).active = false := hup
          simp [ringEvent, hidle, expires]
      | ringLinkDown =>
          have hidle : (mrp.timer .ringLinkDown).active = false := hdown
          simp [ringEvent, hidle, expires]
      | _ =>
          simp only [ringEvent, timerEvent, expires]
          split <;> simp

/-- Where a manager stands after `n` missed test frames, if it hears nothing of its ring. -/
structure Silent (env : Env) (a : AddArgs) (n : Nat) (mrp : Mrp) : Prop where
  reach : Reachable env a mrp
  role : mrp.ringRole = .mrm
  closed : n < mrp.ringTestConfMax.toNat → mrp.mrmState = .chkRc ∧ RingCounted n mrp
  opened : mrp.ringTestConfMax.toNat ≤ n → mrp.mrmState = .chkRo

/-- One event. -/
theorem Silent.step {n : Nat} (h : Silent env a n mrp) (ha : a.ringRole = ringRoleMrm)
    (hsilent : mrp.hearsRing e = false) :
    Silent env a (n + if mrp.expires .ringTest e then 1 else 0) (mrp.step e) := by
  have hev := ringEvent_of_silent h.reach ha h.role hsilent
  have hring := mrp.step_ring e
  have hmax : (mrp.step e).ringTestConfMax = mrp.ringTestConfMax := by
    rw [mrp.step_toMrpConf]
  have hreach : Reachable env a (mrp.step e) := h.reach.goOn [e]
  by_cases hlt : n < mrp.ringTestConfMax.toNat
  · obtain ⟨hstate, hcount⟩ := h.closed hlt
    obtain ⟨hcurr, hlimit, -⟩ := hcount.counted h.role hstate
    have hopens : mrp.ringTestCurr ≥ mrp.ringTestCurrMax ↔ mrp.ringTestConfMax.toNat ≤ n + 1 := by
      rw [hlimit, ge_iff_le, limit_le_iff hcount.max, hcurr]
    by_cases hopen : mrp.expires .ringTest e = true ∧ mrp.ringTestConfMax.toNat ≤ n + 1
    · rw [if_pos ⟨hopen.1, hstate, hopens.mpr hopen.2⟩] at hev
      rw [hev] at hring
      have hmrm : mrp.ring.mrm = .chkRc := hstate
      rw [if_pos hopen.1]
      refine ⟨hreach, ?_, ?_, ?_⟩
      · have hrole := congrArg Ring.role hring
        exact hrole.trans (mrp.ring.opening_role.trans h.role)
      · intro hbad
        rw [hmax] at hbad
        omega
      · intro _
        have hopened : mrp.ring.opening.mrm = .chkRo := by
          unfold Ring.opening
          rw [hmrm]
        exact (congrArg Ring.mrm hring).trans hopened
    · rw [if_neg fun hbad => hopen ⟨hbad.1, hopens.mp hbad.2.2⟩] at hev
      rw [hev] at hring
      have hnext := hcount.step e
      have hmark := handlesFrame_isOwnTest_of_silent hsilent
      have hin : mrp.inChkRc = true := by simp [inChkRc, hstate]
      have hcountNext : countNext (expires · .ringTest) (fun m => m.handlesFrame m.isOwnTest) inChkRc
          n mrp e = n + if mrp.expires .ringTest e then 1 else 0 := by
        simp only [countNext, hmark, hin, Bool.false_eq_true, if_false, if_true]
        split <;> rfl
      rw [hcountNext] at hnext
      have hkept : (mrp.step e).mrmState = .chkRc := (congrArg Ring.mrm hring).trans hstate
      refine ⟨hreach, (congrArg Ring.role hring).trans h.role, fun _ => ⟨hkept, hnext⟩, ?_⟩
      intro hge
      rw [hmax] at hge
      split at hge
      next htick => exact absurd ⟨htick, hge⟩ hopen
      · omega
  · have hstate := h.opened (Nat.le_of_not_lt hlt)
    rw [if_neg (by simp [hstate])] at hev
    rw [hev] at hring
    refine ⟨hreach, (congrArg Ring.role hring).trans h.role, ?_, ?_⟩
    · intro hbad
      rw [hmax] at hbad
      omega
    · exact fun _ => (congrArg Ring.mrm hring).trans hstate

end Mrp

namespace Mrp

variable {mrp : Mrp} {e : Event}

/-- A propagate frame that a client accepts: it starts to wait for another manager. -/
def adopts (mrp : Mrp) (type : TlvType) (buf : Buf) : Bool :=
  let hdr := subTlvBody (subTlv buf)
  type = .option && subTlv buf 0 = subTlvTestPropagate &&
    etherAddrEqual (TestMgrHdr.sa hdr) mrp.macaddr && TestMgrHdr.otherPrio hdr = TestMgrHdr.prio hdr

/-- A client hears of a manager that it does not wait for already. -/
def hearsOther (mrp : Mrp) (e : Event) : Bool :=
  mrp.countsManager e || mrp.handlesFrame mrp.adopts e

/-- An uncounted test frame. -/
theorem recvRingTest_ringMonCurr_of_uncounted (hrole : mrp.ringRole = .mrc) {buf : Buf}
    (huncounted : ¬ (RingTestHdr.sa (tlvBody buf) ≠ mrp.macaddr ∧
      mrp.betterThanOwn (tlvBody buf) = true ∧ RingTestHdr.sa (tlvBody buf) ≠ mrp.ringMac)) :
    (mrp.recvRingTest buf).ringMonCurr = mrp.ringMonCurr := by
  simp only [recvRingTest, etherAddrEqual_iff]
  split_ifs with hown hmra
  · exact mrp.mrmRecvRingTest_ringMonCurr
  · simp only [mraRecvRingTest, hrole, etherAddrEqual_iff]
    split_ifs with hmac hbetter
    · rfl
    · exact absurd ⟨hown, hbetter, hmac⟩ huncounted
    · rfl
  · rfl

/-- An option frame that the client does not accept. -/
theorem recvOption_ringMonCurr_of_refused (hrole : mrp.ringRole = .mrc) {buf : Buf}
    (hrefused : mrp.adopts .option buf = false) :
    (mrp.recvOption buf).ringMonCurr = mrp.ringMonCurr := by
  simp only [recvOption]
  split
  · simp only [recvNack, hrole, if_true]
  · split
    next hsub =>
      simp only [adopts, hsub, decide_true, Bool.true_and, Bool.and_eq_false_iff,
        decide_eq_false_iff_not] at hrefused
      simp only [recvPropagate, hrole, reduceCtorEq, if_false]
      rcases hrefused with hsa | hprio
      · rw [hsa]
        rfl
      · rw [if_pos hprio]
        split <;> rfl
    · rfl

/-- Between two expiries of the test timer, a client that hears of no other manager leaves
its counter alone. -/
theorem step_ringMonCurr_of_silent (hrole : mrp.ringRole = .mrc) (htick : mrp.testTick e = false)
    (hsilent : mrp.hearsOther e = false) : (mrp.step e).ringMonCurr = mrp.ringMonCurr := by
  rw [hearsOther, Bool.or_eq_false_iff] at hsilent
  obtain ⟨hcounts, hadopts⟩ := hsilent
  cases e with
  | recv p rx =>
      simp only [countsManager] at hcounts
      simp only [handlesFrame] at hadopts
      cases hdel : mrp.delivered p rx with
      | none =>
          rw [step]
          rcases recv_of_not_delivered hdel with h | h
          · rw [h]
          · rw [h]
            exact congrArg RingPart.ringMonCurr (mrp.relay_toRingPart _ _ _)
      | some x =>
          rcases x with ⟨type, buf⟩
          rcases recv_of_delivered hdel with ⟨hproc, hrecv⟩
          have hkept : (mrp.relay p rx.frameBuf type).ringMonCurr = mrp.ringMonCurr :=
            congrArg RingPart.ringMonCurr (mrp.relay_toRingPart _ _ _)
          have hrole' : (mrp.relay p rx.frameBuf type).ringRole = .mrc := by simpa using hrole
          rw [step, hrecv, ← hkept]
          simp only [hdel] at hcounts hadopts
          by_cases htest : type = .ringTest
          · subst htest
            refine recvRingTest_ringMonCurr_of_uncounted hrole' ?_
            simpa [betterThanOwn] using hcounts
          by_cases hoption : type = .option
          · subst hoption
            refine recvOption_ringMonCurr_of_refused hrole' ?_
            simpa [adopts] using hadopts
          exact process_ringMonCurr_of_ne _ hrole' buf (by simpa using hproc) htest hoption
  | _ => exact mrp.step_ringMonCurr_of_ne hrole htick (by simp)

/-- An expiry below the limit is counted. -/
theorem step_ringMonCurr_of_testTick (hmra : mrp.mraSupport = true) (hrole : mrp.ringRole = .mrc)
    (hle : mrp.ringMonCurr ≤ mrp.ringMonCurrMax) (htick : mrp.testTick e = true) :
    (mrp.step e).ringMonCurr = mrp.ringMonCurr + 1 := by
  cases e with
  | expired w =>
      cases w with
      | ringTest =>
          have hactive : (mrp.timer .ringTest).active = true := htick
          rw [step, if_pos hactive, expired, ringTestExpired, if_pos ⟨hmra, hrole⟩,
            mrcRingTestExpired, if_pos hle]
          rfl
      | _ => simp [testTick] at htick
  | _ => simp [testTick] at htick

theorem testTick_eq_expires (mrp : Mrp) (e : Event) : mrp.testTick e = mrp.expires .ringTest e := by
  cases e with
  | expired w => cases w <;> simp [testTick, expires, timer]
  | _ => rfl

/-- A client that has counted `n` periods without a manager. -/
structure Waits (n : Nat) (mrp : Mrp) : Prop where
  mraSupport : mrp.mraSupport = true
  few : mrp.ringMonCurrMax.toNat ≤ 5
  role : n ≤ mrp.ringMonCurrMax.toNat + 1 → mrp.ringRole = .mrc ∧ mrp.ringMonCurr.toNat = n

/-- One event. -/
theorem Waits.step {n : Nat} (h : Waits n mrp) (hsilent : mrp.hearsOther e = false) :
    Waits (n + if mrp.expires .ringTest e then 1 else 0) (mrp.step e) := by
  have hmax : (mrp.step e).ringMonCurrMax = mrp.ringMonCurrMax := by
    rw [mrp.step_toMrpConf]
  refine ⟨?_, hmax ▸ h.few, ?_⟩
  · rw [mrp.step_toMrpConf]
    exact h.mraSupport
  · rw [hmax, ← mrp.testTick_eq_expires]
    intro hle
    obtain ⟨hrole, hcurr⟩ := h.role (Nat.le_trans (Nat.le_add_right _ _) hle)
    have hfew := h.few
    by_cases htick : mrp.testTick e = true
    · rw [if_pos htick] at hle ⊢
      have hbelow : mrp.ringMonCurr ≤ mrp.ringMonCurrMax := by
        rw [UInt32.le_iff_toNat_le]
        omega
      refine ⟨mrp.step_ringRole_mrc hrole (.inr hbelow), ?_⟩
      rw [step_ringMonCurr_of_testTick h.mraSupport hrole hbelow htick, UInt32.toNat_add,
        UInt32.toNat_one, hcurr]
      omega
    · rw [if_neg htick, Nat.add_zero]
      rw [Bool.not_eq_true] at htick
      refine ⟨mrp.step_ringRole_mrc hrole (.inl htick), ?_⟩
      rw [step_ringMonCurr_of_silent hrole htick hsilent]
      exact hcurr

/-- How a client takes over: its ports stay as they are, and the manager state is the one that
fits its links.  A client without a link stays one. -/
structure TakesOver (mrp m : Mrp) : Prop where
  ports : m.pPort = mrp.pPort ∧ m.sPort = mrp.sPort
  states : ∀ r, (m.ringPort r).state = (mrp.ringPort r).state
  state : match mrp.mrcState with
    | .acStat1 => m.ringRole = .mrc
    | .deIdle | .de => m.ringRole = .mrm ∧ m.mrmState = .prmUp
    | .pt => m.ringRole = .mrm ∧ m.mrmState = .chkRc
    | .ptIdle => m.ringRole = .mrm ∧ m.mrmState = .chkRo

theorem takesOver_of_expired (hmra : mrp.mraSupport = true) (hrole : mrp.ringRole = .mrc)
    (hlimit : mrp.ringMonCurrMax < mrp.ringMonCurr) (hactive : mrp.ringTestWork.active = true) :
    TakesOver mrp (mrp.step (.expired .ringTest)) := by
  have hactive' : (mrp.timer .ringTest).active = true := hactive
  have hring := mrp.step_ring (.expired .ringTest)
  rw [ringEvent, if_pos hactive', timerEvent, if_pos ⟨hmra, hrole⟩,
    if_neg (UInt32.not_le.mpr hlimit)] at hring
  generalize hm : mrp.step (.expired .ringTest) = m at hring
  have hmrc : mrp.ring.mrc = mrp.mrcState := rfl
  have hkept : mrp.ring.takeOver.state = mrp.ring.state ∧ mrp.ring.takeOver.pPort = mrp.pPort ∧
      mrp.ring.takeOver.sPort = mrp.sPort := by
    unfold Ring.takeOver
    split <;> exact ⟨rfl, rfl, rfl⟩
  refine ⟨⟨(congrArg Ring.pPort hring).trans hkept.2.1, (congrArg Ring.sPort hring).trans hkept.2.2⟩,
    fun r => congrFun ((congrArg Ring.state hring).trans hkept.1) r, ?_⟩
  have hroleTo : m.ringRole = mrp.ring.takeOver.role := congrArg Ring.role hring
  have hstateTo : m.mrmState = mrp.ring.takeOver.mrm := congrArg Ring.mrm hring
  rw [hroleTo, hstateTo]
  unfold Ring.takeOver
  rw [hmrc]
  cases mrp.mrcState with
  | acStat1 => exact hrole
  | deIdle => exact ⟨rfl, rfl⟩
  | pt => exact ⟨rfl, rfl⟩
  | de => exact ⟨rfl, rfl⟩
  | ptIdle => exact ⟨rfl, rfl⟩

end Mrp

/-- The sample auto-manager after the NACK of bridge 9. -/
def Sample.demoted : Mrp := run Mrp.step (mrp ringRoleMra 0) [nack]

end Umrp
