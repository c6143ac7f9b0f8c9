import Umrp.Ring.Role

/-!
# A client that watches its manager

An auto-manager in the client role counts the periods of its test timer in which
no better manager was heard, and takes the role back when there were too many.
The counter starts again when a test frame of a better bridge is counted; frames of
the bridge that is recorded as the manager are not.

Main results:

- Theorem `monitor_keeps_client`: with a counted test frame between any two
  expiries of the test timer, the instance stays a client.
- Theorem `monitor_misses_manager`: test frames of the recorded manager do not help.
-/

namespace Umrp

open Octets EventMachine

namespace Mrp

/-! ## Heard and counted test frames -/

/-- A test frame of another, better bridge that reaches its handler. -/
def hearsManager (mrp : Mrp) : Event → Bool
  | .recv p rx =>
      match mrp.delivered p rx with
      | some (.ringTest, buf) =>
          RingTestHdr.sa (tlvBody buf) ≠ mrp.macaddr && mrp.betterThanOwn (tlvBody buf)
      | _ => false
  | _ => false

/-- A test frame of a better bridge other than the recorded manager. -/
def countsManager (mrp : Mrp) : Event → Bool
  | .recv p rx =>
      match mrp.delivered p rx with
      | some (.ringTest, buf) =>
          RingTestHdr.sa (tlvBody buf) ≠ mrp.macaddr && mrp.betterThanOwn (tlvBody buf) &&
            RingTestHdr.sa (tlvBody buf) ≠ mrp.ringMac
      | _ => false
  | _ => false

/-- An expiry of the test timer. -/
def testTick (mrp : Mrp) (e : Event) : Bool :=
  match e with
  | .expired .ringTest => mrp.ringTestWork.active
  | _ => false

/-! ## The counter of missed periods -/

attribute [local simp] call flush
  clearFdbStart ringTestStart ringTopoStart ringTopoStop
  ringLinkUpStart ringLinkUpStop ringLinkDownStart ringLinkDownStop

attribute [local simp] portSetState_ring RingPart.setPortState setRingRole setMrcInit setMrmState
  setMrcState promote demote restartTestCount noteRingLink
  setNoTc setRingTestCurr setRingTestCurrMax resetRingTestCount setRingMonCurr setRingPrio
  setRingMac setRingTopoCurrMax setRingLinkCurrMax

attribute [local simp] sendRingTest ringTestSend ringTestReq sendRingTopo ringTopoSend ringTopoReq
  ringLinkReq sendTestProp testPropReq

section Counter

variable (mrp : Mrp)

@[local simp]
theorem ite_ringMonCurr (c : Prop) [Decidable c] (x y : RingPart) :
    (if c then x else y).ringMonCurr = if c then x.ringMonCurr else y.ringMonCurr :=
  apply_ite _ _ _ _

theorem mrcPortLink_ringMonCurr (r : RingPort) (up : Bool) :
    (mrp.mrcPortLink r up).ringMonCurr = mrp.ringMonCurr := by
  unfold mrcPortLink
  cases mrp.mrcState <;> simp

theorem mrmRecvRingTest_ringMonCurr : mrp.mrmRecvRingTest.ringMonCurr = mrp.ringMonCurr := by
  unfold mrmRecvRingTest
  cases mrp.mrmState <;> simp

theorem mrcRecvRingTopo_ringMonCurr (buf : Buf) :
    (mrp.mrcRecvRingTopo buf).ringMonCurr = mrp.ringMonCurr := by
  unfold mrcRecvRingTopo
  cases mrp.mrcState <;> simp

/-- Giving up the role starts the counter again. -/
theorem yieldRole_ringMonCurr : mrp.yieldRole.ringMonCurr = 0 := by
  unfold yieldRole enterClient
  cases h : mrp.mrmState <;> simp [h]

/-- A client counts a test frame, ignores it, or leaves it to the manager machine. -/
theorem recvRingTest_ringMonCurr (hrole : mrp.ringRole = .mrc) (buf : Buf) :
    (mrp.recvRingTest buf).ringMonCurr = mrp.ringMonCurr ∨
      (mrp.recvRingTest buf).ringMonCurr = 0 := by
  simp only [recvRingTest]
  split
  · exact .inl mrp.mrmRecvRingTest_ringMonCurr
  · split
    · simp only [mraRecvRingTest, hrole]
      split
      · exact .inl rfl
      · split
        · exact .inr rfl
        · exact .inl rfl
    · exact .inl rfl

/-- On a client only test frames and option frames have to do with the counter. -/
theorem process_ringMonCurr_of_ne (hrole : mrp.ringRole = .mrc) (buf : Buf) {type : TlvType}
    (hproc : mrp.shouldProcess type = true) (htest : type ≠ .ringTest) (hoption : type ≠ .option) :
    (mrp.process buf type).ringMonCurr = mrp.ringMonCurr := by
  cases type with
  | ringTest => exact absurd rfl htest
  | ringTopo =>
      rw [process, recvRingTopo, if_neg (by simp [hrole])]
      exact mrp.mrcRecvRingTopo_ringMonCurr buf
  | ringLinkDown | ringLinkUp => simp [shouldProcess, hrole] at hproc
  | option => exact absurd rfl hoption
  | inTest => exact congrArg RingPart.ringMonCurr (mrp.recvInTest_op buf).toRingPart
  | inTopo =>
      have hin := mrp.inTopoByRole_op (tlvBody buf) (intervalUs (InTopoHdr.interval (tlvBody buf)))
      simp only [process, recvInTopo, restartRingTopo, hrole]
      exact congrArg RingPart.ringMonCurr hin.toRingPart
  | inLinkDown | inLinkUp =>
      exact congrArg RingPart.ringMonCurr (mrp.recvInLink_op buf).toRingPart
  | inLinkStatus =>
      exact congrArg RingPart.ringMonCurr (mrp.recvInLinkStatus_op buf).toRingPart
  | tlvEnd | common | unknown => rfl

/-- On a client every handler leaves the counter or starts it again. -/
theorem process_ringMonCurr (hrole : mrp.ringRole = .mrc) (buf : Buf) {type : TlvType}
    (hproc : mrp.shouldProcess type = true) :
    (mrp.process buf type).ringMonCurr = mrp.ringMonCurr ∨
      (mrp.process buf type).ringMonCurr = 0 := by
  cases type with
  | ringTest => exact mrp.recvRingTest_ringMonCurr hrole buf
  | option =>
      simp only [process, recvOption]
      split
      · simp [recvNack, hrole]
      · split
        · simp only [recvPropagate]
          repeat' split
          all_goals simp
        · exact .inl rfl
  | _ => exact .inl (mrp.process_ringMonCurr_of_ne hrole buf hproc (by simp) (by simp))

/-- A link event. -/
theorem portLinkChange_ringMonCurr (hrole : mrp.ringRole = .mrc) (p : Port) (up : Bool) :
    (mrp.portLinkChange p up).ringMonCurr = mrp.ringMonCurr := by
  cases p with
  | inter => exact congrArg RingPart.ringMonCurr (mrp.portLinkChange_inter_op up).toRingPart
  | ring r =>
      have hrole' : (mrp.noteRingLink r up).ringRole = .mrc := hrole
      simp only [portLinkChange, hrole']
      exact mrcPortLink_ringMonCurr _ r up

/-- A timer other than the test timer. -/
theorem expired_ringMonCurr {w : TimerId} (hw : w ≠ .ringTest) :
    (mrp.expired w).ringMonCurr = mrp.ringMonCurr := by
  cases w with
  | ringTest => exact absurd rfl hw
  | clearFdb => rfl
  | ringTopo =>
      simp only [expired, ringTopoExpired]
      split <;> simp
  | ringLinkUp =>
      simp only [expired, ringLinkUpExpired]
      split <;> simp
  | ringLinkDown =>
      simp only [expired, ringLinkDownExpired]
      split <;> simp
  | inTest => exact congrArg RingPart.ringMonCurr mrp.inTestExpired_op.toRingPart
  | inTopo => exact congrArg RingPart.ringMonCurr mrp.inTopoExpired_op.toRingPart
  | inLinkUp => exact congrArg RingPart.ringMonCurr mrp.inLinkUpExpired_op.toRingPart
  | inLinkDown => exact congrArg RingPart.ringMonCurr mrp.inLinkDownExpired_op.toRingPart
  | inLinkStatus => exact congrArg RingPart.ringMonCurr mrp.inLinkStatusExpired_op.toRingPart
  | cfmCcm => rfl

/-- A received frame. -/
theorem recv_ringMonCurr (hrole : mrp.ringRole = .mrc) (p : Port) (rx : RxFrame) :
    (mrp.recv p rx).ringMonCurr = mrp.ringMonCurr ∨ (mrp.recv p rx).ringMonCurr = 0 := by
  cases hdel : mrp.delivered p rx with
  | none =>
      left
      rcases recv_of_not_delivered hdel with h | h
      · rw [h]
      · rw [h]
        exact congrArg RingPart.ringMonCurr (mrp.relay_toRingPart _ _ _)
  | some x =>
      rcases x with ⟨type, buf⟩
      rcases recv_of_delivered hdel with ⟨hproc, hrecv⟩
      have h := (mrp.relay p rx.frameBuf type).process_ringMonCurr (by simpa using hrole) buf
        (by simpa using hproc)
      rw [relay_toRingPart] at h
      rw [hrecv]
      exact h

/-- Other events than a received frame and an expiry of the test timer leave a client's counter
alone. -/
theorem step_ringMonCurr_of_ne (hrole : mrp.ringRole = .mrc) {e : Event}
    (he : mrp.testTick e = false) (hrecv : ∀ p rx, e ≠ .recv p rx) :
    (mrp.step e).ringMonCurr = mrp.ringMonCurr := by
  cases e with
  | recv p rx => exact absurd rfl (hrecv p rx)
  | linkChange p up =>
      simp only [step]
      split
      · exact mrp.portLinkChange_ringMonCurr hrole p up
      · rfl
  | operstate p state =>
      have hset : ∀ v, (mrp.setOperstate p v).ringMonCurr = mrp.ringMonCurr ∧
          (mrp.setOperstate p v).ringRole = mrp.ringRole := by
        intro v
        cases p <;> exact ⟨rfl, rfl⟩
      simp only [step, netlinkOperstate]
      split
      · rfl
      · split
        · rfl
        · split
          · rw [portLinkChange_ringMonCurr _ ((hset _).2.trans hrole), (hset _).1]
          · exact (hset _).1
  | cfmLinkChange defect =>
      exact congrArg RingPart.ringMonCurr (mrp.cfmLinkChange_op defect).toRingPart
  | portMac p mac => cases p <;> rfl
  | bridgeMac mac => rfl
  | expired w =>
      simp only [step]
      split
      next hactive =>
        refine mrp.expired_ringMonCurr ?_
        rintro rfl
        exact Bool.false_ne_true (he.symm.trans hactive)
      · rfl

/-- Between two expiries of the test timer a client's counter is left or started again. -/
theorem step_ringMonCurr (hrole : mrp.ringRole = .mrc) {e : Event}
    (he : mrp.testTick e = false) :
    (mrp.step e).ringMonCurr = mrp.ringMonCurr ∨ (mrp.step e).ringMonCurr = 0 := by
  cases e with
  | recv p rx => exact mrp.recv_ringMonCurr hrole p rx
  | _ => exact .inl (mrp.step_ringMonCurr_of_ne hrole he (by simp))

/-- A counted test frame starts the counter again. -/
theorem step_ringMonCurr_of_countsManager (hmra : mrp.mraSupport = true)
    (hrole : mrp.ringRole = .mrc) {e : Event} (he : mrp.countsManager e = true) :
    (mrp.step e).ringMonCurr = 0 := by
  cases e with
  | recv p rx =>
      simp only [countsManager] at he
      split at he
      next buf hdel =>
        simp only [Bool.and_eq_true, decide_eq_true_eq] at he
        rcases he with ⟨⟨hsa, hbetter⟩, hmac⟩
        have hbetter' : (mrp.relay p rx.frameBuf .ringTest).betterThanOwn (tlvBody buf) = true := by
          simpa [betterThanOwn] using hbetter
        rw [step, (recv_of_delivered hdel).2]
        simp [process, recvRingTest, mraRecvRingTest, hsa, hmra, hrole, hmac, hbetter']
      · cases he
  | _ => cases he

/-- The takeover happens at an expiry of the test timer that finds the counter too high. -/
theorem ringEvent_ne_managerLost {e : Event}
    (h : mrp.testTick e = false ∨ mrp.ringMonCurr ≤ mrp.ringMonCurrMax) :
    mrp.ringEvent e ≠ .managerLost := by
  cases e with
  | recv p rx =>
      simp only [ringEvent]
      split
      next type buf _ =>
        cases type <;> simp only [frameEvent] <;> (repeat' split) <;> simp
      · simp
  | linkChange p up => cases p <;> simp [ringEvent]
  | operstate p state =>
      cases p with
      | inter => simp [ringEvent]
      | ring r =>
          simp only [ringEvent]
          split
          · simp
          · split <;> simp
  | expired w =>
      simp only [ringEvent]
      split
      next hactive =>
        cases w with
        | ringTest =>
            rcases h with h | h
            · exact absurd (h.symm.trans hactive) Bool.false_ne_true
            · simp only [timerEvent, h, if_true]
              repeat' split
              all_goals simp
        | _ => simp [timerEvent]
      · simp
  | _ => simp [ringEvent]

/-- A client stays one until the counter is found too high. -/
theorem step_ringRole_mrc {e : Event} (hrole : mrp.ringRole = .mrc)
    (h : mrp.testTick e = false ∨ mrp.ringMonCurr ≤ mrp.ringMonCurrMax) :
    (mrp.step e).ringRole = .mrc := by
  have hring := Ring.step_role_mrc (c := mrp.linkConf) (mrp.ringEvent_enabled e)
    (mrp.ringEvent_ne_managerLost h) hrole
  rw [← mrp.step_ring e] at hring
  exact hring

/-- The step that makes an instance a client starts the counter. -/
theorem step_ringMonCurr_of_demoted {e : Event} (hrole : mrp.ringRole = .mrm)
    (hstep : (mrp.step e).ringRole = .mrc) : (mrp.step e).ringMonCurr = 0 := by
  have hev : mrp.ringEvent e = .nacked := by
    refine Ring.nacked_of_role (c := mrp.linkConf) (mrp.ringEvent_enabled e) hrole ?_
    rw [← mrp.step_ring e]
    exact hstep
  rcases exists_of_nacked hev with ⟨p, rx, buf, rfl, hdel, hmrc, hnack, hsa, hother⟩
  have hrecv : mrp.step (.recv p rx) =
      ((mrp.relay p rx.frameBuf .option).recordHost (subTlvBody (subTlv buf))).yieldRole := by
    rw [step, (recv_of_delivered hdel).2]
    simp [process, recvOption, recvNack, hnack, hmrc, hsa, hother]
  rw [hrecv]
  exact yieldRole_ringMonCurr _

end Counter

end Mrp

/-- A client that was a manager before stays a client, whatever else happens, if it
counts a test frame of a better bridge between any two expiries of its test timer. -/
theorem monitor_keeps_client {mrp : Mrp} {e : Event} (hmra : mrp.mraSupport = true)
    (hrole : mrp.ringRole = .mrm) (hclient : (mrp.step e).ringRole = .mrc) {es : List Event}
    (hes : Between Mrp.step Mrp.testTick Mrp.countsManager true (mrp.step e) es) :
    Always Mrp.step (fun m => m.ringRole = .mrc) (mrp.step e) es := by
  refine always_of_between (I := fun seen m => m.mraSupport = true ∧ m.ringRole = .mrc ∧
    (seen = true → m.ringMonCurr = 0)) ?_ ?_ ?_ ⟨?_, hclient, ?_⟩ hes
  · rintro m e ⟨hm, hmrc, hmon⟩ -
    have hle : m.ringMonCurr ≤ m.ringMonCurrMax := by
      rw [hmon rfl]
      exact UInt32.zero_le
    refine ⟨by rwa [m.step_toMrpConf], ?_, nofun⟩
    exact m.step_ringRole_mrc hmrc (.inr hle)
  · rintro seen m e ⟨hm, hmrc, hmon⟩ htick
    refine ⟨by rwa [m.step_toMrpConf], m.step_ringRole_mrc hmrc (.inl htick), ?_⟩
    intro hseen
    rcases Bool.or_eq_true_iff.mp hseen with hseen | hmark
    · rcases m.step_ringMonCurr hmrc htick with h | h
      · rw [h, hmon hseen]
      · exact h
    · exact m.step_ringMonCurr_of_countsManager hm hmrc hmark
  · rintro seen m ⟨-, hmrc, -⟩
    exact hmrc
  · rw [mrp.step_toMrpConf]
    exact hmra
  · intro _
    exact mrp.step_ringMonCurr_of_demoted hrole hclient

namespace Sample

/-- A NACK of bridge 9 that names the sample bridge. -/
def nack : Event := .recv (.ring .primary) (frame (mac 9) 0x1000 (.testMgrNack (mac 1)))

/-- One period of the test timer with a test frame of bridge `i` in it. -/
def period (i : UInt8) : List Event :=
  [.recv (.ring .primary) (frame (mac i) 0x1000 (.ringTest true 0 0)), .expired .ringTest]

end Sample

/-- Test frames of a bridge other than the recorded manager keep the sample a client. -/
theorem monitor_keeps_client_sample :
    Always Mrp.step (fun m => m.ringRole = .mrc) ((Sample.mrp ringRoleMra 0).step Sample.nack)
      (List.replicate 8 (Sample.period 8)).flatten :=
  monitor_keeps_client (by decide +kernel) (by decide +kernel) (by decide +kernel)
    (by decide +kernel)

/-- Bridge 9 makes the sample a client and sends a better test frame in each of seven
periods.  None of them is counted, because bridge 9 is the recorded manager, and the
sample takes the role back. -/
theorem monitor_misses_manager :
    ∃ mrp e es, Reachable Sample.env (Sample.args ringRoleMra 0) mrp ∧ mrp.ringRole = .mrm ∧
      (mrp.step e).ringRole = .mrc ∧
      Between Mrp.step Mrp.testTick Mrp.hearsManager true (mrp.step e) es ∧
      (run Mrp.step (mrp.step e) es).ringRole = .mrm :=
  ⟨Sample.mrp ringRoleMra 0, Sample.nack, (List.replicate 7 (Sample.period 9)).flatten,
    ⟨_, [], Sample.created (by decide +kernel), rfl⟩, by decide +kernel⟩

end Umrp
