import Umrp.Ring.Opening
import Umrp.Topology.Completion

/-!
# The flag that suppresses a topology change

A manager whose secondary link comes up does not know yet whether the ring is closed.  It
sets `no_tc`, so that an opening that follows without a test frame in between is not
announced.  But the setter of the manager state, which every transition calls last, clears
the flag again.

Main results:

- Theorem `Reachable.noTc`: no reachable instance has the flag set.
- Theorem `silent_opening_iff`: the announcement of an opening depends on a test frame
  in between exactly if there was one.
-/

namespace Umrp

open Octets EventMachine

/-! ## The flag is never set -/

namespace Mrp

/-- Handlers of the interconnection side leave the flag alone. -/
theorem InOp.noTc_eq_false {a b : Mrp} (hop : InOp a b) (h : a.noTc = false) : b.noTc = false := by
  rwa [hop.toRingPart]

section Handlers

attribute [local simp] call flush clearFdbStart clearFdbStop
  ringTestStart ringTestStop ringTopoStart ringTopoStop ringLinkUpStart ringLinkUpStop
  ringLinkDownStart ringLinkDownStop portSetState_ring RingPart.setPortState setRingRole
  setMrmInit setMrcInit setMrmState setMrcState promote demote restartTestCount noteRingLink
  setAddTest setNoTc nextRingTransition setRingTestCurr setRingTestCurrMax resetRingTestCount
  setRingMonCurr setRingPrio setRingMac setRingTopoCurrMax setRingLinkCurrMax

attribute [local simp] sendRingTest ringTestSend ringTestReq sendRingTopo ringTopoSend
  ringLinkReq sendTestMgrNack testMgrNackReq sendTestProp testPropReq

@[local simp]
theorem ringTopoReq_noTc (mrp : Mrp) (time : UInt32) : (mrp.ringTopoReq time).noTc = mrp.noTc := by
  rcases mrp.ringTopoReq_eq time with ⟨_, _, h⟩
  rw [h]

variable {mrp : Mrp} (h : mrp.noTc = false)

include h

/-- Link changes on a manager.  The flag is set in PRM_UP and cleared with the new state. -/
theorem mrmPortLink_noTc (r : RingPort) (up : Bool) : (mrp.mrmPortLink r up).noTc = false := by
  unfold mrmPortLink
  cases mrp.mrmState <;> dsimp only <;> repeat' split
  all_goals simp [h]

theorem mrcPortLink_noTc (r : RingPort) (up : Bool) : (mrp.mrcPortLink r up).noTc = false := by
  unfold mrcPortLink
  cases mrp.mrcState <;> dsimp only <;> repeat' split
  all_goals simp [h]

theorem recvRingTest_noTc (buf : Buf) : (mrp.recvRingTest buf).noTc = false := by
  unfold recvRingTest mrmRecvRingTest mraRecvRingTest
  dsimp only
  repeat' split
  all_goals simp [h]

theorem recvRingTopo_noTc (buf : Buf) : (mrp.recvRingTopo buf).noTc = false := by
  unfold recvRingTopo mraRecvRingTopo mrcRecvRingTopo
  dsimp only
  repeat' split
  all_goals simp [h]

theorem recvRingLink_noTc (buf : Buf) : (mrp.recvRingLink buf).noTc = false := by
  unfold recvRingLink
  cases mrp.mrmState <;> dsimp only <;> repeat' split
  all_goals simp [h]

theorem yieldRole_noTc : mrp.yieldRole.noTc = false := by
  unfold yieldRole enterClient
  dsimp only
  repeat' split
  all_goals simp [h]

theorem recvOption_noTc (buf : Buf) : (mrp.recvOption buf).noTc = false := by
  have hhost : ∀ hdr, (mrp.recordHost hdr).noTc = false := by
    intro hdr
    unfold recordHost
    split
    · simp [h]
    · exact h
  unfold recvOption recvPropagate
  dsimp only
  repeat' split
  · rw [recvNack_eq]
    split
    · exact yieldRole_noTc (hhost _)
    · exact h
  all_goals simp [h]

theorem recvInTopo_noTc (buf : Buf) : (mrp.recvInTopo buf).noTc = false := by
  have hrestart : ∀ interval, (mrp.restartRingTopo interval).noTc = false := by
    intro interval
    unfold restartRingTopo
    split <;> simp [h]
  exact (inTopoByRole_op _ _ _).noTc_eq_false (hrestart _)

theorem ringTestExpired_noTc : mrp.ringTestExpired.noTc = false := by
  unfold ringTestExpired mrcRingTestExpired mrmRingTestExpired enterManager
  repeat' split
  all_goals simp [h]

theorem expired_noTc (w : TimerId) : (mrp.expired w).noTc = false := by
  cases w with
  | clearFdb => simpa [expired, clearFdbExpired] using h
  | ringTest => exact ringTestExpired_noTc h
  | ringTopo =>
      simp only [expired, ringTopoExpired]
      split <;> simp [h]
  | ringLinkUp =>
      simp only [expired, ringLinkUpExpired]
      split <;> simp [h]
  | ringLinkDown =>
      simp only [expired, ringLinkDownExpired]
      split <;> simp [h]
  | inTest => exact mrp.inTestExpired_op.noTc_eq_false h
  | inTopo => exact mrp.inTopoExpired_op.noTc_eq_false h
  | inLinkUp => exact mrp.inLinkUpExpired_op.noTc_eq_false h
  | inLinkDown => exact mrp.inLinkDownExpired_op.noTc_eq_false h
  | inLinkStatus => exact mrp.inLinkStatusExpired_op.noTc_eq_false h
  | cfmCcm => simpa [expired, cfmCcmExpired, cfmCcmStart] using h

theorem process_noTc (buf : Buf) (type : TlvType) : (mrp.process buf type).noTc = false := by
  cases type with
  | ringTest => exact recvRingTest_noTc h buf
  | ringTopo => exact recvRingTopo_noTc h buf
  | ringLinkDown => exact recvRingLink_noTc h buf
  | ringLinkUp => exact recvRingLink_noTc h buf
  | option => exact recvOption_noTc h buf
  | inTest => exact (mrp.recvInTest_op buf).noTc_eq_false h
  | inTopo => exact recvInTopo_noTc h buf
  | inLinkDown => exact (mrp.recvInLink_op buf).noTc_eq_false h
  | inLinkUp => exact (mrp.recvInLink_op buf).noTc_eq_false h
  | inLinkStatus => exact (mrp.recvInLinkStatus_op buf).noTc_eq_false h
  | tlvEnd => exact h
  | common => exact h
  | unknown v => exact h

theorem portLinkChange_noTc (p : Port) (up : Bool) : (mrp.portLinkChange p up).noTc = false := by
  cases p with
  | ring r =>
      have hnote : (mrp.noteRingLink r up).noTc = false := h
      simp only [portLinkChange]
      cases (mrp.noteRingLink r up).ringRole with
      | mrm => exact mrmPortLink_noTc hnote r up
      | mrc => exact mrcPortLink_noTc hnote r up
      | disabled => exact hnote
      | mra => exact hnote
  | inter => exact (mrp.portLinkChange_inter_op up).noTc_eq_false h

end Handlers

/-- The handlers never leave the flag set. -/
theorem noTc_keptByHandlers : KeptByHandlers fun mrp => mrp.noTc = false where
  relay mrp p fb type h := by rwa [mrp.relay_toRingPart p fb type]
  process _ buf type h _ := process_noTc h buf type
  link _ p up h := portLinkChange_noTc h p up
  cfm mrp defect h := (mrp.cfmLinkChange_op defect).noTc_eq_false h
  operstate mrp p operstate h := by cases p <;> exact h
  portMac mrp p mac h := by cases p <;> exact h
  bridgeMac _ _ h := h

/-- A new instance starts without the flag. -/
theorem configure_noTc (env : Env) (a : AddArgs) : (configure env a).noTc = false := by
  have hrecovery : ∀ (m : Mrp) (ringRecv inRecv : UInt8),
      (m.updateRecovery env.timeFactor ringRecv inRecv).noTc = m.noTc := by
    intro m ringRecv inRecv
    unfold updateRecovery
    repeat' split
    all_goals rfl
  have hsettings : (applySettings env a).noTc = false := by
    simp [applySettings, create, setPrio, zeroed, hrecovery]
  have hports : ((applySettings env a).initPorts env a).noTc = false := by
    simp only [initPorts]
    split <;> exact hsettings
  simp only [configure]
  split
  · simp only [startCfm]
    split <;> exact hports
  · exact hports

section Construction

attribute [local simp] call clearFdbStop ringTopoStop ringLinkUpStop ringLinkDownStop ringTestStop
  inTopoStop inLinkUpStop inLinkDownStop inTestStop inLinkStatusStop cfmCcmStop

/-- The construction never leaves the flag set. -/
theorem noTc_keptByRoles : KeptByRoles fun mrp => mrp.noTc = false where
  mraSupport _ h := h
  resetRingState m h := by
    unfold resetRingState timerStop
    dsimp only
    repeat' split
    all_goals simpa using h
  setMrmInit _ _ := rfl
  setMrcInit _ h := h
  setMrmState _ _ := rfl
  setMrcState _ h := h
  portSetState m p state h := by
    unfold portSetState
    repeat' split
    all_goals exact h
  setRingRole _ _ h := h
  setInRole _ _ h := h
  portLinkChange _ p h := portLinkChange_noTc h p true
  cfmLinkChange m h := (m.cfmLinkChange_op false).noTc_eq_false h

end Construction

end Mrp

/-- No reachable instance has the flag set. -/
theorem Reachable.noTc {env : Env} {a : AddArgs} {mrp : Mrp} (h : Reachable env a mrp) :
    mrp.noTc = false :=
  h.invariant Mrp.noTc_keptByRoles Mrp.noTc_keptByHandlers (fun _ w hm _ => Mrp.expired_noTc hm w)
    (Mrp.configure_noTc env a)

/-! ## Openings -/

namespace Mrp

/-- The event requests a change of topology: a frame leaves through every ring port
whose link is up, and the flush is scheduled, or done at once if there is no interval. -/
structure RequestsTopology (mrp : Mrp) (e : Event) : Prop where
  sent : (mrp.step e).announced .ringTopo =
    (((mrp.step e).topoPorts .ring).map fun p =>
      (p, mrp.ringTopoConfInterval * mrp.ringTopoConfMax)).reverse ++ mrp.announced .ringTopo
  scheduled : mrp.ringTopoConfInterval ≠ 0 →
    (mrp.step e).ringTopoWork = .again mrp.ringTopoConfInterval
  flushed : mrp.ringTopoConfInterval = 0 → (mrp.step e).flushes ≠ mrp.flushes

/-- A manager goes from PRM_UP to CHK_RC because its secondary link comes up with `e`,
stays there while `es` happens, and opens the ring with the next expiry of the test timer. -/
structure OpensAfter (mrp : Mrp) (e : Event) (es : List Event) : Prop where
  role : mrp.ringRole = .mrm
  prmUp : mrp.mrmState = .prmUp
  link : ∃ r, r ≠ mrp.pPort ∧ mrp.ringEvent e = .link r true
  stays : Always step (fun m => m.ringRole = .mrm ∧ m.mrmState = .chkRc) (mrp.step e) es
  active : (run step (mrp.step e) es).ringTestWork.active = true
  opens : ((run step (mrp.step e) es).step (.expired .ringTest)).mrmState = .chkRo

/-- An own test frame was processed on the way. -/
def SeenClosed (mrp : Mrp) (es : List Event) : Prop :=
  true ∈ trace step (fun m e => m.handlesFrame m.isOwnTest e) mrp es

instance (mrp : Mrp) (es : List Event) : Decidable (SeenClosed mrp es) :=
  inferInstanceAs (Decidable (true ∈ _))

/-- A request of the round of the ring is a request of a topology change. -/
theorem requestsTopology_of_roundEvent {mrp : Mrp} {e : Event}
    (h : mrp.roundEvent .ring e = .request mrp.ringTopoConfInterval) : mrp.RequestsTopology e := by
  have htakes := mrp.step_takes .ring e
  rw [h] at htakes
  have hround := htakes.round
  constructor
  · have hsent := congrArg Round.sent hround
    simp only [Round.step, Round.request] at hsent
    split at hsent <;> exact hsent
  · intro hinterval
    have htimer := congrArg Round.timer hround
    simp only [Round.step, Round.request, if_neg hinterval] at htimer
    exact htimer
  · intro hzero
    have hflushes := htakes.flushes rfl
    rw [ne_eq, hflushes]
    simp [Round.Event.flushes, hzero]

/-- A manager that opens the ring with its test timer has reached the limit. -/
theorem limit_of_opens {mrp : Mrp} (hrole : mrp.ringRole = .mrm) (hstate : mrp.mrmState = .chkRc)
    (hopen : (mrp.step (.expired .ringTest)).mrmState = .chkRo) :
    mrp.ringTestCurr ≥ mrp.ringTestCurrMax := by
  by_contra hlimit
  have hsilent : mrp.ringEvent (.expired .ringTest) = .silent := by
    simp [ringEvent, timerEvent, hrole, hlimit]
  have hring := congrArg Ring.mrm (mrp.step_ring (.expired .ringTest))
  rw [hsilent] at hring
  exact absurd (hopen.symm.trans (hring.trans hstate)) (by decide)

/-- The last state of a stay. -/
theorem OpensAfter.last {mrp : Mrp} {e : Event} {es : List Event} (h : OpensAfter mrp e es) :
    (run step (mrp.step e) es).ringRole = .mrm ∧ (run step (mrp.step e) es).mrmState = .chkRc := by
  have hlast := always_iff_forall_take.mp h.stays es.length
  rwa [List.take_length] at hlast

end Mrp

/-- Every such opening requests a change of topology, whether the ring was seen closed or
not. -/
theorem Mrp.OpensAfter.requestsTopology {env : Env} {a : AddArgs} {mrp : Mrp} {e : Event}
    {es : List Event} (h : OpensAfter mrp e es) (hreach : Reachable env a mrp) :
    (run step (mrp.step e) es).RequestsTopology (.expired .ringTest) := by
  have hflag : (run step (mrp.step e) es).noTc = false := (hreach.goOn (e :: es)).noTc
  have hactive : ((run step (mrp.step e) es).timer .ringTest).active = true := h.active
  have hlimit := limit_of_opens h.last.1 h.last.2 h.opens
  refine requestsTopology_of_roundEvent ?_
  simp only [roundEvent, hactive, if_true, timerRound, h.last, hlimit, hflag, and_self]

/-- The announcement of an opening depends on a test frame in between exactly if there
was one. -/
theorem silent_opening_iff {env : Env} {a : AddArgs} {mrp : Mrp} (hreach : Reachable env a mrp)
    {e : Event} {es : List Event} (h : mrp.OpensAfter e es) :
    ((run Mrp.step (mrp.step e) es).RequestsTopology (.expired .ringTest) ↔
        Mrp.SeenClosed (mrp.step e) es) ↔
      Mrp.SeenClosed (mrp.step e) es := by
  have hrequest := h.requestsTopology hreach
  constructor
  · intro hiff
    exact hiff.mp hrequest
  · intro hseen
    exact ⟨fun _ => hseen, fun _ => hrequest⟩

namespace Sample

/-- A manager with one link, after the round that the loss of the other one started. -/
def settled : Mrp := run Mrp.step changed (List.replicate 3 (.expired .ringTopo))

theorem reachable_settled : Reachable env (args ringRoleMrm 0) settled :=
  reachable_changed.goOn _

end Sample

/-- A manager that processes an own test frame before it opens the ring. -/
theorem silent_opening_iff_sample :
    (run Mrp.step (Sample.settled.step (.linkChange (.ring .primary) true))
        (.recv (.ring .primary) (Sample.frame (Sample.mac 1) 0x8000 (.ringTest true 0 0)) ::
          List.replicate 4 (.expired .ringTest))).RequestsTopology (.expired .ringTest) := by
  have hseen : Mrp.SeenClosed (Sample.settled.step (.linkChange (.ring .primary) true))
      (.recv (.ring .primary) (Sample.frame (Sample.mac 1) 0x8000 (.ringTest true 0 0)) ::
        List.replicate 4 (.expired .ringTest)) := by
    decide +kernel
  refine ((silent_opening_iff Sample.reachable_settled ?_).mpr hseen).mpr hseen
  exact ⟨by decide +kernel, by decide +kernel, ⟨.primary, by decide +kernel, rfl⟩,
    by decide +kernel, by decide +kernel, by decide +kernel⟩

/-- A manager that processes no test frame between the two events announces the opening
nevertheless. -/
theorem silent_opening_announced :
    Reachable Sample.env (Sample.args ringRoleMrm 0) Sample.settled ∧
      Sample.settled.OpensAfter (.linkChange (.ring .primary) true)
        (List.replicate 4 (.expired .ringTest)) ∧
      ¬ ((run Mrp.step (Sample.settled.step (.linkChange (.ring .primary) true))
            (List.replicate 4 (.expired .ringTest))).RequestsTopology (.expired .ringTest) ↔
          Mrp.SeenClosed (Sample.settled.step (.linkChange (.ring .primary) true))
            (List.replicate 4 (.expired .ringTest))) := by
  have hopens : Sample.settled.OpensAfter (.linkChange (.ring .primary) true)
      (List.replicate 4 (.expired .ringTest)) :=
    ⟨by decide +kernel, by decide +kernel, ⟨.primary, by decide +kernel, rfl⟩,
      by decide +kernel, by decide +kernel, by decide +kernel⟩
  refine ⟨Sample.reachable_settled, hopens, ?_⟩
  intro hiff
  have hseen := hiff.mp (hopens.requestsTopology Sample.reachable_settled)
  exact absurd hseen (by decide +kernel)

end Umrp
