import Umrp.Recovery
import Umrp.Ring.TestTimer

/-!
# The recorded manager

An auto-manager records which bridge it takes for the manager, as a priority and an
address.  A NACK and a propagate frame write both.  A client that sees the test frame of
a bridge other than the recorded one writes the priority alone, and in network order, so
that it keeps the priority of one bridge next to the address of another.

Main results:

- Theorem `Mrp.step_record`: what a step can record.
- Theorem `record_of_one_frame`: in a run without such a test frame the recorded pair is
  the initial one or comes from one received frame.
-/

namespace Umrp

open Octets EventMachine

namespace Mrp

/-- The recorded manager. -/
def record (mrp : Mrp) : UInt16 × Mac := (mrp.ringPrio, mrp.ringMac)

/-- The bridge that a frame names as a manager: the sender of a test frame or of a NACK,
and the bridge that a propagate frame announces. -/
def namedByFrame (type : TlvType) (buf : Buf) : List (UInt16 × Mac) :=
  match type with
  | .ringTest => [(RingTestHdr.prio (tlvBody buf), RingTestHdr.sa (tlvBody buf))]
  | .option =>
      let hdr := subTlvBody (subTlv buf)
      if subTlv buf 0 = subTlvTestMgrNack then [(TestMgrHdr.prio hdr, TestMgrHdr.sa hdr)]
      else if subTlv buf 0 = subTlvTestPropagate then
        [(TestMgrHdr.otherPrio hdr, TestMgrHdr.otherSa hdr)]
      else []
  | _ => []

/-- The bridges that an event names. -/
def namedByEvent (mrp : Mrp) : Event → List (UInt16 × Mac)
  | .recv p rx =>
      match mrp.delivered p rx with
      | some (type, buf) => namedByFrame type buf
      | none => []
  | _ => []

/-- A client stores the priority of a bridge that it does not record, as the host loads
it, and this differs from what it has stored. -/
def storesPrioAlone (mrp : Mrp) (type : TlvType) (buf : Buf) : Bool :=
  type = .ringTest && mrp.mraSupport && mrp.ringRole = .mrc &&
    !etherAddrEqual (RingTestHdr.sa (tlvBody buf)) mrp.macaddr &&
    !etherAddrEqual (RingTestHdr.sa (tlvBody buf)) mrp.ringMac &&
    (tlvBody buf).le16 0 ≠ mrp.ringPrio

/-- The record of an instance with the same ring side. -/
theorem record_congr {a b : Mrp} (h : b.toRingPart = a.toRingPart) : b.record = a.record := by
  unfold record
  rw [h]

attribute [local simp] call flush ringTestStart ringTestStop ringTopoStart ringTopoStop
  ringLinkUpStart ringLinkUpStop ringLinkDownStart ringLinkDownStop

attribute [local simp] portSetState_ring RingPart.setPortState setRingRole setMrmInit setMrcInit
  setMrmState setMrcState promote demote restartTestCount noteRingLink setAddTest setNoTc
  nextRingTransition setRingTestCurr setRingTestCurrMax resetRingTestCount setRingMonCurr
  setRingPrio setRingMac setRingTopoCurrMax setRingLinkCurrMax

attribute [local simp] sendRingTest ringTestSend ringTestReq sendRingTopo ringTopoSend
  ringLinkReq sendTestMgrNack testMgrNackReq sendTestProp testPropReq

section Handlers

variable (mrp : Mrp)

@[local simp]
theorem ringTopoReq_ringPrio (time : UInt32) : (mrp.ringTopoReq time).ringPrio = mrp.ringPrio := by
  rcases mrp.ringTopoReq_eq time with ⟨_, _, h⟩
  rw [h]

@[local simp]
theorem ringTopoReq_ringMac (time : UInt32) : (mrp.ringTopoReq time).ringMac = mrp.ringMac := by
  rcases mrp.ringTopoReq_eq time with ⟨_, _, h⟩
  rw [h]

attribute [local simp] record

/-! ## Handlers that leave the record alone -/

theorem mrmPortLink_record (r : RingPort) (up : Bool) :
    (mrp.mrmPortLink r up).record = mrp.record := by
  unfold mrmPortLink
  cases mrp.mrmState <;> dsimp only <;> split_ifs <;> simp

theorem mrcPortLink_record (r : RingPort) (up : Bool) :
    (mrp.mrcPortLink r up).record = mrp.record := by
  unfold mrcPortLink
  cases mrp.mrcState <;> dsimp only <;> split_ifs <;> simp

theorem mrmRecvRingTest_record : mrp.mrmRecvRingTest.record = mrp.record := by
  unfold mrmRecvRingTest
  cases mrp.mrmState <;> simp

theorem recvRingTopo_record (buf : Buf) : (mrp.recvRingTopo buf).record = mrp.record := by
  unfold recvRingTopo mraRecvRingTopo mrcRecvRingTopo
  cases mrp.mrcState <;> dsimp only <;> split_ifs <;> simp

theorem recvRingLink_record (buf : Buf) : (mrp.recvRingLink buf).record = mrp.record := by
  unfold recvRingLink
  cases mrp.mrmState <;> dsimp only <;> (try split_ifs) <;> simp

theorem yieldRole_record : mrp.yieldRole.record = mrp.record := by
  unfold yieldRole enterClient
  cases h : mrp.mrmState <;> simp [h]

theorem ringTestExpired_record : mrp.ringTestExpired.record = mrp.record := by
  unfold ringTestExpired mrcRingTestExpired enterManager mrmRingTestExpired
  split
  · split
    · simp
    · cases h : mrp.mrcState <;> simp [h]
  · split
    · cases mrp.mrmState <;> dsimp only <;> (try split_ifs) <;> simp
    · rfl

/-- The callbacks of the timers. -/
theorem expired_record (w : TimerId) : (mrp.expired w).record = mrp.record := by
  cases w with
  | clearFdb => rfl
  | ringTopo =>
      simp only [expired, ringTopoExpired]
      split <;> simp
  | ringTest => exact mrp.ringTestExpired_record
  | ringLinkUp =>
      simp only [expired, ringLinkUpExpired]
      split <;> simp
  | ringLinkDown =>
      simp only [expired, ringLinkDownExpired]
      split <;> simp
  | inTest => exact record_congr mrp.inTestExpired_op.toRingPart
  | inTopo => exact record_congr mrp.inTopoExpired_op.toRingPart
  | inLinkUp => exact record_congr mrp.inLinkUpExpired_op.toRingPart
  | inLinkDown => exact record_congr mrp.inLinkDownExpired_op.toRingPart
  | inLinkStatus => exact record_congr mrp.inLinkStatusExpired_op.toRingPart
  | cfmCcm => rfl

/-- Link events. -/
theorem portLinkChange_record (p : Port) (up : Bool) :
    (mrp.portLinkChange p up).record = mrp.record := by
  cases p with
  | inter => exact record_congr (mrp.portLinkChange_inter_op up).toRingPart
  | ring r =>
      simp only [portLinkChange]
      cases (mrp.noteRingLink r up).ringRole with
      | mrm => exact mrmPortLink_record _ r up
      | mrc => exact mrcPortLink_record _ r up
      | disabled => rfl
      | mra => rfl

/-- Netlink notifications. -/
theorem netlinkOperstate_record (p : Port) (state : UInt8) :
    (mrp.netlinkOperstate p state).record = mrp.record := by
  have hset : ∀ operstate, (mrp.setOperstate p operstate).record = mrp.record := by
    intro operstate
    cases p <;> rfl
  unfold netlinkOperstate
  split
  · rfl
  · split
    · rfl
    · dsimp only
      split
      · rw [portLinkChange_record]
        exact hset _
      · exact hset _

/-! ## Handlers that record -/

/-- Test frames. -/
theorem recvRingTest_record (buf : Buf) (h : mrp.storesPrioAlone .ringTest buf = false) :
    (mrp.recvRingTest buf).record = mrp.record := by
  simp only [recvRingTest]
  split
  · exact mrp.mrmRecvRingTest_record
  next hown =>
    split
    next hmra =>
      unfold mraRecvRingTest
      cases hrole : mrp.ringRole with
      | mrm =>
          dsimp only
          split <;> simp
      | mrc =>
          dsimp only
          split
          · rfl
          next hmac =>
            have hsame : (tlvBody buf).le16 0 = mrp.ringPrio := by
              simpa [storesPrioAlone, hmra, hrole, hown, hmac] using h
            split <;> simp [hsame]
      | disabled => rfl
      | mra => rfl
    · rfl

/-- A NACK records its sender or nothing. -/
theorem recvNack_record (buf : Buf) :
    (mrp.recvNack buf).record = mrp.record ∨
      (mrp.recvNack buf).record =
        (TestMgrHdr.prio (subTlvBody buf), TestMgrHdr.sa (subTlvBody buf)) := by
  simp only [recvNack]
  split_ifs
  · exact .inl rfl
  · exact .inl rfl
  · rw [yieldRole_record, recordHost]
    split
    · exact .inr rfl
    · exact .inl rfl
  · exact .inl rfl

/-- A propagate frame records the bridge that it announces or nothing. -/
theorem recvPropagate_record (buf : Buf) :
    (mrp.recvPropagate buf).record = mrp.record ∨
      (mrp.recvPropagate buf).record =
        (TestMgrHdr.otherPrio (subTlvBody buf), TestMgrHdr.otherSa (subTlvBody buf)) := by
  simp only [recvPropagate]
  split_ifs
  · exact .inl rfl
  · exact .inl rfl
  · exact .inr rfl
  · exact .inl rfl

/-- The handlers of received frames. -/
theorem process_record (buf : Buf) (type : TlvType) (h : mrp.storesPrioAlone type buf = false) :
    (mrp.process buf type).record = mrp.record ∨
      (mrp.process buf type).record ∈ namedByFrame type buf := by
  cases type with
  | ringTest => exact .inl (mrp.recvRingTest_record buf h)
  | ringTopo => exact .inl (mrp.recvRingTopo_record buf)
  | ringLinkDown => exact .inl (mrp.recvRingLink_record buf)
  | ringLinkUp => exact .inl (mrp.recvRingLink_record buf)
  | option =>
      simp only [process, recvOption, namedByFrame]
      split
      · rw [List.mem_singleton]
        exact mrp.recvNack_record _
      · split
        · rw [List.mem_singleton]
          exact mrp.recvPropagate_record _
        · exact .inl rfl
  | inTest => exact .inl (record_congr (mrp.recvInTest_op buf).toRingPart)
  | inTopo =>
      left
      simp only [process, recvInTopo]
      rw [record_congr (inTopoByRole_op _ _ _).toRingPart, restartRingTopo]
      split <;> simp
  | inLinkDown => exact .inl (record_congr (mrp.recvInLink_op buf).toRingPart)
  | inLinkUp => exact .inl (record_congr (mrp.recvInLink_op buf).toRingPart)
  | inLinkStatus => exact .inl (record_congr (mrp.recvInLinkStatus_op buf).toRingPart)
  | tlvEnd => exact .inl rfl
  | common => exact .inl rfl
  | unknown => exact .inl rfl

/-- Unless a client stores a priority alone, a step keeps the record or takes it from the
frame that it handles. -/
theorem step_record (e : Event) (h : mrp.handlesFrame mrp.storesPrioAlone e = false) :
    (mrp.step e).record = mrp.record ∨ (mrp.step e).record ∈ mrp.namedByEvent e := by
  cases e with
  | recv p rx =>
      cases hdel : mrp.delivered p rx with
      | none =>
          left
          rcases recv_of_not_delivered hdel with hrecv | hrecv
          · rw [step, hrecv]
          · rw [step, hrecv, record_congr (mrp.relay_toRingPart p _ _)]
      | some x =>
          rcases x with ⟨type, buf⟩
          simp only [handlesFrame, hdel] at h
          simp only [namedByEvent, hdel]
          rw [step, (recv_of_delivered hdel).2]
          have hring := mrp.relay_toRingPart p rx.frameBuf type
          have hconf := mrp.relay_toMrpConf p rx.frameBuf type
          have hmac := mrp.relay_macaddr p rx.frameBuf type
          rw [← record_congr hring]
          apply process_record
          rw [← h]
          unfold storesPrioAlone
          rw [hring, hconf, hmac]
  | linkChange p up =>
      left
      simp only [step]
      split
      · exact mrp.portLinkChange_record p up
      · rfl
  | operstate p state => exact .inl (mrp.netlinkOperstate_record p state)
  | cfmLinkChange defect => exact .inl (record_congr (mrp.cfmLinkChange_op defect).toRingPart)
  | portMac p mac => cases p <;> exact .inl rfl
  | bridgeMac mac => exact .inl rfl
  | expired w =>
      left
      simp only [step]
      split
      · exact mrp.expired_record w
      · rfl

end Handlers

/-! ## New instances -/

section Construction

attribute [local simp] call clearFdbStop ringTopoStop ringLinkUpStop ringLinkDownStop ringTestStop
  inTopoStop inLinkUpStop inLinkDownStop inTestStop inLinkStatusStop cfmCcmStop

/-- Setting roles records nothing. -/
theorem record_keptByRoles (x : UInt16 × Mac) : KeptByRoles fun mrp => mrp.record = x where
  mraSupport _ h := h
  resetRingState m h := by
    unfold resetRingState timerStop
    dsimp only
    repeat' split
    all_goals simpa [record] using h
  setMrmInit _ h := h
  setMrcInit _ h := h
  setMrmState _ h := h
  setMrcState _ h := h
  portSetState m p state h := by
    cases p with
    | ring r => exact h
    | inter => rwa [record_congr (m.portSetState_inter_toRingPart state)]
  setRingRole _ _ h := h
  setInRole _ _ h := h
  portLinkChange m p h := (m.portLinkChange_record p true).trans h
  cfmLinkChange m h := (record_congr (m.cfmLinkChange_op false).toRingPart).trans h

end Construction

/-- A new instance records its own priority and no address. -/
theorem configure_record (env : Env) (a : AddArgs) : (configure env a).record = (a.prio, .zero) := by
  have hrecovery : ∀ (m : Mrp) (ringRecv inRecv : UInt8) (x : UInt16 × Mac), m.record = x →
      (m.updateRecovery env.timeFactor ringRecv inRecv).record = x := by
    intro m ringRecv inRecv x hm
    unfold updateRecovery
    repeat' split
    all_goals exact hm
  have hcreate : (create env a.brIfindex a.ringNr a.inId).record = (0, .zero) :=
    hrecovery _ 0 0 _ rfl
  have hprio : ((create env a.brIfindex a.ringNr a.inId).setPrio a.prio).record =
      (a.prio, .zero) := by
    have hmac : (create env a.brIfindex a.ringNr a.inId).ringMac = .zero :=
      congrArg Prod.snd hcreate
    exact Prod.ext rfl hmac
  have hsettings : (applySettings env a).record = (a.prio, .zero) := hrecovery _ _ _ _ hprio
  have hports : ((applySettings env a).initPorts env a).record = (a.prio, .zero) := by
    simp only [initPorts]
    split <;> exact hsettings
  simp only [configure]
  split
  · simp only [startCfm]
    split <;> exact hports
  · exact hports

end Mrp

/-- The record of a created instance. -/
theorem Created.record {env : Env} {a : AddArgs} {mrp : Mrp} (h : Created env a mrp) :
    mrp.record = (a.prio, .zero) :=
  (Mrp.record_keptByRoles _).created (Mrp.configure_record env a) h

/-- The record of a run.  As long as no client stores the priority of a bridge that it does
not record, the recorded pair of priority and address is in every state the initial one,
or that of one bridge which one received frame names. -/
theorem record_of_one_frame {env : Env} {a : AddArgs} {mrp : Mrp} (h : Created env a mrp)
    {es : List Event}
    (hes : Guarded Mrp.step (fun m e => m.handlesFrame m.storesPrioAlone e = false) mrp es)
    (k : Nat) :
    (run Mrp.step mrp (es.take k)).record = (a.prio, .zero) ∨
      (run Mrp.step mrp (es.take k)).record ∈
        (trace Mrp.step Mrp.namedByEvent mrp (es.take k)).flatten := by
  have hrun := run_trace_invariant Mrp.namedByEvent
    (I := fun l m => m.record = (a.prio, .zero) ∨ m.record ∈ l.flatten) ?_ (l := [])
    (.inl h.record) (hes.take k)
  · simpa using hrun
  · intro l m e hm hg
    rw [List.flatten_append, List.mem_append]
    rcases m.step_record e hg with hsame | hnamed
    · rw [hsame]
      rcases hm with hinit | hold
      · exact .inl hinit
      · exact .inr (.inl hold)
    · exact .inr (.inr (by simpa using hnamed))

namespace Sample

/-- A NACK of bridge 9, and a test frame of bridge 5 after it. -/
def demotedThenTested : List Event :=
  [.recv (.ring .primary) (frame (mac 9) 0x1000 (.testMgrNack (mac 1))),
    .recv (.ring .primary) (frame (mac 5) 0x2000 (.ringTest false 0 0))]

end Sample

/-- The sample auto-manager records the sender of the NACK. -/
theorem record_of_one_frame_sample :
    (run Mrp.step (Sample.mrp ringRoleMra 0) (Sample.demotion.take 1)).record ∈
      (trace Mrp.step Mrp.namedByEvent (Sample.mrp ringRoleMra 0)
        (Sample.demotion.take 1)).flatten := by
  have hcr : Created Sample.env (Sample.args ringRoleMra 0) (Sample.mrp ringRoleMra 0) :=
    Sample.created (by decide +kernel)
  exact (record_of_one_frame hcr (by decide +kernel) 1).resolve_left (by decide +kernel)

/-- The test frame of bridge 5 leaves the sample auto-manager with the priority of that
bridge, its octets exchanged, next to the address of bridge 9. -/
theorem record_mixes_bridges :
    Created Sample.env (Sample.args ringRoleMra 0) (Sample.mrp ringRoleMra 0) ∧
      (run Mrp.step (Sample.mrp ringRoleMra 0) Sample.demotedThenTested).record =
        (0x0020, Sample.mac 9) ∧
      ¬((run Mrp.step (Sample.mrp ringRoleMra 0) Sample.demotedThenTested).record =
          ((Sample.args ringRoleMra 0).prio, .zero) ∨
        (run Mrp.step (Sample.mrp ringRoleMra 0) Sample.demotedThenTested).record ∈
          (trace Mrp.step Mrp.namedByEvent (Sample.mrp ringRoleMra 0)
            Sample.demotedThenTested).flatten) :=
  ⟨Sample.created (by decide +kernel), by decide +kernel, by decide +kernel⟩

end Umrp
