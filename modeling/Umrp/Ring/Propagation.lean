import Umrp.Codec
import Umrp.Ring.Record

/-!
# Announcing a new manager

A manager that gives up its role sends a propagate frame with the bridge it yields to,
so that the clients which follow it can follow the new manager.  A client looks whether
the frame carries its own address as the sender's.  No other bridge sends such a frame,
so no client follows.

Main results:

- Theorem `Mrp.recvPropagate_of_foreign`: a propagate frame of another bridge is ignored.
- Theorem `propagation_ignored`: a client of the old manager keeps following it.
-/

namespace Umrp

open Octets

namespace Mrp

/-- A propagate frame of another bridge is ignored. -/
theorem recvPropagate_of_foreign {mrp : Mrp} {buf : Buf}
    (h : TestMgrHdr.sa (subTlvBody buf) ≠ mrp.macaddr) : mrp.recvPropagate buf = mrp := by
  unfold recvPropagate
  dsimp only
  split
  · rfl
  · rw [if_pos (by simpa using h)]

/-- A propagate frame of another bridge changes nothing on the ring side of a receiver. -/
theorem recv_testProp_of_foreign {mrp : Mrp} {s : Sent} {rx : RxFrame} (h : s.ArrivesAs rx)
    {otherPrio : UInt16} {otherSa : Mac} (hframe : s.frame = .testProp otherPrio otherSa)
    (hsa : s.sa ≠ mrp.macaddr) (p : Port) : (mrp.recv p rx).toRingPart = mrp.toRingPart := by
  have hbuf := handlerBuf_starts h mrp p
  have htype : getTlvType rx.frameBuf.data = .option := by
    rw [getTlvType_of_starts h.data, hframe]
    rfl
  cases hdel : mrp.delivered p rx with
  | none =>
      rcases recv_of_not_delivered hdel with hrecv | hrecv
      · rw [hrecv]
      · rw [hrecv, relay_toRingPart]
  | some x =>
      rcases x with ⟨type, buf⟩
      rcases mrp.eq_of_delivered hdel with ⟨-, rfl, rfl⟩
      rw [(recv_of_delivered hdel).2, htype]
      have hsub := testProp_of_starts hbuf hframe
      have hnack : subTlvTestPropagate ≠ subTlvTestMgrNack := by decide
      simp only [process, recvOption, hsub, if_neg hnack, if_true]
      rw [recvPropagate_of_foreign, relay_toRingPart]
      rw [relay_macaddr, (testPropHdr_of_starts hbuf hframe).2.1]
      exact hsa

end Mrp

/-- The client `z` follows the manager `x`.  A NACK of `y` makes `x` yield, and `x` sends
the propagate frame `prop` with what it has recorded by then. -/
structure Succession (x y z : Mrp) (p : Port) (nack : RxFrame) (prop : Sent) : Prop where
  support : x.mraSupport = true ∧ y.mraSupport = true ∧ z.mraSupport = true
  distinct : x.macaddr ≠ y.macaddr ∧ x.macaddr ≠ z.macaddr ∧ y.macaddr ≠ z.macaddr
  client : z.ringRole = .mrc
  follows : z.record = (x.prio, x.macaddr)
  nacked : ∃ s : Sent, s.prio = y.prio ∧ s.sa = y.macaddr ∧ s.frame = .testMgrNack x.macaddr ∧
    s.ArrivesAs nack
  yields : x.ringRole = .mrm ∧ (x.recv p nack).ringRole = .mrc
  sent : prop ∈ (x.recv p nack).sent
  header : prop.prio = x.prio ∧ prop.sa = x.macaddr ∧
    prop.frame = .testProp (x.recv p nack).ringPrio (x.recv p nack).ringMac

/-- The client of a manager that yields does not learn about the new one.  Whichever port
the propagate frame comes in through, the client goes on following the old manager. -/
theorem propagation_ignored {x y z : Mrp} {p : Port} {nack : RxFrame} {prop : Sent}
    (h : Succession x y z p nack prop) {rx : RxFrame} (hrx : prop.ArrivesAs rx) (q : Port) :
    (z.recv q rx).record = (x.prio, x.macaddr) ∧
      ¬((z.recv q rx).ringMac = y.macaddr ∧ (z.recv q rx).ringPrio = y.prio ∧
        (z.recv q rx).ringMonCurr = 0) := by
  rcases h.header with ⟨-, hsa, hframe⟩
  have hforeign : prop.sa ≠ z.macaddr := by
    rw [hsa]
    exact h.distinct.2.1
  have hring := Mrp.recv_testProp_of_foreign hrx hframe hforeign q
  have hrecord : (z.recv q rx).record = (x.prio, x.macaddr) := by
    rw [Mrp.record_congr hring]
    exact h.follows
  refine ⟨hrecord, ?_⟩
  rintro ⟨hmac, -, -⟩
  have hold : (z.recv q rx).ringMac = x.macaddr := congrArg Prod.snd hrecord
  exact h.distinct.1 (hold.symm.trans hmac)

namespace Sample

/-- An auto-manager of another bridge. -/
def bridge (ifindex : UInt32) (prio : UInt16) : Mrp :=
  (firstInstance env { args ringRoleMra 0 with brIfindex := ifindex, prio := prio }).1

/-- A NACK of bridge 9 for bridge 1. -/
def nackFor1 : RxFrame := frame (mac 9) 0x1000 (.testMgrNack (mac 1))

/-- Bridge 8 after a NACK of bridge 1 has made it a client. -/
def follower1 : Mrp :=
  (bridge 8 0x9000).recv (.ring .primary) (frame (mac 1) 0x8000 (.testMgrNack (mac 8)))

/-- Bridge 1 after it has yielded to bridge 9. -/
def yielded : Mrp := (bridge 1 0x8000).recv (.ring .primary) nackFor1

/-- The last propagate frame of bridge 1. -/
def propagate : Sent := yielded.sent.head (by decide +kernel)

/-- The propagate frame on the wire. -/
def propagateRx : RxFrame := ⟨propagate.bytes, fun _ => 0, fun _ => 0⟩

theorem succession :
    Succession (bridge 1 0x8000) (bridge 9 0x1000) follower1 (.ring .primary) nackFor1 propagate where
  support := by decide +kernel
  distinct := by decide +kernel
  client := by decide +kernel
  follows := by decide +kernel
  nacked := ⟨_, by decide +kernel, by decide +kernel, by decide +kernel, rfl⟩
  yields := by decide +kernel
  sent := List.head_mem _
  header := by decide +kernel

end Sample

/-- Bridge 8 goes on following bridge 1. -/
theorem propagation_ignored_sample :
    (Sample.follower1.recv (.ring .secondary) Sample.propagateRx).record =
      (0x8000, Sample.mac 1) := by
  have harrives : Sample.propagate.ArrivesAs Sample.propagateRx := rfl
  exact (propagation_ignored Sample.succession harrives (.ring .secondary)).1

/-- Bridge 1 has yielded to bridge 9, and bridge 8 does not follow. -/
theorem client_not_told :
    Succession (Sample.bridge 1 0x8000) (Sample.bridge 9 0x1000) Sample.follower1 (.ring .primary)
        Sample.nackFor1 Sample.propagate ∧
      Sample.propagate.ArrivesAs Sample.propagateRx ∧
      ¬((Sample.follower1.recv (.ring .secondary) Sample.propagateRx).ringMac =
          (Sample.bridge 9 0x1000).macaddr ∧
        (Sample.follower1.recv (.ring .secondary) Sample.propagateRx).ringPrio =
          (Sample.bridge 9 0x1000).prio ∧
        (Sample.follower1.recv (.ring .secondary) Sample.propagateRx).ringMonCurr = 0) :=
  ⟨Sample.succession, rfl, by decide +kernel⟩

end Umrp
