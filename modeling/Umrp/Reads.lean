import Umrp.Lib.Reading
import Umrp.Model.Dispatch

/-!
# What the receive path reads

The functions between the socket and the end of a handler once more, as computations
that ask for the octets they look at.  Addresses count from the version field on, where
both `fb->data` and the handlers' own buffer start.  Each computation asks for a field
where the source loads it, and only on the paths on which the source loads it; its result
is the result of the function it stands for, so nothing the function depends on is missing
from its log.

Main results:

- Theorem `Mrp.eval_readTargets`: the relay decision.
- Theorem `Mrp.eval_readProcess`: the handlers.
-/

namespace Umrp

open Octets Reading

/-! ## Fields -/

/-- Ask for an Ethernet address. -/
def readMac (off : Nat) : Reading Mac := do
  let b0 ← octetAt off
  let b1 ← octetAt (off + 1)
  let b2 ← octetAt (off + 2)
  let b3 ← octetAt (off + 3)
  let b4 ← octetAt (off + 4)
  let b5 ← octetAt (off + 5)
  return ⟨b0, b1, b2, b3, b4, b5⟩

@[simp]
theorem eval_readMac (off : Nat) (b : Buf) : (readMac off).eval b = macAt b off :=
  (rfl)

@[simp]
theorem within_readMac (off : Nat) {b : Buf} {n : Nat} :
    (readMac off).Within b n ↔ off + 5 < n := by
  simp only [readMac, within_bind, within_octetAt, within_pure, and_true]
  omega

/-- The address of a field behind the TLV header. -/
def bodyOff (off : Nat) : Nat := sizeofVersion + sizeofTlvHdr + off

/-- The address of a field of a sub-TLV, its header included. -/
def subTlvOff (off : Nat) : Nat :=
  sizeofVersion + sizeofTlvHdr + sizeofOuiHdr + sizeofSubOptHdr + off

/-- The address of a field behind the header of a sub-TLV. -/
def subBodyOff (off : Nat) : Nat := subTlvOff (sizeofSubTlvHdr + off)

/-- Ask for the type of the frame. -/
def readType : Reading TlvType := do
  let type ← octetAt sizeofVersion
  return TlvType.ofUInt8 type

namespace Mrp

/-! ## Relay decision -/

/-- The first switch of `mrp_check_and_forward` for interconnection frames. -/
def readTargetsByRing (mrp : Mrp) (p : Port) : Reading Targets :=
  let t := mrp.ingressTargets p
  match mrp.ringRole with
  | .mrm =>
      if (mrp.pState ≠ .forwarding ∨ mrp.sState ≠ .forwarding) ∧ p.isRingPort = true then
        return t.noRing
      else return t
  | .mrc =>
      if mrp.inRole ≠ .disabled then do
        let id ← be16At (bodyOff 0)
        if mrp.inId = id ∧ p.isRingPort = true then return t.noRing else return t
      else return t
  | .disabled | .mra => return t

/-- The second switch of `mrp_check_and_forward` for interconnection frames. -/
def readTargetsByIn (mrp : Mrp) (p : Port) (type : TlvType) (t : Targets) : Reading Targets :=
  match mrp.inRole with
  | .mim =>
      if type = .inTest then do
        let sa ← readMac (bodyOff 2)
        if etherAddrEqual sa mrp.macaddr then return .none
        else if p.isInPort then return .none
        else return t.noInter
      else if p.isInPort then return .none
      else return t.noInter
  | .mic =>
      if type = .inTest then return t
      else if (type = .inLinkUp ∨ type = .inLinkDown) ∧ p.isRingPort = true then return t
      else if type = .inLinkStatus ∧ p.isRingPort = true then return t.noRing
      else if type = .inTopo then return t.noInter
      else return .none
  | .disabled => return t

/-- The decision of `mrp_check_and_forward`. -/
def readTargets (mrp : Mrp) (p : Port) (type : TlvType) : Reading Targets :=
  if type.isRingFrame then return mrp.ringTargets p type
  else if type.isInFrame then do
    let t ← mrp.readTargetsByRing p
    mrp.readTargetsByIn p type t
  else return mrp.ingressTargets p

theorem eval_readTargetsByRing (mrp : Mrp) (p : Port) (b : Buf) :
    (mrp.readTargetsByRing p).eval b = mrp.inTargetsByRing p (tlvBody b) := by
  unfold readTargetsByRing inTargetsByRing
  have hid : InTestHdr.id (tlvBody b) = b.be16 (bodyOff 0) := rfl
  cases mrp.ringRole with
  | mrm => simp
  | mrc =>
      rw [hid]
      by_cases hrole : mrp.inRole = .disabled <;> simp [hrole]
  | disabled => rfl
  | mra => rfl

/-- The computation decides what `mrp_check_and_forward` decides. -/
@[simp]
theorem eval_readTargets (mrp : Mrp) (p : Port) (type : TlvType) (b : Buf) :
    (mrp.readTargets p type).eval b = mrp.targets p b type := by
  have hsa : InTestHdr.sa (tlvBody b) = macAt b (bodyOff 2) := rfl
  unfold readTargets targets
  simp only [eval_ite, eval_bind, eval_pure, eval_readTargetsByRing, inTargets, readTargetsByIn,
    hsa]
  cases mrp.inRole <;> simp

/-! ## Handlers -/

/-- The source's `mrp_better_than_own`. -/
def readBetterThanOwn (mrp : Mrp) : Reading Bool := do
  let prio ← be16At (bodyOff 0)
  if prio < mrp.prio then return true
  else if prio = mrp.prio then do
    let sa ← readMac (bodyOff 2)
    return etherAddrToU64 sa < etherAddrToU64 mrp.macaddr
  else return false

/-- The source's `mrp_mra_recv_ring_test`. -/
def readMraRingTest (mrp : Mrp) : Reading Mrp :=
  match mrp.ringRole with
  | .mrm => do
      if ← mrp.readBetterThanOwn then return mrp
      else do
        let sa ← readMac (bodyOff 2)
        return mrp.testMgrNackReq sa
  | .mrc => do
      let sa ← readMac (bodyOff 2)
      if etherAddrEqual sa mrp.ringMac then return mrp
      else do
        let better ← mrp.readBetterThanOwn
        let prio ← le16At (bodyOff 0)
        return (if better then mrp.setRingMonCurr 0 else mrp).setRingPrio prio
  | .disabled | .mra => return mrp

/-- The source's `mrp_recv_ring_test`. -/
def readRingTest (mrp : Mrp) : Reading Mrp := do
  let sa ← readMac (bodyOff 2)
  if etherAddrEqual sa mrp.macaddr then return mrp.mrmRecvRingTest
  else if mrp.mraSupport then mrp.readMraRingTest
  else return mrp

/-- The source's `mrp_mra_recv_ring_topo`. -/
def readMraRingTopo (mrp : Mrp) : Reading Mrp := do
  let sa ← readMac (bodyOff 2)
  if etherAddrEqual sa mrp.macaddr then return mrp
  else do
    let interval ← be16At (bodyOff 8)
    return mrp.clearFdbStart (intervalUs interval)

/-- The source's `mrp_mrc_recv_ring_topo`. -/
def readMrcRingTopo (mrp : Mrp) : Reading Mrp :=
  match mrp.mrcState with
  | .acStat1 => return mrp
  | .deIdle | .ptIdle => do
      let interval ← be16At (bodyOff 8)
      return mrp.clearFdbStart (intervalUs interval)
  | .pt => do
      let interval ← be16At (bodyOff 8)
      return mrp.setRingLinkCurrMax mrp.ringLinkConfMax
        |>.ringLinkUpStop
        |>.portSetState (.ring mrp.sPort) .forwarding
        |>.clearFdbStart (intervalUs interval)
        |>.setMrcState .ptIdle
  | .de => do
      let interval ← be16At (bodyOff 8)
      return mrp.setRingLinkCurrMax mrp.ringLinkConfMax
        |>.ringLinkDownStop
        |>.clearFdbStart (intervalUs interval)
        |>.setMrcState .deIdle

/-- The source's `mrp_recv_ring_topo`. -/
def readRingTopo (mrp : Mrp) : Reading Mrp :=
  if mrp.mraSupport = true ∧ mrp.ringRole = .mrm then mrp.readMraRingTopo
  else mrp.readMrcRingTopo

/-- The source's `mrp_better_than_host`. -/
def readBetterThanHost (mrp : Mrp) : Reading Bool := do
  let prio ← be16At (subBodyOff 0)
  if prio < mrp.ringPrio then return true
  else if prio = mrp.ringPrio then do
    let sa ← readMac (subBodyOff 2)
    return etherAddrToU64 sa < etherAddrToU64 mrp.ringMac
  else return false

/-- The part of `mrp_recv_nack` that records the sender as the manager. -/
def readHost (mrp : Mrp) : Reading Mrp := do
  if ← mrp.readBetterThanHost then do
    let prio ← be16At (subBodyOff 0)
    let sa ← readMac (subBodyOff 2)
    return (mrp.setRingPrio prio).setRingMac sa
  else return mrp

/-- The source's `mrp_recv_nack`. -/
def readNack (mrp : Mrp) : Reading Mrp :=
  if mrp.ringRole = .mrc then return mrp
  else do
    let sa ← readMac (subBodyOff 2)
    if etherAddrEqual sa mrp.macaddr then return mrp
    else do
      let otherSa ← readMac (subBodyOff 10)
      if ¬ etherAddrEqual otherSa mrp.macaddr then return mrp
      else do
        let mrp ← mrp.readHost
        return mrp.yieldRole

/-- The source's `mrp_recv_propagate`. -/
def readPropagate (mrp : Mrp) : Reading Mrp :=
  if mrp.ringRole = .mrm then return mrp
  else do
    let sa ← readMac (subBodyOff 2)
    if ¬ etherAddrEqual sa mrp.macaddr then return mrp
    else do
      let otherPrio ← be16At (subBodyOff 8)
      let prio ← be16At (subBodyOff 0)
      if otherPrio ≠ prio then return mrp
      else do
        let otherSa ← readMac (subBodyOff 10)
        return mrp.setRingPrio otherPrio
          |>.setRingMac otherSa
          |>.setRingMonCurr 0

/-- The source's `mrp_recv_option`. -/
def readOption (mrp : Mrp) : Reading Mrp := do
  let type ← octetAt (subTlvOff 0)
  if type = subTlvTestMgrNack then mrp.readNack
  else if type = subTlvTestPropagate then mrp.readPropagate
  else return mrp

/-- The source's `mrp_recv_in_test`. -/
def readInTest (mrp : Mrp) : Reading Mrp := do
  let id ← be16At (bodyOff 0)
  if mrp.inId ≠ id then return mrp else return mrp.mimRecvInTest

/-- The first part of `mrp_recv_in_topo`. -/
def readRestartRingTopo (mrp : Mrp) : Reading Mrp :=
  if mrp.ringRole = .mrm ∧ mrp.ringTopoRunning = false then do
    let interval ← be16At (bodyOff 8)
    return mrp.ringTopoReq (intervalUs interval)
  else return mrp

/-- The second part of `mrp_recv_in_topo`. -/
def readInTopoByRole (mrp : Mrp) : Reading Mrp :=
  match mrp.inRole with
  | .mim => do
      let sa ← readMac (bodyOff 0)
      if etherAddrEqual sa mrp.macaddr then return mrp
      else do
        let interval ← be16At (bodyOff 8)
        return mrp.clearFdbStart (intervalUs interval)
  | .mic =>
      match mrp.micState with
      | .acStat1 => do
          let id ← be16At (bodyOff 6)
          if id = mrp.inId then return mrp.inLinkDownStop else return mrp
      | .pt =>
          return mrp.setInLinkCurrMax mrp.inLinkConfMax
            |>.inLinkUpStop
            |>.portSetState .inter .forwarding
            |>.setMicState .ipIdle
      | .ipIdle => return mrp
  | .disabled => return mrp

/-- The source's `mrp_recv_in_topo`. -/
def readInTopo (mrp : Mrp) : Reading Mrp := do
  let mrp ← mrp.readRestartRingTopo
  mrp.readInTopoByRole

/-- The source's `mrp_recv_ring_link`.  Of the frame it looks at the type only. -/
def readRingLink (mrp : Mrp) : Reading Mrp := do
  let type ← octetAt sizeofVersion
  return mrp.recvRingLink fun _ => type

/-- The source's `mrp_recv_in_link`. -/
def readInLink (mrp : Mrp) : Reading Mrp := do
  let type ← readType
  match mrp.mimState with
  | .acStat1 => return mrp
  | .chkIo => do
      let id ← be16At (bodyOff 8)
      if id = mrp.inId ∧ type = .inLinkUp then return mrp.inTestReq mrp.inTestConfInterval
      else return mrp
  | .chkIc => do
      let id ← be16At (bodyOff 8)
      if id = mrp.inId ∧ type = .inLinkUp then
        return (mrp.setInTestCurrMax mrp.inTestConfMax).inTopoReq mrp.inTopoConfInterval
      else if id = mrp.inId ∧ type = .inLinkDown then
        return mrp.portSetState .inter .forwarding
          |>.inTopoReq mrp.inTopoConfInterval
          |>.setMimState .chkIo
      else return mrp

/-- The source's `mrp_recv_in_link_status`. -/
def readInLinkStatus (mrp : Mrp) : Reading Mrp :=
  if mrp.inRole ≠ .mic then return mrp
  else if mrp.inMode ≠ .lc then return mrp
  else do
    let id ← be16At (bodyOff 8)
    if id ≠ mrp.inId then return mrp
    else
      match mrp.micState with
      | .acStat1 => return mrp.inLinkReq false 0
      | .pt => return mrp.inLinkReq true 0
      | .ipIdle => return mrp.inLinkReq true 0

/-- The source's `mrp_process`. -/
def readProcess (mrp : Mrp) (type : TlvType) : Reading Mrp :=
  match type with
  | .ringTest => mrp.readRingTest
  | .ringTopo => mrp.readRingTopo
  | .ringLinkDown | .ringLinkUp => mrp.readRingLink
  | .option => mrp.readOption
  | .inTest => mrp.readInTest
  | .inTopo => mrp.readInTopo
  | .inLinkDown | .inLinkUp => mrp.readInLink
  | .inLinkStatus => mrp.readInLinkStatus
  | .tlvEnd | .common | .unknown _ => return mrp

/-! ## Results of the handlers -/

section Results

variable (mrp : Mrp) (b : Buf)

@[simp]
theorem eval_readBetterThanOwn :
    mrp.readBetterThanOwn.eval b = mrp.betterThanOwn (tlvBody b) := by
  have hprio : RingTestHdr.prio (tlvBody b) = b.be16 (bodyOff 0) := rfl
  have hsa : RingTestHdr.sa (tlvBody b) = macAt b (bodyOff 2) := rfl
  simp only [readBetterThanOwn, betterThanOwn, eval_bind, eval_be16At, eval_ite, eval_pure,
    eval_readMac, hprio, hsa]
  by_cases hlt : b.be16 (bodyOff 0) < mrp.prio <;> by_cases heq : b.be16 (bodyOff 0) = mrp.prio <;>
    simp [hlt, heq]

@[simp]
theorem eval_readBetterThanHost :
    mrp.readBetterThanHost.eval b = mrp.betterThanHost (subTlvBody (subTlv b)) := by
  have hprio : TestMgrHdr.prio (subTlvBody (subTlv b)) = b.be16 (subBodyOff 0) := rfl
  have hsa : TestMgrHdr.sa (subTlvBody (subTlv b)) = macAt b (subBodyOff 2) := rfl
  simp only [readBetterThanHost, betterThanHost, eval_bind, eval_be16At, eval_ite, eval_pure,
    eval_readMac, hprio, hsa]
  by_cases hlt : b.be16 (subBodyOff 0) < mrp.ringPrio <;>
    by_cases heq : b.be16 (subBodyOff 0) = mrp.ringPrio <;> simp [hlt, heq]

theorem eval_readRingTest : mrp.readRingTest.eval b = mrp.recvRingTest b := by
  have hsa : RingTestHdr.sa (tlvBody b) = macAt b (bodyOff 2) := rfl
  have hprio : (tlvBody b).le16 0 = b.le16 (bodyOff 0) := rfl
  simp only [readRingTest, recvRingTest, eval_bind, eval_ite, eval_pure, eval_readMac, hsa]
  cases hrole : mrp.ringRole <;>
    simp [readMraRingTest, mraRecvRingTest, hrole, hsa, hprio]

theorem eval_readRingTopo : mrp.readRingTopo.eval b = mrp.recvRingTopo b := by
  have hsa : RingTopoHdr.sa (tlvBody b) = macAt b (bodyOff 2) := rfl
  have hinterval : RingTopoHdr.interval (tlvBody b) = b.be16 (bodyOff 8) := rfl
  simp only [readRingTopo, recvRingTopo, readMraRingTopo, mraRecvRingTopo, eval_bind, eval_ite,
    eval_pure, eval_readMac, eval_be16At, hsa, hinterval]
  cases hstate : mrp.mrcState <;>
    simp [readMrcRingTopo, mrcRecvRingTopo, hstate, hinterval]

theorem eval_readRingLink : mrp.readRingLink.eval b = mrp.recvRingLink b := by
  simp only [readRingLink, eval_bind, eval_octetAt, eval_pure]
  rfl

theorem eval_readNack : mrp.readNack.eval b = mrp.recvNack (subTlv b) := by
  have hprio : TestMgrHdr.prio (subTlvBody (subTlv b)) = b.be16 (subBodyOff 0) := rfl
  have hsa : TestMgrHdr.sa (subTlvBody (subTlv b)) = macAt b (subBodyOff 2) := rfl
  have hother : TestMgrHdr.otherSa (subTlvBody (subTlv b)) = macAt b (subBodyOff 10) := rfl
  have hhost : mrp.readHost.eval b = mrp.recordHost (subTlvBody (subTlv b)) := by
    simp only [readHost, recordHost, eval_bind, eval_ite, eval_pure, eval_readBetterThanHost,
      eval_be16At, eval_readMac, hprio, hsa]
  simp only [readNack, recvNack, eval_bind, eval_ite, eval_pure, eval_readMac, hhost, hsa, hother]

theorem eval_readPropagate : mrp.readPropagate.eval b = mrp.recvPropagate (subTlv b) := by
  have hprio : TestMgrHdr.prio (subTlvBody (subTlv b)) = b.be16 (subBodyOff 0) := rfl
  have hsa : TestMgrHdr.sa (subTlvBody (subTlv b)) = macAt b (subBodyOff 2) := rfl
  have hotherPrio : TestMgrHdr.otherPrio (subTlvBody (subTlv b)) = b.be16 (subBodyOff 8) := rfl
  have hother : TestMgrHdr.otherSa (subTlvBody (subTlv b)) = macAt b (subBodyOff 10) := rfl
  simp only [readPropagate, recvPropagate, eval_bind, eval_ite, eval_pure, eval_readMac,
    eval_be16At, hprio, hsa, hotherPrio, hother]

theorem eval_readOption : mrp.readOption.eval b = mrp.recvOption b := by
  have htype : subTlv b 0 = b (subTlvOff 0) := rfl
  simp only [readOption, recvOption, eval_bind, eval_ite, eval_pure, eval_octetAt, eval_readNack,
    eval_readPropagate, htype]

theorem eval_readInTest : mrp.readInTest.eval b = mrp.recvInTest b := by
  have hid : InTestHdr.id (tlvBody b) = b.be16 (bodyOff 0) := rfl
  simp only [readInTest, recvInTest, eval_bind, eval_ite, eval_pure, eval_be16At, hid]

theorem eval_readRestartRingTopo :
    mrp.readRestartRingTopo.eval b = mrp.restartRingTopo (intervalUs (b.be16 (bodyOff 8))) := by
  simp only [readRestartRingTopo, restartRingTopo, eval_bind, eval_ite, eval_pure, eval_be16At]

theorem eval_readInTopo : mrp.readInTopo.eval b = mrp.recvInTopo b := by
  have hsa : InTopoHdr.sa (tlvBody b) = macAt b (bodyOff 0) := rfl
  have hid : InTopoHdr.id (tlvBody b) = b.be16 (bodyOff 6) := rfl
  have hinterval : InTopoHdr.interval (tlvBody b) = b.be16 (bodyOff 8) := rfl
  have hrole : ∀ mrp : Mrp, mrp.readInTopoByRole.eval b =
      mrp.inTopoByRole (tlvBody b) (intervalUs (b.be16 (bodyOff 8))) := by
    intro mrp
    unfold readInTopoByRole inTopoByRole micRecvInTopo
    cases mrp.inRole with
    | mim => simp only [eval_bind, eval_ite, eval_pure, eval_readMac, eval_be16At, hsa]
    | mic =>
        cases mrp.micState with
        | acStat1 => simp only [eval_bind, eval_ite, eval_pure, eval_be16At, hid]
        | pt => rfl
        | ipIdle => rfl
    | disabled => rfl
  simp only [readInTopo, recvInTopo, eval_bind, hrole, eval_readRestartRingTopo, hinterval]

theorem eval_readInLink : mrp.readInLink.eval b = mrp.recvInLink b := by
  have hid : InLinkHdr.id (tlvBody b) = b.be16 (bodyOff 8) := rfl
  have htype : readType.eval b = getTlvType b := rfl
  simp only [readInLink, recvInLink, eval_bind, htype]
  cases mrp.mimState with
  | acStat1 => rfl
  | chkIo => simp only [eval_bind, eval_ite, eval_pure, eval_be16At, hid]
  | chkIc => simp only [eval_bind, eval_ite, eval_pure, eval_be16At, hid]

theorem eval_readInLinkStatus : mrp.readInLinkStatus.eval b = mrp.recvInLinkStatus b := by
  have hid : InLinkHdr.id (tlvBody b) = b.be16 (bodyOff 8) := rfl
  simp only [readInLinkStatus, recvInLinkStatus, eval_bind, eval_ite, eval_pure, eval_be16At, hid]
  cases mrp.micState <;> rfl

/-- The computation does what the handler of the type does. -/
theorem eval_readProcess (type : TlvType) :
    (mrp.readProcess type).eval b = mrp.process b type := by
  cases type with
  | ringTest => exact mrp.eval_readRingTest b
  | ringTopo => exact mrp.eval_readRingTopo b
  | ringLinkDown => exact mrp.eval_readRingLink b
  | ringLinkUp => exact mrp.eval_readRingLink b
  | option => exact mrp.eval_readOption b
  | inTest => exact mrp.eval_readInTest b
  | inTopo => exact mrp.eval_readInTopo b
  | inLinkDown => exact mrp.eval_readInLink b
  | inLinkUp => exact mrp.eval_readInLink b
  | inLinkStatus => exact mrp.eval_readInLinkStatus b
  | tlvEnd => rfl
  | common => rfl
  | unknown v => rfl

end Results

end Mrp

end Umrp
