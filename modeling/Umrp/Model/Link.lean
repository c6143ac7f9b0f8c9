import Umrp.Model.Send

/-!
# Link changes

The four state machines that react to a change of a port's link, and the two
entry points that select one of them: `mrp_port_link_change` for ordinary
notifications and `mrp_cfm_link_change` for those of CFM.

The two conditions that guard the branches of one state always exclude each
other and no branch changes `p_port` before the second one is tested, so the
source's consecutive `if` statements are written as alternatives.
-/

namespace Umrp

namespace Mrp

/-- Exchange the two ring ports: `p` becomes primary, the old primary secondary. -/
def promote (mrp : Mrp) (p : RingPort) : Mrp :=
  { mrp with sPort := mrp.pPort, pPort := p }

/-- Exchange the two ring ports: `p` becomes secondary, the old secondary primary. -/
def demote (mrp : Mrp) (p : RingPort) : Mrp :=
  { mrp with pPort := mrp.sPort, sPort := p }

/-- The source's `mrp_mrm_port_link`. -/
def mrmPortLink (mrp : Mrp) (p : RingPort) (up : Bool) : Mrp :=
  let topoInterval := mrp.ringTopoConfInterval
  match mrp.mrmState with
  | .acStat1 =>
      if up = true ∧ p = mrp.pPort then
        mrp.portSetState (.ring mrp.pPort) .forwarding
          |>.ringTestReq mrp.ringTestConfInterval
          |>.setMrmState .prmUp
      else if up = true ∧ p ≠ mrp.pPort then
        let mrp := mrp.promote p
        mrp.portSetState (.ring mrp.pPort) .forwarding
          |>.ringTestReq mrp.ringTestConfInterval
          |>.setMrmState .prmUp
      else mrp
  | .prmUp =>
      if up = false ∧ p = mrp.pPort then
        mrp.ringTestStop
          |>.portSetState (.ring mrp.pPort) .blocked
          |>.setMrmState .acStat1
      else if up = true ∧ p ≠ mrp.pPort then
        mrp.resetRingTestCount.setNoTc true
          |>.ringTestReq mrp.ringTestConfInterval
          |>.setMrmState .chkRc
      else mrp
  | .chkRo =>
      if up = false ∧ p = mrp.pPort then
        let mrp := mrp.demote p
        mrp.portSetState (.ring mrp.sPort) .blocked
          |>.ringTestReq mrp.ringTestConfInterval
          |>.ringTopoReq topoInterval
          |>.setMrmState .prmUp
      else if up = false ∧ p ≠ mrp.pPort then
        mrp.portSetState (.ring mrp.sPort) .blocked
          |>.setMrmState .prmUp
      else mrp
  | .chkRc =>
      if up = false ∧ p = mrp.pPort then
        let mrp := mrp.demote p
        let mrp := mrp.portSetState (.ring mrp.sPort) .blocked
          |>.portSetState (.ring mrp.pPort) .forwarding
          |>.ringTestReq mrp.ringTestConfInterval
          |>.ringTopoReq topoInterval
        mrp.nextRingTransition.setMrmState .prmUp
      else if up = false ∧ p ≠ mrp.pPort then
        mrp.nextRingTransition.setMrmState .prmUp
      else mrp

/-- The source's `mrp_mrc_port_link`. -/
def mrcPortLink (mrp : Mrp) (p : RingPort) (up : Bool) : Mrp :=
  -- every announcement starts from the full count, whatever is left of the last one
  let time := mrp.ringLinkConfMax * mrp.ringLinkConfInterval
  match mrp.mrcState with
  | .acStat1 =>
      if up = true ∧ p = mrp.pPort then
        mrp.portSetState (.ring mrp.pPort) .forwarding
          |>.setMrcState .deIdle
      else if up = true ∧ p ≠ mrp.pPort then
        let mrp := mrp.promote p
        mrp.portSetState (.ring mrp.pPort) .forwarding
          |>.setMrcState .deIdle
      else mrp
  | .deIdle =>
      if up = true ∧ p ≠ mrp.pPort then
        mrp.setRingLinkCurrMax mrp.ringLinkConfMax
          |>.ringLinkUpStart mrp.ringLinkConfInterval
          |>.ringLinkReq mrp.pPort up time
          |>.setMrcState .pt
      else if up = false ∧ p = mrp.pPort then
        mrp.portSetState (.ring mrp.pPort) .blocked
          |>.setMrcState .acStat1
      else mrp
  | .pt =>
      if up = false ∧ p ≠ mrp.pPort then
        mrp.setRingLinkCurrMax mrp.ringLinkConfMax
          |>.ringLinkUpStop
          |>.portSetState (.ring mrp.sPort) .blocked
          |>.ringLinkDownStart mrp.ringLinkConfInterval
          |>.ringLinkReq mrp.pPort up time
          |>.setMrcState .de
      else if up = false ∧ p = mrp.pPort then
        let mrp := (mrp.setRingLinkCurrMax mrp.ringLinkConfMax).ringLinkUpStop.demote p
        mrp.portSetState (.ring mrp.pPort) .forwarding
          |>.portSetState (.ring mrp.sPort) .blocked
          |>.ringLinkDownStart mrp.ringLinkConfInterval
          |>.ringLinkReq mrp.pPort up time
          |>.setMrcState .de
      else mrp
  | .de =>
      if up = true ∧ p ≠ mrp.pPort then
        mrp.setRingLinkCurrMax mrp.ringLinkConfMax
          |>.ringLinkDownStop
          |>.ringLinkUpStart mrp.ringLinkConfInterval
          |>.ringLinkReq mrp.pPort up time
          |>.setMrcState .pt
      else if up = false ∧ p = mrp.pPort then
        mrp.setRingLinkCurrMax mrp.ringLinkConfMax
          |>.portSetState (.ring mrp.pPort) .blocked
          |>.ringLinkDownStop
          |>.setMrcState .acStat1
      else mrp
  | .ptIdle =>
      if up = false ∧ p ≠ mrp.pPort then
        mrp.setRingLinkCurrMax mrp.ringLinkConfMax
          |>.portSetState (.ring mrp.sPort) .blocked
          |>.ringLinkDownStart mrp.ringLinkConfInterval
          |>.ringLinkReq mrp.pPort up time
          |>.setMrcState .de
      else if up = false ∧ p = mrp.pPort then
        let mrp := (mrp.setRingLinkCurrMax mrp.ringLinkConfMax).demote p
        mrp.portSetState (.ring mrp.sPort) .blocked
          |>.ringLinkDownStart mrp.ringLinkConfInterval
          |>.ringLinkReq mrp.pPort up time
          |>.setMrcState .de
      else mrp

/-- The source's `mrp_mim_port_link`. -/
def mimPortLink (mrp : Mrp) (up : Bool) : Mrp :=
  match up, mrp.inMode with
  | true, .rc =>
      match mrp.mimState with
      | .acStat1 =>
          (mrp.portSetState .inter .blocked).resetInTestCount
            |>.inTestReq mrp.inTestConfInterval
            |>.setMimState .chkIc
      | .chkIo | .chkIc => mrp
  | false, .rc =>
      match mrp.mimState with
      | .acStat1 => mrp
      | .chkIo | .chkIc =>
          mrp.portSetState .inter .blocked
            |>.inTopoReq mrp.inTopoConfInterval
            |>.inTestReq mrp.inTestConfInterval
            |>.setMimState .acStat1
  | true, .lc =>
      match mrp.mimState with
      | .acStat1 =>
          mrp.setInLinkStatusCurrMax mrp.inLinkStatusConfMax
            |>.portSetState .inter .blocked
            |>.inLinkStatusReq mrp.inLinkStatusConfInterval
            |>.setMimState .chkIc
      | .chkIo | .chkIc => mrp
  | false, .lc =>
      match mrp.mimState with
      | .acStat1 => mrp
      | .chkIo =>
          mrp.portSetState .inter .blocked
            |>.inLinkStatusStop
            |>.setMimState .acStat1
      | .chkIc =>
          mrp.portSetState .inter .blocked
            |>.setMimState .acStat1
  | _, .unknown _ => mrp

/-- The source's `mrp_mic_port_link`. -/
def micPortLink (mrp : Mrp) (up : Bool) : Mrp :=
  let time := mrp.inLinkConfMax * mrp.inLinkConfInterval
  match up, mrp.inMode with
  | true, .rc | true, .lc =>
      match mrp.micState with
      | .acStat1 =>
          mrp.setInLinkCurrMax mrp.inLinkConfMax
            |>.inLinkDownStop
            |>.inLinkUpStart mrp.inLinkConfInterval
            |>.inLinkReq up time
            |>.setMicState .pt
      | .pt | .ipIdle => mrp
  | false, .rc =>
      match mrp.micState with
      | .acStat1 => mrp
      | .pt =>
          mrp.setInLinkCurrMax mrp.inLinkConfMax
            |>.inLinkUpStop
            |>.portSetState .inter .blocked
            |>.inLinkDownStart mrp.inLinkConfInterval
            |>.inLinkReq up time
            |>.setMicState .acStat1
      | .ipIdle =>
          mrp.setInLinkCurrMax mrp.inLinkConfMax
            |>.portSetState .inter .blocked
            |>.inLinkDownStart mrp.inLinkConfInterval
            |>.inLinkReq up time
            |>.setMicState .acStat1
  | false, .lc =>
      match mrp.micState with
      | .acStat1 => mrp
      | .pt | .ipIdle =>
          mrp.setInLinkCurrMax mrp.inLinkConfMax
            |>.inLinkUpStop
            |>.portSetState .inter .blocked
            |>.inLinkDownStart mrp.inLinkConfInterval
            |>.inLinkReq up time
            |>.setMicState .acStat1
  | _, .unknown _ => mrp

/-! ## Entry points -/

/-- Store the operational state of a ring port and the direction of the event. -/
def noteRingLink (mrp : Mrp) (r : RingPort) (up : Bool) : Mrp :=
  { mrp with
    ringPort := Function.update mrp.ringPort r
      { mrp.ringPort r with
        operstate := if up then ifOperUp else ifOperDown
        lastLink := some up } }

/-- Note the direction of a link event given to the interconnection machine. -/
def noteInLink (mrp : Mrp) (up : Bool) : Mrp :=
  { mrp with iPort := mrp.iPort.map fun port => { port with lastLink := some up } }

/-- Store the operational state of the interconnection port. -/
def setInOperstate (mrp : Mrp) (operstate : UInt8) : Mrp :=
  { mrp with iPort := mrp.iPort.map fun port => { port with operstate := operstate } }

/-- The source's `mrp_port_link_change`, for a port that belongs to an instance. -/
def portLinkChange (mrp : Mrp) (p : Port) (up : Bool) : Mrp :=
  match p with
  | .ring r =>
      let mrp := mrp.noteRingLink r up
      match mrp.ringRole with
      | .mrm => mrp.mrmPortLink r up
      | .mrc => mrp.mrcPortLink r up
      | .disabled | .mra => mrp
  | .inter =>
      if mrp.inMode = .lc then mrp
      else
        let mrp := mrp.setInOperstate (if up then ifOperUp else ifOperDown)
        match mrp.inRole with
        | .mim => (mrp.noteInLink up).mimPortLink up
        | .mic => (mrp.noteInLink up).micPortLink up
        | .disabled => mrp

/-- The source's `mrp_cfm_link_change`, once `mrp_get_mrp` has found the instance. -/
def cfmLinkChange (mrp : Mrp) (defect : Bool) : Mrp :=
  match mrp.iPort with
  | none => mrp
  | some _ =>
      let mrp := mrp.setInOperstate (if defect then ifOperDown else ifOperUp)
      match mrp.inRole with
      | .mim => (mrp.noteInLink !defect).mimPortLink (!defect)
      | .mic => (mrp.noteInLink !defect).micPortLink (!defect)
      | .disabled => mrp

end Mrp

end Umrp
