import Umrp.Model.Control

/-!
# The client of the control socket

What the command `addmrp` of the client puts into its datagram: the structure of the
request, the name of the CFM association in its binary form, and the header.  What the
command `getmrp` does with the answer.

The structure and the array for the name are local variables, so that whatever is not
written keeps what the stack held before.
-/

namespace Umrp

open Octets

/-- The size of the array for the name of an association, `CFM_MAID_LENGTH`. -/
def cfmMaidLength : Nat := 48

/-- The source's `cfm_maid_get` for the array `maid`: the array is cleared, a format, a
kind and a length are stored, and the text is copied to where the length stands. -/
def cfmMaidGet (argv : List UInt8) (maid : Buf) : Buf :=
  maid.put 0 (List.replicate cfmMaidLength 0)
    |>.put 0 [1]
    |>.put 1 [2]
    |>.put 3 [UInt8.ofNat argv.length]
    |>.put 3 argv

/-- The blocks that `cfm_maid_get` writes. -/
def cfmMaidGetWrites (argv : List UInt8) : List Range :=
  [⟨0, cfmMaidLength⟩, ⟨0, 1⟩, ⟨1, 1⟩, ⟨3, 1⟩, ⟨3, argv.length⟩]

/-- The source's `addmrp_COPY_IN` for the structure `inp`.  Small integers are widened. -/
def addmrpCopyIn (inp : Buf) (a : AddArgs) (cfmMaid : Buf) : Buf :=
  inp.put 0 (le32 a.brIfindex)
    |>.put 4 (le32 a.pport)
    |>.put 8 (le32 a.sport)
    |>.put 12 (le32 a.ringNr)
    |>.put 16 (le32 a.ringRole)
    |>.put 20 (le32 a.prio.toUInt32)
    |>.put 24 (le32 a.ringRecv.toUInt32)
    |>.put 28 (le32 a.reactOnLinkChange.toUInt32)
    |>.put 32 (le32 a.inRole)
    |>.put 36 (le32 a.inId.toUInt32)
    |>.put 40 (le32 a.iport)
    |>.put 44 (le32 a.inMode)
    |>.put 48 (le32 a.inRecv.toUInt32)
    |>.put 52 (le32 a.cfmInstance)
    |>.put 56 (le32 a.cfmLevel)
    |>.put 60 (le32 a.cfmMepid)
    |>.put 64 (le32 a.cfmPeerMepid)
    |>.put Cmd.maidOffset ((List.range cfmMaidLength).map cfmMaid)
    |>.put Cmd.dmacOffset a.cfmDmac.octets

/-- The datagram of `CTL_addmrp` on the side of the client, as the server receives it.
The result in the header is not set. -/
def ctlAddmrpMsg (inp : Buf) (a : AddArgs) (cfmMaid : Buf) (res : Int32) : CtlMsg where
  msgFlags := 0
  l := 140
  mhdr := ⟨Cmd.addmrp.code, Int32.ofNat Cmd.addmrp.inSize, Int32.ofNat Cmd.addmrp.outSize, res⟩
  inbuf := addmrpCopyIn inp a cfmMaid

/-- The block of its own status array that the client writes with `getmrp_COPY_OUT`, for
the count that the server has reported. -/
def getmrpCopyOut (count : Nat) : Range := ⟨0, Cmd.sizeofMrpStatus * count⟩

/-! ## What the server makes of a name -/

/-- The `struct maid_data` of `mrp_start_cfm`, which is cleared before the text is copied. -/
def maidData (cfmMaid : List UInt8) : List UInt8 :=
  (List.range cfmMaidLength).map (Buf.put (fun _ => 0) 0 cfmMaid)

/-- The MAIDs that an instance has handed to `cfm_offload_cc_config`. -/
def Mrp.maids (mrp : Mrp) : List (List UInt8) :=
  mrp.calls.filterMap fun
    | .cfmCcConfig _ cfmMaid => some (maidData cfmMaid)
    | _ => none

end Umrp
