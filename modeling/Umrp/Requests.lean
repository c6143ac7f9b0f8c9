import Umrp.Creation
import Umrp.Model.Control

/-!
# Memory that a request touches

The lengths in the header of a request come from the client.  The length of the request
itself is compared with the length of the datagram, and a command compares both lengths
with the sizes of its structures; but the length of the answer is only compared with the
size of the buffer as a signed integer, and where a request fails that length decides
how much of the buffer is cleared and sent.

Main results:

- Theorem `toSize_gt_of_neg`: a negative length is larger than any buffer.
- Theorem `handler_inside`: the copies of a command stay inside their buffers.
- Theorem `command_inside_iff`: what a command touches through its pointers.
- Theorem `request_bounded_iff`: the requests for which everything stays inside.
-/

namespace Umrp

open Octets

/-! ## Lengths as sizes -/

/-- Extending the sign is reduction modulo the size of a `size_t`. -/
theorem toSize_toNat (x : Int32) : ((toSize x).toNat : Int) = x.toInt % 18446744073709551616 := by
  have hbits : x.toInt64.toBitVec = BitVec.ofInt 64 x.toInt := by
    rw [← Int64.toBitVec_ofInt]
    simp
  rw [toSize, ← UInt64.toNat_toBitVec, Int64.toBitVec_toUInt64, hbits, BitVec.toNat_ofInt]
  omega

/-- A length that passes the check as an integer and is not negative fits the buffer. -/
theorem toSize_le_of_nonneg {x : Int32} (hx : 0 ≤ x) (hle : ¬ Int32.ofNat msgBufLen < x) :
    (toSize x).toNat ≤ msgBufLen := by
  have hnat := toSize_toNat x
  rw [Int32.le_iff_toInt_le, Int32.toInt_zero] at hx
  have hmax : (Int32.ofNat msgBufLen).toInt = 10000 := by decide
  rw [Int32.lt_iff_toInt_lt, hmax] at hle
  simp only [msgBufLen]
  omega

/-- A negative length is larger than any buffer. -/
theorem toSize_gt_of_neg {x : Int32} (hx : x < 0) : msgBufLen < (toSize x).toNat := by
  have hnat := toSize_toNat x
  have hmin := x.le_toInt
  rw [Int32.lt_iff_toInt_lt, Int32.toInt_zero] at hx
  simp only [msgBufLen]
  omega

/-! ## Requests -/

/-- Every block that is touched lies inside its object, and so does the answer. -/
def Handled.Bounded (h : Handled) : Prop :=
  (∀ a ∈ h.accesses, a.Inside) ∧ ∀ r ∈ h.reply, r.len.toNat ≤ msgBufLen

/-- The same for the blocks that `ctl_rcv_handler` and `handle_message` touch
themselves. -/
def Handled.HandlerBounded (h : Handled) : Prop :=
  (∀ a ∈ h.accesses, a.accessor = .handler → a.Inside) ∧
    ∀ r ∈ h.reply, r.len.toNat ≤ msgBufLen

/-- The request has the code of the command and the sizes of its structures. -/
def CtlMsg.AsksFor (m : CtlMsg) (c : Cmd) : Prop :=
  m.mhdr.cmd = c.code ∧ UInt64.ofNat c.inSize = toSize m.mhdr.lin ∧
    UInt64.ofNat c.outSize = toSize m.mhdr.lout

instance (m : CtlMsg) (c : Cmd) : Decidable (m.AsksFor c) :=
  inferInstanceAs (Decidable (_ ∧ _ ∧ _))

/-- A request for the status is made while the array has room for every instance. -/
def Table.StatusFits (t : Table) (m : CtlMsg) : Prop :=
  m.AsksFor .getmrp → t.instances.length ≤ maxMrpInstances

/-- A name that `mrp_start_cfm` reads ends inside the structure that it came in. -/
def Table.NameEnds (t : Table) (env : Env) (m : CtlMsg) : Prop :=
  m.AsksFor .addmrp → t.startsCfm env (addmrpArgs m.inbuf) = true →
    ∃ i < Cmd.addmrp.inSize - Cmd.maidOffset, m.inbuf (Cmd.maidOffset + i) = 0

namespace Cmd

theorem ofCode?_code (c : Cmd) : ofCode? c.code = some c := by
  cases c <;> decide

theorem eq_code_of_ofCode? {cmd : Int32} {c : Cmd} (h : ofCode? cmd = some c) :
    cmd = c.code := by
  unfold ofCode? at h
  split at h
  next hcmd => cases h; exact hcmd
  next =>
    split at h
    next hcmd => cases h; exact hcmd
    next =>
      split at h
      next hcmd => cases h; exact hcmd
      next => cases h

/-- The structures of every command are smaller than the buffers. -/
theorem inSize_le (c : Cmd) : c.inSize ≤ msgBufLen := by
  cases c <;> decide

theorem outSize_le (c : Cmd) : c.outSize ≤ msgBufLen := by
  cases c <;> decide

end Cmd

/-! ## One command -/

/-- A block of the size of a structure can be copied between the structure and a buffer. -/
theorem memcpy_inside {dst src : Memory} {n : UInt64} (hdst : n.toNat ≤ dst.size)
    (hsrc : n.toNat ≤ src.size) : ∀ a ∈ memcpy dst src n, a.Inside := by
  intro a ha
  simp only [memcpy, List.mem_cons, List.not_mem_nil, or_false] at ha
  rcases ha with rfl | rfl
  · simpa [Access.Inside, Range.Within] using hdst
  · simpa [Access.Inside, Range.Within] using hsrc

/-- The entries of the status array are inside exactly when there are enough of them. -/
theorem mrpGetWrites_inside_iff (reg : Registry) :
    (∀ a ∈ reg.mrpGetWrites, a.Inside) ↔ reg.length ≤ maxMrpInstances := by
  constructor
  · intro h
    by_contra hlen
    have hlast := h ⟨.command, .outStruct .getmrp, 4 + 20 * 64, 64⟩ (by
      simp only [Registry.mrpGetWrites, List.mem_append, List.mem_map, List.mem_range]
      simp only [maxMrpInstances] at hlen
      exact .inl ⟨20, by omega, rfl⟩)
    revert hlast
    decide
  · intro hlen a ha
    simp only [Registry.mrpGetWrites, List.mem_append, List.mem_map, List.mem_range,
      List.mem_singleton] at ha
    simp only [maxMrpInstances] at hlen
    rcases ha with ⟨i, hi, rfl⟩ | rfl
    · simp only [Access.Inside, Range.Within, Memory.size, Cmd.outSize, Cmd.sizeofMrpStatus,
        maxMrpInstances]
      omega
    · decide

/-- What `mrp_start_cfm` reads is inside exactly when the name has an end. -/
theorem startCfmReads_inside_iff (inp : Buf) :
    (∀ a ∈ startCfmReads inp, a.Inside) ↔
      ∃ i < Cmd.addmrp.inSize - Cmd.maidOffset, inp (Cmd.maidOffset + i) = 0 := by
  rw [← Buf.strnlen_lt_iff]
  simp only [startCfmReads, List.forall_mem_cons, List.not_mem_nil, false_implies, implies_true,
    and_true, Access.Inside, Range.Within, Memory.size, Cmd.inSize, Cmd.dmacOffset,
    Cmd.maidOffset]
  omega

/-- What a command itself touches: only its status array and the name of a request can
go wrong. -/
theorem callCmd_inside_iff (t : Table) (env : Env) (inp : Buf) (c : Cmd) :
    (∀ a ∈ (t.callCmd env inp c).accesses, a.Inside) ↔
      (c = .getmrp → t.instances.length ≤ maxMrpInstances) ∧
        (c = .addmrp → t.startsCfm env (addmrpArgs inp) = true →
          ∃ i < Cmd.addmrp.inSize - Cmd.maidOffset, inp (Cmd.maidOffset + i) = 0) := by
  cases c with
  | addmrp =>
      by_cases h : t.startsCfm env (addmrpArgs inp) = true
      · simp only [Table.callCmd, Table.ctlAddmrp, if_pos h, startCfmReads_inside_iff]
        simp [h]
      · simp [Table.callCmd, Table.ctlAddmrp, h]
  | delmrp => simp [Table.callCmd, Table.ctlDelmrp]
  | getmrp =>
      simp only [Table.callCmd, Table.ctlGetmrp, mrpGetWrites_inside_iff]
      simp

/-- A command touches memory only through the pointers that it is given. -/
theorem callCmd_accessor (t : Table) (env : Env) (inp : Buf) (c : Cmd) :
    ∀ a ∈ (t.callCmd env inp c).accesses, a.accessor = .command := by
  intro a ha
  cases c with
  | addmrp =>
      simp only [Table.callCmd, Table.ctlAddmrp] at ha
      split at ha
      · simp only [startCfmReads, List.mem_cons, List.not_mem_nil, or_false] at ha
        rcases ha with rfl | rfl | rfl | rfl <;> rfl
      · simp at ha
  | delmrp => simp [Table.callCmd, Table.ctlDelmrp] at ha
  | getmrp =>
      simp only [Table.callCmd, Table.ctlGetmrp, Registry.mrpGetWrites, List.mem_append,
        List.mem_map, List.mem_singleton] at ha
      rcases ha with ⟨i, -, rfl⟩ | rfl <;> rfl

/-! ## One message -/

section Message

variable {t : Table} {env : Env} {m : CtlMsg}

/-- A request that no command is asked for by changes nothing and fails. -/
theorem handleMessage_of_not_asksFor (h : ∀ c, ¬ m.AsksFor c) :
    t.handleMessage env m.mhdr.cmd m.inbuf m.mhdr.lin m.mhdr.lout = t.refuse := by
  unfold Table.handleMessage
  cases hc : Cmd.ofCode? m.mhdr.cmd with
  | none => rfl
  | some c =>
      refine if_pos ?_
      by_contra hsizes
      rw [not_or, not_not, not_not] at hsizes
      exact h c ⟨Cmd.eq_code_of_ofCode? hc, hsizes⟩

/-- A command that is asked for is called between two copies.  The second is made only
if the command succeeds. -/
theorem handleMessage_of_asksFor (t : Table) (env : Env) {c : Cmd} (h : m.AsksFor c) :
    ∃ out, (out = [] ∨ out = memcpy .msgOutbuf (.outStruct c) (toSize m.mhdr.lout)) ∧
      (t.handleMessage env m.mhdr.cmd m.inbuf m.mhdr.lin m.mhdr.lout).accesses =
        memcpy (.inStruct c) .msgInbuf (toSize m.mhdr.lin) ++
          (t.callCmd env m.inbuf c).accesses ++ out := by
  rcases h with ⟨hcmd, hin, hout⟩
  simp only [Table.handleMessage, hcmd, Cmd.ofCode?_code, Table.messageCase]
  rw [if_neg (by simp [hin, hout])]
  split
  · exact ⟨[], .inl rfl, by simp⟩
  · exact ⟨_, .inr rfl, rfl⟩

/-- Only one command is asked for. -/
theorem CtlMsg.AsksFor.unique {c c' : Cmd} (h : m.AsksFor c) (h' : m.AsksFor c') : c = c' := by
  have hcode : Cmd.ofCode? c.code = Cmd.ofCode? c'.code := by rw [← h.1, ← h'.1]
  rw [Cmd.ofCode?_code, Cmd.ofCode?_code] at hcode
  exact Option.some.inj hcode

/-- The copies of a command stay inside their buffers: both lengths are the sizes of its
structures. -/
theorem copies_inside {c : Cmd} (h : m.AsksFor c) :
    (∀ a ∈ memcpy (.inStruct c) .msgInbuf (toSize m.mhdr.lin), a.Inside) ∧
      ∀ a ∈ memcpy .msgOutbuf (.outStruct c) (toSize m.mhdr.lout), a.Inside := by
  have hin : (toSize m.mhdr.lin).toNat = c.inSize := by
    rw [← h.2.1]
    cases c <;> rfl
  have hout : (toSize m.mhdr.lout).toNat = c.outSize := by
    rw [← h.2.2]
    cases c <;> rfl
  constructor
  · exact memcpy_inside (Nat.le_of_eq hin) (hin ▸ c.inSize_le)
  · exact memcpy_inside (hout ▸ c.outSize_le) (Nat.le_of_eq hout)

/-- What the handling of a message touches itself stays inside, whatever the lengths are. -/
theorem handler_inside :
    ∀ a ∈ (t.handleMessage env m.mhdr.cmd m.inbuf m.mhdr.lin m.mhdr.lout).accesses,
      a.accessor = .handler → a.Inside := by
  intro a ha hhandler
  by_cases hasks : ∃ c, m.AsksFor c
  · rcases hasks with ⟨c, hc⟩
    rcases handleMessage_of_asksFor t env hc with ⟨out, hout, haccesses⟩
    rw [haccesses, List.mem_append, List.mem_append] at ha
    rcases ha with (ha | ha) | ha
    · exact (copies_inside hc).1 a ha
    · have hcommand := callCmd_accessor t env m.inbuf c a ha
      rw [hcommand] at hhandler
      cases hhandler
    · rcases hout with rfl | rfl
      · simp at ha
      · exact (copies_inside hc).2 a ha
  · rw [handleMessage_of_not_asksFor (fun c hc => hasks ⟨c, hc⟩)] at ha
    simp [Table.refuse] at ha

/-- All that the handling of a message touches stays inside exactly when this is true of
the command that is asked for. -/
theorem command_inside_iff :
    (∀ a ∈ (t.handleMessage env m.mhdr.cmd m.inbuf m.mhdr.lin m.mhdr.lout).accesses,
      a.Inside) ↔ t.StatusFits m ∧ t.NameEnds env m := by
  by_cases hasks : ∃ c, m.AsksFor c
  · rcases hasks with ⟨c, hc⟩
    rcases handleMessage_of_asksFor t env hc with ⟨out, hout, haccesses⟩
    have hcopies := copies_inside hc
    have hcall : (∀ a ∈ (t.callCmd env m.inbuf c).accesses, a.Inside) ↔
        t.StatusFits m ∧ t.NameEnds env m := by
      rw [callCmd_inside_iff]
      have hget : m.AsksFor .getmrp ↔ c = .getmrp :=
        ⟨fun h => hc.unique h, fun h => h ▸ hc⟩
      have hadd : m.AsksFor .addmrp ↔ c = .addmrp :=
        ⟨fun h => hc.unique h, fun h => h ▸ hc⟩
      rw [Table.StatusFits, Table.NameEnds, hget, hadd]
    rw [haccesses, ← hcall]
    constructor
    · intro h a ha
      exact h a (by simp [ha])
    · intro h a ha
      rw [List.mem_append, List.mem_append] at ha
      rcases ha with (ha | ha) | ha
      · exact hcopies.1 a ha
      · exact h a ha
      · rcases hout with rfl | rfl
        · simp at ha
        · exact hcopies.2 a ha
  · rw [not_exists] at hasks
    rw [handleMessage_of_not_asksFor hasks]
    constructor
    · intro _
      exact ⟨fun h => absurd h (hasks _), fun h => absurd h (hasks _)⟩
    · intro _ a ha
      simp [Table.refuse] at ha

/-- A datagram that is ignored touches nothing. -/
theorem ctlRcvHandler_of_unexpected (t : Table) (env : Env) (h : m.unexpected = true) :
    t.ctlRcvHandler env m = ⟨t, none, []⟩ :=
  if_pos h

/-- A length of the answer that gets past the check is no larger than the buffer, as an
integer. -/
theorem lout_le_of_expected (h : ¬ m.unexpected = true) :
    ¬ Int32.ofNat msgBufLen < m.mhdr.lout := by
  intro hlt
  exact h (by simp [CtlMsg.unexpected, hlt])

/-- Where a datagram is answered, a negative length of the answer is too long. -/
theorem not_reply_le_of_neg (t : Table) (env : Env) (hm : ¬ m.unexpected = true) (hneg : m.mhdr.lout < 0) :
    ¬ ∀ r ∈ (t.ctlRcvHandler env m).reply, r.len.toNat ≤ msgBufLen := by
  intro h
  rw [Table.ctlRcvHandler, if_neg hm] at h
  have hlen : (toSize m.mhdr.lout).toNat ≤ msgBufLen := h _ rfl
  have hgt := toSize_gt_of_neg hneg
  omega

/-- With a length that is not negative, clearing and sending the answer stay inside, and
the rest is what handling the message touches. -/
theorem accesses_iff_of_nonneg (t : Table) (env : Env) (who : Accessor → Prop)
    (hm : ¬ m.unexpected = true) (hlout : 0 ≤ m.mhdr.lout) :
    ((∀ a ∈ (t.ctlRcvHandler env m).accesses, who a.accessor → a.Inside) ∧
        ∀ r ∈ (t.ctlRcvHandler env m).reply, r.len.toNat ≤ msgBufLen) ↔
      ∀ a ∈ (t.handleMessage env m.mhdr.cmd m.inbuf m.mhdr.lin m.mhdr.lout).accesses,
        who a.accessor → a.Inside := by
  have hlen : (toSize m.mhdr.lout).toNat ≤ msgBufLen :=
    toSize_le_of_nonneg hlout (lout_le_of_expected hm)
  have hout : Access.Inside ⟨.handler, .msgOutbuf, 0, (toSize m.mhdr.lout).toNat⟩ := by
    simpa [Access.Inside, Range.Within, Memory.size] using hlen
  rw [Table.ctlRcvHandler, if_neg hm]
  constructor
  · intro h a ha
    exact h.1 a (by simp [ha])
  · intro h
    refine ⟨?_, by rintro r ⟨⟩; exact hlen⟩
    intro a ha hwho
    rw [List.mem_append, List.mem_append, List.mem_singleton] at ha
    rcases ha with (ha | ha) | rfl
    · exact h a ha hwho
    · split at ha
      · rw [List.mem_singleton] at ha
        exact ha ▸ hout
      · simp at ha
    · exact hout

end Message

/-- What `ctl_rcv_handler` and `handle_message` touch themselves, and the answer, stay
inside their buffers exactly for the datagrams that are ignored and those with a length
of the answer that is not negative.  With what the command touches through its pointers,
the status array also needs room for every instance, and a name that is read an end. -/
theorem request_bounded_iff (t : Table) (env : Env) (m : CtlMsg) :
    ((t.ctlRcvHandler env m).HandlerBounded ↔ m.unexpected = true ∨ 0 ≤ m.mhdr.lout) ∧
      ((t.ctlRcvHandler env m).Bounded ↔
        m.unexpected = true ∨ 0 ≤ m.mhdr.lout ∧ t.StatusFits m ∧ t.NameEnds env m) := by
  by_cases hm : m.unexpected = true
  · simp [ctlRcvHandler_of_unexpected t env hm, Handled.HandlerBounded, Handled.Bounded, hm]
  by_cases hlout : 0 ≤ m.mhdr.lout
  · have hhandler := accesses_iff_of_nonneg t env (· = .handler) hm hlout
    have hall := accesses_iff_of_nonneg t env (fun _ => True) hm hlout
    simp only [true_implies] at hall
    constructor
    · rw [Handled.HandlerBounded, hhandler]
      simp only [hm, hlout, Bool.false_eq_true, or_true, iff_true]
      exact handler_inside
    · rw [Handled.Bounded, hall, command_inside_iff]
      simp [hm, hlout]
  · have hneg : m.mhdr.lout < 0 := Int32.not_le.mp hlout
    have hreply := not_reply_le_of_neg t env hm hneg
    simp only [Handled.HandlerBounded, Handled.Bounded, hm, hlout, hreply, and_false, false_and,
      Bool.false_eq_true, or_self, iff_self, and_self]

/-- A datagram that consists of a header: no command has its code, and the length of the
answer is -1. -/
def Sample.negativeLength : CtlMsg where
  msgFlags := 0
  l := 16
  mhdr := ⟨0, 0, -1, 0⟩
  inbuf := fun _ => 0

/-- The server does not ignore this datagram.  It clears the buffer of the answer over
the whole length that a `size_t` can hold, and means to send as much. -/
theorem negative_length_overruns :
    Sample.negativeLength.unexpected = false ∧
      (⟨.handler, .msgOutbuf, 0, 18446744073709551615⟩ : Access) ∈
        (Table.empty.ctlRcvHandler Sample.env Sample.negativeLength).accesses ∧
      ¬ (Table.empty.ctlRcvHandler Sample.env Sample.negativeLength).HandlerBounded ∧
      ¬ (Table.empty.ctlRcvHandler Sample.env Sample.negativeLength).Bounded := by
  have hm : ¬ Sample.negativeLength.unexpected = true := by decide
  have hreply := not_reply_le_of_neg Table.empty Sample.env hm (by decide)
  refine ⟨by decide, ?_, fun h => hreply h.2, fun h => hreply h.2⟩
  rw [Table.ctlRcvHandler, if_neg hm]
  exact List.mem_append_right _ (List.mem_singleton_self _)

end Umrp
