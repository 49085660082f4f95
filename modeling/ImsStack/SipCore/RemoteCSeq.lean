import ImsStack.SipCore.SipDialogState
import Mathlib.Tactic.SplitIfs

/-!
The CSeq numbers of the requests accepted within a dialog.
-/

namespace ImsStack.SipCore

open TransitionSystem

/-- What happens to a dialog: a request is received, or another message goes through
one of its usages. -/
inductive Event where
  /-- The request of the peer that makes the dialog of a callee. -/
  | initialRequest (r : Request)
  | request (r : Request)
  /-- A message that is sent, or a received response. -/
  | exchange (msgInfo : SipMessageInfo) (isShared : Bool) (usageState : Option DState)
      (action : Action)
  deriving DecidableEq, Repr

/-- A dialog with the CSeq numbers of the requests other than ACK and CANCEL that have
been accepted in it, the last at the end. -/
structure Run where
  dialog : SipDialogState
  accepted : List UInt32
  deriving DecidableEq, Repr

def Validity.accepts : Validity → Bool
  | .valid | .validForked => true
  | _ => false

/-- The requests whose CSeq number is their own, not that of an INVITE. -/
def Request.isNumbered (r : Request) : Bool := r.method != .ack && r.method != .cancel

/-- A request with the verdict on it joins the accepted ones. -/
def Run.record (s : Run) (r : Request) (verdict : Validity × SipDialogState) : Run where
  dialog := verdict.2
  accepted :=
    if r.isNumbered && verdict.1.accepts then s.accepted ++ [r.cSeqNumber] else s.accepted

/-- The step relation.  The messages that go through a usage are all but the received
requests, which `HandleRequest` takes. -/
inductive DialogStep : Run → Event → Run → Prop where
  | initialRequest {s : Run} {r : Request} :
      s = ⟨.new false, []⟩ →
      DialogStep s (.initialRequest r) (s.record r (handleInitialRequest s.dialog r))
  | request {s : Run} {r : Request} :
      DialogStep s (.request r) (s.record r (handleRequest s.dialog r))
  | exchange {s : Run} {msgInfo : SipMessageInfo} {isShared : Bool}
      {usageState : Option DState} {action : Action} :
      (msgInfo.isOutgoing || !msgInfo.isRequest) = true →
      DialogStep s (.exchange msgInfo isShared usageState action)
        { s with
          dialog := s.dialog.updateDialogDetails isShared msgInfo usageState action }

/-- The dialogs of callers and of callees. -/
def dialogs : System Run Event where
  Init s := ∃ isCaller, s = ⟨.new isCaller, []⟩
  Step := DialogStep

/-- The step leaves the window of CSeq numbers where the accepted requests have put it:
an ACK that will be accepted does not have the number of an INVITE that other requests
have overtaken, and a numbered request goes to the dialog itself, which has not ended. -/
def KeepsWindow (s : Run) : Event → Prop
  | .request r =>
    (r.method = .ack →
      r.cSeqNumber = s.dialog.remoteCSeqForInvite ∨ isFinalSuccess r.prevStatusCode = true →
      s.dialog.remoteCSeq ≤ r.cSeqNumber) ∧
    (r.isNumbered = true → s.dialog.state ≠ .terminated ∧ dialogFor s.dialog r ≠ some .temporary)
  | _ => True

namespace SipDialogState

@[simp] theorem updateState_remoteCSeq (d : SipDialogState) (isShared : Bool)
    (usageState : Option DState) (action : Action) :
    (d.updateState isShared usageState action).remoteCSeq = d.remoteCSeq := by
  simp only [updateState]
  split <;> rfl

theorem updateDialogDetails_remoteCSeq (d : SipDialogState) (isShared : Bool) (r : Request)
    (usageState : Option DState) (action : Action) (hstate : d.state ≠ .terminated) :
    (d.updateDialogDetails isShared r.msgInfo usageState action).remoteCSeq =
      r.cSeqNumber := by
  have hin : r.msgInfo.isOutgoing = false := rfl
  have hrequest : r.msgInfo.isRequest = true := rfl
  simp only [updateDialogDetails, if_neg hstate, hin, hrequest, Bool.false_eq_true,
    ↓reduceIte, updateState_remoteCSeq]
  split <;> rfl

theorem updateDialogDetails_exchange (d : SipDialogState) (isShared : Bool)
    (msgInfo : SipMessageInfo) (usageState : Option DState) (action : Action)
    (hexchange : (msgInfo.isOutgoing || !msgInfo.isRequest) = true) :
    (d.updateDialogDetails isShared msgInfo usageState action).remoteCSeq = d.remoteCSeq := by
  simp only [updateDialogDetails]
  split
  · rfl
  · rw [updateState_remoteCSeq]
    cases hout : msgInfo.isOutgoing
    · simp_all
    · simp only [↓reduceIte]
      split <;> rfl

theorem validateRemoteCSeq_of_accepts (d : SipDialogState) (method : SipMethod)
    (seqNum : UInt32) (prevStatusCode : Nat)
    (haccepts : (d.validateRemoteCSeq method seqNum prevStatusCode).accepts = true) :
    d.validateRemoteCSeq method seqNum prevStatusCode = .valid := by
  revert haccepts
  simp only [validateRemoteCSeq]
  split_ifs <;> simp [Validity.accepts]

theorem lt_of_validateRemoteCSeq (d : SipDialogState) (r : Request)
    (hnumbered : r.isNumbered = true)
    (hvalid : d.validateRemoteCSeq r.method r.cSeqNumber r.prevStatusCode = .valid) :
    d.remoteCSeq < r.cSeqNumber := by
  simp only [Request.isNumbered, Bool.and_eq_true, bne_iff_ne, ne_eq] at hnumbered
  simp only [validateRemoteCSeq, if_neg hnumbered.1, if_neg hnumbered.2] at hvalid
  split at hvalid
  · cases hvalid
  · split at hvalid
    · cases hvalid
    · rename_i hge
      split at hvalid
      · cases hvalid
      · rename_i hne
        exact UInt32.lt_of_le_of_ne (UInt32.not_lt.mp hge) hne

theorem ack_of_validateRemoteCSeq (d : SipDialogState) (seqNum : UInt32) (prevStatusCode : Nat)
    (hvalid : d.validateRemoteCSeq .ack seqNum prevStatusCode = .valid) :
    seqNum = d.remoteCSeqForInvite ∨ isFinalSuccess prevStatusCode = true := by
  simp only [validateRemoteCSeq, ↓reduceIte] at hvalid
  split at hvalid
  · cases hvalid
  · split at hvalid
    · cases hvalid
    · rename_i hack
      simp only [ne_eq, decide_not, Bool.and_eq_true, Bool.not_eq_true', decide_eq_false_iff_not,
        not_and, Bool.not_eq_false] at hack
      by_cases heq : d.remoteCSeqForInvite = seqNum
      · exact Or.inl heq.symm
      · exact Or.inr (hack heq)

end SipDialogState

/-- The accepted numbers increase, and none is above the number stored. -/
structure Increasing (s : Run) : Prop where
  pairwise : s.accepted.Pairwise (· < ·)
  le : ∀ n ∈ s.accepted, n ≤ s.dialog.remoteCSeq

namespace Increasing

/-- A request that joins the accepted ones came in above the number stored and is the
number stored afterwards. -/
theorem append {s : Run} {d : SipDialogState} {n : UInt32} (hs : Increasing s)
    (hlt : s.dialog.remoteCSeq < n) (hd : d.remoteCSeq = n) :
    Increasing ⟨d, s.accepted ++ [n]⟩ := by
  constructor
  · rw [List.pairwise_append]
    refine ⟨hs.pairwise, List.pairwise_singleton _ _, ?_⟩
    intro m hm k hk
    rw [List.mem_singleton.mp hk]
    exact UInt32.lt_of_le_of_lt (hs.le m hm) hlt
  · intro m hm
    rw [hd]
    rcases List.mem_append.mp hm with hm | hm
    · exact UInt32.le_trans (hs.le m hm) (UInt32.le_of_lt hlt)
    · exact UInt32.le_of_eq (List.mem_singleton.mp hm)

theorem raise {s : Run} {d : SipDialogState} (hs : Increasing s)
    (hle : s.dialog.remoteCSeq ≤ d.remoteCSeq) : Increasing ⟨d, s.accepted⟩ :=
  ⟨hs.pairwise, fun n hn => UInt32.le_trans (hs.le n hn) hle⟩

end Increasing

/-- An inspected request leaves the dialog alone, unless it is accepted for the dialog
itself, which then has its details updated. -/
theorem inspectAndUpdate_cases (d : SipDialogState) (target : Target) (r : Request) :
    ((inspectAndUpdate d target r).2 = d ∧
      ((inspectAndUpdate d target r).1.accepts = false ∨ target = .temporary)) ∨
    ∃ usageState action, target = .original ∧
      (inspectAndUpdate d target r).1.accepts = true ∧
      (inspectAndUpdate d target r).2 =
        d.updateDialogDetails r.isShared r.msgInfo usageState action := by
  by_cases hmethod : r.method = .register ∨ r.method = .publish
  · simp [inspectAndUpdate, hmethod, Validity.accepts]
  · cases husage : r.usageUpdate with
    | none => simp [inspectAndUpdate, hmethod, updateUsageDetails, husage, Validity.accepts]
    | some update =>
      obtain ⟨usageState, action⟩ := update
      cases target with
      | temporary =>
        refine Or.inl ⟨?_, Or.inr rfl⟩
        cases hforked : r.isForked <;>
          simp [inspectAndUpdate, hmethod, updateUsageDetails, husage, hforked]
      | original =>
        refine Or.inr ⟨usageState, action, rfl, ?_⟩
        cases hforked : r.isForked <;>
          simp [inspectAndUpdate, hmethod, updateUsageDetails, husage, hforked,
            Validity.accepts]

/-- The same for a request within the dialog, which comes that far only with a CSeq
number that passes the check. -/
theorem handleRequest_cases (d : SipDialogState) (r : Request) :
    ((handleRequest d r).2 = d ∧
      ((handleRequest d r).1.accepts = false ∨ dialogFor d r = some .temporary)) ∨
    ∃ usageState action, dialogFor d r = some .original ∧
      d.validateRemoteCSeq r.method r.cSeqNumber r.prevStatusCode = .valid ∧
      (handleRequest d r).2 =
        d.updateDialogDetails r.isShared r.msgInfo usageState action := by
  cases htarget : dialogFor d r with
  | none => simp [handleRequest, htarget, Validity.accepts]
  | some target =>
    by_cases hvalid : d.validateRemoteCSeq r.method r.cSeqNumber r.prevStatusCode = .valid
    · have hrequest : handleRequest d r = inspectAndUpdate d target r := by
        simp [handleRequest, htarget, hvalid]
      rw [hrequest]
      rcases inspectAndUpdate_cases d target r with
        ⟨hd, hverdict⟩ | ⟨usageState, action, rfl, -, hd⟩
      · refine Or.inl ⟨hd, hverdict.imp_right ?_⟩
        rintro rfl
        rfl
      · exact Or.inr ⟨usageState, action, rfl, hvalid, hd⟩
    · refine Or.inl ⟨by simp [handleRequest, htarget, hvalid], Or.inl ?_⟩
      simp only [handleRequest, htarget, hvalid, ne_eq, not_false_eq_true, ↓reduceIte]
      rw [← Bool.not_eq_true]
      exact fun haccepts => hvalid (d.validateRemoteCSeq_of_accepts _ _ _ haccepts)

theorem method_ne_cancel_of_original {d : SipDialogState} {r : Request}
    (htarget : dialogFor d r = some .original) : r.method ≠ .cancel := by
  intro hcancel
  simp [dialogFor, hcancel] at htarget

namespace Increasing

theorem request {s : Run} {r : Request} (hs : Increasing s)
    (hwindow : KeepsWindow s (.request r)) :
    Increasing (s.record r (handleRequest s.dialog r)) := by
  obtain ⟨hack, hnumber⟩ := hwindow
  rcases handleRequest_cases s.dialog r with
    ⟨hd, hverdict⟩ | ⟨usageState, action, htarget, hvalid, hd⟩
  · have hrecord : s.record r (handleRequest s.dialog r) = s := by
      cases hnumbered : r.isNumbered with
      | false => simp [Run.record, hd, hnumbered]
      | true =>
        have hrefused := hverdict.resolve_right (hnumber hnumbered).2
        simp [Run.record, hd, hrefused]
    rw [hrecord]
    exact hs
  · cases hnumbered : r.isNumbered with
    | true =>
      have hcseq : (handleRequest s.dialog r).2.remoteCSeq = r.cSeqNumber := by
        rw [hd]
        exact s.dialog.updateDialogDetails_remoteCSeq _ r _ _ (hnumber hnumbered).1
      have hlt := s.dialog.lt_of_validateRemoteCSeq r hnumbered hvalid
      simp only [Run.record, hnumbered, Bool.true_and]
      split
      · exact hs.append hlt hcseq
      · exact hs.raise (hcseq ▸ UInt32.le_of_lt hlt)
    | false =>
      have hmethod : r.method = .ack := by
        simpa [Request.isNumbered, method_ne_cancel_of_original htarget] using hnumbered
      rw [hmethod] at hvalid
      have hle := hack hmethod (s.dialog.ack_of_validateRemoteCSeq _ _ hvalid)
      simp only [Run.record, hnumbered, Bool.false_and, Bool.false_eq_true, ↓reduceIte, hd]
      refine hs.raise ?_
      by_cases hstate : s.dialog.state = .terminated
      · rw [SipDialogState.updateDialogDetails, if_pos hstate]
        exact UInt32.le_refl _
      · rw [s.dialog.updateDialogDetails_remoteCSeq _ r _ _ hstate]
        exact hle

theorem initialRequest (r : Request) :
    Increasing ((Run.mk (.new false) []).record r (handleInitialRequest (.new false) r)) := by
  have hsub : ∀ verdict : Validity × SipDialogState,
      (verdict.1.accepts = false ∨ verdict.2.remoteCSeq = r.cSeqNumber) →
      Increasing ((Run.mk (.new false) []).record r verdict) := by
    intro verdict hverdict
    simp only [Run.record, List.nil_append]
    split
    · rename_i haccepted
      simp only [Bool.and_eq_true] at haccepted
      rcases hverdict with hrefused | hcseq
      · simp [hrefused] at haccepted
      · constructor
        · exact List.pairwise_singleton _ _
        · intro n hn
          rw [List.mem_singleton.mp hn, hcseq]
          exact UInt32.le_refl _
    · exact ⟨List.Pairwise.nil, fun n hn => absurd hn List.not_mem_nil⟩
  apply hsub
  have hupdate := inspectAndUpdate_cases (.new false) .original { r with isForked := false }
  have hdiscarded : ∀ d : SipDialogState, (Validity.discarded, d).1.accepts = false :=
    fun _ => rfl
  simp only [handleInitialRequest]
  split_ifs <;> split <;> try exact Or.inl (hdiscarded _)
  rcases hupdate with ⟨-, hrefused | htarget⟩ | ⟨usageState, action, -, -, hd⟩
  · exact Or.inl hrefused
  · cases htarget
  · refine Or.inr ?_
    rw [hd]
    exact SipDialogState.updateDialogDetails_remoteCSeq _ _
      { r with isForked := false } _ _ (by decide)

theorem step {s s' : Run} {e : Event} (hs : Increasing s) (hwindow : KeepsWindow s e)
    (hstep : DialogStep s e s') : Increasing s' := by
  cases hstep with
  | initialRequest hnew =>
    subst hnew
    exact initialRequest _
  | request => exact hs.request hwindow
  | exchange hexchange =>
    refine hs.raise ?_
    rw [SipDialogState.updateDialogDetails_exchange _ _ _ _ _ hexchange]
    exact UInt32.le_refl _

end Increasing

/-- In every run whose steps keep the window the CSeq numbers of the accepted requests
increase. -/
theorem accepted_increasing {s : Run} (hs : (dialogs.restrict KeepsWindow).Reachable s) :
    s.accepted.Pairwise (· < ·) := by
  have hinc : Increasing s := by
    refine hs.restrict_invariant ?_ ?_
    · rintro _ ⟨isCaller, rfl⟩
      exact ⟨List.Pairwise.nil, fun n hn => absurd hn List.not_mem_nil⟩
    · intro s e s' hs hwindow hstep
      exact hs.step hwindow hstep
  exact hinc.pairwise

/-- A request as the INVITE usage of a dialog in the given state takes it. -/
def inviteUsageRequest (method : SipMethod) (cSeqNumber : UInt32) (state : DState) :
    Request where
  method := method
  cSeqNumber := cSeqNumber
  hasToTag := state != .init
  prevStatusCode := 0
  isForked := false
  hasUsage := state != .init
  isShared := true
  usageUpdate := some (some state, .transitState)

theorem reachable_early : (dialogs.restrict KeepsWindow).Reachable
    ⟨⟨false, 0, 1, 1, .early⟩, [1]⟩ := by
  have hnew : (dialogs.restrict KeepsWindow).Reachable ⟨.new false, []⟩ := .init ⟨false, rfl⟩
  have hinvite : (dialogs.restrict KeepsWindow).Reachable ⟨⟨false, 0, 1, 1, .init⟩, [1]⟩ :=
    .step (.initialRequest (inviteUsageRequest .invite 1 .init)) hnew
      ⟨trivial, .initialRequest rfl⟩
  exact .step (.exchange ⟨true, false, .invite, 1⟩ true (some .early) .transitState) hinvite
    ⟨trivial, .exchange rfl⟩

/-- A PRACK follows the INVITE. -/
theorem accepted_increasing_prack : [(1 : UInt32), 2].Pairwise (· < ·) := by
  have hprack : KeepsWindow ⟨⟨false, 0, 1, 1, .early⟩, [1]⟩
      (.request (inviteUsageRequest .prack 2 .early)) :=
    ⟨nofun, fun _ => ⟨by decide, by decide⟩⟩
  have hreachable : (dialogs.restrict KeepsWindow).Reachable
      ⟨⟨false, 0, 2, 1, .early⟩, [1, 2]⟩ :=
    .step (.request (inviteUsageRequest .prack 2 .early)) reachable_early ⟨hprack, .request⟩
  exact accepted_increasing hreachable

/-- The ACK of the INVITE opens the window again for the PRACK that came before it. -/
theorem not_accepted_increasing :
    ¬ ∀ s, dialogs.Reachable s → s.accepted.Pairwise (· < ·) := by
  intro hincreasing
  have hprack : dialogs.Reachable ⟨⟨false, 0, 2, 1, .early⟩, [1, 2]⟩ :=
    .step (.request (inviteUsageRequest .prack 2 .early)) reachable_early.of_restrict .request
  have hok : dialogs.Reachable ⟨⟨false, 0, 2, 1, .confirmed⟩, [1, 2]⟩ :=
    .step (.exchange ⟨true, false, .invite, 1⟩ true (some .confirmed) .transitState) hprack
      (.exchange rfl)
  have hack : dialogs.Reachable ⟨⟨false, 0, 1, 1, .confirmed⟩, [1, 2]⟩ :=
    .step (.request (inviteUsageRequest .ack 1 .confirmed)) hok .request
  have hreplay : dialogs.Reachable ⟨⟨false, 0, 2, 1, .confirmed⟩, [1, 2, 2]⟩ :=
    .step (.request (inviteUsageRequest .prack 2 .confirmed)) hack .request
  exact absurd (hincreasing _ hreplay) (by decide)

end ImsStack.SipCore
