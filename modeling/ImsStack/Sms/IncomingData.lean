import ImsStack.Sms.RPduCodec
import ImsStack.Sms.SmsLayers

/-!
A received RP-DATA: how often it is answered in the course of a run, and what the maps
of the relay layer keep of it.
-/

namespace ImsStack.Sms

open Platform.Bytes TransitionSystem

namespace SmsStack

/-- The answers to the message of a state machine that the native side has taken. -/
def answersTo (s : SmsStack) (id : Nat) : List Sent :=
  s.sent.filter fun sent => sent.answers = some id

/-- Neither map of the relay layer for received messages has the token. -/
def Cleared (s : SmsStack) (token : Token) : Prop :=
  s.mtTokenMRMap token = none ∧ s.tokenStateTrackerMap token = none

/-- The token of the next received RP-DATA. -/
def nextMtToken (s : SmsStack) : Token := (s.mtToken + 1) ||| mtTokenMask

/-- The state machine does not wait for the acknowledgement of the transfer layer. -/
def Refused (s : SmsStack) (id : Nat) : Prop :=
  (s.machine id).currentState ≠ .waitToSendRpAckToNw

end SmsStack

/-- The addresses and the user data of an RP-DATA are complete, and the user data is no
longer than allowed. -/
def WellFormed (pdu : Octets) : Prop :=
  ∃ index length, SmsRPdu.userDataLengthIndex pdu = some index ∧ pdu[index]? = some length ∧
    length.toNat ≤ maxTpduLength ∧ index + 1 + length.toNat ≤ pdu.length

/-- Received from a state, an RP-DATA is answered at most once, and at once with an
RP-ERROR when it is malformed or refused; once answered or refused, it leaves nothing in
the maps, unless a later message was given the same token. -/
structure AnsweredOnce (r : Run) (env : Environment) (pdu : Octets) (listenerResult : Result) :
    Prop where
  atMostOnce : ∀ r', (smsRuns.startingAt { r with
      stack := r.stack.notifyIncomingMessage env pdu listenerResult }).Reachable r' →
    (r'.stack.answersTo r.stack.machineCount).length ≤ 1
  atOnce : (¬ WellFormed pdu ∨
      (r.stack.notifyIncomingMessage env pdu listenerResult).Refused r.stack.machineCount) →
    ∃ reference error, pdu[1]? = some reference ∧
      (r.stack.notifyIncomingMessage env pdu listenerResult).answersTo r.stack.machineCount =
        [error] ∧ error.messageType = .rpError ∧ error.messageRef = reference.toNat ∧
      error.pdu[1]? = some reference
  nothingLeft : ∀ r', (smsRuns.startingAt { r with
      stack := r.stack.notifyIncomingMessage env pdu listenerResult }).Reachable r' →
    (r'.stack.answersTo r.stack.machineCount ≠ [] ∨
      (r.stack.notifyIncomingMessage env pdu listenerResult).Refused r.stack.machineCount) →
    (∀ id, r.stack.machineCount < id → id < r'.stack.machineCount →
      (r'.stack.machine id).token ≠ r.stack.nextMtToken) →
    r'.stack.Cleared r.stack.nextMtToken

/-- The message is one that the listener is asked about: its fields are announced, the
length of the originating address is no negative octet, and the user data has the octet
of the message reference. -/
def Indicated (pdu : Octets) : Prop :=
  ∃ origLength index length, pdu[2]? = some origLength ∧ origLength.toNat < 128 ∧
    SmsRPdu.userDataLengthIndex pdu = some index ∧ pdu[index]? = some length ∧
    2 ≤ length.toNat ∧ length.toNat ≤ maxTpduLength

/-- The originating address of a message. -/
def originatingAddress (env : Environment) (pdu : Octets) : Option JavaString :=
  match pdu[2]? with
  | none => none
  | some origLength => if origLength.toNat = 0 then none else env.bcd pdu 3 origLength.toNat

/-- Where an RP-ERROR for the message goes. -/
def errorTarget (env : Environment) (pdu : Octets) : Option JavaString :=
  let targetAddress :=
    if isNullOrEmpty env.psiValue then originatingAddress env pdu else env.psiValue
  if env.useDialedNumber && targetAddress.isSome then originatingAddress env pdu
  else targetAddress

/-- The relay layer gets as far as the listener, which accepts only what is well formed,
and where it refuses the RP-ERROR has an address to go to. -/
structure Answerable (env : Environment) (pdu : Octets) (listenerResult : Result) : Prop where
  indicated : Indicated pdu
  accepted : listenerResult = .success → WellFormed pdu
  refused : listenerResult ≠ .success → errorTarget env pdu ≠ none

namespace SmsStack

/-! ### What the steps do to the answers and the maps -/

/-- No message is answered, and the maps gain at most state machines that are new. -/
structure MtFrame (s s' : SmsStack) : Prop where
  machineCount : s.machineCount ≤ s'.machineCount
  token : ∀ id, id < s.machineCount → (s'.machine id).token = (s.machine id).token
  answers : ∀ id, s'.answersTo id = s.answersTo id
  tracked : ∀ token id, s'.tokenStateTrackerMap token = some id →
    s.tokenStateTrackerMap token = some id ∨
      s.machineCount ≤ id ∧ id < s'.machineCount ∧ (s'.machine id).token = token
  mapped : ∀ token, s.mtTokenMRMap token = none → s'.mtTokenMRMap token = none

namespace MtFrame

theorem refl (s : SmsStack) : MtFrame s s :=
  ⟨Nat.le_refl _, fun _ _ => rfl, fun _ => rfl, fun _ _ htracked => Or.inl htracked,
    fun _ hnone => hnone⟩

theorem trans {s s' s'' : SmsStack} (h : MtFrame s s') (h' : MtFrame s' s'') :
    MtFrame s s'' := by
  refine ⟨Nat.le_trans h.machineCount h'.machineCount, ?_, ?_, ?_, ?_⟩
  · intro id hid
    exact (h'.token id (Nat.lt_of_lt_of_le hid h.machineCount)).trans (h.token id hid)
  · intro id
    exact (h'.answers id).trans (h.answers id)
  · intro token id htracked
    rcases h'.tracked token id htracked with hold | ⟨hle, hlt, htoken⟩
    · rcases h.tracked token id hold with holder | ⟨hle, hlt, htoken⟩
      · exact Or.inl holder
      · exact Or.inr ⟨hle, Nat.lt_of_lt_of_le hlt h'.machineCount,
          (h'.token id hlt).trans htoken⟩
    · exact Or.inr ⟨Nat.le_trans h.machineCount hle, hlt, htoken⟩
  · intro token hnone
    exact h'.mapped token (h.mapped token hnone)

theorem of_eq {s s' : SmsStack} (hcount : s'.machineCount = s.machineCount)
    (hmachine : s'.machine = s.machine) (hsent : s'.sent = s.sent)
    (htracker : s'.tokenStateTrackerMap = s.tokenStateTrackerMap)
    (hmap : s'.mtTokenMRMap = s.mtTokenMRMap) : MtFrame s s' := by
  refine ⟨Nat.le_of_eq hcount.symm, ?_, ?_, ?_, ?_⟩
  · intro id _
    rw [hmachine]
  · intro id
    rw [answersTo, answersTo, hsent]
  · intro token id htracked
    exact Or.inl (htracker ▸ htracked)
  · intro token hnone
    rw [hmap]
    exact hnone

end MtFrame

theorem mtFrame_untrack (s : SmsStack) (token : Token) : MtFrame s (s.untrack token) := by
  refine ⟨Nat.le_refl _, fun _ _ => rfl, fun _ => rfl, ?_, fun _ hnone => hnone⟩
  intro token' id htracked
  by_cases heq : token' = token
  · subst heq
    rw [tracker_untrack_self] at htracked
    cases htracked
  · rw [tracker_untrack_of_ne _ heq] at htracked
    exact Or.inl htracked

theorem mtFrame_removeMoMR (s : SmsStack) (messageReference : Int) :
    MtFrame s (s.removeMoMR messageReference) :=
  .of_eq rfl rfl rfl rfl rfl

theorem mtFrame_setMachine (s : SmsStack) {id : Nat} {m : SmsRLStateMachine}
    (htoken : m.token = (s.machine id).token) : MtFrame s (s.setMachine id m) := by
  refine ⟨Nat.le_refl _, ?_, fun _ => rfl, fun _ _ htracked => Or.inl htracked,
    fun _ hnone => hnone⟩
  intro other _
  by_cases heq : other = id
  · subst heq
    rw [machine_setMachine_self]
    exact htoken
  · rw [machine_setMachine_of_ne _ _ heq]

theorem mtFrame_addMachine (s : SmsStack) (m : SmsRLStateMachine) :
    MtFrame s (s.addMachine m) := by
  refine ⟨Nat.le_succ _, ?_, fun _ => rfl, ?_, fun _ hnone => hnone⟩
  · intro id hid
    rw [machine_addMachine_of_lt _ _ hid]
  · intro token id htracked
    by_cases heq : token = m.token
    · subst heq
      rw [tracker_addMachine_self] at htracked
      obtain rfl := Option.some.inj htracked
      exact Or.inr ⟨Nat.le_refl _, Nat.lt_succ_self _, by rw [machine_addMachine_self]⟩
    · rw [tracker_addMachine_of_ne _ heq] at htracked
      exact Or.inl htracked

theorem mtFrame_sendMessage (s : SmsStack) (env : Environment) (messageType : RpMessageType)
    (messageRef : Int) (pdu : Octets) (psiSmsc dialedNumber : Option JavaString) :
    MtFrame s
      (s.sendMessage env messageType messageRef pdu psiSmsc dialedNumber none).2 := by
  simp only [sendMessage]
  split
  · exact .refl s
  · refine ⟨Nat.le_refl _, fun _ _ => rfl, ?_, fun _ _ htracked => Or.inl htracked,
      fun _ hnone => hnone⟩
    intro id
    simp [answersTo]

theorem mtFrame_requestSendNext (s : SmsStack) : MtFrame s s.requestSendNext := by
  simp only [requestSendNext]
  split
  · exact .refl s
  · split
    · exact .refl s
    · exact .of_eq rfl rfl rfl rfl rfl

theorem mtFrame_notifyRLReportIndication (s : SmsStack) (token : Token) (messageRef : Int)
    (result : SendStatus) (reason causeCode : Int) :
    MtFrame s (s.notifyRLReportIndication token messageRef result reason causeCode) := by
  simp only [notifyRLReportIndication]
  split
  · refine .trans ?_ (mtFrame_requestSendNext _)
    exact .of_eq rfl rfl rfl rfl rfl
  · refine .trans ?_ (mtFrame_requestSendNext _)
    exact .of_eq rfl rfl rfl rfl rfl

theorem machine_requestSendNext (s : SmsStack) : s.requestSendNext.machine = s.machine := by
  simp only [requestSendNext]
  split
  · rfl
  · split <;> rfl

theorem machine_notifyRLReportIndication (s : SmsStack) (token : Token) (messageRef : Int)
    (result : SendStatus) (reason causeCode : Int) :
    (s.notifyRLReportIndication token messageRef result reason causeCode).machine =
      s.machine := by
  simp only [notifyRLReportIndication]
  split
  · rw [machine_requestSendNext]
  · rw [machine_requestSendNext]
    rfl

theorem mtFrame_report (s : SmsStack) {id : Nat} {m : SmsRLStateMachine}
    (htoken : m.token = (s.machine id).token) (messageRef : Int) (result : SendStatus)
    (reason causeCode : Int) :
    MtFrame s ((s.notifyRLReportIndication (s.machine id).token messageRef result reason
      causeCode).setMachine id m) := by
  refine (s.mtFrame_notifyRLReportIndication _ _ _ _ _).trans (mtFrame_setMachine _ ?_)
  rw [machine_notifyRLReportIndication]
  exact htoken

theorem mtFrame_onRPAckFromNetwork (s : SmsStack) (id : Nat) :
    MtFrame s (s.onRPAckFromNetwork id) := by
  simp only [onRPAckFromNetwork]
  split
  · apply mtFrame_report
    rfl
  · exact .refl s

theorem mtFrame_onRPErrorFromNetwork (s : SmsStack) (env : Environment) (id : Nat)
    (moRPError : SmsRPdu) : MtFrame s (s.onRPErrorFromNetwork env id moRPError) := by
  simp only [onRPErrorFromNetwork]
  split
  · apply mtFrame_report
    rfl
  · exact .refl s

theorem mtFrame_onTR1TimerExpired (s : SmsStack) (id : Nat) :
    MtFrame s (s.onTR1TimerExpired id) := by
  simp only [onTR1TimerExpired]
  split
  · apply mtFrame_report
    rfl
  · exact mtFrame_setMachine _ rfl

theorem mtFrame_onTR2TimerExpired (s : SmsStack) (id : Nat) :
    MtFrame s (s.onTR2TimerExpired id) := by
  simp only [onTR2TimerExpired]
  split <;> exact mtFrame_setMachine _ rfl

theorem mtFrame_onSipResponseForRPMessage (s : SmsStack) (id : Nat) (isSuccess : Bool)
    (status : SendStatus) : MtFrame s (s.onSipResponseForRPMessage id isSuccess status) := by
  simp only [onSipResponseForRPMessage]
  split
  · split
    · exact .refl s
    · apply mtFrame_report
      rfl
  · exact .refl s

theorem mtFrame_notifyStatusForOutgoingMessage (s : SmsStack) (statusResult : MoStatus)
    (messageReference : Int) :
    MtFrame s (s.notifyStatusForOutgoingMessage statusResult messageReference) := by
  simp only [notifyStatusForOutgoingMessage]
  split
  · exact .refl s
  · split
    · exact .refl s
    · have huntracked := (s.mtFrame_removeMoMR messageReference).trans
        (mtFrame_untrack _ ‹Token›)
      split
      · exact huntracked
      · exact huntracked.trans (mtFrame_onSipResponseForRPMessage _ _ _ _)

theorem mtFrame_onRPDataFromTL (s : SmsStack) (env : Environment) (id : Nat)
    (moRPData : SmsRPdu) : MtFrame s (s.onRPDataFromTL env id moRPData).2 := by
  simp only [onRPDataFromTL]
  split
  · split
    · exact .refl s
    · split
      · exact mtFrame_setMachine _ rfl
      · rename_i tpMr _ encodedPdu _
        have hsend := s.mtFrame_sendMessage env moRPData.messageType moRPData.messageRef
          encodedPdu (s.machine id).psiSmsc (s.machine id).destinationAddress
        split
        · refine hsend.trans (mtFrame_setMachine _ ?_)
          rw [sendMessage_machine]
        · refine hsend.trans (mtFrame_setMachine _ ?_)
          rw [sendMessage_machine]
  · exact .refl s

theorem mtFrame_sendMoMessage (s : SmsStack) (env : Environment) (param : TpduParam) :
    MtFrame s (s.sendMoMessage env param).2 := by
  simp only [sendMoMessage]
  split
  · exact .refl s
  · split
    · exact .refl s
    · split
      · exact .of_eq rfl rfl rfl rfl rfl
      · refine .trans ?_ (mtFrame_onRPDataFromTL _ _ _ _)
        refine .trans ?_ (mtFrame_addMachine _ _)
        exact .of_eq rfl rfl rfl rfl rfl

theorem mtFrame_handOver (s : SmsStack) (env : Environment) (param : TpduParam) :
    MtFrame s (s.handOver env param).2 := by
  refine .trans ?_ (mtFrame_sendMoMessage _ env param)
  exact .of_eq rfl rfl rfl rfl rfl

theorem mtFrame_enqueueAndSendMessageToRL (s : SmsStack) (env : Environment)
    (param : TpduParam) : MtFrame s (s.enqueueAndSendMessageToRL env param).2 := by
  simp only [enqueueAndSendMessageToRL]
  split
  · exact .refl s
  · split
    · refine .trans ?_ (mtFrame_handOver _ env param)
      exact .of_eq rfl rfl rfl rfl rfl
    · split
      · exact .refl s
      · exact .of_eq rfl rfl rfl rfl rfl

theorem mtFrame_handleMessage (s : SmsStack) (env : Environment) :
    MtFrame s (s.handleMessage env) := by
  simp only [handleMessage]
  split
  · exact .refl s
  · refine .trans ?_ (mtFrame_handOver _ env _)
    exact .of_eq rfl rfl rfl rfl rfl

theorem mtFrame_sendRPError (s : SmsStack) (env : Environment) (deliverStatusResult : Int)
    (mtData : SmsRPdu) (targetAddress : Option JavaString) :
    MtFrame s (s.sendRPError env deliverStatusResult mtData targetAddress none) := by
  simp only [sendRPError]
  split
  · exact .refl s
  · exact mtFrame_sendMessage _ _ _ _ _ _ _

theorem mtFrame_onReportFromNetwork (s : SmsStack) (messageRef : Int) (token : Token)
    {onReport : SmsStack → Nat → SmsStack} (hreport : ∀ s id, MtFrame s (onReport s id)) :
    MtFrame s (s.onReportFromNetwork messageRef token onReport) := by
  have hremoved := s.mtFrame_removeMoMR messageRef
  simp only [onReportFromNetwork]
  split
  · exact hremoved
  · exact (hremoved.trans (hreport _ _)).trans (mtFrame_untrack _ _)

/-- One message may be answered, whose token is then in neither map; what the maps gain
belongs to new state machines. -/
structure MtStep (s s' : SmsStack) : Prop where
  machineCount : s.machineCount ≤ s'.machineCount
  token : ∀ id, id < s.machineCount → (s'.machine id).token = (s.machine id).token
  answers : ∀ id, s'.answersTo id = s.answersTo id ∨
    ∃ token answer, s'.answersTo id = s.answersTo id ++ [answer] ∧ s'.Cleared token ∧
      (s.tokenStateTrackerMap token = some id ∨
        id = s.machineCount ∧ id < s'.machineCount ∧ (s'.machine id).token = token)
  tracked : ∀ token id, s'.tokenStateTrackerMap token = some id →
    s.tokenStateTrackerMap token = some id ∨
      s.machineCount ≤ id ∧ id < s'.machineCount ∧ (s'.machine id).token = token
  mapped : ∀ token, s.mtTokenMRMap token = none → s'.mtTokenMRMap token = none ∨
    ∃ id, s.machineCount ≤ id ∧ id < s'.machineCount ∧ (s'.machine id).token = token

theorem MtFrame.mtStep {s s' : SmsStack} (h : MtFrame s s') : MtStep s s' :=
  ⟨h.machineCount, h.token, fun id => Or.inl (h.answers id), h.tracked,
    fun token hnone => Or.inl (h.mapped token hnone)⟩

/-- At most one answer to the message of a machine is sent. -/
structure MtAnswer (s s' : SmsStack) (id : Nat) : Prop where
  machineCount : s'.machineCount = s.machineCount
  token : ∀ other, (s'.machine other).token = (s.machine other).token
  tracker : s'.tokenStateTrackerMap = s.tokenStateTrackerMap
  map : s'.mtTokenMRMap = s.mtTokenMRMap
  answers : ∀ other, s'.answersTo other = s.answersTo other ∨
    other = id ∧ ∃ answer, s'.answersTo other = s.answersTo other ++ [answer]

theorem MtAnswer.refl (s : SmsStack) (id : Nat) : MtAnswer s s id :=
  ⟨rfl, fun _ => rfl, rfl, rfl, fun _ => Or.inl rfl⟩

theorem mtAnswer_sendMessage (s : SmsStack) (env : Environment) (messageType : RpMessageType)
    (messageRef : Int) (pdu : Octets) (psiSmsc dialedNumber : Option JavaString) (id : Nat) :
    MtAnswer s
      (s.sendMessage env messageType messageRef pdu psiSmsc dialedNumber (some id)).2 id := by
  simp only [sendMessage]
  split
  · exact .refl s id
  · rename_i address _
    refine ⟨rfl, fun _ => rfl, rfl, rfl, ?_⟩
    intro other
    by_cases heq : other = id
    · subst heq
      refine Or.inr ⟨rfl, ⟨messageType, messageRef, pdu, address, some other⟩, ?_⟩
      simp [answersTo]
    · exact Or.inl (by simp [answersTo, Ne.symm heq])

theorem MtAnswer.setMachine {s s' : SmsStack} {id : Nat} (h : MtAnswer s s' id)
    {m : SmsRLStateMachine} (htoken : m.token = (s.machine id).token) :
    MtAnswer s (s'.setMachine id m) id := by
  refine ⟨h.machineCount, ?_, h.tracker, h.map, h.answers⟩
  intro other
  by_cases heq : other = id
  · subst heq
    rw [machine_setMachine_self]
    exact htoken
  · rw [machine_setMachine_of_ne _ _ heq]
    exact h.token other

theorem mtAnswer_onRPAckFromTL (s : SmsStack) (env : Environment) (id : Nat)
    (mtRPAck : SmsRPdu) : MtAnswer s (s.onRPAckFromTL env id mtRPAck).2 id := by
  simp only [onRPAckFromTL]
  split
  · split
    · apply mtAnswer_sendMessage
    · apply (mtAnswer_sendMessage _ _ _ _ _ _ _ _).setMachine
      rfl
  · exact .refl s id

theorem mtAnswer_onRPErrorFromTL (s : SmsStack) (env : Environment) (id : Nat)
    (mtRPError : SmsRPdu) : MtAnswer s (s.onRPErrorFromTL env id mtRPError).2 id := by
  simp only [onRPErrorFromTL]
  split
  · split
    · apply mtAnswer_sendMessage
    · apply (mtAnswer_sendMessage _ _ _ _ _ _ _ _).setMachine
      rfl
  · exact .refl s id
  · exact .refl s id

theorem mtAnswer_sendRPError (s : SmsStack) (env : Environment) (deliverStatusResult : Int)
    (mtData : SmsRPdu) (targetAddress : Option JavaString) (id : Nat) :
    MtAnswer s (s.sendRPError env deliverStatusResult mtData targetAddress (some id)) id := by
  simp only [sendRPError]
  split
  · exact .refl s id
  · apply mtAnswer_sendMessage

theorem MtAnswer.mtStep_untrack {s s' : SmsStack} {token : Token} {id : Nat}
    (htracked : s.tokenStateTrackerMap token = some id)
    (h : MtAnswer (s.removeMtToken token) s' id) : MtStep s (s'.untrack token) := by
  have hmap : s'.mtTokenMRMap = Function.update s.mtTokenMRMap token none := h.map
  have htracker : s'.tokenStateTrackerMap = s.tokenStateTrackerMap := h.tracker
  have hcleared : (s'.untrack token).Cleared token := by
    refine ⟨?_, tracker_untrack_self _ _⟩
    exact (congrFun hmap token).trans (Function.update_self _ _ _)
  refine ⟨Nat.le_of_eq h.machineCount.symm, fun other _ => h.token other, ?_, ?_, ?_⟩
  · intro other
    rcases h.answers other with hsame | ⟨rfl, answer, hanswer⟩
    · exact Or.inl hsame
    · exact Or.inr ⟨token, answer, hanswer, hcleared, Or.inl htracked⟩
  · intro token' other htracked'
    rcases (mtFrame_untrack s' token).tracked token' other htracked' with hold | ⟨hle, hlt, -⟩
    · exact Or.inl (htracker ▸ hold)
    · exact absurd hlt (Nat.not_lt_of_le hle)
  · intro token' hnone
    refine Or.inl ((congrFun hmap token').trans ?_)
    by_cases heq : token' = token
    · subst heq
      exact Function.update_self _ _ _
    · rw [Function.update_of_ne heq]
      exact hnone

theorem mtStep_removeMtToken (s : SmsStack) (token : Token) :
    MtStep s (s.removeMtToken token) := by
  apply MtFrame.mtStep
  refine ⟨Nat.le_refl _, fun _ _ => rfl, fun _ => rfl, fun _ _ htracked => Or.inl htracked, ?_⟩
  intro token' hnone
  by_cases heq : token' = token
  · subst heq
    exact Function.update_self _ _ _
  · exact (Function.update_of_ne heq _ _).trans hnone

theorem mtStep_sendMtReport (s : SmsStack) (env : Environment) (token : Token)
    (rpType : RpMessageType) (tpdu : Option Octets) (statusResult : Int) :
    MtStep s (s.sendMtReport env token rpType tpdu statusResult).2 := by
  simp only [sendMtReport]
  split
  · exact (MtFrame.refl s).mtStep
  · split
    · rename_i report id _ htracked
      split
      · exact (mtAnswer_onRPAckFromTL _ _ _ _).mtStep_untrack htracked
      · exact (mtAnswer_onRPErrorFromTL _ _ _ _).mtStep_untrack htracked
    · exact mtStep_removeMtToken s token

/-! ### The reception of a message -/

/-- A machine for a received message, which is not yet answered. -/
structure Entered (s s' : SmsStack) : Prop where
  machineCount : s'.machineCount = s.machineCount + 1
  token : ∀ id, id < s.machineCount → (s'.machine id).token = (s.machine id).token
  new : (s'.machine s.machineCount).token = s.nextMtToken
  sent : s'.sent = s.sent
  tracker : s'.tokenStateTrackerMap =
    Function.update s.tokenStateTrackerMap s.nextMtToken (some s.machineCount)
  map : ∃ messageRef : Int,
    s'.mtTokenMRMap = Function.update s.mtTokenMRMap s.nextMtToken (some messageRef)

theorem Entered.setMachine {s s' : SmsStack} (h : Entered s s') {m : SmsRLStateMachine}
    (htoken : m.token = s.nextMtToken) : Entered s (s'.setMachine s.machineCount m) := by
  refine ⟨h.machineCount, ?_, ?_, h.sent, h.tracker, h.map⟩
  · intro id hid
    rw [machine_setMachine_of_ne _ _ (Nat.ne_of_lt hid)]
    exact h.token id hid
  · rw [machine_setMachine_self]
    exact htoken

theorem Entered.tracked {s s' : SmsStack} (h : Entered s s') {token : Token} {id : Nat}
    (htracked : s'.tokenStateTrackerMap token = some id) :
    s.tokenStateTrackerMap token = some id ∨
      id = s.machineCount ∧ (s'.machine id).token = token := by
  rw [h.tracker] at htracked
  by_cases heq : token = s.nextMtToken
  · subst heq
    rw [Function.update_self, Option.some.injEq] at htracked
    subst htracked
    exact Or.inr ⟨rfl, h.new⟩
  · rw [Function.update_of_ne heq] at htracked
    exact Or.inl htracked

theorem Entered.mapped {s s' : SmsStack} (h : Entered s s') {token : Token}
    (hnone : s.mtTokenMRMap token = none) :
    s'.mtTokenMRMap token = none ∨ (s'.machine s.machineCount).token = token := by
  obtain ⟨messageRef, hmap⟩ := h.map
  rw [hmap]
  by_cases heq : token = s.nextMtToken
  · exact Or.inr (h.new.trans heq.symm)
  · rw [Function.update_of_ne heq]
    exact Or.inl hnone

theorem Entered.mtStep {s s' : SmsStack} (h : Entered s s') : MtStep s s' := by
  have hcount : s.machineCount < s'.machineCount := by
    rw [h.machineCount]
    exact Nat.lt_succ_self _
  refine ⟨Nat.le_of_lt hcount, h.token, ?_, ?_, ?_⟩
  · intro id
    rw [answersTo, answersTo, h.sent]
    exact Or.inl rfl
  · intro token id htracked
    rcases h.tracked htracked with hold | ⟨rfl, htoken⟩
    · exact Or.inl hold
    · exact Or.inr ⟨Nat.le_refl _, hcount, htoken⟩
  · intro token hnone
    rcases h.mapped hnone with hstill | htoken
    · exact Or.inl hstill
    · exact Or.inr ⟨s.machineCount, Nat.le_refl _, hcount, htoken⟩

/-- What the transfer layer is given of a message, its message reference. -/
def indicated (mtRPData : SmsRPdu) : Option UInt8 := do
  let tpdu ← mtRPData.userData
  let _ ← frameworkPdu (mtRPData.rpdu.getD []) tpdu
  tpdu[1]?

section

variable (s : SmsStack) (id : Nat) {mtRPData : SmsRPdu} {listenerResult : Result}
  (hidle : (s.machine id).currentState = .idle)

include hidle

theorem onRPDataFromNetwork_failed (hindicated : indicated mtRPData = none) :
    s.onRPDataFromNetwork id mtRPData listenerResult =
      (none, s.setMachine id { s.machine id with rpMr := mtRPData.messageRef }) := by
  simp only [indicated] at hindicated
  simp only [onRPDataFromNetwork, hidle, hindicated]

theorem onRPDataFromNetwork_refused {tpMr : UInt8} (hindicated : indicated mtRPData = some tpMr)
    (hlistener : listenerResult ≠ .success) :
    s.onRPDataFromNetwork id mtRPData listenerResult =
      (some .tlFailure, s.setMachine id { s.machine id with
        rpMr := mtRPData.messageRef
        tpMr := tpMr.toNat
        destinationAddress := mtRPData.origAddr }) := by
  simp only [indicated] at hindicated
  simp only [onRPDataFromNetwork, hidle, hindicated, if_pos hlistener]

theorem onRPDataFromNetwork_accepted {tpMr : UInt8}
    (hindicated : indicated mtRPData = some tpMr) (hlistener : listenerResult = .success) :
    s.onRPDataFromNetwork id mtRPData listenerResult =
      (some .success, s.setMachine id { s.machine id with
        rpMr := mtRPData.messageRef
        tpMr := tpMr.toNat
        destinationAddress := mtRPData.origAddr
        currentState := .waitToSendRpAckToNw
        tr2Posted := true }) := by
  simp only [indicated] at hindicated
  subst hlistener
  simp only [onRPDataFromNetwork, hidle, hindicated, ne_eq, not_true_eq_false, ↓reduceIte]

end

/-- The ways the reception of a message can go. -/
inductive Received (s : SmsStack) (env : Environment) (mtData : SmsRPdu)
    (targetAddress : Option JavaString) (listenerResult : Result) (s' : SmsStack) : Prop where
  | failed : indicated mtData = none → Entered s s' → s'.Refused s.machineCount →
      Received s env mtData targetAddress listenerResult s'
  | accepted : indicated mtData ≠ none → listenerResult = .success → Entered s s' →
      ¬ s'.Refused s.machineCount → Received s env mtData targetAddress listenerResult s'
  | refused (entered : SmsStack) : indicated mtData ≠ none → listenerResult ≠ .success →
      Entered s entered → entered.Refused s.machineCount →
      s' = ((entered.sendRPError env deliverStatusErrorGeneric mtData targetAddress
        (some s.machineCount)).removeMtToken s.nextMtToken).untrack s.nextMtToken →
      Received s env mtData targetAddress listenerResult s'

/-- The layers with the token and the machine of a received message. -/
def entered (s : SmsStack) (mtData : SmsRPdu) (targetAddress : Option JavaString) : SmsStack :=
  { s with
    mtToken := s.mtToken + 1
    mtTokenMRMap :=
      Function.update s.mtTokenMRMap s.nextMtToken (some mtData.messageRef) }.addMachine
    (.new s.nextMtToken targetAddress mtData.origAddr)

theorem entered_entered (s : SmsStack) (mtData : SmsRPdu) (targetAddress : Option JavaString) :
    Entered s (s.entered mtData targetAddress) := by
  refine ⟨rfl, ?_, ?_, rfl, rfl, mtData.messageRef, rfl⟩
  · intro id hid
    exact congrArg SmsRLStateMachine.token (machine_addMachine_of_lt _ _ hid)
  · exact congrArg SmsRLStateMachine.token (machine_addMachine_self _ _)

section

variable {s s' : SmsStack} {env : Environment} {mtData : SmsRPdu}
  {targetAddress : Option JavaString} {listenerResult : Result}

theorem onDataFromNetwork_of_none
    (hresult : (s.entered mtData targetAddress).onRPDataFromNetwork s.machineCount mtData
      listenerResult = (none, s')) :
    s.onDataFromNetwork env mtData targetAddress listenerResult = s' := by
  simp only [entered, nextMtToken] at hresult
  simp only [onDataFromNetwork, hresult]

theorem onDataFromNetwork_of_success
    (hresult : (s.entered mtData targetAddress).onRPDataFromNetwork s.machineCount mtData
      listenerResult = (some .success, s')) :
    s.onDataFromNetwork env mtData targetAddress listenerResult = s' := by
  simp only [entered, nextMtToken] at hresult
  simp only [onDataFromNetwork, hresult, ne_eq, not_true_eq_false, ↓reduceIte]

theorem onDataFromNetwork_of_failure
    (hresult : (s.entered mtData targetAddress).onRPDataFromNetwork s.machineCount mtData
      listenerResult = (some .tlFailure, s')) :
    s.onDataFromNetwork env mtData targetAddress listenerResult =
      ((s'.sendRPError env deliverStatusErrorGeneric mtData targetAddress
        (some s.machineCount)).removeMtToken s.nextMtToken).untrack s.nextMtToken := by
  simp only [entered, nextMtToken] at hresult
  simp only [onDataFromNetwork, hresult, ne_eq, reduceCtorEq, not_false_eq_true, ↓reduceIte]
  rfl

end

theorem received_onDataFromNetwork (s : SmsStack) (env : Environment) (mtData : SmsRPdu)
    (targetAddress : Option JavaString) (listenerResult : Result) :
    Received s env mtData targetAddress listenerResult
      (s.onDataFromNetwork env mtData targetAddress listenerResult) := by
  have hentered := entered_entered s mtData targetAddress
  have hidle : ((s.entered mtData targetAddress).machine s.machineCount).currentState =
      .idle :=
    congrArg SmsRLStateMachine.currentState (machine_addMachine_self _ _)
  cases hindicated : indicated mtData with
  | none =>
    rw [onDataFromNetwork_of_none (onRPDataFromNetwork_failed _ _ hidle hindicated)]
    refine .failed hindicated (hentered.setMachine hentered.new) ?_
    rw [Refused, machine_setMachine_self]
    intro hwait
    cases hidle.symm.trans hwait
  | some tpMr =>
    have hsome : indicated mtData ≠ none := by
      rw [hindicated]
      rintro ⟨⟩
    by_cases hlistener : listenerResult = .success
    · rw [onDataFromNetwork_of_success
        (onRPDataFromNetwork_accepted _ _ hidle hindicated hlistener)]
      refine .accepted hsome hlistener (hentered.setMachine hentered.new) ?_
      rw [Refused, machine_setMachine_self]
      exact fun hne => hne rfl
    · rw [onDataFromNetwork_of_failure
        (onRPDataFromNetwork_refused _ _ hidle hindicated hlistener)]
      refine .refused _ hsome hlistener ?_ ?_ rfl
      · exact hentered.setMachine hentered.new
      · rw [Refused, machine_setMachine_self]
        intro hwait
        cases hidle.symm.trans hwait

theorem Received.mtStep {s s' : SmsStack} {env : Environment} {mtData : SmsRPdu}
    {targetAddress : Option JavaString} {listenerResult : Result}
    (h : Received s env mtData targetAddress listenerResult s') : MtStep s s' := by
  cases h with
  | failed _ hentered _ => exact hentered.mtStep
  | accepted _ _ hentered _ => exact hentered.mtStep
  | refused entered _ _ hentered _ heq =>
    have hanswer := entered.mtAnswer_sendRPError env deliverStatusErrorGeneric mtData
      targetAddress s.machineCount
    generalize entered.sendRPError env deliverStatusErrorGeneric mtData targetAddress
      (some s.machineCount) = errorSent at heq hanswer
    subst heq
    have hcount : errorSent.machineCount = s.machineCount + 1 :=
      hanswer.machineCount.trans hentered.machineCount
    have hlt : s.machineCount < errorSent.machineCount := by
      rw [hcount]
      exact Nat.lt_succ_self _
    have hnew : (errorSent.machine s.machineCount).token = s.nextMtToken :=
      (hanswer.token _).trans hentered.new
    have hcleared : ((errorSent.removeMtToken s.nextMtToken).untrack s.nextMtToken).Cleared
        s.nextMtToken :=
      ⟨Function.update_self _ _ _, tracker_untrack_self _ _⟩
    refine ⟨Nat.le_of_lt hlt, ?_, ?_, ?_, ?_⟩
    · intro id hid
      exact (hanswer.token id).trans (hentered.token id hid)
    · intro id
      have hsent : entered.answersTo id = s.answersTo id := by
        rw [answersTo, answersTo, hentered.sent]
      rcases hanswer.answers id with hsame | ⟨rfl, answer, hone⟩
      · exact Or.inl (hsame.trans hsent)
      · rw [hsent] at hone
        exact Or.inr ⟨_, answer, hone, hcleared, Or.inr ⟨rfl, hlt, hnew⟩⟩
    · intro token id htracked
      rcases (mtFrame_untrack _ _).tracked token id htracked with hold | ⟨hle, hbelow, -⟩
      · have htracker : errorSent.tokenStateTrackerMap token = some id := hold
        rw [hanswer.tracker] at htracker
        rcases hentered.tracked htracker with hbefore | ⟨rfl, htoken⟩
        · exact Or.inl hbefore
        · exact Or.inr ⟨Nat.le_refl _, hlt, (hanswer.token _).trans htoken⟩
      · exact absurd hbelow (Nat.not_lt_of_le hle)
    · intro token hnone
      rcases hentered.mapped hnone with hstill | htoken
      · rw [← hanswer.map] at hstill
        refine Or.inl ?_
        by_cases heq : token = s.nextMtToken
        · subst heq
          exact hcleared.1
        · exact (Function.update_of_ne heq _ _).trans hstill
      · exact Or.inr ⟨_, Nat.le_refl _, hlt, (hanswer.token _).trans htoken⟩

theorem mtStep_notifyIncomingMessage (s : SmsStack) (env : Environment) (pduData : Octets)
    (listenerResult : Result) :
    MtStep s (s.notifyIncomingMessage env pduData listenerResult) := by
  simp only [notifyIncomingMessage]
  split
  · exact (MtFrame.refl s).mtStep
  · split
    · split
      · exact (mtFrame_sendRPError _ _ _ _ _).mtStep
      · exact (mtFrame_onReportFromNetwork _ _ _ mtFrame_onRPAckFromNetwork).mtStep
    · split
      · exact (MtFrame.refl s).mtStep
      · exact (mtFrame_onReportFromNetwork _ _ _ fun s id =>
          mtFrame_onRPErrorFromNetwork s env id _).mtStep
    · exact (received_onDataFromNetwork _ _ _ _ _).mtStep
    · exact (mtFrame_sendRPError _ _ _ _ _).mtStep

end SmsStack

open SmsStack

theorem SmsStep.mtStep {r r' : Run} {e : Event} (h : SmsStep r e r') :
    MtStep r.stack r'.stack := by
  cases h with
  | sendMoTPdu => exact (mtFrame_enqueueAndSendMessageToRL _ _ _).mtStep
  | sendMemoryAvailabilityNotification =>
    exact (mtFrame_enqueueAndSendMessageToRL _ _ _).mtStep
  | handleMessage => exact (mtFrame_handleMessage _ _).mtStep
  | notifyIncomingMessage => exact mtStep_notifyIncomingMessage _ _ _ _
  | notifyStatusForOutgoingMessage =>
    exact (mtFrame_notifyStatusForOutgoingMessage _ _ _).mtStep
  | tr1TimerExpired => exact (mtFrame_onTR1TimerExpired _ _).mtStep
  | tr2TimerExpired => exact (mtFrame_onTR2TimerExpired _ _).mtStep
  | sendReportTPdu => exact mtStep_sendMtReport _ _ _ _ _ _

/-! ### Runs -/

/-- A tracked machine has the token it is tracked by and has not been answered. -/
structure Tracked (s : SmsStack) : Prop where
  lt : ∀ token id, s.tokenStateTrackerMap token = some id → id < s.machineCount
  token : ∀ token id, s.tokenStateTrackerMap token = some id → (s.machine id).token = token
  unanswered : ∀ token id, s.tokenStateTrackerMap token = some id → s.answersTo id = []
  unborn : ∀ id, s.machineCount ≤ id → s.answersTo id = []
  once : ∀ id, (s.answersTo id).length ≤ 1

theorem Tracked.step {s s' : SmsStack} (h : Tracked s) (hstep : MtStep s s') : Tracked s' := by
  -- an answer comes from a machine that was tracked or is new
  have hfirst : ∀ id token, (s.tokenStateTrackerMap token = some id ∨
      id = s.machineCount ∧ id < s'.machineCount ∧ (s'.machine id).token = token) →
      s.answersTo id = [] := by
    rintro id token (htracked | ⟨rfl, -⟩)
    · exact h.unanswered token id htracked
    · exact h.unborn _ (Nat.le_refl _)
  have hlt : ∀ token id, s'.tokenStateTrackerMap token = some id → id < s'.machineCount := by
    intro token id htracked
    rcases hstep.tracked token id htracked with hold | ⟨-, hlt, -⟩
    · exact Nat.lt_of_lt_of_le (h.lt token id hold) hstep.machineCount
    · exact hlt
  have htoken : ∀ token id, s'.tokenStateTrackerMap token = some id →
      (s'.machine id).token = token := by
    intro token id htracked
    rcases hstep.tracked token id htracked with hold | ⟨-, -, htoken⟩
    · exact (hstep.token id (h.lt token id hold)).trans (h.token token id hold)
    · exact htoken
  refine ⟨hlt, htoken, ?_, ?_, ?_⟩
  · intro token id htracked
    rcases hstep.answers id with hsame | ⟨token', answer, -, hcleared, hwhence⟩
    · rw [hsame]
      rcases hstep.tracked token id htracked with hold | ⟨hle, -, -⟩
      · exact h.unanswered token id hold
      · exact h.unborn id hle
    · have heq : token' = token := by
        rcases hwhence with hold | ⟨-, -, htoken'⟩
        · rw [← htoken token id htracked, hstep.token id (h.lt token' id hold),
            h.token token' id hold]
        · rw [← htoken', htoken token id htracked]
      subst heq
      rw [hcleared.2] at htracked
      cases htracked
  · intro id hle
    rcases hstep.answers id with hsame | ⟨token, answer, -, -, hold | ⟨rfl, hlt, -⟩⟩
    · rw [hsame]
      exact h.unborn id (Nat.le_trans hstep.machineCount hle)
    · exact absurd (h.lt token id hold)
        (Nat.not_lt_of_le (Nat.le_trans hstep.machineCount hle))
    · exact absurd hlt (Nat.not_lt_of_le hle)
  · intro id
    rcases hstep.answers id with hsame | ⟨token, answer, hone, -, hwhence⟩
    · rw [hsame]
      exact h.once id
    · rw [hone, hfirst id token hwhence]
      exact Nat.le_refl _

theorem tracked_of_reachable {r : Run} (hr : smsRuns.Reachable r) : Tracked r.stack := by
  refine hr.invariant (I := fun r => Tracked r.stack) ?_ ?_
  · rintro _ rfl
    exact ⟨nofun, nofun, nofun, fun _ _ => rfl, fun _ => Nat.zero_le _⟩
  · intro r e r' htracked hstep
    exact htracked.step hstep.mtStep

/-- The message of a machine: once it is answered, or from the start, its token is in
neither map unless it was given to a later machine. -/
structure Left (fromStart : Prop) (id : Nat) (token : Token) (s : SmsStack) : Prop where
  lt : id < s.machineCount
  hasToken : (s.machine id).token = token
  cleared : s.answersTo id ≠ [] ∨ fromStart →
    s.Cleared token ∨
      ∃ later, id < later ∧ later < s.machineCount ∧ (s.machine later).token = token

theorem Left.step {fromStart : Prop} {id : Nat} {token : Token} {s s' : SmsStack}
    (h : Left fromStart id token s) (htracked : Tracked s) (hstep : MtStep s s') :
    Left fromStart id token s' := by
  have htoken : (s'.machine id).token = token := (hstep.token id h.lt).trans h.hasToken
  refine ⟨Nat.lt_of_lt_of_le h.lt hstep.machineCount, htoken, ?_⟩
  -- what was cleared stays so unless a new machine has the token
  have hkept : (s.Cleared token ∨ ∃ later, id < later ∧ later < s.machineCount ∧
      (s.machine later).token = token) → s'.Cleared token ∨ ∃ later, id < later ∧
        later < s'.machineCount ∧ (s'.machine later).token = token := by
    rintro (hcleared | ⟨later, hlater, hlt, hsame⟩)
    · rcases hstep.mapped token hcleared.1 with hmap | ⟨later, hle, hlt, hlater⟩
      · cases htracker : s'.tokenStateTrackerMap token with
        | none => exact Or.inl ⟨hmap, htracker⟩
        | some later =>
          rcases hstep.tracked token later htracker with hold | ⟨hle, hlt, hlater⟩
          · rw [hcleared.2] at hold
            cases hold
          · exact Or.inr ⟨later, Nat.lt_of_lt_of_le h.lt hle, hlt, hlater⟩
      · exact Or.inr ⟨later, Nat.lt_of_lt_of_le h.lt hle, hlt, hlater⟩
    · exact Or.inr ⟨later, hlater, Nat.lt_of_lt_of_le hlt hstep.machineCount,
        (hstep.token later hlt).trans hsame⟩
  rintro (hanswered | hstart)
  · rcases hstep.answers id with hsame | ⟨token', answer, -, hcleared, hold | ⟨rfl, -⟩⟩
    · exact hkept (h.cleared (Or.inl (hsame ▸ hanswered)))
    · obtain rfl : token' = token := (htracked.token token' id hold).symm.trans h.hasToken
      exact Or.inl hcleared
    · exact absurd h.lt (Nat.lt_irrefl _)
  · exact hkept (h.cleared (Or.inr hstart))

/-- What holds of the message when it has been received holds in the run that follows. -/
theorem left_of_reachable {fromStart : Prop} {id : Nat} {token : Token} {r r' : Run}
    (htracked : Tracked r.stack) (hleft : Left fromStart id token r.stack)
    (hr' : (smsRuns.startingAt r).Reachable r') :
    Tracked r'.stack ∧ Left fromStart id token r'.stack := by
  refine hr'.invariant (I := fun r => Tracked r.stack ∧ Left fromStart id token r.stack) ?_ ?_
  · rintro _ rfl
    exact ⟨htracked, hleft⟩
  · rintro r e r' ⟨htracked, hleft⟩ hstep
    have hmt := SmsStep.mtStep hstep
    exact ⟨htracked.step hmt, hleft.step htracked hmt⟩

/-! ### The fields of a received message -/

/-- An RP-DATA whose fields are announced. -/
structure Announced (pdu : Octets) (reference origLength destLength length : UInt8) : Prop where
  messageRef : pdu[1]? = some reference
  origAddr : pdu[2]? = some origLength
  destAddr : pdu[3 + origLength.toNat]? = some destLength
  userDataLength : pdu[4 + origLength.toNat + destLength.toNat]? = some length

theorem announced_of_index {pdu : Octets} {mti length : UInt8} {index : Nat}
    (hmti : pdu[0]? = some mti) (htype : mti.toNat % 8 = 1)
    (hindex : SmsRPdu.userDataLengthIndex pdu = some index) (hlength : pdu[index]? = some length) :
    ∃ reference origLength destLength, Announced pdu reference origLength destLength length ∧
      index = 4 + origLength.toNat + destLength.toNat := by
  simp only [SmsRPdu.userDataLengthIndex, hmti, htype, Option.bind_eq_bind, Option.bind_some,
    Option.bind_eq_some_iff, Option.some.injEq] at hindex
  obtain ⟨origLength, horig, destLength, hdest, rfl⟩ := hindex
  have hlong : 1 < pdu.length := by
    obtain ⟨hlt, -⟩ := List.getElem?_eq_some_iff.mp horig
    omega
  exact ⟨pdu[1], origLength, destLength,
    ⟨List.getElem?_eq_getElem hlong, horig, hdest, hlength⟩, rfl⟩

namespace Announced

variable {pdu : Octets} {reference origLength destLength length : UInt8}

theorem lt_length (h : Announced pdu reference origLength destLength length) :
    4 + origLength.toNat + destLength.toNat < pdu.length :=
  (List.getElem?_eq_some_iff.mp h.userDataLength).1

theorem userData (h : Announced pdu reference origLength destLength length)
    (hle : length.toNat ≤ maxTpduLength) :
    ∃ userData, SmsRPdu.getUserDataForRpData pdu (4 + origLength.toNat + destLength.toNat) =
      some (some userData) ∧ userData.length = length.toNat := by
  have hlt := h.lt_length
  obtain ⟨userData, hcopy⟩ : ∃ userData, copyOfRange pdu
      (4 + origLength.toNat + destLength.toNat + 1)
      (4 + origLength.toNat + destLength.toNat + 1 + length.toNat) = some userData := by
    rw [copyOfRange, if_neg (by omega)]
    exact ⟨_, rfl⟩
  refine ⟨userData, ?_, length_copyOfRange hcopy⟩
  simp only [SmsRPdu.getUserDataForRpData, SmsRPdu.getByte, h.userDataLength,
    Option.bind_eq_bind,
    Option.bind_some, if_neg (Nat.not_lt_of_le hle), hcopy, Option.map_some]

theorem parseRpData (h : Announced pdu reference origLength destLength length)
    {userData : Octets} (bcd : CalledPartyBcd)
    (hdata : SmsRPdu.getUserDataForRpData pdu (4 + origLength.toNat + destLength.toNat) =
      some (some userData)) :
    SmsRPdu.parseRpData bcd pdu 1 =
      { messageType := .rpData
        messageRef := reference.toNat
        origAddr := if origLength.toNat = 0 then none else bcd pdu 3 origLength.toNat
        destAddr := if destLength.toNat = 0 then none
          else bcd pdu (4 + origLength.toNat) destLength.toNat
        cause := 0
        userData := some userData
        rpdu := some pdu
        isRetry := false } := by
  have hnext : 3 + origLength.toNat + 1 = 4 + origLength.toNat := by omega
  simp only [SmsRPdu.parseRpData, SmsRPdu.getByte, SmsRPdu.getAddress, h.messageRef,
    Nat.reduceAdd, h.origAddr, Option.bind_eq_bind, Option.bind_some, h.destAddr]
  rw [hnext, hdata]
  rfl

end Announced

theorem frameworkPdu_ne_none_iff {rpdu tpdu : Octets} :
    frameworkPdu rpdu tpdu ≠ none ↔
      ∃ origLength, rpdu[2]? = some origLength ∧ origLength.toNat < 128 ∧
        3 + origLength.toNat ≤ rpdu.length := by
  simp only [frameworkPdu]
  cases hlength : rpdu[2]? with
  | none => simp
  | some origLength =>
    simp only [Option.bind_eq_bind, Option.bind_some, Option.some.injEq, exists_eq_left']
    split
    · rename_i hbad
      constructor
      · exact fun hne => absurd rfl hne
      · intro hgood
        omega
    · rename_i hgood
      exact ⟨fun _ => by omega, fun _ => nofun⟩

theorem indicated_ne_none_iff {rp : SmsRPdu} :
    indicated rp ≠ none ↔ ∃ tpdu, rp.userData = some tpdu ∧
      frameworkPdu (rp.rpdu.getD []) tpdu ≠ none ∧ 2 ≤ tpdu.length := by
  simp only [indicated]
  cases hdata : rp.userData with
  | none => simp
  | some tpdu =>
    simp only [Option.bind_eq_bind, Option.bind_some, Option.some.injEq, exists_eq_left']
    cases hframework : frameworkPdu (rp.rpdu.getD []) tpdu with
    | none => simp
    | some _ =>
      simp only [Option.bind_some, ne_eq, reduceCtorEq, not_false_eq_true, true_and,
        List.getElem?_eq_none_iff, Nat.not_le]
      exact Nat.lt_iff_add_one_le

theorem rpdu_parseRpData (bcd : CalledPartyBcd) (pdu : Octets) (cur : Nat) :
    (SmsRPdu.parseRpData bcd pdu cur).rpdu = some pdu := by
  simp only [SmsRPdu.parseRpData]
  repeat' first | rfl | split

section

variable {pdu : Octets} {mti : UInt8} (hmti : pdu[0]? = some mti) (htype : mti.toNat % 8 = 1)

include hmti htype

theorem parsePdu_rpData (bcd : CalledPartyBcd) :
    SmsRPdu.parsePdu bcd pdu = some (SmsRPdu.parseRpData bcd pdu 1) := by
  simp only [SmsRPdu.parsePdu, SmsRPdu.getByte, hmti, Option.bind_eq_bind, Option.bind_some,
    htype, Nat.zero_add]

theorem indicated_iff (bcd : CalledPartyBcd) :
    indicated (SmsRPdu.parseRpData bcd pdu 1) ≠ none ↔ Indicated pdu := by
  rw [indicated_ne_none_iff, rpdu_parseRpData, Option.getD_some]
  constructor
  · rintro ⟨tpdu, hdata, hframework, hlong⟩
    obtain ⟨origLength, horig, hsmall, -⟩ := frameworkPdu_ne_none_iff.mp hframework
    obtain ⟨index, hindex, hread⟩ :=
      SmsRPdu.parsePdu_userData (parsePdu_rpData hmti htype bcd) hdata
    obtain ⟨length, hlength, hle, hcopy⟩ := SmsRPdu.getUserDataForRpData_eq_some hread
    rw [length_copyOfRange hcopy] at hlong
    exact ⟨origLength, index, length, horig, hsmall, hindex, hlength, hlong, hle⟩
  · rintro ⟨origLength, index, length, horig, hsmall, hindex, hlength, hlong, hle⟩
    obtain ⟨reference, origLength', destLength, hannounced, -⟩ :=
      announced_of_index hmti htype hindex hlength
    obtain rfl := Option.some.inj (horig.symm.trans hannounced.origAddr)
    obtain ⟨tpdu, hread, htpdu⟩ := hannounced.userData hle
    have hlt := hannounced.lt_length
    rw [hannounced.parseRpData bcd hread]
    refine ⟨tpdu, rfl, frameworkPdu_ne_none_iff.mpr ⟨origLength, horig, hsmall, ?_⟩, ?_⟩
    · omega
    · rw [htpdu]
      exact hlong

theorem fields_of_indicated (env : Environment) (h : Indicated pdu) :
    (SmsRPdu.parseRpData env.bcd pdu 1).origAddr = originatingAddress env pdu ∧
      ∃ reference, pdu[1]? = some reference ∧
        (SmsRPdu.parseRpData env.bcd pdu 1).messageRef = reference.toNat := by
  obtain ⟨origLength, index, length, horig, hsmall, hindex, hlength, hlong, hle⟩ := h
  obtain ⟨reference, origLength', destLength, hannounced, -⟩ :=
    announced_of_index hmti htype hindex hlength
  obtain ⟨tpdu, hread, -⟩ := hannounced.userData hle
  rw [hannounced.parseRpData env.bcd hread]
  refine ⟨?_, reference, hannounced.messageRef, rfl⟩
  simp only [originatingAddress, hannounced.origAddr]

theorem received_notifyIncomingMessage (s : SmsStack) (env : Environment)
    (listenerResult : Result) :
    Received s env (SmsRPdu.parseRpData env.bcd pdu 1)
      (if isNullOrEmpty env.psiValue then (SmsRPdu.parseRpData env.bcd pdu 1).origAddr
        else env.psiValue)
      listenerResult (s.notifyIncomingMessage env pdu listenerResult) := by
  have hreceived := received_onDataFromNetwork s env (SmsRPdu.parseRpData env.bcd pdu 1)
    (if isNullOrEmpty env.psiValue then (SmsRPdu.parseRpData env.bcd pdu 1).origAddr
      else env.psiValue) listenerResult
  simp only [notifyIncomingMessage, parsePdu_rpData hmti htype env.bcd,
    SmsRPdu.messageType_parseRpData]
  exact hreceived

end

/-! ### The answer to a received message -/

theorem SmsStack.Entered.answersTo {s s' : SmsStack} (h : Entered s s') (id : Nat) :
    s'.answersTo id = s.answersTo id := by
  rw [SmsStack.answersTo, SmsStack.answersTo, h.sent]

section

variable {s s' : SmsStack} {env : Environment} {mtData : SmsRPdu}
  {targetAddress : Option JavaString} {listenerResult : Result}

theorem SmsStack.Received.new (h : Received s env mtData targetAddress listenerResult s') :
    s.machineCount < s'.machineCount ∧
      (s'.machine s.machineCount).token = s.nextMtToken := by
  have hentered : ∀ {s'}, Entered s s' → s.machineCount < s'.machineCount ∧
      (s'.machine s.machineCount).token = s.nextMtToken := by
    intro s' hentered
    refine ⟨?_, hentered.new⟩
    rw [hentered.machineCount]
    exact Nat.lt_succ_self _
  cases h with
  | failed _ h _ => exact hentered h
  | accepted _ _ h _ => exact hentered h
  | refused entered _ _ h _ heq =>
    have hanswer := entered.mtAnswer_sendRPError env deliverStatusErrorGeneric mtData
      targetAddress s.machineCount
    subst heq
    refine ⟨?_, (hanswer.token _).trans h.new⟩
    exact Nat.lt_of_lt_of_le (hentered h).1 (Nat.le_of_eq hanswer.machineCount.symm)

theorem SmsStack.Received.answersTo_of_not_refused
    (h : Received s env mtData targetAddress listenerResult s')
    (hlistener : indicated mtData = none ∨ listenerResult = .success) (id : Nat) :
    s'.answersTo id = s.answersTo id := by
  cases h with
  | failed _ hentered _ => exact hentered.answersTo id
  | accepted _ _ hentered _ => exact hentered.answersTo id
  | refused _ hindicated hrefused _ _ _ =>
    rcases hlistener with hnone | hsuccess
    · exact absurd hnone hindicated
    · exact absurd hsuccess hrefused

/-- The RP-ERROR for a message that the listener refuses. -/
def rpErrorFor (mtData : SmsRPdu) (targetAddress : JavaString) (id : Nat) : Sent where
  messageType := .rpError
  messageRef := mtData.messageRef
  pdu := SmsRPdu.getRpErrorPdu mtData.messageRef 0x6f none
  targetAddress := targetAddress
  answers := some id

/-- A message that the listener refuses is answered if there is an address, and leaves
the maps. -/
theorem SmsStack.Received.of_refused
    (h : Received s env mtData targetAddress listenerResult s')
    (hindicated : indicated mtData ≠ none) (hlistener : listenerResult ≠ .success) :
    s'.Refused s.machineCount ∧ s'.Cleared s.nextMtToken ∧
      s'.answersTo s.machineCount = s.answersTo s.machineCount ++
        ((if env.useDialedNumber && targetAddress.isSome then mtData.origAddr
          else targetAddress).map fun address =>
            rpErrorFor mtData address s.machineCount).toList := by
  cases h with
  | failed hnone _ _ => exact absurd hnone hindicated
  | accepted _ hsuccess _ _ => exact absurd hsuccess hlistener
  | refused entered _ _ hentered hrefused heq =>
    subst heq
    have hcleared : (((entered.sendRPError env deliverStatusErrorGeneric mtData targetAddress
        (some s.machineCount)).removeMtToken s.nextMtToken).untrack s.nextMtToken).Cleared
          s.nextMtToken :=
      ⟨Function.update_self _ _ _, tracker_untrack_self _ _⟩
    have hsend : entered.sendRPError env deliverStatusErrorGeneric mtData targetAddress
        (some s.machineCount) = (entered.sendMessage env .rpError mtData.messageRef
          (SmsRPdu.getRpErrorPdu mtData.messageRef 0x6f none) targetAddress mtData.origAddr
          (some s.machineCount)).2 := rfl
    refine ⟨?_, hcleared, ?_⟩
    · have hmachine := entered.sendMessage_machine env .rpError mtData.messageRef
        (SmsRPdu.getRpErrorPdu mtData.messageRef 0x6f none) targetAddress mtData.origAddr
        (some s.machineCount)
      rw [hsend]
      exact fun hwait => hrefused ((congrArg _ (congrFun hmachine _)).symm.trans hwait)
    · rw [hsend, ← hentered.answersTo]
      simp only [sendMessage]
      cases (if env.useDialedNumber && targetAddress.isSome then mtData.origAddr
        else targetAddress) with
      | none => exact (List.append_nil _).symm
      | some address =>
        simp [SmsStack.answersTo, untrack, removeMtToken, rpErrorFor]

end

/-- A received RP-DATA is answered once and leaves nothing behind exactly when it is
answerable. -/
theorem answeredOnce_iff {r : Run} (hr : smsRuns.Reachable r) (env : Environment)
    {pdu : Octets} {mti : UInt8} (hmti : pdu[0]? = some mti) (htype : mti.toNat % 8 = 1)
    (listenerResult : Result) :
    AnsweredOnce r env pdu listenerResult ↔ Answerable env pdu listenerResult := by
  have htracked := tracked_of_reachable hr
  have hunborn := htracked.unborn _ (Nat.le_refl _)
  have hreceived := received_notifyIncomingMessage hmti htype r.stack env listenerResult
  have hindicated := indicated_iff hmti htype env.bcd
  have hfields := fields_of_indicated hmti htype env
  generalize SmsRPdu.parseRpData env.bcd pdu 1 = mtData at *
  constructor
  · intro hanswered
    have hsilent : (indicated mtData = none ∨ listenerResult = .success) → WellFormed pdu ∧
        ¬ (r.stack.notifyIncomingMessage env pdu listenerResult).Refused
          r.stack.machineCount := by
      intro hlistener
      by_contra hbad
      obtain ⟨reference, error, -, herror, -⟩ :=
        hanswered.atOnce (by rwa [not_and_or, not_not] at hbad)
      rw [hreceived.answersTo_of_not_refused hlistener, hunborn] at herror
      cases herror
    have hask : indicated mtData ≠ none := by
      intro hnone
      cases hreceived with
      | failed _ _ hrefused => exact (hsilent (Or.inl hnone)).2 hrefused
      | accepted hsome _ _ _ => exact hsome hnone
      | refused _ hsome _ _ _ _ => exact hsome hnone
    refine ⟨hindicated.mp hask, fun hsuccess => (hsilent (Or.inr hsuccess)).1, ?_⟩
    intro hlistener hnone
    obtain ⟨hrefused, -, hanswers⟩ := hreceived.of_refused hask hlistener
    obtain ⟨reference, error, -, herror, -⟩ := hanswered.atOnce (Or.inr hrefused)
    rw [hunborn, (hfields (hindicated.mp hask)).1] at hanswers
    simp only [errorTarget] at hnone
    rw [hnone] at hanswers
    cases hanswers.symm.trans herror
  · intro hanswerable
    have hask := hindicated.mpr hanswerable.indicated
    obtain ⟨horig, reference, hreference, hmessageRef⟩ := hfields hanswerable.indicated
    have hstep : smsRuns.Step r (.notifyIncomingMessage env pdu listenerResult) { r with
        stack := r.stack.notifyIncomingMessage env pdu listenerResult } :=
      .notifyIncomingMessage
    have hr₁ := hr.step _ hstep
    obtain ⟨hlt, htoken⟩ := hreceived.new
    have hleft : Left ((r.stack.notifyIncomingMessage env pdu listenerResult).Refused
        r.stack.machineCount) r.stack.machineCount r.stack.nextMtToken
        (r.stack.notifyIncomingMessage env pdu listenerResult) := by
      refine ⟨hlt, htoken, fun hdone => Or.inl ?_⟩
      by_cases hlistener : listenerResult = .success
      · rw [hreceived.answersTo_of_not_refused (Or.inr hlistener), hunborn] at hdone
        cases hreceived with
        | failed hnone _ _ => exact absurd hnone hask
        | accepted _ _ _ hwaiting =>
          rcases hdone with hnot | hrefused
          · exact absurd rfl hnot
          · exact absurd hrefused hwaiting
        | refused _ _ hrefused _ _ _ => exact absurd hlistener hrefused
      · exact (hreceived.of_refused hask hlistener).2.1
    refine ⟨?_, ?_, ?_⟩
    · intro r' hr'
      exact (tracked_of_reachable (hr₁.of_startingAt hr')).once _
    · intro hbad
      by_cases hlistener : listenerResult = .success
      · cases hreceived with
        | failed hnone _ _ => exact absurd hnone hask
        | accepted _ _ _ hwaiting =>
          rcases hbad with hmalformed | hrefused
          · exact absurd (hanswerable.accepted hlistener) hmalformed
          · exact absurd hrefused hwaiting
        | refused _ _ hrefused _ _ _ => exact absurd hlistener hrefused
      · obtain ⟨-, -, hanswers⟩ := hreceived.of_refused hask hlistener
        have htarget := hanswerable.refused hlistener
        simp only [errorTarget] at htarget
        rw [hunborn, horig] at hanswers
        obtain ⟨address, haddress⟩ := Option.ne_none_iff_exists'.mp htarget
        rw [haddress] at hanswers
        refine ⟨reference, _, hreference, hanswers, rfl, hmessageRef, ?_⟩
        have hnarrow : narrow mtData.messageRef = reference := by
          rw [hmessageRef]
          exact narrow_octet reference
        exact congrArg some hnarrow
    · intro r' hr' hdone hlater
      obtain ⟨-, hleft'⟩ := left_of_reachable (tracked_of_reachable hr₁) hleft hr'
      rcases hleft'.cleared hdone with hcleared | ⟨later, hid, hcount, hsame⟩
      · exact hcleared
      · exact absurd hsame (hlater later hid hcount)

/-- A message with two octets of user data that is accepted. -/
theorem answeredOnce_iff_accepted :
    AnsweredOnce ⟨.initial, []⟩ .bare [0x01, 0x07, 0x00, 0x00, 0x02, 0x04, 0x2A] .success :=
  (answeredOnce_iff (.init rfl) .bare rfl rfl .success).mpr
    ⟨⟨0, 4, 2, rfl, by decide, rfl, rfl, by decide, by decide⟩,
      fun _ => ⟨4, 2, rfl, rfl, by decide, by decide⟩, fun hne => absurd rfl hne⟩

/-- A message without user data is answered by nothing, and its token stays in the maps. -/
theorem not_answeredOnce :
    ¬ ∀ (r : Run) (env : Environment) (pdu : Octets) (mti : UInt8) (listenerResult : Result),
      smsRuns.Reachable r → pdu[0]? = some mti → mti.toNat % 8 = 1 →
        AnsweredOnce r env pdu listenerResult := by
  intro hanswered
  have honce := hanswered ⟨.initial, []⟩ .bare [0x01, 0x07, 0x00, 0x00] 0x01 .success
    (.init rfl) rfl rfl
  have hrefused : (SmsStack.initial.notifyIncomingMessage .bare [0x01, 0x07, 0x00, 0x00]
      .success).Refused 0 :=
    (nofun : SmsRLState.idle ≠ .waitToSendRpAckToNw)
  obtain ⟨reference, error, -, herror, -⟩ := honce.atOnce (Or.inr hrefused)
  cases herror

end ImsStack.Sms
