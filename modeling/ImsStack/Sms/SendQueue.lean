import ImsStack.Library.OneAtATime
import ImsStack.Sms.SmsLayers

/-!
The send queue: in the runs in which no message fails on its way to the native side, the
two layers are a sender that has one message under way at a time.
-/

namespace ImsStack.Sms

open Platform.Bytes TransitionSystem OneAtATime

namespace SmsStack

/-- The state machine waits for the report of the network. -/
def InFlight (s : SmsStack) (id : Nat) : Prop :=
  (s.machine id).currentState = .waitForRpAckFromNw

end SmsStack

/-- The first message of the queue is under way or about to be sent, no two are under
way, none is reported more often than it was accepted, and they are handed to the relay
layer in the order accepted. -/
structure QueueMoves (r : Run) : Prop where
  head : ∀ token, r.stack.sendSmsQueue.head? = some token →
    (∃ id, (r.stack.machine id).token = token ∧ r.stack.InFlight id ∧
      (r.stack.machine id).tr1Posted = true) ∨
    ∃ param ∈ r.stack.sendNextRequests, param.token = token
  single : ∀ id id', r.stack.InFlight id → r.stack.InFlight id' → id = id'
  reportedOnce : ∀ token,
    (r.stack.reports.map Report.token).count token ≤ r.answered.count token
  inOrder : r.stack.handed <+: r.answered

/-- A message that reaches the native side: it has an address of the service centre, the
addresses can be worked out, the message can be encoded, and `MtsController` misses no
address. -/
structure Sendable (env : Environment) (param : TpduParam) : Prop where
  smsc : isNullOrEmpty param.smsc = false
  addresses : ∃ targetAddress destinationAddress,
    SmsStack.addresses env param.rpMessageType (param.smsc.getD [])
      param.destinationAddress = some (some targetAddress, destinationAddress) ∧
    (env.useDialedNumber = true → destinationAddress ≠ none)
  octets : param.rpMessageType = .rpData →
    ∃ octets, param.smsc.bind hexStringToBytes = some octets ∧ octets ≠ []
  tpdu : (param.rpMessageType = .rpSmma ∧ param.tpdu = none) ∨
    (param.rpMessageType = .rpData ∧ ∃ tpdu, param.tpdu = some tpdu ∧ 2 ≤ tpdu.length)

/-- Where the step sends a message, the message is sendable. -/
def SendsSendable (r : Run) : Event → Prop
  | .sendMoTPdu env token pdu smsc recipient isRetry =>
    r.stack.sendSmsQueue = [] →
      Sendable env ⟨token, some pdu, smsc, recipient, .rpData, isRetry⟩
  | .sendMemoryAvailabilityNotification env token smsc =>
    r.stack.sendSmsQueue = [] →
      Sendable env ⟨token, none, smsc, smsc, .rpSmma, r.stack.isSmmaRetry⟩
  | .handleMessage env =>
    ∀ param ∈ r.stack.sendNextRequests.head?, Sendable env param
  | _ => True

namespace SmsStack

theorem inFlight_congr {s s' : SmsStack} {id : Nat} (heq : s'.machine id = s.machine id) :
    s'.InFlight id ↔ s.InFlight id := by
  rw [InFlight, InFlight, heq]

theorem inFlight_setMachine_self (s : SmsStack) (id : Nat) (m : SmsRLStateMachine) :
    (s.setMachine id m).InFlight id ↔ m.currentState = .waitForRpAckFromNw := by
  simp [InFlight, setMachine]

theorem inFlight_setMachine_of_ne (s : SmsStack) {id other : Nat} (m : SmsRLStateMachine)
    (hne : other ≠ id) : (s.setMachine id m).InFlight other ↔ s.InFlight other :=
  inFlight_congr (Function.update_of_ne hne _ _)

/-! ### Changes that do not bear on the queue -/

/-- The queue and all that goes with it stay the same, and so do the machines in
flight. -/
structure SameQueue (s s' : SmsStack) : Prop where
  sendSmsQueue : s'.sendSmsQueue = s.sendSmsQueue
  tokenMessageMap : s'.tokenMessageMap = s.tokenMessageMap
  sendNextRequests : s'.sendNextRequests = s.sendNextRequests
  reports : s'.reports = s.reports
  handed : s'.handed = s.handed
  machineCount : s.machineCount ≤ s'.machineCount
  noTakeoff : ∀ id, s'.InFlight id → s'.machine id = s.machine id
  kept : ∀ id, id < s.machineCount → s.InFlight id → s'.machine id = s.machine id

namespace SameQueue

theorem refl (s : SmsStack) : SameQueue s s :=
  ⟨rfl, rfl, rfl, rfl, rfl, Nat.le_refl _, fun _ _ => rfl, fun _ _ _ => rfl⟩

theorem of_eq {s s' : SmsStack} (hqueue : s'.sendSmsQueue = s.sendSmsQueue)
    (hmap : s'.tokenMessageMap = s.tokenMessageMap)
    (hrequests : s'.sendNextRequests = s.sendNextRequests) (hreports : s'.reports = s.reports)
    (hhanded : s'.handed = s.handed) (hcount : s'.machineCount = s.machineCount)
    (hmachine : s'.machine = s.machine) : SameQueue s s' :=
  ⟨hqueue, hmap, hrequests, hreports, hhanded, Nat.le_of_eq hcount.symm,
    fun _ _ => congrFun hmachine _, fun _ _ _ => congrFun hmachine _⟩

theorem trans {s s' s'' : SmsStack} (h : SameQueue s s') (h' : SameQueue s' s'') :
    SameQueue s s'' := by
  refine ⟨h'.sendSmsQueue.trans h.sendSmsQueue, h'.tokenMessageMap.trans h.tokenMessageMap,
    h'.sendNextRequests.trans h.sendNextRequests, h'.reports.trans h.reports,
    h'.handed.trans h.handed, Nat.le_trans h.machineCount h'.machineCount, ?_, ?_⟩
  · intro id hflight
    have heq' := h'.noTakeoff id hflight
    exact heq'.trans (h.noTakeoff id ((inFlight_congr heq').mp hflight))
  · intro id hid hflight
    have heq := h.kept id hid hflight
    exact (h'.kept id (Nat.lt_of_lt_of_le hid h.machineCount)
      ((inFlight_congr heq).mpr hflight)).trans heq

end SameQueue

theorem sameQueue_setMachine {s : SmsStack} {id : Nat} {m : SmsRLStateMachine}
    (hold : ¬ s.InFlight id) (hnew : m.currentState ≠ .waitForRpAckFromNw) :
    SameQueue s (s.setMachine id m) := by
  refine ⟨rfl, rfl, rfl, rfl, rfl, Nat.le_refl _, ?_, ?_⟩
  · intro other hflight
    by_cases heq : other = id
    · subst heq
      exact absurd ((inFlight_setMachine_self _ _ _).mp hflight) hnew
    · exact Function.update_of_ne heq _ _
  · intro other _ hflight
    have hne : other ≠ id := by
      rintro rfl
      exact hold hflight
    exact Function.update_of_ne hne _ _

theorem sameQueue_addMachine (s : SmsStack) {m : SmsRLStateMachine}
    (hnew : m.currentState ≠ .waitForRpAckFromNw) : SameQueue s (s.addMachine m) := by
  refine ⟨rfl, rfl, rfl, rfl, rfl, Nat.le_succ _, ?_, ?_⟩
  · intro other hflight
    by_cases heq : other = s.machineCount
    · subst heq
      exact absurd (by simpa [InFlight, addMachine] using hflight) hnew
    · exact Function.update_of_ne heq _ _
  · intro other hlt _
    exact Function.update_of_ne (Nat.ne_of_lt hlt) _ _

theorem sameQueue_sendMessage (s : SmsStack) (env : Environment) (messageType : RpMessageType)
    (messageRef : Int) (pdu : Octets) (psiSmsc dialedNumber : Option JavaString)
    (answers : Option Nat) :
    SameQueue s
      (s.sendMessage env messageType messageRef pdu psiSmsc dialedNumber answers).2 := by
  simp only [sendMessage]
  split
  · exact .refl s
  · exact .of_eq rfl rfl rfl rfl rfl rfl rfl

theorem sameQueue_untrack (s : SmsStack) (token : Token) : SameQueue s (s.untrack token) :=
  .of_eq rfl rfl rfl rfl rfl rfl rfl

theorem sameQueue_removeMoMR (s : SmsStack) (messageReference : Int) :
    SameQueue s (s.removeMoMR messageReference) :=
  .of_eq rfl rfl rfl rfl rfl rfl rfl

theorem sameQueue_removeMtToken (s : SmsStack) (token : Token) :
    SameQueue s (s.removeMtToken token) :=
  .of_eq rfl rfl rfl rfl rfl rfl rfl

theorem sameQueue_onRPAckFromTL (s : SmsStack) (env : Environment) (id : Nat)
    (mtRPAck : SmsRPdu) : SameQueue s (s.onRPAckFromTL env id mtRPAck).2 := by
  simp only [onRPAckFromTL]
  split
  · rename_i encodedPdu hstate hpdu
    have hsend := s.sameQueue_sendMessage env mtRPAck.messageType mtRPAck.messageRef encodedPdu
      (s.machine id).psiSmsc (s.machine id).destinationAddress (some id)
    split
    · exact hsend
    · refine hsend.trans (sameQueue_setMachine ?_ ?_)
      · rw [InFlight, sendMessage_machine, hstate]
        exact nofun
      · rw [hstate]
        exact nofun
  · exact .refl s

theorem sameQueue_onRPErrorFromTL (s : SmsStack) (env : Environment) (id : Nat)
    (mtRPError : SmsRPdu) : SameQueue s (s.onRPErrorFromTL env id mtRPError).2 := by
  simp only [onRPErrorFromTL]
  split
  · rename_i encodedPdu hstate hpdu
    have hsend := s.sameQueue_sendMessage env mtRPError.messageType mtRPError.messageRef
      encodedPdu (s.machine id).psiSmsc (s.machine id).destinationAddress (some id)
    split
    · exact hsend
    · refine hsend.trans (sameQueue_setMachine ?_ nofun)
      rw [InFlight, sendMessage_machine, hstate]
      exact nofun
  · exact .refl s
  · exact .refl s

theorem sameQueue_sendMtReport (s : SmsStack) (env : Environment) (token : Token)
    (rpType : RpMessageType) (tpdu : Option Octets) (statusResult : Int) :
    SameQueue s (s.sendMtReport env token rpType tpdu statusResult).2 := by
  simp only [sendMtReport]
  split
  · exact .refl s
  · have hremove := s.sameQueue_removeMtToken token
    split
    · split
      · exact (hremove.trans (sameQueue_onRPAckFromTL _ _ _ _)).trans (sameQueue_untrack _ _)
      · exact (hremove.trans (sameQueue_onRPErrorFromTL _ _ _ _)).trans (sameQueue_untrack _ _)
    · exact hremove

theorem sameQueue_sendRPError (s : SmsStack) (env : Environment) (deliverStatusResult : Int)
    (mtData : SmsRPdu) (targetAddress : Option JavaString) (answers : Option Nat) :
    SameQueue s
      (s.sendRPError env deliverStatusResult mtData targetAddress answers) := by
  simp only [sendRPError]
  split
  · exact .refl s
  · exact sameQueue_sendMessage _ _ _ _ _ _ _ _

theorem sameQueue_onTR2TimerExpired (s : SmsStack) (id : Nat)
    (hground : (s.machine id).currentState = .waitForRpAckFromNw →
      (s.machine id).tr2Posted = false)
    (hposted : (s.machine id).tr2Posted = true) : SameQueue s (s.onTR2TimerExpired id) := by
  have hstate : ¬ s.InFlight id := by
    intro hflight
    rw [hground hflight] at hposted
    cases hposted
  simp only [onTR2TimerExpired]
  split
  · exact sameQueue_setMachine hstate nofun
  · exact sameQueue_setMachine hstate hstate

theorem sameQueue_onRPDataFromNetwork (s : SmsStack) (id : Nat) (mtRPData : SmsRPdu)
    (listenerResult : Result) :
    SameQueue s (s.onRPDataFromNetwork id mtRPData listenerResult).2 := by
  simp only [onRPDataFromNetwork]
  split
  · rename_i hidle
    have hground : ¬ s.InFlight id := by
      rw [InFlight, hidle]
      exact nofun
    have hidle' : (s.machine id).currentState ≠ .waitForRpAckFromNw := hground
    split
    · exact sameQueue_setMachine hground hidle'
    · split
      · exact sameQueue_setMachine hground hidle'
      · exact sameQueue_setMachine hground nofun
  · exact .refl s

theorem sameQueue_onDataFromNetwork (s : SmsStack) (env : Environment) (mtData : SmsRPdu)
    (targetAddress : Option JavaString) (listenerResult : Result) :
    SameQueue s (s.onDataFromNetwork env mtData targetAddress listenerResult) := by
  simp only [onDataFromNetwork]
  generalize (s.mtToken + 1) ||| mtTokenMask = token
  have htoken : SameQueue s { s with
      mtToken := s.mtToken + 1
      mtTokenMRMap := Function.update s.mtTokenMRMap token (some mtData.messageRef) } :=
    .of_eq rfl rfl rfl rfl rfl rfl rfl
  have hnew : (SmsRLStateMachine.new token targetAddress mtData.origAddr).currentState ≠
      .waitForRpAckFromNw := by
    rw [SmsRLStateMachine.new]
    exact nofun
  have hdata := (htoken.trans (sameQueue_addMachine _ hnew)).trans
    (sameQueue_onRPDataFromNetwork _ s.machineCount mtData listenerResult)
  split
  · rename_i heq
    rw [heq] at hdata
    exact hdata
  · rename_i heq
    rw [heq] at hdata
    split
    · exact ((hdata.trans (sameQueue_sendRPError _ _ _ _ _ _)).trans
        (sameQueue_removeMtToken _ _)).trans (sameQueue_untrack _ _)
    · exact hdata

/-! ### Sending and reporting -/

/-- A new machine waits for the report on a message. -/
structure Launched (s s' : SmsStack) (token : Token) : Prop where
  sendSmsQueue : s'.sendSmsQueue = s.sendSmsQueue
  tokenMessageMap : s'.tokenMessageMap = s.tokenMessageMap
  sendNextRequests : s'.sendNextRequests = s.sendNextRequests
  reports : s'.reports = s.reports
  handed : s'.handed = s.handed
  machineCount : s'.machineCount = s.machineCount + 1
  machine : ∃ m, s'.machine = Function.update s.machine s.machineCount m ∧
    m.token = token ∧ m.currentState = .waitForRpAckFromNw ∧ m.tr1Posted = true ∧
    m.tr2Posted = false

theorem onRPDataFromTL_launched {s : SmsStack} {env : Environment} (token : Token)
    (targetAddress : JavaString) {destinationAddress : Option JavaString} {rp : SmsRPdu}
    {pdu : Octets} (hdialed : env.useDialedNumber = true → destinationAddress ≠ none)
    (htpdu : ∀ tpdu ∈ rp.userData, 2 ≤ tpdu.length) (hpdu : rp.rpdu = some pdu) :
    ∃ s', ((s.addMachine (.new token (some targetAddress) destinationAddress)).onRPDataFromTL
      env s.machineCount rp) = (some .success, s') ∧ Launched s s' token := by
  have htarget : ∃ address, (if env.useDialedNumber && (some targetAddress).isSome
      then destinationAddress else some targetAddress) = some address := by
    cases hdial : env.useDialedNumber with
    | false => exact ⟨targetAddress, rfl⟩
    | true =>
      cases destinationAddress with
      | none => exact absurd rfl (hdialed hdial)
      | some address => exact ⟨address, rfl⟩
  obtain ⟨address, haddress⟩ := htarget
  cases hdata : rp.userData with
  | none =>
    simp only [onRPDataFromTL, addMachine, Function.update_self, SmsRLStateMachine.new, hdata,
      Option.map_none, hpdu, sendMessage, haddress, Bool.not_true, Bool.false_eq_true,
      ↓reduceIte]
    refine ⟨_, rfl, ⟨rfl, rfl, rfl, rfl, rfl, rfl, _, Function.update_idem _ _ _, ?_⟩⟩
    exact ⟨rfl, rfl, rfl, rfl⟩
  | some tpdu =>
    have hlong := htpdu tpdu hdata
    have hoctet : tpdu[1]? = some tpdu[1] := List.getElem?_eq_getElem hlong
    simp only [onRPDataFromTL, addMachine, Function.update_self, SmsRLStateMachine.new, hdata,
      Option.map_some, hoctet, hpdu, sendMessage, haddress, Bool.not_true, Bool.false_eq_true,
      ↓reduceIte]
    refine ⟨_, rfl, ⟨rfl, rfl, rfl, rfl, rfl, rfl, _, Function.update_idem _ _ _, ?_⟩⟩
    exact ⟨rfl, rfl, rfl, rfl⟩

theorem new_of_sendable {env : Environment} {param : TpduParam} (h : Sendable env param)
    (messageRef : Int) :
    ∃ rp pdu, SmsRPdu.new messageRef param.rpMessageType param.smsc 0x6f param.tpdu
      param.isRetry = some rp ∧ rp.userData = param.tpdu ∧ rp.rpdu = some pdu := by
  have hencode : ∃ pdu, SmsRPdu.encodeRpduByteArray messageRef param.rpMessageType param.smsc
      0x6f param.tpdu = some (some pdu) := by
    rcases h.tpdu with ⟨htype, -⟩ | ⟨htype, tpdu, htpdu, -⟩
    · exact ⟨SmsRPdu.getRpSmmaPdu messageRef, by rw [htype]; rfl⟩
    · obtain ⟨octets, hoctets, hne⟩ := h.octets htype
      cases hsmsc : param.smsc with
      | none =>
        rw [hsmsc] at hoctets
        cases hoctets
      | some smsc =>
        rw [hsmsc, Option.bind_some] at hoctets
        simp [SmsRPdu.encodeRpduByteArray, htype, SmsRPdu.getRpDataPdu, hoctets, htpdu, hne]
  obtain ⟨pdu, hencode⟩ := hencode
  refine ⟨⟨param.rpMessageType, messageRef, none, param.smsc, 0x6f, param.tpdu, some pdu,
    param.isRetry⟩, pdu, ?_, rfl, rfl⟩
  simp only [SmsRPdu.new, hencode, Option.bind_eq_bind, Option.bind_some]

theorem sendMoMessage_of_sendable (s : SmsStack) {env : Environment} {param : TpduParam}
    (h : Sendable env param) :
    ∃ s', s.sendMoMessage env param = (.success, s') ∧ Launched s s' param.token := by
  obtain ⟨targetAddress, destinationAddress, haddresses, hdialed⟩ := h.addresses
  obtain ⟨rp, pdu, hnew, hdata, hpdu⟩ := new_of_sendable h s.nextRpMessageReference
  have htpdu : ∀ tpdu ∈ rp.userData, 2 ≤ tpdu.length := by
    intro tpdu hmem
    rw [hdata] at hmem
    rcases h.tpdu with ⟨-, hnone⟩ | ⟨-, tpdu', htpdu', hlong⟩
    · rw [hnone] at hmem
      cases hmem
    · rw [htpdu'] at hmem
      obtain rfl := Option.some.inj hmem
      exact hlong
  obtain ⟨s', hs', hlaunched⟩ := onRPDataFromTL_launched
    (s := { s with
      rpMessageReference := s.rpMessageReference + 1
      moMRTokenMap :=
        Function.update s.moMRTokenMap s.nextRpMessageReference (some param.token) })
    param.token targetAddress hdialed htpdu hpdu
  refine ⟨s', ?_, ⟨hlaunched.sendSmsQueue, hlaunched.tokenMessageMap,
    hlaunched.sendNextRequests, hlaunched.reports, hlaunched.handed, hlaunched.machineCount,
    hlaunched.machine⟩⟩
  simp only [sendMoMessage, h.smsc, Bool.false_eq_true, ↓reduceIte, haddresses, hnew]
  rw [hs']
  rfl

theorem requestSendNext_of_empty {s : SmsStack} (hqueue : s.sendSmsQueue = []) :
    s.requestSendNext = s := by
  simp [requestSendNext, hqueue]

theorem requestSendNext_of_cons {s : SmsStack} {param : TpduParam} {params : List TpduParam}
    {rest : List Token} (hqueue : s.sendSmsQueue = param.token :: rest)
    (hmap : s.tokenMessageMap = param :: params) :
    s.requestSendNext = { s with sendNextRequests := s.sendNextRequests ++ [param] } := by
  simp [requestSendNext, hqueue, tokenMessage, hmap]

end SmsStack

open SmsStack

/-! ### The layers as a sender -/

/-- The machine of the message under way. -/
structure Flight (s : SmsStack) (id : Nat) (token : Token) : Prop where
  lt : id < s.machineCount
  token : (s.machine id).token = token
  inFlight : s.InFlight id
  tr1Posted : (s.machine id).tr1Posted = true
  tr2Posted : (s.machine id).tr2Posted = false
  only : ∀ id', s.InFlight id' → id' = id

/-- The two layers seen as a sender of tokens. -/
structure Refines (r : Run) (a : Sender Token) : Prop where
  queue : r.stack.sendSmsQueue = a.queue
  keys : r.stack.tokenMessageMap.map TpduParam.token = a.queue
  answered : r.answered = a.accepted
  handed : r.stack.handed = a.handed
  reported : r.stack.reports.map Report.token = a.reported
  sending : a.phase = .sending → ∃ id token, a.queue.head? = some token ∧
    Flight r.stack id token
  ground : a.phase ≠ .sending → ∀ id, ¬ r.stack.InFlight id
  due : a.phase = .due → ∃ param, r.stack.sendNextRequests = [param] ∧
    a.queue.head? = some param.token
  notDue : a.phase ≠ .due → r.stack.sendNextRequests = []

theorem SmsStack.Launched.flight {s s' : SmsStack} {token : Token} (h : Launched s s' token)
    (hground : ∀ id, ¬ s.InFlight id) : Flight s' s.machineCount token := by
  obtain ⟨m, hmachine, htoken, hstate, htr1, htr2⟩ := h.machine
  have hnew : s'.machine s.machineCount = m := by
    rw [hmachine, Function.update_self]
  refine ⟨by rw [h.machineCount]; exact Nat.lt_succ_self _, hnew ▸ htoken, ?_, hnew ▸ htr1,
    hnew ▸ htr2, ?_⟩
  · rw [InFlight, hnew]
    exact hstate
  · intro id hflight
    by_contra hne
    have heq : s'.machine id = s.machine id := by
      rw [hmachine, Function.update_of_ne hne]
    exact hground id ((inFlight_congr heq).mp hflight)

namespace Refines

theorem sameQueue {r : Run} {a : Sender Token} {s' : SmsStack} (h : Refines r a)
    (hsame : r.stack.SameQueue s') : Refines { r with stack := s' } a := by
  refine ⟨hsame.sendSmsQueue.trans h.queue, ?_, h.answered, hsame.handed.trans h.handed, ?_,
    ?_, ?_, ?_, ?_⟩
  · rw [hsame.tokenMessageMap]
    exact h.keys
  · rw [hsame.reports]
    exact h.reported
  · intro hsending
    obtain ⟨id, token, hhead, hflight⟩ := h.sending hsending
    have heq := hsame.kept id hflight.lt hflight.inFlight
    refine ⟨id, token, hhead, ⟨Nat.lt_of_lt_of_le hflight.lt hsame.machineCount, ?_, ?_, ?_, ?_,
      ?_⟩⟩
    · exact heq ▸ hflight.token
    · exact (inFlight_congr heq).mpr hflight.inFlight
    · exact heq ▸ hflight.tr1Posted
    · exact heq ▸ hflight.tr2Posted
    · intro id' hflight'
      exact hflight.only id' ((inFlight_congr (hsame.noTakeoff id' hflight')).mp hflight')
  · intro hphase id hflight
    exact h.ground hphase id ((inFlight_congr (hsame.noTakeoff id hflight)).mp hflight)
  · rw [hsame.sendNextRequests]
    exact h.due
  · rw [hsame.sendNextRequests]
    exact h.notDue

theorem flight {r : Run} {a : Sender Token} {id : Nat} (h : Refines r a)
    (hflight : r.stack.InFlight id) :
    a.phase = .sending ∧ ∃ rest, a.queue = (r.stack.machine id).token :: rest := by
  by_cases hphase : a.phase = .sending
  · refine ⟨hphase, ?_⟩
    obtain ⟨id', token, hhead, hfly⟩ := h.sending hphase
    obtain rfl := hfly.only id hflight
    cases hqueue : a.queue with
    | nil =>
      rw [hqueue] at hhead
      cases hhead
    | cons first rest =>
      rw [hqueue] at hhead
      obtain rfl := Option.some.inj hhead
      exact ⟨rest, by rw [hfly.token]⟩
  · exact absurd hflight (h.ground hphase id)

theorem complete {r : Run} {a : Sender Token} {id : Nat} {m : SmsRLStateMachine}
    (h : Refines r a) (hgood : Good a) (hflight : r.stack.InFlight id)
    (hidle : m.currentState = .idle) (messageRef : Int) (result : SendStatus)
    (reason causeCode : Int) :
    ∃ a', Step a .complete a' ∧ Refines { r with
      stack := (r.stack.notifyRLReportIndication (r.stack.machine id).token messageRef result
        reason causeCode).setMachine id m } a' := by
  obtain ⟨hphase, rest, hqueue⟩ := h.flight hflight
  refine ⟨_, .complete hphase hqueue, ?_⟩
  have hkeys := h.keys
  rw [hqueue] at hkeys
  obtain ⟨param, params, hmap, hparam, hparams⟩ := List.map_eq_cons_iff.mp hkeys
  have hnodup := hgood.nodup
  rw [hqueue, List.nodup_cons] at hnodup
  have hmessage : r.stack.tokenMessage (r.stack.machine id).token = some param := by
    simp [tokenMessage, hmap, hparam]
  have hfilter : r.stack.tokenMessageMap.filter (·.token ≠ (r.stack.machine id).token) =
      params := by
    rw [hmap, List.filter_cons_of_neg (by simp [hparam]), List.filter_eq_self]
    intro p hp
    have hmem : p.token ∈ rest := hparams ▸ List.mem_map_of_mem hp
    simp only [ne_eq, decide_eq_true_eq]
    rintro heq
    exact hnodup.1 (heq ▸ hmem)
  have herase : r.stack.sendSmsQueue.erase (r.stack.machine id).token = rest := by
    rw [h.queue, hqueue, List.erase_cons_head]
  have hground : ∀ (s : SmsStack) (other : Nat), s.machine = r.stack.machine →
      ¬ (s.setMachine id m).InFlight other := by
    intro s other hmachine hother
    obtain ⟨id', token, -, hfly⟩ := h.sending hphase
    obtain rfl := hfly.only id hflight
    by_cases heq : other = id
    · subst heq
      rw [inFlight_setMachine_self, hidle] at hother
      cases hother
    · rw [inFlight_setMachine_of_ne _ _ heq, inFlight_congr (congrFun hmachine other)] at hother
      exact heq (hfly.only other hother)
  have hrequests := h.notDue (by rw [hphase]; exact nofun)
  simp only [notifyRLReportIndication, hmessage, removeTokenMessage, hfilter, herase]
  cases params with
  | nil =>
    obtain rfl : rest = [] := hparams.symm
    rw [requestSendNext_of_empty rfl]
    refine ⟨rfl, rfl, h.answered, h.handed, ?_, nofun, fun _ id' => hground _ id' rfl, nofun,
      fun _ => hrequests⟩
    simp [setMachine, h.reported]
  | cons next params =>
    obtain rfl : rest = next.token :: params.map TpduParam.token := hparams.symm
    rw [requestSendNext_of_cons rfl rfl]
    refine ⟨rfl, rfl, h.answered, h.handed, ?_, nofun, fun _ id' => hground _ id' rfl,
      fun _ => ⟨next, ?_, rfl⟩, fun hdue => absurd rfl hdue⟩
    · simp [setMachine, h.reported]
    · simp [setMachine, hrequests]

theorem dispatch {r : Run} {a : Sender Token} {env : Environment} (h : Refines r a)
    (hsendable : ∀ param ∈ r.stack.sendNextRequests.head?, Sendable env param) :
    Refines { r with stack := r.stack.handleMessage env } a ∨
      ∃ a', Step a .dispatch a' ∧ Refines { r with stack := r.stack.handleMessage env } a' := by
  by_cases hphase : a.phase = .due
  · refine Or.inr ?_
    obtain ⟨param, hrequests, hhead⟩ := h.due hphase
    have hground : ∀ id, ¬ r.stack.InFlight id := h.ground (by rw [hphase]; exact nofun)
    cases hqueue : a.queue with
    | nil =>
      rw [hqueue] at hhead
      cases hhead
    | cons first rest =>
      rw [hqueue] at hhead
      obtain rfl := Option.some.inj hhead
      refine ⟨_, .dispatch hphase hqueue, ?_⟩
      obtain ⟨s', hs', hlaunched⟩ := sendMoMessage_of_sendable
        { r.stack with sendNextRequests := [], handed := r.stack.handed ++ [param.token] }
        (hsendable param (by rw [hrequests]; rfl))
      have hstack : r.stack.handleMessage env = s' := by
        simp only [handleMessage, hrequests, handOver, hs']
      rw [hstack]
      refine ⟨hlaunched.sendSmsQueue.trans h.queue, ?_, h.answered, ?_, ?_, ?_, ?_, nofun, ?_⟩
      · rw [hlaunched.tokenMessageMap]
        exact h.keys
      · rw [hlaunched.handed, ← h.handed]
      · rw [hlaunched.reports]
        exact h.reported
      · intro _
        exact ⟨_, param.token, by rw [hqueue]; rfl, hlaunched.flight hground⟩
      · exact fun hsending => absurd rfl hsending
      · intro _
        rw [hlaunched.sendNextRequests]
  · refine Or.inl ?_
    have hstack : r.stack.handleMessage env = r.stack := by
      simp only [handleMessage, h.notDue hphase]
    rw [hstack]
    exact h

theorem accept {r : Run} {a : Sender Token} {env : Environment} {param : TpduParam}
    (h : Refines r a) (hgood : Good a)
    (hsendable : r.stack.sendSmsQueue = [] → Sendable env param) :
    Refines (r.answer param.token (r.stack.enqueueAndSendMessageToRL env param)) a ∨
      ∃ a', Step a (.accept param.token) a' ∧
        Refines (r.answer param.token (r.stack.enqueueAndSendMessageToRL env param)) a' := by
  have hlength : r.stack.tokenMessageMap.length = a.queue.length := by
    rw [← h.keys, List.length_map]
  by_cases hfull : maxMessageCount < r.stack.tokenMessageMap.length
  · refine Or.inl ?_
    simpa [enqueueAndSendMessageToRL, hfull, Run.answer] using h
  · by_cases hempty : r.stack.sendSmsQueue = []
    · refine Or.inr ?_
      have hqueue : a.queue = [] := h.queue.symm.trans hempty
      have hphase := hgood.idle_iff.mpr hqueue
      have hmap : r.stack.tokenMessageMap = [] := by
        apply List.length_eq_zero_iff.mp
        rw [hlength, hqueue, List.length_nil]
      refine ⟨_, .acceptIdle hphase, ?_⟩
      obtain ⟨s', hs', hlaunched⟩ := sendMoMessage_of_sendable
        { r.stack with
          sendSmsQueue := [param.token]
          tokenMessageMap := [param]
          handed := r.stack.handed ++ [param.token] }
        (hsendable hempty)
      have hstack : r.stack.enqueueAndSendMessageToRL env param = (.success, s') := by
        rw [enqueueAndSendMessageToRL, if_neg hfull]
        simp only [hempty, List.isEmpty_nil, ↓reduceIte, handOver, putTokenMessage, hmap,
          List.filter_nil, List.nil_append, hs']
      rw [hstack]
      have hground : ∀ id, ¬ r.stack.InFlight id := h.ground (by rw [hphase]; exact nofun)
      refine ⟨hlaunched.sendSmsQueue, ?_, ?_, ?_, ?_, ?_, ?_, nofun, ?_⟩
      · change s'.tokenMessageMap.map TpduParam.token = _
        rw [hlaunched.tokenMessageMap]
        rfl
      · simp [Run.answer, h.answered]
      · change s'.handed = _
        rw [hlaunched.handed, ← h.handed]
      · change s'.reports.map Report.token = _
        rw [hlaunched.reports]
        exact h.reported
      · intro _
        exact ⟨_, param.token, rfl, hlaunched.flight hground⟩
      · exact fun hsending => absurd rfl hsending
      · intro _
        change s'.sendNextRequests = _
        rw [hlaunched.sendNextRequests]
        exact h.notDue (by rw [hphase]; exact nofun)
    · have hqueue : a.queue ≠ [] := fun hnil => hempty (h.queue.trans hnil)
      have hbusy : a.phase ≠ .idle := fun hidle => hqueue (hgood.idle_iff.mp hidle)
      have hnonempty : r.stack.sendSmsQueue.isEmpty = false := by
        simpa using hempty
      cases hmessage : (r.stack.tokenMessage param.token).isSome with
      | true =>
        refine Or.inl ?_
        simpa [enqueueAndSendMessageToRL, hfull, hnonempty, hmessage, Run.answer] using h
      | false =>
        refine Or.inr ?_
        have hnew : param.token ∉ a.queue := by
          rw [← h.keys, List.mem_map]
          rintro ⟨p, hp, htoken⟩
          simp only [tokenMessage, Option.isSome_eq_false_iff, Option.isNone_iff_eq_none,
            List.find?_eq_none, decide_eq_true_eq] at hmessage
          exact hmessage p hp htoken
        have hfilter : r.stack.tokenMessageMap.filter (·.token ≠ param.token) =
            r.stack.tokenMessageMap := by
          rw [List.filter_eq_self]
          intro p hp
          simp only [ne_eq, decide_eq_true_eq]
          rintro heq
          exact hnew (h.keys ▸ heq ▸ List.mem_map_of_mem hp)
        refine ⟨_, .acceptBusy hbusy hnew, ?_⟩
        have hstack : r.stack.enqueueAndSendMessageToRL env param = (.success, { r.stack with
            tokenMessageMap := r.stack.tokenMessageMap ++ [param]
            sendSmsQueue := r.stack.sendSmsQueue ++ [param.token] }) := by
          simp only [enqueueAndSendMessageToRL, if_neg hfull, hnonempty, Bool.false_eq_true,
            ↓reduceIte, hmessage, putTokenMessage, hfilter]
        rw [hstack]
        have hhead : ∀ token, a.queue.head? = some token →
            (a.queue ++ [param.token]).head? = some token := by
          intro token hhead
          rw [List.head?_append_of_ne_nil _ hqueue, hhead]
        refine ⟨?_, ?_, ?_, h.handed, h.reported, ?_, h.ground, ?_, h.notDue⟩
        · simp [Run.answer, h.queue]
        · simp [Run.answer, h.keys]
        · simp [Run.answer, h.answered]
        · intro hsending
          obtain ⟨id, token, hfirst, hflight⟩ := h.sending hsending
          exact ⟨id, token, hhead token hfirst, ⟨hflight.lt, hflight.token, hflight.inFlight,
            hflight.tr1Posted, hflight.tr2Posted, hflight.only⟩⟩
        · intro hdue
          obtain ⟨next, hrequests, hfirst⟩ := h.due hdue
          exact ⟨next, hrequests, hhead _ hfirst⟩

/-- A machine that hears from the network completes the message under way, or changes
nothing that bears on the queue. -/
theorem report {r : Run} {a : Sender Token} {s' : SmsStack} (h : Refines r a)
    (hgood : Good a) (id : Nat)
    (hflight : r.stack.InFlight id → ∃ m messageRef result reason causeCode,
      m.currentState = SmsRLState.idle ∧
      s' = (r.stack.notifyRLReportIndication (r.stack.machine id).token messageRef result
        reason causeCode).setMachine id m)
    (hground : ¬ r.stack.InFlight id → r.stack.SameQueue s') :
    Refines { r with stack := s' } a ∨
      ∃ a', Step a .complete a' ∧ Refines { r with stack := s' } a' := by
  by_cases hid : r.stack.InFlight id
  · obtain ⟨m, messageRef, result, reason, causeCode, hidle, rfl⟩ := hflight hid
    exact Or.inr (h.complete hgood hid hidle messageRef result reason causeCode)
  · exact Or.inl (h.sameQueue (hground hid))

theorem onRPAckFromNetwork {r : Run} {a : Sender Token} (h : Refines r a) (hgood : Good a)
    (id : Nat) :
    Refines { r with stack := r.stack.onRPAckFromNetwork id } a ∨
      ∃ a', Step a .complete a' ∧
        Refines { r with stack := r.stack.onRPAckFromNetwork id } a' := by
  refine h.report hgood id (fun hid => ?_) (fun hid => ?_)
  · simp only [SmsStack.onRPAckFromNetwork, show (r.stack.machine id).currentState = _ from hid]
    exact ⟨_, _, _, _, _, rfl, rfl⟩
  · simp only [SmsStack.onRPAckFromNetwork]
    split
    · rename_i hstate
      exact absurd hstate hid
    · exact .refl _

theorem onRPErrorFromNetwork {r : Run} {a : Sender Token} (h : Refines r a) (hgood : Good a)
    (env : Environment) (id : Nat) (moRPError : SmsRPdu) :
    Refines { r with stack := r.stack.onRPErrorFromNetwork env id moRPError } a ∨
      ∃ a', Step a .complete a' ∧
        Refines { r with stack := r.stack.onRPErrorFromNetwork env id moRPError } a' := by
  refine h.report hgood id (fun hid => ?_) (fun hid => ?_)
  · simp only [SmsStack.onRPErrorFromNetwork,
      show (r.stack.machine id).currentState = _ from hid]
    exact ⟨_, _, _, _, _, rfl, rfl⟩
  · simp only [SmsStack.onRPErrorFromNetwork]
    split
    · rename_i hstate
      exact absurd hstate hid
    · exact .refl _

theorem onTR1TimerExpired {r : Run} {a : Sender Token} (h : Refines r a) (hgood : Good a)
    (id : Nat) :
    Refines { r with stack := r.stack.onTR1TimerExpired id } a ∨
      ∃ a', Step a .complete a' ∧
        Refines { r with stack := r.stack.onTR1TimerExpired id } a' := by
  refine h.report hgood id (fun hid => ?_) (fun hid => ?_)
  · simp only [SmsStack.onTR1TimerExpired, show (r.stack.machine id).currentState = _ from hid]
    exact ⟨_, _, _, _, _, rfl, rfl⟩
  · simp only [SmsStack.onTR1TimerExpired]
    split
    · rename_i hstate
      exact absurd hstate hid
    · exact sameQueue_setMachine hid hid

theorem onSipResponseForRPMessage {r : Run} {a : Sender Token} (h : Refines r a)
    (hgood : Good a) (id : Nat) (status : SendStatus) :
    Refines { r with stack := r.stack.onSipResponseForRPMessage id false status } a ∨
      ∃ a', Step a .complete a' ∧
        Refines { r with stack := r.stack.onSipResponseForRPMessage id false status } a' := by
  refine h.report hgood id (fun hid => ?_) (fun hid => ?_)
  · simp only [SmsStack.onSipResponseForRPMessage,
      show (r.stack.machine id).currentState = _ from hid, Bool.false_eq_true, ↓reduceIte]
    exact ⟨_, _, _, _, _, rfl, rfl⟩
  · simp only [SmsStack.onSipResponseForRPMessage]
    split
    · rename_i hstate
      exact absurd hstate hid
    · exact .refl _

theorem notifyStatusForOutgoingMessage {r : Run} {a : Sender Token} (h : Refines r a)
    (hgood : Good a) (statusResult : MoStatus) (messageReference : Int) :
    Refines { r with
      stack := r.stack.notifyStatusForOutgoingMessage statusResult messageReference } a ∨
      ∃ a', Step a .complete a' ∧ Refines { r with
        stack := r.stack.notifyStatusForOutgoingMessage statusResult messageReference } a' := by
  simp only [SmsStack.notifyStatusForOutgoingMessage]
  split
  · exact Or.inl h
  · split
    · exact Or.inl h
    · rename_i token _
      have huntracked := h.sameQueue ((sameQueue_removeMoMR _ messageReference).trans
        (sameQueue_untrack _ token))
      split
      · exact Or.inl huntracked
      · exact huntracked.onSipResponseForRPMessage hgood _ _

theorem onReportFromNetwork {r : Run} {a : Sender Token} (h : Refines r a)
    {onReport : SmsStack → Nat → SmsStack}
    (hreport : ∀ (r : Run) (id : Nat), Refines r a →
      Refines { r with stack := onReport r.stack id } a ∨
        ∃ a', Step a .complete a' ∧ Refines { r with stack := onReport r.stack id } a')
    (messageRef : Int) (token : Token) :
    Refines { r with stack := r.stack.onReportFromNetwork messageRef token onReport } a ∨
      ∃ a', Step a .complete a' ∧
        Refines { r with stack := r.stack.onReportFromNetwork messageRef token onReport } a' := by
  have hremoved := h.sameQueue (sameQueue_removeMoMR _ messageRef)
  simp only [SmsStack.onReportFromNetwork]
  split
  · exact Or.inl hremoved
  · rename_i id _
    rcases hreport _ id hremoved with hsame | ⟨a', hstep, hcompleted⟩
    · exact Or.inl (hsame.sameQueue (sameQueue_untrack _ token))
    · exact Or.inr ⟨a', hstep, hcompleted.sameQueue (sameQueue_untrack _ token)⟩

theorem notifyIncomingMessage {r : Run} {a : Sender Token} (h : Refines r a) (hgood : Good a)
    (env : Environment) (pduData : Octets) (listenerResult : Result) :
    Refines { r with stack := r.stack.notifyIncomingMessage env pduData listenerResult } a ∨
      ∃ a', Step a .complete a' ∧ Refines { r with
        stack := r.stack.notifyIncomingMessage env pduData listenerResult } a' := by
  simp only [SmsStack.notifyIncomingMessage]
  split
  · exact Or.inl h
  · split
    · split
      · exact Or.inl (h.sameQueue (sameQueue_sendRPError _ _ _ _ _ _))
      · exact h.onReportFromNetwork (fun _ id hr => hr.onRPAckFromNetwork hgood id) _ _
    · split
      · exact Or.inl h
      · exact h.onReportFromNetwork
          (fun _ id hr => hr.onRPErrorFromNetwork hgood env id _) _ _
    · exact Or.inl (h.sameQueue (sameQueue_onDataFromNetwork _ _ _ _ _))
    · exact Or.inl (h.sameQueue (sameQueue_sendRPError _ _ _ _ _ _))

theorem step {r r' : Run} {a : Sender Token} {e : Event} (h : Refines r a) (hgood : Good a)
    (hsendable : SendsSendable r e) (hstep : SmsStep r e r') :
    Refines r' a ∨ ∃ d a', Step a d a' ∧ Refines r' a' := by
  have hcomplete : ∀ {r' : Run}, (Refines r' a ∨ ∃ a', Step a .complete a' ∧ Refines r' a') →
      Refines r' a ∨ ∃ d a', Step a d a' ∧ Refines r' a' :=
    fun hreport => hreport.imp_right fun ⟨a', hstep, hr⟩ => ⟨_, a', hstep, hr⟩
  cases hstep with
  | sendMoTPdu =>
    rcases h.accept hgood hsendable with hsame | ⟨a', hstep, hr⟩
    · exact Or.inl hsame
    · exact Or.inr ⟨_, a', hstep, hr⟩
  | sendMemoryAvailabilityNotification =>
    rcases h.accept hgood hsendable with hsame | ⟨a', hstep, hr⟩
    · exact Or.inl hsame
    · exact Or.inr ⟨_, a', hstep, hr⟩
  | handleMessage =>
    rcases h.dispatch hsendable with hsame | ⟨a', hstep, hr⟩
    · exact Or.inl hsame
    · exact Or.inr ⟨_, a', hstep, hr⟩
  | notifyIncomingMessage => exact hcomplete (h.notifyIncomingMessage hgood _ _ _)
  | notifyStatusForOutgoingMessage =>
    exact hcomplete (h.notifyStatusForOutgoingMessage hgood _ _)
  | tr1TimerExpired => exact hcomplete (h.onTR1TimerExpired hgood _)
  | @tr2TimerExpired id hposted =>
    refine Or.inl (h.sameQueue (sameQueue_onTR2TimerExpired _ _ ?_ hposted))
    intro hflight
    obtain ⟨hphase, -⟩ := h.flight hflight
    obtain ⟨id', token, -, hfly⟩ := h.sending hphase
    obtain rfl := hfly.only id hflight
    exact hfly.tr2Posted
  | sendReportTPdu => exact Or.inl (h.sameQueue (sameQueue_sendMtReport _ _ _ _ _ _))

theorem queueMoves {r : Run} {a : Sender Token} (h : Refines r a) (hgood : Good a) :
    QueueMoves r := by
  constructor
  · intro token hhead
    rw [h.queue] at hhead
    cases hphase : a.phase with
    | idle =>
      rw [hgood.idle_iff.mp hphase] at hhead
      cases hhead
    | sending =>
      obtain ⟨id, first, hfirst, hflight⟩ := h.sending hphase
      obtain rfl := Option.some.inj (hfirst.symm.trans hhead)
      exact Or.inl ⟨id, hflight.token, hflight.inFlight, hflight.tr1Posted⟩
    | due =>
      obtain ⟨param, hrequests, hfirst⟩ := h.due hphase
      obtain rfl := Option.some.inj (hfirst.symm.trans hhead)
      exact Or.inr ⟨param, by rw [hrequests]; exact List.mem_singleton_self _, rfl⟩
  · intro id id' hid hid'
    obtain ⟨hphase, -⟩ := h.flight hid
    obtain ⟨id'', token, -, hfly⟩ := h.sending hphase
    exact (hfly.only id hid).trans (hfly.only id' hid').symm
  · intro token
    rw [h.reported, h.answered]
    exact hgood.count_reported_le token
  · rw [h.handed, h.answered]
    exact hgood.handed_prefix

end Refines

end ImsStack.Sms
