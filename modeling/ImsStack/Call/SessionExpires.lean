import ImsStack.Call.SessionHeaders
import ImsStack.Library.BoundedInt
import ImsStack.Platform.Numerals

/-!
The session interval between the two ends of a dialog: what one end writes in Session-Expires and
what the other end reads there.
-/

namespace ImsStack.Call

open Library.BoundedInt Library.FailureExits Platform.AString Platform.Numerals
  SessionHeaderWriter

/-- Two messages of one type, method and status. -/
structure SameStart {M : Type} [ISipMessage M] (m m' : M) : Prop where
  type : ISipMessage.getType m' = ISipMessage.getType m
  method : ISipMessage.getMethod m' = ISipMessage.getMethod m
  status : ISipMessage.getStatusCode m' = ISipMessage.getStatusCode m

theorem SameStart.trans {M : Type} [ISipMessage M] {m m' m'' : M} (h : SameStart m m')
    (h' : SameStart m' m'') : SameStart m m'' :=
  ⟨h'.type.trans h.type, h'.method.trans h.method, h'.status.trans h.status⟩

/-- The refresher parameter of a Session-Expires that an end with the refresher `r` writes, where
that end is called `self` and the other one `peer`. -/
def refresherParameter (self peer : Chars) : Refresher → Option Chars
  | .none => none
  | .local => some self
  | .remote => some peer

/-- Setting a header changes nothing else in a message, and a Session-Expires as the helper prints
it is parsed into its number and its refresher. -/
class LawfulMessage (M : Type) [ISipMessage M] : Prop where
  sameStart_addHeader (m : M) (header : SessionHeader) (value : Chars) :
    SameStart m (ISipMessage.addHeader m header value).2
  sameStart_setHeader (m : M) (header : SessionHeader) (value : Chars) :
    SameStart m (ISipMessage.setHeader m header value).2
  setHeader (m : M) (header : SessionHeader) (value : Chars) :
    (ISipMessage.setHeader m header value).1 = true →
      ISipMessage.isHeaderPresent (ISipMessage.setHeader m header value).2 header = true ∧
        ISipMessage.getHeader (ISipMessage.setHeader m header value).2 header = value
  createHeader (h : SessionHeaderWriter) (self peer : Chars) :
    self ∈ [strUac, strUas] → peer ∈ [strUac, strUas] →
      ∃ header, ISipMessage.createHeader (M := M) .sessionExpires
          (h.sessionExpiresText self peer) = some header ∧
        header.value = setNumber h.getSessionTimerDuration ∧
        header.parameter strRefresher = refresherParameter self peer h.parameters.refresher

section Unchanged

variable {M : Type} [ISipMessage M] (w : SessionHeaderWriter) (m : M)

theorem updateSessionExpires_eq (bSent : Bool) :
    ∃ p, (w.updateSessionExpires m bSent).2 = w.setParameters p := by
  unfold SessionHeaderWriter.updateSessionExpires
  split
  · split
    · exact ⟨w.parameters, rfl⟩
    · dsimp only
      split
      · exact ⟨_, rfl⟩
      · exact ⟨_, rfl⟩
  · exact ⟨w.parameters, rfl⟩

theorem updateMinSe_eq :
    ∃ minSe, (w.updateMinSe m).2 = w.setParameters { w.parameters with minSe } := by
  unfold SessionHeaderWriter.updateMinSe
  split
  · split
    · exact ⟨_, rfl⟩
    · split
      · exact ⟨_, rfl⟩
      · split
        · exact ⟨_, rfl⟩
        · exact ⟨_, rfl⟩
  · exact ⟨_, rfl⟩

theorem updateProperties_sent_sipConfigV :
    (w.updateProperties m true true).sipConfigV = w.sipConfigV := by
  obtain ⟨p, hp⟩ := updateSessionExpires_eq w m true
  obtain ⟨minSe, hminSe⟩ := updateMinSe_eq (w.setParameters p) m
  unfold SessionHeaderWriter.updateProperties
  simp only [hp, hminSe, Bool.not_true, Bool.false_and, Bool.or_false, Bool.false_eq_true, if_false]
  split_ifs <;> rfl

end Unchanged

section Written

variable {M : Type}

theorem keeps_get {P : Writing M → Prop} : Keeps P (get : Write M (Writing M)) := fun _ h => h

theorem keeps_getHelper {P : Writing M → Prop} : Keeps P (getHelper : Write M _) := fun _ h => h

theorem keeps_unless {P : Writing M → Prop} (set : Bool) :
    Keeps P (do if !set then throw () : Write M Unit) :=
  .ite (.exit ()) (.pure ())

variable [ISipMessage M] {w : SessionHeaderWriter} {m : M}

/-- What writing the headers keeps of the helper and of the message. -/
structure WrittenFrom (w : SessionHeaderWriter) (m : M) (s : Writing M) : Prop where
  sipConfigV : s.helper.sipConfigV = w.sipConfigV
  sameStart : SameStart m s.message

/-- Session-Expires as the helper prints it now. -/
def Carries (self peer : Chars) (s : Writing M) : Prop :=
  s.helper.hasSessionTimerDuration = true → s.helper.sipHeaders.sessionExpires = true →
    ISipMessage.isHeaderPresent s.message .sessionExpires = true ∧
      ISipMessage.getHeader s.message .sessionExpires = s.helper.sessionExpiresText self peer

theorem keeps_updateFromInitialInvite (method : SipMethod) (state : DialogState) :
    Keeps (WrittenFrom w m) (updateFromInitialInvite method state) := by
  intro s hs
  have hconfig := (updateProperties_sent_sipConfigV s.helper s.message).trans hs.sipConfigV
  change WrittenFrom w m (if _ then _ else _)
  split
  · dsimp only
    split
    · exact ⟨hconfig, hs.sameStart⟩
    · exact ⟨hconfig, hs.sameStart⟩
  · exact hs

theorem keeps_updateRefreshRequest (method : SipMethod) (state : DialogState) :
    Keeps (WrittenFrom w m) (updateRefreshRequest method state) := by
  intro s hs
  change WrittenFrom w m (if _ then _ else _)
  split
  · cases method with
    | invite => exact ⟨hs.sipConfigV, hs.sameStart⟩
    | update => exact ⟨hs.sipConfigV, hs.sameStart⟩
    | other => exact hs
  · exact hs

variable [LawfulMessage M]

theorem keeps_addHeader (header : SessionHeader) (value : Chars) :
    Keeps (WrittenFrom w m) (addHeader header value) := fun _ hs =>
  ⟨hs.sipConfigV, hs.sameStart.trans (LawfulMessage.sameStart_addHeader _ _ _)⟩

theorem keeps_setHeader (header : SessionHeader) (value : Chars) :
    Keeps (WrittenFrom w m) (setHeader header value) := fun _ hs =>
  ⟨hs.sipConfigV, hs.sameStart.trans (LawfulMessage.sameStart_setHeader _ _ _)⟩

theorem keeps_addSupported (config : SessionConfig) :
    Keeps (WrittenFrom w m) (addSupported config) :=
  keeps_get.bind fun _ => .ite ((keeps_addHeader _ _).bind keeps_unless) (.pure ())

theorem keeps_addResponseOption : Keeps (WrittenFrom w m) addResponseOption := by
  refine keeps_getHelper.bind fun _ => .ite ?_ ?_
  · exact keeps_getHelper.bind fun _ => .ite ((keeps_addHeader _ _).bind keeps_unless) (.pure ())
  · exact keeps_get.bind fun _ => .ite ((keeps_addHeader _ _).bind keeps_unless) (.pure ())

theorem ends_setSessionExpires (self peer : Chars) (s : Writing M) (hs : WrittenFrom w m s) :
    Ends (do
        let h ← getHelper
        if h.hasSessionTimerDuration ∧ h.sipHeaders.sessionExpires then
          let set ← setHeader .sessionExpires (h.sessionExpiresText self peer)
          if !set then throw () : Write M Unit) s
      (fun _ s' => WrittenFrom w m s' ∧ Carries self peer s') (fun _ => True) := by
  have hhelper : Ends (getHelper : Write M SessionHeaderWriter) s
      (fun h s' => s.helper = h ∧ s = s') (fun _ => True) := ⟨rfl, rfl⟩
  refine hhelper.bind ?_
  rintro _ _ ⟨rfl, rfl⟩
  refine .ite (fun _ => ?_) fun hnot => ⟨hs, fun h h' => absurd ⟨h, h'⟩ hnot⟩
  have hset : Ends (setHeader .sessionExpires (s.helper.sessionExpiresText self peer) :
      Write M Bool) s (fun set s' => set = true → WrittenFrom w m s' ∧ Carries self peer s')
      (fun _ => True) :=
    fun h => ⟨keeps_setHeader _ _ s hs, fun _ _ => LawfulMessage.setHeader _ _ _ h⟩
  refine hset.bind fun set _ hs' => ?_
  cases set with
  | false => exact trivial
  | true => exact hs' rfl

/-- The messages that an interval is written into. -/
def TakesInterval (config : SessionConfig) (state : DialogState) (m : M) : Prop :=
  match ISipMessage.getType m with
  | .request => config.isSessionTimerSupported = true ∧
      (ISipMessage.getMethod m = .invite ∨
        updateOnConfirmedDialog (ISipMessage.getMethod m) state = true)
  | .response => isFinalSuccess (ISipMessage.getStatusCode m) = true ∧
      (ISipMessage.getMethod m = .invite ∨ ISipMessage.getMethod m = .update)

/-- How a message calls the end that writes it. -/
def writerName : MessageType → Chars
  | .request => strUac
  | .response => strUas

/-- How a message calls the end that reads it. -/
def readerName : MessageType → Chars
  | .request => strUas
  | .response => strUac

/-- Every way through `AddSpecificHeader` for such a message that does not fail ends with
Session-Expires. -/
theorem writeHeaders_carries {config : SessionConfig} (hconfig : w.sipConfigV = some config)
    {state : DialogState} (hm : TakesInterval config state m) :
    Ends (writeHeaders (ISipMessage.getMethod m) state) ⟨w, m⟩
      (fun _ s => WrittenFrom w m s ∧
        Carries (writerName (ISipMessage.getType m)) (readerName (ISipMessage.getType m)) s)
      (fun _ => True) := by
  have hstart : WrittenFrom w m ⟨w, m⟩ := ⟨rfl, rfl, rfl, rfl⟩
  refine Ends.bind (keeps_updateFromInitialInvite _ _ _ hstart).weaken fun _ s hs => ?_
  have hhelper : Ends (getHelper : Write M SessionHeaderWriter) s
      (fun h s' => s.helper = h ∧ s = s') (fun _ => True) := ⟨rfl, rfl⟩
  refine hhelper.bind ?_
  rintro _ _ ⟨rfl, rfl⟩
  rw [hs.sipConfigV, hconfig]
  refine Ends.bind (keeps_addSupported config s hs).weaken fun _ s hs => ?_
  have hget : Ends (get : Write M (Writing M)) s (fun a s' => s = a ∧ s = s') (fun _ => True) :=
    ⟨rfl, rfl⟩
  refine hget.bind ?_
  rintro _ _ ⟨rfl, rfl⟩
  rw [hs.sameStart.type]
  unfold TakesInterval at hm
  cases htype : ISipMessage.getType m with
  | request =>
    rw [htype] at hm
    rw [if_pos ⟨rfl, hm.1⟩]
    refine .ite (fun _ => ?_) fun hnot => absurd hm.2 hnot
    have hminSe : Keeps (WrittenFrom w m) (setRequestMinSe config.sessionMinSe) :=
      keeps_getHelper.bind fun _ => .ite ((keeps_setHeader _ _).bind keeps_unless) (.pure ())
    refine Ends.bind (hminSe s hs).weaken fun _ s hs => ?_
    refine Ends.bind (keeps_updateRefreshRequest _ _ s hs).weaken fun _ s hs => ?_
    exact ends_setSessionExpires _ _ s hs
  | response =>
    rw [htype] at hm
    rw [if_neg (fun h => MessageType.noConfusion h.1), if_pos rfl]
    have hminSe : Keeps (WrittenFrom w m)
        (setResponseMinSe (ISipMessage.getMethod m) state config.sessionMinSe) :=
      keeps_get.bind fun _ => .ite ((keeps_setHeader _ _).bind keeps_unless) (.pure ())
    refine Ends.bind (hminSe s hs).weaken fun _ s hs => ?_
    have hget : Ends (get : Write M (Writing M)) s (fun a s' => s = a ∧ s = s')
      (fun _ => True) := ⟨rfl, rfl⟩
    refine hget.bind ?_
    rintro _ _ ⟨rfl, rfl⟩
    refine .ite (fun _ => ?_) fun hnot => absurd (hs.sameStart.status.symm ▸ hm.1) hnot
    refine Ends.bind (keeps_addResponseOption s hs).weaken fun _ s hs => ?_
    exact ends_setSessionExpires _ _ s hs

end Written

section Read

variable {M : Type} [ISipMessage M] [LawfulMessage M]

/-- The refresher of a session as the other end of the dialog sees it. -/
def seenFrom (v : SessionHeaderWriter) : Refresher → Refresher
  | .none => v.defaultRefresher
  | .local => .remote
  | .remote => .local

theorem updateProperties_carried {s : Writing M} {type : MessageType}
    (htype : ISipMessage.getType s.message = type)
    (hs : Carries (writerName type) (readerName type) s)
    (hduration : s.helper.hasSessionTimerDuration = true)
    (hoption : s.helper.sipHeaders.sessionExpires = true)
    (hstatus : type = .response → ISipMessage.getStatusCode s.message ≠ 422)
    (hfits : Fits s.helper.getSessionTimerDuration) (v : SessionHeaderWriter) :
    (v.updateProperties s.message true false).getSessionTimerDuration =
        s.helper.getSessionTimerDuration ∧
      (v.updateProperties s.message true false).parameters.refresher =
        seenFrom v s.helper.parameters.refresher := by
  obtain ⟨hpresent, htext⟩ := hs hduration hoption
  obtain ⟨header, hheader, hvalue, hparameter⟩ := LawfulMessage.createHeader (M := M) s.helper
    (writerName type) (readerName type) (by cases type <;> simp [writerName])
    (by cases type <;> simp [readerName])
  have hnumber : toInt32? (setNumber s.helper.getSessionTimerDuration) =
      some s.helper.getSessionTimerDuration := by
    unfold Fits at hfits
    exact toInt32?_setNumber (by omega) (by omega)
  have hread : v.updateSessionExpires s.message false = (true, v.setParameters
      { v.parameters with
        sessionTimerDuration := s.helper.getSessionTimerDuration
        refresher := seenFrom v s.helper.parameters.refresher }) := by
    unfold SessionHeaderWriter.updateSessionExpires
    rw [if_pos hpresent, htext, hheader]
    dsimp only
    rw [hvalue, toInt32, hnumber, hparameter, htype]
    cases s.helper.parameters.refresher with
    | none => rfl
    | «local» => cases type <;> rfl
    | remote => cases type <;> rfl
  have hchangeable : (ISipMessage.getType s.message == .response &&
      ISipMessage.getStatusCode s.message == 422) = false := by
    rw [htype]
    cases type with
    | request => rfl
    | response => exact beq_false_of_ne (hstatus rfl)
  obtain ⟨minSe, hminSe⟩ := updateMinSe_eq
    (v.setParameters { v.parameters with
      sessionTimerDuration := s.helper.getSessionTimerDuration
      refresher := seenFrom v s.helper.parameters.refresher }) s.message
  have hpositive : s.helper.getSessionTimerDuration > 0 := of_decide_eq_true hduration
  unfold SessionHeaderWriter.updateProperties
  simp only [hread, hpresent, hminSe, hchangeable, Bool.not_true, Bool.not_false, Bool.true_and,
    Bool.false_eq_true, if_false, Bool.and_false, Bool.false_and, Bool.or_false]
  split
  · exact ⟨if_pos hpositive, rfl⟩
  · exact ⟨if_pos hpositive, rfl⟩

/-- The interval and the refresher go from one end to the other: what is left in the helper that has
written a message is what another helper reads of it, seen from the other end. -/
theorem updateProperties_addSpecificHeader {w h' : SessionHeaderWriter} {config : SessionConfig}
    (hconfig : w.sipConfigV = some config) {m m' : M} {state : DialogState}
    (hm : TakesInterval config state m)
    (hwritten : w.addSpecificHeader ⟨some m, some state⟩ = ⟨true, h', some m'⟩)
    (hduration : h'.hasSessionTimerDuration = true) (hoption : h'.sipHeaders.sessionExpires = true)
    (hfits : Fits h'.getSessionTimerDuration) (v : SessionHeaderWriter) :
    (v.updateProperties m' true false).getSessionTimerDuration = h'.getSessionTimerDuration ∧
      (v.updateProperties m' true false).parameters.refresher =
        seenFrom v h'.parameters.refresher := by
  have hends := writeHeaders_carries hconfig hm
  have hmethod : ¬(ISipMessage.getMethod m ≠ .invite ∧ ISipMessage.getMethod m ≠ .update) := by
    unfold TakesInterval updateOnConfirmedDialog at hm
    cases htype : ISipMessage.getType m <;> rw [htype] at hm <;> simp at hm <;> tauto
  unfold SessionHeaderWriter.addSpecificHeader at hwritten
  dsimp only at hwritten
  rw [if_neg hmethod] at hwritten
  unfold Ends at hends
  cases hp : writeHeaders (ISipMessage.getMethod m) state ⟨w, m⟩ with
  | error e s =>
    rw [hp] at hwritten
    exact absurd (congrArg Written.result hwritten) Bool.false_ne_true
  | ok a s =>
    rw [hp] at hends hwritten
    obtain rfl : s.helper = h' := congrArg Written.helper hwritten
    obtain rfl : s.message = m' := Option.some.inj (congrArg Written.message hwritten)
    refine updateProperties_carried hends.1.sameStart.type hends.2 hduration hoption ?_ hfits v
    intro hresponse hstatus
    unfold TakesInterval at hm
    rw [hresponse, ← hends.1.sameStart.status, hstatus] at hm
    exact absurd hm.1 (by decide)

end Read

/-- A message as a list of headers, which can all be set. -/
structure HeaderList where
  type : MessageType
  method : SipMethod
  status : Int
  headers : List (SessionHeader × Chars)

/-- The text behind the name of a parameter, where a header has one parameter. -/
def soleParameter (text name : Chars) : Option Chars :=
  match text.dropWhile (· ≠ ';') with
  | _ :: parameter =>
    if parameter.takeWhile (· ≠ '=') = name then
      some ((parameter.dropWhile (· ≠ '=')).drop 1)
    else none
  | [] => none

instance : ISipMessage HeaderList where
  getMethod m := m.method
  getType m := m.type
  getStatusCode m := m.status
  isHeaderPresent m header := m.headers.any fun h => h.1 == header
  getHeader m header := ((m.headers.find? fun h => h.1 == header).map Prod.snd).getD []
  isOptionSupported m option := m.headers.any fun h => h == (.supported, option)
  addHeader m header value := (true, { m with headers := m.headers ++ [(header, value)] })
  setHeader m header value := (true, { m with
    headers := (header, value) :: m.headers.filter fun h => h.1 != header })
  createHeader _ text := some ⟨text.takeWhile (· ≠ ';'), soleParameter text⟩

theorem forall_ne_semicolon (n : Int) : ∀ c ∈ setNumber n, decide (c ≠ ';') = true :=
  fun _ hc => decide_eq_true fun h => not_mem_setNumber n (by decide) (by decide) (h ▸ hc)

theorem takeWhile_printed (n : Int) (rest : Chars) :
    (setNumber n ++ ';' :: rest).takeWhile (· ≠ ';') = setNumber n := by
  rw [List.takeWhile_append_of_pos (forall_ne_semicolon n)]
  exact List.append_nil _

theorem dropWhile_printed (n : Int) (rest : Chars) :
    (setNumber n ++ ';' :: rest).dropWhile (· ≠ ';') = ';' :: rest := by
  rw [List.dropWhile_append_of_pos (forall_ne_semicolon n)]
  rfl

theorem takeWhile_sessionExpiresText (h : SessionHeaderWriter) (self peer : Chars) :
    (h.sessionExpiresText self peer).takeWhile (· ≠ ';') = setNumber h.getSessionTimerDuration := by
  unfold SessionHeaderWriter.sessionExpiresText
  cases h.parameters.refresher with
  | none => exact List.takeWhile_eq_self_iff.mpr (forall_ne_semicolon _)
  | «local» =>
    simp only [List.append_assoc]
    exact takeWhile_printed _ _
  | remote =>
    simp only [List.append_assoc]
    exact takeWhile_printed _ _

theorem soleParameter_sessionExpiresText (h : SessionHeaderWriter) {self peer : Chars}
    (hself : self ∈ [strUac, strUas]) (hpeer : peer ∈ [strUac, strUas]) :
    soleParameter (h.sessionExpiresText self peer) strRefresher =
      refresherParameter self peer h.parameters.refresher := by
  simp only [List.mem_cons, List.not_mem_nil, or_false] at hself hpeer
  unfold SessionHeaderWriter.sessionExpiresText soleParameter
  cases h.parameters.refresher with
  | none =>
    rw [List.dropWhile_eq_nil_iff.mpr (forall_ne_semicolon _)]
    rfl
  | «local» =>
    simp only [List.append_assoc, List.cons_append, dropWhile_printed]
    rcases hself with rfl | rfl <;> rfl
  | remote =>
    simp only [List.append_assoc, List.cons_append, dropWhile_printed]
    rcases hpeer with rfl | rfl <;> rfl

theorem getHeader_setHeader (m : HeaderList) (header : SessionHeader) (value : Chars) :
    ISipMessage.getHeader (ISipMessage.setHeader m header value).2 header = value := by
  simp [ISipMessage.setHeader, ISipMessage.getHeader]

instance : LawfulMessage HeaderList where
  sameStart_addHeader _ _ _ := ⟨rfl, rfl, rfl⟩
  sameStart_setHeader _ _ _ := ⟨rfl, rfl, rfl⟩
  setHeader m header value _ :=
    ⟨List.any_eq_true.mpr ⟨_, List.mem_cons_self, beq_self_eq_true header⟩,
      getHeader_setHeader m header value⟩
  createHeader h self peer hself hpeer :=
    ⟨_, rfl, takeWhile_sessionExpiresText h self peer,
      soleParameter_sessionExpiresText h hself hpeer⟩

/-- A UAS that has agreed to an interval and lets the UAC refresh. -/
def answeringUas : SessionHeaderWriter :=
  ⟨⟨.remote, none, 0, 1800, 0⟩, ⟨true, false, false, true, false⟩, true, false,
    some ⟨90, 1800, true⟩⟩

def inviteAnswer : HeaderList := ⟨.response, .invite, 200, []⟩

def writtenAnswer : HeaderList := ⟨.response, .invite, 200,
  [(.sessionExpires, "1800;refresher=uac".toList), (.supported, strTimer), (.require, strTimer)]⟩

theorem updateProperties_addSpecificHeader_answer :
    (answeringUas.updateProperties writtenAnswer true false).getSessionTimerDuration = 1800 ∧
      (answeringUas.updateProperties writtenAnswer true false).parameters.refresher = .local := by
  have hm : TakesInterval ⟨90, 1800, true⟩ .confirmed inviteAnswer := ⟨rfl, .inl rfl⟩
  have hwritten : answeringUas.addSpecificHeader ⟨some inviteAnswer, some .confirmed⟩ =
      ⟨true, answeringUas, some writtenAnswer⟩ := rfl
  exact updateProperties_addSpecificHeader rfl hm hwritten rfl rfl (by decide) answeringUas

end ImsStack.Call
