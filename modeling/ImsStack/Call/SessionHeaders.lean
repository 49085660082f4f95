import ImsStack.Call.SessionTimer
import ImsStack.Library.FailureExits
import ImsStack.Platform.AString

/-!
The headers of the session timer in an outgoing message: `SessionRefreshHelper::AddSpecificHeader`,
which keeps what it finds in the message, and `AddSpecificHeaderWithoutParameterChange`, which puts
it back.
-/

namespace ImsStack.Call

open Library.FailureExits Platform.AString

/-- The header fields that are read or written. -/
inductive SessionHeader where
  | sessionExpires
  | minSe
  | supported
  | require
  deriving DecidableEq, Repr

inductive SipMethod where
  | invite
  | update
  | other
  deriving DecidableEq, Repr

/-- `ISipMessage::TYPE_*`. -/
inductive MessageType where
  | request
  | response
  deriving DecidableEq, Repr

/-- `ISipDialog::STATE_*`. -/
inductive DialogState where
  | init
  | terminated
  | early
  | confirmed
  deriving DecidableEq, Repr

/-- `ISipHeader` as `SipParsingHelper::CreateHeader` makes it of the text of a header. -/
structure SipHeader where
  value : Chars
  parameter : Chars → Option Chars

/-- `ISipMessage`: what a message answers, and the two ways to set a header in it, each of which may
fail. -/
class ISipMessage (M : Type) where
  getMethod : M → SipMethod
  getType : M → MessageType
  getStatusCode : M → Int
  isHeaderPresent : M → SessionHeader → Bool
  getHeader : M → SessionHeader → Chars
  isOptionSupported : M → Chars → Bool
  addHeader : M → SessionHeader → Chars → Bool × M
  setHeader : M → SessionHeader → Chars → Bool × M
  createHeader : SessionHeader → Chars → Option SipHeader

/-- `m_nSipHeaders`, one flag for each bit that is tested. -/
structure SessionHeaderOptions where
  minSe : Bool
  localTimerRequired : Bool
  requireTimerOption : Bool
  sessionExpires : Bool
  sessionTimerTurnOffAllowed : Bool
  deriving DecidableEq, Repr

/-- What is read of `SipConfigV`. -/
structure SessionConfig where
  sessionMinSe : Int
  sessionExpires : Int
  isSessionTimerSupported : Bool
  deriving DecidableEq, Repr

/-- The values that the headers change. -/
structure SessionRefreshParameters where
  refresher : Refresher
  refreshRequest : Option RefreshMethod
  minSe : Int
  sessionTimerDuration : Int
  localSessionTimerDuration : Int
  deriving DecidableEq, Repr

/-- `SessionRefreshHelper`. -/
structure SessionHeaderWriter where
  parameters : SessionRefreshParameters
  sipHeaders : SessionHeaderOptions
  timerSupportedOnInitialInvite : Bool
  timerSupportedOnSessionUpdate : Bool
  sipConfigV : Option SessionConfig
  deriving DecidableEq, Repr

namespace SessionHeaderWriter

variable {M : Type} [ISipMessage M]

def strTimer : Chars := "timer".toList
def strRefresher : Chars := "refresher".toList
def strUac : Chars := "uac".toList
def strUas : Chars := "uas".toList

def getSessionTimerDuration (h : SessionHeaderWriter) : Int :=
  if h.parameters.sessionTimerDuration > 0 then h.parameters.sessionTimerDuration
  else h.parameters.localSessionTimerDuration

def hasSessionTimerDuration (h : SessionHeaderWriter) : Bool := 0 < h.getSessionTimerDuration

def isSessionTimerSupportedOnUac (h : SessionHeaderWriter) : Bool :=
  h.timerSupportedOnInitialInvite || h.timerSupportedOnSessionUpdate

/-- The value where a message names no refresher that it knows. -/
def defaultRefresher (h : SessionHeaderWriter) : Refresher :=
  if h.sipHeaders.localTimerRequired then .local else .none

/-- The refresher without a parameter in Session-Expires. -/
def absentRefresher (h : SessionHeaderWriter) (messageType : MessageType) (bSent : Bool) :
    Refresher :=
  if bSent && messageType == .request then .none else h.defaultRefresher

/-- The refresher that the parameter of Session-Expires names. -/
def namedRefresher (h : SessionHeaderWriter) (messageType : MessageType) (bSent : Bool)
    (strRefresher : Chars) : Refresher :=
  match messageType, bSent with
  | .response, true =>
    if equalsIgnoreCase strRefresher strUac then .remote
    else if equalsIgnoreCase strRefresher strUas then .local
    else h.defaultRefresher
  | .response, false =>
    if equalsIgnoreCase strRefresher strUac then .local
    else if equalsIgnoreCase strRefresher strUas then .remote
    else h.defaultRefresher
  | .request, true =>
    if equalsIgnoreCase strRefresher strUac then .local
    else if equalsIgnoreCase strRefresher strUas then .remote
    else .none
  | .request, false =>
    if equalsIgnoreCase strRefresher strUac then .remote
    else if equalsIgnoreCase strRefresher strUas then .local
    else h.defaultRefresher

def setParameters (h : SessionHeaderWriter) (parameters : SessionRefreshParameters) :
    SessionHeaderWriter :=
  { h with parameters }

/-- The part of `UpdateProperties` on Session-Expires; whether it goes on after it. -/
def updateSessionExpires (h : SessionHeaderWriter) (m : M) (bSent : Bool) :
    Bool × SessionHeaderWriter :=
  if ISipMessage.isHeaderPresent m .sessionExpires then
    match ISipMessage.createHeader (M := M) .sessionExpires
        (ISipMessage.getHeader m .sessionExpires) with
    | none => (false, h)
    | some header =>
      let h := h.setParameters
        { h.parameters with sessionTimerDuration := toInt32 header.value }
      if (toInt32? header.value).isNone then (false, h)
      else
        let refresher := match header.parameter strRefresher with
          | none => h.absentRefresher (ISipMessage.getType m) bSent
          | some text => h.namedRefresher (ISipMessage.getType m) bSent text
        (true, h.setParameters { h.parameters with refresher })
  else (true, h)

/-- The part on Min-SE, of which the largest is kept. -/
def updateMinSe (h : SessionHeaderWriter) (m : M) : Bool × SessionHeaderWriter :=
  if ISipMessage.isHeaderPresent m .minSe then
    match ISipMessage.createHeader (M := M) .minSe (ISipMessage.getHeader m .minSe) with
    | none => (false, h)
    | some header =>
      match toInt32? header.value with
      | none => (false, h)
      | some nTempMinSe =>
        if nTempMinSe > h.parameters.minSe then
          (true, h.setParameters { h.parameters with minSe := nTempMinSe })
        else (true, h)
  else (true, h)

/-- An interval that is not below Min-SE, where there is one. -/
def notBelowMinSe (h : SessionHeaderWriter) (interval : Int) : Int :=
  if h.parameters.minSe > 0 && interval < h.parameters.minSe then h.parameters.minSe else interval

/-- The part on a received message without Session-Expires. -/
def updateWithoutSessionExpires (h : SessionHeaderWriter) (m : M) : SessionHeaderWriter :=
  let h :=
    if h.parameters.refresher == .none && !ISipMessage.isOptionSupported m strTimer then
      h.setParameters { h.parameters with refresher := .local }
    else h
  if h.sipHeaders.localTimerRequired then
    let h := h.setParameters { h.parameters with refresher := .local }
    match h.sipConfigV with
    | none => h
    | some config =>
      h.setParameters
        { h.parameters with localSessionTimerDuration := h.notBelowMinSe config.sessionExpires }
  else if h.parameters.sessionTimerDuration == 0 && !h.sipHeaders.sessionTimerTurnOffAllowed then
    match h.sipConfigV with
    | none => h
    | some config =>
      h.setParameters
        { h.parameters with sessionTimerDuration := h.notBelowMinSe config.sessionExpires }
  else h

def updateProperties (h : SessionHeaderWriter) (m : M) (bTimerOptionSupported bSent : Bool) :
    SessionHeaderWriter :=
  let expires := h.updateSessionExpires m bSent
  if !expires.1 then expires.2
  else
    let minSe := expires.2.updateMinSe m
    let h := minSe.2
    if !minSe.1 then h
    else
      let bSessionIntervalChangeable := !bTimerOptionSupported ||
        (!bSent && ISipMessage.getType m == .response && ISipMessage.getStatusCode m == 422)
      let h :=
        if bSessionIntervalChangeable && h.parameters.minSe > h.parameters.sessionTimerDuration then
          h.setParameters { h.parameters with sessionTimerDuration := h.parameters.minSe }
        else h
      let h := h.setParameters { h.parameters with localSessionTimerDuration := 0 }
      if !bSent && !ISipMessage.isHeaderPresent m .sessionExpires && bTimerOptionSupported &&
          !bSessionIntervalChangeable then
        h.updateWithoutSessionExpires m
      else h

/-- The helper and the message while headers are set. -/
structure Writing (M : Type) where
  helper : SessionHeaderWriter
  message : M

/-- A part of one of the two functions; its failure exits are `return IMS_FALSE`. -/
abbrev Write (M : Type) := Exits Unit (Writing M)

def getHelper : Write M SessionHeaderWriter := do return (← get).helper

def addHeader (header : SessionHeader) (value : Chars) : Write M Bool := fun s =>
  let added := ISipMessage.addHeader s.message header value
  .ok added.1 { s with message := added.2 }

def setHeader (header : SessionHeader) (value : Chars) : Write M Bool := fun s =>
  let set := ISipMessage.setHeader s.message header value
  .ok set.1 { s with message := set.2 }

/-- The refresher parameter behind the interval of Session-Expires. -/
def sessionExpiresText (h : SessionHeaderWriter) (localText remoteText : Chars) : Chars :=
  let strSessionExpires := setNumber h.getSessionTimerDuration
  match h.parameters.refresher with
  | .none => strSessionExpires
  | .local => strSessionExpires ++ [';'] ++ strRefresher ++ ['='] ++ localText
  | .remote => strSessionExpires ++ [';'] ++ strRefresher ++ ['='] ++ remoteText

/-- `SipStatusCode::IsFinalSuccess`. -/
def isFinalSuccess (nStatusCode : Int) : Bool := 200 ≤ nStatusCode && nStatusCode < 300

/-- The larger of the two values for Min-SE. -/
def minSeText (h : SessionHeaderWriter) (nConfigMinSe : Int) : Chars :=
  if h.parameters.minSe > nConfigMinSe then setNumber h.parameters.minSe
  else setNumber nConfigMinSe

/-- What both functions take from an initial INVITE before they set headers. -/
def updateFromInitialInvite (method : SipMethod) (state : DialogState) : Write M Unit :=
  modify fun s =>
    if ISipMessage.getType s.message = .request ∧ method = .invite ∧ state ≠ .confirmed then
      let nTmpRefresher := s.helper.parameters.refresher
      let h := s.helper.updateProperties s.message true true
      if h.parameters.refresher = .none then
        { s with helper := h.setParameters { h.parameters with refresher := nTmpRefresher } }
      else { s with helper := h }
    else s

/-- The refresh request of a session that is established. -/
def updateRefreshRequest (method : SipMethod) (state : DialogState) : Write M Unit :=
  modify fun s =>
    let parameters := s.helper.parameters
    if state = .confirmed then
      match method with
      | .invite =>
        { s with
          helper := s.helper.setParameters { parameters with refreshRequest := some .invite } }
      | .update =>
        { s with
          helper := s.helper.setParameters { parameters with refreshRequest := some .update } }
      | .other => s
    else s

/-- An UPDATE within an established session. -/
def updateOnConfirmedDialog (method : SipMethod) (state : DialogState) : Bool :=
  method == .update && state == .confirmed

/-! The parts of `AddSpecificHeader`, each with its own exits. -/

def addSupported (config : SessionConfig) : Write M Unit := do
  let s ← get
  if config.isSessionTimerSupported ∧ !ISipMessage.isOptionSupported s.message strTimer then
    let added ← addHeader .supported strTimer
    if !added then throw ()

def setRequestMinSe (nConfigMinSe : Int) : Write M Unit := do
  let h ← getHelper
  if (h.parameters.minSe > 0 ∨ nConfigMinSe > 0) ∧ h.sipHeaders.minSe then
    let set ← setHeader .minSe (h.minSeText nConfigMinSe)
    if !set then throw ()

def setRequestSessionExpires : Write M Unit := do
  let h ← getHelper
  if h.hasSessionTimerDuration ∧ h.sipHeaders.sessionExpires then
    let set ← setHeader .sessionExpires (h.sessionExpiresText strUac strUas)
    if !set then throw ()

def writeRequestHeaders (method : SipMethod) (state : DialogState) (nConfigMinSe : Int) :
    Write M Unit := do
  if method = .invite ∨ updateOnConfirmedDialog method state then
    setRequestMinSe nConfigMinSe
    updateRefreshRequest method state
    setRequestSessionExpires

def setResponseMinSe (method : SipMethod) (state : DialogState) (nConfigMinSe : Int) :
    Write M Unit := do
  let s ← get
  if ISipMessage.getStatusCode s.message = 422 ∧
      (method = .invite ∨ updateOnConfirmedDialog method state) then
    let set ← setHeader .minSe (s.helper.minSeText nConfigMinSe)
    if !set then throw ()

def addRequire : Write M Unit := do
  let h ← getHelper
  if h.sipHeaders.requireTimerOption ∨ h.parameters.refresher = .remote ∨
      (h.parameters.refresher = .local ∧ h.isSessionTimerSupportedOnUac) then
    let added ← addHeader .require strTimer
    if !added then throw ()

def addResponseSupported : Write M Unit := do
  let s ← get
  if s.helper.parameters.localSessionTimerDuration > 0 ∧
      !ISipMessage.isOptionSupported s.message strTimer then
    let added ← addHeader .supported strTimer
    if !added then throw ()

def addResponseOption : Write M Unit := do
  let h ← getHelper
  if h.parameters.sessionTimerDuration > 0 then addRequire else addResponseSupported

def setResponseSessionExpires : Write M Unit := do
  let h ← getHelper
  if h.hasSessionTimerDuration ∧ h.sipHeaders.sessionExpires then
    let set ← setHeader .sessionExpires (h.sessionExpiresText strUas strUac)
    if !set then throw ()

def writeFinalSuccessHeaders : Write M Unit := do
  let s ← get
  if isFinalSuccess (ISipMessage.getStatusCode s.message) then
    addResponseOption
    setResponseSessionExpires

def writeResponseHeaders (method : SipMethod) (state : DialogState) (nConfigMinSe : Int) :
    Write M Unit := do
  setResponseMinSe method state nConfigMinSe
  writeFinalSuccessHeaders

def writeMessageHeaders (method : SipMethod) (state : DialogState) (config : SessionConfig) :
    Write M Unit := do
  let s ← get
  if ISipMessage.getType s.message = .request ∧ config.isSessionTimerSupported then
    writeRequestHeaders method state config.sessionMinSe
  else if ISipMessage.getType s.message = .response then
    writeResponseHeaders method state config.sessionMinSe

/-- The body of `AddSpecificHeader` for INVITE and UPDATE. -/
def writeHeaders (method : SipMethod) (state : DialogState) : Write M Unit := do
  updateFromInitialInvite method state
  let h ← getHelper
  match h.sipConfigV with
  | none => throw ()
  | some config =>
    addSupported config
    writeMessageHeaders method state config

/-- `SetSessionRefreshParameters`. -/
def restore (backup : SessionRefreshParameters) : Writing M → Writing M :=
  fun s => { s with helper := s.helper.setParameters backup }

def setSessionRefreshParameters (backup : SessionRefreshParameters) : Write M Unit :=
  modify (restore backup)

/-! The parts of `AddSpecificHeaderWithoutParameterChange`, with the values at its start. -/

namespace WithoutParameterChange

variable (backup : SessionRefreshParameters)

def addSupported (config : SessionConfig) : Write M Unit := do
  let s ← get
  if config.isSessionTimerSupported ∧ !ISipMessage.isOptionSupported s.message strTimer then
    let added ← addHeader .supported strTimer
    if !added then
      setSessionRefreshParameters backup
      throw ()

def setRequestMinSe (nConfigMinSe : Int) : Write M Unit := do
  let h ← getHelper
  if (h.parameters.minSe > 0 ∨ nConfigMinSe > 0) ∧ h.sipHeaders.minSe then
    let set ← setHeader .minSe (h.minSeText nConfigMinSe)
    if !set then
      setSessionRefreshParameters backup
      throw ()

def setRequestSessionExpires : Write M Unit := do
  let h ← getHelper
  if h.hasSessionTimerDuration ∧ h.sipHeaders.sessionExpires then
    let set ← setHeader .sessionExpires (h.sessionExpiresText strUac strUas)
    if !set then
      setSessionRefreshParameters backup
      throw ()

def writeRequestHeaders (method : SipMethod) (state : DialogState) (nConfigMinSe : Int) :
    Write M Unit := do
  if method = .invite ∨ updateOnConfirmedDialog method state then
    setRequestMinSe backup nConfigMinSe
    updateRefreshRequest method state
    setRequestSessionExpires backup

def setResponseMinSe (method : SipMethod) (state : DialogState) (nConfigMinSe : Int) :
    Write M Unit := do
  let s ← get
  if ISipMessage.getStatusCode s.message = 422 ∧
      (method = .invite ∨ updateOnConfirmedDialog method state) then
    let set ← setHeader .minSe (s.helper.minSeText nConfigMinSe)
    if !set then
      setSessionRefreshParameters backup
      throw ()

def addRequire : Write M Unit := do
  let h ← getHelper
  if h.sipHeaders.requireTimerOption ∨ h.parameters.refresher = .remote ∨
      (h.parameters.refresher = .local ∧ h.isSessionTimerSupportedOnUac) then
    let added ← addHeader .require strTimer
    if !added then
      setSessionRefreshParameters backup
      throw ()

def addResponseSupported : Write M Unit := do
  let s ← get
  if s.helper.parameters.localSessionTimerDuration > 0 ∧
      !ISipMessage.isOptionSupported s.message strTimer then
    let added ← addHeader .supported strTimer
    if !added then
      setSessionRefreshParameters backup
      throw ()

def addResponseOption : Write M Unit := do
  let h ← getHelper
  if h.parameters.sessionTimerDuration > 0 then addRequire backup
  else addResponseSupported backup

def setResponseSessionExpires : Write M Unit := do
  let h ← getHelper
  if h.hasSessionTimerDuration ∧ h.sipHeaders.sessionExpires then
    let set ← setHeader .sessionExpires (h.sessionExpiresText strUas strUac)
    if !set then
      setSessionRefreshParameters backup
      throw ()

def writeFinalSuccessHeaders : Write M Unit := do
  let s ← get
  if isFinalSuccess (ISipMessage.getStatusCode s.message) then
    addResponseOption backup
    setResponseSessionExpires backup

def writeResponseHeaders (method : SipMethod) (state : DialogState) (nConfigMinSe : Int) :
    Write M Unit := do
  setResponseMinSe backup method state nConfigMinSe
  writeFinalSuccessHeaders backup

def writeMessageHeaders (method : SipMethod) (state : DialogState) (config : SessionConfig) :
    Write M Unit := do
  let s ← get
  if ISipMessage.getType s.message = .request ∧ config.isSessionTimerSupported then
    writeRequestHeaders backup method state config.sessionMinSe
  else if ISipMessage.getType s.message = .response then
    writeResponseHeaders backup method state config.sessionMinSe

/-- The body of the function for INVITE and UPDATE. -/
def writeHeaders (method : SipMethod) (state : DialogState) : Write M Unit := do
  updateFromInitialInvite method state
  let h ← getHelper
  match h.sipConfigV with
  | none =>
    setSessionRefreshParameters backup
    throw ()
  | some config =>
    addSupported backup config
    writeMessageHeaders backup method state config
    setSessionRefreshParameters backup

end WithoutParameterChange

/-- `ISipConnection`: the message and the state of the dialog. -/
structure SipConnection (M : Type) where
  message : Option M
  dialog : Option DialogState

/-- The value returned, with the helper and the message afterwards. -/
structure Written (M : Type) where
  result : Bool
  helper : SessionHeaderWriter
  message : Option M

/-- The end of a run of the body. -/
def written : EStateM.Result Unit (Writing M) Unit → Written M
  | .ok _ s => ⟨true, s.helper, some s.message⟩
  | .error _ s => ⟨false, s.helper, some s.message⟩

def addSpecificHeader (h : SessionHeaderWriter) (sc : SipConnection M) : Written M :=
  match sc.message, sc.dialog with
  | none, _ => ⟨false, h, none⟩
  | some m, none => ⟨false, h, some m⟩
  | some m, some state =>
    let method := ISipMessage.getMethod m
    if method ≠ .invite ∧ method ≠ .update then ⟨true, h, some m⟩
    else written (writeHeaders method state ⟨h, m⟩)

def addSpecificHeaderWithoutParameterChange (h : SessionHeaderWriter) (sc : SipConnection M) :
    Written M :=
  match sc.message, sc.dialog with
  | none, _ => ⟨false, h, none⟩
  | some m, none => ⟨false, h, some m⟩
  | some m, some state =>
    let method := ISipMessage.getMethod m
    if method ≠ .invite ∧ method ≠ .update then ⟨true, h, some m⟩
    else written (WithoutParameterChange.writeHeaders h.parameters method state ⟨h, m⟩)

end SessionHeaderWriter

end ImsStack.Call
