import ImsStack.SipMsg.SipParameters

/-!
`SipUri`: the parts of a SIP URI and its two encoders.  The component type that `SetComponentType`
keeps is set in front of every use, so it is passed on instead.
-/

namespace ImsStack.SipMsg

open Platform.AString SipAbnfUtil SipPercentEncoding

/-- `SipAddrSpec::HOST_NAME` and so on. -/
inductive HostType where
  | name
  | ipv4
  | ipv6
  | invalid
  deriving DecidableEq, Repr

structure SipUri where
  user : Option CString
  password : Option CString
  host : Option CString
  port : UInt16
  hostType : HostType
  uriParams : Option SipParameters
  uriHdrParams : Option SipParameters

namespace SipUri

/-- `SIP_UNSPECIFIED_PORT`. -/
def unspecifiedPort : UInt16 := 0xFFFF

def isValidComponent (component : Chars) : Bool :=
  stricmp component "User" || stricmp component "Password" || stricmp component "Host" ||
    stricmp component "Port" || stricmp component "user" || stricmp component "method" ||
    stricmp component "maddr" || stricmp component "ttl" || stricmp component "transport" ||
    stricmp component "lr" || stricmp component "other-param" || stricmp component "headers"

/-- The URI as the component of its parameters. -/
def component (componentType : ComponentType) : ParameterComponent where
  componentType := componentType
  isValidComponent := isValidComponent

def escapedUser (user : CString) : Option Chars :=
  (doPercentEncodingUserAndHeader user.chars "User".toList).bind Buffer.cString?

def escapedPassword (password : CString) : Option Chars :=
  (doPercentEncodingPassword password.chars).bind Buffer.cString?

def escapedHost (host : CString) : Option Chars :=
  (doPercentEncodingHost host.chars).bind Buffer.cString?

def encodePassword (password : Option CString) (objBuffer : Chars) : Option Chars :=
  match password with
  | none => some objBuffer
  | some password => (escapedPassword password).map fun text => objBuffer ++ [':'] ++ text

def encodeUserInfo (uri : SipUri) (objBuffer : Chars) : Option Chars :=
  match uri.user with
  | none => some objBuffer
  | some user =>
    (escapedUser user).bind fun text =>
      (encodePassword uri.password (objBuffer ++ text)).map fun objBuffer => objBuffer ++ ['@']

def encodePort (uri : SipUri) (objBuffer : Chars) : Chars :=
  if uri.port ≠ 0 ∧ uri.port ≠ unspecifiedPort then
    objBuffer ++ [':'] ++ setNumber uri.port.toNat
  else objBuffer

def encodeHost (uri : SipUri) (host : CString) (objBuffer : Chars) : Option Chars :=
  if uri.hostType == .ipv6 then some (objBuffer ++ ['['] ++ host.chars ++ [']'])
  else (escapedHost host).map fun text => objBuffer ++ text

/-- The loop over the headers; `first` is whether the index is still zero. -/
def encodeHeaders : List (Option SipNameValue) → Bool → Chars → Option Chars
  | [], _, objBuffer => some objBuffer
  | none :: rest, _, objBuffer => encodeHeaders rest false objBuffer
  | some nameValue :: rest, first, objBuffer =>
    let objBuffer := if first then objBuffer else objBuffer ++ ['&']
    (nameValue.encode objBuffer (some (component .header))).bind fun encoded =>
      encodeHeaders rest false encoded.2

def encodeUriHdrParams (uri : SipUri) (objBuffer : Chars) : Option Chars :=
  match uri.uriHdrParams with
  | none => some objBuffer
  | some ⟨[]⟩ => some objBuffer
  | some headers => encodeHeaders headers.nameValueList true (objBuffer ++ ['?'])

def encodeUriParams (uri : SipUri) (bParams : Bool) (objBuffer : Chars) : Option Chars :=
  match uri.uriParams with
  | none => some objBuffer
  | some parameters =>
    if bParams then (parameters.encode objBuffer ';' (some (component .uri))).map Prod.snd
    else some objBuffer

/-- `Encode` into a string buffer. -/
def encode (uri : SipUri) (objBuffer : Chars) (bParams : Bool) : Option (Bool × Chars) :=
  (uri.encodeUserInfo objBuffer).bind fun objBuffer =>
    match uri.host with
    | none => some (false, objBuffer)
    | some host =>
      (uri.encodeHost host objBuffer).bind fun objBuffer =>
        (uri.encodeUriParams bParams (uri.encodePort objBuffer)).bind fun objBuffer =>
          (uri.encodeUriHdrParams objBuffer).map fun objBuffer => (true, objBuffer)

def encodeRawPassword (password : Option CString) (m : RawBuffer) : Option RawBuffer :=
  match password with
  | none => some m
  | some password => (escapedPassword password).map fun text => (m.put ':').append text

def encodeRawUserInfo (uri : SipUri) (m : RawBuffer) : Option RawBuffer :=
  match uri.user with
  | none => some m
  | some user =>
    (escapedUser user).bind fun text =>
      (encodeRawPassword uri.password (m.append text)).map fun m => m.put '@'

def encodeRawHost (uri : SipUri) (host : CString) (m : RawBuffer) : Option RawBuffer :=
  if uri.hostType == .ipv6 then some (((m.put '[').append host.chars).put ']')
  else (escapedHost host).map fun text => m.append text

/-- The port is printed with `%u`. -/
def encodeRawPort (uri : SipUri) (m : RawBuffer) : RawBuffer :=
  if uri.port ≠ 0 ∧ uri.port ≠ unspecifiedPort then
    ((m.put ':').strcpy (Nat.toDigits 10 uri.port.toNat)).updateCurrentPosition
  else m

def encodeRawUriParams (uri : SipUri) (m : RawBuffer) : Option RawBuffer :=
  match uri.uriParams with
  | none => some m
  | some parameters => (parameters.encodeRaw m ';' (some (component .uri))).map Prod.snd

def encodeRawHeaders : List (Option SipNameValue) → Bool → RawBuffer → Option RawBuffer
  | [], _, m => some m
  | none :: rest, _, m => encodeRawHeaders rest false m
  | some nameValue :: rest, first, m =>
    let m := if first then m else m.put '&'
    (nameValue.encodeRaw m (some (component .header))).bind fun encoded =>
      encodeRawHeaders rest false encoded.2

def encodeRawUriHdrParams (uri : SipUri) (m : RawBuffer) : Option RawBuffer :=
  match uri.uriHdrParams with
  | none => some m
  | some ⟨[]⟩ => some m
  | some headers => encodeRawHeaders headers.nameValueList true (m.put '?')

/-- `Encode` through a pointer. -/
def encodeRaw (uri : SipUri) (m : RawBuffer) : Option (Bool × RawBuffer) :=
  (uri.encodeRawUserInfo m).bind fun m =>
    match uri.host with
    | none => some (false, m)
    | some host =>
      (uri.encodeRawHost host m).bind fun m =>
        (uri.encodeRawUriParams (uri.encodeRawPort m)).bind fun m =>
          (uri.encodeRawUriHdrParams m).map fun m => (true, m)

end SipUri

end ImsStack.SipMsg
