import ImsStack.SipMsg.SipPercentEncoding

/-!
`SipNameValue` and `SipParameters`: a list of parameters, each a name with its values, and the two
encoders of each, into a string buffer and through a pointer into memory.
-/

namespace ImsStack.SipMsg

open Platform.AString SipAbnfUtil SipPercentEncoding

/-- The string that a pointer to the buffer stands for; there is none when no NUL ends it. -/
def Buffer.cString? (b : Buffer) : Option Chars :=
  if b.Terminated then some (cString b.written) else none

/-- The memory that `*ppCurrPos` points into: what has been written in front of the position, and
the bytes that are found from it on.  Behind those all bytes are zero. -/
structure RawBuffer where
  written : Chars
  found : Chars

namespace RawBuffer

/-- `**ppCurrPos = c; (*ppCurrPos)++`, which is `SipMsgUtil::Encode`. -/
def put (m : RawBuffer) (c : Char) : RawBuffer where
  written := m.written ++ [c]
  found := m.found.tail

/-- `SipPf_Strcpy` or `SipPf_Sprintf` to the position, with the NUL. -/
def strcpy (m : RawBuffer) (text : Chars) : RawBuffer :=
  { m with found := text ++ nul :: m.found.drop (text.length + 1) }

/-- `SipAbnfUtil::UpdateCurrentPosition`: to the next NUL. -/
def updateCurrentPosition (m : RawBuffer) : RawBuffer where
  written := m.written ++ cString m.found
  found := m.found.dropWhile (· ≠ nul)

/-- `SipAbnfUtil::Append`. -/
def append (m : RawBuffer) (text : Chars) : RawBuffer := (m.strcpy text).updateCurrentPosition

end RawBuffer

/-- `IParameterComponent::m_eComponentType`. -/
inductive ComponentType where
  | normal
  | header
  | uri
  | invalid
  deriving DecidableEq, Repr

/-- `IParameterComponent`. -/
structure ParameterComponent where
  componentType : ComponentType
  isValidComponent : Chars → Bool

/-- `SipNameValue::m_eParamType`. -/
inductive ParamType where
  | generic
  | feature
  | invalid
  deriving DecidableEq, Repr

structure SipNameValue where
  name : Option CString
  valueList : List (Option CString)
  paramType : ParamType
  separator : Char

/-- Whether the only value that counts is escaped. -/
def isEscapedComponent (component : Option ParameterComponent) (name : Chars) : Bool :=
  component.any fun c =>
    c.componentType == .header || (c.componentType == .uri && c.isValidComponent name)

namespace SipNameValue

/-- The escaped first value; a null pointer is not one that can be read. -/
def escapedValue (name : CString) (value : Option CString) : Option Chars :=
  value.bind fun v => (doPercentEncodingParam name.chars v.chars).bind Buffer.cString?

/-- The loop over the values. -/
def encodeValues (separator : Char) : List (Option CString) → Chars → Bool × Chars
  | [], objBuffer => (true, objBuffer)
  | none :: _, objBuffer => (false, objBuffer)
  | [some value], objBuffer => (true, objBuffer ++ value.chars)
  | some value :: next :: rest, objBuffer =>
    encodeValues separator (next :: rest) (objBuffer ++ value.chars ++ [separator])

/-- `Encode` into a string buffer; no result where memory is read or written out of bounds. -/
def encode (nv : SipNameValue) (objBuffer : Chars) (component : Option ParameterComponent) :
    Option (Bool × Chars) :=
  match nv.name with
  | none => some (false, objBuffer)
  | some name =>
    let objBuffer := objBuffer ++ name.chars
    match nv.valueList with
    | [] => some (true, objBuffer)
    | first :: _ =>
      let objBuffer := objBuffer ++ ['=']
      if isEscapedComponent component name.chars then
        (escapedValue name first).map fun text => (true, objBuffer ++ text)
      else
        let quote := if nv.paramType == .feature then ['"'] else []
        let encoded := encodeValues nv.separator nv.valueList (objBuffer ++ quote)
        if encoded.1 then some (true, encoded.2 ++ quote) else some (false, encoded.2)

/-- The loop of the other `Encode`. -/
def encodeRawValues (separator : Char) : List (Option CString) → RawBuffer → Bool × RawBuffer
  | [], m => (true, m)
  | none :: _, m => (false, m)
  | [some value], m => (true, m.append value.chars)
  | some value :: next :: rest, m =>
    encodeRawValues separator (next :: rest) ((m.append value.chars).put separator)

/-- `Encode` through a pointer. -/
def encodeRaw (nv : SipNameValue) (m : RawBuffer) (component : Option ParameterComponent) :
    Option (Bool × RawBuffer) :=
  match nv.name with
  | none => some (false, m)
  | some name =>
    let m := m.append name.chars
    match nv.valueList with
    | [] => some (true, m)
    | first :: _ =>
      let m := m.put '='
      if isEscapedComponent component name.chars then
        (escapedValue name first).map fun text => (true, m.append text)
      else
        let quoted (m : RawBuffer) := if nv.paramType == .feature then m.put '"' else m
        let encoded := encodeRawValues nv.separator nv.valueList (quoted m)
        if encoded.1 then some (true, quoted encoded.2) else some (false, encoded.2)

end SipNameValue

/-- A list of pointers to `SipNameValue`. -/
structure SipParameters where
  nameValueList : List (Option SipNameValue)

namespace SipParameters

def encodeList (delimiter : Char) (component : Option ParameterComponent) :
    List (Option SipNameValue) → Chars → Option (Bool × Chars)
  | [], objBuffer => some (true, objBuffer)
  | none :: _, _ => none
  | some nameValue :: rest, objBuffer =>
    (nameValue.encode (objBuffer ++ [delimiter]) component).bind fun encoded =>
      if encoded.1 then encodeList delimiter component rest encoded.2 else some encoded

/-- `Encode` into a string buffer. -/
def encode (parameters : SipParameters) (objBuffer : Chars) (delimiter : Char)
    (component : Option ParameterComponent) : Option (Bool × Chars) :=
  encodeList delimiter component parameters.nameValueList objBuffer

def encodeRawList (delimiter : Char) (component : Option ParameterComponent) :
    List (Option SipNameValue) → RawBuffer → Option (Bool × RawBuffer)
  | [], m => some (true, m)
  | none :: _, _ => none
  | some nameValue :: rest, m =>
    (nameValue.encodeRaw (m.put delimiter) component).bind fun encoded =>
      if encoded.1 then encodeRawList delimiter component rest encoded.2 else some encoded

/-- `Encode` through a pointer. -/
def encodeRaw (parameters : SipParameters) (m : RawBuffer) (delimiter : Char)
    (component : Option ParameterComponent) : Option (Bool × RawBuffer) :=
  encodeRawList delimiter component parameters.nameValueList m

end SipParameters

end ImsStack.SipMsg
