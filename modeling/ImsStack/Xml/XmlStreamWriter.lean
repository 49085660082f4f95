import ImsStack.Platform.NullString

/-!
`XmlStreamWriter`, which builds an XML document in a string.  The string is UTF-8, which the
writer only copies; a character here is one of Unicode.
-/

namespace ImsStack.Xml

open Platform Platform.AString

structure XmlPrefix where
  strPrefix : Chars
  strUri : Chars
  deriving DecidableEq, Repr

structure XmlElement where
  strLocalName : Chars
  strPrefix : Chars
  deriving DecidableEq, Repr

/-- The types of `XmlError` that the writer sets. -/
inductive ErrorType where
  | typeElement | typeAttribute | typeNamespace
  deriving DecidableEq, Repr

structure XmlError where
  nErrorType : ErrorType
  strReason : String
  deriving DecidableEq, Repr

/-- The elements are those that are open, the top of the stack first. -/
structure XmlStreamWriter where
  strXml : Chars
  strDefaultNamespace : Chars
  objPrefixes : List XmlPrefix
  objElements : List XmlElement
  pError : Option XmlError
  deriving DecidableEq, Repr

/-- A prefix, with its colon, in front of a local name. -/
def qualifiedName (strPrefix strLocalName : Chars) : Chars :=
  if strPrefix.length ≠ 0 then strPrefix ++ ':' :: strLocalName else strLocalName

namespace XmlStreamWriter

def new : XmlStreamWriter := ⟨[], [], [], [], none⟩

variable (writer : XmlStreamWriter)

/-- `m_strXml` stays as it is. -/
def close : XmlStreamWriter :=
  { writer with objPrefixes := [], objElements := [], pError := none }

def isOperationFailedAtLeastOnce : Bool := writer.pError.isSome

def getString : Option Chars :=
  if writer.isOperationFailedAtLeastOnce then none
  -- XML content is malformed, so don't return incomplete XML content.
  else if !writer.objElements.isEmpty then none
  else some writer.strXml

/-- The copy of the string. -/
def flush : Option Chars :=
  if writer.isOperationFailedAtLeastOnce then none
  else if !writer.objElements.isEmpty then none
  else some writer.strXml

def getPrefixInternal (strUri : Chars) : Option XmlPrefix :=
  if strUri.length = 0 then none
  else writer.objPrefixes.find? fun pPrefix =>
    NullString.equalsIgnoreCase (some pPrefix.strUri) (some strUri)

def getPrefix (strUri : Chars) : Chars :=
  match writer.getPrefixInternal strUri with
  | some pPrefix => pPrefix.strPrefix
  | none => []

def setDefaultNamespace (strUri : Chars) : XmlStreamWriter :=
  { writer with strDefaultNamespace := strUri }

def setPrefix (strPrefix strUri : Chars) : XmlStreamWriter × Bool :=
  if strUri.length = 0 then (writer, false)
  else if (writer.getPrefixInternal strUri).isSome then (writer, true)
  else ({ writer with objPrefixes := writer.objPrefixes ++ [⟨strPrefix, strUri⟩] }, true)

def setLastError (nErrorType : ErrorType) (strReason : String) : XmlStreamWriter :=
  { writer with pError := some ⟨nErrorType, strReason⟩ }

/-- An operation that does nothing but append to the string. -/
def append (text : Chars) : XmlStreamWriter × Bool :=
  if writer.isOperationFailedAtLeastOnce then (writer, false)
  else ({ writer with strXml := writer.strXml ++ text }, true)

def writeAttribute (strPrefix strLocalName strValue : Chars) : XmlStreamWriter × Bool :=
  if writer.isOperationFailedAtLeastOnce then (writer, false)
  else if strLocalName.length = 0 ∨ writer.objElements.isEmpty then
    (writer.setLastError .typeAttribute "Attribute - No Element", false)
  else
    ({ writer with
        strXml := writer.strXml.dropLast ++ ' ' :: (qualifiedName strPrefix strLocalName ++
          ("=\"".toList ++ (strValue ++ "\">".toList))) }, true)

def writeCharacters (strText : Chars) : XmlStreamWriter × Bool := writer.append strText

/-- A part of a text, which may be null. -/
def writeCharactersPart (strPart : Option Chars) : XmlStreamWriter × Bool :=
  if writer.isOperationFailedAtLeastOnce then (writer, false)
  else
    match strPart with
    | none => (writer, true)
    | some strText => ({ writer with strXml := writer.strXml ++ strText }, true)

def writeComment (strData : Chars) : XmlStreamWriter × Bool :=
  writer.append ("<!-- ".toList ++ (strData ++ " -->".toList))

def writeEmptyElement (strPrefix strLocalName : Chars) : XmlStreamWriter × Bool :=
  if writer.isOperationFailedAtLeastOnce then (writer, false)
  else if strLocalName.length = 0 then
    (writer.setLastError .typeElement "EmptyElement - No element", false)
  else
    ({ writer with
        strXml := writer.strXml ++ '<' :: (qualifiedName strPrefix strLocalName ++ ['/', '>']) },
      true)

/-- `none` is the top of an empty stack, which is read before it is compared with null. -/
def writeEndElement : Option (XmlStreamWriter × Bool) :=
  if writer.isOperationFailedAtLeastOnce then some (writer, false)
  else
    match writer.objElements with
    | [] => none
    | pElement :: others =>
      some ({ writer with
        strXml := writer.strXml ++ '<' :: '/' ::
          (qualifiedName pElement.strPrefix pElement.strLocalName ++ ['>'])
        objElements := others }, true)

def writeNamespace (strPrefix strNamespaceUri : Chars) : XmlStreamWriter × Bool :=
  if writer.isOperationFailedAtLeastOnce then (writer, false)
  else if strNamespaceUri.length = 0 then
    (writer.setLastError .typeNamespace "Namespace - URN is empty", false)
  else
    ({ writer with
        strXml := writer.strXml.dropLast ++
          ((if strPrefix.length ≠ 0 then " xmlns:".toList ++ strPrefix else " xmlns".toList) ++
            ("=\"".toList ++ (strNamespaceUri ++ "\">".toList))) }, true)

/-- The declaration, without an encoding or with one. -/
def writeStartDocument (strEncoding : Option Chars) (strVersion : Chars) :
    XmlStreamWriter × Bool :=
  match strEncoding with
  | none => writer.append ("<?xml version=\"".toList ++ (strVersion ++ "\"?>".toList))
  | some strEncoding =>
    writer.append ("<?xml version=\"".toList ++ (strVersion ++
      ("\" encoding=\"".toList ++ (strEncoding ++ "\"?>".toList))))

def writeStartElement (strPrefix strLocalName : Chars) : XmlStreamWriter × Bool :=
  if writer.isOperationFailedAtLeastOnce then (writer, false)
  else if strLocalName.length = 0 then
    (writer.setLastError .typeElement "StartElement - No element", false)
  else
    ({ writer with
        strXml := writer.strXml ++ '<' :: (qualifiedName strPrefix strLocalName ++ ['>'])
        objElements := ⟨strLocalName, strPrefix⟩ :: writer.objElements }, true)

end XmlStreamWriter

/-- The operations of the writer.  Those that take a URI in place of a prefix look the prefix up
first. -/
inductive Call where
  | close
  | setDefaultNamespace (strUri : Chars)
  | setPrefix (strPrefix strUri : Chars)
  | writeAttribute (strPrefix strLocalName strValue : Chars)
  | writeAttributeOfUri (strNamespaceUri strLocalName strValue : Chars)
  | writeCharacters (strText : Chars)
  | writeCharactersPart (strPart : Option Chars)
  | writeComment (strData : Chars)
  | writeDefaultNamespace (strNamespaceUri : Chars)
  | writeEmptyElement (strPrefix strLocalName : Chars)
  | writeEmptyElementOfUri (strNamespaceUri strLocalName : Chars)
  | writeEndDocument
  | writeEndElement
  | writeNamespace (strPrefix strNamespaceUri : Chars)
  | writeStartDocument (strEncoding : Option Chars) (strVersion : Chars)
  | writeStartElement (strPrefix strLocalName : Chars)
  | writeStartElementOfUri (strNamespaceUri strLocalName : Chars)
  deriving DecidableEq, Repr

/-- What a call does to the writer. -/
def Call.perform (call : Call) (writer : XmlStreamWriter) : Option XmlStreamWriter :=
  match call with
  | close => some writer.close
  | setDefaultNamespace strUri => some (writer.setDefaultNamespace strUri)
  | setPrefix strPrefix strUri => some (writer.setPrefix strPrefix strUri).1
  | writeAttribute strPrefix strLocalName strValue =>
    some (writer.writeAttribute strPrefix strLocalName strValue).1
  | writeAttributeOfUri strNamespaceUri strLocalName strValue =>
    some (writer.writeAttribute (writer.getPrefix strNamespaceUri) strLocalName strValue).1
  | writeCharacters strText => some (writer.writeCharacters strText).1
  | writeCharactersPart strPart => some (writer.writeCharactersPart strPart).1
  | writeComment strData => some (writer.writeComment strData).1
  | writeDefaultNamespace strNamespaceUri => some (writer.writeNamespace [] strNamespaceUri).1
  | writeEmptyElement strPrefix strLocalName =>
    some (writer.writeEmptyElement strPrefix strLocalName).1
  | writeEmptyElementOfUri strNamespaceUri strLocalName =>
    some (writer.writeEmptyElement (writer.getPrefix strNamespaceUri) strLocalName).1
  | writeEndDocument => some writer
  | writeEndElement => writer.writeEndElement.map Prod.fst
  | writeNamespace strPrefix strNamespaceUri =>
    some (writer.writeNamespace strPrefix strNamespaceUri).1
  | writeStartDocument strEncoding strVersion =>
    some (writer.writeStartDocument strEncoding strVersion).1
  | writeStartElement strPrefix strLocalName =>
    some (writer.writeStartElement strPrefix strLocalName).1
  | writeStartElementOfUri strNamespaceUri strLocalName =>
    some (writer.writeStartElement (writer.getPrefix strNamespaceUri) strLocalName).1

end ImsStack.Xml
