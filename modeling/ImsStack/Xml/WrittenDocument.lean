import ImsStack.Library.XmlPrinting
import ImsStack.Xml.XmlStreamWriter

/-!
The document that the calls of a writer describe, and the condition under which the writer
produces it: what the calls write has to stand in a document as it is, for the writer escapes
nothing, and the calls have to keep to one root.
-/

namespace ImsStack.Xml

open Platform Platform.AString Library.Xml

/-- What a call means for the document. -/
inductive Event where
  | openTag (name : Text)
  | addAttribute (name value : Text)
  | addText (data : Text)
  | addComment (data : Text)
  | emptyElement (name : Text)
  | closeTag
  | declare (encoding : Option Text) (version : Text)
  | reset (failed : Bool)
  | silent

/-- The name of the attribute that declares a namespace. -/
def namespaceName (strPrefix : Chars) : Text :=
  if strPrefix.length ≠ 0 then "xmlns:".toList ++ strPrefix else "xmlns".toList

/-- An element or an attribute without a name is none; the operation fails. -/
def Event.named (strLocalName : Chars) (event : Event) : Event :=
  if strLocalName.length = 0 then .silent else event

/-- After a failure the operations do nothing until the writer is closed. -/
def Call.event (writer : XmlStreamWriter) (call : Call) : Event :=
  match call with
  | close => .reset writer.isOperationFailedAtLeastOnce
  | call =>
    if writer.isOperationFailedAtLeastOnce then .silent
    else
      match call with
      | writeAttribute strPrefix strLocalName strValue =>
        .named strLocalName (.addAttribute (qualifiedName strPrefix strLocalName) strValue)
      | writeAttributeOfUri strNamespaceUri strLocalName strValue =>
        .named strLocalName (.addAttribute
          (qualifiedName (writer.getPrefix strNamespaceUri) strLocalName) strValue)
      | writeCharacters strText => .addText strText
      | writeCharactersPart strPart => .addText (strPart.getD [])
      | writeComment strData => .addComment strData
      | writeDefaultNamespace strNamespaceUri =>
        .named strNamespaceUri (.addAttribute (namespaceName []) strNamespaceUri)
      | writeEmptyElement strPrefix strLocalName =>
        .named strLocalName (.emptyElement (qualifiedName strPrefix strLocalName))
      | writeEmptyElementOfUri strNamespaceUri strLocalName =>
        .named strLocalName (.emptyElement
          (qualifiedName (writer.getPrefix strNamespaceUri) strLocalName))
      | writeEndElement => .closeTag
      | writeNamespace strPrefix strNamespaceUri =>
        .named strNamespaceUri (.addAttribute (namespaceName strPrefix) strNamespaceUri)
      | writeStartDocument strEncoding strVersion => .declare strEncoding strVersion
      | writeStartElement strPrefix strLocalName =>
        .named strLocalName (.openTag (qualifiedName strPrefix strLocalName))
      | writeStartElementOfUri strNamespaceUri strLocalName =>
        .named strLocalName (.openTag
          (qualifiedName (writer.getPrefix strNamespaceUri) strLocalName))
      | _ => .silent

/-- The document as far as it has been described.  Attributes can be added while the `tag` is
open. -/
structure Written where
  declaration : Option (List (Text × Text))
  begun : Bool
  tag : Bool
  assembly : Assembly

/-- What a declaration says. -/
def declarationPairs (encoding : Option Text) (version : Text) : List (Text × Text) :=
  match encoding with
  | none => [("version".toList, version)]
  | some encoding => [("version".toList, version), ("encoding".toList, encoding)]

namespace Written

def empty : Written := ⟨none, false, false, .empty⟩

def lastText (written : Written) : Text :=
  match written.assembly.opened with
  | [] => []
  | o :: _ => o.lastText

/-- An event in the document; `none` is one that describes no document. -/
def next (written : Written) : Event → Option Written
  | .openTag name =>
    (written.assembly.start name []).map fun a =>
      { written with begun := true, tag := true, assembly := a }
  | .addAttribute name value =>
    match written.assembly.opened with
    | [] => none
    | o :: others =>
      if written.tag then
        some { written with
          assembly := { written.assembly with
            opened := { o with attributes := o.attributes ++ [(name, value)] } :: others } }
      else none
  | .addText data =>
    if data = [] then some { written with tag := false }
    else
      match written.assembly.opened with
      | [] => none
      | o :: others =>
        some { written with
          begun := true
          tag := false
          assembly := { written.assembly with opened := o.addText data :: others } }
  -- The writer puts a blank on both sides.
  | .addComment data =>
    some { written with
      begun := true
      tag := false
      assembly := written.assembly.addComment (' ' :: (data ++ [' '])) }
  | .emptyElement name =>
    (written.assembly.addElement (.element name [] [])).map fun a =>
      { written with begun := true, tag := false, assembly := a }
  | .closeTag =>
    match written.assembly.opened with
    | [] => none
    | o :: _ =>
      (written.assembly.finish o.name).map fun a =>
        { written with begun := true, tag := false, assembly := a }
  | .declare encoding version =>
    if written.begun then none
    else some { written with
      declaration := some (declarationPairs encoding version), begun := true, tag := false }
  | .reset _ => some { written with tag := false }
  | .silent => some written

/-- The names are names, and attributes follow a start tag or other attributes. -/
def IsProper (written : Written) : Event → Prop
  | .openTag name => isName name = true
  | .emptyElement name => isName name = true
  | .addAttribute name _ => isName name = true ∧ written.tag = true
  | _ => True

/-- What is written can stand in the document as it is, at the place where it is written. -/
def IsPlain (written : Written) : Event → Prop
  | .openTag _ => written.assembly.opened ≠ [] ∨ written.assembly.root.isNone = true
  | .emptyElement _ => written.assembly.opened ≠ [] ∨ written.assembly.root.isNone = true
  | .addAttribute name value =>
    IsPlainValue value ∧ ∀ o ∈ written.assembly.opened.head?, name ∉ o.attributes.map Prod.fst
  | .addText data =>
    data = [] ∨ (written.assembly.opened ≠ [] ∧ IsPlainText (written.lastText ++ data))
  | .addComment data => IsPlainComment (' ' :: (data ++ [' ']))
  | .closeTag => written.assembly.opened ≠ []
  | .declare encoding version =>
    written.begun = false ∧ isVersion version = true ∧ ∀ e ∈ encoding, isEncoding e = true
  | .reset failed => failed = false ∧ written.assembly.opened = []
  | .silent => True

end Written

/-- A writer with the document that its calls have described. -/
abbrev Session := XmlStreamWriter × Written

def Session.new : Session := (.new, .empty)

def Session.advance (session : Session) (call : Call) : Option Session := do
  let writer ← call.perform session.1
  let written ← session.2.next (call.event session.1)
  some (writer, written)

def Session.follow (session : Session) (calls : List Call) : Option Session :=
  calls.foldlM advance session

/-- A run of the writer alone. -/
def performAll (calls : List Call) : Option XmlStreamWriter :=
  calls.foldlM (fun writer call => call.perform writer) .new

/-- Every call of a run is proper and meets the condition, in the state in which it is made. -/
def Session.Meets (session : Session) : List Call → Prop
  | [] => True
  | call :: calls =>
    session.2.IsProper (call.event session.1) ∧ session.2.IsPlain (call.event session.1) ∧
      ∀ later, session.advance call = some later → later.Meets calls

end ImsStack.Xml
