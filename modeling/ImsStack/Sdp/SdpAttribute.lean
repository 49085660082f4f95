import ImsStack.Sdp.SdpText

/-!
`SdpAttribute`: the a-line, a name alone or a name and a value.
-/

namespace ImsStack.Sdp

open Platform.AString

inductive AttributeType where
  | cat | keywds | tool | ptime | maxptime | rtpmap | recvonly | sendrecv | sendonly | inactive
  | orient | type | charset | sdplang | lang | framerate | quality | fmtp | curr | des | conf | mid
  | group | rtcp | rtcpXr | maxPrate | setup | connection | label | rtcpFb | content | acceptTypes
  | acceptWrappedTypes | maxSize | path | candidate | fileSelector | fileTransferId
  | fileDisposition | fileDate | fileIcon | fileRange | csup | creq | acap | tcap | pcfg | acfg
  | framesize | imageattr | crypto | a3ge2ae | anbr | other
  deriving DecidableEq, Repr

namespace SdpAttribute

/-- `SdpAttribute::ATTRIBUTE`. -/
def names : List (AttributeType × String) :=
  [(.cat, "cat"), (.keywds, "keywds"), (.tool, "tool"), (.ptime, "ptime"), (.maxptime, "maxptime"),
   (.rtpmap, "rtpmap"), (.recvonly, "recvonly"), (.sendrecv, "sendrecv"), (.sendonly, "sendonly"),
   (.inactive, "inactive"), (.orient, "orient"), (.type, "type"), (.charset, "charset"),
   (.sdplang, "sdplang"), (.lang, "lang"), (.framerate, "framerate"), (.quality, "quality"),
   (.fmtp, "fmtp"), (.curr, "curr"), (.des, "des"), (.conf, "conf"), (.mid, "mid"),
   (.group, "group"), (.rtcp, "rtcp"), (.rtcpXr, "rtcp-xr"), (.maxPrate, "maxprate"),
   (.setup, "setup"), (.connection, "connection"), (.label, "label"), (.rtcpFb, "rtcp-fb"),
   (.content, "content"), (.acceptTypes, "accept-types"),
   (.acceptWrappedTypes, "accept-wrapped-types"), (.maxSize, "max-size"), (.path, "path"),
   (.candidate, "candidate"), (.fileSelector, "file-selector"),
   (.fileTransferId, "file-transfer-id"), (.fileDisposition, "file-disposition"),
   (.fileDate, "file-date"), (.fileIcon, "file-icon"), (.fileRange, "file-range"),
   (.csup, "csup"), (.creq, "creq"), (.acap, "acap"), (.tcap, "tcap"), (.pcfg, "pcfg"),
   (.acfg, "acfg"), (.framesize, "framesize"), (.imageattr, "imageattr"), (.crypto, "crypto"),
   (.a3ge2ae, "3ge2ae"), (.anbr, "anbr")]

/-- The attribute of a name; `Decode` looks at the names with the same first letter only. -/
def decodeName (name : Chars) : AttributeType :=
  ((names.find? fun entry => equalsLiteral name entry.2).map Prod.fst).getD .other

/-- The name of an attribute of the table. -/
def nameOf (attributeType : AttributeType) : Chars :=
  ((names.find? fun entry => entry.1 = attributeType).map fun entry => entry.2.toList).getD []

end SdpAttribute

inductive AttributeFormat where
  | property | value
  deriving DecidableEq, Repr

structure SdpAttribute where
  format : AttributeFormat
  attributeType : AttributeType
  strAttribute : Chars
  strAttrValue : Chars
  deriving DecidableEq, Repr

namespace SdpAttribute

/-- What the value of an attribute has to be: `IsValueToken` and the checks that go with it. -/
def isAttributeValue (attributeType : AttributeType) (value : Chars) : Bool :=
  match attributeType with
  | .content | .label | .mid | .a3ge2ae => isTokenString value
  | .conf | .curr | .des | .group => isTokenStringWithSpace value
  | .acceptTypes | .acceptWrappedTypes => value.isEmpty || isTextString value
  | _ => isTextString value

def decode (text : Chars) : Option SdpAttribute :=
  match text.dropWhile (· ≠ ':') with
  | [] =>
    if isTokenString text then
      some { format := .property, attributeType := decodeName text, strAttribute := text,
             strAttrValue := [] }
    else none
  | _ :: strAttrValue =>
    let strAttribute := text.takeWhile (· ≠ ':')
    let attributeType := decodeName strAttribute
    if isTokenString strAttribute ∧ isAttributeValue attributeType strAttrValue then
      some { format := .value, attributeType, strAttribute, strAttrValue }
    else none

/-- `SdpAttribute::GetValue`. -/
def value (a : SdpAttribute) : Chars :=
  match a.format with
  | .property => a.strAttribute
  | .value => a.strAttribute ++ ':' :: a.strAttrValue

/-- `SdpAttribute::Equals`. -/
def equals (a b : SdpAttribute) : Bool :=
  decide (a.format = b.format ∧ a.attributeType = b.attributeType) &&
    (a.attributeType ≠ .other || Platform.AString.equals a.strAttribute b.strAttribute) &&
      Platform.AString.equals a.strAttrValue b.strAttrValue

end SdpAttribute

end ImsStack.Sdp
