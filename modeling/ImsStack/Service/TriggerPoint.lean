import ImsStack.Platform.NullString
import ImsStack.Platform.SubstringSearch
import ImsStack.Platform.TextParser
import ImsStack.Sdp.SdpText
import Mathlib.Data.BitVec

/-!
`TriggerPoint`: the condition on a SIP message under which a service takes it, made of a method,
of headers that the message has to carry or must not carry, and of lines of its SDP.
-/

namespace ImsStack.Service

open Platform Platform.AString Platform.TextParser

section Texts

-- The value that a character is converted to, and whether `char` is signed.
variable (ord : Char → BitVec 32) (signed : Bool)

/-- `MakeLower`, which stops at a NUL. -/
def makeLower (s : Chars) : Chars := (cString s).map toLower ++ s.drop (cString s).length

def startsWith (s : Chars) (literal : String) : Bool := literal.toList.isPrefixOf s

def endsWith (s : Chars) (literal : String) : Bool := literal.toList.isSuffixOf s

def contains (s other : Chars) : Bool :=
  match AString.getIndexOf ord s other 0 with
  | some nIndex => nIndex != npos
  | none => false

def charDquot : Char := '"'

def toOctets (s : Chars) : Octets := s.map fun c => UInt8.ofNat c.toNat

def ofOctets (s : Octets) : Chars := s.map fun c => Char.ofNat c.toNat

/-- `TextParser::DoPercentDecoding`; a null string has no `%`. -/
def percentDecoded (s : NullString) : NullString :=
  s.map fun s => ofOctets (doPercentDecoding signed (toOctets s))

/-- `TextParser::TrimDquot`. -/
def trimDquot : NullString → NullString
  | none => none
  | some s =>
    if s.head? = some charDquot ∧ s.getLast? = some charDquot then
      if s.length ≤ 1 then none else some ((s.drop 1).take (s.length - 2))
    else some s

end Texts

namespace Feature

/-- `BASE_TAG`. -/
def baseTag : List String :=
  ["audio", "application", "data", "control", "video", "text", "automata", "class", "duplex",
    "mobility", "description", "events", "priority", "methods", "extensions", "schemes", "actor",
    "isfocus", "language", "type"]

def isBaseTag (strName : Chars) : Bool :=
  if (makeLower strName).head? = some '+' then false
  else if startsWith (makeLower strName) "sip." then baseTag.any (endsWith (makeLower strName))
  else baseTag.any (equalsLiteral (makeLower strName))

/-- `IMS_ISALPHA`. -/
def isAlpha (c : Char) : Bool := decide ('A' ≤ c ∧ c ≤ 'Z') || decide ('a' ≤ c ∧ c ≤ 'z')

def isFeatureTag (strName : Chars) : Bool :=
  if isBaseTag strName then true
  else
    match strName with
    | '+' :: first :: rest =>
      isAlpha first && rest.all fun c =>
        isAlpha c || isDigit c || ['!', '\x27', '.', '-', '%'].contains c
    | _ => false

end Feature

structure SipParameter where
  strName : NullString
  objValues : List NullString
  deriving DecidableEq, Repr

namespace SipParameter

variable (signed : Bool)

/-- The comparison of one value of a parameter with one of the other. -/
def valueEquals (bFeatureTag : Bool) (strValue strOtherValue : NullString) : Bool :=
  if (percentDecoded signed strValue).chars.head? = some charDquot then
    if bFeatureTag then
      (trimDquot (percentDecoded signed strValue)).equals
        (trimDquot (percentDecoded signed strOtherValue))
    else (percentDecoded signed strValue).equals (percentDecoded signed strOtherValue)
  else if bFeatureTag then
    (trimDquot (percentDecoded signed strValue)).equalsIgnoreCase
      (trimDquot (percentDecoded signed strOtherValue))
  else (percentDecoded signed strValue).equalsIgnoreCase (percentDecoded signed strOtherValue)

/-- `Equals`: the names agree, and each value is found among those of the other. -/
def equals (parameter other : SipParameter) : Bool :=
  (percentDecoded signed parameter.strName).equalsIgnoreCase
      (percentDecoded signed other.strName) &&
    parameter.objValues.all fun strValue =>
      other.objValues.any
        (valueEquals signed (Feature.isFeatureTag (percentDecoded signed parameter.strName).chars)
          strValue)

end SipParameter

/-- The types of headers that the comparison tells apart. -/
inductive HeaderType where
  | contactNormal | contactAny | acceptContact | featureCaps | unknown
  | other (nType : Nat)
  deriving DecidableEq, Repr

structure SipHeader where
  nType : HeaderType
  strName : NullString
  /-- `GetValue`: without the parameters. -/
  strBody : NullString
  objParams : List SipParameter
  deriving DecidableEq, Repr

structure SipMethod where
  nMethod : Int
  strMethod : NullString
  deriving DecidableEq, Repr

def SipMethod.equals (objMethod other : SipMethod) : Bool :=
  decide (objMethod.nMethod = other.nMethod) && objMethod.strMethod.equals other.strMethod

structure SipMessage where
  objMethod : SipMethod
  getHeaders : HeaderType → NullString → List Chars
  /-- The content of the first SDP body part. -/
  sdpBodyPart : Option Chars

/-- The two functions `CreateHeader` that read the text of a header. -/
structure SipParsingHelper where
  createHeader : HeaderType → Chars → Option SipHeader
  createHeaderByName : NullString → Chars → Option SipHeader

structure TriggerPoint where
  nEvaluationRule : BitVec 32
  bMethodNegated : Bool
  objMethod : SipMethod
  objHeaders : List SipHeader
  objNegatedHeaders : List SipHeader
  objSdpMLines : List Chars
  objSdpALines : List Chars
  deriving DecidableEq, Repr

namespace TriggerPoint

def sptSipRuleMatch : BitVec 32 := 0x01

def sptSipRuleContain : BitVec 32 := 0x02

def sptSdpRuleMatch : BitVec 32 := 0x04

def sptSdpRuleContain : BitVec 32 := 0x08

def sptMatchNone : Nat := 0x00

def sptMatchNok : Nat := 0x01

def sptMatchOk : Nat := 0x02

/-- The constructor. -/
def new (objMethod : SipMethod) (bMethodNegated : Bool) : TriggerPoint where
  nEvaluationRule := sptSipRuleMatch ||| sptSdpRuleContain
  bMethodNegated := bMethodNegated
  objMethod := objMethod
  objHeaders := []
  objNegatedHeaders := []
  objSdpMLines := []
  objSdpALines := []

section Editing

variable (helper : SipParsingHelper)

/-- The reading of a value as `AddHeader` and `CompareHeaderInMessage` do it. -/
def readHeader (nType : HeaderType) (strName : NullString) (strValue : Chars) :
    Option SipHeader :=
  if nType ≠ .unknown then helper.createHeader nType strValue
  else helper.createHeaderByName strName strValue

def addHeader (point : TriggerPoint) (nType : HeaderType) (strValue : Chars)
    (strName : NullString) (bHeaderNegated : Bool) : TriggerPoint × Bool :=
  match readHeader helper nType strName strValue with
  | none => (point, false)
  | some header =>
    if !bHeaderNegated then ({ point with objHeaders := point.objHeaders ++ [header] }, true)
    else ({ point with objNegatedHeaders := point.objNegatedHeaders ++ [header] }, true)

def addSdpInfo (point : TriggerPoint) (cName : Char) (strValue : Chars) : TriggerPoint × Bool :=
  if cName = 'm' then ({ point with objSdpMLines := point.objSdpMLines ++ [strValue] }, true)
  else if cName = 'a' then ({ point with objSdpALines := point.objSdpALines ++ [strValue] }, true)
  else (point, false)

end Editing

def isParameterComparisonRequired (header : SipHeader) : Bool :=
  header.nType == .acceptContact || header.nType == .contactAny ||
    header.nType == .contactNormal || header.nType == .featureCaps

section Comparison

variable (ord : Char → BitVec 32) (signed : Bool) (helper : SipParsingHelper)

/-- What a comparison that holds, or does not, returns. -/
def matchResult (bEvaluation bConditionNegated : Bool) : Nat :=
  if bEvaluation then (if bConditionNegated then sptMatchNok else sptMatchOk)
  else if bConditionNegated then sptMatchOk else sptMatchNok

/-- The comparison of the values of two headers. -/
def valueEvaluation (header other : SipHeader) (nEvaluationRule : BitVec 32) : Bool :=
  if nEvaluationRule &&& sptSipRuleMatch ≠ 0 then header.strBody.equalsIgnoreCase other.strBody
  else if nEvaluationRule &&& sptSipRuleContain ≠ 0 then
    contains ord (makeLower other.strBody.chars) (makeLower header.strBody.chars)
  else false

/-- `CompareHeader`; only the first of the header's own parameters counts. -/
def compareHeader (header other : SipHeader) (nEvaluationRule : BitVec 32)
    (bConditionNegated : Bool) : Nat :=
  if isParameterComparisonRequired header then
    match header.objParams with
    | [] => matchResult other.objParams.isEmpty bConditionNegated
    | parameter :: _ =>
      matchResult (other.objParams.any (parameter.equals signed)) bConditionNegated
  else matchResult (valueEvaluation ord header other nEvaluationRule) bConditionNegated

/-- The loop of `CompareHeaderInMessage` over the values that are left. -/
def compareValues (header : SipHeader) (nEvaluationRule : BitVec 32) (bConditionNegated : Bool) :
    List Chars → Nat → Nat
  | [], nMatchResult => nMatchResult
  | strHeader :: objValues, nMatchResult =>
    match readHeader helper header.nType header.strName strHeader with
    | none => compareValues header nEvaluationRule bConditionNegated objValues nMatchResult
    | some other =>
      let nMatchResult := nMatchResult |||
        compareHeader ord signed header other nEvaluationRule bConditionNegated
      if bConditionNegated then
        if nMatchResult &&& sptMatchNok = sptMatchNok then sptMatchNok
        else compareValues header nEvaluationRule bConditionNegated objValues nMatchResult
      else if nMatchResult &&& sptMatchOk = sptMatchOk then sptMatchOk
      else compareValues header nEvaluationRule bConditionNegated objValues nMatchResult

def compareHeaderInMessage (header : SipHeader) (sipMsg : SipMessage)
    (nEvaluationRule : BitVec 32) (bConditionNegated : Bool) : Nat :=
  let objValues := sipMsg.getHeaders header.nType header.strName
  if objValues.isEmpty then (if bConditionNegated then sptMatchOk else sptMatchNok)
  -- Header field's presentity
  else if bConditionNegated && header.strBody.length == 0 then sptMatchNok
  else
    let nMatchResult :=
      compareValues ord signed helper header nEvaluationRule bConditionNegated objValues
        sptMatchNone
    if nMatchResult = sptMatchNone then sptMatchNok else nMatchResult

/-- `SplitLines`, which is the function of `SdpParser` again. -/
def splitLines (strSdp : Chars) : List Chars := Sdp.splitLines strSdp

/-- The lines of a type, as they are compared. -/
def selectedLines (lower upper : String) (strBodyPart : Chars) : List Chars :=
  ((splitLines strBodyPart).filter fun strLine =>
    startsWith strLine lower || startsWith strLine upper).map makeLower

def lineMatches (bContain : Bool) (strToken strLine : Chars) : Bool :=
  if bContain then contains ord strLine strToken
  else NullString.equalsIgnoreCase (some strLine) (some strToken)

def getIndexOf (objSdpLines : List Chars) (strToken : Chars) (bContain : Bool) : Option Nat :=
  objSdpLines.findIdx? (lineMatches ord bContain strToken)

/-- The loop over the required lines of one type. -/
def compareLines (bContain : Bool) : List Chars → List Chars → Nat → Nat
  | [], _, nMatchResult => nMatchResult
  | strToken :: objLines, objSelectedLines, nMatchResult =>
    match getIndexOf ord objSelectedLines strToken bContain with
    | some nIndex =>
      compareLines bContain objLines (objSelectedLines.eraseIdx nIndex)
        (nMatchResult ||| sptMatchOk)
    | none => compareLines bContain objLines objSelectedLines (nMatchResult ||| sptMatchNok)

/-- Whether `CompareSdpInfo` returns `SPT_MATCH_NOK` behind one of its loops. -/
def linesRefused (nMatchResult : Nat) (bConditionNegated : Bool) : Bool :=
  if bConditionNegated then nMatchResult &&& sptMatchOk == sptMatchOk
  else nMatchResult &&& sptMatchNok == sptMatchNok

def compareSdpInfo (objMLines objALines : List Chars) (sipMsg : SipMessage)
    (nEvaluationRule : BitVec 32) (bConditionNegated : Bool) : Nat :=
  if objMLines.isEmpty && objALines.isEmpty then sptMatchOk
  else
    match sipMsg.sdpBodyPart with
    | none => if bConditionNegated then sptMatchOk else sptMatchNok
    | some strBodyPart =>
      let bEvalRuleContain := decide (nEvaluationRule &&& sptSdpRuleContain ≠ 0)
      if linesRefused (compareLines ord bEvalRuleContain objMLines
          (selectedLines "m=" "M=" strBodyPart) sptMatchNone) bConditionNegated then sptMatchNok
      else if linesRefused (compareLines ord bEvalRuleContain objALines
          (selectedLines "a=" "A=" strBodyPart) sptMatchNone) bConditionNegated then sptMatchNok
      else sptMatchOk

/-- The loops of `Evaluate` over the headers, and over the negated ones. -/
def headersPass (objHeaders : List SipHeader) (sipMsg : SipMessage) (nEvaluationRule : BitVec 32)
    (bConditionNegated : Bool) : Bool :=
  objHeaders.all fun header =>
    compareHeaderInMessage ord signed helper header sipMsg nEvaluationRule bConditionNegated !=
      sptMatchNok

def sdpPasses (point : TriggerPoint) (sipMsg : SipMessage) : Bool :=
  compareSdpInfo ord point.objSdpMLines point.objSdpALines sipMsg point.nEvaluationRule false !=
    sptMatchNok

/-- `Evaluate`; there may be no message. -/
def evaluate (point : TriggerPoint) : Option SipMessage → Bool
  | none => false
  | some sipMsg =>
    if !point.bMethodNegated && !point.objMethod.equals sipMsg.objMethod then false
    else if point.bMethodNegated && point.objMethod.equals sipMsg.objMethod then false
    -- In case the method is only matched.
    else if point.objHeaders.isEmpty && point.objNegatedHeaders.isEmpty then
      sdpPasses ord point sipMsg
    else if !headersPass ord signed helper point.objNegatedHeaders sipMsg point.nEvaluationRule
        true then false
    else if !headersPass ord signed helper point.objHeaders sipMsg point.nEvaluationRule
        false then false
    else sdpPasses ord point sipMsg

end Comparison

end TriggerPoint

end ImsStack.Service
