import ImsStack.Platform.AString
import ImsStack.Precondition.QosStatusTable

/-!
The precondition that the lines of an attribute make: `SdpPrecondition::ExtractProperties` and
`SdpMediaParameter::CreatePrecondition`.
-/

namespace ImsStack.Precondition

open Platform.AString

/-- `SdpPrecondition::TYPE_*`. -/
inductive PreconditionType where
  | invalid | qos | other
  deriving DecidableEq, Repr

/-- `SdpPrecondition::SUBTYPE_*`. -/
inductive PreconditionSubType where
  | e2e | segmented
  deriving DecidableEq, Repr

/-- `SdpPrecondition::STATUS_*` of a line. -/
inductive StatusTag where
  | statusE2e | statusLocal | statusRemote
  deriving DecidableEq, Repr

def StatusTag.subType : StatusTag → PreconditionSubType
  | .statusE2e => .e2e
  | .statusLocal | .statusRemote => .segmented

/-- What `ExtractProperties` fills, and what `CreatePrecondition` takes from one line to the
next. -/
structure LineProperties where
  nType : PreconditionType
  nSubType : PreconditionSubType
  status : StatusTag
  direction : Direction
  strength : Strength
  deriving DecidableEq, Repr

namespace LineProperties

def initial : LineProperties := ⟨.invalid, .e2e, .statusE2e, .none, .notUsed⟩

def strengthTag? (s : Chars) : Option Strength :=
  if equalsIgnoreCaseLiteral s "mandatory" then some .mandatory
  else if equalsIgnoreCaseLiteral s "optional" then some .optional
  else if equalsIgnoreCaseLiteral s "none" then some .none
  else if equalsIgnoreCaseLiteral s "failure" then some .failure
  else if equalsIgnoreCaseLiteral s "unknown" then some .unknown
  else none

def statusTag? (s : Chars) : Option StatusTag :=
  if equalsIgnoreCaseLiteral s "e2e" then some .statusE2e
  else if equalsIgnoreCaseLiteral s "local" then some .statusLocal
  else if equalsIgnoreCaseLiteral s "remote" then some .statusRemote
  else none

def directionTag? (s : Chars) : Option Direction :=
  if equalsIgnoreCaseLiteral s "none" then some .none
  else if equalsIgnoreCaseLiteral s "send" then some .send
  else if equalsIgnoreCaseLiteral s "recv" then some .recv
  else if equalsIgnoreCaseLiteral s "sendrecv" then some .sendrecv
  else none

def setType (p : LineProperties) (strType : Chars) : LineProperties :=
  { p with nType := if equalsIgnoreCaseLiteral strType "qos" then .qos else .other }

/-- The part on the status type and the direction; what is filled before a failure stays. -/
def extractStatus (p : LineProperties) (strStatusType strDirectionTag : Chars) :
    Bool × LineProperties :=
  match statusTag? strStatusType with
  | none => (false, p)
  | some status =>
    match directionTag? strDirectionTag with
    | none => (false, { p with status, nSubType := status.subType })
    | some direction => (true, { p with status, nSubType := status.subType, direction })

def extractProperties (p : LineProperties) (strStatusLine : Chars) : Bool × LineProperties :=
  if strStatusLine.length = 0 then (false, p)
  else
    match split ' ' strStatusLine with
    | [strType, strStatusType, strDirectionTag] =>
      (p.setType strType).extractStatus strStatusType strDirectionTag
    | [strType, strStrengthTag, strStatusType, strDirectionTag] =>
      match strengthTag? strStrengthTag with
      | none => (false, p.setType strType)
      | some strength =>
        { p.setType strType with strength }.extractStatus strStatusType strDirectionTag
    | _ => (false, p)

end LineProperties

/-- `SdpE2EPrecondition` or `SdpSegmentedPrecondition`. -/
inductive SdpPrecondition where
  | e2e (details : List DetailInfo)
  | segmented (p : SdpSegmentedPrecondition)
  deriving DecidableEq, Repr

namespace SdpPrecondition

def new : PreconditionSubType → SdpPrecondition
  | .e2e => .e2e []
  | .segmented => .segmented .empty

/-- `AddStatus`; a status of the other kind is refused. -/
def addStatus (p : SdpPrecondition) (status : StatusTag) (direction : Direction)
    (strength : Strength) : SdpPrecondition :=
  match p, status with
  | .e2e details, .statusE2e => .e2e (details ++ [⟨direction, strength⟩])
  | .e2e details, _ => .e2e details
  | .segmented p, .statusLocal => .segmented (p.addStatus .statusLocal direction strength)
  | .segmented p, .statusRemote => .segmented (p.addStatus .statusRemote direction strength)
  | .segmented p, .statusE2e => .segmented p

def isPreconditionPresent : SdpPrecondition → Bool
  | .e2e details => !details.isEmpty
  | .segmented p => p.isPreconditionPresent

/-- The cast to `SdpSegmentedPrecondition`. -/
def segmented? : SdpPrecondition → Option SdpSegmentedPrecondition
  | .e2e _ => none
  | .segmented p => some p

end SdpPrecondition

/-- The variables of `CreatePrecondition`. -/
structure CreatedPrecondition where
  properties : LineProperties
  pPrecondition : Option SdpPrecondition
  deriving DecidableEq, Repr

namespace CreatedPrecondition

def addLine (c : CreatedPrecondition) (strStatusLine : Chars) : CreatedPrecondition :=
  let extracted := c.properties.extractProperties strStatusLine
  let properties := extracted.2
  if !extracted.1 then { c with properties }
  else if properties.nType ≠ .qos then { c with properties }
  else
    { properties
      pPrecondition :=
        some ((c.pPrecondition.getD (.new properties.nSubType)).addStatus properties.status
          properties.direction properties.strength) }

end CreatedPrecondition

def createPrecondition (lines : List Chars) : Option SdpPrecondition :=
  match (lines.foldl CreatedPrecondition.addLine ⟨.initial, none⟩).pPrecondition with
  | none => none
  | some p => if p.isPreconditionPresent then some p else none

/-- A received media description, with the values of its curr and des attributes. -/
structure ReceivedMedia where
  eType : SdpMediaType
  nPort : Int
  currLines : List Chars
  desLines : List Chars
  deriving DecidableEq, Repr

/-- What the table reads of the description. -/
def ReceivedMedia.sdpMedia (media : ReceivedMedia) : SdpMedia where
  eType := media.eType
  nPort := media.nPort
  curr := (createPrecondition media.currLines).bind SdpPrecondition.segmented?
  des := (createPrecondition media.desLines).bind SdpPrecondition.segmented?
  conf := none

end ImsStack.Precondition
