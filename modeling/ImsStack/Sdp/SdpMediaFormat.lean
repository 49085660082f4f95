import ImsStack.Platform.AString

/-!
`SdpMediaFormat` and `SdpAvCodec`: the formats of a media, and when two of them are the same.
-/

namespace ImsStack.Sdp

open Platform.AString

/-- `AString::Equals`; a null string is `none`. -/
def equalsOrNull : Option Chars → Option Chars → Bool
  | none, none => true
  | some a, some b => equals a b
  | _, _ => false

/-- `AString::EqualsIgnoreCase`; a null string is `none`. -/
def equalsIgnoreCaseOrNull : Option Chars → Option Chars → Bool
  | none, none => true
  | some a, some b => a.length == b.length && equalsIgnoreCase (cString a) (cString b)
  | _, _ => false

theorem equalsIgnoreCaseOrNull_self (a : Option Chars) : equalsIgnoreCaseOrNull a a := by
  cases a with
  | none => rfl
  | some a => simp [equalsIgnoreCaseOrNull, equalsIgnoreCase]

/-- `SdpMediaFormat::TYPE_*`. -/
inductive FormatType where
  | rtp | msrp | udp | tcp | other
  deriving DecidableEq, Repr

structure SdpAvCodec where
  value : Option Chars := none
  payloadType : Int := -1
  codecName : Option Chars := none
  clockRate : Nat := 0
  encodingParameters : Option Chars := none
  fmtp : Option Chars := none
  amrOperationMode : Int := 0
  deriving DecidableEq, Repr

namespace SdpAvCodec

def isDynamicPayloadType (type : Int) : Bool := decide (96 ≤ type ∧ type ≤ 127)

/-- The codec name is that of AMR or AMR-WB. -/
def isAmr (codec : SdpAvCodec) : Bool :=
  codec.codecName.any fun name => equalsLiteral name "AMR" || equalsLiteral name "AMR-WB"

/-- `Equals` against another codec. -/
def equals (codec other : SdpAvCodec) : Bool :=
  (if isDynamicPayloadType codec.payloadType then
    equalsIgnoreCaseOrNull codec.codecName other.codecName
  else codec.payloadType == other.payloadType) &&
  codec.clockRate == other.clockRate &&
  (!codec.isAmr || codec.amrOperationMode == other.amrOperationMode)

theorem equals_self (codec : SdpAvCodec) : codec.equals codec := by
  unfold equals
  split <;> simp [equalsIgnoreCaseOrNull_self]

end SdpAvCodec

/-- A format: an `SdpAvCodec`, whose type is TYPE_RTP, or a plain one. -/
inductive SdpMediaFormat where
  | avCodec (codec : SdpAvCodec)
  | plain (type : FormatType) (value : Option Chars)
  deriving DecidableEq, Repr

namespace SdpMediaFormat

def getType : SdpMediaFormat → FormatType
  | avCodec _ => .rtp
  | plain type _ => type

def getValue : SdpMediaFormat → Option Chars
  | avCodec codec => codec.value
  | plain _ value => value

/-- The payload type of a codec. -/
def payloadType : SdpMediaFormat → Option Int
  | avCodec codec => some codec.payloadType
  | plain _ _ => none

/-- `Equals`, which is virtual. -/
def equals : SdpMediaFormat → SdpMediaFormat → Bool
  | avCodec codec, avCodec other => codec.equals other
  | avCodec _, plain _ _ => false
  | plain type value, format =>
    type == format.getType && equalsIgnoreCaseOrNull value format.getValue

theorem equals_self (format : SdpMediaFormat) : format.equals format := by
  cases format with
  | avCodec codec => exact codec.equals_self
  | plain type value => simp [equals, getType, getValue, equalsIgnoreCaseOrNull_self]

end SdpMediaFormat

end ImsStack.Sdp
