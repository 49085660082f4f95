import Mathlib.Algebra.Group.Int.Defs
import Mathlib.Algebra.Group.Nat.Defs
import Mathlib.Data.List.Basic

/-!
The percent coding of `TextParser` and of `Feature`.  `IMS_CHAR` is the `char` of the
compiler, signed on some targets and unsigned on others, so the functions that convert a
character to an integer take its signedness.
-/

namespace ImsStack.Platform.TextParser

abbrev Octets := List UInt8

/-- `CHAR_PERCENT`. -/
def charPercent : UInt8 := 0x25

/-- `IMS_ISDIGIT`. -/
def isDigit (c : UInt8) : Bool := decide (0x30 ≤ c ∧ c ≤ 0x39)

/-- `IMS_ISALPHA`. -/
def isAlpha (c : UInt8) : Bool := decide (0x41 ≤ c ∧ c ≤ 0x5A) || decide (0x61 ≤ c ∧ c ≤ 0x7A)

def isHexCharacter (c : UInt8) : Bool :=
  isDigit c || decide (0x41 ≤ c ∧ c ≤ 0x46) || decide (0x61 ≤ c ∧ c ≤ 0x66)

/-- A hexadecimal digit in capitals. -/
def hexDigit (n : Nat) : UInt8 := if n < 10 then .ofNat (0x30 + n) else .ofNat (0x41 + (n - 10))

/-- `astring_ULLToA` in base 16 and capitals, for at most the given number of digits; the
number zero has no digits. -/
def ullToA : Nat → Nat → Octets
  | 0, _ => []
  | digits + 1, n => if n = 0 then [] else ullToA digits (n / 16) ++ [hexDigit (n % 16)]

/-- `Sprintf("%02X", ..)` of an `IMS_UINT32`. -/
def sprintf02X (n : Nat) : Octets :=
  List.replicate (2 - (ullToA 16 n).length) (hexDigit 0) ++ ullToA 16 n

section Signedness

-- Whether `char` is signed.
variable (signed : Bool)

/-- A character passed to `Sprintf` is promoted to `int` and read as `IMS_UINT32`. -/
def promoted (c : UInt8) : Nat :=
  if signed = true ∧ 0x80 ≤ c then 2 ^ 32 - 256 + c.toNat else c.toNat

/-- A character returned as `IMS_SINT32`. -/
def toSInt32 (c : UInt8) : Int :=
  if signed = true ∧ 0x80 ≤ c then (c.toNat : Int) - 256 else c.toNat

def charToHexString (c : UInt8) : Octets := sprintf02X (promoted signed c)

/-- The value that one digit adds in `HexStringToChar`. -/
def digitValue (c : UInt8) : UInt8 :=
  if 0x41 ≤ c ∧ c ≤ 0x46 then c - 0x41 + 10
  else if 0x61 ≤ c ∧ c ≤ 0x66 then c - 0x61 + 10
  else c - 0x30

/-- `HexStringToChar` once the digits are taken: the character is computed in `IMS_CHAR`. -/
def hexDigitsToChar (chFirst chSecond : UInt8) : Int :=
  if !isHexCharacter chFirst || !isHexCharacter chSecond then -1
  else toSInt32 signed (digitValue chFirst * 16 + digitValue chSecond)

def hexStringToChar : Octets → Int
  | [zero, x, chFirst, chSecond] =>
    if zero = 0x30 ∧ (x = 0x78 ∨ x = 0x58) then hexDigitsToChar signed chFirst chSecond else -1
  | [chFirst, chSecond] => hexDigitsToChar signed chFirst chSecond
  | _ => -1

/-- What the loop of `DoPercentDecoding` appends at a `%`, from the two characters behind it
as far as they are there. -/
def decodedPiece (strHexDigs : Octets) : Octets :=
  if hexStringToChar signed strHexDigs < 0x00 ∨ 0xFF < hexStringToChar signed strHexDigs then
    charPercent :: strHexDigs
  else [.ofNat (hexStringToChar signed strHexDigs).toNat]

/-- The loop of `DoPercentDecoding`; the first argument counts the characters that the index
step `i += 2` passes over. -/
def decodingLoop : Nat → Octets → Octets
  | _, [] => []
  | skip + 1, _ :: rest => decodingLoop skip rest
  | 0, c :: rest =>
    if c ≠ charPercent then c :: decodingLoop 0 rest
    else decodedPiece signed (rest.take 2) ++ decodingLoop 2 rest

/-- `TextParser::DoPercentDecoding`. -/
def doPercentDecoding (strPeData : Octets) : Octets :=
  if !strPeData.contains charPercent then strPeData else decodingLoop signed 0 strPeData

/-- One character of `DoPercentEncodingEx`; only the first two digits are taken. -/
def encodedCharEx (strPeExcludingChar : Octets) (c : UInt8) : Octets :=
  if isDigit c || isAlpha c ||
      (decide (strPeExcludingChar.length > 0) && strPeExcludingChar.contains c) then [c]
  else charPercent :: (charToHexString signed c).take 2

/-- `TextParser::DoPercentEncodingEx`. -/
def doPercentEncodingEx (strData strPeExcludingChar : Octets) : Octets :=
  strData.flatMap (encodedCharEx signed strPeExcludingChar)

namespace Feature

/-- `Feature::DoPercentDecoding`. -/
def doPercentDecoding (strValue : Octets) : Octets := decodingLoop signed 0 strValue

/-- One character of `Feature::DoPercentEncoding`; the whole text of the number is taken. -/
def encodedChar (c : UInt8) : Octets :=
  if isAlpha c || isDigit c || c == 0x21 || c == 0x2D || c == 0x2E || c == 0x45 || c == 0x2A ||
      c == 0x5F || c == 0x2B || c == 0x60 || c == 0x47 || c == 0x7E then [c]
  else charPercent :: charToHexString signed c

/-- `Feature::DoPercentEncoding`. -/
def doPercentEncoding (strValue : Octets) : Octets := strValue.flatMap (encodedChar signed)

end Feature

end Signedness

end ImsStack.Platform.TextParser
