import ImsStack.Platform.AString

/-!
The checks and conversions of `Sdp.cpp`, the address check of `SdpLine` and the
lines of an SDP text.
-/

namespace ImsStack.Sdp

open Platform.AString

/-- `TextParser::IsTokenCharacter`. -/
def isTokenCharacter (c : Char) : Bool :=
  let n := c.toNat
  decide (n = 0x21 ∨ (0x23 ≤ n ∧ n ≤ 0x27) ∨ (0x2A ≤ n ∧ n ≤ 0x2B) ∨ (0x2D ≤ n ∧ n ≤ 0x2E) ∨
    (0x30 ≤ n ∧ n ≤ 0x39) ∨ (0x41 ≤ n ∧ n ≤ 0x5A) ∨ (0x5E ≤ n ∧ n ≤ 0x7E))

/-- `Sdp::IsByteCharacter`. -/
def isByteCharacter (c : Char) : Bool := decide (c ≠ nul ∧ c ≠ '\n' ∧ c ≠ '\r')

/-- `Sdp::IsVisibleCharacter`. -/
def isVisibleCharacter (c : Char) : Bool :=
  let n := c.toNat
  decide ((0x21 ≤ n ∧ n ≤ 0x7E) ∨ (0x80 ≤ n ∧ n ≤ 0xFF))

/-- `IMS_ISALPHA`. -/
def isAlpha (c : Char) : Bool := decide (('A' ≤ c ∧ c ≤ 'Z') ∨ ('a' ≤ c ∧ c ≤ 'z'))

def isDigitString (s : Chars) : Bool := !s.isEmpty && s.all isDigit

def isFqdnString (s : Chars) : Bool :=
  decide (4 ≤ s.length) && s.all fun c => isAlpha c || isDigit c || c == '-' || c == '.'

def isTextString (s : Chars) : Bool := !s.isEmpty && s.all isByteCharacter

def isTokenString (s : Chars) : Bool := !s.isEmpty && s.all isTokenCharacter

/-- `Sdp::IsTokenString` with `bAllowSpace`. -/
def isTokenStringWithSpace (s : Chars) : Bool :=
  !s.isEmpty && s.all fun c => isTokenCharacter c || c == ' '

def isTypedTimeString (s : Chars) : Bool :=
  !s.isEmpty && s.all fun c => isDigit c || c == 'd' || c == 'h' || c == 'm' || c == 's'

def isNonWsString (s : Chars) : Bool := !s.isEmpty && s.all isVisibleCharacter

def isUriString (s : Chars) : Bool := !s.isEmpty

/-- `Sdp::SplitLine`: the first parts end at a space each, the last one is the rest. -/
def splitLine : Nat → Chars → Option (List Chars)
  | 0, s => some [s]
  | 1, s => some [s]
  | parts + 2, s =>
    match s.dropWhile (· ≠ ' ') with
    | [] => none
    | _ :: rest => (splitLine (parts + 1) rest).map (s.takeWhile (· ≠ ' ') :: ·)

/-- The seconds that the unit at the end of a typed time stands for. -/
def timeUnit? : Char → Option Nat
  | 'd' => some 86400
  | 'h' => some 3600
  | 'm' => some 60
  | 's' => some 1
  | _ => none

/-- `Sdp::ConvertTypedTimeToSeconds`, in `IMS_UINT32`. -/
def convertTypedTimeToSeconds (s : Chars) : Nat :=
  match s.getLast?.bind timeUnit? with
  | some multiplier => toUInt32 s.dropLast * multiplier % 2 ^ 32
  | none => toUInt32 s % 2 ^ 32

/-- `Sdp::GetPayloadTypeFromAttribute`. -/
def getPayloadTypeFromAttribute (s : Chars) : Int :=
  if ' ' ∈ s then (toInt32? (s.takeWhile (· ≠ ' '))).getD (-1) else -1

/-- `Sdp::IncreaseSessionVersion`, from the last character on. -/
def increaseReversed : Chars → Chars
  | [] => []
  | c :: s => if c = '9' then '0' :: increaseReversed s else Char.ofNat (c.toNat + 1) :: s

def increaseSessionVersion (s : Chars) : Chars :=
  let increased := (increaseReversed s.reverse).reverse
  if increased.head? = some '0' then '1' :: increased else increased

inductive IpVersion where
  | ipv4 | ipv6
  deriving DecidableEq, Repr

/-- `ipAddress_ParseIpv4`, as far as it tells whether the text is an address. -/
def parseIpv4 (s : Chars) : Bool :=
  match (split '.' s).map toUInt32? with
  | [some a, some b, some c, some d] => decide (a ≤ 255 ∧ b ≤ 255 ∧ c ≤ 255 ∧ d ≤ 255)
  | _ => false

/-- The loop of `ipAddress_ParseIpv6` over the groups from the last one to the first, with the
number of bytes that are left and the number of groups that an empty one stands for. -/
def parseIpv6Groups (groups : List Chars) : Nat → Nat → Nat → Bool
  | 0, _, _ => true
  | i + 1, left, reduced =>
    let count := groups.length
    let value := groups.getD i []
    if left = 0 then false
    else if value = [] then
      if i = count - 1 then
        if groups.getD (i - 1) [] ≠ [] then false else parseIpv6Groups groups i (left - 2) reduced
      else if i = 0 then
        if groups.getD (i + 1) [] ≠ [] then false else parseIpv6Groups groups i (left - 2) reduced
      else if left < 2 * reduced then false
      else parseIpv6Groups groups i (left - 2 * reduced) reduced
    else
      match hexToUInt32? value with
      | some n =>
        if n ≤ 0xffff then parseIpv6Groups groups i (left - 2) reduced
        else if i = count - 1 ∧ parseIpv4 value then
          parseIpv6Groups groups i (left - 4) (reduced - 1)
        else false
      | none =>
        if i = count - 1 ∧ parseIpv4 value then parseIpv6Groups groups i (left - 4) (reduced - 1)
        else false

/-- `ipAddress_ParseIpv6`. -/
def parseIpv6 (s : Chars) : Bool :=
  let groups := split ':' s
  if groups.length < 3 ∨ 8 < groups.length then false
  else parseIpv6Groups groups groups.length 16 (9 - groups.length)

/-- `IpAddress::Parse`, as far as the version of the address. -/
def parseIpAddress (address : Chars) : Option IpVersion :=
  let ip := strip address
  let bracketed := ip.head? = some '[' ∧ ip.getLast? = some ']'
  -- The brackets of an IPv6 address stay off for the IPv4 attempt.
  let inner := if ':' ∈ ip ∧ bracketed then (ip.drop 1).dropLast else ip
  if ':' ∈ ip ∧ parseIpv6 inner then some .ipv6
  else if '.' ∈ inner ∧ parseIpv4 inner then some .ipv4
  else none

inductive NetType where
  | in_ | other
  deriving DecidableEq, Repr

inductive AddrType where
  | ip4 | ip6 | other
  deriving DecidableEq, Repr

/-- The nettype field of an o-line or a c-line. -/
def decodeNetType (s : Chars) : Option NetType :=
  if equalsLiteral s "IN" then some .in_ else if isTokenString s then some .other else none

/-- The addrtype field of an o-line or a c-line. -/
def decodeAddrType (s : Chars) : Option AddrType :=
  if equalsLiteral s "IP4" then some .ip4
  else if equalsLiteral s "IP6" then some .ip6
  else if isTokenString s then some .other else none

/-- `SdpLine::CheckValidityForAddress`. -/
def checkValidityForAddress (address : Chars) (addrType : AddrType) : Bool :=
  match parseIpAddress address with
  | some .ipv4 => decide (addrType = .ip4)
  | some .ipv6 => decide (addrType = .ip6)
  | none => isFqdnString address || isNonWsString address

def crlf : Chars := ['\r', '\n']

/-- The text of a line of a type. -/
def sdpLine (type : Char) (value : Chars) : Chars := type :: '=' :: value

/-- The line without its carriage return. -/
def chopCr (line : Chars) : Chars := if line.getLast? = some '\r' then line.dropLast else line

/-- `SdpParser::SplitLines`. -/
def splitLines (sdp : Chars) : List Chars :=
  ((sdp.splitOn '\n').map chopCr).filter fun line => !line.isEmpty

/-- The body of a line, behind its type and the equal sign. -/
def lineBody (line : Chars) : Chars := line.drop 2

end ImsStack.Sdp
