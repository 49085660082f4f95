import ImsStack.Library.BoundedInt
import ImsStack.SipMsg.SipAbnfUtil

/-!
`SipPercentEncoding`: the routines that escape the parts of a URI, each into a buffer that it
allocates for three times as many bytes as its argument has, and `DoPercentDecoding`.
-/

namespace ImsStack.SipMsg

open Library.BoundedInt Platform.AString SipAbnfUtil

/-- The bytes of a buffer that have been written; the others are zero. -/
structure Buffer where
  capacity : Nat
  written : Chars
  fits : written.length ≤ capacity

namespace Buffer

def allocate (capacity : Nat) : Buffer :=
  { capacity := capacity, written := [], fits := Nat.zero_le _ }

@[simp] theorem allocate_capacity (capacity : Nat) : (allocate capacity).capacity = capacity := rfl

@[simp] theorem allocate_written (capacity : Nat) : (allocate capacity).written = [] := rfl

/-- Stores characters; a byte outside of the buffer is `none`. -/
def store? (b : Buffer) (text : Chars) : Option Buffer :=
  if h : (b.written ++ text).length ≤ b.capacity then
    some { b with written := b.written ++ text, fits := h }
  else none

/-- `sprintf`, which stores a NUL behind the characters, and the step over them. -/
def sprintf? (b : Buffer) (text : Chars) : Option Buffer :=
  if (b.written ++ text).length < b.capacity then b.store? text else none

def Terminated (b : Buffer) : Prop := b.written.length < b.capacity

instance (b : Buffer) : Decidable b.Terminated := inferInstanceAs (Decidable (_ < _))

end Buffer

namespace SipPercentEncoding

/-- A digit that `%X` prints. -/
def upperHex (n : Nat) : Char := if n < 10 then Char.ofNat (48 + n) else Char.ofNat (55 + n)

/-- What `sprintf` makes of a byte with `%02X`. -/
def print02X (c : Char) : Chars := [upperHex (c.toNat / 16), upperHex (c.toNat % 16)]

/-- What an `sscanf` of `%2X` leaves in a variable that has been zero, cast to a byte. -/
def scan2X (text : Chars) : Nat :=
  match text.dropWhile isSpace with
  | '+' :: d :: _ => (hexDigit? d).getD 0
  | '-' :: d :: _ => (256 - (hexDigit? d).getD 0) % 256
  | h :: l :: _ =>
    (hexDigit? h).elim 0 fun high => (hexDigit? l).elim high fun low => 16 * high + low
  | [h] => (hexDigit? h).getD 0
  | [] => 0

/-- The loop of `DoPercentDecoding`. -/
def decodeLoop : Chars → Chars
  | '%' :: a :: b :: rest => Char.ofNat (scan2X (a :: b :: rest)) :: decodeLoop rest
  | c :: rest => c :: decodeLoop rest
  | [] => []

/-- The string that is returned ends at the first NUL. -/
def doPercentDecoding (pszString : Chars) : Chars := cString (decodeLoop pszString)

/-- What a routine leaves as it is: the characters of a set, and escaped characters as a whole. -/
structure Rule where
  copied : Char → Bool
  keepsEscaped : Bool

namespace Rule

def put (rule : Rule) (c : Char) (b : Buffer) : Option Buffer :=
  if rule.copied c then b.store? [c] else (b.store? ['%']).bind fun b => b.sprintf? (print02X c)

/-- The loop of a routine. -/
def encodeLoop (rule : Rule) : Chars → Buffer → Option Buffer
  | [], b => some b
  | c :: h :: l :: rest, b =>
    if !rule.copied c && (rule.keepsEscaped && isEscaped c h l) then
      (b.store? [c, h, l]).bind (encodeLoop rule rest)
    else (rule.put c b).bind (encodeLoop rule (h :: l :: rest))
  | c :: rest, b => (rule.put c b).bind (encodeLoop rule rest)

/-- The buffer has no byte for the NUL. -/
def encode (rule : Rule) (pszString : Chars) : Option Buffer := do
  let nLength := wrap pszString.length
  let size ← checked (3 * nLength)
  if size < 0 then none else rule.encodeLoop pszString (.allocate size.toNat)

end Rule

def userAndHeaderRule (pType : Chars) : Rule where
  copied c :=
    isUnreserved c || (pType == "User".toList && isUserUnreserved c) ||
      (pType == "headers".toList && isHnvUnreserved c)
  keepsEscaped := true

def passwordRule : Rule := { copied := fun c => isUnreserved c || isPassword c, keepsEscaped := true }

def hostRule : Rule where
  copied c := isAlphanum c || c == '.' || c == ':' || c == '[' || c == ']' || c == '-'
  keepsEscaped := false

def tokenRule : Rule := { copied := isToken, keepsEscaped := false }

def ttlRule : Rule := { copied := isDigit, keepsEscaped := false }

def doPercentEncodingUserAndHeader (pszString pType : Chars) : Option Buffer :=
  (userAndHeaderRule pType).encode pszString

def doPercentEncodingPassword (pszString : Chars) : Option Buffer := passwordRule.encode pszString

def doPercentEncodingHost (pszString : Chars) : Option Buffer := hostRule.encode pszString

def doPercentEncodingTokenParam (pszString : Chars) : Option Buffer := tokenRule.encode pszString

def doPercentEncodingTtlParam (pszString : Chars) : Option Buffer := ttlRule.encode pszString

def doPercentEncodingMddrParam (pszString : Chars) : Option Buffer := doPercentEncodingHost pszString

def doPercentEncodingOtherParam (pszString : Chars) : Option Buffer :=
  doPercentEncodingTokenParam pszString

def doPercentEncodingParam (pszName pszValue : Chars) : Option Buffer :=
  if stricmp pszName "user" || stricmp pszName "method" || stricmp pszName "transport" ||
      stricmp pszName "lr" then doPercentEncodingTokenParam pszValue
  else if stricmp pszName "maddr" then doPercentEncodingMddrParam pszValue
  else if stricmp pszName "ttl" then doPercentEncodingTtlParam pszValue
  else if stricmp pszName "headers" then
    doPercentEncodingUserAndHeader pszValue "headers".toList
  else doPercentEncodingOtherParam pszValue

/-- The rule that `doPercentEncodingParam` ends up with. -/
def paramRule (pszName : Chars) : Rule :=
  if stricmp pszName "user" || stricmp pszName "method" || stricmp pszName "transport" ||
      stricmp pszName "lr" then tokenRule
  else if stricmp pszName "maddr" then hostRule
  else if stricmp pszName "ttl" then ttlRule
  else if stricmp pszName "headers" then userAndHeaderRule "headers".toList
  else tokenRule

/-- The routines, with their other argument. -/
inductive Routine where
  | userAndHeader (pType : Chars)
  | password
  | host
  | tokenParam
  | ttlParam
  | mddrParam
  | otherParam
  | param (pszName : Chars)
  deriving DecidableEq, Repr

namespace Routine

def run : Routine → Chars → Option Buffer
  | .userAndHeader pType, s => doPercentEncodingUserAndHeader s pType
  | .password, s => doPercentEncodingPassword s
  | .host, s => doPercentEncodingHost s
  | .tokenParam, s => doPercentEncodingTokenParam s
  | .ttlParam, s => doPercentEncodingTtlParam s
  | .mddrParam, s => doPercentEncodingMddrParam s
  | .otherParam, s => doPercentEncodingOtherParam s
  | .param pszName, s => doPercentEncodingParam pszName s

def rule : Routine → Rule
  | .userAndHeader pType => userAndHeaderRule pType
  | .password => passwordRule
  | .host | .mddrParam => hostRule
  | .tokenParam | .otherParam => tokenRule
  | .ttlParam => ttlRule
  | .param pszName => paramRule pszName

theorem run_eq_encode (r : Routine) (s : Chars) : r.run s = r.rule.encode s := by
  cases r with
  | param pszName =>
    change doPercentEncodingParam pszName s = (paramRule pszName).encode s
    unfold doPercentEncodingParam paramRule
    split_ifs <;> rfl
  | _ => rfl

end Routine

end SipPercentEncoding

end ImsStack.SipMsg
