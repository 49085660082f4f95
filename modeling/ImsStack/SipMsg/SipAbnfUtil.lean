import ImsStack.Platform.AString

/-!
The character classes of `SipAbnfUtil.h`, and the strings that the message classes work on.
-/

namespace ImsStack.SipMsg

open Platform.AString

/-- A C string: the bytes in front of the first NUL. -/
structure CString where
  chars : Chars
  ne_nul : ∀ c ∈ chars, c ≠ nul
  lt_byte : ∀ c ∈ chars, c.toNat < 256

namespace SipAbnfUtil

def isAlpha (c : Char) : Bool := decide ('a' ≤ c ∧ c ≤ 'z') || decide ('A' ≤ c ∧ c ≤ 'Z')

def isHexDig (c : Char) : Bool :=
  decide ('A' ≤ c ∧ c ≤ 'F') || decide ('a' ≤ c ∧ c ≤ 'f') || isDigit c

def isAlphanum (c : Char) : Bool := isAlpha c || isDigit c

def isMark (c : Char) : Bool :=
  c == '-' || c == '_' || c == '.' || c == '!' || c == '~' || c == '*' || c == '(' || c == ')' ||
    c == '\''

def isUnreserved (c : Char) : Bool := isAlphanum c || isMark c

def isPassword (c : Char) : Bool := c == '&' || c == '=' || c == '+' || c == '$' || c == ','

def isUserUnreserved (c : Char) : Bool :=
  c == '&' || c == '=' || c == '+' || c == '$' || c == ',' || c == ';' || c == '?' || c == '/'

def isHnvUnreserved (c : Char) : Bool :=
  c == '[' || c == ']' || c == '/' || c == '?' || c == ':' || c == '+' || c == '$'

def isToken (c : Char) : Bool :=
  isAlphanum c || c == '-' || c == '.' || c == '!' || c == '%' || c == '_' || c == '+' ||
    c == '`' || c == '\'' || c == '~' || c == '*'

def isEscaped (c h l : Char) : Bool := c == '%' && isHexDig h && isHexDig l

/-- `SipPf_Stricmp` gives zero. -/
def stricmp (a : Chars) (b : String) : Bool := equalsIgnoreCase a b.toList

end SipAbnfUtil

end ImsStack.SipMsg
