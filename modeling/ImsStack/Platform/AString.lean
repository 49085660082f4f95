import Mathlib.Algebra.Group.Int.Defs
import Mathlib.Algebra.Group.Nat.Defs
import Mathlib.Data.Bool.Basic
import Mathlib.Data.List.Basic
import Mathlib.Data.Option.Basic

/-!
Strings of `IMS_CHAR` and the operations of `AString` and `ImsLib.h` on them.  A
string is a list of characters; a C string ends at its first NUL.
-/

namespace ImsStack.Platform.AString

abbrev Chars := List Char

def nul : Char := '\x00'

/-- `IMS_ISSPACE`. -/
def isSpace (c : Char) : Bool :=
  c == '\n' || c == '\t' || c == '\x0b' || c == ' ' || c == '\r' || c == '\x0c'

/-- `IMS_ISDIGIT`. -/
def isDigit (c : Char) : Bool := decide ('0' ≤ c ∧ c ≤ '9')

/-- `IMS_TOLOWER`. -/
def toLower (c : Char) : Char := if 'A' ≤ c ∧ c ≤ 'Z' then Char.ofNat (c.toNat + 32) else c

def equalsIgnoreCase (a b : Chars) : Bool := a.map toLower == b.map toLower

def stripLeading (s : Chars) : Chars := s.dropWhile isSpace

def stripTrailing (s : Chars) : Chars := (s.reverse.dropWhile isSpace).reverse

def strip (s : Chars) : Chars := stripTrailing (stripLeading s)

/-- The decimal number a list of digits reads as. -/
def digitsToNat (digits : Chars) : Nat :=
  digits.foldl (fun value c => value * 10 + (c.toNat - '0'.toNat)) 0

/-- The part of a string that a C function sees. -/
def cString (s : Chars) : Chars := s.takeWhile (· ≠ nul)

/-- `AString::Equals` against a string literal. -/
def equalsLiteral (s : Chars) (literal : String) : Bool := cString s == literal.toList

/-- `AString::EqualsIgnoreCase` against a string literal. -/
def equalsIgnoreCaseLiteral (s : Chars) (literal : String) : Bool :=
  equalsIgnoreCase (cString s) literal.toList

/-- `AString::Equals`. -/
def equals (a b : Chars) : Bool := a.length == b.length && cString a == cString b

/-- `AString::Split` of a string that is not null. -/
def split (sep : Char) (s : Chars) : List Chars := (s.splitOn sep).map strip

/-- The sign in front of a number, and the rest. -/
def readSign : Chars → Bool × Chars
  | '-' :: text => (true, text)
  | '+' :: text => (false, text)
  | text => (false, text)

/-- `AString::ToInt32` with its flag: an optional sign and digits behind leading white space, of
a number that fits. -/
def toInt32? (s : Chars) : Option Int :=
  let number := readSign (stripLeading (cString s))
  if s ≠ [] ∧ cString s = [] then some 0
  else if number.2 = [] ∨ !number.2.all isDigit then none
  else
    let value : Int := if number.1 then -(digitsToNat number.2 : Int) else digitsToNat number.2
    if -2 ^ 31 ≤ value ∧ value < 2 ^ 31 then some value else none

/-- `AString::ToInt32`: zero where the flag is false. -/
def toInt32 (s : Chars) : Int := (toInt32? s).getD 0

/-- `AString::ToUInt32` with its flag; a minus sign is not accepted. -/
def toUInt32? (s : Chars) : Option Nat :=
  let number := readSign (stripLeading (cString s))
  if s ≠ [] ∧ cString s = [] then some 0
  else if number.1 ∨ number.2 = [] ∨ !number.2.all isDigit then none
  else if digitsToNat number.2 < 2 ^ 32 then some (digitsToNat number.2) else none

def toUInt32 (s : Chars) : Nat := (toUInt32? s).getD 0

def hexDigit? (c : Char) : Option Nat :=
  if '0' ≤ c ∧ c ≤ '9' then some (c.toNat - '0'.toNat)
  else if 'a' ≤ c ∧ c ≤ 'f' then some (c.toNat - 'a'.toNat + 10)
  else if 'A' ≤ c ∧ c ≤ 'F' then some (c.toNat - 'A'.toNat + 10)
  else none

/-- `AString::ToUInt32` of a hexadecimal number, with its flag. -/
def hexToUInt32? (s : Chars) : Option Nat :=
  let number := readSign (stripLeading (cString s))
  let text := match number.2 with
    | '0' :: 'x' :: text => text
    | '0' :: 'X' :: text => text
    | text => text
  if s ≠ [] ∧ cString s = [] then some 0
  else if number.1 ∨ text = [] then none
  else do
    let digits ← text.mapM hexDigit?
    let value := digits.foldl (fun value digit => value * 16 + digit) 0
    if value < 2 ^ 32 then some value else none

/-- `AString::SetNumber`. -/
def setNumber (n : Int) : Chars :=
  if n < 0 then '-' :: Nat.toDigits 10 n.natAbs else Nat.toDigits 10 n.natAbs

end ImsStack.Platform.AString
