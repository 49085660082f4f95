import ImsStack.Platform.AString

/-!
Strings that may be null.  `AString` keeps a null string and an empty one apart, and some of its
operations give a null string where others give an empty one.
-/

namespace ImsStack.Platform

open AString

/-- An `AString`; `none` where it is null. -/
abbrev NullString := Option Chars

namespace NullString

/-- `GetStr`. -/
def chars (s : NullString) : Chars := s.getD []

def length (s : NullString) : Nat := s.chars.length

def equals (s t : NullString) : Bool := s.isSome == t.isSome && AString.equals s.chars t.chars

def equalsIgnoreCase (s t : NullString) : Bool :=
  s.isSome == t.isSome && s.length == t.length &&
    AString.equalsIgnoreCase (cString s.chars) (cString t.chars)

/-- `EqualsIgnoreCase` of a literal. -/
def equalsIgnoreCaseLiteral (s : NullString) (literal : String) : Bool :=
  AString.equalsIgnoreCaseLiteral s.chars literal

/-- `Equals` of one character. -/
def equalsChar (s : NullString) (c : Char) : Bool := s.chars == [c]

/-- `Contains` of a literal. -/
def contains (s : NullString) (literal : String) : Bool :=
  s.chars.tails.any fun tail => literal.toList.isPrefixOf tail

def toInt32 (s : NullString) : Int := AString.toInt32 s.chars

/-- The tokens of a string that is not empty.  What `Mid` returns behind a separator at the end is
null. -/
def tokens (sep : Char) : List Chars → List NullString
  | [] => []
  | [last] => [if last = [] then none else some (strip last)]
  | piece :: pieces => some (strip piece) :: tokens sep pieces

def split (sep : Char) : NullString → List NullString
  | none => []
  | some [] => [some []]
  | some s => tokens sep (s.splitOn sep)

example : split ',' (some ['1', ',', ' ', ',']) = [some ['1'], some [], none] := by decide

end NullString

end ImsStack.Platform
