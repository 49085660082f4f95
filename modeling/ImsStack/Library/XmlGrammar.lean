import Mathlib.Data.List.Basic
import Mathlib.Data.List.Infix

/-!
The grammar of XML 1.0, for documents without a document type declaration: a parser that gives
the tree of a well-formed document and nothing for any other text.  It reads the document token
by token and then matches the tags.  Processing instructions are passed over.
-/

namespace ImsStack.Library.Xml

abbrev Text := List Char

section Characters

/-- Production 2, `Char`; a character of Lean is no surrogate. -/
def isChar (c : Char) : Bool :=
  c == '\t' || c == '\n' || c == '\r' ||
    (decide (0x20 ≤ c.toNat) && c.toNat != 0xFFFE && c.toNat != 0xFFFF)

/-- Production 3, `S`. -/
def isSpace (c : Char) : Bool := c == ' ' || c == '\t' || c == '\r' || c == '\n'

def inRange (c : Char) (low high : Nat) : Bool := decide (low ≤ c.toNat ∧ c.toNat ≤ high)

/-- Production 4, `NameStartChar`. -/
def isNameStartChar (c : Char) : Bool :=
  c == ':' || inRange c 0x41 0x5A || c == '_' || inRange c 0x61 0x7A || inRange c 0xC0 0xD6 ||
    inRange c 0xD8 0xF6 || inRange c 0xF8 0x2FF || inRange c 0x370 0x37D ||
    inRange c 0x37F 0x1FFF || inRange c 0x200C 0x200D || inRange c 0x2070 0x218F ||
    inRange c 0x2C00 0x2FEF || inRange c 0x3001 0xD7FF || inRange c 0xF900 0xFDCF ||
    inRange c 0xFDF0 0xFFFD || inRange c 0x10000 0xEFFFF

/-- Production 4a, `NameChar`. -/
def isNameChar (c : Char) : Bool :=
  isNameStartChar c || c == '-' || c == '.' || inRange c 0x30 0x39 || c.toNat == 0xB7 ||
    inRange c 0x300 0x36F || inRange c 0x203F 0x2040

/-- Production 5, `Name`. -/
def isName : Text → Bool
  | [] => false
  | c :: rest => isNameStartChar c && rest.all isNameChar

/-- Section 2.11: a line ends in one line feed, whatever ends it in the text. -/
def normalizeLineEnds : Text → Text
  | [] => []
  | '\r' :: '\n' :: rest => '\n' :: normalizeLineEnds rest
  | '\r' :: rest => '\n' :: normalizeLineEnds rest
  | c :: rest => c :: normalizeLineEnds rest

/-- Section 3.3.3: white space in the value of an attribute is a space. -/
def normalizeSpace (c : Char) : Char := if isSpace c then ' ' else c

end Characters

section References

def digitValue? (base : Nat) (c : Char) : Option Nat :=
  let value :=
    if inRange c 0x30 0x39 then c.toNat - 0x30
    else if inRange c 0x41 0x46 then c.toNat - 0x41 + 10
    else if inRange c 0x61 0x66 then c.toNat - 0x61 + 10
    else base
  if value < base then some value else none

/-- The character that a number in digits stands for. -/
def charOfDigits (base : Nat) (digits : Text) : Option Char := do
  let values ← digits.mapM (digitValue? base)
  let n := values.foldl (fun n value => n * base + value) 0
  if digits ≠ [] ∧ n.isValidChar ∧ isChar (Char.ofNat n) then some (Char.ofNat n) else none

/-- What stands between the `&` and the semicolon of a reference: a character reference
(production 66) or an entity of section 4.6. -/
def referred : Text → Option Char
  | '#' :: 'x' :: digits => charOfDigits 16 digits
  | '#' :: digits => charOfDigits 10 digits
  | name =>
    if name = "lt".toList then some '<'
    else if name = "gt".toList then some '>'
    else if name = "amp".toList then some '&'
    else if name = "apos".toList then some '\x27'
    else if name = "quot".toList then some '"'
    else none

/-- A text with its references replaced; what is no reference goes through `f`. -/
def expand (f : Char → Char) : Nat → Text → Option Text
  | _, [] => some []
  | 0, _ :: _ => none
  | fuel + 1, c :: rest =>
    if c = '&' then do
      let d ← referred (rest.takeWhile (· ≠ ';'))
      let others ← expand f fuel ((rest.dropWhile (· ≠ ';')).drop 1)
      if ';' ∈ rest then some (d :: others) else none
    else (expand f fuel rest).map (f c :: ·)

end References

/-- The pieces of a document; a text that is `literal` is written without references. -/
inductive Token where
  | startTag (name : Text) (attributes : List (Text × Text))
  | emptyTag (name : Text) (attributes : List (Text × Text))
  | endTag (name : Text)
  | text (literal : Bool) (data : Text)
  | comment (data : Text)
  | instruction
  deriving DecidableEq, Repr

section Lexer

def lexName (text : Text) : Option (Text × Text) :=
  if isName (text.takeWhile isNameChar) then
    some (text.takeWhile isNameChar, text.dropWhile isNameChar)
  else none

/-- Production 10, `AttValue`. -/
def lexValue : Text → Option (Text × Text)
  | [] => none
  | quote :: rest =>
    let raw := rest.takeWhile (· ≠ quote)
    if (quote = '"' ∨ quote = '\x27') ∧ quote ∈ rest ∧ '<' ∉ raw then
      (expand normalizeSpace raw.length raw).map
        fun value => (value, (rest.dropWhile (· ≠ quote)).drop 1)
    else none

/-- Attributes with the white space in front of each, and the text behind them without white
space in front. -/
def lexAttributes : Nat → Text → Option (List (Text × Text) × Text)
  | 0, _ => none
  | fuel + 1, text =>
    let rest := text.dropWhile isSpace
    if text.head?.any isSpace && rest.head?.any isNameStartChar then do
      let (name, rest) ← lexName rest
      let rest := rest.dropWhile isSpace
      if rest.head? = some '=' then do
        let (value, rest) ← lexValue ((rest.drop 1).dropWhile isSpace)
        let (attributes, rest) ← lexAttributes fuel rest
        some ((name, value) :: attributes, rest)
      else none
    else some ([], rest)

/-- Productions 40 and 44, with the constraint that no attribute is there twice. -/
def lexTag (text : Text) : Option (Token × Text) := do
  let (name, rest) ← lexName text
  let (attributes, rest) ← lexAttributes (rest.length + 1) rest
  if ¬(attributes.map Prod.fst).Nodup then none
  else if rest.head? = some '>' then some (.startTag name attributes, rest.drop 1)
  else if "/>".toList.isPrefixOf rest then some (.emptyTag name attributes, rest.drop 2)
  else none

/-- Production 42, `ETag`. -/
def lexEndTag (text : Text) : Option (Token × Text) := do
  let (name, rest) ← lexName text
  let rest := rest.dropWhile isSpace
  if rest.head? = some '>' then some (.endTag name, rest.drop 1) else none

/-- Production 15 behind `<!--`: no two hyphens but at the end. -/
def lexComment : Text → Option (Text × Text)
  | [] => none
  | c :: rest =>
    if c = '-' ∧ rest.head? = some '-' then
      if rest.tail.head? = some '>' then some ([], rest.drop 2) else none
    else (lexComment rest).map fun (data, rest) => (c :: data, rest)

/-- Production 20 behind `<![CDATA[`. -/
def lexSection : Text → Option (Text × Text)
  | [] => none
  | c :: rest =>
    if "]]>".toList.isPrefixOf (c :: rest) then some ([], rest.drop 2)
    else (lexSection rest).map fun (data, rest) => (c :: data, rest)

/-- Production 16 behind `<?`: the target is a name, and not that of the declaration. -/
def lexInstruction (text : Text) : Option (Token × Text) := do
  let (target, rest) ← lexName text
  if target.map Char.toLower = "xml".toList then none
  else if !(rest.head?.any isSpace || "?>".toList.isPrefixOf rest) then none
  else
    let tail ← rest.tails.find? fun tail => "?>".toList.isPrefixOf tail
    some (.instruction, tail.drop 2)

/-- Production 14, `CharData`, and the references between. -/
def lexData (text : Text) : Option (Token × Text) :=
  let raw := text.takeWhile (· ≠ '<')
  if "]]>".toList <:+: raw then none
  else (expand id raw.length raw).map
    fun data => (.text (!raw.contains '&') data, text.dropWhile (· ≠ '<'))

/-- What follows a `<`. -/
def lexMarkup (text : Text) : Option (Token × Text) :=
  if text.head? = some '/' then lexEndTag (text.drop 1)
  else if "!--".toList.isPrefixOf text then
    (lexComment (text.drop 3)).map fun (data, rest) => (.comment data, rest)
  else if "![CDATA[".toList.isPrefixOf text then
    (lexSection (text.drop 8)).map fun (data, rest) => (.text false data, rest)
  else if text.head? = some '?' then lexInstruction (text.drop 1)
  else lexTag text

def lexToken : Text → Option (Token × Text)
  | [] => none
  | c :: rest => if c = '<' then lexMarkup rest else lexData (c :: rest)

def lex : Nat → Text → Option (List Token)
  | _, [] => some []
  | 0, _ :: _ => none
  | fuel + 1, c :: text => do
    let (token, rest) ← lexToken (c :: text)
    let tokens ← lex fuel rest
    some (token :: tokens)

end Lexer

/-- The content of an element. -/
inductive Node where
  | element (name : Text) (attributes : List (Text × Text)) (children : List Node)
  | text (data : Text)
  | comment (data : Text)

/-- An element whose end has not been read. -/
structure Open where
  name : Text
  attributes : List (Text × Text)
  children : List Node

namespace Open

def add (o : Open) (node : Node) : Open := { o with children := o.children ++ [node] }

/-- Text behind text is one text; an empty one is none. -/
def addText (o : Open) (data : Text) : Open :=
  if data = [] then o
  else
    match o.children.getLast? with
    | some (.text before) =>
      { o with children := o.children.dropLast ++ [.text (before ++ data)] }
    | _ => o.add (.text data)

def close (o : Open) : Node := .element o.name o.attributes o.children

end Open

/-- A document as far as it has been read: the elements that are open, innermost first, and the
root once it is closed. -/
structure Assembly where
  opened : List Open
  root : Option Node

namespace Assembly

def empty : Assembly := ⟨[], none⟩

/-- A complete element is a child of the innermost open one, or the root. -/
def addElement (node : Node) (a : Assembly) : Option Assembly :=
  match a.opened with
  | o :: others => some { a with opened := o.add node :: others }
  | [] => if a.root.isNone then some { a with root := some node } else none

def start (name : Text) (attributes : List (Text × Text)) (a : Assembly) : Option Assembly :=
  if a.opened.isEmpty && a.root.isSome then none
  else some { a with opened := ⟨name, attributes, []⟩ :: a.opened }

def finish (name : Text) (a : Assembly) : Option Assembly :=
  match a.opened with
  | o :: others => if o.name = name then addElement o.close { a with opened := others } else none
  | [] => none

/-- Outside the root there is no text but white space. -/
def addText (literal : Bool) (data : Text) (a : Assembly) : Option Assembly :=
  match a.opened with
  | o :: others => some { a with opened := o.addText data :: others }
  | [] => if literal && data.all isSpace then some a else none

/-- A comment outside the root is passed over. -/
def addComment (data : Text) (a : Assembly) : Assembly :=
  match a.opened with
  | o :: others => { a with opened := o.add (.comment data) :: others }
  | [] => a

def step (a : Assembly) : Token → Option Assembly
  | .startTag name attributes => a.start name attributes
  | .emptyTag name attributes => a.addElement (.element name attributes [])
  | .endTag name => a.finish name
  | .text literal data => a.addText literal data
  | .comment data => some (a.addComment data)
  | .instruction => some a

def run (a : Assembly) (tokens : List Token) : Option Assembly := tokens.foldlM step a

/-- The root of a document that has been read to its end. -/
def complete (a : Assembly) : Option Node := if a.opened.isEmpty then a.root else none

end Assembly

section Documents

/-- Production 26, `VersionNum`. -/
def isVersion (s : Text) : Bool :=
  "1.".toList.isPrefixOf s && decide (2 < s.length) && (s.drop 2).all fun c => inRange c 0x30 0x39

/-- Production 81, `EncName`. -/
def isEncoding : Text → Bool
  | [] => false
  | c :: rest =>
    (inRange c 0x41 0x5A || inRange c 0x61 0x7A) && rest.all fun c =>
      inRange c 0x41 0x5A || inRange c 0x61 0x7A || inRange c 0x30 0x39 || c == '.' || c == '_' ||
        c == '-'

/-- What the declaration of a document may say: the version, then the encoding and whether it
stands alone. -/
def isDeclaration : List (Text × Text) → Bool
  | (name, version) :: rest =>
    name == "version".toList && isVersion version &&
      match rest with
      | [] => true
      | [(name, value)] =>
        (name == "encoding".toList && isEncoding value) ||
          (name == "standalone".toList && (value == "yes".toList || value == "no".toList))
      | [(name, value), (second, other)] =>
        name == "encoding".toList && isEncoding value && second == "standalone".toList &&
          (other == "yes".toList || other == "no".toList)
      | _ => false
  | [] => false

/-- The text behind the XML declaration, production 23, which may be missing. -/
def dropDeclaration (text : Text) : Option Text :=
  if "<?xml".toList.isPrefixOf text ∧ (text.drop 5).head?.any isSpace then do
    let (attributes, rest) ← lexAttributes (text.length + 1) (text.drop 5)
    if isDeclaration attributes ∧ "?>".toList.isPrefixOf rest then some (rest.drop 2) else none
  else some text

/-- The tree of a well-formed document. -/
def parseDocument (document : Text) : Option Node :=
  let text := normalizeLineEnds document
  if text.all isChar then do
    let text ← dropDeclaration text
    let tokens ← lex text.length text
    let a ← Assembly.run .empty tokens
    a.complete
  else none

end Documents

end ImsStack.Library.Xml
