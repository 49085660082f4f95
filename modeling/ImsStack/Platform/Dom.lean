import ImsStack.Platform.AString

/-!
The document tree that `DocumentBuilder` makes of an XML text: elements with their attributes
and text nodes; comments and blank text are not in it.  Strings are taken over from C strings.
-/

namespace ImsStack.Platform

open AString (Chars)

inductive DomNode where
  | element (name : Chars) (attributes : List (Chars × Chars)) (children : List DomNode)
  | text (content : Chars)

namespace DomNode

def isElement : DomNode → Bool
  | .element _ _ _ => true
  | .text _ => false

/-- A text node has the name "text". -/
def getLocalName : DomNode → Chars
  | .element name _ _ => AString.cString name
  | .text _ => "text".toList

def getAttributes : DomNode → List (Chars × Chars)
  | .element _ attributes _ => attributes
  | .text _ => []

def children : DomNode → List DomNode
  | .element _ _ children => children
  | .text _ => []

/-- `NamedNodeMap::GetNamedItem`, with the value of the attribute found. -/
def getNamedItem (node : DomNode) (name : String) : Option Chars :=
  (node.getAttributes.find? fun item => AString.equalsIgnoreCaseLiteral item.1 name).map
    fun item => AString.cString item.2

/-- `GetAttribute`; it is null without the attribute. -/
def getAttribute (node : DomNode) (name : String) : Chars :=
  (node.getNamedItem name).getD []

/-- `GetElementsByTagName`: the children, not the descendants. -/
def getElementsByTagName (node : DomNode) (name : String) : List DomNode :=
  node.children.filter fun child => child.isElement && child.getLocalName == name.toList

/-- The value of a text node, without white space at its ends. -/
def getNodeValue : DomNode → Chars
  | .element _ _ _ => []
  | .text content => AString.strip (AString.cString content)

def hasName (node : DomNode) (name : String) : Bool :=
  AString.equalsIgnoreCaseLiteral node.getLocalName name

end DomNode

end ImsStack.Platform
