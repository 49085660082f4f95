import ImsStack.Library.KeyedStore
import ImsStack.Platform.AString

/-!
Feature tags of a contact: `Feature`, `FeatureSet` and `CallerCapability`, and what `RegContact`
keeps of the capabilities of its services.  Allocations succeed.
-/

namespace ImsStack.Capability

open KeyedStore (updateFirst)
open Platform
open Platform.AString (Chars)

/-- What `AString::EqualsIgnoreCase` compares of two strings. -/
def foldText (s : Chars) : Nat × Chars := (s.length, (AString.cString s).map AString.toLower)

/-- What `AString::Equals` compares of two strings. -/
def exactText (s : Chars) : Nat × Chars := (s.length, AString.cString s)

inductive FeatureType where
  | none | boolean | tokenNobang | stringValue | numeric | iari | icsi
  deriving DecidableEq, Repr

structure Feature where
  nType : FeatureType
  bCaseSensitivity : Bool
  strTag : Chars
  strValue : Chars
  deriving DecidableEq, Repr

namespace Feature

def baseTags : List String :=
  ["audio", "application", "data", "control", "video", "text", "automata", "class", "duplex",
    "mobility", "description", "events", "priority", "methods", "extensions", "schemes", "actor",
    "isfocus", "language", "type"]

def isBaseTag (strName : Chars) : Bool :=
  let strTemp := strName.map AString.toLower
  if "+".toList.isPrefixOf strTemp then false
  else if "sip.".toList.isPrefixOf strTemp then
    baseTags.any fun tag => tag.toList.isSuffixOf strTemp
  else baseTags.any fun tag => AString.equalsLiteral strTemp tag

/-- What follows the first dot. -/
def stripPrefixInSipTree (strName : Chars) : Chars :=
  if '.' ∈ strName then (strName.dropWhile (· ≠ '.')).drop 1 else strName

def trimDquot (strValue : Chars) : Chars :=
  if "\"".toList.isPrefixOf strValue ∧ "\"".toList.isSuffixOf strValue then
    (strValue.drop 1).take (strValue.length - 2)
  else strValue

def hexStringToChar? : Chars → Option Char
  | [first, second] => do
      let first ← AString.hexDigit? first
      let second ← AString.hexDigit? second
      return Char.ofNat (first * 16 + second)
  | _ => Option.none

/-- `DoPercentDecoding`; the number counts the digits that are passed over. -/
def doPercentDecoding : Nat → Chars → Chars
  | _, [] => []
  | skip + 1, _ :: rest => doPercentDecoding skip rest
  | 0, c :: rest =>
      if c ≠ '%' then c :: doPercentDecoding 0 rest
      else
        match hexStringToChar? (rest.take 2) with
        | some ch => ch :: doPercentDecoding 2 rest
        | Option.none => '%' :: rest.take 2 ++ doPercentDecoding 2 rest

/-- `ExtractProperties` of what `SplitF` finds: a tag, and a value behind an equal sign. -/
def ofTagAndValue (strTag : Chars) (strValue? : Option Chars) : Feature :=
  let strValue := match strValue? with
    | Option.none => []
    | some strValue => trimDquot strValue
  let bString := strValue?.isSome && "<".toList.isPrefixOf strValue && ">".toList.isSuffixOf strValue
  let nType : FeatureType :=
    if strValue?.isNone || AString.equalsIgnoreCaseLiteral strValue "true" ||
        AString.equalsIgnoreCaseLiteral strValue "false" then .boolean
    else if bString then .stringValue
    else if "!#".toList.isPrefixOf strValue || "#".toList.isPrefixOf strValue then .numeric
    else .tokenNobang
  let feature : Feature :=
    if isBaseTag strTag then ⟨nType, bString, stripPrefixInSipTree strTag, strValue⟩
    else if AString.equalsIgnoreCaseLiteral strTag "+g.3gpp.iari-ref" then
      ⟨.iari, bString, strTag, doPercentDecoding 0 strValue⟩
    else if AString.equalsIgnoreCaseLiteral strTag "+g.3gpp.icsi-ref" then
      ⟨.icsi, bString, strTag, doPercentDecoding 0 strValue⟩
    else ⟨nType, bString, strTag, strValue⟩
  { feature with
    bCaseSensitivity :=
      feature.bCaseSensitivity || AString.equalsIgnoreCaseLiteral feature.strTag "methods" }

def extractProperties (strFeature : Chars) : Feature :=
  if strFeature = [] then ⟨.none, false, [], []⟩
  else if '=' ∈ strFeature then
    ofTagAndValue (AString.strip (strFeature.takeWhile (· ≠ '=')))
      (some (AString.strip ((strFeature.dropWhile (· ≠ '=')).drop 1)))
  else ofTagAndValue (AString.strip strFeature) Option.none

/-- The constructor from a tag and a value, which is empty for a tag alone. -/
def new (strTag strValue : Chars) : Feature :=
  if strValue = [] then extractProperties strTag
  else extractProperties (strTag ++ '=' :: strValue)

def equals (feature other : Feature) : Bool :=
  if feature.nType ≠ other.nType then false
  else if foldText feature.strTag ≠ foldText other.strTag then false
  else if feature.nType = .boolean then
    if feature.strValue = [] ∧ other.strValue = [] then true
    else if feature.bCaseSensitivity ∧ other.bCaseSensitivity then
      decide ((feature.strValue = [] ∧ AString.equalsLiteral other.strValue "true") ∨
        (other.strValue = [] ∧ AString.equalsLiteral feature.strValue "true") ∨
        exactText feature.strValue = exactText other.strValue)
    else
      decide ((feature.strValue = [] ∧ AString.equalsIgnoreCaseLiteral other.strValue "true") ∨
        (other.strValue = [] ∧ AString.equalsIgnoreCaseLiteral feature.strValue "true") ∨
        foldText feature.strValue = foldText other.strValue)
  else if feature.bCaseSensitivity then
    decide (exactText feature.strValue = exactText other.strValue)
  else decide (foldText feature.strValue = foldText other.strValue)

def isTagOnly (feature : Feature) : Bool :=
  decide (feature.nType = .boolean ∨ feature.strValue = [])

/-- The feature that `AddFeature` and `RemoveFeature` make again of the tag and value of one. -/
def again (feature : Feature) : Feature :=
  if feature.isTagOnly then new feature.strTag [] else new feature.strTag feature.strValue

end Feature

/-- A feature of a set with its number of references. -/
structure CountedFeature where
  feature : Feature
  nRefCount : Nat
  deriving DecidableEq, Repr

namespace CountedFeature

def isShared (counted : CountedFeature) : Bool := decide (counted.nRefCount > 1)

def addReference (counted : CountedFeature) : CountedFeature :=
  { counted with nRefCount := counted.nRefCount + 1 }

def removeReference (counted : CountedFeature) : CountedFeature :=
  { counted with nRefCount := counted.nRefCount - 1 }

end CountedFeature

structure FeatureSet where
  strTag : Chars
  objFeatures : List CountedFeature
  deriving DecidableEq, Repr

inductive FeatureSetOp where
  | fail | add | addRef | remove | removeRef
  deriving DecidableEq, Repr

namespace FeatureSet

def new (strTag : Chars) : FeatureSet := ⟨strTag, []⟩

def lookup (set : FeatureSet) (feature : Feature) : Option CountedFeature :=
  set.objFeatures.find? fun counted => counted.feature.equals feature

def add (set : FeatureSet) (feature : Feature) : FeatureSet × FeatureSetOp :=
  if foldText set.strTag ≠ foldText feature.strTag then (set, .fail)
  else
    match set.lookup feature with
    | some _ =>
        ({ set with
          objFeatures := updateFirst (fun counted => counted.feature.equals feature)
            CountedFeature.addReference set.objFeatures }, .addRef)
    | none => ({ set with objFeatures := set.objFeatures ++ [⟨feature, 1⟩] }, .add)

def remove (set : FeatureSet) (feature : Feature) : FeatureSet × FeatureSetOp :=
  if foldText set.strTag ≠ foldText feature.strTag then (set, .fail)
  else
    match set.lookup feature with
    | none => (set, .fail)
    | some counted =>
        if counted.isShared then
          ({ set with
            objFeatures := updateFirst (fun counted => counted.feature.equals feature)
              CountedFeature.removeReference set.objFeatures }, .removeRef)
        else
          ({ set with
            objFeatures :=
              set.objFeatures.eraseP fun counted => counted.feature.equals feature }, .remove)

end FeatureSet

structure CallerCapability where
  nId : Nat
  objContactFeatures : List FeatureSet
  deriving DecidableEq, Repr

namespace CallerCapability

def hasTag (strTag : Chars) (set : FeatureSet) : Bool :=
  decide (foldText set.strTag = foldText strTag)

def lookup (cc : CallerCapability) (strTag : Chars) : Option FeatureSet :=
  cc.objContactFeatures.find? (hasTag strTag)

/-- `AddFeature` of a tag, with the feature made of it and its value; the second component is
whether it is `FEATURE_CHANGED`. -/
def addFeature (cc : CallerCapability) (strTag : Chars) (feature : Feature) :
    CallerCapability × Bool :=
  match cc.lookup strTag with
  | some set =>
      ({ cc with
        objContactFeatures :=
          updateFirst (hasTag strTag) (fun set => (set.add feature).1) cc.objContactFeatures },
        decide ((set.add feature).2 = .add))
  | none =>
      -- `Attach`; whether the new set takes the feature is not looked at.
      ({ cc with
        objContactFeatures :=
          cc.objContactFeatures ++ [((FeatureSet.new strTag).add feature).1] }, true)

/-- `RemoveFeature`, likewise. -/
def removeFeature (cc : CallerCapability) (strTag : Chars) (feature : Feature) :
    CallerCapability × Bool :=
  match cc.lookup strTag with
  | none => (cc, false)
  | some set =>
      let removed := set.remove feature
      if removed.2 = .remove ∧ removed.1.objFeatures = [] then
        ({ cc with objContactFeatures := cc.objContactFeatures.eraseP (hasTag strTag) }, true)
      else
        ({ cc with
          objContactFeatures :=
            updateFirst (hasTag strTag) (fun set => (set.remove feature).1)
              cc.objContactFeatures },
          decide (removed.2 = .remove))

def features (cc : CallerCapability) : List Feature :=
  cc.objContactFeatures.flatMap fun set => set.objFeatures.map CountedFeature.feature

def addFeatures (cc pCc : CallerCapability) : CallerCapability × Bool :=
  pCc.features.foldl (fun result feature =>
    let added := result.1.addFeature feature.strTag feature.again
    (added.1, result.2 || added.2)) (cc, false)

/-- `RemoveFeatures` with `bRemoveRef`. -/
def removeFeatures (cc pCc : CallerCapability) : CallerCapability × Bool :=
  pCc.features.foldl (fun result feature =>
    let removed := result.1.removeFeature feature.strTag feature.again
    (removed.1, result.2 || removed.2)) (cc, false)

/-- The capability of a service with the tags and values that it is given. -/
def create (nId : Nat) (given : List (Chars × Chars)) : CallerCapability :=
  given.foldl (fun cc tagAndValue =>
    (cc.addFeature tagAndValue.1 (Feature.new tagAndValue.1 tagAndValue.2)).1) ⟨nId, []⟩

def equals (cc pCc : CallerCapability) : Bool := decide (cc.nId = pCc.nId)

end CallerCapability

structure RegContact where
  bBindingsUpdateTracker : Bool
  pAllCapabilities : CallerCapability
  objCallerCapabilities : List CallerCapability
  deriving DecidableEq, Repr

namespace RegContact

def new : RegContact := ⟨true, ⟨0xFFFFFFFF, []⟩, []⟩

def registerServiceCapability (contact : RegContact) (pCc : CallerCapability) :
    List CallerCapability :=
  if contact.objCallerCapabilities.any fun cc => cc.equals pCc then contact.objCallerCapabilities
  else contact.objCallerCapabilities ++ [pCc]

/-- The loop goes on at the next index after the removal. -/
def unregisterServiceCapability (pCc : CallerCapability) :
    List CallerCapability → List CallerCapability
  | [] => []
  | cc :: rest =>
      if cc.equals pCc then
        match rest with
        | [] => []
        | skipped :: rest => skipped :: unregisterServiceCapability pCc rest
      else cc :: unregisterServiceCapability pCc rest

def addCallerCapability (contact : RegContact) (pCc : CallerCapability) : RegContact :=
  let added := contact.pAllCapabilities.addFeatures pCc
  { bBindingsUpdateTracker := contact.bBindingsUpdateTracker || added.2
    pAllCapabilities := added.1
    objCallerCapabilities := contact.registerServiceCapability pCc }

def removeCallerCapability (contact : RegContact) (pCc : CallerCapability) : RegContact :=
  let removed := contact.pAllCapabilities.removeFeatures pCc
  { bBindingsUpdateTracker := contact.bBindingsUpdateTracker || removed.2
    pAllCapabilities := removed.1
    objCallerCapabilities := unregisterServiceCapability pCc contact.objCallerCapabilities }

/-- `AddService` with the capability that is found for the service, if any. -/
def addService (contact : RegContact) (pCc : Option CallerCapability) : RegContact :=
  match pCc with
  | none => contact
  | some pCc => contact.addCallerCapability pCc

/-- `RemoveService`; without a capability nothing is equal to it and nothing is removed. -/
def removeService (contact : RegContact) (pCc : Option CallerCapability) : RegContact :=
  match pCc with
  | none => contact
  | some pCc => contact.removeCallerCapability pCc

end RegContact

end ImsStack.Capability
