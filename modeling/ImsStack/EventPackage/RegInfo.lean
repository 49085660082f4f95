import ImsStack.Platform.Dom

/-!
Registration event documents: `RegInfo`, `RegInfoRegistration` and `RegInfoContact`.  An update
is none where the source reads through a null pointer.
-/

namespace ImsStack.EventPackage

open Platform
open Platform.AString (Chars)

universe u

/-- `SipAddress`: the address without a value, and what `Create` makes of an address and a
text, also where it fails. -/
structure SipAddressClass (A : Type u) where
  blank : A
  create : A → Chars → A × Bool

namespace RegInfo

inductive RegistrationState where
  | created | init | active | terminated
  deriving DecidableEq, Repr

inductive ContactState where
  | created | active | terminated
  deriving DecidableEq, Repr

inductive ContactEvent where
  | registered | created | refreshed | shortened | expired | deactivated | probation
  | unregistered | rejected
  deriving DecidableEq, Repr

structure TempGruu where
  strGruu : Chars
  nFirstCSeq : Nat
  deriving DecidableEq, Repr

def registrationState? (strState : Chars) : Option RegistrationState :=
  if AString.equalsIgnoreCaseLiteral strState "init" then some .init
  else if AString.equalsIgnoreCaseLiteral strState "active" then some .active
  else if AString.equalsIgnoreCaseLiteral strState "terminated" then some .terminated
  else none

def contactState? (strState : Chars) : Option ContactState :=
  if AString.equalsIgnoreCaseLiteral strState "active" then some .active
  else if AString.equalsIgnoreCaseLiteral strState "terminated" then some .terminated
  else none

def contactEvent? (strEvent : Chars) : Option ContactEvent :=
  if AString.equalsIgnoreCaseLiteral strEvent "registered" then some .registered
  else if AString.equalsIgnoreCaseLiteral strEvent "created" then some .created
  else if AString.equalsIgnoreCaseLiteral strEvent "refreshed" then some .refreshed
  else if AString.equalsIgnoreCaseLiteral strEvent "shortened" then some .shortened
  else if AString.equalsIgnoreCaseLiteral strEvent "expired" then some .expired
  else if AString.equalsIgnoreCaseLiteral strEvent "deactivated" then some .deactivated
  else if AString.equalsIgnoreCaseLiteral strEvent "probation" then some .probation
  else if AString.equalsIgnoreCaseLiteral strEvent "unregistered" then some .unregistered
  else if AString.equalsIgnoreCaseLiteral strEvent "rejected" then some .rejected
  else none

/-- Whether a stored id, none where it is null, equals the "id" of a node of this name. -/
def equalsById (strId : Option Chars) (name : String) (node : DomNode) : Bool :=
  node.hasName name &&
    match strId, node.getNamedItem "id" with
    | some strId, some nodeId => AString.equalsIgnoreCase strId nodeId
    | _, _ => false

/-- The number of an attribute, where there is one. -/
def numberItem? (node : DomNode) (name : String) : Option Nat :=
  (node.getNamedItem name).bind AString.toUInt32?

/-- `ImsMap::SetValue`; the order of the keys is not read. -/
def setValue (strName strValue : Chars) : List (Chars × Chars) → List (Chars × Chars)
  | [] => [(strName, strValue)]
  | item :: rest =>
      if item.1 = strName then (strName, strValue) :: rest else item :: setValue strName strValue rest

/-- `AString::Replace` of all occurrences; the number counts the rest of one. -/
def replaceAll (text : Chars) (becomes : Char) : Nat → Chars → Chars
  | _, [] => []
  | skip + 1, _ :: rest => replaceAll text becomes skip rest
  | 0, c :: rest =>
      if text.isPrefixOf (c :: rest) then
        becomes :: replaceAll text becomes (text.length - 1) rest
      else c :: replaceAll text becomes 0 rest

/-- The value of an "unknown-param" element. -/
def unknownParameterValue (node : DomNode) : Chars :=
  match node.children.head? with
  | none => []
  | some content =>
      if content.getNodeValue.tails.any "&lt;".toList.isPrefixOf then
        replaceAll "&gt;".toList '>' 0 (replaceAll "&lt;".toList '<' 0 content.getNodeValue)
      else content.getNodeValue

end RegInfo

open RegInfo

structure RegInfoContact (A : Type u) where
  objUri : A
  strId : Option Chars
  nState : ContactState
  nEvent : ContactEvent
  nDurationRegistered : Nat
  nExpires : Nat
  nRetryAfter : Nat
  strDisplayName : Chars
  strQValue : Chars
  strCallId : Chars
  nCSeq : Nat
  strPubGruu : Chars
  objTempGruu : TempGruu
  objUnknownParameters : List (Chars × Chars)
  deriving DecidableEq, Repr

namespace RegInfoContact

variable {A : Type u} (addresses : SipAddressClass A)

def new : RegInfoContact A :=
  ⟨addresses.blank, none, .created, .unregistered, 0, 0, 0, [], [], [], 0, [], ⟨[], 0⟩, []⟩

def equals (contact : RegInfoContact A) (node : DomNode) : Bool :=
  equalsById contact.strId "contact" node

def setUri (contact : RegInfoContact A) (node : DomNode) : RegInfoContact A :=
  match node.children.head? with
  | none => contact
  | some content =>
      { contact with objUri := (addresses.create contact.objUri content.getNodeValue).1 }

/-- The first child of the element is read without a check. -/
def setDisplayName (contact : RegInfoContact A) (node : DomNode) : Option (RegInfoContact A) :=
  node.children.head?.map fun content =>
    { contact with strDisplayName := content.getNodeValue }

def setUnknownParameter (contact : RegInfoContact A) (node : DomNode) : RegInfoContact A :=
  match node.getNamedItem "name" with
  | none => contact
  | some strName =>
      if strName = [] then contact
      else
        { contact with
          objUnknownParameters :=
            setValue strName (unknownParameterValue node) contact.objUnknownParameters }

def setPublicGruu (contact : RegInfoContact A) (node : DomNode) : RegInfoContact A :=
  match node.getNamedItem "uri" with
  | none => contact
  | some strUri => { contact with strPubGruu := strUri }

def setTemporaryGruu (contact : RegInfoContact A) (node : DomNode) : RegInfoContact A :=
  match node.getNamedItem "uri" with
  | none => contact
  | some strUri =>
      { contact with objTempGruu := ⟨strUri, (numberItem? node "first-cseq").getD 0⟩ }

/-- A child of a contact that is not known yet. -/
def takeChild (contact : RegInfoContact A) (child : DomNode) : Option (RegInfoContact A) :=
  if child.hasName "uri" then some (contact.setUri addresses child)
  else if child.hasName "display-name" then contact.setDisplayName child
  else if child.hasName "unknown-param" then some (contact.setUnknownParameter child)
  else if child.hasName "pub-gruu" then some (contact.setPublicGruu child)
  else if child.hasName "temp-gruu" then some (contact.setTemporaryGruu child)
  else some contact

/-- A child of a contact that is known. -/
def retakeChild (contact : RegInfoContact A) (child : DomNode) : Option (RegInfoContact A) :=
  if child.hasName "display-name" then contact.setDisplayName child
  else if child.hasName "pub-gruu" then some (contact.setPublicGruu child)
  else if child.hasName "temp-gruu" then some (contact.setTemporaryGruu child)
  else some contact

/-- From the "state" attribute on; a missing "state" or "event" ends it. -/
def setStateAndEvent (contact : RegInfoContact A) (node : DomNode) : RegInfoContact A :=
  match node.getNamedItem "state" with
  | none => contact
  | some strState =>
      let contact := { contact with nState := (contactState? strState).getD contact.nState }
      match node.getNamedItem "event" with
      | none => contact
      | some strEvent =>
          { contact with
            nEvent := (contactEvent? strEvent).getD contact.nEvent
            nCSeq := (numberItem? node "cseq").getD contact.nCSeq
            nDurationRegistered :=
              (numberItem? node "duration-registered").getD contact.nDurationRegistered
            nExpires := (numberItem? node "expires").getD contact.nExpires
            strQValue := (node.getNamedItem "q").getD contact.strQValue
            nRetryAfter := (numberItem? node "retry-after").getD contact.nRetryAfter }

/-- `RegInfoContact::Update`; whether it succeeds is not used by the callers. -/
def update (contact : RegInfoContact A) (node : DomNode) : Option (RegInfoContact A) :=
  if contact.nState = .created then
    match node.getNamedItem "id" with
    | none => some contact
    | some strId =>
        let contact := { contact with
          strId := some strId
          strCallId := (node.getNamedItem "callid").getD contact.strCallId }
        (node.children.foldlM (takeChild addresses) contact).map (·.setStateAndEvent node)
  else (node.children.foldlM retakeChild contact).map (·.setStateAndEvent node)

end RegInfoContact

/-- What `CheckNCreateRegistration` and `CheckNCreateContact` return, updated: the first entry
that equals the node, or a new one that is appended. -/
def RegInfo.checkNCreate {α : Type u} (new : α) (equals : α → DomNode → Bool)
    (update : α → DomNode → Option α) (node : DomNode) : List α → Option (List α)
  | [] => (update new node).map fun entry => [entry]
  | entry :: rest =>
      if equals entry node then (update entry node).map fun entry => entry :: rest
      else (checkNCreate new equals update node rest).map fun rest => entry :: rest

structure RegInfoRegistration (A : Type u) where
  objAor : A
  strId : Option Chars
  nState : RegistrationState
  objContacts : List (RegInfoContact A)
  deriving DecidableEq, Repr

namespace RegInfoRegistration

variable {A : Type u} (addresses : SipAddressClass A)

def new : RegInfoRegistration A := ⟨addresses.blank, none, .created, []⟩

def equals (registration : RegInfoRegistration A) (node : DomNode) : Bool :=
  equalsById registration.strId "registration" node

/-- Every child of the registration is taken as a contact. -/
def setContacts (objContacts : List (RegInfoContact A)) (nodes : List DomNode) :
    Option (List (RegInfoContact A)) :=
  nodes.foldlM (fun objContacts node =>
    checkNCreate (RegInfoContact.new addresses) RegInfoContact.equals
      (RegInfoContact.update addresses) node objContacts) objContacts

/-- From the "state" attribute on. -/
def setStateAndContacts (registration : RegInfoRegistration A) (node : DomNode) :
    Option (RegInfoRegistration A) :=
  match node.getNamedItem "state" with
  | none => some registration
  | some strState =>
      (setContacts addresses registration.objContacts node.children).map fun objContacts =>
        { registration with
          nState := (registrationState? strState).getD registration.nState
          objContacts := objContacts }

/-- `RegInfoRegistration::Update`; whether it succeeds is not used by the caller. -/
def update (registration : RegInfoRegistration A) (node : DomNode) :
    Option (RegInfoRegistration A) :=
  if registration.nState = .created then
    match node.getNamedItem "aor" with
    | none => some registration
    | some strAor =>
        let aor := addresses.create registration.objAor strAor
        let registration := { registration with objAor := aor.1 }
        if !aor.2 then some registration
        else
          match node.getNamedItem "id" with
          | none => some registration
          | some strId =>
              setStateAndContacts addresses { registration with strId := some strId } node
  else setStateAndContacts addresses registration node

end RegInfoRegistration

/-- What the listeners are told. -/
inductive RegInfoStatus where
  | refreshRequired | updated | updateFailed
  deriving DecidableEq, Repr

structure RegInfo (A : Type u) where
  bIsCreated : Bool
  nVersion : Nat
  objRegistrations : List (RegInfoRegistration A)
  deriving DecidableEq, Repr

namespace RegInfo

variable {A : Type u} (addresses : SipAddressClass A)

def new : RegInfo A := ⟨false, 0, []⟩

def updateRegistrations (objRegistrations : List (RegInfoRegistration A))
    (nodes : List DomNode) : Option (List (RegInfoRegistration A)) :=
  nodes.foldlM (fun objRegistrations node =>
    checkNCreate (RegInfoRegistration.new addresses) RegInfoRegistration.equals
      (RegInfoRegistration.update addresses) node objRegistrations) objRegistrations

/-- `RegInfo::Update`: the new state, what the listeners are told and what it returns. -/
def update (regInfo : RegInfo A) (document : Option DomNode) :
    Option (RegInfo A × List RegInfoStatus × Bool) :=
  match document with
  | none => some (regInfo, [.updateFailed], false)
  | some element =>
      if !element.hasName "reginfo" then some (regInfo, [.updateFailed], false)
      else
        match AString.toUInt32? (element.getAttribute "version") with
        | none => some (regInfo, [.updateFailed], false)
        | some nNewVersion =>
            let bFull := AString.equalsIgnoreCaseLiteral (element.getAttribute "state") "full"
            if regInfo.bIsCreated ∧ regInfo.nVersion ≥ nNewVersion ∧
                ¬(regInfo.nVersion = nNewVersion ∧ regInfo.nVersion = 0 ∧ bFull) then
              some (regInfo, [.updateFailed], true)
            else
              -- The sum is one of 32 bits.
              let bSubscriptionRefreshRequired :=
                decide (nNewVersion > (regInfo.nVersion + 1) % 2 ^ 32)
              let objRegistrations := if bFull then [] else regInfo.objRegistrations
              (updateRegistrations addresses objRegistrations
                  (element.getElementsByTagName "registration")).map fun objRegistrations =>
                (⟨true, nNewVersion, objRegistrations⟩,
                  .updated :: (if bSubscriptionRefreshRequired then [.refreshRequired] else []),
                  true)

end RegInfo

end ImsStack.EventPackage
