import ImsStack.EventPackage.RegInfo
import ImsStack.Library.KeyedStore
import ImsStack.Library.TransitionSystem

/-!
The registrations that `RegInfo` keeps, against the fold of the documents given to it.  Ids are
compared without case, as the source does.
-/

namespace ImsStack.EventPackage

open KeyedStore
open Platform
open Platform.AString (Chars)
open TransitionSystem

universe u v

/-! ### What the documents tell -/

namespace RegInfo

def idKey (strId : Option Chars) : Chars := (strId.getD []).map AString.toLower

def nodeKey (node : DomNode) : Chars := idKey (node.getNamedItem "id")

/-- A contact element with an id, a state and an event. -/
def isContact (node : DomNode) : Bool :=
  node.hasName "contact" && (node.getNamedItem "id").isSome &&
    ((node.getNamedItem "state").bind contactState?).isSome &&
    ((node.getNamedItem "event").bind contactEvent?).isSome

end RegInfo

open RegInfo

section Reference

variable {A : Type u} (addresses : SipAddressClass A)

namespace RegInfoContact

def key (contact : RegInfoContact A) : Chars := idKey contact.strId

/-- What a contact element tells of a contact; a child that cannot be read tells nothing. -/
def described (known : Option (RegInfoContact A)) (node : DomNode) : RegInfoContact A :=
  let contact : RegInfoContact A :=
    match known with
    | none =>
        node.children.foldl (fun contact child =>
            (takeChild addresses contact child).getD contact)
          { new addresses with
            strId := node.getNamedItem "id"
            strCallId := (node.getNamedItem "callid").getD [] }
    | some contact =>
        node.children.foldl (fun contact child => (retakeChild contact child).getD contact) contact
  contact.setStateAndEvent node

/-- The contacts after a child of a registration; only a contact element tells one. -/
def follow (known : Chars → Option (RegInfoContact A)) (node : DomNode) :
    Chars → Option (RegInfoContact A) :=
  if isContact node then
    Function.update known (nodeKey node) (some (described addresses (known (nodeKey node)) node))
  else known

end RegInfoContact

structure KnownRegistration (A : Type u) where
  objAor : A
  strId : Option Chars
  nState : RegistrationState
  contacts : Chars → Option (RegInfoContact A)

namespace KnownRegistration

def key (registration : KnownRegistration A) : Chars := idKey registration.strId

/-- A registration element with an address of record, an id and a state. -/
def isRegistration (node : DomNode) : Bool :=
  node.hasName "registration" && (node.getNamedItem "id").isSome &&
    (node.getNamedItem "aor").any (fun strAor => (addresses.create addresses.blank strAor).2) &&
    ((node.getNamedItem "state").bind registrationState?).isSome

def described (known : Option (KnownRegistration A)) (node : DomNode) : KnownRegistration A :=
  let registration : KnownRegistration A :=
    match known with
    | none =>
        { objAor := (addresses.create addresses.blank ((node.getNamedItem "aor").getD [])).1
          strId := node.getNamedItem "id"
          nState := .created
          contacts := fun _ => none }
    | some registration => registration
  { registration with
    nState := ((node.getNamedItem "state").bind registrationState?).getD registration.nState
    contacts := node.children.foldl (RegInfoContact.follow addresses) registration.contacts }

def follow (known : Chars → Option (KnownRegistration A)) (node : DomNode) :
    Chars → Option (KnownRegistration A) :=
  if isRegistration addresses node then
    Function.update known (nodeKey node) (some (described addresses (known (nodeKey node)) node))
  else known

end KnownRegistration

structure RegInfoContent where
  nVersion : Nat
  bFull : Bool
  registrations : List DomNode

/-- What a document contains; nothing where it is no document of this package or has no
version. -/
def readRegInfo (document : Option DomNode) : Option RegInfoContent :=
  match document with
  | none => none
  | some element =>
      if !element.hasName "reginfo" then none
      else
        (AString.toUInt32? (element.getAttribute "version")).map fun nVersion =>
          { nVersion := nVersion
            bFull := AString.equalsIgnoreCaseLiteral (element.getAttribute "state") "full"
            registrations := element.getElementsByTagName "registration" }

/-- The registrations known from the documents so far. -/
structure KnownRegInfo (A : Type u) where
  version : Option Nat
  registrations : Chars → Option (KnownRegistration A)

namespace KnownRegInfo

/-- A document is news with a version above the one known, and as a repeated full version 0. -/
def isNews (known : KnownRegInfo A) (content : RegInfoContent) : Bool :=
  match known.version with
  | none => true
  | some version =>
      decide (version < content.nVersion ∨
        (version = 0 ∧ content.nVersion = 0 ∧ content.bFull = true))

def next (known : KnownRegInfo A) (document : Option DomNode) : KnownRegInfo A :=
  match readRegInfo document with
  | none => known
  | some content =>
      if known.isNews content then
        { version := some content.nVersion
          registrations := content.registrations.foldl (KnownRegistration.follow addresses)
            (if content.bFull then fun _ => none else known.registrations) }
      else known

/-- The version of a document passes over a value; nothing known counts as version 0. -/
def skips (known : KnownRegInfo A) (document : Option DomNode) : Bool :=
  match readRegInfo document with
  | none => false
  | some content =>
      known.isNews content && decide (known.version.getD 0 + 1 < content.nVersion)

end KnownRegInfo

end Reference

/-! ### Updates in place -/

theorem foldlM_follows {α : Type u} {β : Type v} {ι : Type} {f : α → ι → Option α}
    {g : β → ι → β} {R : α → β → Prop} {l : List ι}
    (hstep : ∀ a b i, i ∈ l → R a b → ∃ a', f a i = some a' ∧ R a' (g b i)) {a : α} {b : β}
    (h : R a b) : ∃ a', l.foldlM f a = some a' ∧ R a' (l.foldl g b) := by
  induction l generalizing a b with
  | nil => exact ⟨a, rfl, h⟩
  | cons i rest ih =>
      obtain ⟨a', hfirst, hR⟩ := hstep a b i List.mem_cons_self h
      rw [List.foldlM_cons, hfirst]
      exact ih (fun a b j hj => hstep a b j (List.mem_cons_of_mem i hj)) hR

/-- Where the entries are found by their keys and the updates succeed, the update of the list
is the one by key. -/
theorem checkNCreate_eq_upsert {α : Type u} {new : α} {equals : α → DomNode → Bool}
    {update : α → DomNode → Option α} {node : DomNode} {key : α → Chars} {k : Chars}
    {f : Option α → α} {l : List α} (hnew : update new node = some (f none))
    (hequals : ∀ entry ∈ l, (equals entry node = true ↔ key entry = k))
    (hupdate : ∀ entry ∈ l, key entry = k → update entry node = some (f (some entry))) :
    checkNCreate new equals update node l = some (upsert key k f l) := by
  induction l with
  | nil =>
      unfold checkNCreate
      rw [hnew]
      rfl
  | cons entry rest ih =>
      unfold checkNCreate upsert
      by_cases hkey : key entry = k
      · rw [if_pos ((hequals entry List.mem_cons_self).mpr hkey), if_pos hkey,
          hupdate entry List.mem_cons_self hkey]
        rfl
      · rw [if_neg fun h => hkey ((hequals entry List.mem_cons_self).mp h), if_neg hkey, ih]
        · rfl
        · intro other hother
          exact hequals other (List.mem_cons_of_mem entry hother)
        · intro other hother
          exact hupdate other (List.mem_cons_of_mem entry hother)

theorem equalsById_iff {strId : Option Chars} {name : String} {node : DomNode}
    (hstored : strId.isSome = true) (hname : node.hasName name = true)
    (hid : (node.getNamedItem "id").isSome = true) :
    equalsById strId name node = true ↔ idKey strId = nodeKey node := by
  obtain ⟨stored, rfl⟩ := Option.isSome_iff_exists.mp hstored
  obtain ⟨nodeId, hnode⟩ := Option.isSome_iff_exists.mp hid
  unfold equalsById nodeKey idKey
  rw [hname, hnode, Bool.true_and]
  exact beq_iff_eq

/-! ### Contacts -/

section Contacts

variable {A : Type u} {addresses : SipAddressClass A}

/-- Every display name of a contact element has a value. -/
def RegInfo.HasDisplayNames (node : DomNode) : Prop :=
  ∀ child ∈ node.children, child.hasName "display-name" = true → child.children ≠ []

namespace RegInfoContact

theorem setDisplayName_eq {contact : RegInfoContact A} {child : DomNode}
    (h : child.children ≠ []) :
    contact.setDisplayName child = some ((contact.setDisplayName child).getD contact) := by
  unfold setDisplayName
  cases hchildren : child.children with
  | nil => exact absurd hchildren h
  | cons content rest => rfl

theorem takeChild_eq {contact : RegInfoContact A} {child : DomNode}
    (h : child.hasName "display-name" = true → child.children ≠ []) :
    takeChild addresses contact child =
      some ((takeChild addresses contact child).getD contact) := by
  unfold takeChild
  split
  · rfl
  · split
    · rename_i hname
      exact setDisplayName_eq (h hname)
    · split
      · rfl
      · split
        · rfl
        · split
          · rfl
          · rfl

theorem retakeChild_eq {contact : RegInfoContact A} {child : DomNode}
    (h : child.hasName "display-name" = true → child.children ≠ []) :
    retakeChild contact child = some ((retakeChild contact child).getD contact) := by
  unfold retakeChild
  split
  · rename_i hname
    exact setDisplayName_eq (h hname)
  · split
    · rfl
    · split
      · rfl
      · rfl

theorem strId_setDisplayName (contact : RegInfoContact A) (child : DomNode) :
    ((contact.setDisplayName child).getD contact).strId = contact.strId := by
  unfold setDisplayName
  cases child.children.head? with
  | none => rfl
  | some content => rfl

theorem strId_setPublicGruu (contact : RegInfoContact A) (child : DomNode) :
    (contact.setPublicGruu child).strId = contact.strId := by
  unfold setPublicGruu
  split
  · rfl
  · rfl

theorem strId_setTemporaryGruu (contact : RegInfoContact A) (child : DomNode) :
    (contact.setTemporaryGruu child).strId = contact.strId := by
  unfold setTemporaryGruu
  split
  · rfl
  · rfl

theorem strId_retakeChild (contact : RegInfoContact A) (child : DomNode) :
    ((retakeChild contact child).getD contact).strId = contact.strId := by
  unfold retakeChild
  split
  · exact contact.strId_setDisplayName child
  · split
    · exact contact.strId_setPublicGruu child
    · split
      · exact contact.strId_setTemporaryGruu child
      · rfl

theorem strId_takeChild (contact : RegInfoContact A) (child : DomNode) :
    ((takeChild addresses contact child).getD contact).strId = contact.strId := by
  unfold takeChild
  split
  · show (contact.setUri addresses child).strId = contact.strId
    unfold setUri
    split
    · rfl
    · rfl
  · split
    · exact contact.strId_setDisplayName child
    · split
      · show (contact.setUnknownParameter child).strId = contact.strId
        unfold setUnknownParameter
        split
        · rfl
        · split
          · rfl
          · rfl
      · split
        · exact contact.strId_setPublicGruu child
        · split
          · exact contact.strId_setTemporaryGruu child
          · rfl

theorem strId_foldl {g : RegInfoContact A → DomNode → RegInfoContact A}
    (h : ∀ contact child, (g contact child).strId = contact.strId) (children : List DomNode)
    (contact : RegInfoContact A) : (children.foldl g contact).strId = contact.strId := by
  induction children generalizing contact with
  | nil => rfl
  | cons child rest ih => exact (ih (g contact child)).trans (h contact child)

theorem strId_setStateAndEvent (contact : RegInfoContact A) (node : DomNode) :
    (contact.setStateAndEvent node).strId = contact.strId := by
  unfold setStateAndEvent
  split
  · rfl
  · dsimp only
    split
    · rfl
    · rfl

theorem foldlM_takeChild {node : DomNode} (hread : HasDisplayNames node)
    (contact : RegInfoContact A) :
    node.children.foldlM (takeChild addresses) contact =
      some (node.children.foldl (fun contact child =>
        (takeChild addresses contact child).getD contact) contact) := by
  obtain ⟨after, hafter, rfl⟩ := foldlM_follows (R := Eq) (f := takeChild addresses)
    (g := fun contact child => (takeChild addresses contact child).getD contact)
    (l := node.children)
    (by
      rintro contact _ child hchild rfl
      exact ⟨_, takeChild_eq (hread child hchild), rfl⟩) (rfl : contact = contact)
  exact hafter

theorem foldlM_retakeChild {node : DomNode} (hread : HasDisplayNames node)
    (contact : RegInfoContact A) :
    node.children.foldlM retakeChild contact =
      some (node.children.foldl (fun contact child =>
        (retakeChild contact child).getD contact) contact) := by
  obtain ⟨after, hafter, rfl⟩ := foldlM_follows (R := Eq) (f := retakeChild)
    (g := fun contact child => (retakeChild contact child).getD contact) (l := node.children)
    (by
      rintro contact _ child hchild rfl
      exact ⟨_, retakeChild_eq (hread child hchild), rfl⟩) (rfl : contact = contact)
  exact hafter

/-- A contact element with readable display names makes of the contact what it describes. -/
theorem update_of_known {contact : RegInfoContact A} {node : DomNode}
    (hstate : contact.nState ≠ .created) (hread : HasDisplayNames node) :
    update addresses contact node = some (described addresses (some contact) node) := by
  unfold update
  rw [if_neg hstate, foldlM_retakeChild hread]
  rfl

theorem update_new {node : DomNode} (hid : (node.getNamedItem "id").isSome = true)
    (hread : HasDisplayNames node) :
    update addresses (new addresses) node = some (described addresses none node) := by
  obtain ⟨strId, hstrId⟩ := Option.isSome_iff_exists.mp hid
  unfold update described
  rw [if_pos (show (new addresses).nState = .created from rfl), hstrId]
  dsimp only
  rw [foldlM_takeChild hread]
  rfl

theorem key_described {known : Option (RegInfoContact A)} {node : DomNode}
    (hknown : ∀ contact, known = some contact → contact.key = nodeKey node) :
    (described addresses known node).key = nodeKey node := by
  unfold key described
  rw [strId_setStateAndEvent]
  cases known with
  | none =>
      dsimp only
      rw [strId_foldl strId_takeChild]
      rfl
  | some contact =>
      dsimp only
      rw [strId_foldl strId_retakeChild]
      exact hknown contact rfl

theorem strId_described {known : Option (RegInfoContact A)} {node : DomNode}
    (hid : (node.getNamedItem "id").isSome = true)
    (hknown : ∀ contact, known = some contact → contact.strId.isSome = true) :
    (described addresses known node).strId.isSome = true := by
  unfold described
  rw [strId_setStateAndEvent]
  cases known with
  | none =>
      dsimp only
      rw [strId_foldl strId_takeChild]
      exact hid
  | some contact =>
      dsimp only
      rw [strId_foldl strId_retakeChild]
      exact hknown contact rfl

theorem contactState?_ne_created {strState : Chars} {state : ContactState}
    (h : contactState? strState = some state) : state ≠ .created := by
  unfold contactState? at h
  split at h
  · obtain rfl := Option.some.inj h
    exact ContactState.noConfusion
  · split at h
    · obtain rfl := Option.some.inj h
      exact ContactState.noConfusion
    · cases h

theorem nState_setStateAndEvent {contact : RegInfoContact A} {node : DomNode}
    (h : ((node.getNamedItem "state").bind contactState?).isSome = true) :
    (contact.setStateAndEvent node).nState ≠ .created := by
  obtain ⟨state, hstate⟩ := Option.isSome_iff_exists.mp h
  obtain ⟨strState, hitem, hread⟩ := Option.bind_eq_some_iff.mp hstate
  have hne := contactState?_ne_created hread
  unfold setStateAndEvent
  rw [hitem]
  dsimp only
  split
  · rw [hread]
    exact hne
  · rw [hread]
    exact hne

/-- The contacts stored are those known, each made from a contact element. -/
structure Keeps (objContacts : List (RegInfoContact A))
    (known : Chars → Option (RegInfoContact A)) : Prop where
  represents : Represents key objContacts known
  told : ∀ contact ∈ objContacts, contact.strId.isSome = true ∧ contact.nState ≠ .created

theorem Keeps.follow {objContacts : List (RegInfoContact A)}
    {known : Chars → Option (RegInfoContact A)} (h : Keeps objContacts known) {node : DomNode}
    (hcontact : isContact node = true) (hread : HasDisplayNames node) :
    ∃ after, checkNCreate (new addresses) equals (update addresses) node objContacts = some after ∧
      Keeps after (RegInfoContact.follow addresses known node) := by
  have hcontact' := hcontact
  unfold isContact at hcontact'
  obtain ⟨hcontact', -⟩ := Bool.and_eq_true_iff.mp hcontact'
  obtain ⟨hcontact', hstate⟩ := Bool.and_eq_true_iff.mp hcontact'
  obtain ⟨hname, hid⟩ := Bool.and_eq_true_iff.mp hcontact'
  have hkey : (described addresses (known (nodeKey node)) node).key = nodeKey node :=
    key_described fun contact hknown => h.represents.key_eq hknown
  refine ⟨upsert key (nodeKey node) (fun known => described addresses known node) objContacts,
    ?_, ?_⟩
  · apply checkNCreate_eq_upsert
    · exact update_new hid hread
    · intro contact hmem
      exact equalsById_iff (h.told contact hmem).1 hname hid
    · intro contact hmem _
      exact update_of_known (h.told contact hmem).2 hread
  · constructor
    · unfold RegInfoContact.follow
      rw [if_pos hcontact]
      exact h.represents.upsert hkey
    · intro contact hmem
      rcases mem_upsert hmem with hmem | rfl | ⟨before, hbefore, -, rfl⟩
      · exact h.told contact hmem
      · refine ⟨strId_described hid ?_, nState_setStateAndEvent hstate⟩
        intro contact hnone
        cases hnone
      · refine ⟨strId_described hid ?_, nState_setStateAndEvent hstate⟩
        rintro contact hsome
        obtain rfl := Option.some.inj hsome
        exact (h.told before hbefore).1

theorem Keeps.setContacts {objContacts : List (RegInfoContact A)}
    {known : Chars → Option (RegInfoContact A)} (h : Keeps objContacts known)
    {nodes : List DomNode} (hcontacts : ∀ node ∈ nodes, isContact node = true)
    (hread : ∀ node ∈ nodes, HasDisplayNames node) :
    ∃ after, RegInfoRegistration.setContacts addresses objContacts nodes = some after ∧
      Keeps after (nodes.foldl (RegInfoContact.follow addresses) known) := by
  apply foldlM_follows _ h
  intro objContacts known node hmem hkeeps
  exact hkeeps.follow (hcontacts node hmem) (hread node hmem)

end RegInfoContact

end Contacts

/-! ### Registrations -/

section Registrations

variable {A : Type u} {addresses : SipAddressClass A}

/-- A registration element all of whose children are contact elements with readable display
names. -/
structure RegInfo.IsWellFormed (addresses : SipAddressClass A) (node : DomNode) : Prop where
  registration : KnownRegistration.isRegistration addresses node = true
  contacts : ∀ child ∈ node.children, isContact child = true
  readable : ∀ child ∈ node.children, HasDisplayNames child

namespace RegInfoRegistration

def key (registration : RegInfoRegistration A) : Chars := idKey registration.strId

/-- A registration with its contacts by their ids. -/
def known (registration : RegInfoRegistration A) : KnownRegistration A where
  objAor := registration.objAor
  strId := registration.strId
  nState := registration.nState
  contacts := lookup RegInfoContact.key registration.objContacts

/-- The registration was made from a registration element, and its contacts from contact
elements. -/
structure Told (registration : RegInfoRegistration A) : Prop where
  strId : registration.strId.isSome = true
  nState : registration.nState ≠ .created
  contacts : RegInfoContact.Keeps registration.objContacts registration.known.contacts

theorem registrationState?_ne_created {strState : Chars} {state : RegistrationState}
    (h : registrationState? strState = some state) : state ≠ .created := by
  unfold registrationState? at h
  split at h
  · obtain rfl := Option.some.inj h
    exact RegistrationState.noConfusion
  · split at h
    · obtain rfl := Option.some.inj h
      exact RegistrationState.noConfusion
    · split at h
      · obtain rfl := Option.some.inj h
        exact RegistrationState.noConfusion
      · cases h

theorem setStateAndContacts_described {registration : RegInfoRegistration A}
    (hid : registration.strId.isSome = true)
    (hcontacts : RegInfoContact.Keeps registration.objContacts registration.known.contacts)
    {node : DomNode} (hnode : IsWellFormed addresses node) :
    ∃ after, setStateAndContacts addresses registration node = some after ∧ after.Told ∧
      after.known = KnownRegistration.described addresses (some registration.known) node := by
  have hregistration := hnode.registration
  unfold KnownRegistration.isRegistration at hregistration
  obtain ⟨-, hstate⟩ := Bool.and_eq_true_iff.mp hregistration
  obtain ⟨state, hstate⟩ := Option.isSome_iff_exists.mp hstate
  obtain ⟨strState, hitem, hread⟩ := Option.bind_eq_some_iff.mp hstate
  obtain ⟨contacts, hset, hkeeps⟩ :
      ∃ after, setContacts addresses registration.objContacts node.children = some after ∧
        RegInfoContact.Keeps after _ :=
    hcontacts.setContacts hnode.contacts hnode.readable
  have hlookup := hkeeps.represents.unique (represents_lookup hkeeps.represents.nodup)
  refine ⟨{ registration with nState := state, objContacts := contacts }, ?_, ?_, ?_⟩
  · unfold setStateAndContacts
    rw [hitem]
    dsimp only
    rw [hset, hread]
    rfl
  · constructor
    · exact hid
    · exact registrationState?_ne_created hread
    · show RegInfoContact.Keeps contacts (lookup RegInfoContact.key contacts)
      rw [← hlookup]
      exact hkeeps
  · unfold KnownRegistration.described known
    dsimp only
    rw [hstate, ← hlookup]
    rfl

theorem Told.update {registration : RegInfoRegistration A} (h : registration.Told)
    {node : DomNode} (hnode : IsWellFormed addresses node) :
    ∃ after, update addresses registration node = some after ∧ after.Told ∧
      after.known = KnownRegistration.described addresses (some registration.known) node := by
  unfold RegInfoRegistration.update
  rw [if_neg h.nState]
  exact setStateAndContacts_described h.strId h.contacts hnode

theorem update_new {node : DomNode} (hnode : IsWellFormed addresses node) :
    ∃ after, update addresses (new addresses) node = some after ∧ after.Told ∧
      after.known = KnownRegistration.described addresses none node := by
  have hregistration := hnode.registration
  unfold KnownRegistration.isRegistration at hregistration
  obtain ⟨hregistration, -⟩ := Bool.and_eq_true_iff.mp hregistration
  obtain ⟨hregistration, haor⟩ := Bool.and_eq_true_iff.mp hregistration
  obtain ⟨-, hid⟩ := Bool.and_eq_true_iff.mp hregistration
  obtain ⟨strId, hstrId⟩ := Option.isSome_iff_exists.mp hid
  obtain ⟨strAor, hstrAor, hcreate⟩ := (Option.any_eq_true _ _).mp haor
  have hnone : RegInfoContact.Keeps [] (lookup RegInfoContact.key ([] : List (RegInfoContact A))) :=
    ⟨represents_lookup List.nodup_nil, fun contact hmem => absurd hmem List.not_mem_nil⟩
  let started : RegInfoRegistration A :=
    { objAor := (addresses.create addresses.blank strAor).1
      strId := some strId
      nState := .created
      objContacts := [] }
  obtain ⟨after, hupdate, htold, hknown⟩ :=
    setStateAndContacts_described (show started.strId.isSome = true from rfl) hnone hnode
  refine ⟨after, ?_, htold, ?_⟩
  · unfold RegInfoRegistration.update
    rw [if_pos (show (new addresses).nState = .created from rfl), hstrAor]
    dsimp only
    rw [show (addresses.create (new addresses).objAor strAor).2 = true from hcreate, hstrId]
    exact hupdate
  · rw [hknown]
    unfold KnownRegistration.described
    dsimp only [known]
    rw [hstrAor, hstrId]
    rfl

end RegInfoRegistration

namespace KnownRegistration

theorem key_described {known : Option (KnownRegistration A)} {node : DomNode}
    (hknown : ∀ registration, known = some registration → registration.key = nodeKey node) :
    (described addresses known node).key = nodeKey node := by
  cases known with
  | none => rfl
  | some before => exact hknown before rfl

end KnownRegistration

namespace RegInfo

/-- The registrations stored are those known, each made from a registration element. -/
structure Keeps (objRegistrations : List (RegInfoRegistration A))
    (known : Chars → Option (KnownRegistration A)) : Prop where
  represents : Represents KnownRegistration.key
    (objRegistrations.map RegInfoRegistration.known) known
  told : ∀ registration ∈ objRegistrations, registration.Told

theorem Keeps.nil : Keeps ([] : List (RegInfoRegistration A)) fun _ => none where
  represents := .nil
  told := by
    intro registration hmem
    cases hmem

theorem Keeps.follow {objRegistrations : List (RegInfoRegistration A)}
    {known : Chars → Option (KnownRegistration A)} (h : Keeps objRegistrations known)
    {node : DomNode} (hnode : IsWellFormed addresses node) :
    ∃ after,
      checkNCreate (RegInfoRegistration.new addresses) RegInfoRegistration.equals
        (RegInfoRegistration.update addresses) node objRegistrations = some after ∧
        Keeps after (KnownRegistration.follow addresses known node) := by
  have hregistration := hnode.registration
  unfold KnownRegistration.isRegistration at hregistration
  obtain ⟨hregistration, -⟩ := Bool.and_eq_true_iff.mp hregistration
  obtain ⟨hregistration, -⟩ := Bool.and_eq_true_iff.mp hregistration
  obtain ⟨hname, hid⟩ := Bool.and_eq_true_iff.mp hregistration
  let f : Option (RegInfoRegistration A) → RegInfoRegistration A := fun stored =>
    (RegInfoRegistration.update addresses
      (stored.getD (RegInfoRegistration.new addresses)) node).getD
        (RegInfoRegistration.new addresses)
  obtain ⟨created, hcreated, hcreatedTold, hcreatedKnown⟩ :=
    RegInfoRegistration.update_new hnode
  have hnone : f none = created := by
    show (RegInfoRegistration.update addresses (RegInfoRegistration.new addresses) node).getD _ = _
    rw [hcreated]
    rfl
  have hsome : ∀ registration ∈ objRegistrations,
      RegInfoRegistration.update addresses registration node = some (f (some registration)) ∧
        (f (some registration)).Told ∧ (f (some registration)).known =
          KnownRegistration.described addresses (some registration.known) node := by
    intro registration hmem
    obtain ⟨after, hafter, htold, hknown⟩ := (h.told registration hmem).update hnode
    have heq : f (some registration) = after := by
      show (RegInfoRegistration.update addresses registration node).getD _ = _
      rw [hafter]
      rfl
    rw [heq]
    exact ⟨hafter, htold, hknown⟩
  refine ⟨upsert RegInfoRegistration.key (nodeKey node) f objRegistrations, ?_, ?_, ?_⟩
  · apply checkNCreate_eq_upsert
    · rw [hnone]
      exact hcreated
    · intro registration hmem
      exact equalsById_iff (h.told registration hmem).strId hname hid
    · intro registration hmem _
      exact (hsome registration hmem).1
  · have hseen : (upsert RegInfoRegistration.key (nodeKey node) f objRegistrations).map
          RegInfoRegistration.known =
        upsert KnownRegistration.key (nodeKey node)
          (fun known => KnownRegistration.described addresses known node)
          (objRegistrations.map RegInfoRegistration.known) := by
      apply map_upsert
      · intro registration _
        rfl
      · rw [hnone]
        exact hcreatedKnown
      · intro registration hmem _
        exact (hsome registration hmem).2.2
    rw [hseen]
    unfold KnownRegistration.follow
    rw [if_pos hnode.registration]
    apply h.represents.upsert
    apply KnownRegistration.key_described
    intro registration hknown
    exact h.represents.key_eq hknown
  · intro registration hmem
    rcases mem_upsert hmem with hmem | rfl | ⟨before, hbefore, -, rfl⟩
    · exact h.told registration hmem
    · rw [hnone]
      exact hcreatedTold
    · exact (hsome before hbefore).2.1

theorem Keeps.updateRegistrations {objRegistrations : List (RegInfoRegistration A)}
    {known : Chars → Option (KnownRegistration A)} (h : Keeps objRegistrations known)
    {nodes : List DomNode} (hnodes : ∀ node ∈ nodes, IsWellFormed addresses node) :
    ∃ after, updateRegistrations addresses objRegistrations nodes = some after ∧
      Keeps after (nodes.foldl (KnownRegistration.follow addresses) known) := by
  apply foldlM_follows _ h
  intro objRegistrations known node hmem hkeeps
  exact hkeeps.follow (hnodes node hmem)

end RegInfo

end Registrations

/-! ### Sequences of documents -/

section Histories

variable {A : Type u} (addresses : SipAddressClass A)

theorem toUInt32?_lt {s : Chars} {n : Nat} (h : AString.toUInt32? s = some n) : n < 2 ^ 32 := by
  unfold AString.toUInt32? at h
  dsimp only at h
  split at h
  · obtain rfl := Option.some.inj h
    decide
  · split at h
    · cases h
    · split at h
      · rename_i hlt
        obtain rfl := Option.some.inj h
        exact hlt
      · cases h

theorem RegInfo.nVersion_lt_of_readRegInfo {document : Option DomNode} {content : RegInfoContent}
    (h : readRegInfo document = some content) : content.nVersion < 2 ^ 32 := by
  unfold readRegInfo at h
  cases document with
  | none => cases h
  | some element =>
      dsimp only at h
      split at h
      · cases h
      · obtain ⟨nVersion, hversion, rfl⟩ := Option.map_eq_some_iff.mp h
        exact toUInt32?_lt hversion

/-- The state is the one known from the documents: a registration for each id known, with a
contact for each id known in it, and no others. -/
structure RegInfo.Follows (regInfo : RegInfo A) (known : KnownRegInfo A) : Prop where
  registrations : Represents KnownRegistration.key
    (regInfo.objRegistrations.map RegInfoRegistration.known) known.registrations
  contacts : ∀ registration ∈ regInfo.objRegistrations,
    Represents RegInfoContact.key registration.objContacts registration.known.contacts
  version : known.version = if regInfo.bIsCreated then some regInfo.nVersion else none

/-- What every document leaves behind. -/
structure RegInfo.Consistent (regInfo : RegInfo A) (known : KnownRegInfo A) : Prop where
  keeps : Keeps regInfo.objRegistrations known.registrations
  version : known.version = if regInfo.bIsCreated then some regInfo.nVersion else none
  lt : regInfo.nVersion < 2 ^ 32
  start : regInfo.bIsCreated = false → regInfo.nVersion = 0

theorem RegInfo.Consistent.follows {regInfo : RegInfo A} {known : KnownRegInfo A}
    (h : regInfo.Consistent known) : regInfo.Follows known where
  registrations := h.keeps.represents
  contacts registration hmem := (h.keeps.told registration hmem).contacts.represents
  version := h.version

/-- A document that is news has only well-formed registration elements. -/
def KnownRegInfo.WellFormedNews (known : KnownRegInfo A) (document : Option DomNode) : Prop :=
  ∀ content, readRegInfo document = some content → known.isNews content = true →
    ∀ node ∈ content.registrations, IsWellFormed addresses node

variable {addresses}

theorem RegInfo.Consistent.isNews_iff {regInfo : RegInfo A} {known : KnownRegInfo A}
    (h : regInfo.Consistent known) (content : RegInfoContent) :
    known.isNews content = true ↔
      ¬(regInfo.bIsCreated = true ∧ regInfo.nVersion ≥ content.nVersion ∧
        ¬(regInfo.nVersion = content.nVersion ∧ regInfo.nVersion = 0 ∧ content.bFull = true)) := by
  unfold KnownRegInfo.isNews
  rw [h.version]
  cases regInfo.bIsCreated with
  | false =>
      apply iff_of_true rfl
      rintro ⟨hcreated, -⟩
      exact Bool.false_ne_true hcreated
  | true =>
      show decide _ = true ↔ _
      rw [decide_eq_true_iff]
      constructor
      · rintro hnews ⟨-, hle, hnot⟩
        rcases hnews with hlt | ⟨hzero, hcontent, hfull⟩
        · omega
        · exact hnot ⟨hzero.trans hcontent.symm, hzero, hfull⟩
      · intro hnot
        rcases Nat.lt_or_ge regInfo.nVersion content.nVersion with hlt | hle
        · exact .inl hlt
        · right
          have hsame : regInfo.nVersion = content.nVersion ∧ regInfo.nVersion = 0 ∧
              content.bFull = true := by
            apply Classical.byContradiction
            intro hdiffers
            exact hnot ⟨rfl, hle, hdiffers⟩
          exact ⟨hsame.2.1, hsame.1.symm.trans hsame.2.1, hsame.2.2⟩

theorem RegInfo.update_eq (regInfo : RegInfo A) (document : Option DomNode) :
    update addresses regInfo document =
      match readRegInfo document with
      | none => some (regInfo, [.updateFailed], false)
      | some content =>
          if regInfo.bIsCreated = true ∧ regInfo.nVersion ≥ content.nVersion ∧
              ¬(regInfo.nVersion = content.nVersion ∧ regInfo.nVersion = 0 ∧
                content.bFull = true) then
            some (regInfo, [.updateFailed], true)
          else
            (updateRegistrations addresses
                (if content.bFull = true then [] else regInfo.objRegistrations)
                content.registrations).map fun objRegistrations =>
              (⟨true, content.nVersion, objRegistrations⟩,
                .updated :: (if decide (content.nVersion > (regInfo.nVersion + 1) % 2 ^ 32) then
                  [.refreshRequired] else []), true) := by
  unfold update readRegInfo
  cases document with
  | none => rfl
  | some element =>
      dsimp only
      cases element.hasName "reginfo" with
      | false => rfl
      | true =>
          cases AString.toUInt32? (element.getAttribute "version") with
          | none => rfl
          | some nVersion => rfl

theorem RegInfo.Consistent.contains_refreshRequired {regInfo : RegInfo A}
    {known : KnownRegInfo A} (h : regInfo.Consistent known) {content : RegInfoContent}
    (hlt : content.nVersion < 2 ^ 32) (hnews : known.isNews content = true) :
    (RegInfoStatus.updated :: (if decide (content.nVersion > (regInfo.nVersion + 1) % 2 ^ 32) then
        [RegInfoStatus.refreshRequired] else [])).contains .refreshRequired =
      (known.isNews content && decide (known.version.getD 0 + 1 < content.nVersion)) := by
  have hversion : known.version.getD 0 = regInfo.nVersion := by
    rw [h.version]
    cases hcreated : regInfo.bIsCreated with
    | false => exact (h.start hcreated).symm
    | true => rfl
  have hsame : decide (content.nVersion > (regInfo.nVersion + 1) % 2 ^ 32) =
      decide (regInfo.nVersion + 1 < content.nVersion) := by
    apply decide_eq_decide.mpr
    rcases Nat.lt_or_ge (regInfo.nVersion + 1) (2 ^ 32) with hsmall | hlarge
    · rw [Nat.mod_eq_of_lt hsmall]
    · -- No version is above the largest one, and the version 0 is news only to a new state.
      have hlast : regInfo.nVersion = 2 ^ 32 - 1 := by
        have := h.lt
        omega
      have hcreated : regInfo.bIsCreated = true := by
        cases hcreated : regInfo.bIsCreated with
        | false =>
            rw [h.start hcreated] at hlast
            cases hlast
        | true => rfl
      have hnot := (h.isNews_iff content).mp hnews
      have hle : regInfo.nVersion ≥ content.nVersion := by omega
      have hzero : regInfo.nVersion ≠ 0 := by omega
      exact absurd ⟨hcreated, hle, fun hall => hzero hall.2.1⟩ hnot
  rw [hnews, hversion, hsame, Bool.true_and]
  cases decide (regInfo.nVersion + 1 < content.nVersion) with
  | false => rfl
  | true => rfl

theorem RegInfo.Consistent.update {regInfo : RegInfo A} {known : KnownRegInfo A}
    (h : regInfo.Consistent known) {document : Option DomNode}
    (hdocument : known.WellFormedNews addresses document) :
    ∃ after reports ok, update addresses regInfo document = some (after, reports, ok) ∧
      after.Consistent (known.next addresses document) ∧
      reports.contains .refreshRequired = known.skips document := by
  rw [RegInfo.update_eq]
  unfold KnownRegInfo.next KnownRegInfo.skips
  cases hread : readRegInfo document with
  | none => exact ⟨regInfo, [.updateFailed], false, rfl, h, rfl⟩
  | some content =>
      dsimp only
      cases hnews : known.isNews content with
      | false =>
          have hold := mt (h.isNews_iff content).mpr (by rw [hnews]; exact Bool.false_ne_true)
          rw [if_pos (Classical.not_not.mp hold)]
          exact ⟨regInfo, [.updateFailed], true, rfl, h, rfl⟩
      | true =>
          rw [if_neg ((h.isNews_iff content).mp hnews), if_pos rfl]
          have hstart : Keeps
              (if content.bFull = true then [] else regInfo.objRegistrations)
              (if content.bFull = true then fun _ => none else known.registrations) := by
            split
            · exact .nil
            · exact h.keeps
          obtain ⟨after, hafter, hkeeps⟩ := hstart.updateRegistrations (hdocument content hread hnews)
          have hlt := nVersion_lt_of_readRegInfo hread
          rw [hafter]
          refine ⟨⟨true, content.nVersion, after⟩, _, true, rfl, ⟨hkeeps, rfl, hlt, ?_⟩, ?_⟩
          · intro hcreated
            cases hcreated
          · rw [h.contains_refreshRequired hlt hnews, hnews]

/-- `RegInfo`, gone after a read through a null pointer, and for each document whether a refresh
was requested; against what the documents tell. -/
structure RegInfoHistory (A : Type u) where
  regInfo : Option (RegInfo A)
  refreshes : List Bool
  known : KnownRegInfo A
  skipped : List Bool

namespace RegInfoHistory

def start : RegInfoHistory A := ⟨some .new, [], ⟨none, fun _ => none⟩, []⟩

variable (addresses) in
def next (h : RegInfoHistory A) (document : Option DomNode) : RegInfoHistory A :=
  let result := h.regInfo.bind fun regInfo => RegInfo.update addresses regInfo document
  { regInfo := result.map fun result => result.1
    refreshes := h.refreshes ++
      (result.map fun result => result.2.1.contains RegInfoStatus.refreshRequired).toList
    known := h.known.next addresses document
    skipped := h.skipped ++ [h.known.skips document] }

variable (addresses) in
/-- The sequences of documents given to a new `RegInfo`. -/
def sequences : System (RegInfoHistory A) (Option DomNode) where
  Init h := h = start
  Step h document h' := h' = h.next addresses document

/-- The state follows the documents, and a refresh was requested for those that skip a
version. -/
def Follows (h : RegInfoHistory A) : Prop :=
  ∃ regInfo, h.regInfo = some regInfo ∧ regInfo.Follows h.known ∧ h.refreshes = h.skipped

/-- In every sequence of documents whose news are well-formed the state follows them. -/
theorem registrations_followDocuments {h : RegInfoHistory A}
    (hh : ((sequences addresses).restrict fun h document =>
      h.known.WellFormedNews addresses document).Reachable h) : h.Follows := by
  have hconsistent : ∃ regInfo, h.regInfo = some regInfo ∧ regInfo.Consistent h.known ∧
      h.refreshes = h.skipped := by
    apply System.Reachable.restrict_invariant (I := fun h => ∃ regInfo,
      h.regInfo = some regInfo ∧ regInfo.Consistent h.known ∧ h.refreshes = h.skipped) _ _ hh
    · rintro h rfl
      exact ⟨.new, rfl, ⟨.nil, rfl, Nat.two_pow_pos 32, fun _ => rfl⟩, rfl⟩
    · rintro h document h' ⟨regInfo, hregInfo, hconsistent, hsame⟩ hdocument rfl
      obtain ⟨after, reports, ok, hupdate, hafter, hreports⟩ := hconsistent.update hdocument
      refine ⟨after, ?_, hafter, ?_⟩
      · show Option.map _ (h.regInfo.bind _) = _
        rw [hregInfo]
        show Option.map _ (RegInfo.update addresses regInfo document) = _
        rw [hupdate]
        rfl
      · show h.refreshes ++ (Option.map _ (h.regInfo.bind _)).toList = h.skipped ++ _
        rw [hregInfo]
        show h.refreshes ++ (Option.map _ (RegInfo.update addresses regInfo document)).toList = _
        rw [hupdate, hsame, ← hreports]
        rfl
  obtain ⟨regInfo, hregInfo, hregInfoConsistent, hsame⟩ := hconsistent
  exact ⟨regInfo, hregInfo, hregInfoConsistent.follows, hsame⟩

/-- Addresses as their texts. -/
def textAddresses : SipAddressClass Chars := ⟨[], fun _ text => (text, decide (text ≠ []))⟩

def regInfoElement (strVersion strState : String) (children : List DomNode) : DomNode :=
  .element "reginfo".toList
    [("version".toList, strVersion.toList), ("state".toList, strState.toList)]
    [.element "registration".toList
      [("aor".toList, "sip:a@b".toList), ("id".toList, "r1".toList),
        ("state".toList, "active".toList)]
      children]

def contactElement (strId : String) : DomNode :=
  .element "contact".toList
    [("id".toList, strId.toList), ("state".toList, "active".toList),
      ("event".toList, "registered".toList)]
    []

/-- A full document with a contact and a partial one with a second contact, whose version
skips one. -/
theorem registrations_followDocuments_partial :
    ∃ h : RegInfoHistory Chars, h.skipped = [false, true] ∧ h.Follows := by
  let full := some (regInfoElement "0" "full" [contactElement "c1"])
  let added := some (regInfoElement "2" "partial" [contactElement "c2"])
  have hwell : ∀ known : KnownRegInfo Chars, ∀ strVersion strState strId,
      (strId = "c1" ∨ strId = "c2") → known.WellFormedNews textAddresses
        (some (regInfoElement strVersion strState [contactElement strId])) := by
    rintro known strVersion strState strId hstrId content hread - node hnode
    have hregistrations : content.registrations =
        (regInfoElement strVersion strState [contactElement strId]).children := by
      unfold readRegInfo at hread
      dsimp only at hread
      split at hread
      · cases hread
      · obtain ⟨nVersion, -, rfl⟩ := Option.map_eq_some_iff.mp hread
        rfl
    rw [hregistrations] at hnode
    obtain rfl := List.mem_singleton.mp hnode
    constructor
    · rfl
    · intro child hchild
      obtain rfl := List.mem_singleton.mp hchild
      rcases hstrId with rfl | rfl <;> decide
    · intro child hchild part hpart
      obtain rfl := List.mem_singleton.mp hchild
      cases hpart
  have hfull : ((sequences textAddresses).restrict fun h document =>
      h.known.WellFormedNews textAddresses document).Reachable (start.next textAddresses full) :=
    .step full (.init rfl) ⟨hwell _ _ _ _ (.inl rfl), rfl⟩
  exact ⟨_, by decide, registrations_followDocuments
    (.step added hfull ⟨hwell _ _ _ _ (.inr rfl), rfl⟩)⟩

/-- A text between the contacts of a registration is stored as a contact. -/
theorem registrations_notFollowDocuments :
    ∃ h : RegInfoHistory Chars, (sequences textAddresses).Reachable h ∧ ¬h.Follows := by
  let document := some (regInfoElement "0" "full"
    [contactElement "c1", .text "x".toList, contactElement "c2"])
  refine ⟨start.next textAddresses document, .step document (.init rfl) rfl, ?_⟩
  rintro ⟨regInfo, hregInfo, hfollows, -⟩
  have hstored : ((start.next textAddresses document).regInfo.bind fun regInfo =>
      regInfo.objRegistrations.head?).map (fun registration =>
        (registration.strId, (registration.known.contacts []).isSome)) =
      some (some "r1".toList, true) := by decide
  have htold : (((start.next textAddresses document).known.registrations "r1".toList).bind
      fun registration => registration.contacts []).isSome = false := by decide
  rw [hregInfo] at hstored
  obtain ⟨registration, hhead, hpair⟩ := Option.map_eq_some_iff.mp hstored
  obtain ⟨hstrId, hblank⟩ := Prod.mk.inj hpair
  have hmem := List.mem_of_mem_head? hhead
  have hknown := hfollows.registrations.eq_some
    (List.mem_map.mpr ⟨registration, hmem, rfl⟩)
  have hkey : registration.known.key = "r1".toList := by
    show idKey registration.strId = _
    rw [hstrId]
    decide
  rw [hkey] at hknown
  rw [hknown] at htold
  exact Bool.false_ne_true (htold.symm.trans hblank)

end RegInfoHistory

end Histories

end ImsStack.EventPackage
