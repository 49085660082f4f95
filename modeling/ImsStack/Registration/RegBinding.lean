import ImsStack.Library.TransitionSystem
import Mathlib.Algebra.Group.Nat.Defs
import Mathlib.Data.List.Basic

/-!
The `RegBinding`s of one registration with the connection notifiers they listen on.  A
notifier is known by its address; its manager hands out one counted notifier for each
address.  What the listener of a binding is told and the transport resources of a notifier
are left out.
-/

namespace ImsStack.RegBindings

open TransitionSystem

/-- `IRegBinding::STATE_*`. -/
inductive BindingState where
  | created | init | initPending | active | activePending | activeTerminating | terminated
  deriving DecidableEq, Repr

/-- `IRegistrationEx::BINDING_*`. -/
inductive BindingUpdate where
  | registering | deregistering | resultOk | resultNok | restore | restoreActiveBindings
  | destroyContact | destroy
  deriving DecidableEq, Repr

/-- `IsBindingActive`. -/
def BindingState.isActive : BindingState → Bool
  | .active | .activePending | .activeTerminating => true
  | _ => false

universe u

variable {κ : Type u} [DecidableEq κ]

/-- The members of `RegBinding`. -/
structure RegBinding (κ : Type u) where
  /-- `m_piRegEx` is not null. -/
  hasRegistration : Bool
  /-- `m_piContact` is not null. -/
  hasContact : Bool
  state : BindingState
  scn : Option κ
  deregistrationFailed : Bool
  deriving DecidableEq, Repr

/-- What the bindings share: `m_nRefCountForScnErrorListener` of the registration, and of
every notifier how often they obtained and released it, how many references others have to
it, and whether the registration is among its error listeners. -/
structure Notifiers (κ : Type u) where
  refCountForScnErrorListener : Nat
  obtained : κ → Nat
  released : κ → Nat
  outside : κ → Nat
  listening : κ → Bool

/-- One value of a function is changed. -/
def setAt {α : Type} (f : κ → α) (n : κ) (value : α) : κ → α :=
  fun m => if m = n then value else f m

namespace Notifiers

/-- The reference count that the manager keeps of a notifier. -/
def references (s : Notifiers κ) (n : κ) : Nat := s.outside n + s.obtained n - s.released n

/-- `CreateConnectionNotifier`, which succeeds. -/
def createConnectionNotifier (s : Notifiers κ) (n : κ) : Notifiers κ :=
  { s with obtained := setAt s.obtained n (s.obtained n + 1) }

/-- A notifier without references is closed. -/
def closeIfUnused (s : Notifiers κ) (n : κ) : Notifiers κ :=
  if s.references n = 0 then { s with listening := setAt s.listening n false } else s

def releaseConnectionNotifier (s : Notifiers κ) (n : κ) : Notifiers κ :=
  closeIfUnused { s with released := setAt s.released n (s.released n + 1) } n

def addReferenceForScnErrorListener (s : Notifiers κ) : Notifiers κ :=
  { s with refCountForScnErrorListener := s.refCountForScnErrorListener + 1 }

def removeReferenceForScnErrorListener (s : Notifiers κ) : Notifiers κ :=
  { s with refCountForScnErrorListener := s.refCountForScnErrorListener - 1 }

/-- `AddErrorListener` when the count has become 1. -/
def addErrorListenerIfFirst (s : Notifiers κ) (n : κ) : Notifiers κ :=
  if s.refCountForScnErrorListener = 1 then { s with listening := setAt s.listening n true }
  else s

/-- `RemoveErrorListener` when the count has become 0. -/
def removeErrorListenerIfLast (s : Notifiers κ) (n : κ) : Notifiers κ :=
  if s.refCountForScnErrorListener = 0 then { s with listening := setAt s.listening n false }
  else s

/-- A notifier that the binding did not hold is counted. -/
def countNew (s : Notifiers κ) (n : κ) : Notifiers κ :=
  s.addReferenceForScnErrorListener.addErrorListenerIfFirst n

end Notifiers

namespace RegBinding

/-- `CreateSipConnectionNotifier`, for the address that the contact and the registration
have at that moment. -/
def createSipConnectionNotifier (b : RegBinding κ) (s : Notifiers κ) (address : κ) :
    RegBinding κ × Notifiers κ :=
  if b.hasRegistration = false ∨ b.hasContact = false then (b, s)
  else
    match b.scn with
    | none =>
      ({ b with scn := some address }, (s.createConnectionNotifier address).countNew address)
    | some piTempScn =>
      if address ≠ piTempScn then
        ({ b with scn := some address },
          (((s.createConnectionNotifier address).countNew address)
            |>.removeReferenceForScnErrorListener).releaseConnectionNotifier piTempScn)
      else
        ({ b with scn := some address },
          (s.createConnectionNotifier address).releaseConnectionNotifier piTempScn)

def destroySipConnectionNotifier (b : RegBinding κ) (s : Notifiers κ) :
    RegBinding κ × Notifiers κ :=
  match b.scn with
  | none => (b, s)
  | some n =>
    ({ b with scn := none },
      (if b.hasRegistration then s.removeReferenceForScnErrorListener.removeErrorListenerIfLast n
        else s).releaseConnectionNotifier n)

def setState (b : RegBinding κ) (state : BindingState) : RegBinding κ := { b with state := state }

/-- A binding whose de-registration failed is active again. -/
def reactivate (b : RegBinding κ) : RegBinding κ :=
  if b.deregistrationFailed = true ∧ b.state = .terminated then
    { b with deregistrationFailed := false, state := .active }
  else b

def setContact (b : RegBinding κ) (hasContact : Bool) : RegBinding κ :=
  { b with hasContact := hasContact }

/-- `UpdateContact`; a contact comes with `IsActiveBinding`. -/
def updateContact (b : RegBinding κ) (s : Notifiers κ) (contact : Option Bool) (address : κ) :
    RegBinding κ × Notifiers κ :=
  if contact = some true then
    (b.setContact contact.isSome).reactivate.createSipConnectionNotifier s address
  else (b.setContact contact.isSome, s)

/-- `m_piRegEx` becomes null. -/
def leave (b : RegBinding κ) : RegBinding κ := { b with hasRegistration := false }

def update (b : RegBinding κ) (s : Notifiers κ) (nWhat : BindingUpdate) (address : κ) :
    RegBinding κ × Notifiers κ :=
  if b.hasRegistration = false then (b, s)
  else
    match nWhat, b.state with
    | .registering, .init => (b.setState .initPending, s)
    | .registering, .active =>
      (b.setState (if b.hasContact then .activePending else .activeTerminating), s)
    | .registering, _ => (b, s)
    | .deregistering, .active => (b.setState .activeTerminating, s)
    | .deregistering, _ => (b, s)
    | .resultOk, .initPending => (b.setState .active).createSipConnectionNotifier s address
    | .resultOk, .activePending => (b.setState .active, s)
    | .resultOk, .activeTerminating => (b.setState .terminated).destroySipConnectionNotifier s
    | .resultOk, _ => (b, s)
    | .resultNok, .initPending => (b.setState .init, s)
    | .resultNok, .activePending => (b.setState .active, s)
    | .resultNok, .activeTerminating =>
      ({ b with deregistrationFailed := true, state := .terminated } : RegBinding κ)
        |>.destroySipConnectionNotifier s
    | .resultNok, _ => (b, s)
    | .restore, _ =>
      ({ b with deregistrationFailed := false, state := .init } : RegBinding κ)
        |>.destroySipConnectionNotifier s
    | .restoreActiveBindings, .init | .restoreActiveBindings, .terminated =>
      (b.setState .active).createSipConnectionNotifier s address
    | .restoreActiveBindings, _ => b.createSipConnectionNotifier s address
    | .destroyContact, _ => (b.setState .terminated).destroySipConnectionNotifier s
    | .destroy, _ =>
      (((b.setState .terminated).destroySipConnectionNotifier s).1.leave,
        ((b.setState .terminated).destroySipConnectionNotifier s).2)

end RegBinding

/-- The bindings of a registration, in the order in which they observe it. -/
structure Registration (κ : Type u) where
  bindings : List (RegBinding κ)
  notifiers : Notifiers κ

/-- The loop of `UpdateBindingState` over the observers from an index on. -/
def updateLoop (nWhat : BindingUpdate) (address : Nat → κ) (i : Nat) :
    List (RegBinding κ) → Notifiers κ → List (RegBinding κ) × Notifiers κ
  | [], s => ([], s)
  | b :: rest, s =>
    ((b.update s nWhat (address i)).1 ::
        (updateLoop nWhat address (i + 1) rest (b.update s nWhat (address i)).2).1,
      (updateLoop nWhat address (i + 1) rest (b.update s nWhat (address i)).2).2)

/-- The events of a registration; the address that a binding would listen on now comes with
them. -/
inductive RegistrationEvent (κ : Type u) where
  | createBinding
  | updateBindingState (nWhat : BindingUpdate) (address : Nat → κ)
  | updateContact (i : Nat) (contact : Option Bool) (address : κ)
  | destroyBinding (i : Nat)
  /-- Another user of a notifier obtains or releases it. -/
  | changeOutside (n : κ) (references : Nat)

namespace Registration

/-- `RegBinding::Create` of a new binding. -/
def createBinding (r : Registration κ) : Registration κ :=
  { r with
    bindings := r.bindings ++
      [{ hasRegistration := true, hasContact := false, state := .init, scn := none,
         deregistrationFailed := false }] }

/-- `UpdateContact` of one binding. -/
def updateContact (r : Registration κ) (i : Nat) (contact : Option Bool) (address : κ) :
    Registration κ :=
  match r.bindings[i]? with
  | none => r
  | some b =>
    { bindings := r.bindings.set i (b.updateContact r.notifiers contact address).1
      notifiers := (b.updateContact r.notifiers contact address).2 }

/-- `RegBinding::Destroy` of one binding, with its destructor. -/
def destroyBinding (r : Registration κ) (i : Nat) : Registration κ :=
  match r.bindings[i]? with
  | none => r
  | some b =>
    { bindings := r.bindings.eraseIdx i
      notifiers := (b.destroySipConnectionNotifier r.notifiers).2 }

/-- The references that others have to a notifier change; without any it is closed. -/
def changeOutside (r : Registration κ) (n : κ) (references : Nat) : Registration κ :=
  { r with
    notifiers :=
      Notifiers.closeIfUnused
        { r.notifiers with outside := setAt r.notifiers.outside n references } n }

/-- One event. -/
def handle (r : Registration κ) : RegistrationEvent κ → Registration κ
  | .createBinding => r.createBinding
  | .updateBindingState nWhat address =>
    { bindings := (updateLoop nWhat address 0 r.bindings r.notifiers).1
      notifiers := (updateLoop nWhat address 0 r.bindings r.notifiers).2 }
  | .updateContact i contact address => r.updateContact i contact address
  | .destroyBinding i => r.destroyBinding i
  | .changeOutside n references => r.changeOutside n references

end Registration

/-- The runs of a registration without bindings, with any notifiers that others use. -/
def registrationSystem (κ : Type u) [DecidableEq κ] :
    System (Registration κ) (RegistrationEvent κ) where
  Init r := r.bindings = [] ∧ r.notifiers.refCountForScnErrorListener = 0 ∧
    (∀ n, r.notifiers.obtained n = 0) ∧ (∀ n, r.notifiers.released n = 0) ∧
    ∀ n, r.notifiers.listening n = false
  Step r e r' := r.handle e = r'

end ImsStack.RegBindings
