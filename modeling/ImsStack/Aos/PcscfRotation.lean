import ImsStack.Library.Rounds
import ImsStack.Aos.AosPcscf

/-!
Runs of `AosPcscf`: where an operation reads the list outside its bounds, the current address
across a change from the network, and what taking the next address comes by.
-/

namespace ImsStack.Aos

open Platform.AString (Chars)
open Rounds

universe u

namespace AosPcscf

/-! ### The search for the next address -/

variable (x : AosPcscf)

def isAvailableAt (nAt : Nat) : Bool := x.objPcscfList[nAt]?.any Pcscf.bIsAvailable

/-- The available addresses of the list. -/
def available : List Nat := stretch x.isAvailableAt 0 x.objPcscfList.length

/-- The available addresses behind the current index. -/
def following : List Nat := after x.isAvailableAt x.objPcscfList.length x.nCurrentPcscfIndex

/-- The available addresses from behind the current index around to it. -/
def around : List Nat := Rounds.round x.isAvailableAt x.objPcscfList.length x.nCurrentPcscfIndex

variable {x}

theorem scan_append (objPcscfList : List Pcscf) (first rest : List Nat) :
    scan objPcscfList (first ++ rest) =
      match scan objPcscfList first with
      | some none => scan objPcscfList rest
      | found => found := by
  induction first with
  | nil => rfl
  | cons nAt first ih =>
      rw [List.cons_append, scan, scan]
      cases objPcscfList[nAt]? with
      | none => rfl
      | some pcscf =>
          cases hp : pcscf.bIsAvailable with
          | true => simp only [hp, if_true]
          | false =>
              simp only [hp, Bool.false_eq_true, if_false]
              exact ih

theorem scan_range' (nFrom : Nat) {nTo : Nat} (h : nTo ≤ x.objPcscfList.length) :
    scan x.objPcscfList (List.range' nFrom (nTo - nFrom)) =
      some (stretch x.isAvailableAt nFrom nTo).head? := by
  obtain ⟨n, hn⟩ : ∃ n, n = nTo - nFrom := ⟨_, rfl⟩
  induction n generalizing nFrom with
  | zero =>
      rw [← hn, stretch_of_le (by omega)]
      rfl
  | succ n ih =>
      have hlt : nFrom < nTo := by omega
      obtain ⟨pcscf, hget⟩ : ∃ pcscf, x.objPcscfList[nFrom]? = some pcscf :=
        ⟨_, List.getElem?_eq_getElem (Nat.lt_of_lt_of_le hlt h)⟩
      have hrest := ih (nFrom + 1) (by omega)
      rw [show nTo - (nFrom + 1) = n by omega] at hrest
      rw [← hn, List.range'_succ, scan, stretch_succ hlt]
      unfold isAvailableAt at hrest ⊢
      rw [hget]
      show (if pcscf.bIsAvailable = true then some (some nFrom) else
        scan x.objPcscfList (List.range' (nFrom + 1) n)) = _
      cases hp : pcscf.bIsAvailable with
      | true =>
          simp only [if_true, Option.any_some, hp, List.head?_cons]
      | false =>
          simp only [Bool.false_eq_true, if_false, Option.any_some, hp]
          exact hrest

theorem getNextPcscfIndex_of_nil {bCircular : Bool} (h : x.objPcscfList = []) :
    x.getNextPcscfIndex bCircular = some none := if_pos h

theorem getNextPcscfIndex_of_following {bCircular : Bool} {nAt : Nat} {rest : List Nat}
    (h : x.following = nAt :: rest) : x.getNextPcscfIndex bCircular = some (some nAt) := by
  have hne : x.objPcscfList ≠ [] := by
    intro hnil
    have hempty : x.following = [] := by
      apply stretch_of_le
      rw [hnil]
      exact Nat.zero_le _
    rw [hempty] at h
    cases h
  have hscan : scan x.objPcscfList (List.range' (x.nCurrentPcscfIndex + 1)
      (x.objPcscfList.length - (x.nCurrentPcscfIndex + 1))) = some (some nAt) := by
    rw [scan_range' _ (Nat.le_refl _)]
    show some (List.head? x.following) = _
    rw [h]
    rfl
  unfold getNextPcscfIndex
  rw [if_neg hne]
  simp only [hscan]

theorem getNextPcscfIndex_of_not_following {bCircular : Bool} (hne : x.objPcscfList ≠ [])
    (h : x.following = []) :
    x.getNextPcscfIndex bCircular =
      if bCircular then scan x.objPcscfList (List.range (x.nCurrentPcscfIndex + 1))
      else some none := by
  have hscan : scan x.objPcscfList (List.range' (x.nCurrentPcscfIndex + 1)
      (x.objPcscfList.length - (x.nCurrentPcscfIndex + 1))) = some none := by
    rw [scan_range' _ (Nat.le_refl _)]
    show some (List.head? x.following) = _
    rw [h]
    rfl
  unfold getNextPcscfIndex
  rw [if_neg hne]
  simp only [hscan]

/-- Behind the end of the list the second loop reads outside of it, unless it finds an address
before. -/
theorem scan_range_succ (nAt : Nat) :
    scan x.objPcscfList (List.range (nAt + 1)) =
      if nAt < x.objPcscfList.length then some (stretch x.isAvailableAt 0 (nAt + 1)).head?
      else if x.available = [] then none
      else some x.available.head? := by
  rcases Nat.lt_or_ge nAt x.objPcscfList.length with hlt | hge
  · rw [if_pos hlt, List.range_eq_range']
    exact scan_range' 0 hlt
  · have hrange : List.range (nAt + 1) =
        List.range' 0 x.objPcscfList.length ++
          List.range' x.objPcscfList.length (nAt + 1 - x.objPcscfList.length) := by
      have happend := List.range'_append_1 (s := 0) (m := x.objPcscfList.length)
        (n := nAt + 1 - x.objPcscfList.length)
      rw [Nat.zero_add, Nat.add_sub_cancel' (Nat.le_succ_of_le hge)] at happend
      rw [List.range_eq_range']
      exact happend.symm
    have hfirst : scan x.objPcscfList (List.range' 0 x.objPcscfList.length) =
        some x.available.head? := scan_range' 0 (Nat.le_refl _)
    have hout : scan x.objPcscfList
        (List.range' x.objPcscfList.length (nAt + 1 - x.objPcscfList.length)) = none := by
      rw [show nAt + 1 - x.objPcscfList.length = (nAt - x.objPcscfList.length) + 1 by omega,
        List.range'_succ, scan, List.getElem?_eq_none (Nat.le_refl _)]
    rw [if_neg (Nat.not_lt.mpr hge), hrange, scan_append, hfirst]
    cases havailable : x.available with
    | nil =>
        rw [if_pos rfl]
        exact hout
    | cons first rest =>
        rw [if_neg (List.cons_ne_nil _ _)]
        rfl

/-! ### Taking the next address -/

/-- `GetNextPcscf` where it finds one. -/
def taking (bCircular : Bool) (x : AosPcscf) : Option (Nat × AosPcscf) :=
  (x.getNextPcscf bCircular).getD none

theorem taking_eq {bCircular : Bool} :
    taking bCircular x = ((x.getNextPcscfIndex bCircular).getD none).map fun nAt =>
      (nAt, { x with nCurrentPcscfIndex := nAt }) := by
  unfold taking getNextPcscf
  cases x.getNextPcscfIndex bCircular <;> rfl

theorem taking_next : taking false x = x.following.head?.map fun nAt =>
    (nAt, { x with nCurrentPcscfIndex := nAt }) := by
  rw [taking_eq]
  cases hfollowing : x.following with
  | cons nAt rest =>
      rw [getNextPcscfIndex_of_following hfollowing]
      rfl
  | nil =>
      by_cases hnil : x.objPcscfList = []
      · rw [getNextPcscfIndex_of_nil hnil]
        rfl
      · rw [getNextPcscfIndex_of_not_following hnil hfollowing]
        rfl

theorem taking_around : taking true x = x.around.head?.map fun nAt =>
    (nAt, { x with nCurrentPcscfIndex := nAt }) := by
  have haround : x.around = x.following ++
      stretch x.isAvailableAt 0 (min (x.nCurrentPcscfIndex + 1) x.objPcscfList.length) := rfl
  rw [taking_eq, haround]
  cases hfollowing : x.following with
  | cons nAt rest =>
      rw [getNextPcscfIndex_of_following hfollowing]
      rfl
  | nil =>
      rw [List.nil_append]
      by_cases hnil : x.objPcscfList = []
      · have hempty : stretch x.isAvailableAt 0
            (min (x.nCurrentPcscfIndex + 1) x.objPcscfList.length) = [] := by
          apply stretch_of_le
          rw [hnil]
          exact Nat.min_le_right _ _
        rw [getNextPcscfIndex_of_nil hnil, hempty]
        rfl
      · rw [getNextPcscfIndex_of_not_following hnil hfollowing, if_pos rfl, scan_range_succ]
        rcases Nat.lt_or_ge x.nCurrentPcscfIndex x.objPcscfList.length with hlt | hge
        · rw [if_pos hlt, Nat.min_eq_left hlt]
          rfl
        · rw [if_neg (Nat.not_lt.mpr hge), Nat.min_eq_right (Nat.le_succ_of_le hge)]
          show Option.map _ (Option.getD (if x.available = [] then none else _) none) =
            Option.map _ x.available.head?
          cases x.available with
          | nil => rfl
          | cons first rest => rfl

theorem shortens_following : Shortens (taking false) following where
  nil := by
    intro s h
    rw [taking_next, Option.map_eq_none_iff] at h
    exact List.head?_eq_none_iff.mp h
  cons := by
    intro s nAt s' h
    rw [taking_next] at h
    obtain ⟨first, hfirst, hs⟩ := Option.map_eq_some_iff.mp h
    obtain ⟨rfl, rfl⟩ := Prod.mk.inj hs
    obtain ⟨rest, hrest⟩ := List.head?_eq_some_iff.mp hfirst
    rw [hrest]
    exact congrArg (first :: ·) (after_of_cons hrest).symm

theorem turns_around : Turns (taking true) around where
  nil := by
    intro s h
    rw [taking_around, Option.map_eq_none_iff] at h
    exact List.head?_eq_none_iff.mp h
  cons := by
    intro s nAt s' h
    rw [taking_around] at h
    obtain ⟨first, hfirst, hs⟩ := Option.map_eq_some_iff.mp h
    obtain ⟨rfl, rfl⟩ := Prod.mk.inj hs
    obtain ⟨rest, hrest⟩ := List.head?_eq_some_iff.mp hfirst
    exact ⟨rest, hrest, round_of_cons hrest⟩

/-! ### Reads outside the list -/

theorem getCurrentPcscf_eq_none_iff : x.getCurrentPcscf = none ↔ x.objPcscfList = [] := by
  unfold getCurrentPcscf
  constructor
  · intro h
    apply by_contra
    intro hne
    rcases Nat.lt_or_ge (x.objPcscfList.length - 1) x.nCurrentPcscfIndex with hlt | hge
    · rw [if_pos ⟨hne, hlt⟩] at h
      cases h
    · have hpos : 0 < x.objPcscfList.length := List.length_pos_iff.mpr hne
      rw [if_neg (fun hand => Nat.not_lt.mpr hge hand.2),
        List.getElem?_eq_getElem (show x.nCurrentPcscfIndex < x.objPcscfList.length by omega)] at h
      cases h
  · intro hnil
    rw [if_neg (fun hand => hand.1 hnil), hnil]
    rfl

theorem checkAndProcessChangeFromPco_eq_none_iff {Ip : Type u} (ips : IpAddressClass Ip)
    (env : Environment Ip) :
    x.checkAndProcessChangeFromPco ips env = none ↔ x.objPcscfList = [] := by
  rw [← getCurrentPcscf_eq_none_iff]
  unfold checkAndProcessChangeFromPco
  cases hcurrent : x.getCurrentPcscf with
  | none => exact ⟨fun _ => rfl, fun _ => rfl⟩
  | some found =>
      constructor
      · intro h
        exfalso
        revert h
        cases found with
        | none => exact Option.some_ne_none _
        | some current =>
            dsimp only
            split
            · exact Option.some_ne_none _
            · split
              · split
                · exact Option.some_ne_none _
                · exact Option.some_ne_none _
              · split
                · exact Option.some_ne_none _
                · split
                  · exact Option.some_ne_none _
                  · exact Option.some_ne_none _
      · intro h
        cases h

theorem getNextPcscf_eq_none_iff {bCircular : Bool} :
    x.getNextPcscf bCircular = none ↔
      bCircular = true ∧ x.objPcscfList ≠ [] ∧ x.objPcscfList.length ≤ x.nCurrentPcscfIndex ∧
        x.available = [] := by
  unfold getNextPcscf
  rw [Option.map_eq_none_iff]
  constructor
  · intro h
    have hne : x.objPcscfList ≠ [] := by
      intro hnil
      rw [getNextPcscfIndex_of_nil hnil] at h
      cases h
    cases hfollowing : x.following with
    | cons nAt rest =>
        rw [getNextPcscfIndex_of_following hfollowing] at h
        cases h
    | nil =>
        rw [getNextPcscfIndex_of_not_following hne hfollowing] at h
        cases bCircular with
        | false => cases h
        | true =>
            rw [if_pos rfl, scan_range_succ] at h
            rcases Nat.lt_or_ge x.nCurrentPcscfIndex x.objPcscfList.length with hlt | hge
            · rw [if_pos hlt] at h
              cases h
            · rw [if_neg (Nat.not_lt.mpr hge)] at h
              refine ⟨rfl, hne, hge, ?_⟩
              apply by_contra
              intro havailable
              rw [if_neg havailable] at h
              cases h
  · rintro ⟨rfl, hne, hge, havailable⟩
    have hfollowing : x.following = [] := stretch_of_le (Nat.le_succ_of_le hge)
    rw [getNextPcscfIndex_of_not_following hne hfollowing, if_pos rfl, scan_range_succ,
      if_neg (Nat.not_lt.mpr hge), if_pos havailable]

/-! ### A change from the network -/

variable {Ip : Type u} (ips : IpAddressClass Ip) (env : Environment Ip)

theorem addPcscf_head? (objIpa : Ip) (strHost : Chars) (nPort : Int) {pcscf : Pcscf}
    (h : x.objPcscfList.head? = some pcscf) :
    (addPcscf ips x objIpa strHost nPort).objPcscfList.head? = some pcscf := by
  unfold addPcscf
  split
  · exact h
  · show (x.objPcscfList ++ _).head? = some pcscf
    rw [List.head?_append, h]
    rfl

theorem updatePcscfsWithPort_head? (strPcscf : Chars) (objPcscfs : List Chars) (nPort : Int) :
    (updatePcscfsWithPort ips x (strPcscf :: objPcscfs) nPort).objPcscfList.head? =
      some (Pcscf.new (ips.toText (ips.ofText strPcscf)) nPort) := by
  have hfold : ∀ (objPcscfs : List Chars) (y : AosPcscf) (pcscf : Pcscf),
      y.objPcscfList.head? = some pcscf →
      (objPcscfs.foldl (fun x strPcscf =>
        addPcscf ips x (ips.ofText strPcscf) (ips.toText (ips.ofText strPcscf)) nPort)
          y).objPcscfList.head? = some pcscf := by
    intro objPcscfs
    induction objPcscfs with
    | nil =>
        intro y pcscf h
        exact h
    | cons strCurr objPcscfs ih =>
        intro y pcscf h
        exact ih _ _ (addPcscf_head? ips _ _ _ h)
  unfold updatePcscfsWithPort
  rw [List.foldl_cons]
  apply hfold
  rfl

/-- The current address, as an operation that finds one leaves it. -/
def currentAddress (x : AosPcscf) : Option Chars := (x.getCurrentPcscf.getD none).map Prod.fst

theorem currentAddress_of_head? {pcscf : Pcscf} (hindex : x.nCurrentPcscfIndex = 0)
    (h : x.objPcscfList.head? = some pcscf) : x.currentAddress = some pcscf.strAddress := by
  obtain ⟨rest, hlist⟩ := List.head?_eq_some_iff.mp h
  unfold currentAddress getCurrentPcscf
  rw [hindex, if_neg (fun hand => absurd hand.2 (Nat.not_lt_zero _)), hlist]
  rfl

/-- The addresses of the network, of the version of the current one, have it among them. -/
def NetworkKeeps (strCurrentPcscf : Chars) : Prop :=
  isStrExistInList ips strCurrentPcscf
    (getChangedPcscfs ips env (ips.version (ips.ofText strCurrentPcscf))) = true

theorem processReorder_head? {strCurrentPcscf : Chars} {objNewPcscfs : List Chars}
    (h : isStrExistInList ips strCurrentPcscf objNewPcscfs = true) :
    (processReorder ips env x strCurrentPcscf objNewPcscfs).objPcscfList.head? =
      some (Pcscf.new (ips.toText (ips.ofText strCurrentPcscf)) env.pcscfPort) := by
  have hfind : (objNewPcscfs.findIdx? fun strCurr =>
      ips.equals (ips.ofText strCurr) (ips.ofText strCurrentPcscf)).isSome = true := by
    rw [List.findIdx?_isSome]
    exact h
  obtain ⟨nCurrentIndex, hindex⟩ := Option.isSome_iff_exists.mp hfind
  unfold processReorder
  simp only [hindex]
  exact updatePcscfsWithPort_head? ips _ _ _

/-- An address that the network keeps stays the current one, in its own text or in the text of
its value. -/
theorem currentAddress_of_networkKeeps {strCurrentPcscf : Chars} {x' : AosPcscf} {bChanged : Bool}
    (hcurrent : x.currentAddress = some strCurrentPcscf)
    (hkeeps : NetworkKeeps ips env strCurrentPcscf)
    (h : x.checkAndProcessChangeFromPco ips env = some (x', bChanged)) :
    x'.currentAddress = some strCurrentPcscf ∨
      x'.currentAddress = some (ips.toText (ips.ofText strCurrentPcscf)) := by
  obtain ⟨current, hget, rfl⟩ := Option.map_eq_some_iff.mp hcurrent
  have hsome : x.getCurrentPcscf = some (some current) := by
    cases hx : x.getCurrentPcscf with
    | none =>
        rw [hx] at hget
        cases hget
    | some found =>
        rw [hx] at hget
        exact congrArg some hget
  have hsame : ∀ {bResult : Bool}, some (x, bResult) = some (x', bChanged) →
      x'.currentAddress = some current.1 := by
    intro bResult hx
    obtain ⟨rfl, -⟩ := Prod.mk.inj (Option.some.inj hx)
    exact hcurrent
  unfold checkAndProcessChangeFromPco at h
  simp only [hsome] at h
  unfold NetworkKeeps at hkeeps
  split at h
  · exact .inl (hsame h)
  · split at h
    · rename_i hnew
      rw [hnew] at hkeeps
      cases hkeeps
    · split at h
      · exact .inl (hsame h)
      · obtain ⟨rfl, -⟩ := Prod.mk.inj (Option.some.inj h)
        right
        refine @currentAddress_of_head? _
          (Pcscf.new (ips.toText (ips.ofText current.1)) env.pcscfPort) rfl ?_
        exact processReorder_head? ips env hkeeps

end AosPcscf

/-! ### Runs -/

variable {Ip : Type u} (ips : IpAddressClass Ip)

inductive PcscfEvent (Ip : Type u) where
  | configure (env : Environment Ip) (nIpVersion : IpVersion)
  | updatePcscfs (env : Environment Ip) (objPcscfs : List Chars) (objPorts : List Int)
  | dnsRetryTimerExpired (env : Environment Ip)
  | setCurrentPcscfInvalid (bIsTimer : Bool) (nSeconds : Nat)
  | removeCurrentPcscf
  | setAllPcscfValid
  | blockTimerExpired (nAt : Nat)
  | getCurrentPcscf
  | getFirstPcscf
  | getNextPcscf (bCircular : Bool)
  | setFirstPcscfIndex
  | checkAndProcessChangeFromPco (env : Environment Ip)

/-- The addresses, and whether the current one was removed since it was taken. -/
structure PcscfRotation where
  pcscfs : AosPcscf
  bCurrentRemoved : Bool
  deriving DecidableEq, Repr

namespace PcscfRotation

open AosPcscf

def new : PcscfRotation := ⟨AosPcscf.new, false⟩

/-- An operation that is none reads the list outside its bounds. -/
def step (event : PcscfEvent Ip) (x : PcscfRotation) : Option PcscfRotation :=
  match event with
  | .configure env nIpVersion => some ⟨x.pcscfs.configure ips env nIpVersion, false⟩
  | .updatePcscfs env objPcscfs objPorts =>
      some ⟨x.pcscfs.updatePcscfs ips env objPcscfs objPorts, false⟩
  | .dnsRetryTimerExpired env =>
      some { x with pcscfs := x.pcscfs.processDnsRetryTimerExpired ips env }
  | .setCurrentPcscfInvalid bIsTimer nSeconds =>
      some { x with pcscfs := x.pcscfs.setCurrentPcscfInvalid bIsTimer nSeconds }
  | .removeCurrentPcscf =>
      some
        ⟨x.pcscfs.removeCurrentPcscf,
          x.bCurrentRemoved ||
            decide (x.pcscfs.nCurrentPcscfIndex < x.pcscfs.objPcscfList.length)⟩
  | .setAllPcscfValid => some { x with pcscfs := x.pcscfs.setAllPcscfValid }
  | .blockTimerExpired nAt => some { x with pcscfs := x.pcscfs.blockTimerExpired nAt }
  | .getCurrentPcscf => x.pcscfs.getCurrentPcscf.map fun _ => x
  | .getFirstPcscf =>
      some ⟨x.pcscfs.getFirstPcscf.1, x.bCurrentRemoved && !x.pcscfs.getFirstPcscf.2⟩
  | .getNextPcscf bCircular =>
      (x.pcscfs.getNextPcscf bCircular).map fun found =>
        (found.map fun taken => ⟨taken.2, false⟩).getD x
  | .setFirstPcscfIndex => some ⟨x.pcscfs.setFirstPcscfIndex, false⟩
  | .checkAndProcessChangeFromPco env =>
      (x.pcscfs.checkAndProcessChangeFromPco ips env).map fun changed =>
        ⟨changed.1, x.bCurrentRemoved && !changed.2⟩

/-- The state after the operations, unless one of them reads the list outside its bounds. -/
def run (events : List (PcscfEvent Ip)) : Option PcscfRotation :=
  events.foldlM (fun x event => step ips event x) new

/-- An operation that reads the list inside its bounds. -/
def InBounds (event : PcscfEvent Ip) (x : PcscfRotation) : Prop := step ips event x ≠ none

/-- What the network keeps as an address stays the current one. -/
def KeepsCurrent (x : PcscfRotation) : Prop :=
  ∀ (env : Environment Ip) (strCurrentPcscf : Chars) (x' : AosPcscf) (bChanged : Bool),
    x.pcscfs.currentAddress = some strCurrentPcscf → NetworkKeeps ips env strCurrentPcscf →
    x.pcscfs.checkAndProcessChangeFromPco ips env = some (x', bChanged) →
    x'.currentAddress = some strCurrentPcscf ∨
      x'.currentAddress = some (ips.toText (ips.ofText strCurrentPcscf))

/-- The available addresses behind the current one; behind a removed one comes the one at its
index. -/
def remaining (x : PcscfRotation) : List Nat :=
  if x.bCurrentRemoved then
    stretch x.pcscfs.isAvailableAt x.pcscfs.nCurrentPcscfIndex x.pcscfs.objPcscfList.length
  else x.pcscfs.following

/-- Taking the next address comes by the remaining ones until none is left, and under the
circular policy by each available one once in a round. -/
def IsComplete (x : PcscfRotation) : Prop :=
  (∀ n, x.pcscfs.objPcscfList.length ≤ n → visits (taking false) n x.pcscfs = x.remaining) ∧
    (visits (taking true) x.pcscfs.available.length x.pcscfs).Perm x.pcscfs.available

/-- The list is read without a look at its size. -/
def LeavesList (event : PcscfEvent Ip) (x : PcscfRotation) : Prop :=
  match event with
  | .getCurrentPcscf => x.pcscfs.objPcscfList = []
  | .checkAndProcessChangeFromPco _ => x.pcscfs.objPcscfList = []
  | .getNextPcscf bCircular =>
      bCircular = true ∧ x.pcscfs.objPcscfList ≠ [] ∧
        x.pcscfs.objPcscfList.length ≤ x.pcscfs.nCurrentPcscfIndex ∧ x.pcscfs.available = []
  | _ => False

/-- An available address came to the index of the removed one. -/
def IsShifted (x : PcscfRotation) : Prop :=
  x.bCurrentRemoved = true ∧ x.pcscfs.isAvailableAt x.pcscfs.nCurrentPcscfIndex = true

variable {ips} {x : PcscfRotation}

theorem inBounds_iff (event : PcscfEvent Ip) : InBounds ips event x ↔ ¬LeavesList event x := by
  unfold InBounds
  apply not_congr
  cases event with
  | getCurrentPcscf =>
      unfold step
      rw [Option.map_eq_none_iff]
      exact getCurrentPcscf_eq_none_iff
  | checkAndProcessChangeFromPco env =>
      unfold step
      rw [Option.map_eq_none_iff]
      exact checkAndProcessChangeFromPco_eq_none_iff ips env
  | getNextPcscf bCircular =>
      unfold step
      rw [Option.map_eq_none_iff]
      exact getNextPcscf_eq_none_iff
  | _ => exact ⟨fun h => absurd h (Option.some_ne_none _), False.elim⟩

theorem following_length_le : x.pcscfs.following.length ≤ x.pcscfs.objPcscfList.length := by
  calc x.pcscfs.following.length
      ≤ (List.range' (x.pcscfs.nCurrentPcscfIndex + 1)
          (x.pcscfs.objPcscfList.length - (x.pcscfs.nCurrentPcscfIndex + 1))).length :=
        List.length_filter_le _ _
    _ = x.pcscfs.objPcscfList.length - (x.pcscfs.nCurrentPcscfIndex + 1) := List.length_range'
    _ ≤ x.pcscfs.objPcscfList.length := Nat.sub_le _ _

theorem remaining_eq_following_iff : x.pcscfs.following = x.remaining ↔ ¬x.IsShifted := by
  unfold remaining IsShifted
  cases x.bCurrentRemoved with
  | false =>
      rw [if_neg Bool.false_ne_true]
      constructor
      · rintro - ⟨hremoved, -⟩
        cases hremoved
      · intro _
        rfl
  | true =>
      rw [if_pos rfl]
      constructor
      · rintro h ⟨-, hshifted⟩
        have hmem : x.pcscfs.nCurrentPcscfIndex ∈ x.pcscfs.following := by
          rw [h]
          refine mem_stretch.mpr ⟨Nat.le_refl _, ?_, hshifted⟩
          apply Nat.lt_of_not_le
          intro hle
          unfold isAvailableAt at hshifted
          rw [List.getElem?_eq_none hle] at hshifted
          cases hshifted
        have hlt := (mem_stretch.mp hmem).1
        exact absurd hlt (Nat.not_succ_le_self _)
      · intro h
        have hnot : ¬x.pcscfs.isAvailableAt x.pcscfs.nCurrentPcscfIndex = true := fun hshifted =>
          h ⟨rfl, hshifted⟩
        rcases Nat.lt_or_ge x.pcscfs.nCurrentPcscfIndex x.pcscfs.objPcscfList.length with hlt | hge
        · rw [stretch_succ hlt, if_neg hnot]
          rfl
        · rw [stretch_of_le hge]
          exact stretch_of_le (Nat.le_succ_of_le hge)

theorem isComplete_iff : x.IsComplete ↔ ¬x.IsShifted := by
  rw [← remaining_eq_following_iff]
  have hvisits : ∀ n, x.pcscfs.objPcscfList.length ≤ n →
      visits (taking false) n x.pcscfs = x.pcscfs.following := fun n hn =>
    shortens_following.visits_eq (Nat.le_trans following_length_le hn)
  have hround : (visits (taking true) x.pcscfs.available.length x.pcscfs).Perm
      x.pcscfs.available := by
    have hperm : x.pcscfs.around.Perm x.pcscfs.available := round_perm
    rw [← hperm.length_eq, turns_around.visits_eq]
    exact hperm
  constructor
  · rintro ⟨hnext, -⟩
    rw [← hvisits _ (Nat.le_refl _)]
    exact hnext _ (Nat.le_refl _)
  · intro h
    refine ⟨?_, hround⟩
    intro n hn
    rw [hvisits n hn]
    exact h

/-! ### What holds in every run -/

theorem run_eq_none_iff {events : List (PcscfEvent Ip)} :
    run ips events = none ↔
      ∃ before event rest x, events = before ++ event :: rest ∧ run ips before = some x ∧
        LeavesList event x := by
  have hstep : ∀ {event : PcscfEvent Ip} {x : PcscfRotation},
      step ips event x = none ↔ LeavesList event x := fun {event x} =>
    not_iff_not.mp (inBounds_iff event)
  unfold run
  rw [foldlM_eq_none_iff]
  constructor
  · rintro ⟨before, event, rest, x, hevents, hbefore, hevent⟩
    exact ⟨before, event, rest, x, hevents, hbefore, hstep.mp hevent⟩
  · rintro ⟨before, event, rest, x, hevents, hbefore, hevent⟩
    exact ⟨before, event, rest, x, hevents, hbefore, hstep.mpr hevent⟩

/-- A run reads the list inside its bounds unless one of its operations reads without a look at
its size.  In the state it comes to, an address that the network keeps stays the current one,
and taking the next address is complete unless an available one came to the index of the removed
one. -/
theorem pcscfs_rotate (events : List (PcscfEvent Ip)) :
    (run ips events = none ↔
      ∃ before event rest x, events = before ++ event :: rest ∧ run ips before = some x ∧
        LeavesList event x) ∧
      ∀ x, run ips events = some x → x.KeepsCurrent ips ∧ (x.IsComplete ↔ ¬x.IsShifted) := by
  refine ⟨run_eq_none_iff, ?_⟩
  intro x _
  refine ⟨?_, isComplete_iff⟩
  intro env strCurrentPcscf x' bChanged hcurrent hkeeps hx
  exact currentAddress_of_networkKeeps ips env hcurrent hkeeps hx

section Addresses

/-- Addresses of IPv4 in the text that is written of them. -/
def dottedAddresses : IpAddressClass Chars where
  parse _ := true
  ofText strAddress := strAddress
  version _ := .ipv4
  isAnyAddress _ := false
  equals objIpa objIpa' := decide (objIpa = objIpa')
  toText objIpa := objIpa

def dottedAddress (nLast : Char) : Chars :=
  ['1', '0', '.', '0', '.', '0', '.', nLast]

/-- A network that gives no address. -/
def silentNetwork : Environment Chars where
  pcscfAddress _ := []
  localIpVersion := .ipv4
  isLocalAddressValid _ := true
  discoveryMethods := []
  pcscfAddresses := []
  pcscfAddressesFromIsim := []
  getHostByName _ _ := none
  pcscfPort := 5060
  defaultPcscfPort := 5060

/-- Three addresses, the first of which is removed. -/
def removedFirst : List (PcscfEvent Chars) :=
  [.updatePcscfs silentNetwork [dottedAddress '1', dottedAddress '2', dottedAddress '3'] [],
    .removeCurrentPcscf]

/-- The addresses that are left, before any is taken. -/
def removedFirstState : PcscfRotation :=
  ⟨{ AosPcscf.new with
      objPcscfList := [Pcscf.new (dottedAddress '2') 5060, Pcscf.new (dottedAddress '3') 5060] },
    true⟩

theorem run_removedFirst : run dottedAddresses removedFirst = some removedFirstState := by
  decide

theorem pcscfs_rotate_removed :
    run dottedAddresses removedFirst = some removedFirstState ∧
      removedFirstState.KeepsCurrent dottedAddresses ∧
      (removedFirstState.IsComplete ↔ ¬removedFirstState.IsShifted) :=
  ⟨run_removedFirst, (pcscfs_rotate removedFirst).2 _ run_removedFirst⟩

/-- Nothing is configured, and the current address is asked for; and the address behind the
removed one is not taken. -/
theorem pcscfs_notRotate :
    ¬(∀ events : List (PcscfEvent Chars),
      run dottedAddresses events ≠ none ∧
        ∀ x, run dottedAddresses events = some x →
          x.KeepsCurrent dottedAddresses ∧ x.IsComplete) ∧
      run dottedAddresses [.getCurrentPcscf] = none ∧ ¬removedFirstState.IsComplete := by
  have hnone : run dottedAddresses [.getCurrentPcscf] = none := rfl
  refine ⟨?_, hnone, ?_⟩
  · intro h
    exact (h [.getCurrentPcscf]).1 hnone
  · rw [isComplete_iff]
    exact not_not_intro ⟨rfl, rfl⟩

end Addresses

end PcscfRotation

end ImsStack.Aos
