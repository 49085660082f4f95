import ImsStack.Call.CallConnectionIdManager
import ImsStack.Library.FirstGap
import Mathlib.Data.List.Nodup
import Mathlib.Data.List.Perm.Basic
import Mathlib.Tactic.ByContra

/-!
The registered calls of `CallConnectionIdManager` and their identifiers, over every run in
which fewer than 2^31 calls are registered at a time.
-/

namespace ImsStack.CallConnection

open ImsStack.Call
open ImsStack.Library
open ImsStack.Library.BoundedInt
open ImsStack.Library.FirstGap
open TransitionSystem

section Lists

variable {α : Type} {items : List α}

theorem getSize_eq (h : items.length < 2 ^ 32) : getSize items = items.length :=
  Nat.mod_eq_of_lt h

theorem visited_eq (h : items.length < 2 ^ 32) : visited items = items := by
  rw [visited, getSize_eq h, List.take_length]

theorem wrap_natCast {n : Nat} (h : n < 2 ^ 31) : wrap (n : Int) = n := by
  apply wrap_of_fits
  unfold Fits
  omega

theorem exists_removeAt {nIndex : Nat} (h : items.length < 2 ^ 31)
    (hlt : nIndex < items.length) :
    ∃ rest, removeAt items nIndex = some rest ∧ rest.Sublist items ∧
      items.length = rest.length + 1 := by
  unfold removeAt
  rw [getSize_eq (by omega)]
  by_cases hlast : nIndex = 0 ∧ items.length = 1
  · rw [if_pos hlast]
    exact ⟨[], rfl, List.nil_sublist items, hlast.2⟩
  · rw [if_neg hlast, if_pos hlt]
    refine ⟨_, rfl, List.eraseIdx_sublist items nIndex, ?_⟩
    rw [List.length_eraseIdx_of_lt hlt]
    omega

theorem listIndex_of_none (found : α → Bool) (h : items.length < 2 ^ 32)
    (habsent : ∀ x ∈ items, found x = false) : listIndex found items = -1 := by
  unfold listIndex
  rw [visited_eq h, List.findIdx?_eq_none_iff.mpr habsent]

theorem listIndex_of_first (found : α → Bool) (h : items.length < 2 ^ 32) {i : Nat}
    (hi : i < items.length) (hfound : found items[i] = true)
    (hbefore : ∀ j (hj : j < i), found (items[j]) = false) :
    listIndex found items = wrap (i : Int) := by
  unfold listIndex
  rw [visited_eq h, List.findIdx?_eq_some_iff_getElem.mpr
    ⟨hi, hfound, fun j hj => by rw [hbefore j hj]; exact Bool.false_ne_true⟩]

theorem listIndex_cases (found : α → Bool) (h : items.length < 2 ^ 31) :
    (listIndex found items = -1 ∧ ∀ x ∈ items, found x = false) ∨
      ∃ i : Nat, listIndex found items = (i : Int) ∧ ∃ hi : i < items.length,
        found items[i] = true := by
  unfold listIndex
  rw [visited_eq (by omega)]
  cases hindex : items.findIdx? found with
  | none => exact Or.inl ⟨rfl, List.findIdx?_eq_none_iff.mp hindex⟩
  | some i =>
    obtain ⟨hi, hfound, -⟩ := List.findIdx?_eq_some_iff_getElem.mp hindex
    exact Or.inr ⟨i, wrap_natCast (by omega), hi, hfound⟩

end Lists

section Connections

variable {connections : List CallKeyConnection}

theorem exists_removeKeyConnectionId {i : Nat} (h : connections.length < 2 ^ 31)
    (hi : i < connections.length) :
    ∃ rest, removeKeyConnectionId connections i = some rest ∧ rest.Sublist connections ∧
      connections.length = rest.length + 1 := by
  unfold removeKeyConnectionId
  rw [if_neg (by omega), Int.toNat_natCast, List.getElem?_eq_getElem hi]
  exact exists_removeAt h hi

theorem exists_remove_listIndex (found : CallKeyConnection → Bool)
    (h : connections.length < 2 ^ 31) :
    ∃ rest, removeKeyConnectionId connections (listIndex found connections) = some rest ∧
      rest.Sublist connections := by
  rcases listIndex_cases found h with ⟨hindex, -⟩ | ⟨i, hindex, hi, -⟩
  · rw [hindex]
    exact ⟨connections, rfl, List.Sublist.refl connections⟩
  · rw [hindex]
    obtain ⟨rest, hrest, hsub, -⟩ := exists_removeKeyConnectionId h hi
    exact ⟨rest, hrest, hsub⟩

theorem exists_clearLoop (answers : StatusAnswers) (controller i : Nat) :
    ∀ connections : List CallKeyConnection, connections.length < 2 ^ 31 →
      i ≤ connections.length →
      ∃ rest, clearLoop answers controller i connections = some rest ∧
        rest.Sublist connections := by
  induction i with
  | zero => exact fun connections _ _ => ⟨connections, rfl, List.Sublist.refl connections⟩
  | succ i ih =>
    intro connections h hi
    unfold clearLoop
    rw [List.getElem?_eq_getElem hi]
    by_cases hidle : answers .clearConnectionIds i controller connections[i].nKey = .idle
    · obtain ⟨rest, hrest, hsub⟩ := ih connections h (Nat.le_of_succ_le hi)
      exact ⟨rest, (if_pos hidle).trans hrest, hsub⟩
    · obtain ⟨mid, hmid, hsubMid, hlength⟩ := exists_removeKeyConnectionId h hi
      obtain ⟨rest, hrest, hsub⟩ := ih mid (by omega) (by omega)
      refine ⟨rest, (if_neg hidle).trans ?_, hsub.trans hsubMid⟩
      rw [hmid]
      exact hrest

theorem exists_removeAllLoop (i : Nat) :
    ∀ connections : List CallKeyConnection, connections.length < 2 ^ 31 →
      i ≤ connections.length → ∃ rest, removeAllLoop i connections = some rest := by
  induction i with
  | zero => exact fun connections _ _ => ⟨connections, rfl⟩
  | succ i ih =>
    intro connections h hi
    obtain ⟨mid, hmid, -, hlength⟩ := exists_removeKeyConnectionId h hi
    obtain ⟨rest, hrest⟩ := ih mid (by omega) (by omega)
    refine ⟨rest, ?_⟩
    rw [removeAllLoop, hmid]
    exact hrest

theorem newIndexLoop_eq (i : Nat) (h : i + connections.length + 1 < 2 ^ 32) :
    newIndexLoop i connections =
      if gap CallKeyConnection.nConnectionId (i + 1) connections = connections.length then none
      else some (i + 1 + gap CallKeyConnection.nConnectionId (i + 1) connections) := by
  have huint : uint32 (i + 1) = i + 1 := Nat.mod_eq_of_lt (by omega)
  induction connections generalizing i with
  | nil => rfl
  | cons c rest ih =>
    rw [List.length_cons] at h
    unfold newIndexLoop
    rw [huint]
    by_cases hc : c.nConnectionId = i + 1
    · rw [if_pos hc, gap_cons_of_eq hc, List.length_cons,
        ih (i + 1) (by omega) (Nat.mod_eq_of_lt (by omega))]
      by_cases hgap : gap CallKeyConnection.nConnectionId (i + 1 + 1) rest = rest.length
      · rw [if_pos hgap, if_pos (by omega)]
      · rw [if_neg hgap, if_neg (by omega)]
        congr 1
        omega
    · rw [if_neg hc, gap_cons_of_ne hc, List.length_cons, if_neg (by omega), Nat.add_zero]

/-- `GetNewIndex` is the first identifier from 1 on that no entry of a sorted list has. -/
theorem getNewIndex_eq (h : connections.length + 1 < 2 ^ 32) :
    getNewIndex connections =
      some (1 + gap CallKeyConnection.nConnectionId 1 connections) := by
  unfold getNewIndex
  by_cases hempty : connections = []
  · rw [hempty]
    rfl
  · have hpos : 0 < connections.length := List.length_pos_of_ne_nil hempty
    have hisEmpty : connections.isEmpty = false := by
      rw [List.isEmpty_eq_false_iff]
      exact hempty
    rw [hisEmpty, if_neg Bool.false_ne_true, visited_eq (by omega), getSize_eq (by omega),
      newIndexLoop_eq 0 (by omega)]
    by_cases hgap :
        gap CallKeyConnection.nConnectionId (0 + 1) connections = connections.length
    · rw [if_pos hgap]
      rw [Nat.zero_add] at hgap
      have hlast : connections[connections.length - 1].nConnectionId =
          1 + (connections.length - 1) :=
        number_getElem_of_lt_gap (by rw [hgap]; omega) (by omega)
      change (connections[connections.length - 1]?).map _ = _
      rw [List.getElem?_eq_getElem (by omega), Option.map_some, hlast, hgap]
      congr 1
      exact (Nat.mod_eq_of_lt (by omega)).trans (by omega)
    · rw [if_neg hgap]

/-- The identifier a call that is registered now would get. -/
def freeId (connections : List CallKeyConnection) : Nat :=
  1 + gap CallKeyConnection.nConnectionId 1 connections

/-- What one event can do to the list: entries go, or one call that was not there is
registered at the first gap. -/
inductive Change (before : List CallKeyConnection) : List CallKeyConnection → Prop where
  | removed {rest : List CallKeyConnection} : rest.Sublist before → Change before rest
  | added (nCallKey : Nat) : (∀ c ∈ before, c.nKey ≠ nCallKey) →
      Change before (before.insertIdx (freeId before - 1) ⟨nCallKey, freeId before⟩)

theorem Change.refl : Change connections connections :=
  .removed (List.Sublist.refl connections)

theorem exists_addKeyConnectionId (h : connections.length < 2 ^ 31) (nCallKey : Nat) :
    ∃ after, addKeyConnectionId connections nCallKey = some after ∧
      Change connections after := by
  unfold addKeyConnectionId getListIndexByCallKey
  rcases listIndex_cases (fun c => c.nKey == nCallKey) h with ⟨hindex, habsent⟩ | ⟨i, hindex, -⟩
  · rw [hindex, if_neg (by decide), getNewIndex_eq (by omega)]
    have hnew : ∀ c ∈ connections, c.nKey ≠ nCallKey :=
      fun c hc => ne_of_beq_false (habsent c hc)
    have hle : gap CallKeyConnection.nConnectionId 1 connections ≤ connections.length :=
      gap_le_length
    refine ⟨_, ?_, Change.added nCallKey hnew⟩
    change (if getSize connections < freeId connections then _ else _) = _
    rw [getSize_eq (by omega)]
    unfold freeId at *
    by_cases happend :
        connections.length < 1 + gap CallKeyConnection.nConnectionId 1 connections
    · rw [if_pos happend]
      have hgap : 1 + gap CallKeyConnection.nConnectionId 1 connections - 1 =
          connections.length := by omega
      rw [hgap, List.insertIdx_length_self]
    · rw [if_neg happend, insertAt, getSize_eq (by omega), if_neg (by omega)]
  · rw [hindex, if_pos (by omega)]
    exact ⟨connections, rfl, Change.refl⟩

end Connections

section Handle

variable {m : Manager}

theorem exists_withConnections {connections : Option (List CallKeyConnection)}
    (h : ∃ after, connections = some after ∧ Change m.connections after) :
    ∃ m', m.withConnections connections = some m' ∧ Change m.connections m'.connections := by
  obtain ⟨after, hafter, hchange⟩ := h
  rw [hafter]
  exact ⟨_, rfl, hchange⟩

theorem exists_conferenceHost {answers : StatusAnswers} {nCallKey i j : Nat}
    {controllers : List Nat} (h : conferenceHostLoop answers nCallKey i controllers = some j) :
    i ≤ j ∧ j < i + controllers.length := by
  induction controllers generalizing i with
  | nil => exact absurd h.symm (Option.some_ne_none j)
  | cons controller rest ih =>
    unfold conferenceHostLoop at h
    rw [List.length_cons]
    split at h
    · have hij := Option.some.inj h
      omega
    · obtain ⟨hle, hlt⟩ := ih h
      omega

theorem exists_clearConnectionIds (h : m.connections.length < 2 ^ 31)
    {answers : StatusAnswers} {nCallKey j : Nat}
    (hhost : isConferenceHost answers m.controllers nCallKey = some j) :
    ∃ after, clearConnectionIdsInConference answers m j = some after ∧
      Change m.connections after := by
  have hj : j < m.controllers.length := by
    obtain ⟨-, hlt⟩ := exists_conferenceHost hhost
    have htake : (visited m.controllers).length ≤ m.controllers.length :=
      List.length_take_le' _ _
    omega
  unfold clearConnectionIdsInConference
  rw [List.getElem?_eq_getElem hj, getSize_eq (by omega)]
  change ∃ after, clearLoop answers _ (wrap (m.connections.length : Int)).toNat _ = _ ∧ _
  rw [wrap_natCast h, Int.toNat_natCast]
  obtain ⟨after, hafter, hsub⟩ :=
    exists_clearLoop answers m.controllers[j] m.connections.length m.connections h (Nat.le_refl _)
  exact ⟨after, hafter, .removed hsub⟩

theorem exists_onCallStateChanged (h : m.connections.length < 2 ^ 31)
    (answers : StatusAnswers) (nCallKey : Nat) (eState : CallStateName) :
    ∃ m', m.onCallStateChanged answers nCallKey eState = some m' ∧
      Change m.connections m'.connections := by
  have hremove := exists_remove_listIndex (fun c => c.nKey == nCallKey) h
  unfold Manager.onCallStateChanged
  by_cases hidle : eState = .idle
  · rw [if_pos hidle]
    exact ⟨m, rfl, Change.refl⟩
  rw [if_neg hidle]
  cases hhost : isConferenceHost answers m.controllers nCallKey with
  | some nControllerIndexOfHost =>
    by_cases hterminating : eState = .terminating
    · refine exists_withConnections (m := m) ?_ |>.imp fun m' hm' =>
        ⟨(if_pos hterminating).trans hm'.1, hm'.2⟩
      exact exists_clearConnectionIds h hhost
    · exact ⟨m, if_neg hterminating, Change.refl⟩
  | none =>
    by_cases hterminating : eState = .terminating
    · cases hparticipant : isConferenceParticipant answers m.controllers nCallKey with
      | true => exact ⟨m, by simp only [if_pos hterminating, if_true], Change.refl⟩
      | false =>
        simp only [if_pos hterminating, Bool.false_eq_true, if_false]
        obtain ⟨rest, hrest, hsub⟩ := hremove
        exact exists_withConnections ⟨rest, hrest, .removed hsub⟩
    · simp only [if_neg hterminating]
      by_cases hnew : eState = .outgoing ∨ eState = .incoming ∨ eState = .alerting
      · rw [if_pos hnew]
        exact exists_withConnections (exists_addKeyConnectionId h nCallKey)
      · rw [if_neg hnew]
        exact ⟨m, rfl, Change.refl⟩

theorem exists_onTotalCallStateChanged (h : m.connections.length < 2 ^ 31)
    (eState : CallStateName) :
    ∃ m', m.onTotalCallStateChanged eState = some m' ∧
      Change m.connections m'.connections := by
  unfold Manager.onTotalCallStateChanged
  by_cases hidle : eState = .idle
  · rw [if_neg (not_not_intro hidle), getSize_eq (by omega), wrap_natCast h, Int.toNat_natCast]
    obtain ⟨rest, hrest⟩ := exists_removeAllLoop _ m.connections h (Nat.le_refl _)
    rw [hrest]
    exact ⟨_, rfl, .removed (List.nil_sublist m.connections)⟩
  · rw [if_pos hidle]
    exact ⟨m, rfl, Change.refl⟩

/-- One event never leaves the range of the list, and changes it in one of the known ways. -/
theorem exists_handle (h : m.connections.length < 2 ^ 31) (e : ConnectionEvent) :
    ∃ m', m.handle e = some m' ∧ Change m.connections m'.connections := by
  cases e with
  | callStateChanged answers nCallKey eState =>
    exact exists_onCallStateChanged h answers nCallKey eState
  | totalCallStateChanged eState => exact exists_onTotalCallStateChanged h eState
  | conferenceCallStarted controller bStarted => exact ⟨_, rfl, Change.refl⟩
  | conferenceParticipantDisconnected nConnectionId =>
    obtain ⟨rest, hrest, hsub⟩ :=
      exists_remove_listIndex (fun c => c.nConnectionId == nConnectionId) h
    exact exists_withConnections ⟨rest, hrest, .removed hsub⟩

end Handle

/-- The list that the code keeps: sorted identifiers from 1 on, one entry for a call, and
identifiers that an `IMS_SINT32` can return. -/
structure Identified (connections : List CallKeyConnection) : Prop where
  ascending : Ascending CallKeyConnection.nConnectionId 1 connections
  keys : (connections.map CallKeyConnection.nKey).Nodup
  length_lt : connections.length < 2 ^ 31
  id_lt : ∀ c ∈ connections, c.nConnectionId < 2 ^ 31

/-- The registered calls and their identifiers determine each other. -/
structure IsBijection (connections : List CallKeyConnection) : Prop where
  increasing : connections.Pairwise fun c d => c.nConnectionId < d.nConnectionId
  positive : ∀ c ∈ connections, 1 ≤ c.nConnectionId
  getIndex_eq : ∀ c ∈ connections, getIndex connections c.nKey = c.nConnectionId
  getCallKey_eq : ∀ c ∈ connections, getCallKey connections c.nConnectionId = c.nKey

/-- What one event leaves as it was, and what a call registered by it gets. -/
structure Follows (before after : List CallKeyConnection) : Prop where
  keeps : ∀ c ∈ after, (∃ d ∈ before, d.nKey = c.nKey) → c ∈ before
  smallestFree : ∀ c ∈ after, (∀ d ∈ before, d.nKey ≠ c.nKey) →
    1 ≤ c.nConnectionId ∧ (∀ d ∈ before, d.nConnectionId ≠ c.nConnectionId) ∧
      ∀ n, 1 ≤ n → n < c.nConnectionId → ∃ d ∈ before, d.nConnectionId = n

section Run

variable {connections after : List CallKeyConnection}

theorem Identified.nil : Identified [] :=
  ⟨Ascending.nil, List.nodup_nil, by decide, fun _ h => absurd h List.not_mem_nil⟩

theorem mem_insertIdx_freeId (nCallKey : Nat) (c : CallKeyConnection) :
    c ∈ connections.insertIdx (freeId connections - 1) ⟨nCallKey, freeId connections⟩ ↔
      c = ⟨nCallKey, freeId connections⟩ ∨ c ∈ connections := by
  have hle : gap CallKeyConnection.nConnectionId 1 connections ≤ connections.length :=
    gap_le_length
  exact List.mem_insertIdx (by unfold freeId; omega)

theorem Identified.change (h : Identified connections) (hchange : Change connections after)
    (hlength : after.length < 2 ^ 31) : Identified after := by
  cases hchange with
  | removed hsub =>
    exact ⟨h.ascending.sublist hsub, h.keys.sublist (hsub.map _), hlength,
      fun c hc => h.id_lt c (hsub.subset hc)⟩
  | added nCallKey hnew =>
    have hle : gap CallKeyConnection.nConnectionId 1 connections ≤ connections.length :=
      gap_le_length
    have hindex : freeId connections - 1 = gap CallKeyConnection.nConnectionId 1 connections := by
      unfold freeId
      omega
    refine ⟨?_, ?_, hlength, ?_⟩
    · rw [hindex]
      exact h.ascending.insertIdx rfl
    · have hperm := (List.perm_insertIdx (⟨nCallKey, freeId connections⟩ : CallKeyConnection)
        connections (i := freeId connections - 1) (by omega)).map CallKeyConnection.nKey
      refine hperm.nodup_iff.mpr (List.nodup_cons.mpr ⟨?_, h.keys⟩)
      intro hmem
      obtain ⟨c, hc, hkey⟩ := List.mem_map.mp hmem
      exact hnew c hc hkey
    · intro c hc
      rcases (mem_insertIdx_freeId nCallKey c).mp hc with rfl | hc
      · rw [List.length_insertIdx_of_le_length (by omega)] at hlength
        change freeId connections < 2 ^ 31
        unfold freeId
        omega
      · exact h.id_lt c hc

theorem Identified.isBijection (h : Identified connections) : IsBijection connections := by
  refine ⟨h.ascending.increasing, h.ascending.start_le, ?_, ?_⟩
  · intro c hc
    unfold getIndex
    rw [visited_eq (Nat.lt_trans h.length_lt (by decide))]
    cases hfind : connections.find? (fun d => d.nKey == c.nKey) with
    | none =>
      have := List.find?_eq_none.mp hfind c hc
      exact absurd BEq.rfl this
    | some d =>
      have hkey : d.nKey = c.nKey := by simpa using List.find?_some hfind
      have hdc : d = c :=
        List.inj_on_of_nodup_map h.keys (List.mem_of_find?_eq_some hfind) hc hkey
      rw [hdc]
      exact wrap_natCast (h.id_lt c hc)
  · intro c hc
    unfold getCallKey
    rw [visited_eq (Nat.lt_trans h.length_lt (by decide))]
    cases hfind : connections.find? (fun d => d.nConnectionId == c.nConnectionId) with
    | none =>
      have := List.find?_eq_none.mp hfind c hc
      exact absurd BEq.rfl this
    | some d =>
      have hid : d.nConnectionId = c.nConnectionId := by simpa using List.find?_some hfind
      have hdc : d = c :=
        h.ascending.eq_of_number_eq (List.mem_of_find?_eq_some hfind) hc hid
      rw [hdc]

theorem Identified.follows (h : Identified connections) (hchange : Change connections after) :
    Follows connections after := by
  cases hchange with
  | removed hsub =>
    refine ⟨fun c hc _ => hsub.subset hc, ?_⟩
    intro c hc hnew
    exact absurd rfl (hnew c (hsub.subset hc))
  | added nCallKey hnew =>
    refine ⟨?_, ?_⟩
    · rintro c hc ⟨d, hd, hkey⟩
      rcases (mem_insertIdx_freeId nCallKey c).mp hc with rfl | hc
      · exact absurd hkey (hnew d hd)
      · exact hc
    · intro c hc hother
      rcases (mem_insertIdx_freeId nCallKey c).mp hc with rfl | hc
      · refine ⟨Nat.le_add_right 1 _, fun d hd => h.ascending.ne_gap d hd, ?_⟩
        intro n hn hlt
        exact exists_of_lt_gap hn hlt
      · exact absurd rfl (hother c hc)

/-- The event leaves fewer than 2^31 calls registered. -/
def FewCalls (m : Manager) (e : ConnectionEvent) : Prop :=
  ∀ m', m.handle e = some m' → m'.connections.length < 2 ^ 31

theorem identified_of_reachable {m : Manager}
    (hm : (connectionSystem.restrict FewCalls).Reachable m) : Identified m.connections := by
  refine System.Reachable.restrict_invariant (I := fun m => Identified m.connections) ?_ ?_ hm
  · rintro m rfl
    exact Identified.nil
  · intro m e m' h hallowed hstep
    obtain ⟨after, hafter, hchange⟩ := exists_handle h.length_lt e
    have hsame : after = m' := Option.some.inj (hafter.symm.trans hstep)
    rw [hsame] at hchange
    exact h.change hchange (hallowed m' hstep)

/-- In every run with fewer than 2^31 registered calls at a time, the calls and their
identifiers determine each other; every event stays in the range of the list, leaves the
identifiers as they are, and gives a new call the smallest one that is free. -/
theorem connectionIds_of_reachable {m : Manager}
    (hm : (connectionSystem.restrict FewCalls).Reachable m) :
    IsBijection m.connections ∧
      ∀ e, ∃ m', m.handle e = some m' ∧ Follows m.connections m'.connections := by
  have h := identified_of_reachable hm
  refine ⟨h.isBijection, fun e => ?_⟩
  obtain ⟨m', hm', hchange⟩ := exists_handle h.length_lt e
  exact ⟨m', hm', h.follows hchange⟩

end Run

/-- A manager at which one call has started. -/
def oneCall : Manager where
  connections := [⟨7, 1⟩]
  controllers := []

theorem connectionIds_oneCall :
    IsBijection oneCall.connections ∧
      ∀ e, ∃ m', oneCall.handle e = some m' ∧ Follows oneCall.connections m'.connections := by
  have hstep : Manager.handle { connections := [], controllers := [] }
      (.callStateChanged (fun _ _ _ _ => .idle) 7 .outgoing) = some oneCall := rfl
  refine connectionIds_of_reachable (.step _ (.init rfl) ⟨?_, hstep⟩)
  intro m' hm'
  rw [← Option.some.inj (hstep.symm.trans hm')]
  decide

/-- A manager without conferences at which so many calls have started. -/
def manyCalls (count : Nat) : Manager where
  connections := (List.range' 0 count).map fun i => ⟨i + 1, i + 1⟩
  controllers := []

theorem length_manyCalls (count : Nat) : (manyCalls count).connections.length = count := by
  unfold manyCalls
  rw [List.length_map, List.length_range']

theorem gap_consecutive (start count : Nat) :
    gap CallKeyConnection.nConnectionId (start + 1)
      ((List.range' start count).map fun i => ⟨i + 1, i + 1⟩) = count := by
  induction count generalizing start with
  | zero => rfl
  | succ count ih =>
    rw [List.range'_succ, List.map_cons]
    exact (gap_cons_of_eq rfl).trans (congrArg (· + 1) (ih (start + 1)))

theorem getElem_manyCalls {count i : Nat} (hi : i < (manyCalls count).connections.length) :
    (manyCalls count).connections[i] = ⟨i + 1, i + 1⟩ := by
  simp only [manyCalls, List.getElem_map, List.getElem_range', Nat.zero_add, Nat.one_mul]

/-- While the list can be indexed at all, a call that is not found is appended. -/
theorem addKeyConnectionId_manyCalls {count : Nat} (h : count + 1 < 2 ^ 32) (nCallKey : Nat)
    (habsent : getListIndexByCallKey (manyCalls count).connections nCallKey < 0) :
    addKeyConnectionId (manyCalls count).connections nCallKey =
      some ((manyCalls count).connections ++ [⟨nCallKey, count + 1⟩]) := by
  have hlength := length_manyCalls count
  have hgap : gap CallKeyConnection.nConnectionId 1 (manyCalls count).connections = count :=
    gap_consecutive 0 count
  unfold addKeyConnectionId
  rw [if_neg (by omega), getNewIndex_eq (by omega), hgap, Nat.add_comm 1 count]
  change (if getSize (manyCalls count).connections < count + 1 then _ else _) = _
  rw [getSize_eq (by omega), hlength, if_pos (Nat.lt_succ_self count)]

theorem handle_manyCalls {count : Nat} (h : count + 1 < 2 ^ 32) (answers : StatusAnswers)
    (nCallKey : Nat)
    (habsent : getListIndexByCallKey (manyCalls count).connections nCallKey < 0) :
    (manyCalls count).handle (.callStateChanged answers nCallKey .outgoing) =
      some { connections := (manyCalls count).connections ++ [⟨nCallKey, count + 1⟩],
             controllers := [] } := by
  change (manyCalls count).withConnections
    (addKeyConnectionId (manyCalls count).connections nCallKey) = _
  rw [addKeyConnectionId_manyCalls h nCallKey habsent]
  rfl

theorem reachable_manyCalls {count : Nat} (h : count < 2 ^ 32) :
    connectionSystem.Reachable (manyCalls count) := by
  induction count with
  | zero => exact .init rfl
  | succ count ih =>
    refine .step (.callStateChanged (fun _ _ _ _ => .idle) (count + 1) .outgoing)
      (ih (by omega)) ?_
    have habsent :
        getListIndexByCallKey (manyCalls count).connections (count + 1) = -1 := by
      apply listIndex_of_none _ (by rw [length_manyCalls]; omega)
      intro c hc
      obtain ⟨i, hi, rfl⟩ := List.mem_map.mp hc
      have hlt := (List.mem_range'_1.mp hi).2
      rw [beq_eq_false_iff_ne]
      change i + 1 ≠ count + 1
      omega
    refine (handle_manyCalls h _ _ (by rw [habsent]; decide)).trans ?_
    unfold manyCalls
    rw [List.range'_concat, List.map_append]
    simp

theorem getListIndexByCallKey_manyCalls :
    getListIndexByCallKey (manyCalls (2 ^ 31 + 1)).connections (2 ^ 31 + 1) < 0 := by
  have hlength := length_manyCalls (2 ^ 31 + 1)
  have hindex : getListIndexByCallKey (manyCalls (2 ^ 31 + 1)).connections (2 ^ 31 + 1) =
      wrap ((2 ^ 31 : Nat) : Int) := by
    refine listIndex_of_first _ (by omega) (i := 2 ^ 31) (by omega) ?_ ?_
    · rw [getElem_manyCalls]
      exact BEq.rfl
    · intro j hj
      rw [getElem_manyCalls, beq_eq_false_iff_ne]
      change j + 1 ≠ 2 ^ 31 + 1
      omega
  rw [hindex]
  decide

/-- With 2^31 + 1 calls, the next report of the last one registers it once more, under
another identifier. -/
theorem exists_reachable_two_ids :
    ∃ m, connectionSystem.Reachable m ∧ ∃ c ∈ m.connections, ∃ d ∈ m.connections,
      c.nKey = d.nKey ∧ c.nConnectionId ≠ d.nConnectionId := by
  have hmany : connectionSystem.Reachable (manyCalls (2 ^ 31 + 1)) :=
    reachable_manyCalls (by decide)
  refine ⟨_, .step _ hmany
    (handle_manyCalls (by decide) (fun _ _ _ _ => .idle) (2 ^ 31 + 1)
      getListIndexByCallKey_manyCalls), ⟨2 ^ 31 + 1, 2 ^ 31 + 1⟩, ?_,
    ⟨2 ^ 31 + 1, 2 ^ 31 + 1 + 1⟩, ?_, rfl, by decide⟩
  · refine List.mem_append_left _ ?_
    have hi : 2 ^ 31 < (manyCalls (2 ^ 31 + 1)).connections.length := by
      rw [length_manyCalls]
      omega
    have hmem := List.getElem_mem hi
    rw [getElem_manyCalls] at hmem
    exact hmem
  · exact List.mem_append_right _ (List.mem_singleton.mpr rfl)

end ImsStack.CallConnection
