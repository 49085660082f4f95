import ImsStack.Conference.RosterUpdate
import Mathlib.Data.List.Nodup

/-!
The roster of a conference follows its documents: what the passes of `ConferenceInfoUpdater` over
the users of a document do to the participants.
-/

namespace ImsStack.Conference

open Platform
open Platform.AString (Chars)

namespace ConferenceInfoUpdater

variable {env : UpdaterEnvironment} {strLocalUri : Chars} {info : ConferenceInfo}
  {before after : List ConferenceParticipant} {objMatches : List UserMatch}
  {elements : List UserElement} {element : UserElement} {ePolicy : MatchingPolicy}

/-! ### The updates that are made -/

/-- A participant as a user leaves it. -/
structure UpdatedBy (user : User) (p : ConferenceParticipant) : Prop where
  completed : p.bMatchingCompleted = true
  infoUpdated : p.bInfoUpdated = true
  userEntity : p.objConfUser.strUserEntity = user.strEntity
  status : ∃ endPoint, user.objEndPoints.head? = some endPoint ∧ p.objConfUser.eStatus =
    if endPoint.nStatus = .disconnecting then .disconnected else endPoint.nStatus

theorem updatedBy_update {user : User} {endPoint : EndPoint}
    (h : user.objEndPoints.head? = some endPoint) (p : ConferenceParticipant) :
    UpdatedBy user (p.update env user endPoint) where
  completed := rfl
  infoUpdated := rfl
  userEntity := rfl
  status := ⟨endPoint, h, rfl⟩

/-- An update of the participants before a document by one of its users. -/
structure Matches (env : UpdaterEnvironment) (strLocalUri : Chars) (info : ConferenceInfo)
    (before after : List ConferenceParticipant) (m : UserMatch) : Prop where
  known : m.element ∈ info.elements
  notLocal : isLocalUri env strLocalUri m.element.user.strEntity = false
  updated : ∃ p, after[m.nParticipant]? = some p ∧ UpdatedBy m.element.user p
  sameUser : m.ePolicy = .userEntity → ∃ p, before[m.nParticipant]? = some p ∧
    ∃ bAllowPrefix, isSameUri env (env.getUserPart p.objConfUser.strUserEntity)
      (env.getUserPart m.element.user.strEntity) bAllowPrefix = true
  notExplicit : info.nState = .partialState → ∀ p, before[m.nParticipant]? = some p →
    p.bDisconnectedExplicitly = false

/-- The participants after some updates of those before the document. -/
structure Roster (env : UpdaterEnvironment) (strLocalUri : Chars) (info : ConferenceInfo)
    (before after : List ConferenceParticipant) (objMatches : List UserMatch) : Prop where
  users : (objMatches.map fun m => m.element.nAddress).Nodup
  participants : (objMatches.map UserMatch.nParticipant).Nodup
  matched : ∀ m ∈ objMatches, Matches env strLocalUri info before after m
  others : ∀ i, (∀ m ∈ objMatches, m.nParticipant ≠ i) → after[i]? = before[i]?

theorem Roster.refl (before : List ConferenceParticipant) :
    Roster env strLocalUri info before before [] where
  users := List.nodup_nil
  participants := List.nodup_nil
  matched := fun _ hm => absurd hm List.not_mem_nil
  others := fun _ _ => rfl

theorem Roster.notMatched (h : Roster env strLocalUri info before after objMatches) {i : Nat}
    (hi : ∀ p, after[i]? = some p → p.bMatchingCompleted = false ∨ p.bInfoUpdated = false) :
    ∀ m ∈ objMatches, m.nParticipant ≠ i := by
  rintro m hm rfl
  obtain ⟨p, hp, hupdated⟩ := (h.matched m hm).updated
  rcases hi p hp with hcompleted | hinfo
  · rw [hupdated.completed] at hcompleted
    cases hcompleted
  · rw [hupdated.infoUpdated] at hinfo
    cases hinfo

theorem Roster.append (h : Roster env strLocalUri info before after objMatches) {m : UserMatch}
    {after' : List ConferenceParticipant}
    (huser : ∀ m' ∈ objMatches, m'.element.nAddress ≠ m.element.nAddress)
    (hparticipant : ∀ m' ∈ objMatches, m'.nParticipant ≠ m.nParticipant)
    (hafter : ∀ i, i ≠ m.nParticipant → after'[i]? = after[i]?)
    (hm : Matches env strLocalUri info before after' m) :
    Roster env strLocalUri info before after' (objMatches ++ [m]) where
  users := by
    rw [List.map_append]
    apply List.nodup_append.mpr
    refine ⟨h.users, List.nodup_singleton _, ?_⟩
    intro a ha b hb
    obtain ⟨m', hm', rfl⟩ := List.mem_map.mp ha
    rw [List.mem_singleton.mp hb]
    exact huser m' hm'
  participants := by
    rw [List.map_append]
    apply List.nodup_append.mpr
    refine ⟨h.participants, List.nodup_singleton _, ?_⟩
    intro a ha b hb
    obtain ⟨m', hm', rfl⟩ := List.mem_map.mp ha
    rw [List.mem_singleton.mp hb]
    exact hparticipant m' hm'
  matched := by
    intro m' hm'
    rcases List.mem_append.mp hm' with hold | hnew
    · have hmatches := h.matched m' hold
      obtain ⟨p, hp, hupdated⟩ := hmatches.updated
      refine ⟨hmatches.known, hmatches.notLocal, ⟨p, ?_, hupdated⟩, hmatches.sameUser,
        hmatches.notExplicit⟩
      rw [hafter _ (hparticipant m' hold)]
      exact hp
    · rw [List.mem_singleton.mp hnew]
      exact hm
  others := by
    intro i hi
    rw [hafter i (hi m (List.mem_append_right _ (List.mem_singleton.mpr rfl))).symm]
    exact h.others i fun m' hm' => hi m' (List.mem_append_left _ hm')

theorem not_explicit_of_valid {p : ConferenceParticipant}
    (h : isInvalidStatusUpdate info p element = some false) (hstate : info.nState = .partialState) :
    p.bDisconnectedExplicitly = false := by
  unfold isInvalidStatusUpdate at h
  obtain ⟨nStatus, -, h⟩ := Option.bind_eq_some_iff.mp h
  dsimp only at h
  split at h
  · cases h
  split at h
  · cases h
  obtain ⟨bAnother, -, h⟩ := Option.map_eq_some_iff.mp h
  have hthird := (Bool.or_eq_false_iff.mp h).2
  rw [hstate] at hthird
  cases hexplicit : p.bDisconnectedExplicitly with
  | false => rfl
  | true =>
      rw [hexplicit, p.told hexplicit] at hthird
      cases hthird

theorem Roster.updateParticipant (x x' : Updating)
    (h : Roster env strLocalUri info before x.objParticipants x.objMatches)
    (huser : ∀ m ∈ x.objMatches, m.element.nAddress ≠ element.nAddress)
    (hknown : element ∈ info.elements)
    (hlocal : isLocalUri env strLocalUri element.user.strEntity = false)
    {nIndex : Option Nat}
    (hfound : ∀ k, nIndex = some k →
      ∃ p, x.objParticipants[k]? = some p ∧ Eligible env info ePolicy element p)
    (hadded : nIndex = none → ePolicy = .order)
    (hupdate : updateParticipant env ePolicy x element nIndex = some x') :
    Roster env strLocalUri info before x'.objParticipants x'.objMatches ∧
      (∃ k, x'.objMatches = x.objMatches ++ [⟨ePolicy, element, k⟩]) ∧
        x'.objNotMatchedUsers = x.objNotMatchedUsers := by
  cases nIndex with
  | some k =>
      obtain ⟨p, hp, heligible⟩ := hfound k rfl
      unfold ConferenceInfoUpdater.updateParticipant at hupdate
      dsimp only at hupdate
      rw [hp] at hupdate
      obtain ⟨endPoint, hhead, rfl⟩ := Option.map_eq_some_iff.mp hupdate
      refine ⟨?_, ⟨k, rfl⟩, rfl⟩
      have hnot : ∀ m ∈ x.objMatches, m.nParticipant ≠ k := by
        apply h.notMatched
        intro q hq
        rw [hp] at hq
        rw [← Option.some.inj hq]
        exact heligible.notYet
      have hbefore : before[k]? = some p := (h.others k hnot).symm.trans hp
      have hlt : k < x.objParticipants.length := (List.getElem?_eq_some_iff.mp hp).1
      apply h.append huser hnot
      · intro i hi
        exact List.getElem?_set_ne (Ne.symm hi)
      · refine ⟨hknown, hlocal, ⟨_, List.getElem?_set_self hlt, updatedBy_update hhead p⟩, ?_, ?_⟩
        · intro hpolicy
          exact ⟨p, hbefore, heligible.sameUser hpolicy⟩
        · intro hstate q hq
          rw [hbefore] at hq
          rw [← Option.some.inj hq]
          exact not_explicit_of_valid heligible.valid hstate
  | none =>
      unfold ConferenceInfoUpdater.updateParticipant at hupdate
      obtain ⟨endPoint, hhead, rfl⟩ := Option.map_eq_some_iff.mp hupdate
      refine ⟨?_, ⟨x.objParticipants.length, rfl⟩, rfl⟩
      have hend : x.objParticipants[x.objParticipants.length]? = none :=
        List.getElem?_eq_none (Nat.le_refl _)
      have hnot : ∀ m ∈ x.objMatches, m.nParticipant ≠ x.objParticipants.length := by
        apply h.notMatched
        intro q hq
        rw [hend] at hq
        cases hq
      have hbefore : before[x.objParticipants.length]? = none :=
        (h.others _ hnot).symm.trans hend
      apply h.append huser hnot
      · intro i hi
        rcases Nat.lt_or_gt_of_ne hi with hlt | hgt
        · exact List.getElem?_append_left hlt
        · rw [List.getElem?_eq_none (Nat.le_of_lt hgt), List.getElem?_eq_none]
          rw [List.length_append]
          exact hgt
      · refine ⟨hknown, hlocal, ⟨(ConferenceParticipant.ofConfUser .new).update env element.user
          endPoint, List.getElem?_concat_length, updatedBy_update hhead _⟩, ?_, ?_⟩
        · intro hpolicy
          rw [hadded rfl] at hpolicy
          cases hpolicy
        · intro _ q hq
          rw [hbefore] at hq
          cases hq

/-! ### Users that wait for a participant -/

/-- Distinct users of the document, none of which a participant was updated by. -/
structure Fresh (info : ConferenceInfo) (objMatches : List UserMatch)
    (elements : List UserElement) : Prop where
  nodup : (elements.map UserElement.nAddress).Nodup
  unused : ∀ element ∈ elements, ∀ m ∈ objMatches, m.element.nAddress ≠ element.nAddress
  known : ∀ element ∈ elements, element ∈ info.elements

theorem fresh_elements (info : ConferenceInfo) : Fresh info [] info.elements where
  nodup := by
    have hrange : info.elements.map UserElement.nAddress = List.range info.objUsers.length := by
      apply List.ext_getElem?
      intro i
      rw [List.getElem?_map]
      unfold ConferenceInfo.elements
      rw [List.getElem?_mapIdx]
      rcases Nat.lt_or_ge i info.objUsers.length with hlt | hge
      · rw [List.getElem?_eq_getElem hlt, List.getElem?_range hlt]
        rfl
      · rw [List.getElem?_eq_none hge, List.getElem?_eq_none]
        · rfl
        · rw [List.length_range]
          exact hge
    rw [hrange]
    exact List.nodup_range
  unused := fun _ _ _ hm => absurd hm List.not_mem_nil
  known := fun _ h => h

theorem Fresh.tail (h : Fresh info objMatches (element :: elements)) :
    Fresh info objMatches elements where
  nodup := (List.nodup_cons.mp h.nodup).2
  unused := fun other hother => h.unused other (List.mem_cons_of_mem element hother)
  known := fun other hother => h.known other (List.mem_cons_of_mem element hother)

theorem Fresh.head_ne (h : Fresh info objMatches (element :: elements)) :
    ∀ other ∈ elements, other.nAddress ≠ element.nAddress := by
  intro other hother heq
  apply (List.nodup_cons.mp h.nodup).1
  rw [← heq]
  exact List.mem_map_of_mem hother

theorem Fresh.append_match (h : Fresh info objMatches elements)
    (hne : ∀ other ∈ elements, other.nAddress ≠ element.nAddress) (k : Nat) :
    Fresh info (objMatches ++ [⟨ePolicy, element, k⟩]) elements where
  nodup := h.nodup
  unused := by
    intro other hother m hm
    rcases List.mem_append.mp hm with hold | hnew
    · exact h.unused other hother m hold
    · rw [List.mem_singleton.mp hnew]
      exact (hne other hother).symm
  known := h.known

theorem Fresh.reverse (h : Fresh info objMatches elements) :
    Fresh info objMatches elements.reverse where
  nodup := by
    rw [List.map_reverse]
    exact List.nodup_reverse.mpr h.nodup
  unused := fun other hother => h.unused other (List.mem_reverse.mp hother)
  known := fun other hother => h.known other (List.mem_reverse.mp hother)

theorem ne_of_mem_eraseP {p : UserElement → Bool} {nAddress : Nat}
    (hp : ∀ other, p other = true ↔ other.nAddress = nAddress)
    (h : (elements.map UserElement.nAddress).Nodup) :
    ∀ other ∈ elements.eraseP p, other.nAddress ≠ nAddress := by
  induction elements with
  | nil => exact fun _ hother => absurd hother List.not_mem_nil
  | cons first rest ih =>
      obtain ⟨hfirst, hrest⟩ := List.nodup_cons.mp h
      cases hfirstp : p first with
      | true =>
          rw [List.eraseP_cons_of_pos hfirstp]
          intro other hother heq
          apply hfirst
          rw [(hp first).mp hfirstp, ← heq]
          exact List.mem_map_of_mem hother
      | false =>
          have hneg : ¬p first = true := by
            rw [hfirstp]
            exact Bool.false_ne_true
          rw [List.eraseP_cons_of_neg hneg]
          intro other hother
          rcases List.mem_cons.mp hother with rfl | hother
          · exact fun heq => hneg ((hp other).mpr heq)
          · exact ih hrest other hother

theorem mem_eraseP_of_ne {p : UserElement → Bool} {nAddress : Nat}
    (hp : ∀ other, p other = true ↔ other.nAddress = nAddress) (hmem : element ∈ elements)
    (hne : element.nAddress ≠ nAddress) : element ∈ elements.eraseP p :=
  (List.mem_eraseP_of_neg fun h => hne ((hp element).mp h)).mpr hmem

/-- The participants and the users that wait, on the way through a document. -/
structure Passing (env : UpdaterEnvironment) (strLocalUri : Chars) (info : ConferenceInfo)
    (before : List ConferenceParticipant) (x : Updating) : Prop where
  roster : Roster env strLocalUri info before x.objParticipants x.objMatches
  fresh : Fresh info x.objMatches x.objNotMatchedUsers
  notLocal : ∀ other ∈ x.objNotMatchedUsers,
    isLocalUri env strLocalUri other.user.strEntity = false

variable {x x' : Updating} {b b' : Bool}

theorem Passing.addNotMatchedUser (h : Passing env strLocalUri info before x)
    (hunused : ∀ m ∈ x.objMatches, m.element.nAddress ≠ element.nAddress)
    (hknown : element ∈ info.elements)
    (hlocal : isLocalUri env strLocalUri element.user.strEntity = false) :
    Passing env strLocalUri info before (x.addNotMatchedUser element) := by
  unfold Updating.addNotMatchedUser
  split
  · exact h
  · rename_i hany
    have hnot : ∀ other ∈ x.objNotMatchedUsers, other.nAddress ≠ element.nAddress := by
      intro other hother heq
      exact hany (List.any_eq_true.mpr ⟨other, hother, beq_iff_eq.mpr heq⟩)
    refine ⟨h.roster, ⟨?_, ?_, ?_⟩, ?_⟩
    · rw [List.map_append]
      apply List.nodup_append.mpr
      refine ⟨h.fresh.nodup, List.nodup_singleton _, ?_⟩
      intro a ha c hc
      obtain ⟨other, hother, rfl⟩ := List.mem_map.mp ha
      rw [List.mem_singleton.mp hc]
      exact hnot other hother
    · intro other hother
      rcases List.mem_append.mp hother with hold | hnew
      · exact h.fresh.unused other hold
      · rw [List.mem_singleton.mp hnew]
        exact hunused
    · intro other hother
      rcases List.mem_append.mp hother with hold | hnew
      · exact h.fresh.known other hold
      · rw [List.mem_singleton.mp hnew]
        exact hknown
    · intro other hother
      rcases List.mem_append.mp hother with hold | hnew
      · exact h.notLocal other hold
      · rw [List.mem_singleton.mp hnew]
        exact hlocal

theorem Passing.updateParticipant (h : Passing env strLocalUri info before x)
    (hunused : ∀ m ∈ x.objMatches, m.element.nAddress ≠ element.nAddress)
    (hknown : element ∈ info.elements)
    (hlocal : isLocalUri env strLocalUri element.user.strEntity = false) {nIndex : Option Nat}
    (hfound : ∀ k, nIndex = some k →
      ∃ p, x.objParticipants[k]? = some p ∧ Eligible env info ePolicy element p)
    (hadded : nIndex = none → ePolicy = .order)
    (hupdate : ConferenceInfoUpdater.updateParticipant env ePolicy (x.removeNotMatchedUser element)
      element nIndex = some x') :
    Passing env strLocalUri info before x' ∧
      (∃ k, x'.objMatches = x.objMatches ++ [⟨ePolicy, element, k⟩]) ∧
        x'.objNotMatchedUsers = (x.removeNotMatchedUser element).objNotMatchedUsers := by
  obtain ⟨hroster, ⟨k, hmatches⟩, hwaiting⟩ := Roster.updateParticipant
    (x.removeNotMatchedUser element) x' h.roster hunused hknown hlocal hfound hadded hupdate
  have hsublist : x'.objNotMatchedUsers.Sublist x.objNotMatchedUsers := by
    rw [hwaiting]
    exact List.eraseP_sublist
  refine ⟨⟨hroster, ?_, ?_⟩, ⟨k, hmatches⟩, hwaiting⟩
  · have hkept : Fresh info x.objMatches x'.objNotMatchedUsers :=
      ⟨h.fresh.nodup.sublist (hsublist.map _),
        fun other hother => h.fresh.unused other (hsublist.subset hother),
        fun other hother => h.fresh.known other (hsublist.subset hother)⟩
    rw [hmatches]
    apply hkept.append_match
    rw [hwaiting]
    exact ne_of_mem_eraseP (fun _ => beq_iff_eq) h.fresh.nodup
  · intro other hother
    exact h.notLocal other (hsublist.subset hother)

/-! ### The passes -/

/-- One of the users that wait is not among those that are still to come. -/
def Waits (x : Updating) (elements : List UserElement) : Prop :=
  ∃ waiting ∈ x.objNotMatchedUsers, ∀ other ∈ elements, other.nAddress ≠ waiting.nAddress

theorem waits_addNotMatchedUser (hne : ∀ other ∈ elements, other.nAddress ≠ element.nAddress) :
    Waits (x.addNotMatchedUser element) elements := by
  unfold Updating.addNotMatchedUser
  split
  · rename_i hany
    obtain ⟨waiting, hmem, heq⟩ := List.any_eq_true.mp hany
    refine ⟨waiting, hmem, ?_⟩
    rw [beq_iff_eq.mp heq]
    exact hne
  · exact ⟨element, List.mem_append_right _ (List.mem_singleton.mpr rfl), hne⟩

theorem Waits.removeNotMatchedUser (h : Waits x (element :: elements)) :
    Waits (x.removeNotMatchedUser element) elements := by
  obtain ⟨waiting, hmem, hne⟩ := h
  exact ⟨waiting, mem_eraseP_of_ne (fun _ => beq_iff_eq) hmem
      (hne element List.mem_cons_self).symm,
    fun other hother => hne other (List.mem_cons_of_mem element hother)⟩

/-- A pass updates participants by users, and leaves a user waiting if it is not complete. -/
theorem Passing.updateUsers {n : Nat} (h : Passing env strLocalUri info before x)
    (hfresh : Fresh info x.objMatches elements) (hwaits : b = false → Waits x elements)
    (hupdate : updateUsers env strLocalUri info ePolicy n elements x b = some (x', b')) :
    Passing env strLocalUri info before x' ∧ (b' = false → x'.objNotMatchedUsers ≠ []) := by
  induction elements generalizing n x b with
  | nil =>
      cases hupdate
      refine ⟨h, ?_⟩
      intro hb hnil
      obtain ⟨waiting, hmem, -⟩ := hwaits hb
      rw [hnil] at hmem
      cases hmem
  | cons element elements ih =>
      have hunused := hfresh.unused element List.mem_cons_self
      have hknown := hfresh.known element List.mem_cons_self
      unfold ConferenceInfoUpdater.updateUsers at hupdate
      obtain ⟨found, hfound, hupdate⟩ := Option.bind_eq_some_iff.mp hupdate
      dsimp only at hupdate
      -- The flag about the near device is nothing that the invariant speaks of.
      have hhost : Passing env strLocalUri info before { x with bHostInfoInUsers := found.2 } :=
        ⟨h.roster, h.fresh, h.notLocal⟩
      split at hupdate
      · refine ih hhost hfresh.tail ?_ hupdate
        intro hb
        obtain ⟨waiting, hmem, hne⟩ := hwaits hb
        exact ⟨waiting, hmem, fun other hother => hne other (List.mem_cons_of_mem element hother)⟩
      rename_i hlocal
      have hnotLocal := Bool.of_not_eq_true hlocal
      obtain ⟨nIndex, bHost⟩ := found
      cases nIndex with
      | none =>
          refine ih (hhost.addNotMatchedUser hunused hknown hnotLocal) ?_ ?_ hupdate
          · unfold Updating.addNotMatchedUser
            split <;> exact hfresh.tail
          · intro _
            exact waits_addNotMatchedUser hfresh.head_ne
      | some k =>
          obtain ⟨x'', hx'', hupdate⟩ := Option.bind_eq_some_iff.mp hupdate
          have heligible : ∀ k', some k = some k' → ∃ p, x.objParticipants[k']? = some p ∧
              Eligible env info ePolicy element p := by
            rintro k' hk
            cases hk
            exact findParticipant_eligible hfound
          obtain ⟨hpassing, ⟨k', hmatches⟩, hwaiting⟩ :=
            hhost.updateParticipant hunused hknown hnotLocal heligible (fun hnone => by cases hnone)
              hx''
          refine ih hpassing ?_ ?_ hupdate
          · rw [hmatches]
            exact hfresh.tail.append_match hfresh.head_ne k'
          · intro hb
            have hstill := (hwaits hb).removeNotMatchedUser
            unfold Waits
            rw [hwaiting]
            exact hstill

theorem Passing.addUsers (h : Passing env strLocalUri info before x)
    (hfresh : Fresh info x.objMatches elements)
    (hlocal : ∀ other ∈ elements, isLocalUri env strLocalUri other.user.strEntity = false)
    (hadd : addUsers env .order elements x = some x') :
    Passing env strLocalUri info before x' := by
  induction elements generalizing x with
  | nil =>
      cases hadd
      exact h
  | cons element elements ih =>
      unfold ConferenceInfoUpdater.addUsers at hadd
      obtain ⟨x'', hx'', hadd⟩ := Option.bind_eq_some_iff.mp hadd
      obtain ⟨hpassing, ⟨k, hmatches⟩, -⟩ := h.updateParticipant
        (hfresh.unused element List.mem_cons_self) (hfresh.known element List.mem_cons_self)
        (hlocal element List.mem_cons_self) (fun k hk => by cases hk) (fun _ => rfl) hx''
      refine ih hpassing ?_ (fun other hother => hlocal other (List.mem_cons_of_mem _ hother)) hadd
      rw [hmatches]
      exact hfresh.tail.append_match hfresh.head_ne k

theorem Passing.users_fresh (h : Passing env strLocalUri info before x)
    (hstart : x.objNotMatchedUsers = [] → x.objMatches = []) :
    Fresh info x.objMatches
      (if x.objNotMatchedUsers = [] then info.elements else x.objNotMatchedUsers) := by
  split
  · rename_i hnil
    rw [hstart hnil]
    exact fresh_elements info
  · exact h.fresh

theorem Passing.findAndUpdate (h : Passing env strLocalUri info before x)
    (hstart : x.objNotMatchedUsers = [] → x.objMatches = [])
    (hupdate : findAndUpdate env strLocalUri info x ePolicy = some (x', b')) :
    Passing env strLocalUri info before x' ∧ (b' = false → x'.objNotMatchedUsers ≠ []) := by
  unfold ConferenceInfoUpdater.findAndUpdate at hupdate
  obtain ⟨⟨y, c⟩, hy, hupdate⟩ := Option.bind_eq_some_iff.mp hupdate
  have hpass := h.updateUsers (h.users_fresh hstart) (fun hb => by cases hb) hy
  split at hupdate
  · rename_i hadd
    obtain ⟨z, hz, heq⟩ := Option.map_eq_some_iff.mp hupdate
    obtain ⟨rfl, rfl⟩ := Prod.mk.inj heq
    rw [hadd.1] at hz
    refine ⟨hpass.1.addUsers hpass.1.fresh.reverse ?_ hz, ?_⟩
    · intro other hother
      exact hpass.1.notLocal other (List.mem_reverse.mp hother)
    · intro hb
      exact of_decide_eq_false (Bool.or_eq_false_iff.mp hb).2
  · cases hupdate
    exact hpass

theorem Passing.applyPolicies {policies : List MatchingPolicy}
    (h : Passing env strLocalUri info before x)
    (hstart : x.objNotMatchedUsers = [] → x.objMatches = [])
    (happly : applyPolicies env strLocalUri info policies x = some x') :
    Passing env strLocalUri info before x' := by
  induction policies generalizing x with
  | nil =>
      cases happly
      exact h
  | cons ePolicy policies ih =>
      unfold ConferenceInfoUpdater.applyPolicies at happly
      obtain ⟨⟨y, c⟩, hy, happly⟩ := Option.bind_eq_some_iff.mp happly
      obtain ⟨hpassing, hwaiting⟩ := h.findAndUpdate hstart hy
      cases c with
      | true =>
          cases happly
          exact hpassing
      | false => exact ih hpassing (fun hnil => absurd hnil (hwaiting rfl)) happly

theorem passing_start (env : UpdaterEnvironment) (strLocalUri : Chars) (info : ConferenceInfo)
    (before : List ConferenceParticipant) :
    Passing env strLocalUri info before ⟨before, [], false, []⟩ where
  roster := .refl before
  fresh := ⟨List.nodup_nil, fun _ h => absurd h List.not_mem_nil,
    fun _ h => absurd h List.not_mem_nil⟩
  notLocal := fun _ h => absurd h List.not_mem_nil

end ConferenceInfoUpdater

end ImsStack.Conference
