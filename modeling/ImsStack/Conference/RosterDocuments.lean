import ImsStack.Conference.Roster

/-!
The roster of a conference over sequences of documents.
-/

namespace ImsStack.Conference

open Platform
open Platform.AString (Chars)

namespace ConferenceInfoUpdater

variable {env : UpdaterEnvironment} {strLocalUri : Chars} {info : ConferenceInfo}
  {before : List ConferenceParticipant} {elements : List UserElement} {element : UserElement}
  {ePolicy : MatchingPolicy} {x : Updating}

/-! ### The passes come to their end -/

section Exists

variable (hinfo : Readable info)
include hinfo

theorem exists_updateParticipant (env : UpdaterEnvironment) (ePolicy : MatchingPolicy)
    (hmem : element ∈ info.elements) (x : Updating) (nIndex : Option Nat) :
    ∃ x', updateParticipant env ePolicy x element nIndex = some x' := by
  obtain ⟨endPoint, hhead⟩ : ∃ endPoint, element.user.objEndPoints.head? = some endPoint :=
    ⟨_, List.head?_eq_some_head (hinfo _ (user_mem_of_mem_elements hmem))⟩
  unfold updateParticipant
  rw [hhead]
  cases nIndex with
  | none => exact ⟨_, rfl⟩
  | some k =>
      dsimp only
      split <;> exact ⟨_, rfl⟩

theorem exists_updateUsers (env : UpdaterEnvironment) (strLocalUri : Chars)
    (ePolicy : MatchingPolicy) (hmem : ∀ element ∈ elements, element ∈ info.elements) (n : Nat)
    (x : Updating) (b : Bool) :
    ∃ updated, updateUsers env strLocalUri info ePolicy n elements x b = some updated := by
  induction elements generalizing n x b with
  | nil => exact ⟨_, rfl⟩
  | cons element elements ih =>
      have hknown := hmem element List.mem_cons_self
      have hrest : ∀ element ∈ elements, element ∈ info.elements :=
        fun other hother => hmem other (List.mem_cons_of_mem element hother)
      obtain ⟨⟨nIndex, bHost⟩, hfound⟩ := exists_findParticipant hinfo hknown strLocalUri n
        x.objParticipants x.bHostInfoInUsers
      unfold updateUsers
      rw [hfound]
      dsimp only [Option.bind_some]
      split
      · exact ih hrest _ _ _
      · cases nIndex with
        | none => exact ih hrest _ _ _
        | some k =>
            obtain ⟨x', hx'⟩ := exists_updateParticipant hinfo env ePolicy hknown
              ({ x with bHostInfoInUsers := bHost }.removeNotMatchedUser element) (some k)
            dsimp only
            rw [hx']
            exact ih hrest _ _ _

theorem exists_addUsers (env : UpdaterEnvironment) (ePolicy : MatchingPolicy)
    (hmem : ∀ element ∈ elements, element ∈ info.elements) (x : Updating) :
    ∃ x', addUsers env ePolicy elements x = some x' := by
  induction elements generalizing x with
  | nil => exact ⟨x, rfl⟩
  | cons element elements ih =>
      obtain ⟨x', hx'⟩ := exists_updateParticipant hinfo env ePolicy
        (hmem element List.mem_cons_self) (x.removeNotMatchedUser element) none
      unfold addUsers
      rw [hx']
      exact ih (fun other hother => hmem other (List.mem_cons_of_mem element hother)) x'

theorem exists_findAndUpdate (h : Passing env strLocalUri info before x)
    (hstart : x.objNotMatchedUsers = [] → x.objMatches = []) (ePolicy : MatchingPolicy) :
    ∃ updated, findAndUpdate env strLocalUri info x ePolicy = some updated := by
  obtain ⟨⟨y, c⟩, hy⟩ := exists_updateUsers hinfo env strLocalUri ePolicy
    (h.users_fresh hstart).known 0 x true
  have hpass := (h.updateUsers (h.users_fresh hstart) (fun hb => by cases hb) hy).1
  unfold findAndUpdate
  dsimp only
  rw [hy]
  dsimp only [Option.bind_some]
  split
  · obtain ⟨z, hz⟩ := exists_addUsers hinfo env ePolicy hpass.fresh.reverse.known y
    rw [hz]
    exact ⟨_, rfl⟩
  · exact ⟨_, rfl⟩

theorem exists_applyPolicies (h : Passing env strLocalUri info before x)
    (hstart : x.objNotMatchedUsers = [] → x.objMatches = []) (policies : List MatchingPolicy) :
    ∃ x', applyPolicies env strLocalUri info policies x = some x' := by
  induction policies generalizing x with
  | nil => exact ⟨x, rfl⟩
  | cons ePolicy policies ih =>
      obtain ⟨⟨y, c⟩, hy⟩ := exists_findAndUpdate hinfo h hstart ePolicy
      obtain ⟨hpassing, hwaiting⟩ := h.findAndUpdate hstart hy
      unfold applyPolicies
      rw [hy]
      dsimp only [Option.bind_some]
      cases c with
      | true => exact ⟨y, rfl⟩
      | false => exact ih hpassing fun hnil => absurd hnil (hwaiting rfl)

end Exists

/-! ### A conference without participants -/

theorem findParticipant_nil (env : UpdaterEnvironment) (strLocalUri : Chars)
    (info : ConferenceInfo) (ePolicy : MatchingPolicy) (element : UserElement) (n : Nat)
    (bHost : Bool) :
    ∃ bHost', findParticipant env strLocalUri info ePolicy element n [] bHost =
      some (none, bHost') := by
  unfold findParticipant
  cases ePolicy with
  | userEntity => exact ⟨bHost, rfl⟩
  | referToUri => exact ⟨bHost, rfl⟩
  | order =>
      unfold findParticipantByOrder
      dsimp only
      split
      · exact ⟨true, rfl⟩
      · refine ⟨bHost, if_pos ?_⟩
        exact Nat.zero_le _

theorem exists_updateUsers_of_nil (env : UpdaterEnvironment) (strLocalUri : Chars)
    (info : ConferenceInfo) (ePolicy : MatchingPolicy) (elements : List UserElement)
    (hx : x.objParticipants = []) (n : Nat) (b : Bool) :
    ∃ y c, updateUsers env strLocalUri info ePolicy n elements x b = some (y, c) ∧
      y.objParticipants = [] := by
  induction elements generalizing n x b with
  | nil => exact ⟨x, b, rfl, hx⟩
  | cons element elements ih =>
      obtain ⟨objParticipants, objNotMatchedUsers, bHost, objMatches⟩ := x
      obtain rfl : objParticipants = [] := hx
      obtain ⟨bHost', hfound⟩ :=
        findParticipant_nil env strLocalUri info ePolicy element n bHost
      unfold updateUsers
      dsimp only
      rw [hfound]
      dsimp only [Option.bind_some]
      split
      · exact ih rfl _ _
      · apply ih
        unfold Updating.addNotMatchedUser
        split <;> rfl

theorem exists_applyPolicies_of_nil (hx : x.objParticipants = [])
    (hadds : ¬(info.nState = .full ∧ env.bSubscriptionForParticipantRequired = true))
    (policies : List MatchingPolicy) :
    ∃ y, applyPolicies env strLocalUri info policies x = some y := by
  induction policies generalizing x with
  | nil => exact ⟨x, rfl⟩
  | cons ePolicy policies ih =>
      obtain ⟨y, c, hy, hnil⟩ := exists_updateUsers_of_nil env strLocalUri info ePolicy
        (if x.objNotMatchedUsers = [] then info.elements else x.objNotMatchedUsers) hx 0 true
      have hpass : findAndUpdate env strLocalUri info x ePolicy = some (y, c) := by
        unfold findAndUpdate
        dsimp only
        rw [hy]
        exact if_neg fun h => hadds h.2
      unfold applyPolicies
      rw [hpass]
      dsimp only [Option.bind_some]
      cases c with
      | true => exact ⟨y, rfl⟩
      | false => exact ih hnil

/-! ### Addresses that agree -/

/-- Two user parts that are equal, or end alike behind at most three characters of each. -/
def Agree (a b : Chars) : Prop :=
  a = b ∨ ∃ leadingA leadingB common, a = leadingA ++ common ∧ b = leadingB ++ common ∧
    common ≠ [] ∧ leadingA.length ≤ 3 ∧ leadingB.length ≤ 3

/-- Two user parts that are compared as they are, and not both so short that the margin of a
prefix is all of them. -/
def Comparable (env : UpdaterEnvironment) (a b : Chars) : Prop :=
  matchedPart env a = a ∧ matchedPart env b = b ∧
    (a = b ∨ 3 < a.length ∨ 3 < b.length ∨ 0 < getMatchingCount env a b)

theorem commonLength_spec (s t : Chars) :
    ∃ common restS restT, s = common ++ restS ∧ t = common ++ restT ∧
      common.length = commonLength s t := by
  induction s generalizing t with
  | nil => exact ⟨[], [], t, rfl, rfl, by unfold commonLength; rfl⟩
  | cons c s ih =>
      cases t with
      | nil => exact ⟨[], c :: s, [], rfl, rfl, by unfold commonLength; rfl⟩
      | cons d t =>
          unfold commonLength
          split
          · rename_i heq
            obtain ⟨common, restS, restT, hs, ht, hlength⟩ := ih t
            refine ⟨c :: common, restS, restT, ?_, ?_, ?_⟩
            · rw [hs, List.cons_append]
            · rw [ht, heq, List.cons_append]
            · rw [List.length_cons, hlength]
          · exact ⟨[], c :: s, d :: t, rfl, rfl, rfl⟩

theorem agree_of_isSameUri {a b : Chars} {bAllowPrefix : Bool} (h : Comparable env a b)
    (hsame : isSameUri env a b bAllowPrefix = true) : Agree a b := by
  obtain ⟨ha, hb, hshort⟩ := h
  unfold isSameUri at hsame
  have hlonger := of_decide_eq_true hsame
  unfold getMatchingCount at hlonger hshort
  rw [ha, hb] at hlonger hshort
  obtain ⟨common, restA, restB, hA, hB, hlength⟩ := commonLength_spec a.reverse b.reverse
  rw [← hlength] at hlonger hshort
  have hpartA : a = restA.reverse ++ common.reverse := by
    rw [← List.reverse_append, ← hA, List.reverse_reverse]
  have hpartB : b = restB.reverse ++ common.reverse := by
    rw [← List.reverse_append, ← hB, List.reverse_reverse]
  have hlengthA : a.length = restA.length + common.length := by
    rw [hpartA, List.length_append, List.length_reverse, List.length_reverse]
  have hlengthB : b.length = restB.length + common.length := by
    rw [hpartB, List.length_append, List.length_reverse, List.length_reverse]
  have hmargin : (if bAllowPrefix = true then 3 else 0) ≤ 3 := by
    split <;> decide
  have hbounds : a.length ≤ common.length + 3 ∧ b.length ≤ common.length + 3 := by
    split at hlonger <;> omega
  rcases Nat.eq_zero_or_pos common.length with hnone | hsome
  · -- Nothing in common: the parts are short, so they are the same.
    left
    rcases hshort with heq | hlong | hlong | hcommon
    · exact heq
    · omega
    · omega
    · omega
  · right
    refine ⟨restA.reverse, restB.reverse, common.reverse, hpartA, hpartB, ?_, ?_, ?_⟩
    · intro hnil
      rw [List.reverse_eq_nil_iff.mp hnil] at hsome
      exact absurd hsome (Nat.lt_irrefl 0)
    · rw [List.length_reverse]
      omega
    · rw [List.length_reverse]
      omega

/-! ### What a document does to the roster -/

/-- The document is parsed, not a deleted one, and not refused for its version. -/
def Taken (env : UpdaterEnvironment) (list : ConferenceParticipantList)
    (document : Option DomNode) (info : ConferenceInfo) : Prop :=
  ConferenceInfo.parse document = some info ∧ info.nState ≠ .deleted ∧
    checkValidVersion env list info = true

/-- The list after a document follows it. -/
structure Follows (env : UpdaterEnvironment) (list : ConferenceParticipantList)
    (document : Option DomNode) (updated : Updated) : Prop where
  users : (updated.objMatches.map fun m => m.element.nAddress).Nodup
  participants : (updated.objMatches.map UserMatch.nParticipant).Nodup
  notLocal : ∀ m ∈ updated.objMatches,
    isLocalUri env list.strLocalUri m.element.user.strEntity = false
  byUserEntity : ∀ m ∈ updated.objMatches, m.ePolicy = .userEntity →
    ∃ p, list.objParticipants[m.nParticipant]? = some p ∧
      Agree (env.getUserPart p.objConfUser.strUserEntity)
        (env.getUserPart m.element.user.strEntity)
  matched : ∀ info, Taken env list document info → ∀ m ∈ updated.objMatches,
    m.element ∈ info.elements ∧ ∃ p, updated.list.objParticipants[m.nParticipant]? = some p ∧
      UpdatedBy m.element.user p
  others : ∀ (i : Nat) (p' : ConferenceParticipant), (∀ m ∈ updated.objMatches, m.nParticipant ≠ i) →
    updated.list.objParticipants[i]? = some p' → ∃ p, list.objParticipants[i]? = some p ∧
      (p'.startMatching = p.startMatching ∨
        p.bInfoUpdated = true ∧ p'.objConfUser.eStatus = .disconnected)
  full : ∀ info, Taken env list document info → info.nState = .full →
    ∀ (i : Nat) (p : ConferenceParticipant), list.objParticipants[i]? = some p →
      p.bInfoUpdated = true → (∀ m ∈ updated.objMatches, m.nParticipant ≠ i) →
        ∃ p', updated.list.objParticipants[i]? = some p' ∧
          p'.objConfUser.eStatus = .disconnected
  explicit : ∀ info, Taken env list document info → info.nState = .partialState →
    ∀ (i : Nat) (p : ConferenceParticipant), list.objParticipants[i]? = some p →
      p.bDisconnectedExplicitly = true → ∃ p' : ConferenceParticipant,
        updated.list.objParticipants[i]? = some p' ∧ p'.startMatching = p.startMatching
  refused : (∀ info, ¬Taken env list document info) → updated.list = list

/-- A document that the list follows: each user has an end point or there is nobody to compare it
with, the user parts can be compared, and a full document without users does not come to the
first version of a list that was told of somebody. -/
structure Regular (env : UpdaterEnvironment) (list : ConferenceParticipantList)
    (document : Option DomNode) : Prop where
  readable : ∀ info, Taken env list document info →
    isInitialNotifyWithoutUsers env list info = false → Readable info ∨
      list.objParticipants = [] ∧
        ¬(info.nState = .full ∧ env.bSubscriptionForParticipantRequired = true)
  comparable : ∀ info, Taken env list document info → ∀ user ∈ info.objUsers,
    isLocalUri env list.strLocalUri user.strEntity = false → ∀ p ∈ list.objParticipants,
      Comparable env (env.getUserPart p.objConfUser.strUserEntity)
        (env.getUserPart user.strEntity)
  known : ∀ info, Taken env list document info → info.nState = .full →
    isInitialNotifyWithoutUsers env list info = true →
      ∀ p ∈ list.objParticipants, p.bInfoUpdated = true → p.objConfUser.eStatus = .disconnected

variable {list : ConferenceParticipantList} {document : Option DomNode}

theorem Taken.unique {info' : ConferenceInfo} (h : Taken env list document info)
    (h' : Taken env list document info') : info' = info :=
  Option.some.inj (h'.1.symm.trans h.1)

theorem follows_same {updated : Updated} (hmatches : updated.objMatches = [])
    (hsame : updated.list.objParticipants = list.objParticipants)
    (hfull : ∀ info, Taken env list document info → info.nState = .full →
      ∀ p ∈ list.objParticipants, p.bInfoUpdated = true → p.objConfUser.eStatus = .disconnected)
    (hrefused : (∀ info, ¬Taken env list document info) → updated.list = list) :
    Follows env list document updated := by
  have hnone : ∀ m, m ∉ updated.objMatches := by
    rw [hmatches]
    exact fun _ => List.not_mem_nil
  refine ⟨?_, ?_, fun m hm => absurd hm (hnone m), fun m hm => absurd hm (hnone m),
    fun _ _ m hm => absurd hm (hnone m), ?_, ?_, ?_, hrefused⟩
  · rw [hmatches]
    exact List.nodup_nil
  · rw [hmatches]
    exact List.nodup_nil
  · intro i p' _ hp'
    rw [hsame] at hp'
    exact ⟨p', hp', .inl rfl⟩
  · intro info htaken hstate i p hp hupdated _
    rw [hsame]
    exact ⟨p, hp, hfull info htaken hstate p (List.mem_of_getElem? hp) hupdated⟩
  · intro _ _ _ i p hp _
    rw [hsame]
    exact ⟨p, hp, rfl⟩

theorem exists_passes (hregular : Regular env list document) (htaken : Taken env list document info)
    (hinitial : isInitialNotifyWithoutUsers env list info = false) :
    ∃ x, applyPolicies env list.strLocalUri info [.userEntity, .referToUri, .order]
        ⟨list.objParticipants.map ConferenceParticipant.startMatching, [], false, []⟩ = some x ∧
      Passing env list.strLocalUri info
        (list.objParticipants.map ConferenceParticipant.startMatching) x := by
  have hstart := passing_start env list.strLocalUri info
    (list.objParticipants.map ConferenceParticipant.startMatching)
  obtain ⟨x, hx⟩ : ∃ x, applyPolicies env list.strLocalUri info
      [.userEntity, .referToUri, .order]
      ⟨list.objParticipants.map ConferenceParticipant.startMatching, [], false, []⟩ = some x := by
    rcases hregular.readable info htaken hinitial with hinfo | ⟨hnil, hadds⟩
    · exact exists_applyPolicies hinfo hstart (fun _ => rfl) _
    · apply exists_applyPolicies_of_nil _ hadds
      rw [hnil]
      rfl
  exact ⟨x, hx, hstart.applyPolicies (fun _ => rfl) hx⟩

theorem getElem?_startMatching {i : Nat} {p : ConferenceParticipant}
    (h : (list.objParticipants.map ConferenceParticipant.startMatching)[i]? = some p) :
    ∃ p₀, list.objParticipants[i]? = some p₀ ∧ p = p₀.startMatching := by
  rw [List.getElem?_map] at h
  obtain ⟨p₀, hp₀, rfl⟩ := Option.map_eq_some_iff.mp h
  exact ⟨p₀, hp₀, rfl⟩

/-- The participants that a document leaves after its passes. -/
def finished (info : ConferenceInfo) (x : Updating) : List ConferenceParticipant :=
  if info.nState = .full then
    x.objParticipants.map ConferenceParticipant.setDeletedToDisconnected
  else x.objParticipants

theorem finished_of_completed {i : Nat} {p : ConferenceParticipant}
    (hp : x.objParticipants[i]? = some p) (hcompleted : p.bMatchingCompleted = true) :
    (finished info x)[i]? = some p := by
  unfold finished
  split
  · have hsame : p.setDeletedToDisconnected = p := by
      unfold ConferenceParticipant.setDeletedToDisconnected
      apply dif_neg
      intro h
      rw [hcompleted] at h
      cases h.2
    rw [List.getElem?_map, hp, Option.map_some, hsame]
  · exact hp

/-- What the end of a full document does to a participant that no user was found for. -/
theorem setDeletedToDisconnected_startMatching (p : ConferenceParticipant) :
    (p.bInfoUpdated = false →
        p.startMatching.setDeletedToDisconnected = p.startMatching) ∧
      (p.bInfoUpdated = true →
        p.startMatching.setDeletedToDisconnected.objConfUser.eStatus = .disconnected) := by
  unfold ConferenceParticipant.setDeletedToDisconnected
  constructor
  · intro hnew
    apply dif_neg
    intro h
    have hold : p.bInfoUpdated = true := h.1
    rw [hnew] at hold
    cases hold
  · intro hold
    rw [dif_pos ⟨hold, rfl⟩]

theorem Passing.follows {updated : Updated} (hregular : Regular env list document)
    (htaken : Taken env list document info)
    (h : Passing env list.strLocalUri info
      (list.objParticipants.map ConferenceParticipant.startMatching) x)
    (hmatches : updated.objMatches = x.objMatches)
    (hlist : updated.list.objParticipants = finished info x) :
    Follows env list document updated := by
  -- A participant that no user was found for is the one before the document.
  have hother : ∀ (i : Nat) (p : ConferenceParticipant), (∀ m ∈ x.objMatches, m.nParticipant ≠ i) →
      list.objParticipants[i]? = some p → x.objParticipants[i]? = some p.startMatching := by
    intro i p hi hp
    rw [h.roster.others i hi, List.getElem?_map, hp]
    rfl
  have hfinished : ∀ (i : Nat) (p : ConferenceParticipant), x.objParticipants[i]? = some p →
      (finished info x)[i]? = some (if info.nState = .full then p.setDeletedToDisconnected
        else p) := by
    intro i p hp
    unfold finished
    split
    · rw [List.getElem?_map, hp]
      rfl
    · exact hp
  refine ⟨?_, ?_, ?_, ?_, ?_, ?_, ?_, ?_, fun hnot => absurd htaken (hnot info)⟩
  · rw [hmatches]
    exact h.roster.users
  · rw [hmatches]
    exact h.roster.participants
  · rw [hmatches]
    exact fun m hm => (h.roster.matched m hm).notLocal
  · rw [hmatches]
    intro m hm hpolicy
    have hmatched := h.roster.matched m hm
    obtain ⟨p, hp, bAllowPrefix, hsame⟩ := hmatched.sameUser hpolicy
    obtain ⟨p₀, hp₀, rfl⟩ := getElem?_startMatching hp
    exact ⟨p₀, hp₀, agree_of_isSameUri (hregular.comparable info htaken _
      (user_mem_of_mem_elements hmatched.known) hmatched.notLocal p₀
      (List.mem_of_getElem? hp₀)) hsame⟩
  · rw [hmatches, hlist]
    intro info' htaken' m hm
    rw [htaken.unique htaken']
    have hmatched := h.roster.matched m hm
    obtain ⟨p, hp, hupdated⟩ := hmatched.updated
    exact ⟨hmatched.known, p, finished_of_completed hp hupdated.completed, hupdated⟩
  · rw [hmatches, hlist]
    intro i p' hi hp'
    cases hx : x.objParticipants[i]? with
    | none =>
        unfold finished at hp'
        split at hp'
        · rw [List.getElem?_map, hx] at hp'
          cases hp'
        · rw [hx] at hp'
          cases hp'
    | some p =>
        have hbefore := (h.roster.others i hi).symm.trans hx
        obtain ⟨p₀, hp₀, rfl⟩ := getElem?_startMatching hbefore
        refine ⟨p₀, hp₀, ?_⟩
        rw [hfinished i _ hx] at hp'
        obtain rfl := Option.some.inj hp'
        split
        · cases hinfo : p₀.bInfoUpdated with
          | false =>
              left
              rw [(setDeletedToDisconnected_startMatching p₀).1 hinfo]
              rfl
          | true => exact .inr ⟨rfl, (setDeletedToDisconnected_startMatching p₀).2 hinfo⟩
        · exact .inl rfl
  · rw [hmatches, hlist]
    intro info' htaken' hfull i p hp hinfo hi
    rw [htaken.unique htaken'] at hfull
    refine ⟨_, hfinished i _ (hother i p hi hp), ?_⟩
    rw [if_pos hfull]
    exact (setDeletedToDisconnected_startMatching p).2 hinfo
  · rw [hlist]
    intro info' htaken' hstate i p hp hexplicit
    rw [htaken.unique htaken'] at hstate
    have hi : ∀ m ∈ x.objMatches, m.nParticipant ≠ i := by
      rintro m hm rfl
      have hnot := (h.roster.matched m hm).notExplicit hstate p.startMatching (by
        rw [List.getElem?_map, hp]
        rfl)
      have hstill : p.startMatching.bDisconnectedExplicitly = true := hexplicit
      rw [hnot] at hstill
      cases hstill
    have hnotFull : ¬info.nState = .full := by
      rw [hstate]
      intro h
      cases h
    refine ⟨p.startMatching, ?_, rfl⟩
    rw [hfinished i _ (hother i p hi hp), if_neg hnotFull]

theorem update_follows (h : Regular env list document) :
    ∃ updated, update env list document = some updated ∧ Follows env list document updated := by
  have hrefused : ∀ eResult, (∀ info, ¬Taken env list document info) →
      Follows env list document ⟨eResult, list, []⟩ := fun eResult hnot =>
    follows_same rfl rfl (fun info htaken => absurd htaken (hnot info)) fun _ => rfl
  unfold update
  cases hparse : ConferenceInfo.parse document with
  | none =>
      refine ⟨_, rfl, hrefused _ ?_⟩
      intro info htaken
      rw [htaken.1] at hparse
      cases hparse
  | some info =>
      dsimp only
      split
      · rename_i hdeleted
        refine ⟨_, rfl, hrefused _ ?_⟩
        intro info' htaken
        rw [htaken.1] at hparse
        rw [← Option.some.inj hparse] at hdeleted
        exact htaken.2.1 hdeleted
      rename_i hdeleted
      split
      · rename_i hversion
        refine ⟨_, rfl, hrefused _ ?_⟩
        intro info' htaken
        rw [htaken.1] at hparse
        rw [← Option.some.inj hparse, htaken.2.2] at hversion
        cases hversion
      rename_i hversion
      have htaken : Taken env list document info :=
        ⟨hparse, hdeleted, Bool.of_not_eq_false hversion⟩
      unfold updateParticipantList
      cases hinitial : isInitialNotifyWithoutUsers env list info with
      | true =>
          refine ⟨_, rfl, follows_same rfl rfl ?_ fun hnot => absurd htaken (hnot info)⟩
          intro info' htaken' hfull
          rw [htaken.unique htaken'] at hfull
          exact h.known info htaken hfull hinitial
      | false =>
          obtain ⟨x, hx, hpassing⟩ := exists_passes h htaken hinitial
          rw [if_neg Bool.false_ne_true, hx]
          exact ⟨_, rfl, hpassing.follows h htaken rfl rfl⟩

/-! ### Sequences of documents -/

/-- Each document is one that the list follows. -/
def AllRegular (env : UpdaterEnvironment) :
    ConferenceParticipantList → List (Option DomNode) → Prop
  | _, [] => True
  | list, document :: documents => Regular env list document ∧
      ∀ updated, update env list document = some updated →
        AllRegular env updated.list documents

/-- No end point is read that is not there, and the list follows each document. -/
def AllFollow (env : UpdaterEnvironment) :
    ConferenceParticipantList → List (Option DomNode) → Prop
  | _, [] => True
  | list, document :: documents => ∃ updated, update env list document = some updated ∧
      Follows env list document updated ∧ AllFollow env updated.list documents

/-- The roster of a conference follows the documents that it can follow. -/
theorem update_allFollow (env : UpdaterEnvironment) (list : ConferenceParticipantList)
    (documents : List (Option DomNode)) (h : AllRegular env list documents) :
    AllFollow env list documents := by
  induction documents generalizing list with
  | nil => trivial
  | cons document documents ih =>
      obtain ⟨updated, hupdate, hfollows⟩ := update_follows h.1
      exact ⟨updated, hupdate, hfollows, ih updated.list (h.2 updated hupdate)⟩

/-! ### Rosters of one participant -/

section Example

/-- The user part of a SIP URI. -/
def sipUserPart (strUri : Chars) : Chars :=
  if "sip:".toList.isPrefixOf strUri && strUri.contains '@' then
    (strUri.drop 4).takeWhile (· ≠ '@')
  else []

def sipEnvironment : UpdaterEnvironment where
  getUserPart := sipUserPart
  bPackageVersionCheckRequired := true
  bSubscriptionForParticipantRequired := false

def userNode (strEntity : String) (endPoints : List DomNode) : DomNode :=
  .element "user".toList [("entity".toList, strEntity.toList)] endPoints

def connectedEndPoint : DomNode :=
  .element "endpoint".toList [] [.element "status".toList [] [.text "connected".toList]]

/-- A full document. -/
def fullDocument (strVersion : String) (users : List DomNode) : DomNode :=
  .element "conference-info".toList
    [("state".toList, "full".toList), ("version".toList, strVersion.toList)]
    [.element "users".toList [] users]

/-- A participant that a document told to be connected. -/
def connectedParticipant (strEntity : String) : ConferenceParticipant :=
  ⟨⟨1, [], strEntity.toList, [], .connected⟩, [], true, false, false, fun _ => rfl⟩

def rosterOf (nVersion : Int) (strEntity : String) : ConferenceParticipantList :=
  ⟨"sip:local@h".toList, nVersion, 6, [connectedParticipant strEntity]⟩

def aliceAndBobby : DomNode :=
  fullDocument "2" [userNode "sip:alice@h" [connectedEndPoint],
    userNode "sip:bobby@h" [connectedEndPoint]]

def connectedUser (strEntity : String) : User :=
  ⟨strEntity.toList, .full, [], [⟨[], .full, [], .connected⟩]⟩

def aliceAndBobbyInfo : ConferenceInfo :=
  ⟨.full, 2, 6, [connectedUser "sip:alice@h", connectedUser "sip:bobby@h"]⟩

theorem aliceAndBobby_regular :
    Regular sipEnvironment (rosterOf 1 "sip:alice@h") (some aliceAndBobby) := by
  have hparse : ConferenceInfo.parse (some aliceAndBobby) = some aliceAndBobbyInfo := rfl
  have hinfo : ∀ info,
      Taken sipEnvironment (rosterOf 1 "sip:alice@h") (some aliceAndBobby) info →
        info = aliceAndBobbyInfo := fun info htaken =>
    Option.some.inj (htaken.1.symm.trans hparse)
  refine ⟨?_, ?_, ?_⟩
  · intro info htaken _
    rw [hinfo info htaken]
    left
    intro user huser
    rcases List.mem_cons.mp huser with rfl | huser
    · exact List.cons_ne_nil _ _
    · rw [List.mem_singleton.mp huser]
      exact List.cons_ne_nil _ _
  · intro info htaken user huser _ p hp
    rw [hinfo info htaken] at huser
    rw [List.mem_singleton.mp hp]
    rcases List.mem_cons.mp huser with rfl | huser
    · exact ⟨rfl, rfl, .inl rfl⟩
    · rw [List.mem_singleton.mp huser]
      exact ⟨rfl, rfl, .inr (.inl (by decide))⟩
  · intro info htaken _ hinitial
    rw [hinfo info htaken] at hinitial
    cases hinitial

theorem aliceAndBobby_follows :
    AllFollow sipEnvironment (rosterOf 1 "sip:alice@h") [some aliceAndBobby, none] := by
  apply update_allFollow
  refine ⟨aliceAndBobby_regular, ?_⟩
  intro updated _
  refine ⟨?_, fun _ _ => trivial⟩
  refine ⟨?_, ?_, ?_⟩
  · intro info htaken
    cases htaken.1
  · intro info htaken
    cases htaken.1
  · intro info htaken
    cases htaken.1

def emergencyRoster : ConferenceParticipantList := rosterOf 1 "sip:911@h"

/-- A user without an end point is read; a participant "911" is taken for the user "112"; and a
full document without users after one of version 0 leaves a participant connected. -/
theorem update_not_follows :
    update sipEnvironment (rosterOf 1 "sip:alice@h")
        (some (fullDocument "2" [userNode "sip:alice@h" []])) = none ∧
      (∃ updated, update sipEnvironment emergencyRoster
          (some (fullDocument "2" [userNode "sip:112@h" [connectedEndPoint]])) = some updated ∧
        ¬Follows sipEnvironment emergencyRoster
          (some (fullDocument "2" [userNode "sip:112@h" [connectedEndPoint]])) updated) ∧
      ∃ updated, update sipEnvironment (rosterOf 0 "sip:alice@h")
          (some (fullDocument "1" [])) = some updated ∧
        ¬Follows sipEnvironment (rosterOf 0 "sip:alice@h") (some (fullDocument "1" []))
          updated := by
  refine ⟨rfl, ⟨_, rfl, ?_⟩, ⟨_, rfl, ?_⟩⟩
  · intro hfollows
    obtain ⟨p, hp, hagree⟩ := hfollows.byUserEntity
      ⟨.userEntity, ⟨0, connectedUser "sip:112@h"⟩, 0⟩ List.mem_cons_self rfl
    rw [← Option.some.inj hp] at hagree
    rcases hagree with heq | ⟨leadingA, leadingB, common, hA, hB, hcommon, -, -⟩
    · revert heq
      decide
    · have hlastA : some '1' = common.getLast? := by
        rw [← List.getLast?_append_of_ne_nil leadingA hcommon, ← hA]
        rfl
      have hlastB : some '2' = common.getLast? := by
        rw [← List.getLast?_append_of_ne_nil leadingB hcommon, ← hB]
        rfl
      rw [← hlastB] at hlastA
      revert hlastA
      decide
  · intro hfollows
    obtain ⟨p, hp, hstatus⟩ := hfollows.full ⟨.full, 1, 6, []⟩ ⟨rfl, by decide, rfl⟩ rfl 0
      (connectedParticipant "sip:alice@h") rfl rfl (fun _ hm => absurd hm List.not_mem_nil)
    rw [← Option.some.inj hp] at hstatus
    cases hstatus

end Example

end ConferenceInfoUpdater

end ImsStack.Conference
