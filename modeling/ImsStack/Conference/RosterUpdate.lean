import ImsStack.Conference.ConferenceInfoUpdater

/-!
What the search for the participant of a user finds, and what one update leaves as it was.
-/

namespace ImsStack.Conference

open Platform.AString (Chars)

namespace ConferenceInfoUpdater

variable {env : UpdaterEnvironment} {info : ConferenceInfo} {element : UserElement}
  {ePolicy : MatchingPolicy}

/-! ### Reading the end points -/

/-- Each user has an end point. -/
def Readable (info : ConferenceInfo) : Prop :=
  ∀ user ∈ info.objUsers, user.objEndPoints ≠ []

theorem user_mem_of_mem_elements (h : element ∈ info.elements) : element.user ∈ info.objUsers := by
  obtain ⟨i, hi, rfl⟩ := List.mem_mapIdx.mp h
  exact List.getElem_mem hi

theorem exists_statusOf (h : element.user.objEndPoints ≠ []) :
    ∃ nStatus, statusOf element = some nStatus := by
  obtain ⟨nAddress, strEntity, nState, strDisplayText, objEndPoints⟩ := element
  cases objEndPoints with
  | nil => exact absurd rfl h
  | cons endPoint rest => exact ⟨endPoint.nStatus, rfl⟩

theorem exists_anyConnected {elements : List UserElement}
    (h : ∀ element ∈ elements, element.user.objEndPoints ≠ []) :
    ∃ b, anyConnected elements = some b := by
  induction elements with
  | nil => exact ⟨false, rfl⟩
  | cons element rest ih =>
      obtain ⟨nStatus, hstatus⟩ := exists_statusOf (h element List.mem_cons_self)
      unfold anyConnected
      rw [hstatus, Option.bind_some]
      split
      · exact ⟨true, rfl⟩
      · exact ih fun other hother => h other (List.mem_cons_of_mem element hother)

theorem exists_isInvalidStatusUpdate (hinfo : Readable info) (hmem : element ∈ info.elements)
    (p : ConferenceParticipant) : ∃ b, isInvalidStatusUpdate info p element = some b := by
  obtain ⟨nStatus, hstatus⟩ := exists_statusOf (hinfo _ (user_mem_of_mem_elements hmem))
  unfold isInvalidStatusUpdate
  rw [hstatus, Option.bind_some]
  dsimp only
  split
  · exact ⟨true, rfl⟩
  · split
    · exact ⟨true, rfl⟩
    · split
      · obtain ⟨b, hb⟩ : ∃ b, anyConnected (getSameUserEntities info element) = some b := by
          apply exists_anyConnected
          intro other hother
          exact hinfo _ (user_mem_of_mem_elements (List.mem_filter.mp hother).1)
        rw [hb]
        exact ⟨_, rfl⟩
      · exact ⟨_, rfl⟩

section Exists

variable (hinfo : Readable info) (hmem : element ∈ info.elements)
include hinfo hmem

theorem exists_findParticipantByUserEntity (env : UpdaterEnvironment)
    (l : List ConferenceParticipant) (i : Nat) :
    ∃ nIndex, findParticipantByUserEntity env info element i l = some nIndex := by
  induction l generalizing i with
  | nil => exact ⟨none, rfl⟩
  | cons p rest ih =>
      obtain ⟨b, hb⟩ := exists_isInvalidStatusUpdate hinfo hmem p
      unfold findParticipantByUserEntity
      rw [hb]
      dsimp only [Option.bind_some]
      repeat' split
      all_goals first
        | exact ih (i + 1)
        | exact ⟨_, rfl⟩

theorem exists_findByMatchingCount (env : UpdaterEnvironment)
    (l : List ConferenceParticipant) (i : Nat)
    (nIndex : Option Nat) (nMax : Nat) :
    ∃ found, findByMatchingCount env info element i l nIndex nMax = some found := by
  induction l generalizing i nIndex nMax with
  | nil => exact ⟨nIndex, rfl⟩
  | cons p rest ih =>
      obtain ⟨b, hb⟩ := exists_isInvalidStatusUpdate hinfo hmem p
      unfold findByMatchingCount
      rw [hb]
      dsimp only [Option.bind_some]
      repeat' split
      all_goals exact ih _ _ _

theorem exists_findByMatchingScore (env : UpdaterEnvironment)
    (l : List ConferenceParticipant) (i : Nat)
    (nIndex : Option Nat) (nMax : Nat) :
    ∃ found, findByMatchingScore env info element i l nIndex nMax = some found := by
  induction l generalizing i nIndex nMax with
  | nil => exact ⟨nIndex, rfl⟩
  | cons p rest ih =>
      obtain ⟨b, hb⟩ := exists_isInvalidStatusUpdate hinfo hmem p
      unfold findByMatchingScore
      rw [hb]
      dsimp only [Option.bind_some]
      repeat' split
      all_goals exact ih _ _ _

theorem exists_findFirstNotUpdated (l : List ConferenceParticipant) (i : Nat) :
    ∃ nIndex, findFirstNotUpdated info element i l = some nIndex := by
  induction l generalizing i with
  | nil => exact ⟨none, rfl⟩
  | cons p rest ih =>
      obtain ⟨b, hb⟩ := exists_isInvalidStatusUpdate hinfo hmem p
      unfold findFirstNotUpdated
      rw [hb, Option.bind_some]
      repeat' split
      all_goals first
        | exact ih (i + 1)
        | exact ⟨_, rfl⟩

theorem exists_findParticipant (strLocalUri : Chars) (nIndexInXml : Nat)
    (l : List ConferenceParticipant) (bHost : Bool) :
    ∃ found, findParticipant env strLocalUri info ePolicy element nIndexInXml l bHost =
      some found := by
  unfold findParticipant
  cases ePolicy with
  | userEntity =>
      obtain ⟨nIndex, hfound⟩ := exists_findParticipantByUserEntity hinfo hmem env l 0
      rw [hfound]
      exact ⟨_, rfl⟩
  | referToUri =>
      obtain ⟨byCount, hcount⟩ := exists_findByMatchingCount hinfo hmem env l 0 none 0
      obtain ⟨byScore, hscore⟩ := exists_findByMatchingScore hinfo hmem env l 0 none 0
      unfold findParticipantByReferToUri
      rw [hcount, hscore]
      cases byCount <;> exact ⟨_, rfl⟩
  | order =>
      obtain ⟨nIndex, hfound⟩ := exists_findFirstNotUpdated hinfo hmem l 0
      unfold findParticipantByOrder
      rw [hfound]
      dsimp only
      repeat' split
      all_goals exact ⟨_, rfl⟩

end Exists

/-! ### The participant that is found -/

/-- A participant that a user can be found for. -/
structure Eligible (env : UpdaterEnvironment) (info : ConferenceInfo) (ePolicy : MatchingPolicy)
    (element : UserElement) (p : ConferenceParticipant) : Prop where
  notYet : p.bMatchingCompleted = false ∨ p.bInfoUpdated = false
  valid : isInvalidStatusUpdate info p element = some false
  sameUser : ePolicy = .userEntity →
    ∃ bAllowPrefix, isSameUri env (env.getUserPart p.objConfUser.strUserEntity)
      (env.getUserPart element.user.strEntity) bAllowPrefix = true

/-- Some participant of a list that starts at an index. -/
def At (P : ConferenceParticipant → Prop) (i : Nat) (l : List ConferenceParticipant) (k : Nat) :
    Prop :=
  ∃ j p, k = i + j ∧ l[j]? = some p ∧ P p

theorem At.head {P : ConferenceParticipant → Prop} {i : Nat} {p : ConferenceParticipant}
    {rest : List ConferenceParticipant} (h : P p) : At P i (p :: rest) i := ⟨0, p, rfl, rfl, h⟩

theorem At.tail {P : ConferenceParticipant → Prop} {i k : Nat} {p : ConferenceParticipant}
    {rest : List ConferenceParticipant} (h : At P (i + 1) rest k) : At P i (p :: rest) k := by
  obtain ⟨j, q, hk, hq, hP⟩ := h
  refine ⟨j + 1, q, ?_, hq, hP⟩
  rw [hk, Nat.add_assoc, Nat.add_comm 1 j]

theorem findParticipantByUserEntity_eligible {l : List ConferenceParticipant} {i k : Nat}
    (h : findParticipantByUserEntity env info element i l = some (some k)) :
    At (Eligible env info .userEntity element) i l k := by
  induction l generalizing i with
  | nil => cases h
  | cons p rest ih =>
      unfold findParticipantByUserEntity at h
      dsimp only at h
      split at h
      · exact (ih h).tail
      rename_i hcompleted
      split at h
      · exact (ih h).tail
      obtain ⟨bInvalid, hinvalid, h⟩ := Option.bind_eq_some_iff.mp h
      split at h
      · exact (ih h).tail
      rename_i hvalid
      have heligible : ∀ bAllowPrefix, isSameUri env (env.getUserPart p.objConfUser.strUserEntity)
          (env.getUserPart element.user.strEntity) bAllowPrefix = true →
          Eligible env info .userEntity element p := by
        intro bAllowPrefix hsame
        refine ⟨.inl (Bool.of_not_eq_true hcompleted), ?_, fun _ => ⟨bAllowPrefix, hsame⟩⟩
        rw [hinvalid, Bool.of_not_eq_true hvalid]
      split at h
      · exact (ih h).tail
      split at h
      · exact (ih h).tail
      split at h
      · rename_i hsame
        cases h
        exact .head (heligible false hsame)
      split at h
      · rename_i hsame
        cases h
        exact .head (heligible true hsame)
      · exact (ih h).tail

theorem findByMatchingCount_eligible {l : List ConferenceParticipant} {i k nMax : Nat}
    {nIndex : Option Nat}
    (h : findByMatchingCount env info element i l nIndex nMax = some (some k)) :
    nIndex = some k ∨ At (Eligible env info .referToUri element) i l k := by
  induction l generalizing i nIndex nMax with
  | nil => exact .inl (Option.some.inj h)
  | cons p rest ih =>
      have hskip : ∀ nMax, findByMatchingCount env info element (i + 1) rest nIndex nMax =
          some (some k) →
          nIndex = some k ∨ At (Eligible env info .referToUri element) i (p :: rest) k :=
        fun nMax hrest => (ih hrest).imp_right At.tail
      unfold findByMatchingCount at h
      dsimp only at h
      split at h
      · exact hskip _ h
      rename_i hcompleted
      split at h
      · exact hskip _ h
      split at h
      · exact hskip _ h
      obtain ⟨bInvalid, hinvalid, h⟩ := Option.bind_eq_some_iff.mp h
      split at h
      · exact hskip _ h
      rename_i hvalid
      split at h
      · right
        rcases ih h with hi | hrest
        · cases hi
          refine .head ⟨.inl (Bool.of_not_eq_true hcompleted), ?_, fun hpolicy => by cases hpolicy⟩
          rw [hinvalid, Bool.of_not_eq_true hvalid]
        · exact hrest.tail
      · exact hskip _ h

theorem findByMatchingScore_eligible {l : List ConferenceParticipant} {i k nMax : Nat}
    {nIndex : Option Nat}
    (h : findByMatchingScore env info element i l nIndex nMax = some (some k)) :
    nIndex = some k ∨ At (Eligible env info .referToUri element) i l k := by
  induction l generalizing i nIndex nMax with
  | nil => exact .inl (Option.some.inj h)
  | cons p rest ih =>
      have hskip : ∀ nMax, findByMatchingScore env info element (i + 1) rest nIndex nMax =
          some (some k) →
          nIndex = some k ∨ At (Eligible env info .referToUri element) i (p :: rest) k :=
        fun nMax hrest => (ih hrest).imp_right At.tail
      unfold findByMatchingScore at h
      dsimp only at h
      split at h
      · exact hskip _ h
      rename_i hnew
      obtain ⟨bInvalid, hinvalid, h⟩ := Option.bind_eq_some_iff.mp h
      split at h
      · exact hskip _ h
      rename_i hvalid
      split at h
      · exact hskip _ h
      split at h
      · right
        rcases ih h with hi | hrest
        · cases hi
          refine .head ⟨.inl ?_, ?_, fun hpolicy => by cases hpolicy⟩
          · exact (Bool.or_eq_false_iff.mp (Bool.of_not_eq_true hnew)).1
          · rw [hinvalid, Bool.of_not_eq_true hvalid]
        · exact hrest.tail
      split at h
      · rcases ih h with hi | hrest
        · cases hi
        · exact .inr hrest.tail
      · exact hskip _ h

theorem findFirstNotUpdated_eligible {l : List ConferenceParticipant} {i k : Nat}
    (h : findFirstNotUpdated info element i l = some (some k)) :
    At (Eligible env info .order element) i l k := by
  induction l generalizing i with
  | nil => cases h
  | cons p rest ih =>
      unfold findFirstNotUpdated at h
      obtain ⟨bInvalid, hinvalid, h⟩ := Option.bind_eq_some_iff.mp h
      split at h
      · exact (ih h).tail
      rename_i hvalid
      split at h
      · exact (ih h).tail
      split at h
      · rename_i hnew
        cases h
        refine .head ⟨.inr hnew, ?_, fun hpolicy => by cases hpolicy⟩
        rw [hinvalid, Bool.of_not_eq_true hvalid]
      · exact (ih h).tail

theorem findParticipant_eligible {strLocalUri : Chars} {nIndexInXml k : Nat}
    {l : List ConferenceParticipant} {bHost bHost' : Bool}
    (h : findParticipant env strLocalUri info ePolicy element nIndexInXml l bHost =
      some (some k, bHost')) :
    ∃ p, l[k]? = some p ∧ Eligible env info ePolicy element p := by
  have hat : At (Eligible env info ePolicy element) 0 l k := by
    unfold findParticipant at h
    cases ePolicy with
    | userEntity =>
        obtain ⟨nIndex, hfound, heq⟩ := Option.map_eq_some_iff.mp h
        cases heq
        exact findParticipantByUserEntity_eligible hfound
    | referToUri =>
        obtain ⟨nIndex, hfound, heq⟩ := Option.map_eq_some_iff.mp h
        cases heq
        unfold findParticipantByReferToUri at hfound
        obtain ⟨byCount, hcount, hfound⟩ := Option.bind_eq_some_iff.mp hfound
        cases byCount with
        | none => exact (findByMatchingScore_eligible hfound).resolve_left fun hk => by cases hk
        | some byCount =>
            cases hfound
            exact (findByMatchingCount_eligible hcount).resolve_left fun hk => by cases hk
    | order =>
        unfold findParticipantByOrder at h
        dsimp only at h
        generalize (if bHost = true then (if nIndexInXml = 0 then 4294967295 else nIndexInXml - 1)
          else nIndexInXml) = n at h
        split at h
        · cases h
        split at h
        · cases h
        · obtain ⟨nIndex, hfound, heq⟩ := Option.map_eq_some_iff.mp h
          have hk : nIndex = some k := congrArg Prod.fst heq
          rw [hk] at hfound
          exact findFirstNotUpdated_eligible hfound
  obtain ⟨j, p, hk, hp, heligible⟩ := hat
  rw [Nat.zero_add] at hk
  exact ⟨p, hk ▸ hp, heligible⟩

end ConferenceInfoUpdater

end ImsStack.Conference
