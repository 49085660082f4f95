import ImsStack.Conference.MergeRuns

/-!
What adding users does to the participants, and whom the operations and references of a conference
refer to, in every run.
-/

namespace ImsStack.Conference

open Controller TransitionSystem

namespace Controller

variable {c : Controller} {objCalls : List Nat} {getCallKey : Nat → Nat}
  {objConfUsers : List ConfUser}

/-! ### Adding users -/

/-- The members that copies of the users become. -/
def newMembers (nNextAddress : Nat) (objConfUsers : List ConfUser) : List Member :=
  objConfUsers.mapIdx fun i objConfUser =>
    { pConfUser := nNextAddress + i, participant := .ofConfUser objConfUser }

theorem objParticipants_addUsers (c : Controller) (objConfUsers : List ConfUser) :
    (c.addUsers objConfUsers).objParticipants =
      c.objParticipants ++ newMembers c.nNextAddress objConfUsers := by
  induction objConfUsers generalizing c with
  | nil => exact (List.append_nil _).symm
  | cons objConfUser objConfUsers ih =>
    have hnext := ih (c.addUser objConfUser)
    unfold addUsers newMembers at hnext ⊢
    rw [List.foldl_cons, hnext, List.mapIdx_cons]
    simp only [addUser, List.append_assoc, List.singleton_append, Nat.add_zero,
      Nat.add_assoc, Nat.add_comm 1]

/-- The key of the call of a member. -/
def callKey (getCallKey : Nat → Nat) (member : Member) : Nat := getCallKey member.connectionId

theorem participantOfCall_of_mem {members : List Member} {member : Member}
    (hkeys : (members.map (callKey getCallKey)).Nodup) (hmember : member ∈ members) :
    participantOfCall getCallKey members (callKey getCallKey member) = some member := by
  have hsome : (participantOfCall getCallKey members (callKey getCallKey member)).isSome = true :=
    List.find?_isSome.mpr ⟨member, hmember, beq_self_eq_true _⟩
  obtain ⟨found, hfound⟩ := Option.isSome_iff_exists.mp hsome
  obtain ⟨hmem, hkey⟩ := participantOfCall_eq_some hfound
  rw [hfound, List.inj_on_of_nodup_map hkeys hmem hmember hkey]

/-- Each member has a call of its own, which the call manager knows. -/
structure HaveCalls (objCalls : List Nat) (getCallKey : Nat → Nat) (members : List Member) :
    Prop where
  distinct : (members.map (callKey getCallKey)).Nodup
  known : ∀ member ∈ members, callKey getCallKey member ∈ objCalls

theorem perm_reordered_iff {members : List Member} (hcalls : objCalls.Nodup)
    (hmembers : members.Nodup) :
    (objCalls.filterMap (participantOfCall getCallKey members)).Perm members ↔
      HaveCalls objCalls getCallKey members := by
  constructor
  · intro hperm
    have hcall {member : Member} (hmember : member ∈ members) :
        callKey getCallKey member ∈ objCalls ∧
          participantOfCall getCallKey members (callKey getCallKey member) = some member := by
      obtain ⟨nCallKey, hmem, hfound⟩ := List.mem_filterMap.mp (hperm.mem_iff.mpr hmember)
      obtain rfl : callKey getCallKey member = nCallKey := (participantOfCall_eq_some hfound).2
      exact ⟨hmem, hfound⟩
    refine ⟨hmembers.map_on fun first hfirst second hsecond heq => ?_,
      fun member hmember => (hcall hmember).1⟩
    have hfound := (hcall hfirst).2
    rw [heq, (hcall hsecond).2] at hfound
    exact (Option.some.inj hfound).symm
  · intro h
    refine (List.perm_ext_iff_of_nodup (nodup_reordered hcalls) hmembers).mpr fun member => ?_
    refine ⟨mem_members_of_reordered, fun hmember => ?_⟩
    exact List.mem_filterMap.mpr
      ⟨_, h.known member hmember, participantOfCall_of_mem h.distinct hmember⟩

/-- Where the calls of some members come before those of the others, so do the members. -/
theorem perm_drop_reordered {before after : List Nat} {first second : List Member}
    (hcalls : (before ++ after).Nodup) (hmembers : (first ++ second).Nodup)
    (h : HaveCalls (before ++ after) getCallKey (first ++ second))
    (hbefore : ∀ member ∈ first, callKey getCallKey member ∈ before)
    (hafter : ∀ member ∈ second, callKey getCallKey member ∈ after) :
    (((before ++ after).filterMap (participantOfCall getCallKey (first ++ second))).drop
      first.length).Perm second := by
  have hside {calls others : List Nat} {mine theirs : List Member} (hnodup : calls.Nodup)
      (hdisjoint : ∀ nCallKey ∈ calls, nCallKey ∉ others) (hmine : mine.Nodup)
      (hmem : ∀ member, member ∈ first ++ second ↔ member ∈ mine ∨ member ∈ theirs)
      (hown : ∀ member ∈ mine, callKey getCallKey member ∈ calls)
      (htheirs : ∀ member ∈ theirs, callKey getCallKey member ∈ others) :
      (calls.filterMap (participantOfCall getCallKey (first ++ second))).Perm mine := by
    refine (List.perm_ext_iff_of_nodup (nodup_reordered hnodup) hmine).mpr fun member => ?_
    constructor
    · intro hfound
      obtain ⟨nCallKey, hcall, hfound⟩ := List.mem_filterMap.mp hfound
      obtain ⟨hmember, rfl⟩ := participantOfCall_eq_some hfound
      exact ((hmem member).mp hmember).resolve_right fun htheir =>
        hdisjoint _ hcall (htheirs member htheir)
    · intro hmember
      exact List.mem_filterMap.mpr ⟨_, hown member hmember,
        participantOfCall_of_mem h.distinct ((hmem member).mpr (.inl hmember))⟩
  obtain ⟨hfirstNodup, hsecondNodup, -⟩ := List.nodup_append.mp hmembers
  obtain ⟨hbeforeNodup, hafterNodup, hdisjoint⟩ := List.nodup_append.mp hcalls
  have hfirst := hside hbeforeNodup (fun nCallKey hmem hother => hdisjoint _ hmem _ hother rfl)
    hfirstNodup (fun _ => List.mem_append) hbefore hafter
  have hsecond := hside hafterNodup (fun nCallKey hmem hother => hdisjoint _ hother _ hmem rfl)
    hsecondNodup (fun _ => List.mem_append.trans or_comm) hafter hbefore
  rwa [List.filterMap_append, List.drop_left' hfirst.length_eq]

/-- What `AddUserToParticipantList` leaves, and the start index. -/
structure Adds (c : Controller) (objCalls : List Nat) (getCallKey : Nat → Nat)
    (objConfUsers : List ConfUser) (bReOrder : Bool) (added : Controller × Nat) : Prop where
  start : added.2 = c.objParticipants.length
  appended : bReOrder = false ∨ objConfUsers.length ≤ 1 →
    added.1.objParticipants = c.objParticipants ++ newMembers c.nNextAddress objConfUsers
  reordered : bReOrder = true → 1 < objConfUsers.length →
    (added.1.objParticipants.Perm (c.objParticipants ++ newMembers c.nNextAddress objConfUsers) ↔
      HaveCalls objCalls getCallKey
        (c.objParticipants ++ newMembers c.nNextAddress objConfUsers))
  behind : HaveCalls objCalls getCallKey
      (c.objParticipants ++ newMembers c.nNextAddress objConfUsers) →
    ∀ before after, objCalls = before ++ after →
      (∀ member ∈ c.objParticipants, callKey getCallKey member ∈ before) →
      (∀ member ∈ newMembers c.nNextAddress objConfUsers, callKey getCallKey member ∈ after) →
      (added.1.objParticipants.drop added.2).Perm (newMembers c.nNextAddress objConfUsers)

theorem Sound.adds (h : c.Sound) (hcalls : objCalls.Nodup) (getCallKey : Nat → Nat)
    (objConfUsers : List ConfUser) (bReOrder : Bool) :
    c.Adds objCalls getCallKey objConfUsers bReOrder
      (c.addUserToParticipantList objCalls getCallKey objConfUsers bReOrder) := by
  have hmembers := objParticipants_addUsers c objConfUsers
  have hnodup : (c.objParticipants ++ newMembers c.nNextAddress objConfUsers).Nodup :=
    hmembers ▸ List.Nodup.of_map _ (h.addUsers objConfUsers).sound.users_nodup
  unfold Controller.addUserToParticipantList
  by_cases hreorder : (bReOrder && decide (objConfUsers.length > 1)) = true
  · rw [if_pos hreorder]
    have hlist : ((c.addUsers objConfUsers).reOrder objCalls getCallKey).objParticipants =
        objCalls.filterMap (participantOfCall getCallKey
          (c.objParticipants ++ newMembers c.nNextAddress objConfUsers)) := by
      rw [← hmembers]
      rfl
    obtain ⟨hflag, hmany⟩ := Bool.and_eq_true_iff.mp hreorder
    refine ⟨rfl, ?_, ?_, ?_⟩
    · rintro (hno | hfew)
      · exact absurd (hno.symm.trans hflag) Bool.false_ne_true
      · exact absurd (of_decide_eq_true hmany) (Nat.not_lt_of_le hfew)
    · intro _ _
      rw [hlist]
      exact perm_reordered_iff hcalls hnodup
    · rintro hcall before after rfl hbefore hafter
      rw [hlist]
      exact perm_drop_reordered hcalls hnodup hcall hbefore hafter
  · rw [if_neg hreorder]
    refine ⟨rfl, fun _ => hmembers, ?_, ?_⟩
    · intro hflag hmany
      exact absurd (Bool.and_eq_true_iff.mpr ⟨hflag, decide_eq_true hmany⟩) hreorder
    · intro _ before after _ _ _
      rw [hmembers, List.drop_left]

/-! ### The users that are invited -/

/-- The users of the operations that invite, in the order of the operations. -/
def invited (operations : List ConferenceOperation) : List Nat :=
  (operations.filter fun operation => operation.nType == .referInvite).flatMap
    ConferenceOperation.objConfUsers

theorem invited_append (first second : List ConferenceOperation) :
    invited (first ++ second) = invited first ++ invited second := by
  simp [invited]

theorem invited_putAll (c : Controller) (operations : List ConferenceOperation) :
    invited (c.putAll operations).objOperationQueue =
      invited c.objOperationQueue ++ invited operations := by
  induction operations generalizing c with
  | nil => exact (List.append_nil _).symm
  | cons operation operations ih =>
    have hput : invited (c.put operation).objOperationQueue =
        invited c.objOperationQueue ++ invited [operation] := by
      unfold put
      rw [invited_append]
      simp only [invited, List.filter_cons, List.filter_nil]
      split <;> rfl
    have hrest := ih (c.put operation)
    rw [hput, List.append_assoc, ← invited_append] at hrest
    exact hrest

end Controller

namespace MergeController

variable {configuration : ConferenceConfiguration} {objMembers : List Member}

theorem invited_mergeUserOperations :
    invited (objMembers.flatMap (mergeUserOperations configuration)) =
      objMembers.map Member.pConfUser := by
  induction objMembers with
  | nil => rfl
  | cons member objMembers ih =>
    have hhead : invited (mergeUserOperations configuration member) = [member.pConfUser] := by
      unfold mergeUserOperations
      split <;> rfl
    rw [List.flatMap_cons, invited_append, hhead, ih]
    rfl

theorem invited_mergeOperations {bCreated : Bool} :
    invited (mergeOperations configuration bCreated objMembers) =
      objMembers.map Member.pConfUser := by
  have hnone {b : Prop} [Decidable b] {operations : List ConferenceOperation}
      (h : invited operations = []) : invited (if b then operations else []) = [] := by
    split
    · exact h
    · rfl
  have hnone' {b : Prop} [Decidable b] {operations : List ConferenceOperation}
      (h : invited operations = []) : invited (if b then [] else operations) = [] := by
    split
    · rfl
    · exact h
  unfold mergeOperations
  simp only [invited_append, invited_mergeUserOperations, hnone, hnone', List.nil_append,
    List.append_nil, show invited [{ nType := .createConferenceCall }] = [] from rfl,
    show invited [{ nType := .subscribe }] = [] from rfl,
    show invited [{ nType := .notifyResultToUi }] = [] from rfl,
    show invited [{ nType := .notifyResultToMtcCall }] = [] from rfl]

theorem invited_joinOperations (hcopy : configuration.nReferTypeForInvite ≠ .copyControl) :
    invited (joinOperations configuration objMembers) = objMembers.map Member.pConfUser := by
  have hresult : invited (if configuration.bReferSubscriptionRequired then []
      else [{ nType := .notifyResultToUi }]) = [] := by
    split <;> rfl
  unfold joinOperations
  rw [invited_append, hresult, List.append_nil]
  cases htype : configuration.nReferTypeForInvite with
  | copyControl => exact absurd htype hcopy
  | referSingle =>
    clear hresult hcopy htype
    induction objMembers with
    | nil => rfl
    | cons member objMembers ih => exact congrArg (member.pConfUser :: ·) ih
  | referMultiple => exact List.append_nil _

/-- The added users are invited: those at or after the start index, in their order. -/
structure Invites (configuration : ConferenceConfiguration) (env : Environment)
    (objUsers : List ConfUser) (c : Controller) : Prop where
  merged : invited (prepareMerge configuration env objUsers c).objOperationQueue =
    invited c.objOperationQueue ++
      ((c.addUserToParticipantList env.objCalls env.getCallKey objUsers true).1.objParticipants.drop
        c.objParticipants.length).map Member.pConfUser
  joined : configuration.nReferTypeForInvite ≠ .copyControl →
    invited (prepareJoin configuration env objUsers c).objOperationQueue =
      invited c.objOperationQueue ++
        (newMembers c.nNextAddress objUsers).map Member.pConfUser

theorem queue_addUserToParticipantList {objCalls : List Nat} {getCallKey : Nat → Nat}
    {objUsers : List ConfUser} {bReOrder : Bool} (c : Controller) :
    (c.addUserToParticipantList objCalls getCallKey objUsers bReOrder).1.objOperationQueue =
      c.objOperationQueue := by
  have hadded : (c.addUsers objUsers).objOperationQueue = c.objOperationQueue := by
    induction objUsers generalizing c with
    | nil => rfl
    | cons objUser objUsers ih => exact ih (c.addUser objUser)
  unfold addUserToParticipantList
  split <;> exact hadded

theorem invites {c : Controller} (h : c.Sound) (env : Environment) (objUsers : List ConfUser) :
    Invites configuration env objUsers c := by
  constructor
  · have hadds := h.adds env.distinct env.getCallKey objUsers true
    unfold prepareMerge
    rw [invited_putAll, invited_mergeOperations, queue_addUserToParticipantList, hadds.start]
  · intro hcopy
    have hadds := h.adds env.distinct env.getCallKey objUsers false
    unfold prepareJoin
    rw [invited_putAll, invited_joinOperations hcopy, queue_addUserToParticipantList, hadds.start,
      hadds.appended (.inl rfl), List.drop_left]

theorem sound_of_reachable {c : Controller} (hc : (system configuration).Reachable c) :
    c.Sound := by
  refine hc.invariant ?_ fun before e later h hstep => (reaches_handleEvent configuration e h later
    hstep).sound
  rintro _ ⟨strLocalUri, rfl⟩
  exact ⟨List.nodup_nil, fun _ hmem => absurd hmem List.not_mem_nil,
    fun _ hmem => absurd hmem List.not_mem_nil, fun _ hmem => absurd hmem List.not_mem_nil,
    fun _ hmem => absurd hmem List.not_mem_nil⟩

section Example

/-- The user of a call. -/
def userOfCall (nConnectionId : Nat) : ConfUser := { ConfUser.new with nConnectionId }

/-- The conference call and the calls with the keys are known; a call that is ended reports it. -/
def knowing (objCalls : List Nat) (distinct : objCalls.Nodup) : Environment where
  objCalls := objCalls
  distinct := distinct
  getCallKey := id
  nConfCallKey := 9
  isConferenceCallEstablished _ := true
  startConference _ := none
  terminate _ _ := true
  sendInvite _ := .sent
  subscribe _ := true
  getResponseCode _ := 200
  updater := ⟨id, false, false⟩

def referToEach : ConferenceConfiguration := ⟨.referSingle, .referAndSubscribe, false, true, false⟩

/-- Two calls are merged. -/
def mergeOfTwo : List ConferenceEvent :=
  [.merge [userOfCall 1, userOfCall 2], .callUpdated .started 9, .referenceUpdated 2 200 false,
    .referenceUpdated 3 200 false].map fun input => ⟨knowing [1, 2] (by decide), 10, input⟩

/-- Two other calls are merged when the first two have been ended. -/
def laterMerge : ConferenceEvent :=
  ⟨knowing [3, 4] (by decide), 10, .merge [userOfCall 3, userOfCall 4]⟩

def conferenceRun (events : List ConferenceEvent) : Option Controller :=
  events.foldlM (fun c e => handleEvent referToEach e c) { strLocalUri := [] }

theorem reachable_of_foldlM {events : List ConferenceEvent} {c later : Controller}
    (hc : (system configuration).Reachable c)
    (h : events.foldlM (fun c e => handleEvent configuration e c) c = some later) :
    (system configuration).Reachable later := by
  induction events generalizing c with
  | nil =>
    cases h
    exact hc
  | cons e events ih =>
    obtain ⟨next, hnext, h⟩ := Option.bind_eq_some_iff.mp h
    exact ih (.step e hc hnext) h

theorem exists_of_conferenceRun {events : List ConferenceEvent} {holds : Controller → Bool}
    (h : (conferenceRun events).any holds = true) :
    ∃ c, (system referToEach).Reachable c ∧ holds c = true := by
  rw [Option.any_eq_true] at h
  obtain ⟨c, hc, hholds⟩ := h
  exact ⟨c, reachable_of_foldlM (.init ⟨[], rfl⟩) hc, hholds⟩

end Example

end MergeController

end ImsStack.Conference
