import ImsStack.Conference.MergeController
import ImsStack.Conference.Roster
import Mathlib.Data.List.Perm.Basic
import Mathlib.Data.List.Nodup

/-!
The users that a controller knows: those in the list, and those that have left it.

Queued operations and open references name known users only, and no change of the controller forgets
one.
-/

namespace ImsStack.Conference

open Controller

/-- The member has left for a reason. -/
structure Departed (left : Member × LeaveReason) : Prop where
  disconnected : left.2 = .disconnected → isDisconnectedStatus left.1.status = true
  refused : left.2 = .referRefused → left.1.pIReference.isSome = true

namespace Controller

/-- The addresses of the users in the list and of those that have left it. -/
def known (c : Controller) : List Nat := c.users ++ c.objLeft.map fun left => left.1.pConfUser

/-- Operations and references name known users, each of which has an address of its own. -/
structure Sound (c : Controller) : Prop where
  distinct : c.known.Nodup
  allocated : ∀ pConfUser ∈ c.known, pConfUser < c.nNextAddress
  departed : ∀ left ∈ c.objLeft, Departed left
  queued : ∀ operation ∈ c.objOperationQueue, operation.nType ≠ .createConferenceCall →
    ∀ pConfUser ∈ operation.objConfUsers, pConfUser ∈ c.known
  referred : ∀ reference ∈ c.objIConfReferences, ∀ pConfUser ∈ reference.objConfUsers,
    pConfUser ∈ c.known

/-- A later state of a controller, which has forgotten nobody. -/
structure Follows (c c' : Controller) : Prop where
  sound : c'.Sound
  known : ∀ pConfUser ∈ c.known, pConfUser ∈ c'.known

variable {c c' c'' : Controller}

theorem Follows.refl (h : c.Sound) : c.Follows c := ⟨h, fun _ hknown => hknown⟩

theorem Follows.trans (h : c.Follows c') (h' : c'.Follows c'') : c.Follows c'' :=
  ⟨h'.sound, fun pConfUser hknown => h'.known pConfUser (h.known pConfUser hknown)⟩

theorem Sound.follows_of_users (h : c.Sound) (husers : c'.users = c.users)
    (hleft : c'.objLeft = c.objLeft) (hnext : c.nNextAddress ≤ c'.nNextAddress)
    (hqueue : ∀ operation ∈ c'.objOperationQueue, operation.nType ≠ .createConferenceCall →
      ∀ pConfUser ∈ operation.objConfUsers, pConfUser ∈ c.known)
    (hreferences : ∀ reference ∈ c'.objIConfReferences, ∀ pConfUser ∈ reference.objConfUsers,
      pConfUser ∈ c.known) : c.Follows c' := by
  have hknown : c'.known = c.known := by
    unfold known
    rw [husers, hleft]
  constructor
  · constructor
    · rw [hknown]
      exact h.distinct
    · rw [hknown]
      exact fun pConfUser hmem => Nat.lt_of_lt_of_le (h.allocated pConfUser hmem) hnext
    · rw [hleft]
      exact h.departed
    · rw [hknown]
      exact hqueue
    · rw [hknown]
      exact hreferences
  · rw [hknown]
    exact fun _ hmem => hmem

/-! ### The participants -/

theorem users_map (c : Controller) {change : Member → Member}
    (hchange : ∀ member, (change member).pConfUser = member.pConfUser) :
    (c.objParticipants.map change).map Member.pConfUser = c.users := by
  unfold users
  rw [List.map_map]
  exact List.map_congr_left fun member _ => hchange member

theorem Sound.setStatus (h : c.Sound) (pConfUser : Nat) (eStatus : ConfStatus) :
    c.Follows (c.setStatus pConfUser eStatus) := by
  refine h.follows_of_users (c.users_map fun member => ?_) rfl (Nat.le_refl _) h.queued h.referred
  split <;> rfl

theorem Sound.follows_of_fresh (h : c.Sound) {members : List Member} {nNextAddress : Nat}
    {fresh : List Nat} (husers : members.map Member.pConfUser = c.users ++ fresh)
    (hfresh : fresh.Nodup) (hle : c.nNextAddress ≤ nNextAddress)
    (hrange : ∀ pConfUser ∈ fresh, c.nNextAddress ≤ pConfUser ∧ pConfUser < nNextAddress) :
    c.Follows { c with objParticipants := members, nNextAddress } := by
  have hperm : ({ c with objParticipants := members, nNextAddress } : Controller).known.Perm
      (c.known ++ fresh) := by
    unfold known
    rw [users, husers, List.append_assoc, List.append_assoc]
    exact List.perm_append_comm.append_left _
  have hknown : ∀ pConfUser ∈ c.known,
      pConfUser ∈ ({ c with objParticipants := members, nNextAddress } : Controller).known :=
    fun pConfUser hmem => hperm.mem_iff.mpr (List.mem_append_left _ hmem)
  refine ⟨⟨?_, ?_, h.departed, ?_, ?_⟩, hknown⟩
  · refine hperm.nodup_iff.mpr (List.nodup_append.mpr ⟨h.distinct, hfresh, ?_⟩)
    rintro pConfUser hmem _ hnew rfl
    exact Nat.not_lt_of_le (hrange pConfUser hnew).1 (h.allocated pConfUser hmem)
  · intro pConfUser hmem
    rcases List.mem_append.mp (hperm.mem_iff.mp hmem) with hmem | hmem
    · exact Nat.lt_of_lt_of_le (h.allocated pConfUser hmem) hle
    · exact (hrange pConfUser hmem).2
  · exact fun operation hmem htype user huser =>
      hknown user (h.queued operation hmem htype user huser)
  · exact fun reference hmem user huser => hknown user (h.referred reference hmem user huser)

theorem Sound.addUser (h : c.Sound) (objConfUser : ConfUser) :
    c.Follows (c.addUser objConfUser) := by
  refine h.follows_of_fresh List.map_append (List.nodup_singleton _) (Nat.le_succ _) ?_
  intro pConfUser hmem
  obtain rfl := List.mem_singleton.mp hmem
  exact ⟨Nat.le_refl _, Nat.lt_succ_self _⟩

theorem Sound.addUsers (h : c.Sound) (objConfUsers : List ConfUser) :
    c.Follows (c.addUsers objConfUsers) := by
  induction objConfUsers generalizing c with
  | nil => exact .refl h
  | cons objConfUser objConfUsers ih =>
    have hadded := h.addUser objConfUser
    exact hadded.trans (ih hadded.sound)

theorem Sound.follows_of_perm (h : c.Sound) {members : List Member}
    {gone : List (Member × LeaveReason)}
    (hperm : (members.map Member.pConfUser ++ gone.map fun left => left.1.pConfUser).Perm c.users)
    (hgone : ∀ left ∈ gone, Departed left) :
    c.Follows { c with objParticipants := members, objLeft := c.objLeft ++ gone } := by
  have hknown : ({ c with objParticipants := members, objLeft := c.objLeft ++ gone } :
      Controller).known.Perm c.known := by
    unfold known users
    simp only [List.map_append]
    refine (List.Perm.append_left _ List.perm_append_comm).trans ?_
    rw [← List.append_assoc]
    exact hperm.append_right _
  refine ⟨⟨hknown.nodup_iff.mpr h.distinct, ?_, ?_, ?_, ?_⟩, ?_⟩
  · exact fun pConfUser hmem => h.allocated pConfUser (hknown.mem_iff.mp hmem)
  · intro left hleft
    rcases List.mem_append.mp hleft with hleft | hleft
    · exact h.departed left hleft
    · exact hgone left hleft
  · exact fun operation hmem htype user huser =>
      hknown.mem_iff.mpr (h.queued operation hmem htype user huser)
  · exact fun reference hmem user huser =>
      hknown.mem_iff.mpr (h.referred reference hmem user huser)
  · exact fun pConfUser hmem => hknown.mem_iff.mpr hmem

theorem Sound.keepMembers (h : c.Sound) (stays : Member → Bool) (reason : LeaveReason)
    (hgone : ∀ member ∈ c.objParticipants, stays member = false → Departed (member, reason)) :
    c.Follows (c.keepMembers stays reason) := by
  refine h.follows_of_perm ?_ ?_
  · rw [List.map_map]
    have hperm := (List.filter_append_perm stays c.objParticipants).map Member.pConfUser
    rwa [List.map_append] at hperm
  · intro left hleft
    obtain ⟨member, hmember, rfl⟩ := List.mem_map.mp hleft
    obtain ⟨hmember, hstays⟩ := List.mem_filter.mp hmember
    exact hgone member hmember (by rwa [Bool.not_eq_true'] at hstays)

theorem Sound.notifyUsersInfo (h : c.Sound) : c.Follows c.notifyUsersInfo := by
  refine h.keepMembers _ _ fun member _ hstays => ⟨fun _ => ?_, fun hreason => ?_⟩
  · rwa [Bool.not_eq_false'] at hstays
  · exact LeaveReason.noConfusion hreason

theorem Sound.users_nodup (h : c.Sound) : c.users.Nodup := (List.nodup_append.mp h.distinct).1

theorem Sound.eq_of_pConfUser (h : c.Sound) {member other : Member}
    (hmember : member ∈ c.objParticipants) (hother : other ∈ c.objParticipants)
    (heq : member.pConfUser = other.pConfUser) : member = other :=
  List.inj_on_of_nodup_map h.users_nodup hmember hother heq

theorem Sound.removeUser (h : c.Sound) {member : Member} (hmember : member ∈ c.objParticipants)
    (hreference : member.pIReference.isSome = true) :
    c.Follows (c.removeUser member.pConfUser) := by
  refine h.keepMembers _ _ fun other hother hstays => ⟨fun hreason => ?_, fun _ => ?_⟩
  · exact LeaveReason.noConfusion hreason
  · rw [h.eq_of_pConfUser hother hmember (by simpa using hstays)]
    exact hreference

/-! ### Re-ordering -/

section ReOrder

variable {getCallKey : Nat → Nat} {objCalls : List Nat} {members : List Member} {member : Member}

theorem participantOfCall_eq_some {nCallKey : Nat}
    (h : participantOfCall getCallKey members nCallKey = some member) :
    member ∈ members ∧ getCallKey member.connectionId = nCallKey :=
  ⟨List.mem_of_find?_eq_some h, eq_of_beq (List.find?_some h :)⟩

theorem mem_members_of_reordered
    (h : member ∈ objCalls.filterMap (participantOfCall getCallKey members)) :
    member ∈ members := by
  obtain ⟨nCallKey, -, hfound⟩ := List.mem_filterMap.mp h
  exact (participantOfCall_eq_some hfound).1

theorem nodup_reordered (hcalls : objCalls.Nodup) :
    (objCalls.filterMap (participantOfCall getCallKey members)).Nodup := by
  refine hcalls.filterMap fun nCallKey nOtherKey member hfirst hsecond => ?_
  rw [← (participantOfCall_eq_some hfirst).2, ← (participantOfCall_eq_some hsecond).2]

theorem Sound.reOrder (h : c.Sound) (hcalls : objCalls.Nodup) (getCallKey : Nat → Nat) :
    c.Follows (c.reOrder objCalls getCallKey) := by
  have hmembers {member : Member} (hmember : member ∈
      objCalls.filterMap (participantOfCall getCallKey c.objParticipants)) :
      member ∈ c.objParticipants := mem_members_of_reordered hmember
  have hnodup : ((objCalls.filterMap (participantOfCall getCallKey c.objParticipants)).map
      Member.pConfUser).Nodup :=
    (nodup_reordered hcalls).map_on fun first hfirst second hsecond =>
      h.eq_of_pConfUser (hmembers hfirst) (hmembers hsecond)
  refine h.follows_of_perm ?_ ?_
  · rw [List.map_map]
    refine (List.perm_ext_iff_of_nodup ?_ h.users_nodup).mpr fun pConfUser => ?_
    · refine List.nodup_append.mpr ⟨hnodup, ?_, ?_⟩
      · exact h.users_nodup.sublist (List.filter_sublist.map Member.pConfUser)
      · rintro pConfUser hstays _ hgone rfl
        obtain ⟨member, hmember, rfl⟩ := List.mem_map.mp hgone
        have hout := (List.mem_filter.mp hmember).2
        rw [Bool.not_eq_true'] at hout
        exact Bool.false_ne_true (hout.symm.trans (List.contains_iff_mem.mpr hstays))
    · constructor
      · intro hmem
        rcases List.mem_append.mp hmem with hmem | hmem
        · obtain ⟨member, hmember, rfl⟩ := List.mem_map.mp hmem
          exact List.mem_map_of_mem (hmembers hmember)
        · obtain ⟨member, hmember, rfl⟩ := List.mem_map.mp hmem
          exact List.mem_map_of_mem (List.mem_filter.mp hmember).1
      · intro hmem
        obtain ⟨member, hmember, rfl⟩ := List.mem_map.mp hmem
        rw [List.mem_append]
        by_cases hstays : member.pConfUser ∈ (objCalls.filterMap
            (participantOfCall getCallKey c.objParticipants)).map Member.pConfUser
        · exact .inl hstays
        · refine .inr (List.mem_map.mpr ⟨member, List.mem_filter.mpr ⟨hmember, ?_⟩, rfl⟩)
          rw [Bool.not_eq_true', ← Bool.not_eq_true, List.contains_iff_mem]
          exact hstays
  · intro left hleft
    obtain ⟨member, -, rfl⟩ := List.mem_map.mp hleft
    exact ⟨fun hreason => LeaveReason.noConfusion hreason,
      fun hreason => LeaveReason.noConfusion hreason⟩

theorem Sound.addUserToParticipantList (h : c.Sound) (hcalls : objCalls.Nodup)
    (getCallKey : Nat → Nat) (objConfUsers : List ConfUser) (bReOrder : Bool) :
    c.Follows (c.addUserToParticipantList objCalls getCallKey objConfUsers bReOrder).1 := by
  have hadded := h.addUsers objConfUsers
  unfold Controller.addUserToParticipantList
  split
  · exact hadded.trans (hadded.sound.reOrder hcalls getCallKey)
  · exact hadded

end ReOrder

/-! ### Documents -/

theorem length_le_of_roster {env : UpdaterEnvironment}
    {strLocalUri : Platform.AString.Chars} {info : ConferenceInfo}
    {before after : List ConferenceParticipant} {objMatches : List UserMatch}
    (h : ConferenceInfoUpdater.Roster env strLocalUri info before after objMatches) :
    before.length ≤ after.length := by
  refine Nat.le_of_not_lt fun hlt => ?_
  have hnone : after[after.length]? = none := List.getElem?_eq_none (Nat.le_refl _)
  by_cases hmatched : ∃ m ∈ objMatches, m.nParticipant = after.length
  · obtain ⟨m, hm, hindex⟩ := hmatched
    obtain ⟨p, hp, -⟩ := (h.matched m hm).updated
    rw [hindex, hnone] at hp
    exact absurd hp.symm (Option.some_ne_none p)
  · have hsame := h.others after.length fun m hm hindex => hmatched ⟨m, hm, hindex⟩
    rw [hnone, List.getElem?_eq_getElem hlt] at hsame
    exact absurd hsame.symm (Option.some_ne_none _)

section Documents

variable {env : UpdaterEnvironment} {list : ConferenceParticipantList}

theorem length_le_updateParticipantList {info : ConferenceInfo}
    {updated : ConferenceParticipantList × List UserMatch × Bool}
    (hupdate : ConferenceInfoUpdater.updateParticipantList env list info = some updated) :
    list.objParticipants.length ≤ updated.1.objParticipants.length := by
  unfold ConferenceInfoUpdater.updateParticipantList at hupdate
  split at hupdate
  · cases hupdate
    exact Nat.le_refl _
  · obtain ⟨x, hx, rfl⟩ := Option.map_eq_some_iff.mp hupdate
    have hpassing := (ConferenceInfoUpdater.passing_start env list.strLocalUri info
      (list.objParticipants.map .startMatching)).applyPolicies (fun _ => rfl) hx
    have hlength := length_le_of_roster hpassing.roster
    rw [List.length_map] at hlength
    split
    · rwa [List.length_map]
    · exact hlength

theorem length_le_update {document : Option Platform.DomNode}
    {updated : ConferenceInfoUpdater.Updated}
    (hupdate : ConferenceInfoUpdater.update env list document = some updated) :
    list.objParticipants.length ≤ updated.list.objParticipants.length := by
  unfold ConferenceInfoUpdater.update at hupdate
  split at hupdate
  · cases hupdate
    exact Nat.le_refl _
  · split_ifs at hupdate
    · cases hupdate
      exact Nat.le_refl _
    · cases hupdate
      exact Nat.le_refl _
    · obtain ⟨x, hx, rfl⟩ := Option.map_eq_some_iff.mp hupdate
      exact length_le_updateParticipantList hx

end Documents

/-- The members keep their addresses, and the participants behind them get new ones. -/
theorem map_updateMembers {nNextAddress : Nat} {members : List Member}
    {participants : List ConferenceParticipant} (hle : members.length ≤ participants.length) :
    (updateMembers nNextAddress members participants).map Member.pConfUser =
      members.map Member.pConfUser ++
        (List.range (participants.length - members.length)).map (nNextAddress + ·) := by
  induction members generalizing participants with
  | nil =>
    unfold updateMembers
    refine List.ext_getElem (by simp) fun i hfirst hsecond => ?_
    simp
  | cons member members ih =>
    cases participants with
    | nil => exact absurd hle (Nat.not_succ_le_zero _)
    | cons participant participants =>
      unfold updateMembers
      rw [List.map_cons, ih (Nat.le_of_succ_le_succ hle), List.length_cons, List.length_cons,
        Nat.add_sub_add_right]
      rfl

theorem Sound.setParticipantList (h : c.Sound) (list : ConferenceParticipantList)
    (hle : c.objParticipants.length ≤ list.objParticipants.length) :
    c.Follows (c.setParticipantList list) := by
  have hfollows := h.follows_of_fresh (map_updateMembers hle)
    (List.nodup_range.map fun _ _ => Nat.add_left_cancel)
    (Nat.le_add_right _ (list.objParticipants.length - c.objParticipants.length)) (by
      intro pConfUser hmem
      obtain ⟨i, hi, rfl⟩ := List.mem_map.mp hmem
      exact ⟨Nat.le_add_right _ _, Nat.add_lt_add_left (List.mem_range.mp hi) _⟩)
  exact hfollows.trans (hfollows.sound.follows_of_users rfl rfl (Nat.le_refl _)
    hfollows.sound.queued hfollows.sound.referred)

/-! ### The queue -/

/-- The operation names users of a controller, if it is not the one that creates the call. -/
def Names (c : Controller) (operation : ConferenceOperation) : Prop :=
  operation.nType ≠ .createConferenceCall → ∀ pConfUser ∈ operation.objConfUsers,
    pConfUser ∈ c.known

theorem names_of_nil {operation : ConferenceOperation} (h : operation.objConfUsers = []) :
    c.Names operation := by
  intro _ pConfUser hmem
  rw [h] at hmem
  exact absurd hmem List.not_mem_nil

theorem Sound.put (h : c.Sound) {operation : ConferenceOperation} (hnames : c.Names operation) :
    c.Follows (c.put operation) := by
  refine h.follows_of_users rfl rfl (Nat.le_refl _) ?_ h.referred
  intro other hmem htype
  rcases List.mem_append.mp hmem with hmem | hmem
  · exact h.queued other hmem htype
  · obtain rfl := List.mem_singleton.mp hmem
    exact hnames htype

theorem Sound.putAll (h : c.Sound) (operations : List ConferenceOperation)
    (hnames : ∀ operation ∈ operations, c.Names operation) : c.Follows (c.putAll operations) := by
  induction operations generalizing c with
  | nil => exact .refl h
  | cons operation operations ih =>
    have hput := h.put (hnames operation List.mem_cons_self)
    exact hput.trans (ih hput.sound fun other hmem htype pConfUser huser =>
      hput.known pConfUser (hnames other (List.mem_cons_of_mem _ hmem) htype pConfUser huser))

theorem Sound.follows_of_queue (h : c.Sound) (husers : c'.users = c.users)
    (hleft : c'.objLeft = c.objLeft) (hnext : c'.nNextAddress = c.nNextAddress)
    (hqueue : ∀ operation ∈ c'.objOperationQueue, operation ∈ c.objOperationQueue)
    (hreferences : ∀ reference ∈ c'.objIConfReferences, reference ∈ c.objIConfReferences) :
    c.Follows c' :=
  h.follows_of_users husers hleft (Nat.le_of_eq hnext.symm)
    (fun operation hmem => h.queued operation (hqueue operation hmem))
    fun reference hmem => h.referred reference (hreferences reference hmem)

theorem Sound.follows_of_same (h : c.Sound) (husers : c'.users = c.users)
    (hleft : c'.objLeft = c.objLeft) (hnext : c'.nNextAddress = c.nNextAddress)
    (hqueue : c'.objOperationQueue = c.objOperationQueue)
    (hreferences : c'.objIConfReferences = c.objIConfReferences) : c.Follows c' := by
  apply h.follows_of_queue husers hleft hnext
  · rw [hqueue]
    exact fun _ => id
  · rw [hreferences]
    exact fun _ => id

theorem Sound.clear (h : c.Sound) : c.Follows c.clear :=
  h.follows_of_queue rfl rfl rfl (fun _ hmem => absurd hmem List.not_mem_nil) fun _ => id

theorem Sound.removeActiveOperation (h : c.Sound) : c.Follows c.removeActiveOperation :=
  h.follows_of_queue rfl rfl rfl (fun _ => List.mem_of_mem_tail) fun _ => id

theorem Sound.stopFinalSipfragWaitTimer (h : c.Sound) : c.Follows c.stopFinalSipfragWaitTimer :=
  h.follows_of_same rfl rfl rfl rfl rfl

theorem Sound.checkNStartFinalSipfragWaitTimer (h : c.Sound)
    (bSipfrag100Received b1To1Terminated : Bool) :
    c.Follows (c.checkNStartFinalSipfragWaitTimer bSipfrag100Received b1To1Terminated) := by
  unfold Controller.checkNStartFinalSipfragWaitTimer
  dsimp only
  split <;> exact h.follows_of_same rfl rfl rfl rfl rfl

/-! ### The references -/

theorem Sound.createReference (h : c.Sound) {nType : ReferenceType} {objConfUsers : List Nat}
    (husers : ∀ pConfUser ∈ objConfUsers, pConfUser ∈ c.users) :
    c.Follows (c.createReference nType objConfUsers) := by
  refine h.follows_of_users (c.users_map fun member => ?_) rfl (Nat.le_succ _) h.queued ?_
  · split <;> rfl
  · intro reference hmem pConfUser huser
    rcases List.mem_append.mp hmem with hmem | hmem
    · exact h.referred reference hmem pConfUser huser
    · obtain rfl := List.mem_singleton.mp hmem
      exact List.mem_append_left _ (husers pConfUser huser)

theorem Sound.removeReference (h : c.Sound) (piReference : Nat) :
    c.Follows (c.removeReference piReference) := by
  unfold Controller.removeReference
  split
  · refine h.follows_of_queue (c.users_map fun member => ?_) rfl rfl (fun _ => id)
      fun _ => List.mem_of_mem_eraseP
    split <;> rfl
  · exact .refl h

theorem Sound.clearOngoingReferences (h : c.Sound) (getResponseCode : Nat → Int) :
    c.Follows (c.clearOngoingReferences getResponseCode) := by
  unfold Controller.clearOngoingReferences
  generalize c.objIConfReferences.filter _ = references
  induction references generalizing c with
  | nil => exact .refl h
  | cons reference references ih =>
    have hremoved := h.removeReference reference.address
    exact hremoved.trans (ih hremoved.sound)

/-! ### Results -/

/-- What a function returns, unless it reads a user that is freed. -/
def Reaches (c : Controller) (result : Option Controller) : Prop :=
  ∀ c' ∈ result, c.Follows c'

variable {result : Option Controller}

theorem Follows.reaches (h : c.Follows c') : c.Reaches (some c') := by
  rintro _ ⟨⟩
  exact h

theorem Sound.reaches_self (h : c.Sound) : c.Reaches (some c) := (Follows.refl h).reaches

theorem reaches_none : c.Reaches none := fun _ h => absurd h.symm (Option.some_ne_none _)

theorem Follows.andThen (h : c.Follows c') (hresult : c'.Reaches result) : c.Reaches result :=
  fun later hlater => h.trans (hresult later hlater)

theorem Reaches.bind (h : c.Reaches result) {next : Controller → Option Controller}
    (hnext : ∀ later : Controller, later.Sound → later.Reaches (next later)) : c.Reaches (result.bind next) := by
  intro later hlater
  obtain ⟨c', hc', hlater⟩ := Option.bind_eq_some_iff.mp hlater
  exact (h c' hc').trans (hnext c' (h c' hc').sound later hlater)

theorem Reaches.map (h : c.Reaches result) {change : Controller → Controller}
    (hchange : ∀ later : Controller, later.Sound → later.Follows (change later)) : c.Reaches (result.map change) := by
  intro later hlater
  obtain ⟨c', hc', rfl⟩ := Option.map_eq_some_iff.mp hlater
  exact (h c' hc').trans (hchange c' (h c' hc').sound)

end Controller

end ImsStack.Conference
