import ImsStack.OfferAnswer.SessionParameter

/-!
The indices of the media groups over everything that is obtained by creating, copying, negotiating
and removing: a group that is stored has lost its tags, so the indices are right only where there
are none.
-/

namespace ImsStack.OfferAnswer

open Platform.AString Sdp

namespace SessionParameter

variable {S D M : Type}

/-- Each media has its position as its number. -/
def Positioned (medias : List SdpMediaParameter) : Prop :=
  ∀ (i : Nat) (media : SdpMediaParameter), medias[i]? = some media → media.mid = i

/-- Every index of a group is that of a media with one of its tags that has not been rejected or
removed, and the medias are numbered by their positions. -/
def Valid (s : SessionParameter S) : Prop :=
  Positioned s.mediaParams ∧
    ∀ g ∈ s.mediaGroups, ∀ nIndex ∈ g.mediaStreamIndexes, ∃ media, s.mediaAt nIndex = some media ∧
      (∃ tag ∈ g.mids, SdpMediaGroup.isTagOf tag media) ∧ media.media.port ≠ 0

section Positioned

variable {medias : List SdpMediaParameter} {media : SdpMediaParameter}

theorem positioned_nil : Positioned [] := by
  intro i media hmedia
  simp at hmedia

theorem positioned_append_singleton :
    Positioned (medias ++ [media]) ↔ Positioned medias ∧ media.mid = medias.length := by
  constructor
  · intro h
    constructor
    · intro i other hother
      apply h i other
      rw [List.getElem?_append_left (List.getElem?_eq_some_iff.mp hother).1]
      exact hother
    · exact h medias.length media (by simp)
  · rintro ⟨h, hmid⟩ i other hother
    rw [List.getElem?_append] at hother
    split at hother
    · exact h i other hother
    · next hi =>
      rw [List.getElem?_singleton] at hother
      split at hother
      · next hzero =>
        cases hother
        rw [hmid]
        omega
      · cases hother

theorem Positioned.mapIdx (h : Positioned medias) {f : Nat → SdpMediaParameter → SdpMediaParameter}
    (hmid : ∀ i media, (f i media).mid = media.mid) : Positioned (medias.mapIdx f) := by
  intro i media hmedia
  rw [List.getElem?_mapIdx, Option.map_eq_some_iff] at hmedia
  obtain ⟨other, hother, rfl⟩ := hmedia
  rw [hmid]
  exact h i other hother

theorem Positioned.map (h : Positioned medias) {f : SdpMediaParameter → SdpMediaParameter}
    (hmid : ∀ media, (f media).mid = media.mid) : Positioned (medias.map f) := by
  intro i media hmedia
  rw [List.getElem?_map, Option.map_eq_some_iff] at hmedia
  obtain ⟨other, hother, rfl⟩ := hmedia
  rw [hmid]
  exact h i other hother

theorem Positioned.modify (h : Positioned medias) {n : Nat}
    {f : SdpMediaParameter → SdpMediaParameter} (hmid : ∀ media, (f media).mid = media.mid) :
    Positioned (medias.modify n f) := by
  intro i media hmedia
  rw [List.getElem?_modify, Option.map_eq_map, Option.map_eq_some_iff] at hmedia
  obtain ⟨other, hother, rfl⟩ := hmedia
  rw [← h i other hother]
  split
  · exact hmid other
  · rfl

theorem Positioned.set (h : Positioned medias) {n : Nat} {old : SdpMediaParameter}
    (hold : medias[n]? = some old) (hmid : media.mid = old.mid) :
    Positioned (medias.set n media) := by
  intro i other hother
  rw [List.getElem?_set] at hother
  split at hother
  · next hi =>
    split at hother
    · cases hother
      rw [hmid, ← hi]
      exact h n old hold
    · cases hother
  · exact h i other hother

theorem Positioned.remove (h : Positioned medias) (n : Nat) :
    Positioned (medias.take n ++ (medias.drop (n + 1)).mapIdx fun i media =>
      { media with mid := (n + i : Nat) }) := by
  intro i media hmedia
  rw [List.getElem?_append] at hmedia
  split at hmedia
  · next hi =>
    rw [List.getElem?_take_of_lt (by simp at hi; omega)] at hmedia
    exact h i media hmedia
  · next hi =>
    rw [List.getElem?_mapIdx, Option.map_eq_some_iff] at hmedia
    obtain ⟨other, hother, rfl⟩ := hmedia
    have hlength := (List.getElem?_eq_some_iff.mp hother).1
    simp only [List.length_take, List.length_drop] at hi hlength ⊢
    omega

end Positioned

/-- The groups hold no index. -/
def NoIndices (groups : List SdpMediaGroup) : Prop := ∀ g ∈ groups, g.mediaStreamIndexes = []

/-- The groups have lost their tags. -/
def Untagged (groups : List SdpMediaGroup) : Prop := ∀ g ∈ groups, g.mids = []

structure Sound (s : SessionParameter S) : Prop where
  positioned : Positioned s.mediaParams
  noIndices : NoIndices s.mediaGroups

section groups

variable {s peer : SessionParameter S} {groups : List SdpMediaGroup}

theorem Sound.valid (h : s.Sound) : s.Valid := by
  refine ⟨h.positioned, ?_⟩
  intro g hg nIndex hIndex
  rw [h.noIndices g hg] at hIndex
  cases hIndex

theorem valid_iff_of_untagged (h : Untagged s.mediaGroups) : s.Valid ↔ s.Sound := by
  constructor
  · rintro ⟨hpositioned, hgroups⟩
    refine ⟨hpositioned, ?_⟩
    intro g hg
    rw [List.eq_nil_iff_forall_not_mem]
    intro nIndex hIndex
    obtain ⟨-, -, ⟨tag, htag, -⟩, -⟩ := hgroups g hg nIndex hIndex
    rw [h g hg] at htag
    cases htag
  · exact Sound.valid

theorem untagged_map_copy : Untagged (groups.map SdpMediaGroup.copy) := by
  intro g hg
  obtain ⟨other, -, rfl⟩ := List.mem_map.mp hg
  rfl

theorem noIndices_map_copy (h : NoIndices groups) :
    NoIndices (groups.map SdpMediaGroup.copy) := by
  intro g hg
  obtain ⟨other, hother, rfl⟩ := List.mem_map.mp hg
  exact h other hother

theorem noIndices_nil : NoIndices [] := by
  intro g hg
  cases hg

theorem noIndices_removeMediaFromGroups {nMid : Int} (h : NoIndices groups) :
    NoIndices (removeMediaFromGroups nMid groups) := by
  induction groups with
  | nil => exact h
  | cons g rest ih =>
    have hg := h g List.mem_cons_self
    have hrest := ih fun other hother => h other (List.mem_cons_of_mem _ hother)
    unfold removeMediaFromGroups SdpMediaGroup.removeMediaStream
    simp only [hg, List.contains_nil, Bool.false_eq_true, if_false]
    intro other hother
    rcases List.mem_cons.mp hother with rfl | hother
    · exact hg
    · exact hrest other hother

theorem noIndices_negotiateGroups {mediaGroup : Bool} {negotiated : List SdpMediaGroup}
    (h : NoIndices groups)
    (hnegotiated : s.negotiateGroups peer mediaGroup groups = some (some negotiated)) :
    NoIndices negotiated := by
  induction groups generalizing negotiated with
  | nil =>
    cases hnegotiated
    exact noIndices_nil
  | cons offered rest ih =>
    have hrest : NoIndices rest := fun other hother => h other (List.mem_cons_of_mem _ hother)
    unfold negotiateGroups at hnegotiated
    split at hnegotiated
    · exact ih hrest hnegotiated
    · simp only [Option.bind_eq_bind, Option.bind_eq_some_iff] at hnegotiated
      obtain ⟨bGroupMatched, -, hnegotiated⟩ := hnegotiated
      split at hnegotiated
      · simp only [Option.bind_eq_some_iff] at hnegotiated
        obtain ⟨others, hothers, hnegotiated⟩ := hnegotiated
        cases others with
        | none => cases hnegotiated
        | some others =>
          cases hnegotiated
          intro g hg
          rcases List.mem_cons.mp hg with rfl | hg
          · exact h offered List.mem_cons_self
          · exact ih hrest hothers g hg
      · cases hnegotiated

end groups

section operations

variable {ops : SessionLevelOps S D M} {s peer proposal : SessionParameter S}

theorem Sound.copy (h : s.Sound) : s.copy.Sound :=
  ⟨h.positioned, noIndices_map_copy h.noIndices⟩

theorem Sound.appendMedia {media : SdpMediaParameter} (h : s.Sound) : (s.appendMedia media).Sound :=
  ⟨positioned_append_singleton.mpr ⟨h.positioned, rfl⟩, h.noIndices⟩

theorem Sound.removeMediaFromGroup {nMid : Int} (h : s.Sound) :
    (s.removeMediaFromGroup nMid).Sound :=
  ⟨h.positioned, noIndices_removeMediaFromGroups h.noIndices⟩

theorem Sound.removeMediaParameter (h : s.Sound) (nMid : Nat) (bRejectedOrRemoved : Bool) :
    (s.removeMediaParameter nMid bRejectedOrRemoved).Sound := by
  unfold SessionParameter.removeMediaParameter
  split
  · refine ⟨?_, noIndices_removeMediaFromGroups h.noIndices⟩
    cases bRejectedOrRemoved with
    | true => exact h.positioned.modify fun media => rfl
    | false => exact h.positioned.remove nMid
  · exact h

theorem Sound.createMedias {descriptions : List M} {s' : SessionParameter S} (h : s.Sound)
    (hcreate : s.createMedias ops descriptions = some s') :
    Positioned s'.mediaParams ∧ s'.sessionParam = s.sessionParam := by
  induction descriptions generalizing s with
  | nil =>
    cases hcreate
    exact ⟨h.positioned, rfl⟩
  | cons description rest ih =>
    unfold SessionParameter.createMedias at hcreate
    cases hmedia : ops.createMedia description with
    | none => simp [hmedia] at hcreate
    | some media =>
      simp only [hmedia] at hcreate
      have hrest := ih h.appendMedia hcreate
      exact ⟨hrest.1, hrest.2⟩

theorem length_of_create {value : Chars} {medias : List SdpMediaParameter} {g : SdpMediaGroup}
    (hcreate : SdpMediaGroup.create (some value) medias = some g) :
    g.mediaStreamIndexes.length = (SdpMediaGroup.tags value).length := by
  unfold SdpMediaGroup.create at hcreate
  simp only [Option.bind_eq_bind, Option.bind_some] at hcreate
  split at hcreate
  · cases hcreate
  · split at hcreate
    · cases hcreate
    · next hlength =>
      cases hcreate
      exact (not_not.mp hlength).symm

/-- A group attribute with its type only. -/
def HasNoTags (value : Option Chars) : Prop := ∀ text ∈ value, SdpMediaGroup.tags text = []

theorem noIndices_of_create {values : List (Option Chars)} {medias : List SdpMediaParameter}
    {groups : List SdpMediaGroup}
    (hcreate : values.mapM (SdpMediaGroup.create · medias) = some groups) :
    NoIndices groups ↔ ∀ value ∈ values, HasNoTags value := by
  induction values generalizing groups with
  | nil =>
    cases hcreate
    exact iff_of_true noIndices_nil (by simp)
  | cons value rest ih =>
    rw [List.mapM_cons] at hcreate
    simp only [Option.bind_eq_bind, Option.bind_eq_some_iff] at hcreate
    obtain ⟨g, hg, others, hothers, hgroups⟩ := hcreate
    cases hgroups
    rw [List.forall_mem_cons, ← ih hothers]
    have hhead : g.mediaStreamIndexes = [] ↔ HasNoTags value := by
      cases value with
      | none => simp [SdpMediaGroup.create] at hg
      | some text =>
        unfold HasNoTags
        rw [← List.length_eq_zero_iff, length_of_create hg, List.length_eq_zero_iff]
        simp
    rw [← hhead]
    exact List.forall_mem_cons

/-- A description has medias, and a group attribute that names one of them. -/
def NamesMedias (ops : SessionLevelOps S D M) (description : D) (descriptions : List M) : Prop :=
  descriptions ≠ [] ∧ ∃ sessionParam ∈ ops.create description,
    ∃ value ∈ ops.groupAttributes sessionParam, ¬HasNoTags value

theorem sound_create_iff {description : D} {descriptions : List M} {s' : SessionParameter S}
    (hcreate : s.create ops description descriptions = some s') :
    s'.Sound ↔ ¬NamesMedias ops description descriptions := by
  have hnames : ¬NamesMedias ops description descriptions ↔
      descriptions = [] ∨ ∀ sessionParam ∈ ops.create description,
        ∀ value ∈ ops.groupAttributes sessionParam, HasNoTags value := by
    unfold NamesMedias
    push Not
    exact or_iff_not_imp_left.symm
  rw [hnames]
  unfold SessionParameter.create at hcreate
  simp only [Option.bind_eq_bind, Option.bind_eq_some_iff] at hcreate
  obtain ⟨sessionParam, hsession, hcreate⟩ := hcreate
  split at hcreate
  · next hnone =>
    cases hcreate
    exact iff_of_true ⟨positioned_nil, noIndices_nil⟩ (.inl hnone)
  · next hmedias =>
    simp only [Option.bind_eq_some_iff] at hcreate
    obtain ⟨created, hcreated, groups, hgroups, hfinal⟩ := hcreate
    cases hfinal
    have hmade := Sound.createMedias (s := { s with
      sessionParam, mediaParams := [], mediaGroups := [] }) ⟨positioned_nil, noIndices_nil⟩ hcreated
    rw [hmade.2] at hgroups
    have hindices := noIndices_of_create hgroups
    simp only [hmedias, false_or, hsession, Option.mem_some_iff, forall_eq']
    rw [← hindices]
    constructor
    · intro h g hg
      exact h.noIndices g.copy (List.mem_map_of_mem hg)
    · intro h
      exact ⟨hmade.1, noIndices_map_copy h⟩

theorem untagged_create {description : D} {descriptions : List M} {s' : SessionParameter S}
    (hcreate : s.create ops description descriptions = some s') : Untagged s'.mediaGroups := by
  unfold SessionParameter.create at hcreate
  simp only [Option.bind_eq_bind, Option.bind_eq_some_iff] at hcreate
  obtain ⟨sessionParam, hsession, hcreate⟩ := hcreate
  split at hcreate
  · cases hcreate
    intro g hg
    cases hg
  · simp only [Option.bind_eq_some_iff] at hcreate
    obtain ⟨created, -, groups, -, hfinal⟩ := hcreate
    cases hfinal
    exact untagged_map_copy

end operations

section compare

variable {bInitialOffer bIsOffer : Bool} {media peerMedia created : SdpMediaParameter}

theorem updateTransportProtocol_mid :
    (media.updateTransportProtocol peerMedia bIsOffer).mid = media.mid := by
  unfold SdpMediaParameter.updateTransportProtocol
  split <;> rfl

theorem compare_self_mid :
    (media.compare bInitialOffer bIsOffer peerMedia created).self.mid = media.mid := by
  have haccept : ∀ (self proposal : SdpMediaParameter) m,
      (SdpMediaParameter.acceptMedia self peerMedia proposal m).self = self := by
    intro self proposal m
    unfold SdpMediaParameter.acceptMedia
    split
    · rfl
    · cases m <;> rfl
  unfold SdpMediaParameter.compare
  simp only
  split_ifs
  · rw [haccept]
  · rfl
  · exact updateTransportProtocol_mid
  · rw [haccept]
    exact updateTransportProtocol_mid
  · exact updateTransportProtocol_mid

/-- An accepted media has the number of the own one, and the media of the peer that of the
proposal. -/
theorem compare_of_success
    (hsuccess : (media.compare bInitialOffer bIsOffer peerMedia created).result = .success) :
    (media.compare bInitialOffer bIsOffer peerMedia created).proposal.mid = media.mid ∧
      ∃ peerParam, (media.compare bInitialOffer bIsOffer peerMedia created).negotiatedPeer =
        some peerParam ∧ peerParam.mid = created.mid := by
  have haccept : ∀ (self proposal : SdpMediaParameter) m,
      (SdpMediaParameter.acceptMedia self peerMedia proposal m).result = .success →
      (SdpMediaParameter.acceptMedia self peerMedia proposal m).proposal.mid = self.mid ∧
        ∃ peerParam, (SdpMediaParameter.acceptMedia self peerMedia proposal m).negotiatedPeer =
          some peerParam ∧ peerParam.mid = proposal.mid := by
    intro self proposal m haccepted
    unfold SdpMediaParameter.acceptMedia at haccepted ⊢
    split at haccepted
    · cases haccepted
    · next hdirection =>
      rw [if_neg hdirection]
      cases m with
      | none => exact ⟨rfl, _, rfl, rfl⟩
      | some m => exact ⟨rfl, _, rfl, rfl⟩
  unfold SdpMediaParameter.compare at hsuccess ⊢
  simp only at hsuccess ⊢
  split_ifs at hsuccess ⊢
  · exact haccept _ _ _ hsuccess
  · obtain ⟨hmid, hpeer⟩ := haccept _ _ _ hsuccess
    exact ⟨hmid.trans updateTransportProtocol_mid, hpeer⟩

end compare

namespace Negotiation

/-- All objects of a negotiation are sound when `i` medias have been compared. -/
structure Sound (n : Negotiation S) (i : Nat) : Prop where
  self : n.self.Sound
  proposalView : n.proposalView.Sound
  peerView : n.peerView.Sound
  proposalLength : n.proposalView.mediaParams.length = i
  peerLength : n.peerView.mediaParams.length = i

variable {n : Negotiation S} {i : Nat} {created peerMedia : SdpMediaParameter}

theorem Sound.append {proposal peerParam : SdpMediaParameter} (h : n.Sound i)
    (hproposal : proposal.mid = i) (hpeer : peerParam.mid = i) :
    ((n.appendProposal proposal).appendPeer peerParam).Sound (i + 1) := by
  refine ⟨h.self, ⟨?_, h.proposalView.noIndices⟩, ⟨?_, h.peerView.noIndices⟩, ?_, ?_⟩
  · exact positioned_append_singleton.mpr
      ⟨h.proposalView.positioned, hproposal.trans (congrArg _ h.proposalLength.symm)⟩
  · exact positioned_append_singleton.mpr
      ⟨h.peerView.positioned, hpeer.trans (congrArg _ h.peerLength.symm)⟩
  · simp [appendProposal, appendPeer, h.proposalLength]
  · simp [appendProposal, appendPeer, h.peerLength]

theorem Sound.addNewMedia (h : n.Sound i) (hcreated : created.mid = i) (hpeer : peerMedia.mid = i) :
    (n.addNewMedia created peerMedia).Sound (i + 1) := by
  have happended := @Sound.append S n i (created.assign peerMedia).updateDirection peerMedia h
    hcreated hpeer
  exact ⟨happended.self, happended.proposalView, happended.peerView, happended.proposalLength,
    happended.peerLength⟩

theorem Sound.rejectMedia (h : n.Sound i) (hcreated : created.mid = i) (hpeer : peerMedia.mid = i) :
    (n.rejectMedia created peerMedia).Sound (i + 1) := by
  have happended := @Sound.append S n i
    (created.assign peerMedia).updateDirection.markRejectedOrRemoved peerMedia h hcreated hpeer
  exact ⟨happended.self.removeMediaFromGroup, happended.proposalView, happended.peerView,
    happended.proposalLength, happended.peerLength⟩

theorem updateDirectionOf_mid {media proposal : SdpMediaParameter} :
    (media.updateDirectionOf peerMedia proposal).mid = proposal.mid := by
  unfold SdpMediaParameter.updateDirectionOf
  simp only
  split <;> rfl

theorem Sound.compared {media : SdpMediaParameter} {bInitialOffer bIsOffer : Bool} (h : n.Sound i)
    (hmedia : n.self.mediaParams[i]? = some media) :
    Sound { n with self := { n.self with
      mediaParams := n.self.mediaParams.set i
        (media.compare bInitialOffer bIsOffer peerMedia created).self } } i :=
  ⟨⟨h.self.positioned.set hmedia compare_self_mid, h.self.noIndices⟩, h.proposalView, h.peerView,
    h.proposalLength, h.peerLength⟩

theorem Sound.compareMedias {bInitialOffer bIsOffer : Bool} {medias : List SdpMediaParameter}
    (h : n.Sound i) (hmedias : ∀ (k : Nat) (media : SdpMediaParameter),
      medias[k]? = some media → media.mid = (i + k : Nat)) :
    (n.compareMedias bInitialOffer bIsOffer i medias).Sound (i + medias.length) := by
  induction medias generalizing n i with
  | nil => exact h
  | cons peerMedia rest ih =>
    have hpeer : peerMedia.mid = i := hmedias 0 peerMedia rfl
    have hrest : ∀ (k : Nat) (media : SdpMediaParameter),
        rest[k]? = some media → media.mid = (i + 1 + k : Nat) := by
      intro k media hmedia
      rw [hmedias (k + 1) media hmedia]
      omega
    unfold Negotiation.compareMedias
    rw [List.length_cons, Nat.add_comm rest.length, ← Nat.add_assoc]
    apply ih _ hrest
    have hcreated : ({ mid := n.proposalView.mediaParams.length } : SdpMediaParameter).mid = i :=
      congrArg _ h.proposalLength
    generalize ({ mid := n.proposalView.mediaParams.length } : SdpMediaParameter) = created
      at hcreated
    cases hmedia : n.self.mediaParams[i]? with
    | none => exact h.addNewMedia hcreated hpeer
    | some media =>
      simp only
      split
      · exact h.addNewMedia hcreated hpeer
      · have hcompared := @Sound.compared S n i created peerMedia media bInitialOffer bIsOffer h
          hmedia
        split
        · exact hcompared.rejectMedia hcreated hpeer
        · next hresult =>
          have hsuccess := not_not.mp hresult
          obtain ⟨hmid, peerParam, hparam, hpeerMid⟩ := compare_of_success hsuccess
          rw [hparam]
          have hself : media.mid = i := h.self.positioned i media hmedia
          have hproposal : ∀ proposal : SdpMediaParameter, proposal.mid = media.mid →
              ((proposal.updateProperties
                (media.compare bInitialOffer bIsOffer peerMedia created).self).updateDirection).mid =
                i := fun proposal hproposal => hproposal.trans hself
          have hdirected : (if bIsOffer then
                (media.compare bInitialOffer bIsOffer peerMedia created).proposal
              else (media.compare bInitialOffer bIsOffer peerMedia created).self.updateDirectionOf
                peerMedia (media.compare bInitialOffer bIsOffer peerMedia created).proposal).mid =
              media.mid := by
            split
            · exact hmid
            · exact updateDirectionOf_mid.trans hmid
          have happended := @Sound.append S _ i _ (peerParam.updateProperties peerMedia) hcompared
            (hproposal _ hdirected) (hpeerMid.trans hcreated)
          exact ⟨happended.self, happended.proposalView, happended.peerView,
            happended.proposalLength, happended.peerLength⟩

end Negotiation

section negotiate

variable {ops : SessionLevelOps S D M} {s peer proposal : SessionParameter S}

theorem compareMediaGroups_sound {mediaGroup : Bool} {negotiated : SessionParameter S}
    (hpeer : peer.Sound) (hproposal : proposal.Sound)
    (hcompare : s.compareMediaGroups peer proposal mediaGroup = some (some negotiated)) :
    negotiated.Sound ∧ negotiated.mediaParams = proposal.mediaParams := by
  unfold compareMediaGroups at hcompare
  split at hcompare
  · cases hcompare
    exact ⟨hproposal, rfl⟩
  · split at hcompare
    · cases hcompare
      exact ⟨hproposal, rfl⟩
    · split at hcompare
      · cases hcompare
      · simp only [Option.bind_eq_bind, Option.bind_eq_some_iff] at hcompare
        obtain ⟨bSame, -, hcompare⟩ := hcompare
        split at hcompare
        · simp only [Option.bind_eq_some_iff] at hcompare
          obtain ⟨groups, hgroups, hcompare⟩ := hcompare
          cases groups with
          | none => cases hcompare
          | some groups =>
            cases hcompare
            have hcopied := noIndices_map_copy (noIndices_negotiateGroups hpeer.noIndices hgroups)
            exact ⟨⟨hproposal.positioned, hcopied⟩, rfl⟩
        · cases hcompare

theorem compareSessionParameters_sound {bIsOffer : Bool} {proposalView peerView : SessionParameter S}
    (hs : s.Sound) :
    Negotiation.Sound (s.compareSessionParameters ops bIsOffer peer (proposalView.clear ops)
      (peerView.clear ops)).1 0 := by
  unfold compareSessionParameters
  simp only
  split
  · exact ⟨hs, ⟨positioned_nil, noIndices_nil⟩, ⟨positioned_nil, noIndices_nil⟩, rfl, rfl⟩
  · exact ⟨hs, ⟨positioned_nil, noIndices_nil⟩, ⟨positioned_nil, noIndices_nil⟩, rfl, rfl⟩

theorem removePreconditionsIfNotSupport_sound {n : Negotiation S} {i : Nat} (h : n.Sound i) :
    Negotiation.Sound (removePreconditionsIfNotSupport n) i := by
  refine ⟨h.self, ⟨?_, h.proposalView.noIndices⟩, h.peerView, ?_, h.peerLength⟩
  · apply h.proposalView.positioned.mapIdx
    intro i media
    split
    · rfl
    · unfold removePreconditions
      split <;> rfl
  · unfold removePreconditionsIfNotSupport
    rw [List.length_mapIdx]
    exact h.proposalLength

theorem negotiate_sound {bInitialOffer bIsOffer mediaParam mediaGroup : Bool}
    {proposalView peerView : SessionParameter S} {n : Negotiation S} {result : NegotiationResult}
    (hs : s.Sound) (hpeer : peer.Sound)
    (hnegotiate : s.negotiate ops bInitialOffer bIsOffer mediaParam mediaGroup peer proposalView
      peerView = some (n, result)) : ∃ i, n.Sound i := by
  have hcompared := @compareSessionParameters_sound S D M ops s peer bIsOffer proposalView peerView hs
  unfold negotiate at hnegotiate
  simp only at hnegotiate
  generalize s.compareSessionParameters ops bIsOffer peer (proposalView.clear ops)
    (peerView.clear ops) = compared at hcompared hnegotiate
  split at hnegotiate
  · cases hnegotiate
    exact ⟨0, hcompared⟩
  · simp only [Option.bind_eq_bind, Option.bind_eq_some_iff] at hnegotiate
    obtain ⟨negotiated, hgroups, hnegotiate⟩ := hnegotiate
    cases negotiated with
    | none =>
      cases hnegotiate
      exact ⟨0, hcompared⟩
    | some negotiated =>
      obtain ⟨hsound, hmedias⟩ := compareMediaGroups_sound hpeer hcompared.proposalView hgroups
      have hstart : Negotiation.Sound { compared.1 with proposalView := negotiated } 0 :=
        ⟨hcompared.self, hsound, hcompared.peerView,
          (congrArg _ hmedias).trans hcompared.proposalLength, hcompared.peerLength⟩
      simp only at hnegotiate
      split at hnegotiate
      · cases hnegotiate
        exact ⟨0, hstart⟩
      · have hmedias : ∀ (k : Nat) (media : SdpMediaParameter),
            peer.mediaParams[k]? = some media → media.mid = (0 + k : Nat) := by
          intro k media hmedia
          rw [Nat.zero_add]
          exact hpeer.positioned k media hmedia
        have hfinal := @Negotiation.Sound.compareMedias S _ 0 bInitialOffer bIsOffer _ hstart hmedias
        cases hnegotiate
        split
        · exact ⟨_, removePreconditionsIfNotSupport_sound hfinal⟩
        · exact ⟨_, hfinal⟩

theorem copyOffer_sound_iff {offer : SessionParameter S} (hs : s.Sound) (hoffer : offer.Sound) :
    (s.copyOffer ops offer).proposalView.Sound ↔ s.mediaParams = [] ∨ offer.mediaParams = [] := by
  have hgroups := noIndices_map_copy hoffer.noIndices
  constructor
  · intro h
    rw [or_iff_not_imp_right]
    intro hmedias
    obtain ⟨media, rest, hmedias⟩ := List.exists_cons_of_ne_nil hmedias
    have hfirst := hoffer.positioned 0 media (by rw [hmedias]; rfl)
    have hlater := h.positioned s.mediaParams.length media.updateDirection
      (by simp [copyOffer, copy, hmedias])
    rw [← List.length_eq_zero_iff]
    have : (s.mediaParams.length : Int) = 0 := hlater.symm.trans hfirst
    omega
  · rintro (hnone | hnone)
    · refine ⟨?_, hgroups⟩
      have hmedias : (s.copyOffer ops offer).proposalView.mediaParams =
          offer.mediaParams.map SdpMediaParameter.updateDirection := by
        simp [copyOffer, copy, hnone]
      rw [hmedias]
      exact hoffer.positioned.map fun media => rfl
    · refine ⟨?_, hgroups⟩
      have hmedias : (s.copyOffer ops offer).proposalView.mediaParams = s.mediaParams := by
        simp [copyOffer, copy, hnone]
      rw [hmedias]
      exact hs.positioned

end negotiate

/-- The objects that the operations make; where `guarded` is set, no description that an object is
created from names its medias in a group, and no copied offer adds medias to own ones. -/
inductive Obtained (ops : SessionLevelOps S D M) (guarded : Bool) : SessionParameter S → Prop
  | new : Obtained ops guarded { sessionParam := ops.default }
  | create {s s' : SessionParameter S} {description : D} {descriptions : List M} :
      Obtained ops guarded s → (guarded → ¬NamesMedias ops description descriptions) →
      s.create ops description descriptions = some s' → Obtained ops guarded s'
  | copy {s : SessionParameter S} : Obtained ops guarded s → Obtained ops guarded s.copy
  | createMediaParameter {s : SessionParameter S} :
      Obtained ops guarded s → Obtained ops guarded s.createMediaParameter
  | generateAnswer {s offer proposalView peerView s' : SessionParameter S}
      {mediaParam mediaGroup bInitialOffer : Bool} {n : Negotiation S} {result : NegotiationResult} :
      Obtained ops guarded s → Obtained ops guarded offer →
      s.generateAnswer ops offer proposalView peerView mediaParam mediaGroup bInitialOffer =
        some (n, result) →
      s' ∈ [n.self, n.proposalView, n.peerView] → Obtained ops guarded s'
  | processAnswer {s answer proposalView peerView s' : SessionParameter S} {mediaGroup : Bool}
      {n : Negotiation S} {result : NegotiationResult} :
      Obtained ops guarded s → Obtained ops guarded answer →
      s.processAnswer ops answer proposalView peerView mediaGroup = some (n, result) →
      s' ∈ [n.self, n.proposalView, n.peerView] → Obtained ops guarded s'
  | copyOffer {s offer s' : SessionParameter S} :
      Obtained ops guarded s → Obtained ops guarded offer →
      (guarded → s.mediaParams = [] ∨ offer.mediaParams = []) →
      s' ∈ [(s.copyOffer ops offer).self, (s.copyOffer ops offer).proposalView,
        (s.copyOffer ops offer).peerView] → Obtained ops guarded s'
  | removeMediaParameter {s : SessionParameter S} (nMid : Nat) (bRejectedOrRemoved : Bool) :
      Obtained ops guarded s →
      Obtained ops guarded (s.removeMediaParameter nMid bRejectedOrRemoved)

section obtained

variable {ops : SessionLevelOps S D M} {s : SessionParameter S}

theorem Negotiation.Sound.of_mem {n : Negotiation S} {i : Nat} (h : n.Sound i)
    (hs : s ∈ [n.self, n.proposalView, n.peerView]) : s.Sound := by
  simp only [List.mem_cons, List.not_mem_nil, or_false] at hs
  rcases hs with rfl | rfl | rfl
  · exact h.self
  · exact h.proposalView
  · exact h.peerView

theorem sound_of_obtained (h : Obtained ops true s) : s.Sound := by
  induction h with
  | new => exact ⟨positioned_nil, noIndices_nil⟩
  | create _ hguard hcreate ih => exact (sound_create_iff hcreate).mpr (hguard rfl)
  | copy _ ih => exact ih.copy
  | createMediaParameter _ ih => exact ih.appendMedia
  | generateAnswer _ _ hanswer hs' ihs ihoffer =>
    obtain ⟨i, hn⟩ := negotiate_sound ihs ihoffer hanswer
    exact hn.of_mem hs'
  | processAnswer _ _ hanswer hs' ihs ihanswer =>
    obtain ⟨i, hn⟩ := negotiate_sound ihs ihanswer hanswer
    exact hn.of_mem hs'
  | copyOffer _ _ hguard hs' ihs ihoffer =>
    simp only [List.mem_cons, List.not_mem_nil, or_false] at hs'
    rcases hs' with rfl | rfl | rfl
    · exact ihs
    · exact (copyOffer_sound_iff ihs ihoffer).mpr (hguard rfl)
    · exact ⟨ihoffer.positioned, noIndices_map_copy ihoffer.noIndices⟩
  | removeMediaParameter nMid bRejectedOrRemoved _ ih =>
    exact ih.removeMediaParameter nMid bRejectedOrRemoved

/-- A description that names its medias in a group makes an object that is not valid. -/
theorem valid_create_iff {description : D} {descriptions : List M} {s' : SessionParameter S}
    (hcreate : s.create ops description descriptions = some s') :
    s'.Valid ↔ ¬NamesMedias ops description descriptions :=
  (valid_iff_of_untagged (untagged_create hcreate)).trans (sound_create_iff hcreate)

end obtained

/-- A session level that has group attributes only, and medias that are made already. -/
def groupsOps : SessionLevelOps (List (Option Chars)) (List (Option Chars)) SdpMediaParameter where
  default := []
  create := some
  groupAttributes values := values
  removeGroupAttributes _ := []
  sessionVersion _ := []
  compare _ _ proposal := (proposal, true)
  updateDirection values := values
  updateDirectionFrom values _ := values
  updateDirectionOf _ _ values := values
  updateProperties values _ := values
  createMedia := some

/-- "m=audio 5004 RTP/AVP" with "a=mid:1". -/
def audioMedia : SdpMediaParameter :=
  { mid := 0
    media := { mediaType := .audio, strMediaType := "audio".toList, port := 5004
               transportProtocol := .rtpAvp, strTransportProtocol := "RTP/AVP".toList }
    attrMid := some ['1'] }

theorem valid_create_iff_audio :
    ({ sessionParam := [], mediaParams := [audioMedia] } :
        SessionParameter (List (Option Chars))).Valid ↔ ¬NamesMedias groupsOps [] [audioMedia] :=
  @valid_create_iff _ _ _ groupsOps { sessionParam := [] } [] [audioMedia] _ (by decide +kernel)

end SessionParameter

end ImsStack.OfferAnswer
