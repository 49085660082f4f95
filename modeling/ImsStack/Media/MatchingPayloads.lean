import ImsStack.Media.VideoPayloads
import Mathlib.Data.List.Basic

/-!
Which payloads of the local and of the peer profile match, and what the two loops leave: the first
pair that matches, or the first of one codec where none does.
-/

namespace ImsStack.Media

open ImsStack.Platform VideoProfile

namespace VideoProfileNegotiator

def BothAvc (pLocalPayload pPeerPayload : Payload) : Prop :=
  pPeerPayload.isAvc = true ∧ pLocalPayload.isAvc = true

def BothHevc (pLocalPayload pPeerPayload : Payload) : Prop :=
  pPeerPayload.isHevc = true ∧ pLocalPayload.isHevc = true

/-- The two have a format of the same codec. -/
def SameCodec (pLocalPayload pPeerPayload : Payload) : Prop :=
  (BothAvc pLocalPayload pPeerPayload ∨ BothHevc pLocalPayload pPeerPayload) ∧
    pLocalPayload.fmtp ≠ none ∧ pPeerPayload.fmtp ≠ none

/-- One of the payloads is of H264 and has the level and the resolution of the peer. -/
def HasLevel (payloads : VideoPayloadList) (pPeerFmtp : VideoFmtp) : Prop :=
  pPeerFmtp.resolution ≠ .notUsed ∧ ∃ payload fmtp, some payload ∈ payloads ∧
    payload.isAvc = true ∧ payload.fmtp = some fmtp ∧ fmtp.level = pPeerFmtp.level ∧
    fmtp.resolution = pPeerFmtp.resolution

structure MatchesAvc (pLocalProfile : VideoPayloadList) (i : Nat)
    (pLocalFmtp pPeerFmtp : VideoFmtp) : Prop where
  profile : pLocalFmtp.profile = pPeerFmtp.profile
  level : pPeerFmtp.level ≤ pLocalFmtp.level
  resolution : pLocalFmtp.resolution = pPeerFmtp.resolution
  noneBehind : pLocalFmtp.level ≠ pPeerFmtp.level → ¬HasLevel (pLocalProfile.drop i) pPeerFmtp

structure MatchesHevc (pLocalFmtp pPeerFmtp : VideoFmtp) : Prop where
  level : pPeerFmtp.level ≤ pLocalFmtp.level
  resolution : pPeerFmtp.resolution = .notUsed ∨ pLocalFmtp.resolution = pPeerFmtp.resolution

/-- The local payload at an index matches the one of the peer. -/
def Matches (pLocalProfile : VideoPayloadList) (i : Nat)
    (pLocalPayload pPeerPayload : Payload) : Prop :=
  ∃ pLocalFmtp pPeerFmtp, pLocalPayload.fmtp = some pLocalFmtp ∧
    pPeerPayload.fmtp = some pPeerFmtp ∧
    (BothAvc pLocalPayload pPeerPayload ∧ MatchesAvc pLocalProfile i pLocalFmtp pPeerFmtp ∨
      BothHevc pLocalPayload pPeerPayload ∧ MatchesHevc pLocalFmtp pPeerFmtp)

/-- The payload of the peer behind the search: one of H265 without a resolution has the local
one. -/
def givenResolution (pLocalPayload pPeerPayload : Payload) : Payload :=
  match pLocalPayload.fmtp, pPeerPayload.fmtp with
  | some pLocalFmtp, some pPeerFmtp =>
    if pPeerPayload.isHevc ∧ pPeerFmtp.resolution = .notUsed then
      pPeerPayload.setResolution pLocalFmtp.resolution
    else pPeerPayload
  | _, _ => pPeerPayload

variable {pLocalProfile : VideoPayloadList} {pLocalPayload pPeerPayload : Payload}
  {pLocalFmtp pPeerFmtp : VideoFmtp}

theorem isHevc_eq_false {payload : Payload} (h : payload.isAvc = true) :
    payload.isHevc = false := by
  cases hhevc : payload.isHevc with
  | false => rfl
  | true =>
      have havc := beq_iff_eq.mp h
      have hhevc := beq_iff_eq.mp hhevc
      exact absurd (havc.symm.trans hhevc) (by decide)

theorem givenResolution_of_isAvc (h : pPeerPayload.isAvc = true) :
    givenResolution pLocalPayload pPeerPayload = pPeerPayload := by
  unfold givenResolution
  split
  · rw [if_neg]
    rintro ⟨hhevc, -⟩
    rw [isHevc_eq_false h] at hhevc
    cases hhevc
  · rfl

theorem givenResolution_rtpMap : (givenResolution pLocalPayload pPeerPayload).rtpMap =
    pPeerPayload.rtpMap := by
  unfold givenResolution
  split
  · split <;> rfl
  · rfl

/-- What `MakeNegotiatedPayload` gives for two payloads. -/
structure IsNegotiated (pLocalPayload pPeerPayload pNegoPayload : Payload) : Prop where
  rtpMap : pNegoPayload.rtpMap =
    { pLocalPayload.rtpMap with payloadNumber := pPeerPayload.rtpMap.payloadNumber }
  level : ∃ pLocalFmtp pPeerFmtp pNegoFmtp, pLocalPayload.fmtp = some pLocalFmtp ∧
    pPeerPayload.fmtp = some pPeerFmtp ∧ pNegoPayload.fmtp = some pNegoFmtp ∧
    pNegoFmtp.profile = pLocalFmtp.profile ∧
    pNegoFmtp.level ≤ pLocalFmtp.level ∧ pNegoFmtp.level ≤ pPeerFmtp.level

theorem negotiateLevel_spec (avc : Bool) (pNegoFmtp pPeerFmtp : VideoFmtp) :
    (negotiateLevel avc pNegoFmtp pPeerFmtp).profile = pNegoFmtp.profile ∧
    (negotiateLevel avc pNegoFmtp pPeerFmtp).level ≤ pNegoFmtp.level ∧
    (negotiateLevel avc pNegoFmtp pPeerFmtp).level ≤ pPeerFmtp.level := by
  unfold negotiateLevel
  split
  · rename_i h
    exact ⟨rfl, Int.le_of_lt h, Int.le_refl _⟩
  · rename_i h
    exact ⟨rfl, Int.le_refl _, Int.not_lt.mp h⟩

theorem makeNegotiatedPayload_spec {pNegoPayload : Payload}
    (hcodec : pLocalPayload.isAvc = true ∨ pLocalPayload.isHevc = true)
    (h : makeNegotiatedPayload pLocalPayload pPeerPayload = some pNegoPayload) :
    IsNegotiated pLocalPayload pPeerPayload pNegoPayload := by
  have hknown : (pLocalPayload.isAvc || pLocalPayload.isHevc) = true :=
    Bool.or_eq_true_iff.mpr hcodec
  unfold makeNegotiatedPayload at h
  dsimp only at h
  rw [if_pos hknown] at h
  have hcopy : (pLocalPayload.copy.setPayloadNumber pPeerPayload.rtpMap.payloadNumber).fmtp =
      pLocalPayload.fmtp := if_pos hknown
  rw [hcopy] at h
  cases hlocal : pLocalPayload.fmtp with
  | none =>
      rw [hlocal] at h
      cases h
  | some pLocalFmtp =>
      cases hpeer : pPeerPayload.fmtp with
      | none =>
          rw [hlocal, hpeer] at h
          cases h
      | some pPeerFmtp =>
          rw [hlocal, hpeer] at h
          obtain rfl := Option.some.inj h
          refine ⟨rfl, pLocalFmtp, pPeerFmtp, _, hlocal, hpeer, rfl, ?_⟩
          exact negotiateLevel_spec pLocalPayload.isAvc pLocalFmtp pPeerFmtp

/-- What the comparison of two payloads may give. -/
inductive IsOutcome (pLocalProfile : VideoPayloadList) (pair : PayloadPair)
    (pLocalPayload pPeerPayload : Payload) (temp : Option PayloadPair) : PairOutcome → Prop
  | passed (h : ¬Matches pLocalProfile pair.nLocalIndex pLocalPayload pPeerPayload) :
      IsOutcome pLocalProfile pair pLocalPayload pPeerPayload temp ⟨pPeerPayload, temp, none⟩
  | kept (h : ¬Matches pLocalProfile pair.nLocalIndex pLocalPayload pPeerPayload)
      (hcodec : SameCodec pLocalPayload pPeerPayload) :
      IsOutcome pLocalProfile pair pLocalPayload pPeerPayload temp (keepFirst pair pPeerPayload temp)
  | matched (h : Matches pLocalProfile pair.nLocalIndex pLocalPayload pPeerPayload)
      {pNegoPayload : Payload}
      (hnego : makeNegotiatedPayload pLocalPayload (givenResolution pLocalPayload pPeerPayload) =
        some pNegoPayload) :
      IsOutcome pLocalProfile pair pLocalPayload pPeerPayload temp
        ⟨givenResolution pLocalPayload pPeerPayload, temp, some pNegoPayload⟩

theorem hasLevel_cons_of_not {payload : Payload} {payloads : VideoPayloadList}
    (h : payload.isAvc = true → ∀ fmtp, payload.fmtp = some fmtp →
      ¬(fmtp.level = pPeerFmtp.level ∧ fmtp.resolution = pPeerFmtp.resolution ∧
        pPeerFmtp.resolution ≠ .notUsed)) :
    HasLevel (some payload :: payloads) pPeerFmtp ↔ HasLevel payloads pPeerFmtp := by
  constructor
  · rintro ⟨hused, q, fmtp, hmem, havc, hfmtp, hlevel, hresolution⟩
    rcases List.mem_cons.mp hmem with hq | hmem
    · obtain rfl := Option.some.inj hq
      exact absurd ⟨hlevel, hresolution, hused⟩ (h havc fmtp hfmtp)
    · exact ⟨hused, q, fmtp, hmem, havc, hfmtp, hlevel, hresolution⟩
  · rintro ⟨hused, q, fmtp, hmem, hq⟩
    exact ⟨hused, q, fmtp, List.mem_cons_of_mem _ hmem, hq⟩

theorem findsLevel_spec {payloads : VideoPayloadList} {found : Bool}
    (h : findsLevel pPeerFmtp payloads = some found) :
    found = true ↔ HasLevel payloads pPeerFmtp := by
  induction payloads with
  | nil =>
      obtain rfl := Option.some.inj h
      constructor
      · exact fun h => absurd h Bool.false_ne_true
      · rintro ⟨-, q, fmtp, hmem, -⟩
        exact absurd hmem List.not_mem_nil
  | cons payload payloads ih =>
      cases payload with
      | none => cases h
      | some payload =>
          unfold findsLevel at h
          by_cases havc : payload.isAvc = true
          · rw [if_pos havc] at h
            cases hfmtp : payload.fmtp with
            | none =>
                rw [hfmtp] at h
                cases h
            | some fmtp =>
                rw [hfmtp] at h
                dsimp only at h
                split at h
                · rename_i hlevel
                  obtain rfl := Option.some.inj h
                  refine ⟨fun _ => ?_, fun _ => rfl⟩
                  exact ⟨hlevel.2.2, payload, fmtp, List.mem_cons_self, havc, hfmtp, hlevel.1,
                    hlevel.2.1⟩
                · rename_i hlevel
                  refine (ih h).trans (hasLevel_cons_of_not ?_).symm
                  intro _ fmtp' hfmtp'
                  obtain rfl := Option.some.inj (hfmtp.symm.trans hfmtp')
                  exact hlevel
          · rw [if_neg havc] at h
            exact (ih h).trans (hasLevel_cons_of_not fun h => absurd h havc).symm

section outcome

variable {pair : PayloadPair} {temp : Option PayloadPair} {outcome : PairOutcome}

theorem passesOver_spec {passed : Bool}
    (h : passesOver pair pLocalProfile pLocalFmtp pPeerFmtp = some passed) :
    passed = true ↔ pLocalFmtp.level ≠ pPeerFmtp.level ∧
      HasLevel (pLocalProfile.drop pair.nLocalIndex) pPeerFmtp := by
  unfold passesOver at h
  split at h
  · rename_i hlevel
    obtain rfl := Option.some.inj h
    exact ⟨fun h => absurd h Bool.false_ne_true, fun h => absurd hlevel h.1⟩
  · rename_i hlevel
    exact (findsLevel_spec h).trans ⟨fun h => ⟨hlevel, h⟩, And.right⟩

theorem matches_iff_of_bothAvc (pLocalProfile : VideoPayloadList)
    (hboth : BothAvc pLocalPayload pPeerPayload)
    (hlocal : pLocalPayload.fmtp = some pLocalFmtp) (hpeer : pPeerPayload.fmtp = some pPeerFmtp)
    {i : Nat} : Matches pLocalProfile i pLocalPayload pPeerPayload ↔
      MatchesAvc pLocalProfile i pLocalFmtp pPeerFmtp := by
  constructor
  · rintro ⟨f, g, hf, hg, ⟨-, h⟩ | ⟨hhevc, -⟩⟩
    · obtain rfl := Option.some.inj (hlocal.symm.trans hf)
      obtain rfl := Option.some.inj (hpeer.symm.trans hg)
      exact h
    · have hnot := isHevc_eq_false hboth.1
      rw [hhevc.1] at hnot
      cases hnot
  · exact fun h => ⟨pLocalFmtp, pPeerFmtp, hlocal, hpeer, Or.inl ⟨hboth, h⟩⟩

theorem matches_iff_of_bothHevc (pLocalProfile : VideoPayloadList)
    (hboth : BothHevc pLocalPayload pPeerPayload)
    (hlocal : pLocalPayload.fmtp = some pLocalFmtp) (hpeer : pPeerPayload.fmtp = some pPeerFmtp)
    {i : Nat} : Matches pLocalProfile i pLocalPayload pPeerPayload ↔
      MatchesHevc pLocalFmtp pPeerFmtp := by
  constructor
  · rintro ⟨f, g, hf, hg, ⟨havc, -⟩ | ⟨-, h⟩⟩
    · have hnot := isHevc_eq_false havc.1
      rw [hboth.1] at hnot
      cases hnot
    · obtain rfl := Option.some.inj (hlocal.symm.trans hf)
      obtain rfl := Option.some.inj (hpeer.symm.trans hg)
      exact h
  · exact fun h => ⟨pLocalFmtp, pPeerFmtp, hlocal, hpeer, Or.inr ⟨hboth, h⟩⟩

theorem not_matches_of_fmtp (h : pLocalPayload.fmtp = none ∨ pPeerPayload.fmtp = none) {i : Nat} :
    ¬Matches pLocalProfile i pLocalPayload pPeerPayload := by
  rintro ⟨f, g, hf, hg, -⟩
  rcases h with h | h
  · rw [h] at hf
    cases hf
  · rw [h] at hg
    cases hg

theorem sameCodec_of_bothAvc (hboth : BothAvc pLocalPayload pPeerPayload)
    (hlocal : pLocalPayload.fmtp = some pLocalFmtp) (hpeer : pPeerPayload.fmtp = some pPeerFmtp) :
    SameCodec pLocalPayload pPeerPayload := by
  refine ⟨Or.inl hboth, ?_, ?_⟩
  · rw [hlocal]
    exact Option.some_ne_none _
  · rw [hpeer]
    exact Option.some_ne_none _

theorem sameCodec_of_bothHevc (hboth : BothHevc pLocalPayload pPeerPayload)
    (hlocal : pLocalPayload.fmtp = some pLocalFmtp) (hpeer : pPeerPayload.fmtp = some pPeerFmtp) :
    SameCodec pLocalPayload pPeerPayload := by
  refine ⟨Or.inr hboth, ?_, ?_⟩
  · rw [hlocal]
    exact Option.some_ne_none _
  · rw [hpeer]
    exact Option.some_ne_none _

theorem isOutcome_matchResolution (hcodec : SameCodec pLocalPayload pPeerPayload)
    (hmatches : Matches pLocalProfile pair.nLocalIndex pLocalPayload pPeerPayload ↔
      pLocalFmtp.resolution = pPeerFmtp.resolution)
    (hgiven : givenResolution pLocalPayload pPeerPayload = pPeerPayload)
    (h : matchResolution pair pLocalPayload pPeerPayload temp pLocalFmtp pPeerFmtp =
      some outcome) :
    IsOutcome pLocalProfile pair pLocalPayload pPeerPayload temp outcome := by
  unfold matchResolution at h
  split at h
  · rename_i hresolution
    obtain rfl := Option.some.inj h
    exact .kept (fun h => hresolution (hmatches.mp h)) hcodec
  · rename_i hresolution
    obtain ⟨pNegoPayload, hnego, rfl⟩ := Option.map_eq_some_iff.mp h
    have hmatch := hmatches.mpr (Decidable.not_not.mp hresolution)
    rw [← hgiven] at hnego
    have houtcome : IsOutcome pLocalProfile pair pLocalPayload pPeerPayload temp
        ⟨givenResolution pLocalPayload pPeerPayload, temp, some pNegoPayload⟩ :=
      .matched hmatch hnego
    rw [hgiven] at houtcome
    exact houtcome

theorem negotiateAvc_spec (hboth : BothAvc pLocalPayload pPeerPayload)
    (h : negotiateAvc pair pLocalPayload pPeerPayload temp pLocalProfile = some outcome) :
    IsOutcome pLocalProfile pair pLocalPayload pPeerPayload temp outcome := by
  unfold negotiateAvc at h
  cases hlocal : pLocalPayload.fmtp with
  | none =>
      rw [hlocal] at h
      obtain rfl := Option.some.inj h
      exact .passed (not_matches_of_fmtp (Or.inl hlocal))
  | some pLocalFmtp =>
      cases hpeer : pPeerPayload.fmtp with
      | none =>
          rw [hlocal, hpeer] at h
          obtain rfl := Option.some.inj h
          exact .passed (not_matches_of_fmtp (Or.inr hpeer))
      | some pPeerFmtp =>
          rw [hlocal, hpeer] at h
          dsimp only at h
          have hcodec := sameCodec_of_bothAvc hboth hlocal hpeer
          have hmatches := matches_iff_of_bothAvc pLocalProfile hboth hlocal hpeer
            (i := pair.nLocalIndex)
          split at h
          · rename_i hprofile
            obtain rfl := Option.some.inj h
            refine .kept (fun hmatch => ?_) hcodec
            have havc := hmatches.mp hmatch
            rcases hprofile with hprofile | hlevel
            · exact hprofile havc.profile
            · exact Int.not_lt.mpr havc.level hlevel
          · rename_i hprofile
            obtain ⟨hprofile, hlevel⟩ := not_or.mp hprofile
            cases hover : passesOver pair pLocalProfile pLocalFmtp pPeerFmtp with
            | none =>
                rw [hover] at h
                cases h
            | some passed =>
                have hpasses := passesOver_spec hover
                rw [hover] at h
                cases passed with
                | true =>
                    obtain rfl := Option.some.inj h
                    refine .passed (fun hmatch => ?_)
                    exact (hmatches.mp hmatch).noneBehind (hpasses.mp rfl).1 (hpasses.mp rfl).2
                | false =>
                    refine isOutcome_matchResolution hcodec ?_ (givenResolution_of_isAvc hboth.1) h
                    refine hmatches.trans ⟨MatchesAvc.resolution, fun hresolution => ?_⟩
                    refine ⟨Decidable.not_not.mp hprofile, Int.not_lt.mp hlevel, hresolution, ?_⟩
                    intro hne hbehind
                    exact Bool.false_ne_true (hpasses.mpr ⟨hne, hbehind⟩)

theorem assumedResolution_of_empty {pNegotiatedProfile : VideoProfile}
    (hempty : pNegotiatedProfile.payloads = []) (pLocalFmtp : VideoFmtp) :
    assumedResolution pNegotiatedProfile pLocalFmtp = pLocalFmtp.resolution := by
  have hnone : ∀ i, pNegotiatedProfile.payloadAt i = none := by
    intro i
    unfold VideoProfile.payloadAt
    rw [hempty]
    rfl
  have hinvalid : getNegotiatedResolution
      (if pNegotiatedProfile.negotiatedPayloadIndex > 0 then
        pNegotiatedProfile.payloadAt pNegotiatedProfile.negotiatedPayloadIndex.toNat
      else pNegotiatedProfile.payloadAt 0) = .invalid := by
    split
    · rw [hnone]
      rfl
    · rw [hnone]
      rfl
  unfold assumedResolution
  rw [hinvalid]
  rfl

theorem fmtp_setResolution {payload : Payload} {fmtp : VideoFmtp} (h : payload.fmtp = some fmtp)
    (eResolution : VideoResolution) : (payload.setResolution eResolution).fmtp =
      some { fmtp with resolution := eResolution } := by
  unfold Payload.setResolution
  rw [h]
  rfl

/-- Where the resolution of the peer is the local one, the two payloads match. -/
theorem matchResolution_assumed {pGivenPayload : Payload}
    (h : matchResolution pair pLocalPayload pGivenPayload temp pLocalFmtp
      { pPeerFmtp with resolution := pLocalFmtp.resolution } = some outcome) :
    ∃ pNegoPayload, makeNegotiatedPayload pLocalPayload pGivenPayload = some pNegoPayload ∧
      outcome = ⟨pGivenPayload, temp, some pNegoPayload⟩ := by
  unfold matchResolution at h
  rw [if_neg (not_not_intro rfl)] at h
  obtain ⟨pNegoPayload, hnego, rfl⟩ := Option.map_eq_some_iff.mp h
  exact ⟨pNegoPayload, hnego, rfl⟩

theorem negotiateHevc_spec {pNegotiatedProfile : VideoProfile}
    (hempty : pNegotiatedProfile.payloads = []) (hboth : BothHevc pLocalPayload pPeerPayload)
    (h : negotiateHevc pair pLocalPayload pPeerPayload temp pNegotiatedProfile = some outcome) :
    IsOutcome pLocalProfile pair pLocalPayload pPeerPayload temp outcome := by
  unfold negotiateHevc at h
  cases hlocal : pLocalPayload.fmtp with
  | none =>
      rw [hlocal] at h
      obtain rfl := Option.some.inj h
      exact .passed (not_matches_of_fmtp (Or.inl hlocal))
  | some pLocalFmtp =>
      cases hpeer : pPeerPayload.fmtp with
      | none =>
          rw [hlocal, hpeer] at h
          obtain rfl := Option.some.inj h
          exact .passed (not_matches_of_fmtp (Or.inr hpeer))
      | some pPeerFmtp =>
          rw [hlocal, hpeer] at h
          dsimp only at h
          have hcodec := sameCodec_of_bothHevc hboth hlocal hpeer
          have hmatches := matches_iff_of_bothHevc pLocalProfile hboth hlocal hpeer
            (i := pair.nLocalIndex)
          have hgiven : givenResolution pLocalPayload pPeerPayload =
              if pPeerPayload.isHevc ∧ pPeerFmtp.resolution = .notUsed then
                pPeerPayload.setResolution pLocalFmtp.resolution
              else pPeerPayload := by
            unfold givenResolution
            rw [hlocal, hpeer]
          split at h
          · rename_i hlevel
            obtain rfl := Option.some.inj h
            exact .kept (fun hmatch => Int.not_lt.mpr (hmatches.mp hmatch).level hlevel) hcodec
          · rename_i hlevel
            split at h
            · rename_i hunused
              rw [assumedResolution_of_empty hempty] at h
              obtain ⟨pNegoPayload, hnego, rfl⟩ := matchResolution_assumed h
              rw [if_pos ⟨hboth.1, hunused⟩] at hgiven
              rw [← hgiven] at hnego ⊢
              exact .matched (hmatches.mpr ⟨Int.not_lt.mp hlevel, Or.inl hunused⟩) hnego
            · rename_i hused
              rw [if_neg fun h => hused h.2] at hgiven
              refine isOutcome_matchResolution hcodec ?_ hgiven h
              constructor
              · intro hmatch
                exact (hmatches.mp hmatch).resolution.resolve_left hused
              · exact fun h => hmatches.mpr ⟨Int.not_lt.mp hlevel, Or.inr h⟩

theorem negotiatePair_spec {pNegotiatedProfile : VideoProfile}
    (hempty : pNegotiatedProfile.payloads = [])
    (h : negotiatePair pair pLocalPayload pPeerPayload temp pLocalProfile pNegotiatedProfile =
      some outcome) : IsOutcome pLocalProfile pair pLocalPayload pPeerPayload temp outcome := by
  unfold negotiatePair at h
  split at h
  · rename_i havc
    exact negotiateAvc_spec (Bool.and_eq_true_iff.mp havc) h
  · rename_i havc
    split at h
    · rename_i hhevc
      exact negotiateHevc_spec hempty (Bool.and_eq_true_iff.mp hhevc) h
    · rename_i hhevc
      obtain rfl := Option.some.inj h
      refine .passed ?_
      rintro ⟨f, g, -, -, ⟨hboth, -⟩ | ⟨hboth, -⟩⟩
      · exact havc (Bool.and_eq_true_iff.mpr hboth)
      · exact hhevc (Bool.and_eq_true_iff.mpr hboth)

end outcome

section search

variable (pLocalProfile pPeerPayloads : VideoPayloadList) (pNegotiatedProfile : VideoProfile)

/-- The pair that is kept is of one codec. -/
def IsKept (temp : Option PayloadPair) : Prop :=
  ∀ pair, temp = some pair → ∃ pLocalPayload pPeerPayload,
    pLocalProfile[pair.nLocalIndex]? = some (some pLocalPayload) ∧
    pPeerPayloads[pair.nPeerIndex]? = some (some pPeerPayload) ∧
    SameCodec pLocalPayload pPeerPayload

/-- No pair that has been compared matches. -/
structure Unmatched (search : Search) : Prop where
  peerPayloads : search.peerPayloads = pPeerPayloads
  pNegotiatedProfile : search.pNegotiatedProfile = pNegotiatedProfile
  temp : IsKept pLocalProfile pPeerPayloads search.temp

/-- The search has ended at a pair that matches. -/
structure MatchedAt (search : Search) (i j : Nat)
    (pLocalPayload pPeerPayload pNegoPayload : Payload) : Prop where
  localAt : pLocalProfile[i]? = some (some pLocalPayload)
  peerAt : pPeerPayloads[j]? = some (some pPeerPayload)
  isMatch : Matches pLocalProfile i pLocalPayload pPeerPayload
  negotiated : makeNegotiatedPayload pLocalPayload (givenResolution pLocalPayload pPeerPayload) =
    some pNegoPayload
  temp : search.temp = some ⟨i, j⟩
  lastLocal : search.pLocalPayload = some pLocalPayload
  lastPeer : search.pPeerPayload = some (givenResolution pLocalPayload pPeerPayload)
  peerPayloads : search.peerPayloads =
    pPeerPayloads.set j (some (givenResolution pLocalPayload pPeerPayload))
  pNegotiatedProfile : search.pNegotiatedProfile = pNegotiatedProfile.addPayload pNegoPayload

/-- The loop over the local payloads from index `i` on has ended without a match, or at one. -/
def LocalsEnd (i j : Nat) (pPeerPayload : Payload) (search : Search) : Prop :=
  (Unmatched pLocalProfile pPeerPayloads pNegotiatedProfile search ∧
    ∀ k pLocalPayload, i ≤ k → pLocalProfile[k]? = some (some pLocalPayload) →
      ¬Matches pLocalProfile k pLocalPayload pPeerPayload) ∨
  ∃ k pLocalPayload pNegoPayload, MatchedAt pLocalProfile pPeerPayloads pNegotiatedProfile
    search k j pLocalPayload pPeerPayload pNegoPayload

/-- The loop over the payloads of the peer from index `j` on has. -/
def PeersEnd (j : Nat) (search : Search) : Prop :=
  (Unmatched pLocalProfile pPeerPayloads pNegotiatedProfile search ∧
    ∀ m pPeerPayload, j ≤ m → pPeerPayloads[m]? = some (some pPeerPayload) →
      ∀ k pLocalPayload, pLocalProfile[k]? = some (some pLocalPayload) →
        ¬Matches pLocalProfile k pLocalPayload pPeerPayload) ∨
  ∃ k m pLocalPayload pPeerPayload pNegoPayload, MatchedAt pLocalProfile pPeerPayloads
    pNegotiatedProfile search k m pLocalPayload pPeerPayload pNegoPayload

variable {pLocalProfile pPeerPayloads pNegotiatedProfile} {search search' : Search}

theorem set_of_getElem? {j : Nat} (h : pPeerPayloads[j]? = some (some pPeerPayload)) :
    pPeerPayloads.set j (some pPeerPayload) = pPeerPayloads := by
  apply List.ext_getElem?
  intro k
  by_cases hk : j = k
  · subst hk
    obtain ⟨hlt, -⟩ := List.getElem?_eq_some_iff.mp h
    rw [List.getElem?_set_self hlt, h]
  · rw [List.getElem?_set_ne hk]

theorem Unmatched.compared {j : Nat} {temp : Option PayloadPair}
    (hsearch : Unmatched pLocalProfile pPeerPayloads pNegotiatedProfile search)
    (hpeer : pPeerPayloads[j]? = some (some pPeerPayload))
    (htemp : IsKept pLocalProfile pPeerPayloads temp) :
    Unmatched pLocalProfile pPeerPayloads pNegotiatedProfile
      (search.compared j pLocalPayload ⟨pPeerPayload, temp, none⟩) where
  peerPayloads := by
    rw [← set_of_getElem? hpeer, ← hsearch.peerPayloads]
    rfl
  pNegotiatedProfile := hsearch.pNegotiatedProfile
  temp := htemp

theorem isKept_or {i j : Nat} {temp : Option PayloadPair}
    (htemp : IsKept pLocalProfile pPeerPayloads temp)
    (hlocal : pLocalProfile[i]? = some (some pLocalPayload))
    (hpeer : pPeerPayloads[j]? = some (some pPeerPayload))
    (hcodec : SameCodec pLocalPayload pPeerPayload) :
    IsKept pLocalProfile pPeerPayloads (temp.or (some ⟨i, j⟩)) := by
  intro pair hpair
  cases temp with
  | none =>
      obtain rfl := Option.some.inj hpair
      exact ⟨pLocalPayload, pPeerPayload, hlocal, hpeer, hcodec⟩
  | some first => exact htemp pair hpair

theorem getElem?_of_drop {α : Type} {l l' : List α} {a : α} {i : Nat} (h : l.drop i = a :: l') :
    l[i]? = some a ∧ l.drop (i + 1) = l' := by
  constructor
  · rw [← List.head?_drop, h]
    rfl
  · rw [← List.tail_drop, h]
    rfl

theorem negotiateLocals_spec {payloads : VideoPayloadList} {i j : Nat}
    (hempty : pNegotiatedProfile.payloads = []) (hpayloads : pLocalProfile.drop i = payloads)
    (hpeer : pPeerPayloads[j]? = some (some pPeerPayload))
    (hsearch : Unmatched pLocalProfile pPeerPayloads pNegotiatedProfile search)
    (h : negotiateLocals pLocalProfile j i payloads pPeerPayload search = some search') :
    LocalsEnd pLocalProfile pPeerPayloads pNegotiatedProfile i j pPeerPayload search' := by
  induction payloads generalizing i search with
  | nil =>
      obtain rfl := Option.some.inj h
      refine Or.inl ⟨hsearch, fun k pLocalPayload hk hlocal => ?_⟩
      obtain ⟨hlt, -⟩ := List.getElem?_eq_some_iff.mp hlocal
      have hlength := List.drop_eq_nil_iff.mp hpayloads
      omega
  | cons payload payloads ih =>
      obtain ⟨hget, hdrop⟩ := getElem?_of_drop hpayloads
      -- The rest of the loop ends without a match where the payload at `i` does not match either.
      have hrest : ∀ {search : Search},
          Unmatched pLocalProfile pPeerPayloads pNegotiatedProfile search →
          (∀ pLocalPayload, payload = some pLocalPayload →
            ¬Matches pLocalProfile i pLocalPayload pPeerPayload) →
          negotiateLocals pLocalProfile j (i + 1) payloads pPeerPayload search = some search' →
          LocalsEnd pLocalProfile pPeerPayloads pNegotiatedProfile i j pPeerPayload search' := by
        intro search hsearch hpayload h
        rcases ih hdrop hsearch h with ⟨hunmatched, hnone⟩ | hmatched
        · refine Or.inl ⟨hunmatched, fun k pLocalPayload hk hlocal => ?_⟩
          rcases Nat.eq_or_lt_of_le hk with hik | hk
          · subst hik
            exact hpayload pLocalPayload (Option.some.inj (hget.symm.trans hlocal))
          · exact hnone k pLocalPayload hk hlocal
        · exact Or.inr hmatched
      cases payload with
      | none =>
          have hnull : Unmatched pLocalProfile pPeerPayloads pNegotiatedProfile
              { search with pLocalPayload := none } :=
            ⟨hsearch.peerPayloads, hsearch.pNegotiatedProfile, hsearch.temp⟩
          refine hrest hnull ?_ h
          rintro p hp
          cases hp
      | some pLocalPayload =>
          unfold negotiateLocals at h
          cases houtcome : negotiatePair ⟨i, j⟩ pLocalPayload pPeerPayload search.temp pLocalProfile
              search.pNegotiatedProfile with
          | none =>
              rw [houtcome] at h
              cases h
          | some outcome =>
              rw [houtcome] at h
              have hspec := negotiatePair_spec (hsearch.pNegotiatedProfile ▸ hempty) houtcome
              cases hspec with
              | passed hnot =>
                  refine hrest (hsearch.compared hpeer hsearch.temp) ?_ h
                  rintro p hp
                  obtain rfl := Option.some.inj hp
                  exact hnot
              | kept hnot hcodec =>
                  refine hrest (hsearch.compared hpeer (isKept_or hsearch.temp hget hpeer hcodec))
                    ?_ h
                  rintro p hp
                  obtain rfl := Option.some.inj hp
                  exact hnot
              | matched hmatch hnego =>
                  rename_i pNegoPayload
                  obtain rfl := Option.some.inj h
                  refine Or.inr ⟨i, pLocalPayload, pNegoPayload, ?_⟩
                  exact {
                    localAt := hget
                    peerAt := hpeer
                    isMatch := hmatch
                    negotiated := hnego
                    temp := rfl
                    lastLocal := rfl
                    lastPeer := rfl
                    peerPayloads := congrArg (fun payloads : VideoPayloadList =>
                      payloads.set j (some (givenResolution pLocalPayload pPeerPayload)))
                      hsearch.peerPayloads
                    pNegotiatedProfile := congrArg (fun profile => profile.addPayload pNegoPayload)
                      hsearch.pNegotiatedProfile }

theorem negotiatePeers_of_length (h : search.pNegotiatedProfile.payloads.length > 0) (j : Nat)
    (payloads : VideoPayloadList) :
    negotiatePeers pLocalProfile j payloads search = some search := by
  cases payloads with
  | nil => rfl
  | cons payload payloads =>
      unfold negotiatePeers
      rw [if_pos h]

theorem MatchedAt.length_pos {i j : Nat} {pNegoPayload : Payload}
    (h : MatchedAt pLocalProfile pPeerPayloads pNegotiatedProfile search i j pLocalPayload
      pPeerPayload pNegoPayload) : search.pNegotiatedProfile.payloads.length > 0 := by
  rw [h.pNegotiatedProfile]
  unfold VideoProfile.addPayload
  dsimp only
  rw [List.length_append]
  exact Nat.succ_pos _

theorem negotiatePeers_spec {payloads : VideoPayloadList} {j : Nat}
    (hempty : pNegotiatedProfile.payloads = []) (hpayloads : pPeerPayloads.drop j = payloads)
    (hsearch : Unmatched pLocalProfile pPeerPayloads pNegotiatedProfile search)
    (h : negotiatePeers pLocalProfile j payloads search = some search') :
    PeersEnd pLocalProfile pPeerPayloads pNegotiatedProfile j search' := by
  induction payloads generalizing j search with
  | nil =>
      obtain rfl := Option.some.inj h
      refine Or.inl ⟨hsearch, fun m pPeerPayload hm hpeer => ?_⟩
      obtain ⟨hlt, -⟩ := List.getElem?_eq_some_iff.mp hpeer
      have hlength := List.drop_eq_nil_iff.mp hpayloads
      omega
  | cons payload payloads ih =>
      obtain ⟨hget, hdrop⟩ := getElem?_of_drop hpayloads
      have hrest : ∀ {search : Search},
          Unmatched pLocalProfile pPeerPayloads pNegotiatedProfile search →
          (∀ pPeerPayload, payload = some pPeerPayload →
            ∀ k pLocalPayload, pLocalProfile[k]? = some (some pLocalPayload) →
              ¬Matches pLocalProfile k pLocalPayload pPeerPayload) →
          negotiatePeers pLocalProfile (j + 1) payloads search = some search' →
          PeersEnd pLocalProfile pPeerPayloads pNegotiatedProfile j search' := by
        intro search hsearch hpayload h
        rcases ih hdrop hsearch h with ⟨hunmatched, hnone⟩ | hmatched
        · refine Or.inl ⟨hunmatched, fun m pPeerPayload hm hpeer => ?_⟩
          rcases Nat.eq_or_lt_of_le hm with hjm | hm
          · subst hjm
            exact hpayload pPeerPayload (Option.some.inj (hget.symm.trans hpeer))
          · exact hnone m pPeerPayload hm hpeer
        · exact Or.inr hmatched
      have hlength : ¬search.pNegotiatedProfile.payloads.length > 0 := by
        rw [hsearch.pNegotiatedProfile, hempty]
        exact Nat.lt_irrefl 0
      unfold negotiatePeers at h
      rw [if_neg hlength] at h
      cases payload with
      | none =>
          have hnull : Unmatched pLocalProfile pPeerPayloads pNegotiatedProfile
              { search with pPeerPayload := none } :=
            ⟨hsearch.peerPayloads, hsearch.pNegotiatedProfile, hsearch.temp⟩
          refine hrest hnull ?_ h
          rintro p hp
          cases hp
      | some pPeerPayload =>
          dsimp only at h
          have hstart : Unmatched pLocalProfile pPeerPayloads pNegotiatedProfile
              { search with pPeerPayload := some pPeerPayload } :=
            ⟨hsearch.peerPayloads, hsearch.pNegotiatedProfile, hsearch.temp⟩
          cases hlocals : negotiateLocals pLocalProfile j 0 pLocalProfile pPeerPayload
              { search with pPeerPayload := some pPeerPayload } with
          | none =>
              rw [hlocals] at h
              cases h
          | some search₁ =>
              rw [hlocals] at h
              dsimp only at h
              rcases negotiateLocals_spec hempty rfl hget hstart hlocals with
                ⟨hunmatched, hnone⟩ | ⟨k, pLocalPayload, pNegoPayload, hmatched⟩
              · refine hrest hunmatched ?_ h
                intro p hp k pLocalPayload hlocal
                obtain rfl := Option.some.inj hp
                exact hnone k pLocalPayload (Nat.zero_le k) hlocal
              · rw [negotiatePeers_of_length hmatched.length_pos] at h
                obtain rfl := Option.some.inj h
                exact Or.inr ⟨k, j, pLocalPayload, pPeerPayload, pNegoPayload, hmatched⟩

end search

end VideoProfileNegotiator

end ImsStack.Media
