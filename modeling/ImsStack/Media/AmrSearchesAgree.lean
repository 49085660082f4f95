import ImsStack.Media.AmrSearch

/-!
The two searches for AMR select the same local payload: they go through the payloads in step, and
what the first one keeps belongs to the index that the second one keeps.
-/

namespace ImsStack.Media.AudioProfileNegotiator

open ImsStack.Platform AudioProfile

variable {bIsOfferReceived : Bool} {bReturnMode : ReturnMode}
variable {compareEvs : Nat → EvsFmtp → EvsFmtp → Bool × EvsFmtp} {strCodecName : NullString}

section compare

variable {pLocalFmtp pPeerFmtp : AmrFmtp} {nego nego' : NegoModeSets}

theorem compareCommonModes_fst
    (h : nego.modeSetList = nego'.modeSetList) :
    (compareCommonModes pLocalFmtp pPeerFmtp bReturnMode nego).1 =
      (compareCommonModes pLocalFmtp pPeerFmtp bReturnMode nego').1 := by
  unfold compareCommonModes
  rw [h]
  split_ifs <;> rfl

theorem compareCommonModes_default :
    (compareCommonModes pLocalFmtp pPeerFmtp bReturnMode nego).2.defaultRtpModeSet =
      nego.defaultRtpModeSet := by
  unfold compareCommonModes
  split_ifs <;> rfl

theorem compareModeSet_congr (h : nego.defaultRtpModeSet = nego'.defaultRtpModeSet) :
    compareModeSet bIsOfferReceived pLocalFmtp pPeerFmtp bReturnMode nego =
      compareModeSet bIsOfferReceived pLocalFmtp pPeerFmtp bReturnMode nego' := by
  unfold compareModeSet
  rw [h]

theorem compareModeSet_fst (nego nego' : NegoModeSets) :
    (compareModeSet bIsOfferReceived pLocalFmtp pPeerFmtp bReturnMode nego).1 =
      (compareModeSet bIsOfferReceived pLocalFmtp pPeerFmtp bReturnMode nego').1 := by
  unfold compareModeSet
  split_ifs <;> first | rfl | exact compareCommonModes_fst rfl

theorem compareModeSet_default
    (h : (compareModeSet bIsOfferReceived pLocalFmtp pPeerFmtp bReturnMode nego).1 ≠ .exact) :
    (compareModeSet bIsOfferReceived pLocalFmtp pPeerFmtp bReturnMode nego).2.defaultRtpModeSet =
      nego.defaultRtpModeSet := by
  unfold compareModeSet at h ⊢
  split_ifs at h ⊢ <;> first | exact compareCommonModes_default | exact absurd rfl h

/-- What is matched in the first pass is matched in the same way in the second. -/
theorem compareModeSet_of_matched
    (h : (compareModeSet bIsOfferReceived pLocalFmtp pPeerFmtp bReturnMode nego).1 ≠ .notMatched) :
    compareModeSet bIsOfferReceived pLocalFmtp pPeerFmtp bReturnMode nego =
      compareModeSet bIsOfferReceived pLocalFmtp pPeerFmtp .similar nego := by
  cases bReturnMode with
  | similar => rfl
  | matched =>
      unfold compareModeSet at h ⊢
      split_ifs at h ⊢ with hoffer hpeer hlocal hnone hboth <;> try rfl
      unfold compareCommonModes at h ⊢
      split_ifs at h ⊢ <;> first | rfl | exact absurd rfl h | contradiction

end compare

section step

variable (bIsOfferReceived bReturnMode)
variable (pPayload : Payload) (bAmrPayloadFormatRelaxedMatching : Bool)

/-- The format of a local payload that is compared with the payload of the peer. -/
def candidate (pComparedPayload : Payload) : Option AmrFmtp :=
  if isAmrName pComparedPayload.rtpMap.payloadType ∧
      pComparedPayload.rtpMap.payloadType.equalsIgnoreCase pPayload.rtpMap.payloadType ∧
      pComparedPayload.rtpMap.samplingRate = pPayload.rtpMap.samplingRate then
    pComparedPayload.amrFmtp.filter fun pCompareFmtp =>
      pPayload.amrFmtp.all fun pReceivedFmtp =>
        decide (pCompareFmtp.octetAlign = pReceivedFmtp.octetAlign) ||
          bAmrPayloadFormatRelaxedMatching
  else none

/-- The comparison with the format of the peer; a peer without one takes what the local payload
has. -/
def compareWithPeer (pCompareFmtp : AmrFmtp) (nego : NegoModeSets) : CompareResult × NegoModeSets :=
  match pPayload.amrFmtp with
  | none => (.exact, ⟨pCompareFmtp.modeSetList, pCompareFmtp.defaultRtpModeSet⟩)
  | some pReceivedFmtp =>
    compareModeSet bIsOfferReceived pCompareFmtp pReceivedFmtp bReturnMode nego

def compareCandidate (pComparedPayload : Payload) (nego : NegoModeSets) :
    CompareResult × NegoModeSets :=
  match candidate pPayload bAmrPayloadFormatRelaxedMatching pComparedPayload with
  | none => (.notMatched, nego)
  | some pCompareFmtp => compareWithPeer bIsOfferReceived bReturnMode pPayload pCompareFmtp nego

/-- How the first search goes on after a comparison. -/
def continueAfter (temp : Option NegoModeSets) (compared : CompareResult × NegoModeSets)
    (payloads : List (Option Payload)) : Bool × NegoModeSets :=
  match compared.1 with
  | .notMatched => findMatchedAmrInProfile bIsOfferReceived pPayload bReturnMode
      bAmrPayloadFormatRelaxedMatching temp compared.2 payloads
  | .similar =>
    if temp.isNone ∧ bReturnMode = .similar then
      findMatchedAmrInProfile bIsOfferReceived pPayload bReturnMode
        bAmrPayloadFormatRelaxedMatching (some compared.2) compared.2 payloads
    else findMatchedAmrInProfile bIsOfferReceived pPayload bReturnMode
      bAmrPayloadFormatRelaxedMatching temp compared.2 payloads
  | .exact => (true, compared.2)

/-- What the second search does after a comparison. -/
def stepAfter (nTempIndex : Option Nat) : CompareResult → IndexStep
  | .notMatched => .next
  | .similar => if nTempIndex.isNone ∧ bReturnMode = .similar then .keep else .next
  | .exact => .found

end step

section searches

variable {pPayload pComparedPayload : Payload} {bAmrPayloadFormatRelaxedMatching : Bool}

/-- The cases of the body of both loops: a payload that is passed over, a peer without a format, and
a comparison. -/
theorem candidate_cases (pPayload : Payload) (bAmrPayloadFormatRelaxedMatching : Bool)
    (pComparedPayload : Payload) :
    (candidate pPayload bAmrPayloadFormatRelaxedMatching pComparedPayload = none) ∨
      ∃ f, candidate pPayload bAmrPayloadFormatRelaxedMatching pComparedPayload = some f ∧
        pComparedPayload.amrFmtp = some f := by
  cases h : candidate pPayload bAmrPayloadFormatRelaxedMatching pComparedPayload with
  | none => exact .inl rfl
  | some f =>
      refine .inr ⟨f, rfl, ?_⟩
      unfold candidate at h
      split_ifs at h
      exact (Option.filter_eq_some_iff.mp h).1

theorem findMatchedAmrInProfile_cons (temp : Option NegoModeSets) (nego : NegoModeSets)
    (payloads : List (Option Payload)) :
    findMatchedAmrInProfile bIsOfferReceived pPayload bReturnMode bAmrPayloadFormatRelaxedMatching
        temp nego (some pComparedPayload :: payloads) =
      continueAfter bIsOfferReceived bReturnMode pPayload bAmrPayloadFormatRelaxedMatching temp
        (compareCandidate bIsOfferReceived bReturnMode pPayload bAmrPayloadFormatRelaxedMatching
          pComparedPayload nego) payloads := by
  conv =>
    lhs
    unfold findMatchedAmrInProfile
  unfold compareCandidate candidate compareWithPeer
  cases isAmrName pComparedPayload.rtpMap.payloadType <;>
    cases pComparedPayload.rtpMap.payloadType.equalsIgnoreCase pPayload.rtpMap.payloadType <;>
    cases pComparedPayload.amrFmtp <;> cases pPayload.amrFmtp <;>
    by_cases hrate : pComparedPayload.rtpMap.samplingRate = pPayload.rtpMap.samplingRate <;>
    simp [hrate, Option.filter, continueAfter]
  rename_i pCompareFmtp pReceivedFmtp
  rcases hcompared : compareModeSet bIsOfferReceived pCompareFmtp pReceivedFmtp bReturnMode nego
    with ⟨_ | _ | _, compared⟩ <;>
    by_cases halign : pCompareFmtp.octetAlign = pReceivedFmtp.octetAlign <;>
      cases bAmrPayloadFormatRelaxedMatching <;> simp [halign, hcompared]

theorem amrStep_eq (nTempIndex : Option Nat) (nego : NegoModeSets) :
    amrStep bIsOfferReceived bReturnMode bAmrPayloadFormatRelaxedMatching pPayload nTempIndex
        pComparedPayload =
      stepAfter bReturnMode nTempIndex
        (compareCandidate bIsOfferReceived bReturnMode pPayload bAmrPayloadFormatRelaxedMatching
          pComparedPayload nego).1 := by
  unfold amrStep compareCandidate candidate compareWithPeer
  simp only [compareModeSet_fst {} nego]
  cases isAmrName pComparedPayload.rtpMap.payloadType <;>
    cases pComparedPayload.rtpMap.payloadType.equalsIgnoreCase pPayload.rtpMap.payloadType <;>
    cases pComparedPayload.amrFmtp <;> cases pPayload.amrFmtp <;>
    by_cases hrate : pComparedPayload.rtpMap.samplingRate = pPayload.rtpMap.samplingRate <;>
    simp [hrate, Option.filter, stepAfter]
  rename_i pCompareFmtp pReceivedFmtp
  cases hresult : (compareModeSet bIsOfferReceived pCompareFmtp pReceivedFmtp bReturnMode nego).1 <;>
    by_cases halign : pCompareFmtp.octetAlign = pReceivedFmtp.octetAlign <;>
      cases bAmrPayloadFormatRelaxedMatching <;> simp [halign, hresult]

theorem compareWithPeer_congr {f : AmrFmtp} {nego nego' : NegoModeSets}
    (h : nego.defaultRtpModeSet = nego'.defaultRtpModeSet) :
    compareWithPeer bIsOfferReceived bReturnMode pPayload f nego =
      compareWithPeer bIsOfferReceived bReturnMode pPayload f nego' := by
  unfold compareWithPeer
  cases pPayload.amrFmtp with
  | none => rfl
  | some r => exact compareModeSet_congr h

theorem compareWithPeer_of_matched {f : AmrFmtp} {nego : NegoModeSets}
    (h : (compareWithPeer bIsOfferReceived bReturnMode pPayload f nego).1 ≠ .notMatched) :
    compareWithPeer bIsOfferReceived bReturnMode pPayload f nego =
      compareWithPeer bIsOfferReceived .similar pPayload f nego := by
  unfold compareWithPeer at h ⊢
  cases hpeer : pPayload.amrFmtp with
  | none => rfl
  | some r =>
      rw [hpeer] at h
      exact compareModeSet_of_matched h

variable (bIsOfferReceived bReturnMode pPayload pComparedPayload
  bAmrPayloadFormatRelaxedMatching) in
theorem compareCandidate_default (nego : NegoModeSets)
    (h : (compareCandidate bIsOfferReceived bReturnMode pPayload bAmrPayloadFormatRelaxedMatching
      pComparedPayload nego).1 ≠ .exact) :
    (compareCandidate bIsOfferReceived bReturnMode pPayload bAmrPayloadFormatRelaxedMatching
      pComparedPayload nego).2.defaultRtpModeSet = nego.defaultRtpModeSet := by
  unfold compareCandidate compareWithPeer at h ⊢
  cases hcandidate : candidate pPayload bAmrPayloadFormatRelaxedMatching pComparedPayload with
  | none => rfl
  | some f =>
      cases hpeer : pPayload.amrFmtp with
      | none =>
          rw [hcandidate, hpeer] at h
          exact absurd rfl h
      | some r =>
          rw [hcandidate, hpeer] at h
          exact compareModeSet_default h

variable (bIsOfferReceived pPayload) in
/-- The mode-sets are those of the local payload at an index. -/
def ReportsAt (pProfile : List (Option Payload)) (nego reported : NegoModeSets) (j : Nat) : Prop :=
  ∃ pLocalPayload f, pProfile[j]? = some (some pLocalPayload) ∧ pLocalPayload.amrFmtp = some f ∧
    reported = (compareWithPeer bIsOfferReceived .similar pPayload f nego).2

variable (bIsOfferReceived bReturnMode pPayload pComparedPayload
  bAmrPayloadFormatRelaxedMatching) in
theorem reportsAt_of_compareCandidate (before payloads : List (Option Payload))
    {nego nego' : NegoModeSets} (hnego : nego'.defaultRtpModeSet = nego.defaultRtpModeSet)
    (h : (compareCandidate bIsOfferReceived bReturnMode pPayload bAmrPayloadFormatRelaxedMatching
      pComparedPayload nego').1 ≠ .notMatched) :
    ReportsAt bIsOfferReceived pPayload (before ++ some pComparedPayload :: payloads) nego
      (compareCandidate bIsOfferReceived bReturnMode pPayload bAmrPayloadFormatRelaxedMatching
        pComparedPayload nego').2 before.length := by
  rcases candidate_cases pPayload bAmrPayloadFormatRelaxedMatching pComparedPayload with
    hnone | ⟨f, hsome, hfmtp⟩
  · unfold compareCandidate at h
    rw [hnone] at h
    exact absurd rfl h
  · unfold compareCandidate at h ⊢
    simp only [hsome] at h ⊢
    refine ⟨pComparedPayload, f, ?_, hfmtp, ?_⟩
    · rw [List.getElem?_append_right (Nat.le_refl _), Nat.sub_self]
      rfl
    · rw [compareWithPeer_of_matched h, compareWithPeer_congr hnego]

variable (bIsOfferReceived pPayload) in
/-- What the searches keep belongs together. -/
def Kept (pProfile : List (Option Payload)) (nego : NegoModeSets) :
    Option NegoModeSets → Option Nat → Prop
  | none, none => True
  | some reported, some j => ReportsAt bIsOfferReceived pPayload pProfile nego reported j
  | _, _ => False

variable (bIsOfferReceived pPayload) in
/-- The results of the searches belong together. -/
structure ResultsAgree (pProfile : List (Option Payload)) (nego : NegoModeSets)
    (result : Bool × NegoModeSets) (index : Option Nat) : Prop where
  found : result.1 = true →
    ∃ j, index = some j ∧ ReportsAt bIsOfferReceived pPayload pProfile nego result.2 j
  failed : result.1 = false →
    index = none ∧ result.2.defaultRtpModeSet = nego.defaultRtpModeSet

/-- The index with which a loop ends. -/
def IndexSearch.index (search : IndexSearch) : Option Nat :=
  search.returned.or search.nTempIndex

variable (bIsOfferReceived bReturnMode compareEvs strCodecName pPayload
  bAmrPayloadFormatRelaxedMatching) in
/-- How the second search goes on after a comparison. -/
def continueIndexAfter (i : Nat) (nTempIndex : Option Nat) (payloads : List (Option Payload)) :
    CompareResult → IndexSearch
  | .notMatched => indexLoop bIsOfferReceived compareEvs strCodecName bReturnMode
      bAmrPayloadFormatRelaxedMatching 0 (i + 1) nTempIndex pPayload payloads
  | .similar =>
    if nTempIndex.isNone ∧ bReturnMode = .similar then
      indexLoop bIsOfferReceived compareEvs strCodecName bReturnMode
        bAmrPayloadFormatRelaxedMatching 0 (i + 1) (some i) pPayload payloads
    else indexLoop bIsOfferReceived compareEvs strCodecName bReturnMode
      bAmrPayloadFormatRelaxedMatching 0 (i + 1) nTempIndex pPayload payloads
  | .exact => ⟨some i, nTempIndex, pPayload⟩

theorem indexLoop_cons (hname : isAmrName strCodecName = true) (i : Nat) (nTempIndex : Option Nat)
    (nego : NegoModeSets) (payloads : List (Option Payload)) :
    indexLoop bIsOfferReceived compareEvs strCodecName bReturnMode
        bAmrPayloadFormatRelaxedMatching 0 i nTempIndex pPayload
        (some pComparedPayload :: payloads) =
      continueIndexAfter bIsOfferReceived bReturnMode compareEvs strCodecName pPayload
        bAmrPayloadFormatRelaxedMatching i nTempIndex payloads
        (compareCandidate bIsOfferReceived bReturnMode pPayload bAmrPayloadFormatRelaxedMatching
          pComparedPayload nego).1 := by
  conv =>
    lhs
    unfold indexLoop
  unfold indexStep
  rw [if_pos hname, if_neg (Nat.not_succ_le_zero 0), amrStep_eq nTempIndex nego]
  cases (compareCandidate bIsOfferReceived bReturnMode pPayload bAmrPayloadFormatRelaxedMatching
      pComparedPayload nego).1 with
  | notMatched => rfl
  | exact => rfl
  | similar =>
      dsimp only [stepAfter, continueIndexAfter]
      split_ifs <;> rfl

theorem searches_in_step (hname : isAmrName strCodecName = true) {nego nego' : NegoModeSets}
    (hnego : nego'.defaultRtpModeSet = nego.defaultRtpModeSet)
    {temp : Option NegoModeSets} {nTempIndex : Option Nat} (before payloads : List (Option Payload))
    (hkept : Kept bIsOfferReceived pPayload (before ++ payloads) nego temp nTempIndex) :
    let search := indexLoop bIsOfferReceived compareEvs strCodecName bReturnMode
      bAmrPayloadFormatRelaxedMatching 0 before.length nTempIndex pPayload payloads
    search.pPeerPayload = pPayload ∧
      ResultsAgree bIsOfferReceived pPayload (before ++ payloads) nego
        (findMatchedAmrInProfile bIsOfferReceived pPayload bReturnMode
          bAmrPayloadFormatRelaxedMatching temp nego' payloads) search.index := by
  induction payloads generalizing before temp nTempIndex nego' with
  | nil =>
      refine ⟨rfl, ?_⟩
      rcases temp with _ | reported <;> rcases nTempIndex with _ | j
      · exact ⟨fun h => absurd h Bool.false_ne_true, fun _ => ⟨rfl, hnego⟩⟩
      · exact absurd hkept id
      · exact absurd hkept id
      · exact ⟨fun _ => ⟨j, rfl, hkept⟩, fun h => Bool.noConfusion h⟩
  | cons payload payloads ih =>
      have hlist : ∀ p : Option Payload, before ++ p :: payloads = before ++ [p] ++ payloads := by
        intro p
        rw [List.append_assoc, List.singleton_append]
      have hlength : ∀ p : Option Payload, before.length + 1 = (before ++ [p]).length := by
        intro p
        rw [List.length_append, List.length_singleton]
      cases payload with
      | none =>
          unfold indexLoop findMatchedAmrInProfile
          rw [hlist none] at hkept ⊢
          rw [hlength none]
          exact ih hnego (before ++ [none]) hkept
      | some pComparedPayload =>
          rw [findMatchedAmrInProfile_cons, indexLoop_cons hname _ _ nego']
          unfold continueAfter
          have hreports := reportsAt_of_compareCandidate bIsOfferReceived bReturnMode pPayload
            pComparedPayload bAmrPayloadFormatRelaxedMatching before payloads hnego
          have hdefault := compareCandidate_default bIsOfferReceived bReturnMode pPayload
            pComparedPayload bAmrPayloadFormatRelaxedMatching nego'
          rcases hcompared : compareCandidate bIsOfferReceived bReturnMode pPayload
            bAmrPayloadFormatRelaxedMatching pComparedPayload nego' with ⟨_ | _ | _, compared⟩
          · rw [hcompared] at hdefault
            have hnego' := (hdefault CompareResult.noConfusion).trans hnego
            rw [hlist] at hkept ⊢
            dsimp only [continueIndexAfter]
            rw [hlength]
            exact ih hnego' (before ++ [some pComparedPayload]) hkept
          · rw [hcompared] at hdefault hreports
            have hnego' := (hdefault CompareResult.noConfusion).trans hnego
            have hreported := hreports CompareResult.noConfusion
            rw [hlist] at hkept hreported ⊢
            dsimp only [continueIndexAfter]
            by_cases hmode : bReturnMode = .similar
            · rcases temp with _ | reported <;> rcases nTempIndex with _ | j
              · rw [if_pos ⟨rfl, hmode⟩, if_pos ⟨rfl, hmode⟩, hlength]
                exact ih hnego' (before ++ [some pComparedPayload]) hreported
              · exact absurd hkept id
              · exact absurd hkept id
              · rw [if_neg fun h => absurd h.1 Bool.false_ne_true,
                  if_neg fun h => absurd h.1 Bool.false_ne_true, hlength]
                exact ih hnego' (before ++ [some pComparedPayload]) hkept
            · rw [if_neg fun h => hmode h.2, if_neg fun h => hmode h.2, hlength]
              exact ih hnego' (before ++ [some pComparedPayload]) hkept
          · rw [hcompared] at hreports
            refine ⟨rfl, ?_⟩
            exact ⟨fun _ => ⟨before.length, rfl, hreports CompareResult.noConfusion⟩,
              fun h => Bool.noConfusion h⟩

theorem indexLoop_retry (hname : isAmrName strCodecName = true) (i : Nat) (nTempIndex : Option Nat)
    (payloads : List (Option Payload)) :
    indexLoop bIsOfferReceived compareEvs strCodecName bReturnMode
      bAmrPayloadFormatRelaxedMatching 1 i nTempIndex pPayload payloads =
      ⟨none, nTempIndex, pPayload⟩ := by
  induction payloads generalizing i with
  | nil => rfl
  | cons payload payloads ih =>
      cases payload with
      | none =>
          unfold indexLoop
          exact ih (i + 1)
      | some pComparedPayload =>
          unfold indexLoop indexStep
          rw [if_pos hname, if_pos (Nat.le_refl 1)]
          exact ih (i + 1)

/-- The index that is returned; -1 where there is none. -/
def returnedIndex (index : Option Nat) : Int :=
  match index with
  | some i => i
  | none => -1

variable (bIsOfferReceived compareEvs bReturnMode pPayload bAmrPayloadFormatRelaxedMatching) in
theorem findMatchedPayloadIndexFromProfile_eq (hname : isAmrName strCodecName = true)
    (pLocalProfile : List (Option Payload)) :
    let search := indexLoop bIsOfferReceived compareEvs strCodecName bReturnMode
      bAmrPayloadFormatRelaxedMatching 0 0 none pPayload pLocalProfile
    findMatchedPayloadIndexFromProfile bIsOfferReceived compareEvs strCodecName bReturnMode
        bAmrPayloadFormatRelaxedMatching pLocalProfile pPayload =
      (returnedIndex search.index, search.pPeerPayload) := by
  unfold findMatchedPayloadIndexFromProfile
  rcases indexLoop bIsOfferReceived compareEvs strCodecName bReturnMode
    bAmrPayloadFormatRelaxedMatching 0 0 none pPayload pLocalProfile with
    ⟨_ | i, nTempIndex, pPeerPayload⟩
  · dsimp only
    rw [indexLoop_retry hname]
    cases nTempIndex <;> rfl
  · rfl

variable (bIsOfferReceived compareEvs bReturnMode pPayload bAmrPayloadFormatRelaxedMatching) in
theorem results_agree (hname : isAmrName strCodecName = true) {nego nego' : NegoModeSets}
    (hnego : nego'.defaultRtpModeSet = nego.defaultRtpModeSet)
    (pProfile : List (Option Payload)) :
    let search := indexLoop bIsOfferReceived compareEvs strCodecName bReturnMode
      bAmrPayloadFormatRelaxedMatching 0 0 none pPayload pProfile
    search.pPeerPayload = pPayload ∧
      ResultsAgree bIsOfferReceived pPayload pProfile nego
        (findMatchedAmrInProfile bIsOfferReceived pPayload bReturnMode
          bAmrPayloadFormatRelaxedMatching none nego' pProfile) search.index :=
  searches_in_step hname hnego [] pProfile trivial

variable (bIsOfferReceived compareEvs pPayload bAmrPayloadFormatRelaxedMatching)

theorem exists_resultsAgree (pProfile : List (Option Payload)) (nego : NegoModeSets)
    (hname : isAmrName strCodecName = true) :
    ∃ index, (findPayloadIndexFromProfile bIsOfferReceived compareEvs strCodecName pProfile pPayload
        bAmrPayloadFormatRelaxedMatching).1 = returnedIndex index ∧
      ResultsAgree bIsOfferReceived pPayload pProfile nego
        (findAmrInProfile bIsOfferReceived pProfile pPayload bAmrPayloadFormatRelaxedMatching nego)
        index := by
  obtain ⟨hpeer, hmatched⟩ := results_agree bIsOfferReceived .matched compareEvs pPayload
    bAmrPayloadFormatRelaxedMatching hname (rfl : nego.defaultRtpModeSet = _) pProfile
  have hindex := fun mode => findMatchedPayloadIndexFromProfile_eq bIsOfferReceived mode compareEvs
    pPayload bAmrPayloadFormatRelaxedMatching hname
  unfold findAmrInProfile findPayloadIndexFromProfile
  dsimp only
  rw [hindex, hpeer]
  generalize (indexLoop bIsOfferReceived compareEvs strCodecName .matched
    bAmrPayloadFormatRelaxedMatching 0 0 none pPayload pProfile).index = first at hmatched ⊢
  generalize findMatchedAmrInProfile bIsOfferReceived pPayload .matched
    bAmrPayloadFormatRelaxedMatching none nego pProfile = result at hmatched ⊢
  by_cases hfound : result.1 = true
  · obtain ⟨j, rfl, -⟩ := hmatched.found hfound
    have hne : ¬returnedIndex (some j) = -1 := by
      change ¬(j : Int) = -1
      omega
    rw [if_pos hfound, if_neg hne]
    exact ⟨some j, rfl, hmatched⟩
  · obtain ⟨rfl, hdefault⟩ := hmatched.failed (Bool.eq_false_iff.mpr hfound)
    have hnone : (returnedIndex none, pPayload).1 = -1 := rfl
    rw [if_neg hfound, if_pos hnone, hindex]
    obtain ⟨-, hsimilar⟩ := results_agree bIsOfferReceived .similar compareEvs pPayload
      bAmrPayloadFormatRelaxedMatching hname hdefault pProfile
    exact ⟨_, rfl, hsimilar⟩

/-- The two searches select the same local payload, for every payload of AMR. -/
theorem searches_agree (pProfile : List (Option Payload)) (nego : NegoModeSets)
    (hname : isAmrName pPayload.rtpMap.payloadType = true) :
    let found := findAmrInProfile bIsOfferReceived pProfile pPayload
      bAmrPayloadFormatRelaxedMatching nego
    let index := (findPayloadIndexFromProfile bIsOfferReceived compareEvs
      pPayload.rtpMap.payloadType pProfile pPayload bAmrPayloadFormatRelaxedMatching).1
    (found.1 = true → ∃ (j : Nat) (pLocalPayload : Payload) (pLocalFmtp : AmrFmtp),
      index = j ∧ pProfile[j]? = some (some pLocalPayload) ∧
      pLocalPayload.amrFmtp = some pLocalFmtp ∧
      (∀ pPeerFmtp, pPayload.amrFmtp = some pPeerFmtp →
        found.2 = (compareModeSet bIsOfferReceived pLocalFmtp pPeerFmtp .similar nego).2) ∧
      (pPayload.amrFmtp = none →
        found.2 = ⟨pLocalFmtp.modeSetList, pLocalFmtp.defaultRtpModeSet⟩)) ∧
    (found.1 = false → index = -1) := by
  obtain ⟨index, hindex, hagree⟩ := exists_resultsAgree bIsOfferReceived compareEvs pPayload
    bAmrPayloadFormatRelaxedMatching pProfile nego hname
  constructor
  · intro hfound
    obtain ⟨j, rfl, pLocalPayload, f, hget, hfmtp, hreported⟩ := hagree.found hfound
    refine ⟨j, pLocalPayload, f, hindex, hget, hfmtp, ?_, ?_⟩
    · intro pPeerFmtp hpeer
      unfold compareWithPeer at hreported
      rw [hpeer] at hreported
      exact hreported
    · intro hpeer
      unfold compareWithPeer at hreported
      rw [hpeer] at hreported
      exact hreported
  · intro hfailed
    obtain ⟨rfl, -⟩ := hagree.failed hfailed
    exact hindex

/-- As `searches_agree`, but with the comparison of the mode-sets also where the peer has no format
to compare. -/
def SelectByCompareModeSet (pProfile : List (Option Payload)) (nego : NegoModeSets) : Prop :=
  let found := findAmrInProfile bIsOfferReceived pProfile pPayload
    bAmrPayloadFormatRelaxedMatching nego
  let index := (findPayloadIndexFromProfile bIsOfferReceived compareEvs
    pPayload.rtpMap.payloadType pProfile pPayload bAmrPayloadFormatRelaxedMatching).1
  found.1 = true → ∃ (j : Nat) (pLocalPayload : Payload) (pLocalFmtp pPeerFmtp : AmrFmtp),
    index = j ∧ pProfile[j]? = some (some pLocalPayload) ∧
    pLocalPayload.amrFmtp = some pLocalFmtp ∧ pPayload.amrFmtp = some pPeerFmtp ∧
    found.2 = (compareModeSet bIsOfferReceived pLocalFmtp pPeerFmtp .similar nego).2

/-- A payload of AMR-WB, with or without a format. -/
def amrWb (fmtp : Option Fmtp) : Payload where
  rtpMap := { payloadNumber := 97, payloadType := some "AMR-WB".toList, samplingRate := 16000 }
  fmtp := fmtp

/-- The searches for a payload with a format in a profile with that of another octet alignment in
front. -/
theorem searches_agree_amrWb :
    let pProfile := [some (amrWb (some (.amr { octetAlign := 1 }))),
      some (amrWb (some (.amr { modeSetList := 7 })))]
    let pPayload := amrWb (some (.amr { modeSetList := 2 }))
    (findAmrInProfile false pProfile pPayload false {}).1 = true ∧
      ∃ j : Nat, (findPayloadIndexFromProfile false (fun _ _ fmtp => (false, fmtp))
        pPayload.rtpMap.payloadType pProfile pPayload false).1 = j := by
  intro pProfile pPayload
  have hfound : (findAmrInProfile false pProfile pPayload false {}).1 = true := by decide
  have hagree := searches_agree false (fun _ _ fmtp => (false, fmtp)) pPayload false pProfile {}
    (by decide)
  obtain ⟨j, -, -, hindex, -⟩ := hagree.1 hfound
  exact ⟨hfound, j, hindex⟩

/-- The peer has no format: there is nothing that the mode-sets are compared with. -/
theorem not_selectByCompareModeSet_noFmtp :
    ¬SelectByCompareModeSet false (fun _ _ fmtp => (false, fmtp)) (amrWb none) false
      [some (amrWb (some (.amr {})))] {} := by
  intro h
  obtain ⟨-, -, -, pPeerFmtp, -, -, -, hpeer, -⟩ := h (by decide)
  cases hpeer

end searches

end ImsStack.Media.AudioProfileNegotiator
