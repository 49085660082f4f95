import ImsStack.Library.DistinctLabels
import ImsStack.Media.MatchingPayloads

/-!
A video negotiation that succeeds describes one local payload and one of the peer.
-/

namespace ImsStack.Media

open ImsStack.Platform VideoProfile Library.DistinctLabels

namespace VideoPayloadList

/-- The number of the payload at an index. -/
def numberAt (payloads : VideoPayloadList) (i : Nat) : Option Nat :=
  payloads[i]?.join.map fun payload => payload.rtpMap.payloadNumber

/-- No two payloads have the same number. -/
def HasDistinctNumbers (payloads : VideoPayloadList) : Prop := Distinct payloads.numberAt

def setPayloadNumber (payloads : VideoPayloadList) (i n : Nat) : VideoPayloadList :=
  payloads.modify i (Option.map fun payload => payload.setPayloadNumber n)

variable {payloads : VideoPayloadList} {i n : Nat}

theorem numberAt_setPayloadNumber {payload : Payload} (h : payloads[i]? = some (some payload)) :
    (payloads.setPayloadNumber i n).numberAt = Function.update payloads.numberAt i (some n) := by
  funext k
  unfold numberAt setPayloadNumber
  rw [List.getElem?_modify]
  by_cases hki : k = i
  · subst hki
    rw [Function.update_self, h]
    simp [Payload.setPayloadNumber]
  · rw [Function.update_of_ne hki]
    rcases payloads[k]? with _ | payload
    · rfl
    · simp [Ne.symm hki]

theorem HasDistinctNumbers.setPayloadNumber (hdistinct : payloads.HasDistinctNumbers)
    {payload : Payload} (h : payloads[i]? = some (some payload))
    (hfree : ∀ k, k ≠ i → payloads.numberAt k ≠ some n) :
    (payloads.setPayloadNumber i n).HasDistinctNumbers := by
  unfold HasDistinctNumbers
  rw [numberAt_setPayloadNumber h]
  exact Distinct.update hdistinct hfree

theorem hasDistinctNumbers_pair {p q : Payload}
    (h : p.rtpMap.payloadNumber ≠ q.rtpMap.payloadNumber) :
    VideoPayloadList.HasDistinctNumbers [some p, some q] := by
  intro i j n hi hj
  rcases i with _ | _ | i
  · rcases j with _ | _ | j
    · rfl
    · exact absurd ((Option.some.inj hi).trans (Option.some.inj hj).symm) h
    · cases hj
  · rcases j with _ | _ | j
    · exact absurd ((Option.some.inj hj).trans (Option.some.inj hi).symm) h
    · rfl
    · cases hj
  · cases hi

theorem getElem?_setPayloadNumber_of_ne (payloads : VideoPayloadList) {k : Nat} (hki : k ≠ i)
    (n : Nat) : (payloads.setPayloadNumber i n)[k]? = payloads[k]? :=
  List.getElem?_modify_ne _ _ hki.symm

end VideoPayloadList

namespace VideoProfileNegotiator

variable {pLocalPayload pPeerPayload pNegoPayload : Payload}

theorem IsNegotiated.of_givenResolution
    (h : IsNegotiated pLocalPayload (givenResolution pLocalPayload pPeerPayload) pNegoPayload) :
    IsNegotiated pLocalPayload pPeerPayload pNegoPayload := by
  obtain ⟨hrtpMap, pLocalFmtp, pGivenFmtp, pNegoFmtp, hlocal, hgiven, hnego, hle⟩ := h
  rw [givenResolution_rtpMap] at hrtpMap
  cases hpeer : pPeerPayload.fmtp with
  | none =>
      unfold givenResolution at hgiven
      rw [hlocal, hpeer] at hgiven
      rw [hpeer] at hgiven
      cases hgiven
  | some pPeerFmtp =>
      refine ⟨hrtpMap, pLocalFmtp, pPeerFmtp, pNegoFmtp, hlocal, hpeer, hnego, ?_⟩
      unfold givenResolution at hgiven
      rw [hlocal, hpeer] at hgiven
      dsimp only at hgiven
      split at hgiven
      · rw [fmtp_setResolution hpeer] at hgiven
        obtain rfl := Option.some.inj hgiven
        exact hle
      · obtain rfl := Option.some.inj (hpeer.symm.trans hgiven)
        exact hle

theorem IsNegotiated.negotiateRtcpFb (h : IsNegotiated pLocalPayload pPeerPayload pNegoPayload)
    (supportAvpf : Bool) (lastLocal lastPeer : Option Payload) :
    IsNegotiated pLocalPayload pPeerPayload
      (negotiateRtcpFb supportAvpf lastLocal lastPeer pNegoPayload) := by
  have hsame : (VideoProfileNegotiator.negotiateRtcpFb supportAvpf lastLocal lastPeer
        pNegoPayload).rtpMap = pNegoPayload.rtpMap ∧
      (VideoProfileNegotiator.negotiateRtcpFb supportAvpf lastLocal lastPeer pNegoPayload).fmtp =
        pNegoPayload.fmtp := by
    unfold VideoProfileNegotiator.negotiateRtcpFb
    split
    · split <;> exact ⟨rfl, rfl⟩
    · exact ⟨rfl, rfl⟩
  obtain ⟨hrtpMap, hlevel⟩ := h
  refine ⟨hsame.1.trans hrtpMap, ?_⟩
  rw [hsame.2]
  exact hlevel

theorem SameCodec.isKnown (h : SameCodec pLocalPayload pPeerPayload) :
    pLocalPayload.isAvc = true ∨ pLocalPayload.isHevc = true :=
  h.1.imp And.right And.right

theorem Matches.sameCodec {pLocalProfile : VideoPayloadList} {i : Nat}
    (h : Matches pLocalProfile i pLocalPayload pPeerPayload) :
    SameCodec pLocalPayload pPeerPayload := by
  obtain ⟨pLocalFmtp, pPeerFmtp, hlocal, hpeer, ⟨hboth, -⟩ | ⟨hboth, -⟩⟩ := h
  · exact sameCodec_of_bothAvc hboth hlocal hpeer
  · exact sameCodec_of_bothHevc hboth hlocal hpeer

section settle

variable {bIsOfferReceived : Bool} {pLocalProfile pPeerProfile pNegotiatedProfile : VideoProfile}
  {nNegotiatedMaxFrameRate : Int} {search : Search} {result : NegotiatedVideo} {i j : Nat}

theorem numberedLocalProfile_index (htemp : search.temp = some ⟨i, j⟩)
    (hindex : pPeerProfile.negotiatedPayloadIndex = -1) :
    (numberedLocalProfile bIsOfferReceived pLocalProfile pPeerProfile
      search).negotiatedPayloadIndex = i := by
  unfold numberedLocalProfile
  rw [if_pos hindex, htemp]
  dsimp only
  split
  · unfold negotiatePayloadNumber
    split
    · rfl
    · split <;> rfl
  · rfl

/-- In the MT case, the local payload takes the number of the last payload of the peer that has been
looked at. -/
theorem numberedLocalProfile_of_peer (htemp : search.temp = some ⟨i, j⟩)
    (hindex : pPeerProfile.negotiatedPayloadIndex = -1)
    (hpeer : search.pPeerPayload = some pPeerPayload) :
    (numberedLocalProfile true pLocalProfile pPeerProfile search).payloads =
      pLocalProfile.payloads.setPayloadNumber i pPeerPayload.rtpMap.payloadNumber := by
  unfold numberedLocalProfile
  rw [if_pos hindex, htemp, hpeer]
  have hne : (i : Int) ≠ -1 := by omega
  unfold negotiatePayloadNumber
  dsimp only [Option.map_some, Option.getD_some]
  rw [if_pos rfl, if_pos hne]
  rfl

theorem numberedLocalProfile_of_index (hindex : pPeerProfile.negotiatedPayloadIndex ≠ -1) :
    numberedLocalProfile bIsOfferReceived pLocalProfile pPeerProfile search = pLocalProfile := by
  unfold numberedLocalProfile
  rw [if_neg hindex]

theorem numberedLocalProfile_answer :
    (numberedLocalProfile false pLocalProfile pPeerProfile search).payloads =
      pLocalProfile.payloads := by
  unfold numberedLocalProfile
  split
  · rfl
  · rfl

theorem numberedLocalProfile_others (htemp : search.temp = some ⟨i, j⟩) {k : Nat} (hk : k ≠ i) :
    (numberedLocalProfile bIsOfferReceived pLocalProfile pPeerProfile search).payloads[k]? =
      pLocalProfile.payloads[k]? := by
  by_cases hindex : pPeerProfile.negotiatedPayloadIndex = -1
  · cases bIsOfferReceived with
    | false => rw [numberedLocalProfile_answer]
    | true =>
        cases hpeer : search.pPeerPayload with
        | none =>
            unfold numberedLocalProfile
            rw [if_pos hindex, hpeer]
            rfl
        | some pPeerPayload =>
            rw [numberedLocalProfile_of_peer htemp hindex hpeer]
            exact VideoPayloadList.getElem?_setPayloadNumber_of_ne _ hk _
  · rw [numberedLocalProfile_of_index hindex]

theorem concludePayload_spec (hnego : pNegotiatedProfile.payloads = [some pNegoPayload])
    (h : concludePayload bIsOfferReceived pLocalProfile pPeerProfile nNegotiatedMaxFrameRate search
      pNegotiatedProfile = some result) :
    result.pNegotiatedProfile.payloads = [some (negotiateRtcpFb pNegotiatedProfile.supportAvpf
      search.pLocalPayload search.pPeerPayload pNegoPayload)] ∧
    result.pLocalProfile =
      numberedLocalProfile bIsOfferReceived pLocalProfile pPeerProfile search ∧
    result.pPeerProfile = indexedPeerProfile pPeerProfile search := by
  have hat : pNegotiatedProfile.payloadAt 0 = some pNegoPayload := by
    unfold VideoProfile.payloadAt
    rw [hnego]
    rfl
  unfold concludePayload at h
  rw [hat, hnego] at h
  obtain rfl := Option.some.inj h
  exact ⟨rfl, rfl, rfl⟩

theorem addPayload_of_empty (hempty : pNegotiatedProfile.payloads = []) (pNegoPayload : Payload) :
    (pNegotiatedProfile.addPayload pNegoPayload).payloads = [some pNegoPayload] := by
  unfold VideoProfile.addPayload
  rw [hempty]
  rfl

theorem makeKeptPayload_spec (hlocal : pLocalProfile.payloads[i]? = some (some pLocalPayload))
    (hpeer : search.peerPayloads[j]? = some (some pPeerPayload)) :
    makeKeptPayload pLocalProfile search ⟨i, j⟩ =
      (makeNegotiatedPayload pLocalPayload pPeerPayload).map some := by
  unfold makeKeptPayload VideoProfile.payloadAt
  dsimp only
  rw [hlocal, hpeer]
  rfl

end settle

/-- A negotiation describes the local payload at `i` and the one of the peer at `j`. -/
structure DescribesPair (bIsOfferReceived : Bool) (pLocalProfile pPeerProfile : VideoProfile)
    (result : NegotiatedVideo) (i j : Nat) (pLocalPayload pPeerPayload pNegoPayload : Payload) :
    Prop where
  localAt : pLocalProfile.payloads[i]? = some (some pLocalPayload)
  peerAt : pPeerProfile.payloads[j]? = some (some pPeerPayload)
  sameCodec : SameCodec pLocalPayload pPeerPayload
  negotiated : result.pNegotiatedProfile.payloads = [some pNegoPayload]
  isNegotiated : IsNegotiated pLocalPayload pPeerPayload pNegoPayload
  indices : pPeerProfile.negotiatedPayloadIndex = -1 →
    result.pLocalProfile.negotiatedPayloadIndex = i ∧ result.pPeerProfile.negotiatedPayloadIndex = j
  otherLocals : ∀ k, k ≠ i → result.pLocalProfile.payloads[k]? = pLocalProfile.payloads[k]?
  answer : bIsOfferReceived = false → result.pLocalProfile.payloads = pLocalProfile.payloads

/-- Where the two match, the local payload takes the number of the other one in the MT case. -/
structure DescribesMatch (bIsOfferReceived : Bool) (pLocalProfile pPeerProfile : VideoProfile)
    (result : NegotiatedVideo) (i j : Nat) (pLocalPayload pPeerPayload : Payload) : Prop where
  isMatch : Matches pLocalProfile.payloads i pLocalPayload pPeerPayload
  renumbered : bIsOfferReceived = true → pPeerProfile.negotiatedPayloadIndex = -1 →
    result.pLocalProfile.payloads =
      pLocalProfile.payloads.setPayloadNumber i pPeerPayload.rtpMap.payloadNumber
  distinct : pLocalProfile.payloads.HasDistinctNumbers →
    (∀ k, k ≠ i → pLocalProfile.payloads.numberAt k ≠ some pPeerPayload.rtpMap.payloadNumber) →
    result.pLocalProfile.payloads.HasDistinctNumbers
  peerPayloads : result.pPeerProfile.payloads =
    pPeerProfile.payloads.set j (some (givenResolution pLocalPayload pPeerPayload))

/-- No payloads of the two profiles match. -/
def NoneMatches (pLocalPayloads pPeerPayloads : VideoPayloadList) : Prop :=
  ∀ (j : Nat) pPeerPayload, pPeerPayloads[j]? = some (some pPeerPayload) →
    ∀ (i : Nat) pLocalPayload, pLocalPayloads[i]? = some (some pLocalPayload) →
      ¬Matches pLocalPayloads i pLocalPayload pPeerPayload

section negotiate

variable {bIsOfferReceived : Bool} {pLocalProfile pPeerProfile pNegotiatedProfile : VideoProfile}
  {nNegotiatedMaxFrameRate : Int} {search : Search} {result : NegotiatedVideo} {i j : Nat}

theorem describesPair_of_conclude {pMadeProfile : VideoProfile} {pGivenPayload : Payload}
    (hlocal : pLocalProfile.payloads[i]? = some (some pLocalPayload))
    (hpeer : pPeerProfile.payloads[j]? = some (some pPeerPayload))
    (hcodec : SameCodec pLocalPayload pPeerPayload) (htemp : search.temp = some ⟨i, j⟩)
    (hgiven : makeNegotiatedPayload pLocalPayload pGivenPayload = some pNegoPayload)
    (hisNegotiated : IsNegotiated pLocalPayload pGivenPayload pNegoPayload →
      IsNegotiated pLocalPayload pPeerPayload pNegoPayload)
    (hmade : pMadeProfile.payloads = [some pNegoPayload])
    (h : concludePayload bIsOfferReceived pLocalProfile pPeerProfile nNegotiatedMaxFrameRate search
      pMadeProfile = some result) :
    ∃ pNegoPayload, DescribesPair bIsOfferReceived pLocalProfile pPeerProfile result i j
      pLocalPayload pPeerPayload pNegoPayload := by
  obtain ⟨hnego, hlocalProfile, hpeerProfile⟩ := concludePayload_spec hmade h
  refine ⟨_, hlocal, hpeer, hcodec, hnego, ?_, ?_, ?_, ?_⟩
  · exact (hisNegotiated (makeNegotiatedPayload_spec hcodec.isKnown hgiven)).negotiateRtcpFb _ _ _
  · intro hindex
    rw [hlocalProfile, hpeerProfile]
    refine ⟨numberedLocalProfile_index htemp hindex, ?_⟩
    unfold indexedPeerProfile
    rw [htemp, if_pos hindex]
    rfl
  · intro k hk
    rw [hlocalProfile]
    exact numberedLocalProfile_others htemp hk
  · intro hoffer
    subst hoffer
    rw [hlocalProfile]
    exact numberedLocalProfile_answer

theorem describesMatch_of_conclude {pMadeProfile : VideoProfile}
    (hmatched : MatchedAt pLocalProfile.payloads pPeerProfile.payloads pNegotiatedProfile search i j
      pLocalPayload pPeerPayload pNegoPayload)
    (hmade : pMadeProfile.payloads = [some pNegoPayload])
    (h : concludePayload bIsOfferReceived pLocalProfile pPeerProfile nNegotiatedMaxFrameRate search
      pMadeProfile = some result) :
    DescribesMatch bIsOfferReceived pLocalProfile pPeerProfile result i j pLocalPayload
      pPeerPayload := by
  obtain ⟨-, hlocalProfile, hpeerProfile⟩ := concludePayload_spec hmade h
  have hrenumbered : bIsOfferReceived = true → pPeerProfile.negotiatedPayloadIndex = -1 →
      result.pLocalProfile.payloads =
        pLocalProfile.payloads.setPayloadNumber i pPeerPayload.rtpMap.payloadNumber := by
    intro hoffer hindex
    subst hoffer
    rw [hlocalProfile, numberedLocalProfile_of_peer hmatched.temp hindex hmatched.lastPeer,
      givenResolution_rtpMap]
  refine ⟨hmatched.isMatch, hrenumbered, ?_, ?_⟩
  · intro hdistinct hfree
    by_cases hindex : pPeerProfile.negotiatedPayloadIndex = -1
    · cases hoffer : bIsOfferReceived with
      | true =>
          rw [hrenumbered hoffer hindex]
          exact hdistinct.setPayloadNumber hmatched.localAt hfree
      | false =>
          subst hoffer
          rw [hlocalProfile, numberedLocalProfile_answer]
          exact hdistinct
    · rw [hlocalProfile, numberedLocalProfile_of_index hindex]
      exact hdistinct
  · rw [hpeerProfile]
    exact hmatched.peerPayloads

variable (bIsOfferReceived pLocalProfile pPeerProfile pNegotiatedProfile nNegotiatedMaxFrameRate)

/-- A negotiation that succeeds with an empty profile describes a pair that matches, or one of the
same codec where none does. -/
theorem negotiatePayload_describes (hempty : pNegotiatedProfile.payloads = [])
    (h : negotiatePayload bIsOfferReceived pLocalProfile pPeerProfile nNegotiatedMaxFrameRate
      pNegotiatedProfile = some result) (hresult : result.negotiated = true) :
    ∃ i j pLocalPayload pPeerPayload pNegoPayload,
      DescribesPair bIsOfferReceived pLocalProfile pPeerProfile result i j pLocalPayload
        pPeerPayload pNegoPayload ∧
      (DescribesMatch bIsOfferReceived pLocalProfile pPeerProfile result i j pLocalPayload
        pPeerPayload ∨
      NoneMatches pLocalProfile.payloads pPeerProfile.payloads ∧
        result.pPeerProfile.payloads = pPeerProfile.payloads) := by
  unfold negotiatePayload at h
  cases hpeers : negotiatePeers pLocalProfile.payloads 0 pPeerProfile.payloads
      { peerPayloads := pPeerProfile.payloads, pNegotiatedProfile } with
  | none =>
      rw [hpeers] at h
      cases h
  | some search =>
      rw [hpeers] at h
      dsimp only at h
      unfold settlePayload at h
      have hstart : Unmatched pLocalProfile.payloads pPeerProfile.payloads pNegotiatedProfile
          { peerPayloads := pPeerProfile.payloads, pNegotiatedProfile } := by
        refine ⟨rfl, rfl, ?_⟩
        intro pair hpair
        cases hpair
      rcases negotiatePeers_spec hempty rfl hstart hpeers with
        ⟨hunmatched, hnone⟩ | ⟨i, j, pLocalPayload, pPeerPayload, pNegoPayload, hmatched⟩
      · have hlength : ¬search.pNegotiatedProfile.payloads.length > 0 := by
          rw [hunmatched.pNegotiatedProfile, hempty]
          exact Nat.lt_irrefl 0
        rw [if_neg hlength] at h
        cases htemp : search.temp with
        | none =>
            rw [htemp] at h
            obtain rfl := Option.some.inj h
            cases hresult
        | some pair =>
            obtain ⟨pLocalPayload, pPeerPayload, hlocal, hpeer, hcodec⟩ :=
              hunmatched.temp pair htemp
            have hkept : makeKeptPayload pLocalProfile search pair =
                (makeNegotiatedPayload pLocalPayload pPeerPayload).map some :=
              makeKeptPayload_spec hlocal (hunmatched.peerPayloads.symm ▸ hpeer)
            rw [htemp] at h
            dsimp only at h
            cases hmade : makeNegotiatedPayload pLocalPayload pPeerPayload with
            | none =>
                rw [hmade] at hkept
                rw [hkept] at h
                cases h
            | some pNegoPayload =>
                rw [hmade] at hkept
                rw [hkept] at h
                dsimp only [Option.map_some] at h
                have hadded : { search.pNegotiatedProfile.addPayload pNegoPayload with
                    negotiatedPayloadIndex := 0 : VideoProfile }.payloads = [some pNegoPayload] :=
                  addPayload_of_empty (hunmatched.pNegotiatedProfile.symm ▸ hempty) pNegoPayload
                obtain ⟨pNegoPayload, hdescribes⟩ := describesPair_of_conclude hlocal hpeer hcodec
                  htemp hmade id hadded h
                refine ⟨pair.nLocalIndex, pair.nPeerIndex, pLocalPayload, pPeerPayload, pNegoPayload,
                  hdescribes, Or.inr ⟨?_, ?_⟩⟩
                · exact fun j pPeerPayload hpeer => hnone j pPeerPayload (Nat.zero_le j) hpeer
                · rw [(concludePayload_spec hadded h).2.2]
                  exact hunmatched.peerPayloads
      · rw [if_pos hmatched.length_pos] at h
        have hadded : search.pNegotiatedProfile.payloads = [some pNegoPayload] := by
          rw [hmatched.pNegotiatedProfile]
          exact addPayload_of_empty hempty pNegoPayload
        obtain ⟨pNegoPayload', hdescribes⟩ := describesPair_of_conclude hmatched.localAt
          hmatched.peerAt hmatched.isMatch.sameCodec hmatched.temp hmatched.negotiated
          IsNegotiated.of_givenResolution hadded h
        exact ⟨i, j, pLocalPayload, pPeerPayload, pNegoPayload', hdescribes,
          Or.inl (describesMatch_of_conclude hmatched hadded h)⟩

end negotiate

/-- The two formats have the same profile. -/
def SameProfile (pLocalPayload pPeerPayload : Payload) : Prop :=
  ∀ pLocalFmtp pPeerFmtp, pLocalPayload.fmtp = some pLocalFmtp →
    pPeerPayload.fmtp = some pPeerFmtp → pLocalFmtp.profile = pPeerFmtp.profile

/-- A feedback that the negotiated payload supports is one that both payloads do. -/
def FeedbackOfBoth (pLocalPayload pPeerPayload pNegoPayload : Payload) : Prop :=
  ∀ supported ∈ [RtcpFbAttributes.trrSupported, RtcpFbAttributes.nackSupported,
      RtcpFbAttributes.tmmbrSupported, RtcpFbAttributes.pliSupported,
      RtcpFbAttributes.firSupported],
    supported pNegoPayload.rtcpFbAttr = true →
      supported pLocalPayload.rtcpFbAttr = true ∧ supported pPeerPayload.rtcpFbAttr = true

/-- As `negotiatePayload_describes`, but the pair is of one profile, the negotiated payload supports
what both do, the local numbers stay distinct, and the peer keeps its payloads. -/
def DescribesOnePair (bIsOfferReceived : Bool)
    (pLocalProfile pPeerProfile pNegotiatedProfile : VideoProfile)
    (nNegotiatedMaxFrameRate : Int) : Prop :=
  ∀ result, negotiatePayload bIsOfferReceived pLocalProfile pPeerProfile nNegotiatedMaxFrameRate
      pNegotiatedProfile = some result → result.negotiated = true →
    ∃ i j pLocalPayload pPeerPayload pNegoPayload,
      DescribesPair bIsOfferReceived pLocalProfile pPeerProfile result i j pLocalPayload
        pPeerPayload pNegoPayload ∧
      SameProfile pLocalPayload pPeerPayload ∧
      FeedbackOfBoth pLocalPayload pPeerPayload pNegoPayload ∧
      (bIsOfferReceived = true → pLocalProfile.payloads.HasDistinctNumbers →
        result.pLocalProfile.payloads =
          pLocalProfile.payloads.setPayloadNumber i pPeerPayload.rtpMap.payloadNumber ∧
        result.pLocalProfile.payloads.HasDistinctNumbers) ∧
      result.pPeerProfile.payloads = pPeerProfile.payloads

/-- A payload of a codec with a number, a profile, a level and a resolution. -/
def video (name : String) (number : Nat) (profile level : Int) (resolution : VideoResolution)
    (nack : Bool) : Payload where
  rtpMap := { payloadNumber := number, payloadType := some name.toList, samplingRate := 90000 }
  fmtp := some { profile := profile, level := level, resolution := resolution }
  rtcpFbAttr := { nackSupported := nack }

def profileOf (payloads : List Payload) : VideoProfile :=
  { payloads := payloads.map some, supportAvpf := true }

/-- An offer with the resolution of the second local payload. -/
def offeredVga : VideoProfile :=
  profileOf [video "H264" 98 1 30 .vgaLs true]

def localQvgaVga : VideoProfile :=
  profileOf [video "H264" 97 1 31 .qvgaLs true, video "H264" 102 1 31 .vgaLs true]

theorem negotiatePayload_describes_vga :
    ∃ result, negotiatePayload true localQvgaVga offeredVga 0 {} = some result ∧
      result.negotiated = true ∧
      ∃ i j pLocalPayload pPeerPayload pNegoPayload,
        DescribesPair true localQvgaVga offeredVga result i j pLocalPayload pPeerPayload
          pNegoPayload ∧
        (DescribesMatch true localQvgaVga offeredVga result i j pLocalPayload pPeerPayload ∨
        NoneMatches localQvgaVga.payloads offeredVga.payloads ∧
          result.pPeerProfile.payloads = offeredVga.payloads) :=
  ⟨_, rfl, rfl, negotiatePayload_describes true localQvgaVga offeredVga {} 0 rfl rfl rfl⟩

theorem getElem?_singleton {α : Type} {a b : α} {i : Nat} (h : [a][i]? = some b) : a = b := by
  obtain ⟨hlt, heq⟩ := List.getElem?_eq_some_iff.mp h
  cases i with
  | zero => exact heq
  | succ i => exact absurd (Nat.lt_of_succ_lt_succ hlt) (Nat.not_lt_zero i)

/-- The pair is kept though the profiles differ; the local payload supports a feedback that the
other one does not; another local payload has the number of the peer; the peer has no
resolution. -/
theorem not_describesOnePair :
    ¬DescribesOnePair true (profileOf [video "H264" 97 1 31 .vgaLs true])
      (profileOf [video "H264" 98 2 31 .vgaLs true]) {} 0 ∧
    ¬DescribesOnePair true (profileOf [video "H264" 97 1 31 .vgaLs true])
      (profileOf [video "H264" 98 1 31 .vgaLs false]) {} 0 ∧
    ¬DescribesOnePair true
      (profileOf [video "H264" 97 1 31 .vgaLs true, video "H265" 98 1 31 .vgaLs true])
      (profileOf [video "H264" 98 1 31 .vgaLs true]) {} 0 ∧
    ¬DescribesOnePair true (profileOf [video "H265" 97 1 31 .vgaLs true])
      (profileOf [video "H265" 98 1 31 .notUsed true]) {} 0 := by
  refine ⟨?_, ?_, ?_, ?_⟩
  · intro h
    obtain ⟨i, j, pLocalPayload, pPeerPayload, pNegoPayload, hpair, hprofile, -⟩ := h _ rfl rfl
    obtain rfl := Option.some.inj (getElem?_singleton hpair.localAt)
    obtain rfl := Option.some.inj (getElem?_singleton hpair.peerAt)
    exact absurd (hprofile _ _ rfl rfl) (by decide)
  · intro h
    obtain ⟨i, j, pLocalPayload, pPeerPayload, pNegoPayload, hpair, -, hfeedback, -⟩ := h _ rfl rfl
    obtain rfl := Option.some.inj (getElem?_singleton hpair.localAt)
    obtain rfl := Option.some.inj (getElem?_singleton hpair.peerAt)
    obtain rfl := Option.some.inj (List.cons.inj hpair.negotiated).1
    have hnack := hfeedback RtcpFbAttributes.nackSupported (by simp) rfl
    exact absurd hnack.2 (by decide)
  · intro h
    obtain ⟨i, j, pLocalPayload, pPeerPayload, pNegoPayload, -, -, -, hnumbers, -⟩ := h _ rfl rfl
    have hdistinct := (hnumbers rfl (VideoPayloadList.hasDistinctNumbers_pair (by decide))).2
    exact absurd (hdistinct 0 1 98 rfl rfl) (by decide)
  · intro h
    obtain ⟨i, j, pLocalPayload, pPeerPayload, pNegoPayload, -, -, -, -, hpeer⟩ := h _ rfl rfl
    have hresolution := congrArg (fun payloads : VideoPayloadList =>
      payloads.map (Option.map fun payload => payload.fmtp.map VideoFmtp.resolution)) hpeer
    exact absurd hresolution (by decide)

end VideoProfileNegotiator

end ImsStack.Media
