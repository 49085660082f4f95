import ImsStack.Library.DistinctLabels
import ImsStack.Media.PayloadNumbers
import Mathlib.Tactic.ByContra
import Mathlib.Tactic.Tauto

/-!
The local payloads behind a negotiation: their numbers stay distinct, and each counterpart of a
negotiated payload has its number.
-/

namespace ImsStack.Media

open ImsStack.Platform AudioProfile Library.DistinctLabels

namespace PayloadList

variable {payloads : PayloadList} {k n : Nat}

/-- No two payloads have the same number. -/
def HasDistinctNumbers (payloads : PayloadList) : Prop := Distinct payloads.numberAt

theorem exists_of_numberAt {i : Nat} (h : payloads.numberAt i = some n) :
    ∃ payload, payloads[i]? = some (some payload) ∧ payload.rtpMap.payloadNumber = n := by
  unfold numberAt at h
  rcases hget : payloads[i]? with _ | _ | payload
  · rw [hget] at h
    cases h
  · rw [hget] at h
    cases h
  · rw [hget] at h
    exact ⟨payload, rfl, Option.some.inj h⟩

theorem hasDistinctNumbers_of_pairwise (h : payloads.Pairwise fun a b =>
    ∀ p ∈ a, ∀ q ∈ b, p.rtpMap.payloadNumber ≠ q.rtpMap.payloadNumber) :
    payloads.HasDistinctNumbers := by
  have hlt : ∀ {i j n : Nat}, i < j → payloads.numberAt i = some n →
      payloads.numberAt j ≠ some n := by
    intro i j n hij hi hj
    obtain ⟨p, hp, hpn⟩ := exists_of_numberAt hi
    obtain ⟨q, hq, hqn⟩ := exists_of_numberAt hj
    obtain ⟨hi', hp'⟩ := List.getElem?_eq_some_iff.mp hp
    obtain ⟨hj', hq'⟩ := List.getElem?_eq_some_iff.mp hq
    exact List.pairwise_iff_getElem.mp h i j hi' hj' hij p hp' q hq' (hpn.trans hqn.symm)
  intro i j n hi hj
  rcases Nat.lt_trichotomy i j with hij | hij | hij
  · exact absurd hj (hlt hij hi)
  · exact hij
  · exact absurd hi (hlt hij hj)

/-- What the change of a number leaves. -/
def withoutNumbers (payloads : PayloadList) : PayloadList :=
  payloads.map (Option.map fun payload =>
    { payload with rtpMap := { payload.rtpMap with payloadNumber := 0 } })

theorem numberAt_setPayloadNumber (h : payloads.numberAt k ≠ none) :
    (payloads.setPayloadNumber k n).numberAt = Function.update payloads.numberAt k (some n) := by
  funext i
  unfold numberAt setPayloadNumber at *
  rw [List.getElem?_modify]
  by_cases hik : i = k
  · subst hik
    rw [Function.update_self]
    rcases hget : payloads[i]? with _ | _ | payload
    · rw [hget] at h
      exact absurd rfl h
    · rw [hget] at h
      exact absurd rfl h
    · simp
  · rw [Function.update_of_ne hik]
    rcases payloads[i]? with _ | payload
    · rfl
    · simp [Ne.symm hik]

theorem withoutNumbers_setPayloadNumber (payloads : PayloadList) (k n : Nat) :
    (payloads.setPayloadNumber k n).withoutNumbers = payloads.withoutNumbers := by
  unfold withoutNumbers setPayloadNumber
  induction payloads generalizing k with
  | nil => cases k <;> rfl
  | cons payload payloads ih =>
      cases k with
      | zero => cases payload <;> rfl
      | succ k =>
          rw [List.modify_succ_cons, List.map_cons, List.map_cons, ih]

theorem findPayload_setPayloadNumber (payloads : PayloadList) (k n : Nat)
    (strPayloadType : NullString) (nSamplingRate : Nat) :
    (payloads.setPayloadNumber k n).findPayload strPayloadType nSamplingRate =
      payloads.findPayload strPayloadType nSamplingRate := by
  unfold findPayload setPayloadNumber
  induction payloads generalizing k with
  | nil => cases k <;> rfl
  | cons payload payloads ih =>
      cases k with
      | zero =>
          rw [List.modify_zero_cons, List.findIdx?_cons, List.findIdx?_cons]
          cases payload <;> rfl
      | succ k =>
          rw [List.modify_succ_cons, List.findIdx?_cons, List.findIdx?_cons, ih]

theorem isPayloadNumberUsed_iff : payloads.isPayloadNumberUsed n = true ↔
    ∃ i, payloads.numberAt i = some n := by
  unfold isPayloadNumberUsed numberAt
  rw [List.any_eq_true]
  constructor
  · rintro ⟨_ | payload, hmem, hused⟩
    · cases hused
    · obtain ⟨i, hi⟩ := List.mem_iff_getElem?.mp hmem
      refine ⟨i, ?_⟩
      rw [hi]
      exact congrArg some (beq_iff_eq.mp hused)
  · rintro ⟨i, hi⟩
    rcases hget : payloads[i]? with _ | _ | payload
    · rw [hget] at hi
      cases hi
    · rw [hget] at hi
      cases hi
    · rw [hget] at hi
      exact ⟨some payload, List.mem_of_getElem? hget, beq_iff_eq.mpr (Option.some.inj hi)⟩

theorem freeDynamicNumber_spec (h : payloads.freeDynamicNumber = some n) :
    96 ≤ n ∧ n ≤ 127 ∧ ∀ i, payloads.numberAt i ≠ some n := by
  unfold freeDynamicNumber at h
  have hmem := List.mem_of_find?_eq_some h
  have hfree := List.find?_some h
  rw [List.mem_range'_1] at hmem
  refine ⟨hmem.1, by omega, ?_⟩
  intro i hi
  rw [isPayloadNumberUsed_iff.mpr ⟨i, hi⟩] at hfree
  cases hfree

theorem numberAt_of_findPayload {strPayloadType : NullString} {nSamplingRate : Nat}
    (h : payloads.findPayload strPayloadType nSamplingRate = some k) :
    payloads.numberAt k ≠ none := by
  obtain ⟨hlt, hfound, -⟩ := List.findIdx?_eq_some_iff_getElem.mp h
  unfold numberAt
  rw [List.getElem?_eq_getElem hlt]
  cases hpayload : payloads[k] with
  | none =>
      rw [hpayload] at hfound
      cases hfound
  | some payload => exact Option.some_ne_none _

end PayloadList

namespace AudioProfileNegotiator

open PayloadList

variable {payloads : PayloadList} {nNewPayloadNum nLocalPayloadIndex : Nat}

theorem resolveCollisions_of_free
    (h : ∀ j, j ≠ nLocalPayloadIndex → payloads.numberAt j ≠ some nNewPayloadNum) (count k : Nat) :
    resolveCollisions nNewPayloadNum nLocalPayloadIndex count k payloads = (true, payloads) := by
  induction count generalizing k with
  | zero => rfl
  | succ count ih =>
      unfold resolveCollisions
      rw [if_neg fun hk => h k hk.2 hk.1, ih]

/-- The payload at an index is moved to a number, if there is one. -/
def moveCollision (payloads : PayloadList) (j : Nat) : Option Nat → Bool × PayloadList
  | none => (false, payloads)
  | some nDynamicPt => (true, payloads.setPayloadNumber j nDynamicPt)

/-- Where a payload has it, that one is moved to a free number, if there is one. -/
theorem resolveCollisions_of_collision (hdistinct : payloads.HasDistinctNumbers) {j : Nat}
    (hj : payloads.numberAt j = some nNewPayloadNum) (hne : j ≠ nLocalPayloadIndex) {count k : Nat}
    (hk : k ≤ j) (hcount : j < k + count) :
    resolveCollisions nNewPayloadNum nLocalPayloadIndex count k payloads =
      moveCollision payloads j payloads.freeDynamicNumber := by
  induction count generalizing k with
  | zero => omega
  | succ count ih =>
      unfold resolveCollisions
      rcases Nat.eq_or_lt_of_le hk with rfl | hlt
      · rw [if_pos ⟨hj, hne⟩]
        cases hfree : payloads.freeDynamicNumber with
        | none => rfl
        | some nDynamicPt =>
            apply resolveCollisions_of_free
            intro i hi
            obtain ⟨-, -, hunused⟩ := freeDynamicNumber_spec hfree
            rw [numberAt_setPayloadNumber (hj ▸ Option.some_ne_none _)]
            by_cases hik : i = k
            · subst hik
              rw [Function.update_self]
              intro heq
              exact hunused i (hj.trans heq.symm)
            · rw [Function.update_of_ne hik]
              exact hdistinct.ne_of_ne hj hik
      · have hother : payloads.numberAt k ≠ some nNewPayloadNum :=
          hdistinct.ne_of_ne hj (Nat.ne_of_lt hlt)
        rw [if_neg fun h => hother h.1]
        exact ih hlt (by omega)

/-- A local profile before and behind the loop over negotiated payloads: the numbers are distinct,
each counterpart has the negotiated number, and any other payload keeps its number or, where it
collided with that of a counterpart, has got a dynamic one. -/
structure Renumbered (pLocalProfile : PayloadList) (negotiated : List RtpMap)
    (pLocalProfile' : PayloadList) : Prop where
  distinct : pLocalProfile'.HasDistinctNumbers
  withoutNumbers : pLocalProfile'.withoutNumbers = pLocalProfile.withoutNumbers
  counterpart : ∀ g ∈ negotiated, ∀ c,
    pLocalProfile.findPayload g.payloadType g.samplingRate = some c →
    pLocalProfile'.numberAt c = some g.payloadNumber
  others : ∀ j, (∀ g ∈ negotiated,
      pLocalProfile.findPayload g.payloadType g.samplingRate ≠ some j) →
    pLocalProfile'.numberAt j = pLocalProfile.numberAt j ∨
      (∃ g ∈ negotiated, pLocalProfile.findPayload g.payloadType g.samplingRate ≠ none ∧
        pLocalProfile.numberAt j = some g.payloadNumber) ∧
      ∃ n, 96 ≤ n ∧ n ≤ 127 ∧ pLocalProfile'.numberAt j = some n

/-- A change of numbers leaves what is found by the name of a codec. -/
def FindsAlike (payloads payloads' : PayloadList) : Prop :=
  ∀ strPayloadType nSamplingRate, payloads'.findPayload strPayloadType nSamplingRate =
    payloads.findPayload strPayloadType nSamplingRate

theorem Renumbered.refl (h : payloads.HasDistinctNumbers) : Renumbered payloads [] payloads where
  distinct := h
  withoutNumbers := rfl
  counterpart _ hg := absurd hg List.not_mem_nil
  others _ _ := .inl rfl

theorem renumbered_setPayloadNumber {g : RtpMap} {c : Nat} {payloads' : PayloadList}
    (hfind : payloads.findPayload g.payloadType g.samplingRate = some c)
    (hc : payloads'.numberAt c ≠ none) (hdistinct : payloads'.HasDistinctNumbers)
    (hformats : payloads'.withoutNumbers = payloads.withoutNumbers)
    (hfree : ∀ j, j ≠ c → payloads'.numberAt j ≠ some g.payloadNumber)
    (hothers : ∀ j, j ≠ c → payloads'.numberAt j = payloads.numberAt j ∨
      payloads.numberAt j = some g.payloadNumber ∧
        ∃ n, 96 ≤ n ∧ n ≤ 127 ∧ payloads'.numberAt j = some n) :
    Renumbered payloads [g] (payloads'.setPayloadNumber c g.payloadNumber) where
  distinct := by
    unfold HasDistinctNumbers
    rw [numberAt_setPayloadNumber hc]
    exact hdistinct.update hfree
  withoutNumbers := (withoutNumbers_setPayloadNumber _ _ _).trans hformats
  counterpart g' hg' c' hc' := by
    obtain rfl := List.mem_singleton.mp hg'
    obtain rfl := Option.some.inj (hfind.symm.trans hc')
    rw [numberAt_setPayloadNumber hc, Function.update_self]
  others j hj := by
    have hne : j ≠ c := fun heq => hj g List.mem_cons_self (heq ▸ hfind)
    rw [numberAt_setPayloadNumber hc, Function.update_of_ne hne]
    rcases hothers j hne with heq | ⟨hnumber, hmoved⟩
    · exact .inl heq
    · refine .inr ⟨⟨g, List.mem_cons_self, ?_, hnumber⟩, hmoved⟩
      rw [hfind]
      exact Option.some_ne_none c

theorem syncPayload_spec (hdistinct : payloads.HasDistinctNumbers) (g : RtpMap) :
    ((syncPayload payloads g).1 = true →
      Renumbered payloads [g] (syncPayload payloads g).2 ∧
        FindsAlike payloads (syncPayload payloads g).2) ∧
    ((syncPayload payloads g).1 = false → (syncPayload payloads g).2 = payloads) := by
  unfold syncPayload
  cases hfind : payloads.findPayload g.payloadType g.samplingRate with
  | none =>
      refine ⟨fun _ => ⟨⟨hdistinct, rfl, ?_, fun _ _ => .inl rfl⟩, fun _ _ => rfl⟩,
        fun h => Bool.noConfusion h⟩
      intro g' hg' c hc
      obtain rfl := List.mem_singleton.mp hg'
      rw [hfind] at hc
      cases hc
  | some c =>
      have hc := numberAt_of_findPayload hfind
      dsimp only
      by_cases hsame : payloads.numberAt c = some g.payloadNumber
      · rw [if_pos hsame]
        refine ⟨fun _ => ⟨⟨hdistinct, rfl, ?_, fun _ _ => .inl rfl⟩, fun _ _ => rfl⟩,
          fun h => Bool.noConfusion h⟩
        intro g' hg' c' hc'
        obtain rfl := List.mem_singleton.mp hg'
        obtain rfl := Option.some.inj (hfind.symm.trans hc')
        exact hsame
      · rw [if_neg hsame]
        by_cases hcollision : ∃ j, j ≠ c ∧ payloads.numberAt j = some g.payloadNumber
        · obtain ⟨j, hne, hj⟩ := hcollision
          have hlength : j < 0 + payloads.length := by
            rw [Nat.zero_add]
            by_contra hge
            unfold numberAt at hj
            rw [List.getElem?_eq_none (Nat.le_of_not_lt hge)] at hj
            cases hj
          rw [resolveCollisions_of_collision hdistinct hj hne (Nat.zero_le j) hlength]
          cases hfree : payloads.freeDynamicNumber with
          | none => exact ⟨fun h => Bool.noConfusion h, fun _ => rfl⟩
          | some n =>
              obtain ⟨hlow, hhigh, hunused⟩ := freeDynamicNumber_spec hfree
              have hjsome : payloads.numberAt j ≠ none := hj ▸ Option.some_ne_none _
              have hmoved : (moveCollision payloads j (some n)).2.numberAt =
                  Function.update payloads.numberAt j (some n) := numberAt_setPayloadNumber hjsome
              refine ⟨fun _ => ⟨?_, ?_⟩, fun h => Bool.noConfusion h⟩
              · apply renumbered_setPayloadNumber hfind
                · rw [hmoved, Function.update_of_ne hne.symm]
                  exact hc
                · unfold HasDistinctNumbers
                  rw [hmoved]
                  exact hdistinct.update fun i _ => hunused i
                · exact withoutNumbers_setPayloadNumber _ _ _
                · intro i _
                  rw [hmoved]
                  by_cases hij : i = j
                  · subst hij
                    rw [Function.update_self]
                    exact fun heq => hunused i (hj.trans heq.symm)
                  · rw [Function.update_of_ne hij]
                    exact hdistinct.ne_of_ne hj hij
                · intro i _
                  rw [hmoved]
                  by_cases hij : i = j
                  · subst hij
                    exact .inr ⟨hj, n, hlow, hhigh, Function.update_self _ _ _⟩
                  · exact .inl (Function.update_of_ne hij _ _)
              · intro strPayloadType nSamplingRate
                exact (findPayload_setPayloadNumber _ _ _ _ _).trans
                  (findPayload_setPayloadNumber _ _ _ _ _)
        · have hfree : ∀ j, j ≠ c → payloads.numberAt j ≠ some g.payloadNumber :=
            fun j hne hj => hcollision ⟨j, hne, hj⟩
          rw [resolveCollisions_of_free hfree]
          refine ⟨fun _ => ⟨?_, ?_⟩, fun h => Bool.noConfusion h⟩
          · exact renumbered_setPayloadNumber hfind hc hdistinct rfl hfree fun _ _ => .inl rfl
          · intro strPayloadType nSamplingRate
            exact findPayload_setPayloadNumber _ _ _ _ _

/-- The negotiated payloads have numbers and counterparts of their own. -/
def HaveOwnNumbers (pLocalProfile : PayloadList) (negotiated : List RtpMap) : Prop :=
  negotiated.Pairwise fun g h => g.payloadNumber ≠ h.payloadNumber ∧
    ∀ c, pLocalProfile.findPayload g.payloadType g.samplingRate = some c →
      pLocalProfile.findPayload h.payloadType h.samplingRate ≠ some c

theorem Renumbered.cons {g : RtpMap} {negotiated : List RtpMap}
    {payloads' payloads'' : PayloadList} (hown : HaveOwnNumbers payloads (g :: negotiated))
    (hstep : Renumbered payloads [g] payloads') (hfinds : FindsAlike payloads payloads')
    (hrun : Renumbered payloads' negotiated payloads'') :
    Renumbered payloads (g :: negotiated) payloads'' := by
  obtain ⟨hg, -⟩ := List.pairwise_cons.mp hown
  refine ⟨hrun.distinct, hrun.withoutNumbers.trans hstep.withoutNumbers, ?_, ?_⟩
  · intro g' hg' c hc
    rcases List.mem_cons.mp hg' with rfl | hg'
    · have hnumber := hstep.counterpart g' List.mem_cons_self c hc
      have hnot : ∀ h ∈ negotiated,
          payloads'.findPayload h.payloadType h.samplingRate ≠ some c := by
        intro h hh
        rw [hfinds]
        exact (hg h hh).2 c hc
      rcases hrun.others c hnot with heq | ⟨⟨h, hh, -, heq⟩, -⟩
      · exact heq.trans hnumber
      · exact absurd (Option.some.inj (hnumber.symm.trans heq)) (hg h hh).1
    · rw [← hfinds] at hc
      exact hrun.counterpart g' hg' c hc
  · intro j hj
    have hstepj := hstep.others j fun g' hg' =>
      hj g' (List.mem_cons.mpr (.inl (List.mem_singleton.mp hg')))
    have hrunj := hrun.others j fun h hh => by
      rw [hfinds]
      exact hj h (List.mem_cons_of_mem g hh)
    rcases hstepj with hsame | ⟨⟨g', hg', hsome, hnumber⟩, n, hlow, hhigh, hmoved⟩
    · rcases hrunj with heq | ⟨⟨h, hh, hsome, hnumber⟩, hmoved⟩
      · exact .inl (heq.trans hsame)
      · rw [hfinds] at hsome
        exact .inr ⟨⟨h, List.mem_cons_of_mem g hh, hsome, hsame.symm.trans hnumber⟩, hmoved⟩
    · have hcollided : ∃ g' ∈ g :: negotiated,
          payloads.findPayload g'.payloadType g'.samplingRate ≠ none ∧
            payloads.numberAt j = some g'.payloadNumber :=
        ⟨g', List.mem_cons.mpr (.inl (List.mem_singleton.mp hg')), hsome, hnumber⟩
      rcases hrunj with heq | ⟨-, hmoved'⟩
      · exact .inr ⟨hcollided, n, hlow, hhigh, heq.trans hmoved⟩
      · exact .inr ⟨hcollided, hmoved'⟩

theorem HaveOwnNumbers.tail {g : RtpMap} {negotiated : List RtpMap} {payloads' : PayloadList}
    (hown : HaveOwnNumbers payloads (g :: negotiated)) (hfinds : FindsAlike payloads payloads') :
    HaveOwnNumbers payloads' negotiated := by
  unfold HaveOwnNumbers
  simp only [hfinds _ _]
  exact (List.pairwise_cons.mp hown).2

/-- The loop, and where it stops: the payloads in front of the one that fails have been handled. -/
theorem syncPayloads_spec (hdistinct : payloads.HasDistinctNumbers) {negotiated : List RtpMap}
    (hown : HaveOwnNumbers payloads negotiated) :
    ((syncPayloads payloads negotiated).1 = true →
      Renumbered payloads negotiated (syncPayloads payloads negotiated).2) ∧
    ((syncPayloads payloads negotiated).1 = false → ∃ earlier g later,
      negotiated = earlier ++ g :: later ∧
      Renumbered payloads earlier (syncPayloads payloads negotiated).2 ∧
      (earlier = [] → (syncPayloads payloads negotiated).2 = payloads)) := by
  induction negotiated generalizing payloads with
  | nil => exact ⟨fun _ => .refl hdistinct, fun h => Bool.noConfusion h⟩
  | cons g negotiated ih =>
      obtain ⟨hok, hfail⟩ := syncPayload_spec hdistinct g
      unfold syncPayloads
      dsimp only
      by_cases hstep : (syncPayload payloads g).1 = true
      · rw [if_pos hstep]
        obtain ⟨hrenumbered, hfinds⟩ := hok hstep
        obtain ⟨hrun, hstop⟩ := ih hrenumbered.distinct (hown.tail hfinds)
        refine ⟨fun h => .cons hown hrenumbered hfinds (hrun h), ?_⟩
        intro h
        obtain ⟨earlier, g', later, rfl, hearlier, -⟩ := hstop h
        refine ⟨g :: earlier, g', later, rfl, ?_, fun heq => absurd heq (List.cons_ne_nil _ _)⟩
        refine .cons ?_ hrenumbered hfinds hearlier
        exact hown.sublist ((List.sublist_append_left earlier _).cons_cons g)
      · rw [if_neg hstep]
        have hsame := hfail (Bool.eq_false_iff.mpr hstep)
        refine ⟨fun h => Bool.noConfusion h, fun _ => ⟨[], g, negotiated, rfl, ?_, fun _ => hsame⟩⟩
        dsimp only
        rw [hsame]
        exact .refl hdistinct

section negotiate

variable {bIsOfferReceived bAmrPayloadFormatRelaxedMatching : Bool}
variable {findMatchingEvsPayload negotiateEvs : Nat → Bool}
variable {pLocalProfile pPeerProfile : PayloadList}

/-- A name of one of the codecs that are negotiated. -/
def IsAudioName (strCodecName : NullString) : Prop :=
  isAmrName strCodecName = true ∨ isEvsName strCodecName = true ∨ isPcmName strCodecName = true

theorem negotiateAudioPayload_spec {i : Nat} {rtpMap : RtpMap}
    (h : negotiateAudioPayload bIsOfferReceived findMatchingEvsPayload negotiateEvs pLocalProfile
      bAmrPayloadFormatRelaxedMatching i pPeerProfile = some rtpMap) :
    IsAudioName rtpMap.payloadType ∧
      ∃ (p : Nat) (fmtp : Option Fmtp), pPeerProfile[p]? = some (some (Payload.mk rtpMap fmtp)) := by
  induction pPeerProfile generalizing i with
  | nil => cases h
  | cons payload payloads ih =>
      have hrest : ∀ {i}, negotiateAudioPayload bIsOfferReceived findMatchingEvsPayload negotiateEvs
          pLocalProfile bAmrPayloadFormatRelaxedMatching i payloads = some rtpMap →
          IsAudioName rtpMap.payloadType ∧
            ∃ (p : Nat) (fmtp : Option Fmtp), (payload :: payloads)[p]? = some (some (Payload.mk rtpMap fmtp)) := by
        intro i hi
        obtain ⟨hname, p, fmtp, hget⟩ := ih hi
        exact ⟨hname, p + 1, fmtp, hget⟩
      unfold negotiateAudioPayload at h
      rcases payload with _ | ⟨peerRtpMap, fmtp⟩
      · exact hrest h
      · dsimp only at h
        split_ifs at h with hamr hfound hevs hmatching hnegotiated hpcm hfound <;>
          first
          | exact hrest h
          | (obtain rfl := Option.some.inj h
             exact ⟨by unfold IsAudioName; tauto, 0, fmtp, rfl⟩)

theorem negotiateTelephoneEvent_spec {rate : Nat} {rtpMap : RtpMap}
    (h : negotiateTelephoneEvent rate pPeerProfile = some rtpMap) :
    isTelephoneEventName rtpMap.payloadType = true ∧
      ∃ (p : Nat) (fmtp : Option Fmtp), pPeerProfile[p]? = some (some (Payload.mk rtpMap fmtp)) := by
  have hmem : rtpMap ∈ (pPeerProfile.filterMap fun payload => payload.map Payload.rtpMap).filter
      fun rtpMap => isTelephoneEventName rtpMap.payloadType := by
    unfold negotiateTelephoneEvent at h
    dsimp only at h
    rcases Option.or_eq_some_iff.mp h with hsame | ⟨-, hlower⟩
    · split_ifs at hsame
      exact List.mem_of_find?_eq_some hsame
    · exact List.mem_of_find?_eq_some hlower
  obtain ⟨hmem, hname⟩ := List.mem_filter.mp hmem
  obtain ⟨_ | ⟨peerRtpMap, fmtp⟩, hpayload, heq⟩ := List.mem_filterMap.mp hmem
  · cases heq
  · obtain rfl := Option.some.inj heq
    obtain ⟨p, hp⟩ := List.mem_iff_getElem?.mp hpayload
    exact ⟨hname, p, fmtp, hp⟩

/-- No payload has both the name of an audio codec and that of telephone events. -/
theorem not_equalsIgnoreCase_both {s audio event : NullString} (haudio : IsAudioName audio)
    (hevent : isTelephoneEventName event = true) (h : s.equalsIgnoreCase audio = true) :
    s.equalsIgnoreCase event = false := by
  by_contra hboth
  have hfold : ∀ {t : NullString}, s.equalsIgnoreCase t = true →
      (AString.cString s.chars).map AString.toLower =
        (AString.cString t.chars).map AString.toLower := by
    intro t ht
    exact beq_iff_eq.mp (Bool.and_eq_true_iff.mp ht).2
  have hname : ∀ {t : NullString} {literal : String}, t.equalsIgnoreCaseLiteral literal = true →
      (AString.cString t.chars).map AString.toLower = literal.toList.map AString.toLower := by
    intro t literal ht
    exact beq_iff_eq.mp ht
  have hsame := (hfold h).symm.trans ((hfold (Bool.eq_true_of_not_eq_false hboth)).trans
    (hname hevent))
  rcases haudio with hamr | hevs | hpcm
  · rcases (Bool.or_eq_true _ _).mp hamr with hamr | hamr
    · exact absurd ((hname hamr).symm.trans hsame) (by decide)
    · exact absurd ((hname hamr).symm.trans hsame) (by decide)
  · exact absurd ((hname hevs).symm.trans hsame) (by decide)
  · rcases (Bool.or_eq_true _ _).mp hpcm with hpcm | hpcm
    · exact absurd ((hname hpcm).symm.trans hsame) (by decide)
    · exact absurd ((hname hpcm).symm.trans hsame) (by decide)

theorem equalsIgnoreCase_of_findPayload {strPayloadType : NullString} {nSamplingRate c : Nat}
    (h : payloads.findPayload strPayloadType nSamplingRate = some c) :
    ∃ payload, payloads[c]? = some (some payload) ∧
      payload.rtpMap.payloadType.equalsIgnoreCase strPayloadType = true := by
  obtain ⟨hlt, hfound, -⟩ := List.findIdx?_eq_some_iff_getElem.mp h
  cases hpayload : payloads[c] with
  | none =>
      rw [hpayload] at hfound
      cases hfound
  | some payload =>
      rw [hpayload] at hfound
      refine ⟨payload, ?_, (Bool.and_eq_true_iff.mp hfound).1⟩
      rw [List.getElem?_eq_getElem hlt, hpayload]

theorem haveOwnNumbers_negotiated {audio event : RtpMap} {p q : Nat} {fmtp fmtp' : Option Fmtp}
    (hpeer : pPeerProfile.HasDistinctNumbers) (haudio : IsAudioName audio.payloadType)
    (hevent : isTelephoneEventName event.payloadType = true)
    (hp : pPeerProfile[p]? = some (some (Payload.mk audio fmtp)))
    (hq : pPeerProfile[q]? = some (some (Payload.mk event fmtp'))) :
    HaveOwnNumbers pLocalProfile [audio, event] := by
  refine List.pairwise_pair.mpr ⟨?_, ?_⟩
  · intro hsame
    have hnumber : pPeerProfile.numberAt p = some audio.payloadNumber := by
      unfold numberAt
      rw [hp]
      rfl
    have hnumber' : pPeerProfile.numberAt q = some audio.payloadNumber := by
      unfold numberAt
      rw [hq, hsame]
      rfl
    obtain rfl := hpeer p q _ hnumber hnumber'
    rw [hp] at hq
    obtain ⟨rfl, -⟩ := Payload.mk.inj (Option.some.inj (Option.some.inj hq))
    have hself : audio.payloadType.equalsIgnoreCase audio.payloadType = true := by
      simp [NullString.equalsIgnoreCase, AString.equalsIgnoreCase]
    rw [not_equalsIgnoreCase_both haudio hevent hself] at hself
    cases hself
  · intro c hc hc'
    obtain ⟨payload, hget, hname⟩ := equalsIgnoreCase_of_findPayload hc
    obtain ⟨payload', hget', hname'⟩ := equalsIgnoreCase_of_findPayload hc'
    obtain rfl := Option.some.inj (Option.some.inj (hget.symm.trans hget'))
    rw [not_equalsIgnoreCase_both haudio hevent hname] at hname'
    cases hname'

variable (findMatchingEvsPayload negotiateEvs pLocalProfile pPeerProfile
  bAmrPayloadFormatRelaxedMatching)

theorem haveOwnNumbers_negotiatePayload (hpeer : pPeerProfile.HasDistinctNumbers) {audio : RtpMap}
    (haudio : negotiateAudioPayload bIsOfferReceived findMatchingEvsPayload negotiateEvs
      pLocalProfile bAmrPayloadFormatRelaxedMatching 0 pPeerProfile = some audio) :
    HaveOwnNumbers pLocalProfile
      (audio :: (negotiateTelephoneEvent audio.samplingRate pPeerProfile).toList) := by
  obtain ⟨hname, p, fmtp, hp⟩ := negotiateAudioPayload_spec haudio
  cases hevent : negotiateTelephoneEvent audio.samplingRate pPeerProfile with
  | none => exact List.pairwise_singleton _ _
  | some event =>
      obtain ⟨hname', q, fmtp', hq⟩ := negotiateTelephoneEvent_spec hevent
      exact haveOwnNumbers_negotiated hpeer hname hname' hp hq

/-- The numbers after an offer has been negotiated.  Where no dynamic number is free, the payloads in
front of the one that needs it have been handled. -/
theorem negotiatePayload_renumbers (hlocal : pLocalProfile.HasDistinctNumbers)
    (hpeer : pPeerProfile.HasDistinctNumbers) :
    let result := negotiatePayload true findMatchingEvsPayload negotiateEvs pLocalProfile
      pPeerProfile bAmrPayloadFormatRelaxedMatching
    (result.returned ≠ none → Renumbered pLocalProfile result.negotiated result.pLocalProfile) ∧
    (result.returned = none → ∃ earlier later, result.negotiated = earlier ++ later ∧
      (result.negotiated ≠ [] → later ≠ []) ∧
      Renumbered pLocalProfile earlier result.pLocalProfile ∧
      (earlier = [] → result.pLocalProfile = pLocalProfile)) := by
  unfold negotiatePayload
  cases haudio : negotiateAudioPayload true findMatchingEvsPayload negotiateEvs pLocalProfile
      bAmrPayloadFormatRelaxedMatching 0 pPeerProfile with
  | none =>
      refine ⟨fun h => absurd rfl h, fun _ => ⟨[], [], rfl, ?_, .refl hlocal, fun _ => rfl⟩⟩
      exact fun h => h
  | some audio =>
      obtain ⟨hok, hfail⟩ := syncPayloads_spec hlocal
        (haveOwnNumbers_negotiatePayload bAmrPayloadFormatRelaxedMatching findMatchingEvsPayload
          negotiateEvs pLocalProfile pPeerProfile hpeer haudio)
      dsimp only
      rw [if_pos rfl]
      dsimp only
      cases hsynced : (syncPayloads pLocalProfile
          (audio :: (negotiateTelephoneEvent audio.samplingRate pPeerProfile).toList)).1 with
      | true => exact ⟨fun _ => hok hsynced, fun h => absurd h (Option.some_ne_none _)⟩
      | false =>
          refine ⟨fun h => absurd rfl h, fun _ => ?_⟩
          obtain ⟨earlier, g, later, heq, hearlier, hnone⟩ := hfail hsynced
          exact ⟨earlier, g :: later, heq, fun _ => List.cons_ne_nil g later, hearlier, hnone⟩

/-- As `negotiatePayload_renumbers`, but no local payload that is not a counterpart may have a
number that the offer has for another codec, and a failure leaves the local profile. -/
def RenumbersAll : Prop :=
  let result := negotiatePayload true findMatchingEvsPayload negotiateEvs pLocalProfile
    pPeerProfile bAmrPayloadFormatRelaxedMatching
  (result.returned ≠ none → result.pLocalProfile.HasDistinctNumbers ∧
    (∀ g ∈ result.negotiated, ∀ c, pLocalProfile.findPayload g.payloadType g.samplingRate = some c →
      result.pLocalProfile.numberAt c = some g.payloadNumber) ∧
    ∀ (j : Nat) (payload peerPayload : Payload), result.pLocalProfile[j]? = some (some payload) →
      (∀ g ∈ result.negotiated, pLocalProfile.findPayload g.payloadType g.samplingRate ≠ some j) →
      some peerPayload ∈ pPeerProfile →
      peerPayload.rtpMap.payloadNumber = payload.rtpMap.payloadNumber →
      payload.rtpMap.payloadType.equalsIgnoreCase peerPayload.rtpMap.payloadType = true) ∧
  (result.returned = none → result.pLocalProfile = pLocalProfile)

end negotiate

/-- A payload with a name and a number. -/
def named (name : String) (number : Nat) (fmtp : Option Fmtp) : Payload where
  rtpMap := { payloadNumber := number, payloadType := some name.toList, samplingRate := 16000 }
  fmtp := fmtp

/-- The number of AMR-WB is that of another local payload. -/
theorem negotiatePayload_renumbers_collision :
    let pLocalProfile := [some (named "AMR-WB" 97 (some (.amr {}))), some (named "EVS" 98 none)]
    let pPeerProfile := [some (named "AMR-WB" 98 none)]
    let result := negotiatePayload true (fun _ => false) (fun _ => false) pLocalProfile pPeerProfile
      false
    result.returned ≠ none ∧ Renumbered pLocalProfile result.negotiated result.pLocalProfile := by
  intro pLocalProfile pPeerProfile result
  have hreturned : result.returned ≠ none := by decide
  refine ⟨hreturned, (negotiatePayload_renumbers false _ _ pLocalProfile pPeerProfile ?_ ?_).1
    hreturned⟩
  · exact hasDistinctNumbers_of_pairwise (List.pairwise_pair.mpr (by decide))
  · exact hasDistinctNumbers_of_pairwise (List.pairwise_singleton _ _)

/-- An offer with EVS at a number that a local payload has which is not negotiated. -/
def offerWithEvs : PayloadList := [some (named "AMR-WB" 97 none), some (named "EVS" 98 none)]

/-- A local profile with a payload at every dynamic number. -/
def fullProfile : PayloadList :=
  some (named "AMR-WB" 0 (some (.amr {}))) :: some (named "telephone-event" 96 none) ::
    (List.range' 97 31).map fun n => some (named "AMR" n none)

/-- A payload that is not negotiated keeps a number that the offer has for another codec, and AMR-WB
keeps its new number where none is left for the telephone event. -/
theorem not_renumbersAll :
    ¬RenumbersAll false (fun _ => false) (fun _ => false)
      [some (named "AMR-WB" 97 (some (.amr {}))), some (named "AMR" 98 none)] offerWithEvs ∧
    ¬RenumbersAll false (fun _ => false) (fun _ => false) fullProfile
      [some (named "AMR-WB" 50 none), some (named "telephone-event" 97 none)] := by
  constructor
  · rintro ⟨hok, -⟩
    obtain ⟨-, -, hothers⟩ := hok (by decide)
    have hname := hothers 1 (named "AMR" 98 none) (named "EVS" 98 none) rfl (by decide)
      (List.mem_cons_of_mem _ List.mem_cons_self) rfl
    exact absurd hname (by decide)
  · rintro ⟨-, hfail⟩
    have hfailed := hfail (by decide +kernel)
    have hzero := congrArg (fun payloads => PayloadList.numberAt payloads 0) hfailed
    exact absurd hzero (by decide +kernel)

end AudioProfileNegotiator

end ImsStack.Media
