import ImsStack.Precondition.LocalStatus

/-!
The runs of a session: after every event the local current status of each media of the call
follows its bearer, and a reserved media that no SDP has announced asks for a confirmation,
as long as the events meet a condition that is exact for each of them.
-/

namespace ImsStack.Precondition

open TransitionSystem
open MtcMediaUtil
open Call (CallType)

/-! ### Media types -/

theorem QosStatusTable.getRecords_modifyRecords_of_ne (t : QosStatusTable)
    {eSdpMediaType other : SdpMediaType} (hne : eSdpMediaType ≠ other)
    (f : List QosStatusRecord → List QosStatusRecord) :
    (t.modifyRecords eSdpMediaType f).getRecords other = t.getRecords other := by
  cases eSdpMediaType <;> cases other <;> first | rfl | exact absurd rfl hne

/-- The mask of a single media. -/
def IsSingle (eMediaType : Nat) : Prop :=
  getSdpMediaType eMediaType ≠ .invalid

instance (eMediaType : Nat) : Decidable (IsSingle eMediaType) :=
  inferInstanceAs (Decidable (_ ≠ _))

theorem IsSingle.cases {eMediaType : Nat} (h : IsSingle eMediaType) :
    eMediaType = mediaTypeAudio ∨ eMediaType = mediaTypeVideo ∨ eMediaType = mediaTypeText := by
  unfold IsSingle getSdpMediaType at h
  split at h
  · exact .inl ‹_›
  · split at h
    · exact .inr (.inl ‹_›)
    · split at h
      · exact .inr (.inr ‹_›)
      · exact absurd rfl h

theorem getSdpMediaType_injective {eMediaType other : Nat} (h : IsSingle eMediaType)
    (heq : getSdpMediaType eMediaType = getSdpMediaType other) : eMediaType = other := by
  have hother : IsSingle other := by
    unfold IsSingle
    rw [← heq]
    exact h
  rcases h.cases with rfl | rfl | rfl <;> rcases hother.cases with rfl | rfl | rfl <;>
    first | rfl | cases heq

theorem Direction.toInt_le (d : Direction) : d.toInt ≤ Direction.sendrecv.toInt := by
  cases d <;> decide

namespace PreconditionContext

theorem isSingle_of_mem {ctx : PreconditionContext} {eMediaType : Nat}
    (h : eMediaType ∈ ctx.mediaTypes) : IsSingle eMediaType := by
  have hall : ∀ eCallType, ∀ eMediaType ∈ getMediaTypeListFromCallType eCallType,
      getSdpMediaType eMediaType ≠ .invalid := by
    intro eCallType
    cases eCallType <;> decide
  exact hall ctx.eCallType eMediaType h

theorem getRecords_removeUnusedRecords {ctx : PreconditionContext} {eMediaType : Nat}
    (h : eMediaType ∈ ctx.mediaTypes) (t : QosStatusTable) :
    (t.removeUnusedRecords (getMediaTypesFromCallType ctx.eCallType)).getRecords
      (getSdpMediaType eMediaType) = t.getRecords (getSdpMediaType eMediaType) := by
  have hsingle := isSingle_of_mem h
  unfold mediaTypes at h
  cases hcall : ctx.eCallType <;> rw [hcall] at h <;>
    rcases hsingle.cases with rfl | rfl | rfl <;> first | rfl | exact absurd h (by decide)

theorem notMem_unused {ctx : PreconditionContext} {eMediaType : Nat}
    (h : eMediaType ∈ ctx.mediaTypes) :
    eMediaType ∉ getUnusedMediaTypeListFromCallType ctx.eCallType := by
  have hall : ∀ eCallType, ∀ eMediaType ∈ getMediaTypeListFromCallType eCallType,
      eMediaType ∉ getUnusedMediaTypeListFromCallType eCallType := by
    intro eCallType
    cases eCallType <;> decide
  exact hall ctx.eCallType eMediaType h

end PreconditionContext

namespace MtcPreconditionManager

variable (ctx : PreconditionContext)

def recordsOf (x : MtcPreconditionManager) (eMediaType : Nat) : List QosStatusRecord :=
  x.statusTable.getRecords (getSdpMediaType eMediaType)

/-- The table follows the bearers: for every media of the call. -/
def LocalStatusFollows (x : MtcPreconditionManager) : Prop :=
  ∀ eMediaType ∈ ctx.mediaTypes,
    Records.Follows (x.recordsOf eMediaType) (x.isLocalResourceReservedByMediaType ctx eMediaType)

/-- A media with preconditions in the remote SDP is reserved, and no SDP has announced it. -/
structure Unannounced (x : MtcPreconditionManager) (eMediaType : Nat) : Prop where
  included : SdpPreconditionHelper.isPreconditionIncludedInSdp x.lstMedias eMediaType = true
  reserved : x.isLocalResourceReservedByMediaType ctx eMediaType = true
  unannounced : getSdpMediaType eMediaType ∉ x.announced

def ConfirmationFollows (x : MtcPreconditionManager) : Prop :=
  (∃ eMediaType ∈ ctx.mediaTypes, x.Unannounced ctx eMediaType) →
    x.isLocalResourceConfirmationRequired ctx = true

/-- What is known of the records of every media of the call. -/
structure Consistent (x : MtcPreconditionManager) : Prop where
  noTimer : x.bWaitAvailableAfterW2LHandover = false
  tracked : ∀ eMediaType ∈ ctx.mediaTypes,
    Records.Tracked (x.recordsOf eMediaType) (x.isLocalResourceReservedByMediaType ctx eMediaType)
      (getSdpMediaType eMediaType ∈ x.announced)

/-- Everything but the bearers and the table is the same. -/
structure SameSession (x y : MtcPreconditionManager) : Prop where
  lstMedias : y.lstMedias = x.lstMedias
  announced : y.announced = x.announced
  bLocalResourceConfirmedInitially :
    y.bLocalResourceConfirmedInitially = x.bLocalResourceConfirmedInitially
  bSupportingPrecondition : y.bSupportingPrecondition = x.bSupportingPrecondition
  noTimer : y.bWaitAvailableAfterW2LHandover = x.bWaitAvailableAfterW2LHandover

variable {ctx : PreconditionContext} {x y : MtcPreconditionManager}

/-- A reserved media that was not announced is not confirmed either, so the confirmation
fails only for the flag and for the support. -/
theorem Consistent.confirmationFollows_iff (hx : x.Consistent ctx) :
    x.ConfirmationFollows ctx ↔ ∀ eMediaType ∈ ctx.mediaTypes, x.Unannounced ctx eMediaType →
      x.bSupportingPrecondition = true ∧ x.bLocalResourceConfirmedInitially = false := by
  unfold ConfirmationFollows isLocalResourceConfirmationRequired
  constructor
  · intro h eMediaType hmem hpending
    have hrequired := h ⟨eMediaType, hmem, hpending⟩
    cases hsupported : x.bSupportingPrecondition with
    | false =>
        rw [hsupported] at hrequired
        cases hrequired
    | true =>
        cases hflag : x.bLocalResourceConfirmedInitially with
        | false => exact ⟨rfl, rfl⟩
        | true =>
            rw [hsupported, hflag] at hrequired
            cases hrequired
  · rintro h ⟨eMediaType, hmem, hpending⟩
    obtain ⟨hsupported, hflag⟩ := h eMediaType hmem hpending
    rw [hsupported, hflag]
    apply List.any_eq_true.mpr
    refine ⟨eMediaType, hmem, ?_⟩
    have hconfirmed : x.statusTable.isLocalResourceConfirmed (getSdpMediaType eMediaType) =
        false := by
      rw [Bool.eq_false_iff]
      intro hconfirmed
      exact hpending.unannounced ((hx.tracked eMediaType hmem).confirmed hconfirmed)
    rw [hpending.included, hpending.reserved, hconfirmed]
    rfl

theorem Consistent.updated (hx : x.Consistent ctx) (hfollows : x.LocalStatusFollows ctx)
    {k : Nat} {b : Bool}
    (htable : y.statusTable = x.statusTable.updateLocalCurrentStatus (getSdpMediaType k) b)
    (hsame : SameSession x y)
    (hself : k ∈ ctx.mediaTypes → y.isLocalResourceReservedByMediaType ctx k = b)
    (hother : ∀ eMediaType ∈ ctx.mediaTypes, eMediaType ≠ k →
      y.isLocalResourceReservedByMediaType ctx eMediaType =
        x.isLocalResourceReservedByMediaType ctx eMediaType) :
    y.Consistent ctx ∧ y.LocalStatusFollows ctx := by
  have hmedia : ∀ eMediaType ∈ ctx.mediaTypes,
      Records.Tracked (y.recordsOf eMediaType)
        (y.isLocalResourceReservedByMediaType ctx eMediaType)
        (getSdpMediaType eMediaType ∈ y.announced) ∧
      Records.Follows (y.recordsOf eMediaType)
        (y.isLocalResourceReservedByMediaType ctx eMediaType) := by
    intro eMediaType hmem
    have hsingle := PreconditionContext.isSingle_of_mem hmem
    rw [hsame.announced]
    unfold recordsOf
    rw [htable]
    unfold QosStatusTable.updateLocalCurrentStatus
    rcases eq_or_ne eMediaType k with rfl | hne
    · rw [QosStatusTable.getRecords_modifyRecords _ hsingle, hself hmem]
      exact (hx.tracked eMediaType hmem).updateLocalCurrentStatus (hfollows eMediaType hmem) b
    · rw [QosStatusTable.getRecords_modifyRecords_of_ne, hother eMediaType hmem hne]
      · exact ⟨hx.tracked eMediaType hmem, hfollows eMediaType hmem⟩
      · intro heq
        exact hne (getSdpMediaType_injective hsingle heq.symm)
  constructor
  · exact ⟨hsame.noTimer.trans hx.noTimer, fun eMediaType hmem => (hmedia eMediaType hmem).1⟩
  · intro eMediaType hmem
    exact (hmedia eMediaType hmem).2

/-! ### The status of a bearer changes -/

theorem getQosStatus_setQosStatus_of_ne (x : MtcPreconditionManager) (eStatus : QosStatus)
    {k eMediaType : Nat} (hne : eMediaType ≠ k) :
    (x.setQosStatus eStatus k).getQosStatus eMediaType = x.getQosStatus eMediaType := by
  unfold setQosStatus
  split
  · rename_i hk
    simp [getQosStatus, hk ▸ hne]
  · split
    · rename_i hk
      simp [getQosStatus, hk ▸ hne]
    · split
      · rename_i hk
        simp [getQosStatus, hk ▸ hne]
      · rfl

theorem getQosStatus_setQosStatus_self (x : MtcPreconditionManager) (eStatus : QosStatus)
    {k : Nat} (hsingle : IsSingle k) : (x.setQosStatus eStatus k).getQosStatus k = eStatus := by
  rcases hsingle.cases with rfl | rfl | rfl <;> rfl

/-- Only the status of the bearers differs. -/
def OnlyQosDiffers (x y : MtcPreconditionManager) : Prop :=
  ∃ a v t, y = { x with eAudioStatus := a, eVideoStatus := v, eTextStatus := t }

theorem onlyQosDiffers_setQosStatus (x : MtcPreconditionManager) (eStatus : QosStatus)
    (k : Nat) : OnlyQosDiffers x (x.setQosStatus eStatus k) := by
  unfold setQosStatus
  split
  · exact ⟨_, _, _, rfl⟩
  · split
    · exact ⟨_, _, _, rfl⟩
    · split <;> exact ⟨_, _, _, rfl⟩

theorem OnlyQosDiffers.trans {z : MtcPreconditionManager} (hxy : OnlyQosDiffers x y)
    (hyz : OnlyQosDiffers y z) : OnlyQosDiffers x z := by
  obtain ⟨a, v, t, rfl⟩ := hxy
  obtain ⟨a', v', t', rfl⟩ := hyz
  exact ⟨a', v', t', rfl⟩

theorem initializeStatusForUnusedLostQos_spec (ctx : PreconditionContext)
    (x : MtcPreconditionManager) :
    OnlyQosDiffers x (x.initializeStatusForUnusedLostQos ctx) ∧
      ∀ eMediaType ∈ ctx.mediaTypes,
        (x.initializeStatusForUnusedLostQos ctx).getQosStatus eMediaType =
          x.getQosStatus eMediaType := by
  have hunused : ∀ eMediaType ∈ ctx.mediaTypes,
      eMediaType ∉ getUnusedMediaTypeListFromCallType ctx.eCallType :=
    fun _ => PreconditionContext.notMem_unused
  unfold initializeStatusForUnusedLostQos
  revert hunused
  generalize getUnusedMediaTypeListFromCallType ctx.eCallType = unused
  intro hunused
  induction unused generalizing x with
  | nil => exact ⟨⟨_, _, _, rfl⟩, fun _ _ => rfl⟩
  | cons k rest ih =>
      rw [List.foldl_cons]
      have hrest : ∀ eMediaType ∈ ctx.mediaTypes, eMediaType ∉ rest := by
        intro eMediaType hmem hin
        exact hunused eMediaType hmem (List.mem_cons_of_mem k hin)
      split
      · obtain ⟨honly, hkept⟩ := ih (x.setQosStatus .idle k) hrest
        refine ⟨(onlyQosDiffers_setQosStatus x .idle k).trans honly, ?_⟩
        intro eMediaType hmem
        rw [hkept eMediaType hmem]
        apply getQosStatus_setQosStatus_of_ne
        rintro rfl
        exact hunused eMediaType hmem List.mem_cons_self
      · exact ih x hrest

theorem isLocalResourceReservedByMediaType_congr {eMediaType : Nat}
    (hwlan : y.bOnWlan = x.bOnWlan)
    (hstatus : y.getQosStatus eMediaType = x.getQosStatus eMediaType) :
    y.isLocalResourceReservedByMediaType ctx eMediaType =
      x.isLocalResourceReservedByMediaType ctx eMediaType := by
  unfold isLocalResourceReservedByMediaType
  rw [hwlan, hstatus]

theorem isLocalResourceReservedByMediaType_eq_true {eMediaType : Nat} :
    x.isLocalResourceReservedByMediaType ctx eMediaType = true ↔
      x.bOnWlan = true ∨ ctx.isDefaultBearerAllowed eMediaType = true ∨
        x.getQosStatus eMediaType = .available := by
  unfold isLocalResourceReservedByMediaType
  cases x.bOnWlan with
  | true => simp
  | false => simp

theorem SameSession.refl (x : MtcPreconditionManager) : SameSession x x :=
  ⟨rfl, rfl, rfl, rfl, rfl⟩

theorem SameSession.trans {z : MtcPreconditionManager} (hxy : SameSession x y)
    (hyz : SameSession y z) : SameSession x z :=
  ⟨hyz.lstMedias.trans hxy.lstMedias, hyz.announced.trans hxy.announced,
    hyz.bLocalResourceConfirmedInitially.trans hxy.bLocalResourceConfirmedInitially,
    hyz.bSupportingPrecondition.trans hxy.bSupportingPrecondition,
    hyz.noTimer.trans hxy.noTimer⟩

theorem OnlyQosDiffers.sameSession (h : OnlyQosDiffers x y) :
    SameSession x y ∧ y.statusTable = x.statusTable ∧ y.bOnWlan = x.bOnWlan := by
  obtain ⟨a, v, t, rfl⟩ := h
  exact ⟨⟨rfl, rfl, rfl, rfl, rfl⟩, rfl, rfl⟩

/-- The confirmation can be asked for. -/
def Confirmable (x : MtcPreconditionManager) : Prop :=
  x.bSupportingPrecondition = true ∧ x.bLocalResourceConfirmedInitially = false

/-- No media that becomes reserved waits in vain for its confirmation. -/
def ReservesConfirmable (ctx : PreconditionContext) (x : MtcPreconditionManager)
    (becomes : Nat → Prop) : Prop :=
  ∀ eMediaType ∈ ctx.mediaTypes, becomes eMediaType →
    SdpPreconditionHelper.isPreconditionIncludedInSdp x.lstMedias eMediaType = true →
    getSdpMediaType eMediaType ∉ x.announced → x.Confirmable

/-- An event that only changes the bearers needs to look at the media it makes reserved. -/
theorem Consistent.confirmationFollows_step (hx : x.Consistent ctx)
    (hconfirmation : x.ConfirmationFollows ctx) (hy : y.Consistent ctx)
    (hsame : SameSession x y) {becomes : Nat → Prop}
    (hbecomes : ∀ eMediaType ∈ ctx.mediaTypes, becomes eMediaType →
      y.isLocalResourceReservedByMediaType ctx eMediaType = true)
    (hreserved : ∀ eMediaType ∈ ctx.mediaTypes,
      y.isLocalResourceReservedByMediaType ctx eMediaType = true →
      becomes eMediaType ∨ x.isLocalResourceReservedByMediaType ctx eMediaType = true) :
    y.ConfirmationFollows ctx ↔ x.ReservesConfirmable ctx becomes := by
  rw [hx.confirmationFollows_iff] at hconfirmation
  rw [hy.confirmationFollows_iff, hsame.bSupportingPrecondition,
    hsame.bLocalResourceConfirmedInitially]
  constructor
  · intro h eMediaType hmem hbecome hincluded hunannounced
    apply h eMediaType hmem
    refine ⟨?_, hbecomes eMediaType hmem hbecome, ?_⟩
    · rw [hsame.lstMedias]
      exact hincluded
    · rw [hsame.announced]
      exact hunannounced
  · rintro h eMediaType hmem ⟨hincluded, hres, hunannounced⟩
    rw [hsame.lstMedias] at hincluded
    rw [hsame.announced] at hunannounced
    rcases hreserved eMediaType hmem hres with hbecome | hold
    · exact h eMediaType hmem hbecome hincluded hunannounced
    · exact hconfirmation eMediaType hmem ⟨hincluded, hold, hunannounced⟩

theorem Consistent.onQosStatusChanged (hx : x.Consistent ctx)
    (hfollows : x.LocalStatusFollows ctx) (k : Nat) (eStatus : QosStatus) :
    (x.onQosStatusChanged ctx k eStatus).Consistent ctx ∧
      (x.onQosStatusChanged ctx k eStatus).LocalStatusFollows ctx ∧
      SameSession x (x.onQosStatusChanged ctx k eStatus) ∧
      (∀ eMediaType ∈ ctx.mediaTypes, eMediaType = k ∧ eStatus = .available →
        (x.onQosStatusChanged ctx k eStatus).isLocalResourceReservedByMediaType ctx eMediaType =
          true) ∧
      ∀ eMediaType ∈ ctx.mediaTypes,
        (x.onQosStatusChanged ctx k eStatus).isLocalResourceReservedByMediaType ctx eMediaType =
          true →
        (eMediaType = k ∧ eStatus = .available) ∨
          x.isLocalResourceReservedByMediaType ctx eMediaType = true := by
  unfold MtcPreconditionManager.onQosStatusChanged
  cases hneeded : isNeedToUpdateQosStatus (x.getQosStatus k) eStatus with
  | false =>
      refine ⟨hx, hfollows, SameSession.refl x, ?_, fun _ _ h => .inr h⟩
      rintro eMediaType - ⟨rfl, rfl⟩
      apply isLocalResourceReservedByMediaType_eq_true.mpr
      right
      right
      show x.getQosStatus eMediaType = .available
      revert hneeded
      cases x.getQosStatus eMediaType <;> decide
  | true =>
      obtain ⟨hinit, hkept⟩ :=
        initializeStatusForUnusedLostQos_spec ctx (x.setQosStatus eStatus k)
      obtain ⟨hsame, htable, hwlan⟩ :=
        ((onlyQosDiffers_setQosStatus x eStatus k).trans hinit).sameSession
      let z := (x.setQosStatus eStatus k).initializeStatusForUnusedLostQos ctx
      have hself : k ∈ ctx.mediaTypes → z.getQosStatus k = eStatus := by
        intro hmem
        rw [hkept k hmem, getQosStatus_setQosStatus_self _ _
          (PreconditionContext.isSingle_of_mem hmem)]
      have hother : ∀ eMediaType ∈ ctx.mediaTypes, eMediaType ≠ k →
          z.isLocalResourceReservedByMediaType ctx eMediaType =
            x.isLocalResourceReservedByMediaType ctx eMediaType := by
        intro eMediaType hmem hne
        apply isLocalResourceReservedByMediaType_congr hwlan
        rw [hkept eMediaType hmem, getQosStatus_setQosStatus_of_ne _ _ hne]
      have hupdated := (show Consistent ctx x from hx).updated (y := z.updateLocalCurrentStatus
          (getSdpMediaType k) (z.isLocalResourceReservedByMediaType ctx k)) hfollows
        (by rw [← htable]; rfl) ⟨hsame.1, hsame.2, hsame.3, hsame.4, hsame.5⟩
        (fun _ => rfl) hother
      refine ⟨hupdated.1, hupdated.2, ⟨hsame.1, hsame.2, hsame.3, hsame.4, hsame.5⟩, ?_, ?_⟩
      · rintro eMediaType hmem ⟨rfl, rfl⟩
        exact isLocalResourceReservedByMediaType_eq_true.mpr (.inr (.inr (hself hmem)))
      · intro eMediaType hmem hres
        rcases eq_or_ne eMediaType k with rfl | hne
        · rcases isLocalResourceReservedByMediaType_eq_true.mp hres with hw | hd | hs
          · right
            exact isLocalResourceReservedByMediaType_eq_true.mpr (.inl (hwlan ▸ hw))
          · right
            exact isLocalResourceReservedByMediaType_eq_true.mpr (.inr (.inl hd))
          · left
            exact ⟨rfl, (hself hmem).symm.trans hs⟩
        · right
          rw [← hother eMediaType hmem hne]
          exact hres

/-! ### Handover to WLAN -/

theorem mem_of_isSingle_mask
    (hsingle : IsSingle (getMediaTypesFromCallType ctx.eCallType)) {eMediaType : Nat}
    (hmem : eMediaType ∈ ctx.mediaTypes) :
    eMediaType = getMediaTypesFromCallType ctx.eCallType := by
  unfold PreconditionContext.mediaTypes at hmem
  cases hcall : ctx.eCallType <;> rw [hcall] at hmem hsingle
  case voip => exact List.mem_singleton.mp hmem
  case unknown => cases hmem
  all_goals exact absurd rfl hsingle

/-- Where the mask of the call names one media, or nothing is left to enable. -/
def HandoverEnables (ctx : PreconditionContext) (x : MtcPreconditionManager) : Prop :=
  IsSingle (getMediaTypesFromCallType ctx.eCallType) ∨
    ∀ eMediaType ∈ ctx.mediaTypes, Records.DesiredInUse (x.recordsOf eMediaType) →
      x.isLocalResourceReservedByMediaType ctx eMediaType = true

theorem Consistent.onRatChangedToWlan (hx : x.Consistent ctx)
    (hfollows : x.LocalStatusFollows ctx) :
    (x.onRatChangedToWlan ctx).Consistent ctx ∧
      ((x.onRatChangedToWlan ctx).LocalStatusFollows ctx ↔ x.HandoverEnables ctx) ∧
      SameSession x (x.onRatChangedToWlan ctx) ∧
      ∀ eMediaType,
        (x.onRatChangedToWlan ctx).isLocalResourceReservedByMediaType ctx eMediaType = true := by
  unfold MtcPreconditionManager.onRatChangedToWlan
  cases hwlan : x.bOnWlan with
  | true =>
      have hreserved : ∀ eMediaType,
          x.isLocalResourceReservedByMediaType ctx eMediaType = true :=
        fun _ => isLocalResourceReservedByMediaType_eq_true.mpr (.inl hwlan)
      exact ⟨hx, iff_of_true hfollows (.inr fun _ _ _ => hreserved _), SameSession.refl x,
        hreserved⟩
  | false =>
      let y := { x with bOnWlan := true }.updateLocalCurrentStatus
        (getSdpMediaType (getMediaTypesFromCallType ctx.eCallType)) true
      have hreserved : ∀ eMediaType, y.isLocalResourceReservedByMediaType ctx eMediaType = true :=
        fun _ => rfl
      have hsame : SameSession x y := ⟨rfl, rfl, rfl, rfl, rfl⟩
      show y.Consistent ctx ∧ (y.LocalStatusFollows ctx ↔ _) ∧ SameSession x y ∧ _
      rcases Decidable.em (IsSingle (getMediaTypesFromCallType ctx.eCallType)) with
        hsingle | hmulti
      · have hupdated := hx.updated (y := y) hfollows rfl hsame (fun _ => rfl) (by
          intro eMediaType hmem hne
          exact absurd (mem_of_isSingle_mask hsingle hmem) hne)
        exact ⟨hupdated.1, iff_of_true hupdated.2 (.inl hsingle), hsame, hreserved⟩
      · have htable : y.statusTable = x.statusTable := by
          have hinvalid : getSdpMediaType (getMediaTypesFromCallType ctx.eCallType) = .invalid :=
            Decidable.not_not.mp hmulti
          show x.statusTable.updateLocalCurrentStatus _ true = _
          rw [hinvalid]
          rfl
        have hrecords : ∀ eMediaType, y.recordsOf eMediaType = x.recordsOf eMediaType := by
          intro eMediaType
          unfold recordsOf
          rw [htable]
        refine ⟨⟨hx.noTimer, ?_⟩, ?_, hsame, hreserved⟩
        · intro eMediaType hmem
          obtain ⟨hone, -, hconfirmed⟩ := hx.tracked eMediaType hmem
          rw [hrecords]
          exact ⟨hone, fun hno => Bool.noConfusion hno, hconfirmed⟩
        · constructor
          · intro h
            right
            intro eMediaType hmem hinUse
            have henabled := h eMediaType hmem
            rw [hrecords] at henabled
            exact (hfollows eMediaType hmem hinUse).mp ((henabled hinUse).mpr rfl)
          · rintro (hsingle | h) eMediaType hmem hinUse
            · exact absurd hsingle hmulti
            · rw [hrecords] at hinUse ⊢
              exact iff_of_true ((hfollows eMediaType hmem hinUse).mpr (h eMediaType hmem hinUse))
                rfl

/-! ### The expiry of the timer FORCE_AVAILABLE -/

theorem Consistent.setMediaAvailable_foldl {l : List Nat} (hl : ∀ k ∈ l, k ∈ ctx.mediaTypes)
    (hx : x.Consistent ctx) (hfollows : x.LocalStatusFollows ctx) :
    (l.foldl setMediaAvailable x).Consistent ctx ∧
      (l.foldl setMediaAvailable x).LocalStatusFollows ctx ∧
      SameSession x (l.foldl setMediaAvailable x) ∧
      ∀ eMediaType ∈ ctx.mediaTypes,
        eMediaType ∈ l ∨ x.isLocalResourceReservedByMediaType ctx eMediaType = true →
        (l.foldl setMediaAvailable x).isLocalResourceReservedByMediaType ctx eMediaType =
          true := by
  induction l generalizing x with
  | nil =>
      refine ⟨hx, hfollows, SameSession.refl x, ?_⟩
      rintro eMediaType - (hin | hres)
      · cases hin
      · exact hres
  | cons k rest ih =>
      have hk := hl k List.mem_cons_self
      have hstep : (x.setMediaAvailable k).Consistent ctx ∧
          (x.setMediaAvailable k).LocalStatusFollows ctx ∧
          SameSession x (x.setMediaAvailable k) ∧
          ∀ eMediaType ∈ ctx.mediaTypes,
            eMediaType = k ∨ x.isLocalResourceReservedByMediaType ctx eMediaType = true →
            (x.setMediaAvailable k).isLocalResourceReservedByMediaType ctx eMediaType = true := by
        unfold setMediaAvailable
        split
        · rename_i havailable
          refine ⟨hx, hfollows, SameSession.refl x, ?_⟩
          rintro eMediaType - (rfl | hres)
          · exact isLocalResourceReservedByMediaType_eq_true.mpr (.inr (.inr havailable))
          · exact hres
        · obtain ⟨hsame, htable, hwlan⟩ :=
            (onlyQosDiffers_setQosStatus x .available k).sameSession
          have hself : (x.setQosStatus .available k).isLocalResourceReservedByMediaType ctx k =
              true :=
            isLocalResourceReservedByMediaType_eq_true.mpr (.inr (.inr
              (getQosStatus_setQosStatus_self x .available
                (PreconditionContext.isSingle_of_mem hk))))
          have hother : ∀ eMediaType ∈ ctx.mediaTypes, eMediaType ≠ k →
              (x.setQosStatus .available k).isLocalResourceReservedByMediaType ctx eMediaType =
                x.isLocalResourceReservedByMediaType ctx eMediaType := by
            intro eMediaType _ hne
            exact isLocalResourceReservedByMediaType_congr hwlan
              (getQosStatus_setQosStatus_of_ne x .available hne)
          have hsame' : SameSession x ((x.setQosStatus .available k).updateLocalCurrentStatus
              (getSdpMediaType k) true) := ⟨hsame.1, hsame.2, hsame.3, hsame.4, hsame.5⟩
          obtain ⟨hconsistent, hfollows'⟩ := hx.updated hfollows
            (k := k) (b := true) (by rw [← htable]; rfl) hsame' (fun _ => hself) hother
          refine ⟨hconsistent, hfollows', hsame', ?_⟩
          rintro eMediaType hmem hcases
          rcases eq_or_ne eMediaType k with rfl | hne
          · exact hself
          · exact (hother eMediaType hmem hne).trans (hcases.resolve_left hne)
      obtain ⟨hconsistent, hfollows', hsame, hreserved⟩ := hstep
      obtain ⟨hconsistent', hfollows'', hsame', hreserved'⟩ :=
        ih (fun m hm => hl m (List.mem_cons_of_mem k hm)) hconsistent hfollows'
      refine ⟨hconsistent', hfollows'', hsame.trans hsame', ?_⟩
      rintro eMediaType hmem hcases
      apply hreserved' eMediaType hmem
      rcases hcases with hin | hres
      · rcases List.mem_cons.mp hin with rfl | hin
        · exact .inr (hreserved eMediaType hmem (.inl rfl))
        · exact .inl hin
      · exact .inr (hreserved eMediaType hmem (.inr hres))

/-! ### The creation of records -/

/-- The records of a media just created. -/
def createdRecords (bLocalReserved : Bool) : List QosStatusRecord :=
  Records.updateLocalCurrentStatus Records.initial bLocalReserved

def hasRecords (x : MtcPreconditionManager) (eMediaType : Nat) : Bool :=
  decide (eMediaType = mediaTypeNone) || !(x.recordsOf eMediaType).isEmpty

/-- The last media that gets records when they are asked for in this order. -/
def lastCreated (hasRecords : Nat → Bool) : List Nat → Option Nat
  | [] => none
  | k :: rest =>
      if hasRecords k then lastCreated hasRecords rest
      else (lastCreated (fun m => hasRecords m || decide (m = k)) rest).or (some k)

/-- The flag once records have been asked for: the bearer of the last media that gets them
decides it, unless the session is a forked one. -/
def confirmedInitiallyAfter (ctx : PreconditionContext) (x : MtcPreconditionManager)
    (eMediaTypes : List Nat) : Bool :=
  if ctx.isForkedSession then x.bLocalResourceConfirmedInitially
  else
    match lastCreated x.hasRecords eMediaTypes with
    | none => x.bLocalResourceConfirmedInitially
    | some k => x.isLocalResourceReservedByMediaType ctx k

/-- Only the table and the flag differ. -/
def OnlyRecordsDiffer (x y : MtcPreconditionManager) : Prop :=
  ∃ t f, y = { x with statusTable := t, bLocalResourceConfirmedInitially := f }

theorem OnlyRecordsDiffer.trans {z : MtcPreconditionManager} (hxy : OnlyRecordsDiffer x y)
    (hyz : OnlyRecordsDiffer y z) : OnlyRecordsDiffer x z := by
  obtain ⟨t, f, rfl⟩ := hxy
  obtain ⟨t', f', rfl⟩ := hyz
  exact ⟨t', f', rfl⟩

theorem lastCreated_congr {f g : Nat → Bool} {l : List Nat} (h : ∀ m ∈ l, f m = g m) :
    lastCreated f l = lastCreated g l := by
  induction l generalizing f g with
  | nil => rfl
  | cons k rest ih =>
      unfold lastCreated
      rw [h k List.mem_cons_self]
      split
      · apply ih
        intro m hm
        exact h m (List.mem_cons_of_mem k hm)
      · apply congrArg fun r : Option Nat => r.or (some k)
        apply ih
        intro m hm
        rw [h m (List.mem_cons_of_mem k hm)]

theorem initializeRecords_updateLocalCurrentStatus (t : QosStatusTable)
    (eSdpMediaType : SdpMediaType) (b : Bool) :
    (t.initializeRecords eSdpMediaType).updateLocalCurrentStatus eSdpMediaType b =
      t.modifyRecords eSdpMediaType fun _ => createdRecords b := by
  cases eSdpMediaType <;> rfl

theorem createStatusRecords_of_hasRecords {k : Nat} (h : x.hasRecords k = true) :
    x.createStatusRecords ctx k = x := by
  unfold hasRecords recordsOf at h
  unfold createStatusRecords
  split
  · rfl
  · rename_i hnone
    rw [decide_eq_false hnone, Bool.false_or] at h
    exact if_pos h

theorem createStatusRecords_of_not_hasRecords (htimer : x.bWaitAvailableAfterW2LHandover = false)
    {k : Nat} (h : x.hasRecords k = false) :
    x.createStatusRecords ctx k =
      { x with
        statusTable := x.statusTable.modifyRecords (getSdpMediaType k) fun _ =>
          createdRecords (x.isLocalResourceReservedByMediaType ctx k)
        bLocalResourceConfirmedInitially :=
          if ctx.isForkedSession then x.bLocalResourceConfirmedInitially
          else x.isLocalResourceReservedByMediaType ctx k } := by
  unfold hasRecords recordsOf at h
  obtain ⟨hnone, hrecords⟩ := Bool.or_eq_false_iff.mp h
  unfold createStatusRecords
  rw [if_neg (of_decide_eq_false hnone), hrecords, if_neg Bool.false_ne_true, htimer,
    Bool.or_false]
  simp only [initializeRecords_updateLocalCurrentStatus]

theorem createdRecords_ne_nil (b : Bool) : createdRecords b ≠ [] := by
  cases b <;> decide

theorem createStatusRecords_foldl (ctx : PreconditionContext) {l : List Nat}
    (hl : ∀ k ∈ l, k = mediaTypeNone ∨ IsSingle k)
    (x : MtcPreconditionManager) (htimer : x.bWaitAvailableAfterW2LHandover = false) :
    OnlyRecordsDiffer x (l.foldl (createStatusRecords ctx) x) ∧
      (∀ m, IsSingle m → (l.foldl (createStatusRecords ctx) x).recordsOf m =
        if m ∈ l ∧ x.recordsOf m = [] then
          createdRecords (x.isLocalResourceReservedByMediaType ctx m)
        else x.recordsOf m) ∧
      (l.foldl (createStatusRecords ctx) x).bLocalResourceConfirmedInitially =
        x.confirmedInitiallyAfter ctx l := by
  induction l generalizing x with
  | nil =>
      refine ⟨⟨_, _, rfl⟩, fun m _ => ?_, ?_⟩
      · exact (if_neg fun h => absurd h.1 List.not_mem_nil).symm
      · unfold confirmedInitiallyAfter lastCreated
        split <;> rfl
  | cons k rest ih =>
      have hrest : ∀ k ∈ rest, k = mediaTypeNone ∨ IsSingle k :=
        fun m hm => hl m (List.mem_cons_of_mem k hm)
      rw [List.foldl_cons]
      cases hhas : x.hasRecords k with
      | true =>
          rw [createStatusRecords_of_hasRecords hhas]
          obtain ⟨honly, hrecords, hflag⟩ := ih hrest x htimer
          refine ⟨honly, fun m hm => ?_, ?_⟩
          · rw [hrecords m hm]
            rcases eq_or_ne m k with rfl | hne
            · have hnotNil : ¬x.recordsOf m = [] := by
                intro hnil
                have hnone : m ≠ mediaTypeNone := by
                  rintro rfl
                  exact hm rfl
                simp [hasRecords, hnil, hnone] at hhas
              rw [if_neg (fun h => hnotNil h.2), if_neg (fun h => hnotNil h.2)]
            · simp only [List.mem_cons, hne, false_or]
          · rw [hflag]
            unfold confirmedInitiallyAfter
            rw [show lastCreated x.hasRecords (k :: rest) = lastCreated x.hasRecords rest from
              if_pos hhas]
      | false =>
          rw [createStatusRecords_of_not_hasRecords htimer hhas]
          obtain ⟨hnotNone, hnil⟩ := Bool.or_eq_false_iff.mp hhas
          have hnil : x.recordsOf k = [] := by
            rw [Bool.not_eq_false', List.isEmpty_iff] at hnil
            exact hnil
          have hsingle : IsSingle k :=
            (hl k List.mem_cons_self).resolve_left (of_decide_eq_false hnotNone)
          let y : MtcPreconditionManager := { x with
            statusTable := x.statusTable.modifyRecords (getSdpMediaType k) fun _ =>
              createdRecords (x.isLocalResourceReservedByMediaType ctx k)
            bLocalResourceConfirmedInitially :=
              if ctx.isForkedSession then x.bLocalResourceConfirmedInitially
              else x.isLocalResourceReservedByMediaType ctx k }
          have hself : y.recordsOf k =
              createdRecords (x.isLocalResourceReservedByMediaType ctx k) :=
            x.statusTable.getRecords_modifyRecords hsingle _
          have hother : ∀ m, m ≠ k → y.recordsOf m = x.recordsOf m := by
            intro m hne
            apply QosStatusTable.getRecords_modifyRecords_of_ne
            intro heq
            exact hne (getSdpMediaType_injective hsingle heq).symm
          obtain ⟨honly, hrecords, hflag⟩ := ih hrest y htimer
          refine ⟨OnlyRecordsDiffer.trans ⟨_, _, rfl⟩ honly, fun m hm => ?_, ?_⟩
          · refine (hrecords m hm).trans ?_
            rcases eq_or_ne m k with rfl | hne
            · rw [if_neg (fun h => createdRecords_ne_nil _ (hself.symm.trans h.2)),
                if_pos ⟨List.mem_cons_self, hnil⟩]
              exact hself
            · rw [hother m hne]
              simp only [List.mem_cons, hne, false_or]
              rfl
          · refine hflag.trans ?_
            unfold confirmedInitiallyAfter
            have hlast : lastCreated y.hasRecords rest =
                lastCreated (fun m => x.hasRecords m || decide (m = k)) rest := by
              apply lastCreated_congr
              intro m _
              rcases eq_or_ne m k with rfl | hne
              · have hcreated : (y.recordsOf m).isEmpty = false := by
                  rw [hself]
                  exact List.isEmpty_eq_false_iff.mpr (createdRecords_ne_nil _)
                simp [hasRecords, hcreated]
              · simp [hasRecords, hother m hne, hne]
            rw [hlast, show lastCreated x.hasRecords (k :: rest) =
              (lastCreated (fun m => x.hasRecords m || decide (m = k)) rest).or (some k) from
                if_neg (by rw [hhas]; exact Bool.false_ne_true)]
            split
            · rename_i hforked
              exact if_pos hforked
            · rename_i hforked
              cases lastCreated (fun m => x.hasRecords m || decide (m = k)) rest with
              | none => exact if_neg hforked
              | some m => rfl

theorem tracked_createdRecords (b : Bool) (announced : Prop) :
    Records.Tracked (createdRecords b) b announced ∧ Records.Follows (createdRecords b) b :=
  (Records.tracked_initial announced).updateLocalCurrentStatus Records.follows_initial b

theorem currDir_createdRecords : Records.currDir (createdRecords true) = .sendrecv := by
  decide

theorem Consistent.createStatusRecords (hx : x.Consistent ctx)
    (hfollows : x.LocalStatusFollows ctx) {l : List Nat}
    (hl : ∀ k ∈ l, k = mediaTypeNone ∨ IsSingle k) :
    (l.foldl (createStatusRecords ctx) x).Consistent ctx ∧
      (l.foldl (createStatusRecords ctx) x).LocalStatusFollows ctx := by
  obtain ⟨honly, hrecords, -⟩ := createStatusRecords_foldl ctx hl x hx.noTimer
  obtain ⟨t, f, heq⟩ := honly
  rw [heq] at hrecords ⊢
  constructor
  · refine ⟨hx.noTimer, fun m hmem => ?_⟩
    rw [hrecords m (PreconditionContext.isSingle_of_mem hmem)]
    split
    · exact (tracked_createdRecords _ _).1
    · exact hx.tracked m hmem
  · intro m hmem
    rw [hrecords m (PreconditionContext.isSingle_of_mem hmem)]
    split
    · exact (tracked_createdRecords _ True).2
    · exact hfollows m hmem

/-! ### An SDP is sent -/

theorem announcesLocalResource_formAttributes (t : QosStatusTable)
    (eSdpMediaType : SdpMediaType) (nPort : Int) (bUseConf : Bool) :
    (t.formAttributes eSdpMediaType nPort bUseConf).1.announcesLocalResource = true ↔
      0 < (Records.currDir (t.getRecords eSdpMediaType)).toInt := by
  unfold SdpMedia.announcesLocalResource QosStatusTable.formAttributes
    Records.formCurrentAttribute
  show Option.any _ (Prod.fst (if Records.currDir (t.getRecords eSdpMediaType) = .invalid then _
    else _)) = true ↔ _
  have htag : Records.getDirectionTag (t.getRecords eSdpMediaType) .curr .statusLocal =
    Records.currDir (t.getRecords eSdpMediaType) := rfl
  rw [htag]
  cases Records.currDir (t.getRecords eSdpMediaType) <;>
    simp [SdpSegmentedPrecondition.addStatus, SdpSegmentedPrecondition.empty, Direction.toInt]

/-- The media that have a line in the SDP with a direction for its local current status. -/
def AnnouncedBy (x : MtcPreconditionManager) (lstMedias : List IMedia) (eMediaType : Nat) :
    Prop :=
  (∃ media ∈ lstMedias, media.formedType = some (getSdpMediaType eMediaType)) ∧
    0 < (Records.currDir (x.recordsOf eMediaType)).toInt

theorem Consistent.formMedia (hx : x.Consistent ctx) (hfollows : x.LocalStatusFollows ctx)
    (bUseConf : Bool) (media : IMedia) :
    (x.formMedia bUseConf media).Consistent ctx ∧
      (x.formMedia bUseConf media).LocalStatusFollows ctx ∧
      (∃ t a, x.formMedia bUseConf media = { x with statusTable := t, announced := a }) ∧
      ∀ m ∈ ctx.mediaTypes,
        Records.currDir ((x.formMedia bUseConf media).recordsOf m) =
          Records.currDir (x.recordsOf m) ∧
        (getSdpMediaType m ∈ (x.formMedia bUseConf media).announced ↔
          getSdpMediaType m ∈ x.announced ∨ x.AnnouncedBy [media] m) := by
  unfold MtcPreconditionManager.formMedia AnnouncedBy IMedia.formedType
  simp only [List.mem_singleton, exists_eq_left]
  cases hskipped : media.isSkipped with
  | true =>
      refine ⟨hx, hfollows, ⟨_, _, rfl⟩, fun m _ => ⟨rfl, ?_⟩⟩
      simp
  | false =>
      cases hlocal : media.localSdp with
      | none =>
          refine ⟨hx, hfollows, ⟨_, _, rfl⟩, fun m _ => ⟨rfl, ?_⟩⟩
          simp
      | some localSdp =>
          obtain ⟨eSdpMediaType, nPort⟩ := localSdp
          let y : MtcPreconditionManager := { x with
            statusTable := (x.statusTable.formAttributes eSdpMediaType nPort bUseConf).2
            announced :=
              if (x.statusTable.formAttributes eSdpMediaType nPort bUseConf
                  ).1.announcesLocalResource then
                eSdpMediaType :: x.announced
              else x.announced }
          have hmedia : ∀ m ∈ ctx.mediaTypes,
              Records.Tracked (y.recordsOf m) (x.isLocalResourceReservedByMediaType ctx m)
                (getSdpMediaType m ∈ y.announced) ∧
              Records.currDir (y.recordsOf m) = Records.currDir (x.recordsOf m) ∧
              Records.desDir (y.recordsOf m) = Records.desDir (x.recordsOf m) ∧
              (getSdpMediaType m ∈ y.announced ↔ getSdpMediaType m ∈ x.announced ∨
                (some eSdpMediaType = some (getSdpMediaType m) ∧
                  0 < (Records.currDir (x.recordsOf m)).toInt)) := by
            intro m hmem
            have htracked := hx.tracked m hmem
            rcases eq_or_ne eSdpMediaType (getSdpMediaType m) with rfl | hne
            · have hrecords : y.recordsOf m = (Records.formCurrentAttribute (x.recordsOf m)).2 :=
                x.statusTable.getRecords_modifyRecords (PreconditionContext.isSingle_of_mem hmem) _
              have hann : getSdpMediaType m ∈ y.announced ↔ getSdpMediaType m ∈ x.announced ∨
                  0 < (Records.currDir (x.recordsOf m)).toInt := by
                rw [show x.recordsOf m = x.statusTable.getRecords (getSdpMediaType m) from rfl,
                  ← announcesLocalResource_formAttributes x.statusTable _ nPort bUseConf]
                show getSdpMediaType m ∈ (if _ then _ else _) ↔ _
                split
                · rename_i hannounces
                  exact iff_of_true List.mem_cons_self (.inr hannounces)
                · rename_i hannounces
                  exact (or_iff_left hannounces).symm
              obtain ⟨hcurr, hdes⟩ := Records.formCurrentAttribute_dirs htracked
              rw [hrecords]
              refine ⟨?_, hcurr, hdes, ?_⟩
              · obtain ⟨hsingle, hunreserved, hconfirmed⟩ := htracked.formCurrentAttribute
                exact ⟨hsingle, hunreserved, fun hc => hann.mpr (hconfirmed hc)⟩
              · rw [hann]
                simp only [true_and]
            · have hrecords : y.recordsOf m = x.recordsOf m :=
                x.statusTable.getRecords_modifyRecords_of_ne hne _
              have hann : getSdpMediaType m ∈ y.announced ↔ getSdpMediaType m ∈ x.announced := by
                show getSdpMediaType m ∈ (if _ then _ else _) ↔ _
                split
                · exact List.mem_cons.trans (or_iff_right hne.symm)
                · exact Iff.rfl
              rw [hrecords]
              refine ⟨?_, rfl, rfl, ?_⟩
              · exact ⟨htracked.single, htracked.unreserved,
                  fun hc => hann.mpr (htracked.confirmed hc)⟩
              · rw [hann]
                refine (or_iff_left ?_).symm
                rintro ⟨heq, -⟩
                exact hne (Option.some.inj heq)
          refine ⟨⟨hx.noTimer, fun m hmem => (hmedia m hmem).1⟩, ?_, ⟨_, _, rfl⟩, ?_⟩
          · intro m hmem
            exact (hfollows m hmem).of_dirs (hmedia m hmem).2.1 (hmedia m hmem).2.2.1
          · intro m hmem
            exact ⟨(hmedia m hmem).2.1, (hmedia m hmem).2.2.2⟩

theorem announcedBy_cons {media : IMedia} {lstMedias : List IMedia} {m : Nat} :
    x.AnnouncedBy (media :: lstMedias) m ↔ x.AnnouncedBy [media] m ∨ x.AnnouncedBy lstMedias m := by
  unfold AnnouncedBy
  simp only [List.mem_cons, List.not_mem_nil, or_false, exists_eq_left, exists_eq_or_imp]
  exact or_and_right

theorem Consistent.formMedia_foldl (hx : x.Consistent ctx) (hfollows : x.LocalStatusFollows ctx)
    (bUseConf : Bool) (lstMedias : List IMedia) :
    (lstMedias.foldl (MtcPreconditionManager.formMedia bUseConf) x).Consistent ctx ∧
      (lstMedias.foldl (MtcPreconditionManager.formMedia bUseConf) x).LocalStatusFollows ctx ∧
      (∃ t a, lstMedias.foldl (MtcPreconditionManager.formMedia bUseConf) x =
        { x with statusTable := t, announced := a }) ∧
      ∀ m ∈ ctx.mediaTypes,
        (getSdpMediaType m ∈
            (lstMedias.foldl (MtcPreconditionManager.formMedia bUseConf) x).announced ↔
          getSdpMediaType m ∈ x.announced ∨ x.AnnouncedBy lstMedias m) := by
  induction lstMedias generalizing x with
  | nil =>
      refine ⟨hx, hfollows, ⟨_, _, rfl⟩, fun m _ => ?_⟩
      simp [AnnouncedBy]
  | cons media rest ih =>
      obtain ⟨hconsistent, hfollows', ⟨t, a, heq⟩, hann⟩ := hx.formMedia hfollows bUseConf media
      obtain ⟨hconsistent', hfollows'', ⟨t', a', heq'⟩, hann'⟩ := ih hconsistent hfollows'
      refine ⟨hconsistent', hfollows'', ⟨t', a', ?_⟩, fun m hmem => ?_⟩
      · rw [List.foldl_cons, heq', heq]
      · obtain ⟨hcurr, hannounced⟩ := hann m hmem
        have hrest : (x.formMedia bUseConf media).AnnouncedBy rest m ↔ x.AnnouncedBy rest m := by
          unfold AnnouncedBy
          rw [hcurr]
        rw [List.foldl_cons, hann' m hmem, hannounced, hrest, or_assoc, ← announcedBy_cons]

/-- The media that `FormPreconditionSdp` asks records for. -/
def activeMediaTypes (lstMedias : List IMedia) : List Nat :=
  lstMedias.map fun media => SdpPreconditionHelper.getMediaType media.activeLocalType

theorem single_of_mem_activeMediaTypes {lstMedias : List IMedia} {k : Nat}
    (h : k ∈ activeMediaTypes lstMedias) : k = mediaTypeNone ∨ IsSingle k := by
  obtain ⟨media, -, rfl⟩ := List.mem_map.mp h
  cases media.activeLocalType with
  | invalid => exact .inl rfl
  | _ =>
      right
      decide

/-- An SDP with these media announces a reserved media: it has a line for it, and records
with a direction, or new ones. -/
def Announces (x : MtcPreconditionManager) (lstMedias : List IMedia) (eMediaType : Nat) : Prop :=
  (∃ media ∈ lstMedias, media.formedType = some (getSdpMediaType eMediaType)) ∧
    (0 < (Records.currDir (x.recordsOf eMediaType)).toInt ∨
      (x.recordsOf eMediaType = [] ∧ eMediaType ∈ activeMediaTypes lstMedias))

/-- An SDP that is sent: a reserved media of the remote SDP that remains unannounced can
still be confirmed with the flag that the new records leave. -/
def SendConfirmable (ctx : PreconditionContext) (x : MtcPreconditionManager)
    (lstMedias : List IMedia) (bFailure : Bool) : Prop :=
  ∀ eMediaType ∈ ctx.mediaTypes,
    SdpPreconditionHelper.isPreconditionIncludedInSdp lstMedias eMediaType = true →
    x.isLocalResourceReservedByMediaType ctx eMediaType = true →
    getSdpMediaType eMediaType ∉ x.announced →
    x.bSupportingPrecondition = true ∧
      if bFailure then x.bLocalResourceConfirmedInitially = false
      else x.Announces lstMedias eMediaType ∨
        x.confirmedInitiallyAfter ctx (activeMediaTypes lstMedias) = false

theorem announcedBy_created {z : MtcPreconditionManager} {lstMedias : List IMedia} {m : Nat}
    (hrecords : z.recordsOf m =
      if m ∈ activeMediaTypes lstMedias ∧ x.recordsOf m = [] then createdRecords true
      else x.recordsOf m) :
    z.AnnouncedBy lstMedias m ↔ x.Announces lstMedias m := by
  unfold AnnouncedBy Announces
  rw [hrecords]
  apply and_congr Iff.rfl
  split
  · rename_i hcreated
    rw [currDir_createdRecords]
    exact iff_of_true (by decide) (.inr hcreated.symm)
  · rename_i hcreated
    exact (or_iff_left fun h => hcreated h.symm).symm

theorem Consistent.sdpSent (hx : x.Consistent ctx) (hfollows : x.LocalStatusFollows ctx)
    (lstMedias : List IMedia) (bFailure bUseConf : Bool) :
    (x.next ctx (.sdpSent lstMedias bFailure bUseConf)).Consistent ctx ∧
      (x.next ctx (.sdpSent lstMedias bFailure bUseConf)).LocalStatusFollows ctx ∧
      ((x.next ctx (.sdpSent lstMedias bFailure bUseConf)).ConfirmationFollows ctx ↔
        x.SendConfirmable ctx lstMedias bFailure) := by
  let w : MtcPreconditionManager := { x with lstMedias := lstMedias }
  have hw : w.Consistent ctx := ⟨hx.noTimer, hx.tracked⟩
  have hwfollows : w.LocalStatusFollows ctx := hfollows
  show (w.formPreconditionSdp ctx bFailure bUseConf).Consistent ctx ∧
    (w.formPreconditionSdp ctx bFailure bUseConf).LocalStatusFollows ctx ∧
    ((w.formPreconditionSdp ctx bFailure bUseConf).ConfirmationFollows ctx ↔ _)
  cases hskips : !w.bSupportingPrecondition || bFailure with
  | true =>
      have heq : w.formPreconditionSdp ctx bFailure bUseConf = w := if_pos hskips
      rw [heq]
      refine ⟨hw, hwfollows, ?_⟩
      rw [hw.confirmationFollows_iff]
      refine forall_congr' fun m => forall_congr' fun _ => ?_
      constructor
      · intro h hincluded hreserved hunannounced
        obtain ⟨hsupported, hflag⟩ := h ⟨hincluded, hreserved, hunannounced⟩
        rw [hsupported] at hskips
        obtain rfl : bFailure = true := hskips
        exact ⟨hsupported, hflag⟩
      · rintro h ⟨hincluded, hreserved, hunannounced⟩
        obtain ⟨hsupported, hflag⟩ := h hincluded hreserved hunannounced
        have hsupported' : w.bSupportingPrecondition = true := hsupported
        rw [hsupported'] at hskips
        obtain rfl : bFailure = true := hskips
        exact ⟨hsupported, hflag⟩
  | false =>
      obtain ⟨hsupported, rfl⟩ := Bool.or_eq_false_iff.mp hskips
      rw [Bool.not_eq_false'] at hsupported
      let z := (activeMediaTypes lstMedias).foldl (MtcPreconditionManager.createStatusRecords ctx) w
      have heq : w.formPreconditionSdp ctx false bUseConf =
          lstMedias.foldl (MtcPreconditionManager.formMedia bUseConf) z := by
        unfold formPreconditionSdp
        rw [if_neg (by rw [hsupported]; exact Bool.false_ne_true)]
        show List.foldl _ (List.foldl (createRecordsForLocal ctx) w lstMedias) lstMedias = _
        refine congrArg (fun z => List.foldl _ z lstMedias) ?_
        show _ = List.foldl _ w (List.map _ lstMedias)
        rw [List.foldl_map]
        rfl
      obtain ⟨hz, hzfollows⟩ := hw.createStatusRecords hwfollows
        (fun k hk => (single_of_mem_activeMediaTypes hk : k = mediaTypeNone ∨ IsSingle k))
      obtain ⟨⟨t, f, hzeq⟩, hrecords, hflag⟩ := createStatusRecords_foldl ctx
        (fun k hk => (single_of_mem_activeMediaTypes hk : k = mediaTypeNone ∨ IsSingle k)) w hw.noTimer
      obtain ⟨hy, hyfollows, ⟨t', a', hyeq⟩, hannounced⟩ :=
        hz.formMedia_foldl hzfollows bUseConf lstMedias
      rw [heq]
      refine ⟨hy, hyfollows, ?_⟩
      rw [hy.confirmationFollows_iff]
      have hpending : ∀ m ∈ ctx.mediaTypes,
          ((lstMedias.foldl (MtcPreconditionManager.formMedia bUseConf) z).Unannounced ctx m ↔
            SdpPreconditionHelper.isPreconditionIncludedInSdp lstMedias m = true ∧
              x.isLocalResourceReservedByMediaType ctx m = true ∧
              getSdpMediaType m ∉ x.announced ∧ ¬x.Announces lstMedias m) := by
        intro m hmem
        have hsingle := PreconditionContext.isSingle_of_mem hmem
        have hann := hannounced m hmem
        have hkept : (lstMedias.foldl (MtcPreconditionManager.formMedia bUseConf) z).lstMedias =
            lstMedias ∧
            (lstMedias.foldl (MtcPreconditionManager.formMedia bUseConf) z
              ).isLocalResourceReservedByMediaType ctx m =
              x.isLocalResourceReservedByMediaType ctx m := by
          rw [hyeq]
          show z.lstMedias = _ ∧ z.isLocalResourceReservedByMediaType ctx m = _
          rw [show z = _ from hzeq]
          exact ⟨rfl, rfl⟩
        have hzann : z.announced = x.announced := by
          rw [show z = _ from hzeq]
        constructor
        · rintro ⟨hincluded, hreserved, hunannounced⟩
          rw [hkept.1] at hincluded
          rw [hkept.2] at hreserved
          rw [hann, not_or, hzann, announcedBy_created (x := x) (by
            rw [hrecords m hsingle]
            rw [show w.isLocalResourceReservedByMediaType ctx m = true from hreserved]
            rfl)] at hunannounced
          exact ⟨hincluded, hreserved, hunannounced⟩
        · rintro ⟨hincluded, hreserved, hunannounced⟩
          refine ⟨by rw [hkept.1]; exact hincluded, by rw [hkept.2]; exact hreserved, ?_⟩
          rw [hann, not_or, hzann, announcedBy_created (x := x) (by
            rw [hrecords m hsingle]
            rw [show w.isLocalResourceReservedByMediaType ctx m = true from hreserved]
            rfl)]
          exact hunannounced
      have hfinal : (lstMedias.foldl (MtcPreconditionManager.formMedia bUseConf) z
            ).bSupportingPrecondition = true ∧
          (lstMedias.foldl (MtcPreconditionManager.formMedia bUseConf) z
            ).bLocalResourceConfirmedInitially =
            x.confirmedInitiallyAfter ctx (activeMediaTypes lstMedias) := by
        rw [hyeq]
        refine ⟨?_, hflag⟩
        show z.bSupportingPrecondition = true
        rw [show z = _ from hzeq]
        exact hsupported
      refine forall_congr' fun m => forall_congr' fun hmem => ?_
      rw [hpending m hmem, hfinal.1, hfinal.2]
      constructor
      · intro h hincluded hreserved hunannounced
        refine ⟨hsupported, ?_⟩
        show _ ∨ _
        rcases Classical.em (x.Announces lstMedias m) with hannounces | hnot
        · exact .inl hannounces
        · exact .inr (h ⟨hincluded, hreserved, hunannounced, hnot⟩).2
      · rintro h ⟨hincluded, hreserved, hunannounced, hnot⟩
        have hor : x.Announces lstMedias m ∨
            x.confirmedInitiallyAfter ctx (activeMediaTypes lstMedias) = false :=
          (h hincluded hreserved hunannounced).2
        exact ⟨rfl, hor.resolve_left hnot⟩

/-! ### An SDP is received -/

/-- The remote SDP of a media, applied to the records of a type. -/
def applyRemote (eSdpMediaType : SdpMediaType) (records : List QosStatusRecord)
    (media : IMedia) : List QosStatusRecord :=
  match media.remoteSdp with
  | none => records
  | some remote =>
      if remote.nPort ≤ 0 ∨ remote.eType ≠ eSdpMediaType then records
      else Records.updateWithRemoteSdp records remote

/-- The media of the session, applied to the records of a type. -/
def applyRemotes (lstMedias : List IMedia) (eSdpMediaType : SdpMediaType)
    (records : List QosStatusRecord) : List QosStatusRecord :=
  if SdpPreconditionHelper.isPreconditionIncludedInSdp lstMedias mediaTypeNone then
    lstMedias.foldl (applyRemote eSdpMediaType) records
  else records

theorem getRecords_updateStatusTableWithMedia (t : QosStatusTable) (media : IMedia)
    {eSdpMediaType : SdpMediaType} (hvalid : eSdpMediaType ≠ .invalid) :
    (t.updateStatusTableWithMedia media).getRecords eSdpMediaType =
      applyRemote eSdpMediaType (t.getRecords eSdpMediaType) media := by
  unfold QosStatusTable.updateStatusTableWithMedia applyRemote
  cases media.remoteSdp with
  | none => rfl
  | some remote =>
      show (t.updateStatusTableWithRemoteSdp remote).getRecords eSdpMediaType = ite _ _ _
      unfold QosStatusTable.updateStatusTableWithRemoteSdp
      split
      · rename_i hport
        exact (if_pos (.inl hport)).symm
      · rename_i hport
        rcases eq_or_ne remote.eType eSdpMediaType with rfl | hne
        · rw [if_neg (not_or.mpr ⟨hport, not_not.mpr rfl⟩)]
          exact t.getRecords_modifyRecords hvalid _
        · rw [if_pos (.inr hne)]
          exact t.getRecords_modifyRecords_of_ne hne _

theorem getRecords_foldl_updateStatusTableWithMedia (lstMedias : List IMedia)
    (t : QosStatusTable) {eSdpMediaType : SdpMediaType} (hvalid : eSdpMediaType ≠ .invalid) :
    (lstMedias.foldl QosStatusTable.updateStatusTableWithMedia t).getRecords eSdpMediaType =
      lstMedias.foldl (applyRemote eSdpMediaType) (t.getRecords eSdpMediaType) := by
  induction lstMedias generalizing t with
  | nil => rfl
  | cons media rest ih =>
      rw [List.foldl_cons, List.foldl_cons, ih,
        getRecords_updateStatusTableWithMedia t media hvalid]

theorem applyRemotes_kept (lstMedias : List IMedia) (eSdpMediaType : SdpMediaType)
    (records : List QosStatusRecord) :
    (applyRemotes lstMedias eSdpMediaType records).length = records.length ∧
      Records.currLocal (applyRemotes lstMedias eSdpMediaType records) =
        Records.currLocal records := by
  have hmedia : ∀ records media,
      (applyRemote eSdpMediaType records media).length = records.length ∧
        Records.currLocal (applyRemote eSdpMediaType records media) =
          Records.currLocal records := by
    intro records media
    unfold applyRemote
    cases media.remoteSdp with
    | none => exact ⟨rfl, rfl⟩
    | some remote =>
        show (ite _ _ _ : List QosStatusRecord).length = _ ∧ Records.currLocal (ite _ _ _) = _
        split
        · exact ⟨rfl, rfl⟩
        · exact ⟨Records.length_updateWithRemoteSdp records remote,
            Records.currLocal_updateWithRemoteSdp records remote⟩
  unfold applyRemotes
  split
  · exact ⟨Records.foldl_kept List.length _ (fun r m => (hmedia r m).1) _ _,
      Records.foldl_kept Records.currLocal _ (fun r m => (hmedia r m).2) _ _⟩
  · exact ⟨rfl, rfl⟩

/-- An SDP that is received does not raise the desired local direction of a reserved media
above its current one. -/
def ReceiveFollows (ctx : PreconditionContext) (x : MtcPreconditionManager)
    (lstMedias : List IMedia) : Prop :=
  ∀ eMediaType ∈ ctx.mediaTypes, x.isLocalResourceReservedByMediaType ctx eMediaType = true →
    x.recordsOf eMediaType ≠ [] →
    Records.DesiredInUse
      (applyRemotes lstMedias (getSdpMediaType eMediaType) (x.recordsOf eMediaType)) →
    (Records.desDir (applyRemotes lstMedias (getSdpMediaType eMediaType)
        (x.recordsOf eMediaType))).toInt ≤
      (Records.currDir (x.recordsOf eMediaType)).toInt

/-- A reserved media of the remote SDP that remains unannounced can be confirmed with the
flag that the new records leave. -/
def ReceiveConfirmable (ctx : PreconditionContext) (x : MtcPreconditionManager)
    (lstMedias : List IMedia) : Prop :=
  ∀ eMediaType ∈ ctx.mediaTypes,
    SdpPreconditionHelper.isPreconditionIncludedInSdp lstMedias eMediaType = true →
    x.isLocalResourceReservedByMediaType ctx eMediaType = true →
    getSdpMediaType eMediaType ∉ x.announced →
    x.bSupportingPrecondition = true ∧ x.confirmedInitiallyAfter ctx ctx.mediaTypes = false

theorem Consistent.sdpReceived_spec (hx : x.Consistent ctx) (lstMedias : List IMedia) :
    (∃ t, x.next ctx (.sdpReceived lstMedias) =
      { x with
        lstMedias := lstMedias
        statusTable := t
        bLocalResourceConfirmedInitially := x.confirmedInitiallyAfter ctx ctx.mediaTypes }) ∧
      ∀ m ∈ ctx.mediaTypes, (x.next ctx (.sdpReceived lstMedias)).recordsOf m =
        applyRemotes lstMedias (getSdpMediaType m)
          (if x.recordsOf m = [] then
            createdRecords (x.isLocalResourceReservedByMediaType ctx m)
          else x.recordsOf m) := by
  let w : MtcPreconditionManager := { x with lstMedias := lstMedias }
  obtain ⟨⟨t, f, heq⟩, hrecords, hflag⟩ := createStatusRecords_foldl ctx
    (fun k hk => .inr (PreconditionContext.isSingle_of_mem hk)) w hx.noTimer
  obtain rfl : f = x.confirmedInitiallyAfter ctx ctx.mediaTypes := by
    rw [heq] at hflag
    exact hflag
  have hcreated : w.createStatusRecordsWithActiveMediaTypes ctx =
      { w with
        statusTable := t.removeUnusedRecords (getMediaTypesFromCallType ctx.eCallType)
        bLocalResourceConfirmedInitially := x.confirmedInitiallyAfter ctx ctx.mediaTypes } := by
    unfold createStatusRecordsWithActiveMediaTypes
    rw [heq]
  have ht : ∀ m ∈ ctx.mediaTypes,
      (t.removeUnusedRecords (getMediaTypesFromCallType ctx.eCallType)).getRecords
        (getSdpMediaType m) =
      if x.recordsOf m = [] then createdRecords (x.isLocalResourceReservedByMediaType ctx m)
      else x.recordsOf m := by
    intro m hmem
    have hrec := hrecords m (PreconditionContext.isSingle_of_mem hmem)
    rw [heq] at hrec
    rw [PreconditionContext.getRecords_removeUnusedRecords hmem]
    refine hrec.trans ?_
    simp only [hmem, true_and]
    rfl
  show (∃ t, w.onSdpReceived ctx = _) ∧ ∀ m ∈ _, (w.onSdpReceived ctx).recordsOf m = _
  unfold onSdpReceived applyRemotes
  rw [hcreated]
  show (∃ t, (ite (SdpPreconditionHelper.isPreconditionIncludedInSdp lstMedias mediaTypeNone =
      true) _ _ : MtcPreconditionManager) = _) ∧ ∀ m ∈ _, recordsOf (ite
        (SdpPreconditionHelper.isPreconditionIncludedInSdp lstMedias mediaTypeNone = true) _ _)
        m = _
  split
  · refine ⟨⟨_, rfl⟩, fun m hmem => ?_⟩
    rw [← ht m hmem]
    exact getRecords_foldl_updateStatusTableWithMedia lstMedias _
      (PreconditionContext.isSingle_of_mem hmem)
  · exact ⟨⟨_, rfl⟩, ht⟩

theorem Consistent.sdpReceived (hx : x.Consistent ctx) (lstMedias : List IMedia) :
    (x.next ctx (.sdpReceived lstMedias)).Consistent ctx ∧
      ((x.next ctx (.sdpReceived lstMedias)).LocalStatusFollows ctx ↔
        x.ReceiveFollows ctx lstMedias) ∧
      ((x.next ctx (.sdpReceived lstMedias)).ConfirmationFollows ctx ↔
        x.ReceiveConfirmable ctx lstMedias) := by
  obtain ⟨⟨t, heq⟩, hrecords⟩ := hx.sdpReceived_spec lstMedias
  have hcreated : ∀ m ∈ ctx.mediaTypes,
      Records.Tracked (if x.recordsOf m = [] then
          createdRecords (x.isLocalResourceReservedByMediaType ctx m) else x.recordsOf m)
        (x.isLocalResourceReservedByMediaType ctx m) (getSdpMediaType m ∈ x.announced) := by
    intro m hmem
    split
    · exact (tracked_createdRecords _ _).1
    · exact hx.tracked m hmem
  have htracked : ∀ m ∈ ctx.mediaTypes,
      Records.Tracked ((x.next ctx (.sdpReceived lstMedias)).recordsOf m)
        (x.isLocalResourceReservedByMediaType ctx m) (getSdpMediaType m ∈ x.announced) := by
    intro m hmem
    rw [hrecords m hmem]
    exact (hcreated m hmem).of_currLocal (applyRemotes_kept _ _ _).1 (applyRemotes_kept _ _ _).2
  have hy : (x.next ctx (.sdpReceived lstMedias)).Consistent ctx := by
    constructor
    · rw [heq]
      exact hx.noTimer
    · intro m hmem
      have hm := htracked m hmem
      rw [heq] at hm ⊢
      exact hm
  have hreserved : ∀ m,
      (x.next ctx (.sdpReceived lstMedias)).isLocalResourceReservedByMediaType ctx m =
        x.isLocalResourceReservedByMediaType ctx m := by
    intro m
    rw [heq]
    rfl
  refine ⟨hy, ?_, ?_⟩
  · constructor
    · intro h m hmem hres hne hinUse
      have hm := h m hmem
      rw [hreserved m, hres, hrecords m hmem, if_neg hne] at hm
      have henabled := (hm hinUse).mpr rfl
      rw [Records.isCurrentStatusEnabled_of_inUse hinUse,
        Records.currDir_congr (applyRemotes_kept _ _ _).2] at henabled
      exact henabled
    · intro h m hmem
      rw [hreserved m]
      cases hres : x.isLocalResourceReservedByMediaType ctx m with
      | false => exact (hres ▸ htracked m hmem).follows_unreserved
      | true =>
          rw [hrecords m hmem]
          intro hinUse
          apply iff_of_true _ rfl
          rw [Records.isCurrentStatusEnabled_of_inUse hinUse,
            Records.currDir_congr (applyRemotes_kept _ _ _).2]
          split
          · rw [hres, currDir_createdRecords]
            exact Direction.toInt_le _
          · rename_i hne
            rw [if_neg hne] at hinUse
            exact h m hmem hres hne hinUse
  · rw [hy.confirmationFollows_iff]
    refine forall_congr' fun m => forall_congr' fun _ => ?_
    have hkept : (x.next ctx (.sdpReceived lstMedias)).lstMedias = lstMedias ∧
        (x.next ctx (.sdpReceived lstMedias)).announced = x.announced ∧
        (x.next ctx (.sdpReceived lstMedias)).bSupportingPrecondition =
          x.bSupportingPrecondition ∧
        (x.next ctx (.sdpReceived lstMedias)).bLocalResourceConfirmedInitially =
          x.confirmedInitiallyAfter ctx ctx.mediaTypes := by
      rw [heq]
      exact ⟨rfl, rfl, rfl, rfl⟩
    rw [hkept.2.2.1, hkept.2.2.2]
    constructor
    · intro h hincluded hres hunannounced
      apply h
      exact ⟨by rw [hkept.1]; exact hincluded, (hreserved m).trans hres,
        by rw [hkept.2.1]; exact hunannounced⟩
    · rintro h ⟨hincluded, hres, hunannounced⟩
      rw [hkept.1] at hincluded
      rw [hreserved m] at hres
      rw [hkept.2.1] at hunannounced
      exact h hincluded hres hunannounced

/-! ### Runs -/

/-- The condition on an event under which the table and the confirmation go on following the
bearers. -/
def Meets (ctx : PreconditionContext) (x : MtcPreconditionManager) : PreconditionEvent → Prop
  | .qosStatusChanged k eStatus =>
      x.ReservesConfirmable ctx fun eMediaType => eMediaType = k ∧ eStatus = .available
  | .ratChangedToWlan =>
      x.HandoverEnables ctx ∧ x.ReservesConfirmable ctx fun _ => True
  | .sdpSent lstMedias bFailure _ => x.SendConfirmable ctx lstMedias bFailure
  | .sdpReceived lstMedias =>
      x.ReceiveFollows ctx lstMedias ∧ x.ReceiveConfirmable ctx lstMedias
  | .forceAvailableTimerExpired => x.ReservesConfirmable ctx fun _ => True

theorem Consistent.next (hx : x.Consistent ctx) (hfollows : x.LocalStatusFollows ctx)
    (hconfirmation : x.ConfirmationFollows ctx) (e : PreconditionEvent) :
    (x.next ctx e).Consistent ctx ∧
      ((x.next ctx e).LocalStatusFollows ctx ∧ (x.next ctx e).ConfirmationFollows ctx ↔
        x.Meets ctx e) := by
  cases e with
  | qosStatusChanged k eStatus =>
      obtain ⟨hy, hyfollows, hsame, hbecomes, hreserved⟩ :=
        hx.onQosStatusChanged hfollows k eStatus
      refine ⟨hy, (and_iff_right hyfollows).trans ?_⟩
      exact hx.confirmationFollows_step hconfirmation hy hsame hbecomes hreserved
  | ratChangedToWlan =>
      obtain ⟨hy, hyfollows, hsame, hreserved⟩ := hx.onRatChangedToWlan hfollows
      refine ⟨hy, and_congr hyfollows ?_⟩
      exact hx.confirmationFollows_step hconfirmation hy hsame
        (fun m _ _ => hreserved m) (fun _ _ _ => .inl trivial)
  | sdpSent lstMedias bFailure bUseConf =>
      obtain ⟨hy, hyfollows, hconfirm⟩ := hx.sdpSent hfollows lstMedias bFailure bUseConf
      exact ⟨hy, (and_iff_right hyfollows).trans hconfirm⟩
  | sdpReceived lstMedias =>
      obtain ⟨hy, hyfollows, hconfirm⟩ := hx.sdpReceived lstMedias
      exact ⟨hy, and_congr hyfollows hconfirm⟩
  | forceAvailableTimerExpired =>
      obtain ⟨hy, hyfollows, hsame, hreserved⟩ :=
        hx.setMediaAvailable_foldl (fun _ h => h) hfollows
      refine ⟨hy, (and_iff_right hyfollows).trans ?_⟩
      exact hx.confirmationFollows_step hconfirmation hy hsame
        (fun m hmem _ => hreserved m hmem (.inl hmem)) (fun _ _ _ => .inl trivial)

/-- In every run whose events meet the condition the local current status of each media of
the call is enabled exactly when its bearer is reserved, and a reserved media that no SDP has
announced asks for a confirmation; and the next event keeps this exactly when it meets the
condition. -/
theorem localStatus_followsBearers
    (hx : ((sessions ctx).restrict (Meets ctx)).Reachable x) :
    (x.LocalStatusFollows ctx ∧ x.ConfirmationFollows ctx) ∧
      ∀ e, (x.next ctx e).LocalStatusFollows ctx ∧ (x.next ctx e).ConfirmationFollows ctx ↔
        x.Meets ctx e := by
  have hall : x.Consistent ctx ∧ x.LocalStatusFollows ctx ∧ x.ConfirmationFollows ctx := by
    induction hx with
    | init h =>
        obtain ⟨htable, htimer, hannounced, hmedias, -⟩ := h
        rename_i x
        have hrecords : ∀ m, x.recordsOf m = [] := by
          intro m
          unfold recordsOf
          rw [htable]
          cases getSdpMediaType m <;> rfl
        refine ⟨⟨htimer, fun m _ => ?_⟩, fun m _ => ?_, ?_⟩
        · rw [hrecords m]
          exact Records.tracked_nil _ _
        · rw [hrecords m]
          exact Records.follows_nil _
        · rintro ⟨m, -, hincluded, -, -⟩
          rw [hmedias] at hincluded
          cases hincluded
    | step e _ h ih =>
        obtain ⟨hmeets, rfl⟩ := h
        obtain ⟨hy, hiff⟩ := ih.1.next ih.2.1 ih.2.2 e
        exact ⟨hy, hiff.mpr hmeets⟩
  exact ⟨hall.2, fun e => (hall.1.next hall.2.1 hall.2.2 e).2⟩

/-! ### Runs of single calls -/

/-- A media of the session that is offered, and answered where the peer's part is given. -/
def offered (eType : SdpMediaType) (remoteSdp : Option SdpMedia) : IMedia :=
  ⟨false, some (eType, 5000), remoteSdp⟩

/-- A call in which only video may use the default bearer. -/
def videoOnDefaultBearer (eCallType : CallType) : PreconditionContext :=
  ⟨eCallType, false, false, true, false, false⟩

def created : MtcPreconditionManager :=
  ⟨.idle, .idle, .idle, .new, true, false, false, false, [], []⟩

/-- The answer of a peer that has not reserved anything. -/
def answered (eType : SdpMediaType) : SdpMedia :=
  ⟨eType, 6000, some ⟨[⟨.none, .notUsed⟩], [⟨.none, .notUsed⟩]⟩, none, none⟩

theorem reachable_created (eCallType : CallType) :
    (sessions (videoOnDefaultBearer eCallType)).Reachable created :=
  .init ⟨rfl, rfl, rfl, rfl, fun _ => rfl⟩

/-- An audio call is offered, and its bearer becomes available. -/
theorem localStatus_followsBearers_audio :
    ∃ x : MtcPreconditionManager, x.recordsOf mediaTypeAudio ≠ [] ∧
      x.LocalStatusFollows (videoOnDefaultBearer .voip) ∧
      x.ConfirmationFollows (videoOnDefaultBearer .voip) := by
  have hstart : ((sessions (videoOnDefaultBearer .voip)).restrict
      (Meets (videoOnDefaultBearer .voip))).Reachable created :=
    .init ⟨rfl, rfl, rfl, rfl, fun _ => rfl⟩
  have hoffered : ((sessions (videoOnDefaultBearer .voip)).restrict
      (Meets (videoOnDefaultBearer .voip))).Reachable
      (created.next (videoOnDefaultBearer .voip)
        (.sdpSent [offered .audio none] false false)) := by
    refine .step _ hstart ⟨?_, rfl⟩
    intro m hmem hincluded
    obtain rfl : m = mediaTypeAudio := List.mem_singleton.mp hmem
    exact absurd hincluded (by decide)
  have havailable : ((sessions (videoOnDefaultBearer .voip)).restrict
      (Meets (videoOnDefaultBearer .voip))).Reachable
      ((created.next (videoOnDefaultBearer .voip)
        (.sdpSent [offered .audio none] false false)).next (videoOnDefaultBearer .voip)
        (.qosStatusChanged mediaTypeAudio .available)) := by
    refine .step _ hoffered ⟨?_, rfl⟩
    intro m hmem _ hincluded
    obtain rfl : m = mediaTypeAudio := List.mem_singleton.mp hmem
    exact absurd hincluded (by decide)
  exact ⟨_, by decide, (localStatus_followsBearers havailable).1⟩

/-- The handover of a video call leaves its table as it was; and the flag that the records of
the video left says that the audio needs no confirmation. -/
theorem localStatus_notFollowsBearers :
    (∃ x, (sessions (videoOnDefaultBearer .vt)).Reachable x ∧
      ¬x.LocalStatusFollows (videoOnDefaultBearer .vt)) ∧
    ∃ x, (sessions (videoOnDefaultBearer .vt)).Reachable x ∧
      ¬x.ConfirmationFollows (videoOnDefaultBearer .vt) := by
  have hoffered : (sessions (videoOnDefaultBearer .vt)).Reachable
      (created.next (videoOnDefaultBearer .vt)
        (.sdpSent [offered .audio none, offered .video none] false false)) :=
    .step _ (reachable_created .vt) rfl
  constructor
  · refine ⟨_, .step .ratChangedToWlan hoffered rfl, ?_⟩
    intro h
    have haudio := h mediaTypeAudio (by decide) (by decide)
    exact absurd (haudio.mpr rfl) (by decide)
  · have hanswered : (sessions (videoOnDefaultBearer .vt)).Reachable
        ((created.next (videoOnDefaultBearer .vt)
          (.sdpSent [offered .audio none, offered .video none] false false)).next
          (videoOnDefaultBearer .vt)
          (.sdpReceived [offered .audio (some (answered .audio)),
            offered .video (some (answered .video))])) :=
      .step _ hoffered rfl
    refine ⟨_, .step (.qosStatusChanged mediaTypeAudio .available) hanswered rfl, ?_⟩
    intro h
    have hrequired := h ⟨mediaTypeAudio, by decide, by decide, rfl, by decide⟩
    exact absurd hrequired (by decide)

end MtcPreconditionManager

end ImsStack.Precondition
