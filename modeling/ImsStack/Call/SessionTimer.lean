import ImsStack.Library.BoundedInt

/-!
`SessionRefreshHelper::GetTimerInterval`: when the session timer of a call expires, from the session
interval and the time of a transaction.
-/

namespace ImsStack.Call

open Library.BoundedInt

/-- `SessionRefreshHelper::REFRESHER_*`. -/
inductive Refresher where
  | none | local | remote
  deriving DecidableEq, Repr

/-- `RefreshHelper::POLICY_*`. -/
inductive RefreshPolicy where
  | noRefresh | spec | remainTime | ratio
  deriving DecidableEq, Repr

/-- The methods that refresh a session. -/
inductive RefreshMethod where
  | invite | update
  deriving DecidableEq, Repr

/-- The values of `SipTimerValues` that are set. -/
structure SipTimerValues where
  t1 : Option Int32 := none
  b : Option Int32 := none
  f : Option Int32 := none
  deriving DecidableEq, Repr

structure SipConfigV where
  /-- `GetSessionMethod`: whether it is SESSION_REFRESH_UPDATE_PREFERRED. -/
  updatePreferred : Bool
  timerValueT1 : Int32
  timerValueB : Int32
  timerValueF : Int32
  deriving DecidableEq, Repr

/-- What the interval of the session timer is computed from. -/
structure SessionRefreshHelper where
  refresher : Refresher
  /-- `m_nDuration`, the session interval in seconds. -/
  duration : Int32
  policy : RefreshPolicy := .spec
  criteriaInterval : Int32 := 1200
  valueEorLt : Int32 := 50
  valueGt : Int32 := 600
  bUpdateMethodAllowed : Bool := false
  /-- The timer values of the SIP profile, if the service has one. -/
  profile : SipTimerValues := {}
  sipConfigV : Option SipConfigV := none
  /-- `SipConfigProxy::GetTimerValueT1` of the slot. -/
  slotT1 : Int32 := 2000
  deriving DecidableEq, Repr

namespace SessionRefreshHelper

def getRefreshMethod (h : SessionRefreshHelper) : RefreshMethod :=
  let updatePreferred := h.sipConfigV.elim true SipConfigV.updatePreferred
  if h.bUpdateMethodAllowed && updatePreferred then .update else .invite

/-- What `SipConfigProxy` finds in the profile, or as a positive value in the configuration. -/
def configured (h : SessionRefreshHelper) (value : SipTimerValues → Option Int32)
    (timerValue : SipConfigV → Int32) : Option Int32 :=
  (value h.profile).or ((h.sipConfigV.map timerValue).filter (0 < ·))

def getTimerValueT1 (h : SessionRefreshHelper) : Int32 :=
  (h.configured SipTimerValues.t1 SipConfigV.timerValueT1).getD h.slotT1

/-- `SipConfigProxy::GetTimerValueB` and `GetTimerValueF`. -/
def getTimerValue (h : SessionRefreshHelper) (value : SipTimerValues → Option Int32)
    (timerValue : SipConfigV → Int32) : Option Int :=
  match h.configured value timerValue with
  | some tv => some tv.toInt
  | none => checked (h.getTimerValueT1.toInt * 64)

def getTimerValueB (h : SessionRefreshHelper) : Option Int :=
  h.getTimerValue SipTimerValues.b SipConfigV.timerValueB

def getTimerValueF (h : SessionRefreshHelper) : Option Int :=
  h.getTimerValue SipTimerValues.f SipConfigV.timerValueF

/-- `RefreshHelper::GetTimerInterval`. -/
def policyInterval (h : SessionRefreshHelper) : Option Int :=
  let nExpirationTime := h.duration.toInt
  let remain (nValue : Int32) := checked (nExpirationTime - nValue.toInt)
  let ratio (nValue : Int32) :=
    (checked (nExpirationTime * nValue.toInt)).map fun product => product.tdiv 100
  match h.policy with
  | .spec =>
    if h.criteriaInterval.toInt < nExpirationTime then remain h.valueGt else ratio h.valueEorLt
  | .remainTime =>
    if h.criteriaInterval.toInt < nExpirationTime then remain h.valueGt else remain h.valueEorLt
  | .ratio =>
    if h.criteriaInterval.toInt < nExpirationTime then ratio h.valueGt else ratio h.valueEorLt
  | .noRefresh => some (nExpirationTime.tdiv 2)

/-- The end of an interval when the peer refreshes, from the time of a transaction in seconds. -/
def nonRefresherInterval (nTimerInterval nRefreshMethodTxnTv : Int) : Option Int := do
  let nMinInterval := nTimerInterval.tdiv 3
  let nMaxInterval := if nMinInterval > nRefreshMethodTxnTv then nMinInterval
    else nRefreshMethodTxnTv
  let nMinInterval := if nMinInterval < nRefreshMethodTxnTv then nMinInterval
    else nRefreshMethodTxnTv
  let nNonRefresherInterval1 ← checked (nTimerInterval - nMinInterval)
  let nNonRefresherInterval2 ← checked (nTimerInterval.tdiv 2 + nMaxInterval)
  if nNonRefresherInterval2 > nTimerInterval then return nNonRefresherInterval1
  else if nNonRefresherInterval1 > nNonRefresherInterval2 then return nNonRefresherInterval1
  else return nNonRefresherInterval2

/-- The transaction timer of the method that refreshes the session. -/
def refreshMethodTxnTv (h : SessionRefreshHelper) : Option Int :=
  match h.getRefreshMethod with
  | .invite => h.getTimerValueB
  | .update => h.getTimerValueF

/-- `GetTimerInterval` in seconds; `none` is an overflow. -/
def getTimerInterval (h : SessionRefreshHelper) : Option Int :=
  match h.refresher with
  | .none => some h.duration.toInt
  | .local => some (h.duration.toInt.tdiv 2)
  | .remote =>
    if h.policy ≠ .spec then h.policyInterval
    else do
      let nRefreshMethodTxnTv ← h.refreshMethodTxnTv
      let fallBack := if nRefreshMethodTxnTv < 0 then checked (h.getTimerValueT1.toInt * 64)
        else some nRefreshMethodTxnTv
      let nRefreshMethodTxnTv ← fallBack
      nonRefresherInterval h.duration.toInt (nRefreshMethodTxnTv.tdiv 1000)

/-- The timer that a refresh is measured by, B for INVITE and F for UPDATE. -/
def configuredTimer (h : SessionRefreshHelper) : Option Int32 :=
  match h.getRefreshMethod with
  | .invite => h.configured SipTimerValues.b SipConfigV.timerValueB
  | .update => h.configured SipTimerValues.f SipConfigV.timerValueF

/-- 64 times T1 is taken where the timer has no value. -/
def FallsBack (h : SessionRefreshHelper) : Prop := ∀ tv ∈ h.configuredTimer, tv.toInt < 0

instance (h : SessionRefreshHelper) : Decidable h.FallsBack :=
  match hc : h.configuredTimer with
  | none => isTrue (by simp [FallsBack, hc])
  | some tv => decidable_of_iff (tv.toInt < 0) (by simp [FallsBack, hc])

/-- The time of a transaction in milliseconds. -/
def transactionTime (h : SessionRefreshHelper) : Int :=
  if h.FallsBack then h.getTimerValueT1.toInt * 64
  else h.configuredTimer.elim 0 Int32.toInt

/-- No overflow, and an end that is inside the session interval: at its half when the refreshes are
sent, and in its last third when the peer sends them. -/
def Timely (h : SessionRefreshHelper) : Prop :=
  ∃ nTimerInterval, h.getTimerInterval = some nTimerInterval ∧
    (3 ≤ h.duration.toInt →
      0 < nTimerInterval ∧ nTimerInterval < h.duration.toInt ∧
        (h.refresher = .local → nTimerInterval = h.duration.toInt / 2) ∧
        (h.refresher = .remote →
          h.duration.toInt - h.duration.toInt / 3 ≤ nTimerInterval ∧
            nTimerInterval ≤ h.duration.toInt - 1))

/-- The transaction lasts for a second or more, and does not fill the second half of the session
interval exactly. -/
def LeavesTime (h : SessionRefreshHelper) : Prop :=
  (h.FallsBack → Fits (h.getTimerValueT1.toInt * 64)) ∧
    (3 ≤ h.duration.toInt →
      1000 ≤ h.transactionTime ∧
        h.transactionTime / 1000 ≠ h.duration.toInt - h.duration.toInt / 2)

instance (h : SessionRefreshHelper) : Decidable h.LeavesTime := inferInstanceAs (Decidable (_ ∧ _))

section nonRefresher

variable {nTimerInterval nRefreshMethodTxnTv : Int}

theorem nonRefresherInterval_of_lt (hd : 0 < nTimerInterval) (hfits : Fits nTimerInterval)
    (hv : nRefreshMethodTxnTv < nTimerInterval / 3) :
    nonRefresherInterval nTimerInterval nRefreshMethodTxnTv =
      (checked (nTimerInterval - nRefreshMethodTxnTv)).map fun nNonRefresherInterval1 =>
        if nNonRefresherInterval1 > nTimerInterval / 2 + nTimerInterval / 3
        then nNonRefresherInterval1 else nTimerInterval / 2 + nTimerInterval / 3 := by
  have hsum : checked (nTimerInterval / 2 + nTimerInterval / 3) =
      some (nTimerInterval / 2 + nTimerInterval / 3) := by
    apply checked_of_fits
    unfold Fits at hfits ⊢
    omega
  have hinside : ¬nTimerInterval / 2 + nTimerInterval / 3 > nTimerInterval := by omega
  unfold nonRefresherInterval
  rw [Int.tdiv_eq_ediv_of_nonneg (by omega), Int.tdiv_eq_ediv_of_nonneg (by omega)]
  simp only [if_pos hv, if_neg (by omega : ¬nTimerInterval / 3 < nRefreshMethodTxnTv), hsum]
  cases checked (nTimerInterval - nRefreshMethodTxnTv) with
  | none => rfl
  | some nNonRefresherInterval1 =>
    simp only [Option.bind_eq_bind, Option.bind_some, if_neg hinside, Option.map_some]
    split <;> rfl

theorem nonRefresherInterval_of_le (hd : 0 < nTimerInterval) (hfits : Fits nTimerInterval)
    (hv : nTimerInterval / 3 ≤ nRefreshMethodTxnTv) (hrange : nRefreshMethodTxnTv ≤ 2147483) :
    nonRefresherInterval nTimerInterval nRefreshMethodTxnTv =
      some (if nTimerInterval / 2 + nRefreshMethodTxnTv > nTimerInterval
        then nTimerInterval - nTimerInterval / 3
        else if nTimerInterval - nTimerInterval / 3 > nTimerInterval / 2 + nRefreshMethodTxnTv
        then nTimerInterval - nTimerInterval / 3
        else nTimerInterval / 2 + nRefreshMethodTxnTv) := by
  have hdifference : checked (nTimerInterval - nTimerInterval / 3) =
      some (nTimerInterval - nTimerInterval / 3) := by
    apply checked_of_fits
    unfold Fits at hfits ⊢
    omega
  have hsum : checked (nTimerInterval / 2 + nRefreshMethodTxnTv) =
      some (nTimerInterval / 2 + nRefreshMethodTxnTv) := by
    apply checked_of_fits
    unfold Fits at hfits ⊢
    omega
  have hmin : (if nTimerInterval / 3 < nRefreshMethodTxnTv then nTimerInterval / 3
      else nRefreshMethodTxnTv) = nTimerInterval / 3 := by
    split <;> omega
  unfold nonRefresherInterval
  rw [Int.tdiv_eq_ediv_of_nonneg (by omega), Int.tdiv_eq_ediv_of_nonneg (by omega)]
  simp only [if_neg (by omega : ¬nTimerInterval / 3 > nRefreshMethodTxnTv), hmin, hdifference,
    hsum, Option.bind_eq_bind, Option.bind_some]
  split
  · rfl
  · split <;> rfl

theorem exists_nonRefresherInterval_iff (hd : 0 < nTimerInterval) (hfits : Fits nTimerInterval)
    (hrange : -2147484 ≤ nRefreshMethodTxnTv ∧ nRefreshMethodTxnTv ≤ 2147483) :
    (∃ n, nonRefresherInterval nTimerInterval nRefreshMethodTxnTv = some n ∧
        (3 ≤ nTimerInterval → nTimerInterval - nTimerInterval / 3 ≤ n ∧ n ≤ nTimerInterval - 1)) ↔
      (3 ≤ nTimerInterval →
        1 ≤ nRefreshMethodTxnTv ∧ nRefreshMethodTxnTv ≠ nTimerInterval - nTimerInterval / 2) := by
  by_cases hv : nRefreshMethodTxnTv < nTimerInterval / 3
  · simp only [nonRefresherInterval_of_lt hd hfits hv, Option.map_eq_some_iff]
    constructor
    · rintro ⟨n, ⟨difference, hdifference, rfl⟩, hn⟩ hthree
      have hexact := checked_eq_some_iff.mp hdifference
      have hn := hn hthree
      split at hn <;> omega
    · intro h
      refine ⟨_, ⟨_, checked_of_fits ?_, rfl⟩, ?_⟩
      · unfold Fits at hfits ⊢
        omega
      · intro hthree
        have := h hthree
        split <;> omega
  · rw [Int.not_lt] at hv
    simp only [nonRefresherInterval_of_le hd hfits hv hrange.2, Option.some.injEq, exists_eq_left']
    constructor
    · intro h hthree
      have hn := h hthree
      split at hn
      · omega
      · split at hn <;> omega
    · intro h hthree
      have := h hthree
      split
      · omega
      · split <;> omega

end nonRefresher

variable {h : SessionRefreshHelper}

theorem getTimerValue_eq (value : SipTimerValues → Option Int32)
    (timerValue : SipConfigV → Int32) :
    h.getTimerValue value timerValue =
      (h.configured value timerValue).elim (checked (h.getTimerValueT1.toInt * 64))
        fun tv => some tv.toInt := by
  unfold getTimerValue
  cases h.configured value timerValue with
  | none => rfl
  | some tv => rfl

theorem getTimerInterval_remote (hremote : h.refresher = .remote) (hspec : h.policy = .spec) :
    h.getTimerInterval =
      (if h.FallsBack then checked (h.getTimerValueT1.toInt * 64) else some h.transactionTime).bind
        fun txnTv => nonRefresherInterval h.duration.toInt (txnTv.tdiv 1000) := by
  have hgetter : h.refreshMethodTxnTv =
      h.configuredTimer.elim (checked (h.getTimerValueT1.toInt * 64)) fun tv => some tv.toInt := by
    unfold refreshMethodTxnTv configuredTimer getTimerValueB getTimerValueF
    cases h.getRefreshMethod with
    | invite => exact getTimerValue_eq _ _
    | update => exact getTimerValue_eq _ _
  unfold getTimerInterval
  rw [hremote]
  simp only [hspec, ne_eq, not_true_eq_false, if_false, hgetter, Option.bind_eq_bind]
  cases hc : h.configuredTimer with
  | none =>
    have hfalls : h.FallsBack := by simp [FallsBack, hc]
    rw [if_pos hfalls, Option.elim_none]
    cases hchecked : checked (h.getTimerValueT1.toInt * 64) with
    | none => rfl
    | some txnTv =>
      simp only [Option.bind_some]
      split <;> rfl
  | some tv =>
    have hfalls : h.FallsBack ↔ tv.toInt < 0 := by simp [FallsBack, hc]
    simp only [Option.elim_some, Option.bind_some, hfalls]
    split
    · rfl
    · next hpositive =>
      have htime : h.transactionTime = tv.toInt := by
        unfold transactionTime
        rw [if_neg fun hf => hpositive (hfalls.mp hf), hc, Option.elim_some]
      rw [htime]

theorem fits_transactionTime (hfalls : h.FallsBack → Fits (h.getTimerValueT1.toInt * 64)) :
    Fits h.transactionTime := by
  unfold transactionTime
  split
  · next hf => exact hfalls hf
  · cases h.configuredTimer with
    | none => decide
    | some tv => exact fits_toInt tv

theorem seconds_of_fits {tv : Int} (hfits : Fits tv) :
    (1 ≤ tv.tdiv 1000 ↔ 1000 ≤ tv) ∧ (0 ≤ tv → tv.tdiv 1000 = tv / 1000) ∧
      -2147484 ≤ tv.tdiv 1000 ∧ tv.tdiv 1000 ≤ 2147483 := by
  unfold Fits at hfits
  have htdiv : ∀ n : Int, 0 ≤ n → n.tdiv 1000 = n / 1000 := fun n hn =>
    Int.tdiv_eq_ediv_of_nonneg hn
  rcases Int.le_total 0 tv with hpositive | hnegative
  · rw [htdiv tv hpositive]
    omega
  · have hneg := htdiv (-tv) (by omega)
    rw [Int.neg_tdiv] at hneg
    omega

theorem timely_iff_of_remote (hd : 0 < h.duration.toInt) (hremote : h.refresher = .remote)
    (hspec : h.policy = .spec) : h.Timely ↔ h.LeavesTime := by
  have hinterval := getTimerInterval_remote hremote hspec
  by_cases hfalls : h.FallsBack → Fits (h.getTimerValueT1.toInt * 64)
  · have htime := fits_transactionTime hfalls
    have hvalue : h.getTimerInterval =
        nonRefresherInterval h.duration.toInt (h.transactionTime.tdiv 1000) := by
      rw [hinterval]
      split
      · next hf =>
        rw [checked_of_fits (hfalls hf), Option.bind_some, transactionTime, if_pos hf]
      · rfl
    obtain ⟨hone, hseconds, hrange⟩ := seconds_of_fits htime
    have hexists := exists_nonRefresherInterval_iff hd (fits_toInt h.duration) hrange
    unfold LeavesTime Timely
    rw [hvalue]
    constructor
    · rintro ⟨n, hn, htimely⟩
      refine ⟨hfalls, ?_⟩
      intro hthree
      obtain ⟨hmin, hhalf⟩ :=
        hexists.mp ⟨n, hn, fun hthree => (htimely hthree).2.2.2 hremote⟩ hthree
      have hmin := hone.mp hmin
      rw [hseconds (by omega)] at hhalf
      exact ⟨hmin, hhalf⟩
    · rintro ⟨-, hleaves⟩
      have hexact : 3 ≤ h.duration.toInt → 1 ≤ h.transactionTime.tdiv 1000 ∧
          h.transactionTime.tdiv 1000 ≠ h.duration.toInt - h.duration.toInt / 2 := by
        intro hthree
        obtain ⟨hmin, hhalf⟩ := hleaves hthree
        rw [← hseconds (by omega)] at hhalf
        exact ⟨hone.mpr hmin, hhalf⟩
      obtain ⟨n, hn, hbounds⟩ := hexists.mpr hexact
      refine ⟨n, hn, ?_⟩
      intro hthree
      have hbounds := hbounds hthree
      exact ⟨by omega, by omega, fun hlocal => by simp [hremote] at hlocal, fun _ => hbounds⟩
  · apply iff_of_false
    · rintro ⟨n, hn, -⟩
      rw [Classical.not_imp] at hfalls
      rw [hinterval, if_pos hfalls.1, checked, if_neg hfalls.2] at hn
      cases hn
    · intro hleaves
      exact hfalls hleaves.1

theorem timely_of_local (hd : 0 < h.duration.toInt) (hlocal : h.refresher = .local) : h.Timely := by
  refine ⟨h.duration.toInt / 2, ?_, ?_⟩
  · unfold getTimerInterval
    rw [hlocal, Int.tdiv_eq_ediv_of_nonneg (by omega)]
  · intro hthree
    exact ⟨by omega, by omega, fun _ => rfl, fun hremote => by simp [hlocal] at hremote⟩

theorem timely_iff (h : SessionRefreshHelper) (hd : 0 < h.duration.toInt) (hspec : h.policy = .spec)
    (hrefresher : h.refresher ≠ .none) :
    h.Timely ↔ (h.refresher = .remote → h.LeavesTime) := by
  cases hr : h.refresher with
  | none => exact absurd hr hrefresher
  | «local» => exact iff_of_true (timely_of_local hd hr) (by simp)
  | remote =>
    rw [timely_iff_of_remote hd hr hspec]
    exact ⟨fun hleaves _ => hleaves, fun hleaves => hleaves rfl⟩

/-- A session interval of 90 seconds with the default Timer F of 32 seconds. -/
theorem timely_iff_ninety :
    SessionRefreshHelper.Timely
      { refresher := .remote, duration := 90, bUpdateMethodAllowed := true, slotT1 := 500 } :=
  (timely_iff _ (by decide) rfl (by decide)).mpr fun _ => by decide +kernel

/-- With T1 = 500 ms a transaction takes 32 seconds, the second half of a session interval of 64. -/
theorem not_timely : ¬∀ h : SessionRefreshHelper, 0 < h.duration.toInt → h.policy = .spec →
    h.refresher ≠ .none → h.Timely := by
  intro h
  obtain ⟨n, hn, hbounds⟩ := h
    { refresher := .remote, duration := 64, bUpdateMethodAllowed := true, slotT1 := 500 }
    (by decide) rfl (by decide)
  have hexpired : n = 64 := by
    apply Option.some.inj
    rw [← hn]
    decide +kernel
  have := (hbounds (by decide)).2.1
  rw [hexpired] at this
  exact absurd this (by decide)

end SessionRefreshHelper

end ImsStack.Call
