import ImsStack.Precondition.MtcPreconditionManager
import Mathlib.Logic.Function.Basic

/-!
The local current status against the bearers.  Each operation of the table is read off for
two selections of the records of a media: those of the local current status, of which there
is one, and those of the desired local status.
-/

namespace ImsStack.Precondition

open TransitionSystem

namespace Records

/-! ### What the operations do to a selection of the records -/

variable {p q : QosStatusRecord → Bool} {f : QosStatusRecord → QosStatusRecord}

theorem filter_modifyFirst_of_disjoint
    (hdisjoint : ∀ r, p r = true → q r = false ∧ q (f r) = false)
    (records : List QosStatusRecord) :
    (modifyFirst p f records).filter q = records.filter q := by
  induction records with
  | nil => rfl
  | cons r rest ih =>
      unfold modifyFirst
      split
      · rename_i hp
        rw [List.filter_cons_of_neg (by rw [(hdisjoint r hp).2]; exact Bool.false_ne_true),
          List.filter_cons_of_neg (by rw [(hdisjoint r hp).1]; exact Bool.false_ne_true)]
      · rw [List.filter_cons, List.filter_cons, ih]

theorem filter_modifyFirst_single (hkept : ∀ r, p r = true → p (f r) = true)
    {records : List QosStatusRecord} {r : QosStatusRecord} (hsingle : records.filter p = [r]) :
    (modifyFirst p f records).filter p = [f r] := by
  induction records with
  | nil => cases hsingle
  | cons r' rest ih =>
      unfold modifyFirst
      split
      · rename_i hp
        rw [List.filter_cons_of_pos hp] at hsingle
        rw [List.filter_cons_of_pos (hkept r' hp)]
        rw [(List.cons_eq_cons.mp hsingle).1, (List.cons_eq_cons.mp hsingle).2]
      · rename_i hp
        rw [List.filter_cons_of_neg hp] at hsingle
        rw [List.filter_cons_of_neg hp]
        exact ih hsingle

/-- The records of the local current status. -/
def currLocal (records : List QosStatusRecord) : List QosStatusRecord :=
  records.filter (selects .curr .statusLocal .invalid)

/-- The records of the desired local status. -/
def desLocal (records : List QosStatusRecord) : List QosStatusRecord :=
  records.filter (selects .des .statusLocal .invalid)

theorem currLocal_setStrengthTag (records : List QosStatusRecord) (eStatusType : StatusType)
    (eDirTag : Direction) (eStrengthTag : Strength) :
    currLocal (setStrengthTag records eStatusType eDirTag eStrengthTag) = currLocal records := by
  apply filter_modifyFirst_of_disjoint
  intro r hr
  have hdes : r.eAttrType = .des := by
    simp only [selects, Bool.and_eq_true, decide_eq_true_eq] at hr
    exact hr.1.1
  constructor <;> simp [selects, hdes]

theorem currLocal_setDirectionTag_remote (records : List QosStatusRecord)
    (eDirTag : Direction) :
    currLocal (setDirectionTag records .curr .statusRemote eDirTag) = currLocal records := by
  apply filter_modifyFirst_of_disjoint
  intro r hr
  have hremote : r.eStatusType = .statusRemote := by
    simp only [selects, Bool.and_eq_true, decide_eq_true_eq] at hr
    exact hr.1.2
  constructor <;> simp [selects, hremote]

theorem currLocal_initializeDesChecked (records : List QosStatusRecord) :
    currLocal (initializeDesChecked records) = currLocal records := by
  unfold currLocal initializeDesChecked
  induction records with
  | nil => rfl
  | cons r rest ih =>
      rw [List.map_cons, List.filter_cons, List.filter_cons, ih]
      split
      · rename_i hdes
        simp [selects, hdes]
      · rfl

theorem foldl_kept {α β γ : Type} (view : β → γ) (step : β → α → β)
    (hstep : ∀ b a, view (step b a) = view b) (l : List α) (b : β) :
    view (l.foldl step b) = view b := by
  induction l generalizing b with
  | nil => rfl
  | cons a l ih => exact (ih (step b a)).trans (hstep b a)

/-- What the changes of a strength, of the remote current direction and of the marks leave
alone, a body of the other side leaves alone. -/
theorem updateWithRemoteSdp_kept {γ : Type} (view : List QosStatusRecord → γ)
    (hstrength : ∀ records eStatusType eDirTag eStrengthTag,
      view (setStrengthTag records eStatusType eDirTag eStrengthTag) = view records)
    (hdirection : ∀ records eDirTag,
      view (setDirectionTag records .curr .statusRemote eDirTag) = view records)
    (hchecked : ∀ records, view (initializeDesChecked records) = view records)
    (records : List QosStatusRecord) (media : SdpMedia) :
    view (updateWithRemoteSdp records media) = view records := by
  have hdetail : ∀ eStatusType records detail,
      view (applyDetail eStatusType records detail) = view records := by
    intro eStatusType records detail
    unfold applyDetail
    split
    · rw [hstrength, hstrength]
    · exact hstrength _ _ _ _
  have hunused : ∀ records, view (markUnused records) = view records := by
    intro records
    apply foldl_kept
    intro records index
    cases records[index]? with
    | none => rfl
    | some r =>
        show view (if r.eAttrType = .des ∧ r.bDesiredCheck = false then _ else _) = _
        split
        · exact hstrength _ _ _ _
        · rfl
  have hcurr : ∀ records, view (updateCurrentStatus records media.curr) = view records := by
    intro records
    unfold updateCurrentStatus
    cases media.curr with
    | none => rfl
    | some curr =>
        apply foldl_kept
        intro records detail
        split
        · rfl
        · exact hdirection _ _
  have hdes : ∀ records, view (updateDesiredStatus records media.des) = view records := by
    intro records
    unfold updateDesiredStatus
    cases media.des with
    | none => rfl
    | some des =>
        show view (markUnused _) = _
        rw [hunused, foldl_kept view _ (hdetail _), foldl_kept view _ (hdetail _)]
  unfold updateWithRemoteSdp
  rw [hdes, hcurr, hchecked]

theorem currLocal_updateWithRemoteSdp (records : List QosStatusRecord) (media : SdpMedia) :
    currLocal (updateWithRemoteSdp records media) = currLocal records :=
  updateWithRemoteSdp_kept currLocal currLocal_setStrengthTag currLocal_setDirectionTag_remote
    currLocal_initializeDesChecked records media

theorem length_modifyFirst (p : QosStatusRecord → Bool) (f : QosStatusRecord → QosStatusRecord)
    (records : List QosStatusRecord) : (modifyFirst p f records).length = records.length := by
  induction records with
  | nil => rfl
  | cons r rest ih =>
      unfold modifyFirst
      split
      · rfl
      · exact congrArg Nat.succ ih

theorem length_updateWithRemoteSdp (records : List QosStatusRecord) (media : SdpMedia) :
    (updateWithRemoteSdp records media).length = records.length :=
  updateWithRemoteSdp_kept List.length (fun _ _ _ _ => length_modifyFirst _ _ _)
    (fun _ _ => length_modifyFirst _ _ _) (fun _ => List.length_map _) records media

theorem selects_currLocal {r : QosStatusRecord}
    (hr : selects .curr .statusLocal .invalid r = true) :
    r.eAttrType = .curr ∧ r.eStatusType = .statusLocal := by
  simp only [selects, Bool.and_eq_true, decide_eq_true_eq] at hr
  exact hr.1

theorem desLocal_setDirectionTag (records : List QosStatusRecord) (eDirTag : Direction) :
    desLocal (setDirectionTag records .curr .statusLocal eDirTag) = desLocal records := by
  apply filter_modifyFirst_of_disjoint
  intro r hr
  constructor <;> simp [selects, (selects_currLocal hr).1]

theorem desLocal_setLocalResourceConfirmed (records : List QosStatusRecord)
    (bConfirmed : Bool) :
    desLocal (setLocalResourceConfirmed records bConfirmed) = desLocal records := by
  apply filter_modifyFirst_of_disjoint
  intro r hr
  constructor <;> simp [selects, (selects_currLocal hr).1]

/-! ### The directions -/

/-- The local current direction. -/
def currDir (records : List QosStatusRecord) : Direction :=
  getDirectionTag records .curr .statusLocal

/-- The desired local direction. -/
def desDir (records : List QosStatusRecord) : Direction :=
  getDirectionTag records .des .statusLocal

/-- A desired local direction is in use. -/
def DesiredInUse (records : List QosStatusRecord) : Prop :=
  0 < (desDir records).toInt

instance (records : List QosStatusRecord) : Decidable (DesiredInUse records) :=
  inferInstanceAs (Decidable (_ < _))

theorem getDirectionTag_congr {records records' : List QosStatusRecord} {eAttrType : AttrType}
    {eStatusType : StatusType}
    (h : records'.filter (selects eAttrType eStatusType .invalid) =
      records.filter (selects eAttrType eStatusType .invalid)) :
    getDirectionTag records' eAttrType eStatusType =
      getDirectionTag records eAttrType eStatusType := by
  simp only [getDirectionTag, h]

theorem desDir_congr {records records' : List QosStatusRecord}
    (h : desLocal records' = desLocal records) : desDir records' = desDir records :=
  getDirectionTag_congr h

theorem currDir_congr {records records' : List QosStatusRecord}
    (h : currLocal records' = currLocal records) : currDir records' = currDir records :=
  getDirectionTag_congr h

theorem currDir_single {records : List QosStatusRecord} {r : QosStatusRecord}
    (hsingle : currLocal records = [r]) :
    currDir records = if r.eDirTag = .invalid then .none else r.eDirTag := by
  have hr : selects .curr .statusLocal .invalid r = true :=
    (List.mem_filter.mp (hsingle ▸ List.mem_singleton_self r : r ∈ currLocal records)).2
  have hcounts : counts r = true := by
    simp [counts, (selects_currLocal hr).1]
  unfold currLocal at hsingle
  simp only [currDir, getDirectionTag, hsingle, List.isEmpty_cons,
    List.filter_cons_of_pos hcounts, List.filter_nil, List.any_cons, List.any_nil, Bool.or_false]
  cases r.eDirTag <;> rfl

theorem isCurrentStatusEnabled_eq_true {records : List QosStatusRecord} :
    isCurrentStatusEnabled records .statusLocal = true ↔
      currDir records ≠ .none ∧ (desDir records).toInt ≤ (currDir records).toInt := by
  unfold isCurrentStatusEnabled
  rw [Bool.and_eq_true, decide_eq_true_eq, decide_eq_true_eq]
  exact Iff.rfl

theorem isCurrentStatusEnabled_of_inUse {records : List QosStatusRecord}
    (hinUse : DesiredInUse records) :
    isCurrentStatusEnabled records .statusLocal = true ↔
      (desDir records).toInt ≤ (currDir records).toInt := by
  rw [isCurrentStatusEnabled_eq_true]
  constructor
  · intro h
    exact h.2
  · intro h
    refine ⟨?_, h⟩
    intro hnone
    rw [hnone] at h
    exact absurd (Int.lt_of_lt_of_le hinUse h) (Int.lt_irrefl 0)

theorem currLocal_setDirectionTag {records : List QosStatusRecord} {r : QosStatusRecord}
    (hsingle : currLocal records = [r]) (eDirTag : Direction) :
    currLocal (setDirectionTag records .curr .statusLocal eDirTag) =
      [{ r with eDirTag := eDirTag }] := by
  apply filter_modifyFirst_single _ hsingle
  intro r' hr'
  obtain ⟨hattr, hstatus⟩ := selects_currLocal hr'
  simp [selects, hattr, hstatus]

theorem currLocal_setLocalResourceConfirmed {records : List QosStatusRecord}
    {r : QosStatusRecord} (hsingle : currLocal records = [r]) (bConfirmed : Bool) :
    currLocal (setLocalResourceConfirmed records bConfirmed) =
      [{ r with bLocalResourceConfirmed := bConfirmed }] := by
  apply filter_modifyFirst_single _ hsingle
  intro r' hr'
  obtain ⟨hattr, hstatus⟩ := selects_currLocal hr'
  simp [selects, hattr, hstatus]

theorem isLocalResourceConfirmed_single {records : List QosStatusRecord} {r : QosStatusRecord}
    (hsingle : currLocal records = [r]) :
    isLocalResourceConfirmed records = r.bLocalResourceConfirmed := by
  unfold currLocal at hsingle
  simp only [isLocalResourceConfirmed, hsingle]

theorem isLocalResourceConfirmed_congr {records records' : List QosStatusRecord}
    (h : currLocal records' = currLocal records) :
    isLocalResourceConfirmed records' = isLocalResourceConfirmed records := by
  unfold currLocal at h
  simp only [isLocalResourceConfirmed, h]

theorem currDir_setDirectionTag {records : List QosStatusRecord} {r : QosStatusRecord}
    (hsingle : currLocal records = [r]) {eDirTag : Direction} (htag : eDirTag ≠ .invalid) :
    currDir (setDirectionTag records .curr .statusLocal eDirTag) = eDirTag := by
  rw [currDir_single (currLocal_setDirectionTag hsingle eDirTag)]
  exact if_neg htag

theorem currDir_ne_invalid {records : List QosStatusRecord} {r : QosStatusRecord}
    (hsingle : currLocal records = [r]) : currDir records ≠ .invalid := by
  rw [currDir_single hsingle]
  split
  · exact Direction.noConfusion
  · assumption

/-! ### What is known of the records of a media -/

/-- The records of a media of the call: there are none, or one of the local current status;
without a bearer that one has no direction; and it is confirmed only if it was announced. -/
structure Tracked (records : List QosStatusRecord) (bReserved : Bool) (announced : Prop) :
    Prop where
  single : records = [] ∨ ∃ r, currLocal records = [r]
  unreserved : bReserved = false → records ≠ [] → currDir records = .none
  confirmed : isLocalResourceConfirmed records = true → announced

/-- While a desired direction is in use, the local current status is enabled exactly when
the bearer is reserved. -/
def Follows (records : List QosStatusRecord) (bReserved : Bool) : Prop :=
  DesiredInUse records → (isCurrentStatusEnabled records .statusLocal = true ↔ bReserved = true)

variable {records : List QosStatusRecord} {bReserved : Bool} {announced : Prop}

theorem Follows.of_dirs {records' : List QosStatusRecord} (h : Follows records bReserved)
    (hcurr : currDir records' = currDir records) (hdes : desDir records' = desDir records) :
    Follows records' bReserved := by
  unfold Follows DesiredInUse at h ⊢
  rw [isCurrentStatusEnabled_eq_true] at h ⊢
  rw [hcurr, hdes]
  exact h

theorem tracked_nil (bReserved : Bool) (announced : Prop) : Tracked [] bReserved announced where
  single := .inl rfl
  unreserved _ h := absurd rfl h
  confirmed h := by cases h

theorem follows_nil (bReserved : Bool) : Follows [] bReserved := by
  intro h
  exact absurd h (by decide)

theorem tracked_initial (announced : Prop) : Tracked initial false announced where
  single := .inr ⟨_, rfl⟩
  unreserved _ _ := by decide
  confirmed h := absurd h (by decide)

theorem follows_initial : Follows initial false := by
  intro _
  decide

theorem Tracked.follows_unreserved (h : Tracked records false announced) :
    Follows records false := by
  intro hinUse
  have hne : records ≠ [] := by
    rintro rfl
    exact absurd hinUse (by decide)
  rw [isCurrentStatusEnabled_eq_true, h.unreserved rfl hne]
  constructor
  · intro hdir
    exact absurd rfl hdir.1
  · intro hreserved
    cases hreserved

/-- Where the status is not enabled and the records follow the bearer, there is no
direction. -/
theorem Tracked.currDir_eq_none (h : Tracked records bReserved announced)
    (hfollows : Follows records bReserved) (hne : records ≠ [])
    (hdisabled : isCurrentStatusEnabled records .statusLocal = false) :
    currDir records = .none := by
  cases hreserved : bReserved with
  | false => exact h.unreserved hreserved hne
  | true =>
      obtain ⟨r, hsingle⟩ := h.single.resolve_left hne
      have hnotInUse : ¬DesiredInUse records := by
        intro hinUse
        have := (hfollows hinUse).mpr hreserved
        rw [hdisabled] at this
        cases this
      have hnotEnabled : ¬(currDir records ≠ .none ∧
          (desDir records).toInt ≤ (currDir records).toInt) := by
        rw [← isCurrentStatusEnabled_eq_true, hdisabled]
        exact Bool.false_ne_true
      have hdes : (desDir records).toInt ≤ 0 := Int.not_lt.mp hnotInUse
      have hvalid := currDir_ne_invalid hsingle
      cases hdir : currDir records with
      | none => rfl
      | invalid => exact absurd hdir hvalid
      | _ =>
          rw [hdir] at hnotEnabled
          refine absurd ⟨Direction.noConfusion, Int.le_trans hdes ?_⟩ hnotEnabled
          decide

theorem follows_setDirectionTag {r : QosStatusRecord} (hsingle : currLocal records = [r]) :
    Follows (setDirectionTag records .curr .statusLocal (desDir records)) true := by
  intro hinUse
  have hdes := desDir_congr (desLocal_setDirectionTag records (desDir records))
  have hvalid : desDir records ≠ .invalid := by
    intro hinvalid
    unfold DesiredInUse at hinUse
    rw [hdes, hinvalid] at hinUse
    exact absurd hinUse (by decide)
  apply iff_of_true _ rfl
  apply (isCurrentStatusEnabled_of_inUse hinUse).mpr
  exact Int.le_of_eq (congrArg Direction.toInt
    (hdes.trans (currDir_setDirectionTag hsingle hvalid).symm))

theorem updateLocalCurrentStatus_nil (b : Bool) : updateLocalCurrentStatus [] b = [] := by
  cases b <;> rfl

/-- `UpdateLocalCurrentStatus` makes the records follow the value it is given. -/
theorem Tracked.updateLocalCurrentStatus (h : Tracked records bReserved announced)
    (hfollows : Follows records bReserved) (b : Bool) :
    Tracked (updateLocalCurrentStatus records b) b announced ∧
      Follows (updateLocalCurrentStatus records b) b := by
  rcases h.single with rfl | ⟨r, hsingle⟩
  · rw [updateLocalCurrentStatus_nil]
    exact ⟨tracked_nil _ _, follows_nil _⟩
  · have hne : records ≠ [] := by
      rintro rfl
      cases hsingle
    unfold Records.updateLocalCurrentStatus
    split
    · rename_i heq
      constructor
      · refine ⟨h.single, ?_, h.confirmed⟩
        rintro rfl _
        exact h.currDir_eq_none hfollows hne heq.symm
      · intro _
        rw [heq]
    · have hset := currLocal_setDirectionTag hsingle
      have hconfirmed : ∀ eDirTag,
          isLocalResourceConfirmed (setDirectionTag records .curr .statusLocal eDirTag) =
            isLocalResourceConfirmed records := by
        intro eDirTag
        rw [isLocalResourceConfirmed_single (hset eDirTag),
          isLocalResourceConfirmed_single hsingle]
      cases b with
      | false =>
          have hcurr : currDir (setDirectionTag records .curr .statusLocal .none) = .none :=
            currDir_setDirectionTag hsingle Direction.noConfusion
          have htracked : Tracked (setDirectionTag records .curr .statusLocal .none) false
              announced :=
            ⟨.inr ⟨_, hset _⟩, fun _ _ => hcurr, fun hc => h.confirmed (hconfirmed _ ▸ hc)⟩
          exact ⟨htracked, htracked.follows_unreserved⟩
      | true =>
          constructor
          · exact ⟨.inr ⟨_, hset _⟩, fun hb => Bool.noConfusion hb,
              fun hc => h.confirmed (hconfirmed _ ▸ hc)⟩
          · exact follows_setDirectionTag hsingle

theorem Tracked.of_currLocal {records' : List QosStatusRecord}
    (h : Tracked records bReserved announced) (hlength : records'.length = records.length)
    (hcurr : currLocal records' = currLocal records) :
    Tracked records' bReserved announced where
  single := by
    rcases h.single with rfl | ⟨r, hsingle⟩
    · exact .inl (List.length_eq_zero_iff.mp hlength)
    · exact .inr ⟨r, hcurr.trans hsingle⟩
  unreserved hb hne := by
    rw [currDir_congr hcurr]
    apply h.unreserved hb
    rintro rfl
    exact hne (List.length_eq_zero_iff.mp hlength)
  confirmed hc := h.confirmed (isLocalResourceConfirmed_congr hcurr ▸ hc)

theorem Tracked.formCurrentAttribute (h : Tracked records bReserved announced) :
    Tracked (formCurrentAttribute records).2 bReserved
      (announced ∨ 0 < (currDir records).toInt) := by
  rcases h.single with rfl | ⟨r, hsingle⟩
  · exact tracked_nil _ _
  · have hne : records ≠ [] := by
      rintro rfl
      cases hsingle
    have hform : (Records.formCurrentAttribute records).2 =
        setLocalResourceConfirmed records (isCurrentStatusEnabled records .statusLocal) := by
      unfold Records.formCurrentAttribute
      exact congrArg Prod.snd (if_neg (currDir_ne_invalid hsingle))
    rw [hform]
    have hset := currLocal_setLocalResourceConfirmed hsingle
      (isCurrentStatusEnabled records .statusLocal)
    refine ⟨.inr ⟨_, hset⟩, ?_, ?_⟩
    · intro hb _
      have hdir := h.unreserved hb hne
      rw [currDir_single hsingle] at hdir
      rw [currDir_single hset]
      exact hdir
    · intro hc
      rw [isLocalResourceConfirmed_single hset] at hc
      have hdir := (isCurrentStatusEnabled_eq_true.mp hc).1
      have hvalid := currDir_ne_invalid hsingle
      right
      cases hcases : currDir records with
      | none => exact absurd hcases hdir
      | invalid => exact absurd hcases hvalid
      | _ => decide

theorem formCurrentAttribute_dirs (h : Tracked records bReserved announced) :
    currDir (formCurrentAttribute records).2 = currDir records ∧
      desDir (formCurrentAttribute records).2 = desDir records := by
  rcases h.single with rfl | ⟨r, hsingle⟩
  · exact ⟨rfl, rfl⟩
  · have hform : (Records.formCurrentAttribute records).2 =
        setLocalResourceConfirmed records (isCurrentStatusEnabled records .statusLocal) := by
      unfold Records.formCurrentAttribute
      exact congrArg Prod.snd (if_neg (currDir_ne_invalid hsingle))
    rw [hform]
    constructor
    · rw [currDir_single (currLocal_setLocalResourceConfirmed hsingle _), currDir_single hsingle]
    · exact desDir_congr (desLocal_setLocalResourceConfirmed records _)

end Records

end ImsStack.Precondition
