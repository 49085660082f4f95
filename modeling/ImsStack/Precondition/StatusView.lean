import ImsStack.Precondition.MtcPreconditionManager
import ImsStack.Precondition.SdpPrecondition

/-!
What a table says of a media: the current direction of either side and the strength that each
direction of it is desired with.  The records of a table in any run have this form.
-/

namespace ImsStack.Precondition

open TransitionSystem

/-- A single direction of a media stream. -/
inductive Flow where
  | send | recv
  deriving DecidableEq, Repr

def Flow.direction : Flow → Direction
  | .send => .send
  | .recv => .recv

/-- The current directions and the desired strengths of both sides. -/
structure StatusView where
  dir : StatusType → Direction
  strength : StatusType → Flow → Strength
  checked : StatusType → Flow → Bool
  confirmed : Bool

namespace StatusView

open Records

def desRecord (v : StatusView) (s : StatusType) (f : Flow) : QosStatusRecord :=
  ⟨.des, s, f.direction, v.strength s f, v.checked s f, false⟩

/-- The records that say so. -/
def records (v : StatusView) : List QosStatusRecord :=
  [⟨.curr, .statusLocal, v.dir .statusLocal, .notUsed, false, v.confirmed⟩,
    ⟨.curr, .statusRemote, v.dir .statusRemote, .notUsed, false, false⟩,
    v.desRecord .statusLocal .send, v.desRecord .statusLocal .recv,
    v.desRecord .statusRemote .send, v.desRecord .statusRemote .recv,
    ⟨.conf, .statusRemote, .sendrecv, .notUsed, false, false⟩]

def setDir (v : StatusView) (s : StatusType) (d : Direction) : StatusView :=
  { v with dir := fun s' => if s' = s then d else v.dir s' }

theorem setDirectionTag_records (v : StatusView) (s : StatusType) (d : Direction) :
    setDirectionTag v.records .curr s d = (v.setDir s d).records := by
  unfold setDirectionTag records
  cases s with
  | statusLocal =>
      rw [modifyFirst, if_pos (by simp [selects])]
      rfl
  | statusRemote =>
      rw [modifyFirst, if_neg (by simp [selects]), modifyFirst, if_pos (by simp [selects])]
      rfl

theorem setLocalResourceConfirmed_records (v : StatusView) (b : Bool) :
    setLocalResourceConfirmed v.records b = { v with confirmed := b }.records := by
  unfold setLocalResourceConfirmed records
  rw [modifyFirst, if_pos (by simp [selects])]
  rfl

theorem initializeDesChecked_records (v : StatusView) :
    initializeDesChecked v.records = { v with checked := fun _ _ => false }.records := rfl

/-- The strength that a record takes over, which only "not used" may lower. -/
def setStrength (v : StatusView) (s : StatusType) (f : Flow) (e : Strength) : StatusView :=
  { v with
    strength := fun s' f' =>
      if s' = s ∧ f' = f then
        if e = .notUsed ∨ e.toNat < (v.strength s f).toNat then e else v.strength s f
      else v.strength s' f'
    checked := fun s' f' => if s' = s ∧ f' = f then true else v.checked s' f' }

theorem setStrengthTag_flow (v : StatusView) (s : StatusType) (f : Flow) (e : Strength) :
    setStrengthTag v.records s f.direction e = (v.setStrength s f e).records := by
  cases s with
  | statusLocal => cases f <;> rfl
  | statusRemote => cases f <;> rfl

/-- The records say the same of the current directions. -/
def SameDirs (v : StatusView) (records : List QosStatusRecord) : Prop :=
  ∃ v' : StatusView, v'.dir = v.dir ∧ records = v'.records

theorem SameDirs.refl (v : StatusView) : v.SameDirs v.records := ⟨v, rfl, rfl⟩

theorem SameDirs.setStrengthTag {v : StatusView} {records : List QosStatusRecord}
    (h : v.SameDirs records) (s : StatusType) (d : Direction) (e : Strength) :
    v.SameDirs (setStrengthTag records s d e) := by
  obtain ⟨v', hdir, rfl⟩ := h
  cases d with
  | send => exact ⟨v'.setStrength s .send e, hdir, v'.setStrengthTag_flow s .send e⟩
  | recv => exact ⟨v'.setStrength s .recv e, hdir, v'.setStrengthTag_flow s .recv e⟩
  | invalid =>
      -- any direction is selected, and the first record is the one for sending
      refine ⟨v'.setStrength s .send e, hdir, ?_⟩
      cases s <;> rfl
  | none =>
      refine ⟨v', hdir, ?_⟩
      cases s <;> rfl
  | sendrecv =>
      refine ⟨v', hdir, ?_⟩
      cases s <;> rfl

theorem SameDirs.foldl {α : Type} {v : StatusView}
    {step : List QosStatusRecord → α → List QosStatusRecord}
    (hstep : ∀ records a, v.SameDirs records → v.SameDirs (step records a)) (xs : List α)
    {records : List QosStatusRecord} (h : v.SameDirs records) :
    v.SameDirs (xs.foldl step records) := by
  induction xs generalizing records with
  | nil => exact h
  | cons x xs ih => exact ih (hstep records x h)

theorem SameDirs.applyDetail {v : StatusView} (s : StatusType) (records : List QosStatusRecord)
    (detail : DetailInfo) (h : v.SameDirs records) :
    v.SameDirs (applyDetail s records detail) := by
  unfold Records.applyDetail
  split
  · exact (h.setStrengthTag _ _ _).setStrengthTag _ _ _
  · exact h.setStrengthTag _ _ _

theorem SameDirs.markUnused {v : StatusView} {records : List QosStatusRecord}
    (h : v.SameDirs records) : v.SameDirs (markUnused records) := by
  refine h.foldl ?_ _
  intro records index h
  split
  · exact h
  · split
    · exact h.setStrengthTag _ _ _
    · exact h

theorem SameDirs.updateDesiredStatus {v : StatusView} {records : List QosStatusRecord}
    (h : v.SameDirs records) (des : Option SdpSegmentedPrecondition) :
    v.SameDirs (updateDesiredStatus records des) := by
  cases des with
  | none => exact h
  | some des =>
      refine SameDirs.markUnused ?_
      refine SameDirs.foldl (SameDirs.applyDetail _) _ ?_
      exact SameDirs.foldl (SameDirs.applyDetail _) _ h

/-! ### What is read of the records -/

/-- A direction that is desired with a strength of mandatory or optional. -/
def Desired (v : StatusView) (s : StatusType) (f : Flow) : Prop :=
  v.strength s f = .mandatory ∨ v.strength s f = .optional

instance (v : StatusView) (s : StatusType) (f : Flow) : Decidable (v.Desired s f) :=
  inferInstanceAs (Decidable (_ ∨ _))

theorem getDirectionTag_curr (v : StatusView) (s : StatusType) (hvalid : v.dir s ≠ .invalid) :
    getDirectionTag v.records .curr s = v.dir s := by
  have hselected : v.records.filter (selects .curr s .invalid) =
      [⟨.curr, s, v.dir s, .notUsed, false, if s = .statusLocal then v.confirmed else false⟩] := by
    cases s <;> simp [records, selects, desRecord]
  unfold getDirectionTag
  rw [hselected]
  cases hdir : v.dir s with
  | invalid => exact absurd hdir hvalid
  | none => rfl
  | send => rfl
  | recv => rfl
  | sendrecv => rfl

theorem getDirectionTag_des (v : StatusView) (s : StatusType) :
    getDirectionTag v.records .des s =
      if v.Desired s .send then (if v.Desired s .recv then .sendrecv else .send)
      else (if v.Desired s .recv then .recv else .none) := by
  have hselected : v.records.filter (selects .des s .invalid) =
      [v.desRecord s .send, v.desRecord s .recv] := by
    cases s <;> simp [records, selects, desRecord]
  have hcounts (f : Flow) : counts (v.desRecord s f) = decide (v.Desired s f) := by
    rw [Bool.eq_iff_iff, decide_eq_true_iff]
    cases hstrength : v.strength s f <;>
      simp [counts, desRecord, Desired, hstrength, Strength.toNat]
  unfold getDirectionTag
  rw [hselected]
  simp only [List.filter_cons, List.filter_nil, hcounts]
  by_cases hsend : v.Desired s .send <;> by_cases hrecv : v.Desired s .recv <;>
    simp [hsend, hrecv, desRecord, Flow.direction]

theorem getStrengthTag_flow (v : StatusView) (s : StatusType) (f : Flow) :
    getStrengthTag v.records s f.direction = v.strength s f := by
  cases s with
  | statusLocal => cases f <;> rfl
  | statusRemote => cases f <;> rfl

theorem getDirectionTag_des_ne_invalid (v : StatusView) (s : StatusType) :
    getDirectionTag v.records .des s ≠ .invalid := by
  rw [getDirectionTag_des]
  split <;> split <;> exact Direction.noConfusion

/-! ### The remote current direction -/

/-- What a line makes of the remote current direction, by the direction it had before all
lines. -/
def takeLine (before direction given : Direction) : Direction :=
  if before ≠ .none ∧ given = .none then direction else given

/-- The remote current direction behind the lines. -/
def remoteDirection (before : Direction) (given : List Direction) : Direction :=
  given.foldl (takeLine before) before

theorem setDir_setDir (v : StatusView) (s : StatusType) (d d' : Direction) :
    (v.setDir s d).setDir s d' = v.setDir s d' := by
  unfold setDir
  congr 1
  funext s'
  dsimp only
  split <;> rfl

theorem setDir_self (v : StatusView) (s : StatusType) : v.setDir s (v.dir s) = v := by
  unfold setDir
  congr 1
  funext s'
  split
  · rename_i h
    rw [h]
  · rfl

theorem updateCurrentStatus_records (v : StatusView) (hvalid : v.dir .statusRemote ≠ .invalid)
    (curr : SdpSegmentedPrecondition) :
    updateCurrentStatus v.records (some curr) =
      (v.setDir .statusRemote (remoteDirection (v.dir .statusRemote)
        (curr.localDetails.map DetailInfo.direction))).records := by
  unfold updateCurrentStatus remoteDirection
  dsimp only
  rw [getDirectionTag_curr v .statusRemote hvalid]
  generalize hbefore : v.dir .statusRemote = before
  have hfold (details : List DetailInfo) (d : Direction) :
      details.foldl
          (fun records detail =>
            if before ≠ .none ∧ detail.direction = .none then records
            else setDirectionTag records .curr .statusRemote detail.direction)
          (v.setDir .statusRemote d).records =
        (v.setDir .statusRemote
          ((details.map DetailInfo.direction).foldl (takeLine before) d)).records := by
    induction details generalizing d with
    | nil => rfl
    | cons detail details ih =>
        rw [List.foldl_cons, List.map_cons, List.foldl_cons]
        unfold takeLine
        split
        · exact ih d
        · rw [setDirectionTag_records, setDir_setDir]
          exact ih detail.direction
  have h := hfold curr.localDetails before
  rw [← hbefore, setDir_self, hbefore] at h
  exact h

end StatusView

/-! ### The tables of all runs -/

namespace QosStatusTable

def getDirectionTag (t : QosStatusTable) (eSdpMediaType : SdpMediaType) (eAttrType : AttrType)
    (eStatusType : StatusType) : Direction :=
  Records.getDirectionTag (t.getRecords eSdpMediaType) eAttrType eStatusType

def enableRemoteCurrentStatus (t : QosStatusTable) (eSdpMediaType : SdpMediaType) :
    QosStatusTable :=
  t.modifyRecords eSdpMediaType Records.enableRemoteCurrentStatus

def setLocalResourceConfirmed (t : QosStatusTable) (eSdpMediaType : SdpMediaType)
    (bConfirmed : Bool) : QosStatusTable :=
  t.modifyRecords eSdpMediaType fun records =>
    Records.setLocalResourceConfirmed records bConfirmed

end QosStatusTable

/-- The operations that the precondition manager calls. -/
inductive TableOperation where
  | initializeRecords (eSdpMediaType : SdpMediaType)
  | removeUnusedRecords (eMediaTypes : Nat)
  | updateStatusTableWithRemoteSdp (media : ReceivedMedia)
  | updateLocalCurrentStatus (eSdpMediaType : SdpMediaType) (bLocalQosEnabled : Bool)
  | enableRemoteCurrentStatus (eSdpMediaType : SdpMediaType)
  | setLocalResourceConfirmed (eSdpMediaType : SdpMediaType) (bConfirmed : Bool)

def TableOperation.run (t : QosStatusTable) : TableOperation → QosStatusTable
  | .initializeRecords m => t.initializeRecords m
  | .removeUnusedRecords eMediaTypes => t.removeUnusedRecords eMediaTypes
  | .updateStatusTableWithRemoteSdp media => t.updateStatusTableWithRemoteSdp media.sdpMedia
  | .updateLocalCurrentStatus m b => t.updateLocalCurrentStatus m b
  | .enableRemoteCurrentStatus m => t.enableRemoteCurrentStatus m
  | .setLocalResourceConfirmed m b => t.setLocalResourceConfirmed m b

/-- The runs of a table from its construction on. -/
def tableRuns : System QosStatusTable TableOperation where
  Init t := t = .new
  Step t operation t' := t' = operation.run t

end ImsStack.Precondition
