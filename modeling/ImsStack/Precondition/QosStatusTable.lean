import Mathlib.Logic.Basic

/-!
The status table of the preconditions of a call, `QosStatusTable`, and the attributes that
`SdpPreconditionHelper` forms from it.
-/

namespace ImsStack.Precondition

inductive SdpMediaType where
  | invalid | audio | video | text
  deriving DecidableEq, Repr

inductive AttrType where
  | curr | des | conf
  deriving DecidableEq, Repr

inductive StatusType where
  | statusLocal | statusRemote
  deriving DecidableEq, Repr

inductive Direction where
  | invalid | none | send | recv | sendrecv
  deriving DecidableEq, Repr

/-- The value that directions are compared by. -/
def Direction.toInt : Direction → Int
  | .invalid => -1
  | .none => 0
  | .send => 1
  | .recv => 2
  | .sendrecv => 3

inductive Strength where
  | mandatory | optional | none | failure | unknown | notUsed
  deriving DecidableEq, Repr

/-- The value that strengths are compared by; a lower one is stronger. -/
def Strength.toNat : Strength → Nat
  | .mandatory => 0
  | .optional => 1
  | .none => 2
  | .failure => 3
  | .unknown => 4
  | .notUsed => 5

structure QosStatusRecord where
  eAttrType : AttrType
  eStatusType : StatusType
  eDirTag : Direction
  eStrengthTag : Strength
  bDesiredCheck : Bool
  bLocalResourceConfirmed : Bool
  deriving DecidableEq, Repr

/-- A record of `InitializeRecords`. -/
def QosStatusRecord.make (eAttrType : AttrType) (eStatusType : StatusType)
    (eDirTag : Direction) (eStrengthTag : Strength) : QosStatusRecord :=
  ⟨eAttrType, eStatusType, eDirTag, eStrengthTag, false, false⟩

/-- `SdpPrecondition::DetailInfo`, as far as the table reads it. -/
structure DetailInfo where
  direction : Direction
  strength : Strength
  deriving DecidableEq, Repr

structure SdpSegmentedPrecondition where
  localDetails : List DetailInfo
  remoteDetails : List DetailInfo
  deriving DecidableEq, Repr

namespace SdpSegmentedPrecondition

def empty : SdpSegmentedPrecondition := ⟨[], []⟩

def addStatus (p : SdpSegmentedPrecondition) (eStatus : StatusType) (direction : Direction)
    (strength : Strength) : SdpSegmentedPrecondition :=
  match eStatus with
  | .statusLocal => { p with localDetails := p.localDetails ++ [⟨direction, strength⟩] }
  | .statusRemote => { p with remoteDetails := p.remoteDetails ++ [⟨direction, strength⟩] }

def isPreconditionPresent (p : SdpSegmentedPrecondition) : Bool :=
  !p.localDetails.isEmpty || !p.remoteDetails.isEmpty

end SdpSegmentedPrecondition

/-- The preconditions of a media line, with what the table reads besides. -/
structure SdpMedia where
  eType : SdpMediaType
  nPort : Int
  curr : Option SdpSegmentedPrecondition
  des : Option SdpSegmentedPrecondition
  conf : Option SdpSegmentedPrecondition
  deriving DecidableEq, Repr

/-! ### The records of one media -/

namespace Records

/-- What `GetRecords` selects; `DIRECTION_INVALID` stands for any direction. -/
def selects (eAttrType : AttrType) (eStatusType : StatusType) (eDirTag : Direction)
    (r : QosStatusRecord) : Bool :=
  decide (r.eAttrType = eAttrType) && decide (r.eStatusType = eStatusType) &&
    (decide (r.eDirTag = eDirTag) || decide (eDirTag = .invalid))

/-- The first record that `GetRecords` selects is changed in its place. -/
def modifyFirst (p : QosStatusRecord → Bool) (f : QosStatusRecord → QosStatusRecord) :
    List QosStatusRecord → List QosStatusRecord
  | [] => []
  | r :: rest => if p r then f r :: rest else r :: modifyFirst p f rest

/-- The records that `InitializeRecords` appends. -/
def initial : List QosStatusRecord :=
  [.make .curr .statusLocal .none .notUsed, .make .curr .statusRemote .none .notUsed,
    .make .des .statusLocal .send .mandatory, .make .des .statusLocal .recv .mandatory,
    .make .des .statusRemote .send .optional, .make .des .statusRemote .recv .optional,
    .make .conf .statusRemote .sendrecv .notUsed]

/-- A desired record whose strength is none or worse is passed over. -/
def counts (r : QosStatusRecord) : Bool :=
  !(decide (r.eAttrType = .des) && decide (Strength.none.toNat ≤ r.eStrengthTag.toNat))

def getDirectionTag (records : List QosStatusRecord) (eAttrType : AttrType)
    (eStatusType : StatusType) : Direction :=
  let selected := records.filter (selects eAttrType eStatusType .invalid)
  if selected.isEmpty then .invalid
  else
    let counted := selected.filter counts
    let bSendFound := counted.any fun r => r.eDirTag = .send ∨ r.eDirTag = .sendrecv
    let bRecvFound := counted.any fun r => r.eDirTag = .recv ∨ r.eDirTag = .sendrecv
    if bSendFound && bRecvFound then .sendrecv
    else if bSendFound then .send
    else if bRecvFound then .recv
    else .none

def setDirectionTag (records : List QosStatusRecord) (eAttrType : AttrType)
    (eStatusType : StatusType) (eDirTag : Direction) : List QosStatusRecord :=
  modifyFirst (selects eAttrType eStatusType .invalid) (fun r => { r with eDirTag }) records

def getStrengthTag (records : List QosStatusRecord) (eStatusType : StatusType)
    (eDirTag : Direction) : Strength :=
  match records.filter (selects .des eStatusType eDirTag) with
  | [] => .notUsed
  | r :: _ => r.eStrengthTag

/-- Only the mark "not used" may replace a stronger tag. -/
def setStrengthTag (records : List QosStatusRecord) (eStatusType : StatusType)
    (eDirTag : Direction) (eStrengthTag : Strength) : List QosStatusRecord :=
  modifyFirst (selects .des eStatusType eDirTag)
    (fun r =>
      { r with
        eStrengthTag :=
          if eStrengthTag = .notUsed ∨ eStrengthTag.toNat < r.eStrengthTag.toNat then
            eStrengthTag
          else r.eStrengthTag
        bDesiredCheck := true })
    records

def isCurrentStatusEnabled (records : List QosStatusRecord) (eStatusType : StatusType) : Bool :=
  let eCurrDir := getDirectionTag records .curr eStatusType
  let eDesDir := getDirectionTag records .des eStatusType
  decide (eCurrDir ≠ .none) && decide (eDesDir.toInt ≤ eCurrDir.toInt)

def updateLocalCurrentStatus (records : List QosStatusRecord) (bLocalQosEnabled : Bool) :
    List QosStatusRecord :=
  if bLocalQosEnabled = isCurrentStatusEnabled records .statusLocal then records
  else
    setDirectionTag records .curr .statusLocal
      (if bLocalQosEnabled then getDirectionTag records .des .statusLocal else .none)

def isLocalResourceConfirmed (records : List QosStatusRecord) : Bool :=
  match records.filter (selects .curr .statusLocal .invalid) with
  | [] => false
  | r :: _ => r.bLocalResourceConfirmed

def setLocalResourceConfirmed (records : List QosStatusRecord) (bConfirmed : Bool) :
    List QosStatusRecord :=
  modifyFirst (selects .curr .statusLocal .invalid)
    (fun r => { r with bLocalResourceConfirmed := bConfirmed }) records

def initializeDesChecked (records : List QosStatusRecord) : List QosStatusRecord :=
  records.map fun r => if r.eAttrType = .des then { r with bDesiredCheck := false } else r

/-- `UpdateCurrentStatus`: the direction that the remote current status had before decides
for every detail. -/
def updateCurrentStatus (records : List QosStatusRecord)
    (curr : Option SdpSegmentedPrecondition) : List QosStatusRecord :=
  match curr with
  | none => records
  | some curr =>
    let eRemoteCurrDir := getDirectionTag records .curr .statusRemote
    curr.localDetails.foldl
      (fun records detail =>
        if eRemoteCurrDir ≠ .none ∧ detail.direction = .none then records
        else setDirectionTag records .curr .statusRemote detail.direction)
      records

def applyDetail (eStatusType : StatusType) (records : List QosStatusRecord)
    (detail : DetailInfo) : List QosStatusRecord :=
  if detail.direction = .sendrecv then
    setStrengthTag (setStrengthTag records eStatusType .send detail.strength) eStatusType .recv
      detail.strength
  else setStrengthTag records eStatusType detail.direction detail.strength

/-- The loop over the desired records that no detail has named. -/
def markUnused (records : List QosStatusRecord) : List QosStatusRecord :=
  (List.range records.length).foldl
    (fun records index =>
      match records[index]? with
      | none => records
      | some r =>
        if r.eAttrType = .des ∧ r.bDesiredCheck = false then
          setStrengthTag records r.eStatusType r.eDirTag .notUsed
        else records)
    records

def updateDesiredStatus (records : List QosStatusRecord)
    (des : Option SdpSegmentedPrecondition) : List QosStatusRecord :=
  match des with
  | none => records
  | some des =>
    markUnused
      (des.localDetails.foldl (applyDetail .statusRemote)
        (des.remoteDetails.foldl (applyDetail .statusLocal) records))

/-- `UpdateStatusTableWithRemoteSdp` on the records of the media of the SDP. -/
def updateWithRemoteSdp (records : List QosStatusRecord) (media : SdpMedia) :
    List QosStatusRecord :=
  updateDesiredStatus (updateCurrentStatus (initializeDesChecked records) media.curr) media.des

def enableRemoteCurrentStatus (records : List QosStatusRecord) : List QosStatusRecord :=
  if Direction.none.toInt < (getDirectionTag records .curr .statusRemote).toInt then records
  else
    setDirectionTag records .curr .statusRemote (getDirectionTag records .des .statusRemote)

/-! ### What is formed from the records of one media -/

/-- `FormCurrentAttribute`, with the records it leaves. -/
def formCurrentAttribute (records : List QosStatusRecord) :
    Option SdpSegmentedPrecondition × List QosStatusRecord :=
  let eDirTag := getDirectionTag records .curr .statusLocal
  if eDirTag = .invalid then (none, records)
  else
    let records' := setLocalResourceConfirmed records
      (isCurrentStatusEnabled records .statusLocal)
    (some ((SdpSegmentedPrecondition.empty.addStatus .statusLocal eDirTag .notUsed).addStatus
      .statusRemote (getDirectionTag records' .curr .statusRemote) .notUsed), records')

def addDesiredStatus (desired : SdpSegmentedPrecondition) (records : List QosStatusRecord)
    (eStatusType : StatusType) : SdpSegmentedPrecondition :=
  let eSendStrength := getStrengthTag records eStatusType .send
  let eRecvStrength := getStrengthTag records eStatusType .recv
  if eSendStrength ≠ .notUsed ∧ eSendStrength = eRecvStrength then
    desired.addStatus eStatusType .sendrecv eSendStrength
  else
    let desired := if eSendStrength ≠ .notUsed then
      desired.addStatus eStatusType .send eSendStrength else desired
    if eRecvStrength ≠ .notUsed then desired.addStatus eStatusType .recv eRecvStrength
    else desired

def formDesiredAttribute (records : List QosStatusRecord) : Option SdpSegmentedPrecondition :=
  let desired := addDesiredStatus (addDesiredStatus .empty records .statusLocal) records
    .statusRemote
  if desired.isPreconditionPresent then some desired else none

def formConfirmAttribute (records : List QosStatusRecord) (bUseConf : Bool) :
    Option SdpSegmentedPrecondition :=
  if !bUseConf then none
  else if isCurrentStatusEnabled records .statusRemote then none
  else
    let eDirTag := getDirectionTag records .conf .statusRemote
    if eDirTag = .invalid then none
    else some (SdpSegmentedPrecondition.empty.addStatus .statusRemote eDirTag .notUsed)

end Records

/-! ### The table -/

structure QosStatusTable where
  lstAudioRecords : List QosStatusRecord
  lstVideoRecords : List QosStatusRecord
  lstTextRecords : List QosStatusRecord
  deriving DecidableEq, Repr

namespace QosStatusTable

def new : QosStatusTable := ⟨[], [], []⟩

def getRecords (t : QosStatusTable) : SdpMediaType → List QosStatusRecord
  | .audio => t.lstAudioRecords
  | .video => t.lstVideoRecords
  | .text => t.lstTextRecords
  | .invalid => []

/-- The records of a media are changed; there are none for `TYPE_INVALID`. -/
def modifyRecords (t : QosStatusTable) (eSdpMediaType : SdpMediaType)
    (f : List QosStatusRecord → List QosStatusRecord) : QosStatusTable :=
  match eSdpMediaType with
  | .audio => { t with lstAudioRecords := f t.lstAudioRecords }
  | .video => { t with lstVideoRecords := f t.lstVideoRecords }
  | .text => { t with lstTextRecords := f t.lstTextRecords }
  | .invalid => t

theorem getRecords_modifyRecords (t : QosStatusTable) {eSdpMediaType : SdpMediaType}
    (hmedia : eSdpMediaType ≠ .invalid) (f : List QosStatusRecord → List QosStatusRecord) :
    (t.modifyRecords eSdpMediaType f).getRecords eSdpMediaType =
      f (t.getRecords eSdpMediaType) := by
  cases eSdpMediaType with
  | invalid => exact absurd rfl hmedia
  | _ => rfl

def initializeRecords (t : QosStatusTable) (eSdpMediaType : SdpMediaType) : QosStatusTable :=
  t.modifyRecords eSdpMediaType fun _ => Records.initial

def isCurrentStatusEnabled (t : QosStatusTable) (eSdpMediaType : SdpMediaType)
    (eStatusType : StatusType) : Bool :=
  Records.isCurrentStatusEnabled (t.getRecords eSdpMediaType) eStatusType

def updateLocalCurrentStatus (t : QosStatusTable) (eSdpMediaType : SdpMediaType)
    (bLocalQosEnabled : Bool) : QosStatusTable :=
  t.modifyRecords eSdpMediaType fun records =>
    Records.updateLocalCurrentStatus records bLocalQosEnabled

def getStrengthTag (t : QosStatusTable) (eSdpMediaType : SdpMediaType)
    (eStatusType : StatusType) (eDirTag : Direction) : Strength :=
  Records.getStrengthTag (t.getRecords eSdpMediaType) eStatusType eDirTag

def isLocalResourceConfirmed (t : QosStatusTable) (eSdpMediaType : SdpMediaType) : Bool :=
  Records.isLocalResourceConfirmed (t.getRecords eSdpMediaType)

/-- The media of a remote SDP; nothing is updated where its port is zero. -/
def updateStatusTableWithRemoteSdp (t : QosStatusTable) (media : SdpMedia) : QosStatusTable :=
  if media.nPort ≤ 0 then t
  else t.modifyRecords media.eType fun records => Records.updateWithRemoteSdp records media

/-- `FormCurrentAttribute`, `FormDesiredAttribute` and `FormConfirmAttribute` for a media
line, with the table they leave. -/
def formAttributes (t : QosStatusTable) (eSdpMediaType : SdpMediaType) (nPort : Int)
    (bUseConf : Bool) : SdpMedia × QosStatusTable :=
  let current := Records.formCurrentAttribute (t.getRecords eSdpMediaType)
  ({ eType := eSdpMediaType
     nPort := nPort
     curr := current.1
     des := Records.formDesiredAttribute current.2
     conf := Records.formConfirmAttribute current.2 bUseConf },
    t.modifyRecords eSdpMediaType fun _ => current.2)

end QosStatusTable

end ImsStack.Precondition
