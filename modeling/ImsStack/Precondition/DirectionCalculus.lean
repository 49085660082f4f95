import ImsStack.Precondition.LineDirections
import ImsStack.Precondition.LocalStatus
import ImsStack.Precondition.StatusView

/-!
The directions of a table as sets: when the remote current direction is the union of what the lines
give, and when a current status is enabled exactly where it contains what is desired.
-/

namespace ImsStack.Precondition

open TransitionSystem

/-! ### The records of every run -/

/-- There are no records of a media, or they say what some view says. -/
def Formed (records : List QosStatusRecord) : Prop :=
  records = [] ∨ ∃ v : StatusView, (∀ s, v.dir s ≠ .invalid) ∧ records = v.records

theorem formed_initial : Formed Records.initial := by
  refine .inr ⟨⟨fun _ => .none, fun s _ => ?_, fun _ _ => false, false⟩, ?_, ?_⟩
  · exact if s = .statusLocal then .mandatory else .optional
  · intro s
    exact Direction.noConfusion
  · rfl

theorem Formed.setDir {v : StatusView} (hvalid : ∀ s, v.dir s ≠ .invalid) (s : StatusType)
    {d : Direction} (hd : d ≠ .invalid) : Formed (v.setDir s d).records := by
  refine .inr ⟨v.setDir s d, ?_, rfl⟩
  intro s'
  unfold StatusView.setDir
  dsimp only
  split
  · exact hd
  · exact hvalid s'

theorem Formed.updateLocalCurrentStatus {records : List QosStatusRecord} (h : Formed records)
    (b : Bool) : Formed (Records.updateLocalCurrentStatus records b) := by
  rcases h with rfl | ⟨v, hvalid, rfl⟩
  · refine .inl ?_
    unfold Records.updateLocalCurrentStatus
    split <;> rfl
  · unfold Records.updateLocalCurrentStatus
    split
    · exact .inr ⟨v, hvalid, rfl⟩
    · rw [v.setDirectionTag_records]
      refine Formed.setDir hvalid _ ?_
      split
      · exact v.getDirectionTag_des_ne_invalid _
      · exact Direction.noConfusion

theorem Formed.enableRemoteCurrentStatus {records : List QosStatusRecord} (h : Formed records) :
    Formed (Records.enableRemoteCurrentStatus records) := by
  rcases h with rfl | ⟨v, hvalid, rfl⟩
  · exact .inl rfl
  · unfold Records.enableRemoteCurrentStatus
    split
    · exact .inr ⟨v, hvalid, rfl⟩
    · rw [v.setDirectionTag_records]
      exact Formed.setDir hvalid _ (v.getDirectionTag_des_ne_invalid _)

theorem Formed.setLocalResourceConfirmed {records : List QosStatusRecord} (h : Formed records)
    (b : Bool) : Formed (Records.setLocalResourceConfirmed records b) := by
  rcases h with rfl | ⟨v, hvalid, rfl⟩
  · exact .inl rfl
  · exact .inr ⟨{ v with confirmed := b }, hvalid, v.setLocalResourceConfirmed_records b⟩

theorem remoteDirection_ne_invalid {before : Direction} (hbefore : before ≠ .invalid)
    {given : List Direction} (hgiven : ∀ d ∈ given, d ≠ .invalid) :
    StatusView.remoteDirection before given ≠ .invalid := by
  unfold StatusView.remoteDirection
  have hfold (d : Direction) (hd : d ≠ .invalid) :
      given.foldl (StatusView.takeLine before) d ≠ .invalid := by
    induction given generalizing d with
    | nil => exact hd
    | cons g given ih =>
        refine ih (fun d hd => hgiven d (List.mem_cons_of_mem g hd)) _ ?_
        unfold StatusView.takeLine
        split
        · exact hd
        · exact hgiven g List.mem_cons_self
  exact hfold before hbefore

/-- The records behind a received description whose first accepted line is for the two segments,
and behind any other one. -/
theorem StatusView.updateWithRemoteSdp_records {v : StatusView}
    (hvalid : v.dir .statusRemote ≠ .invalid) (media : ReceivedMedia) :
    ∃ v' : StatusView, Records.updateWithRemoteSdp v.records media.sdpMedia = v'.records ∧
      v'.dir .statusLocal = v.dir .statusLocal ∧
      (Segmented media.currLines → v'.dir .statusRemote =
        StatusView.remoteDirection (v.dir .statusRemote) (localDirections media.currLines)) ∧
      (¬ Segmented media.currLines → v'.dir .statusRemote = v.dir .statusRemote) := by
  unfold Records.updateWithRemoteSdp
  rw [v.initializeDesChecked_records]
  generalize hw : ({ v with checked := fun _ _ => false } : StatusView) = w
  have hdir : w.dir = v.dir := by rw [← hw]
  -- the desired lines leave the directions as they are
  have hdesired (u : StatusView) :
      ∃ v' : StatusView, v'.dir = u.dir ∧
        Records.updateDesiredStatus u.records media.sdpMedia.des = v'.records :=
    (StatusView.SameDirs.refl u).updateDesiredStatus _
  by_cases hsegmented : Segmented media.currLines
  · rcases createPrecondition_segmented hsegmented with ⟨hnone, hempty⟩ | ⟨p, hp, hlocal⟩
    · obtain ⟨v', hv', hrecords⟩ := hdesired w
      refine ⟨v', ?_, by rw [hv', hdir], ?_, fun h => absurd hsegmented h⟩
      · rw [show media.sdpMedia.curr = none from hnone]
        exact hrecords
      · intro _
        rw [hempty, hv', hdir]
        rfl
    · obtain ⟨v', hv', hrecords⟩ := hdesired (w.setDir .statusRemote
        (StatusView.remoteDirection (w.dir .statusRemote) (localDirections media.currLines)))
      refine ⟨v', ?_, ?_, ?_, fun h => absurd hsegmented h⟩
      · rw [show media.sdpMedia.curr = some p from hp,
          w.updateCurrentStatus_records (by rw [hdir]; exact hvalid), hlocal]
        exact hrecords
      · rw [hv', ← hdir]
        rfl
      · intro _
        rw [hv', ← hdir]
        rfl
  · obtain ⟨v', hv', hrecords⟩ := hdesired w
    refine ⟨v', ?_, by rw [hv', hdir], fun h => absurd h hsegmented, fun _ => by rw [hv', hdir]⟩
    rw [show media.sdpMedia.curr = none from createPrecondition_e2e hsegmented]
    exact hrecords

theorem updateWithRemoteSdp_nil (media : SdpMedia) :
    Records.updateWithRemoteSdp [] media = [] :=
  List.eq_nil_of_length_eq_zero (Records.length_updateWithRemoteSdp [] media)

theorem Formed.updateWithRemoteSdp {records : List QosStatusRecord} (h : Formed records)
    (media : ReceivedMedia) : Formed (Records.updateWithRemoteSdp records media.sdpMedia) := by
  rcases h with rfl | ⟨v, hvalid, rfl⟩
  · exact .inl (updateWithRemoteSdp_nil _)
  · obtain ⟨v', hrecords, hlocal, hsegmented, he2e⟩ :=
      StatusView.updateWithRemoteSdp_records (hvalid .statusRemote) media
    refine .inr ⟨v', ?_, hrecords⟩
    intro s
    cases s with
    | statusLocal =>
        rw [hlocal]
        exact hvalid .statusLocal
    | statusRemote =>
        by_cases h : Segmented media.currLines
        · rw [hsegmented h]
          exact remoteDirection_ne_invalid (hvalid .statusRemote) (localDirections_ne_invalid _)
        · rw [he2e h]
          exact hvalid .statusRemote

theorem formed_modifyRecords {t : QosStatusTable} {f : List QosStatusRecord → List QosStatusRecord}
    (h : ∀ m, Formed (t.getRecords m)) {m : SdpMediaType}
    (hf : Formed (t.getRecords m) → Formed (f (t.getRecords m))) (m' : SdpMediaType) :
    Formed ((t.modifyRecords m f).getRecords m') := by
  by_cases hm : m' = m
  · subst hm
    by_cases hinvalid : m' = .invalid
    · subst hinvalid
      exact .inl rfl
    · rw [t.getRecords_modifyRecords hinvalid]
      exact hf (h m')
  · have hsame : (t.modifyRecords m f).getRecords m' = t.getRecords m' := by
      cases m <;> cases m' <;> first | rfl | exact absurd rfl hm
    rw [hsame]
    exact h m'

theorem formed_removeUnusedRecords {t : QosStatusTable} (h : ∀ m, Formed (t.getRecords m))
    (eMediaTypes : Nat) (m : SdpMediaType) :
    Formed ((t.removeUnusedRecords eMediaTypes).getRecords m) := by
  have hclear {t : QosStatusTable} (h : ∀ m, Formed (t.getRecords m)) (c : Prop) [Decidable c]
      (m m' : SdpMediaType) :
      Formed ((if c then t.clearRecords m else t).getRecords m') := by
    split
    · exact formed_modifyRecords h (fun _ => .inl rfl) m'
    · exact h m'
  exact hclear (hclear (hclear h _ .audio) _ .video) _ .text m

theorem formed_of_reachable {t : QosStatusTable} (h : tableRuns.Reachable t) :
    ∀ m, Formed (t.getRecords m) := by
  refine h.invariant (I := fun t => ∀ m, Formed (t.getRecords m)) ?_ ?_
  · rintro t rfl m
    cases m <;> exact .inl rfl
  · rintro t operation t' h rfl
    cases operation with
    | initializeRecords m => exact formed_modifyRecords h fun _ => formed_initial
    | removeUnusedRecords eMediaTypes => exact formed_removeUnusedRecords h eMediaTypes
    | updateStatusTableWithRemoteSdp media =>
        change ∀ m, Formed ((t.updateStatusTableWithRemoteSdp media.sdpMedia).getRecords m)
        unfold QosStatusTable.updateStatusTableWithRemoteSdp
        split
        · exact h
        · exact formed_modifyRecords h fun hrecords => hrecords.updateWithRemoteSdp media
    | updateLocalCurrentStatus m b =>
        exact formed_modifyRecords h fun hrecords => hrecords.updateLocalCurrentStatus b
    | enableRemoteCurrentStatus m =>
        exact formed_modifyRecords h fun hrecords => hrecords.enableRemoteCurrentStatus
    | setLocalResourceConfirmed m b =>
        exact formed_modifyRecords h fun hrecords => hrecords.setLocalResourceConfirmed b

/-! ### Directions as sets -/

/-- A direction is the set of the single directions that it carries. -/
def Direction.carries : Direction → Flow → Bool
  | .sendrecv, _ => true
  | .send, .send => true
  | .recv, .recv => true
  | _, _ => false

/-- A direction that is the union of the directions of a list. -/
def Direction.IsUnion (d : Direction) (given : List Direction) : Prop :=
  ∀ f, d.carries f ↔ ∃ g ∈ given, g.carries f

/-- A direction that contains another one. -/
def Direction.Covers (d g : Direction) : Prop := ∀ f, g.carries f → d.carries f

theorem Direction.carries_of_ne {d : Direction} (hinvalid : d ≠ .invalid) (hnone : d ≠ .none) :
    ∃ f, d.carries f := by
  cases d with
  | invalid => exact absurd rfl hinvalid
  | none => exact absurd rfl hnone
  | send => exact ⟨.send, rfl⟩
  | recv => exact ⟨.recv, rfl⟩
  | sendrecv => exact ⟨.send, rfl⟩

theorem Direction.isUnion_iff_covers {d : Direction} {given : List Direction} (hd : d ∈ given) :
    d.IsUnion given ↔ ∀ g ∈ given, d.Covers g := by
  constructor
  · intro h g hg f hf
    exact (h f).mpr ⟨g, hg, hf⟩
  · intro h f
    constructor
    · intro hf
      exact ⟨d, hd, hf⟩
    · rintro ⟨g, hg, hf⟩
      exact h g hg f hf

/-- The line that decides: the last one that is not none, or simply the last one where there was
no direction before. -/
def decidingLine (before : Direction) (given : List Direction) : Direction :=
  if before = .none then given.getLastD before
  else (given.filter fun d => d ≠ .none).getLastD before

theorem remoteDirection_eq (before : Direction) (given : List Direction) :
    StatusView.remoteDirection before given = decidingLine before given := by
  have hfold (d : Direction) : given.foldl (StatusView.takeLine before) d =
      if before = .none then given.getLastD d
      else (given.filter fun d => d ≠ .none).getLastD d := by
    induction given generalizing d with
    | nil => exact (ite_self d).symm
    | cons g given ih =>
        rw [List.foldl_cons, ih, List.getLastD_cons, List.filter_cons]
        unfold StatusView.takeLine
        by_cases hbefore : before = .none
        · simp only [hbefore, ne_eq, not_true_eq_false, false_and, if_true, if_false]
        · by_cases hg : g = .none
          · rw [if_neg hbefore, if_pos ⟨hbefore, hg⟩, if_neg hbefore,
              if_neg (by simp only [hg, ne_eq, not_true_eq_false, decide_false,
                Bool.false_eq_true, not_false_eq_true])]
          · rw [if_neg hbefore, if_neg (fun h => hg h.2), if_neg hbefore,
              if_pos (decide_eq_true hg), List.getLastD_cons]
  exact hfold before

theorem getLastD_mem {α : Type} {l : List α} (hne : l ≠ []) (a : α) : l.getLastD a ∈ l := by
  cases l with
  | nil => exact absurd rfl hne
  | cons x l =>
      rw [List.getLastD_cons]
      exact List.getLastD_mem_cons

theorem decidingLine_mem (before : Direction) {given : List Direction}
    (h : ∃ d ∈ given, d ≠ .none) : decidingLine before given ∈ given := by
  obtain ⟨d, hd, hne⟩ := h
  unfold decidingLine
  split
  · exact getLastD_mem (List.ne_nil_of_mem hd) before
  · have hmem : d ∈ given.filter fun d => d ≠ .none :=
      List.mem_filter.mpr ⟨hd, decide_eq_true hne⟩
    exact (List.mem_filter.mp (getLastD_mem (List.ne_nil_of_mem hmem) before)).1

/-! ### The two properties -/

/-- The remote current direction is the union of the given directions; lines that say none keep
the one before. -/
def TakesUnion (before after : Direction) (given : List Direction) : Prop :=
  ((∀ d ∈ given, d = .none) → after = before) ∧
    ((∃ d ∈ given, d ≠ .none) → after.IsUnion given)

/-- A direction that a side is desired to have, mandatory or optional. -/
def QosStatusTable.Desires (t : QosStatusTable) (m : SdpMediaType) (s : StatusType) (f : Flow) :
    Prop :=
  t.getStrengthTag m s f.direction = .mandatory ∨ t.getStrengthTag m s f.direction = .optional

/-- The current directions of a side are there, and every desired one is among them. -/
def QosStatusTable.ContainsDesired (t : QosStatusTable) (m : SdpMediaType) (s : StatusType) :
    Prop :=
  (∃ f, (t.getDirectionTag m .curr s).carries f) ∧
    ∀ f, t.Desires m s f → (t.getDirectionTag m .curr s).carries f

/-- The lines of a description reach the table. -/
def ReceivedMedia.Applied (media : ReceivedMedia) : Prop :=
  0 < media.nPort ∧ Segmented media.currLines

/-- Where the remote current direction becomes the union: all lines say none; or they reach
records of the media, and the deciding line contains all others; or they do not reach the table,
and the union is what it has. -/
def LinesAgree (t : QosStatusTable) (media : ReceivedMedia) : Prop :=
  let before := t.getDirectionTag media.eType .curr .statusRemote
  let given := localDirections media.currLines
  (∀ d ∈ given, d = .none) ∨
    (media.Applied ∧ t.getRecords media.eType ≠ [] ∧
      ∀ d ∈ given, (decidingLine before given).Covers d) ∨
    (¬ media.Applied ∧ before.IsUnion given)

/-- Where the comparison of directions is the one of sets: there are records, and it is not so
that sending alone is desired and receiving alone is current. -/
def Comparable (t : QosStatusTable) (m : SdpMediaType) (s : StatusType) : Prop :=
  t.getRecords m ≠ [] ∧
    ¬ (t.Desires m s .send ∧ ¬ t.Desires m s .recv ∧ t.getDirectionTag m .curr s = .recv)

/-! ### The remote current direction behind a description -/

section
variable (t : QosStatusTable) (media : ReceivedMedia)

theorem getRecords_updateStatusTableWithRemoteSdp :
    (t.updateStatusTableWithRemoteSdp media.sdpMedia).getRecords media.eType =
      if media.nPort ≤ 0 then t.getRecords media.eType
      else Records.updateWithRemoteSdp (t.getRecords media.eType) media.sdpMedia := by
  unfold QosStatusTable.updateStatusTableWithRemoteSdp
  change (if media.nPort ≤ 0 then t else t.modifyRecords media.eType _).getRecords _ = _
  split
  · rfl
  · by_cases hinvalid : media.eType = .invalid
    · rw [hinvalid]
      exact (updateWithRemoteSdp_nil _).symm
    · rw [t.getRecords_modifyRecords hinvalid]

/-- The remote current direction before a description. -/
def directionBefore : Direction := t.getDirectionTag media.eType .curr .statusRemote

/-- The remote current direction behind a description. -/
def directionAfter : Direction :=
  (t.updateStatusTableWithRemoteSdp media.sdpMedia).getDirectionTag media.eType .curr .statusRemote

variable {t media}

theorem directionAfter_of_nil (h : t.getRecords media.eType = []) :
    directionAfter t media = .invalid ∧ directionBefore t media = .invalid := by
  unfold directionAfter directionBefore QosStatusTable.getDirectionTag
  rw [getRecords_updateStatusTableWithRemoteSdp, h, updateWithRemoteSdp_nil, ite_self]
  exact ⟨rfl, rfl⟩

theorem directionBefore_of_view {v : StatusView} (hvalid : ∀ s, v.dir s ≠ .invalid)
    (h : t.getRecords media.eType = v.records) :
    directionBefore t media = v.dir .statusRemote := by
  unfold directionBefore QosStatusTable.getDirectionTag
  rw [h, v.getDirectionTag_curr _ (hvalid _)]

theorem directionAfter_of_applied {v : StatusView} (hvalid : ∀ s, v.dir s ≠ .invalid)
    (h : t.getRecords media.eType = v.records) (happlied : media.Applied) :
    directionAfter t media =
      decidingLine (directionBefore t media) (localDirections media.currLines) := by
  obtain ⟨v', hrecords, -, hsegmented, -⟩ :=
    StatusView.updateWithRemoteSdp_records (hvalid .statusRemote) media
  have hdir := hsegmented happlied.2
  rw [directionBefore_of_view hvalid h, ← remoteDirection_eq, ← hdir]
  unfold directionAfter QosStatusTable.getDirectionTag
  rw [getRecords_updateStatusTableWithRemoteSdp, if_neg (Int.not_le.mpr happlied.1), h, hrecords]
  refine v'.getDirectionTag_curr _ ?_
  rw [hdir]
  exact remoteDirection_ne_invalid (hvalid _) (localDirections_ne_invalid _)

theorem directionAfter_of_not_applied {v : StatusView} (hvalid : ∀ s, v.dir s ≠ .invalid)
    (h : t.getRecords media.eType = v.records) (happlied : ¬ media.Applied) :
    directionAfter t media = directionBefore t media := by
  rw [directionBefore_of_view hvalid h]
  unfold directionAfter QosStatusTable.getDirectionTag
  rw [getRecords_updateStatusTableWithRemoteSdp, h]
  split
  · exact v.getDirectionTag_curr _ (hvalid _)
  · rename_i hport
    obtain ⟨v', hrecords, -, -, he2e⟩ :=
      StatusView.updateWithRemoteSdp_records (hvalid .statusRemote) media
    have hdir := he2e fun hsegmented => happlied ⟨Int.not_le.mp hport, hsegmented⟩
    rw [hrecords, v'.getDirectionTag_curr _ (by rw [hdir]; exact hvalid _), hdir]

theorem not_isUnion_invalid {given : List Direction} (hgiven : ∀ d ∈ given, d ≠ .invalid)
    (h : ∃ d ∈ given, d ≠ .none) : ¬ Direction.IsUnion .invalid given := by
  obtain ⟨d, hd, hne⟩ := h
  obtain ⟨f, hf⟩ := Direction.carries_of_ne (hgiven d hd) hne
  intro hunion
  exact absurd ((hunion f).mpr ⟨d, hd, hf⟩) (by cases f <;> exact Bool.false_ne_true)

theorem directionAfter_of_none (hformed : Formed (t.getRecords media.eType))
    (h : ∀ d ∈ localDirections media.currLines, d = .none) :
    directionAfter t media = directionBefore t media := by
  rcases hformed with hnil | ⟨v, hvalid, hv⟩
  · obtain ⟨hafter, hbefore⟩ := directionAfter_of_nil hnil
    rw [hafter, hbefore]
  · by_cases happlied : media.Applied
    · rw [directionAfter_of_applied hvalid hv happlied]
      unfold decidingLine
      split
      · rename_i hbefore
        by_cases hempty : localDirections media.currLines = []
        · rw [hempty]
          rfl
        · rw [h _ (getLastD_mem hempty _), hbefore]
      · rw [List.filter_eq_nil_iff.mpr (fun d hd => by rw [h d hd]; decide)]
        rfl
    · exact directionAfter_of_not_applied hvalid hv happlied

theorem takesUnion_iff (hformed : Formed (t.getRecords media.eType)) :
    TakesUnion (directionBefore t media) (directionAfter t media)
        (localDirections media.currLines) ↔ LinesAgree t media := by
  unfold TakesUnion LinesAgree
  dsimp only
  change _ ↔ _ ∨ _ ∨ ¬ media.Applied ∧ (directionBefore t media).IsUnion _
  by_cases hnone : ∀ d ∈ localDirections media.currLines, d = .none
  · refine iff_of_true ⟨fun _ => directionAfter_of_none hformed hnone, ?_⟩ (.inl hnone)
    rintro ⟨d, hd, hne⟩
    exact absurd (hnone d hd) hne
  · have hsome : ∃ d ∈ localDirections media.currLines, d ≠ .none := by
      by_contra hcontra
      exact hnone fun d hd => by_contra fun hne => hcontra ⟨d, hd, hne⟩
    rw [and_iff_right (fun h => absurd h hnone), or_iff_right hnone, forall_prop_of_true hsome]
    rcases hformed with hnil | ⟨v, hvalid, hv⟩
    · obtain ⟨hafter, hbefore⟩ := directionAfter_of_nil hnil
      have hnot := not_isUnion_invalid (localDirections_ne_invalid _) hsome
      rw [hafter, hbefore]
      refine iff_of_false hnot ?_
      rintro (⟨-, hne, -⟩ | ⟨-, h⟩)
      · exact hne hnil
      · exact hnot h
    · have hrecords : t.getRecords media.eType ≠ [] := by
        rw [hv]
        exact List.cons_ne_nil _ _
      by_cases happlied : media.Applied
      · rw [directionAfter_of_applied hvalid hv happlied,
          Direction.isUnion_iff_covers (decidingLine_mem _ hsome)]
        constructor
        · intro h
          exact .inl ⟨happlied, hrecords, h⟩
        · rintro (⟨-, -, h⟩ | ⟨h, -⟩)
          · exact h
          · exact absurd happlied h
      · rw [directionAfter_of_not_applied hvalid hv happlied]
        constructor
        · intro h
          exact .inr ⟨happlied, h⟩
        · rintro (⟨h, -, -⟩ | ⟨-, h⟩)
          · exact absurd h happlied
          · exact h

end

/-! ### The comparison of directions -/

theorem forall_flow {P : Flow → Prop} : (∀ f, P f) ↔ P .send ∧ P .recv := by
  constructor
  · intro h
    exact ⟨h .send, h .recv⟩
  · rintro ⟨hsend, hrecv⟩ f
    cases f with
    | send => exact hsend
    | recv => exact hrecv

theorem exists_flow {P : Flow → Prop} : (∃ f, P f) ↔ P .send ∨ P .recv := by
  constructor
  · rintro ⟨f, hf⟩
    cases f with
    | send => exact .inl hf
    | recv => exact .inr hf
  · rintro (h | h)
    · exact ⟨.send, h⟩
    · exact ⟨.recv, h⟩

/-- The comparison of the values against the inclusion of the sets, for every current direction
and whatever is desired. -/
theorem le_iff_contains {cur : Direction} (hvalid : cur ≠ .invalid) (send recv : Prop)
    [Decidable send] [Decidable recv] :
    ((cur ≠ .none ∧
          Direction.toInt (if send then (if recv then .sendrecv else .send)
            else (if recv then .recv else .none)) ≤ cur.toInt) ↔
        (cur.carries .send ∨ cur.carries .recv) ∧
          (send → cur.carries .send) ∧ (recv → cur.carries .recv)) ↔
      ¬ (send ∧ ¬ recv ∧ cur = .recv) := by
  by_cases hsend : send <;> by_cases hrecv : recv <;> cases cur <;>
    simp [hsend, hrecv, Direction.toInt, Direction.carries] at hvalid ⊢

theorem isCurrentStatusEnabled_iff {t : QosStatusTable} {m : SdpMediaType}
    (hformed : Formed (t.getRecords m)) (s : StatusType) :
    (t.isCurrentStatusEnabled m s = true ↔ t.ContainsDesired m s) ↔ Comparable t m s := by
  unfold QosStatusTable.ContainsDesired Comparable QosStatusTable.isCurrentStatusEnabled
  rcases hformed with hnil | ⟨v, hvalid, hv⟩
  · have hdir : t.getDirectionTag m .curr s = .invalid := by
      unfold QosStatusTable.getDirectionTag
      rw [hnil]
      rfl
    rw [hnil, hdir]
    refine iff_of_false ?_ (fun h => h.1 rfl)
    intro h
    obtain ⟨⟨f, hf⟩, -⟩ := h.mp rfl
    cases f <;> cases hf
  · have hdir : t.getDirectionTag m .curr s = v.dir s := by
      unfold QosStatusTable.getDirectionTag
      rw [hv, v.getDirectionTag_curr _ (hvalid s)]
    have hdesires (f : Flow) : t.Desires m s f ↔ v.Desired s f := by
      unfold QosStatusTable.Desires QosStatusTable.getStrengthTag
      rw [hv, v.getStrengthTag_flow]
      rfl
    have hrecords : t.getRecords m ≠ [] := by
      rw [hv]
      exact List.cons_ne_nil _ _
    have henabled : Records.isCurrentStatusEnabled v.records s = true ↔
        v.dir s ≠ .none ∧
          Direction.toInt (if v.Desired s .send then (if v.Desired s .recv then .sendrecv else .send)
            else (if v.Desired s .recv then .recv else .none)) ≤ (v.dir s).toInt := by
      unfold Records.isCurrentStatusEnabled
      rw [v.getDirectionTag_curr _ (hvalid s), v.getDirectionTag_des, Bool.and_eq_true,
        decide_eq_true_iff, decide_eq_true_iff]
    rw [hdir, hv, henabled, forall_flow, exists_flow, ← hv]
    simp only [hdesires]
    rw [le_iff_contains (hvalid s), and_iff_right hrecords]

/-- A table with the first records of an audio stream. -/
def audioTable : QosStatusTable := QosStatusTable.new.initializeRecords .audio

/-- Sending and receiving are given in a line of their own. -/
def sendThenRecv : ReceivedMedia where
  eType := .audio
  nPort := 9
  currLines := ["qos local send".toList, "qos local recv".toList]
  desLines := []

theorem reachable_audioTable : tableRuns.Reachable audioTable :=
  .step (.initializeRecords .audio) (.init rfl) rfl

end ImsStack.Precondition
