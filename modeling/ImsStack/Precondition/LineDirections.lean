import ImsStack.Precondition.SdpPrecondition

/-!
The directions that the lines of a curr attribute give for the local status of their sender, line
by line, and the details of the precondition that is made of them.
-/

namespace ImsStack.Precondition

open Platform.AString

namespace LineProperties

/-- What a line says on its own, where it is accepted. -/
def given? (line : Chars) : Option LineProperties :=
  let extracted := initial.extractProperties line
  if extracted.1 ∧ extracted.2.nType = .qos then some extracted.2 else none

/-- The direction of a line on the local status. -/
def localDirection? (p : LineProperties) : Option Direction :=
  if p.status = .statusLocal then some p.direction else none

/-- The fields that every accepted line sets. -/
structure Agree (p q : LineProperties) : Prop where
  nType : p.nType = q.nType
  nSubType : p.nSubType = q.nSubType
  status : p.status = q.status
  direction : p.direction = q.direction

theorem extractStatus_agree (p q : LineProperties) (htype : p.nType = q.nType)
    (strStatusType strDirectionTag : Chars) :
    (p.extractStatus strStatusType strDirectionTag).1 =
        (q.extractStatus strStatusType strDirectionTag).1 ∧
      ((p.extractStatus strStatusType strDirectionTag).1 = true →
        Agree (p.extractStatus strStatusType strDirectionTag).2
          (q.extractStatus strStatusType strDirectionTag).2) := by
  unfold extractStatus
  cases statusTag? strStatusType with
  | none => exact ⟨rfl, fun h => absurd h Bool.false_ne_true⟩
  | some status =>
      cases directionTag? strDirectionTag with
      | none => exact ⟨rfl, fun h => absurd h Bool.false_ne_true⟩
      | some direction => exact ⟨rfl, fun _ => ⟨htype, rfl, rfl, rfl⟩⟩

theorem extractProperties_agree (p q : LineProperties) (line : Chars) :
    (p.extractProperties line).1 = (q.extractProperties line).1 ∧
      ((p.extractProperties line).1 = true →
        Agree (p.extractProperties line).2 (q.extractProperties line).2) := by
  have hfalse {P : Prop} : (false = true) → P := fun h => absurd h Bool.false_ne_true
  unfold extractProperties
  split
  · exact ⟨rfl, hfalse⟩
  · split
    · exact extractStatus_agree (p.setType _) (q.setType _) rfl _ _
    · split
      · exact ⟨rfl, hfalse⟩
      · exact extractStatus_agree { p.setType _ with strength := _ }
          { q.setType _ with strength := _ } rfl _ _
    · exact ⟨rfl, hfalse⟩

theorem extractStatus_direction (p : LineProperties) (strStatusType strDirectionTag : Chars)
    (h : (p.extractStatus strStatusType strDirectionTag).1 = true) :
    (p.extractStatus strStatusType strDirectionTag).2.direction ≠ .invalid ∧
      (p.extractStatus strStatusType strDirectionTag).2.nSubType =
        (p.extractStatus strStatusType strDirectionTag).2.status.subType := by
  have hvalid {d : Direction} (hd : directionTag? strDirectionTag = some d) : d ≠ .invalid := by
    rintro rfl
    unfold directionTag? at hd
    repeat' split at hd
    all_goals exact absurd hd (by simp)
  unfold extractStatus at h ⊢
  cases hstatus : statusTag? strStatusType with
  | none => rw [hstatus] at h; exact absurd h Bool.false_ne_true
  | some status =>
      cases hdirection : directionTag? strDirectionTag with
      | none => rw [hstatus, hdirection] at h; exact absurd h Bool.false_ne_true
      | some direction => exact ⟨hvalid hdirection, rfl⟩

theorem extractProperties_direction (p : LineProperties) (line : Chars)
    (h : (p.extractProperties line).1 = true) :
    (p.extractProperties line).2.direction ≠ .invalid ∧
      (p.extractProperties line).2.nSubType = (p.extractProperties line).2.status.subType := by
  have hfalse {P : Prop} : (false = true) → P := fun h => absurd h Bool.false_ne_true
  unfold extractProperties at h ⊢
  split at h
  · exact hfalse h
  · rename_i hne
    rw [if_neg hne]
    split at h
    · exact extractStatus_direction _ _ _ h
    · split at h
      · exact hfalse h
      · rename_i hstrength
        dsimp only
        exact extractStatus_direction _ _ _ h
    · exact hfalse h

theorem given?_direction {line : Chars} {p : LineProperties} (h : given? line = some p) :
    p.direction ≠ .invalid ∧ p.nSubType = p.status.subType := by
  unfold given? at h
  dsimp only at h
  split at h
  · rename_i hgiven
    obtain rfl := Option.some.inj h
    exact extractProperties_direction _ _ hgiven.1
  · cases h

end LineProperties

open LineProperties

/-- What the accepted lines say. -/
def givenLines (lines : List Chars) : List LineProperties := lines.filterMap given?

/-- The directions that the lines give for the local status of their sender, which is the remote
one of the table. -/
def localDirections (lines : List Chars) : List Direction :=
  (givenLines lines).filterMap localDirection?

theorem localDirections_ne_invalid (lines : List Chars) :
    ∀ d ∈ localDirections lines, d ≠ .invalid := by
  intro d hd
  obtain ⟨p, hp, hlocal⟩ := List.mem_filterMap.mp hd
  obtain ⟨line, -, hline⟩ := List.mem_filterMap.mp hp
  unfold localDirection? at hlocal
  split at hlocal
  · obtain rfl := Option.some.inj hlocal
    exact (given?_direction hline).1
  · cases hlocal

/-- The first accepted line makes a precondition for the two segments, or there is none. -/
def Segmented (lines : List Chars) : Prop :=
  ∀ p ∈ (givenLines lines).head?, p.nSubType = .segmented

instance (lines : List Chars) : Decidable (Segmented lines) :=
  inferInstanceAs (Decidable (∀ p ∈ (givenLines lines).head?, p.nSubType = .segmented))

namespace CreatedPrecondition

theorem addLine_of_none {line : Chars} (h : given? line = none) (c : CreatedPrecondition) :
    (c.addLine line).pPrecondition = c.pPrecondition := by
  obtain ⟨haccepted, hagree⟩ := extractProperties_agree c.properties initial line
  unfold given? at h
  unfold addLine
  dsimp only
  split
  · rfl
  · rename_i hok
    rw [Bool.not_eq_true, Bool.not_eq_false'] at hok
    split
    · rfl
    · rename_i htype
      rw [if_pos ⟨haccepted ▸ hok, (hagree hok).nType ▸ Decidable.not_not.mp htype⟩] at h
      cases h

theorem addLine_of_some {line : Chars} {p : LineProperties} (h : given? line = some p)
    (c : CreatedPrecondition) :
    ∃ strength, (c.addLine line).pPrecondition =
      some ((c.pPrecondition.getD (.new p.nSubType)).addStatus p.status p.direction strength) := by
  obtain ⟨haccepted, hagree⟩ := extractProperties_agree c.properties initial line
  unfold given? at h
  dsimp only at h
  split at h
  · rename_i hgiven
    obtain rfl := Option.some.inj h
    have hok : (c.properties.extractProperties line).1 = true := haccepted.trans hgiven.1
    have hfields := hagree hok
    have htype : (c.properties.extractProperties line).2.nType = .qos :=
      hfields.nType.trans hgiven.2
    refine ⟨(c.properties.extractProperties line).2.strength, ?_⟩
    unfold addLine
    dsimp only
    rw [if_neg (by rw [hok]; exact Bool.false_ne_true), if_neg (fun h => h htype)]
    rw [hfields.nSubType, hfields.status, hfields.direction]
  · cases h

/-- A precondition for the two segments is made, with these local directions. -/
def Holds (c : CreatedPrecondition) (directions : List Direction) : Prop :=
  ∃ p : SdpSegmentedPrecondition, c.pPrecondition = some (.segmented p) ∧
    p.localDetails.map DetailInfo.direction = directions ∧ p.isPreconditionPresent = true

theorem addStatus_segmented (p : SdpSegmentedPrecondition) (q : LineProperties)
    (strength : Strength) :
    ∃ p' : SdpSegmentedPrecondition,
      (SdpPrecondition.segmented p).addStatus q.status q.direction strength = .segmented p' ∧
        p'.localDetails.map DetailInfo.direction =
          p.localDetails.map DetailInfo.direction ++ q.localDirection?.toList ∧
        (p.isPreconditionPresent = true ∨ q.nSubType = .segmented ∧ q.status.subType = q.nSubType →
          p'.isPreconditionPresent = true) := by
  unfold localDirection?
  cases hstatus : q.status with
  | statusE2e =>
      refine ⟨p, rfl, (List.append_nil _).symm, ?_⟩
      rintro (h | ⟨h, h'⟩)
      · exact h
      · rw [h] at h'
        cases h'
  | statusLocal =>
      refine ⟨_, rfl, List.map_append, ?_⟩
      intro _
      simp [SdpSegmentedPrecondition.addStatus, SdpSegmentedPrecondition.isPreconditionPresent]
  | statusRemote =>
      refine ⟨_, rfl, (List.append_nil _).symm, ?_⟩
      intro _
      simp [SdpSegmentedPrecondition.addStatus, SdpSegmentedPrecondition.isPreconditionPresent]

theorem localDirections_cons_none {line : Chars} (h : given? line = none) (lines : List Chars) :
    localDirections (line :: lines) = localDirections lines := by
  unfold localDirections givenLines
  rw [List.filterMap_cons_none h]

theorem localDirections_cons_some {line : Chars} {p : LineProperties} (h : given? line = some p)
    (lines : List Chars) :
    localDirections (line :: lines) = p.localDirection?.toList ++ localDirections lines := by
  unfold localDirections givenLines
  rw [List.filterMap_cons_some h, List.filterMap_cons]
  cases p.localDirection? <;> rfl

theorem Holds.foldl {c : CreatedPrecondition} {directions : List Direction}
    (h : c.Holds directions) (lines : List Chars) :
    (lines.foldl addLine c).Holds (directions ++ localDirections lines) := by
  induction lines generalizing c directions with
  | nil =>
      rw [show localDirections [] = [] from rfl, List.append_nil]
      exact h
  | cons line lines ih =>
      obtain ⟨p, hp, hdirections, hpresent⟩ := h
      rw [List.foldl_cons]
      cases hline : given? line with
      | none =>
          rw [localDirections_cons_none hline]
          exact ih ⟨p, (addLine_of_none hline c).trans hp, hdirections, hpresent⟩
      | some q =>
          obtain ⟨strength, hadded⟩ := addLine_of_some hline c
          obtain ⟨p', hp', hdirections', hpresent'⟩ := addStatus_segmented p q strength
          rw [hp, Option.getD_some, hp'] at hadded
          rw [localDirections_cons_some hline, ← List.append_assoc]
          exact ih ⟨p', hadded, by rw [hdirections', hdirections], hpresent' (.inl hpresent)⟩

theorem e2e_foldl {c : CreatedPrecondition} {details : List DetailInfo}
    (h : c.pPrecondition = some (.e2e details)) (lines : List Chars) :
    ∃ details', (lines.foldl addLine c).pPrecondition = some (.e2e details') := by
  induction lines generalizing c details with
  | nil => exact ⟨details, h⟩
  | cons line lines ih =>
      rw [List.foldl_cons]
      cases hline : given? line with
      | none => exact ih ((addLine_of_none hline c).trans h)
      | some q =>
          obtain ⟨strength, hadded⟩ := addLine_of_some hline c
          rw [h, Option.getD_some] at hadded
          cases hstatus : q.status with
          | statusE2e => rw [hstatus] at hadded; exact ih hadded
          | statusLocal => rw [hstatus] at hadded; exact ih hadded
          | statusRemote => rw [hstatus] at hadded; exact ih hadded

/-- Before an accepted line nothing is made, and the first one decides the kind. -/
theorem foldl_of_none {c : CreatedPrecondition} (h : c.pPrecondition = none)
    (lines : List Chars) :
    (Segmented lines → ((lines.foldl addLine c).pPrecondition = none ∧ localDirections lines = []) ∨
        (lines.foldl addLine c).Holds (localDirections lines)) ∧
      (¬ Segmented lines →
        ∃ details, (lines.foldl addLine c).pPrecondition = some (.e2e details)) := by
  induction lines generalizing c with
  | nil =>
      refine ⟨fun _ => .inl ⟨h, rfl⟩, fun hfirst => absurd ?_ hfirst⟩
      intro p hp
      cases hp
  | cons line lines ih =>
      rw [List.foldl_cons]
      cases hline : given? line with
      | none =>
          have hsegmented : Segmented (line :: lines) ↔ Segmented lines := by
            unfold Segmented givenLines
            rw [List.filterMap_cons_none hline]
          rw [hsegmented, localDirections_cons_none hline]
          exact ih ((addLine_of_none hline c).trans h)
      | some q =>
          have hsegmented : Segmented (line :: lines) ↔ q.nSubType = .segmented := by
            unfold Segmented givenLines
            rw [List.filterMap_cons_some hline]
            simp
          obtain ⟨strength, hadded⟩ := addLine_of_some hline c
          rw [h, Option.getD_none] at hadded
          have hsub := (given?_direction hline).2
          rw [hsegmented]
          constructor
          · intro hq
            rw [hq] at hadded
            obtain ⟨p', hp', hdirections', hpresent'⟩ := addStatus_segmented .empty q strength
            rw [show SdpPrecondition.new .segmented = .segmented .empty from rfl, hp'] at hadded
            refine .inr ?_
            rw [localDirections_cons_some hline]
            exact Holds.foldl ⟨p', hadded, hdirections', hpresent' (.inr ⟨hq, hsub.symm⟩)⟩ lines
          · intro hq
            cases hkind : q.nSubType with
            | segmented => exact absurd hkind hq
            | e2e =>
                have hstatus : q.status = .statusE2e := by
                  cases hstatus : q.status with
                  | statusE2e => rfl
                  | _ => rw [hkind, hstatus] at hsub; cases hsub
                rw [hkind, hstatus] at hadded
                exact e2e_foldl hadded lines

end CreatedPrecondition

open CreatedPrecondition

/-- What is read of the lines of an attribute where the first accepted one is for the two
segments. -/
theorem createPrecondition_segmented {lines : List Chars} (h : Segmented lines) :
    ((createPrecondition lines).bind SdpPrecondition.segmented? = none ∧
        localDirections lines = []) ∨
      ∃ p, (createPrecondition lines).bind SdpPrecondition.segmented? = some p ∧
        p.localDetails.map DetailInfo.direction = localDirections lines := by
  unfold createPrecondition
  rcases (foldl_of_none (c := ⟨.initial, none⟩) rfl lines).1 h with ⟨hnone, hempty⟩ | ⟨p, hp, hd, hpr⟩
  · rw [hnone]
    exact .inl ⟨rfl, hempty⟩
  · refine .inr ⟨p, ?_, hd⟩
    rw [hp]
    dsimp only
    rw [if_pos (show (SdpPrecondition.segmented p).isPreconditionPresent = true from hpr)]
    rfl

theorem createPrecondition_e2e {lines : List Chars} (h : ¬ Segmented lines) :
    (createPrecondition lines).bind SdpPrecondition.segmented? = none := by
  unfold createPrecondition
  obtain ⟨details, hdetails⟩ := (foldl_of_none (c := ⟨.initial, none⟩) rfl lines).2 h
  rw [hdetails]
  dsimp only
  split <;> rfl

end ImsStack.Precondition
