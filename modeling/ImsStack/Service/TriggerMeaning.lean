import ImsStack.Library.FirstFit
import ImsStack.Service.TriggerPoint

/-!
What a trigger point means: which messages it accepts, said without the flags and the loops of
its evaluation.
-/

namespace ImsStack.Service

open Platform Platform.AString Library.FirstFit

section Texts

variable {s t : Chars}

theorem toNat_toLower (c : Char) :
    (toLower c).toNat = if 65 ≤ c.toNat ∧ c.toNat ≤ 90 then c.toNat + 32 else c.toNat := by
  have hupper : 'A' ≤ c ∧ c ≤ 'Z' ↔ 65 ≤ c.toNat ∧ c.toNat ≤ 90 := Iff.rfl
  unfold toLower
  by_cases hc : 65 ≤ c.toNat ∧ c.toNat ≤ 90
  · have hvalid : (c.toNat + 32).isValidChar := Or.inl (by omega)
    rw [if_pos (hupper.mpr hc), if_pos hc, Char.ofNat, dif_pos hvalid]
    rfl
  · rw [if_neg (hupper.not.mpr hc), if_neg hc]

theorem toLower_ne_nul {c : Char} (hc : c ≠ nul) : toLower c ≠ nul := by
  intro heq
  apply hc
  apply Char.toNat_inj.mp
  have hlower := toNat_toLower c
  have hnul : nul.toNat = 0 := rfl
  rw [heq] at hlower
  split at hlower <;> omega

theorem toLower_toLower (c : Char) : toLower (toLower c) = toLower c := by
  apply Char.toNat_inj.mp
  have hlower := toNat_toLower c
  rw [toNat_toLower (toLower c)]
  split at hlower <;> split <;> omega

theorem cString_makeLower : cString (makeLower s) = (cString s).map toLower := by
  induction s with
  | nil => rfl
  | cons c s ih =>
    by_cases hc : c = nul
    · subst hc
      rfl
    · have htake : cString (c :: s) = c :: cString s :=
        List.takeWhile_cons_of_pos (decide_eq_true hc)
      have hlower : makeLower (c :: s) = toLower c :: makeLower s := by
        unfold makeLower
        rw [htake]
        rfl
      rw [hlower, htake, List.map_cons, ← ih]
      exact List.takeWhile_cons_of_pos (decide_eq_true (toLower_ne_nul hc))

theorem length_makeLower : (makeLower s).length = s.length := by
  have hle : (cString s).length ≤ s.length := (List.takeWhile_prefix _).length_le
  unfold makeLower
  rw [List.length_append, List.length_map, List.length_drop]
  omega

/-- Lower case does not change whether two texts are equal regardless of case. -/
theorem equalsIgnoreCase_makeLower :
    NullString.equalsIgnoreCase (some (makeLower s)) (some t) =
      NullString.equalsIgnoreCase (some s) (some t) := by
  have hlower : ((cString s).map toLower).map toLower = (cString s).map toLower := by
    rw [List.map_map]
    exact List.map_congr_left fun c _ => toLower_toLower c
  unfold NullString.equalsIgnoreCase NullString.length NullString.chars AString.equalsIgnoreCase
  rw [Option.getD_some, Option.getD_some, Option.getD_some, length_makeLower, cString_makeLower,
    hlower]
  rfl

theorem infix_iff_exists_occursAt : t <:+: s ↔ ∃ p, OccursAt t s p := by
  constructor
  · rintro ⟨before, after, rfl⟩
    refine ⟨before.length, by simp, ?_⟩
    rw [List.append_assoc, List.drop_left]
    exact List.prefix_append t after
  · rintro ⟨p, -, hprefix⟩
    exact hprefix.isInfix.trans (List.drop_suffix p s).isInfix

/-- Of texts without a NUL, one contains the other if that is not empty and a part of it. -/
theorem contains_iff (ord : Char → BitVec 32) (hs : nul ∉ s) (ht : nul ∉ t)
    (hfits : t.length < 2 ^ 31) : contains ord s t = true ↔ t ≠ [] ∧ t <:+: s := by
  have hoffset : (0 : Int) = (0 : Nat) := rfl
  unfold contains
  rw [hoffset]
  by_cases hempty : t = []
  · subst hempty
    rw [getIndexOf_nil ord fun _ => ⟨by omega, by omega⟩]
    exact ⟨fun h => absurd h Bool.false_ne_true, fun h => absurd rfl h.1⟩
  · obtain ⟨r, hr, hfirst⟩ := @exists_getIndexOf ord s t hs ht hempty 0
      fun _ => ⟨by omega, by omega⟩
    rw [hr, infix_iff_exists_occursAt]
    rcases hfirst with ⟨rfl, hnone⟩ | ⟨p, rfl, -, hoccurs, -⟩
    · refine ⟨fun h => absurd h Bool.false_ne_true, ?_⟩
      rintro ⟨-, p, hp⟩
      exact absurd hp (hnone p (Nat.zero_le p))
    · refine ⟨fun _ => ⟨hempty, p, hoccurs⟩, fun _ => ?_⟩
      have hne : (p : Int) ≠ npos := by
        unfold npos
        omega
      exact bne_iff_ne.mpr hne

theorem contains_iff_abc :
    contains (fun c => .ofNat 32 c.toNat) "abc".toList "bc".toList = true ↔
      "bc".toList ≠ [] ∧ "bc".toList <:+: "abc".toList :=
  contains_iff _ (by decide) (by decide) (by decide)

end Texts

namespace TriggerPoint

section Headers

variable (ord : Char → BitVec 32) (signed : Bool) (helper : SipParsingHelper)

/-- A header of a trigger point is matched by another one. -/
def Matches (nEvaluationRule : BitVec 32) (header other : SipHeader) : Prop :=
  if isParameterComparisonRequired header = true then
    (header.objParams = [] ∧ other.objParams = []) ∨
      ∃ first ∈ header.objParams.head?, ∃ parameter ∈ other.objParams,
        first.equals signed parameter = true
  else valueEvaluation ord header other nEvaluationRule = true

/-- One of some values reads as a header. -/
def ReadsAs (objValues : List Chars) (header other : SipHeader) : Prop :=
  ∃ strValue ∈ objValues, readHeader helper header.nType header.strName strValue = some other

/-- A required header: some value of it in the message matches. -/
def IsPresent (nEvaluationRule : BitVec 32) (sipMsg : SipMessage) (header : SipHeader) : Prop :=
  ∃ other, ReadsAs helper (sipMsg.getHeaders header.nType header.strName) header other ∧
    Matches ord signed nEvaluationRule header other

/-- A negated header: the message has none of it, or it has values of it that can be read and
none of them matches; without a value, the message has none. -/
def IsAbsent (nEvaluationRule : BitVec 32) (sipMsg : SipMessage) (header : SipHeader) : Prop :=
  sipMsg.getHeaders header.nType header.strName = [] ∨
    (header.strBody.length ≠ 0 ∧
      (∃ other, ReadsAs helper (sipMsg.getHeaders header.nType header.strName) header other) ∧
      ¬IsPresent ord signed helper nEvaluationRule sipMsg header)

variable {ord signed helper} {nEvaluationRule : BitVec 32} {header other : SipHeader}
  {bConditionNegated : Bool}

theorem exists_compareHeader :
    ∃ bEvaluation : Bool, compareHeader ord signed header other nEvaluationRule
        bConditionNegated = matchResult bEvaluation bConditionNegated ∧
      (bEvaluation = true ↔ Matches ord signed nEvaluationRule header other) := by
  unfold compareHeader Matches
  split
  · cases hparams : header.objParams with
    | nil =>
      refine ⟨other.objParams.isEmpty, rfl, ?_⟩
      rw [List.isEmpty_iff]
      simp
    | cons first rest =>
      refine ⟨other.objParams.any (first.equals signed), rfl, ?_⟩
      rw [List.any_eq_true]
      simp
  · exact ⟨_, rfl, Iff.rfl⟩

variable {strValue : Chars} {objValues : List Chars} {nMatchResult : Nat}

theorem readsAs_cons_iff :
    ReadsAs helper (strValue :: objValues) header other ↔
      readHeader helper header.nType header.strName strValue = some other ∨
        ReadsAs helper objValues header other := by
  unfold ReadsAs
  rw [List.exists_mem_cons_iff]

theorem not_readsAs_nil : ¬ReadsAs helper [] header other := by
  rintro ⟨strValue, hmem, -⟩
  exact List.not_mem_nil hmem

theorem compareValues_of_unread
    (hread : readHeader helper header.nType header.strName strValue = none) :
    compareValues ord signed helper header nEvaluationRule bConditionNegated
        (strValue :: objValues) nMatchResult =
      compareValues ord signed helper header nEvaluationRule bConditionNegated objValues
        nMatchResult := by
  rw [compareValues, hread]

theorem exists_compareValues_of_read
    (h : nMatchResult = sptMatchNone ∨ nMatchResult = matchResult false bConditionNegated)
    (hread : readHeader helper header.nType header.strName strValue = some other) :
    (Matches ord signed nEvaluationRule header other ∧
      compareValues ord signed helper header nEvaluationRule bConditionNegated
        (strValue :: objValues) nMatchResult = matchResult true bConditionNegated) ∨
    (¬Matches ord signed nEvaluationRule header other ∧
      compareValues ord signed helper header nEvaluationRule bConditionNegated
          (strValue :: objValues) nMatchResult =
        compareValues ord signed helper header nEvaluationRule bConditionNegated objValues
          (matchResult false bConditionNegated)) := by
  obtain ⟨bEvaluation, hcompare, hmatches⟩ := @exists_compareHeader ord signed
    nEvaluationRule header other bConditionNegated
  rw [← hmatches, compareValues, hread]
  simp only [hcompare]
  cases bEvaluation with
  | true =>
    refine .inl ⟨rfl, ?_⟩
    rcases h with rfl | rfl <;> cases bConditionNegated <;> rfl
  | false =>
    refine .inr ⟨Bool.false_ne_true, ?_⟩
    rcases h with rfl | rfl <;> cases bConditionNegated <;> rfl

/-- What the loop over the values of a header returns. -/
structure Compared (ord : Char → BitVec 32) (signed : Bool) (helper : SipParsingHelper)
    (header : SipHeader) (nEvaluationRule : BitVec 32) (bConditionNegated : Bool)
    (objValues : List Chars) (nMatchResult result : Nat) : Prop where
  matched : (∃ other, ReadsAs helper objValues header other ∧
    Matches ord signed nEvaluationRule header other) → result = matchResult true bConditionNegated
  unmatched : (¬∃ other, ReadsAs helper objValues header other ∧
      Matches ord signed nEvaluationRule header other) →
    (∃ other, ReadsAs helper objValues header other) →
      result = matchResult false bConditionNegated
  unread : (¬∃ other, ReadsAs helper objValues header other) → result = nMatchResult

theorem compared_compareValues
    (h : nMatchResult = sptMatchNone ∨ nMatchResult = matchResult false bConditionNegated) :
    Compared ord signed helper header nEvaluationRule bConditionNegated objValues nMatchResult
      (compareValues ord signed helper header nEvaluationRule bConditionNegated objValues
        nMatchResult) := by
  induction objValues generalizing nMatchResult with
  | nil =>
    constructor
    · rintro ⟨other, hreads, -⟩
      exact absurd hreads not_readsAs_nil
    · rintro - ⟨other, hreads⟩
      exact absurd hreads not_readsAs_nil
    · exact fun _ => rfl
  | cons strValue objValues ih =>
    cases hread : readHeader helper header.nType header.strName strValue with
    | none =>
      have hreads (other : SipHeader) : ReadsAs helper (strValue :: objValues) header other ↔
          ReadsAs helper objValues header other := by
        rw [readsAs_cons_iff, hread]
        exact or_iff_right (Option.some_ne_none other).symm
      have hrest := ih h
      rw [compareValues_of_unread hread]
      constructor
      · simpa only [hreads] using hrest.matched
      · simpa only [hreads] using hrest.unmatched
      · simpa only [hreads] using hrest.unread
    | some other =>
      have hreads : ReadsAs helper (strValue :: objValues) header other :=
        readsAs_cons_iff.mpr (.inl hread)
      have hrest := @ih (matchResult false bConditionNegated) (.inr rfl)
      have hstep := @exists_compareValues_of_read ord signed helper nEvaluationRule header other
        bConditionNegated strValue objValues nMatchResult h hread
      rcases hstep with ⟨hmatches, heq⟩ | ⟨hmatches, heq⟩
      · rw [heq]
        constructor
        · exact fun _ => rfl
        · exact fun hnone => absurd ⟨other, hreads, hmatches⟩ hnone
        · exact fun hnone => absurd ⟨other, hreads⟩ hnone
      · rw [heq]
        constructor
        · rintro ⟨another, hanother, hmatch⟩
          rcases readsAs_cons_iff.mp hanother with hsame | hlater
          · rw [hread] at hsame
            exact absurd (Option.some.inj hsame ▸ hmatch) hmatches
          · exact hrest.matched ⟨another, hlater, hmatch⟩
        · intro hnone _
          have hnone : ¬∃ other, ReadsAs helper objValues header other ∧
              Matches ord signed nEvaluationRule header other := by
            rintro ⟨another, hanother, hmatch⟩
            exact hnone ⟨another, readsAs_cons_iff.mpr (.inr hanother), hmatch⟩
          by_cases hany : ∃ other, ReadsAs helper objValues header other
          · exact hrest.unmatched hnone hany
          · exact hrest.unread hany
        · exact fun hnone => absurd ⟨other, hreads⟩ hnone

variable {sipMsg : SipMessage} {objHeaders : List SipHeader}

theorem compareHeaderInMessage_false_ne_iff :
    compareHeaderInMessage ord signed helper header sipMsg nEvaluationRule false ≠ sptMatchNok ↔
      IsPresent ord signed helper nEvaluationRule sipMsg header := by
  have hcompared := @compared_compareValues ord signed helper nEvaluationRule header false
    (sipMsg.getHeaders header.nType header.strName) sptMatchNone (.inl rfl)
  unfold compareHeaderInMessage IsPresent
  cases hvalues : sipMsg.getHeaders header.nType header.strName with
  | nil =>
    refine ⟨fun h => absurd rfl h, ?_⟩
    rintro ⟨other, hreads, -⟩
    exact absurd hreads not_readsAs_nil
  | cons strValue objValues =>
    rw [hvalues] at hcompared
    simp only [List.isEmpty_cons, Bool.false_and, Bool.false_eq_true, if_false]
    by_cases hmatched : ∃ other, ReadsAs helper (strValue :: objValues) header other ∧
        Matches ord signed nEvaluationRule header other
    · rw [hcompared.matched hmatched]
      exact iff_of_true (by decide) hmatched
    · refine iff_of_false (fun hne => hne ?_) hmatched
      by_cases hread : ∃ other, ReadsAs helper (strValue :: objValues) header other
      · rw [hcompared.unmatched hmatched hread]
        rfl
      · rw [hcompared.unread hread]
        rfl

theorem compareHeaderInMessage_true_ne_iff :
    compareHeaderInMessage ord signed helper header sipMsg nEvaluationRule true ≠ sptMatchNok ↔
      IsAbsent ord signed helper nEvaluationRule sipMsg header := by
  have hcompared := @compared_compareValues ord signed helper nEvaluationRule header true
    (sipMsg.getHeaders header.nType header.strName) sptMatchNone (.inl rfl)
  unfold compareHeaderInMessage IsAbsent IsPresent
  cases hvalues : sipMsg.getHeaders header.nType header.strName with
  | nil => exact iff_of_true (show sptMatchOk ≠ sptMatchNok by decide) (.inl rfl)
  | cons strValue objValues =>
    rw [hvalues] at hcompared
    have hne : strValue :: objValues ≠ [] := List.cons_ne_nil strValue objValues
    simp only [List.isEmpty_cons, Bool.false_eq_true, if_false, Bool.true_and, or_iff_right hne]
    by_cases hempty : header.strBody.length = 0
    · rw [if_pos (beq_iff_eq.mpr hempty)]
      exact iff_of_false (fun h => h rfl) fun h => h.1 hempty
    · rw [if_neg fun h => hempty (beq_iff_eq.mp h)]
      by_cases hread : ∃ other, ReadsAs helper (strValue :: objValues) header other
      · by_cases hmatched : ∃ other, ReadsAs helper (strValue :: objValues) header other ∧
            Matches ord signed nEvaluationRule header other
        · rw [hcompared.matched hmatched]
          exact iff_of_false (fun h => h rfl) fun h => h.2.2 hmatched
        · rw [hcompared.unmatched hmatched hread]
          exact iff_of_true (by decide) ⟨hempty, hread, hmatched⟩
      · rw [hcompared.unread hread]
        exact iff_of_false (fun h => h rfl) fun h => hread h.2.1

theorem headersPass_false_iff :
    headersPass ord signed helper objHeaders sipMsg nEvaluationRule false = true ↔
      ∀ header ∈ objHeaders, IsPresent ord signed helper nEvaluationRule sipMsg header := by
  unfold headersPass
  rw [List.all_eq_true]
  refine forall₂_congr fun header _ => ?_
  rw [bne_iff_ne, compareHeaderInMessage_false_ne_iff]

theorem headersPass_true_iff :
    headersPass ord signed helper objHeaders sipMsg nEvaluationRule true = true ↔
      ∀ header ∈ objHeaders, IsAbsent ord signed helper nEvaluationRule sipMsg header := by
  unfold headersPass
  rw [List.all_eq_true]
  refine forall₂_congr fun header _ => ?_
  rw [bne_iff_ne, compareHeaderInMessage_true_ne_iff]

end Headers

section Lines

variable (ord : Char → BitVec 32)

/-- A line of the SDP contains a required one, or is equal to it, regardless of case. -/
def lineMeets (bContain : Bool) (strToken strLine : Chars) : Bool :=
  if bContain then contains ord (makeLower strLine) (makeLower strToken)
  else NullString.equalsIgnoreCase (some strLine) (some strToken)

/-- The lines of a type. -/
def linesOf (lower upper : String) (strBodyPart : Chars) : List Chars :=
  (splitLines strBodyPart).filter fun strLine =>
    startsWith strLine lower || startsWith strLine upper

/-- `SPT_SDP_RULE_CONTAIN` is set. -/
def containRule (point : TriggerPoint) : Bool :=
  decide (point.nEvaluationRule &&& sptSdpRuleContain ≠ 0)

/-- The required lines are related to the lines of the message. -/
def LinesHold (related : List Chars → List Chars → Prop) (point : TriggerPoint)
    (sipMsg : SipMessage) : Prop :=
  (point.objSdpMLines = [] ∧ point.objSdpALines = []) ∨
    ∃ strBodyPart ∈ sipMsg.sdpBodyPart,
      related point.objSdpMLines (linesOf "m=" "M=" strBodyPart) ∧
        related point.objSdpALines (linesOf "a=" "A=" strBodyPart)

/-- Where lines are searched for what they contain, the required ones are in lower case. -/
def IsLowerCase (point : TriggerPoint) : Prop :=
  point.containRule = true →
    ∀ strToken ∈ point.objSdpMLines ++ point.objSdpALines, makeLower strToken = strToken

variable {ord} {bContain : Bool} {objLines objSelectedLines : List Chars} {nMatchResult : Nat}

theorem linesRefused_false :
    linesRefused nMatchResult false = (nMatchResult &&& sptMatchNok == sptMatchNok) := rfl

theorem linesRefused_or_ok :
    linesRefused (nMatchResult ||| sptMatchOk) false = linesRefused nMatchResult false := by
  have hok : sptMatchOk &&& sptMatchNok = 0 := rfl
  rw [linesRefused_false, linesRefused_false, Nat.and_or_distrib_right, hok, Nat.or_zero]

theorem linesRefused_or_nok : linesRefused (nMatchResult ||| sptMatchNok) false = true := by
  have hnok : sptMatchNok &&& sptMatchNok = 1 := rfl
  have hbit : nMatchResult &&& sptMatchNok = nMatchResult % 2 := Nat.and_one_is_mod nMatchResult
  rw [linesRefused_false, Nat.and_or_distrib_right, hnok, hbit]
  rcases Nat.mod_two_eq_zero_or_one nMatchResult with h | h <;> rw [h] <;> rfl

theorem linesRefused_compareLines :
    linesRefused (compareLines ord bContain objLines objSelectedLines nMatchResult) false =
      (linesRefused nMatchResult false ||
        !serves (lineMatches ord bContain) objLines objSelectedLines) := by
  induction objLines generalizing objSelectedLines nMatchResult with
  | nil => exact (Bool.or_false _).symm
  | cons strToken objLines ih =>
    unfold compareLines serves getIndexOf
    rw [List.eraseP_eq_eraseIdx]
    cases hfound : objSelectedLines.findIdx? (lineMatches ord bContain strToken) with
    | none =>
      have hany : objSelectedLines.any (lineMatches ord bContain strToken) = false :=
        List.any_eq_false.mpr fun strLine hmem =>
          Bool.eq_false_iff.mp (List.findIdx?_eq_none_iff.mp hfound strLine hmem)
      simp only [ih, linesRefused_or_nok, hany, Bool.true_or, Bool.false_and, Bool.not_false,
        Bool.or_true]
    | some nIndex =>
      have hany : objSelectedLines.any (lineMatches ord bContain strToken) = true := by
        rw [List.any_eq_true]
        obtain ⟨hlt, hmeets, -⟩ := List.findIdx?_eq_some_iff_getElem.mp hfound
        exact ⟨_, List.getElem_mem hlt, hmeets⟩
      simp only [ih, linesRefused_or_ok, hany, Bool.true_and]

theorem serves_selectedLines {lower upper : String} {strBodyPart : Chars}
    (h : bContain = true → ∀ strToken ∈ objLines, makeLower strToken = strToken) :
    serves (lineMatches ord bContain) objLines (selectedLines lower upper strBodyPart) =
      serves (lineMeets ord bContain) objLines (linesOf lower upper strBodyPart) := by
  unfold selectedLines
  rw [serves_map]
  refine serves_congr fun strToken hmem strLine => ?_
  unfold lineMatches lineMeets
  split
  · next hcontain => rw [h hcontain strToken hmem]
  · exact equalsIgnoreCase_makeLower

/-- Lines that are searched for equal ones are met by the same lines, or by none. -/
theorem uniform_of_equals (hequals : bContain = false) :
    Uniform (lineMeets ord bContain) objLines objSelectedLines := by
  subst hequals
  intro first _ second _ strLine _ hfirst hsecond other _ hother
  simp only [lineMeets, NullString.equalsIgnoreCase, AString.equalsIgnoreCase, Bool.false_eq_true,
    if_false, Bool.and_eq_true, beq_iff_eq] at hfirst hsecond hother ⊢
  refine ⟨⟨rfl, ?_⟩, ?_⟩
  · exact hother.1.2.trans (hfirst.1.2.symm.trans hsecond.1.2)
  · exact hother.2.trans (hfirst.2.symm.trans hsecond.2)

theorem sdpPasses_iff {point : TriggerPoint} {sipMsg : SipMessage} (h : point.IsLowerCase) :
    sdpPasses ord point sipMsg = true ↔
      LinesHold (InTurn (lineMeets ord point.containRule)) point sipMsg := by
  have hmLines (hcontain : point.containRule = true) : ∀ strToken ∈ point.objSdpMLines,
      makeLower strToken = strToken :=
    fun strToken hmem => h hcontain strToken (List.mem_append_left _ hmem)
  have haLines (hcontain : point.containRule = true) : ∀ strToken ∈ point.objSdpALines,
      makeLower strToken = strToken :=
    fun strToken hmem => h hcontain strToken (List.mem_append_right _ hmem)
  unfold sdpPasses compareSdpInfo LinesHold
  rw [bne_iff_ne]
  split
  · next hempty =>
    rw [Bool.and_eq_true, List.isEmpty_iff, List.isEmpty_iff] at hempty
    exact iff_of_true (by decide) (.inl hempty)
  · next hempty =>
    rw [Bool.and_eq_true, List.isEmpty_iff, List.isEmpty_iff] at hempty
    rw [or_iff_right hempty]
    cases sipMsg.sdpBodyPart with
    | none =>
      refine iff_of_false (fun hne => hne rfl) ?_
      rintro ⟨strBodyPart, hbody, -⟩
      exact absurd hbody (Option.not_mem_none strBodyPart)
    | some strBodyPart =>
      have hcontain : decide (point.nEvaluationRule &&& sptSdpRuleContain ≠ 0) =
          point.containRule := rfl
      simp only [linesRefused_compareLines, hcontain, serves_selectedLines hmLines,
        serves_selectedLines haLines, Option.mem_some_iff, exists_eq_left', ← serves_iff]
      cases serves (lineMeets ord point.containRule) point.objSdpMLines
          (linesOf "m=" "M=" strBodyPart) <;>
        cases serves (lineMeets ord point.containRule) point.objSdpALines
          (linesOf "a=" "A=" strBodyPart) <;> decide

end Lines

section Evaluation

variable (ord : Char → BitVec 32) (signed : Bool) (helper : SipParsingHelper)

def MethodHolds (point : TriggerPoint) (sipMsg : SipMessage) : Prop :=
  if point.bMethodNegated = true then point.objMethod.equals sipMsg.objMethod = false
  else point.objMethod.equals sipMsg.objMethod = true

/-- The trigger point accepts a message, with its lines related to those of the message. -/
structure Accepts (related : List Chars → List Chars → Prop) (point : TriggerPoint)
    (sipMsg : SipMessage) : Prop where
  method : point.MethodHolds sipMsg
  headers : ∀ header ∈ point.objHeaders,
    IsPresent ord signed helper point.nEvaluationRule sipMsg header
  negatedHeaders : ∀ header ∈ point.objNegatedHeaders,
    IsAbsent ord signed helper point.nEvaluationRule sipMsg header
  lines : point.LinesHold related sipMsg

/-- Two required lines of a type that a line of the message meets both are met by the same
lines of it. -/
def LinesUniform (point : TriggerPoint) (sipMsg : SipMessage) : Prop :=
  ∀ strBodyPart ∈ sipMsg.sdpBodyPart,
    Uniform (lineMeets ord point.containRule) point.objSdpMLines
        (linesOf "m=" "M=" strBodyPart) ∧
      Uniform (lineMeets ord point.containRule) point.objSdpALines
        (linesOf "a=" "A=" strBodyPart)

/-- The same headers and lines, added in another order. -/
structure Reordered (point other : TriggerPoint) : Prop where
  rule : other.nEvaluationRule = point.nEvaluationRule
  negated : other.bMethodNegated = point.bMethodNegated
  method : other.objMethod = point.objMethod
  headers : other.objHeaders.Perm point.objHeaders
  negatedHeaders : other.objNegatedHeaders.Perm point.objNegatedHeaders
  mLines : other.objSdpMLines.Perm point.objSdpMLines
  aLines : other.objSdpALines.Perm point.objSdpALines

variable {ord signed helper} {point other : TriggerPoint} {sipMsg : SipMessage}

theorem evaluate_eq :
    evaluate ord signed helper point (some sipMsg) =
      ((point.bMethodNegated != point.objMethod.equals sipMsg.objMethod) &&
        (headersPass ord signed helper point.objNegatedHeaders sipMsg point.nEvaluationRule true &&
          (headersPass ord signed helper point.objHeaders sipMsg point.nEvaluationRule false &&
            sdpPasses ord point sipMsg))) := by
  have hempty (bConditionNegated : Bool) :
      headersPass ord signed helper [] sipMsg point.nEvaluationRule bConditionNegated = true := rfl
  have hloops : (if (point.objHeaders.isEmpty && point.objNegatedHeaders.isEmpty) = true then
        sdpPasses ord point sipMsg
      else if (!headersPass ord signed helper point.objNegatedHeaders sipMsg point.nEvaluationRule
          true) = true then false
      else if (!headersPass ord signed helper point.objHeaders sipMsg point.nEvaluationRule
          false) = true then false
      else sdpPasses ord point sipMsg) =
      (headersPass ord signed helper point.objNegatedHeaders sipMsg point.nEvaluationRule true &&
        (headersPass ord signed helper point.objHeaders sipMsg point.nEvaluationRule false &&
          sdpPasses ord point sipMsg)) := by
    split
    · next hlists =>
      obtain ⟨hheaders, hnegated⟩ := Bool.and_eq_true_iff.mp hlists
      rw [List.isEmpty_iff.mp hheaders, List.isEmpty_iff.mp hnegated, hempty, hempty]
      rfl
    · cases headersPass ord signed helper point.objNegatedHeaders sipMsg point.nEvaluationRule
          true <;>
        cases headersPass ord signed helper point.objHeaders sipMsg point.nEvaluationRule
          false <;> rfl
  rw [evaluate, hloops]
  cases point.bMethodNegated <;> cases point.objMethod.equals sipMsg.objMethod <;> rfl

theorem evaluate_iff_accepts (h : point.IsLowerCase) :
    evaluate ord signed helper point (some sipMsg) = true ↔
      Accepts ord signed helper (InTurn (lineMeets ord point.containRule)) point sipMsg := by
  have hmethod : (point.bMethodNegated != point.objMethod.equals sipMsg.objMethod) = true ↔
      point.MethodHolds sipMsg := by
    unfold MethodHolds
    cases point.bMethodNegated <;> cases point.objMethod.equals sipMsg.objMethod <;> decide
  rw [evaluate_eq, Bool.and_eq_true, Bool.and_eq_true, Bool.and_eq_true, hmethod,
    headersPass_true_iff, headersPass_false_iff, sdpPasses_iff h]
  constructor
  · rintro ⟨hmethod, hnegated, hheaders, hlines⟩
    exact ⟨hmethod, hheaders, hnegated, hlines⟩
  · rintro ⟨hmethod, hheaders, hnegated, hlines⟩
    exact ⟨hmethod, hnegated, hheaders, hlines⟩

theorem Reordered.symm (h : point.Reordered other) : other.Reordered point where
  rule := h.rule.symm
  negated := h.negated.symm
  method := h.method.symm
  headers := h.headers.symm
  negatedHeaders := h.negatedHeaders.symm
  mLines := h.mLines.symm
  aLines := h.aLines.symm

theorem Reordered.containRule_eq (h : point.Reordered other) :
    other.containRule = point.containRule := by
  unfold containRule
  rw [h.rule]

theorem Reordered.isLowerCase (h : point.Reordered other) (hpoint : point.IsLowerCase) :
    other.IsLowerCase := by
  intro hcontain strToken hmem
  rw [h.containRule_eq] at hcontain
  exact hpoint hcontain strToken ((h.mLines.append h.aLines).subset hmem)

/-- What is accepted does not depend on the order of the headers, nor on that of the lines
where the relation does not. -/
theorem Reordered.accepts {related : List Chars → List Chars → Prop}
    (h : point.Reordered other)
    (hmLines : ∀ lines, related point.objSdpMLines lines → related other.objSdpMLines lines)
    (haLines : ∀ lines, related point.objSdpALines lines → related other.objSdpALines lines)
    (haccepts : Accepts ord signed helper related point sipMsg) :
    Accepts ord signed helper related other sipMsg := by
  constructor
  · have hmethod := haccepts.method
    unfold MethodHolds at hmethod ⊢
    rwa [h.negated, h.method]
  · intro header hmem
    rw [h.rule]
    exact haccepts.headers header (h.headers.subset hmem)
  · intro header hmem
    rw [h.rule]
    exact haccepts.negatedHeaders header (h.negatedHeaders.subset hmem)
  · rcases haccepts.lines with ⟨hm, ha⟩ | ⟨strBodyPart, hbody, hm, ha⟩
    · exact .inl ⟨List.perm_nil.mp (hm ▸ h.mLines), List.perm_nil.mp (ha ▸ h.aLines)⟩
    · exact .inr ⟨strBodyPart, hbody, hmLines _ hm, haLines _ ha⟩

theorem Reordered.linesUniform (h : point.Reordered other)
    (huniform : point.LinesUniform ord sipMsg) : other.LinesUniform ord sipMsg := by
  intro strBodyPart hbody
  obtain ⟨hm, ha⟩ := huniform strBodyPart hbody
  rw [← h.containRule_eq] at hm ha
  constructor
  · intro first hfirst second hsecond
    exact hm first (h.mLines.subset hfirst) second (h.mLines.subset hsecond)
  · intro first hfirst second hsecond
    exact ha first (h.aLines.subset hfirst) second (h.aLines.subset hsecond)

theorem linesUniform_of_equals (h : point.containRule = false) :
    point.LinesUniform ord sipMsg :=
  fun _ _ => ⟨uniform_of_equals h, uniform_of_equals h⟩

theorem accepts_iff_of_uniform (h : point.LinesUniform ord sipMsg) :
    Accepts ord signed helper (InTurn (lineMeets ord point.containRule)) point sipMsg ↔
      Accepts ord signed helper (Assignable (lineMeets ord point.containRule)) point sipMsg := by
  have hlines : point.LinesHold (InTurn (lineMeets ord point.containRule)) sipMsg ↔
      point.LinesHold (Assignable (lineMeets ord point.containRule)) sipMsg := by
    refine or_congr_right (exists_congr fun strBodyPart => and_congr_right fun hbody => ?_)
    obtain ⟨hm, ha⟩ := h strBodyPart hbody
    rw [← serves_iff, ← serves_iff, serves_iff_of_uniform hm, serves_iff_of_uniform ha]
  constructor
  · intro haccepts
    exact ⟨haccepts.method, haccepts.headers, haccepts.negatedHeaders, hlines.mp haccepts.lines⟩
  · intro haccepts
    exact ⟨haccepts.method, haccepts.headers, haccepts.negatedHeaders, hlines.mpr haccepts.lines⟩

/-- The trigger point accepts a message just if its lines can be served in turn; then they can
be assigned to distinct lines.  Any assignment will do where lines are searched for equal ones,
or where the required lines do not overlap; there the order in which headers and lines were
added does not matter, and that of the headers never does. -/
theorem evaluate_meaning (point : TriggerPoint) (sipMsg : SipMessage) (h : point.IsLowerCase) :
    (evaluate ord signed helper point (some sipMsg) = true ↔
      Accepts ord signed helper (InTurn (lineMeets ord point.containRule)) point sipMsg) ∧
    (evaluate ord signed helper point (some sipMsg) = true →
      Accepts ord signed helper (Assignable (lineMeets ord point.containRule)) point sipMsg) ∧
    (point.containRule = false ∨ point.LinesUniform ord sipMsg →
      (evaluate ord signed helper point (some sipMsg) = true ↔
        Accepts ord signed helper (Assignable (lineMeets ord point.containRule)) point sipMsg)) ∧
    ∀ other, point.Reordered other →
      ((other.objSdpMLines = point.objSdpMLines ∧ other.objSdpALines = point.objSdpALines) ∨
        point.containRule = false ∨ point.LinesUniform ord sipMsg) →
      evaluate ord signed helper other (some sipMsg) =
        evaluate ord signed helper point (some sipMsg) := by
  have huniform (hcase : point.containRule = false ∨ point.LinesUniform ord sipMsg) :
      point.LinesUniform ord sipMsg := hcase.elim linesUniform_of_equals id
  refine ⟨evaluate_iff_accepts h, ?_, ?_, ?_⟩
  · intro hevaluate
    obtain ⟨hmethod, hheaders, hnegated, hlines⟩ := (evaluate_iff_accepts h).mp hevaluate
    refine ⟨hmethod, hheaders, hnegated, hlines.imp_right ?_⟩
    rintro ⟨strBodyPart, hbody, hm, ha⟩
    exact ⟨strBodyPart, hbody, hm.assignable, ha.assignable⟩
  · intro hcase
    rw [evaluate_iff_accepts h, accepts_iff_of_uniform (huniform hcase)]
  · intro other hother hcase
    apply Bool.eq_iff_iff.mpr
    rw [evaluate_iff_accepts h, evaluate_iff_accepts (hother.isLowerCase h), hother.containRule_eq]
    rcases hcase with ⟨hm, ha⟩ | hcase
    · constructor
      · exact hother.symm.accepts (fun _ => hm ▸ id) fun _ => ha ▸ id
      · exact hother.accepts (fun _ => hm ▸ id) fun _ => ha ▸ id
    · have hotherUniform := hother.linesUniform (huniform hcase)
      have hotherIff := @accepts_iff_of_uniform ord signed helper other sipMsg hotherUniform
      rw [hother.containRule_eq] at hotherIff
      rw [hotherIff, accepts_iff_of_uniform (huniform hcase)]
      constructor
      · exact hother.symm.accepts (fun _ hlines => hlines.of_perm hother.mLines.symm)
          fun _ hlines => hlines.of_perm hother.aLines.symm
      · exact hother.accepts (fun _ hlines => hlines.of_perm hother.mLines)
          fun _ hlines => hlines.of_perm hother.aLines

end Evaluation

section Overlap

/-- A character as an unsigned `char` is converted. -/
def unsignedOrd (c : Char) : BitVec 32 := .ofNat 32 c.toNat

def invite : SipMethod := ⟨1, some "INVITE".toList⟩

/-- No header is read for a trigger point without headers. -/
def noHeaders : SipParsingHelper := ⟨fun _ _ => none, fun _ _ => none⟩

/-- An INVITE whose SDP has two attributes. -/
def rtpmapMessage : SipMessage where
  objMethod := invite
  getHeaders := fun _ _ => []
  sdpBodyPart := some "a=rtpmap:96 H264\r\na=rtpmap:97 H264\r\n".toList

/-- Any `rtpmap` attribute and that of the payload 96, in this order. -/
def overlapping : TriggerPoint :=
  { new invite false with objSdpALines := ["a=rtpmap".toList, "a=rtpmap:96".toList] }

/-- The first line required takes the line that the second one needs, though the other line of
the message would do; added the other way round the two are found. -/
theorem evaluate_overlapping :
    Accepts unsignedOrd true noHeaders (Assignable (lineMeets unsignedOrd overlapping.containRule))
        overlapping rtpmapMessage ∧
      evaluate unsignedOrd true noHeaders overlapping (some rtpmapMessage) = false ∧
      evaluate unsignedOrd true noHeaders
        { overlapping with objSdpALines := overlapping.objSdpALines.reverse }
        (some rtpmapMessage) = true := by
  refine ⟨?_, by decide +kernel, by decide +kernel⟩
  constructor
  · exact (by decide +kernel : overlapping.objMethod.equals rtpmapMessage.objMethod = true)
  · exact fun header hmem => absurd hmem List.not_mem_nil
  · exact fun header hmem => absurd hmem List.not_mem_nil
  · refine .inr ⟨_, rfl, ⟨[], List.nodup_nil, .nil⟩, [1, 0], by decide, ?_⟩
    refine .cons ⟨"a=rtpmap:97 H264".toList, by decide +kernel, by decide +kernel⟩ ?_
    exact .cons ⟨"a=rtpmap:96 H264".toList, by decide +kernel, by decide +kernel⟩ .nil

/-- `evaluate_meaning` where the payload 96 is required first. -/
theorem evaluate_meaning_specific :
    (∀ strToken ∈ ["a=rtpmap:96".toList, "a=rtpmap".toList], makeLower strToken = strToken) ∧
      Accepts unsignedOrd true noHeaders (InTurn (lineMeets unsignedOrd true))
        { new invite false with objSdpALines := ["a=rtpmap:96".toList, "a=rtpmap".toList] }
        rtpmapMessage := by
  have hlower : ∀ strToken ∈ ["a=rtpmap:96".toList, "a=rtpmap".toList],
      makeLower strToken = strToken := by decide +kernel
  refine ⟨hlower, ?_⟩
  exact (@evaluate_meaning unsignedOrd true noHeaders
    { new invite false with objSdpALines := ["a=rtpmap:96".toList, "a=rtpmap".toList] }
    rtpmapMessage fun _ => hlower).1.mp (by decide +kernel)

end Overlap

end TriggerPoint

end ImsStack.Service
