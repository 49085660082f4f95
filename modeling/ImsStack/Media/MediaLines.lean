import ImsStack.Media.MediaNego
import Mathlib.Data.List.Induction

/-!
The media lines that `FormSdp` gives the media.  After the lines before, a media has settled on
the first of them that it may take with a port; until then each line that it may take replaces the
one it has.
-/

namespace ImsStack.Media

universe u

variable {P X R D : Type u}

namespace MediaType

/-- The media that are asked before one. -/
def earlier (m : MediaType) : List MediaType := all.takeWhile (· ≠ m)

theorem nodup_all : all.Nodup := by decide

end MediaType

namespace MediaNego

variable (eNegoState : NegoState) (need : MediaType → Bool)

/-! ### What a media may take -/

def isCandidate (m : MediaType) (line : MediaLine) : Bool :=
  match line.eType.media? with
  | some m' => decide (m' = m)
  | none => need m

def settles (m : MediaType) (line : MediaLine) : Bool :=
  isCandidate need m line && !isReplaced eNegoState line

/-- Among the lines before there is one on which the media settles. -/
def isSettled (before : List MediaLine) (m : MediaType) : Bool :=
  before.any (settles eNegoState need m)

/-- The line replaces the one that the media has.  Of a line that is not typed and has no port,
only the first media that is not settled makes use. -/
def Points (before : List MediaLine) (line : MediaLine) (m : MediaType) : Prop :=
  isCandidate need m line = true ∧ isSettled eNegoState need before m = false ∧
    (line.eType.media? = none → isReplaced eNegoState line = true →
      ∀ m' ∈ m.earlier, need m' = true → isSettled eNegoState need before m' = true)

variable {eNegoState need} {lines before rest : List MediaLine} {line : MediaLine}
  {m m' : MediaType} {choices : MediaType → MLineChoice} {nAt : Nat}

theorem isCandidate_of_none (h : line.eType.media? = none) : isCandidate need m line = need m := by
  unfold isCandidate
  rw [h]

theorem isCandidate_of_some (h : line.eType.media? = some m') :
    isCandidate need m line = decide (m' = m) := by
  unfold isCandidate
  rw [h]

/-! ### One line -/

theorem takeUntyped_of_not_replaced {ms : List MediaType} (hms : ms.Nodup)
    (h : isReplaced eNegoState line = false) (m : MediaType) :
    takeUntyped eNegoState need nAt line ms choices m =
      if m ∈ ms ∧ need m = true ∧ (choices m).bMLineSetted = false then ⟨some nAt, true⟩
      else choices m := by
  induction ms generalizing choices with
  | nil => rw [if_neg (fun hm => absurd hm.1 List.not_mem_nil)]; rfl
  | cons first ms ih =>
      obtain ⟨hfirst, hnodup⟩ := List.nodup_cons.mp hms
      unfold takeUntyped
      rw [h]
      by_cases htakes : need first = true ∧ (choices first).bMLineSetted = false
      · rw [if_pos htakes, if_neg Bool.false_ne_true, ih hnodup]
        by_cases hm : m = first
        · subst hm
          rw [if_neg (fun hm => hfirst hm.1), Function.update_self,
            if_pos ⟨List.mem_cons_self, htakes⟩]
        · rw [Function.update_of_ne hm]
          apply if_congr _ rfl rfl
          rw [List.mem_cons, or_iff_right hm]
      · rw [if_neg htakes, ih hnodup]
        apply if_congr _ rfl rfl
        constructor
        · rintro ⟨hm, hneeds⟩
          exact ⟨List.mem_cons_of_mem _ hm, hneeds⟩
        · rintro ⟨hm, hneeds⟩
          rcases List.mem_cons.mp hm with rfl | hm
          · exact absurd hneeds htakes
          · exact ⟨hm, hneeds⟩

theorem takeUntyped_of_replaced {ms : List MediaType} (h : isReplaced eNegoState line = true)
    (m : MediaType) :
    takeUntyped eNegoState need nAt line ms choices m =
      if ms.find? (fun m => need m && !(choices m).bMLineSetted) = some m then ⟨some nAt, false⟩
      else choices m := by
  induction ms with
  | nil => rfl
  | cons first ms ih =>
      unfold takeUntyped
      rw [h, if_pos rfl, List.find?_cons]
      by_cases htakes : need first = true ∧ (choices first).bMLineSetted = false
      · rw [if_pos htakes, htakes.1, htakes.2]
        show Function.update choices first ⟨some nAt, false⟩ m =
          if some first = some m then ⟨some nAt, false⟩ else choices m
        by_cases hm : m = first
        · rw [hm, Function.update_self, if_pos rfl]
        · rw [Function.update_of_ne hm, if_neg (fun h => hm (Option.some.inj h).symm)]
      · have hnot : (need first && !(choices first).bMLineSetted) = false := by
          rw [Bool.and_eq_false_iff]
          by_cases hneed : need first = true
          · right
            rw [Bool.not_eq_false']
            exact Bool.of_not_eq_false fun hset => htakes ⟨hneed, hset⟩
          · left
            exact Bool.of_not_eq_true hneed
        rw [if_neg htakes, hnot]
        exact ih

theorem find?_all_eq_some_iff (p : MediaType → Bool) :
    MediaType.all.find? p = some m ↔ p m = true ∧ ∀ m' ∈ m.earlier, p m' = false := by
  cases m <;> cases ha : p .audio <;> cases hv : p .video <;> cases ht : p .text <;>
    simp [MediaType.all, MediaType.earlier, List.find?, List.takeWhile, ha, hv, ht]

theorem isSettled_concat : isSettled eNegoState need (before ++ [line]) m =
    (isSettled eNegoState need before m || settles eNegoState need m line) := by
  unfold isSettled
  rw [List.any_append, List.any_cons, List.any_nil, Bool.or_false]

/-- What the next line does to the media that settled as the lines before let them. -/
theorem takeLine_of_points
    (hsettled : ∀ m, (choices m).bMLineSetted = isSettled eNegoState need before m)
    (h : Points eNegoState need before line m) :
    takeLine eNegoState need nAt line choices m = ⟨some nAt, !isReplaced eNegoState line⟩ := by
  obtain ⟨hcandidate, hunsettled, hfirst⟩ := h
  unfold takeLine
  cases hmedia : line.eType.media? with
  | some m' =>
      rw [isCandidate_of_some hmedia] at hcandidate
      obtain rfl := of_decide_eq_true hcandidate
      dsimp only
      rw [hsettled, hunsettled, if_neg Bool.false_ne_true, Function.update_self]
  | none =>
      rw [isCandidate_of_none hmedia] at hcandidate
      dsimp only
      cases hreplaced : isReplaced eNegoState line with
      | false =>
          rw [takeUntyped_of_not_replaced MediaType.nodup_all hreplaced,
            if_pos ⟨MediaType.mem_all m, hcandidate, (hsettled m).trans hunsettled⟩]
          rfl
      | true =>
          rw [takeUntyped_of_replaced hreplaced, if_pos]
          · rfl
          · rw [find?_all_eq_some_iff]
            refine ⟨?_, ?_⟩
            · rw [hcandidate, hsettled, hunsettled]
              rfl
            · intro m' hm'
              cases hneed : need m' with
              | false => rfl
              | true =>
                  rw [hsettled, hfirst hmedia hreplaced m' hm' hneed]
                  rfl

theorem takeLine_of_not_points
    (hsettled : ∀ m, (choices m).bMLineSetted = isSettled eNegoState need before m)
    (h : ¬Points eNegoState need before line m) :
    takeLine eNegoState need nAt line choices m = choices m := by
  unfold takeLine
  cases hmedia : line.eType.media? with
  | some m' =>
      dsimp only
      cases hset : (choices m').bMLineSetted with
      | true => rw [if_pos rfl]
      | false =>
          rw [if_neg Bool.false_ne_true]
          apply Function.update_of_ne
          intro hm
          apply h
          refine ⟨?_, ?_, ?_⟩
          · rw [isCandidate_of_some hmedia, hm]
            exact decide_eq_true rfl
          · rw [← hsettled, hm]
            exact hset
          · intro hnone
            rw [hmedia] at hnone
            cases hnone
  | none =>
      dsimp only
      cases hreplaced : isReplaced eNegoState line with
      | false =>
          rw [takeUntyped_of_not_replaced MediaType.nodup_all hreplaced, if_neg]
          rintro ⟨-, hneed, hset⟩
          apply h
          refine ⟨(isCandidate_of_none hmedia).trans hneed, (hsettled m).symm.trans hset, ?_⟩
          intro _ htrue
          rw [hreplaced] at htrue
          cases htrue
      | true =>
          rw [takeUntyped_of_replaced hreplaced, if_neg]
          rw [find?_all_eq_some_iff]
          rintro ⟨hm, hearlier⟩
          obtain ⟨hneed, hset⟩ := (Bool.and_eq_true _ _).mp hm
          apply h
          refine ⟨(isCandidate_of_none hmedia).trans hneed, ?_, ?_⟩
          · rw [← hsettled]
            exact (Bool.not_eq_true' _).mp hset
          · intro _ _ m' hm' hneed'
            have hfalse := hearlier m' hm'
            rw [hneed', Bool.true_and, Bool.not_eq_false'] at hfalse
            rw [← hsettled]
            exact hfalse

/-! ### All lines -/

/-- The lines before gave each media the last of them that replaces the one it has. -/
structure Tracks (eNegoState : NegoState) (need : MediaType → Bool) (before : List MediaLine)
    (choices : MediaType → MLineChoice) : Prop where
  setted : ∀ m, (choices m).bMLineSetted = isSettled eNegoState need before m
  unchosen : ∀ m, (choices m).pDescriptor = none → ∀ first line rest,
    before = first ++ line :: rest → ¬Points eNegoState need first line m
  chosen : ∀ m i, (choices m).pDescriptor = some i → ∃ first line rest,
    before = first ++ line :: rest ∧ first.length = i ∧ Points eNegoState need first line m ∧
      ∀ later line' rest', before = later ++ line' :: rest' → first.length < later.length →
        ¬Points eNegoState need later line' m

theorem concat_eq_append_cons {before first rest : List MediaLine} {line line' : MediaLine}
    (h : before ++ [line] = first ++ line' :: rest) :
    (first = before ∧ line' = line) ∨ ∃ rest', before = first ++ line' :: rest' := by
  rcases List.eq_nil_or_concat rest with rfl | ⟨rest', last, rfl⟩
  · obtain ⟨hbefore, hline⟩ := List.append_inj' h rfl
    exact .inl ⟨hbefore.symm, (List.cons.inj hline).1.symm⟩
  · right
    refine ⟨rest', ?_⟩
    rw [List.concat_eq_append, ← List.cons_append, ← List.append_assoc] at h
    exact (List.append_inj' h rfl).1

theorem Tracks.step (h : Tracks eNegoState need before choices) (line : MediaLine) :
    Tracks eNegoState need (before ++ [line])
      (takeLine eNegoState need before.length line choices) where
  setted := by
    intro m
    rw [isSettled_concat]
    by_cases hpoints : Points eNegoState need before line m
    · rw [takeLine_of_points h.setted hpoints, hpoints.2.1]
      unfold settles
      rw [hpoints.1, Bool.false_or, Bool.true_and]
    · rw [takeLine_of_not_points h.setted hpoints, h.setted]
      cases hsettled : isSettled eNegoState need before m with
      | true => rfl
      | false =>
          -- A line without a point either is no candidate or has no port.
          symm
          rw [Bool.false_or]
          unfold settles
          cases hcandidate : isCandidate need m line with
          | false => rfl
          | true =>
              rw [Bool.true_and, Bool.not_eq_false']
              apply Bool.of_not_eq_false
              intro hreplaced
              apply hpoints
              refine ⟨hcandidate, hsettled, ?_⟩
              intro _ htrue
              rw [hreplaced] at htrue
              cases htrue
  unchosen := by
    intro m hnone first line' rest hsplit
    by_cases hpoints : Points eNegoState need before line m
    · rw [takeLine_of_points h.setted hpoints] at hnone
      cases hnone
    · rw [takeLine_of_not_points h.setted hpoints] at hnone
      rcases concat_eq_append_cons hsplit with ⟨rfl, rfl⟩ | ⟨rest', hbefore⟩
      · exact hpoints
      · exact h.unchosen m hnone first line' rest' hbefore
  chosen := by
    intro m i hsome
    by_cases hpoints : Points eNegoState need before line m
    · rw [takeLine_of_points h.setted hpoints] at hsome
      refine ⟨before, line, [], rfl, Option.some.inj hsome, hpoints, ?_⟩
      intro later line' rest' hsplit hlt
      have hlength := congrArg List.length hsplit
      rw [List.length_append, List.length_append, List.length_cons, List.length_cons,
        List.length_nil] at hlength
      omega
    · rw [takeLine_of_not_points h.setted hpoints] at hsome
      obtain ⟨first, line', rest, hbefore, hi, hfirst, hlast⟩ := h.chosen m i hsome
      refine ⟨first, line', rest ++ [line], ?_, hi, hfirst, ?_⟩
      · rw [hbefore, List.append_assoc, List.cons_append]
      · intro later line'' rest' hsplit hlt
        rcases concat_eq_append_cons hsplit with ⟨rfl, rfl⟩ | ⟨rest'', hlater⟩
        · exact hpoints
        · exact hlast later line'' rest'' hlater hlt

theorem Tracks.takeLines (h : Tracks eNegoState need before choices) :
    Tracks eNegoState need (before ++ lines)
      (MediaNego.takeLines eNegoState need before.length lines choices) := by
  induction lines generalizing before choices with
  | nil =>
      rw [List.append_nil]
      exact h
  | cons line lines ih =>
      have hnext := ih (h.step line)
      rw [List.append_assoc, List.length_append] at hnext
      exact hnext

theorem tracks_nil : Tracks eNegoState need [] fun _ => ⟨none, false⟩ where
  setted := fun _ => rfl
  unchosen := by
    intro m _ first line rest hsplit
    cases first <;> cases hsplit
  chosen := by
    intro m i hsome
    cases hsome

theorem tracks_lines : Tracks eNegoState need lines
    (takeLines eNegoState need 0 lines fun _ => ⟨none, false⟩) :=
  tracks_nil.takeLines

/-- There is a line of the media, or one that is not typed: one with a port, or one that the
media asked before have no use for. -/
def Finds (eNegoState : NegoState) (need : MediaType → Bool) (lines : List MediaLine)
    (m : MediaType) : Prop :=
  (∃ line ∈ lines, line.eType.media? = some m) ∨
    (∃ line ∈ lines, line.eType.media? = none ∧ isReplaced eNegoState line = false) ∨
      ∃ before line rest, lines = before ++ line :: rest ∧ line.eType.media? = none ∧
        isReplaced eNegoState line = true ∧
          ∀ m' ∈ m.earlier, need m' = true → isSettled eNegoState need before m' = true

/-- A line that is not typed comes while two of the media have not settled. -/
def Shares (eNegoState : NegoState) (need : MediaType → Bool) (lines : List MediaLine) : Prop :=
  ∃ before line rest m m', lines = before ++ line :: rest ∧ line.eType.media? = none ∧
    isReplaced eNegoState line = false ∧ m ≠ m' ∧ need m = true ∧ need m' = true ∧
      isSettled eNegoState need before m = false ∧ isSettled eNegoState need before m' = false

theorem exists_points_of_isSettled (h : isSettled eNegoState need lines m = true) :
    ∃ before line rest, lines = before ++ line :: rest ∧ Points eNegoState need before line m := by
  induction lines using List.reverseRecOn with
  | nil => cases h
  | append_singleton lines line ih =>
      cases hbefore : isSettled eNegoState need lines m with
      | true =>
          obtain ⟨before, line', rest, rfl, hpoints⟩ := ih hbefore
          refine ⟨before, line', rest ++ [line], ?_, hpoints⟩
          rw [List.append_assoc, List.cons_append]
      | false =>
          rw [isSettled_concat, hbefore, Bool.false_or] at h
          obtain ⟨hcandidate, hreplaced⟩ := (Bool.and_eq_true _ _).mp h
          refine ⟨lines, line, [], rfl, hcandidate, hbefore, ?_⟩
          intro _ htrue
          rw [htrue] at hreplaced
          cases hreplaced

theorem isSettled_of_before (hsplit : lines = before ++ line :: rest)
    (h : isSettled eNegoState need before m = true) : isSettled eNegoState need lines m = true := by
  unfold isSettled at h ⊢
  rw [hsplit, List.any_append, h, Bool.true_or]

theorem exists_points_of_typed (hmem : line ∈ lines) (hmedia : line.eType.media? = some m) :
    ∃ before line rest, lines = before ++ line :: rest ∧
      Points eNegoState need before line m := by
  obtain ⟨before, rest, hsplit⟩ := List.append_of_mem hmem
  cases hsettled : isSettled eNegoState need before m with
  | true => exact exists_points_of_isSettled (isSettled_of_before hsplit hsettled)
  | false =>
      refine ⟨before, line, rest, hsplit, ?_, hsettled, ?_⟩
      · rw [isCandidate_of_some hmedia]
        exact decide_eq_true rfl
      · intro hnone
        rw [hmedia] at hnone
        cases hnone

theorem exists_points_iff (hneed : need m = true) :
    (∃ before line rest, lines = before ++ line :: rest ∧
      Points eNegoState need before line m) ↔ Finds eNegoState need lines m := by
  constructor
  · rintro ⟨before, line, rest, rfl, hcandidate, -, hfirst⟩
    have hmem : line ∈ before ++ line :: rest :=
      List.mem_append_right _ List.mem_cons_self
    cases hmedia : line.eType.media? with
    | some m' =>
        rw [isCandidate_of_some hmedia] at hcandidate
        rw [of_decide_eq_true hcandidate] at hmedia
        exact .inl ⟨line, hmem, hmedia⟩
    | none =>
        right
        cases hreplaced : isReplaced eNegoState line with
        | false => exact .inl ⟨line, hmem, hmedia, hreplaced⟩
        | true => exact .inr ⟨before, line, rest, rfl, hmedia, hreplaced, hfirst hmedia hreplaced⟩
  · rintro (⟨line, hmem, hmedia⟩ | ⟨line, hmem, hmedia, hreplaced⟩ |
      ⟨before, line, rest, hsplit, hmedia, hreplaced, hearlier⟩)
    · exact exists_points_of_typed hmem hmedia
    · apply exists_points_of_isSettled
      apply List.any_eq_true.mpr
      refine ⟨line, hmem, ?_⟩
      unfold settles
      rw [isCandidate_of_none hmedia, hneed, hreplaced]
      rfl
    · cases hsettled : isSettled eNegoState need before m with
      | true => exact exists_points_of_isSettled (isSettled_of_before hsplit hsettled)
      | false =>
          exact ⟨before, line, rest, hsplit, (isCandidate_of_none hmedia).trans hneed, hsettled,
            fun _ _ => hearlier⟩

theorem Tracks.isSome_iff (h : Tracks eNegoState need lines choices) :
    (choices m).pDescriptor.isSome = true ↔
      ∃ before line rest, lines = before ++ line :: rest ∧
        Points eNegoState need before line m := by
  rw [Option.isSome_iff_exists]
  constructor
  · rintro ⟨i, hi⟩
    obtain ⟨first, line, rest, hsplit, -, hpoints, -⟩ := h.chosen m i hi
    exact ⟨first, line, rest, hsplit, hpoints⟩
  · rintro ⟨first, line, rest, hsplit, hpoints⟩
    apply Option.ne_none_iff_exists'.mp
    intro hnone
    exact h.unchosen m hnone first line rest hsplit hpoints

theorem Tracks.isSome_iff_typed (h : Tracks eNegoState need lines choices)
    (hneed : need m = false) :
    (choices m).pDescriptor.isSome = true ↔ ∃ line ∈ lines, line.eType.media? = some m := by
  rw [h.isSome_iff]
  constructor
  · rintro ⟨before, line, rest, rfl, hcandidate, -⟩
    refine ⟨line, List.mem_append_right _ List.mem_cons_self, ?_⟩
    cases hmedia : line.eType.media? with
    | some m' =>
        rw [isCandidate_of_some hmedia] at hcandidate
        rw [of_decide_eq_true hcandidate]
    | none =>
        rw [isCandidate_of_none hmedia, hneed] at hcandidate
        cases hcandidate
  · rintro ⟨line, hmem, hmedia⟩
    exact exists_points_of_typed hmem hmedia

theorem Tracks.finds_iff (h : Tracks eNegoState need lines choices) (hneed : need m = true) :
    (choices m).pDescriptor.isSome = true ↔ Finds eNegoState need lines m :=
  h.isSome_iff.trans (exists_points_iff hneed)

theorem Tracks.typed (h : Tracks eNegoState need lines choices) {i : Nat}
    (hi : (choices m).pDescriptor = some i) (hline : lines[i]? = some line)
    (hmedia : line.eType.media? = some m') : m = m' := by
  obtain ⟨first, line', rest, rfl, rfl, hpoints, -⟩ := h.chosen m i hi
  rw [List.getElem?_append_right (Nat.le_refl _), Nat.sub_self] at hline
  obtain rfl := Option.some.inj hline
  have hcandidate := hpoints.1
  rw [isCandidate_of_some hmedia] at hcandidate
  exact (of_decide_eq_true hcandidate).symm

theorem Tracks.of_points (h : Tracks eNegoState need lines choices)
    (hsplit : lines = before ++ line :: rest) (hpoints : Points eNegoState need before line m)
    (hreplaced : isReplaced eNegoState line = false) :
    (choices m).pDescriptor = some before.length := by
  have hsettled : settles eNegoState need m line = true := by
    unfold settles
    rw [hpoints.1, hreplaced]
    rfl
  -- Behind a line on which the media settled no line replaces it.
  have hbehind : ∀ later line' rest', lines = later ++ line' :: rest' →
      before.length < later.length → ¬Points eNegoState need later line' m := by
    intro later line' rest' hlater hlt hpoints'
    have hmem : line ∈ later := by
      have hprefix : lines.take later.length = later := by rw [hlater, List.take_left]
      rw [← hprefix, hsplit, List.take_append, List.mem_append]
      right
      rw [show later.length - before.length = (later.length - before.length - 1) + 1 by omega,
        List.take_succ_cons]
      exact List.mem_cons_self
    have htrue : isSettled eNegoState need later m = true :=
      List.any_eq_true.mpr ⟨line, hmem, hsettled⟩
    rw [hpoints'.2.1] at htrue
    cases htrue
  cases hi : (choices m).pDescriptor with
  | none => exact absurd hpoints (h.unchosen m hi before line rest hsplit)
  | some i =>
      obtain ⟨first, line', rest', hsplit', rfl, hpoints', hlast⟩ := h.chosen m i hi
      rcases Nat.lt_trichotomy before.length first.length with hlt | heq | hlt
      · exact absurd hpoints' (hbehind first line' rest' hsplit' hlt)
      · rw [heq]
      · exact absurd hpoints (hlast before line rest hsplit hlt)

theorem Tracks.shares_iff (h : Tracks eNegoState need lines choices) :
    (∃ m m' i, m ≠ m' ∧ (choices m).pDescriptor = some i ∧ (choices m').pDescriptor = some i) ↔
      Shares eNegoState need lines := by
  constructor
  · rintro ⟨m, m', i, hne, hm, hm'⟩
    obtain ⟨first, line, rest, hsplit, hi, hpoints, -⟩ := h.chosen m i hm
    obtain ⟨first', line', rest', hsplit', hi', hpoints', -⟩ := h.chosen m' i hm'
    obtain ⟨rfl, hcons⟩ := List.append_inj (hsplit.symm.trans hsplit') (hi.trans hi'.symm)
    obtain ⟨rfl, rfl⟩ := List.cons.inj hcons
    have hmedia : line.eType.media? = none := by
      cases hmedia : line.eType.media? with
      | none => rfl
      | some other =>
          have hother := hpoints.1
          have hother' := hpoints'.1
          rw [isCandidate_of_some hmedia] at hother hother'
          exact absurd ((of_decide_eq_true hother).symm.trans (of_decide_eq_true hother')) hne
    have hneed : need m = true := (isCandidate_of_none hmedia).symm.trans hpoints.1
    have hneed' : need m' = true := (isCandidate_of_none hmedia).symm.trans hpoints'.1
    refine ⟨first, line, rest, m, m', hsplit, hmedia, ?_, hne, hneed, hneed', hpoints.2.1,
      hpoints'.2.1⟩
    apply Bool.of_not_eq_true
    intro hreplaced
    -- Of a line without a port only the first media that is not settled makes use.
    have horder : m ∈ m'.earlier ∨ m' ∈ m.earlier := by
      revert hne
      cases m <;> cases m' <;> decide
    rcases horder with horder | horder
    · have hset := hpoints'.2.2 hmedia hreplaced m horder hneed
      rw [hpoints.2.1] at hset
      cases hset
    · have hset := hpoints.2.2 hmedia hreplaced m' horder hneed'
      rw [hpoints'.2.1] at hset
      cases hset
  · rintro ⟨before, line, rest, m, m', hsplit, hmedia, hreplaced, hne, hneed, hneed', hset, hset'⟩
    have hpoints : ∀ {m}, need m = true → isSettled eNegoState need before m = false →
        Points eNegoState need before line m := by
      intro m hneed hset
      refine ⟨(isCandidate_of_none hmedia).trans hneed, hset, ?_⟩
      intro _ htrue
      rw [hreplaced] at htrue
      cases htrue
    exact ⟨m, m', before.length, hne, h.of_points hsplit (hpoints hneed hset) hreplaced,
      h.of_points hsplit (hpoints hneed' hset') hreplaced⟩

end MediaNego

end ImsStack.Media
