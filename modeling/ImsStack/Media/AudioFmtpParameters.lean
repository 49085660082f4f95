import ImsStack.Media.ValueRanges
import Mathlib.Tactic.Tauto

/-!
The text of a format as a list of parameters: what the generator writes one after the other, and
what the parser takes apart again.
-/

namespace ImsStack.Media.AudioFmtpText

open ImsStack.Platform ImsStack.Platform.AString ImsStack.Platform.Numerals
  ImsStack.Platform.Tokens
open AudioProfile

/-! ### Parameters with separators between them -/

section Joined

variable {ps : List (Chars × Chars)} {p : Chars × Chars}

def parameterText (p : Chars × Chars) : Chars := p.1 ++ '=' :: p.2

def joined (ps : List (Chars × Chars)) : Chars := [';'].intercalate (ps.map parameterText)

/-- A name and a value that stand in a text without being taken apart. -/
structure IsPair (p : Chars × Chars) : Prop where
  name : p.1 ≠ []
  plain : ∀ c ∈ p.1 ++ p.2, c ≠ ';' ∧ c ≠ '=' ∧ isSpace c = false

theorem parameterText_ne_nil (p : Chars × Chars) : parameterText p ≠ [] :=
  List.append_ne_nil_of_right_ne_nil _ (List.cons_ne_nil _ _)

theorem intercalate_concat {sep : Char} {tokens : List Chars} (hne : tokens ≠ [])
    (token : Chars) :
    [sep].intercalate (tokens ++ [token]) = [sep].intercalate tokens ++ sep :: token := by
  induction tokens with
  | nil => exact absurd rfl hne
  | cons first tokens ih =>
    cases tokens with
    | nil => simp
    | cons second tokens =>
      have hrest := ih (List.cons_ne_nil _ _)
      rw [List.cons_append, List.cons_append, List.intercalate_cons_cons, ← List.cons_append,
        hrest, List.intercalate_cons_cons]
      simp only [List.append_assoc]

theorem append_intercalate {sep : Char} {tokens : List Chars} (h : ∀ token ∈ tokens, token ≠ [])
    (token : Chars) :
    appendSeparatorIfNotEmpty ([sep].intercalate tokens) [sep] ++ token =
      [sep].intercalate (tokens ++ [token]) := by
  unfold appendSeparatorIfNotEmpty
  cases tokens with
  | nil => simp
  | cons first tokens =>
    have hfirst := h first List.mem_cons_self
    have hlength : ([sep].intercalate (first :: tokens)).length > 0 := by
      refine List.length_pos_iff.mpr ?_
      cases tokens with
      | nil => simpa using hfirst
      | cons second tokens =>
        rw [List.intercalate_cons_cons]
        exact List.append_ne_nil_of_left_ne_nil
          (List.append_ne_nil_of_left_ne_nil hfirst _) _
    rw [if_pos hlength, intercalate_concat (List.cons_ne_nil _ _), List.append_assoc]
    rfl

theorem addParameter_joined (ps : List (Chars × Chars)) (strParameter : String)
    (strValue : Chars) :
    addParameter strParameter strValue (joined ps) =
      joined (ps ++ [(strParameter.toList, strValue)]) := by
  unfold joined
  rw [List.map_append, List.map_singleton]
  refine append_intercalate ?_ _
  intro token htoken
  obtain ⟨p, -, rfl⟩ := List.mem_map.mp htoken
  exact parameterText_ne_nil p

theorem parameter_parameterText (h : IsPair p) :
    parameter (parameterText p) = if p.2 = [] then none else some p := by
  have hname : '=' ∉ p.1 := fun hmem =>
    (h.plain '=' (List.mem_append_left _ hmem)).2.1 rfl
  have hvalue : '=' ∉ p.2 := fun hmem =>
    (h.plain '=' (List.mem_append_right _ hmem)).2.1 rfl
  have hstripName : strip p.1 = p.1 :=
    strip_eq_self fun c hc => (h.plain c (List.mem_append_left _ hc)).2.2
  have hstripValue : strip p.2 = p.2 :=
    strip_eq_self fun c hc => (h.plain c (List.mem_append_right _ hc)).2.2
  unfold parameter parameterText
  rw [split_append_cons hname, split_of_not_mem hvalue, hstripName, hstripValue]
  dsimp only
  have hlength : ¬p.1.length = 0 := fun hzero => h.name (List.eq_nil_of_length_eq_zero hzero)
  simp only [hlength, false_or, List.length_eq_zero_iff]

theorem parameters_joined (h : ∀ p ∈ ps, IsPair p) :
    parameters (joined ps) = ps.filter fun p => p.2 ≠ [] := by
  have hfilter (ps : List (Chars × Chars)) (h : ∀ p ∈ ps, IsPair p) :
      (ps.map parameterText).filterMap parameter = ps.filter fun p => p.2 ≠ [] := by
    induction ps with
    | nil => rfl
    | cons p ps ih =>
      have hothers := ih fun q hq => h q (List.mem_cons_of_mem _ hq)
      have hfirst := parameter_parameterText (h p List.mem_cons_self)
      by_cases hempty : p.2 = []
      · rw [if_pos hempty] at hfirst
        rw [List.map_cons, List.filterMap_cons_none hfirst, hothers,
          List.filter_cons_of_neg (by simpa using hempty)]
      · rw [if_neg hempty] at hfirst
        rw [List.map_cons, List.filterMap_cons_some hfirst, hothers,
          List.filter_cons_of_pos (by simpa using hempty)]
  unfold parameters joined
  by_cases hne : ps = []
  · subst hne
    rfl
  · rw [split_intercalate, hfilter ps h]
    · exact fun hnil => hne (List.map_eq_nil_iff.mp hnil)
    · intro token htoken hmem
      obtain ⟨p, hp, rfl⟩ := List.mem_map.mp htoken
      rcases List.mem_append.mp hmem with hmem | hmem
      · exact ((h p hp).plain _ (List.mem_append_left _ hmem)).1 rfl
      · rcases List.mem_cons.mp hmem with heq | hmem
        · exact absurd heq (by decide)
        · exact ((h p hp).plain _ (List.mem_append_right _ hmem)).1 rfl
    · intro token htoken
      obtain ⟨p, hp, rfl⟩ := List.mem_map.mp htoken
      refine strip_eq_self fun c hc => ?_
      rcases List.mem_append.mp hc with hc | hc
      · exact ((h p hp).plain c (List.mem_append_left _ hc)).2.2
      · rcases List.mem_cons.mp hc with rfl | hc
        · decide
        · exact ((h p hp).plain c (List.mem_append_right _ hc)).2.2

end Joined

/-! ### One parameter -/

/-- The parameter of a number, where it is visible. -/
def numberPairs (strParameter : String) (bVisible : Bool) (nValue : Int) : List (Chars × Chars) :=
  if bVisible then [(strParameter.toList, setNumber nValue)] else []

theorem addNumber_joined (ps : List (Chars × Chars)) (strParameter : String) (bVisible : Bool)
    (nValue : Int) :
    addNumber strParameter bVisible nValue (joined ps) =
      joined (ps ++ numberPairs strParameter bVisible nValue) := by
  unfold addNumber numberPairs
  cases bVisible with
  | false => rw [if_neg Bool.false_ne_true, if_neg Bool.false_ne_true, List.append_nil]
  | true => rw [if_pos rfl, if_pos rfl, addParameter_joined]

/-- The modes of a set that are written. -/
def modes (nModeSetList : BitVec 32) : List Nat := listed (MODESET_MAX_AMRWB + 1) nModeSetList

def modeText (n : Nat) : Chars := setNumber n

theorem modeSetText_eq (nModeSetList : BitVec 32) :
    modeSetText nModeSetList = [','].intercalate ((modes nModeSetList).map modeText) := by
  have hfold (ns written : List Nat) :
      ns.foldl (fun strTemp nModeSet =>
          if hasBit nModeSetList nModeSet then
            appendSeparatorIfNotEmpty strTemp [','] ++ modeText nModeSet
          else strTemp) ([','].intercalate (written.map modeText)) =
        [','].intercalate ((written ++ ns.filter (hasBit nModeSetList)).map modeText) := by
    induction ns generalizing written with
    | nil => rw [List.foldl_nil, List.filter_nil, List.append_nil]
    | cons n ns ih =>
      rw [List.foldl_cons]
      by_cases hbit : hasBit nModeSetList n = true
      · have hnumbers : ∀ token ∈ written.map modeText, token ≠ [] := by
          intro token htoken
          obtain ⟨k, -, rfl⟩ := List.mem_map.mp htoken
          exact setNumber_ne_nil _
        have hnext := ih (written ++ [n])
        rw [List.map_append, List.map_singleton, ← append_intercalate hnumbers] at hnext
        rw [if_pos hbit, hnext, List.filter_cons_of_pos hbit, List.append_assoc,
          List.singleton_append]
      · rw [if_neg hbit, ih, List.filter_cons_of_neg hbit]
  exact hfold (List.range (MODESET_MAX_AMRWB + 1)) []

theorem readModes_eq (nModeSetList : BitVec 32) (strModes : List Chars) :
    readModes nModeSetList strModes = (readModes 0 strModes).map (nModeSetList ||| ·) := by
  have hshift (start more : BitVec 32) (strModes : List Chars) :
      readModes (start ||| more) strModes = (readModes more strModes).map (start ||| ·) := by
    induction strModes generalizing more with
    | nil => rfl
    | cons strMode strModes ih =>
      unfold readModes at ih ⊢
      rw [List.foldlM_cons, List.foldlM_cons]
      cases shift (toInt32 strMode) with
      | none => rfl
      | some bits =>
        have hnext := ih (more ||| bits)
        rw [← BitVec.or_assoc] at hnext
        exact hnext
  have hstart := hshift nModeSetList 0 strModes
  rwa [show nModeSetList ||| 0 = nModeSetList from BitVec.or_zero] at hstart

/-- The bits of the modes that are written. -/
def modeBits (nModeSetList : BitVec 32) : BitVec 32 := nModeSetList &&& FULL_MODESET_AMRWB

theorem getLsbD_full (k : Nat) : FULL_MODESET_AMRWB.getLsbD k = decide (k < 9) := by
  by_cases hk : k < 32
  · revert k
    decide
  · rw [BitVec.getLsbD_of_ge _ _ (by omega), decide_eq_false (by omega)]

theorem readModes_modes {ns : List Nat} (h : ∀ n ∈ ns, n < 32) :
    readModes 0 (ns.map modeText) = some (ns.foldl (fun nList k => nList ||| bit k) 0) := by
  generalize (0 : BitVec 32) = start
  induction ns generalizing start with
  | nil => rfl
  | cons n ns ih =>
    have hn := h n List.mem_cons_self
    have hmode : shift (toInt32 (modeText n)) = some (bit n) := by
      rw [modeText, toInt32_setNumber (by omega) (by omega)]
      exact if_pos ⟨Int.natCast_nonneg n, by omega⟩
    have hothers := ih (fun k hk => h k (List.mem_cons_of_mem n hk)) (start ||| bit n)
    unfold readModes at hothers ⊢
    rw [List.map_cons, List.foldlM_cons, hmode, List.foldl_cons, ← hothers]
    rfl

theorem getLsbD_foldl_bits (ns : List Nat) (start : BitVec 32) (k : Nat) :
    (ns.foldl (fun nList k => nList ||| bit k) start).getLsbD k =
      (start.getLsbD k || decide (k ∈ ns ∧ k < 32)) := by
  induction ns generalizing start with
  | nil => simp
  | cons n ns ih =>
    rw [List.foldl_cons, ih, BitVec.getLsbD_or, getLsbD_bit, Bool.or_assoc, ← Bool.decide_or]
    congr 1
    rw [decide_eq_decide, List.mem_cons]
    tauto

theorem modes_eq_nil_iff {nModeSetList : BitVec 32} :
    modes nModeSetList = [] ↔ modeBits nModeSetList = 0 := by
  have hbit (k : Nat) : (modeBits nModeSetList).getLsbD k = true ↔ k ∈ modes nModeSetList := by
    unfold modes modeBits
    rw [mem_listed (by decide), BitVec.getLsbD_and, getLsbD_full, Bool.and_eq_true,
      decide_eq_true_eq]
    exact and_comm
  constructor
  · intro hnil
    refine BitVec.eq_of_getLsbD_eq fun k _ => ?_
    rw [getLsbD_empty, ← Bool.not_eq_true, hbit, hnil]
    exact List.not_mem_nil
  · intro hzero
    refine List.eq_nil_iff_forall_not_mem.mpr fun k hk => ?_
    rw [← hbit, hzero, getLsbD_empty] at hk
    exact Bool.false_ne_true hk

theorem readModes_modeSetText {nModeSetList : BitVec 32} (h : modes nModeSetList ≠ [])
    (start : BitVec 32) :
    readModes start (split ',' (modeSetText nModeSetList)) =
      some (start ||| modeBits nModeSetList) := by
  have hsmall : ∀ n ∈ modes nModeSetList, n < 32 := by
    intro n hn
    exact Nat.lt_of_lt_of_le ((mem_listed (by decide)).mp hn).1 (by decide)
  have htext {token : Chars} (htoken : token ∈ (modes nModeSetList).map modeText) :
      ',' ∉ token ∧ strip token = token := by
    obtain ⟨n, -, rfl⟩ := List.mem_map.mp htoken
    exact ⟨not_mem_setNumber _ (by decide) (by decide), strip_setNumber _⟩
  have hbits : (modes nModeSetList).foldl (fun nList k => nList ||| bit k) 0 =
      modeBits nModeSetList := by
    refine BitVec.eq_of_getLsbD_eq fun k hk => ?_
    rw [getLsbD_foldl_bits, getLsbD_empty, Bool.false_or, modeBits, BitVec.getLsbD_and,
      getLsbD_full, Bool.eq_iff_iff, decide_eq_true_eq, modes, mem_listed (by decide),
      Bool.and_eq_true, decide_eq_true_eq]
    exact ⟨fun hmem => ⟨hmem.1.2, hmem.1.1⟩, fun hmem => ⟨⟨hmem.2, hmem.1⟩, hk⟩⟩
  rw [modeSetText_eq, split_intercalate, readModes_eq, readModes_modes hsmall, hbits]
  · rfl
  · exact fun hnil => h (List.map_eq_nil_iff.mp hnil)
  · exact fun token htoken => (htext htoken).1
  · exact fun token htoken => (htext htoken).2

theorem modeSetText_eq_nil_iff {nModeSetList : BitVec 32} :
    modeSetText nModeSetList = [] ↔ modes nModeSetList = [] := by
  rw [modeSetText_eq]
  cases modes nModeSetList with
  | nil => simp
  | cons n ns =>
    refine ⟨fun hnil => ?_, fun hnil => absurd hnil (List.cons_ne_nil _ _)⟩
    have hfirst : modeText n ≠ [] := setNumber_ne_nil _
    cases ns with
    | nil => exact absurd (by simpa using hnil) hfirst
    | cons k ns =>
      rw [List.map_cons, List.map_cons, List.intercalate_cons_cons] at hnil
      exact absurd hnil (List.append_ne_nil_of_left_ne_nil
        (List.append_ne_nil_of_left_ne_nil hfirst _) _)

def modeSetPairs (pFmtp : AudioFmtp) : List (Chars × Chars) :=
  if pFmtp.modeSetList ≠ 0 ∧ pFmtp.visibleModeSet = true then
    [("mode-set".toList, modeSetText pFmtp.modeSetList)]
  else []

theorem addModeSetList_joined (pFmtp : AudioFmtp) (ps : List (Chars × Chars)) :
    addModeSetListToFmtp pFmtp (joined ps) = joined (ps ++ modeSetPairs pFmtp) := by
  unfold addModeSetListToFmtp modeSetPairs
  split
  · exact addParameter_joined ps _ _
  · rw [List.append_nil]

/-- A parameter of rates or bandwidths, where it is written. -/
def valuesPairs (strParameter : String) (bWritten : Bool) (table : List Chars)
    (nList : BitVec 32) : List (Chars × Chars) :=
  if bWritten then [(strParameter.toList, listText table table.length nList)] else []

/-- A name that stands in a text without being taken apart. -/
def IsName (strParameter : String) : Prop :=
  strParameter.toList ≠ [] ∧
    ∀ c ∈ strParameter.toList, c ≠ ';' ∧ c ≠ '=' ∧ isSpace c = false

instance (strParameter : String) : Decidable (IsName strParameter) :=
  @instDecidableAnd _ _ inferInstance (List.decidableBAll _ _)

section Pairs

variable {strParameter : String} {b : Bool}

theorem isPair_of_value (hname : IsName strParameter) {strValue : Chars}
    (hvalue : ∀ c ∈ strValue, c ≠ ';' ∧ c ≠ '=' ∧ isSpace c = false) :
    IsPair (strParameter.toList, strValue) := by
  refine ⟨hname.1, fun c hc => ?_⟩
  rcases List.mem_append.mp hc with hc | hc
  · exact hname.2 c hc
  · exact hvalue c hc

theorem plain_setNumber {c : Char} {n : Int} (hc : c ∈ setNumber n) :
    c ≠ ';' ∧ c ≠ '=' ∧ isSpace c = false := by
  refine ⟨?_, ?_, not_isSpace_of_mem_setNumber hc⟩
  · rintro rfl
    exact not_mem_setNumber n (by decide) (by decide) hc
  · rintro rfl
    exact not_mem_setNumber n (by decide) (by decide) hc

theorem isPair_numberPairs (hname : IsName strParameter) (n : Int) :
    ∀ p ∈ numberPairs strParameter b n, IsPair p := by
  intro p hp
  cases b with
  | false => exact absurd hp List.not_mem_nil
  | true =>
    obtain rfl := List.mem_singleton.mp hp
    exact isPair_of_value hname fun c hc => plain_setNumber hc

theorem isPair_modeSetPairs (pFmtp : AudioFmtp) : ∀ p ∈ modeSetPairs pFmtp, IsPair p := by
  intro p hp
  unfold modeSetPairs at hp
  split at hp
  · obtain rfl := List.mem_singleton.mp hp
    refine isPair_of_value (by decide) fun c hc => ?_
    rw [modeSetText_eq] at hc
    rcases mem_of_mem_intercalate hc with rfl | ⟨token, htoken, hc⟩
    · decide
    · obtain ⟨n, -, rfl⟩ := List.mem_map.mp htoken
      exact plain_setNumber hc
  · exact absurd hp List.not_mem_nil

theorem isPair_valuesPairs (hname : IsName strParameter) {table : List Chars}
    (htable : IsTable table) (nList : BitVec 32) :
    ∀ p ∈ valuesPairs strParameter b table nList, IsPair p := by
  intro p hp
  cases b with
  | false => exact absurd hp List.not_mem_nil
  | true =>
    obtain rfl := List.mem_singleton.mp hp
    refine isPair_of_value hname fun c hc => ?_
    rcases mem_listText htable hc with rfl | hplain
    · decide
    · exact ⟨hplain.2.2.1, hplain.2.2.2.1, hplain.2.2.2.2⟩

end Pairs

/-! ### Reading the parameters one after the other -/

section Steps

variable {α : Type} {parse : Parse α} {ps qs : List (Chars × Chars)} {change change' : α → α}
  {found found' : Bool}

/-- Parameters change a format in a way that does not depend on what was found before. -/
def Steps (parse : Parse α) (ps : List (Chars × Chars)) (change : α → α) (found : Bool) : Prop :=
  ∀ fmtp b, parseParameters parse (ps.filter fun p => p.2 ≠ []) (fmtp, b) =
    some (change fmtp, found || b)

theorem parseParameters_append (parse : Parse α) (ps qs : List (Chars × Chars))
    (parsed : α × Bool) :
    parseParameters parse (ps ++ qs) parsed =
      (parseParameters parse ps parsed).bind (parseParameters parse qs) := by
  induction ps generalizing parsed with
  | nil => rfl
  | cons p ps ih =>
    rw [List.cons_append, parseParameters, parseParameters]
    split
    · exact ih parsed
    · rfl
    · exact ih _

theorem Steps.append (h : Steps parse ps change found) (h' : Steps parse qs change' found') :
    Steps parse (ps ++ qs) (fun fmtp => change' (change fmtp)) (found' || found) := by
  intro fmtp b
  rw [List.filter_append, parseParameters_append, h, Option.bind_some, h', Bool.or_assoc]

theorem steps_of_filter (p : Chars × Chars) {change : Bool → α → α}
    (hps : (ps.filter fun p => p.2 ≠ []) = if found then [p] else [])
    (htrue : found = true → ∀ fmtp, parse p.1 p.2 fmtp = some (some (change true fmtp)))
    (hfalse : ∀ fmtp, change false fmtp = fmtp) : Steps parse ps (change found) found := by
  intro fmtp b
  rw [hps]
  cases found with
  | false =>
    rw [if_neg Bool.false_ne_true, hfalse]
    rfl
  | true =>
    rw [if_pos rfl, parseParameters, htrue rfl]
    rfl

theorem steps_numberPairs (strParameter : String) (n : Int) (found : Bool)
    (change : Bool → α → α)
    (htrue : ∀ fmtp, parse strParameter.toList (setNumber n) fmtp =
      some (some (change true fmtp)))
    (hfalse : ∀ fmtp, change false fmtp = fmtp) :
    Steps parse (numberPairs strParameter found n) (change found) found := by
  refine steps_of_filter (strParameter.toList, setNumber n) ?_ (fun _ => htrue) hfalse
  cases found with
  | false => rfl
  | true => exact List.filter_cons_of_pos (by simpa using setNumber_ne_nil n)

/-- Whether a set of modes is written that the parser finds. -/
def hasModes (pFmtp : AudioFmtp) : Bool :=
  pFmtp.visibleModeSet && modeBits pFmtp.modeSetList != 0

theorem steps_modeSetPairs (pFmtp : AudioFmtp) (change : Bool → α → α)
    (htrue : modes pFmtp.modeSetList ≠ [] → ∀ fmtp,
      parse "mode-set".toList (modeSetText pFmtp.modeSetList) fmtp =
        some (some (change true fmtp)))
    (hfalse : ∀ fmtp, change false fmtp = fmtp) :
    Steps parse (modeSetPairs pFmtp) (change (hasModes pFmtp)) (hasModes pFmtp) := by
  unfold hasModes
  have hzero : pFmtp.modeSetList = 0 → modeBits pFmtp.modeSetList = 0 := by
    intro hlist
    rw [hlist]
    rfl
  refine steps_of_filter ("mode-set".toList, modeSetText pFmtp.modeSetList) ?_ ?_ hfalse
  · unfold modeSetPairs
    generalize "mode-set".toList = strName
    by_cases hbits : modeBits pFmtp.modeSetList = 0
    · have htext : modeSetText pFmtp.modeSetList = [] :=
        modeSetText_eq_nil_iff.mpr (modes_eq_nil_iff.mpr hbits)
      rw [htext, hbits, bne_self_eq_false, Bool.and_false]
      split
      · rfl
      · rfl
    · have htext : modeSetText pFmtp.modeSetList ≠ [] := fun hnil =>
        hbits (modes_eq_nil_iff.mp (modeSetText_eq_nil_iff.mp hnil))
      have hlist : pFmtp.modeSetList ≠ 0 := fun hlist => hbits (hzero hlist)
      rw [bne_iff_ne.mpr hbits, Bool.and_true]
      generalize modeSetText pFmtp.modeSetList = strText at htext
      cases pFmtp.visibleModeSet with
      | false => rw [if_neg fun h => Bool.false_ne_true h.2]; rfl
      | true =>
        rw [if_pos ⟨hlist, rfl⟩]
        exact List.filter_cons_of_pos (by simpa using htext)
  · intro hshown
    refine htrue fun hnil => ?_
    rw [modes_eq_nil_iff] at hnil
    rw [hnil, bne_self_eq_false, Bool.and_false] at hshown
    exact Bool.false_ne_true hshown

theorem steps_valuesPairs (strParameter : String) (bWritten : Bool) {table : List Chars}
    (htable : IsTable table) (nList : BitVec 32) (change : Bool → α → α)
    (htrue : ∀ strValue, readValues table strValue = hull table.length nList → ∀ fmtp,
      parse strParameter.toList strValue fmtp = some (some (change true fmtp)))
    (hfalse : ∀ fmtp, change false fmtp = fmtp) :
    Steps parse (valuesPairs strParameter bWritten table nList)
      (change (bWritten && hull table.length nList != 0))
      (bWritten && hull table.length nList != 0) := by
  obtain ⟨hnil, hread⟩ := @readValues_listText table htable nList
  refine steps_of_filter (strParameter.toList, listText table table.length nList) ?_ ?_ hfalse
  · unfold valuesPairs
    cases bWritten with
    | false => rfl
    | true =>
      by_cases hempty : listText table table.length nList = []
      · simp [hempty, hnil.mp hempty]
      · have hne : hull table.length nList ≠ 0 := fun hzero => hempty (hnil.mpr hzero)
        rw [bne_iff_ne.mpr hne]
        exact List.filter_cons_of_pos (by simpa using hempty)
  · intro hshown
    have hne : hull table.length nList ≠ 0 := by
      intro hzero
      rw [hzero, bne_self_eq_false, Bool.and_false] at hshown
      exact Bool.false_ne_true hshown
    exact htrue _ (hread fun hempty => hne (hnil.mp hempty))

end Steps

end ImsStack.Media.AudioFmtpText
