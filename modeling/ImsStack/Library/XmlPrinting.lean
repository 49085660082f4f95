import ImsStack.Library.XmlGrammar
import Mathlib.Data.List.Chain
import Mathlib.Data.List.Infix
import Mathlib.Data.List.Nodup

/-!
The printing of tokens without references, and the condition under which the parser reads the
printed text as the same tokens.
-/

namespace ImsStack.Library.Xml

section Printing

def printAttribute (pair : Text × Text) : Text :=
  ' ' :: (pair.1 ++ '=' :: '"' :: (pair.2 ++ ['"']))

def printAttributes (attributes : List (Text × Text)) : Text := attributes.flatMap printAttribute

/-- An instruction is not printed. -/
def Token.print : Token → Text
  | .startTag name attributes => '<' :: (name ++ (printAttributes attributes ++ ['>']))
  | .emptyTag name attributes => '<' :: (name ++ (printAttributes attributes ++ ['/', '>']))
  | .endTag name => '<' :: '/' :: (name ++ ['>'])
  | .text _ data => data
  | .comment data => "<!--".toList ++ (data ++ "-->".toList)
  | .instruction => []

/-- A character that the parser leaves as it is. -/
def IsKept (c : Char) : Prop := isChar c = true ∧ c ≠ '\r'

instance (c : Char) : Decidable (IsKept c) := inferInstanceAs (Decidable (_ ∧ _))

/-- A value that can be written between double quotes as it is. -/
def IsPlainValue (value : Text) : Prop :=
  ∀ c ∈ value, IsKept c ∧ c ≠ '<' ∧ c ≠ '&' ∧ c ≠ '"' ∧ c ≠ '\t' ∧ c ≠ '\n'

/-- Text that can be written as it is. -/
structure IsPlainText (data : Text) : Prop where
  kept : ∀ c ∈ data, IsKept c ∧ c ≠ '<' ∧ c ≠ '&'
  noSectionEnd : ¬"]]>".toList <:+: data

structure IsPlainComment (data : Text) : Prop where
  kept : ∀ c ∈ data, IsKept c
  noHyphens : ¬"--".toList <:+: data
  last : data.getLast? ≠ some '-'

structure IsPlainTag (name : Text) (attributes : List (Text × Text)) : Prop where
  name : isName name = true
  names : ∀ pair ∈ attributes, isName pair.1 = true
  values : ∀ pair ∈ attributes, IsPlainValue pair.2
  distinct : (attributes.map Prod.fst).Nodup

/-- A token that is read from what is printed of it. -/
def Token.IsPlain : Token → Prop
  | .startTag name attributes => IsPlainTag name attributes
  | .emptyTag name attributes => IsPlainTag name attributes
  | .endTag name => isName name = true
  | .text literal data => literal = true ∧ data ≠ [] ∧ IsPlainText data
  | .comment data => IsPlainComment data
  | .instruction => False

def Token.isText : Token → Bool
  | .text _ _ => true
  | _ => false

end Printing

section Names

variable {c : Char} {name rest : Text}

theorem toNat_of_isNameStartChar (h : isNameStartChar c = true) :
    (58 ≤ c.toNat ∧ c.toNat ≤ 90 ∧ (c.toNat = 58 ∨ 65 ≤ c.toNat)) ∨
      (95 ≤ c.toNat ∧ c.toNat ≠ 0xFFFE ∧ c.toNat ≠ 0xFFFF) := by
  have hcolon : c = ':' ↔ c.toNat = 58 := Char.toNat_inj.symm
  have hunderscore : c = '_' ↔ c.toNat = 95 := Char.toNat_inj.symm
  simp only [isNameStartChar, inRange, Bool.or_eq_true, beq_iff_eq, decide_eq_true_eq, hcolon,
    hunderscore] at h
  omega

theorem toNat_of_isNameChar (h : isNameChar c = true) :
    (45 ≤ c.toNat ∧ c.toNat ≤ 58 ∧ c.toNat ≠ 47) ∨ (65 ≤ c.toNat ∧ c.toNat ≤ 90) ∨
      (95 ≤ c.toNat ∧ c.toNat ≠ 0xFFFE ∧ c.toNat ≠ 0xFFFF) := by
  have hhyphen : c = '-' ↔ c.toNat = 45 := Char.toNat_inj.symm
  have hdot : c = '.' ↔ c.toNat = 46 := Char.toNat_inj.symm
  simp only [isNameChar, inRange, Bool.or_eq_true, beq_iff_eq, decide_eq_true_eq, hhyphen,
    hdot] at h
  rcases h with (((((h | h) | h) | h) | h) | h) | h
  · have := toNat_of_isNameStartChar h
    omega
  all_goals omega

theorem isKept_of_isNameChar (h : isNameChar c = true) : IsKept c := by
  have hcode := toNat_of_isNameChar h
  have hreturn : c = '\r' ↔ c.toNat = 13 := Char.toNat_inj.symm
  refine ⟨?_, fun heq => ?_⟩
  · simp only [isChar, Bool.or_eq_true, Bool.and_eq_true, decide_eq_true_eq, bne_iff_ne]
    exact .inr ⟨⟨by omega, by omega⟩, by omega⟩
  · have := hreturn.mp heq
    omega

theorem isNameChar_of_mem (h : isName name = true) (hc : c ∈ name) : isNameChar c = true := by
  cases name with
  | nil => exact absurd hc List.not_mem_nil
  | cons d others =>
    obtain ⟨hd, hothers⟩ := Bool.and_eq_true_iff.mp h
    rcases List.mem_cons.mp hc with rfl | hc
    · unfold isNameChar
      rw [hd]
      rfl
    · exact List.all_eq_true.mp hothers c hc

end Names

section Spans

variable {p : Char → Bool} {chars rest : Text}

theorem takeWhile_span (hchars : ∀ c ∈ chars, p c = true) (hrest : rest.head?.any p = false) :
    (chars ++ rest).takeWhile p = chars := by
  rw [List.takeWhile_append_of_pos hchars]
  cases rest with
  | nil => exact List.append_nil chars
  | cons d rest =>
    have hd : p d = false := hrest
    rw [List.takeWhile_cons, hd, if_neg Bool.false_ne_true, List.append_nil]

theorem dropWhile_span (hchars : ∀ c ∈ chars, p c = true) (hrest : rest.head?.any p = false) :
    (chars ++ rest).dropWhile p = rest := by
  rw [List.dropWhile_append_of_pos hchars]
  cases rest with
  | nil => rfl
  | cons d rest =>
    have hd : p d = false := hrest
    rw [List.dropWhile_cons, hd, if_neg Bool.false_ne_true]

theorem dropWhile_of_head (hrest : rest.head?.any p = false) : rest.dropWhile p = rest :=
  dropWhile_span (fun _ h => absurd h List.not_mem_nil) hrest

end Spans

section Reading

variable {name rest value : Text}

theorem exists_cons_of_isName (h : isName name = true) :
    ∃ c others, name = c :: others ∧ isNameStartChar c = true := by
  cases name with
  | nil => exact absurd h Bool.false_ne_true
  | cons c others => exact ⟨c, others, rfl, (Bool.and_eq_true_iff.mp h).1⟩

theorem isSpace_of_isNameStartChar {c : Char} (h : isNameStartChar c = true) :
    isSpace c = false := by
  have hcode := toNat_of_isNameStartChar h
  apply Bool.eq_false_iff.mpr
  intro hspace
  simp only [isSpace, Bool.or_eq_true, beq_iff_eq] at hspace
  rcases hspace with ((rfl | rfl) | rfl) | rfl <;> exact absurd hcode (by decide)

theorem lexName_append (h : isName name = true) (hrest : rest.head?.any isNameChar = false) :
    lexName (name ++ rest) = some (name, rest) := by
  have hname : ∀ c ∈ name, isNameChar c = true := fun c hc => isNameChar_of_mem h hc
  unfold lexName
  rw [takeWhile_span hname hrest, dropWhile_span hname hrest, if_pos h]

theorem expand_eq {f : Char → Char} {chars : Text} {fuel : Nat} (hfuel : chars.length ≤ fuel)
    (hchars : ∀ c ∈ chars, c ≠ '&' ∧ f c = c) : expand f fuel chars = some chars := by
  induction chars generalizing fuel with
  | nil => cases fuel <;> rfl
  | cons c chars ih =>
    cases fuel with
    | zero => exact absurd hfuel (Nat.not_succ_le_zero _)
    | succ fuel =>
      obtain ⟨hc, hf⟩ := hchars c List.mem_cons_self
      have hothers := ih (Nat.le_of_succ_le_succ hfuel) fun d hd =>
        hchars d (List.mem_cons_of_mem c hd)
      unfold expand
      rw [if_neg hc, hothers, hf]
      rfl

theorem lexValue_append (h : IsPlainValue value) :
    lexValue ('"' :: (value ++ '"' :: rest)) = some (value, rest) := by
  have hvalue : ∀ c ∈ value, decide (c ≠ '"') = true :=
    fun c hc => decide_eq_true (h c hc).2.2.2.1
  have hrest : ('"' :: rest).head?.any (fun c => decide (c ≠ '"')) = false := rfl
  have hless : '<' ∉ value := fun hmem => (h '<' hmem).2.1 rfl
  have hexpand : expand normalizeSpace value.length value = some value := by
    refine expand_eq (Nat.le_refl _) fun c hc => ⟨(h c hc).2.2.1, ?_⟩
    obtain ⟨⟨-, hreturn⟩, -, -, -, htab, hline⟩ := h c hc
    unfold normalizeSpace isSpace
    split
    · next hspace =>
      simp only [Bool.or_eq_true, beq_iff_eq] at hspace
      rcases hspace with ((hspace | hspace) | hspace) | hspace
      · exact hspace.symm
      · exact absurd hspace htab
      · exact absurd hspace hreturn
      · exact absurd hspace hline
    · rfl
  unfold lexValue
  simp only [takeWhile_span hvalue hrest, dropWhile_span hvalue hrest, hexpand]
  rw [if_pos ⟨.inl trivial, by simp, hless⟩]
  rfl

/-- What may follow the attributes of a tag or of the declaration. -/
def EndsAttributes (rest : Text) : Prop :=
  rest.head?.any isSpace = false ∧ rest.head?.any isNameChar = false

theorem lexAttributes_append {attributes : List (Text × Text)} {fuel : Nat}
    (hfuel : attributes.length < fuel) (hnames : ∀ pair ∈ attributes, isName pair.1 = true)
    (hvalues : ∀ pair ∈ attributes, IsPlainValue pair.2) (hrest : EndsAttributes rest) :
    lexAttributes fuel (printAttributes attributes ++ rest) = some (attributes, rest) := by
  induction attributes generalizing fuel with
  | nil =>
    cases fuel with
    | zero => exact absurd hfuel (Nat.not_lt_zero _)
    | succ fuel =>
      have hprint : printAttributes [] ++ rest = rest := rfl
      unfold lexAttributes
      simp only [hprint, dropWhile_of_head hrest.1, hrest.1, Bool.false_and, Bool.false_eq_true,
        if_false]
  | cons pair attributes ih =>
    cases fuel with
    | zero => exact absurd hfuel (Nat.not_lt_zero _)
    | succ fuel =>
      obtain ⟨name, value⟩ := pair
      have hname := hnames (name, value) List.mem_cons_self
      have hothers := ih (Nat.lt_of_succ_lt_succ hfuel)
        (fun pair hpair => hnames pair (List.mem_cons_of_mem _ hpair))
        (fun pair hpair => hvalues pair (List.mem_cons_of_mem _ hpair))
      have hprint : printAttributes ((name, value) :: attributes) ++ rest =
          ' ' :: (name ++
            '=' :: '"' :: (value ++ '"' :: (printAttributes attributes ++ rest))) := by
        simp [printAttributes, printAttribute]
      have hspace : (name ++ '=' :: '"' :: (value ++ '"' ::
          (printAttributes attributes ++ rest))).head?.any isSpace = false ∧
          (name ++ '=' :: '"' :: (value ++ '"' ::
            (printAttributes attributes ++ rest))).head?.any isNameStartChar = true := by
        obtain ⟨c, others, rfl, hc⟩ := exists_cons_of_isName hname
        exact ⟨isSpace_of_isNameStartChar hc, hc⟩
      have hdrop : (' ' :: (name ++ '=' :: '"' :: (value ++ '"' ::
          (printAttributes attributes ++ rest)))).dropWhile isSpace =
          name ++ '=' :: '"' :: (value ++ '"' :: (printAttributes attributes ++ rest)) :=
        dropWhile_of_head hspace.1
      have hvalue := @lexValue_append (printAttributes attributes ++ rest) value
        (hvalues (name, value) List.mem_cons_self)
      have hread : lexName (name ++ '=' :: '"' :: (value ++ '"' ::
          (printAttributes attributes ++ rest))) =
          some (name, '=' :: '"' :: (value ++ '"' :: (printAttributes attributes ++ rest))) :=
        lexName_append hname rfl
      have hequal : ('=' :: '"' :: (value ++ '"' ::
          (printAttributes attributes ++ rest))).dropWhile isSpace =
          '=' :: '"' :: (value ++ '"' :: (printAttributes attributes ++ rest)) := rfl
      have hquote : (('=' :: '"' :: (value ++ '"' ::
          (printAttributes attributes ++ rest))).drop 1).dropWhile isSpace =
          '"' :: (value ++ '"' :: (printAttributes attributes ++ rest)) := rfl
      rw [hprint, lexAttributes]
      simp only [hdrop, hspace.2, hread, Option.bind_eq_bind, Option.bind_some, hequal, hquote,
        hvalue, hothers]
      rfl

theorem length_le_printAttributes (attributes : List (Text × Text)) :
    attributes.length ≤ (printAttributes attributes).length := by
  induction attributes with
  | nil => exact Nat.le_refl 0
  | cons pair attributes ih =>
    have hprint : printAttributes (pair :: attributes) =
        printAttribute pair ++ printAttributes attributes := List.flatMap_cons
    rw [hprint, List.length_append, List.length_cons, printAttribute, List.length_cons]
    omega

theorem lexTag_append {attributes : List (Text × Text)} {last : Text}
    (h : IsPlainTag name attributes) (hlast : EndsAttributes (last ++ rest)) :
    lexTag (name ++ (printAttributes attributes ++ (last ++ rest))) =
      if (last ++ rest).head? = some '>' then
        some (.startTag name attributes, (last ++ rest).drop 1)
      else if "/>".toList.isPrefixOf (last ++ rest) then
        some (.emptyTag name attributes, (last ++ rest).drop 2)
      else none := by
  have hfollow : (printAttributes attributes ++ (last ++ rest)).head?.any isNameChar = false := by
    cases attributes with
    | nil => exact hlast.2
    | cons pair attributes => rfl
  have hfuel : attributes.length < (printAttributes attributes ++ (last ++ rest)).length + 1 := by
    have hle := length_le_printAttributes attributes
    rw [List.length_append]
    omega
  have hread := lexAttributes_append hfuel h.names h.values hlast
  unfold lexTag
  simp only [lexName_append h.name hfollow, hread, Option.bind_eq_bind, Option.bind_some,
    h.distinct, not_true_eq_false, if_false]

theorem lexEndTag_append (h : isName name = true) :
    lexEndTag (name ++ '>' :: rest) = some (.endTag name, rest) := by
  have hread : lexName (name ++ '>' :: rest) = some (name, '>' :: rest) := lexName_append h rfl
  have hdrop : ('>' :: rest).dropWhile isSpace = '>' :: rest := rfl
  unfold lexEndTag
  simp only [hread, Option.bind_eq_bind, Option.bind_some, hdrop]
  rfl

theorem lexComment_append {data : Text} (hhyphens : ¬"--".toList <:+: data)
    (hlast : data.getLast? ≠ some '-') :
    lexComment (data ++ '-' :: '-' :: '>' :: rest) = some (data, rest) := by
  induction data with
  | nil => rfl
  | cons c data ih =>
    have hnext : ¬(c = '-' ∧ (data ++ '-' :: '-' :: '>' :: rest).head? = some '-') := by
      rintro ⟨rfl, hhead⟩
      cases data with
      | nil => exact hlast rfl
      | cons d data =>
        obtain rfl : d = '-' := Option.some.inj hhead
        exact hhyphens ⟨[], data, rfl⟩
    have hothers := ih (fun hwithin => hhyphens (hwithin.trans (List.suffix_cons c data).isInfix))
      (by
        cases data with
        | nil => exact Option.some_ne_none _ |>.symm
        | cons d data => rwa [List.getLast?_cons_cons] at hlast)
    rw [List.cons_append, lexComment, if_neg hnext, hothers]
    rfl

theorem lexData_append {data : Text} (h : IsPlainText data)
    (hrest : rest.head?.any (fun c => decide (c ≠ '<')) = false) :
    lexData (data ++ rest) = some (.text true data, rest) := by
  have hless : ∀ c ∈ data, decide (c ≠ '<') = true :=
    fun c hc => decide_eq_true (h.kept c hc).2.1
  have hreference : data.contains '&' = false := by
    apply Bool.eq_false_iff.mpr
    intro hcontains
    exact (h.kept '&' (List.contains_iff_mem.mp hcontains)).2.2 rfl
  have hexpand : expand id data.length data = some data :=
    expand_eq (Nat.le_refl _) fun c hc => ⟨(h.kept c hc).2.2, rfl⟩
  unfold lexData
  simp only [takeWhile_span hless hrest, dropWhile_span hless hrest, hexpand, hreference]
  rw [if_neg h.noSectionEnd]
  rfl

theorem lexMarkup_of_name (h : isName name = true) :
    lexMarkup (name ++ rest) = lexTag (name ++ rest) := by
  obtain ⟨c, others, rfl, hc⟩ := exists_cons_of_isName h
  have hcode := toNat_of_isNameStartChar hc
  have hslash : c ≠ '/' := by rintro rfl; exact absurd hcode (by decide)
  have hbang : c ≠ '!' := by rintro rfl; exact absurd hcode (by decide)
  have hquestion : c ≠ '?' := by rintro rfl; exact absurd hcode (by decide)
  have hbangs (literal : Text) :
      ('!' :: literal).isPrefixOf (c :: others ++ rest) = false := by
    rw [List.cons_append, List.isPrefixOf, beq_eq_false_iff_ne.mpr hbang.symm, Bool.false_and]
  have hcomment : "!--".toList.isPrefixOf (c :: others ++ rest) = false := hbangs ['-', '-']
  have hsection : "![CDATA[".toList.isPrefixOf (c :: others ++ rest) = false :=
    hbangs ['[', 'C', 'D', 'A', 'T', 'A', '[']
  have hhead : (c :: others ++ rest).head? = some c := rfl
  unfold lexMarkup
  rw [hhead, if_neg fun heq => hslash (Option.some.inj heq), hcomment, hsection,
    if_neg Bool.false_ne_true, if_neg Bool.false_ne_true,
    if_neg fun heq => hquestion (Option.some.inj heq)]

/-- A token is read from what is printed of it; a text ends in front of the next tag. -/
theorem lexToken_print {token : Token} (h : token.IsPlain)
    (hrest : token.isText = true → rest.head?.any (fun c => decide (c ≠ '<')) = false) :
    lexToken (token.print ++ rest) = some (token, rest) := by
  cases token with
  | startTag name attributes =>
    have hprint : (Token.startTag name attributes).print ++ rest =
        '<' :: (name ++ (printAttributes attributes ++ (['>'] ++ rest))) := by
      simp [Token.print]
    have hname : isName name = true := h.name
    rw [hprint, lexToken, if_pos rfl, lexMarkup_of_name hname, lexTag_append h ⟨rfl, rfl⟩]
    rfl
  | emptyTag name attributes =>
    have hprint : (Token.emptyTag name attributes).print ++ rest =
        '<' :: (name ++ (printAttributes attributes ++ (['/', '>'] ++ rest))) := by
      simp [Token.print]
    have hname : isName name = true := h.name
    rw [hprint, lexToken, if_pos rfl, lexMarkup_of_name hname, lexTag_append h ⟨rfl, rfl⟩]
    rfl
  | endTag name =>
    have hprint : (Token.endTag name).print ++ rest = '<' :: '/' :: (name ++ '>' :: rest) := by
      simp [Token.print]
    rw [hprint, lexToken, if_pos rfl]
    exact lexEndTag_append h
  | text literal data =>
    obtain ⟨rfl, hne, hplain⟩ := h
    obtain ⟨c, others, rfl⟩ := List.exists_cons_of_ne_nil hne
    have hless : c ≠ '<' := (hplain.kept c List.mem_cons_self).2.1
    have hdata := lexData_append hplain (hrest rfl)
    have hprint : (Token.text true (c :: others)).print ++ rest = c :: (others ++ rest) := rfl
    rw [hprint, lexToken, if_neg hless]
    exact hdata
  | comment data =>
    have hprint : (Token.comment data).print ++ rest =
        '<' :: '!' :: '-' :: '-' :: (data ++ '-' :: '-' :: '>' :: rest) := by
      simp [Token.print]
    have hmarkup (text : Text) : lexMarkup ('!' :: '-' :: '-' :: text) =
        (lexComment text).map fun read => (.comment read.1, read.2) := rfl
    rw [hprint, lexToken, if_pos rfl, hmarkup, lexComment_append h.noHyphens h.last]
    rfl
  | instruction => exact absurd h id

end Reading

section Texts

/-- The text at the end of the content of an element. -/
def Open.lastText (o : Open) : Text :=
  match o.children.getLast? with
  | some (.text data) => data
  | _ => []

variable (o : Open) {first second data : Text}

theorem Open.addText_nil : o.addText [] = o := if_pos rfl

theorem Open.children_addText (hdata : data ≠ []) :
    ∃ front, (o.addText data).children = front ++ [.text (o.lastText ++ data)] := by
  obtain ⟨name, attributes, children⟩ := o
  simp only [addText, lastText, if_neg hdata]
  cases hlast : children.getLast? with
  | none => exact ⟨children, rfl⟩
  | some node =>
    cases node with
    | text before => exact ⟨children.dropLast, rfl⟩
    | element name attributes others => exact ⟨children, rfl⟩
    | comment before => exact ⟨children, rfl⟩

theorem Open.lastText_addText (hdata : data ≠ []) :
    (o.addText data).lastText = o.lastText ++ data := by
  obtain ⟨front, hfront⟩ := o.children_addText hdata
  rw [lastText, hfront, List.getLast?_concat]

theorem Open.addText_append (hfirst : first ≠ []) :
    o.addText (first ++ second) = (o.addText first).addText second := by
  by_cases hsecond : second = []
  · rw [hsecond, List.append_nil, addText_nil]
  · have hboth : first ++ second ≠ [] := List.append_ne_nil_of_left_ne_nil hfirst second
    obtain ⟨name, attributes, children⟩ := o
    simp only [addText, if_neg hfirst, if_neg hsecond, if_neg hboth]
    cases hlast : children.getLast? with
    | none => simp [add]
    | some node =>
      cases node with
      | text before => simp
      | element name attributes children => simp [add]
      | comment data => simp [add]

end Texts

section Documents

/-- Tokens that can be told apart: no text follows a text. -/
def Separated (tokens : List Token) : Prop :=
  tokens.IsChain fun before after => ¬(before.isText = true ∧ after.isText = true)

/-- Tokens that are read from what is printed of them. -/
structure ArePlain (tokens : List Token) : Prop where
  plain : ∀ token ∈ tokens, token.IsPlain
  separated : Separated tokens

def printTokens (tokens : List Token) : Text := tokens.flatMap Token.print

variable {token : Token} {tokens : List Token}

theorem printTokens_cons : printTokens (token :: tokens) = token.print ++ printTokens tokens :=
  List.flatMap_cons

theorem ArePlain.tail (h : ArePlain (token :: tokens)) : ArePlain tokens :=
  ⟨fun later hlater => h.plain later (List.mem_cons_of_mem token hlater), h.separated.tail⟩

theorem Token.IsPlain.print_ne_nil (h : token.IsPlain) : token.print ≠ [] := by
  cases token with
  | startTag name attributes => exact List.cons_ne_nil _ _
  | emptyTag name attributes => exact List.cons_ne_nil _ _
  | endTag name => exact List.cons_ne_nil _ _
  | text literal data => exact h.2.1
  | comment data => exact List.cons_ne_nil _ _
  | instruction => exact absurd h id

theorem head_print (h : token.IsPlain) (htext : token.isText = false) :
    token.print.head? = some '<' := by
  cases token with
  | text literal data => exact absurd htext.symm Bool.false_ne_true
  | instruction => exact absurd h id
  | _ => rfl

theorem length_le_printTokens (h : ∀ token ∈ tokens, token.IsPlain) :
    tokens.length ≤ (printTokens tokens).length := by
  induction tokens with
  | nil => exact Nat.le_refl 0
  | cons token tokens ih =>
    have hothers := ih fun later hlater => h later (List.mem_cons_of_mem token hlater)
    have hpos := List.length_pos_iff.mpr (h token List.mem_cons_self).print_ne_nil
    rw [printTokens_cons, List.length_append, List.length_cons]
    omega

theorem lex_printTokens {fuel : Nat} (h : ArePlain tokens) (hfuel : tokens.length ≤ fuel) :
    lex fuel (printTokens tokens) = some tokens := by
  induction tokens generalizing fuel with
  | nil => cases fuel <;> rfl
  | cons token tokens ih =>
    cases fuel with
    | zero => exact absurd hfuel (Nat.not_succ_le_zero _)
    | succ fuel =>
      have hplain := h.plain token List.mem_cons_self
      have hothers := ih h.tail (Nat.le_of_succ_le_succ hfuel)
      have hfollow : token.isText = true →
          (printTokens tokens).head?.any (fun c => decide (c ≠ '<')) = false := by
        intro htext
        cases tokens with
        | nil => rfl
        | cons next tokens =>
          have hnext : next.isText = false := by
            apply Bool.eq_false_iff.mpr
            intro hnext
            exact (List.isChain_cons_cons.mp h.separated).1 ⟨htext, hnext⟩
          have hnextPlain := h.plain next (List.mem_cons_of_mem token List.mem_cons_self)
          rw [printTokens_cons, List.head?_append_of_ne_nil _ hnextPlain.print_ne_nil,
            head_print hnextPlain hnext]
          rfl
      have hread := lexToken_print hplain hfollow
      obtain ⟨c, others, hprint⟩ := List.exists_cons_of_ne_nil hplain.print_ne_nil
      rw [printTokens_cons]
      rw [hprint, List.cons_append] at hread ⊢
      rw [lex, hread]
      simp only [Option.bind_eq_bind, Option.bind_some, hothers]

/-- The XML declaration, with what it says. -/
def printDeclaration (attributes : List (Text × Text)) : Text :=
  "<?xml".toList ++ (printAttributes attributes ++ "?>".toList)

/-- A declaration, if there is one, that is read from what is printed of it. -/
structure IsPlainDeclaration (attributes : List (Text × Text)) : Prop where
  declaration : isDeclaration attributes = true
  names : ∀ pair ∈ attributes, isName pair.1 = true
  values : ∀ pair ∈ attributes, IsPlainValue pair.2

theorem normalizeLineEnds_eq {text : Text} (h : '\r' ∉ text) : normalizeLineEnds text = text := by
  induction text with
  | nil => rfl
  | cons c text ih =>
    have hc : c ≠ '\r' := fun heq => h (heq ▸ List.mem_cons_self)
    have hothers := ih fun hmem => h (List.mem_cons_of_mem c hmem)
    rw [normalizeLineEnds, hothers]
    · rintro rest rfl
      exact absurd rfl hc
    · exact hc

theorem isKept_of_mem_printAttributes {attributes : List (Text × Text)}
    (hnames : ∀ pair ∈ attributes, isName pair.1 = true)
    (hvalues : ∀ pair ∈ attributes, IsPlainValue pair.2) :
    ∀ c ∈ printAttributes attributes, IsKept c := by
  intro c hc
  obtain ⟨pair, hpair, hc⟩ := List.mem_flatMap.mp hc
  simp only [printAttribute, List.mem_cons, List.mem_append, List.mem_nil_iff, or_false] at hc
  rcases hc with rfl | hc | rfl | rfl | hc | rfl
  · decide
  · exact isKept_of_isNameChar (isNameChar_of_mem (hnames pair hpair) hc)
  · decide
  · decide
  · exact (hvalues pair hpair c hc).1
  · decide

theorem isKept_of_mem_name {name : Text} (h : isName name = true) : ∀ c ∈ name, IsKept c :=
  fun _ hc => isKept_of_isNameChar (isNameChar_of_mem h hc)

theorem Token.IsPlain.isKept (h : token.IsPlain) : ∀ c ∈ token.print, IsKept c := by
  cases token with
  | startTag name attributes =>
    intro c hc
    have htag : IsPlainTag name attributes := h
    simp only [Token.print, List.mem_cons, List.mem_append, List.mem_nil_iff, or_false] at hc
    rcases hc with rfl | hc | hc | rfl
    · decide
    · exact isKept_of_mem_name htag.name c hc
    · exact isKept_of_mem_printAttributes htag.names htag.values c hc
    · decide
  | emptyTag name attributes =>
    intro c hc
    have htag : IsPlainTag name attributes := h
    simp only [Token.print, List.mem_cons, List.mem_append, List.mem_nil_iff, or_false] at hc
    rcases hc with rfl | hc | hc | rfl | rfl
    · decide
    · exact isKept_of_mem_name htag.name c hc
    · exact isKept_of_mem_printAttributes htag.names htag.values c hc
    · decide
    · decide
  | endTag name =>
    intro c hc
    simp only [Token.print, List.mem_cons, List.mem_append, List.mem_nil_iff, or_false] at hc
    rcases hc with rfl | rfl | hc | rfl
    · decide
    · decide
    · exact isKept_of_mem_name h c hc
    · decide
  | text literal data => exact fun c hc => (h.2.2.kept c hc).1
  | comment data =>
    intro c hc
    have hcomment : IsPlainComment data := h
    have hprint : (Token.comment data).print =
        ['<', '!', '-', '-'] ++ (data ++ ['-', '-', '>']) := rfl
    rw [hprint] at hc
    simp only [List.mem_cons, List.mem_append, List.mem_nil_iff, or_false] at hc
    rcases hc with (rfl | rfl | rfl | rfl) | hc | (rfl | rfl | rfl)
    all_goals first
      | decide
      | exact hcomment.kept c hc
  | instruction => exact absurd h id

theorem isKept_of_mem_printTokens (h : ∀ token ∈ tokens, token.IsPlain) :
    ∀ c ∈ printTokens tokens, IsKept c := by
  intro c hc
  obtain ⟨token, htoken, hc⟩ := List.mem_flatMap.mp hc
  exact (h token htoken).isKept c hc

theorem dropDeclaration_printTokens (h : ∀ token ∈ tokens, token.IsPlain) :
    dropDeclaration (printTokens tokens) = some (printTokens tokens) := by
  have hname {name rest : Text} (hname : isName name = true) :
      "<?xml".toList.isPrefixOf ('<' :: (name ++ rest)) = false := by
    obtain ⟨c, others, rfl, hc⟩ := exists_cons_of_isName hname
    have hquestion : '?' ≠ c := by
      rintro rfl
      exact absurd (toNat_of_isNameStartChar hc) (by decide)
    have hliteral : "<?xml".toList = ['<', '?', 'x', 'm', 'l'] := rfl
    rw [hliteral, List.cons_append, List.isPrefixOf, List.isPrefixOf,
      beq_eq_false_iff_ne.mpr hquestion, Bool.false_and, Bool.and_false]
  have hno : "<?xml".toList.isPrefixOf (printTokens tokens) = false := by
    cases tokens with
    | nil => rfl
    | cons token tokens =>
      have htoken := h token List.mem_cons_self
      rw [printTokens_cons]
      cases token with
      | startTag name attributes =>
        rw [Token.print, List.cons_append, List.append_assoc]
        exact hname htoken.name
      | emptyTag name attributes =>
        rw [Token.print, List.cons_append, List.append_assoc]
        exact hname htoken.name
      | endTag name => rfl
      | text literal data =>
        obtain ⟨-, hne, hplain⟩ := htoken
        obtain ⟨c, others, rfl⟩ := List.exists_cons_of_ne_nil hne
        have hless : '<' ≠ c := (hplain.kept c List.mem_cons_self).2.1.symm
        have hliteral : "<?xml".toList = ['<', '?', 'x', 'm', 'l'] := rfl
        rw [hliteral, Token.print, List.cons_append, List.isPrefixOf,
          beq_eq_false_iff_ne.mpr hless, Bool.false_and]
      | comment data => rfl
      | instruction => exact absurd htoken id
  unfold dropDeclaration
  rw [if_neg]
  rw [hno]
  exact fun hcase => Bool.false_ne_true hcase.1

theorem dropDeclaration_printDeclaration {attributes : List (Text × Text)} {rest : Text}
    (h : IsPlainDeclaration attributes) :
    dropDeclaration (printDeclaration attributes ++ rest) = some rest := by
  have hprint : printDeclaration attributes ++ rest =
      '<' :: '?' :: 'x' :: 'm' :: 'l' :: (printAttributes attributes ++ '?' :: '>' :: rest) := by
    simp [printDeclaration]
  have hspace : (printAttributes attributes ++ '?' :: '>' :: rest).head?.any isSpace = true := by
    cases attributes with
    | nil => exact absurd h.declaration Bool.false_ne_true
    | cons pair attributes => rfl
  have hstart : "<?xml".toList.isPrefixOf ('<' :: '?' :: 'x' :: 'm' :: 'l' ::
        (printAttributes attributes ++ '?' :: '>' :: rest)) = true ∧
      (('<' :: '?' :: 'x' :: 'm' :: 'l' ::
        (printAttributes attributes ++ '?' :: '>' :: rest)).drop 5).head?.any isSpace = true :=
    ⟨rfl, hspace⟩
  have hfuel : attributes.length < ('<' :: '?' :: 'x' :: 'm' :: 'l' ::
      (printAttributes attributes ++ '?' :: '>' :: rest)).length + 1 := by
    have hle := length_le_printAttributes attributes
    simp only [List.length_cons, List.length_append]
    omega
  have hread := @lexAttributes_append ('?' :: '>' :: rest) attributes _ hfuel h.names h.values
    ⟨rfl, rfl⟩
  have hdrop : ('<' :: '?' :: 'x' :: 'm' :: 'l' ::
      (printAttributes attributes ++ '?' :: '>' :: rest)).drop 5 =
      printAttributes attributes ++ '?' :: '>' :: rest := rfl
  unfold dropDeclaration
  rw [hprint, if_pos hstart, hdrop, hread]
  simp only [Option.bind_eq_bind, Option.bind_some]
  rw [if_pos ⟨h.declaration, rfl⟩]
  rfl

theorem parseDocument_print {declared : Option (List (Text × Text))}
    (h : ArePlain tokens) (hdeclared : ∀ attributes ∈ declared, IsPlainDeclaration attributes) :
    parseDocument ((declared.map printDeclaration).getD [] ++ printTokens tokens) =
      (Assembly.run .empty tokens).bind Assembly.complete := by
  have hlex : lex (printTokens tokens).length (printTokens tokens) = some tokens :=
    lex_printTokens h (length_le_printTokens h.plain)
  have hdeclaration : ∀ c ∈ (declared.map printDeclaration).getD [], IsKept c := by
    cases declared with
    | none => exact fun c hc => absurd hc List.not_mem_nil
    | some attributes =>
      have hplain := hdeclared attributes rfl
      have hprint : ((some attributes).map printDeclaration).getD [] =
          ['<', '?', 'x', 'm', 'l'] ++ (printAttributes attributes ++ ['?', '>']) := rfl
      intro c hc
      rw [hprint] at hc
      simp only [List.mem_cons, List.mem_append, List.mem_nil_iff, or_false] at hc
      rcases hc with (rfl | rfl | rfl | rfl | rfl) | hc | (rfl | rfl)
      all_goals first
        | decide
        | exact isKept_of_mem_printAttributes hplain.names hplain.values c hc
  have hkept : ∀ c ∈ (declared.map printDeclaration).getD [] ++ printTokens tokens, IsKept c :=
    fun c hc => (List.mem_append.mp hc).elim (hdeclaration c)
      (isKept_of_mem_printTokens h.plain c)
  have hlines := normalizeLineEnds_eq fun hmem => (hkept '\r' hmem).2 rfl
  have hchars : ((declared.map printDeclaration).getD [] ++ printTokens tokens).all isChar =
      true := List.all_eq_true.mpr fun c hc => (hkept c hc).1
  have hdrop : dropDeclaration ((declared.map printDeclaration).getD [] ++ printTokens tokens) =
      some (printTokens tokens) := by
    cases declared with
    | none => exact dropDeclaration_printTokens h.plain
    | some attributes => exact dropDeclaration_printDeclaration (hdeclared attributes rfl)
  unfold parseDocument
  simp only [hlines, hchars, if_true, hdrop, Option.bind_eq_bind, Option.bind_some, hlex]

end Documents

end ImsStack.Library.Xml
