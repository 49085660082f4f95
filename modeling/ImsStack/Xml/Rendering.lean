import ImsStack.Xml.WrittenDocument

/-!
The string of a writer as what is printed of a list of tokens that the parser reads back and that
assemble to the document described; each event of the document goes on with such a list.
-/

namespace ImsStack.Xml

open Platform Platform.AString Library.Xml

section Tokens

variable {tokens : List Token} {token : Token}

/-- The text that a list of tokens ends with. -/
def trailingText (tokens : List Token) : Text :=
  match tokens.getLast? with
  | some (.text _ data) => data
  | _ => []

theorem trailingText_concat_of_tag (htext : token.isText = false) :
    trailingText (tokens ++ [token]) = [] := by
  unfold trailingText
  rw [List.getLast?_concat]
  cases token with
  | text literal data => exact absurd htext.symm Bool.false_ne_true
  | _ => rfl

theorem trailingText_concat_text (data : Text) :
    trailingText (tokens ++ [.text true data]) = data := by
  unfold trailingText
  rw [List.getLast?_concat]

theorem exists_of_trailingText (h : ArePlain tokens) (hlast : trailingText tokens ≠ []) :
    ∃ front, tokens = front ++ [.text true (trailingText tokens)] ∧ trailingText front = [] := by
  rcases List.eq_nil_or_concat tokens with rfl | ⟨front, token, rfl⟩
  · exact absurd rfl hlast
  · rw [List.concat_eq_append] at h hlast ⊢
    cases htext : token.isText with
    | false => exact absurd (trailingText_concat_of_tag htext) hlast
    | true =>
      cases token with
      | text literal data =>
        have hplain := h.plain (.text literal data) (by simp)
        obtain rfl : literal = true := hplain.1
        rw [trailingText_concat_text]
        refine ⟨front, rfl, ?_⟩
        rcases List.eq_nil_or_concat front with rfl | ⟨earlier, before, rfl⟩
        · rfl
        · rw [List.concat_eq_append]
          apply trailingText_concat_of_tag
          apply Bool.eq_false_iff.mpr
          intro hbefore
          have hsep := h.separated
          rw [List.concat_eq_append, Separated, List.append_assoc] at hsep
          have hpair := List.isChain_cons_cons.mp hsep.right_of_append
          exact hpair.1 ⟨hbefore, rfl⟩
      | _ => exact absurd htext Bool.false_ne_true

theorem arePlain_concat (h : ArePlain tokens) (htoken : token.IsPlain)
    (hlast : token.isText = true → trailingText tokens = []) : ArePlain (tokens ++ [token]) := by
  constructor
  · intro other hother
    rcases List.mem_append.mp hother with hother | hother
    · exact h.plain other hother
    · rw [List.mem_singleton.mp hother]
      exact htoken
  · refine h.separated.append (List.isChain_singleton token) ?_
    rintro before hbefore after hafter ⟨hbeforeText, hafterText⟩
    obtain rfl : token = after := Option.some.inj hafter
    have hlast := hlast hafterText
    cases before with
    | text literal data =>
      have hmem : Token.text literal data ∈ tokens := List.mem_of_getLast? hbefore
      rw [trailingText, hbefore] at hlast
      exact (h.plain _ hmem).2.1 hlast
    | _ => exact Bool.false_ne_true hbeforeText

theorem printTokens_concat :
    printTokens (tokens ++ [token]) = printTokens tokens ++ token.print := by
  unfold printTokens
  rw [List.flatMap_append, List.flatMap_singleton]

theorem run_concat {a : Assembly} (h : Assembly.run .empty tokens = some a) :
    Assembly.run .empty (tokens ++ [token]) = a.step token := by
  unfold Assembly.run at h ⊢
  rw [List.foldlM_append, h, Option.bind_eq_bind, Option.bind_some, List.foldlM_cons]
  cases a.step token <;> rfl

end Tokens

/-- The string of a writer is what is printed of the tokens of its document. -/
structure Rendered (tokens : List Token) (session : Session) : Prop where
  notFailed : session.1.pError = none
  plain : ArePlain tokens
  text : session.1.strXml =
    (session.2.declaration.map printDeclaration).getD [] ++ printTokens tokens
  run : Assembly.run .empty tokens = some session.2.assembly
  stack : session.1.objElements.map (fun e => qualifiedName e.strPrefix e.strLocalName) =
    session.2.assembly.opened.map Open.name
  declared : ∀ attributes ∈ session.2.declaration, IsPlainDeclaration attributes
  begun : session.2.begun = false → tokens = [] ∧ session.2.declaration = none
  tag : session.2.tag = true → ∃ front name attributes outer,
    tokens = front ++ [.startTag name attributes] ∧
      session.2.assembly.opened = ⟨name, attributes, []⟩ :: outer
  trailing : trailingText tokens = session.2.lastText
  names : ∀ name ∈ session.2.assembly.opened.map Open.name, isName name = true
  rootless : session.2.assembly.opened ≠ [] → session.2.assembly.root = none

/-- Either an operation has failed or the string is that of the document. -/
def Holds (session : Session) : Prop :=
  session.1.pError.isSome = true ∨ ∃ tokens, Rendered tokens session

section Events

variable {tokens : List Token} {writer : XmlStreamWriter} {written : Written} {name : Text}

theorem rendered_new : Rendered [] Session.new where
  notFailed := rfl
  plain := ⟨fun _ h => absurd h List.not_mem_nil, List.isChain_nil⟩
  text := rfl
  run := rfl
  stack := rfl
  declared := fun _ h => absurd h (Option.not_mem_none _)
  begun := fun _ => ⟨rfl, rfl⟩
  tag := fun h => absurd h Bool.false_ne_true
  trailing := rfl
  names := fun _ h => absurd h List.not_mem_nil
  rootless := fun h => absurd rfl h

theorem Rendered.root_eq_none (h : Rendered tokens (writer, written))
    (hplace : written.assembly.opened ≠ [] ∨ written.assembly.root.isNone = true) :
    written.assembly.root = none :=
  hplace.elim h.rootless Option.isNone_iff_eq_none.mp

theorem Rendered.text_concat (h : Rendered tokens (writer, written)) {token : Token}
    {added : Chars} (hadded : added = token.print) :
    writer.strXml ++ added =
      (written.declaration.map printDeclaration).getD [] ++ printTokens (tokens ++ [token]) := by
  rw [printTokens_concat, ← List.append_assoc, hadded]
  exact congrArg (· ++ token.print) h.text

theorem Rendered.openTag (h : Rendered tokens (writer, written)) (hname : isName name = true)
    (hplace : written.IsPlain (.openTag name)) {element : XmlElement}
    (helement : qualifiedName element.strPrefix element.strLocalName = name) :
    ∃ later, written.next (.openTag name) = some later ∧
      Rendered (tokens ++ [.startTag name []])
        ({ writer with
            strXml := writer.strXml ++ '<' :: (name ++ ['>'])
            objElements := element :: writer.objElements }, later) := by
  have hroot := h.root_eq_none hplace
  have hstart : written.assembly.start name [] =
      some { written.assembly with opened := ⟨name, [], []⟩ :: written.assembly.opened } := by
    have hfree : (written.assembly.opened.isEmpty && written.assembly.root.isSome) = false := by
      rw [hroot, Option.isSome_none, Bool.and_false]
    unfold Assembly.start
    rw [hfree, if_neg Bool.false_ne_true]
  have htag : (Token.startTag name []).IsPlain :=
    ⟨hname, fun _ h => absurd h List.not_mem_nil, fun _ h => absurd h List.not_mem_nil,
      List.nodup_nil⟩
  refine ⟨_, by rw [Written.next, hstart]; rfl, ?_⟩
  exact {
    notFailed := h.notFailed
    plain := arePlain_concat h.plain htag fun htext => absurd htext Bool.false_ne_true
    text := h.text_concat (by simp [Token.print, printAttributes])
    run := (run_concat h.run).trans hstart
    stack := by
      have hstack := h.stack
      simp only at hstack
      simp [hstack, helement]
    declared := h.declared
    begun := fun hbegun => absurd hbegun.symm Bool.false_ne_true
    tag := fun _ => ⟨tokens, name, [], _, rfl, rfl⟩
    trailing := trailingText_concat_of_tag rfl
    names := fun other hother => (List.mem_cons.mp hother).elim (fun heq => heq ▸ hname)
      (h.names other)
    rootless := fun _ => hroot }

theorem lastText_add (o : Open) (node : Node) (hnode : ∀ data, node ≠ .text data) :
    (o.add node).lastText = [] := by
  unfold Open.lastText Open.add
  rw [List.getLast?_concat]
  cases node with
  | text data => exact absurd rfl (hnode data)
  | _ => rfl

theorem exists_addElement (a : Assembly) {node : Node} (hnode : ∀ data, node ≠ .text data)
    (hroot : a.root = none) :
    ∃ later, a.addElement node = some later ∧
      later.opened.map Open.name = a.opened.map Open.name ∧
      (∀ o ∈ later.opened.head?, o.lastText = []) ∧ (later.opened ≠ [] → later.root = none) := by
  obtain ⟨opened, root⟩ := a
  obtain rfl : root = none := hroot
  cases opened with
  | nil =>
    exact ⟨⟨[], some node⟩, rfl, rfl, fun o ho => absurd ho (Option.not_mem_none o),
      fun hne => absurd rfl hne⟩
  | cons o outer =>
    refine ⟨⟨o.add node :: outer, none⟩, rfl, rfl, ?_, fun _ => rfl⟩
    intro other hother
    obtain rfl : o.add node = other := Option.some.inj hother
    exact lastText_add o node hnode

theorem lastText_eq_nil (h : ∀ o ∈ written.assembly.opened.head?, o.lastText = []) :
    written.lastText = [] := by
  unfold Written.lastText
  cases hopened : written.assembly.opened with
  | nil => rfl
  | cons o outer => exact h o (by rw [hopened]; rfl)

theorem Rendered.emptyElement (h : Rendered tokens (writer, written)) (hname : isName name = true)
    (hplace : written.IsPlain (.emptyElement name)) :
    ∃ later, written.next (.emptyElement name) = some later ∧
      Rendered (tokens ++ [.emptyTag name []])
        ({ writer with strXml := writer.strXml ++ '<' :: (name ++ ['/', '>']) }, later) := by
  have hroot := h.root_eq_none hplace
  have htag : (Token.emptyTag name []).IsPlain :=
    ⟨hname, fun _ h => absurd h List.not_mem_nil, fun _ h => absurd h List.not_mem_nil,
      List.nodup_nil⟩
  obtain ⟨a, hadd, hopened, hlast, hrootless⟩ :=
    @exists_addElement written.assembly (.element name [] []) (fun data => Node.noConfusion) hroot
  refine ⟨_, by rw [Written.next, hadd]; rfl, ?_⟩
  exact {
    notFailed := h.notFailed
    plain := arePlain_concat h.plain htag fun htext => absurd htext Bool.false_ne_true
    text := h.text_concat (by simp [Token.print, printAttributes])
    run := (run_concat h.run).trans hadd
    stack := h.stack.trans hopened.symm
    declared := h.declared
    begun := fun hbegun => absurd hbegun.symm Bool.false_ne_true
    tag := fun htag => absurd htag Bool.false_ne_true
    trailing := (trailingText_concat_of_tag rfl).trans (lastText_eq_nil hlast).symm
    names := fun other hother => h.names other (hopened ▸ hother)
    rootless := hrootless }

theorem Rendered.closeTag (h : Rendered tokens (writer, written))
    (hplace : written.IsPlain .closeTag) :
    ∃ element others later, writer.objElements = element :: others ∧
      written.next .closeTag = some later ∧
      ∃ tokens, Rendered tokens
        ({ writer with
            strXml := writer.strXml ++ '<' :: '/' ::
              (qualifiedName element.strPrefix element.strLocalName ++ ['>'])
            objElements := others }, later) := by
  obtain ⟨o, outer, hopened⟩ := List.exists_cons_of_ne_nil hplace
  have hstack := h.stack
  have hnames := h.names
  have hroot := h.rootless hplace
  simp only [hopened, List.map_cons] at hstack hnames
  obtain ⟨element, others, helements, helement, hothers⟩ := List.map_eq_cons_iff.mp hstack
  have hname : isName o.name = true := hnames o.name List.mem_cons_self
  obtain ⟨a, hadd, houter, hlast, hrootless⟩ :=
    @exists_addElement ⟨outer, written.assembly.root⟩ o.close (fun data => Node.noConfusion) hroot
  have hfinish : written.assembly.finish o.name = some a := by
    unfold Assembly.finish
    rw [hopened]
    simp only [if_true]
    exact hadd
  have hnext : written.next .closeTag =
      some { written with begun := true, tag := false, assembly := a } := by
    simp only [Written.next, hopened, hfinish, Option.map_some]
  refine ⟨element, others, _, helements, hnext, tokens ++ [.endTag o.name], ?_⟩
  exact {
    notFailed := h.notFailed
    plain := arePlain_concat h.plain hname fun htext => absurd htext Bool.false_ne_true
    text := h.text_concat (by simp [Token.print, helement])
    run := (run_concat h.run).trans hfinish
    stack := hothers.trans houter.symm
    declared := h.declared
    begun := fun hbegun => absurd hbegun.symm Bool.false_ne_true
    tag := fun htag => absurd htag Bool.false_ne_true
    trailing := (trailingText_concat_of_tag rfl).trans (lastText_eq_nil hlast).symm
    names := fun other hother => hnames other (List.mem_cons_of_mem _ (houter ▸ hother))
    rootless := hrootless }

theorem Rendered.addComment {data : Text} (h : Rendered tokens (writer, written))
    (hplain : written.IsPlain (.addComment data)) :
    ∃ later, written.next (.addComment data) = some later ∧
      ∃ tokens, Rendered tokens
        ({ writer with strXml := writer.strXml ++ ("<!-- ".toList ++ (data ++ " -->".toList)) },
          later) := by
  have hopened : (written.assembly.addComment (' ' :: (data ++ [' ']))).opened.map Open.name =
      written.assembly.opened.map Open.name ∧
      (written.assembly.addComment (' ' :: (data ++ [' ']))).root = written.assembly.root ∧
      ∀ o ∈ (written.assembly.addComment (' ' :: (data ++ [' ']))).opened.head?,
        o.lastText = [] := by
    unfold Assembly.addComment
    cases hopened : written.assembly.opened with
    | nil =>
      refine ⟨congrArg _ hopened, rfl, fun o ho => ?_⟩
      simp only [hopened] at ho
      exact absurd ho (Option.not_mem_none o)
    | cons o outer =>
      refine ⟨rfl, rfl, fun other hother => ?_⟩
      obtain rfl : o.add (.comment (' ' :: (data ++ [' ']))) = other := Option.some.inj hother
      exact lastText_add o _ fun data => Node.noConfusion
  refine ⟨_, rfl, tokens ++ [.comment (' ' :: (data ++ [' ']))], ?_⟩
  exact {
    notFailed := h.notFailed
    plain := arePlain_concat h.plain hplain fun htext => absurd htext Bool.false_ne_true
    text := h.text_concat (by simp [Token.print])
    run := run_concat h.run
    stack := h.stack.trans hopened.1.symm
    declared := h.declared
    begun := fun hbegun => absurd hbegun.symm Bool.false_ne_true
    tag := fun htag => absurd htag Bool.false_ne_true
    trailing := (trailingText_concat_of_tag rfl).trans (lastText_eq_nil hopened.2.2).symm
    names := fun other hother => h.names other (hopened.1 ▸ hother)
    rootless := fun hne => hopened.2.1.trans (h.rootless fun hnil => hne (by
      have hmap := hopened.1
      rw [hnil] at hmap
      exact List.map_eq_nil_iff.mp hmap)) }

theorem exists_of_run_concat {front : List Token} {token : Token} {a : Assembly}
    (h : Assembly.run .empty (front ++ [token]) = some a) :
    ∃ before, Assembly.run .empty front = some before ∧ before.step token = some a := by
  cases hfront : Assembly.run .empty front with
  | none =>
    unfold Assembly.run at h hfront
    rw [List.foldlM_append, hfront] at h
    exact absurd h.symm (Option.some_ne_none a)
  | some before => exact ⟨before, rfl, (run_concat hfront).symm.trans h⟩

theorem Rendered.addAttribute {value : Text} (h : Rendered tokens (writer, written))
    (hproper : written.IsProper (.addAttribute name value))
    (hplain : written.IsPlain (.addAttribute name value)) :
    writer.objElements ≠ [] ∧ ∃ later, written.next (.addAttribute name value) = some later ∧
      ∃ tokens, Rendered tokens
        ({ writer with
            strXml := writer.strXml.dropLast ++ (printAttribute (name, value) ++ ['>']) },
          later) := by
  obtain ⟨front, tag, attributes, outer, rfl, hopened⟩ := h.tag hproper.2
  obtain ⟨hvalue, hnew⟩ := hplain
  simp only at hopened
  have hnew : name ∉ attributes.map Prod.fst := hnew ⟨tag, attributes, []⟩ (by rw [hopened]; rfl)
  have htag : IsPlainTag tag attributes :=
    h.plain.plain (.startTag tag attributes) (by simp)
  have hall : IsPlainTag tag (attributes ++ [(name, value)]) := by
    constructor
    · exact htag.name
    · intro pair hpair
      rcases List.mem_append.mp hpair with hpair | hpair
      · exact htag.names pair hpair
      · rw [List.mem_singleton.mp hpair]
        exact hproper.1
    · intro pair hpair
      rcases List.mem_append.mp hpair with hpair | hpair
      · exact htag.values pair hpair
      · rw [List.mem_singleton.mp hpair]
        exact hvalue
    · rw [List.map_append]
      refine List.nodup_append.mpr ⟨htag.distinct, List.nodup_singleton _, ?_⟩
      rintro other hother added hadded rfl
      have heq : other = name := List.mem_singleton.mp hadded
      rw [heq] at hother
      exact hnew hother
  have hfront : ArePlain front :=
    ⟨fun token htoken => h.plain.plain token (List.mem_append_left _ htoken),
      h.plain.separated.left_of_append⟩
  obtain ⟨before, hbefore, hstep⟩ := exists_of_run_concat h.run
  have hagain : before.step (.startTag tag (attributes ++ [(name, value)])) =
      some { written.assembly with
        opened := ⟨tag, attributes ++ [(name, value)], []⟩ :: outer } := by
    simp only [Assembly.step, Assembly.start] at hstep ⊢
    split at hstep
    · exact absurd hstep.symm (Option.some_ne_none _)
    · next hfree =>
      have hassembly := Option.some.inj hstep
      rw [if_neg hfree, ← hassembly]
      rw [← hassembly] at hopened
      rw [(List.cons.inj hopened).2]
  have hnext : written.next (.addAttribute name value) =
      some { written with
        assembly := { written.assembly with
          opened := ⟨tag, attributes ++ [(name, value)], []⟩ :: outer } } := by
    simp only [Written.next, hopened, hproper.2, if_true]
  have helements : writer.objElements ≠ [] := by
    intro hnil
    have hstack := h.stack
    simp only [hnil, hopened] at hstack
    exact List.cons_ne_nil _ _ hstack.symm
  have hxml : writer.strXml = ((written.declaration.map printDeclaration).getD [] ++
      (printTokens front ++ '<' :: (tag ++ printAttributes attributes))) ++ ['>'] := by
    have htext := h.text
    rw [printTokens_concat] at htext
    simp only at htext
    rw [htext]
    simp [Token.print]
  have hnames := h.names
  have hstack := h.stack
  have hroot := h.rootless (by
    simp only
    rw [hopened]
    exact List.cons_ne_nil _ _)
  simp only [hopened, List.map_cons] at hnames hstack
  refine ⟨helements, _, hnext, front ++ [.startTag tag (attributes ++ [(name, value)])], ?_⟩
  exact {
    notFailed := h.notFailed
    plain := arePlain_concat hfront hall fun htext => absurd htext Bool.false_ne_true
    text := by
      rw [printTokens_concat]
      simp only [hxml, List.dropLast_concat]
      simp [Token.print, printAttributes]
    run := (run_concat hbefore).trans hagain
    stack := hstack
    declared := h.declared
    begun := fun hbegun => absurd (h.begun hbegun).1 (List.append_ne_nil_of_right_ne_nil _
      (List.cons_ne_nil _ _))
    tag := fun _ => ⟨front, tag, _, outer, rfl, rfl⟩
    trailing := trailingText_concat_of_tag rfl
    names := hnames
    rootless := fun _ => hroot }

theorem Rendered.of_eq {other : XmlStreamWriter} {tag : Bool}
    (h : Rendered tokens (writer, written)) (hxml : other.strXml = writer.strXml)
    (helements : other.objElements = writer.objElements) (herror : other.pError = none)
    (htag : tag = true → written.tag = true) :
    Rendered tokens (other, { written with tag := tag }) where
  notFailed := herror
  plain := h.plain
  text := hxml.trans h.text
  run := h.run
  stack := (congrArg _ helements).trans h.stack
  declared := h.declared
  begun := h.begun
  tag := fun hother => h.tag (htag hother)
  trailing := h.trailing
  names := h.names
  rootless := h.rootless

theorem Rendered.addText {data : Text} (h : Rendered tokens (writer, written))
    (hplain : written.IsPlain (.addText data)) :
    ∃ later, written.next (.addText data) = some later ∧
      ∃ tokens, Rendered tokens ({ writer with strXml := writer.strXml ++ data }, later) := by
  by_cases hempty : data = []
  · refine ⟨{ written with tag := false }, by rw [Written.next, if_pos hempty], tokens, ?_⟩
    refine h.of_eq ?_ rfl h.notFailed fun htag => absurd htag Bool.false_ne_true
    rw [hempty]
    exact List.append_nil _
  · obtain ⟨hne, htext⟩ := hplain.resolve_left hempty
    obtain ⟨o, outer, hopened⟩ := List.exists_cons_of_ne_nil hne
    have hlast : written.lastText = o.lastText := by
      unfold Written.lastText
      rw [hopened]
    have hnext : written.next (.addText data) =
        some { written with
          begun := true
          tag := false
          assembly := { written.assembly with opened := o.addText data :: outer } } := by
      simp only [Written.next, if_neg hempty, hopened]
    have htokens : trailingText tokens = o.lastText := h.trailing.trans hlast
    rw [hlast] at htext
    obtain ⟨later, hlaterPlain, hprint, hrun, hlaterText⟩ : ∃ later, ArePlain later ∧
        printTokens later = printTokens tokens ++ data ∧
        Assembly.run .empty later =
          some { written.assembly with opened := o.addText data :: outer } ∧
        trailingText later = o.lastText ++ data := by
      by_cases hafter : trailingText tokens = []
      · have hnone : o.lastText = [] := htokens.symm.trans hafter
        rw [hnone] at htext ⊢
        refine ⟨tokens ++ [.text true data], ?_, ?_, ?_, trailingText_concat_text data⟩
        · exact arePlain_concat h.plain ⟨rfl, hempty, htext⟩ fun _ => hafter
        · exact printTokens_concat
        · rw [run_concat h.run]
          simp only [Assembly.step, Assembly.addText, hopened]
      · obtain ⟨front, htail, hfront⟩ := exists_of_trailingText h.plain hafter
        have hplain := h.plain
        have hrun := h.run
        rw [htokens] at htail hafter
        rw [htail] at hplain hrun
        have hfrontPlain : ArePlain front :=
          ⟨fun token htoken => hplain.plain token (List.mem_append_left _ htoken),
            hplain.separated.left_of_append⟩
        refine ⟨front ++ [.text true (o.lastText ++ data)], ?_, ?_, ?_, trailingText_concat_text _⟩
        · refine arePlain_concat hfrontPlain ⟨rfl, ?_, htext⟩ fun _ => hfront
          exact List.append_ne_nil_of_left_ne_nil hafter data
        · rw [htail, printTokens_concat, printTokens_concat]
          exact (List.append_assoc _ _ _).symm
        · obtain ⟨before, hbefore, hstep⟩ := exists_of_run_concat hrun
          rw [run_concat hbefore]
          simp only [Assembly.step, Assembly.addText] at hstep ⊢
          cases hbeforeOpened : before.opened with
          | nil =>
            simp only [hbeforeOpened] at hstep
            split at hstep
            · rw [← Option.some.inj hstep, hbeforeOpened] at hopened
              exact absurd hopened.symm (List.cons_ne_nil _ _)
            · exact absurd hstep.symm (Option.some_ne_none _)
          | cons inner others =>
            simp only [hbeforeOpened] at hstep
            have hassembly := Option.some.inj hstep
            rw [← hassembly] at hopened ⊢
            obtain ⟨hinner, hothers⟩ := List.cons.inj hopened
            have hjoined : inner.addText (o.lastText ++ data) = o.addText data := by
              rw [inner.addText_append hafter, hinner]
            simp only [hjoined, hothers]
    have hname : (o.addText data).name = o.name := by
      unfold Open.addText
      rw [if_neg hempty]
      split <;> rfl
    have hnames := h.names
    have hstack := h.stack
    have hroot := h.rootless hne
    simp only [hopened, List.map_cons, ← hname] at hnames hstack
    refine ⟨_, hnext, later, ?_⟩
    exact {
      notFailed := h.notFailed
      plain := hlaterPlain
      text := by
        rw [hprint, ← List.append_assoc]
        exact congrArg (· ++ data) h.text
      run := hrun
      stack := hstack
      declared := h.declared
      begun := fun hbegun => absurd hbegun.symm Bool.false_ne_true
      tag := fun htag => absurd htag Bool.false_ne_true
      trailing := hlaterText.trans (o.lastText_addText hempty).symm
      names := hnames
      rootless := fun _ => hroot }

theorem isPlainValue_of_range {value : Text}
    (h : ∀ c ∈ value, 45 ≤ c.toNat ∧ c.toNat ≤ 122 ∧ c.toNat ≠ 60) : IsPlainValue value := by
  intro c hc
  obtain ⟨hlow, hhigh, hless⟩ := h c hc
  have hne {d : Char} (hd : d.toNat < 45 ∨ d.toNat = 60) : c ≠ d := by
    rintro rfl
    omega
  have hchar : isChar c = true := by
    simp only [isChar, Bool.or_eq_true, Bool.and_eq_true, decide_eq_true_eq, bne_iff_ne]
    exact .inr ⟨⟨by omega, by omega⟩, by omega⟩
  exact ⟨⟨hchar, hne (by decide)⟩, hne (by decide), hne (by decide), hne (by decide),
    hne (by decide), hne (by decide)⟩

theorem isPlainValue_of_isVersion {version : Text} (h : isVersion version = true) :
    IsPlainValue version := by
  obtain ⟨hstart, hdigits⟩ := Bool.and_eq_true_iff.mp h
  obtain ⟨digits, rfl⟩ := List.isPrefixOf_iff_prefix.mp (Bool.and_eq_true_iff.mp hstart).1
  have hall : ∀ c ∈ digits, inRange c 0x30 0x39 = true := List.all_eq_true.mp hdigits
  refine isPlainValue_of_range fun c hc => ?_
  rcases List.mem_append.mp hc with hc | hc
  · have hliteral : "1.".toList = ['1', '.'] := rfl
    rw [hliteral] at hc
    rcases List.mem_cons.mp hc with rfl | hc
    · decide
    · rw [List.mem_singleton.mp hc]
      decide
  · have := of_decide_eq_true (hall c hc)
    omega

theorem isPlainValue_of_isEncoding {encoding : Text} (h : isEncoding encoding = true) :
    IsPlainValue encoding := by
  have hdot {c : Char} : c = '.' ↔ c.toNat = 46 := Char.toNat_inj.symm
  have hunderscore {c : Char} : c = '_' ↔ c.toNat = 95 := Char.toNat_inj.symm
  have hhyphen {c : Char} : c = '-' ↔ c.toNat = 45 := Char.toNat_inj.symm
  cases encoding with
  | nil => exact fun c hc => absurd hc List.not_mem_nil
  | cons first rest =>
    obtain ⟨hfirst, hrest⟩ := Bool.and_eq_true_iff.mp h
    refine isPlainValue_of_range fun c hc => ?_
    rcases List.mem_cons.mp hc with rfl | hc
    · simp only [inRange, Bool.or_eq_true, decide_eq_true_eq] at hfirst
      omega
    · have hother := List.all_eq_true.mp hrest c hc
      simp only [inRange, Bool.or_eq_true, decide_eq_true_eq, beq_iff_eq, hdot, hunderscore,
        hhyphen] at hother
      omega

theorem isPlainDeclaration_pairs {encoding : Option Text} {version : Text}
    (hversion : isVersion version = true) (hencoding : ∀ e ∈ encoding, isEncoding e = true) :
    IsPlainDeclaration (declarationPairs encoding version) := by
  have hvalue := isPlainValue_of_isVersion hversion
  cases encoding with
  | none =>
    constructor
    · simp only [declarationPairs, isDeclaration, hversion]
      rfl
    · intro pair hpair
      rw [List.mem_singleton.mp hpair]
      rfl
    · intro pair hpair
      rw [List.mem_singleton.mp hpair]
      exact hvalue
  | some encoding =>
    have hencoding := hencoding encoding rfl
    constructor
    · simp only [declarationPairs, isDeclaration, hversion, hencoding]
      rfl
    · intro pair hpair
      rcases List.mem_cons.mp hpair with rfl | hpair
      · rfl
      · rw [List.mem_singleton.mp hpair]
        rfl
    · intro pair hpair
      rcases List.mem_cons.mp hpair with rfl | hpair
      · exact hvalue
      · rw [List.mem_singleton.mp hpair]
        exact isPlainValue_of_isEncoding hencoding

theorem Rendered.declare {encoding : Option Text} {version : Text}
    (h : Rendered tokens (writer, written))
    (hplain : written.IsPlain (.declare encoding version)) :
    ∃ later, written.next (.declare encoding version) = some later ∧
      Rendered tokens
        ({ writer with
            strXml := writer.strXml ++ printDeclaration (declarationPairs encoding version) },
          later) := by
  obtain ⟨hbegun, hversion, hencoding⟩ := hplain
  obtain ⟨rfl, hnone⟩ := h.begun hbegun
  have hxml : writer.strXml = [] := by
    have htext := h.text
    rw [hnone] at htext
    exact htext
  refine ⟨_, by rw [Written.next, hbegun]; rfl, ?_⟩
  exact {
    notFailed := h.notFailed
    plain := h.plain
    text := by
      simp only [hxml]
      exact (List.append_nil _).symm
    run := h.run
    stack := h.stack
    declared := fun attributes hattributes => by
      obtain rfl : declarationPairs encoding version = attributes := Option.some.inj hattributes
      exact isPlainDeclaration_pairs hversion hencoding
    begun := fun hlater => absurd hlater.symm Bool.false_ne_true
    tag := fun htag => absurd htag Bool.false_ne_true
    trailing := h.trailing
    names := h.names
    rootless := h.rootless }

end Events

end ImsStack.Xml
