import ImsStack.Xml.Rendering

/-!
Runs of the writer.  Each call does to the string what its event does to the document, or fails;
after a failure nothing is handed out.
-/

namespace ImsStack.Xml

open Platform Platform.AString Library.Xml

section Steps

variable {tokens : List Token} {writer later : XmlStreamWriter} {written : Written} {call : Call}

theorem exists_advance {described : Written} (hperform : call.perform writer = some later)
    (hnext : written.next (call.event writer) = some described) (h : Holds (later, described)) :
    ∃ session, Session.advance (writer, written) call = some session ∧ Holds session := by
  refine ⟨(later, described), ?_, h⟩
  simp only [Session.advance, hperform, hnext, Option.bind_eq_bind, Option.bind_some]

theorem exists_advance_of_fails {nErrorType : ErrorType} {strReason : String}
    (hevent : call.event writer = .silent)
    (hperform : call.perform writer = some (writer.setLastError nErrorType strReason)) :
    ∃ session, Session.advance (writer, written) call = some session ∧ Holds session :=
  exists_advance hperform (by rw [hevent]; rfl) (.inl rfl)

theorem perform_of_failed (hfailed : writer.isOperationFailedAtLeastOnce = true)
    (hclose : call ≠ .close) :
    call.event writer = .silent ∧
      ∃ later, call.perform writer = some later ∧ later.pError = writer.pError := by
  have hset (strPrefix strUri : Chars) :
      (writer.setPrefix strPrefix strUri).1.pError = writer.pError := by
    unfold XmlStreamWriter.setPrefix
    split
    · rfl
    · split <;> rfl
  cases call with
  | close => exact absurd rfl hclose
  | setPrefix strPrefix strUri =>
    exact ⟨by simp only [Call.event, hfailed, if_true], _, rfl, hset strPrefix strUri⟩
  | writeStartDocument strEncoding strVersion =>
    refine ⟨by simp only [Call.event, hfailed, if_true], _, rfl, ?_⟩
    cases strEncoding <;>
      simp only [XmlStreamWriter.writeStartDocument, XmlStreamWriter.append, hfailed, if_true]
  | setDefaultNamespace strUri =>
    exact ⟨by simp only [Call.event, hfailed, if_true], _, rfl, rfl⟩
  | writeEndDocument => exact ⟨by simp only [Call.event, hfailed, if_true], _, rfl, rfl⟩
  | writeEndElement =>
    refine ⟨by simp only [Call.event, hfailed, if_true], writer, ?_, rfl⟩
    simp only [Call.perform, XmlStreamWriter.writeEndElement, hfailed, if_true, Option.map_some]
  | _ =>
    refine ⟨by simp only [Call.event, hfailed, if_true], _, rfl, ?_⟩
    simp only [XmlStreamWriter.writeAttribute, XmlStreamWriter.writeCharacters,
      XmlStreamWriter.writeCharactersPart, XmlStreamWriter.writeComment,
      XmlStreamWriter.writeEmptyElement, XmlStreamWriter.writeNamespace,
      XmlStreamWriter.writeStartElement, XmlStreamWriter.append, hfailed, if_true]

variable (h : Rendered tokens (writer, written))

include h

theorem Rendered.not_failed : writer.isOperationFailedAtLeastOnce = false := by
  unfold XmlStreamWriter.isOperationFailedAtLeastOnce
  rw [h.notFailed]
  rfl

theorem Rendered.advance_start {strPrefix strLocalName : Chars}
    (hevent : call.event writer =
      .named strLocalName (.openTag (qualifiedName strPrefix strLocalName)))
    (hperform : call.perform writer = some (writer.writeStartElement strPrefix strLocalName).1)
    (hproper : written.IsProper (call.event writer))
    (hplain : written.IsPlain (call.event writer)) :
    ∃ session, Session.advance (writer, written) call = some session ∧ Holds session := by
  have hnotFailed : ¬writer.isOperationFailedAtLeastOnce = true :=
    Bool.eq_false_iff.mp h.not_failed
  unfold XmlStreamWriter.writeStartElement at hperform
  rw [if_neg hnotFailed] at hperform
  unfold Event.named at hevent
  by_cases hlocal : strLocalName.length = 0
  · rw [if_pos hlocal] at hperform hevent
    exact exists_advance_of_fails hevent hperform
  · rw [if_neg hlocal] at hperform hevent
    rw [hevent] at hproper hplain
    obtain ⟨later, hnext, hrendered⟩ := @Rendered.openTag tokens writer written _ h hproper
      hplain ⟨strLocalName, strPrefix⟩ rfl
    exact exists_advance hperform (by rw [hevent, hnext]) (.inr ⟨_, hrendered⟩)

theorem Rendered.advance_empty {strPrefix strLocalName : Chars}
    (hevent : call.event writer =
      .named strLocalName (.emptyElement (qualifiedName strPrefix strLocalName)))
    (hperform : call.perform writer = some (writer.writeEmptyElement strPrefix strLocalName).1)
    (hproper : written.IsProper (call.event writer))
    (hplain : written.IsPlain (call.event writer)) :
    ∃ session, Session.advance (writer, written) call = some session ∧ Holds session := by
  have hnotFailed : ¬writer.isOperationFailedAtLeastOnce = true :=
    Bool.eq_false_iff.mp h.not_failed
  unfold XmlStreamWriter.writeEmptyElement at hperform
  rw [if_neg hnotFailed] at hperform
  unfold Event.named at hevent
  by_cases hlocal : strLocalName.length = 0
  · rw [if_pos hlocal] at hperform hevent
    exact exists_advance_of_fails hevent hperform
  · rw [if_neg hlocal] at hperform hevent
    rw [hevent] at hproper hplain
    obtain ⟨later, hnext, hrendered⟩ := h.emptyElement hproper hplain
    exact exists_advance hperform (by rw [hevent, hnext]) (.inr ⟨_, hrendered⟩)

theorem Rendered.advance_attribute {strPrefix strLocalName strValue : Chars}
    (hevent : call.event writer =
      .named strLocalName (.addAttribute (qualifiedName strPrefix strLocalName) strValue))
    (hperform : call.perform writer =
      some (writer.writeAttribute strPrefix strLocalName strValue).1)
    (hproper : written.IsProper (call.event writer))
    (hplain : written.IsPlain (call.event writer)) :
    ∃ session, Session.advance (writer, written) call = some session ∧ Holds session := by
  have hnotFailed : ¬writer.isOperationFailedAtLeastOnce = true :=
    Bool.eq_false_iff.mp h.not_failed
  unfold XmlStreamWriter.writeAttribute at hperform
  rw [if_neg hnotFailed] at hperform
  unfold Event.named at hevent
  by_cases hlocal : strLocalName.length = 0
  · rw [if_pos (Or.inl hlocal)] at hperform
    rw [if_pos hlocal] at hevent
    exact exists_advance_of_fails hevent hperform
  · rw [if_neg hlocal] at hevent
    rw [hevent] at hproper hplain
    obtain ⟨helements, later, hnext, rendered, hrendered⟩ := h.addAttribute hproper hplain
    rw [if_neg (by
      rintro (hlength | hempty)
      · exact hlocal hlength
      · exact helements (List.isEmpty_iff.mp hempty))] at hperform
    have hprinted : ' ' :: (qualifiedName strPrefix strLocalName ++
        ("=\"".toList ++ (strValue ++ "\">".toList))) =
        printAttribute (qualifiedName strPrefix strLocalName, strValue) ++ ['>'] := by
      simp [printAttribute]
    rw [hprinted] at hperform
    exact exists_advance hperform (by rw [hevent, hnext]) (.inr ⟨_, hrendered⟩)

theorem Rendered.advance_namespace {strPrefix strNamespaceUri : Chars}
    (hevent : call.event writer =
      .named strNamespaceUri (.addAttribute (namespaceName strPrefix) strNamespaceUri))
    (hperform : call.perform writer = some (writer.writeNamespace strPrefix strNamespaceUri).1)
    (hproper : written.IsProper (call.event writer))
    (hplain : written.IsPlain (call.event writer)) :
    ∃ session, Session.advance (writer, written) call = some session ∧ Holds session := by
  have hnotFailed : ¬writer.isOperationFailedAtLeastOnce = true :=
    Bool.eq_false_iff.mp h.not_failed
  unfold XmlStreamWriter.writeNamespace at hperform
  rw [if_neg hnotFailed] at hperform
  unfold Event.named at hevent
  by_cases huri : strNamespaceUri.length = 0
  · rw [if_pos huri] at hperform hevent
    exact exists_advance_of_fails hevent hperform
  · rw [if_neg huri] at hperform hevent
    rw [hevent] at hproper hplain
    obtain ⟨-, later, hnext, rendered, hrendered⟩ := h.addAttribute hproper hplain
    have hprinted : (if strPrefix.length ≠ 0 then " xmlns:".toList ++ strPrefix
          else " xmlns".toList) ++ ("=\"".toList ++ (strNamespaceUri ++ "\">".toList)) =
        printAttribute (namespaceName strPrefix, strNamespaceUri) ++ ['>'] := by
      unfold namespaceName
      split <;> simp [printAttribute]
    rw [hprinted] at hperform
    exact exists_advance hperform (by rw [hevent, hnext]) (.inr ⟨_, hrendered⟩)

theorem Rendered.advance_text {strText : Chars} (hevent : call.event writer = .addText strText)
    (hperform : call.perform writer = some { writer with strXml := writer.strXml ++ strText })
    (hplain : written.IsPlain (call.event writer)) :
    ∃ session, Session.advance (writer, written) call = some session ∧ Holds session := by
  rw [hevent] at hplain
  obtain ⟨later, hnext, rendered, hrendered⟩ := h.addText hplain
  exact exists_advance hperform (by rw [hevent, hnext]) (.inr ⟨_, hrendered⟩)

theorem Rendered.append_eq (text : Chars) :
    writer.append text = ({ writer with strXml := writer.strXml ++ text }, true) := by
  unfold XmlStreamWriter.append
  rw [h.not_failed, if_neg Bool.false_ne_true]

omit h

/-- A call that is proper and meets the condition goes on with the document it describes. -/
theorem Holds.advance {session : Session} (hholds : Holds session) (call : Call)
    (hproper : session.2.IsProper (call.event session.1))
    (hplain : session.2.IsPlain (call.event session.1)) :
    ∃ later, session.advance call = some later ∧ Holds later := by
  obtain ⟨writer, written⟩ := session
  rcases hholds with hfailed | ⟨tokens, h⟩
  · by_cases hclose : call = .close
    · subst hclose
      exact absurd (hplain.1.symm.trans hfailed) Bool.false_ne_true
    · obtain ⟨hevent, later, hperform, herror⟩ := perform_of_failed hfailed hclose
      refine exists_advance hperform (by rw [hevent]; rfl) (.inl ?_)
      simp only [herror]
      exact hfailed
  · have hnotFailed := h.not_failed
    have hsilent {later : XmlStreamWriter} (hevent : call.event writer = .silent)
        (hperform : call.perform writer = some later) (hxml : later.strXml = writer.strXml)
        (helements : later.objElements = writer.objElements)
        (herror : later.pError = writer.pError) :
        ∃ later, Session.advance (writer, written) call = some later ∧ Holds later :=
      exists_advance hperform (by rw [hevent]; rfl)
        (.inr ⟨tokens, h.of_eq hxml helements (herror.trans h.notFailed) id⟩)
    cases call with
    | close =>
      have hopened : written.assembly.opened = [] := hplain.2
      have helements : writer.objElements = [] := by
        have hstack := h.stack
        simp only [hopened, List.map_nil] at hstack
        exact List.map_eq_nil_iff.mp hstack
      exact exists_advance rfl rfl
        (.inr ⟨tokens, h.of_eq rfl helements.symm rfl fun htag => absurd htag Bool.false_ne_true⟩)
    | setDefaultNamespace strUri =>
      exact hsilent (by simp only [Call.event, hnotFailed]; rfl) rfl rfl rfl rfl
    | setPrefix strPrefix strUri =>
      have hset : (writer.setPrefix strPrefix strUri).1.strXml = writer.strXml ∧
          (writer.setPrefix strPrefix strUri).1.objElements = writer.objElements ∧
          (writer.setPrefix strPrefix strUri).1.pError = writer.pError := by
        unfold XmlStreamWriter.setPrefix
        split
        · exact ⟨rfl, rfl, rfl⟩
        · split <;> exact ⟨rfl, rfl, rfl⟩
      exact hsilent (by simp only [Call.event, hnotFailed]; rfl) rfl hset.1 hset.2.1 hset.2.2
    | writeAttribute strPrefix strLocalName strValue =>
      exact h.advance_attribute (by simp only [Call.event, hnotFailed]; rfl) rfl hproper hplain
    | writeAttributeOfUri strNamespaceUri strLocalName strValue =>
      exact h.advance_attribute (by simp only [Call.event, hnotFailed]; rfl) rfl hproper hplain
    | writeCharacters strText =>
      refine h.advance_text (by simp only [Call.event, hnotFailed]; rfl) ?_ hplain
      simp only [Call.perform, XmlStreamWriter.writeCharacters, h.append_eq]
    | writeCharactersPart strPart =>
      refine h.advance_text (by simp only [Call.event, hnotFailed]; rfl) ?_ hplain
      simp only [Call.perform, XmlStreamWriter.writeCharactersPart, hnotFailed]
      cases strPart with
      | none =>
        simp only [Option.getD_none, List.append_nil]
        rfl
      | some strText => rfl
    | writeComment strData =>
      have hevent : (Call.writeComment strData).event writer = .addComment strData := by
        simp only [Call.event, hnotFailed]
        rfl
      rw [hevent] at hplain
      obtain ⟨later, hnext, rendered, hrendered⟩ := h.addComment hplain
      refine exists_advance ?_ (by rw [hevent, hnext]) (.inr ⟨rendered, hrendered⟩)
      simp only [Call.perform, XmlStreamWriter.writeComment, h.append_eq]
    | writeDefaultNamespace strNamespaceUri =>
      exact h.advance_namespace (by simp only [Call.event, hnotFailed]; rfl) rfl hproper hplain
    | writeEmptyElement strPrefix strLocalName =>
      exact h.advance_empty (by simp only [Call.event, hnotFailed]; rfl) rfl hproper hplain
    | writeEmptyElementOfUri strNamespaceUri strLocalName =>
      exact h.advance_empty (by simp only [Call.event, hnotFailed]; rfl) rfl hproper hplain
    | writeEndDocument =>
      exact hsilent (by simp only [Call.event, hnotFailed]; rfl) rfl rfl rfl rfl
    | writeEndElement =>
      have hevent : Call.writeEndElement.event writer = .closeTag := by
        simp only [Call.event, hnotFailed]
        rfl
      rw [hevent] at hplain
      obtain ⟨element, others, later, helements, hnext, rendered, hrendered⟩ :=
        h.closeTag hplain
      refine exists_advance ?_ (by rw [hevent, hnext]) (.inr ⟨rendered, hrendered⟩)
      simp only [Call.perform, XmlStreamWriter.writeEndElement, hnotFailed, helements]
      rfl
    | writeNamespace strPrefix strNamespaceUri =>
      exact h.advance_namespace (by simp only [Call.event, hnotFailed]; rfl) rfl hproper hplain
    | writeStartDocument strEncoding strVersion =>
      have hevent : (Call.writeStartDocument strEncoding strVersion).event writer =
          .declare strEncoding strVersion := by
        simp only [Call.event, hnotFailed]
        rfl
      rw [hevent] at hplain
      obtain ⟨later, hnext, hrendered⟩ := h.declare hplain
      refine exists_advance ?_ (by rw [hevent, hnext]) (.inr ⟨tokens, hrendered⟩)
      simp only [Call.perform, XmlStreamWriter.writeStartDocument]
      cases strEncoding with
      | none =>
        simp only [h.append_eq]
        simp [printDeclaration, declarationPairs, printAttributes, printAttribute]
      | some strEncoding =>
        simp only [h.append_eq]
        simp [printDeclaration, declarationPairs, printAttributes, printAttribute]
    | writeStartElement strPrefix strLocalName =>
      exact h.advance_start (by simp only [Call.event, hnotFailed]; rfl) rfl hproper hplain
    | writeStartElementOfUri strNamespaceUri strLocalName =>
      exact h.advance_start (by simp only [Call.event, hnotFailed]; rfl) rfl hproper hplain

end Steps

section Runs

variable {session : Session} {calls : List Call}

theorem follow_cons (call : Call) :
    session.follow (call :: calls) = (session.advance call).bind fun later => later.follow calls :=
  List.foldlM_cons

theorem Holds.follow (h : Holds session) (hmeets : session.Meets calls) :
    ∃ later, session.follow calls = some later ∧ Holds later := by
  induction calls generalizing session with
  | nil => exact ⟨session, rfl, h⟩
  | cons call calls ih =>
    obtain ⟨hproper, hplain, hrest⟩ := hmeets
    obtain ⟨middle, hadvance, hmiddle⟩ := h.advance call hproper hplain
    obtain ⟨later, hfollow, hlater⟩ := ih hmiddle (hrest middle hadvance)
    refine ⟨later, ?_, hlater⟩
    rw [follow_cons, hadvance, Option.bind_some, hfollow]

theorem performAll_of_follow {later : Session} (h : session.follow calls = some later) :
    calls.foldlM (fun writer call => call.perform writer) session.1 = some later.1 := by
  induction calls generalizing session with
  | nil => exact congrArg _ (congrArg Prod.fst (Option.some.inj h))
  | cons call calls ih =>
    rw [follow_cons] at h
    obtain ⟨middle, hadvance, hfollow⟩ := Option.bind_eq_some_iff.mp h
    obtain ⟨writer, hperform, hnext⟩ := Option.bind_eq_some_iff.mp hadvance
    obtain ⟨written, -, hmiddle⟩ := Option.bind_eq_some_iff.mp hnext
    have heq : (writer, written) = middle := Option.some.inj hmiddle
    have hrest := ih hfollow
    rw [← heq] at hrest
    rw [List.foldlM_cons, hperform]
    exact hrest

theorem Holds.parseDocument_of_getString (h : Holds session) {document : Chars}
    (hdocument : session.1.getString = some document) :
    session.2.assembly.opened = [] ∧ parseDocument document = session.2.assembly.root := by
  unfold XmlStreamWriter.getString at hdocument
  rcases h with hfailed | ⟨tokens, h⟩
  · have hfailed : session.1.isOperationFailedAtLeastOnce = true := hfailed
    rw [if_pos hfailed] at hdocument
    exact absurd hdocument.symm (Option.some_ne_none document)
  · have hnotFailed : session.1.isOperationFailedAtLeastOnce = false := h.not_failed
    rw [hnotFailed, if_neg Bool.false_ne_true] at hdocument
    split at hdocument
    · exact absurd hdocument.symm (Option.some_ne_none document)
    · next hempty =>
      have helements : session.1.objElements = [] := by
        rw [Bool.not_eq_true, Bool.not_eq_false'] at hempty
        exact List.isEmpty_iff.mp hempty
      have hopened : session.2.assembly.opened = [] := by
        have hstack := h.stack
        rw [helements] at hstack
        exact List.map_eq_nil_iff.mp hstack.symm
      have htext : document =
          (session.2.declaration.map printDeclaration).getD [] ++ printTokens tokens :=
        (Option.some.inj hdocument).symm.trans h.text
      refine ⟨hopened, ?_⟩
      rw [htext, parseDocument_print h.plain h.declared, h.run]
      unfold Assembly.complete
      rw [Option.bind_some, hopened]
      rfl

end Runs

end ImsStack.Xml
