import ImsStack.EventPackage.DialogInfo
import ImsStack.Library.KeyedStore
import ImsStack.Library.TransitionSystem
import Mathlib.Data.List.TakeWhile

/-!
The dialogs that a sequence of dialog event documents tells, against those that
`DialogInfoManager` reports.
-/

namespace ImsStack.EventPackage

open Platform
open Platform.AString (Chars)
open KeyedStore
open TransitionSystem

/-! ### What the documents tell -/

/-- A document that is read: whether it is a full one, and its dialogs in their order. -/
def readDocument (document : Option DomNode) : Option (Bool × List Dialog) :=
  match document with
  | none => none
  | some element =>
      if !element.hasName "dialog-info" then none
      else if !DialogInfo.isAttrExist element "version" ||
          !DialogInfo.isAttrExist element "state" || !DialogInfo.isAttrExist element "entity" then
        none
      else
        ((element.getElementsByTagName "dialog").mapM Dialog.ofElement?).map fun dialogs =>
          (decide (DialogInfo.convertState (element.getAttribute "state") = .full), dialogs)

/-- A dialog that is told replaces what was known of its id; a terminated one is dropped. -/
def report (known : Chars → Option Dialog) (dialog : Dialog) : Chars → Option Dialog :=
  Function.update known dialog.strId
    (if dialog.objState.nState = .terminated then none else some dialog)

/-- The dialogs known after a document: a full one replaces the set, a partial one is merged
into it, and one that is not read changes nothing. -/
def follow (known : Chars → Option Dialog) (document : Option DomNode) :
    Chars → Option Dialog :=
  match readDocument document with
  | none => known
  | some content => content.2.foldl report (if content.1 then fun _ => none else known)

theorem foldl_report_apply {known known' : Chars → Option Dialog} (dialogs : List Dialog)
    {strId : Chars} (hknown : known strId = known' strId) :
    dialogs.foldl report known strId = dialogs.foldl report known' strId := by
  induction dialogs generalizing known known' with
  | nil => exact hknown
  | cons dialog rest ih =>
      rw [List.foldl_cons, List.foldl_cons]
      apply ih
      unfold report
      rcases eq_or_ne strId dialog.strId with rfl | hne
      · rw [Function.update_self, Function.update_self]
      · rw [Function.update_of_ne hne, Function.update_of_ne hne]
        exact hknown

theorem foldl_report_of_not_mentioned (known : Chars → Option Dialog) {dialogs : List Dialog}
    {strId : Chars} (h : ∀ dialog ∈ dialogs, dialog.strId ≠ strId) :
    dialogs.foldl report known strId = known strId := by
  induction dialogs generalizing known with
  | nil => rfl
  | cons dialog rest ih =>
      rw [List.foldl_cons, ih _ fun d hd => h d (List.mem_cons_of_mem dialog hd)]
      exact Function.update_of_ne (h dialog List.mem_cons_self).symm _ _

theorem foldl_report_of_mentioned (known known' : Chars → Option Dialog)
    {dialogs : List Dialog} {strId : Chars} (h : ∃ dialog ∈ dialogs, dialog.strId = strId) :
    dialogs.foldl report known strId = dialogs.foldl report known' strId := by
  induction dialogs generalizing known known' with
  | nil =>
      obtain ⟨dialog, hd, -⟩ := h
      cases hd
  | cons dialog rest ih =>
      rw [List.foldl_cons, List.foldl_cons]
      obtain ⟨mentioned, hmem, rfl⟩ := h
      rcases List.mem_cons.mp hmem with rfl | hrest
      · apply foldl_report_apply
        unfold report
        rw [Function.update_self, Function.update_self]
      · exact ih _ _ ⟨mentioned, hrest, rfl⟩

/-! ### What the code keeps of a document -/

/-- The ids are C strings. -/
def IsCString (s : Chars) : Prop :=
  AString.cString s = s

theorem isCString_cString (s : Chars) : IsCString (AString.cString s) := by
  unfold IsCString AString.cString
  exact List.takeWhile_idem

theorem isCString_getAttribute (element : DomNode) (name : String) :
    IsCString (element.getAttribute name) := by
  unfold DomNode.getAttribute DomNode.getNamedItem
  cases element.getAttributes.find? fun item => AString.equalsIgnoreCaseLiteral item.1 name with
  | none => rfl
  | some item => exact isCString_cString item.2

theorem equals_iff {a b : Chars} (ha : IsCString a) (hb : IsCString b) :
    AString.equals a b = true ↔ a = b := by
  unfold AString.equals
  rw [ha, hb, Bool.and_eq_true, beq_iff_eq, beq_iff_eq]
  constructor
  · intro h
    exact h.2
  · rintro rfl
    exact ⟨rfl, rfl⟩

theorem Dialog.updateFromChild_strId (dialog : Dialog) (child : DomNode) :
    (dialog.updateFromChild child).strId = dialog.strId := by
  unfold Dialog.updateFromChild
  repeat' split
  all_goals rfl

theorem Dialog.foldl_updateFromChild_strId (children : List DomNode) (dialog : Dialog) :
    (children.foldl Dialog.updateFromChild dialog).strId = dialog.strId := by
  induction children generalizing dialog with
  | nil => rfl
  | cons child rest ih => exact (ih _).trans (dialog.updateFromChild_strId child)

theorem Dialog.isCString_of_ofElement? {element : DomNode} {dialog : Dialog}
    (h : Dialog.ofElement? element = some dialog) : IsCString dialog.strId := by
  unfold Dialog.ofElement? at h
  split at h
  · cases h
  · obtain rfl := Option.some.inj h
    rw [Dialog.foldl_updateFromChild_strId]
    exact isCString_getAttribute element "id"

namespace DialogInfo

/-- Merging a dialog does to the list what reporting it does to the known dialogs. -/
theorem represents_merge {objDialogs : List Dialog} {known : Chars → Option Dialog}
    (h : Represents Dialog.strId objDialogs known)
    (hstrings : ∀ dialog ∈ objDialogs, IsCString dialog.strId) {newDialog : Dialog}
    (hnew : IsCString newDialog.strId) :
    Represents Dialog.strId (merge objDialogs newDialog) (report known newDialog) := by
  have hkept : (objDialogs.eraseP fun dialog =>
      AString.equals newDialog.strId dialog.strId) =
      remove Dialog.strId newDialog.strId objDialogs := by
    unfold remove
    clear h
    induction objDialogs with
    | nil => rfl
    | cons dialog rest ih =>
        have heq : AString.equals newDialog.strId dialog.strId =
            decide (dialog.strId = newDialog.strId) := by
          rw [Bool.eq_iff_iff, decide_eq_true_eq,
            equals_iff hnew (hstrings dialog List.mem_cons_self)]
          exact eq_comm
        rw [List.eraseP_cons, List.eraseP_cons, heq,
          ih fun d hd => hstrings d (List.mem_cons_of_mem dialog hd)]
  unfold merge report
  rw [hkept]
  split
  · exact h.remove newDialog.strId
  · have hremoved := h.remove newDialog.strId
    have happended := hremoved.append (a := newDialog) (Function.update_self _ _ _)
    rw [Function.update_idem] at happended
    exact happended

theorem isCString_merge {objDialogs : List Dialog}
    (hstrings : ∀ dialog ∈ objDialogs, IsCString dialog.strId) {newDialog : Dialog}
    (hnew : IsCString newDialog.strId) :
    ∀ dialog ∈ merge objDialogs newDialog, IsCString dialog.strId := by
  intro dialog hd
  unfold merge at hd
  split at hd
  · exact hstrings dialog (List.mem_of_mem_eraseP hd)
  · rcases List.mem_append.mp hd with hd | hd
    · exact hstrings dialog (List.mem_of_mem_eraseP hd)
    · rw [List.mem_singleton.mp hd]
      exact hnew

theorem mergeElements_eq (objDialogs : List Dialog) (elements : List DomNode) :
    mergeElements objDialogs elements =
      (elements.mapM Dialog.ofElement?).map fun dialogs => dialogs.foldl merge objDialogs := by
  induction elements generalizing objDialogs with
  | nil => rfl
  | cons element rest ih =>
      unfold mergeElements
      rw [List.mapM_cons]
      cases Dialog.ofElement? element with
      | none => rfl
      | some newDialog =>
          show mergeElements _ rest = _
          rw [ih]
          cases rest.mapM Dialog.ofElement? with
          | none => rfl
          | some dialogs => rfl

theorem represents_foldl_merge {objDialogs : List Dialog} {known : Chars → Option Dialog}
    (h : Represents Dialog.strId objDialogs known)
    (hstrings : ∀ dialog ∈ objDialogs, IsCString dialog.strId) {dialogs : List Dialog}
    (hdialogs : ∀ dialog ∈ dialogs, IsCString dialog.strId) :
    Represents Dialog.strId (dialogs.foldl merge objDialogs) (dialogs.foldl report known) ∧
      ∀ dialog ∈ dialogs.foldl merge objDialogs, IsCString dialog.strId := by
  induction dialogs generalizing objDialogs known with
  | nil => exact ⟨h, hstrings⟩
  | cons newDialog rest ih =>
      have hnew := hdialogs newDialog List.mem_cons_self
      exact ih (represents_merge h hstrings hnew) (isCString_merge hstrings hnew)
        fun d hd => hdialogs d (List.mem_cons_of_mem newDialog hd)

end DialogInfo

theorem isCString_of_mapM {elements : List DomNode} {dialogs : List Dialog}
    (h : elements.mapM Dialog.ofElement? = some dialogs) :
    ∀ dialog ∈ dialogs, IsCString dialog.strId := by
  induction elements generalizing dialogs with
  | nil =>
      obtain rfl : [] = dialogs := Option.some.inj h
      intro dialog hd
      cases hd
  | cons element rest ih =>
      rw [List.mapM_cons] at h
      cases hfirst : Dialog.ofElement? element with
      | none =>
          rw [hfirst] at h
          cases h
      | some first =>
          cases hrest : rest.mapM Dialog.ofElement? with
          | none =>
              rw [hfirst, hrest] at h
              cases h
          | some others =>
              rw [hfirst, hrest] at h
              obtain rfl := Option.some.inj h
              intro dialog hd
              rcases List.mem_cons.mp hd with rfl | hd
              · exact Dialog.isCString_of_ofElement? hfirst
              · exact ih hrest dialog hd

namespace DialogInfoManager

/-- The manager starts over with every document: it reports the dialogs of the last one read. -/
theorem getDialogs_update (manager : DialogInfoManager) (document : Option DomNode) :
    (manager.update document).1.getDialogs =
      match readDocument document with
      | none => manager.getDialogs
      | some content =>
          if content.1 = false ∧ content.2 = [] then manager.getDialogs
          else content.2.foldl DialogInfo.merge [] := by
  unfold update readDocument
  cases document with
  | none => rfl
  | some element =>
      dsimp only
      cases hname : element.hasName "dialog-info" with
      | false => rfl
      | true =>
          unfold DialogInfo.update
          dsimp only
          cases hattrs : !DialogInfo.isAttrExist element "version" ||
              !DialogInfo.isAttrExist element "state" ||
              !DialogInfo.isAttrExist element "entity" with
          | true => rfl
          | false =>
              have hstate : ∀ s : InfoState, decide (s = .full) = false ↔ ¬s = .full := by
                intro s
                exact decide_eq_false_iff_not
              cases helements : element.getElementsByTagName "dialog" with
              | nil =>
                  cases hfull : decide
                      (DialogInfo.convertState (element.getAttribute "state") = .full) with
                  | true => simp [of_decide_eq_true hfull, getDialogs, DialogInfo.new]
                  | false => simp [(hstate _).mp hfull, getDialogs]
              | cons first rest =>
                  simp only [Bool.not_true, Bool.false_eq_true, if_false,
                    DialogInfo.mergeElements_eq]
                  cases hread : (first :: rest).mapM Dialog.ofElement? with
                  | none => rfl
                  | some dialogs =>
                      have hne : ¬dialogs = [] := by
                        rintro rfl
                        rw [List.mapM_cons] at hread
                        cases hfirst : Dialog.ofElement? first with
                        | none =>
                            rw [hfirst] at hread
                            cases hread
                        | some d =>
                            rw [hfirst] at hread
                            cases hrest : rest.mapM Dialog.ofElement? with
                            | none =>
                                rw [hrest] at hread
                                cases hread
                            | some ds =>
                                rw [hrest] at hread
                                cases hread
                      simp [hne, getDialogs, DialogInfo.new]

end DialogInfoManager

/-! ### Sequences of documents -/

/-- The manager, and the dialogs that the documents given to it have told. -/
structure DialogHistory where
  manager : DialogInfoManager
  known : Chars → Option Dialog

namespace DialogHistory

def next (h : DialogHistory) (document : Option DomNode) : DialogHistory :=
  ⟨(h.manager.update document).1, follow h.known document⟩

/-- The sequences of documents given to a new manager. -/
def sequences : System DialogHistory (Option DomNode) where
  Init h := h = ⟨.new, fun _ => none⟩
  Step h document h' := h' = h.next document

/-- A partial document mentions every dialog that is reported, or none at all. -/
def MentionsAll (h : DialogHistory) (document : Option DomNode) : Prop :=
  ∀ dialogs, readDocument document = some (false, dialogs) → dialogs ≠ [] →
    ∀ dialog ∈ h.manager.getDialogs, ∃ mentioned ∈ dialogs, mentioned.strId = dialog.strId

/-- The dialogs reported are those known. -/
structure Consistent (h : DialogHistory) : Prop where
  represents : Represents Dialog.strId h.manager.getDialogs h.known
  strings : ∀ dialog ∈ h.manager.getDialogs, IsCString dialog.strId

theorem isCString_of_readDocument {document : Option DomNode} {content : Bool × List Dialog}
    (h : readDocument document = some content) :
    ∀ dialog ∈ content.2, IsCString dialog.strId := by
  unfold readDocument at h
  cases document with
  | none => cases h
  | some element =>
      dsimp only at h
      split at h
      · cases h
      · split at h
        · cases h
        · obtain ⟨dialogs, hdialogs, rfl⟩ := Option.map_eq_some_iff.mp h
          exact isCString_of_mapM hdialogs

/-- After a document the dialogs reported are those known, exactly when it mentions all. -/
theorem Consistent.next_iff {h : DialogHistory} (hh : h.Consistent)
    (document : Option DomNode) :
    (h.next document).Consistent ↔ h.MentionsAll document := by
  have hreported := h.manager.getDialogs_update document
  unfold MentionsAll
  cases hread : readDocument document with
  | none =>
      rw [hread] at hreported
      have hsame : (h.next document).known = h.known := by
        show follow h.known document = h.known
        unfold follow
        rw [hread]
      apply iff_of_true
      · constructor
        · rw [hsame]
          show Represents _ (h.manager.update document).1.getDialogs _
          rw [hreported]
          exact hh.represents
        · show ∀ dialog ∈ (h.manager.update document).1.getDialogs, _
          rw [hreported]
          exact hh.strings
      · intro dialogs hnone
        cases hnone
  | some content =>
      obtain ⟨isFull, dialogs⟩ := content
      rw [hread] at hreported
      dsimp only at hreported
      have hstrings : ∀ dialog ∈ dialogs, IsCString dialog.strId :=
        isCString_of_readDocument hread
      have hknown : (h.next document).known =
          dialogs.foldl report (if isFull then fun _ => none else h.known) := by
        show follow h.known document = _
        unfold follow
        rw [hread]
      obtain ⟨hfresh, hfreshStrings⟩ := DialogInfo.represents_foldl_merge
        (Represents.nil : Represents Dialog.strId [] _) (fun dialog hd => absurd hd List.not_mem_nil)
        hstrings
      have hdialogs : (h.next document).manager.getDialogs =
          (h.manager.update document).1.getDialogs := rfl
      cases isFull with
      | true =>
          apply iff_of_true
          · constructor
            · rw [hknown, hdialogs, hreported]
              exact hfresh
            · rw [hdialogs, hreported]
              exact hfreshStrings
          · intro dialogs' heq
            cases heq
      | false =>
          rcases eq_or_ne dialogs [] with rfl | hne
          · apply iff_of_true
            · constructor
              · rw [hknown, hdialogs, hreported]
                exact hh.represents
              · rw [hdialogs, hreported]
                exact hh.strings
            · intro dialogs' heq hne
              cases heq
              exact absurd rfl hne
          · rw [if_neg fun hnil => hne hnil.2] at hreported
            constructor
            · intro hnext dialogs' heq _ dialog hd
              cases heq
              have hrepresents := hnext.represents
              rw [hknown, hdialogs, hreported] at hrepresents
              have hsame := congrFun (hrepresents.unique hfresh) dialog.strId
              apply Classical.byContradiction
              intro hnot
              have hunmentioned : ∀ d ∈ dialogs, d.strId ≠ dialog.strId :=
                fun d hmem heq => hnot ⟨d, hmem, heq⟩
              rw [foldl_report_of_not_mentioned _ hunmentioned,
                foldl_report_of_not_mentioned _ hunmentioned] at hsame
              rw [if_neg Bool.false_ne_true, hh.represents.eq_some hd] at hsame
              cases hsame
            · intro hall
              have hsame : dialogs.foldl report h.known =
                  dialogs.foldl report (fun _ => none) := by
                funext strId
                rcases Classical.em (∃ d ∈ dialogs, d.strId = strId) with hmention | hnot
                · exact foldl_report_of_mentioned _ _ hmention
                · have hunmentioned : ∀ d ∈ dialogs, d.strId ≠ strId :=
                    fun d hmem heq => hnot ⟨d, hmem, heq⟩
                  rw [foldl_report_of_not_mentioned _ hunmentioned,
                    foldl_report_of_not_mentioned _ hunmentioned]
                  apply hh.represents.eq_none_iff.mpr
                  rintro dialog hd rfl
                  exact hnot (hall dialogs rfl hne dialog hd)
              constructor
              · rw [hknown, hdialogs, hreported, if_neg Bool.false_ne_true, hsame]
                exact hfresh
              · rw [hdialogs, hreported]
                exact hfreshStrings

/-- The dialogs reported are those of the fold of the documents, with no two of one id, in
every sequence in which each partial document mentions all dialogs that are reported, or
none; and the next document keeps this exactly when it does so. -/
theorem dialogs_followDocuments {h : DialogHistory}
    (hh : (sequences.restrict MentionsAll).Reachable h) :
    Represents Dialog.strId h.manager.getDialogs h.known ∧
      ∀ document,
        Represents Dialog.strId (h.next document).manager.getDialogs (h.next document).known ↔
          h.MentionsAll document := by
  have hconsistent : h.Consistent := by
    apply System.Reachable.restrict_invariant (I := Consistent) _ _ hh
    · rintro h rfl
      exact ⟨.nil, fun dialog hd => absurd hd List.not_mem_nil⟩
    · rintro h document h' hh hall rfl
      exact (hh.next_iff document).mpr hall
  refine ⟨hconsistent.represents, fun document => ?_⟩
  rw [← hconsistent.next_iff document]
  constructor
  · intro hrepresents
    refine ⟨hrepresents, ?_⟩
    show ∀ dialog ∈ (h.manager.update document).1.getDialogs, _
    rw [h.manager.getDialogs_update document]
    cases hread : readDocument document with
    | none => exact hconsistent.strings
    | some content =>
        dsimp only
        split
        · exact hconsistent.strings
        · exact (DialogInfo.represents_foldl_merge (Represents.nil : Represents Dialog.strId [] _)
            (fun dialog hd => absurd hd List.not_mem_nil)
            (isCString_of_readDocument hread)).2
  · intro hnext
    exact hnext.represents

/-- A dialog element with an id and a state. -/
def dialogElement (strId strState : String) : DomNode :=
  .element "dialog".toList [("id".toList, strId.toList)]
    [.element "state".toList [] [.text strState.toList]]

def dialogInfoElement (strVersion strState : String) (dialogs : List DomNode) : DomNode :=
  .element "dialog-info".toList
    [("version".toList, strVersion.toList), ("state".toList, strState.toList),
      ("entity".toList, "sip:a".toList)]
    dialogs

/-- A full document with a dialog, and a partial one that ends it. -/
theorem dialogs_followDocuments_terminated :
    ∃ h : DialogHistory, h.manager.getDialogs = [] ∧
      Represents Dialog.strId h.manager.getDialogs h.known := by
  let start : DialogHistory := ⟨.new, fun _ => none⟩
  let full := some (dialogInfoElement "0" "full" [dialogElement "d1" "confirmed"])
  let ended := some (dialogInfoElement "1" "partial" [dialogElement "d1" "terminated"])
  have hfull : (sequences.restrict MentionsAll).Reachable (start.next full) := by
    refine .step full (.init rfl) ⟨?_, rfl⟩
    intro dialogs heq
    have hstate : Option.map Prod.fst (readDocument full) = some false := by
      rw [heq]
      rfl
    exact absurd hstate (by decide)
  have hended : (sequences.restrict MentionsAll).Reachable ((start.next full).next ended) := by
    refine .step ended hfull ⟨?_, rfl⟩
    intro dialogs heq _ dialog hd
    have hread : readDocument ended =
        some (false, [{ Dialog.new with
          strId := "d1".toList, objState := ⟨.idle, 0, .terminated⟩ }]) := by decide
    rw [hread] at heq
    cases heq
    refine ⟨_, List.mem_singleton_self _, ?_⟩
    have hids : (start.next full).manager.getDialogs.map Dialog.strId = ["d1".toList] := by
      decide
    have hin : dialog.strId ∈ ["d1".toList] := hids ▸ List.mem_map.mpr ⟨dialog, hd, rfl⟩
    exact (List.mem_singleton.mp hin).symm
  exact ⟨_, by decide, (dialogs_followDocuments hended).1⟩

/-- A partial document about a second dialog makes the first one unknown. -/
theorem dialogs_notFollowDocuments :
    ∃ h : DialogHistory, sequences.Reachable h ∧
      ¬Represents Dialog.strId h.manager.getDialogs h.known := by
  let start : DialogHistory := ⟨.new, fun _ => none⟩
  let full := some (dialogInfoElement "0" "full" [dialogElement "d1" "confirmed"])
  let second := some (dialogInfoElement "1" "partial" [dialogElement "d2" "confirmed"])
  refine ⟨(start.next full).next second, ?_, ?_⟩
  · exact .step second (.step full (.init rfl) rfl) rfl
  · intro hrepresents
    have hknown : (((start.next full).next second).known "d1".toList).isSome = true := by decide
    obtain ⟨dialog, hdialog⟩ := Option.isSome_iff_exists.mp hknown
    obtain ⟨hin, hid⟩ := (hrepresents.mem_iff _ _).mp hdialog
    have hids : ((start.next full).next second).manager.getDialogs.map Dialog.strId =
        ["d2".toList] := by decide
    have hmem : dialog.strId ∈ ["d2".toList] := hids ▸ List.mem_map.mpr ⟨dialog, hin, rfl⟩
    rw [hid] at hmem
    exact absurd hmem (by decide)

end DialogHistory

end ImsStack.EventPackage
