import ImsStack.OfferAnswer.SdpMediaParameter
import Mathlib.Data.List.Forall2
import Mathlib.Data.List.Nodup

/-!
The formats that an offer of codecs leaves in the proposal: each is the own counterpart of an
offered codec or an offered codec itself.
-/

namespace ImsStack.Sdp.SdpMediaFormat

def IsCodec (format : SdpMediaFormat) : Prop := ∃ codec, format = .avCodec codec

/-- The formats whose payload type is neither `seen` nor that of an earlier one. -/
def firstListed (seen : List (Option Int)) : List SdpMediaFormat → List SdpMediaFormat
  | [] => []
  | format :: rest =>
    if format.payloadType ∈ seen then firstListed seen rest
    else format :: firstListed (seen ++ [format.payloadType]) rest

/-- The first of the own formats that an offered one equals. -/
def counterpart (answered : List SdpMediaFormat) (offered : SdpMediaFormat) :
    Option SdpMediaFormat :=
  answered.find? (offered.equals ·)

section firstListed

variable {seen : List (Option Int)} {formats : List SdpMediaFormat}

theorem firstListed_sublist : (firstListed seen formats).Sublist formats := by
  induction formats generalizing seen with
  | nil => exact List.Sublist.refl _
  | cons format rest ih =>
    unfold firstListed
    split
    · exact ih.cons _
    · exact ih.cons_cons _

theorem not_mem_seen_of_firstListed {format : SdpMediaFormat}
    (hformat : format ∈ firstListed seen formats) : format.payloadType ∉ seen := by
  induction formats generalizing seen with
  | nil => cases hformat
  | cons first rest ih =>
    unfold firstListed at hformat
    split at hformat
    · exact ih hformat
    · next hfirst =>
      rcases List.mem_cons.mp hformat with rfl | hrest
      · exact hfirst
      · intro hseen
        exact ih hrest (List.mem_append_left _ hseen)

theorem nodup_firstListed : ((firstListed seen formats).map payloadType).Nodup := by
  induction formats generalizing seen with
  | nil => exact List.nodup_nil
  | cons format rest ih =>
    unfold firstListed
    split
    · exact ih
    · rw [List.map_cons, List.nodup_cons]
      refine ⟨?_, ih⟩
      intro hmem
      obtain ⟨other, hother, heq⟩ := List.mem_map.mp hmem
      exact not_mem_seen_of_firstListed hother (by simp [heq])

theorem mem_firstListed_or_seen {format : SdpMediaFormat} (hformat : format ∈ formats) :
    format.payloadType ∈ seen ++ (firstListed seen formats).map payloadType := by
  induction formats generalizing seen with
  | nil => cases hformat
  | cons first rest ih =>
    unfold firstListed
    rcases List.mem_cons.mp hformat with rfl | hrest
    · split
      · next hseen => exact List.mem_append_left _ hseen
      · simp
    · split
      · exact ih hrest
      · have hlisted := @ih (seen ++ [first.payloadType]) hrest
        simpa [List.append_assoc] using hlisted

theorem firstListed_eq_nil (hseen : ∀ format ∈ formats, format.payloadType ∈ seen) :
    firstListed seen formats = [] := by
  induction formats with
  | nil => rfl
  | cons format rest ih =>
    unfold firstListed
    rw [if_pos (hseen format List.mem_cons_self)]
    exact ih fun other hother => hseen other (List.mem_cons_of_mem _ hother)

theorem firstListed_of_nodup (hnodup : (formats.map payloadType).Nodup) :
    firstListed seen formats = formats.filter (·.payloadType ∉ seen) := by
  induction formats generalizing seen with
  | nil => rfl
  | cons format rest ih =>
    rw [List.map_cons, List.nodup_cons] at hnodup
    unfold firstListed
    split
    · next hseen => simp [ih hnodup.2, hseen]
    · next hseen =>
      rw [ih hnodup.2, List.filter_cons_of_pos (by simpa using hseen)]
      congr 1
      apply List.filter_congr
      intro other hother
      have hother' : other.payloadType ≠ format.payloadType := by
        intro heq
        exact hnodup.1 (List.mem_map.mpr ⟨other, hother, heq⟩)
      simp [hother']

end firstListed

end ImsStack.Sdp.SdpMediaFormat

namespace ImsStack.OfferAnswer.SdpMediaParameter

open Platform.AString Sdp SdpMediaFormat

section loops

variable {answered offered formats : List SdpMediaFormat} {format : SdpMediaFormat} {m : Matching}
  {initialOffer : Bool}

theorem isSameAvCodecPresent_iff (hformat : format.IsCodec) :
    isSameAvCodecPresent formats format ↔ format.payloadType ∈ formats.map payloadType := by
  obtain ⟨codec, rfl⟩ := hformat
  simp only [isSameAvCodecPresent, List.any_eq_true, List.mem_map]
  constructor
  · rintro ⟨other, hother, hequal⟩
    cases other with
    | avCodec other =>
      refine ⟨_, hother, ?_⟩
      simp only [beq_iff_eq] at hequal
      simp [payloadType, hequal]
    | plain type value => cases hequal
  · rintro ⟨other, hother, hequal⟩
    cases other with
    | avCodec other =>
      refine ⟨_, hother, ?_⟩
      simp only [payloadType, Option.some.injEq] at hequal
      simp [hequal]
    | plain type value => cases hequal

theorem isSameNonAvCodecPresent_eq_false (hformat : format.IsCodec) :
    isSameNonAvCodecPresent formats format = false := by
  obtain ⟨codec, rfl⟩ := hformat
  rfl

theorem compareLocal_of_present {isOffer found : Bool}
    (hpresent : isSameAvCodecPresent m.peer format) :
    compareLocal initialOffer isOffer format answered m found = (m, found) := by
  cases answered with
  | nil => rfl
  | cons first rest =>
    unfold compareLocal
    rw [if_pos hpresent]

/-- The payload type of an offered codec and of its counterpart has to be the same in a re-offer. -/
def keepsPayloadType (initialOffer : Bool) (format answered : SdpMediaFormat) : Bool :=
  initialOffer || equalsOrNull format.getValue answered.getValue

/-- Of the own formats, only the first one that equals the offered codec is looked at. -/
theorem compareLocal_offer (hformat : format.IsCodec) :
    compareLocal initialOffer true format answered m false =
      if format.payloadType ∈ m.peer.map payloadType then (m, false)
      else
        match counterpart answered format with
        | none => (m, false)
        | some own =>
          if keepsPayloadType initialOffer format own then (m.add own format, true)
          else ({ m with peer := m.peer ++ [format] }, false) := by
  have hadded : ∀ peer, isSameAvCodecPresent (peer ++ [format]) format := by
    intro peer
    rw [isSameAvCodecPresent_iff hformat]
    simp
  induction answered with
  | nil => simp [compareLocal, counterpart]
  | cons first rest ih =>
    unfold compareLocal
    simp only [isSameAvCodecPresent_iff hformat, Bool.not_true, Bool.false_and, Bool.true_and,
      Bool.false_eq_true, if_false]
    split
    · rfl
    · next hfresh =>
      rw [if_neg hfresh] at ih
      cases hequal : format.equals first with
      | false =>
        rw [if_neg (by simp), ih]
        simp [counterpart, hequal]
      | true =>
        have hfound : counterpart (first :: rest) format = some first := by
          simp [counterpart, hequal]
        rw [if_pos rfl, hfound]
        cases hkeeps : keepsPayloadType initialOffer format first with
        | false =>
          have hrenumbered : (!initialOffer && !equalsOrNull format.getValue first.getValue) =
              true := by
            simpa [keepsPayloadType] using hkeeps
          rw [if_pos hrenumbered, compareLocal_of_present (m := { m with
            peer := m.peer ++ [format] }) (hadded m.peer)]
          simp [hkeeps]
        | true =>
          have hkept : (!initialOffer && !equalsOrNull format.getValue first.getValue) = false := by
            rw [← Bool.not_or, Bool.not_eq_false']
            exact hkeeps
          rw [if_neg (by simp [hkept]), compareLocal_of_present (m := m.add first format)
            (hadded m.peer)]
          simp [hkeeps]

/-- An initial offer: the offered codecs that have a counterpart, once for each payload type. -/
def answeredCodecs (answered : List SdpMediaFormat) (seen : List (Option Int))
    (offered : List SdpMediaFormat) : List SdpMediaFormat :=
  firstListed seen (offered.filter fun format => (counterpart answered format).isSome)

/-- What a re-offer leaves of an offered codec: the counterpart with its payload type, or the codec
itself where it is new. -/
def retained (answered : List SdpMediaFormat) (format : SdpMediaFormat) : List SdpMediaFormat :=
  match counterpart answered format with
  | none => [format]
  | some own => if equalsOrNull format.getValue own.getValue then [own] else []

theorem compareFormats_initialOffer (hoffered : ∀ format ∈ offered, format.IsCodec) :
    compareFormats true true answered offered m =
      let codecs := answeredCodecs answered (m.peer.map payloadType) offered
      { accepted := m.accepted ++ codecs.map fun format =>
          (counterpart answered format).getD format
        peer := m.peer ++ codecs
        atLeastOneCodecMatched := m.atLeastOneCodecMatched || !codecs.isEmpty } := by
  induction offered generalizing m with
  | nil => simp [compareFormats, answeredCodecs, firstListed]
  | cons format rest ih =>
    have hrest : ∀ other ∈ rest, other.IsCodec :=
      fun other hother => hoffered other (List.mem_cons_of_mem _ hother)
    unfold compareFormats
    simp only [compareLocal_offer (hoffered format List.mem_cons_self), Bool.not_true,
      Bool.and_false, Bool.false_and, Bool.false_eq_true, if_false]
    rw [ih hrest]
    split
    · next hseen =>
      cases hown : counterpart answered format <;>
        simp [answeredCodecs, firstListed, hown, hseen]
    · next hfresh =>
      cases hown : counterpart answered format with
      | none => simp [answeredCodecs, hown]
      | some own =>
        simp [answeredCodecs, firstListed, hown, hfresh, keepsPayloadType, Matching.add]

theorem compareFormats_reOffer (hoffered : ∀ format ∈ offered, format.IsCodec) :
    compareFormats false true answered offered m =
      let codecs := firstListed (m.peer.map payloadType) offered
      { accepted := m.accepted ++ codecs.flatMap (retained answered)
        peer := m.peer ++ codecs
        atLeastOneCodecMatched := m.atLeastOneCodecMatched ||
          !(codecs.flatMap (retained answered)).isEmpty } := by
  induction offered generalizing m with
  | nil => simp [compareFormats, firstListed]
  | cons format rest ih =>
    have hformat := hoffered format List.mem_cons_self
    have hrest : ∀ other ∈ rest, other.IsCodec :=
      fun other hother => hoffered other (List.mem_cons_of_mem _ hother)
    unfold compareFormats
    simp only [compareLocal_offer hformat, isSameNonAvCodecPresent_eq_false hformat]
    rw [ih hrest]
    split
    · next hseen =>
      have hpresent : isSameAvCodecPresent m.peer format :=
        (isSameAvCodecPresent_iff hformat).mpr hseen
      simp [firstListed, hseen, hpresent]
    · next hfresh =>
      cases hown : counterpart answered format with
      | none =>
        have hpresent : isSameAvCodecPresent m.peer format = false := by
          rw [Bool.eq_false_iff]
          exact fun h => hfresh ((isSameAvCodecPresent_iff hformat).mp h)
        simp [firstListed, hfresh, hpresent, retained, hown, Matching.add]
      | some own =>
        cases hvalue : equalsOrNull format.getValue own.getValue with
        | true =>
          simp [firstListed, hfresh, retained, hown, hvalue, keepsPayloadType, Matching.add]
        | false =>
          have hpresent : isSameAvCodecPresent (m.peer ++ [format]) format := by
            rw [isSameAvCodecPresent_iff hformat]
            simp
          simp [firstListed, hfresh, retained, hown, hvalue, keepsPayloadType, hpresent]

theorem addNewFormats_eq (hoffered : ∀ format ∈ offered, format.IsCodec) :
    addNewFormats offered m =
      let codecs := firstListed (m.peer.map payloadType) offered
      { accepted := m.accepted ++ codecs
        peer := m.peer ++ codecs
        atLeastOneCodecMatched := m.atLeastOneCodecMatched || !codecs.isEmpty } := by
  induction offered generalizing m with
  | nil => simp [addNewFormats, firstListed]
  | cons format rest ih =>
    have hformat := hoffered format List.mem_cons_self
    have hrest : ∀ other ∈ rest, other.IsCodec :=
      fun other hother => hoffered other (List.mem_cons_of_mem _ hother)
    unfold addNewFormats
    rw [ih hrest, isSameNonAvCodecPresent_eq_false hformat, Bool.or_false]
    simp only [isSameAvCodecPresent_iff hformat]
    split
    · next hseen => simp [firstListed, hseen]
    · next hfresh => simp [firstListed, hfresh, Matching.add]

/-- An initial offer: the offered codecs without a counterpart that are not answered otherwise. -/
def newCodecs (answered offered : List SdpMediaFormat) : List SdpMediaFormat :=
  firstListed ((answeredCodecs answered [] offered).map payloadType) offered

/-- An initial offer: the counterparts of the offered codecs that have one. -/
def counterparts (answered offered : List SdpMediaFormat) : List SdpMediaFormat :=
  (answeredCodecs answered [] offered).map fun format => (counterpart answered format).getD format

/-- A re-offer: what the proposal keeps of the offered codecs. -/
def retainedCodecs (answered offered : List SdpMediaFormat) : List SdpMediaFormat :=
  (firstListed [] offered).flatMap (retained answered)

theorem accepted_initialOffer (hoffered : ∀ format ∈ offered, format.IsCodec) :
    (matchFormats true true answered offered).accepted =
      counterparts answered offered ++ newCodecs answered offered := by
  unfold matchFormats
  rw [compareFormats_initialOffer hoffered]
  simp [addNewFormats_eq hoffered, counterparts, newCodecs]

theorem accepted_reOffer (hoffered : ∀ format ∈ offered, format.IsCodec) :
    (matchFormats false true answered offered).accepted =
      if retainedCodecs answered offered = [] then firstListed [] offered
      else retainedCodecs answered offered := by
  have hlisted : firstListed ((firstListed [] offered).map payloadType) offered = [] := by
    apply firstListed_eq_nil
    intro format hformat
    simpa using @mem_firstListed_or_seen [] offered format hformat
  unfold matchFormats
  rw [compareFormats_reOffer hoffered]
  simp only [if_true, addNewFormats_eq hoffered, List.map_nil, List.nil_append, hlisted,
    List.append_nil]
  change (if _ then _ else _ : Matching).accepted = _
  unfold retainedCodecs
  cases (firstListed [] offered).flatMap (retained answered) with
  | nil => simp
  | cons format rest => simp

end loops

/-- The formats are a sub-list of the offer, each as its `Equals` takes it, without a payload type
that is there twice. -/
def DuplicateFreeSublist (offered formats : List SdpMediaFormat) : Prop :=
  (formats.map payloadType).Nodup ∧
    ∃ listed, listed.Sublist offered ∧
      List.Forall₂ (fun format own => format.equals own) listed formats

/-- When the proposal for an offer is a sub-list of it.  In an initial offer no two codecs may have
counterparts of one payload type, nor a codec without a counterpart the payload type of one, and the
codecs without a counterpart come last in the offer; in a re-offer the kept ones differ in their
payload types. -/
def Agrees (initialOffer : Bool) (answered offered : List SdpMediaFormat) : Prop :=
  if initialOffer then
    ((counterparts answered offered).map payloadType).Nodup ∧
    (∀ own ∈ counterparts answered offered, ∀ format ∈ newCodecs answered offered,
      own.payloadType ≠ format.payloadType) ∧
    ∃ front rest, (front ++ rest).Sublist offered ∧
      List.Forall₂ (fun format own => format.equals own) front (counterparts answered offered) ∧
      List.Forall₂ (fun format own => format.equals own) rest (newCodecs answered offered)
  else ((retainedCodecs answered offered).map payloadType).Nodup

section agreement

variable {answered offered formats : List SdpMediaFormat} {format own : SdpMediaFormat}

theorem forall_of_forall₂ {α β : Type} {r : α → β → Prop} {p : α → Prop} {l : List α} {l' : List β}
    (hrelated : List.Forall₂ r l l') (hp : ∀ a, ∀ b ∈ l', r a b → p a) : ∀ a ∈ l, p a := by
  induction hrelated with
  | nil => simp
  | cons hab hrest ih =>
    rw [List.forall_mem_cons]
    exact ⟨hp _ _ List.mem_cons_self hab, ih fun a b hb => hp a b (List.mem_cons_of_mem _ hb)⟩

theorem pairwise_iff_filter {α : Type} {p : α → Bool} {l : List α} :
    (l.Pairwise fun a b => p b → p a) ↔ l = l.filter p ++ l.filter (!p ·) := by
  induction l with
  | nil => simp
  | cons a l ih =>
    rw [List.pairwise_cons]
    cases ha : p a with
    | true =>
      rw [List.filter_cons_of_pos ha, List.filter_cons_of_neg (by simp [ha]), List.cons_append,
        List.cons.injEq, ← ih]
      simp
    | false =>
      rw [List.filter_cons_of_neg (by simp [ha]), List.filter_cons_of_pos (by simp [ha])]
      constructor
      · rintro ⟨hnone, -⟩
        have hfilter : l.filter p = [] := by
          rw [List.filter_eq_nil_iff]
          intro b hb hpb
          exact Bool.false_ne_true (hnone b hb hpb)
        have hrest : l.filter (!p ·) = l := by
          rw [List.filter_eq_self]
          intro b hb
          have hpb := List.filter_eq_nil_iff.mp hfilter b hb
          simpa using hpb
        rw [hfilter, hrest, List.nil_append]
      · intro heq
        have hfilter : l.filter p = [] := by
          cases hl : l.filter p with
          | nil => rfl
          | cons b rest =>
            rw [hl, List.cons_append, List.cons.injEq] at heq
            have hb : p b := (List.mem_filter.mp (hl ▸ List.mem_cons_self : b ∈ l.filter p)).2
            rw [← heq.1, ha] at hb
            exact absurd hb Bool.false_ne_true
        have hnone : ∀ b ∈ l, ¬p b := List.filter_eq_nil_iff.mp hfilter
        refine ⟨fun b hb hpb => absurd hpb (hnone b hb), ?_⟩
        exact List.Pairwise.imp_of_mem (fun _ hb _ hpb => absurd hpb (hnone _ hb))
          (List.pairwise_of_forall (fun _ _ => trivial : ∀ _ _ : α, True))

theorem equals_of_counterpart (hown : counterpart answered format = some own) :
    format.equals own :=
  List.find?_some hown

theorem mem_of_counterpart (hown : counterpart answered format = some own) : own ∈ answered :=
  List.mem_of_find?_eq_some hown

theorem forall₂_equals_self : List.Forall₂ (fun format own => format.equals own) formats formats := by
  rw [List.forall₂_same]
  exact fun format _ => format.equals_self

theorem forall₂_counterparts :
    List.Forall₂ (fun format own => format.equals own) (answeredCodecs answered [] offered)
      (counterparts answered offered) := by
  unfold counterparts
  rw [List.forall₂_map_right_iff, List.forall₂_same]
  intro format _
  cases hown : counterpart answered format with
  | none => exact format.equals_self
  | some own => exact equals_of_counterpart hown

theorem exists_sublist_of_retained :
    ∃ listed, listed.Sublist formats ∧
      List.Forall₂ (fun format own => format.equals own) listed
        (formats.flatMap (retained answered)) := by
  induction formats with
  | nil => exact ⟨[], List.Sublist.refl _, List.Forall₂.nil⟩
  | cons format rest ih =>
    obtain ⟨listed, hlisted, hequals⟩ := ih
    rw [List.flatMap_cons]
    unfold retained
    cases hown : counterpart answered format with
    | none =>
      exact ⟨format :: listed, hlisted.cons_cons _, List.Forall₂.cons format.equals_self hequals⟩
    | some own =>
      simp only
      split
      · exact ⟨format :: listed, hlisted.cons_cons _,
          List.Forall₂.cons (equals_of_counterpart hown) hequals⟩
      · exact ⟨listed, hlisted.cons _, hequals⟩

theorem duplicateFreeSublist_initialOffer_iff :
    DuplicateFreeSublist offered (counterparts answered offered ++ newCodecs answered offered) ↔
      Agrees true answered offered := by
  unfold DuplicateFreeSublist Agrees
  rw [if_pos rfl, List.map_append, List.nodup_append]
  have hnew : ((newCodecs answered offered).map payloadType).Nodup := nodup_firstListed
  constructor
  · rintro ⟨⟨hown, -, hdisjoint⟩, listed, hlisted, hequals⟩
    refine ⟨hown, ?_, ?_⟩
    · intro own hmem format hformat
      exact hdisjoint _ (List.mem_map_of_mem hmem) _ (List.mem_map_of_mem hformat)
    · have hfront := List.forall₂_take_append _ _ _ hequals
      have hrest := List.forall₂_drop_append _ _ _ hequals
      rw [← List.take_append_drop (counterparts answered offered).length listed] at hlisted
      exact ⟨_, _, hlisted, hfront, hrest⟩
  · rintro ⟨hown, hdisjoint, front, rest, hlisted, hfront, hrest⟩
    refine ⟨⟨hown, hnew, ?_⟩, front ++ rest, hlisted, ?_⟩
    · intro ownType hownType newType hnewType
      obtain ⟨own, hmem, rfl⟩ := List.mem_map.mp hownType
      obtain ⟨format, hformat, rfl⟩ := List.mem_map.mp hnewType
      exact hdisjoint own hmem format hformat
    · exact List.rel_append hfront hrest

theorem duplicateFreeSublist_reOffer_iff :
    DuplicateFreeSublist offered
        (if retainedCodecs answered offered = [] then firstListed [] offered
          else retainedCodecs answered offered) ↔
      Agrees false answered offered := by
  have hagrees : Agrees false answered offered ↔
      ((retainedCodecs answered offered).map payloadType).Nodup := by simp [Agrees]
  rw [hagrees]
  unfold DuplicateFreeSublist
  split
  · next hnone =>
    rw [hnone]
    refine iff_of_true ⟨nodup_firstListed, _, firstListed_sublist, forall₂_equals_self⟩ ?_
    exact List.nodup_nil
  · constructor
    · exact fun h => h.1
    · intro hnodup
      obtain ⟨listed, hlisted, hequals⟩ :=
        @exists_sublist_of_retained answered (firstListed [] offered)
      exact ⟨hnodup, listed, hlisted.trans firstListed_sublist, hequals⟩

theorem answeredCodecs_of_nodup (hnodup : (offered.map payloadType).Nodup) :
    answeredCodecs answered [] offered =
      offered.filter fun format => (counterpart answered format).isSome := by
  unfold answeredCodecs
  rw [firstListed_of_nodup (List.Nodup.sublist (List.filter_sublist.map _) hnodup)]
  simp

theorem newCodecs_of_nodup (hnodup : (offered.map payloadType).Nodup) :
    newCodecs answered offered =
      offered.filter fun format => !(counterpart answered format).isSome := by
  unfold newCodecs
  rw [firstListed_of_nodup hnodup, answeredCodecs_of_nodup hnodup]
  apply List.filter_congr
  intro format hformat
  have hlisted : format.payloadType ∈
      (offered.filter fun format => (counterpart answered format).isSome).map payloadType ↔
      (counterpart answered format).isSome := by
    constructor
    · intro hmem
      obtain ⟨other, hother, hequal⟩ := List.mem_map.mp hmem
      rw [List.mem_filter] at hother
      rw [← List.inj_on_of_nodup_map hnodup hother.1 hformat hequal]
      exact hother.2
    · intro hhas
      exact List.mem_map_of_mem (List.mem_filter.mpr ⟨hformat, hhas⟩)
  cases hhas : (counterpart answered format).isSome with
  | true => simp [hlisted.mpr hhas]
  | false =>
    have hnot : format.payloadType ∉
        (offered.filter fun format => (counterpart answered format).isSome).map payloadType := by
      rw [hlisted, hhas]
      exact Bool.false_ne_true
    simp only [hnot, not_false_eq_true, decide_true, Bool.not_false]

theorem mem_answered_of_counterparts (hown : own ∈ counterparts answered offered) :
    own ∈ answered := by
  obtain ⟨format, hformat, rfl⟩ := List.mem_map.mp hown
  have hhas := (List.mem_filter.mp (firstListed_sublist.subset hformat)).2
  obtain ⟨own, hown⟩ := Option.isSome_iff_exists.mp hhas
  rw [hown]
  exact mem_of_counterpart hown

/-- Where payload types are not listed twice, an initial offer is answered in its order exactly when
no codec without a counterpart is offered before one that has one. -/
theorem inOrder_iff_of_nodup (hnodup : (offered.map payloadType).Nodup) :
    (∃ front rest, (front ++ rest).Sublist offered ∧
      List.Forall₂ (fun format own => format.equals own) front (counterparts answered offered) ∧
      List.Forall₂ (fun format own => format.equals own) rest (newCodecs answered offered)) ↔
      offered.Pairwise fun format later =>
        (counterpart answered later).isSome → (counterpart answered format).isSome := by
  rw [pairwise_iff_filter]
  have hcodecs := @answeredCodecs_of_nodup answered offered hnodup
  have hnew := @newCodecs_of_nodup answered offered hnodup
  have hlength : (counterparts answered offered).length + (newCodecs answered offered).length =
      offered.length := by
    unfold counterparts
    rw [List.length_map, hcodecs, hnew, ← List.length_eq_length_filter_add]
  constructor
  · rintro ⟨front, rest, hsublist, hfront, hrest⟩
    have hoffered : front ++ rest = offered := by
      apply hsublist.eq_of_length
      rw [List.length_append, hfront.length_eq, hrest.length_eq, hlength]
    have hhas : ∀ format ∈ front, (counterpart answered format).isSome := by
      refine @forall_of_forall₂ _ _ _ (fun format => (counterpart answered format).isSome) _ _
        hfront ?_
      intro format own hown hequal
      unfold counterpart
      rw [List.find?_isSome]
      exact ⟨own, mem_answered_of_counterparts hown, hequal⟩
    have hfilter : front = offered.filter fun format => (counterpart answered format).isSome := by
      apply List.Sublist.eq_of_length
      · rw [← List.filter_eq_self.mpr hhas]
        exact ((List.sublist_append_left _ _).trans hsublist).filter _
      · rw [hfront.length_eq, ← hcodecs]
        simp [counterparts]
    have hlast : rest.filter (fun format => (counterpart answered format).isSome) = [] := by
      rw [← hoffered, List.filter_append, List.filter_eq_self.mpr hhas] at hfilter
      exact List.append_cancel_left (hfilter.symm.trans (List.append_nil front).symm)
    have hfirst : front.filter (fun format => !(counterpart answered format).isSome) = [] := by
      rw [List.filter_eq_nil_iff]
      intro format hformat
      simp [hhas format hformat]
    have hothers : rest.filter (fun format => !(counterpart answered format).isSome) = rest := by
      rw [List.filter_eq_self]
      intro format hformat
      have hnone := List.filter_eq_nil_iff.mp hlast format hformat
      simpa using hnone
    rw [← hfilter, ← hoffered, List.filter_append, hfirst, hothers, List.nil_append]
  · intro heq
    refine ⟨answeredCodecs answered [] offered, newCodecs answered offered, ?_,
      forall₂_counterparts, forall₂_equals_self⟩
    rw [hcodecs, hnew, ← heq]

/-- With payload types that the values of the formats determine, a re-offer keeps none twice. -/
theorem agrees_reOffer
    (hvalue : ∀ format ∈ offered, ∀ own ∈ answered,
      equalsOrNull format.getValue own.getValue → format.payloadType = own.payloadType) :
    Agrees false answered offered := by
  have hretained : ((retainedCodecs answered offered).map payloadType).Sublist
      ((firstListed [] offered).map payloadType) := by
    have hlisted : ∀ formats : List SdpMediaFormat, (∀ format ∈ formats, format ∈ offered) →
        ((formats.flatMap (retained answered)).map payloadType).Sublist
          (formats.map payloadType) := by
      intro formats hformats
      induction formats with
      | nil => exact List.Sublist.refl _
      | cons format rest ih =>
        have hrest := ih fun other hother => hformats other (List.mem_cons_of_mem _ hother)
        rw [List.flatMap_cons, List.map_append, List.map_cons]
        unfold retained
        cases hown : counterpart answered format with
        | none => exact hrest.cons_cons _
        | some own =>
          simp only
          split
          · next hequal =>
            rw [hvalue format (hformats format List.mem_cons_self) own (mem_of_counterpart hown)
              hequal]
            exact hrest.cons_cons _
          · exact hrest.cons _
    exact hlisted _ fun format hformat => firstListed_sublist.subset hformat
  have hnodup := hretained.nodup nodup_firstListed
  simpa [Agrees] using hnodup

end agreement

theorem proposal_of_compare {initialOffer : Bool} {self peer proposal : SdpMediaParameter}
    (hport : peer.media.port ≠ 0)
    (hsuccess : (compare initialOffer true self peer proposal).result = .success) :
    (compare initialOffer true self peer proposal).proposal.mediaFormats =
      (matchFormats initialOffer true self.mediaFormats peer.mediaFormats).accepted := by
  have hself : self.updateTransportProtocol peer true = self := by
    simp [updateTransportProtocol]
  unfold compare at hsuccess ⊢
  simp only [if_neg hport, hself] at hsuccess ⊢
  split at hsuccess
  · cases hsuccess
  · next htype =>
    rw [if_neg htype]
    split at hsuccess
    · cases hsuccess
    · next htransport =>
      rw [if_neg htransport]
      split at hsuccess
      · next hmatched =>
        rw [if_pos hmatched]
        unfold acceptMedia at hsuccess ⊢
        split at hsuccess
        · cases hsuccess
        · next hdirection => rw [if_neg hdirection]
      · cases hsuccess

/-- An audio media with AMR codecs of these payload types. -/
def amrMedia (payloadTypes : List Int) : SdpMediaParameter where
  mid := 0
  media := { mediaType := .audio, port := 50000, transportProtocol := .rtpAvp }
  mediaFormats := payloadTypes.map fun payloadType => .avCodec
    { value := some (setNumber payloadType), payloadType, codecName := some "AMR".toList,
      clockRate := 8000 }

theorem exists_forall₂_append_iff {offered own new : List SdpMediaFormat} :
    (∃ listed, listed.Sublist offered ∧
        List.Forall₂ (fun format own => format.equals own) listed (own ++ new)) ↔
      ∃ front rest, (front ++ rest).Sublist offered ∧
        List.Forall₂ (fun format own => format.equals own) front own ∧
        List.Forall₂ (fun format own => format.equals own) rest new := by
  constructor
  · rintro ⟨listed, hlisted, hequals⟩
    rw [← List.take_append_drop own.length listed] at hlisted
    exact ⟨_, _, hlisted, List.forall₂_take_append _ _ _ hequals,
      List.forall₂_drop_append _ _ _ hequals⟩
  · rintro ⟨front, rest, hlisted, hfront, hrest⟩
    exact ⟨front ++ rest, hlisted, List.rel_append hfront hrest⟩

/-- The proposal for an initial offer that lists no payload type twice has the order of the offer
exactly when no codec without an own counterpart is offered before one that has one. -/
theorem compare_keepsOrder_iff {self peer proposal : SdpMediaParameter}
    (hcodecs : ∀ format ∈ peer.mediaFormats, format.IsCodec) (hport : peer.media.port ≠ 0)
    (hsuccess : (compare true true self peer proposal).result = .success)
    (hnodup : (peer.mediaFormats.map payloadType).Nodup) :
    (∃ listed, listed.Sublist peer.mediaFormats ∧
        List.Forall₂ (fun format own => format.equals own) listed
          (compare true true self peer proposal).proposal.mediaFormats) ↔
      peer.mediaFormats.Pairwise fun format later =>
        (counterpart self.mediaFormats later).isSome →
          (counterpart self.mediaFormats format).isSome := by
  rw [proposal_of_compare hport hsuccess, accepted_initialOffer hcodecs,
    exists_forall₂_append_iff, inOrder_iff_of_nodup hnodup]

theorem isCodec_amrMedia (payloadTypes : List Int) :
    ∀ format ∈ (amrMedia payloadTypes).mediaFormats, format.IsCodec := by
  intro format hformat
  obtain ⟨payloadType, -, rfl⟩ := List.mem_map.mp hformat
  exact ⟨_, rfl⟩

theorem compare_keepsOrder_iff_amr :
    (∃ listed, listed.Sublist (amrMedia [96, 97]).mediaFormats ∧
        List.Forall₂ (fun format own => format.equals own) listed
          (compare true true (amrMedia [97]) (amrMedia [96, 97])
            { mid := 0 }).proposal.mediaFormats) ↔
      (amrMedia [96, 97]).mediaFormats.Pairwise fun format later =>
        (counterpart (amrMedia [97]).mediaFormats later).isSome →
          (counterpart (amrMedia [97]).mediaFormats format).isSome :=
  compare_keepsOrder_iff (isCodec_amrMedia _) (by decide) (by decide) (by decide)

/-- Where formats with one value have one payload type, the proposal for a re-offer is a sub-list
of it without a payload type that is there twice. -/
theorem duplicateFreeSublist_compare_reOffer {self peer proposal : SdpMediaParameter}
    (hcodecs : ∀ format ∈ peer.mediaFormats, format.IsCodec) (hport : peer.media.port ≠ 0)
    (hsuccess : (compare false true self peer proposal).result = .success)
    (hvalue : ∀ format ∈ peer.mediaFormats, ∀ own ∈ self.mediaFormats,
      equalsOrNull format.getValue own.getValue → format.payloadType = own.payloadType) :
    DuplicateFreeSublist peer.mediaFormats
      (compare false true self peer proposal).proposal.mediaFormats := by
  rw [proposal_of_compare hport hsuccess, accepted_reOffer hcodecs]
  exact duplicateFreeSublist_reOffer_iff.mpr (agrees_reOffer hvalue)

theorem duplicateFreeSublist_compare_reOffer_amr :
    DuplicateFreeSublist (amrMedia [96, 97]).mediaFormats
      (compare false true (amrMedia [97]) (amrMedia [96, 97])
        { mid := 0 }).proposal.mediaFormats :=
  duplicateFreeSublist_compare_reOffer (isCodec_amrMedia _) (by decide) (by decide) (by decide)

end ImsStack.OfferAnswer.SdpMediaParameter
