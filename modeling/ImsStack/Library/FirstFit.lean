import Mathlib.Data.List.Nodup
import Mathlib.Data.List.Perm.Basic
import Mathlib.Data.Nat.Find

/-!
Demands that are served one after another, each by the first item left that meets it.  The
demands are served just if they can be assigned to distinct items where two demands that some
item meets both are met by the same items; in general an assignment may exist that serving the
first item does not find.
-/

namespace ImsStack.Library.FirstFit

universe u v

section Places

variable {α : Type u} (meets : α → Nat → Prop)

/-- The places are distinct, and each meets its demand. -/
def IsAssignment (demands : List α) (places : List Nat) : Prop :=
  places.Nodup ∧ List.Forall₂ meets demands places

/-- Moreover each demand has the first place that meets it and that no demand before it has. -/
def IsInTurn (demands : List α) (places : List Nat) : Prop :=
  IsAssignment meets demands places ∧
    ∀ (i : Nat) (a : α) (place : Nat), demands[i]? = some a → places[i]? = some place →
      ∀ earlier < place, meets a earlier → earlier ∈ places.take i

variable {meets} {a : α} {demands : List α} {place : Nat} {places : List Nat}

theorem isAssignment_cons_iff :
    IsAssignment meets (a :: demands) (place :: places) ↔
      meets a place ∧ IsAssignment (fun a n => meets a n ∧ n ≠ place) demands places := by
  constructor
  · rintro ⟨hnodup, hmeets⟩
    obtain ⟨hplace, hnodup⟩ := List.nodup_cons.mp hnodup
    obtain ⟨hhead, htail⟩ := List.forall₂_cons.mp hmeets
    refine ⟨hhead, hnodup, ?_⟩
    refine List.forall₂_iff_get.mpr ⟨htail.length_eq, fun i h₁ h₂ => ?_⟩
    refine ⟨htail.get h₁ h₂, ?_⟩
    intro heq
    have hmem : places.get ⟨i, h₂⟩ ∈ places := List.get_mem places ⟨i, h₂⟩
    rw [heq] at hmem
    exact hplace hmem
  · rintro ⟨hhead, hnodup, htail⟩
    have hplace : place ∉ places := by
      intro hmem
      obtain ⟨i, hi⟩ := List.get_of_mem hmem
      have hdemand : i.val < demands.length := Nat.lt_of_lt_of_eq i.isLt htail.length_eq.symm
      exact (htail.get hdemand i.isLt).2 hi
    refine ⟨List.nodup_cons.mpr ⟨hplace, hnodup⟩, List.forall₂_cons.mpr ⟨hhead, ?_⟩⟩
    exact htail.imp fun _ _ h => h.1

/-- The first demand has the first place that meets it, and the others are served from the
places left. -/
theorem isInTurn_cons_iff :
    IsInTurn meets (a :: demands) (place :: places) ↔
      meets a place ∧ (∀ earlier < place, ¬meets a earlier) ∧
        IsInTurn (fun a n => meets a n ∧ n ≠ place) demands places := by
  unfold IsInTurn
  rw [isAssignment_cons_iff]
  constructor
  · rintro ⟨⟨hhead, hassignment⟩, hfirst⟩
    refine ⟨hhead, fun earlier hlt hmeets => ?_, hassignment, ?_⟩
    · exact List.not_mem_nil (hfirst 0 a place rfl rfl earlier hlt hmeets)
    · intro i b n hb hn earlier hlt hmeets
      have hmem := hfirst (i + 1) b n hb hn earlier hlt hmeets.1
      rw [List.take_succ_cons] at hmem
      exact (List.mem_cons.mp hmem).resolve_left hmeets.2
  · rintro ⟨hhead, hfirst, hassignment, hothers⟩
    refine ⟨⟨hhead, hassignment⟩, ?_⟩
    intro i b n hb hn earlier hlt hmeets
    cases i with
    | zero =>
      obtain rfl : a = b := Option.some.inj hb
      obtain rfl : place = n := Option.some.inj hn
      exact absurd hmeets (hfirst earlier hlt)
    | succ i =>
      rw [List.take_succ_cons]
      by_cases hearlier : earlier = place
      · exact List.mem_cons.mpr (.inl hearlier)
      · exact List.mem_cons_of_mem _ (hothers i b n hb hn earlier hlt ⟨hmeets, hearlier⟩)

theorem IsAssignment.length_eq (h : IsAssignment meets demands places) :
    demands.length = places.length := h.2.length_eq

/-- The place of the first demand is exchanged for another that meets it: the demand that has
the other place takes the one given up. -/
theorem IsAssignment.exchange {first : Nat}
    (h : IsAssignment meets (a :: demands) (place :: places))
    (hgiven : ∀ b ∈ demands, meets b first → meets b place) :
    ∃ places, IsAssignment (fun a n => meets a n ∧ n ≠ first) demands places := by
  obtain ⟨hplace, hnodup⟩ := List.nodup_cons.mp h.1
  obtain ⟨hhead, htail⟩ := List.forall₂_cons.mp h.2
  refine ⟨places.map fun n => if n = first then place else n, ?_, ?_⟩
  · refine List.Nodup.map_on ?_ hnodup
    intro n hn m hm heq
    have hne : ∀ x ∈ places, x ≠ place := fun x hx hxplace => hplace (hxplace ▸ hx)
    by_cases hnfirst : n = first <;> by_cases hmfirst : m = first
    · exact hnfirst.trans hmfirst.symm
    · rw [if_pos hnfirst, if_neg hmfirst] at heq
      exact absurd heq.symm (hne m hm)
    · rw [if_neg hnfirst, if_pos hmfirst] at heq
      exact absurd heq (hne n hn)
    · rwa [if_neg hnfirst, if_neg hmfirst] at heq
  · rw [List.forall₂_map_right_iff]
    refine List.forall₂_iff_get.mpr ⟨htail.length_eq, fun i h₁ h₂ => ?_⟩
    have hmeets := htail.get h₁ h₂
    have hne : places.get ⟨i, h₂⟩ ≠ place := fun heq =>
      hplace (heq ▸ List.get_mem places ⟨i, h₂⟩)
    split
    · next hfirst =>
      refine ⟨hgiven _ (List.get_mem demands ⟨i, h₁⟩) (hfirst ▸ hmeets), fun heq => ?_⟩
      exact hne (hfirst.trans heq.symm)
    · next hfirst => exact ⟨hmeets, hfirst⟩

theorem IsAssignment.exists_of_perm {others : List α} (h : IsAssignment meets demands places)
    (hperm : others.Perm demands) : ∃ places, IsAssignment meets others places := by
  obtain ⟨moved, hmeets, hmoved⟩ := List.perm_comp_forall₂ hperm h.2
  exact ⟨moved, hmoved.nodup_iff.mpr h.1, hmeets⟩

end Places

section Items

variable {α : Type u} {β : Type v} (p : α → β → Bool)

/-- Every demand finds an item among those that the demands before it have left. -/
def serves : List α → List β → Bool
  | [], _ => true
  | a :: demands, items => items.any (p a) && serves demands (items.eraseP (p a))

/-- The item at a place meets a demand. -/
def Meets (items : List β) (a : α) (place : Nat) : Prop :=
  ∃ b, items[place]? = some b ∧ p a b = true

/-- The demands can be assigned to distinct items that meet them. -/
def Assignable (demands : List α) (items : List β) : Prop :=
  ∃ places, IsAssignment (Meets p items) demands places

/-- The demands can be served one after another, each by the first item left that meets it. -/
def InTurn (demands : List α) (items : List β) : Prop :=
  ∃ places, IsInTurn (Meets p items) demands places

/-- Two demands that an item meets both are met by the same items. -/
def Uniform (demands : List α) (items : List β) : Prop :=
  ∀ a ∈ demands, ∀ a' ∈ demands, ∀ b ∈ items, p a b = true → p a' b = true →
    ∀ c ∈ items, p a c = true → p a' c = true

variable {p} {a : α} {demands others : List α} {items : List β}

theorem InTurn.assignable (h : InTurn p demands items) : Assignable p demands items :=
  h.imp fun _ hplaces => hplaces.1

theorem Assignable.of_perm (h : Assignable p demands items) (hperm : others.Perm demands) :
    Assignable p others items := by
  obtain ⟨places, hplaces⟩ := h
  exact hplaces.exists_of_perm hperm

theorem serves_map {γ : Type v} (f : γ → β) (items : List γ) :
    serves p demands (items.map f) = serves (fun a c => p a (f c)) demands items := by
  induction demands generalizing items with
  | nil => rfl
  | cons a demands ih =>
    unfold serves
    rw [List.any_map, List.eraseP_map, ih]
    rfl

theorem serves_congr {q : α → β → Bool} (h : ∀ a ∈ demands, ∀ b, p a b = q a b) :
    serves p demands items = serves q demands items := by
  induction demands generalizing items with
  | nil => rfl
  | cons a demands ih =>
    have hhead : p a = q a := funext (h a List.mem_cons_self)
    unfold serves
    rw [hhead, ih fun b hb => h b (List.mem_cons_of_mem a hb)]

end Items

section Labels

variable {α : Type u} {β : Type v} {p : α → β → Bool}

def Increasing (labelled : List (β × Nat)) : Prop := labelled.Pairwise fun x y => x.2 < y.2

/-- `Meets` where the places are labels. -/
def MeetsAt (p : α → β → Bool) (labelled : List (β × Nat)) (a : α) (label : Nat) : Prop :=
  ∃ b, (b, label) ∈ labelled ∧ p a b = true

/-- The items left when the one with a label is taken. -/
def without (labelled : List (β × Nat)) (label : Nat) : List (β × Nat) :=
  labelled.filter fun x => x.2 ≠ label

variable {labelled : List (β × Nat)} {a : α} {demands : List α} {label : Nat}

theorem meetsAt_without_iff {n : Nat} :
    MeetsAt p (without labelled label) a n ↔ MeetsAt p labelled a n ∧ n ≠ label := by
  unfold MeetsAt without
  constructor
  · rintro ⟨b, hmem, hb⟩
    obtain ⟨hmem, hne⟩ := List.mem_filter.mp hmem
    exact ⟨⟨b, hmem, hb⟩, of_decide_eq_true hne⟩
  · rintro ⟨⟨b, hmem, hb⟩, hne⟩
    exact ⟨b, List.mem_filter.mpr ⟨hmem, decide_eq_true hne⟩, hb⟩

theorem Increasing.without (h : Increasing labelled) (label : Nat) :
    Increasing (without labelled label) := h.sublist List.filter_sublist

theorem Increasing.eq_of_label (h : Increasing labelled) {x y : β × Nat} (hx : x ∈ labelled)
    (hy : y ∈ labelled) (hlabel : x.2 = y.2) : x = y := by
  have hne : labelled.Pairwise fun x y => x.2 ≠ y.2 := h.imp Nat.ne_of_lt
  exact List.inj_on_of_nodup_map (List.pairwise_map.mpr hne) hx hy hlabel

theorem eraseP_eq_without (h : Increasing labelled) (hmeets : MeetsAt p labelled a label)
    (hfirst : ∀ earlier < label, ¬MeetsAt p labelled a earlier) :
    labelled.eraseP (fun x => p a x.1) = without labelled label := by
  induction labelled with
  | nil =>
    obtain ⟨b, hmem, -⟩ := hmeets
    exact absurd hmem List.not_mem_nil
  | cons x xs ih =>
    obtain ⟨hx, hxs⟩ := List.pairwise_cons.mp h
    obtain ⟨b, hmem, hb⟩ := hmeets
    unfold without
    by_cases hhead : p a x.1 = true
    · have hlabel : x.2 = label := by
        rcases List.mem_cons.mp hmem with rfl | hmem
        · rfl
        · exact absurd ⟨x.1, List.mem_cons_self, hhead⟩ (hfirst x.2 (hx _ hmem))
      have hothers : xs.filter (fun y => y.2 ≠ label) = xs := by
        apply List.filter_eq_self.mpr
        intro y hy
        exact decide_eq_true (hlabel ▸ (Nat.ne_of_gt (hx y hy)))
      rw [List.eraseP_cons, hhead, cond_true, List.filter_cons_of_neg (by simpa using hlabel),
        hothers]
    · have hmem : (b, label) ∈ xs := by
        rcases List.mem_cons.mp hmem with rfl | hmem
        · exact absurd hb hhead
        · exact hmem
      have hrest : xs.eraseP (fun x => p a x.1) = FirstFit.without xs label := by
        refine ih hxs ⟨b, hmem, hb⟩ fun earlier hlt hearlier => ?_
        obtain ⟨c, hc, hpc⟩ := hearlier
        exact hfirst earlier hlt ⟨c, List.mem_cons_of_mem x hc, hpc⟩
      have hlabel : x.2 ≠ label := Nat.ne_of_lt (hx _ hmem)
      rw [List.eraseP_cons, Bool.eq_false_iff.mpr hhead, cond_false, hrest,
        List.filter_cons, decide_eq_true hlabel, if_pos rfl]
      rfl

theorem exists_first (h : labelled.any (fun x => p a x.1) = true) :
    ∃ label, MeetsAt p labelled a label ∧ ∀ earlier < label, ¬MeetsAt p labelled a earlier := by
  classical
  have hexists : ∃ label, MeetsAt p labelled a label := by
    obtain ⟨x, hx, hpx⟩ := List.any_eq_true.mp h
    exact ⟨x.2, x.1, hx, hpx⟩
  exact ⟨Nat.find hexists, Nat.find_spec hexists, fun earlier hlt => Nat.find_min hexists hlt⟩

theorem any_of_meetsAt (h : MeetsAt p labelled a label) :
    labelled.any (fun x => p a x.1) = true := by
  obtain ⟨b, hmem, hb⟩ := h
  exact List.any_eq_true.mpr ⟨(b, label), hmem, hb⟩

theorem serves_labelled_cons :
    serves (fun a x => p a x.1) (a :: demands) labelled = true ↔
      labelled.any (fun x => p a x.1) = true ∧
        serves (fun a x => p a x.1) demands (labelled.eraseP fun x => p a x.1) = true :=
  Bool.and_eq_true_iff

theorem serves_labelled_iff (h : Increasing labelled) :
    serves (fun a x => p a x.1) demands labelled = true ↔
      ∃ places, IsInTurn (MeetsAt p labelled) demands places := by
  induction demands generalizing labelled with
  | nil =>
    refine ⟨fun _ => ⟨[], ⟨List.nodup_nil, .nil⟩, ?_⟩, fun _ => rfl⟩
    exact fun i a place ha => absurd ha.symm (Option.some_ne_none a)
  | cons a demands ih =>
    have hleft (label : Nat) : (fun b n => MeetsAt p labelled b n ∧ n ≠ label) =
        MeetsAt p (without labelled label) :=
      funext fun b => funext fun n => propext meetsAt_without_iff.symm
    rw [serves_labelled_cons]
    constructor
    · rintro ⟨hany, hserves⟩
      obtain ⟨label, hmeets, hfirst⟩ := exists_first hany
      rw [eraseP_eq_without h hmeets hfirst, ih (h.without label), ← hleft] at hserves
      obtain ⟨places, hplaces⟩ := hserves
      exact ⟨label :: places, isInTurn_cons_iff.mpr ⟨hmeets, hfirst, hplaces⟩⟩
    · rintro ⟨places, hplaces⟩
      cases places with
      | nil => exact absurd hplaces.1.length_eq (Nat.succ_ne_zero _)
      | cons label places =>
        obtain ⟨hmeets, hfirst, hothers⟩ := isInTurn_cons_iff.mp hplaces
        rw [eraseP_eq_without h hmeets hfirst, ih (h.without label), ← hleft]
        exact ⟨any_of_meetsAt hmeets, places, hothers⟩

theorem serves_labelled_of_uniform (h : Increasing labelled)
    (huniform : Uniform (fun a x => p a x.1) demands labelled) {places : List Nat}
    (hplaces : IsAssignment (MeetsAt p labelled) demands places) :
    serves (fun a x => p a x.1) demands labelled = true := by
  induction demands generalizing labelled places with
  | nil => rfl
  | cons a demands ih =>
    have hleft (label : Nat) : (fun b n => MeetsAt p labelled b n ∧ n ≠ label) =
        MeetsAt p (without labelled label) :=
      funext fun b => funext fun n => propext meetsAt_without_iff.symm
    cases places with
    | nil => exact absurd hplaces.length_eq (Nat.succ_ne_zero _)
    | cons place places =>
      have hmeets := (isAssignment_cons_iff.mp hplaces).1
      have hany := any_of_meetsAt hmeets
      obtain ⟨first, hfirst, hleast⟩ := exists_first hany
      obtain ⟨moved, hmoved⟩ : ∃ places,
          IsAssignment (fun b n => MeetsAt p labelled b n ∧ n ≠ first) demands places := by
        refine hplaces.exchange fun b hb hbfirst => ?_
        obtain ⟨x, hx, hbx⟩ := hbfirst
        obtain ⟨y, hy, hay⟩ := hfirst
        obtain ⟨z, hz, haz⟩ := hmeets
        obtain rfl : x = y := (Prod.ext_iff.mp (h.eq_of_label hx hy rfl)).1
        refine ⟨z, hz, ?_⟩
        exact huniform a List.mem_cons_self b (List.mem_cons_of_mem a hb) (x, first) hx hay hbx
          (z, place) hz haz
      rw [hleft] at hmoved
      have hsublist : (without labelled first).Sublist labelled := List.filter_sublist
      rw [serves_labelled_cons, eraseP_eq_without h hfirst hleast]
      refine ⟨hany, ih (h.without first) ?_ hmoved⟩
      intro b hb c hc x hx hbx hcx y hy
      exact huniform b (List.mem_cons_of_mem a hb) c (List.mem_cons_of_mem a hc) x
        (hsublist.subset hx) hbx hcx y (hsublist.subset hy)

end Labels

section Items

variable {α : Type u} {β : Type v} {p : α → β → Bool} {demands others : List α} {items : List β}

theorem increasing_zipIdx : Increasing items.zipIdx := by
  have hlabels : (items.zipIdx.map Prod.snd).Pairwise (· < ·) := by
    rw [List.zipIdx_map_snd]
    exact List.pairwise_lt_range'
  exact List.pairwise_map.mp hlabels

theorem meetsAt_zipIdx : MeetsAt p items.zipIdx = Meets p items := by
  funext a n
  apply propext
  unfold MeetsAt Meets
  refine exists_congr fun b => and_congr_left fun _ => ?_
  exact List.mem_zipIdx_iff_getElem?

theorem serves_zipIdx :
    serves (fun a x => p a x.1) demands items.zipIdx = serves p demands items := by
  rw [← serves_map Prod.fst, List.zipIdx_map_fst]

theorem serves_iff : serves p demands items = true ↔ InTurn p demands items := by
  rw [← serves_zipIdx, serves_labelled_iff increasing_zipIdx, meetsAt_zipIdx]
  rfl

theorem serves_iff_of_uniform (h : Uniform p demands items) :
    serves p demands items = true ↔ Assignable p demands items := by
  constructor
  · intro hserves
    exact (serves_iff.mp hserves).assignable
  · rintro ⟨places, hplaces⟩
    have hitem {x : β × Nat} (hx : x ∈ items.zipIdx) : x.1 ∈ items :=
      List.mem_of_getElem? (List.mem_zipIdx_iff_getElem?.mp hx)
    rw [← serves_zipIdx]
    refine serves_labelled_of_uniform increasing_zipIdx ?_ (meetsAt_zipIdx (p := p) ▸ hplaces)
    intro a ha b hb x hx hax hbx y hy
    exact h a ha b hb x.1 (hitem hx) hax hbx y.1 (hitem hy)

end Items

end ImsStack.Library.FirstFit
