import ImsStack.Capability.CallerCapability
import ImsStack.Library.Tally
import ImsStack.Library.TransitionSystem
import ImsStack.Platform.Numerals

/-!
The features that a contact advertises, against the services that are bound to it.
-/

namespace ImsStack.Capability

open KeyedStore
open Platform
open Platform.AString (Chars)
open Platform.Numerals (cString_eq_self)
open TransitionSystem

/-! ### Features by what they are compared for -/

/-- Features are the same with the same key. -/
structure FeatureKey where
  nType : FeatureType
  tag : Nat × Chars
  value : Nat × Chars
  deriving DecidableEq, Repr

namespace Feature

def keyValue (feature : Feature) : Nat × Chars :=
  let strValue :=
    if feature.nType = .boolean ∧ feature.strValue = [] then "true".toList else feature.strValue
  if feature.bCaseSensitivity then exactText strValue else foldText strValue

def key (feature : Feature) : FeatureKey := ⟨feature.nType, foldText feature.strTag, feature.keyValue⟩

/-- String values and methods are compared by case, and the value has no NUL. -/
structure IsRegular (feature : Feature) : Prop where
  bCaseSensitivity : feature.bCaseSensitivity =
    (decide (feature.nType = .stringValue) ||
      decide (foldText feature.strTag = foldText "methods".toList))
  strValue : AString.nul ∉ feature.strValue

theorem foldText_eq_true_iff {s : Chars} (h : AString.nul ∉ s) :
    AString.equalsIgnoreCaseLiteral s "true" = true ↔ foldText s = foldText "true".toList := by
  unfold AString.equalsIgnoreCaseLiteral AString.equalsIgnoreCase foldText
  rw [cString_eq_self h, beq_iff_eq, Prod.mk.injEq]
  constructor
  · intro heq
    refine ⟨?_, heq⟩
    have hlength := congrArg List.length heq
    rwa [List.length_map, List.length_map] at hlength
  · rintro ⟨-, heq⟩
    exact heq

theorem exactText_eq_true_iff {s : Chars} (h : AString.nul ∉ s) :
    AString.equalsLiteral s "true" = true ↔ exactText s = exactText "true".toList := by
  unfold AString.equalsLiteral exactText
  rw [cString_eq_self h, beq_iff_eq, Prod.mk.injEq]
  constructor
  · rintro rfl
    exact ⟨rfl, rfl⟩
  · rintro ⟨-, heq⟩
    exact heq

theorem exactText_eq_nil {s : Chars} : exactText [] = exactText s ↔ s = [] := by
  constructor
  · intro h
    have hlength : 0 = s.length := congrArg Prod.fst h
    exact List.length_eq_zero_iff.mp hlength.symm
  · rintro rfl
    rfl

theorem foldText_eq_nil {s : Chars} : foldText [] = foldText s ↔ s = [] := by
  constructor
  · intro h
    have hlength : 0 = s.length := congrArg Prod.fst h
    exact List.length_eq_zero_iff.mp hlength.symm
  · rintro rfl
    rfl

/-- Boolean values are equal where they are the same with "true" for an empty value. -/
theorem equalsBoolean_iff {v w : Chars} (hv : AString.nul ∉ v) (hw : AString.nul ∉ w)
    {nType : FeatureType} (htype : nType = .boolean) (bCase : Bool) :
    (if v = [] ∧ w = [] then true
      else if bCase = true ∧ bCase = true then
        decide ((v = [] ∧ AString.equalsLiteral w "true" = true) ∨
          (w = [] ∧ AString.equalsLiteral v "true" = true) ∨ exactText v = exactText w)
      else
        decide ((v = [] ∧ AString.equalsIgnoreCaseLiteral w "true" = true) ∨
          (w = [] ∧ AString.equalsIgnoreCaseLiteral v "true" = true) ∨
          foldText v = foldText w)) = true ↔
      (if bCase = true then exactText (if nType = .boolean ∧ v = [] then "true".toList else v)
        else foldText (if nType = .boolean ∧ v = [] then "true".toList else v)) =
      if bCase = true then exactText (if nType = .boolean ∧ w = [] then "true".toList else w)
        else foldText (if nType = .boolean ∧ w = [] then "true".toList else w) := by
  simp only [exactText_eq_true_iff hv, exactText_eq_true_iff hw, foldText_eq_true_iff hv,
    foldText_eq_true_iff hw]
  rcases eq_or_ne v [] with rfl | hvne
  · rcases eq_or_ne w [] with rfl | hwne
    · simp
    · cases bCase with
      | true =>
          have hnot : ¬exactText [] = exactText w := mt exactText_eq_nil.mp hwne
          simp [hwne, htype, hnot]
          exact eq_comm
      | false =>
          have hnot : ¬foldText [] = foldText w := mt foldText_eq_nil.mp hwne
          simp [hwne, htype, hnot]
          exact eq_comm
  · rcases eq_or_ne w [] with rfl | hwne
    · cases bCase with
      | true =>
          have hnot : ¬exactText v = exactText [] := fun heq => hvne (exactText_eq_nil.mp heq.symm)
          simp [hvne, htype, hnot]
      | false =>
          have hnot : ¬foldText v = foldText [] := fun heq => hvne (foldText_eq_nil.mp heq.symm)
          simp [hvne, htype, hnot]
    · cases bCase with
      | true => simp [hvne, hwne]
      | false => simp [hvne, hwne]

theorem equals_iff {feature other : Feature} (h : feature.IsRegular) (hother : other.IsRegular) :
    feature.equals other = true ↔ feature.key = other.key := by
  unfold equals key
  rw [FeatureKey.mk.injEq]
  by_cases htype : feature.nType = other.nType
  · by_cases htag : foldText feature.strTag = foldText other.strTag
    · have hcase : feature.bCaseSensitivity = other.bCaseSensitivity := by
        rw [h.bCaseSensitivity, hother.bCaseSensitivity, htype, htag]
      rw [if_neg (not_not_intro htype), if_neg (not_not_intro htag)]
      have hsplit : ∀ p : Prop, p ↔ (feature.nType = other.nType ∧
          foldText feature.strTag = foldText other.strTag ∧ p) := by
        intro p
        constructor
        · intro hp
          exact ⟨htype, htag, hp⟩
        · rintro ⟨-, -, hp⟩
          exact hp
      rw [← hsplit]
      unfold keyValue
      rw [← htype, ← hcase]
      rcases Classical.em (feature.nType = .boolean) with hboolean | hboolean
      · rw [if_pos hboolean]
        exact equalsBoolean_iff h.strValue hother.strValue hboolean feature.bCaseSensitivity
      · simp only [hboolean, false_and, if_false]
        cases feature.bCaseSensitivity with
        | true => exact decide_eq_true_iff
        | false => exact decide_eq_true_iff
    · rw [if_neg (not_not_intro htype), if_pos htag]
      apply iff_of_false Bool.false_ne_true
      rintro ⟨-, heq, -⟩
      exact htag heq
  · rw [if_pos htype]
    apply iff_of_false Bool.false_ne_true
    rintro ⟨heq, -⟩
    exact htype heq

end Feature

/-! ### Sets of features -/

def CountedFeature.key (counted : CountedFeature) : FeatureKey := counted.feature.key

namespace FeatureSet

variable {set : FeatureSet} {feature : Feature}

def key (set : FeatureSet) : Nat × Chars := foldText set.strTag

/-- The references of a feature. -/
def refs (set : FeatureSet) (k : FeatureKey) : Nat :=
  (KeyedStore.lookup CountedFeature.key set.objFeatures k).elim 0 CountedFeature.nRefCount

/-- Each feature is in the set once, under its tag and with a reference. -/
structure Keeps (set : FeatureSet) : Prop where
  nodup : (set.objFeatures.map CountedFeature.key).Nodup
  regular : ∀ counted ∈ set.objFeatures, counted.feature.IsRegular
  tag : ∀ counted ∈ set.objFeatures, counted.key.tag = set.key
  counted : ∀ counted ∈ set.objFeatures, 0 < counted.nRefCount

theorem Keeps.refs_of_mem (h : set.Keeps) {counted : CountedFeature}
    (hmem : counted ∈ set.objFeatures) : set.refs counted.feature.key = counted.nRefCount := by
  unfold refs
  rw [show KeyedStore.lookup CountedFeature.key set.objFeatures counted.feature.key = some counted
    from (represents_lookup h.nodup).eq_some hmem]
  rfl

theorem Keeps.new (strTag : Chars) : (FeatureSet.new strTag).Keeps where
  nodup := List.nodup_nil
  regular := by
    intro counted hmem
    cases hmem
  tag := by
    intro counted hmem
    cases hmem
  counted := by
    intro counted hmem
    cases hmem

theorem Keeps.equals_iff (h : set.Keeps) (hfeature : feature.IsRegular) :
    ∀ counted ∈ set.objFeatures,
      (counted.feature.equals feature = true ↔ counted.key = feature.key) :=
  fun counted hmem => Feature.equals_iff (h.regular counted hmem) hfeature

theorem Keeps.lookup_eq (h : set.Keeps) (hfeature : feature.IsRegular) :
    set.lookup feature = KeyedStore.lookup CountedFeature.key set.objFeatures feature.key :=
  find?_eq_lookup (h.equals_iff hfeature)

/-- What adding a feature makes of the one found. -/
def added (feature : Feature) (known : Option CountedFeature) : CountedFeature :=
  known.elim ⟨feature, 1⟩ CountedFeature.addReference

theorem key_added {known : Option CountedFeature}
    (hknown : ∀ counted, known = some counted → counted.key = feature.key) :
    (added feature known).key = feature.key := by
  cases known with
  | none => rfl
  | some counted => exact hknown counted rfl

theorem Keeps.add_eq (h : set.Keeps) (hfeature : feature.IsRegular)
    (htag : set.key = foldText feature.strTag) :
    (set.add feature).1 =
        ⟨set.strTag, upsert CountedFeature.key feature.key (added feature) set.objFeatures⟩ ∧
      ((set.add feature).2 = .add ↔ set.refs feature.key = 0) := by
  have hrep := represents_lookup h.nodup
  unfold FeatureSet.add refs
  rw [if_neg (not_not_intro (show foldText set.strTag = _ from htag)), h.lookup_eq hfeature]
  cases hfound : KeyedStore.lookup CountedFeature.key set.objFeatures feature.key with
  | none =>
      dsimp only
      constructor
      · rw [upsert_of_forall_ne (hrep.eq_none_iff.mp hfound)]
        rfl
      · exact iff_of_true rfl rfl
  | some counted =>
      dsimp only
      obtain ⟨hmem, hkey⟩ := (hrep.mem_iff _ _).mp hfound
      constructor
      · have hupdate : updateFirst (fun counted => counted.feature.equals feature)
            CountedFeature.addReference set.objFeatures =
              upsert CountedFeature.key feature.key (added feature) set.objFeatures :=
          updateFirst_eq_upsert (h.equals_iff hfeature) (fun _ => rfl) ⟨counted, hmem, hkey⟩
        rw [hupdate]
      · apply iff_of_false
        · intro hop
          cases hop
        · exact Nat.ne_of_gt (h.counted counted hmem)

theorem Keeps.add (h : set.Keeps) (hfeature : feature.IsRegular)
    (htag : set.key = foldText feature.strTag) : (set.add feature).1.Keeps := by
  have hrep := represents_lookup h.nodup
  rw [(h.add_eq hfeature htag).1]
  have hkey : (added feature (KeyedStore.lookup CountedFeature.key set.objFeatures feature.key)).key =
      feature.key := key_added fun counted hknown => hrep.key_eq hknown
  constructor
  · exact (hrep.upsert hkey).nodup
  · intro counted hmem
    rcases mem_upsert hmem with hmem | rfl | ⟨before, hbefore, -, rfl⟩
    · exact h.regular counted hmem
    · exact hfeature
    · exact h.regular before hbefore
  · intro counted hmem
    rcases mem_upsert hmem with hmem | rfl | ⟨before, hbefore, -, rfl⟩
    · exact h.tag counted hmem
    · exact htag.symm
    · exact h.tag before hbefore
  · intro counted hmem
    rcases mem_upsert hmem with hmem | rfl | ⟨before, hbefore, -, rfl⟩
    · exact h.counted counted hmem
    · exact Nat.one_pos
    · exact Nat.succ_pos _

theorem Keeps.refs_add (h : set.Keeps) (hfeature : feature.IsRegular)
    (htag : set.key = foldText feature.strTag) :
    (set.add feature).1.refs =
      Function.update set.refs feature.key (set.refs feature.key + 1) := by
  have hrep := represents_lookup h.nodup
  have hkey : (added feature (KeyedStore.lookup CountedFeature.key set.objFeatures feature.key)).key =
      feature.key := key_added fun counted hknown => hrep.key_eq hknown
  funext k
  rw [(h.add_eq hfeature htag).1]
  unfold refs
  rw [lookup_upsert h.nodup hkey]
  rcases eq_or_ne k feature.key with rfl | hne
  · rw [Function.update_self, Function.update_self]
    cases KeyedStore.lookup CountedFeature.key set.objFeatures feature.key with
    | none => rfl
    | some counted => rfl
  · rw [Function.update_of_ne hne, Function.update_of_ne hne]

/-- What taking a reference back makes of a feature found. -/
def removed (feature : Feature) (known : Option CountedFeature) : CountedFeature :=
  known.elim ⟨feature, 1⟩ CountedFeature.removeReference

theorem key_removed {known : Option CountedFeature}
    (hknown : ∀ counted, known = some counted → counted.key = feature.key) :
    (removed feature known).key = feature.key := by
  cases known with
  | none => rfl
  | some counted => exact hknown counted rfl

theorem Keeps.remove_eq (h : set.Keeps) (hfeature : feature.IsRegular)
    (htag : set.key = foldText feature.strTag) :
    ((set.remove feature).1 = set ∧ (set.remove feature).2 = .fail ∧
        set.refs feature.key = 0) ∨
      ((set.remove feature).1 = ⟨set.strTag, upsert CountedFeature.key feature.key
          (removed feature) set.objFeatures⟩ ∧
        (set.remove feature).2 = .removeRef ∧ 1 < set.refs feature.key) ∨
      ((set.remove feature).1 =
          ⟨set.strTag, KeyedStore.remove CountedFeature.key feature.key set.objFeatures⟩ ∧
        (set.remove feature).2 = .remove ∧ set.refs feature.key = 1) := by
  have hrep := represents_lookup h.nodup
  unfold FeatureSet.remove refs
  rw [if_neg (not_not_intro (show foldText set.strTag = _ from htag)), h.lookup_eq hfeature]
  cases hfound : KeyedStore.lookup CountedFeature.key set.objFeatures feature.key with
  | none => exact .inl ⟨rfl, rfl, rfl⟩
  | some counted =>
      right
      dsimp only
      obtain ⟨hmem, hkey⟩ := (hrep.mem_iff _ _).mp hfound
      cases hshared : counted.isShared with
      | true =>
          left
          have hupdate : updateFirst (fun counted => counted.feature.equals feature)
              CountedFeature.removeReference set.objFeatures =
                upsert CountedFeature.key feature.key (removed feature) set.objFeatures :=
            updateFirst_eq_upsert (h.equals_iff hfeature) (fun _ => rfl) ⟨counted, hmem, hkey⟩
          rw [if_pos rfl, hupdate]
          exact ⟨rfl, rfl, of_decide_eq_true hshared⟩
      | false =>
          right
          rw [if_neg Bool.false_ne_true, eraseP_eq_remove (h.equals_iff hfeature)]
          refine ⟨rfl, rfl, ?_⟩
          have hpos := h.counted counted hmem
          have hle := of_decide_eq_false hshared
          show counted.nRefCount = 1
          omega

theorem Keeps.remove (h : set.Keeps) (hfeature : feature.IsRegular)
    (htag : set.key = foldText feature.strTag) : (set.remove feature).1.Keeps := by
  have hrep := represents_lookup h.nodup
  rcases h.remove_eq hfeature htag with ⟨heq, -, -⟩ | ⟨heq, -, hshared⟩ | ⟨heq, -, -⟩
  · rw [heq]
    exact h
  · rw [heq]
    have hkey : (removed feature (KeyedStore.lookup CountedFeature.key set.objFeatures
        feature.key)).key = feature.key := key_removed fun counted hknown => hrep.key_eq hknown
    constructor
    · exact (hrep.upsert hkey).nodup
    · intro counted hmem
      rcases mem_upsert hmem with hmem | rfl | ⟨before, hbefore, -, rfl⟩
      · exact h.regular counted hmem
      · exact hfeature
      · exact h.regular before hbefore
    · intro counted hmem
      rcases mem_upsert hmem with hmem | rfl | ⟨before, hbefore, -, rfl⟩
      · exact h.tag counted hmem
      · exact htag.symm
      · exact h.tag before hbefore
    · intro counted hmem
      rcases mem_upsert hmem with hmem | rfl | ⟨before, hbefore, hbeforeKey, rfl⟩
      · exact h.counted counted hmem
      · exact Nat.one_pos
      · have hrefs := h.refs_of_mem hbefore
        rw [show before.feature.key = feature.key from hbeforeKey] at hrefs
        show 0 < before.nRefCount - 1
        omega
  · rw [heq]
    constructor
    · exact (hrep.remove feature.key).nodup
    · intro counted hmem
      exact h.regular counted (hrep.mem_remove.mp hmem).1
    · intro counted hmem
      exact h.tag counted (hrep.mem_remove.mp hmem).1
    · intro counted hmem
      exact h.counted counted (hrep.mem_remove.mp hmem).1

theorem Keeps.refs_remove (h : set.Keeps) (hfeature : feature.IsRegular)
    (htag : set.key = foldText feature.strTag) :
    (set.remove feature).1.refs =
      Function.update set.refs feature.key (set.refs feature.key - 1) := by
  have hrep := represents_lookup h.nodup
  funext k
  rcases h.remove_eq hfeature htag with ⟨heq, -, hzero⟩ | ⟨heq, -, hshared⟩ | ⟨heq, -, hone⟩
  · rw [heq, hzero]
    rcases eq_or_ne k feature.key with rfl | hne
    · rw [Function.update_self]
      exact hzero
    · rw [Function.update_of_ne hne]
  · have hkey : (removed feature (KeyedStore.lookup CountedFeature.key set.objFeatures
        feature.key)).key = feature.key := key_removed fun counted hknown => hrep.key_eq hknown
    rw [heq]
    rcases eq_or_ne k feature.key with rfl | hne
    · rw [Function.update_self]
      unfold refs at hshared ⊢
      rw [lookup_upsert h.nodup hkey, Function.update_self]
      cases hfound : KeyedStore.lookup CountedFeature.key set.objFeatures feature.key with
      | none =>
          rw [hfound] at hshared
          cases hshared
      | some counted => rfl
    · rw [Function.update_of_ne hne]
      unfold refs
      rw [lookup_upsert h.nodup hkey, Function.update_of_ne hne]
  · rw [heq]
    rcases eq_or_ne k feature.key with rfl | hne
    · rw [Function.update_self, hone]
      unfold refs
      rw [lookup_remove h.nodup, Function.update_self]
      rfl
    · rw [Function.update_of_ne hne]
      unfold refs
      rw [lookup_remove h.nodup, Function.update_of_ne hne]

theorem Keeps.remove_iff (h : set.Keeps) (hfeature : feature.IsRegular)
    (htag : set.key = foldText feature.strTag) :
    (set.remove feature).2 = .remove ↔ set.refs feature.key = 1 := by
  rcases h.remove_eq hfeature htag with ⟨-, hop, hrefs⟩ | ⟨-, hop, hrefs⟩ | ⟨-, hop, hrefs⟩
  · rw [hop, hrefs]
    exact iff_of_false FeatureSetOp.noConfusion Nat.zero_ne_one
  · rw [hop]
    exact iff_of_false FeatureSetOp.noConfusion (Nat.ne_of_gt hrefs)
  · exact iff_of_true hop hrefs

end FeatureSet

/-! ### Capabilities -/

namespace CallerCapability

variable {cc : CallerCapability} {strTag : Chars} {feature : Feature}

/-- The references of a feature in the set of its tag. -/
def count (cc : CallerCapability) (k : FeatureKey) : Nat :=
  (KeyedStore.lookup FeatureSet.key cc.objContactFeatures k.tag).elim 0 fun set => set.refs k

def Advertises (cc : CallerCapability) (k : FeatureKey) : Prop :=
  ∃ feature ∈ cc.features, feature.key = k

structure Keeps (cc : CallerCapability) : Prop where
  nodup : (cc.objContactFeatures.map FeatureSet.key).Nodup
  sets : ∀ set ∈ cc.objContactFeatures, set.Keeps

theorem Keeps.new (nId : Nat) : Keeps ⟨nId, []⟩ where
  nodup := List.nodup_nil
  sets := by
    intro set hmem
    cases hmem

theorem Keeps.advertises_iff (h : cc.Keeps) (k : FeatureKey) :
    cc.Advertises k ↔ 0 < cc.count k := by
  have hrep := represents_lookup h.nodup
  unfold Advertises features count
  constructor
  · rintro ⟨feature, hmem, rfl⟩
    obtain ⟨set, hset, hmem⟩ := List.mem_flatMap.mp hmem
    obtain ⟨counted, hcounted, rfl⟩ := List.mem_map.mp hmem
    have hkeeps := h.sets set hset
    have htag : counted.feature.key.tag = set.key := hkeeps.tag counted hcounted
    rw [htag, hrep.eq_some hset]
    show 0 < set.refs counted.feature.key
    rw [hkeeps.refs_of_mem hcounted]
    exact hkeeps.counted counted hcounted
  · intro hpos
    cases hset : KeyedStore.lookup FeatureSet.key cc.objContactFeatures k.tag with
    | none =>
        rw [hset] at hpos
        cases hpos
    | some set =>
        rw [hset] at hpos
        have hmem := ((hrep.mem_iff _ _).mp hset).1
        have hrep' := represents_lookup (h.sets set hmem).nodup
        cases hcounted : KeyedStore.lookup CountedFeature.key set.objFeatures k with
        | none =>
            have hzero : set.refs k = 0 := by
              unfold FeatureSet.refs
              rw [hcounted]
              rfl
            exact absurd hzero (Nat.ne_of_gt hpos)
        | some counted =>
            obtain ⟨hin, hkey⟩ := (hrep'.mem_iff _ _).mp hcounted
            refine ⟨counted.feature, ?_, hkey⟩
            exact List.mem_flatMap.mpr ⟨set, hmem, List.mem_map.mpr ⟨counted, hin, rfl⟩⟩

theorem hasTag_iff (set : FeatureSet) : hasTag strTag set = true ↔ set.key = foldText strTag :=
  decide_eq_true_iff

theorem count_eq_refs (cc : CallerCapability) {k : FeatureKey} (hk : k.tag = foldText strTag) :
    cc.count k = ((KeyedStore.lookup FeatureSet.key cc.objContactFeatures
      (foldText strTag)).getD (FeatureSet.new strTag)).refs k := by
  unfold count
  rw [hk]
  cases KeyedStore.lookup FeatureSet.key cc.objContactFeatures (foldText strTag) with
  | none => rfl
  | some set => rfl

theorem Keeps.found (h : cc.Keeps) (strTag : Chars) :
    let set := (KeyedStore.lookup FeatureSet.key cc.objContactFeatures (foldText strTag)).getD
      (FeatureSet.new strTag)
    set.Keeps ∧ set.key = foldText strTag := by
  dsimp only
  cases hset : KeyedStore.lookup FeatureSet.key cc.objContactFeatures (foldText strTag) with
  | none => exact ⟨.new strTag, rfl⟩
  | some set =>
      obtain ⟨hmem, hkey⟩ := ((represents_lookup h.nodup).mem_iff _ _).mp hset
      exact ⟨h.sets set hmem, hkey⟩

theorem Keeps.addFeature_eq (h : cc.Keeps) (hfeature : feature.IsRegular)
    (htag : foldText strTag = foldText feature.strTag) :
    (cc.addFeature strTag feature).1 =
        ⟨cc.nId, upsert FeatureSet.key (foldText strTag)
          (fun known => ((known.getD (FeatureSet.new strTag)).add feature).1)
          cc.objContactFeatures⟩ ∧
      ((cc.addFeature strTag feature).2 = true ↔ cc.count feature.key = 0) := by
  have hrep := represents_lookup h.nodup
  have hlookup : cc.lookup strTag =
      KeyedStore.lookup FeatureSet.key cc.objContactFeatures (foldText strTag) :=
    find?_eq_lookup fun set _ => hasTag_iff set
  rw [cc.count_eq_refs (show feature.key.tag = foldText strTag from htag.symm)]
  unfold addFeature
  rw [hlookup]
  cases hset : KeyedStore.lookup FeatureSet.key cc.objContactFeatures (foldText strTag) with
  | none =>
      dsimp only
      rw [upsert_of_forall_ne (hrep.eq_none_iff.mp hset)]
      exact ⟨rfl, iff_of_true rfl rfl⟩
  | some set =>
      dsimp only
      obtain ⟨hmem, hkey⟩ := (hrep.mem_iff _ _).mp hset
      constructor
      · have hupdate : updateFirst (hasTag strTag) (fun set => (set.add feature).1)
            cc.objContactFeatures = upsert FeatureSet.key (foldText strTag)
              (fun known => ((known.getD (FeatureSet.new strTag)).add feature).1)
              cc.objContactFeatures :=
          updateFirst_eq_upsert (fun set _ => hasTag_iff set) (fun _ => rfl) ⟨set, hmem, hkey⟩
        rw [hupdate]
      · rw [decide_eq_true_iff]
        exact ((h.sets set hmem).add_eq hfeature (hkey.trans htag)).2

theorem Keeps.addFeature (h : cc.Keeps) (hfeature : feature.IsRegular)
    (htag : foldText strTag = foldText feature.strTag) : (cc.addFeature strTag feature).1.Keeps := by
  have hrep := represents_lookup h.nodup
  obtain ⟨hfound, hkey⟩ := h.found strTag
  rw [(h.addFeature_eq hfeature htag).1]
  constructor
  · have hadded := (hfound.add_eq hfeature (hkey.trans htag)).1
    refine (hrep.upsert ?_).nodup
    rw [hadded]
    exact hkey
  · intro set hmem
    rcases mem_upsert hmem with hmem | rfl | ⟨before, hbefore, hbeforeKey, rfl⟩
    · exact h.sets set hmem
    · exact (FeatureSet.Keeps.new strTag).add hfeature htag
    · exact (h.sets before hbefore).add hfeature (hbeforeKey.trans htag)

/-- A set of its own for each tag: what is done with one leaves the others alone. -/
theorem count_upsert (h : cc.Keeps) {g : Option FeatureSet → FeatureSet}
    (hg : (g (KeyedStore.lookup FeatureSet.key cc.objContactFeatures (foldText strTag))).key =
      foldText strTag) (k : FeatureKey) :
    count ⟨cc.nId, upsert FeatureSet.key (foldText strTag) g cc.objContactFeatures⟩ k =
      if k.tag = foldText strTag then
        (g (KeyedStore.lookup FeatureSet.key cc.objContactFeatures (foldText strTag))).refs k
      else cc.count k := by
  unfold count
  dsimp only
  rw [lookup_upsert h.nodup hg]
  split
  · rename_i hk
    rw [hk, Function.update_self]
    rfl
  · rename_i hk
    rw [Function.update_of_ne hk]

theorem Keeps.count_addFeature (h : cc.Keeps) (hfeature : feature.IsRegular)
    (htag : foldText strTag = foldText feature.strTag) :
    (cc.addFeature strTag feature).1.count =
      Function.update cc.count feature.key (cc.count feature.key + 1) := by
  obtain ⟨hfound, hkey⟩ := h.found strTag
  have hadded := (hfound.add_eq hfeature (hkey.trans htag)).1
  have hfeatureTag : feature.key.tag = foldText strTag := htag.symm
  funext k
  rw [(h.addFeature_eq hfeature htag).1, count_upsert h (by rw [hadded]; exact hkey),
    hfound.refs_add hfeature (hkey.trans htag)]
  rcases eq_or_ne k feature.key with rfl | hne
  · rw [if_pos hfeatureTag, Function.update_self, Function.update_self,
      cc.count_eq_refs hfeatureTag]
  · rw [Function.update_of_ne hne, Function.update_of_ne hne]
    split
    · rename_i hk
      exact (cc.count_eq_refs hk).symm
    · rfl

theorem Keeps.removeFeature_eq (h : cc.Keeps) (hfeature : feature.IsRegular)
    (htag : foldText strTag = foldText feature.strTag) :
    ((cc.removeFeature strTag feature).1 = cc ∧ cc.count feature.key = 0 ∧
        (cc.removeFeature strTag feature).2 = false) ∨
      ((cc.removeFeature strTag feature).1 =
          ⟨cc.nId, KeyedStore.remove FeatureSet.key (foldText strTag) cc.objContactFeatures⟩ ∧
        cc.count feature.key = 1 ∧ (cc.removeFeature strTag feature).2 = true ∧
        ∀ k : FeatureKey, k.tag = foldText strTag → k ≠ feature.key → cc.count k = 0) ∨
      ((cc.removeFeature strTag feature).1 =
          ⟨cc.nId, upsert FeatureSet.key (foldText strTag)
            (fun known => ((known.getD (FeatureSet.new strTag)).remove feature).1)
            cc.objContactFeatures⟩ ∧
        ((cc.removeFeature strTag feature).2 = true ↔ cc.count feature.key = 1)) := by
  have hrep := represents_lookup h.nodup
  have hlookup : cc.lookup strTag =
      KeyedStore.lookup FeatureSet.key cc.objContactFeatures (foldText strTag) :=
    find?_eq_lookup fun set _ => hasTag_iff set
  have hcount := cc.count_eq_refs (show feature.key.tag = foldText strTag from htag.symm)
  have hothers : ∀ k : FeatureKey, k.tag = foldText strTag → cc.count k = _ :=
    fun k hk => cc.count_eq_refs hk
  unfold CallerCapability.removeFeature
  rw [hlookup, hcount]
  cases hset : KeyedStore.lookup FeatureSet.key cc.objContactFeatures (foldText strTag) with
  | none => exact .inl ⟨rfl, rfl, rfl⟩
  | some set =>
      right
      dsimp only
      obtain ⟨hmem, hkey⟩ := (hrep.mem_iff _ _).mp hset
      have hkeeps := h.sets set hmem
      have hremove := hkeeps.remove_iff hfeature (hkey.trans htag)
      have hrefs := hkeeps.refs_remove hfeature (hkey.trans htag)
      split
      · rename_i hempty
        left
        rw [eraseP_eq_remove fun set _ => hasTag_iff set]
        refine ⟨rfl, hremove.mp hempty.1, rfl, ?_⟩
        intro k hk hne
        rw [hothers k hk, hset]
        have hafter : (set.remove feature).1.refs k = 0 := by
          unfold FeatureSet.refs
          rw [hempty.2]
          rfl
        rw [hrefs, Function.update_of_ne hne] at hafter
        exact hafter
      · right
        have hupdate : updateFirst (hasTag strTag) (fun set => (set.remove feature).1)
            cc.objContactFeatures = upsert FeatureSet.key (foldText strTag)
              (fun known => ((known.getD (FeatureSet.new strTag)).remove feature).1)
              cc.objContactFeatures :=
          updateFirst_eq_upsert (fun set _ => hasTag_iff set) (fun _ => rfl) ⟨set, hmem, hkey⟩
        rw [hupdate]
        refine ⟨rfl, ?_⟩
        rw [decide_eq_true_iff]
        exact hremove

theorem key_remove {set : FeatureSet} (h : set.Keeps) (hfeature : feature.IsRegular)
    (htag : set.key = foldText feature.strTag) : (set.remove feature).1.key = set.key := by
  rcases h.remove_eq hfeature htag with ⟨heq, -, -⟩ | ⟨heq, -, -⟩ | ⟨heq, -, -⟩
  · rw [heq]
  · rw [heq]
    rfl
  · rw [heq]
    rfl

theorem Keeps.removeFeature (h : cc.Keeps) (hfeature : feature.IsRegular)
    (htag : foldText strTag = foldText feature.strTag) :
    (cc.removeFeature strTag feature).1.Keeps := by
  have hrep := represents_lookup h.nodup
  obtain ⟨hfound, hkey⟩ := h.found strTag
  rcases h.removeFeature_eq hfeature htag with ⟨heq, -⟩ | ⟨heq, -⟩ | ⟨heq, -⟩
  · rw [heq]
    exact h
  · rw [heq]
    constructor
    · exact (hrep.remove _).nodup
    · intro set hmem
      exact h.sets set (hrep.mem_remove.mp hmem).1
  · rw [heq]
    constructor
    · refine (hrep.upsert ?_).nodup
      exact (key_remove hfound hfeature (hkey.trans htag)).trans hkey
    · intro set hmem
      rcases mem_upsert hmem with hmem | rfl | ⟨before, hbefore, hbeforeKey, rfl⟩
      · exact h.sets set hmem
      · exact (FeatureSet.Keeps.new strTag).remove hfeature htag
      · exact (h.sets before hbefore).remove hfeature (hbeforeKey.trans htag)

theorem Keeps.count_removeFeature (h : cc.Keeps) (hfeature : feature.IsRegular)
    (htag : foldText strTag = foldText feature.strTag) :
    (cc.removeFeature strTag feature).1.count =
      Function.update cc.count feature.key (cc.count feature.key - 1) := by
  obtain ⟨hfound, hkey⟩ := h.found strTag
  have hfeatureTag : feature.key.tag = foldText strTag := htag.symm
  funext k
  rcases h.removeFeature_eq hfeature htag with ⟨heq, hzero, -⟩ | ⟨heq, hone, -, hothers⟩ | ⟨heq, -⟩
  · rw [heq, hzero]
    rcases eq_or_ne k feature.key with rfl | hne
    · rw [Function.update_self]
      exact hzero
    · rw [Function.update_of_ne hne]
  · have hafter : (cc.removeFeature strTag feature).1.count k =
        if k.tag = foldText strTag then 0 else cc.count k := by
      rw [heq]
      unfold count
      dsimp only
      rw [lookup_remove h.nodup]
      split
      · rename_i hk
        rw [hk, Function.update_self]
        rfl
      · rename_i hk
        rw [Function.update_of_ne hk]
    rw [hafter]
    rcases eq_or_ne k feature.key with rfl | hne
    · rw [if_pos hfeatureTag, Function.update_self, hone]
    · rw [Function.update_of_ne hne]
      split
      · rename_i hk
        exact (hothers k hk hne).symm
      · rfl
  · have hremoved := (key_remove hfound hfeature (hkey.trans htag)).trans hkey
    rw [heq, count_upsert h hremoved, hfound.refs_remove hfeature (hkey.trans htag)]
    rcases eq_or_ne k feature.key with rfl | hne
    · rw [if_pos hfeatureTag, Function.update_self, Function.update_self,
        cc.count_eq_refs hfeatureTag]
    · rw [Function.update_of_ne hne, Function.update_of_ne hne]
      split
      · rename_i hk
        exact (cc.count_eq_refs hk).symm
      · rfl

theorem Keeps.removeFeature_iff (h : cc.Keeps) (hfeature : feature.IsRegular)
    (htag : foldText strTag = foldText feature.strTag) :
    (cc.removeFeature strTag feature).2 = true ↔ cc.count feature.key = 1 := by
  rcases h.removeFeature_eq hfeature htag with ⟨-, hzero, hflag⟩ | ⟨-, hone, hflag, -⟩ | ⟨-, hiff⟩
  · rw [hflag, hzero]
    exact iff_of_false Bool.false_ne_true Nat.zero_ne_one
  · exact iff_of_true hflag hone
  · exact hiff

end CallerCapability

/-- A feature that is the same when it is made again of its tag and value. -/
structure Feature.IsStable (feature : Feature) : Prop where
  regular : feature.again.IsRegular
  key : feature.again.key = feature.key

namespace CallerCapability

open Tally

variable {cc pCc : CallerCapability}

theorem adds_again {feature : Feature} (h : feature.IsStable) :
    Adds Keeps count Feature.key (fun cc feature => cc.addFeature feature.strTag feature.again)
      feature := by
  have htag : foldText feature.strTag = foldText feature.again.strTag :=
    (congrArg FeatureKey.tag h.key).symm
  constructor
  · intro cc hcc
    exact hcc.addFeature h.regular htag
  · intro cc hcc
    rw [hcc.count_addFeature h.regular htag, h.key]
  · intro cc hcc
    rw [(hcc.addFeature_eq h.regular htag).2, h.key]

theorem removes_again {feature : Feature} (h : feature.IsStable) :
    Removes Keeps count Feature.key
      (fun cc feature => cc.removeFeature feature.strTag feature.again) feature := by
  have htag : foldText feature.strTag = foldText feature.again.strTag :=
    (congrArg FeatureKey.tag h.key).symm
  constructor
  · intro cc hcc
    exact hcc.removeFeature h.regular htag
  · intro cc hcc
    rw [hcc.count_removeFeature h.regular htag, h.key]
  · intro cc hcc
    rw [hcc.removeFeature_iff h.regular htag, h.key]

def keys (cc : CallerCapability) : List FeatureKey := cc.features.map Feature.key

/-- The features of the two that are advertised are not the same. -/
def Differs (cc after : CallerCapability) : Prop :=
  ∃ k, ¬(cc.Advertises k ↔ after.Advertises k)

theorem Keeps.addFeatures (h : cc.Keeps) (hstable : ∀ feature ∈ pCc.features, feature.IsStable) :
    (cc.addFeatures pCc).1.Keeps ∧
      (∀ k, (cc.addFeatures pCc).1.count k = cc.count k + pCc.keys.count k) ∧
      ((cc.addFeatures pCc).2 = true ↔ cc.Differs (cc.addFeatures pCc).1) := by
  have hadds : ∀ feature ∈ pCc.features, Adds Keeps count Feature.key
      (fun cc feature => cc.addFeature feature.strTag feature.again) feature :=
    fun feature hmem => adds_again (hstable feature hmem)
  have hkeeps : (cc.addFeatures pCc).1.Keeps := runAll_keeps (fun i hi => (hadds i hi).keeps) h
  have hcount : ∀ k, (cc.addFeatures pCc).1.count k = cc.count k + pCc.keys.count k :=
    count_runAll_adds hadds h
  refine ⟨hkeeps, hcount, (told_runAll_adds hadds h).trans ?_⟩
  unfold Differs
  apply exists_congr
  intro k
  rw [h.advertises_iff, hkeeps.advertises_iff, hcount]
  show (_ ∧ 0 < (cc.addFeatures pCc).1.count k) ↔ _
  rw [hcount]
  omega

theorem Keeps.removeFeatures (h : cc.Keeps)
    (hstable : ∀ feature ∈ pCc.features, feature.IsStable) :
    (cc.removeFeatures pCc).1.Keeps ∧
      (∀ k, (cc.removeFeatures pCc).1.count k = cc.count k - pCc.keys.count k) ∧
      ((cc.removeFeatures pCc).2 = true ↔ cc.Differs (cc.removeFeatures pCc).1) := by
  have hremoves : ∀ feature ∈ pCc.features, Removes Keeps count Feature.key
      (fun cc feature => cc.removeFeature feature.strTag feature.again) feature :=
    fun feature hmem => removes_again (hstable feature hmem)
  have hkeeps : (cc.removeFeatures pCc).1.Keeps :=
    runAll_keeps (fun i hi => (hremoves i hi).keeps) h
  have hcount : ∀ k, (cc.removeFeatures pCc).1.count k = cc.count k - pCc.keys.count k :=
    count_runAll_removes hremoves h
  refine ⟨hkeeps, hcount, (told_runAll_removes hremoves h).trans ?_⟩
  unfold Differs
  apply exists_congr
  intro k
  rw [h.advertises_iff, hkeeps.advertises_iff, hcount]
  show (_ ∧ (cc.removeFeatures pCc).1.count k = 0) ↔ _
  rw [hcount]
  omega

end CallerCapability

/-! ### Services -/

/-- A tag and a value that make a stable feature under this very tag. -/
structure IsPlain (given : Chars × Chars) : Prop where
  regular : (Feature.new given.1 given.2).IsRegular
  tag : foldText given.1 = foldText (Feature.new given.1 given.2).strTag
  stable : (Feature.new given.1 given.2).IsStable

/-- The features that a service is given. -/
def givenKeys (given : List (Chars × Chars)) : List FeatureKey :=
  given.map fun tagAndValue => (Feature.new tagAndValue.1 tagAndValue.2).key

namespace FeatureSet

theorem Keeps.mem_add {set : FeatureSet} {feature : Feature} (h : set.Keeps)
    (hfeature : feature.IsRegular) (htag : set.key = foldText feature.strTag)
    {counted : CountedFeature} (hmem : counted ∈ (set.add feature).1.objFeatures) :
    counted.feature = feature ∨ ∃ before ∈ set.objFeatures, counted.feature = before.feature := by
  rw [(h.add_eq hfeature htag).1] at hmem
  rcases mem_upsert hmem with hmem | rfl | ⟨before, hbefore, -, rfl⟩
  · exact .inr ⟨counted, hmem, rfl⟩
  · exact .inl rfl
  · exact .inr ⟨before, hbefore, rfl⟩

end FeatureSet

namespace CallerCapability

open Tally

theorem Keeps.mem_features_addFeature {cc : CallerCapability} {strTag : Chars} {feature : Feature}
    (h : cc.Keeps) (hfeature : feature.IsRegular)
    (htag : foldText strTag = foldText feature.strTag) {other : Feature}
    (hmem : other ∈ (cc.addFeature strTag feature).1.features) :
    other = feature ∨ other ∈ cc.features := by
  rw [(h.addFeature_eq hfeature htag).1] at hmem
  obtain ⟨set, hset, hmem⟩ := List.mem_flatMap.mp hmem
  obtain ⟨counted, hcounted, rfl⟩ := List.mem_map.mp hmem
  rcases mem_upsert hset with hset | rfl | ⟨before, hbefore, hkey, rfl⟩
  · exact .inr (List.mem_flatMap.mpr ⟨set, hset, hmem⟩)
  · rcases (FeatureSet.Keeps.new strTag).mem_add hfeature htag hcounted with heq | ⟨_, hnone, -⟩
    · exact .inl heq
    · cases hnone
  · rcases (h.sets before hbefore).mem_add hfeature (hkey.trans htag) hcounted with
      heq | ⟨counted', hcounted', heq⟩
    · exact .inl heq
    · right
      rw [heq]
      exact List.mem_flatMap.mpr ⟨before, hbefore, List.mem_map.mpr ⟨counted', hcounted', rfl⟩⟩

theorem adds_given {given : Chars × Chars} (h : IsPlain given) :
    Adds Keeps count (fun given : Chars × Chars => (Feature.new given.1 given.2).key)
      (fun cc given => cc.addFeature given.1 (Feature.new given.1 given.2)) given where
  keeps _ hcc := hcc.addFeature h.regular h.tag
  counts _ hcc := hcc.count_addFeature h.regular h.tag
  tells _ hcc := (hcc.addFeature_eq h.regular h.tag).2

theorem stable_foldl_addFeature {given : List (Chars × Chars)} {cc : CallerCapability}
    (h : cc.Keeps) (hplain : ∀ tagAndValue ∈ given, IsPlain tagAndValue)
    (hstable : ∀ feature ∈ cc.features, feature.IsStable) :
    ∀ feature ∈ (given.foldl (fun cc tagAndValue => (cc.addFeature tagAndValue.1
      (Feature.new tagAndValue.1 tagAndValue.2)).1) cc).features, feature.IsStable := by
  induction given generalizing cc with
  | nil => exact hstable
  | cons first rest ih =>
      have hfirst := hplain first List.mem_cons_self
      apply ih
      · exact h.addFeature hfirst.regular hfirst.tag
      · intro tagAndValue hmem
        exact hplain tagAndValue (List.mem_cons_of_mem first hmem)
      · intro feature hmem
        rcases h.mem_features_addFeature hfirst.regular hfirst.tag hmem with rfl | hmem
        · exact hfirst.stable
        · exact hstable feature hmem

theorem create_spec (nId : Nat) {given : List (Chars × Chars)}
    (hplain : ∀ tagAndValue ∈ given, IsPlain tagAndValue) :
    (∀ feature ∈ (create nId given).features, feature.IsStable) ∧
      ∀ k, k ∈ (create nId given).keys ↔ k ∈ givenKeys given := by
  have hadds : ∀ tagAndValue ∈ given, Adds Keeps count _ _ tagAndValue :=
    fun tagAndValue hmem => adds_given (hplain tagAndValue hmem)
  have hcreate : create nId given = (runAll (fun cc tagAndValue =>
      addFeature cc tagAndValue.1 (Feature.new tagAndValue.1 tagAndValue.2)) ⟨nId, []⟩ given).1 :=
    (fst_runAll _ _).symm
  have hkeeps : (create nId given).Keeps := by
    rw [hcreate]
    exact runAll_keeps (fun i hi => (hadds i hi).keeps) (.new nId)
  constructor
  · apply stable_foldl_addFeature (.new nId) hplain
    intro feature hmem
    cases hmem
  · intro k
    have hcount : (create nId given).count k = (givenKeys given).count k := by
      rw [hcreate]
      have hsum := count_runAll_adds hadds (Keeps.new nId) k
      rw [show count ⟨nId, []⟩ k = 0 from rfl, Nat.zero_add] at hsum
      exact hsum
    have hadvertises : k ∈ (create nId given).keys ↔ (create nId given).Advertises k :=
      List.mem_map
    rw [hadvertises, hkeeps.advertises_iff, hcount, List.count_pos_iff]

end CallerCapability

/-! ### Runs -/

/-- A contact, and the services added and not since removed, as often as they were added. -/
structure ServiceRun where
  contact : RegContact
  bound : List Nat

inductive ServiceCall where
  | addService (id : Nat)
  | removeService (id : Nat)
  | bindingsUpdated

namespace ServiceRun

variable (given : Nat → List (Chars × Chars))

def capability (id : Nat) : CallerCapability := CallerCapability.create id (given id)

def next (r : ServiceRun) : ServiceCall → ServiceRun
  | .addService id => ⟨r.contact.addService (some (capability given id)), id :: r.bound⟩
  | .removeService id =>
      ⟨r.contact.removeService (some (capability given id)), r.bound.filter (· ≠ id)⟩
  | .bindingsUpdated => ⟨{ r.contact with bBindingsUpdateTracker := false }, r.bound⟩

def calls : System ServiceRun ServiceCall where
  Init r := r = ⟨.new, []⟩
  Step r call r' := r' = r.next given call

/-- Services with plain features are added, and one that is removed was added once. -/
def Allowed (r : ServiceRun) : ServiceCall → Prop
  | .addService id => ∀ tagAndValue ∈ given id, IsPlain tagAndValue
  | .removeService id => r.bound.count id = 1
  | .bindingsUpdated => True

/-- The features advertised are those of the bound services. -/
def Follows (r : ServiceRun) : Prop :=
  ∀ k, r.contact.pAllCapabilities.Advertises k ↔ ∃ id ∈ r.bound, k ∈ givenKeys (given id)

/-- A call that adds or removes a service raises the indication exactly for a change. -/
def Indicates (r : ServiceRun) (call : ServiceCall) : Prop :=
  call ≠ .bindingsUpdated → r.contact.bBindingsUpdateTracker = false →
    ((r.next given call).contact.bBindingsUpdateTracker = true ↔
      r.contact.pAllCapabilities.Differs (r.next given call).contact.pAllCapabilities)

structure Consistent (r : ServiceRun) : Prop where
  keeps : r.contact.pAllCapabilities.Keeps
  plain : ∀ id ∈ r.bound, ∀ tagAndValue ∈ given id, IsPlain tagAndValue
  counts : ∀ k, r.contact.pAllCapabilities.count k =
    (r.bound.flatMap fun id => (capability given id).keys).count k

variable {given}

theorem Consistent.follows {r : ServiceRun} (h : r.Consistent given) : r.Follows given := by
  intro k
  rw [h.keeps.advertises_iff, h.counts, List.count_pos_iff, List.mem_flatMap]
  constructor
  · rintro ⟨id, hid, hk⟩
    exact ⟨id, hid, ((CallerCapability.create_spec id (h.plain id hid)).2 k).mp hk⟩
  · rintro ⟨id, hid, hk⟩
    exact ⟨id, hid, ((CallerCapability.create_spec id (h.plain id hid)).2 k).mpr hk⟩

theorem perm_of_count_eq_one {bound : List Nat} {id : Nat} (h : bound.count id = 1) :
    bound.Perm (id :: bound.filter (· ≠ id)) := by
  have hperm := List.filter_append_perm (fun other => decide (other = id)) bound
  have hone : bound.filter (fun other => decide (other = id)) = [id] := by
    have hreplicate := List.filter_eq (l := bound) id
    rw [h] at hreplicate
    exact hreplicate
  rw [hone] at hperm
  refine hperm.symm.trans (List.Perm.of_eq ?_)
  show id :: _ = id :: _
  congr 1
  apply List.filter_congr
  intro other _
  simp

theorem Consistent.next {r : ServiceRun} (h : r.Consistent given) {call : ServiceCall}
    (hallowed : r.Allowed given call) :
    (r.next given call).Consistent given ∧ r.Indicates given call := by
  cases call with
  | addService id =>
      have hstable := (CallerCapability.create_spec id hallowed).1
      obtain ⟨hkeeps, hcount, htold⟩ := h.keeps.addFeatures hstable
      refine ⟨⟨hkeeps, ?_, ?_⟩, ?_⟩
      · intro other hmem
        rcases List.mem_cons.mp hmem with rfl | hmem
        · exact hallowed
        · exact h.plain other hmem
      · intro k
        show ((r.contact.pAllCapabilities.addFeatures (capability given id)).1).count k = _
        rw [show (r.next given (.addService id)).bound = id :: r.bound from rfl,
          List.flatMap_cons, List.count_append, Nat.add_comm, ← h.counts]
        exact hcount k
      · intro _ htracker
        show (r.contact.bBindingsUpdateTracker || _) = true ↔ _
        rw [htracker, Bool.false_or]
        exact htold
  | removeService id =>
      have hmem : id ∈ r.bound := List.count_pos_iff.mp (by rw [hallowed]; exact Nat.one_pos)
      have hstable := (CallerCapability.create_spec id (h.plain id hmem)).1
      obtain ⟨hkeeps, hcount, htold⟩ := h.keeps.removeFeatures hstable
      refine ⟨⟨hkeeps, ?_, ?_⟩, ?_⟩
      · intro other hmem
        exact h.plain other (List.mem_filter.mp hmem).1
      · intro k
        have hsum := (((perm_of_count_eq_one hallowed).flatMap_right
          fun id => (capability given id).keys).count_eq k)
        rw [List.flatMap_cons, List.count_append] at hsum
        show ((r.contact.pAllCapabilities.removeFeatures (capability given id)).1).count k = _
        rw [show ((r.contact.pAllCapabilities.removeFeatures (capability given id)).1).count k = _
          from hcount k, h.counts, hsum]
        exact Nat.add_sub_cancel_left _ _
      · intro _ htracker
        show (r.contact.bBindingsUpdateTracker || _) = true ↔ _
        rw [htracker, Bool.false_or]
        exact htold
  | bindingsUpdated => exact ⟨⟨h.keeps, h.plain, h.counts⟩, fun hne => absurd rfl hne⟩

end ServiceRun

/-- A capability, and for each feature the additions not yet undone. -/
structure CapabilityRun where
  cc : CallerCapability
  additions : FeatureKey → Nat

inductive CapabilityCall where
  | addFeatures (pCc : CallerCapability)
  | removeFeatures (pCc : CallerCapability)

namespace CapabilityRun

/-- The call with what it returns. -/
def returned (r : CapabilityRun) : CapabilityCall → CallerCapability × Bool
  | .addFeatures pCc => r.cc.addFeatures pCc
  | .removeFeatures pCc => r.cc.removeFeatures pCc

def next (r : CapabilityRun) (call : CapabilityCall) : CapabilityRun where
  cc := (r.returned call).1
  additions k :=
    match call with
    | .addFeatures pCc => r.additions k + pCc.keys.count k
    | .removeFeatures pCc => r.additions k - pCc.keys.count k

def calls : System CapabilityRun CapabilityCall where
  Init r := ∃ nId, r = ⟨⟨nId, []⟩, fun _ => 0⟩
  Step r call r' := r' = r.next call

def Allowed : CapabilityCall → Prop
  | .addFeatures pCc => ∀ feature ∈ pCc.features, feature.IsStable
  | .removeFeatures pCc => ∀ feature ∈ pCc.features, feature.IsStable

/-- What is advertised is what has additions left. -/
def Follows (r : CapabilityRun) : Prop := ∀ k, r.cc.Advertises k ↔ 0 < r.additions k

def Consistent (r : CapabilityRun) : Prop := r.cc.Keeps ∧ ∀ k, r.cc.count k = r.additions k

theorem Consistent.follows {r : CapabilityRun} (h : r.Consistent) : r.Follows := by
  intro k
  rw [h.1.advertises_iff, h.2]

theorem Consistent.next {r : CapabilityRun} (h : r.Consistent) {call : CapabilityCall}
    (hallowed : Allowed call) : (r.next call).Consistent ∧
      ((r.returned call).2 = true ↔ r.cc.Differs (r.next call).cc) := by
  cases call with
  | addFeatures pCc =>
      obtain ⟨hkeeps, hcount, htold⟩ := h.1.addFeatures hallowed
      refine ⟨⟨hkeeps, fun k => ?_⟩, htold⟩
      exact (hcount k).trans (congrArg (· + _) (h.2 k))
  | removeFeatures pCc =>
      obtain ⟨hkeeps, hcount, htold⟩ := h.1.removeFeatures hallowed
      refine ⟨⟨hkeeps, fun k => ?_⟩, htold⟩
      exact (hcount k).trans (congrArg (· - _) (h.2 k))

end CapabilityRun

/-- In every run of calls that are allowed the contact advertises the features of the bound
services and indicates their changes; and a capability advertises what has been added and not
been undone, and returns whether that has changed. -/
theorem capabilities_followServices (given : Nat → List (Chars × Chars)) :
    (∀ r : ServiceRun,
      ((ServiceRun.calls given).restrict (ServiceRun.Allowed given)).Reachable r →
        r.Follows given ∧ ∀ call, r.Allowed given call → r.Indicates given call) ∧
      ∀ r : CapabilityRun,
        (CapabilityRun.calls.restrict fun _ call => CapabilityRun.Allowed call).Reachable r →
          r.Follows ∧ ∀ call, CapabilityRun.Allowed call →
            ((r.returned call).2 = true ↔ r.cc.Differs (r.next call).cc) := by
  constructor
  · intro r hr
    have h : r.Consistent given := by
      apply System.Reachable.restrict_invariant (I := fun r => r.Consistent given) _ _ hr
      · rintro r rfl
        refine ⟨.new _, ?_, fun k => rfl⟩
        intro id hmem
        cases hmem
      · rintro r call r' hconsistent hallowed rfl
        exact (hconsistent.next hallowed).1
    exact ⟨h.follows, fun call hallowed => (h.next hallowed).2⟩
  · intro r hr
    have h : r.Consistent := by
      apply System.Reachable.restrict_invariant (I := CapabilityRun.Consistent) _ _ hr
      · rintro r ⟨nId, rfl⟩
        exact ⟨.new nId, fun k => rfl⟩
      · rintro r call r' hconsistent hallowed rfl
        exact (hconsistent.next hallowed).1
    exact ⟨h.follows, fun call hallowed => (h.next hallowed).2⟩

/-- Two services with a feature in common. -/
def sharingServices (id : Nat) : List (Chars × Chars) :=
  if id = 0 then [("audio".toList, []), ("video".toList, [])]
  else [("audio".toList, []), ("events".toList, "conference".toList)]

theorem isPlain_sharingServices {id : Nat} :
    ∀ tagAndValue ∈ sharingServices id, IsPlain tagAndValue := by
  have hall : ∀ tagAndValue ∈ [("audio".toList, []), ("video".toList, []),
      ("events".toList, "conference".toList)], IsPlain tagAndValue := by
    intro tagAndValue hmem
    simp only [List.mem_cons, List.not_mem_nil, or_false] at hmem
    rcases hmem with rfl | rfl | rfl <;>
      exact ⟨⟨by decide, by decide⟩, by decide, ⟨⟨by decide, by decide⟩, by decide⟩⟩
  intro tagAndValue hmem
  apply hall
  unfold sharingServices at hmem
  split at hmem
  · rcases List.mem_cons.mp hmem with rfl | hmem
    · exact List.mem_cons_self
    · obtain rfl := List.mem_singleton.mp hmem
      exact .tail _ (.head _)
  · rcases List.mem_cons.mp hmem with rfl | hmem
    · exact List.mem_cons_self
    · obtain rfl := List.mem_singleton.mp hmem
      exact .tail _ (.tail _ (.head _))

/-- The first service is removed again, and its common feature stays. -/
theorem capabilities_followServices_shared :
    ∃ r : ServiceRun, r.bound = [1] ∧ r.Follows sharingServices := by
  let start : ServiceRun := ⟨.new, []⟩
  let first := start.next sharingServices (.addService 0)
  let second := first.next sharingServices (.addService 1)
  let last := second.next sharingServices (.removeService 0)
  have hlast : ((ServiceRun.calls sharingServices).restrict
      (ServiceRun.Allowed sharingServices)).Reachable last := by
    refine .step (.removeService 0) (.step (.addService 1) (.step (.addService 0) (.init rfl)
      ⟨isPlain_sharingServices, rfl⟩) ⟨isPlain_sharingServices, rfl⟩) ⟨?_, rfl⟩
    show List.count 0 [1, 0] = 1
    decide
  exact ⟨last, by decide, ((capabilities_followServices sharingServices).1 last hlast).1⟩

/-- A service that is added twice leaves its features behind when it is removed; and a feature
that is given with its prefix is not advertised. -/
theorem capabilities_notFollowServices :
    (∃ (given : Nat → List (Chars × Chars)) (r : ServiceRun),
      (ServiceRun.calls given).Reachable r ∧ r.bound = [] ∧ ¬r.Follows given) ∧
      ∃ (given : Nat → List (Chars × Chars)) (r : ServiceRun),
        (ServiceRun.calls given).Reachable r ∧ r.bound = [0] ∧ ¬r.Follows given := by
  constructor
  · let given : Nat → List (Chars × Chars) := fun _ => [("audio".toList, [])]
    let start : ServiceRun := ⟨.new, []⟩
    let last := ((start.next given (.addService 0)).next given (.addService 0)).next given
      (.removeService 0)
    refine ⟨given, last, .step (.removeService 0) (.step (.addService 0) (.step (.addService 0)
      (.init rfl) rfl) rfl) rfl, by decide, ?_⟩
    intro hfollows
    have hkeys : last.contact.pAllCapabilities.features.map Feature.key =
        [(Feature.new "audio".toList []).key] := by decide
    have hadvertised : last.contact.pAllCapabilities.Advertises
        (Feature.new "audio".toList []).key := by
      apply List.mem_map.mp
      rw [hkeys]
      exact List.mem_singleton_self _
    obtain ⟨id, hid, -⟩ := (hfollows _).mp hadvertised
    have hnone : last.bound = [] := by decide
    rw [hnone] at hid
    cases hid
  · let given : Nat → List (Chars × Chars) := fun _ => [("sip.audio".toList, [])]
    let start : ServiceRun := ⟨.new, []⟩
    let last := start.next given (.addService 0)
    refine ⟨given, last, .step (.addService 0) (.init rfl) rfl, by decide, ?_⟩
    intro hfollows
    have hfeatures : last.contact.pAllCapabilities.features = [] := by decide
    obtain ⟨feature, hmem, -⟩ := (hfollows (Feature.new "sip.audio".toList []).key).mpr
      ⟨0, List.mem_singleton_self 0, List.mem_singleton_self _⟩
    rw [hfeatures] at hmem
    cases hmem

end ImsStack.Capability
