import ImsStack.Media.AudioFmtpRoundTrip
import Mathlib.Tactic.ByContra
import Mathlib.Tactic.SplitIfs

/-!
The parameters of a format in another order.

A parameter is a setting of the format.  The number of a name that stands twice is that of the last
one, and the mode switch sets all modes only before the first set of modes; every other setting
changes the format in the same way wherever it stands.
-/

namespace ImsStack.Media.AudioFmtpText

open ImsStack.Platform ImsStack.Platform.AString ImsStack.Platform.Numerals
  ImsStack.Platform.Tokens
open AudioProfile

/-! ### Parameters as settings -/

/-- The parameters that are numbers. -/
inductive Number
  | modeChangeCapability | modeChangePeriod | modeChangeNeighbor | maxRed | octetAlign | dtx
  | hfOnly | evsModeSwitch | cmr | chAwRecv
deriving DecidableEq

/-- The parameters that are rates or bandwidths. -/
inductive RateList
  | br | bw | brSend | brRecv | bwSend | bwRecv
deriving DecidableEq

inductive Kind
  | modes
  | number (k : Number)
  | rates (r : RateList)
deriving DecidableEq

inductive Setting
  | modes (bits : BitVec 32)
  | number (k : Number) (n : Int)
  | rates (r : RateList) (bits : BitVec 32)

def kindOfAudio (strName : Chars) : Option Kind :=
  if equalsLiteral strName "mode-set" then some .modes
  else if equalsLiteral strName "mode-change-capability" then some (.number .modeChangeCapability)
  else if equalsLiteral strName "mode-change-period" then some (.number .modeChangePeriod)
  else if equalsLiteral strName "mode-change-neighbor" then some (.number .modeChangeNeighbor)
  else if equalsLiteral strName "max-red" then some (.number .maxRed)
  else none

def kindOfAmr (strName : Chars) : Option Kind :=
  (kindOfAudio strName).or
    (if equalsLiteral strName "octet-align" then some (.number .octetAlign) else none)

def kindOfEvs (strName : Chars) : Option Kind :=
  (kindOfAudio strName).or
    (if equalsLiteral strName "dtx" then some (.number .dtx)
    else if equalsLiteral strName "hf-only" then some (.number .hfOnly)
    else if equalsLiteral strName "evs-mode-switch" then some (.number .evsModeSwitch)
    else if equalsLiteral strName "br" then some (.rates .br)
    else if equalsLiteral strName "bw" then some (.rates .bw)
    else if equalsLiteral strName "cmr" then some (.number .cmr)
    else if equalsLiteral strName "ch-aw-recv" then some (.number .chAwRecv)
    else if equalsLiteral strName "br-send" then some (.rates .brSend)
    else if equalsLiteral strName "br-recv" then some (.rates .brRecv)
    else if equalsLiteral strName "bw-send" then some (.rates .bwSend)
    else if equalsLiteral strName "bw-recv" then some (.rates .bwRecv)
    else none)

def RateList.table : RateList → List Chars
  | .br | .brSend | .brRecv => EVS_BR
  | .bw | .bwSend | .bwRecv => EVS_BW

/-- The setting of a parameter, which a mode that has no bit in a word does not give. -/
def settingOf (strValue : Chars) : Kind → Option Setting
  | .modes => (readModes 0 (split ',' strValue)).map .modes
  | .number k => some (.number k (toInt32 strValue))
  | .rates r => some (.rates r (readValues r.table strValue))

def applyAudio (setting : Setting) (f : AudioFmtp) : AudioFmtp :=
  match setting with
  | .modes bits => { f with modeSetList := f.modeSetList ||| bits, visibleModeSet := true }
  | .number .modeChangeCapability n =>
    { f with modeChangeCapability := n, visibleModeChangeCapability := true }
  | .number .modeChangePeriod n =>
    { f with modeChangePeriod := n, visibleModeChangePeriod := true }
  | .number .modeChangeNeighbor n =>
    { f with modeChangeNeighbor := n, visibleModeChangeNeighbor := true }
  | .number .maxRed n => { f with maxRed := n, visibleMaxRed := true }
  | _ => f

def applyAmr (setting : Setting) (f : AmrFmtp) : AmrFmtp :=
  match setting with
  | .number .octetAlign n => { f with octetAlign := n, visibleOctetAlign := true }
  | setting => { f with toAudioFmtp := applyAudio setting f.toAudioFmtp }

def applyEvs (setting : Setting) (f : EvsFmtp) : EvsFmtp :=
  match setting with
  | .number .dtx n => { f with dtx := n != 0, visibleDtx := true }
  | .number .hfOnly n => { f with hfOnly := BitVec.ofInt 32 n, visibleHfOnly := true }
  | .number .evsModeSwitch n =>
    { f with
      evsModeSwitch := BitVec.ofInt 32 n
      visibleEvsModeSwitch := true
      modeSetList := if f.modeSetList = 0 then FULL_MODESET_AMRWB else f.modeSetList }
  | .number .cmr n => { f with cmr := n, visibleCmr := true }
  | .number .chAwRecv n =>
    { f with receivedChAwRecv := n, chAwRecv := n, visibleChannelAwMode := true }
  | .rates .br bits => { f with brList := f.brList ||| bits }
  | .rates .bw bits => { f with bwList := f.bwList ||| bits }
  | .rates .brSend bits => { f with brRecv := addBits f.brRecv bits }
  | .rates .brRecv bits => { f with brSend := addBits f.brSend bits }
  | .rates .bwSend bits => { f with bwRecv := addBits f.bwRecv bits }
  | .rates .bwRecv bits => { f with bwSend := addBits f.bwSend bits }
  | setting => { f with toAudioFmtp := applyAudio setting f.toAudioFmtp }

theorem or_ite {α : Type} {c : Prop} [Decidable c] (a : α) (o : Option α) :
    (if c then some a else none).or o = if c then some a else o := by
  split
  · rfl
  · rfl

theorem map_ite {α β : Type} {c : Prop} [Decidable c] {x : β} {a : α} {y : Option β}
    {b : Option α} {g : α → β} (hx : x = g a) (hy : y = b.map g) :
    (if c then some x else none).or y = (if c then some a else b).map g := by
  rw [or_ite, hx, hy]
  split
  · rfl
  · rfl

theorem settingOf_modes (strValue : Chars) :
    settingOf strValue .modes = (readModes 0 (split ',' strValue)).map .modes := rfl

theorem parseAudioFmtp_eq (strName strValue : Chars) (f : AudioFmtp) :
    parseAudioFmtp strName strValue f = (kindOfAudio strName).map fun kind =>
      (settingOf strValue kind).map fun setting => applyAudio setting f := by
  unfold parseAudioFmtp parseModeSet parseModeChangeCapability parseModeChangePeriod
    parseModeChangeNeighbor parseMaxRed parseNumber Parse.or kindOfAudio
  simp only [or_ite]
  split_ifs
  · rw [readModes_eq, Option.map_some, settingOf_modes]
    cases readModes 0 (split ',' strValue) with
    | none => rfl
    | some bits => rfl
  all_goals rfl

theorem map_settingOf_modes {α : Type} (strValue : Chars) (apply applied : Setting → α)
    (h : ∀ bits, apply (.modes bits) = applied (.modes bits)) :
    (settingOf strValue .modes).map apply = (settingOf strValue .modes).map applied := by
  rw [settingOf_modes]
  cases readModes 0 (split ',' strValue) with
  | none => rfl
  | some bits => exact congrArg some (h bits)

theorem kindOfAudio_cases (strName : Chars) :
    kindOfAudio strName = none ∨ kindOfAudio strName = some .modes ∨
      ∃ k ∈ [Number.modeChangeCapability, .modeChangePeriod, .modeChangeNeighbor, .maxRed],
        kindOfAudio strName = some (.number k) := by
  unfold kindOfAudio
  split_ifs
  · exact .inr (.inl rfl)
  · exact .inr (.inr ⟨_, by decide, rfl⟩)
  · exact .inr (.inr ⟨_, by decide, rfl⟩)
  · exact .inr (.inr ⟨_, by decide, rfl⟩)
  · exact .inr (.inr ⟨_, by decide, rfl⟩)
  · exact .inl rfl

theorem parseAmrParameter_eq (strName strValue : Chars) (f : AmrFmtp) :
    parseAmrParameter strName strValue f = (kindOfAmr strName).map fun kind =>
      (settingOf strValue kind).map fun setting => applyAmr setting f := by
  unfold parseAmrParameter parseAmrFmtp parseOctetAlign parseNumber Parse.or kindOfAmr
  dsimp only
  rw [parseAudioFmtp_eq]
  rcases kindOfAudio_cases strName with hkind | hkind | ⟨k, hk, hkind⟩
  · rw [hkind, Option.map_none, Option.map_none, Option.none_or, Option.none_or]
    split
    · rfl
    · rfl
  · rw [hkind, Option.map_some, Option.map_some, Option.some_or, Option.some_or,
      Option.map_some, Option.map_map]
    exact congrArg some (map_settingOf_modes strValue _ _ fun _ => rfl)
  · rw [hkind]
    simp only [List.mem_cons, List.not_mem_nil, or_false] at hk
    rcases hk with rfl | rfl | rfl | rfl
    all_goals rfl

theorem parseEvsParameter_eq (strName strValue : Chars) (f : EvsFmtp) :
    parseEvsParameter strName strValue f = (kindOfEvs strName).map fun kind =>
      (settingOf strValue kind).map fun setting => applyEvs setting f := by
  unfold parseEvsParameter parseEvsFmtp parseDtx parseHfOnly parseEvsSwitchMode parseBr parseBw
    parseCmr parseChAwMode parseBrSend parseBrRecv parseBwSend parseBwRecv parseNumber parseValues
    Parse.or kindOfEvs
  dsimp only
  rw [parseAudioFmtp_eq]
  rcases kindOfAudio_cases strName with hkind | hkind | ⟨k, hk, hkind⟩
  · rw [hkind, Option.map_none, Option.map_none, Option.none_or, Option.none_or]
    repeat refine map_ite rfl ?_
    split
    · rfl
    · rfl
  · rw [hkind, Option.map_some, Option.map_some, Option.some_or, Option.some_or,
      Option.map_some, Option.map_map]
    exact congrArg some (map_settingOf_modes strValue _ _ fun _ => rfl)
  · rw [hkind]
    simp only [List.mem_cons, List.not_mem_nil, or_false] at hk
    rcases hk with rfl | rfl | rfl | rfl
    all_goals rfl

/-! ### The parser on settings -/

section Parser

variable {α : Type} {parse : Parse α} {kindOf : Chars → Option Kind} {apply : Setting → α → α}

/-- The settings of a part of a text, of which a mode that has no bit gives none. -/
def settingsOfPart (kindOf : Chars → Option Kind) (strPart : Chars) : Option (Option Setting) :=
  (parameter strPart).bind fun p => (kindOf p.1).map (settingOf p.2)

def settings (kindOf : Chars → Option Kind) (strFmtp : Chars) : List (Option Setting) :=
  (split ';' strFmtp).filterMap (settingsOfPart kindOf)

theorem parseParameters_eq
    (hparse : ∀ strName strValue fmtp, parse strName strValue fmtp =
      (kindOf strName).map fun kind => (settingOf strValue kind).map fun setting =>
        apply setting fmtp)
    (parts : List Chars) (parsed : α × Bool) :
    parseParameters parse (parts.filterMap parameter) parsed =
      ((parts.filterMap (settingsOfPart kindOf)).mapM id).map fun ss =>
        (ss.foldl (fun fmtp setting => apply setting fmtp) parsed.1, parsed.2 || !ss.isEmpty) := by
  induction parts generalizing parsed with
  | nil => simp [parseParameters]
  | cons part parts ih =>
    cases hpart : parameter part with
    | none =>
      have hnone : settingsOfPart kindOf part = none := by rw [settingsOfPart, hpart]; rfl
      rw [List.filterMap_cons_none hpart, List.filterMap_cons_none hnone]
      exact ih parsed
    | some p =>
      rw [List.filterMap_cons_some hpart, parseParameters, hparse]
      cases hkind : kindOf p.1 with
      | none =>
        have hnone : settingsOfPart kindOf part = none := by
          rw [settingsOfPart, hpart, Option.bind_some, hkind]
          rfl
        rw [List.filterMap_cons_none hnone]
        exact ih parsed
      | some kind =>
        have hsome : settingsOfPart kindOf part = some (settingOf p.2 kind) := by
          rw [settingsOfPart, hpart, Option.bind_some, hkind]
          rfl
        rw [List.filterMap_cons_some hsome, List.mapM_cons, Option.map_some]
        cases settingOf p.2 kind with
        | none => rfl
        | some setting =>
          rw [Option.map_some]
          dsimp only
          rw [ih]
          cases (parts.filterMap (settingsOfPart kindOf)).mapM id with
          | none => rfl
          | some ss => simp

end Parser

/-! ### Texts with the same parameters -/

section Reordered

variable {kindOf : Chars → Option Kind} {strFmtp strOther : Chars}

/-- The parts of one text in another order. -/
def IsReordered (strFmtp strOther : Chars) : Prop :=
  (split ';' strOther).Perm (split ';' strFmtp)

def known (kindOf : Chars → Option Kind) (strFmtp : Chars) : List Setting :=
  (settings kindOf strFmtp).filterMap id

theorem settings_perm (h : IsReordered strFmtp strOther) :
    (settings kindOf strOther).Perm (settings kindOf strFmtp) :=
  h.filterMap _

theorem known_perm (h : IsReordered strFmtp strOther) :
    (known kindOf strOther).Perm (known kindOf strFmtp) :=
  (settings_perm h).filterMap _

theorem mem_known {setting : Setting} :
    setting ∈ known kindOf strFmtp ↔ some setting ∈ settings kindOf strFmtp := by
  unfold known
  rw [List.mem_filterMap]
  constructor
  · rintro ⟨o, ho, rfl⟩
    exact ho
  · intro h
    exact ⟨_, h, rfl⟩

theorem mapM_id_of_mem {σ : Type} {os : List (Option σ)} (h : none ∈ os) :
    os.mapM id = none := by
  induction os with
  | nil => exact absurd h List.not_mem_nil
  | cons o os ih =>
    rw [List.mapM_cons]
    rcases List.mem_cons.mp h with rfl | h
    · rfl
    · rw [ih h]
      cases o with
      | none => rfl
      | some a => rfl

theorem mapM_id_of_not_mem {σ : Type} {os : List (Option σ)} (h : none ∉ os) :
    os.mapM id = some (os.filterMap id) := by
  induction os with
  | nil => rfl
  | cons o os ih =>
    rw [List.mapM_cons, ih fun hmem => h (List.mem_cons_of_mem _ hmem)]
    cases o with
    | none => exact absurd List.mem_cons_self h
    | some a => rfl

theorem exists_text {parts : List Chars} (h : parts.Perm (split ';' strFmtp)) :
    ∃ strOther, split ';' strOther = parts := by
  refine ⟨[';'].intercalate parts, split_intercalate ?_ ?_ ?_⟩
  · rintro rfl
    exact split_ne_nil _ _ h.symm.eq_nil
  · intro part hpart hmem
    exact (mem_of_mem_split (h.mem_iff.mp hpart) hmem).2 rfl
  · intro part hpart
    exact strip_eq_of_mem_split (h.mem_iff.mp hpart)

theorem exists_ends {setting : Setting} (h : setting ∈ known kindOf strFmtp) :
    ∃ rest, (∃ strOther, IsReordered strFmtp strOther ∧
        known kindOf strOther = rest ++ [setting]) ∧
      (∃ strOther, IsReordered strFmtp strOther ∧ known kindOf strOther = setting :: rest) ∧
      (setting :: rest).Perm (known kindOf strFmtp) := by
  obtain ⟨part, hpart, hsetting⟩ := List.mem_filterMap.mp (mem_known.mp h)
  obtain ⟨front, back, hparts⟩ := List.append_of_mem hpart
  have hlast : (front ++ back ++ [part]).Perm (split ';' strFmtp) := by
    rw [hparts, List.append_assoc]
    exact List.Perm.append_left front List.perm_append_comm
  have hfirst : (part :: (front ++ back)).Perm (split ';' strFmtp) := by
    rw [hparts]
    exact List.perm_middle.symm
  obtain ⟨strLast, hsplitLast⟩ := exists_text hlast
  obtain ⟨strFirst, hsplitFirst⟩ := exists_text hfirst
  have hknownFirst : known kindOf strFirst =
      setting :: ((front ++ back).filterMap (settingsOfPart kindOf)).filterMap id := by
    rw [known, settings, hsplitFirst, List.filterMap_cons_some hsetting]
    rfl
  have hreordered : IsReordered strFmtp strFirst := by
    rw [IsReordered, hsplitFirst]
    exact hfirst
  refine ⟨((front ++ back).filterMap (settingsOfPart kindOf)).filterMap id,
    ⟨strLast, ?_, ?_⟩, ⟨strFirst, hreordered, hknownFirst⟩, ?_⟩
  · rw [IsReordered, hsplitLast]
    exact hlast
  · rw [known, settings, hsplitLast, List.filterMap_append, List.filterMap_append,
      List.filterMap_cons_some hsetting, List.filterMap_nil]
    rfl
  · rw [← hknownFirst]
    exact known_perm hreordered

theorem exists_kind_of_mem_known {setting : Setting} (h : setting ∈ known kindOf strFmtp) :
    ∃ strName strValue kind, kindOf strName = some kind ∧
      settingOf strValue kind = some setting := by
  obtain ⟨part, -, hsetting⟩ := List.mem_filterMap.mp (mem_known.mp h)
  obtain ⟨p, -, hkind⟩ := Option.bind_eq_some_iff.mp hsetting
  obtain ⟨kind, hkindOf, hvalue⟩ := Option.map_eq_some_iff.mp hkind
  exact ⟨p.1, p.2, kind, hkindOf, hvalue⟩

theorem kindOf_of_number {k : Number} {n : Int} (h : .number k n ∈ known kindOf strFmtp) :
    (∃ strName, kindOf strName = some (.number k)) ∧ IsWord n := by
  obtain ⟨strName, strValue, kind, hkind, hsetting⟩ := exists_kind_of_mem_known h
  cases kind with
  | modes =>
    obtain ⟨bits, -, hbits⟩ := Option.map_eq_some_iff.mp hsetting
    exact absurd hbits (by simp)
  | number k' =>
    obtain ⟨rfl, rfl⟩ := Setting.number.inj (Option.some.inj hsetting)
    exact ⟨⟨strName, hkind⟩, toInt32_range strValue⟩
  | rates r => exact absurd (Option.some.inj hsetting) (by simp)

theorem readModes_ne_zero {strModes : List Chars} (hne : strModes ≠ []) {bits : BitVec 32}
    (h : readModes 0 strModes = some bits) : bits ≠ 0 := by
  cases strModes with
  | nil => exact absurd rfl hne
  | cons strMode strModes =>
    unfold readModes at h
    rw [List.foldlM_cons] at h
    obtain ⟨first, hfirst, hrest⟩ := Option.bind_eq_some_iff.mp h
    obtain ⟨mode, hmode, rfl⟩ := Option.map_eq_some_iff.mp hfirst
    have hrest : readModes (0 ||| mode) strModes = some bits := hrest
    rw [readModes_eq] at hrest
    obtain ⟨others, -, rfl⟩ := Option.map_eq_some_iff.mp hrest
    unfold shift at hmode
    split at hmode
    · obtain rfl := Option.some.inj hmode
      rename_i hrange
      intro hzero
      have hbit : (0 ||| bit (toInt32 strMode).toNat ||| others).getLsbD (toInt32 strMode).toNat =
          true := by
        rw [BitVec.getLsbD_or, BitVec.getLsbD_or, getLsbD_bit,
          decide_eq_true ⟨rfl, by omega⟩, Bool.or_true, Bool.true_or]
      rw [hzero, getLsbD_empty] at hbit
      exact Bool.false_ne_true hbit
    · exact absurd hmode.symm (Option.some_ne_none _)

theorem modes_ne_zero {bits : BitVec 32} (h : .modes bits ∈ known kindOf strFmtp) :
    bits ≠ 0 := by
  obtain ⟨strName, strValue, kind, hkind, hsetting⟩ := exists_kind_of_mem_known h
  cases kind with
  | modes =>
    obtain ⟨bits', hbits, heq⟩ := Option.map_eq_some_iff.mp hsetting
    obtain rfl := Setting.modes.inj heq
    exact readModes_ne_zero (split_ne_nil _ _) hbits
  | number k => exact absurd (Option.some.inj hsetting) (by simp)
  | rates r => exact absurd (Option.some.inj hsetting) (by simp)

end Reordered

/-! ### Numbers that are set twice -/

section Consistent

variable {k : Number} {n n' : Int}

/-- Two values of a number set the same, which for `dtx` is a flag. -/
def SameEffect (k : Number) (n n' : Int) : Prop :=
  if k = .dtx then (n = 0 ↔ n' = 0) else n = n'

/-- The numbers that are set twice are set to the same. -/
def IsConsistent (ss : List Setting) : Prop :=
  ∀ k n n', .number k n ∈ ss → .number k n' ∈ ss → SameEffect k n n'

theorem applyAmr_congr (hk : k ≠ .dtx) (h : SameEffect k n n') (f : AmrFmtp) :
    applyAmr (.number k n) f = applyAmr (.number k n') f := by
  unfold SameEffect at h
  rw [if_neg hk] at h
  rw [h]

theorem applyEvs_congr (h : SameEffect k n n') (f : EvsFmtp) :
    applyEvs (.number k n) f = applyEvs (.number k n') f := by
  unfold SameEffect at h
  by_cases hk : k = .dtx
  · subst hk
    rw [if_pos rfl] at h
    have hflag : (n != 0) = (n' != 0) := by
      rw [Bool.eq_iff_iff, bne_iff_ne, bne_iff_ne]
      exact not_congr h
    change { f with dtx := n != 0, visibleDtx := true } =
      { f with dtx := n' != 0, visibleDtx := true }
    rw [hflag]
  · rw [if_neg hk] at h
    rw [h]

def readAmr (k : Number) (f : AmrFmtp) : Int :=
  match k with
  | .modeChangeCapability => f.modeChangeCapability
  | .modeChangePeriod => f.modeChangePeriod
  | .modeChangeNeighbor => f.modeChangeNeighbor
  | .maxRed => f.maxRed
  | .octetAlign => f.octetAlign
  | _ => 0

def readEvs (k : Number) (f : EvsFmtp) : Int :=
  match k with
  | .modeChangeCapability => f.modeChangeCapability
  | .modeChangePeriod => f.modeChangePeriod
  | .modeChangeNeighbor => f.modeChangeNeighbor
  | .maxRed => f.maxRed
  | .octetAlign => 0
  | .dtx => if f.dtx then 1 else 0
  | .hfOnly => f.hfOnly.toInt
  | .evsModeSwitch => f.evsModeSwitch.toInt
  | .cmr => f.cmr
  | .chAwRecv => f.chAwRecv

theorem kindOfAmr_number {strName : Chars} (h : kindOfAmr strName = some (.number k)) :
    k ∈ [Number.modeChangeCapability, .modeChangePeriod, .modeChangeNeighbor, .maxRed,
      .octetAlign] := by
  unfold kindOfAmr at h
  rcases kindOfAudio_cases strName with hkind | hkind | ⟨k', hk', hkind⟩
  · rw [hkind, Option.none_or] at h
    split at h
    · obtain rfl := Kind.number.inj (Option.some.inj h)
      decide
    · exact absurd h.symm (Option.some_ne_none _)
  · rw [hkind, Option.some_or] at h
    exact absurd (Option.some.inj h) (by simp)
  · rw [hkind, Option.some_or] at h
    obtain rfl := Kind.number.inj (Option.some.inj h)
    revert hk'
    cases k' <;> decide

theorem ite_ne {α : Type} {c : Prop} [Decidable c] {a b x : α} (ha : a ≠ x) (hb : b ≠ x) :
    (if c then a else b) ≠ x := by
  split
  · exact ha
  · exact hb

theorem or_right_comm (a b c : BitVec 32) : a ||| b ||| c = a ||| c ||| b := by
  rw [BitVec.or_assoc, BitVec.or_comm b c, BitVec.or_assoc]

theorem kindOfEvs_number {strName : Chars} (h : kindOfEvs strName = some (.number k)) :
    k ≠ .octetAlign := by
  rintro rfl
  unfold kindOfEvs at h
  rcases kindOfAudio_cases strName with hkind | hkind | ⟨k', hk', hkind⟩
  · rw [hkind, Option.none_or] at h
    revert h
    repeat refine ite_ne (by decide) ?_
    decide
  · rw [hkind, Option.some_or] at h
    exact absurd (Option.some.inj h) (by simp)
  · rw [hkind, Option.some_or] at h
    obtain rfl := Kind.number.inj (Option.some.inj h)
    exact absurd hk' (by decide)

theorem readAmr_applyAmr (hk : k ∈ [Number.modeChangeCapability, .modeChangePeriod,
    .modeChangeNeighbor, .maxRed, .octetAlign]) (n : Int) (f : AmrFmtp) :
    readAmr k (applyAmr (.number k n) f) = n := by
  simp only [List.mem_cons, List.not_mem_nil, or_false] at hk
  rcases hk with rfl | rfl | rfl | rfl | rfl
  all_goals rfl

theorem sameEffect_of_readEvs (hk : k ≠ .octetAlign) (hn : IsWord n) (hn' : IsWord n')
    {f f' : EvsFmtp}
    (h : readEvs k (applyEvs (.number k n) f) = readEvs k (applyEvs (.number k n') f')) :
    SameEffect k n n' := by
  have hdtx {n : Int} : (if (n != 0) = true then (1 : Int) else 0) = 0 ↔ n = 0 := by
    by_cases hzero : n = 0
    · simp [hzero]
    · simp [hzero]
  unfold SameEffect
  cases k with
  | octetAlign => exact absurd rfl hk
  | dtx =>
    rw [if_pos rfl, ← hdtx, ← @hdtx n']
    exact Eq.congr_left h
  | hfOnly =>
    have h : (BitVec.ofInt 32 n).toInt = (BitVec.ofInt 32 n').toInt := h
    rw [toInt_ofInt hn, toInt_ofInt hn'] at h
    exact h
  | evsModeSwitch =>
    have h : (BitVec.ofInt 32 n).toInt = (BitVec.ofInt 32 n').toInt := h
    rw [toInt_ofInt hn, toInt_ofInt hn'] at h
    exact h
  | modeChangeCapability => exact h
  | modeChangePeriod => exact h
  | modeChangeNeighbor => exact h
  | maxRed => exact h
  | cmr => exact h
  | chAwRecv => exact h

end Consistent

/-! ### AMR -/

section Amr

variable {strFmtp strOther : Chars}

theorem parseFmtpOfAmr_eq (strFmtp : Chars) : parseFmtpOfAmr strFmtp =
    ((settings kindOfAmr strFmtp).mapM id).map fun ss =>
      (ss.foldl (fun f setting => applyAmr setting f) {}, !ss.isEmpty) := by
  unfold parseFmtpOfAmr parameters settings
  rw [parseParameters_eq parseAmrParameter_eq]
  simp only [Bool.false_or]

theorem applyAmr_comm {ss : List Setting} (h : IsConsistent ss)
    (hkind : ∀ k n, .number k n ∈ ss → k ≠ .dtx) {setting setting' : Setting}
    (hmem : setting ∈ ss) (hmem' : setting' ∈ ss) (f : AmrFmtp) :
    applyAmr setting' (applyAmr setting f) = applyAmr setting (applyAmr setting' f) := by
  cases setting with
  | modes bits =>
    cases setting' with
    | modes bits' =>
      have hor := or_right_comm f.modeSetList bits bits'
      exact congrArg (fun nList => { f with modeSetList := nList, visibleModeSet := true }) hor
    | number k n => cases k <;> rfl
    | rates r bits' => rfl
  | number k n =>
    cases setting' with
    | modes bits => cases k <;> rfl
    | number k' n' =>
      by_cases hk : k = k'
      · subst hk
        have hsame := h k n n' hmem hmem'
        rw [applyAmr_congr (hkind k n hmem) hsame, applyAmr_congr (hkind k n hmem) hsame]
      · cases k <;> cases k' <;> first | rfl | exact absurd rfl hk
    | rates r bits => cases k <;> rfl
  | rates r bits => rfl

/-- When every order of the parameters of AMR gives the same format. -/
theorem parseFmtpOfAmr_order_iff (strFmtp : Chars) :
    (∀ strOther, IsReordered strFmtp strOther →
        parseFmtpOfAmr strOther = parseFmtpOfAmr strFmtp) ↔
      none ∈ settings kindOfAmr strFmtp ∨ IsConsistent (known kindOfAmr strFmtp) := by
  by_cases hnone : none ∈ settings kindOfAmr strFmtp
  · refine iff_of_true (fun strOther hother => ?_) (.inl hnone)
    rw [parseFmtpOfAmr_eq, parseFmtpOfAmr_eq, mapM_id_of_mem hnone,
      mapM_id_of_mem ((settings_perm hother).mem_iff.mpr hnone)]
  · have hparse {strOther : Chars} (hother : IsReordered strFmtp strOther) :
        parseFmtpOfAmr strOther = some
          ((known kindOfAmr strOther).foldl (fun f setting => applyAmr setting f) {},
            !(known kindOfAmr strOther).isEmpty) := by
      rw [parseFmtpOfAmr_eq,
        mapM_id_of_not_mem fun hmem => hnone ((settings_perm hother).mem_iff.mp hmem)]
      rfl
    constructor
    · intro hsame
      refine .inr fun k n n' hn hn' => ?_
      have hread {m : Int} (hm : .number k m ∈ known kindOfAmr strFmtp) :
          (parseFmtpOfAmr strFmtp).map (fun parsed => readAmr k parsed.1) = some m := by
        obtain ⟨rest, ⟨strOther, hother, hlast⟩, -⟩ := exists_ends hm
        obtain ⟨⟨strName, hname⟩, -⟩ := kindOf_of_number hm
        rw [← hsame strOther hother, hparse hother, hlast, List.foldl_append]
        exact congrArg some (readAmr_applyAmr (kindOfAmr_number hname) m _)
      have heq : n = n' := Option.some.inj ((hread hn).symm.trans (hread hn'))
      unfold SameEffect
      split
      · rw [heq]
      · exact heq
    · rintro (hmem | hconsistent) strOther hother
      · exact absurd hmem hnone
      · have hperm := @known_perm kindOfAmr _ _ hother
        have hkind : ∀ k n, .number k n ∈ known kindOfAmr strFmtp → k ≠ .dtx := by
          rintro k n hmem rfl
          obtain ⟨⟨strName, hname⟩, -⟩ := kindOf_of_number hmem
          exact absurd (kindOfAmr_number hname) (by decide)
        have hfold := @List.Perm.foldl_eq' _ _ (fun f setting => applyAmr setting f) _ _ hperm.symm
          (fun _ hmem _ hmem' f => applyAmr_comm hconsistent hkind hmem hmem' f) {}
        rw [hparse hother, hparse (List.Perm.refl _), hfold, hperm.isEmpty_eq]

end Amr

/-! ### EVS -/

section Evs

variable {strFmtp strOther : Chars} {ss rest : List Setting} {f : EvsFmtp} {k : Nat}

def applyAll (ss : List Setting) (f : EvsFmtp) : EvsFmtp :=
  ss.foldl (fun f setting => applyEvs setting f) f

/-- A set of modes has the mode. -/
def HasMode (ss : List Setting) (k : Nat) : Prop :=
  ∃ bits, .modes bits ∈ ss ∧ bits.getLsbD k = true

def HasSwitch (ss : List Setting) : Prop := ∃ n, .number .evsModeSwitch n ∈ ss

/-- What the mode switch presets makes no difference to the sets of modes. -/
def IsPresetFree (ss : List Setting) : Prop :=
  ¬HasSwitch ss ∨ (∀ bits, .modes bits ∉ ss) ∨ ∀ k < 9, HasMode ss k

/-- The modes after one setting. -/
def modesAfter (nModeSetList : BitVec 32) : Setting → BitVec 32
  | .modes bits => nModeSetList ||| bits
  | .number .evsModeSwitch _ => if nModeSetList = 0 then FULL_MODESET_AMRWB else nModeSetList
  | _ => nModeSetList

theorem modeSetList_applyEvs (setting : Setting) (f : EvsFmtp) :
    (applyEvs setting f).modeSetList = modesAfter f.modeSetList setting := by
  cases setting with
  | modes bits => rfl
  | number k n => cases k <;> rfl
  | rates r bits => cases r <;> rfl

theorem modeSetList_applyAll (ss : List Setting) (f : EvsFmtp) :
    (applyAll ss f).modeSetList = ss.foldl modesAfter f.modeSetList := by
  unfold applyAll
  induction ss generalizing f with
  | nil => rfl
  | cons setting ss ih => rw [List.foldl_cons, ih, modeSetList_applyEvs, List.foldl_cons]

theorem hasMode_cons {setting : Setting} :
    HasMode (setting :: ss) k ↔
      (∃ bits, setting = .modes bits ∧ bits.getLsbD k = true) ∨ HasMode ss k := by
  constructor
  · rintro ⟨bits, hmem, hbit⟩
    rcases List.mem_cons.mp hmem with heq | hmem
    · exact .inl ⟨bits, heq.symm, hbit⟩
    · exact .inr ⟨bits, hmem, hbit⟩
  · rintro (⟨bits, rfl, hbit⟩ | ⟨bits, hmem, hbit⟩)
    · exact ⟨bits, List.mem_cons_self, hbit⟩
    · exact ⟨bits, List.mem_cons_of_mem _ hmem, hbit⟩

theorem getLsbD_modesAfter_of_ne_zero {nModeSetList : BitVec 32} (hne : nModeSetList ≠ 0)
    (setting : Setting) :
    modesAfter nModeSetList setting ≠ 0 ∧
      ((modesAfter nModeSetList setting).getLsbD k = true ↔ nModeSetList.getLsbD k = true ∨
        ∃ bits, setting = .modes bits ∧ bits.getLsbD k = true) := by
  have hsame (h : modesAfter nModeSetList setting = nModeSetList)
      (hnot : ∀ bits, setting ≠ .modes bits) :
      modesAfter nModeSetList setting ≠ 0 ∧
        ((modesAfter nModeSetList setting).getLsbD k = true ↔ nModeSetList.getLsbD k = true ∨
          ∃ bits, setting = .modes bits ∧ bits.getLsbD k = true) := by
    rw [h]
    refine ⟨hne, .inl, ?_⟩
    rintro (hbit | ⟨bits, heq, -⟩)
    · exact hbit
    · exact absurd heq (hnot bits)
  cases setting with
  | modes bits =>
    refine ⟨fun hzero => hne ?_, ?_⟩
    · refine BitVec.eq_of_getLsbD_eq fun l _ => ?_
      have hbit : (nModeSetList ||| bits).getLsbD l = false := by
        rw [show nModeSetList ||| bits = 0 from hzero, getLsbD_empty]
      rw [BitVec.getLsbD_or, Bool.or_eq_false_iff] at hbit
      rw [hbit.1, getLsbD_empty]
    · change (nModeSetList ||| bits).getLsbD k = true ↔ _
      rw [BitVec.getLsbD_or, Bool.or_eq_true_iff]
      refine or_congr Iff.rfl ⟨fun hbit => ⟨bits, rfl, hbit⟩, ?_⟩
      rintro ⟨bits', heq, hbit⟩
      rw [Setting.modes.inj heq]
      exact hbit
  | number l n =>
    refine hsame ?_ fun bits heq => by simp at heq
    cases l
    all_goals first | rfl | exact if_neg hne
  | rates r bits => exact hsame rfl fun bits' heq => by simp at heq

theorem getLsbD_foldl_of_ne_zero {nModeSetList : BitVec 32} (hne : nModeSetList ≠ 0) :
    (ss.foldl modesAfter nModeSetList).getLsbD k = true ↔
      nModeSetList.getLsbD k = true ∨ HasMode ss k := by
  induction ss generalizing nModeSetList with
  | nil =>
    refine ⟨.inl, ?_⟩
    rintro (hbit | ⟨bits, hmem, -⟩)
    · exact hbit
    · exact absurd hmem List.not_mem_nil
  | cons setting ss ih =>
    obtain ⟨hnext, hiff⟩ := @getLsbD_modesAfter_of_ne_zero k _ hne setting
    rw [List.foldl_cons, ih hnext, hiff, hasMode_cons, or_assoc]

/-- From no modes on, the sets of modes add theirs, and the mode switch adds all or nothing. -/
theorem foldl_modesAfter_zero (ss : List Setting) :
    (HasSwitch ss → ∃ bits, .modes bits ∈ ss) ∧
        (∀ k, (ss.foldl modesAfter 0).getLsbD k = true ↔ HasMode ss k) ∨
      HasSwitch ss ∧ ∀ k, (ss.foldl modesAfter 0).getLsbD k = true ↔ k < 9 ∨ HasMode ss k := by
  induction ss with
  | nil =>
    refine .inl ⟨fun ⟨n, hmem⟩ => absurd hmem List.not_mem_nil, fun k => ?_⟩
    rw [List.foldl_nil, getLsbD_empty]
    refine ⟨fun h => absurd h Bool.false_ne_true, ?_⟩
    rintro ⟨bits, hmem, -⟩
    exact absurd hmem List.not_mem_nil
  | cons setting ss ih =>
    rw [List.foldl_cons]
    -- Neither a set of modes nor the mode switch: nothing has changed.
    have hother (hafter : modesAfter 0 setting = 0) (hmode : ∀ k, HasMode (setting :: ss) k ↔
        HasMode ss k) (hnot : HasSwitch (setting :: ss) → HasSwitch ss ∨
          ∃ bits, setting = .modes bits) :
        (HasSwitch (setting :: ss) → ∃ bits, .modes bits ∈ setting :: ss) ∧
            (∀ k, (ss.foldl modesAfter (modesAfter 0 setting)).getLsbD k = true ↔
              HasMode (setting :: ss) k) ∨
          HasSwitch (setting :: ss) ∧
            ∀ k, (ss.foldl modesAfter (modesAfter 0 setting)).getLsbD k = true ↔
              k < 9 ∨ HasMode (setting :: ss) k := by
      rw [hafter]
      rcases ih with ⟨hmodes, hall⟩ | ⟨⟨n, hswitch⟩, hall⟩
      · refine .inl ⟨fun hswitch => ?_, fun k => (hall k).trans (hmode k).symm⟩
        rcases hnot hswitch with hswitch | ⟨bits, heq⟩
        · obtain ⟨bits, hmem⟩ := hmodes hswitch
          exact ⟨bits, List.mem_cons_of_mem _ hmem⟩
        · exact ⟨bits, heq ▸ List.mem_cons_self⟩
      · exact .inr ⟨⟨n, List.mem_cons_of_mem _ hswitch⟩,
          fun k => (hall k).trans (or_congr Iff.rfl (hmode k).symm)⟩
    have hnoMode (hnot : ∀ bits, setting = .modes bits → bits = 0) (k : Nat) :
        HasMode (setting :: ss) k ↔ HasMode ss k := by
      rw [hasMode_cons]
      refine ⟨?_, .inr⟩
      rintro (⟨bits, heq, hbit⟩ | hmode)
      · rw [hnot bits heq, getLsbD_empty] at hbit
        exact absurd hbit Bool.false_ne_true
      · exact hmode
    cases setting with
    | modes bits =>
      have hafter : modesAfter 0 (.modes bits) = bits := BitVec.zero_or
      by_cases hzero : bits = 0
      · exact hother (hafter.trans hzero)
          (hnoMode fun bits' heq => (Setting.modes.inj heq).symm.trans hzero)
          fun _ => .inr ⟨bits, rfl⟩
      · refine .inl ⟨fun _ => ⟨bits, List.mem_cons_self⟩, fun k => ?_⟩
        rw [hafter, getLsbD_foldl_of_ne_zero hzero, hasMode_cons]
        refine or_congr ⟨fun hbit => ⟨bits, rfl, hbit⟩, ?_⟩ Iff.rfl
        rintro ⟨bits', heq, hbit⟩
        rw [Setting.modes.inj heq]
        exact hbit
    | number l n =>
      by_cases hl : l = .evsModeSwitch
      · subst hl
        refine .inr ⟨⟨n, List.mem_cons_self⟩, fun k => ?_⟩
        have hafter : modesAfter 0 (.number .evsModeSwitch n) = FULL_MODESET_AMRWB := rfl
        rw [hafter, getLsbD_foldl_of_ne_zero (by decide), getLsbD_full, decide_eq_true_eq,
          hnoMode fun bits heq => by simp at heq]
      · refine hother ?_ (hnoMode fun bits heq => by simp at heq) ?_
        · cases l
          all_goals first | rfl | exact absurd rfl hl
        · rintro ⟨n', hmem⟩
          rcases List.mem_cons.mp hmem with heq | hmem
          · exact absurd (Setting.number.inj heq).1.symm hl
          · exact .inl ⟨n', hmem⟩
    | rates r bits =>
      refine hother rfl (hnoMode fun bits heq => by simp at heq) ?_
      rintro ⟨n', hmem⟩
      rcases List.mem_cons.mp hmem with heq | hmem
      · simp at heq
      · exact .inl ⟨n', hmem⟩

theorem hasMode_perm (hperm : rest.Perm ss) : HasMode rest k ↔ HasMode ss k :=
  exists_congr fun _ => and_congr_left fun _ => hperm.mem_iff

theorem hasSwitch_perm (hperm : rest.Perm ss) : HasSwitch rest ↔ HasSwitch ss :=
  exists_congr fun _ => hperm.mem_iff

theorem foldl_modesAfter_perm (hfree : IsPresetFree ss) (hperm : rest.Perm ss) :
    rest.foldl modesAfter 0 = ss.foldl modesAfter 0 := by
  have hswitches := hasSwitch_perm hperm
  have hmodes {bits : BitVec 32} : .modes bits ∈ rest ↔ .modes bits ∈ ss := hperm.mem_iff
  refine BitVec.eq_of_getLsbD_eq fun k _ => ?_
  have hmode := @hasMode_perm ss rest k hperm
  rw [Bool.eq_iff_iff]
  rcases foldl_modesAfter_zero rest with ⟨hrest, hrestBits⟩ | ⟨hrest, hrestBits⟩
  · rcases foldl_modesAfter_zero ss with ⟨hss, hssBits⟩ | ⟨hss, hssBits⟩
    · rw [hrestBits, hssBits, hmode]
    · rw [hrestBits, hssBits, hmode]
      rcases hfree with hnone | hnone | hfull
      · exact absurd hss hnone
      · obtain ⟨bits, hmem⟩ := hrest (hswitches.mpr hss)
        exact absurd (hmodes.mp hmem) (hnone bits)
      · exact ⟨.inr, fun h => h.elim (hfull k) id⟩
  · rcases foldl_modesAfter_zero ss with ⟨hss, hssBits⟩ | ⟨hss, hssBits⟩
    · rw [hrestBits, hssBits, hmode]
      rcases hfree with hnone | hnone | hfull
      · exact absurd (hswitches.mp hrest) hnone
      · obtain ⟨bits, hmem⟩ := hss (hswitches.mp hrest)
        exact absurd hmem (hnone bits)
      · exact ⟨fun h => h.elim (hfull k) id, .inr⟩
    · rw [hrestBits, hssBits, hmode]

/-- A format without its modes. -/
def forget (f : EvsFmtp) : EvsFmtp := { f with modeSetList := 0 }

theorem forget_applyEvs (setting : Setting) (f : EvsFmtp) :
    forget (applyEvs setting f) = forget (applyEvs setting (forget f)) := by
  cases setting with
  | modes bits => rfl
  | number k n => cases k <;> rfl
  | rates r bits => cases r <;> rfl

theorem forget_applyAll (ss : List Setting) (f : EvsFmtp) :
    forget (applyAll ss f) =
      ss.foldl (fun f setting => forget (applyEvs setting f)) (forget f) := by
  unfold applyAll
  induction ss generalizing f with
  | nil => rfl
  | cons setting ss ih => rw [List.foldl_cons, ih, forget_applyEvs, List.foldl_cons]

theorem addBits_right_comm (nList : Int) (bits bits' : BitVec 32) :
    addBits (addBits nList bits) bits' = addBits (addBits nList bits') bits := by
  unfold addBits
  rw [BitVec.ofInt_toInt, BitVec.ofInt_toInt, or_right_comm]

theorem forget_applyEvs_comm (h : IsConsistent ss) {setting setting' : Setting}
    (hmem : setting ∈ ss) (hmem' : setting' ∈ ss) (f : EvsFmtp) :
    forget (applyEvs setting' (forget (applyEvs setting f))) =
      forget (applyEvs setting (forget (applyEvs setting' f))) := by
  cases setting with
  | modes bits =>
    cases setting' with
    | modes bits' => rfl
    | number k n => cases k <;> rfl
    | rates r bits' => cases r <;> rfl
  | number k n =>
    cases setting' with
    | modes bits => cases k <;> rfl
    | number k' n' =>
      by_cases hk : k = k'
      · subst hk
        have hsame := h k n n' hmem hmem'
        rw [applyEvs_congr hsame, applyEvs_congr hsame]
      · cases k <;> cases k' <;> first | rfl | exact absurd rfl hk
    | rates r bits => cases k <;> cases r <;> rfl
  | rates r bits =>
    cases setting' with
    | modes bits' => cases r <;> rfl
    | number k n => cases r <;> cases k <;> rfl
    | rates r' bits' =>
      have hor := or_right_comm
      have hadd := addBits_right_comm
      cases r <;> cases r' <;> first | rfl | simp [applyEvs, forget, hor _ bits, hadd _ bits]

/-- The lists are completed behind the parameters. -/
def finish (f : EvsFmtp) : EvsFmtp :=
  setEvsBwVisible (setEvsBrVisible (setEvsFullBw (setEvsFullBr f)))

theorem modeSetList_finish (f : EvsFmtp) : (finish f).modeSetList = f.modeSetList := by
  unfold finish
  rw [setEvsBwVisible_eq, setEvsBrVisible_eq, setEvsFullBw_eq, setEvsFullBr_eq]

theorem readEvs_finish (k : Number) (f : EvsFmtp) : readEvs k (finish f) = readEvs k f := by
  unfold finish
  rw [setEvsBwVisible_eq, setEvsBrVisible_eq, setEvsFullBw_eq, setEvsFullBr_eq]
  cases k <;> rfl

theorem parseFmtpOfEvs_eq (strFmtp : Chars) : parseFmtpOfEvs strFmtp =
    ((settings kindOfEvs strFmtp).mapM id).map fun ss =>
      if ss.isEmpty then none else some (finish (applyAll ss {})) := by
  unfold parseFmtpOfEvs parameters settings
  rw [parseParameters_eq parseEvsParameter_eq, Option.map_map]
  refine congrArg (Option.map · _) (funext fun ss => ?_)
  cases ss with
  | nil => rfl
  | cons setting ss => rfl

/-- When every order of the parameters of EVS gives the same format. -/
theorem parseFmtpOfEvs_order_iff (strFmtp : Chars) :
    (∀ strOther, IsReordered strFmtp strOther →
        parseFmtpOfEvs strOther = parseFmtpOfEvs strFmtp) ↔
      none ∈ settings kindOfEvs strFmtp ∨
        IsConsistent (known kindOfEvs strFmtp) ∧ IsPresetFree (known kindOfEvs strFmtp) := by
  by_cases hnone : none ∈ settings kindOfEvs strFmtp
  · refine iff_of_true (fun strOther hother => ?_) (.inl hnone)
    rw [parseFmtpOfEvs_eq, parseFmtpOfEvs_eq, mapM_id_of_mem hnone,
      mapM_id_of_mem ((settings_perm hother).mem_iff.mpr hnone)]
  · have hparse {strOther : Chars} (hother : IsReordered strFmtp strOther) :
        parseFmtpOfEvs strOther = some (if (known kindOfEvs strOther).isEmpty then none
          else some (finish (applyAll (known kindOfEvs strOther) {}))) := by
      rw [parseFmtpOfEvs_eq,
        mapM_id_of_not_mem fun hmem => hnone ((settings_perm hother).mem_iff.mp hmem)]
      rfl
    have hparse' {strOther : Chars} (hother : IsReordered strFmtp strOther)
        (hne : known kindOfEvs strOther ≠ []) :
        parseFmtpOfEvs strOther =
          some (some (finish (applyAll (known kindOfEvs strOther) {}))) := by
      rw [hparse hother, if_neg fun hempty => hne (List.isEmpty_iff.mp hempty)]
    constructor
    · refine fun hsame => .inr ⟨fun k n n' hn hn' => ?_, ?_⟩
      · have hread {m : Int} (hm : .number k m ∈ known kindOfEvs strFmtp) :
            ∃ f, parseFmtpOfEvs strFmtp = some (some (finish (applyEvs (.number k m) f))) := by
          obtain ⟨rest, ⟨strOther, hother, hlast⟩, -⟩ := exists_ends hm
          refine ⟨applyAll rest {}, ?_⟩
          rw [← hsame strOther hother, hparse' hother (hlast ▸ List.concat_ne_nil _ _), hlast,
            applyAll, List.foldl_append]
          rfl
        obtain ⟨f, hf⟩ := hread hn
        obtain ⟨f', hf'⟩ := hread hn'
        obtain ⟨⟨strName, hname⟩, hword⟩ := kindOf_of_number hn
        have hword' := (kindOf_of_number hn').2
        have heq := Option.some.inj (Option.some.inj (hf.symm.trans hf'))
        refine @sameEffect_of_readEvs k n n' (kindOfEvs_number hname) hword hword' f f' ?_
        rw [← readEvs_finish, heq, readEvs_finish]
      · by_contra hfree
        unfold IsPresetFree at hfree
        rw [not_or, not_or, not_not, not_forall, not_forall] at hfree
        obtain ⟨⟨n, hswitch⟩, ⟨bits, hbits⟩, k, hk⟩ := hfree
        rw [not_not] at hbits
        rw [Classical.not_imp] at hk
        have hmodes {setting : Setting} (hmem : setting ∈ known kindOfEvs strFmtp) :
            ∃ (rest : List Setting) (f : EvsFmtp), rest.Perm (known kindOfEvs strFmtp) ∧
              rest.head? = some setting ∧
              parseFmtpOfEvs strFmtp = some (some f) ∧
              f.modeSetList = rest.foldl modesAfter 0 := by
          obtain ⟨rest, -, ⟨strOther, hother, hfirst⟩, hperm⟩ := exists_ends hmem
          refine ⟨setting :: rest, finish (applyAll (known kindOfEvs strOther) {}), hperm, rfl,
            ?_, ?_⟩
          · exact (hsame strOther hother).symm.trans
              (hparse' hother (hfirst ▸ List.cons_ne_nil _ _))
          · rw [modeSetList_finish, modeSetList_applyAll, hfirst]
        obtain ⟨first, f, hperm, hhead, hf, hlist⟩ := hmodes hswitch
        obtain ⟨first', f', hperm', hhead', hf', hlist'⟩ := hmodes hbits
        obtain rfl := Option.some.inj (Option.some.inj (hf.symm.trans hf'))
        obtain ⟨rest, rfl⟩ := List.head?_eq_some_iff.mp hhead
        obtain ⟨rest', rfl⟩ := List.head?_eq_some_iff.mp hhead'
        have hbit : f.modeSetList.getLsbD k = true := by
          have hafter : modesAfter 0 (.number .evsModeSwitch n) = FULL_MODESET_AMRWB := rfl
          rw [hlist, List.foldl_cons, hafter, getLsbD_foldl_of_ne_zero (by decide), getLsbD_full,
            decide_eq_true_eq]
          exact .inl hk.1
        have hafter : modesAfter 0 (.modes bits) = bits := BitVec.zero_or
        rw [hlist', List.foldl_cons, hafter,
          getLsbD_foldl_of_ne_zero (modes_ne_zero hbits)] at hbit
        refine hk.2 ((hasMode_perm hperm').mp (hasMode_cons.mpr ?_))
        exact hbit.imp (fun hbit => ⟨bits, rfl, hbit⟩) id
    · rintro (hmem | ⟨hconsistent, hfree⟩) strOther hother
      · exact absurd hmem hnone
      · have hperm := @known_perm kindOfEvs _ _ hother
        have hrest := @List.Perm.foldl_eq' _ _
          (fun f setting => forget (applyEvs setting f)) _ _ hperm.symm
          (fun _ hmem _ hmem' f => forget_applyEvs_comm hconsistent hmem hmem' f) (forget {})
        have hmodes := foldl_modesAfter_perm hfree hperm
        have happly : applyAll (known kindOfEvs strOther) {} =
            applyAll (known kindOfEvs strFmtp) {} := by
          rw [← forget_applyAll, ← forget_applyAll] at hrest
          have hlist : (applyAll (known kindOfEvs strOther) {}).modeSetList =
              (applyAll (known kindOfEvs strFmtp) {}).modeSetList := by
            rw [modeSetList_applyAll, modeSetList_applyAll]
            exact hmodes
          have hboth (f : EvsFmtp) : f = { forget f with modeSetList := f.modeSetList } := rfl
          rw [hboth (applyAll (known kindOfEvs strOther) {}), hlist, ← hrest]
          exact (hboth _).symm
        rw [hparse hother, hparse (List.Perm.refl _), happly, hperm.isEmpty_eq]

end Evs

end ImsStack.Media.AudioFmtpText
