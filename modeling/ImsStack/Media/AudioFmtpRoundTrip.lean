import ImsStack.Media.AudioFmtpParameters

/-!
The formats of AMR and EVS through their text: what the parser makes of the text that the generator
writes, and which formats come back.
-/

namespace ImsStack.Media.AudioFmtpText

open ImsStack.Platform ImsStack.Platform.AString ImsStack.Platform.Numerals
open AudioProfile

/-! ### The parameters that are written -/

section Written

def amrPairs (f : AmrFmtp) : List (Chars × Chars) :=
  [] ++ modeSetPairs f.toAudioFmtp ++ numberPairs "octet-align" f.visibleOctetAlign f.octetAlign ++
    numberPairs "mode-change-capability" f.visibleModeChangeCapability f.modeChangeCapability ++
    numberPairs "mode-change-period" f.visibleModeChangePeriod f.modeChangePeriod ++
    numberPairs "mode-change-neighbor" f.visibleModeChangeNeighbor f.modeChangeNeighbor ++
    numberPairs "max-red" f.visibleMaxRed f.maxRed

theorem generateAmrFmtp_eq (f : AmrFmtp) : generateAmrFmtp f = joined (amrPairs f) := by
  unfold generateAmrFmtp amrPairs
  have hempty : ([] : Chars) = joined [] := rfl
  rw [hempty, addModeSetList_joined]
  unfold addOctetAlignToFmtp addModeChangeCapabilityToFmtp addModeChangePeriodToFmtp
    addModeChangeNeighborToFmtp addMaxRedToFmtp
  simp only [addNumber_joined]

theorem addDirection_joined {table : List Chars} (h : IsTable table) (ps : List (Chars × Chars))
    (strParameter : String) (nList : Int) :
    addDirection (joined ps) strParameter table nList =
      some (joined (ps ++ valuesPairs strParameter (nList != 0) table
        (BitVec.ofInt 32 nList))) := by
  unfold addDirection valuesPairs
  by_cases hzero : nList = 0
  · rw [hzero, if_neg (not_not_intro rfl), bne_self_eq_false, if_neg Bool.false_ne_true,
      List.append_nil]
  · have hknown : ∀ k ∈ listed table.length (BitVec.ofInt 32 nList), k < table.length :=
      fun k hk => ((mem_listed h.short).mp hk).1
    rw [if_pos hzero, if_pos (bne_iff_ne.mpr hzero), valuesText_eq_some hknown, Option.map_some,
      addParameter_joined]

theorem addBr_joined (f : EvsFmtp) (ps : List (Chars × Chars)) :
    addBrToFmtp f (joined ps) =
      some (joined (ps ++ valuesPairs "br" f.visibleBrList EVS_BR f.brList)) := by
  unfold addBrToFmtp valuesPairs
  cases f.visibleBrList with
  | false => rw [if_neg Bool.false_ne_true, if_neg Bool.false_ne_true, List.append_nil]
  | true =>
    have hknown : ∀ k ∈ listed EVS_BR.length f.brList, k < EVS_BR.length :=
      fun k hk => ((mem_listed isTable_EVS_BR.short).mp hk).1
    rw [if_pos rfl, if_pos rfl, valuesText_eq_some hknown, Option.map_some, addParameter_joined]

/-- The bandwidths that the loop finds are in the table. -/
def IsKnownBw (nList : BitVec 32) : Prop := ∀ k ∈ listed 12 nList, k < EVS_BW.length

theorem listed_of_isKnownBw {nList : BitVec 32} (h : IsKnownBw nList) :
    listed 12 nList = listed EVS_BW.length nList := by
  have hmore : (List.range' 4 8).filter (hasBit nList) = [] := by
    refine List.filter_eq_nil_iff.mpr fun k hk hbit => ?_
    obtain ⟨hle, hlt⟩ := List.mem_range'_1.mp hk
    have hmem : k ∈ listed 12 nList :=
      List.mem_filter.mpr ⟨List.mem_range.mpr (by omega), hbit⟩
    exact Nat.not_lt.mpr hle (h k hmem)
  have hsplit : List.range 12 = List.range 4 ++ List.range' 4 8 := rfl
  unfold listed
  rw [hsplit, List.filter_append, hmore, List.append_nil]
  rfl

theorem addBw_joined (f : EvsFmtp) (ps : List (Chars × Chars))
    (h : f.bwList ≠ 0 ∧ f.visibleBwList = true → IsKnownBw f.bwList) :
    addBwToFmtp f (joined ps) =
      some (joined (ps ++ valuesPairs "bw" (f.visibleBwList && f.bwList != 0) EVS_BW
        f.bwList)) := by
  unfold addBwToFmtp valuesPairs
  by_cases hwritten : f.bwList ≠ 0 ∧ f.visibleBwList = true
  · have hboth : (f.visibleBwList && f.bwList != 0) = true :=
      Bool.and_eq_true_iff.mpr ⟨hwritten.2, bne_iff_ne.mpr hwritten.1⟩
    rw [if_pos hwritten, if_pos hboth, valuesText_eq_some (h hwritten), Option.map_some,
      addParameter_joined]
    unfold listText
    rw [listed_of_isKnownBw (h hwritten)]
  · have hboth : ¬(f.visibleBwList && f.bwList != 0) = true := by
      intro hboth
      obtain ⟨hvisible, hlist⟩ := Bool.and_eq_true_iff.mp hboth
      exact hwritten ⟨bne_iff_ne.mp hlist, hvisible⟩
    rw [if_neg hwritten, if_neg hboth, List.append_nil]

theorem addBw_eq_none (f : EvsFmtp) (strFmtp : Chars)
    (hwritten : f.bwList ≠ 0 ∧ f.visibleBwList = true) (h : ¬IsKnownBw f.bwList) :
    addBwToFmtp f strFmtp = none := by
  unfold addBwToFmtp
  rw [if_pos hwritten, valuesText_eq]
  unfold IsKnownBw at h
  rw [not_forall] at h
  obtain ⟨k, h⟩ := h
  rw [Classical.not_imp, Nat.not_lt] at h
  rw [mapM_eq_none h.1 h.2]
  rfl

def evsPairs (f : EvsFmtp) : List (Chars × Chars) :=
  [] ++ numberPairs "dtx" f.visibleDtx (if f.dtx then 1 else 0) ++
    numberPairs "hf-only" f.visibleHfOnly f.hfOnly.toInt ++
    numberPairs "evs-mode-switch" f.visibleEvsModeSwitch f.evsModeSwitch.toInt ++
    numberPairs "max-red" f.visibleMaxRed f.maxRed ++
    valuesPairs "br" f.visibleBrList EVS_BR f.brList ++
    valuesPairs "bw" (f.visibleBwList && f.bwList != 0) EVS_BW f.bwList ++
    numberPairs "cmr" f.visibleCmr f.cmr ++
    numberPairs "ch-aw-recv" (f.visibleChannelAwMode && f.evsModeSwitch != 1) f.chAwRecv ++
    modeSetPairs f.toAudioFmtp ++
    numberPairs "mode-change-capability" (f.visibleModeChangeCapability && f.evsModeSwitch == 1)
      f.modeChangeCapability ++
    numberPairs "mode-change-period" (f.visibleModeChangePeriod && f.evsModeSwitch == 1)
      f.modeChangePeriod ++
    numberPairs "mode-change-neighbor" (f.visibleModeChangeNeighbor && f.evsModeSwitch == 1)
      f.modeChangeNeighbor ++
    valuesPairs "br-send" (f.brSend != 0) EVS_BR (BitVec.ofInt 32 f.brSend) ++
    valuesPairs "br-recv" (f.brRecv != 0) EVS_BR (BitVec.ofInt 32 f.brRecv) ++
    valuesPairs "bw-send" (f.bwSend != 0) EVS_BW (BitVec.ofInt 32 f.bwSend) ++
    valuesPairs "bw-recv" (f.bwRecv != 0) EVS_BW (BitVec.ofInt 32 f.bwRecv)

theorem addModeChanges_joined (f : EvsFmtp) (ps : List (Chars × Chars)) :
    addModeChangesToFmtp f (joined ps) = joined (ps ++
      numberPairs "mode-change-capability" (f.visibleModeChangeCapability && f.evsModeSwitch == 1)
        f.modeChangeCapability ++
      numberPairs "mode-change-period" (f.visibleModeChangePeriod && f.evsModeSwitch == 1)
        f.modeChangePeriod ++
      numberPairs "mode-change-neighbor" (f.visibleModeChangeNeighbor && f.evsModeSwitch == 1)
        f.modeChangeNeighbor) := by
  unfold addModeChangesToFmtp addModeChangeCapabilityToFmtp addModeChangePeriodToFmtp
    addModeChangeNeighborToFmtp
  by_cases hswitch : f.evsModeSwitch = 1
  · rw [if_pos hswitch, beq_iff_eq.mpr hswitch]
    simp only [addNumber_joined, Bool.and_true]
  · rw [if_neg hswitch, beq_eq_false_iff_ne.mpr hswitch]
    simp only [Bool.and_false, numberPairs, if_neg Bool.false_ne_true, List.append_nil]

theorem generateEvsFmtp_eq (f : EvsFmtp)
    (h : f.bwList ≠ 0 ∧ f.visibleBwList = true → IsKnownBw f.bwList) :
    generateEvsFmtp f = some (joined (evsPairs f)) := by
  have hempty : ([] : Chars) = joined [] := rfl
  unfold generateEvsFmtp
  rw [hempty]
  unfold addDtxToFmtp addHfOnlyToFmtp addEvsModeSwitchToFmtp addMaxRedToFmtp
  simp only [addNumber_joined]
  rw [addBr_joined, Option.bind_some, addBw_joined f _ h, Option.bind_some]
  unfold addCmrToFmtp addChannelAwModeToFmtp
  simp only [addNumber_joined]
  rw [addModeSetList_joined, addModeChanges_joined]
  unfold addBrSendToFmtp addBrRecvToFmtp addBwSendToFmtp addBwRecvToFmtp
  simp only [addDirection_joined isTable_EVS_BR, addDirection_joined isTable_EVS_BW,
    Option.bind_some]
  rfl

theorem generateEvsFmtp_eq_none (f : EvsFmtp)
    (hwritten : f.bwList ≠ 0 ∧ f.visibleBwList = true) (h : ¬IsKnownBw f.bwList) :
    generateEvsFmtp f = none := by
  unfold generateEvsFmtp
  simp only [addBw_eq_none f _ hwritten h]
  cases addBrToFmtp f (addMaxRedToFmtp f.toAudioFmtp (addEvsModeSwitchToFmtp f
    (addHfOnlyToFmtp f (addDtxToFmtp f.toAudioFmtp [])))) with
  | none => rfl
  | some strFmtp => rfl

end Written

/-! ### What is read back -/

section Reread

/-- A number that is written comes back as it is read; one that is not has its default. -/
def rereadNumber (bWritten : Bool) (nValue nDefault : Int) : Int :=
  bif bWritten then toInt32 (setNumber nValue) else nDefault

def rereadAmr (f : AmrFmtp) : AmrFmtp where
  modeSetList := bif hasModes f.toAudioFmtp then 0 ||| modeBits f.modeSetList else 0
  visibleModeSet := hasModes f.toAudioFmtp
  modeChangeCapability :=
    rereadNumber f.visibleModeChangeCapability f.modeChangeCapability 2
  visibleModeChangeCapability := f.visibleModeChangeCapability
  modeChangePeriod := rereadNumber f.visibleModeChangePeriod f.modeChangePeriod 1
  visibleModeChangePeriod := f.visibleModeChangePeriod
  modeChangeNeighbor := rereadNumber f.visibleModeChangeNeighbor f.modeChangeNeighbor 0
  visibleModeChangeNeighbor := f.visibleModeChangeNeighbor
  maxRed := rereadNumber f.visibleMaxRed f.maxRed 0
  visibleMaxRed := f.visibleMaxRed
  octetAlign := rereadNumber f.visibleOctetAlign f.octetAlign 0
  visibleOctetAlign := f.visibleOctetAlign

theorem isPair_amrPairs (f : AmrFmtp) : ∀ p ∈ amrPairs f, IsPair p := by
  unfold amrPairs
  simp only [List.forall_mem_append]
  exact ⟨⟨⟨⟨⟨⟨fun _ hp => absurd hp List.not_mem_nil, isPair_modeSetPairs _⟩,
    isPair_numberPairs (by decide) _⟩, isPair_numberPairs (by decide) _⟩,
    isPair_numberPairs (by decide) _⟩, isPair_numberPairs (by decide) _⟩,
    isPair_numberPairs (by decide) _⟩

theorem parameters_of_pairs {ps : List (Chars × Chars)} (h : ∀ p ∈ ps, IsPair p) {α : Type}
    {parse : Parse α} {change : α → α} {found : Bool} (hsteps : Steps parse ps change found)
    (fmtp : α) :
    parseParameters parse (parameters (joined ps)) (fmtp, false) = some (change fmtp, found) := by
  rw [parameters_joined h, hsteps, Bool.or_false]

theorem Steps.start {α : Type} (parse : Parse α) : Steps parse [] (fun fmtp => fmtp) false :=
  fun _ _ => rfl

theorem readModes_amr (f : AudioFmtp) (hmodes : modes f.modeSetList ≠ []) (fmtp : AmrFmtp) :
    parseAmrParameter "mode-set".toList (modeSetText f.modeSetList) fmtp =
      some (some { fmtp with
        modeSetList := fmtp.modeSetList ||| modeBits f.modeSetList
        visibleModeSet := true }) := by
  have hread : parseAmrParameter "mode-set".toList (modeSetText f.modeSetList) fmtp =
      some (((readModes fmtp.modeSetList (split ',' (modeSetText f.modeSetList))).map fun nList =>
        { fmtp.toAudioFmtp with modeSetList := nList, visibleModeSet := true }).map fun audio =>
        { fmtp with toAudioFmtp := audio }) := rfl
  rw [hread, readModes_modeSetText hmodes]
  rfl

theorem steps_amrPairs (f : AmrFmtp) :
    ∃ change found, Steps parseAmrParameter (amrPairs f) change found ∧
      change {} = rereadAmr f := by
  have hstart := Steps.start parseAmrParameter
  have hmodeSet := hstart.append (steps_modeSetPairs f.toAudioFmtp
    (fun c fmtp => { fmtp with
      modeSetList := bif c then fmtp.modeSetList ||| modeBits f.modeSetList
        else fmtp.modeSetList
      visibleModeSet := c || fmtp.visibleModeSet })
    (readModes_amr f.toAudioFmtp) fun _ => rfl)
  have hoctetAlign := hmodeSet.append (steps_numberPairs "octet-align" f.octetAlign
    f.visibleOctetAlign
    (fun c fmtp => { fmtp with
      octetAlign := rereadNumber c f.octetAlign fmtp.octetAlign
      visibleOctetAlign := c || fmtp.visibleOctetAlign })
    (fun _ => rfl) fun _ => rfl)
  have hcapability := hoctetAlign.append (steps_numberPairs "mode-change-capability"
    f.modeChangeCapability f.visibleModeChangeCapability
    (fun c fmtp => { fmtp with
      modeChangeCapability := rereadNumber c f.modeChangeCapability fmtp.modeChangeCapability
      visibleModeChangeCapability := c || fmtp.visibleModeChangeCapability })
    (fun _ => rfl) fun _ => rfl)
  have hperiod := hcapability.append (steps_numberPairs "mode-change-period"
    f.modeChangePeriod f.visibleModeChangePeriod
    (fun c fmtp => { fmtp with
      modeChangePeriod := rereadNumber c f.modeChangePeriod fmtp.modeChangePeriod
      visibleModeChangePeriod := c || fmtp.visibleModeChangePeriod })
    (fun _ => rfl) fun _ => rfl)
  have hneighbor := hperiod.append (steps_numberPairs "mode-change-neighbor"
    f.modeChangeNeighbor f.visibleModeChangeNeighbor
    (fun c fmtp => { fmtp with
      modeChangeNeighbor := rereadNumber c f.modeChangeNeighbor fmtp.modeChangeNeighbor
      visibleModeChangeNeighbor := c || fmtp.visibleModeChangeNeighbor })
    (fun _ => rfl) fun _ => rfl)
  have hmaxRed := hneighbor.append (steps_numberPairs "max-red" f.maxRed f.visibleMaxRed
    (fun c fmtp => { fmtp with
      maxRed := rereadNumber c f.maxRed fmtp.maxRed
      visibleMaxRed := c || fmtp.visibleMaxRed })
    (fun _ => rfl) fun _ => rfl)
  refine ⟨_, _, hmaxRed, ?_⟩
  unfold rereadAmr
  simp only [Bool.or_false]

theorem parse_generateAmr (f : AmrFmtp) :
    (parseFmtpOfAmr (generateAmrFmtp f)).map Prod.fst = some (rereadAmr f) := by
  obtain ⟨change, found, hsteps, hchange⟩ := steps_amrPairs f
  unfold parseFmtpOfAmr
  rw [generateAmrFmtp_eq, parameters_of_pairs (isPair_amrPairs f) hsteps, ← hchange]
  rfl

/-- A word that is written comes back as it is read; one that is not is zero. -/
def rereadWord (bWritten : Bool) (nValue nDefault : BitVec 32) : BitVec 32 :=
  bif bWritten then BitVec.ofInt 32 (toInt32 (setNumber nValue.toInt)) else nDefault

/-- A list that is written comes back as the range from its first to its last value. -/
def rereadList (bWritten : Bool) (table : List Chars) (nList : BitVec 32) : BitVec 32 :=
  bif bWritten && hull table.length nList != 0 then 0 ||| hull table.length nList else 0

def rereadDirection (table : List Chars) (nList : Int) : Int :=
  bif nList != 0 && hull table.length (BitVec.ofInt 32 nList) != 0 then
    addBits 0 (hull table.length (BitVec.ofInt 32 nList))
  else 0

/-- Before the rates and bandwidths are completed. -/
def rereadEvsParameters (f : EvsFmtp) : EvsFmtp where
  dtx := bif f.visibleDtx then toInt32 (setNumber (if f.dtx then 1 else 0)) != 0 else true
  visibleDtx := f.visibleDtx
  hfOnly := rereadWord f.visibleHfOnly f.hfOnly 0
  visibleHfOnly := f.visibleHfOnly
  evsModeSwitch := rereadWord f.visibleEvsModeSwitch f.evsModeSwitch 0
  visibleEvsModeSwitch := f.visibleEvsModeSwitch
  modeSetList :=
    bif hasModes f.toAudioFmtp then
      (bif f.visibleEvsModeSwitch then FULL_MODESET_AMRWB else 0) ||| modeBits f.modeSetList
    else bif f.visibleEvsModeSwitch then FULL_MODESET_AMRWB else 0
  visibleModeSet := hasModes f.toAudioFmtp
  maxRed := rereadNumber f.visibleMaxRed f.maxRed 0
  visibleMaxRed := f.visibleMaxRed
  brList := rereadList f.visibleBrList EVS_BR f.brList
  bwList := rereadList (f.visibleBwList && f.bwList != 0) EVS_BW f.bwList
  cmr := rereadNumber f.visibleCmr f.cmr 0
  visibleCmr := f.visibleCmr
  chAwRecv := rereadNumber (f.visibleChannelAwMode && f.evsModeSwitch != 1) f.chAwRecv 0
  receivedChAwRecv := rereadNumber (f.visibleChannelAwMode && f.evsModeSwitch != 1) f.chAwRecv 0
  visibleChannelAwMode := f.visibleChannelAwMode && f.evsModeSwitch != 1
  modeChangeCapability :=
    rereadNumber (f.visibleModeChangeCapability && f.evsModeSwitch == 1) f.modeChangeCapability 2
  visibleModeChangeCapability := f.visibleModeChangeCapability && f.evsModeSwitch == 1
  modeChangePeriod :=
    rereadNumber (f.visibleModeChangePeriod && f.evsModeSwitch == 1) f.modeChangePeriod 1
  visibleModeChangePeriod := f.visibleModeChangePeriod && f.evsModeSwitch == 1
  modeChangeNeighbor :=
    rereadNumber (f.visibleModeChangeNeighbor && f.evsModeSwitch == 1) f.modeChangeNeighbor 0
  visibleModeChangeNeighbor := f.visibleModeChangeNeighbor && f.evsModeSwitch == 1
  brRecv := rereadDirection EVS_BR f.brSend
  brSend := rereadDirection EVS_BR f.brRecv
  bwRecv := rereadDirection EVS_BW f.bwSend
  bwSend := rereadDirection EVS_BW f.bwRecv

theorem readModes_evs (f : AudioFmtp) (hmodes : modes f.modeSetList ≠ []) (fmtp : EvsFmtp) :
    parseEvsParameter "mode-set".toList (modeSetText f.modeSetList) fmtp =
      some (some { fmtp with
        modeSetList := fmtp.modeSetList ||| modeBits f.modeSetList
        visibleModeSet := true }) := by
  have hread : parseEvsParameter "mode-set".toList (modeSetText f.modeSetList) fmtp =
      some (((readModes fmtp.modeSetList (split ',' (modeSetText f.modeSetList))).map fun nList =>
        { fmtp.toAudioFmtp with modeSetList := nList, visibleModeSet := true }).map fun audio =>
        { fmtp with toAudioFmtp := audio }) := rfl
  rw [hread, readModes_modeSetText hmodes]
  rfl

/-- Whether a list of rates is written that the parser finds. -/
def hasRates (f : EvsFmtp) : Bool :=
  (f.visibleBrList && hull EVS_BR.length f.brList != 0) ||
    (f.brSend != 0 && hull EVS_BR.length (BitVec.ofInt 32 f.brSend) != 0) ||
    (f.brRecv != 0 && hull EVS_BR.length (BitVec.ofInt 32 f.brRecv) != 0)

theorem steps_evsPairs (f : EvsFmtp) :
    ∃ change found, Steps parseEvsParameter (evsPairs f) change found ∧
      change {} = rereadEvsParameters f ∧ (hasRates f = true → found = true) := by
  have hstart := Steps.start parseEvsParameter
  have hdtx := hstart.append (steps_numberPairs "dtx" (if f.dtx then 1 else 0)
    f.visibleDtx
    (fun c fmtp => { fmtp with
      dtx := bif c then toInt32 (setNumber (if f.dtx then 1 else 0)) != 0 else fmtp.dtx
      visibleDtx := c || fmtp.visibleDtx })
    (fun _ => rfl) fun _ => rfl)
  have hhfOnly := hdtx.append (steps_numberPairs "hf-only" f.hfOnly.toInt
    f.visibleHfOnly
    (fun c fmtp => { fmtp with
      hfOnly := rereadWord c f.hfOnly fmtp.hfOnly
      visibleHfOnly := c || fmtp.visibleHfOnly })
    (fun _ => rfl) fun _ => rfl)
  have hswitch := hhfOnly.append (steps_numberPairs "evs-mode-switch" f.evsModeSwitch.toInt
    f.visibleEvsModeSwitch
    (fun c fmtp => { fmtp with
      evsModeSwitch := rereadWord c f.evsModeSwitch fmtp.evsModeSwitch
      modeSetList :=
        bif c then if fmtp.modeSetList = 0 then FULL_MODESET_AMRWB else fmtp.modeSetList
        else fmtp.modeSetList
      visibleEvsModeSwitch := c || fmtp.visibleEvsModeSwitch })
    (fun _ => rfl) fun _ => rfl)
  have hmaxRed := hswitch.append (steps_numberPairs "max-red" f.maxRed
    f.visibleMaxRed
    (fun c fmtp => { fmtp with
      maxRed := rereadNumber c f.maxRed fmtp.maxRed
      visibleMaxRed := c || fmtp.visibleMaxRed })
    (fun _ => rfl) fun _ => rfl)
  have hbr := hmaxRed.append (steps_valuesPairs "br" f.visibleBrList isTable_EVS_BR f.brList
    (fun c fmtp => { fmtp with
      brList := bif c then fmtp.brList ||| hull EVS_BR.length f.brList else fmtp.brList })
    (fun _ hread _ => by rw [← hread]; rfl) fun _ => rfl)
  have hbw := hbr.append (steps_valuesPairs "bw" (f.visibleBwList && f.bwList != 0) isTable_EVS_BW
    f.bwList
    (fun c fmtp => { fmtp with
      bwList := bif c then fmtp.bwList ||| hull EVS_BW.length f.bwList else fmtp.bwList })
    (fun _ hread _ => by rw [← hread]; rfl) fun _ => rfl)
  have hcmr := hbw.append (steps_numberPairs "cmr" f.cmr
    f.visibleCmr
    (fun c fmtp => { fmtp with
      cmr := rereadNumber c f.cmr fmtp.cmr
      visibleCmr := c || fmtp.visibleCmr })
    (fun _ => rfl) fun _ => rfl)
  have hchannelAw := hcmr.append (steps_numberPairs "ch-aw-recv" f.chAwRecv
    (f.visibleChannelAwMode && f.evsModeSwitch != 1)
    (fun c fmtp => { fmtp with
      chAwRecv := rereadNumber c f.chAwRecv fmtp.chAwRecv
      receivedChAwRecv := rereadNumber c f.chAwRecv fmtp.receivedChAwRecv
      visibleChannelAwMode := c || fmtp.visibleChannelAwMode })
    (fun _ => rfl) fun _ => rfl)
  have hmodeSet := hchannelAw.append (steps_modeSetPairs f.toAudioFmtp
    (fun c fmtp => { fmtp with
      modeSetList := bif c then fmtp.modeSetList ||| modeBits f.modeSetList
        else fmtp.modeSetList
      visibleModeSet := c || fmtp.visibleModeSet })
    (readModes_evs f.toAudioFmtp) fun _ => rfl)
  have hcapability := hmodeSet.append (steps_numberPairs "mode-change-capability"
    f.modeChangeCapability
    (f.visibleModeChangeCapability && f.evsModeSwitch == 1)
    (fun c fmtp => { fmtp with
      modeChangeCapability := rereadNumber c f.modeChangeCapability fmtp.modeChangeCapability
      visibleModeChangeCapability := c || fmtp.visibleModeChangeCapability })
    (fun _ => rfl) fun _ => rfl)
  have hperiod := hcapability.append (steps_numberPairs "mode-change-period" f.modeChangePeriod
    (f.visibleModeChangePeriod && f.evsModeSwitch == 1)
    (fun c fmtp => { fmtp with
      modeChangePeriod := rereadNumber c f.modeChangePeriod fmtp.modeChangePeriod
      visibleModeChangePeriod := c || fmtp.visibleModeChangePeriod })
    (fun _ => rfl) fun _ => rfl)
  have hneighbor := hperiod.append (steps_numberPairs "mode-change-neighbor" f.modeChangeNeighbor
    (f.visibleModeChangeNeighbor && f.evsModeSwitch == 1)
    (fun c fmtp => { fmtp with
      modeChangeNeighbor := rereadNumber c f.modeChangeNeighbor fmtp.modeChangeNeighbor
      visibleModeChangeNeighbor := c || fmtp.visibleModeChangeNeighbor })
    (fun _ => rfl) fun _ => rfl)
  have hbrSend := hneighbor.append (steps_valuesPairs "br-send" (f.brSend != 0) isTable_EVS_BR
    (BitVec.ofInt 32 f.brSend)
    (fun c fmtp => { fmtp with
      brRecv := bif c then addBits fmtp.brRecv (hull EVS_BR.length (BitVec.ofInt 32 f.brSend))
        else fmtp.brRecv })
    (fun _ hread _ => by rw [← hread]; rfl) fun _ => rfl)
  have hbrRecv := hbrSend.append (steps_valuesPairs "br-recv" (f.brRecv != 0) isTable_EVS_BR
    (BitVec.ofInt 32 f.brRecv)
    (fun c fmtp => { fmtp with
      brSend := bif c then addBits fmtp.brSend (hull EVS_BR.length (BitVec.ofInt 32 f.brRecv))
        else fmtp.brSend })
    (fun _ hread _ => by rw [← hread]; rfl) fun _ => rfl)
  have hbwSend := hbrRecv.append (steps_valuesPairs "bw-send" (f.bwSend != 0) isTable_EVS_BW
    (BitVec.ofInt 32 f.bwSend)
    (fun c fmtp => { fmtp with
      bwRecv := bif c then addBits fmtp.bwRecv (hull EVS_BW.length (BitVec.ofInt 32 f.bwSend))
        else fmtp.bwRecv })
    (fun _ hread _ => by rw [← hread]; rfl) fun _ => rfl)
  have hbwRecv := hbwSend.append (steps_valuesPairs "bw-recv" (f.bwRecv != 0) isTable_EVS_BW
    (BitVec.ofInt 32 f.bwRecv)
    (fun c fmtp => { fmtp with
      bwSend := bif c then addBits fmtp.bwSend (hull EVS_BW.length (BitVec.ofInt 32 f.bwRecv))
        else fmtp.bwSend })
    (fun _ hread _ => by rw [← hread]; rfl) fun _ => rfl)
  refine ⟨_, _, hbwRecv, ?_, ?_⟩
  · unfold rereadEvsParameters
    simp only [Bool.or_false]
    rfl
  · unfold hasRates
    intro hrates
    rcases Bool.or_eq_true_iff.mp hrates with hrates | hrates
    · rcases Bool.or_eq_true_iff.mp hrates with hrates | hrates
      · simp only [hrates, Bool.true_or, Bool.or_true]
      · simp only [hrates, Bool.true_or, Bool.or_true]
    · simp only [hrates, Bool.true_or, Bool.or_true]

theorem isPair_evsPairs (f : EvsFmtp) : ∀ p ∈ evsPairs f, IsPair p := by
  unfold evsPairs
  simp only [List.forall_mem_append]
  refine ⟨⟨⟨⟨⟨⟨⟨⟨⟨⟨⟨⟨⟨⟨⟨⟨?_, ?_⟩, ?_⟩, ?_⟩, ?_⟩, ?_⟩, ?_⟩, ?_⟩, ?_⟩, ?_⟩, ?_⟩, ?_⟩, ?_⟩,
    ?_⟩, ?_⟩, ?_⟩, ?_⟩
  · exact fun _ hp => absurd hp List.not_mem_nil
  all_goals
    first
    | exact isPair_modeSetPairs _
    | exact isPair_numberPairs (by decide) _
    | exact isPair_valuesPairs (by decide) isTable_EVS_BR _
    | exact isPair_valuesPairs (by decide) isTable_EVS_BW _

def rereadEvs (f : EvsFmtp) : EvsFmtp :=
  setEvsBwVisible (setEvsBrVisible (setEvsFullBw (setEvsFullBr (rereadEvsParameters f))))

theorem parse_generateEvs (f : EvsFmtp)
    (h : f.bwList ≠ 0 ∧ f.visibleBwList = true → IsKnownBw f.bwList) :
    ∃ found, (hasRates f = true → found = true) ∧
      (generateEvsFmtp f).bind parseFmtpOfEvs =
        some (if found then some (rereadEvs f) else none) := by
  obtain ⟨change, found, hsteps, hchange, hfound⟩ := steps_evsPairs f
  refine ⟨found, hfound, ?_⟩
  unfold parseFmtpOfEvs rereadEvs
  rw [generateEvsFmtp_eq f h, Option.bind_some, parameters_of_pairs (isPair_evsPairs f) hsteps,
    ← hchange]
  rfl

end Reread

/-! ### Which formats come back -/

section Faithful

variable {n d : Int} {v w : Bool} {bits : BitVec 32} {table : List Chars}

def IsWord (n : Int) : Prop := -2 ^ 31 ≤ n ∧ n < 2 ^ 31

/-- A number that is visible is one of 32 bits, and one that is not has its default. -/
def Returns (bVisible : Bool) (nValue nDefault : Int) : Prop :=
  if bVisible then IsWord nValue else nValue = nDefault

theorem toInt32_setNumber_iff : toInt32 (setNumber n) = n ↔ IsWord n := by
  constructor
  · intro h
    have hrange := toInt32_range (setNumber n)
    rwa [h] at hrange
  · rintro ⟨hlow, hhigh⟩
    exact toInt32_setNumber hlow hhigh

theorem rereadNumber_iff : rereadNumber v n d = n ↔ Returns v n d := by
  unfold rereadNumber Returns
  cases v with
  | false => exact eq_comm
  | true => exact toInt32_setNumber_iff

theorem rereadNumber_and_iff :
    rereadNumber (v && w) n d = n ∧ (v && w) = v ↔ (v = true → w = true) ∧ Returns v n d := by
  constructor
  · rintro ⟨hnumber, hflag⟩
    rw [hflag, rereadNumber_iff] at hnumber
    refine ⟨fun hv => ?_, hnumber⟩
    rw [hv, Bool.true_and] at hflag
    exact hflag
  · rintro ⟨hflag, hnumber⟩
    have hand : (v && w) = v := by
      cases v with
      | false => rfl
      | true => exact hflag rfl
    rw [hand, rereadNumber_iff]
    exact ⟨hnumber, rfl⟩

theorem toInt_bounds (bits : BitVec 32) : IsWord bits.toInt :=
  ⟨BitVec.le_toInt bits, BitVec.toInt_lt⟩

theorem rereadWord_iff : rereadWord v bits 0 = bits ↔ (v = false → bits = 0) := by
  unfold rereadWord
  cases v with
  | false => exact ⟨fun h _ => h.symm, fun h => (h rfl).symm⟩
  | true =>
    have hbounds := toInt_bounds bits
    rw [cond_true, toInt32_setNumber hbounds.1 hbounds.2, BitVec.ofInt_toInt]
    exact ⟨fun _ h => absurd h (by decide), fun _ => rfl⟩

/-- The bits of a number with a sign are those of one range. -/
def IsDirection (nEnd : Nat) (nList : Int) : Prop :=
  IsRun nEnd (BitVec.ofInt 32 nList) ∧ IsWord nList

theorem toInt_ofInt (h : IsWord n) : (BitVec.ofInt 32 n).toInt = n :=
  BitVec.toInt_ofInt_eq_self (by decide) h.1 h.2

theorem ofInt_eq_zero (h : IsWord n) (hzero : BitVec.ofInt 32 n = 0) : n = 0 := by
  rw [← toInt_ofInt h, hzero]
  rfl

theorem rereadDirection_iff (h : table.length ≤ 32) :
    rereadDirection table n = n ↔ IsDirection table.length n := by
  have hadd (bits : BitVec 32) : addBits 0 bits = bits.toInt :=
    congrArg BitVec.toInt BitVec.zero_or
  unfold rereadDirection IsDirection
  rw [← hull_eq_self_iff h]
  by_cases hzero : n = 0
  · subst hzero
    refine ⟨fun _ => ⟨(hull_eq_self_iff h).mpr (.inl rfl), by decide, by decide⟩, fun _ => rfl⟩
  · rw [bne_iff_ne.mpr hzero, Bool.true_and]
    by_cases hhull : hull table.length (BitVec.ofInt 32 n) = 0
    · rw [hhull, bne_self_eq_false, cond_false]
      exact ⟨fun heq => absurd heq.symm hzero,
        fun heq => absurd (ofInt_eq_zero heq.2 heq.1.symm) hzero⟩
    · rw [bne_iff_ne.mpr hhull, cond_true, hadd]
      constructor
      · intro heq
        have hword := toInt_bounds (hull table.length (BitVec.ofInt 32 n))
        rw [heq] at hword
        refine ⟨?_, hword⟩
        rw [← BitVec.ofInt_toInt (x := hull table.length (BitVec.ofInt 32 n)), heq]
      · rintro ⟨heq, hword⟩
        rw [heq, toInt_ofInt hword]

/-- The rates or bandwidths of both directions, and those that both have in common.  A list is
visible where not both directions have their own one. -/
structure IsRates (nEnd : Nat) (nList : BitVec 32) (nSend nRecv : Int) (bVisible : Bool) :
    Prop where
  send : IsDirection nEnd nSend
  recv : IsDirection nEnd nRecv
  visible : bVisible = true ↔ nSend = 0 ∨ nRecv = 0
  shown : bVisible = true → IsRun nEnd nList ∧ (nList = 0 → nSend ≠ 0 ∨ nRecv ≠ 0)
  hidden : bVisible = false → nList = 0

/-- What is read for the lists, after they have been completed. -/
def rereadFull (table : List Chars) (full nList : BitVec 32) (nSend nRecv : Int)
    (bVisible : Bool) : BitVec 32 :=
  if rereadList bVisible table nList = 0 ∧ rereadDirection table nSend = 0 ∧
      rereadDirection table nRecv = 0 then full
  else rereadList bVisible table nList

theorem rereadList_eq (table : List Chars) (nList : BitVec 32) :
    rereadList v table nList = bif v then hull table.length nList else 0 := by
  unfold rereadList
  cases v with
  | false => rfl
  | true =>
    by_cases hhull : hull table.length nList = 0
    · rw [hhull, bne_self_eq_false]
      rfl
    · rw [bne_iff_ne.mpr hhull]
      exact BitVec.zero_or

theorem hull_zero (h : table.length ≤ 32) : hull table.length 0 = 0 :=
  (hull_eq_self_iff h).mpr (.inl rfl)

theorem rereadList_and (h : table.length ≤ 32) (nList : BitVec 32) :
    rereadList (v && nList != 0) table nList = rereadList v table nList := by
  by_cases hzero : nList = 0
  · subst hzero
    rw [rereadList_eq, rereadList_eq, hull_zero h]
    cases v with
    | false => rfl
    | true => rfl
  · rw [bne_iff_ne.mpr hzero, Bool.and_true]

theorem rates_iff (h : table.length ≤ 32) {full nList : BitVec 32} (hfull : full ≠ 0)
    (hrun : IsRun table.length full) {nSend nRecv : Int} :
    rereadFull table full nList nSend nRecv v = nList ∧
        (if rereadDirection table nSend ≠ 0 ∧ rereadDirection table nRecv ≠ 0 then false
          else true) = v ∧
        rereadDirection table nSend = nSend ∧ rereadDirection table nRecv = nRecv ↔
      IsRates table.length nList nSend nRecv v := by
  have hfullHull := (hull_eq_self_iff h).mpr hrun
  constructor
  · rintro ⟨hlist, hvisible, hsend, hrecv⟩
    unfold rereadFull at hlist
    rw [hsend, hrecv] at hlist hvisible
    have hiff : v = true ↔ nSend = 0 ∨ nRecv = 0 := by
      rw [← hvisible]
      by_cases hboth : nSend ≠ 0 ∧ nRecv ≠ 0
      · rw [if_pos hboth]
        exact ⟨fun hfalse => absurd hfalse Bool.false_ne_true,
          fun hzero => absurd hzero (not_or.mpr hboth)⟩
      · rw [if_neg hboth]
        refine ⟨fun _ => ?_, fun _ => rfl⟩
        by_cases hzero : nSend = 0
        · exact .inl hzero
        · exact .inr (not_not.mp fun hne => hboth ⟨hzero, hne⟩)
    refine ⟨(rereadDirection_iff h).mp hsend, (rereadDirection_iff h).mp hrecv, hiff, ?_, ?_⟩
    · intro hv
      rw [hv, rereadList_eq, cond_true] at hlist
      by_cases hempty : hull table.length nList = 0 ∧ nSend = 0 ∧ nRecv = 0
      · rw [if_pos hempty] at hlist
        rw [← hlist, hfullHull] at hempty
        exact absurd hempty.1 hfull
      · rw [if_neg hempty] at hlist
        refine ⟨(hull_eq_self_iff h).mp hlist, fun hzero => ?_⟩
        rw [hlist] at hempty
        by_cases hsendZero : nSend = 0
        · exact .inr fun hrecvZero => hempty ⟨hzero, hsendZero, hrecvZero⟩
        · exact .inl hsendZero
    · intro hv
      rw [hv, rereadList_eq, cond_false] at hlist
      have hne : ¬((0 : BitVec 32) = 0 ∧ nSend = 0 ∧ nRecv = 0) := by
        intro hall
        rw [hiff.mpr (.inl hall.2.1)] at hv
        exact Bool.false_ne_true hv.symm
      rw [if_neg hne] at hlist
      exact hlist.symm
  · intro hrates
    have hsend := (rereadDirection_iff h).mpr hrates.send
    have hrecv := (rereadDirection_iff h).mpr hrates.recv
    unfold rereadFull
    rw [hsend, hrecv]
    refine ⟨?_, ?_, rfl, rfl⟩
    · cases v with
      | false =>
        have hzero := hrates.hidden rfl
        rw [rereadList_eq, cond_false, hzero]
        have hne : ¬((0 : BitVec 32) = 0 ∧ nSend = 0 ∧ nRecv = 0) := by
          intro hall
          exact Bool.false_ne_true (hrates.visible.mpr (.inl hall.2.1))
        exact if_neg hne
      | true =>
        obtain ⟨hshown, hsome⟩ := hrates.shown rfl
        rw [rereadList_eq, cond_true, (hull_eq_self_iff h).mpr hshown]
        refine if_neg ?_
        rintro ⟨hzero, hsendZero, hrecvZero⟩
        rcases hsome hzero with hne | hne
        · exact hne hsendZero
        · exact hne hrecvZero
    · by_cases hboth : nSend ≠ 0 ∧ nRecv ≠ 0
      · rw [if_pos hboth]
        have hnot : ¬v = true := fun hv => not_or.mpr hboth (hrates.visible.mp hv)
        exact (Bool.not_eq_true v ▸ hnot).symm
      · rw [if_neg hboth]
        refine (hrates.visible.mpr ?_).symm
        by_cases hzero : nSend = 0
        · exact .inl hzero
        · exact .inr (not_not.mp fun hne => hboth ⟨hzero, hne⟩)

/-- The modes that are in the text with their flag: own modes, and all of them where the mode
switch is in the text. -/
def IsModes (bSwitched bVisible : Bool) (nModeSetList : BitVec 32) : Prop :=
  if bSwitched then nModeSetList = FULL_MODESET_AMRWB
  else if bVisible then nModeSetList ≠ 0 ∧ nModeSetList &&& FULL_MODESET_AMRWB = nModeSetList
  else nModeSetList = 0

theorem modeSet_iff (f : AudioFmtp) (bSwitched : Bool) :
    (bif hasModes f then
          (bif bSwitched then FULL_MODESET_AMRWB else 0) ||| modeBits f.modeSetList
        else bif bSwitched then FULL_MODESET_AMRWB else 0) = f.modeSetList ∧
      hasModes f = f.visibleModeSet ↔ IsModes bSwitched f.visibleModeSet f.modeSetList := by
  have hor : FULL_MODESET_AMRWB ||| modeBits f.modeSetList = FULL_MODESET_AMRWB := by
    refine BitVec.eq_of_getLsbD_eq fun k _ => ?_
    rw [BitVec.getLsbD_or, modeBits, BitVec.getLsbD_and]
    cases FULL_MODESET_AMRWB.getLsbD k with
    | false => rw [Bool.and_false, Bool.or_false]
    | true => rw [Bool.true_or]
  have hfull : modeBits FULL_MODESET_AMRWB ≠ 0 := by decide
  unfold IsModes hasModes
  cases bSwitched with
  | true =>
    rw [if_pos rfl, cond_true, hor]
    constructor
    · rintro ⟨hlist, -⟩
      cases hshown : f.visibleModeSet && modeBits f.modeSetList != 0 with
      | false =>
        rw [hshown] at hlist
        exact hlist.symm
      | true =>
        rw [hshown] at hlist
        exact hlist.symm
    · intro hlist
      rw [hlist, bne_iff_ne.mpr hfull, Bool.and_true]
      cases f.visibleModeSet with
      | false => exact ⟨rfl, rfl⟩
      | true => exact ⟨rfl, rfl⟩
  | false =>
    rw [if_neg Bool.false_ne_true, cond_false]
    cases f.visibleModeSet with
    | false =>
      rw [if_neg Bool.false_ne_true, Bool.false_and, cond_false]
      exact ⟨fun h => h.1.symm, fun h => ⟨h.symm, rfl⟩⟩
    | true =>
      rw [if_pos rfl, Bool.true_and]
      constructor
      · rintro ⟨hlist, hshown⟩
        rw [hshown, cond_true] at hlist
        have hbits : modeBits f.modeSetList = f.modeSetList := BitVec.zero_or.symm.trans hlist
        rw [hbits] at hshown
        exact ⟨bne_iff_ne.mp hshown, hbits⟩
      · rintro ⟨hne, hbits⟩
        have hmodes : modeBits f.modeSetList = f.modeSetList := hbits
        rw [hmodes, bne_iff_ne.mpr hne]
        exact ⟨BitVec.zero_or, rfl⟩

/-- What a format of AMR has to be to come back from its text: modes and numbers that are visible
are in their range, and whatever is not in the text has its default. -/
structure IsFaithfulAmr (f : AmrFmtp) : Prop where
  modeSet : IsModes false f.visibleModeSet f.modeSetList
  octetAlign : Returns f.visibleOctetAlign f.octetAlign 0
  modeChangeCapability : Returns f.visibleModeChangeCapability f.modeChangeCapability 2
  modeChangePeriod : Returns f.visibleModeChangePeriod f.modeChangePeriod 1
  modeChangeNeighbor : Returns f.visibleModeChangeNeighbor f.modeChangeNeighbor 0
  maxRed : Returns f.visibleMaxRed f.maxRed 0
  defaultRtpModeSet : f.defaultRtpModeSet = 0
  dtx : f.dtx = true ∧ f.visibleDtx = false

theorem audio_ext_iff {a b : AudioFmtp} : a = b ↔
    a.modeSetList = b.modeSetList ∧ a.defaultRtpModeSet = b.defaultRtpModeSet ∧
      a.modeChangeCapability = b.modeChangeCapability ∧
      a.modeChangePeriod = b.modeChangePeriod ∧ a.modeChangeNeighbor = b.modeChangeNeighbor ∧
      a.maxRed = b.maxRed ∧ a.dtx = b.dtx ∧ a.visibleModeSet = b.visibleModeSet ∧
      a.visibleModeChangeCapability = b.visibleModeChangeCapability ∧
      a.visibleModeChangePeriod = b.visibleModeChangePeriod ∧
      a.visibleModeChangeNeighbor = b.visibleModeChangeNeighbor ∧
      a.visibleMaxRed = b.visibleMaxRed ∧ a.visibleDtx = b.visibleDtx := by
  cases a
  cases b
  rw [AudioFmtp.mk.injEq]

theorem amr_ext_iff {a b : AmrFmtp} : a = b ↔ a.toAudioFmtp = b.toAudioFmtp ∧
    a.octetAlign = b.octetAlign ∧ a.visibleOctetAlign = b.visibleOctetAlign := by
  cases a
  cases b
  rw [AmrFmtp.mk.injEq]

theorem rereadAmr_eq_iff (f : AmrFmtp) : rereadAmr f = f ↔ IsFaithfulAmr f := by
  have hmodes := modeSet_iff f.toAudioFmtp false
  rw [amr_ext_iff, audio_ext_iff]
  constructor
  · rintro ⟨⟨hlist, hdefault, hcapability, hperiod, hneighbor, hmaxRed, hdtx, hmodeSet, -, -, -, -,
      hvisibleDtx⟩, hoctetAlign, -⟩
    exact ⟨hmodes.mp ⟨hlist, hmodeSet⟩, rereadNumber_iff.mp hoctetAlign,
      rereadNumber_iff.mp hcapability, rereadNumber_iff.mp hperiod,
      rereadNumber_iff.mp hneighbor, rereadNumber_iff.mp hmaxRed, hdefault.symm, hdtx.symm,
      hvisibleDtx.symm⟩
  · intro h
    obtain ⟨hlist, hmodeSet⟩ := hmodes.mpr h.modeSet
    exact ⟨⟨hlist, h.defaultRtpModeSet.symm, rereadNumber_iff.mpr h.modeChangeCapability,
      rereadNumber_iff.mpr h.modeChangePeriod, rereadNumber_iff.mpr h.modeChangeNeighbor,
      rereadNumber_iff.mpr h.maxRed, h.dtx.1.symm, hmodeSet, rfl, rfl, rfl, rfl, h.dtx.2.symm⟩,
      rereadNumber_iff.mpr h.octetAlign, rfl⟩

/-- The formats of AMR that come back from the text that is written for them. -/
theorem parse_generateAmrFmtp_iff (f : AmrFmtp) :
    (parseFmtpOfAmr (generateAmrFmtp f)).map Prod.fst = some f ↔ IsFaithfulAmr f := by
  rw [parse_generateAmr, Option.some.injEq, rereadAmr_eq_iff]

/-- The format of the peer: what one side sends, the other side receives. -/
def exchanged (f : EvsFmtp) : EvsFmtp :=
  { f with brSend := f.brRecv, brRecv := f.brSend, bwSend := f.bwRecv, bwRecv := f.bwSend }

/-- What a format of EVS has to be to come back from its text. -/
structure IsFaithfulEvs (f : EvsFmtp) : Prop where
  modeSet : IsModes f.visibleEvsModeSwitch f.visibleModeSet f.modeSetList
  rates : IsRates EVS_BR.length f.brList f.brSend f.brRecv f.visibleBrList
  bandwidths : IsRates EVS_BW.length f.bwList f.bwSend f.bwRecv f.visibleBwList
  hfOnly : f.visibleHfOnly = false → f.hfOnly = 0
  evsModeSwitch : f.visibleEvsModeSwitch = false → f.evsModeSwitch = 0
  dtx : f.visibleDtx = false → f.dtx = true
  maxRed : Returns f.visibleMaxRed f.maxRed 0
  cmr : Returns f.visibleCmr f.cmr 0
  -- The mode changes belong to the mode that interoperates with AMR, the awareness to the other.
  modeChangeCapability : (f.visibleModeChangeCapability = true → f.evsModeSwitch = 1) ∧
    Returns f.visibleModeChangeCapability f.modeChangeCapability 2
  modeChangePeriod : (f.visibleModeChangePeriod = true → f.evsModeSwitch = 1) ∧
    Returns f.visibleModeChangePeriod f.modeChangePeriod 1
  modeChangeNeighbor : (f.visibleModeChangeNeighbor = true → f.evsModeSwitch = 1) ∧
    Returns f.visibleModeChangeNeighbor f.modeChangeNeighbor 0
  chAwRecv : (f.visibleChannelAwMode = true → f.evsModeSwitch ≠ 1) ∧
    Returns f.visibleChannelAwMode f.chAwRecv 0
  receivedChAwRecv : f.receivedChAwRecv = f.chAwRecv
  defaultRtpModeSet : f.defaultRtpModeSet = 0
  sendCmr : f.sendCmr = false

theorem evs_ext_iff {a b : EvsFmtp} : a = b ↔
    a.toAudioFmtp = b.toAudioFmtp ∧ a.hfOnly = b.hfOnly ∧ a.evsModeSwitch = b.evsModeSwitch ∧
      a.brList = b.brList ∧ a.brSend = b.brSend ∧ a.brRecv = b.brRecv ∧ a.bwList = b.bwList ∧
      a.bwSend = b.bwSend ∧ a.bwRecv = b.bwRecv ∧ a.cmr = b.cmr ∧ a.chAwRecv = b.chAwRecv ∧
      a.receivedChAwRecv = b.receivedChAwRecv ∧ a.visibleHfOnly = b.visibleHfOnly ∧
      a.visibleEvsModeSwitch = b.visibleEvsModeSwitch ∧ a.visibleCmr = b.visibleCmr ∧
      a.visibleChannelAwMode = b.visibleChannelAwMode ∧ a.visibleBrList = b.visibleBrList ∧
      a.visibleBwList = b.visibleBwList ∧ a.sendCmr = b.sendCmr := by
  cases a
  cases b
  rw [EvsFmtp.mk.injEq]

theorem setEvsFullBr_eq (f : EvsFmtp) : setEvsFullBr f = { f with
    brList := if f.brList = 0 ∧ f.brRecv = 0 ∧ f.brSend = 0 then 0x0FFF else f.brList } := by
  unfold setEvsFullBr
  split
  · rfl
  · rfl

theorem setEvsFullBw_eq (f : EvsFmtp) : setEvsFullBw f = { f with
    bwList := if f.bwList = 0 ∧ f.bwRecv = 0 ∧ f.bwSend = 0 then 0x0F else f.bwList } := by
  unfold setEvsFullBw
  split
  · rfl
  · rfl

theorem setEvsBrVisible_eq (f : EvsFmtp) : setEvsBrVisible f = { f with
    visibleBrList := if f.brRecv ≠ 0 ∧ f.brSend ≠ 0 then false else f.visibleBrList } := by
  unfold setEvsBrVisible
  split
  · rfl
  · rfl

theorem setEvsBwVisible_eq (f : EvsFmtp) : setEvsBwVisible f = { f with
    visibleBwList := if f.bwRecv ≠ 0 ∧ f.bwSend ≠ 0 then false else f.visibleBwList } := by
  unfold setEvsBwVisible
  split
  · rfl
  · rfl

/-- The parameters that are read, and the lists that are completed behind them. -/
theorem rereadEvs_eq (f : EvsFmtp) : rereadEvs f =
    { rereadEvsParameters f with
      brList := rereadFull EVS_BR 0x0FFF f.brList f.brSend f.brRecv f.visibleBrList
      visibleBrList := if rereadDirection EVS_BR f.brSend ≠ 0 ∧
        rereadDirection EVS_BR f.brRecv ≠ 0 then false else true
      bwList := rereadFull EVS_BW 0x0F f.bwList f.bwSend f.bwRecv f.visibleBwList
      visibleBwList := if rereadDirection EVS_BW f.bwSend ≠ 0 ∧
        rereadDirection EVS_BW f.bwRecv ≠ 0 then false else true } := by
  have hbw := @rereadList_and f.visibleBwList EVS_BW isTable_EVS_BW.short f.bwList
  unfold rereadEvs rereadFull
  rw [setEvsFullBr_eq, setEvsFullBw_eq, setEvsBrVisible_eq, setEvsBwVisible_eq, ← hbw]
  rfl

theorem rereadEvs_eq_iff (f : EvsFmtp) : rereadEvs f = exchanged f ↔ IsFaithfulEvs f := by
  have hmodes := modeSet_iff f.toAudioFmtp f.visibleEvsModeSwitch
  have hrates := @rates_iff f.visibleBrList EVS_BR isTable_EVS_BR.short 0x0FFF f.brList
    (by decide) (.inr ⟨0, 11, by decide, by decide, by decide⟩) f.brSend f.brRecv
  have hbandwidths := @rates_iff f.visibleBwList EVS_BW isTable_EVS_BW.short 0x0F f.bwList
    (by decide) (.inr ⟨0, 3, by decide, by decide, by decide⟩) f.bwSend f.bwRecv
  have hdtx : (bif f.visibleDtx then toInt32 (setNumber (if f.dtx then 1 else 0)) != 0
      else true) = f.dtx ↔ (f.visibleDtx = false → f.dtx = true) := by
    cases f.visibleDtx with
    | false => exact ⟨fun h _ => h.symm, fun h => (h rfl).symm⟩
    | true =>
      refine ⟨fun _ h => absurd h (by decide), fun _ => ?_⟩
      cases f.dtx with
      | false => decide
      | true => decide
  have hcapability := @rereadNumber_and_iff f.modeChangeCapability 2
    f.visibleModeChangeCapability (f.evsModeSwitch == 1)
  have hperiod := @rereadNumber_and_iff f.modeChangePeriod 1
    f.visibleModeChangePeriod (f.evsModeSwitch == 1)
  have hneighbor := @rereadNumber_and_iff f.modeChangeNeighbor 0
    f.visibleModeChangeNeighbor (f.evsModeSwitch == 1)
  have haware := @rereadNumber_and_iff f.chAwRecv 0
    f.visibleChannelAwMode (f.evsModeSwitch != 1)
  rw [beq_iff_eq] at hcapability hperiod hneighbor
  rw [bne_iff_ne] at haware
  rw [rereadEvs_eq, evs_ext_iff, audio_ext_iff]
  constructor
  · rintro ⟨⟨hlist, hdefault, hcapability', hperiod', hneighbor', hmaxRed, hdtx', hmodeSet,
      hvisibleCapability, hvisiblePeriod, hvisibleNeighbor, -, -⟩, hhfOnly, hswitch, hbrList,
      hbrSend, hbrRecv, hbwList, hbwSend, hbwRecv, hcmr, haware', hreceived, -, -, -,
      hvisibleAware, hvisibleBr, hvisibleBw, hsendCmr⟩
    exact {
      modeSet := hmodes.mp ⟨hlist, hmodeSet⟩
      rates := hrates.mp ⟨hbrList, hvisibleBr, hbrRecv, hbrSend⟩
      bandwidths := hbandwidths.mp ⟨hbwList, hvisibleBw, hbwRecv, hbwSend⟩
      hfOnly := rereadWord_iff.mp hhfOnly
      evsModeSwitch := rereadWord_iff.mp hswitch
      dtx := hdtx.mp hdtx'
      maxRed := rereadNumber_iff.mp hmaxRed
      cmr := rereadNumber_iff.mp hcmr
      modeChangeCapability := hcapability.mp ⟨hcapability', hvisibleCapability⟩
      modeChangePeriod := hperiod.mp ⟨hperiod', hvisiblePeriod⟩
      modeChangeNeighbor := hneighbor.mp ⟨hneighbor', hvisibleNeighbor⟩
      chAwRecv := haware.mp ⟨haware', hvisibleAware⟩
      receivedChAwRecv := hreceived.symm.trans haware'
      defaultRtpModeSet := hdefault.symm
      sendCmr := hsendCmr.symm }
  · intro h
    obtain ⟨hlist, hmodeSet⟩ := hmodes.mpr h.modeSet
    obtain ⟨hbrList, hvisibleBr, hbrRecv, hbrSend⟩ := hrates.mpr h.rates
    obtain ⟨hbwList, hvisibleBw, hbwRecv, hbwSend⟩ := hbandwidths.mpr h.bandwidths
    obtain ⟨hcapability', hvisibleCapability⟩ := hcapability.mpr h.modeChangeCapability
    obtain ⟨hperiod', hvisiblePeriod⟩ := hperiod.mpr h.modeChangePeriod
    obtain ⟨hneighbor', hvisibleNeighbor⟩ := hneighbor.mpr h.modeChangeNeighbor
    obtain ⟨haware', hvisibleAware⟩ := haware.mpr h.chAwRecv
    exact ⟨⟨hlist, h.defaultRtpModeSet.symm, hcapability', hperiod', hneighbor',
      rereadNumber_iff.mpr h.maxRed, hdtx.mpr h.dtx, hmodeSet, hvisibleCapability,
      hvisiblePeriod, hvisibleNeighbor, rfl, rfl⟩, rereadWord_iff.mpr h.hfOnly,
      rereadWord_iff.mpr h.evsModeSwitch, hbrList, hbrSend, hbrRecv, hbwList, hbwSend, hbwRecv,
      rereadNumber_iff.mpr h.cmr, haware', haware'.trans h.receivedChAwRecv.symm, rfl, rfl, rfl,
      hvisibleAware, hvisibleBr, hvisibleBw, h.sendCmr.symm⟩

/-- A list of rates that comes back is in the text, or that of a direction is. -/
theorem hasRates_of_isFaithful {f : EvsFmtp} (h : IsFaithfulEvs f) : hasRates f = true := by
  have hdirection {nList : Int} (hlist : IsDirection EVS_BR.length nList) (hne : nList ≠ 0) :
      (nList != 0 && hull EVS_BR.length (BitVec.ofInt 32 nList) != 0) = true := by
    rw [bne_iff_ne.mpr hne, Bool.true_and, bne_iff_ne,
      (hull_eq_self_iff isTable_EVS_BR.short).mpr hlist.1]
    exact fun hzero => hne (ofInt_eq_zero hlist.2 hzero)
  have hsend (hne : f.brSend ≠ 0) : hasRates f = true := by
    unfold hasRates
    rw [hdirection h.rates.send hne, Bool.or_true, Bool.true_or]
  have hrecv (hne : f.brRecv ≠ 0) : hasRates f = true := by
    unfold hasRates
    rw [hdirection h.rates.recv hne, Bool.or_true]
  cases hvisible : f.visibleBrList with
  | false =>
    refine hsend fun hzero => ?_
    rw [h.rates.visible.mpr (.inl hzero)] at hvisible
    exact Bool.false_ne_true hvisible.symm
  | true =>
    obtain ⟨hshown, hsome⟩ := h.rates.shown hvisible
    by_cases hzero : f.brList = 0
    · exact (hsome hzero).elim hsend hrecv
    · unfold hasRates
      rw [hvisible, (hull_eq_self_iff isTable_EVS_BR.short).mpr hshown, bne_iff_ne.mpr hzero]
      rfl

theorem isKnownBw_of_isRun {nList : BitVec 32} (h : IsRun EVS_BW.length nList) :
    IsKnownBw nList := by
  intro k hk
  have hbit := ((mem_listed (by decide)).mp hk).2
  rcases h with rfl | ⟨i, j, -, hj, rfl⟩
  · rw [getLsbD_empty] at hbit
    exact absurd hbit Bool.false_ne_true
  · rw [getLsbD_rangeBits, decide_eq_true_eq] at hbit
    exact Nat.lt_of_le_of_lt hbit.2.1 hj

/-- The formats of EVS that come back, as the peer sees them, from the text that is written for
them. -/
theorem parse_generateEvsFmtp_iff (f : EvsFmtp) :
    (generateEvsFmtp f).bind parseFmtpOfEvs = some (some (exchanged f)) ↔ IsFaithfulEvs f := by
  by_cases hknown : f.bwList ≠ 0 ∧ f.visibleBwList = true → IsKnownBw f.bwList
  · obtain ⟨found, hfound, hparse⟩ := parse_generateEvs f hknown
    rw [hparse, ← rereadEvs_eq_iff]
    constructor
    · intro h
      cases found with
      | false => exact absurd (Option.some.inj h) (Option.some_ne_none _).symm
      | true => exact Option.some.inj (Option.some.inj h)
    · intro h
      rw [hfound (hasRates_of_isFaithful ((rereadEvs_eq_iff f).mp h)), if_pos rfl, h]
  · rw [Classical.not_imp] at hknown
    rw [generateEvsFmtp_eq_none f hknown.1 hknown.2]
    refine ⟨fun h => absurd h.symm (Option.some_ne_none _), fun h => ?_⟩
    exact absurd (isKnownBw_of_isRun (h.bandwidths.shown hknown.1.2).1) hknown.2

end Faithful

end ImsStack.Media.AudioFmtpText
