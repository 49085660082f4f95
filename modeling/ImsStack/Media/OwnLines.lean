import ImsStack.Media.MediaLines
import ImsStack.Media.OaModels
import Mathlib.Tactic.SplitIfs

/-!
`FormSdp` and the media lines: when each media that is asked for, or is to be disabled, is written
to a line of its own, and when the bandwidth of the session is the sum of theirs.
-/

namespace ImsStack.Media

universe u

variable {P X R D : Type u}

namespace MediaNego

/-! ### The lines of a first offer -/

section InOrder

variable {need : MediaType → Bool} {nSize : Nat} {m m' : MediaType} {i : Nat}

theorem descriptorsInOrder_eq_some_iff {ms : List MediaType} (hms : ms.Nodup) {nCounter : Nat} :
    descriptorsInOrder need nSize ms nCounter m = some i ↔
      ∃ k, (ms.filter need)[k]? = some m ∧ i = nCounter + k ∧ i < nSize := by
  induction ms generalizing nCounter with
  | nil =>
      constructor
      · intro h
        cases h
      · rintro ⟨k, hk, -⟩
        cases hk
  | cons first ms ih =>
      obtain ⟨hfirst, hnodup⟩ := List.nodup_cons.mp hms
      unfold descriptorsInOrder
      cases hneed : need first with
      | false =>
          have hnot : ¬need first = true := by
            rw [hneed]
            exact Bool.false_ne_true
          rw [if_neg (fun h => Bool.false_ne_true h.1), List.filter_cons_of_neg hnot]
          exact ih hnodup
      | true =>
          rw [List.filter_cons_of_pos hneed]
          by_cases hlt : nCounter < nSize
          · rw [if_pos ⟨rfl, hlt⟩]
            by_cases hm : m = first
            · subst hm
              rw [Function.update_self]
              constructor
              · intro h
                obtain rfl := Option.some.inj h
                exact ⟨0, rfl, rfl, hlt⟩
              · rintro ⟨k, hk, rfl, -⟩
                cases k with
                | zero => rfl
                | succ k =>
                    rw [List.getElem?_cons_succ] at hk
                    exact absurd (List.mem_filter.mp (List.mem_of_getElem? hk)).1 hfirst
            · rw [Function.update_of_ne hm, ih hnodup]
              constructor
              · rintro ⟨k, hk, rfl, hsize⟩
                exact ⟨k + 1, hk, by omega, hsize⟩
              · rintro ⟨k, hk, rfl, hsize⟩
                cases k with
                | zero => exact absurd (Option.some.inj hk).symm hm
                | succ k => exact ⟨k, hk, by omega, hsize⟩
          · rw [if_neg (fun h => hlt h.2), ih hnodup]
            constructor
            · rintro ⟨k, -, hi, hsize⟩
              omega
            · rintro ⟨k, -, hi, hsize⟩
              omega

theorem descriptorsInOrder_injective {ms : List MediaType} (hms : ms.Nodup) {nCounter : Nat}
    (h : descriptorsInOrder need nSize ms nCounter m = some i)
    (h' : descriptorsInOrder need nSize ms nCounter m' = some i) : m = m' := by
  obtain ⟨k, hk, hi, -⟩ := (descriptorsInOrder_eq_some_iff hms).mp h
  obtain ⟨k', hk', hi', -⟩ := (descriptorsInOrder_eq_some_iff hms).mp h'
  obtain rfl : k = k' := by omega
  exact Option.some.inj (hk.symm.trans hk')

theorem descriptorsInOrder_isSome_iff {ms : List MediaType} (hms : ms.Nodup) :
    (∀ m ∈ ms, need m = true → (descriptorsInOrder need nSize ms 0 m).isSome = true) ↔
      ms.countP need ≤ nSize := by
  rw [List.countP_eq_length_filter]
  constructor
  · intro h
    apply Nat.le_of_not_lt
    intro hlt
    have hpos : 0 < (ms.filter need).length := Nat.lt_of_le_of_lt (Nat.zero_le _) hlt
    obtain ⟨last, hlast⟩ : ∃ last, (ms.filter need)[(ms.filter need).length - 1]? = some last :=
      ⟨_, List.getElem?_eq_getElem (by omega)⟩
    obtain ⟨hmem, hneed⟩ := List.mem_filter.mp (List.mem_of_getElem? hlast)
    obtain ⟨i, hi⟩ := Option.isSome_iff_exists.mp (h last hmem hneed)
    obtain ⟨k, hk, hik, hsize⟩ := (descriptorsInOrder_eq_some_iff hms).mp hi
    have hk_lt : k < (ms.filter need).length := (List.getElem?_eq_some_iff.mp hk).1
    have hsame : k = (ms.filter need).length - 1 :=
      (List.getElem?_inj hk_lt (List.Pairwise.filter need hms)).mp (hk.trans hlast.symm)
    omega
  · intro hle m hmem hneed
    obtain ⟨k, hk⟩ := List.mem_iff_getElem?.mp (List.mem_filter.mpr ⟨hmem, hneed⟩)
    have hk_lt : k < (ms.filter need).length := (List.getElem?_eq_some_iff.mp hk).1
    apply Option.isSome_iff_exists.mpr
    exact ⟨k, (descriptorsInOrder_eq_some_iff hms).mpr ⟨k, hk, by omega, by omega⟩⟩

end InOrder

/-! ### The walk over the media -/

section Walk

variable (env : MediaEnvironment P X R D) (x : MediaNego P X R) (request : SdpRequest)

/-- The description that a media forms. -/
def formed (m : MediaType) : Option (BaseNego P X R × MediaBaseProfile P X R) :=
  (x.nego m).formSdp (env.negotiator m) m x.eNegoState (request.eDirection m)
    (!request.bRequested m) request.bEnforceReofferMode

/-- The AS value that a media reports when its description is formed. -/
def bandwidthAs (m : MediaType) : Int :=
  match formed env x request m with
  | none => (x.nego m).getNegotiatedBandwidth
  | some form => form.1.getNegotiatedBandwidth

def write (pDescriptor : MediaType → Option Nat) (m : MediaType) :
    Option (MediaWrite P X R) :=
  (pDescriptor m).bind fun nLine => (formed env x request m).map fun form => ⟨m, nLine, form.2⟩

/-- The AS value of the session after a media. -/
def addAs (pDescriptor : MediaType → Option Nat) (nTotalAs : Int) (m : MediaType) : Int :=
  if (pDescriptor m).isSome = true ∧ (m = .audio ∨ request.bRequested m = true) ∧
      0 < bandwidthAs env x request m then bandwidthAs env x request m
  else nTotalAs

variable {env x request} {pDescriptor : MediaType → Option Nat}

theorem processMediaLine_formed {ms : List MediaType} (hms : ms.Nodup) {form : SdpForm P X R}
    (hnego : ∀ m ∈ ms, form.mediaNego.nego m = x.nego m) {result : SdpForm P X R}
    (hresult : processMediaLine env request x.eNegoState pDescriptor ms form = result)
    (h : result.bFormed = true) :
    (∀ m ∈ ms, (pDescriptor m).isSome = true → (formed env x request m).isSome = true) ∧
      result.objWritten = form.objWritten ++ ms.filterMap (write env x request pDescriptor) ∧
      result.nTotalAs = ms.foldl (addAs env x request pDescriptor) form.nTotalAs := by
  subst hresult
  induction ms generalizing form with
  | nil =>
      refine ⟨fun m hm => absurd hm List.not_mem_nil, ?_, rfl⟩
      rw [List.filterMap_nil, List.append_nil]
      rfl
  | cons first ms ih =>
      obtain ⟨hfirst, hnodup⟩ := List.nodup_cons.mp hms
      unfold processMediaLine at h ⊢
      cases hline : pDescriptor first with
      | none =>
          simp only [hline] at h ⊢
          obtain ⟨hformed, hwritten, htotal⟩ :=
            ih hnodup (fun m hm => hnego m (List.mem_cons_of_mem _ hm)) h
          have hwrite : write env x request pDescriptor first = none := by
            unfold write
            rw [hline]
            rfl
          have hadd : addAs env x request pDescriptor form.nTotalAs first = form.nTotalAs := by
            unfold addAs
            rw [hline]
            exact if_neg fun h => Bool.false_ne_true h.1
          refine ⟨?_, ?_, ?_⟩
          · intro m hm hsome
            rcases List.mem_cons.mp hm with rfl | hm
            · rw [hline] at hsome
              cases hsome
            · exact hformed m hm hsome
          · rw [hwritten, List.filterMap_cons_none hwrite]
          · rw [htotal, List.foldl_cons, hadd]
      | some nLine =>
          simp only [hline] at h ⊢
          have hfirstNego : form.mediaNego.nego first = x.nego first :=
            hnego first List.mem_cons_self
          rw [hfirstNego] at h ⊢
          cases hform : formed env x request first with
          | none =>
              have hnone := hform
              unfold formed at hnone
              rw [hnone] at h
              cases h
          | some made =>
              have hsome := hform
              unfold formed at hsome
              rw [hsome] at h ⊢
              dsimp only at h ⊢
              have hrest : ∀ m ∈ ms, (form.mediaNego.setNego first made.1).nego m = x.nego m := by
                intro m hm
                have hne : m ≠ first := fun heq => hfirst (heq ▸ hm)
                show Function.update form.mediaNego.nego first made.1 m = x.nego m
                rw [Function.update_of_ne hne]
                exact hnego m (List.mem_cons_of_mem _ hm)
              obtain ⟨hformed, hwritten, htotal⟩ := ih hnodup hrest h
              have hwrite : write env x request pDescriptor first =
                  some ⟨first, nLine, made.2⟩ := by
                unfold write
                rw [hline, hform]
                rfl
              have hbandwidth : bandwidthAs env x request first =
                  made.1.getNegotiatedBandwidth := by
                unfold bandwidthAs
                rw [hform]
              have hadd : addAs env x request pDescriptor form.nTotalAs first =
                  if (first = .audio ∨ request.bRequested first = true) ∧
                    0 < made.1.getNegotiatedBandwidth then made.1.getNegotiatedBandwidth
                  else form.nTotalAs := by
                unfold addAs
                rw [hline, hbandwidth]
                apply if_congr _ rfl rfl
                exact and_iff_right rfl
              refine ⟨?_, ?_, ?_⟩
              · intro m hm hisSome
                rcases List.mem_cons.mp hm with rfl | hm
                · rw [hform]
                  rfl
                · exact hformed m hm hisSome
              · rw [hwritten, List.filterMap_cons_some hwrite, List.append_assoc]
                rfl
              · rw [htotal, List.foldl_cons, hadd]

theorem filter_filterMap_write {ms : List MediaType} (hms : ms.Nodup) (m : MediaType) :
    (ms.filterMap (write env x request pDescriptor)).filter (fun w => decide (w.eType = m)) =
      if m ∈ ms then (write env x request pDescriptor m).toList else [] := by
  have htype : ∀ {m : MediaType} {w : MediaWrite P X R},
      write env x request pDescriptor m = some w → w.eType = m := by
    intro m w hw
    obtain ⟨nLine, -, hmap⟩ := Option.bind_eq_some_iff.mp hw
    obtain ⟨made, -, rfl⟩ := Option.map_eq_some_iff.mp hmap
    rfl
  induction ms with
  | nil => rfl
  | cons first ms ih =>
      obtain ⟨hfirst, hnodup⟩ := List.nodup_cons.mp hms
      cases hwrite : write env x request pDescriptor first with
      | none =>
          rw [List.filterMap_cons_none hwrite, ih hnodup]
          by_cases hm : m = first
          · subst hm
            rw [if_neg hfirst, if_pos List.mem_cons_self, hwrite]
            rfl
          · apply if_congr _ rfl rfl
            rw [List.mem_cons, or_iff_right hm]
      | some w =>
          rw [List.filterMap_cons_some hwrite, List.filter_cons, ih hnodup]
          by_cases hm : m = first
          · subst hm
            rw [if_pos (decide_eq_true (htype hwrite)), if_neg hfirst,
              if_pos List.mem_cons_self, hwrite]
            rfl
          · have hne : ¬decide (w.eType = m) = true := by
              rw [decide_eq_true_eq, htype hwrite]
              exact fun heq => hm heq.symm
            rw [if_neg hne]
            apply if_congr _ rfl rfl
            rw [List.mem_cons, or_iff_right hm]

end Walk

/-! ### What is formed -/

section Formed

variable (env : MediaEnvironment P X R D) (x : MediaNego P X R) (request : SdpRequest)
  (lines : List MediaLine)

/-- The media lines after those that are missing were created. -/
def madeLines : List MediaLine := x.createMediaLines env (x.needToMakeMedia request) lines

def positiveAs (nAs : Int) : Int := if 0 < nAs then nAs else 0

/-- Each media that is asked for or negotiated before is written to one line, different media to
different lines, a typed line by its media, what is not asked for with port 0, and the AS value
of the session is the sum. -/
structure OwnLines (sdp : FormedSdp P X R) : Prop where
  written : ∀ m, x.needToMakeMedia request m = true →
    ∃ w, sdp.objWritten.filter (fun w => decide (w.eType = m)) = [w]
  distinct : ∀ w ∈ sdp.objWritten, ∀ w' ∈ sdp.objWritten, w.nLine = w'.nLine → w.eType = w'.eType
  typed : ∀ w ∈ sdp.objWritten, ∀ line m, sdp.objLines[w.nLine]? = some line →
    line.eType.media? = some m → w.eType = m
  disabled : ∀ w ∈ sdp.objWritten, request.bRequested w.eType = false → w.profile.nDataPort = 0
  bandwidth : ∀ nAs, sdp.objBandwidth = some nAs →
    nAs = (MediaType.all.filter request.bRequested).foldr
      (fun m nSum => positiveAs (bandwidthAs env x request m) + nSum) 0

/-- The lines suffice: in a first offer they are enough and of the media whose turn it is, later
each media finds one and no two come on the same one that is not typed. -/
def LinesSuffice : Prop :=
  if x.eNegoState = .idle then
    MediaType.all.countP (x.needToMakeMedia request) ≤ (madeLines env x request lines).length ∧
      ∀ (k : Nat) (m m' : MediaType) (line : MediaLine),
        (MediaType.all.filter (x.needToMakeMedia request))[k]? = some m →
        (madeLines env x request lines)[k]? = some line → line.eType.media? = some m' → m = m'
  else
    (∀ m, x.needToMakeMedia request m = true →
      Finds x.eNegoState (x.needToMakeMedia request) (madeLines env x request lines) m) ∧
      ¬Shares x.eNegoState (x.needToMakeMedia request) (madeLines env x request lines)

/-- There is a line of audio, of which the AS value counts although audio is not asked for. -/
def HasAudioLine : Prop :=
  x.needToMakeMedia request .audio = true ∨
    (x.eNegoState ≠ .idle ∧ ∃ line ∈ lines, line.eType.media? = some .audio)

/-- At most one of the media that are asked for has an AS value, and if none has, audio has none
either. -/
def OneBandwidth : Prop :=
  (∀ m m', request.bRequested m = true → request.bRequested m' = true →
    0 < bandwidthAs env x request m → 0 < bandwidthAs env x request m' → m = m') ∧
    ((∀ m, request.bRequested m = true → bandwidthAs env x request m ≤ 0) →
      HasAudioLine x request lines → bandwidthAs env x request .audio ≤ 0)

end Formed

section Formed

variable {env : MediaEnvironment P X R D} {x : MediaNego P X R} {request : SdpRequest}
  {lines : List MediaLine} {x' : MediaNego P X R} {sdp : FormedSdp P X R}

/-- The lines that the media are given. -/
def givenLines (env : MediaEnvironment P X R D) (x : MediaNego P X R) (request : SdpRequest)
    (lines : List MediaLine) : MediaType → Option Nat :=
  descriptors x.eNegoState (x.needToMakeMedia request) (madeLines env x request lines)

theorem formSdp_eq (h : x.formSdp env request lines = (x', some sdp)) :
    (∀ m, (givenLines env x request lines m).isSome = true →
      (formed env x request m).isSome = true) ∧
      sdp.objLines = madeLines env x request lines ∧
      sdp.objWritten =
        MediaType.all.filterMap (write env x request (givenLines env x request lines)) ∧
      sdp.objBandwidth =
        if env.bSessionLevelBandwidth then
          some (MediaType.all.foldl
            (addAs env x request (givenLines env x request lines)) 0)
        else none := by
  unfold formSdp at h
  split at h
  · cases h
  · dsimp only at h
    split at h
    · rename_i hformed
      obtain ⟨hsome, hwritten, htotal⟩ :=
        processMediaLine_formed MediaType.nodup_all (fun _ _ => rfl) rfl hformed
      obtain ⟨-, hsdp⟩ := Prod.mk.inj h
      obtain rfl := Option.some.inj hsdp
      refine ⟨fun m => hsome m (MediaType.mem_all m), rfl, ?_, ?_⟩
      · rw [List.nil_append] at hwritten
        exact hwritten
      · show (if env.bSessionLevelBandwidth = true then some _ else none) = _
        rw [htotal]
        rfl
    · cases h

theorem mem_written_iff (h : x.formSdp env request lines = (x', some sdp))
    {w : MediaWrite P X R} :
    w ∈ sdp.objWritten ↔ givenLines env x request lines w.eType = some w.nLine ∧
      ∃ nego', formed env x request w.eType = some (nego', w.profile) := by
  obtain ⟨-, -, hwritten, -⟩ := formSdp_eq h
  rw [hwritten, List.mem_filterMap]
  constructor
  · rintro ⟨m, -, hm⟩
    obtain ⟨nLine, hline, hmap⟩ := Option.bind_eq_some_iff.mp hm
    obtain ⟨made, hmade, rfl⟩ := Option.map_eq_some_iff.mp hmap
    exact ⟨hline, made.1, hmade⟩
  · rintro ⟨hline, nego', hnego⟩
    refine ⟨w.eType, MediaType.mem_all _, ?_⟩
    unfold write
    rw [hline, hnego]
    rfl

theorem exists_written (h : x.formSdp env request lines = (x', some sdp)) {m : MediaType}
    {nLine : Nat} (hm : givenLines env x request lines m = some nLine) :
    ∃ w ∈ sdp.objWritten, w.eType = m ∧ w.nLine = nLine := by
  obtain ⟨made, hmade⟩ := Option.isSome_iff_exists.mp
    ((formSdp_eq h).1 m (Option.isSome_iff_exists.mpr ⟨nLine, hm⟩))
  exact ⟨⟨m, nLine, made.2⟩, (mem_written_iff h).mpr ⟨hm, made.1, hmade⟩, rfl, rfl⟩

theorem written_iff (h : x.formSdp env request lines = (x', some sdp)) (m : MediaType) :
    (∃ w, sdp.objWritten.filter (fun w => decide (w.eType = m)) = [w]) ↔
      (givenLines env x request lines m).isSome = true := by
  obtain ⟨hformed, -, hwritten, -⟩ := formSdp_eq h
  rw [hwritten, filter_filterMap_write MediaType.nodup_all, if_pos (MediaType.mem_all m)]
  unfold write
  cases hline : givenLines env x request lines m with
  | none =>
      constructor
      · rintro ⟨w, hw⟩
        cases hw
      · intro hfalse
        cases hfalse
  | some nLine =>
      obtain ⟨made, hmade⟩ := Option.isSome_iff_exists.mp
        (hformed m (Option.isSome_iff_exists.mpr ⟨nLine, hline⟩))
      rw [hmade]
      exact ⟨fun _ => rfl, fun _ => ⟨_, rfl⟩⟩

theorem givenLines_idle (hidle : x.eNegoState = .idle) (m : MediaType) :
    givenLines env x request lines m =
      descriptorsInOrder (x.needToMakeMedia request) (madeLines env x request lines).length
        MediaType.all 0 m := by
  unfold givenLines descriptors
  rw [if_pos hidle]

theorem givenLines_later (hidle : x.eNegoState ≠ .idle) (m : MediaType) :
    givenLines env x request lines m =
      (takeLines x.eNegoState (x.needToMakeMedia request) 0 (madeLines env x request lines)
        (fun _ => ⟨none, false⟩) m).pDescriptor := by
  unfold givenLines descriptors
  rw [if_neg hidle]

theorem linesSuffice_iff :
    ((∀ m, x.needToMakeMedia request m = true →
        (givenLines env x request lines m).isSome = true) ∧
      (∀ m m' i, givenLines env x request lines m = some i →
        givenLines env x request lines m' = some i → m = m') ∧
      ∀ m i line m', givenLines env x request lines m = some i →
        (madeLines env x request lines)[i]? = some line → line.eType.media? = some m' → m = m') ↔
      LinesSuffice env x request lines := by
  unfold LinesSuffice
  by_cases hidle : x.eNegoState = .idle
  · rw [if_pos hidle]
    simp only [givenLines_idle hidle]
    rw [← descriptorsInOrder_isSome_iff MediaType.nodup_all]
    constructor
    · rintro ⟨hsome, -, htyped⟩
      refine ⟨fun m _ => hsome m, ?_⟩
      intro k m m' line hk hline hmedia
      have hlt : k < (madeLines env x request lines).length :=
        (List.getElem?_eq_some_iff.mp hline).1
      refine htyped m k line m' ?_ hline hmedia
      exact (descriptorsInOrder_eq_some_iff MediaType.nodup_all).mpr
        ⟨k, hk, (Nat.zero_add k).symm, hlt⟩
    · rintro ⟨hsome, htyped⟩
      refine ⟨fun m => hsome m (MediaType.mem_all m), ?_, ?_⟩
      · intro m m' i hm hm'
        exact descriptorsInOrder_injective MediaType.nodup_all hm hm'
      · intro m i line m' hm hline hmedia
        obtain ⟨k, hk, hi, -⟩ := (descriptorsInOrder_eq_some_iff MediaType.nodup_all).mp hm
        rw [Nat.zero_add] at hi
        rw [hi] at hline
        exact htyped k m m' line hk hline hmedia
  · rw [if_neg hidle]
    simp only [givenLines_later hidle]
    have htracks : Tracks x.eNegoState (x.needToMakeMedia request) (madeLines env x request lines)
        (takeLines x.eNegoState (x.needToMakeMedia request) 0 (madeLines env x request lines)
          fun _ => ⟨none, false⟩) := tracks_lines
    rw [← htracks.shares_iff]
    constructor
    · rintro ⟨hsome, hdistinct, -⟩
      refine ⟨fun m hneed => (htracks.finds_iff hneed).mp (hsome m hneed), ?_⟩
      rintro ⟨m, m', i, hne, hm, hm'⟩
      exact hne (hdistinct m m' i hm hm')
    · rintro ⟨hfinds, hshares⟩
      refine ⟨fun m hneed => (htracks.finds_iff hneed).mpr (hfinds m hneed), ?_, ?_⟩
      · intro m m' i hm hm'
        apply by_contra
        intro hne
        exact hshares ⟨m, m', i, hne, hm, hm'⟩
      · intro m i line m' hm hline hmedia
        exact htracks.typed hm hline hmedia

theorem mem_madeLines_iff {m : MediaType} :
    (∃ line ∈ madeLines env x request lines, line.eType.media? = some m) ↔
      ∃ line ∈ lines, line.eType.media? = some m := by
  unfold madeLines createMediaLines
  constructor
  · rintro ⟨line, hmem, hmedia⟩
    rcases List.mem_append.mp hmem with hmem | hmem
    · exact ⟨line, hmem, hmedia⟩
    · rw [List.eq_of_mem_replicate hmem] at hmedia
      cases hmedia
  · rintro ⟨line, hmem, hmedia⟩
    exact ⟨line, List.mem_append_left _ hmem, hmedia⟩

theorem hasAudioLine_iff
    (hsome : ∀ m, x.needToMakeMedia request m = true →
      (givenLines env x request lines m).isSome = true) :
    (givenLines env x request lines .audio).isSome = true ↔ HasAudioLine x request lines := by
  unfold HasAudioLine
  cases hneed : x.needToMakeMedia request .audio with
  | true => exact ⟨fun _ => .inl rfl, fun _ => hsome .audio hneed⟩
  | false =>
      rw [or_iff_right Bool.false_ne_true]
      by_cases hidle : x.eNegoState = .idle
      · rw [givenLines_idle hidle]
        constructor
        · intro hisSome
          obtain ⟨i, hi⟩ := Option.isSome_iff_exists.mp hisSome
          obtain ⟨k, hk, -⟩ := (descriptorsInOrder_eq_some_iff MediaType.nodup_all).mp hi
          have htrue := (List.mem_filter.mp (List.mem_of_getElem? hk)).2
          rw [hneed] at htrue
          cases htrue
        · intro h
          exact absurd hidle h.1
      · rw [givenLines_later hidle, tracks_lines.isSome_iff_typed hneed, mem_madeLines_iff]
        exact (and_iff_right hidle).symm

theorem sum_requested (bRequested : MediaType → Bool) (f : MediaType → Int) :
    (MediaType.all.filter bRequested).foldr (fun m nSum => f m + nSum) 0 =
      (if bRequested .audio then f .audio else 0) +
        ((if bRequested .video then f .video else 0) +
          (if bRequested .text then f .text else 0)) := by
  unfold MediaType.all
  cases ha : bRequested .audio <;> cases hv : bRequested .video <;>
    cases ht : bRequested .text <;> simp [List.filter, ha, hv, ht]

/-- Of three values, the first of which may also be given unasked, the last positive one is the
sum of those that are asked for. -/
theorem last_eq_sum_iff {given ra rv rt : Bool} (hgiven : ra = true → given = true)
    (a v t : Int) :
    (if rt = true ∧ 0 < t then t
      else if rv = true ∧ 0 < v then v
      else if given = true ∧ 0 < a then a else 0) =
        (if ra then positiveAs a else 0) +
          ((if rv then positiveAs v else 0) + (if rt then positiveAs t else 0)) ↔
      ((ra = true → rv = true → 0 < a → 0 < v → False) ∧
        (ra = true → rt = true → 0 < a → 0 < t → False) ∧
        (rv = true → rt = true → 0 < v → 0 < t → False)) ∧
        ((ra = true → a ≤ 0) → (rv = true → v ≤ 0) → (rt = true → t ≤ 0) →
          given = true → a ≤ 0) := by
  unfold positiveAs
  cases given with
  | false =>
      obtain rfl : ra = false := Bool.of_not_eq_true fun hra => Bool.false_ne_true (hgiven hra)
      cases rv <;> cases rt <;> grind
  | true => cases ra <;> cases rv <;> cases rt <;> simp <;> (try split_ifs) <;> omega

theorem oneBandwidth_iff
    (hsome : ∀ m, x.needToMakeMedia request m = true →
      (givenLines env x request lines m).isSome = true) :
    MediaType.all.foldl (addAs env x request (givenLines env x request lines)) 0 =
        (MediaType.all.filter request.bRequested).foldr
          (fun m nSum => positiveAs (bandwidthAs env x request m) + nSum) 0 ↔
      OneBandwidth env x request lines := by
  have hgiven : ∀ m, request.bRequested m = true →
      (givenLines env x request lines m).isSome = true := by
    intro m hm
    apply hsome
    unfold needToMakeMedia
    rw [hm, Bool.true_or]
  have hadd : ∀ (m : MediaType) (n : Int), m ≠ .audio →
      addAs env x request (givenLines env x request lines) n m =
        if request.bRequested m = true ∧ 0 < bandwidthAs env x request m then
          bandwidthAs env x request m
        else n := by
    intro m n hm
    unfold addAs
    apply if_congr _ rfl rfl
    rw [or_iff_right hm]
    exact and_iff_right_of_imp fun h => hgiven m h.1
  have hadd_audio : addAs env x request (givenLines env x request lines) 0 .audio =
      if (givenLines env x request lines .audio).isSome = true ∧
        0 < bandwidthAs env x request .audio then bandwidthAs env x request .audio
      else 0 := by
    unfold addAs
    apply if_congr _ rfl rfl
    rw [or_iff_left_of_imp fun _ => rfl, and_iff_right rfl]
  have htotal : MediaType.all.foldl (addAs env x request (givenLines env x request lines)) 0 =
      addAs env x request (givenLines env x request lines)
        (addAs env x request (givenLines env x request lines)
          (addAs env x request (givenLines env x request lines) 0 .audio) .video) .text := rfl
  rw [htotal, sum_requested _ fun m => positiveAs (bandwidthAs env x request m), hadd .text _ (by decide), hadd .video _ (by decide), hadd_audio,
    last_eq_sum_iff (hgiven .audio)]
  unfold OneBandwidth
  rw [hasAudioLine_iff hsome]
  constructor
  · rintro ⟨⟨hav, hat, hvt⟩, hnone⟩
    refine ⟨?_, fun hall => hnone (hall .audio) (hall .video) (hall .text)⟩
    intro m m' hm hm' hpos hpos'
    cases m <;> cases m' <;> first
      | rfl
      | exact (hav hm hm' hpos hpos').elim
      | exact (hav hm' hm hpos' hpos).elim
      | exact (hat hm hm' hpos hpos').elim
      | exact (hat hm' hm hpos' hpos).elim
      | exact (hvt hm hm' hpos hpos').elim
      | exact (hvt hm' hm hpos' hpos).elim
  · rintro ⟨hone, hnone⟩
    refine ⟨⟨?_, ?_, ?_⟩, ?_⟩
    · intro hm hm' hpos hpos'
      cases hone .audio .video hm hm' hpos hpos'
    · intro hm hm' hpos hpos'
      cases hone .audio .text hm hm' hpos hpos'
    · intro hm hm' hpos hpos'
      cases hone .video .text hm hm' hpos hpos'
    · intro ha hv ht
      apply hnone
      intro m
      cases m with
      | audio => exact ha
      | video => exact hv
      | text => exact ht

/-! ### A line for each media -/

/-- A description that is formed gives each media a line of its own if and only if the lines
suffice and, where the session has a bandwidth, at most one media has an AS value. -/
theorem formSdp_ownLines_iff (h : x.formSdp env request lines = (x', some sdp)) :
    OwnLines env x request sdp ↔
      LinesSuffice env x request lines ∧
        (env.bSessionLevelBandwidth = true → OneBandwidth env x request lines) := by
  obtain ⟨hformed, hlines, hwritten, hbandwidth⟩ := formSdp_eq h
  rw [← linesSuffice_iff]
  constructor
  · intro hown
    have hsome : ∀ m, x.needToMakeMedia request m = true →
        (givenLines env x request lines m).isSome = true := fun m hneed =>
      (written_iff h m).mp (hown.written m hneed)
    refine ⟨⟨hsome, ?_, ?_⟩, ?_⟩
    · intro m m' i hm hm'
      obtain ⟨w, hw, rfl, hline⟩ := exists_written h hm
      obtain ⟨w', hw', rfl, hline'⟩ := exists_written h hm'
      exact hown.distinct w hw w' hw' (hline.trans hline'.symm)
    · intro m i line m' hm hline hmedia
      obtain ⟨w, hw, rfl, rfl⟩ := exists_written h hm
      rw [← hlines] at hline
      exact hown.typed w hw line m' hline hmedia
    · intro hsession
      rw [if_pos hsession] at hbandwidth
      exact (oneBandwidth_iff hsome).mp (hown.bandwidth _ hbandwidth)
  · rintro ⟨⟨hsome, hdistinct, htyped⟩, hone⟩
    refine ⟨fun m hneed => (written_iff h m).mpr (hsome m hneed), ?_, ?_, ?_, ?_⟩
    · intro w hw w' hw' hline
      have hgiven := ((mem_written_iff h).mp hw).1
      rw [hline] at hgiven
      exact hdistinct _ _ _ hgiven ((mem_written_iff h).mp hw').1
    · intro w hw line m hline hmedia
      rw [hlines] at hline
      exact htyped _ _ line m ((mem_written_iff h).mp hw).1 hline hmedia
    · intro w hw hrequested
      obtain ⟨-, nego', hmade⟩ := (mem_written_iff h).mp hw
      apply (BaseNego.formSdp_forms hmade).disabled
      rw [hrequested]
      rfl
    · intro nAs hAs
      rw [hbandwidth] at hAs
      cases hsession : env.bSessionLevelBandwidth with
      | false =>
          rw [hsession, if_neg Bool.false_ne_true] at hAs
          cases hAs
      | true =>
          rw [hsession, if_pos rfl] at hAs
          rw [← Option.some.inj hAs]
          exact (oneBandwidth_iff hsome).mpr (hone hsession)

end Formed

section Example

/-- The profile of a media whose AS value is given. -/
def plainProfile (nBandwidthAs : Int) : MediaBaseProfile Unit Unit Unit :=
  ⟨50000, 50001, nBandwidthAs, 0, 0, .sendReceive, -1, [()], false, (), ()⟩

def plainNego (nBandwidthAs : Int) : BaseNego Unit Unit Unit where
  pBaseProfile := some (plainProfile nBandwidthAs)
  listOaModel := []

def plainNegotiator : MediaNegotiator Unit Unit Unit Unit where
  config := ⟨0, 0, 0, false⟩
  parse _ := none
  negotiate _ _ _ := none
  quality _ := .used

def plainEnvironment (bSessionLevelBandwidth : Bool) : MediaEnvironment Unit Unit Unit Unit where
  eServiceType := .default
  bSessionLevelBandwidth := bSessionLevelBandwidth
  negotiator _ := plainNegotiator

/-- A session before its first offer, with audio of 41 kbit/s and video of 960 kbit/s. -/
def plainMediaNego (eNegoState : NegoState) : MediaNego Unit Unit Unit where
  eNegoState := eNegoState
  bPreviewMode := false
  nego m := plainNego (if m = .video then 960 else 41)

def requestOf (bRequested : MediaType → Bool) : SdpRequest where
  bRequested := bRequested
  eDirection _ := .sendReceive
  bEnforceReofferMode := false

def onlyAudio : SdpRequest := requestOf fun m => decide (m = .audio)

def audioAndVideo : SdpRequest := requestOf fun m => decide (m ≠ .text)

def allMedia : SdpRequest := requestOf fun _ => true

def onlyAudioSdp : FormedSdp Unit Unit Unit :=
  ⟨[⟨.invalid, 0⟩], [⟨.audio, 0, plainProfile 41⟩], some 41⟩

theorem onlyAudio_ownLines :
    ((plainMediaNego .idle).formSdp (plainEnvironment true) onlyAudio []).2 = some onlyAudioSdp ∧
      OwnLines (plainEnvironment true) (plainMediaNego .idle) onlyAudio onlyAudioSdp := by
  refine ⟨rfl, (@formSdp_ownLines_iff _ _ _ _ _ _ _ [] _ _ rfl).mpr ⟨⟨?_, ?_⟩, ?_⟩⟩
  · decide
  · intro k m m' line _ hline hmedia
    have hlines : madeLines (plainEnvironment true) (plainMediaNego .idle) onlyAudio [] =
        [⟨.invalid, 0⟩] := rfl
    rw [hlines] at hline
    obtain rfl := List.mem_singleton.mp (List.mem_of_getElem? hline)
    cases hmedia
  · intro _
    refine ⟨?_, ?_⟩
    · intro m m' hm hm' _ _
      exact (of_decide_eq_true hm).trans (of_decide_eq_true hm').symm
    · intro hall _
      exact hall .audio rfl

def audioAndVideoSdp : FormedSdp Unit Unit Unit :=
  ⟨[⟨.invalid, 0⟩, ⟨.invalid, 0⟩],
    [⟨.audio, 0, plainProfile 41⟩, ⟨.video, 1, plainProfile 960⟩], some 960⟩

/-- A new offer that adds video and text to audio. -/
def allMediaSdp : FormedSdp Unit Unit Unit :=
  ⟨[⟨.audio, 50000⟩, ⟨.invalid, 0⟩, ⟨.invalid, 0⟩],
    [⟨.audio, 0, plainProfile 41⟩, ⟨.video, 1, plainProfile 960⟩, ⟨.text, 1, plainProfile 41⟩],
    none⟩

/-- The AS value of the session is that of video only; and video and text have the same line. -/
theorem formSdp_not_ownLines :
    ¬(∀ (x : MediaNego Unit Unit Unit) (request : SdpRequest) (lines : List MediaLine)
      (sdp : FormedSdp Unit Unit Unit),
      (x.formSdp (plainEnvironment true) request lines).2 = some sdp →
        OwnLines (plainEnvironment true) x request sdp) ∧
      ((plainMediaNego .negotiated).formSdp (plainEnvironment false) allMedia
        [⟨.audio, 50000⟩]).2 = some allMediaSdp ∧
      ¬OwnLines (plainEnvironment false) (plainMediaNego .negotiated) allMedia allMediaSdp := by
  refine ⟨?_, rfl, ?_⟩
  · intro h
    have hown := h (plainMediaNego .idle) audioAndVideo [] audioAndVideoSdp rfl
    have hsum := hown.bandwidth 960 rfl
    revert hsum
    decide
  · intro hown
    have hsame := hown.distinct ⟨.video, 1, plainProfile 960⟩
      (List.mem_cons_of_mem _ List.mem_cons_self) ⟨.text, 1, plainProfile 41⟩
      (List.mem_cons_of_mem _ (List.mem_cons_of_mem _ List.mem_cons_self)) rfl
    cases hsame

end Example

end MediaNego

end ImsStack.Media
