import ImsStack.Sdp.Bodies

/-!
The printed descriptions, told by the bodies of their lines: what the decoders find
in the lines that the encoders write.
-/

namespace ImsStack.Sdp.Printed

open Platform.AString Library.OptionTraverse Bodies

theorem bodies_append (type : Char) (lines lines' : List Chars) :
    bodies type (lines ++ lines') = bodies type lines ++ bodies type lines' := by
  simp [bodies]

theorem bodies_sdpLine_cons (type type' : Char) (value : Chars) (lines : List Chars) :
    bodies type (sdpLine type' value :: lines) =
      if type' = type then value :: bodies type lines else bodies type lines := by
  rw [bodies_cons]
  simp [sdpLine, lineBody]

/-- The lines of the valid elements of a list. -/
def printedLines {α : Type*} (type : Char) (valid : α → Bool) (value : α → Chars) (xs : List α) :
    List Chars :=
  xs.flatMap fun x => encodedLine type (valid x) (value x)

theorem bodies_printedLines {α : Type*} (type type' : Char) (valid : α → Bool) (value : α → Chars)
    (xs : List α) :
    bodies type (printedLines type' valid value xs) =
      if type' = type then printValid valid value xs else [] := by
  induction xs with
  | nil => simp [printedLines, printValid, bodies_nil]
  | cons x xs ih =>
    have hcons : printedLines type' valid value (x :: xs) =
        encodedLine type' (valid x) (value x) ++ printedLines type' valid value xs := rfl
    rw [hcons, bodies_append, ih, printValid_cons, encodedLine]
    split <;> split <;> simp_all [bodies_sdpLine_cons, bodies_nil]

theorem mem_printedLines {α : Type*} {type : Char} {valid : α → Bool} {value : α → Chars}
    {xs : List α} {line : Chars} (h : line ∈ printedLines type valid value xs) :
    ∃ x ∈ xs, line = sdpLine type (value x) := by
  obtain ⟨x, hx, hline⟩ := List.mem_flatMap.mp h
  unfold encodedLine at hline
  split at hline
  · exact ⟨x, hx, List.mem_singleton.mp hline⟩
  · exact absurd hline List.not_mem_nil

section Description

variable (d : SdpDescription)

theorem informationLines_eq : d.informationLines =
    printedLines 'i' (fun i => !i.information.isEmpty) SdpInformation.information
      d.information.toList := rfl

theorem bandwidthLines_eq : d.bandwidthLines =
    printedLines 'b' (fun b => !b.strType.isEmpty) SdpBandwidth.value d.bandwidths := rfl

theorem keyLines_eq : d.keyLines =
    printedLines 'k' (fun _ => true) SdpEncryptionKey.value d.encryptionKey.toList := by
  cases h : d.encryptionKey <;> simp [SdpDescription.keyLines, printedLines, encodedLine, h]

theorem attributeLines_eq : d.attributeLines =
    printedLines 'a' (fun a => !a.strAttribute.isEmpty) SdpAttribute.value d.attributes := rfl

end Description

/-- The lines of a list of time descriptions. -/
def timeLines (ts : List SdpTimeDescription) : List Chars := ts.flatMap SdpTimeDescription.lines

theorem timeLines_cons (t : SdpTimeDescription) (ts : List SdpTimeDescription) :
    timeLines (t :: ts) = sdpLine 't' t.time.value ::
      (printedLines 'r' SdpRepeatTime.isValid SdpRepeatTime.value t.repeatTimes ++ timeLines ts) :=
  rfl

theorem bodies_timeLines {type : Char} (ht : type ≠ 't') (hr : type ≠ 'r')
    (ts : List SdpTimeDescription) : bodies type (timeLines ts) = [] := by
  induction ts with
  | nil => rfl
  | cons t ts ih =>
    rw [timeLines_cons, bodies_sdpLine_cons, bodies_append, bodies_printedLines, ih,
      if_neg (Ne.symm ht), if_neg (Ne.symm hr)]
    rfl

theorem timeGroups_append_of_ne {lines : List Chars} (h : ∀ line ∈ lines, line.head? ≠ some 't')
    (lines' : List Chars) : timeGroups (lines ++ lines') = timeGroups lines' := by
  induction lines with
  | nil => rfl
  | cons line lines ih =>
    rw [List.forall_mem_cons] at h
    rw [List.cons_append, timeGroups_cons_of_ne h.1, ih h.2]

theorem head_sdpLine (type : Char) (value : Chars) : (sdpLine type value).head? = some type := rfl

theorem head_of_mem_printedLines {α : Type*} {type : Char} {valid : α → Bool} {value : α → Chars}
    {xs : List α} {line : Chars} (h : line ∈ printedLines type valid value xs) :
    line.head? = some type := by
  obtain ⟨x, -, rfl⟩ := mem_printedLines h
  exact head_sdpLine type (value x)

/-- The group that is found in the lines of a time description. -/
def printedGroup (t : SdpTimeDescription) : Chars × List Chars :=
  (t.time.value, printValid SdpRepeatTime.isValid SdpRepeatTime.value t.repeatTimes)

theorem map_lineBody_printedLines {α : Type*} (type : Char) (valid : α → Bool) (value : α → Chars)
    (xs : List α) : (printedLines type valid value xs).map lineBody = printValid valid value xs := by
  have hfilter : (printedLines type valid value xs).filter (·.head? = some type) =
      printedLines type valid value xs :=
    List.filter_eq_self.mpr fun line hline => decide_eq_true (head_of_mem_printedLines hline)
  have hbodies := bodies_printedLines type type valid value xs
  rwa [if_pos rfl, bodies, hfilter] at hbodies

theorem timeGroups_timeLines (ts : List SdpTimeDescription) {rest : List Chars}
    (hrest : ∀ line ∈ rest, line.head? ≠ some 't' ∧ line.head? ≠ some 'r') :
    timeGroups (timeLines ts ++ rest) = ts.map printedGroup := by
  induction ts with
  | nil =>
    have hnil : timeGroups (rest ++ []) = timeGroups [] :=
      timeGroups_append_of_ne (fun line hline => (hrest line hline).1) []
    rw [List.append_nil] at hnil
    exact hnil
  | cons t ts ih =>
    let repeats := printedLines 'r' SdpRepeatTime.isValid SdpRepeatTime.value t.repeatTimes
    have hrepeats : ∀ line ∈ repeats, line.head? = some 'r' := fun _ => head_of_mem_printedLines
    have hstop : ∀ line ∈ (timeLines ts ++ rest).head?, line.head? ≠ some 'r' := by
      cases ts with
      | nil =>
        intro line hline
        exact (hrest line (List.mem_of_mem_head? hline)).2
      | cons t' ts =>
        intro line hline
        rw [timeLines_cons] at hline
        obtain rfl : sdpLine 't' t'.time.value = line := Option.some.inj hline
        rw [head_sdpLine]
        decide
    have htake : (repeats ++ (timeLines ts ++ rest)).takeWhile (·.head? = some 'r') = repeats := by
      rw [List.takeWhile_append_of_pos fun line hline => decide_eq_true (hrepeats line hline)]
      cases hlines : timeLines ts ++ rest with
      | nil => rw [List.takeWhile_nil, List.append_nil]
      | cons line lines =>
        rw [hlines] at hstop
        rw [List.takeWhile_cons_of_neg (by simpa using hstop line rfl), List.append_nil]
    have hskip : timeGroups (repeats ++ (timeLines ts ++ rest)) = timeGroups (timeLines ts ++ rest) :=
      timeGroups_append_of_ne (fun line hline => by simp [hrepeats line hline]) _
    rw [timeLines_cons, List.cons_append, List.append_assoc, timeGroups,
      if_pos (head_sdpLine 't' t.time.value), htake, hskip, ih, List.map_cons,
      map_lineBody_printedLines]
    rfl

section Session

variable (d : SdpSessionDescription)

/-- The lines behind the time descriptions. -/
def linesAfterTime : List Chars :=
  printedLines 'z' (fun z => !z.zoneAdjustments.isEmpty) SdpTimezone.value d.timezone.toList ++
    (d.keyLines ++ d.attributeLines)

/-- The lines in front of the time descriptions. -/
def linesBeforeTime : List Chars :=
  printedLines 'v' (fun _ => true) SdpVersion.value [d.version] ++
    (printedLines 'o' SdpOrigin.isValid SdpOrigin.value [d.origin] ++
      (printedLines 's' (fun _ => true) SdpSessionName.name [d.sessionName] ++
        (d.informationLines ++
          (printedLines 'u' (fun u => !u.uri.isEmpty) SdpUri.uri d.uri.toList ++
            (printedLines 'c' SdpConnection.isValid SdpConnection.value d.connection.toList ++
              d.bandwidthLines)))))

theorem session_lines_eq :
    d.lines = linesBeforeTime d ++ (timeLines d.timeDescriptions ++ linesAfterTime d) := by
  simp only [SdpSessionDescription.lines, linesBeforeTime, linesAfterTime, printedLines, timeLines,
    List.flatMap_cons, List.flatMap_nil, encodedLine, if_true, List.append_assoc, List.cons_append,
    List.nil_append, List.append_nil]

theorem bodies_session_lines {type : Char} (ht : type ≠ 't') (hr : type ≠ 'r') :
    bodies type d.lines = bodies type (linesBeforeTime d) ++ bodies type (linesAfterTime d) := by
  rw [session_lines_eq, bodies_append, bodies_append, bodies_timeLines ht hr, List.nil_append]

theorem head_of_mem_linesAfterTime {line : Chars} (h : line ∈ linesAfterTime d) :
    line.head? = some 'z' ∨ line.head? = some 'k' ∨ line.head? = some 'a' := by
  rw [linesAfterTime, keyLines_eq, attributeLines_eq, List.mem_append, List.mem_append] at h
  rcases h with h | h | h
  · exact .inl (head_of_mem_printedLines h)
  · exact .inr (.inl (head_of_mem_printedLines h))
  · exact .inr (.inr (head_of_mem_printedLines h))

theorem head_of_mem_linesBeforeTime {line : Chars} (h : line ∈ linesBeforeTime d) :
    line.head? ≠ none ∧ line.head? ≠ some 't' ∧ line.head? ≠ some 'm' := by
  rw [linesBeforeTime, informationLines_eq, bandwidthLines_eq] at h
  simp only [List.mem_append] at h
  rcases h with h | h | h | h | h | h | h <;> rw [head_of_mem_printedLines h] <;> decide

theorem timeGroups_session_lines : timeGroups d.lines = d.timeDescriptions.map printedGroup := by
  rw [session_lines_eq,
    timeGroups_append_of_ne fun line hline => (head_of_mem_linesBeforeTime d hline).2.1]
  refine timeGroups_timeLines d.timeDescriptions fun line hline => ?_
  rcases head_of_mem_linesAfterTime d hline with h | h | h <;> rw [h] <;> decide

end Session

/-- The lines of a media description behind its m-line. -/
def mediaLines (d : SdpMediaDescription) : List Chars :=
  d.informationLines ++
    (printedLines 'c' SdpConnection.isValid SdpConnection.value d.connections ++
      (d.bandwidthLines ++ (d.keyLines ++ d.attributeLines)))

theorem media_lines_eq (d : SdpMediaDescription) :
    d.lines = sdpLine 'm' d.media.value :: mediaLines d := by
  simp only [SdpMediaDescription.lines, mediaLines, printedLines, List.append_assoc]

theorem head_of_mem_mediaLines (d : SdpMediaDescription) {line : Chars} (h : line ∈ mediaLines d) :
    line.head? ≠ none ∧ line.head? ≠ some 'm' := by
  rw [mediaLines, informationLines_eq, bandwidthLines_eq, keyLines_eq, attributeLines_eq] at h
  simp only [List.mem_append] at h
  rcases h with h | h | h | h | h <;> rw [head_of_mem_printedLines h] <;> decide

section MediaSections

theorem mediaSections_cons_of_ne {line : Chars} (h : line.head? ≠ some 'm') (lines : List Chars) :
    mediaSections (line :: lines) =
      (line :: (mediaSections lines).1, (mediaSections lines).2) := by
  rw [mediaSections]
  exact if_neg h

theorem mediaSections_append {front : List Chars} (h : ∀ line ∈ front, line.head? ≠ some 'm')
    (lines : List Chars) :
    mediaSections (front ++ lines) =
      (front ++ (mediaSections lines).1, (mediaSections lines).2) := by
  induction front with
  | nil => rfl
  | cons line front ih =>
    rw [List.forall_mem_cons] at h
    rw [List.cons_append, mediaSections_cons_of_ne h.1, ih h.2, List.cons_append]

theorem mediaSections_media (ms : List SdpMediaDescription) :
    mediaSections (ms.flatMap SdpMediaDescription.lines) =
      ([], ms.map fun m => (sdpLine 'm' m.media.value, mediaLines m)) := by
  induction ms with
  | nil => rfl
  | cons m ms ih =>
    rw [List.flatMap_cons, media_lines_eq, List.cons_append, mediaSections,
      mediaSections_append fun line hline => (head_of_mem_mediaLines m hline).2, ih]
    exact (if_pos (head_sdpLine 'm' m.media.value)).trans (by rw [List.append_nil, List.map_cons])

end MediaSections

theorem session_head_ne_m (d : SdpSessionDescription) {line : Chars} (h : line ∈ d.lines) :
    line.head? ≠ none ∧ line.head? ≠ some 'm' := by
  rw [session_lines_eq, List.mem_append, List.mem_append] at h
  rcases h with h | h | h
  · have hhead := head_of_mem_linesBeforeTime d h
    exact ⟨hhead.1, hhead.2.2⟩
  · obtain ⟨t, -, hline⟩ := List.mem_flatMap.mp h
    rw [SdpTimeDescription.lines, List.mem_cons] at hline
    rcases hline with rfl | hline
    · rw [head_sdpLine]
      decide
    · rw [head_of_mem_printedLines hline]
      decide
  · rcases head_of_mem_linesAfterTime d h with h | h | h <;> rw [h] <;> decide

theorem mediaSections_lines (p : SdpParser) :
    mediaSections p.lines = (p.sessionDescription.lines,
      p.mediaDescriptions.map fun m => (sdpLine 'm' m.media.value, mediaLines m)) := by
  rw [SdpParser.lines,
    mediaSections_append fun line hline => (session_head_ne_m _ hline).2, mediaSections_media,
    List.append_nil]

end ImsStack.Sdp.Printed
