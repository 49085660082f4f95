import ImsStack.Sdp.LineRoundTrip
import ImsStack.Sdp.Printed

/-!
The round trip of SDP texts: the encodings of what has been decoded decode to the
same descriptions if and only if every line of the text survives its own print.
-/

namespace ImsStack.Sdp.RoundTrip

open Platform.AString Platform.Tokens Library.OptionTraverse Tokens LineRoundTrip Bodies Printed

/-- The lines in front of the first m-line survive their print. -/
def sessionSurvives (lines : List Chars) : Bool :=
  (bodies 'v' lines).all versionSurvives && (bodies 'c' lines).all connectionSurvives &&
    (timeGroups lines).all (fun group => group.2.all repeatSurvives) &&
      (bodies 'z' lines).all zoneSurvives

/-- An m-line and its lines survive their print. -/
def mediaSectionSurvives (section_ : Chars × List Chars) : Bool :=
  mediaSurvives (lineBody section_.1) && (bodies 'c' section_.2).all connectionSurvives

/-- Every line of a text survives its print. -/
def linesSurvive (sdp : Chars) : Bool :=
  sessionSurvives (mediaSections (splitLines sdp)).1 &&
    (mediaSections (splitLines sdp)).2.all mediaSectionSurvives

section Description

variable {lines : List Chars} {d : SdpDescription}

theorem description_reads {printed : List Chars} (h : ReadsFrom {} lines d)
    (hi : bodies 'i' printed = bodies 'i' d.informationLines)
    (hb : bodies 'b' printed = bodies 'b' d.bandwidthLines)
    (hk : bodies 'k' printed = bodies 'k' d.keyLines)
    (ha : bodies 'a' printed = bodies 'a' d.attributeLines) : ReadsFrom {} printed d := by
  have hinformation := extends_nil_left.mp h.information
  have hbandwidths := extends_nil_left.mp h.bandwidths
  have hkey := extends_nil_left.mp h.encryptionKey
  have hattributes : (bodies 'a' lines).filterMap SdpAttribute.decode = d.attributes :=
    h.attributes.symm
  have hprinted : ∀ a ∈ d.attributes, a.strAttribute ≠ [] ∧ SdpAttribute.decode a.value = some a := by
    intro a ha
    rw [← hattributes] at ha
    obtain ⟨body, -, hdecode⟩ := List.mem_filterMap.mp ha
    obtain ⟨hvalue, hne⟩ := attribute_value_eq hdecode
    exact ⟨hne, hvalue.symm ▸ hdecode⟩
  rw [informationLines_eq, bodies_printedLines, if_pos rfl] at hi
  rw [bandwidthLines_eq, bodies_printedLines, if_pos rfl] at hb
  rw [keyLines_eq, bodies_printedLines, if_pos rfl] at hk
  rw [attributeLines_eq, bodies_printedLines, if_pos rfl,
    printValid_eq_map fun a ha => by simp [(hprinted a ha).1]] at ha
  constructor
  · rw [hi]
    apply extends_nil_left.mpr
    rw [mapM_printValid_eq_some_iff]
    intro i hi
    obtain ⟨body, -, hdecode⟩ := exists_mem_of_mapM_eq_some hinformation i hi
    obtain ⟨rfl, hne⟩ := information_eq hdecode
    exact ⟨by simpa using hne, hdecode⟩
  · rw [hb]
    apply extends_nil_left.mpr
    rw [mapM_printValid_eq_some_iff]
    intro b hb
    obtain ⟨body, -, hdecode⟩ := exists_mem_of_mapM_eq_some hbandwidths b hb
    exact ⟨by simpa using bandwidth_strType_ne_nil hdecode, bandwidth_decode_value hdecode⟩
  · rw [hk]
    apply extends_nil_left.mpr
    rw [mapM_printValid_eq_some_iff]
    intro k hk
    obtain ⟨body, -, hdecode⟩ := exists_mem_of_mapM_eq_some hkey k hk
    exact ⟨rfl, key_decode_value hdecode⟩
  · rw [ha, List.filterMap_map]
    have hread : d.attributes.filterMap (SdpAttribute.decode ∘ SdpAttribute.value) =
        d.attributes.filterMap some := List.filterMap_congr fun a ha => (hprinted a ha).2
    rw [hread, List.filterMap_some]
    rfl
  · rw [ha]
    intro body hbody hnone
    obtain ⟨a, ha, rfl⟩ := List.mem_map.mp hbody
    rw [(hprinted a ha).2] at hnone
    exact absurd hnone (by simp)

end Description

section Session

variable {lines : List Chars} {d : SdpSessionDescription}

theorem session_description_reads (h : SessionReads lines d) :
    ReadsFrom {} d.lines d.toSdpDescription := by
  apply description_reads h.description <;>
    rw [bodies_session_lines d (by decide) (by decide)] <;>
    simp [linesBeforeTime, linesAfterTime, informationLines_eq, bandwidthLines_eq, keyLines_eq,
      attributeLines_eq, bodies_append, bodies_printedLines]

/-- The groups of a session description are read back if the repeat times are printed. -/
theorem readTime_printed_iff (h : SessionReads lines d) :
    (d.timeDescriptions.map printedGroup).mapM readTime = some d.timeDescriptions ↔
      (timeGroups lines).all (fun group => group.2.all repeatSurvives) = true := by
  rw [mapM_map_eq_some_iff, List.all_eq_true]
  apply forall_mem_iff_of_mapM_eq_some h.timeDescriptions
  intro t group ht
  simp only [readTime, Option.bind_eq_bind, Option.bind_eq_some_iff, Option.pure_def,
    Option.some.injEq] at ht
  obtain ⟨time, htime, repeats, hrepeats, rfl⟩ := ht
  have hread : readTime (printedGroup ⟨time, repeats⟩) = some ⟨time, repeats⟩ ↔
      (printValid SdpRepeatTime.isValid SdpRepeatTime.value repeats).mapM SdpRepeatTime.decode =
        some repeats := by
    simp only [readTime, printedGroup, time_decode_value htime, Option.bind_eq_bind,
      Option.bind_some, Option.bind_eq_some_iff, Option.pure_def, Option.some.injEq,
      SdpTimeDescription.mk.injEq, true_and]
    constructor
    · rintro ⟨_, hrepeats, rfl⟩
      exact hrepeats
    · exact fun hrepeats => ⟨_, hrepeats, rfl⟩
  rw [hread, mapM_printValid_eq_some_iff, List.all_eq_true]
  apply forall_mem_iff_of_mapM_eq_some hrepeats
  intro r body hr
  obtain ⟨-, -, -, hvalid⟩ := repeat_decode_spec hr
  rw [← hvalid]
  exact ⟨fun h => h.1, fun h => ⟨h, repeat_decode_value hr h⟩⟩

/-- The lines of a class are read back from the print if and only if each of them survives. -/
theorem mapM_print_iff {α : Type*} {read : Chars → Option α} {valid : α → Bool} {value : α → Chars}
    {survives : Chars → Bool} {bs : List Chars} {xs : List α} (h : bs.mapM read = some xs)
    (hline : ∀ x b, read b = some x → (valid x = true ∧ read (value x) = some x ↔
      survives b = true)) :
    (printValid valid value xs).mapM read = some xs ↔ bs.all survives = true := by
  rw [mapM_printValid_eq_some_iff, List.all_eq_true]
  exact forall_mem_iff_of_mapM_eq_some h hline

theorem mapM_print {α : Type*} {read : Chars → Option α} (valid : α → Bool) (value : α → Chars)
    {bs : List Chars} {xs : List α} (h : bs.mapM read = some xs)
    (hline : ∀ x b, read b = some x → valid x = true ∧ value x = b) :
    (printValid valid value xs).mapM read = some xs := by
  rw [mapM_printValid_eq_some_iff]
  intro x hx
  obtain ⟨b, -, hb⟩ := exists_mem_of_mapM_eq_some h x hx
  obtain ⟨hvalid, rfl⟩ := hline x b hb
  exact ⟨hvalid, hb⟩

variable (d) in
theorem bodies_v : bodies 'v' d.lines = printValid (fun _ => true) SdpVersion.value [d.version] := by
  rw [bodies_session_lines d (by decide) (by decide)]
  simp [linesBeforeTime, linesAfterTime, informationLines_eq, bandwidthLines_eq, keyLines_eq,
    attributeLines_eq, bodies_append, bodies_printedLines]

variable (d) in
theorem bodies_o : bodies 'o' d.lines = printValid SdpOrigin.isValid SdpOrigin.value [d.origin] := by
  rw [bodies_session_lines d (by decide) (by decide)]
  simp [linesBeforeTime, linesAfterTime, informationLines_eq, bandwidthLines_eq, keyLines_eq,
    attributeLines_eq, bodies_append, bodies_printedLines]

variable (d) in
theorem bodies_s :
    bodies 's' d.lines = printValid (fun _ => true) SdpSessionName.name [d.sessionName] := by
  rw [bodies_session_lines d (by decide) (by decide)]
  simp [linesBeforeTime, linesAfterTime, informationLines_eq, bandwidthLines_eq, keyLines_eq,
    attributeLines_eq, bodies_append, bodies_printedLines]

variable (d) in
theorem bodies_u :
    bodies 'u' d.lines = printValid (fun u => !u.uri.isEmpty) SdpUri.uri d.uri.toList := by
  rw [bodies_session_lines d (by decide) (by decide)]
  simp [linesBeforeTime, linesAfterTime, informationLines_eq, bandwidthLines_eq, keyLines_eq,
    attributeLines_eq, bodies_append, bodies_printedLines]

variable (d) in
theorem bodies_c : bodies 'c' d.lines =
    printValid SdpConnection.isValid SdpConnection.value d.connection.toList := by
  rw [bodies_session_lines d (by decide) (by decide)]
  simp [linesBeforeTime, linesAfterTime, informationLines_eq, bandwidthLines_eq, keyLines_eq,
    attributeLines_eq, bodies_append, bodies_printedLines]

variable (d) in
theorem bodies_z : bodies 'z' d.lines =
    printValid (fun z => !z.zoneAdjustments.isEmpty) SdpTimezone.value d.timezone.toList := by
  rw [bodies_session_lines d (by decide) (by decide)]
  simp [linesBeforeTime, linesAfterTime, informationLines_eq, bandwidthLines_eq, keyLines_eq,
    attributeLines_eq, bodies_append, bodies_printedLines]

theorem version_line_iff {v : SdpVersion} {body : Chars} (h : SdpVersion.decode body = some v) :
    true = true ∧ SdpVersion.decode v.value = some v ↔ versionSurvives body = true := by
  rw [← version_decode_value_iff h]
  exact ⟨fun h => h.2, fun h => ⟨rfl, h⟩⟩

theorem connection_line_iff {c : SdpConnection} {body : Chars}
    (h : SdpConnection.decode body = some c) :
    c.isValid = true ∧ SdpConnection.decode c.value = some c ↔ connectionSurvives body = true := by
  rw [← connection_decode_value_iff h]
  exact ⟨fun h => h.2, fun hvalue => ⟨connection_isValid h, hvalue⟩⟩

theorem timezone_line_iff {z : SdpTimezone} {body : Chars} (h : SdpTimezone.decode body = some z) :
    (!z.zoneAdjustments.isEmpty) = true ∧ SdpTimezone.decode z.value = some z ↔
      zoneSurvives body = true := by
  rw [← timezone_decode_value_iff h]
  exact ⟨fun h => h.2, fun hvalue => ⟨by simpa using (timezone_decode_spec h).1, hvalue⟩⟩

/-- The lines of a session description that has been decoded yield it again if and only if the
lines it was decoded from survive. -/
theorem session_reads_iff (h : SessionReads lines d) :
    SessionReads d.lines d ↔ sessionSurvives lines = true := by
  have horigin := mapM_print SdpOrigin.isValid SdpOrigin.value h.origin fun o body ho =>
    ⟨origin_isValid ho, origin_value_eq ho⟩
  have hname := mapM_print (fun _ => true) SdpSessionName.name h.sessionName fun n body hn =>
    ⟨rfl, sessionName_name_eq hn⟩
  have huri := mapM_print (fun u => !u.uri.isEmpty) SdpUri.uri h.uri
    fun u body hu => by
      obtain ⟨rfl, hne⟩ := uri_eq hu
      exact ⟨by simpa using hne, rfl⟩
  have hversion := mapM_print_iff h.version fun _ _ => version_line_iff
  have hconnection := mapM_print_iff h.connection fun _ _ => connection_line_iff
  have htimezone := mapM_print_iff h.timezone fun _ _ => timezone_line_iff
  have htime := readTime_printed_iff h
  simp only [sessionSurvives, Bool.and_eq_true, ← hversion, ← hconnection, ← htimezone, ← htime]
  rw [sessionReads_iff, bodies_v, bodies_o, bodies_s, bodies_u, bodies_c, bodies_z,
    timeGroups_session_lines]
  constructor
  · rintro ⟨hv, -, -, -, hc, ht, -, hz, -⟩
    exact ⟨⟨⟨hv, hc⟩, ht⟩, hz⟩
  · rintro ⟨⟨⟨hv, hc⟩, ht⟩, hz⟩
    exact ⟨hv, horigin, hname, huri, hc, ht, h.timeDescriptions_ne_nil, hz,
      session_description_reads h⟩

end Session

section Media

theorem bodies_mediaLines_c (d : SdpMediaDescription) : bodies 'c' (mediaLines d) =
    printValid SdpConnection.isValid SdpConnection.value d.connections := by
  simp [mediaLines, informationLines_eq, bandwidthLines_eq, keyLines_eq, attributeLines_eq,
    bodies_append, bodies_printedLines]

/-- A media description that has been decoded is read back from its print if and only if its
m-line and its c-lines survive. -/
theorem media_reads_iff {mediaLine : Chars} {lines : List Chars} {d : SdpMediaDescription}
    (h : SdpMediaDescription.decode mediaLine lines = some d) :
    SdpMediaDescription.decode (sdpLine 'm' d.media.value) (mediaLines d) = some d ↔
      mediaSectionSurvives (mediaLine, lines) = true := by
  obtain ⟨hmedia, hconnections, hdescription⟩ := media_decode_iff.mp h
  have hprinted : ReadsFrom {} (mediaLines d) d.toSdpDescription := by
    apply description_reads hdescription <;>
      simp [mediaLines, informationLines_eq, bandwidthLines_eq, keyLines_eq, attributeLines_eq,
        bodies_append, bodies_printedLines]
  have hbody : lineBody (sdpLine 'm' d.media.value) = d.media.value := rfl
  rw [media_decode_iff, bodies_mediaLines_c, hbody, media_decode_value_iff hmedia,
    mapM_print_iff hconnections fun _ _ => connection_line_iff, mediaSectionSurvives,
    Bool.and_eq_true]
  exact ⟨fun h => ⟨h.1, h.2.1⟩, fun h => ⟨h.1, h.2, hprinted⟩⟩

end Media

section Newlines

/-- No line of the list holds a line feed. -/
def NoNewline (lines : List Chars) : Prop := ∀ line ∈ lines, '\n' ∉ line

theorem noNewline_append_iff {lines lines' : List Chars} :
    NoNewline (lines ++ lines') ↔ NoNewline lines ∧ NoNewline lines' :=
  List.forall_mem_append

theorem newline_not_mem_lineBody {line : Chars} (h : '\n' ∉ line) : '\n' ∉ lineBody line :=
  fun hmem => h (List.mem_of_mem_drop hmem)

theorem newline_not_mem_of_mem_bodies {type : Char} {lines : List Chars} {body : Chars}
    (h : NoNewline lines) (hbody : body ∈ bodies type lines) : '\n' ∉ body := by
  obtain ⟨line, hline, rfl⟩ := List.mem_map.mp hbody
  exact newline_not_mem_lineBody (h line (List.mem_of_mem_filter hline))

theorem noNewline_printedLines {α : Type*} {type : Char} {valid : α → Bool} {value : α → Chars}
    {xs : List α} (htype : type ≠ '\n') (h : ∀ x ∈ xs, '\n' ∉ value x) :
    NoNewline (printedLines type valid value xs) := by
  intro line hline
  obtain ⟨x, hx, rfl⟩ := mem_printedLines hline
  simp [sdpLine, htype.symm, h x hx]

/-- The lines of a class whose decoder leads from bodies without a line feed to values without. -/
theorem noNewline_of_mapM {α : Type*} (type : Char) (valid : α → Bool) (value : α → Chars)
    {read : Chars → Option α} {bs : List Chars} {xs : List α} (htype : type ≠ '\n')
    (hbs : ∀ b ∈ bs, '\n' ∉ b) (h : bs.mapM read = some xs)
    (hvalue : ∀ b x, '\n' ∉ b → read b = some x → '\n' ∉ value x) :
    NoNewline (printedLines type valid value xs) := by
  apply noNewline_printedLines htype
  intro x hx
  obtain ⟨b, hb, hread⟩ := exists_mem_of_mapM_eq_some h x hx
  exact hvalue b x (hbs b hb) hread

theorem noNewline_timeLines (ts : List SdpTimeDescription) : NoNewline (timeLines ts) := by
  induction ts with
  | nil => exact fun line hline => absurd hline List.not_mem_nil
  | cons t ts ih =>
    have hrepeats : NoNewline (printedLines 'r' SdpRepeatTime.isValid SdpRepeatTime.value
        t.repeatTimes) :=
      noNewline_printedLines (by decide) fun r _ => newline_not_mem_repeat_value r
    have htime : '\n' ∉ sdpLine 't' t.time.value := by
      simp [sdpLine, newline_not_mem_time_value]
    rw [timeLines_cons, NoNewline, List.forall_mem_cons]
    exact ⟨htime, noNewline_append_iff.mpr ⟨hrepeats, ih⟩⟩

variable {lines : List Chars} (hlines : NoNewline lines)

include hlines

theorem noNewline_description {d : SdpDescription} (h : ReadsFrom {} lines d) :
    NoNewline d.informationLines ∧ NoNewline d.bandwidthLines ∧ NoNewline d.keyLines ∧
      NoNewline d.attributeLines := by
  have hbodies : ∀ type, ∀ b ∈ bodies type lines, '\n' ∉ b := fun _ _ =>
    newline_not_mem_of_mem_bodies hlines
  refine ⟨?_, ?_, ?_, ?_⟩
  · rw [informationLines_eq]
    apply noNewline_of_mapM 'i' _ _ (by decide) (hbodies 'i') (extends_nil_left.mp h.information)
    intro b i hb hread
    rw [(information_eq hread).1]
    exact hb
  · rw [bandwidthLines_eq]
    apply noNewline_of_mapM 'b' _ _ (by decide) (hbodies 'b') (extends_nil_left.mp h.bandwidths)
    exact fun _ _ _ => newline_not_mem_bandwidth_value
  · rw [keyLines_eq]
    apply noNewline_of_mapM 'k' _ _ (by decide) (hbodies 'k') (extends_nil_left.mp h.encryptionKey)
    exact fun _ _ => newline_not_mem_key_value
  · rw [attributeLines_eq]
    apply noNewline_printedLines (by decide)
    intro a ha
    have hattributes := h.attributes
    rw [show ({} : SdpDescription).attributes = [] from rfl, List.nil_append] at hattributes
    rw [hattributes] at ha
    obtain ⟨body, hbody, hread⟩ := List.mem_filterMap.mp ha
    rw [(attribute_value_eq hread).1]
    exact hbodies 'a' body hbody

theorem noNewline_session {d : SdpSessionDescription} (h : SessionReads lines d) :
    NoNewline d.lines := by
  have hbodies : ∀ type, ∀ b ∈ bodies type lines, '\n' ∉ b := fun _ _ =>
    newline_not_mem_of_mem_bodies hlines
  obtain ⟨hi, hb, hk, ha⟩ := noNewline_description hlines h.description
  have hv : NoNewline (printedLines 'v' (fun _ => true) SdpVersion.value [d.version]) :=
    noNewline_printedLines (by decide) fun v _ => newline_not_mem_setNumber _
  have ho := noNewline_of_mapM 'o' SdpOrigin.isValid SdpOrigin.value
    (by decide) (hbodies 'o') h.origin fun b o hb ho => origin_value_eq ho ▸ hb
  have hs := noNewline_of_mapM 's' (fun _ => true) SdpSessionName.name
    (by decide) (hbodies 's') h.sessionName fun b n hb hn => sessionName_name_eq hn ▸ hb
  have hu := noNewline_of_mapM 'u' (fun u => !u.uri.isEmpty) SdpUri.uri
    (by decide) (hbodies 'u') h.uri fun b u hb hu => (uri_eq hu).1 ▸ hb
  have hc := noNewline_of_mapM 'c' SdpConnection.isValid SdpConnection.value (by decide)
    (hbodies 'c') h.connection
    fun _ _ => newline_not_mem_connection_value
  have hz : NoNewline (printedLines 'z' (fun z => !z.zoneAdjustments.isEmpty) SdpTimezone.value
      d.timezone.toList) :=
    noNewline_printedLines (by decide) fun z _ => newline_not_mem_timezone_value z
  simp only [session_lines_eq, linesBeforeTime, linesAfterTime, noNewline_append_iff]
  exact ⟨⟨hv, ho, hs, hi, hu, hc, hb⟩, noNewline_timeLines _, hz, hk, ha⟩

theorem noNewline_media {mediaLine : Chars} {d : SdpMediaDescription} (hmediaLine : '\n' ∉ mediaLine)
    (h : SdpMediaDescription.decode mediaLine lines = some d) : NoNewline d.lines := by
  obtain ⟨hmedia, hconnections, hdescription⟩ := media_decode_iff.mp h
  obtain ⟨hi, hb, hk, ha⟩ := noNewline_description hlines hdescription
  have hm : '\n' ∉ sdpLine 'm' d.media.value := by
    simp [sdpLine, newline_not_mem_media_value (newline_not_mem_lineBody hmediaLine) hmedia]
  have hc := noNewline_of_mapM 'c' SdpConnection.isValid SdpConnection.value (by decide)
    (fun _ => newline_not_mem_of_mem_bodies hlines) hconnections
    fun _ _ => newline_not_mem_connection_value
  have hrest : NoNewline (mediaLines d) := by
    simp only [mediaLines, noNewline_append_iff]
    exact ⟨hi, hc, hb, hk, ha⟩
  rw [media_lines_eq, NoNewline, List.forall_mem_cons]
  exact ⟨hm, hrest⟩

end Newlines

section Text

theorem noNewline_mediaSections {lines : List Chars} (h : NoNewline lines) :
    NoNewline (mediaSections lines).1 ∧
      ∀ s ∈ (mediaSections lines).2, '\n' ∉ s.1 ∧ NoNewline s.2 := by
  induction lines with
  | nil => exact ⟨h, fun s hs => absurd hs List.not_mem_nil⟩
  | cons line lines ih =>
    rw [NoNewline, List.forall_mem_cons] at h
    obtain ⟨hfront, hsections⟩ := ih h.2
    rw [mediaSections]
    dsimp only
    split
    · refine ⟨fun line hline => absurd hline List.not_mem_nil, ?_⟩
      rw [List.forall_mem_cons]
      exact ⟨⟨h.1, hfront⟩, hsections⟩
    · refine ⟨?_, hsections⟩
      rw [NoNewline, List.forall_mem_cons]
      exact ⟨h.1, hfront⟩

theorem decodeLines_eq_some_iff {lines : List Chars} {p : SdpParser} :
    SdpParser.decodeLines lines = some p ↔
      SdpSessionDescription.decode (mediaSections lines).1 = some p.sessionDescription ∧
        ((mediaSections lines).2.mapM fun s => SdpMediaDescription.decode s.1 s.2) =
          some p.mediaDescriptions := by
  simp only [SdpParser.decodeLines, Option.bind_eq_bind, Option.bind_eq_some_iff, Option.pure_def,
    Option.some.injEq]
  constructor
  · rintro ⟨session, hsession, medias, hmedias, rfl⟩
    exact ⟨hsession, hmedias⟩
  · rintro ⟨hsession, hmedias⟩
    exact ⟨_, hsession, _, hmedias, rfl⟩

variable {sdp : Chars} {p : SdpParser}

theorem splitLines_encode (h : SdpParser.decode sdp = some p) : splitLines p.encode = p.lines := by
  obtain ⟨hsession, hmedias⟩ := decodeLines_eq_some_iff.mp h
  have hlines : NoNewline (splitLines sdp) := fun _ => newline_not_mem_of_mem_splitLines
  obtain ⟨hfront, hsections⟩ := noNewline_mediaSections hlines
  apply splitLines_flatMap_crlf
  intro line hline
  rw [SdpParser.lines, List.mem_append, List.mem_flatMap] at hline
  rcases hline with hline | ⟨m, hm, hline⟩
  · have hhead := (session_head_ne_m _ hline).1
    refine ⟨?_, noNewline_session hfront (session_decode_iff.mp hsession) line hline⟩
    rintro rfl
    exact hhead rfl
  · obtain ⟨s, hs, hread⟩ := exists_mem_of_mapM_eq_some hmedias m hm
    refine ⟨?_, noNewline_media (hsections s hs).2 (hsections s hs).1 hread line hline⟩
    rw [media_lines_eq, List.mem_cons] at hline
    rcases hline with rfl | hline
    · exact List.cons_ne_nil _ _
    · rintro rfl
      exact (head_of_mem_mediaLines m hline).1 rfl

/-- A decoded text is encoded into a text that decodes to the same descriptions if and only if
each of its lines survives its print. -/
theorem decode_encode_iff (h : SdpParser.decode sdp = some p) :
    SdpParser.decode p.encode = some p ↔ linesSurvive sdp = true := by
  obtain ⟨hsession, hmedias⟩ := decodeLines_eq_some_iff.mp h
  rw [SdpParser.decode, splitLines_encode h, decodeLines_eq_some_iff, mediaSections_lines,
    linesSurvive, Bool.and_eq_true, session_decode_iff,
    session_reads_iff (session_decode_iff.mp hsession), mapM_map_eq_some_iff, List.all_eq_true]
  have hmedia := forall_mem_iff_of_mapM_eq_some (P := fun m =>
    SdpMediaDescription.decode (sdpLine 'm' m.media.value) (mediaLines m) = some m) hmedias
    fun m s hs => media_reads_iff hs
  rw [hmedia]

/-- A session description with a connection to a multicast address. -/
def multicastSdp : Chars :=
  encodeLines (["v=0", "o=- 1 1 IN IP4 a.bc", "s=-", "c=IN IP4 224.2.1.1/127", "t=0 0"].map
    String.toList)

def multicastParser : SdpParser where
  sessionDescription :=
    { version := ⟨0⟩
      origin := ⟨"-".toList, "1".toList, "1".toList, .in_, "IN".toList, .ip4, "IP4".toList,
        "a.bc".toList⟩
      sessionName := ⟨"-".toList⟩
      connection := some { addrType := .ip4, strAddrType := "IP4".toList,
                           address := "224.2.1.1".toList, ttl := 127 }
      timeDescriptions := [⟨⟨0, 0⟩, []⟩] }
  mediaDescriptions := []

theorem decode_encode_iff_multicast :
    SdpParser.decode multicastSdp = some multicastParser ∧
      (SdpParser.decode multicastParser.encode = some multicastParser ↔
        linesSurvive multicastSdp = true) :=
  have h : SdpParser.decode multicastSdp = some multicastParser := by decide +kernel
  ⟨h, decode_encode_iff h⟩

/-- The time to live of the c-line is not printed. -/
theorem not_decode_encode :
    ¬ ∀ sdp p, SdpParser.decode sdp = some p → SdpParser.decode p.encode = some p := by
  intro h
  have hdecode : SdpParser.decode multicastSdp = some multicastParser := by decide +kernel
  have hencode : SdpParser.decode multicastParser.encode ≠ some multicastParser := by
    decide +kernel
  exact hencode (h multicastSdp multicastParser hdecode)

end Text

end ImsStack.Sdp.RoundTrip
