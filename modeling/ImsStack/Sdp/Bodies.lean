import Mathlib.Tactic.MkIffOfInductiveProp
import ImsStack.Library.OptionTraverse
import ImsStack.Sdp.SdpParser

/-!
What the decoders of the descriptions read, told by the bodies of the lines of each
type in their order.
-/

namespace ImsStack.Sdp.Bodies

open Platform.AString Library.OptionTraverse

/-- The bodies of the lines of a type. -/
def bodies (type : Char) (lines : List Chars) : List Chars :=
  (lines.filter (·.head? = some type)).map lineBody

/-- The body of each t-line, with the bodies of the r-lines that follow it. -/
def timeGroups : List Chars → List (Chars × List Chars)
  | [] => []
  | line :: lines =>
    if line.head? = some 't' then
      (lineBody line, (lines.takeWhile (·.head? = some 'r')).map lineBody) :: timeGroups lines
    else timeGroups lines

theorem bodies_nil (type : Char) : bodies type [] = [] := rfl

theorem bodies_cons (type : Char) (line : Chars) (lines : List Chars) :
    bodies type (line :: lines) =
      if line.head? = some type then lineBody line :: bodies type lines else bodies type lines := by
  unfold bodies
  rw [List.filter_cons]
  split <;> simp_all

theorem bodies_cons_of_ne {type : Char} {line : Chars} (h : line.head? ≠ some type)
    (lines : List Chars) : bodies type (line :: lines) = bodies type lines := by
  rw [bodies_cons, if_neg h]

/-- The lines take a description `d₀` to `d`. -/
@[mk_iff]
structure ReadsFrom (d₀ : SdpDescription) (lines : List Chars) (d : SdpDescription) : Prop where
  information : Extends d₀.information.toList SdpInformation.decode (bodies 'i' lines)
    d.information.toList
  bandwidths : Extends d₀.bandwidths SdpBandwidth.decode (bodies 'b' lines) d.bandwidths
  encryptionKey : Extends d₀.encryptionKey.toList SdpEncryptionKey.decode (bodies 'k' lines)
    d.encryptionKey.toList
  attributes : d.attributes = d₀.attributes ++ (bodies 'a' lines).filterMap SdpAttribute.decode
  skipped : ∀ body ∈ bodies 'a' lines, SdpAttribute.decode body = none →
    isFormatAttribute body = false

theorem toList_inj {α : Type*} {a b : Option α} : a.toList = b.toList ↔ a = b := by
  cases a <;> cases b <;> simp

theorem foldlM_decodeLine_iff {d₀ d : SdpDescription} {lines : List Chars} :
    lines.foldlM SdpDescription.decodeLine d₀ = some d ↔ ReadsFrom d₀ lines d := by
  induction lines generalizing d₀ with
  | nil =>
    constructor
    · intro h
      obtain rfl := Option.some.inj h
      exact {
        information := extends_nil.mpr rfl
        bandwidths := extends_nil.mpr rfl
        encryptionKey := extends_nil.mpr rfl
        attributes := (List.append_nil _).symm
        skipped := by simp [bodies_nil] }
    · rintro ⟨hinformation, hbandwidths, hkey, hattributes, -⟩
      have hinformation := toList_inj.mp (extends_nil.mp hinformation)
      have hbandwidths := extends_nil.mp hbandwidths
      have hkey := toList_inj.mp (extends_nil.mp hkey)
      rw [bodies_nil, List.filterMap_nil, List.append_nil] at hattributes
      cases d₀
      cases d
      simp_all [pure]
  | cons line lines ih =>
    have hstep : (line :: lines).foldlM SdpDescription.decodeLine d₀ =
        (SdpDescription.decodeLine d₀ line).bind fun d₁ =>
          lines.foldlM SdpDescription.decodeLine d₁ := List.foldlM_cons
    rw [hstep, Option.bind_eq_some_iff]
    simp only [ih]
    unfold SdpDescription.decodeLine
    dsimp only
    split
    · next htype =>
      simp only [readsFrom_iff, bodies_cons, htype, Option.some.injEq, Char.reduceEq, if_true,
        if_false, extends_option_cons]
      constructor
      · rintro ⟨d₁, h, hinformation, hrest⟩
        simp only [Option.bind_eq_bind, Option.bind_eq_some_iff, guard_eq_some_iff, exists_const,
          Option.pure_def, Option.some.injEq] at h
        obtain ⟨hnone, information, hdecode, rfl⟩ := h
        exact ⟨⟨Option.isNone_iff_eq_none.mp hnone, information, hdecode, hinformation⟩, hrest⟩
      · rintro ⟨⟨hnone, information, hdecode, hinformation⟩, hrest⟩
        refine ⟨{ d₀ with information := some information }, ?_, hinformation, hrest⟩
        simp [hnone, hdecode]
    · next htype =>
      simp only [readsFrom_iff, bodies_cons, htype, Option.some.injEq, Char.reduceEq, if_true,
        if_false, extends_cons]
      constructor
      · rintro ⟨d₁, h, hinformation, hbandwidths, hrest⟩
        simp only [Option.bind_eq_bind, Option.bind_eq_some_iff, Option.pure_def,
          Option.some.injEq] at h
        obtain ⟨bandwidth, hdecode, rfl⟩ := h
        exact ⟨hinformation, ⟨bandwidth, hdecode, hbandwidths⟩, hrest⟩
      · rintro ⟨hinformation, ⟨bandwidth, hdecode, hbandwidths⟩, hrest⟩
        refine ⟨{ d₀ with bandwidths := d₀.bandwidths ++ [bandwidth] }, ?_, hinformation,
          hbandwidths, hrest⟩
        simp [hdecode]
    · next htype =>
      simp only [readsFrom_iff, bodies_cons, htype, Option.some.injEq, Char.reduceEq, if_true,
        if_false, extends_option_cons]
      constructor
      · rintro ⟨d₁, h, hinformation, hbandwidths, hkey, hrest⟩
        simp only [Option.bind_eq_bind, Option.bind_eq_some_iff, guard_eq_some_iff, exists_const,
          Option.pure_def, Option.some.injEq] at h
        obtain ⟨hnone, key, hdecode, rfl⟩ := h
        exact ⟨hinformation, hbandwidths,
          ⟨Option.isNone_iff_eq_none.mp hnone, key, hdecode, hkey⟩, hrest⟩
      · rintro ⟨hinformation, hbandwidths, ⟨hnone, key, hdecode, hkey⟩, hrest⟩
        refine ⟨{ d₀ with encryptionKey := some key }, ?_, hinformation, hbandwidths, hkey, hrest⟩
        simp [hnone, hdecode]
    · next htype =>
      simp only [readsFrom_iff, bodies_cons, htype, Option.some.injEq, Char.reduceEq, if_true,
        if_false, List.forall_mem_cons]
      cases hdecode : SdpAttribute.decode (lineBody line) with
      | some a => simp [hdecode, List.append_assoc]
      | none =>
        cases hformat : isFormatAttribute (lineBody line) with
        | true => simp [hdecode]
        | false => simp [hdecode]
    · next hi hb hk ha =>
      simp only [readsFrom_iff, bodies_cons_of_ne hi, bodies_cons_of_ne hb, bodies_cons_of_ne hk,
        bodies_cons_of_ne ha, Option.some.injEq, exists_eq_left']

theorem description_decode_iff {lines : List Chars} {d : SdpDescription} :
    SdpDescription.decode lines = some d ↔ ReadsFrom {} lines d := foldlM_decodeLine_iff

/-- A t-line with its r-lines. -/
def readTime (group : Chars × List Chars) : Option SdpTimeDescription := do
  let time ← SdpTime.decode group.1
  let repeatTimes ← group.2.mapM SdpRepeatTime.decode
  return { time, repeatTimes }

/-- The lines take the session lines `d₀` to `d`. -/
@[mk_iff]
structure SessionReadsFrom (d₀ : SessionLines) (lines : List Chars) (d : SessionLines) : Prop where
  version : Extends d₀.version.toList SdpVersion.decode (bodies 'v' lines) d.version.toList
  origin : Extends d₀.origin.toList SdpOrigin.decode (bodies 'o' lines) d.origin.toList
  sessionName : Extends d₀.sessionName.toList SdpSessionName.decode (bodies 's' lines)
    d.sessionName.toList
  uri : Extends d₀.uri.toList SdpUri.decode (bodies 'u' lines) d.uri.toList
  connection : Extends d₀.connection.toList SdpConnection.decode (bodies 'c' lines)
    d.connection.toList
  timeDescriptions : Extends d₀.timeDescriptions readTime (timeGroups lines) d.timeDescriptions
  timezone : Extends d₀.timezone.toList SdpTimezone.decode (bodies 'z' lines) d.timezone.toList

theorem timeGroups_cons_of_ne {line : Chars} (h : line.head? ≠ some 't') (lines : List Chars) :
    timeGroups (line :: lines) = timeGroups lines := by
  rw [timeGroups, if_neg h]

theorem readTime_eq_some_iff {lines : List Chars} {body : Chars} {t : SdpTimeDescription} :
    readTime (body, (lines.takeWhile (·.head? = some 'r')).map lineBody) = some t ↔
      SdpTime.decode body = some t.time ∧
        ((lines.takeWhile (·.head? = some 'r')).mapM fun line =>
          SdpRepeatTime.decode (lineBody line)) = some t.repeatTimes := by
  simp only [readTime, List.mapM_map, Function.comp_def, Option.bind_eq_bind,
    Option.bind_eq_some_iff, Option.pure_def, Option.some.injEq]
  constructor
  · rintro ⟨time, htime, repeatTimes, hrepeat, rfl⟩
    exact ⟨htime, hrepeat⟩
  · rintro ⟨htime, hrepeat⟩
    exact ⟨t.time, htime, t.repeatTimes, hrepeat, rfl⟩

theorem session_decode_cons_iff {d₀ d : SessionLines} {line : Chars} {lines : List Chars}
    (ih : ∀ d₁, SessionLines.decode d₁ lines = some d ↔ SessionReadsFrom d₁ lines d) :
    SessionLines.decode d₀ (line :: lines) = some d ↔ SessionReadsFrom d₀ (line :: lines) d := by
  rw [SessionLines.decode]
  dsimp only
  split
  case h_6 htype =>
    simp only [sessionReadsFrom_iff, bodies_cons, timeGroups, htype, Option.some.injEq,
      Char.reduceEq, if_true, if_false, extends_cons, readTime_eq_some_iff, Option.bind_eq_bind,
      Option.bind_eq_some_iff, Option.pure_def, ih, exists_eq_left']
    constructor
    · rintro ⟨time, htime, repeats, hrepeats, hv, ho, hs, hu, hc, htimes, hz⟩
      exact ⟨hv, ho, hs, hu, hc, ⟨⟨time, repeats⟩, ⟨htime, hrepeats⟩, htimes⟩, hz⟩
    · rintro ⟨hv, ho, hs, hu, hc, ⟨⟨time, repeats⟩, ⟨htime, hrepeats⟩, htimes⟩, hz⟩
      exact ⟨time, htime, repeats, hrepeats, hv, ho, hs, hu, hc, htimes, hz⟩
  case h_8 hv ho hs hc hu ht hz =>
    simp only [sessionReadsFrom_iff, bodies_cons_of_ne hv, bodies_cons_of_ne ho,
      bodies_cons_of_ne hs, bodies_cons_of_ne hc, bodies_cons_of_ne hu, timeGroups_cons_of_ne ht,
      bodies_cons_of_ne hz, Option.bind_eq_bind, Option.pure_def, Option.bind_some, ih]
  all_goals
    next htype =>
    simp only [sessionReadsFrom_iff, bodies_cons, timeGroups, htype, Option.some.injEq,
      Char.reduceEq, if_true, if_false, extends_option_cons, Option.bind_eq_bind,
      Option.bind_eq_some_iff, guard_eq_some_iff, exists_const, Option.pure_def, ih,
      Option.isNone_iff_eq_none, exists_eq_left']
    grind

theorem sessionLines_decode_iff {d₀ d : SessionLines} {lines : List Chars} :
    SessionLines.decode d₀ lines = some d ↔ SessionReadsFrom d₀ lines d := by
  induction lines generalizing d₀ with
  | nil =>
    have hnil : SessionLines.decode d₀ [] = some d ↔ d = d₀ := by
      rw [SessionLines.decode, Option.some.injEq, eq_comm]
    rw [hnil, sessionReadsFrom_iff]
    simp only [bodies_nil, timeGroups, extends_nil, toList_inj]
    cases d
    cases d₀
    simp only [SessionLines.mk.injEq]
  | cons line lines ih => exact session_decode_cons_iff fun _ => ih

/-- The lines of a session description yield `d`. -/
@[mk_iff]
structure SessionReads (lines : List Chars) (d : SdpSessionDescription) : Prop where
  version : (bodies 'v' lines).mapM SdpVersion.decode = some [d.version]
  origin : (bodies 'o' lines).mapM SdpOrigin.decode = some [d.origin]
  sessionName : (bodies 's' lines).mapM SdpSessionName.decode = some [d.sessionName]
  uri : (bodies 'u' lines).mapM SdpUri.decode = some d.uri.toList
  connection : (bodies 'c' lines).mapM SdpConnection.decode = some d.connection.toList
  timeDescriptions : (timeGroups lines).mapM readTime = some d.timeDescriptions
  timeDescriptions_ne_nil : d.timeDescriptions ≠ []
  timezone : (bodies 'z' lines).mapM SdpTimezone.decode = some d.timezone.toList
  description : ReadsFrom {} lines d.toSdpDescription

theorem session_decode_iff {lines : List Chars} {d : SdpSessionDescription} :
    SdpSessionDescription.decode lines = some d ↔ SessionReads lines d := by
  unfold SdpSessionDescription.decode
  simp only [Option.bind_eq_bind, Option.bind_eq_some_iff, guard_eq_some_iff, exists_const,
    Option.pure_def, Option.some.injEq, sessionLines_decode_iff, description_decode_iff]
  constructor
  · rintro ⟨s, hs, version, hv, origin, ho, name, hn, hne, description, hd, rfl⟩
    have hversion := hs.version
    have horigin := hs.origin
    have hname := hs.sessionName
    rw [hv] at hversion
    rw [ho] at horigin
    rw [hn] at hname
    exact {
      version := extends_nil_left.mp hversion
      origin := extends_nil_left.mp horigin
      sessionName := extends_nil_left.mp hname
      uri := extends_nil_left.mp hs.uri
      connection := extends_nil_left.mp hs.connection
      timeDescriptions := extends_nil_left.mp hs.timeDescriptions
      timeDescriptions_ne_nil := hne
      timezone := extends_nil_left.mp hs.timezone
      description := hd }
  · intro h
    refine ⟨{ version := some d.version, origin := some d.origin, sessionName := some d.sessionName,
              uri := d.uri, connection := d.connection, timeDescriptions := d.timeDescriptions,
              timezone := d.timezone }, ?_, d.version, rfl, d.origin, rfl, d.sessionName, rfl,
              h.timeDescriptions_ne_nil, d.toSdpDescription, h.description, rfl⟩
    exact {
      version := extends_nil_left.mpr h.version
      origin := extends_nil_left.mpr h.origin
      sessionName := extends_nil_left.mpr h.sessionName
      uri := extends_nil_left.mpr h.uri
      connection := extends_nil_left.mpr h.connection
      timeDescriptions := extends_nil_left.mpr h.timeDescriptions
      timezone := extends_nil_left.mpr h.timezone }

/-- `SdpMediaDescription::Decode` of an m-line and its lines yields the description. -/
theorem media_decode_iff {mediaLine : Chars} {lines : List Chars} {d : SdpMediaDescription} :
    SdpMediaDescription.decode mediaLine lines = some d ↔
      SdpMedia.decode (lineBody mediaLine) = some d.media ∧
        (bodies 'c' lines).mapM SdpConnection.decode = some d.connections ∧
          ReadsFrom {} lines d.toSdpDescription := by
  simp only [SdpMediaDescription.decode, bodies, List.mapM_map, Function.comp_def,
    Option.bind_eq_bind, Option.bind_eq_some_iff, Option.pure_def, Option.some.injEq,
    description_decode_iff]
  constructor
  · rintro ⟨media, hmedia, connections, hconnections, description, hdescription, rfl⟩
    exact ⟨hmedia, hconnections, hdescription⟩
  · rintro ⟨hmedia, hconnections, hdescription⟩
    exact ⟨_, hmedia, _, hconnections, _, hdescription, rfl⟩

end ImsStack.Sdp.Bodies
