import ImsStack.Framing.Stages
import ImsStack.Library.TransitionSystem
import Mathlib.Logic.Relation

/-!
The receive loop on arbitrary bytes: where the offset of the framer may stand, and
when the extraction loop ends.
-/

namespace ImsStack.Framing.Progress

open Platform.AString HeaderScan Stages SipMessageFraming TransitionSystem

section Scan

/-- A scan leaves over no more than it was given, and at least three bytes where
it finds the header. -/
def LeavesOver (length : Nat) : HeaderScan → Prop
  | .incomplete leftOver => leftOver ≤ length
  | .found _ leftOver => 3 ≤ leftOver ∧ leftOver ≤ length

theorem LeavesOver.mono {length more : Nat} {scan : HeaderScan} (h : LeavesOver length scan)
    (hle : length ≤ more) : LeavesOver more scan := by
  cases scan with
  | incomplete leftOver => exact Nat.le_trans h hle
  | found n leftOver => exact ⟨h.1, Nat.le_trans h.2 hle⟩

theorem length_stripLeading_le (s : Chars) : (stripLeading s).length ≤ s.length := by
  obtain ⟨w, -, hw⟩ := exists_stripLeading s
  have := congrArg List.length hw
  rw [List.length_append] at this
  omega

theorem lookupHeaderName_spec (s : Chars) :
    ∀ start : Chars, s <:+ start →
      (lookupHeaderName start s).1 <:+ start ∧
        (lookupHeaderName start s).2 <:+ (lookupHeaderName start s).1 ∧
        ∀ c ∈ (lookupHeaderName start s).2.head?, c = ':' := by
  induction s with
  | nil =>
      intro start _
      exact ⟨List.suffix_refl _, List.nil_suffix, nofun⟩
  | cons c s ih =>
      intro start hstart
      rw [lookupHeaderName]
      split
      · rename_i hcolon
        refine ⟨List.suffix_refl _, hstart, ?_⟩
        intro d hd
        obtain rfl : c = d := by simpa using hd
        exact hcolon
      · split
        · obtain ⟨h, h'⟩ := ih (c :: s) (List.suffix_cons c s)
          exact ⟨h.trans hstart, h'⟩
        · exact ih start ((List.suffix_cons c s).trans hstart)

theorem scanHeader_leavesOver {next : Chars → HeaderScan} {start colon : Chars}
    (hsuffix : colon <:+ start) (hcolon : ∀ c ∈ colon.head?, c = ':')
    (hnext : ∀ s : Chars, s.length < start.length → LeavesOver s.length (next s)) :
    LeavesOver start.length (scanHeader next (start, colon)) := by
  rcases colon with _ | ⟨c, s⟩
  · exact Nat.le_refl _
  · obtain rfl := hcolon c rfl
    have hlength := hsuffix.length_le
    have hline : (splitLine (':' :: s)).1 = ':' :: (splitLine s).1 := by
      rw [splitLine_cons (by decide) (by decide)]
    have hsplit := length_splitLine (':' :: s)
    rw [hline, List.length_cons] at hsplit
    have hend := splitLine_end_pos (s := ':' :: s)
    simp only [scanHeader]
    generalize splitLine (':' :: s) = line at hsplit hend
    obtain ⟨line, endLength, rest⟩ := line
    simp only at hsplit hend ⊢
    split
    · exact length_stripLeading_le start
    · rename_i hrest
      have hpos := hend hrest
      have hrestPos := List.length_pos_iff.mpr hrest
      split
      · constructor <;> omega
      · exact (hnext _ (by omega)).mono (by omega)

theorem scanHeaders_leavesOver (fuel : Nat) :
    ∀ s : Chars, LeavesOver s.length (scanHeaders fuel s) := by
  induction fuel with
  | zero =>
      intro s
      exact Nat.le_refl s.length
  | succ fuel ih =>
      intro s
      obtain ⟨hstart, hsuffix, hcolon⟩ := lookupHeaderName_spec s s (List.suffix_refl s)
      exact (scanHeader_leavesOver hsuffix hcolon fun s' _ => ih s').mono hstart.length_le

end Scan

/-- The offset is a position in the buffer.  While the empty line is searched for
three bytes at least lie behind it, and the end of a message lies behind its
beginning. -/
structure Bounded (f : SipMessageFraming) : Prop where
  offset_nonneg : 0 ≤ f.offset
  offset_le : f.offset ≤ f.messageBuffer.length
  body : f.state = .body → 0 < f.offset
  emptyLine : f.state = .body → f.gotBodyStart = false → f.offset + 3 ≤ f.messageBuffer.length
  done : f.state = .done → 0 < f.offset

section Parse

variable {f : SipMessageFraming}

theorem scanFields_bounded {size : Nat} {s : Chars} (hstate : f.state = .clen)
    (hoffset : 0 ≤ f.offset) (hle : f.offset + size ≤ f.messageBuffer.length)
    (hs : s.length ≤ size) (hpos : 0 < f.offset ∨ s.length < size) :
    Bounded (f.scanFields size s) := by
  have hscan := scanHeaders_leavesOver s.length s
  unfold scanFields
  split
  · exact ⟨by simp only; omega, by simp only; omega, by simp [hstate], by simp [hstate],
      by simp [hstate]⟩
  · generalize scanHeaders s.length s = scan at hscan
    cases scan with
    | incomplete leftOver =>
        exact ⟨by simp only; omega, by simp only; omega, by simp [hstate], by simp [hstate],
          by simp [hstate]⟩
    | found n leftOver =>
        obtain ⟨hthree, hleft⟩ := hscan
        refine ⟨?_, ?_, ?_, ?_, nofun⟩ <;> simp only <;> omega

theorem length_headerSection_le (s : Chars) : (headerSection s).length ≤ s.length := by
  rcases headerSection_eq s with heq | ⟨i, heq, -, -⟩
  · rw [heq]
  · rw [heq, List.length_take]
    exact Nat.min_le_right _ _

theorem parseContentLength_bounded (hbounded : Bounded f) (hstate : f.state = .clen) :
    Bounded f.parseContentLength := by
  obtain ⟨hoffset, hle, -, -, -⟩ := hbounded
  obtain ⟨o, ho⟩ := Int.eq_ofNat_of_zero_le hoffset
  have hstart : (f.messageBuffer.drop f.offset.toNat).length = f.messageBuffer.length - o := by
    rw [List.length_drop, ho, Int.toNat_natCast]
  have hstrip := length_stripLeading_le (f.messageBuffer.drop f.offset.toNat)
  have hsection := length_headerSection_le (stripLeading (f.messageBuffer.drop f.offset.toNat))
  have hsame : Bounded f :=
    ⟨hoffset, hle, by simp [hstate], by simp [hstate], by simp [hstate]⟩
  unfold parseContentLength
  simp only
  generalize f.messageBuffer.drop f.offset.toNat = start at *
  generalize stripLeading start = current at *
  generalize headerSection current = fields at *
  split
  · exact hsame
  · split
    · split
      · exact hsame
      · rename_i hnil
        have hdrop := (List.dropWhile_suffix isBlank (l := fields)).length_le
        have hsplit := length_splitLine (fields.dropWhile isBlank)
        have hlinePos : (splitLine (fields.dropWhile isBlank)).2.2.length <
            (fields.dropWhile isBlank).length := by
          by_cases hrest : (splitLine (fields.dropWhile isBlank)).2.2 = []
          · rw [hrest]
            exact List.length_pos_iff.mpr hnil
          · have := splitLine_end_pos hrest
            omega
        exact scanFields_bounded hstate hoffset (by omega) (by omega) (.inr (by omega))
    · exact scanFields_bounded hstate hoffset (by omega) (by omega) (.inl (by omega))

end Parse

/-- The state of the framer once it has looked for the Content-Length header in
what has been received. -/
def afterContentLength (f : SipMessageFraming) : SipMessageFraming :=
  if f.state = .created ∨ f.state = .clen then { f with state := .clen }.parseContentLength else f

/-- The position of the body, once the empty line has been received. -/
def bodyPosition (f : SipMessageFraming) : Option Nat :=
  if f.gotBodyStart then some f.offset.toNat
  else
    match lookupBody (f.messageBuffer.drop f.offset.toNat) with
    | (true, body) => some (f.messageBuffer.length - body.length)
    | (false, _) => none

/-- Where the Content-Length that has been received is negative, it does not reach
back from the body to the beginning of the buffer. -/
def EndsBehindStart (f : SipMessageFraming) : Prop :=
  f.messageBuffer ≠ [] → (afterContentLength f).state = .body →
    ∀ p, bodyPosition (afterContentLength f) = some p →
      0 < (p : Int) + (afterContentLength f).contentLength

section Body

variable {f : SipMessageFraming}

theorem lookupBody_length (s : Chars) (hs : 3 ≤ s.length) :
    (∃ body, lookupBody s = (true, body) ∧ body.length + 4 ≤ s.length) ∨
      ∃ rest, lookupBody s = (false, rest) ∧ rest.length = 3 := by
  induction s with
  | nil => exact absurd hs (by simp)
  | cons c s ih =>
      rw [lookupBody]
      split
      · exact .inr ⟨c :: s, rfl, by omega⟩
      · rename_i hlong
        split
        · refine .inl ⟨_, rfl, ?_⟩
          rw [List.length_drop]
          omega
        · simp only [List.length_cons] at hlong ⊢
          rcases ih (by omega) with ⟨body, heq, hbody⟩ | hrest
          · exact .inl ⟨body, heq, by omega⟩
          · exact .inr hrest

/-- How `ParseMessageBody` ends: the empty line has not been received, or the body
has not, or the message ends `contentLength` bytes behind the start of its body. -/
theorem parseMessageBody_cases (hbounded : Bounded f) (hstate : f.state = .body) :
    (bodyPosition f = none ∧ f.parseMessageBody =
        { f with offset := (f.messageBuffer.length - 3 : Nat) } ∧ 3 < f.messageBuffer.length) ∨
      ∃ p : Nat, bodyPosition f = some p ∧ 0 < p ∧ p ≤ f.messageBuffer.length ∧
        ((f.parseMessageBody = { f with offset := p, gotBodyStart := true } ∧
          (f.messageBuffer.length - p : Int) < f.contentLength) ∨
        (f.parseMessageBody =
            { f with offset := p + f.contentLength, gotBodyStart := true, state := .done } ∧
          f.contentLength ≤ (f.messageBuffer.length - p : Int))) := by
  obtain ⟨state, contentLength, offset, gotBodyStart, buffer⟩ := f
  obtain ⟨hnonneg, hle, hpos, hthree, -⟩ := hbounded
  obtain ⟨o, ho⟩ := Int.eq_ofNat_of_zero_le hnonneg
  simp only at hstate hnonneg hle hpos hthree ho
  subst hstate ho
  have hopos : 0 < o := by simpa using hpos
  have htake : ∀ p : Nat, p ≤ buffer.length → ∀ rest, rest = buffer.length - p →
      ((SipMessageFraming.mk .body contentLength p true buffer).takeBody rest =
          ⟨.body, contentLength, p, true, buffer⟩ ∧
        (buffer.length - p : Int) < contentLength) ∨
      ((SipMessageFraming.mk .body contentLength p true buffer).takeBody rest =
          ⟨.done, contentLength, p + contentLength, true, buffer⟩ ∧
        contentLength ≤ (buffer.length - p : Int)) := by
    intro p hp rest hrest
    unfold takeBody
    simp only
    split
    · rename_i hzero
      refine .inr ⟨by rw [hzero.2, Int.add_zero], by omega⟩
    · split
      · exact .inl ⟨rfl, by omega⟩
      · exact .inr ⟨rfl, by omega⟩
  cases gotBodyStart with
  | true =>
      refine .inr ⟨o, rfl, hopos, by simp only; omega, ?_⟩
      have h := htake o (by omega) (buffer.length - o) rfl
      simpa [parseMessageBody] using h
  | false =>
      have hlength : 3 ≤ (buffer.drop o).length := by
        rw [List.length_drop]
        have := hthree rfl rfl
        omega
      rcases lookupBody_length (buffer.drop o) hlength with ⟨body, hfound, hbody⟩ |
        ⟨rest, hfound, hrest⟩
      · rw [List.length_drop] at hbody
        refine .inr ⟨buffer.length - body.length, ?_, by omega, by simp only; omega, ?_⟩
        · simp [bodyPosition, hfound]
        · have h := htake (buffer.length - body.length) (by omega) body.length (by omega)
          have hoffset : (o : Int) + ((buffer.length - o - body.length : Nat) : Int) =
              ((buffer.length - body.length : Nat) : Int) := by omega
          simpa [parseMessageBody, hfound, hoffset] using h
      · rw [List.length_drop] at hlength
        have hoffset : (o : Int) + ((buffer.length - o - 3 : Nat) : Int) =
            ((buffer.length - 3 : Nat) : Int) := by omega
        refine .inl ⟨?_, ?_, ?_⟩
        · simp [bodyPosition, hfound]
        · simp [parseMessageBody, hfound, hrest, hoffset]
        · simp only
          omega

end Body

section Check

variable {f : SipMessageFraming}

theorem parseContentLength_messageBuffer (f : SipMessageFraming) :
    f.parseContentLength.messageBuffer = f.messageBuffer := by
  unfold parseContentLength scanFields
  simp only
  repeat' split
  all_goals rfl

theorem parseMessageBody_messageBuffer (f : SipMessageFraming) :
    f.parseMessageBody.messageBuffer = f.messageBuffer := by
  unfold parseMessageBody takeBody
  simp only
  repeat' split
  all_goals rfl

theorem checkCompleteMessage_eq (hne : f.messageBuffer ≠ []) :
    f.checkCompleteMessage =
      let g := afterContentLength f
      let h := if g.state = .body then g.parseMessageBody else g
      (h, decide (h.state = .done)) := by
  have hempty : f.isEmpty = false := by simpa [isEmpty] using hne
  obtain ⟨state, contentLength, offset, gotBodyStart, buffer⟩ := f
  unfold checkCompleteMessage afterContentLength
  rw [hempty]
  cases state <;> simp

theorem afterContentLength_messageBuffer (f : SipMessageFraming) :
    (afterContentLength f).messageBuffer = f.messageBuffer := by
  unfold afterContentLength
  split
  · rw [parseContentLength_messageBuffer]
  · rfl

theorem checkCompleteMessage_messageBuffer (f : SipMessageFraming) :
    f.checkCompleteMessage.1.messageBuffer = f.messageBuffer := by
  by_cases hnil : f.messageBuffer = []
  · simp [checkCompleteMessage, isEmpty, hnil]
  · rw [checkCompleteMessage_eq hnil]
    simp only
    split
    · rw [parseMessageBody_messageBuffer, afterContentLength_messageBuffer]
    · exact afterContentLength_messageBuffer f

theorem checkCompleteMessage_done (f : SipMessageFraming)
    (h : f.checkCompleteMessage.2 = true) : f.checkCompleteMessage.1.state = .done := by
  by_cases hnil : f.messageBuffer = []
  · simp [checkCompleteMessage, isEmpty, hnil] at h
  · rw [checkCompleteMessage_eq hnil] at h ⊢
    exact of_decide_eq_true h

theorem checkCompleteMessage_not_done (hstate : f.state ≠ .done)
    (h : f.checkCompleteMessage.2 = false) : f.checkCompleteMessage.1.state ≠ .done := by
  by_cases hnil : f.messageBuffer = []
  · simpa [checkCompleteMessage, isEmpty, hnil] using hstate
  · rw [checkCompleteMessage_eq hnil] at h ⊢
    exact of_decide_eq_false h

theorem checkCompleteMessage_get (f : SipMessageFraming) (h : f.checkCompleteMessage.2 = true) :
    ∃ message, f.checkCompleteMessage.1.getCompleteMessage = some message := by
  have hnil : f.messageBuffer ≠ [] := by
    intro hnil
    simp [checkCompleteMessage, isEmpty, hnil] at h
  refine ⟨_, if_neg ?_⟩
  rw [isEmpty, checkCompleteMessage_messageBuffer]
  simpa using hnil

theorem afterContentLength_bounded (hbounded : Bounded f) : Bounded (afterContentLength f) := by
  unfold afterContentLength
  split
  · refine parseContentLength_bounded ?_ rfl
    exact ⟨hbounded.offset_nonneg, hbounded.offset_le, nofun, nofun, nofun⟩
  · exact hbounded

/-- The offset stays in the buffer if the message does not end in front of it. -/
theorem checkCompleteMessage_bounded (hbounded : Bounded f) (hends : EndsBehindStart f) :
    Bounded f.checkCompleteMessage.1 := by
  by_cases hnil : f.messageBuffer = []
  · have hcheck : f.checkCompleteMessage = (f, false) := by
      simp [checkCompleteMessage, isEmpty, hnil]
    rw [hcheck]
    exact hbounded
  · have hends := hends hnil
    have hafter := afterContentLength_bounded hbounded
    rw [checkCompleteMessage_eq hnil]
    generalize afterContentLength f = g at hafter hends
    simp only
    split
    · rename_i hstate
      rcases parseMessageBody_cases hafter hstate with ⟨-, heq, hlong⟩ |
        ⟨p, hp, hpos, hle, ⟨heq, hwait⟩ | ⟨heq, hdone⟩⟩
      · rw [heq]
        refine ⟨?_, ?_, fun _ => ?_, fun _ _ => ?_, ?_⟩ <;> simp only [hstate] <;> omega
      · rw [heq]
        refine ⟨?_, ?_, fun _ => ?_, (by rintro - ⟨⟩), ?_⟩ <;> simp only [hstate] <;> omega
      · have := hends hstate p hp
        rw [heq]
        refine ⟨?_, ?_, (by rintro ⟨⟩), (by rintro ⟨⟩), fun _ => ?_⟩ <;> simp only <;> omega
    · exact hafter

/-- Otherwise the loop takes an empty message out of the buffer, which loses no
more than white space at its beginning. -/
theorem checkCompleteMessage_of_not_endsBehindStart (hbounded : Bounded f)
    (hends : ¬EndsBehindStart f) :
    ∃ g, f.checkCompleteMessage = (g, true) ∧ g.offset ≤ 0 ∧ g.getCompleteMessage = some [] ∧
      g.updateState.messageBuffer = dropWhiteSpace f.messageBuffer := by
  simp only [EndsBehindStart, not_forall] at hends
  obtain ⟨hnil, hstate, p, hp, hends⟩ := hends
  have hafter := afterContentLength_bounded hbounded
  have hbuffer := afterContentLength_messageBuffer f
  rw [checkCompleteMessage_eq hnil]
  generalize afterContentLength f = g at *
  rw [← hbuffer] at hnil ⊢
  have hlength := List.length_pos_iff.mpr hnil
  simp only [hstate, ↓reduceIte]
  rcases parseMessageBody_cases hafter hstate with ⟨hnone, -, -⟩ |
    ⟨p', hp', hpos, hle, ⟨-, hwait⟩ | ⟨heq, hdone⟩⟩
  · rw [hp] at hnone
    exact absurd hnone nofun
  · obtain rfl : p = p' := Option.some.inj (hp.symm.trans hp')
    omega
  · obtain rfl : p = p' := Option.some.inj (hp.symm.trans hp')
    rw [heq]
    refine ⟨_, rfl, by simp only; omega, ?_, ?_⟩
    · have hempty : g.isEmpty = false := by simpa [isEmpty] using hnil
      have htoNat : ((p : Int) + g.contentLength).toNat = 0 := by omega
      simpa [getCompleteMessage, isEmpty, htoNat] using hempty
    · have htoNat : ((p : Int) + g.contentLength).toNat = 0 := by omega
      have hlt : (p : Int) + g.contentLength < g.messageBuffer.length := by omega
      simp [updateState, htoNat, hlt]

end Check

section Run

/-- What the receive loop does with the framer. -/
inductive FramingEvent where
  | appendPacket (packet : Chars)
  | ignoreCrlf
  | checkCompleteMessage
  | updateState

/-- The steps of `Socket_OnDataReceived` in any order in which a complete message
is taken out before anything else is done. -/
def framing : System SipMessageFraming FramingEvent where
  Init f := f = {}
  Step f event f' :=
    match event with
    | .appendPacket packet => f.state ≠ .done ∧ f' = f.appendPacket packet
    | .ignoreCrlf => f.state ≠ .done ∧ f' = f.ignoreCrlf.1
    | .checkCompleteMessage => f.state ≠ .done ∧ f' = f.checkCompleteMessage.1
    | .updateState => f.state = .done ∧ f' = f.updateState

/-- The runs in which no Content-Length reaches back to the beginning of the
buffer. -/
def boundedFraming : System SipMessageFraming FramingEvent :=
  framing.restrict fun f event => event = .checkCompleteMessage → EndsBehindStart f

variable {f : SipMessageFraming}

theorem appendPacket_bounded (hbounded : Bounded f) (packet : Chars) :
    Bounded (f.appendPacket packet) := by
  obtain ⟨hnonneg, hle, hbody, hempty, hdone⟩ := hbounded
  unfold appendPacket
  split
  · exact ⟨hnonneg, hle, hbody, hempty, hdone⟩
  · simp only
    split
    · refine ⟨hnonneg, ?_, nofun, nofun, nofun⟩
      simp only [List.length_append]
      omega
    · refine ⟨hnonneg, ?_, hbody, fun hstate hgot => ?_, hdone⟩
      · simp only [List.length_append]
        omega
      · have := hempty hstate hgot
        simp only [List.length_append]
        omega

theorem ignoreCrlf_bounded (hbounded : Bounded f) : Bounded f.ignoreCrlf.1 := by
  unfold ignoreCrlf
  split
  · exact hbounded
  · rename_i hoffset
    split
    · exact hbounded
    · obtain ⟨hnonneg, hle, hbody, hempty, hdone⟩ := hbounded
      refine ⟨hnonneg, ?_, hbody, fun hstate => ?_, hdone⟩
      · simp only
        omega
      · have := hbody hstate
        omega

theorem updateState_bounded (f : SipMessageFraming) : Bounded f.updateState := by
  unfold updateState
  simp only
  generalize dropWhiteSpace _ = buffer
  refine ⟨Int.le_refl _, Int.natCast_nonneg _, ?_, ?_, ?_⟩ <;> simp only <;> split <;> nofun

theorem bounded_of_reachable (h : boundedFraming.Reachable f) : Bounded f := by
  refine h.invariant ?_ ?_
  · rintro f rfl
    exact ⟨Int.le_refl _, Int.le_refl _, nofun, nofun, nofun⟩
  · rintro f event f' hbounded ⟨hallowed, hstep⟩
    cases event with
    | appendPacket packet =>
        obtain ⟨-, rfl⟩ := hstep
        exact appendPacket_bounded hbounded packet
    | ignoreCrlf =>
        obtain ⟨-, rfl⟩ := hstep
        exact ignoreCrlf_bounded hbounded
    | checkCompleteMessage =>
        obtain ⟨-, rfl⟩ := hstep
        exact checkCompleteMessage_bounded hbounded (hallowed rfl)
    | updateState =>
        obtain ⟨-, rfl⟩ := hstep
        exact updateState_bounded f

/-- One round of the extraction loop. -/
def Round (f g : SipMessageFraming) : Prop :=
  ∃ f' message, f.checkCompleteMessage = (f', true) ∧ f'.getCompleteMessage = some message ∧
    g = f'.updateState

theorem updateState_length_lt (hbounded : Bounded f) (hdone : f.state = .done) :
    f.updateState.messageBuffer.length < f.messageBuffer.length := by
  have hpos := hbounded.done hdone
  have hle := hbounded.offset_le
  unfold updateState
  simp only
  refine Nat.lt_of_le_of_lt (length_dropWhiteSpace_le _) ?_
  split
  · rw [List.length_drop]
    omega
  · rw [if_pos (by omega), List.length_nil]
    omega

/-- The loop ends if no round meets a Content-Length that reaches back to the
beginning of the buffer. -/
theorem extract_ends (fuel : Nat) :
    ∀ f : SipMessageFraming, Bounded f → f.messageBuffer.length < fuel →
      (∀ g, Relation.ReflTransGen Round f g → EndsBehindStart g) →
      ∃ messages g, extract fuel f = some (messages, g) := by
  induction fuel with
  | zero =>
      intro f _ hfuel
      exact absurd hfuel (Nat.not_lt_zero _)
  | succ fuel ih =>
      intro f hbounded hfuel hends
      have hcheck := checkCompleteMessage_bounded hbounded (hends f .refl)
      have hbuffer : f.checkCompleteMessage.1.messageBuffer = f.messageBuffer :=
        checkCompleteMessage_messageBuffer f
      have hstate : f.checkCompleteMessage.2 = true → f.checkCompleteMessage.1.state = .done :=
        checkCompleteMessage_done f
      rw [extract]
      rcases hresult : f.checkCompleteMessage with ⟨f', complete⟩
      rw [hresult] at hcheck hbuffer hstate
      cases complete with
      | false => exact ⟨[], f', rfl⟩
      | true =>
          rcases hget : f'.getCompleteMessage with _ | message
          · exact ⟨[], f', by simp only [hget]⟩
          · have hround : Round f f'.updateState := ⟨f', message, hresult, hget, rfl⟩
            have hlt := updateState_length_lt hcheck (hstate rfl)
            simp only at hbuffer hlt
            obtain ⟨messages, g, hextract⟩ := ih f'.updateState (updateState_bounded f')
              (by rw [hbuffer] at hlt; omega) fun g hg => hends g (.head hround hg)
            exact ⟨message :: messages, g, by simp only [hget, hextract, Option.map_some]⟩

end Run

section Callback

variable {f : SipMessageFraming}

theorem appendPacket_state (packet : Chars) (h : f.state ≠ .done) :
    (f.appendPacket packet).state ≠ .done := by
  unfold appendPacket
  split
  · exact h
  · simp only
    split
    · nofun
    · exact h

theorem ignoreCrlf_state (h : f.state ≠ .done) : f.ignoreCrlf.1.state ≠ .done := by
  unfold ignoreCrlf
  split
  · exact h
  · split <;> exact h

theorem updateState_state (f : SipMessageFraming) : f.updateState.state ≠ .done := by
  unfold updateState
  simp only
  generalize dropWhiteSpace _ = buffer
  split <;> nofun

theorem foldl_appendPacket_reachable (reads : List Chars) (h : framing.Reachable f)
    (hstate : f.state ≠ .done) :
    framing.Reachable (reads.foldl appendPacket f) ∧
      (reads.foldl appendPacket f).state ≠ .done := by
  induction reads generalizing f with
  | nil => exact ⟨h, hstate⟩
  | cons packet reads ih =>
      exact ih (.step (.appendPacket packet) h ⟨hstate, rfl⟩) (appendPacket_state packet hstate)

theorem extract_reachable (fuel : Nat) :
    ∀ f : SipMessageFraming, framing.Reachable f → f.state ≠ .done →
      ∀ messages g, extract fuel f = some (messages, g) →
        framing.Reachable g ∧ g.state ≠ .done := by
  induction fuel with
  | zero =>
      intro f _ _ messages g h
      exact absurd h nofun
  | succ fuel ih =>
      intro f hf hstate messages g h
      have hcheck : framing.Reachable f.checkCompleteMessage.1 :=
        .step .checkCompleteMessage hf ⟨hstate, rfl⟩
      have hdone := checkCompleteMessage_done f
      have hnot := checkCompleteMessage_not_done hstate
      have hget := checkCompleteMessage_get f
      rw [extract] at h
      rcases hresult : f.checkCompleteMessage with ⟨f', complete⟩
      rw [hresult] at hcheck hdone hnot hget h
      cases complete with
      | false =>
          obtain ⟨-, rfl⟩ : [] = messages ∧ f' = g := by simpa using h
          exact ⟨hcheck, hnot rfl⟩
      | true =>
          obtain ⟨message, hget⟩ := hget rfl
          simp only [hget] at h
          obtain ⟨⟨more, g'⟩, hextract, hpair⟩ := Option.map_eq_some_iff.mp h
          obtain ⟨-, rfl⟩ := Prod.mk.inj hpair
          exact ih f'.updateState (.step .updateState hcheck ⟨hdone rfl, rfl⟩)
            (updateState_state f') more g' hextract

theorem onDataReceived_reachable {reads : List Chars} {readEnd : ReadEnd}
    (hf : framing.Reachable f) (hstate : f.state ≠ .done) {messages : List Chars}
    {g : SipMessageFraming} (h : onDataReceived reads readEnd f = some (messages, g)) :
    framing.Reachable g ∧ g.state ≠ .done := by
  obtain ⟨hread, hreadState⟩ := foldl_appendPacket_reachable reads hf hstate
  unfold onDataReceived at h
  simp only at h
  split at h
  · obtain ⟨-, rfl⟩ : [] = messages ∧ reads.foldl appendPacket f = g := by simpa using h
    exact ⟨hread, hreadState⟩
  · have hignore : framing.Reachable (reads.foldl appendPacket f).ignoreCrlf.1 :=
      .step .ignoreCrlf hread ⟨hreadState, rfl⟩
    have hignoreState := ignoreCrlf_state hreadState
    split at h
    · obtain ⟨-, rfl⟩ : [] = messages ∧ (reads.foldl appendPacket f).ignoreCrlf.1 = g := by
        simpa using h
      exact ⟨hignore, hignoreState⟩
    · exact extract_reachable _ _ hignore hignoreState messages g h

/-- The states a connection leaves the framer in are states of the system. -/
theorem feed_reachable (callbacks : List (List Chars × ReadEnd)) :
    ∀ f : SipMessageFraming, framing.Reachable f → f.state ≠ .done →
      ∀ messages g, feed callbacks f = some (messages, g) → framing.Reachable g := by
  induction callbacks with
  | nil =>
      intro f hf _ messages g h
      obtain ⟨-, rfl⟩ : [] = messages ∧ f = g := by simpa [feed] using h
      exact hf
  | cons callback callbacks ih =>
      intro f hf hstate messages g h
      obtain ⟨reads, readEnd⟩ := callback
      obtain ⟨⟨first, f'⟩, hreceived, h⟩ := Option.bind_eq_some_iff.mp h
      obtain ⟨⟨more, g'⟩, hfeed, hpair⟩ := Option.map_eq_some_iff.mp h
      obtain ⟨-, rfl⟩ := Prod.mk.inj hpair
      obtain ⟨hf', hstate'⟩ := onDataReceived_reachable hf hstate hreceived
      exact ih f' hf' hstate' more g' hfeed

end Callback

/-- In every run in which no Content-Length reaches back to the beginning of the
buffer the offset is a position in the buffer, a complete message is at least one
byte long, and the extraction loop ends. -/
theorem receive_progress {f : SipMessageFraming} (h : boundedFraming.Reachable f) :
    (0 ≤ f.offset ∧ f.offset ≤ f.messageBuffer.length) ∧
      (f.state = .done → f.updateState.messageBuffer.length < f.messageBuffer.length) ∧
      ((∀ g, Relation.ReflTransGen Round f g → EndsBehindStart g) →
        ∃ messages g, extract (f.messageBuffer.length + 1) f = some (messages, g)) := by
  have hbounded := bounded_of_reachable h
  exact ⟨⟨hbounded.offset_nonneg, hbounded.offset_le⟩, updateState_length_lt hbounded,
    extract_ends _ f hbounded (Nat.lt_succ_self _)⟩

/-- A packet with a message in it whose Content-Length is `value`. -/
def packetWithLength (value : String) : Chars :=
  ("OPTIONS sip:a@b.example SIP/2.0\r\nCall-ID: 1\r\nContent-Length: " ++ value ++
    "\r\n\r\nhello").toList

theorem isSome_feed_packet : (feed [([packetWithLength "5"], .shortRead)] {}).isSome = true := by
  decide +kernel

theorem feed_reachable_packet :
    framing.Reachable ((feed [([packetWithLength "5"], .shortRead)] {}).get isSome_feed_packet).2 :=
  feed_reachable [([packetWithLength "5"], .shortRead)] {} (.init rfl) (by decide) _ _
    (Option.some_get isSome_feed_packet).symm

theorem receive_progress_packet :
    let f := (appendPacket {} (packetWithLength "5")).checkCompleteMessage.1
    (0 ≤ f.offset ∧ f.offset ≤ f.messageBuffer.length) ∧
      (f.state = .done → f.updateState.messageBuffer.length < f.messageBuffer.length) ∧
      ((∀ g, Relation.ReflTransGen Round f g → EndsBehindStart g) →
        ∃ messages g, extract (f.messageBuffer.length + 1) f = some (messages, g)) := by
  refine receive_progress (.step .checkCompleteMessage
    (.step (.appendPacket (packetWithLength "5")) (.init rfl) ⟨nofun, by decide, rfl⟩)
    ⟨fun _ _ _ p _ => ?_, by decide +kernel, rfl⟩)
  have hlength :
      (afterContentLength (appendPacket {} (packetWithLength "5"))).contentLength = 5 := by
    decide +kernel
  omega

/-- With a Content-Length of -100 the offset falls in front of the buffer, the
message taken out is empty and the loop never ends. -/
theorem not_receive_progress :
    let f := appendPacket {} (packetWithLength "-100")
    let g := f.checkCompleteMessage.1
    framing.Reachable g ∧ g.state = .done ∧ g.offset < 0 ∧
      g.updateState.messageBuffer = g.messageBuffer ∧ (∀ fuel, extract fuel f = none) ∧
      onDataReceived [packetWithLength "-100"] .shortRead {} = none := by
  have hround : (appendPacket {} (packetWithLength "-100")).checkCompleteMessage.2 = true ∧
      (appendPacket {} (packetWithLength "-100")).checkCompleteMessage.1.getCompleteMessage =
        some [] ∧
      (appendPacket {} (packetWithLength "-100")).checkCompleteMessage.1.updateState =
        appendPacket {} (packetWithLength "-100") := by
    decide +kernel
  have hloop : ∀ fuel, extract fuel (appendPacket {} (packetWithLength "-100")) = none := by
    intro fuel
    induction fuel with
    | zero => rfl
    | succ fuel ih =>
        obtain ⟨hcomplete, hget, hupdate⟩ := hround
        rw [extract]
        generalize (appendPacket {} (packetWithLength "-100")).checkCompleteMessage = result at *
        obtain ⟨g, complete⟩ := result
        simp only at hcomplete hget hupdate
        subst hcomplete
        simp only [hget, hupdate, ih, Option.map_none]
  refine ⟨?_, by decide +kernel, by decide +kernel, by decide +kernel, hloop, by decide +kernel⟩
  exact .step .checkCompleteMessage
    (.step (.appendPacket (packetWithLength "-100")) (.init rfl) ⟨by decide, rfl⟩)
    ⟨by decide +kernel, rfl⟩

end ImsStack.Framing.Progress
