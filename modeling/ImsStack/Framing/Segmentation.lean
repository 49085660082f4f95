import ImsStack.Framing.SipText

/-!
What the framer makes of a stream of well-formed messages, however the stream is
cut into packets.  It delivers the messages of the stream as long as no cut
through a start line leaves a rest that reads as a Content-Length header with
another number.
-/

namespace ImsStack.Framing.Segmentation

open Platform.AString HeaderScan Stages SipMessageFraming

section Fresh

variable {y z post : Chars} {m : SipText}

theorem stripLeading_text {c : Char} {s : Chars} (hc : isSpace c = false) :
    stripLeading (c :: s) = c :: s := by
  simp [stripLeading, hc]

theorem isBlank_eq_false {c : Char} (hc : isSpace c = false) : isBlank c = false := by
  simp only [isSpace, isBlank, Bool.or_eq_false_iff] at *
  tauto

/-- A message received in part begins with a character that is no white space. -/
theorem exists_head (hy : y ≠ []) (heq : y ++ z = m.text ++ post) :
    ∃ c s, y = c :: s ∧ isSpace c = false := by
  obtain ⟨c, hc, hspace⟩ := m.startLine_head
  obtain ⟨d, s, rfl⟩ := List.exists_cons_of_ne_nil hy
  obtain ⟨e, t, hstart⟩ := List.exists_cons_of_ne_nil (noEol_startLine_ne (m := m))
  rw [SipText.text_append, hstart] at heq
  rw [hstart] at hc
  have hde : d = e := (List.cons.inj heq).1
  obtain rfl : e = c := by simpa using hc
  exact ⟨d, s, rfl, hde ▸ hspace⟩

theorem headerSection_cons (c : Char) (s : Chars) : ∃ s', headerSection (c :: s) = c :: s' := by
  rcases headerSection_eq (c :: s) with heq | ⟨i, heq, -, -⟩
  · exact ⟨s, heq⟩
  · exact ⟨s.take (i + 3), by rw [heq]; rfl⟩

/-- The header fields that follow the start line in the part received, or the rest
of the start line itself when it has not been received to its end. -/
theorem reading_fresh {t : Chars} {fields : Chars} (hy : y = fields ++ t)
    (ht : t ≠ [] → (t ++ z).length ≤ (m.body ++ post).length) (heq : y ++ z = m.text ++ post) :
    Reading ((splitLine fields).2.2 ++ (t ++ z)) (m.readLength y.length) (m.body ++ post) := by
  have hlines := m.reading_lines post
  have hwhole : fields ++ (t ++ z) = m.startLine ++ crlf ++
      (linesText m.lines ++ crlf ++ (m.body ++ post)) := by
    rw [← SipText.text_append, ← heq, hy, List.append_assoc]
  have hsplit := splitLine_line m.startLine_noEol
    (linesText m.lines ++ crlf ++ (m.body ++ post))
  rw [← hwhole] at hsplit
  rcases splitLine_received fields (t ++ z) with ⟨-, hreceived⟩ | ⟨hrest, hlength⟩
  · rw [hreceived, Prod.mk.injEq, Prod.mk.injEq] at hsplit
    obtain ⟨hline, -, hfields⟩ := hsplit
    have hlen := length_splitLine fields
    have hlong : m.startLine.length ≤ y.length := by
      rw [hy, List.length_append, ← hline]
      omega
    rw [SipText.readLength, List.drop_eq_nil_of_le hlong, hfields]
    exact hlines
  · rw [hsplit] at hlength
    simp only at hlength
    have htnil : t = [] := by
      by_contra hne
      have := ht hne
      have := hlines.length_lt
      omega
    subst htnil
    rw [hrest]
    exact SipText.reading_cut heq hlength

theorem checkCompleteMessage_fresh {state : State} (contentLength : Int)
    (hstate : state = .created ∨ state = .clen) (hy : y ≠ []) (heq : y ++ z = m.text ++ post) :
    Checked z (m.readLength y.length) (m.body ++ post) y
      (SipMessageFraming.mk state contentLength 0 false y).checkCompleteMessage := by
  have hcheck : (SipMessageFraming.mk state contentLength 0 false y).checkCompleteMessage =
      (SipMessageFraming.mk .clen contentLength 0 false y).checkCompleteMessage := by
    rcases hstate with rfl | rfl
    · simp [checkCompleteMessage, isEmpty, hy]
    · rfl
  have hempty : (SipMessageFraming.mk .clen contentLength 0 false y).isEmpty = false := by
    simpa [isEmpty] using hy
  obtain ⟨c, s, hcons, hspace⟩ := exists_head hy heq
  have hstrip : stripLeading y = y := by rw [hcons, stripLeading_text hspace]
  obtain ⟨s', hs'⟩ := headerSection_cons c s
  rw [← hcons] at hs'
  have hblank : (headerSection y).dropWhile isBlank = headerSection y := by
    rw [hs', List.dropWhile_cons_of_neg]
    rw [isBlank_eq_false hspace]
    exact Bool.false_ne_true
  have hend := m.headersEnd_text post
  rw [← heq] at hend
  obtain ⟨t, ht, htlen⟩ := exists_headerSection hend
  have hread := reading_fresh ht (fun hne => htlen (.inl hne)) heq
  obtain ⟨eol, hline, -⟩ := splitLine_eq (headerSection y)
  have hlen := length_splitLine (headerSection y)
  have hlineLen := congrArg List.length hline
  simp only [List.length_append] at hlineLen
  have hfieldsPos : 0 < (headerSection y).length := by
    rw [hs']
    exact Nat.succ_pos _
  have hpos : 0 < ((splitLine (headerSection y)).1 ++ eol).length := by
    rw [List.length_append]
    by_cases hrest : (splitLine (headerSection y)).2.2 = []
    · rw [hrest, List.length_nil] at hlineLen
      omega
    · have := splitLine_end_pos hrest
      omega
  have hbuffer : y.drop 0 = ((splitLine (headerSection y)).1 ++ eol) ++
      (splitLine (headerSection y)).2.2 ++ t := by
    rw [List.drop_zero, ← hline, ← ht]
  have hsize : ((splitLine (headerSection y)).1 ++ eol).length +
      (splitLine (headerSection y)).2.2.length = (headerSection y).length := by
    rw [List.length_append]
    omega
  obtain ⟨o', hle, hor⟩ := scanFields_spec (f := ⟨.clen, contentLength, 0, false, y⟩)
    (o := 0) hbuffer rfl (Nat.zero_le _) (fun hne => htlen (.inl hne)) hread
  have hparse : (SipMessageFraming.mk .clen contentLength 0 false y).parseContentLength =
      (SipMessageFraming.mk .clen contentLength 0 false y).scanFields (headerSection y).length
        (splitLine (headerSection y)).2.2 := by
    unfold parseContentLength
    simp only [Int.toNat_zero, List.drop_zero, hstrip, Nat.sub_self, Nat.zero_add, hblank]
    rw [if_neg (by omega), if_pos True.intro, if_neg (by rw [hs']; rintro ⟨⟩)]
  rw [hsize, ← hparse] at hor
  rw [hcheck]
  rcases hor with ⟨heq', ho', hwait, hread'⟩ | ⟨heq', hthree, hend'⟩
  · have hstage : Checked z (m.readLength y.length) (m.body ++ post) y
        (SipMessageFraming.mk .clen contentLength o' false y, false) :=
      .waiting (.fields (by omega) ho' hread') rfl (.inl hwait)
    simpa [checkCompleteMessage, hempty, heq'] using hstage
  · have hchecked := parseMessageBody_checked (n := m.readLength y.length) (by omega) hthree hend'
    simpa [checkCompleteMessage, hempty, heq'] using hchecked

end Fresh

/-- The position where the packet ends that brings the byte at a position. -/
def firstEnd : List Chars → Nat → Nat
  | [], _ => 0
  | p :: packets, position =>
    if position < p.length then p.length
    else p.length + firstEnd packets (position - p.length)

theorem firstEnd_eq {ps qs : List Chars} {p : Chars} {position : Nat}
    (hle : ps.flatten.length ≤ position) (hlt : position < ps.flatten.length + p.length) :
    firstEnd (ps ++ p :: qs) position = ps.flatten.length + p.length := by
  induction ps generalizing position with
  | nil =>
      simp only [List.flatten_nil, List.length_nil, Nat.zero_add] at *
      simp only [List.nil_append, firstEnd, if_pos hlt]
  | cons x ps ih =>
      simp only [List.flatten_cons, List.length_append] at *
      rw [List.cons_append, firstEnd, if_neg (by omega), ih (by omega) (by omega)]
      omega

/-- How much of a message the packet shows that brings its first byte, where
`done` and `k` keep-alives precede the message. -/
def cut (packets : List Chars) (done : List (Nat × SipText)) (k : Nat) : Nat :=
  firstEnd packets ((stream done 0).length + 2 * k) - ((stream done 0).length + 2 * k)

/-- The framer goes by the length of the body, whatever the first packet shows. -/
def Good (packets : List Chars) (done : List (Nat × SipText)) (k : Nat) (m : SipText) : Prop :=
  m.readLength (cut packets done k) = m.body.length

section Gap

/-- What drops leading keep-alives drops all that has been received of them, but
for a CR whose LF has not arrived. -/
theorem drop_keepAlives {g : Chars → Chars} (hnil : g [] = []) (hcr : g ['\r'] = ['\r'])
    (hcrlf : ∀ s, g ('\r' :: '\n' :: s) = g s)
    (htext : ∀ c s, isSpace c = false → g (c :: s) = c :: s) {z rest : Chars}
    (hrest : ∀ c ∈ rest.head?, isSpace c = false) (k : Nat) :
    ∀ y, y ++ z = keepAlives k ++ rest →
      ∃ k', g y ++ z = keepAlives k' ++ rest ∧
        (g y = [] ∨ g y = ['\r'] ∨ (k' = 0 ∧ g y ≠ [])) := by
  induction k with
  | zero =>
      intro y hy
      rcases y with _ | ⟨c, y⟩
      · exact ⟨0, by rw [hnil]; exact hy, .inl hnil⟩
      · have hspace : isSpace c = false := by
          refine hrest c ?_
          have hhead := congrArg List.head? hy
          simp only [keepAlives, List.replicate_zero, List.flatten_nil, List.nil_append,
            List.cons_append, List.head?_cons] at hhead
          rw [← hhead]
          rfl
        refine ⟨0, ?_, .inr (.inr ⟨rfl, ?_⟩)⟩ <;> rw [htext c y hspace]
        · exact hy
        · rintro ⟨⟩
  | succ k ih =>
      intro y hy
      rcases y with _ | ⟨c, _ | ⟨d, y⟩⟩
      · exact ⟨k + 1, by rw [hnil]; exact hy, .inl hnil⟩
      · rw [keepAlives_succ] at hy
        obtain rfl : c = '\r' := (List.cons.inj hy).1
        refine ⟨k + 1, ?_, .inr (.inl hcr)⟩
        rw [hcr, keepAlives_succ]
        exact hy
      · rw [keepAlives_succ] at hy
        simp only [List.cons_append, List.cons.injEq] at hy
        obtain ⟨rfl, rfl, hy⟩ := hy
        rw [hcrlf]
        exact ih y hy

theorem dropWhiteSpace_text {c : Char} (hc : isSpace c = false) (s : Chars) :
    dropWhiteSpace (c :: s) = c :: s := by
  rw [dropWhiteSpace, hc]
  simp

theorem dropCrlf_text {c : Char} (hc : isSpace c = false) (s : Chars) :
    dropCrlf (c :: s) = c :: s := by
  rw [dropCrlf]
  rintro t ⟨rfl⟩
  exact absurd hc (by decide)

theorem dropWhiteSpace_crlf (s : Chars) :
    dropWhiteSpace ('\r' :: '\n' :: s) = dropWhiteSpace s := by
  simp [dropWhiteSpace, isSpace]

end Gap

/-- The framer is between messages, or before the first, with `buffer` received. -/
def Fresh (buffer : Chars) (f : SipMessageFraming) : Prop :=
  ∃ state contentLength, f = ⟨state, contentLength, 0, false, buffer⟩ ∧
    ((state = .idle ∧ buffer = []) ∨ state = .created ∨ state = .clen)

theorem Fresh.appendPacket {buffer : Chars} {f : SipMessageFraming} (h : Fresh buffer f)
    (p : Chars) : Fresh (buffer ++ p) (f.appendPacket p) := by
  obtain ⟨state, contentLength, rfl, hstate⟩ := h
  by_cases hp : p = []
  · subst hp
    exact ⟨state, contentLength, by simp [SipMessageFraming.appendPacket], by simpa using hstate⟩
  · have hempty : (buffer ++ p).isEmpty = false := by simp [hp]
    rcases hstate with ⟨rfl, rfl⟩ | rfl | rfl
    · exact ⟨.created, contentLength,
        by simp [SipMessageFraming.appendPacket, hp, isEmpty], .inr (.inl rfl)⟩
    · exact ⟨.created, contentLength,
        by simp [SipMessageFraming.appendPacket, hp], .inr (.inl rfl)⟩
    · exact ⟨.clen, contentLength,
        by simp [SipMessageFraming.appendPacket, hp], .inr (.inr rfl)⟩

theorem Fresh.ignoreCrlf {buffer : Chars} {f : SipMessageFraming} (h : Fresh buffer f) :
    Fresh (dropCrlf buffer) f.ignoreCrlf.1 := by
  obtain ⟨state, contentLength, rfl, hstate⟩ := h
  refine ⟨state, contentLength, ?_, ?_⟩
  · simp only [SipMessageFraming.ignoreCrlf, ne_eq, not_true_eq_false, ↓reduceIte]
    split
    · rename_i heq
      rw [heq]
    · rfl
  · rcases hstate with ⟨rfl, rfl⟩ | hstate
    · exact .inl ⟨rfl, rfl⟩
    · exact .inr hstate

theorem Fresh.checkCompleteMessage_gap {buffer : Chars} {f : SipMessageFraming}
    (h : Fresh buffer f) (hbuffer : buffer = [] ∨ buffer = ['\r']) :
    ∃ f', f.checkCompleteMessage = (f', false) ∧ Fresh buffer f' := by
  obtain ⟨state, contentLength, rfl, hstate⟩ := h
  rcases hbuffer with rfl | rfl
  · exact ⟨_, rfl, state, contentLength, rfl, hstate⟩
  · refine ⟨⟨.clen, contentLength, 0, false, ['\r']⟩, ?_, .clen, contentLength, rfl, by simp⟩
    rcases hstate with ⟨-, hnil⟩ | rfl | rfl
    · exact absurd hnil nofun
    · rfl
    · rfl

theorem fresh_updateState (f : SipMessageFraming) {rest : Chars}
    (h : f.offset = (f.messageBuffer.length - rest.length : Int))
    (hrest : ∃ x, f.messageBuffer = x ++ rest) : Fresh (dropWhiteSpace rest) f.updateState := by
  obtain ⟨x, hx⟩ := hrest
  rw [hx, List.length_append] at h
  have hoffset : f.offset.toNat = x.length := by omega
  have hbuffer : (if f.offset < f.messageBuffer.length then f.messageBuffer.drop f.offset.toNat
      else if f.offset = f.messageBuffer.length then [] else f.messageBuffer) = rest := by
    rw [hoffset, hx, List.drop_left, List.length_append]
    by_cases hnil : rest = []
    · subst hnil
      rw [if_neg (by simp at *; omega), if_pos (by simp at *; omega)]
    · have := List.length_pos_iff.mpr hnil
      rw [if_pos (by omega)]
  simp only [updateState, hbuffer]
  refine ⟨_, 0, rfl, ?_⟩
  by_cases hnil : dropWhiteSpace rest = []
  · exact .inl ⟨if_pos hnil, hnil⟩
  · exact .inr (.inl (if_neg hnil))

end ImsStack.Framing.Segmentation
