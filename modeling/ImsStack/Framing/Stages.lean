import ImsStack.Framing.HeaderScan

/-!
The stages of the framer within one message, told by the whole text that is on
its way and not only by the part received: header fields still searched for
Content-Length, the empty line still searched for, and the body waited for.  One
call of `CheckCompleteMessage` moves from stage to stage by what has arrived.
-/

namespace ImsStack.Framing.Stages

open Platform.AString HeaderScan SipMessageFraming

/-- The first empty line of `x` is followed by `b`. -/
def HeadersEnd (x b : Chars) : Prop :=
  (∃ d, x = d ++ crlfcrlf ++ b) ∧
    ∀ s, s <:+ x → crlfcrlf <+: s → s.length ≤ b.length + 4

/-- The first line of `x` that reads as Content-Length gives `n`, and it stands
in front of the first empty line, which is followed by `b`. -/
def Reading (x : Chars) (n : Int) (b : Chars) : Prop :=
  (∃ r, Finds x n 2 r ∧ b.length + 2 ≤ r) ∧ HeadersEnd x b

theorem HeadersEnd.length_le {x b : Chars} (h : HeadersEnd x b) : b.length + 4 ≤ x.length := by
  obtain ⟨⟨d, rfl⟩, -⟩ := h
  simp only [List.length_append, crlfcrlf, List.length_cons, List.length_nil]
  omega

theorem HeadersEnd.of_append {q x b : Chars} (h : HeadersEnd (q ++ x) b)
    (hlength : b.length + 4 ≤ x.length) : HeadersEnd x b := by
  obtain ⟨⟨d, hd⟩, hfirst⟩ := h
  refine ⟨?_, fun s hs hstart => hfirst s (hs.trans (List.suffix_append q x)) hstart⟩
  rw [List.append_assoc] at hd
  rcases List.append_eq_append_iff.mp hd with ⟨d', hdd, hx⟩ | ⟨x', hq, hx⟩
  · exact ⟨d', by rw [hx, List.append_assoc]⟩
  · have hlen := congrArg List.length hx
    simp only [List.length_append, crlfcrlf, List.length_cons, List.length_nil] at hlen
    have hnil : x' = [] := List.eq_nil_of_length_eq_zero (by omega)
    subst hnil
    exact ⟨[], by simpa using hx.symm⟩

theorem Reading.length_lt {x b : Chars} {n : Int} (h : Reading x n b) :
    b.length + 4 < x.length := by
  obtain ⟨⟨r, hfinds, hr⟩, -⟩ := h
  have := hfinds.line_pos
  omega

theorem Reading.stripLeading {y z b : Chars} {n : Int} (h : Reading (y ++ z) n b) :
    Reading (stripLeading y ++ z) n b := by
  obtain ⟨⟨r, hfinds, hr⟩, hend⟩ := h
  have hfinds' := (Finds.stripLeading_append_iff y z).mpr hfinds
  refine ⟨⟨r, hfinds', hr⟩, ?_⟩
  obtain ⟨w, -, hy⟩ := exists_stripLeading y
  rw [hy, List.append_assoc] at hend
  refine hend.of_append ?_
  have := hfinds'.line_pos
  omega

theorem strStrCrlfCrlf_some {s : Chars} {i : Nat} (h : strStrCrlfCrlf s = some i) :
    crlfcrlf <+: s.drop i := by
  induction s generalizing i with
  | nil => exact absurd h nofun
  | cons c s ih =>
      rw [strStrCrlfCrlf] at h
      split at h
      · exact absurd h nofun
      · split at h
        · rename_i hstart
          cases h
          exact List.isPrefixOf_iff_prefix.mp hstart
        · obtain ⟨j, hj, rfl⟩ := Option.map_eq_some_iff.mp h
          exact ih hj

/-- The bytes looked at either are all that has been received, or they end with
the empty line. -/
theorem headerSection_eq (s : Chars) :
    headerSection s = s ∨ ∃ i, headerSection s = s.take (i + 4) ∧ i + 4 ≤ s.length ∧
      crlfcrlf <+: s.drop i := by
  unfold headerSection
  split
  · rename_i i hi
    have hstart := strStrCrlfCrlf_some hi
    have hlength := hstart.length_le
    simp only [crlfcrlf, List.length_cons, List.length_nil, List.length_drop] at hlength
    exact .inr ⟨i, rfl, by omega, hstart⟩
  · exact .inl rfl

theorem exists_headerSection {s z b : Chars} (h : HeadersEnd (s ++ z) b) :
    ∃ t, s = headerSection s ++ t ∧ (t ≠ [] ∨ headerSection s ≠ s → (t ++ z).length ≤ b.length) := by
  rcases headerSection_eq s with heq | ⟨i, heq, hi, hstart⟩
  · refine ⟨[], by rw [heq, List.append_nil], ?_⟩
    rintro (hne | hne)
    · exact absurd rfl hne
    · exact absurd heq hne
  · refine ⟨s.drop (i + 4), by rw [heq, List.take_append_drop], fun _ => ?_⟩
    have hsuffix : s.drop i ++ z <:+ s ++ z := by
      obtain ⟨q, hq⟩ := List.drop_suffix i s
      exact ⟨q, by rw [← List.append_assoc, hq]⟩
    have hle := h.2 _ hsuffix (hstart.trans (List.prefix_append _ _))
    simp only [List.length_append, List.length_drop] at hle ⊢
    omega

theorem length_dropWhiteSpace_le (s : Chars) : (dropWhiteSpace s).length ≤ s.length := by
  induction s with
  | nil => exact Nat.le_refl _
  | cons c s ih =>
      rw [dropWhiteSpace]
      split
      · exact Nat.le_refl _
      · split
        · exact Nat.le_succ_of_le ih
        · exact Nat.le_refl _

section Fields

variable {f : SipMessageFraming} {o : Nat} {z b : Chars} {n : Int}

theorem drop_offset {buffer a s t : Chars} (hbuffer : buffer.drop o = a ++ s ++ t) {q s' : Chars}
    (hs : s = q ++ s') :
    buffer.drop (o + (a.length + s.length - s'.length)) = s' ++ t := by
  rw [← List.drop_drop, hbuffer, hs]
  have hlength : a.length + (q ++ s').length - s'.length = (a ++ q).length := by
    simp only [List.length_append]
    omega
  rw [hlength, ← List.append_assoc, List.append_assoc, List.drop_left]

/-- The scan of the fields `s`, which end where the section of header fields
received ends. -/
theorem scanFields_spec {a s t : Chars} (hbuffer : f.messageBuffer.drop o = a ++ s ++ t)
    (hoffset : f.offset = o) (ho : o ≤ f.messageBuffer.length) (ht : t ≠ [] → (t ++ z).length ≤ b.length)
    (hread : Reading (s ++ (t ++ z)) n b) :
    ∃ o', o + a.length ≤ o' ∧
      ((f.scanFields (a.length + s.length) s = { f with offset := (o' : Nat) } ∧
        o' ≤ f.messageBuffer.length ∧ b.length < z.length ∧
        Reading (f.messageBuffer.drop o' ++ z) n b) ∨
      (f.scanFields (a.length + s.length) s =
          { f with contentLength := n, offset := (o' : Nat), state := .body } ∧
        o' + 3 ≤ f.messageBuffer.length ∧ HeadersEnd (f.messageBuffer.drop o' ++ z) b)) := by
  have hlt := hread.length_lt
  have hbufferLen := congrArg List.length hbuffer
  simp only [List.length_drop, List.length_append] at hbufferLen
  obtain ⟨⟨r, hfinds, hr⟩, hend⟩ := hread
  by_cases hs : s = []
  · subst hs
    have htnil : t = [] := by
      by_contra hne
      have := ht hne
      simp only [List.nil_append] at hlt
      omega
    subst htnil
    simp only [List.nil_append] at hlt
    refine ⟨o + a.length, Nat.le_refl _, .inl ⟨?_, by omega, by omega, ?_⟩⟩
    · simp [scanFields, hoffset]
    · have hdrop := drop_offset hbuffer (List.nil_append []).symm
      simp only [List.length_nil, Nat.add_zero, Nat.sub_zero, List.append_nil] at hdrop
      rw [hdrop]
      exact ⟨⟨r, hfinds, hr⟩, hend⟩
  · have hstops := scanHeaders_stops s.length s (Nat.le_refl _) hfinds
    have hline := hfinds.line_pos
    rw [List.length_append] at hline
    generalize hscan : scanHeaders s.length s = scan at hstops
    cases hstops with
    | found hlen =>
        have hleft : r - (t ++ z).length + 2 + 1 ≤ s.length := by omega
        refine ⟨o + (a.length + s.length - (r - (t ++ z).length + 2 + 1)), by omega, .inr ?_⟩
        have hdrop := drop_offset hbuffer
          (List.take_append_drop (s.length - (r - (t ++ z).length + 2 + 1)) s).symm
        have hlength : (s.drop (s.length - (r - (t ++ z).length + 2 + 1))).length =
            r - (t ++ z).length + 2 + 1 := by
          rw [List.length_drop]
          omega
        rw [hlength] at hdrop
        refine ⟨?_, ?_, ?_⟩
        · rw [scanFields, if_neg hs, hscan, hoffset]
          norm_cast
        · have := congrArg List.length hdrop
          simp only [List.length_drop, List.length_append] at this hleft ⊢
          omega
        · rw [hdrop, List.append_assoc]
          rw [← List.take_append_drop (s.length - (r - (t ++ z).length + 2 + 1)) s,
            List.append_assoc] at hend
          refine hend.of_append ?_
          rw [List.length_append, hlength]
          omega
    | @incomplete q s' hlen hq h =>
        have htnil : t = [] := by
          by_contra hne
          have := ht hne
          omega
        subst htnil
        simp only [List.nil_append] at hlen
        have hqlen := congrArg List.length hq
        rw [List.length_append] at hqlen
        refine ⟨o + (a.length + s.length - s'.length), by omega,
          .inl ⟨?_, by omega, by omega, ?_⟩⟩
        · rw [scanFields, if_neg hs, hscan, hoffset]
          norm_cast
        · rw [drop_offset hbuffer hq, List.append_nil]
          refine ⟨⟨r, h, hr⟩, ?_⟩
          rw [hq, List.append_assoc] at hend
          refine hend.of_append ?_
          have := h.line_pos
          simp only [List.nil_append] at this ⊢
          omega

theorem parseContentLength_resume (hoffset : f.offset = o) (hpos : 0 < o)
    (ho : o ≤ f.messageBuffer.length) (hread : Reading (f.messageBuffer.drop o ++ z) n b) :
    ∃ o', o ≤ o' ∧
      ((f.parseContentLength = { f with offset := (o' : Nat) } ∧
        o' ≤ f.messageBuffer.length ∧ b.length < z.length ∧
        Reading (f.messageBuffer.drop o' ++ z) n b) ∨
      (f.parseContentLength =
          { f with contentLength := n, offset := (o' : Nat), state := .body } ∧
        o' + 3 ≤ f.messageBuffer.length ∧ HeadersEnd (f.messageBuffer.drop o' ++ z) b)) := by
  have htoNat : f.offset.toNat = o := by rw [hoffset, Int.toNat_natCast]
  generalize hstart : f.messageBuffer.drop o = start at hread
  have hread' := hread.stripLeading
  obtain ⟨w, -, hw⟩ := exists_stripLeading start
  obtain ⟨t, ht, htlen⟩ := exists_headerSection hread'.2
  have hsize : start.length - (stripLeading start).length + (headerSection (stripLeading start)).length
      = w.length + (headerSection (stripLeading start)).length := by
    have := congrArg List.length hw
    rw [List.length_append] at this
    omega
  unfold parseContentLength
  simp only [htoNat, hstart, hsize]
  by_cases hzero : w.length + (headerSection (stripLeading start)).length = 0
  · rw [if_pos hzero]
    have hlt := hread.length_lt
    have hlen := congrArg List.length ht
    have hwlen := congrArg List.length hw
    have hnil : t = [] := by
      by_contra hne
      have := htlen (.inl hne)
      simp only [List.length_append] at *
      omega
    rw [hnil] at hlen
    simp only [List.length_append, List.length_nil] at *
    refine ⟨o, Nat.le_refl _, .inl ⟨?_, ho, by omega, by rwa [hstart]⟩⟩
    rw [← hoffset]
  · rw [if_neg hzero, if_neg (by omega)]
    have hfields : f.messageBuffer.drop o = w ++ headerSection (stripLeading start) ++ t := by
      rw [hstart, List.append_assoc, ← ht, ← hw]
    rw [ht, List.append_assoc] at hread'
    obtain ⟨o', hle, hor⟩ :=
      scanFields_spec hfields hoffset ho (fun hne => htlen (.inl hne)) hread'
    exact ⟨o', by omega, hor⟩

end Fields

section Body

variable {z b : Chars}

/-- The scan for the empty line finds it once its last byte has arrived, and
stops at the last three bytes before that. -/
theorem lookupBody_spec (s : Chars) (hs : 3 ≤ s.length) (hend : HeadersEnd (s ++ z) b) :
    ∃ q rest, s = q ++ rest ∧
      ((lookupBody s = (true, rest) ∧ rest ++ z = b) ∨
      (lookupBody s = (false, rest) ∧ rest.length = 3 ∧ b.length < z.length ∧
        HeadersEnd (rest ++ z) b)) := by
  induction s with
  | nil => exact absurd hs (by simp)
  | cons c s ih =>
      have hlength := hend.length_le
      simp only [List.length_append] at hlength
      rw [lookupBody]
      split
      · rename_i hthree
        refine ⟨[], c :: s, rfl, .inr ⟨rfl, by omega, by omega, hend⟩⟩
      · split
        · rename_i hstart
          have hstart' : crlfcrlf <+: c :: s := List.isPrefixOf_iff_prefix.mp hstart
          obtain ⟨rest, hrest⟩ := hstart'
          have hfirst := hend.2 _ (List.suffix_refl _) ⟨rest ++ z, by rw [← hrest, List.append_assoc]⟩
          refine ⟨crlfcrlf, rest, hrest.symm, .inl ⟨?_, ?_⟩⟩
          · rw [← hrest]
            rfl
          · obtain ⟨⟨d, hd⟩, -⟩ := hend
            have hdlen := congrArg List.length hd
            simp only [List.length_append, crlfcrlf, List.length_cons, List.length_nil] at hdlen hfirst
            have hnil : d = [] := List.eq_nil_of_length_eq_zero (by omega)
            rw [← hrest, hnil, List.nil_append, List.append_assoc] at hd
            exact List.append_cancel_left hd
        · rename_i hlong hstart
          have hnext : HeadersEnd (s ++ z) b := by
            refine HeadersEnd.of_append (q := [c]) hend ?_
            have hne : (c :: s ++ z).length ≠ b.length + 4 := by
              intro heq
              obtain ⟨⟨d, hd⟩, -⟩ := hend
              have hdlen := congrArg List.length hd
              simp only [List.length_append, crlfcrlf, List.length_cons, List.length_nil] at hdlen heq
              have hnil : d = [] := List.eq_nil_of_length_eq_zero (by omega)
              rw [hnil, List.nil_append] at hd
              have hpre : crlfcrlf <+: c :: s ++ z := ⟨b, hd.symm⟩
              refine hstart (List.isPrefixOf_iff_prefix.mpr ?_)
              refine List.prefix_of_prefix_length_le hpre (List.prefix_append _ _) ?_
              simp only [crlfcrlf, List.length_cons, List.length_nil] at hlong ⊢
              omega
            simp only [List.length_append, List.length_cons] at hne hlength ⊢
            omega
          obtain ⟨q, rest, hq, hor⟩ := ih (by simp only [List.length_cons] at *; omega) hnext
          exact ⟨c :: q, rest, by rw [hq]; rfl, hor⟩

end Body

/-- The framer is within a message of which `z` and what follows has not arrived:
`n` is the number it goes or will go by, and `b` starts with the body. -/
inductive Stage (z : Chars) (n : Int) (b : Chars) : SipMessageFraming → Prop where
  | fields {contentLength : Int} {o : Nat} {buffer : Chars} : 0 < o → o ≤ buffer.length →
      Reading (buffer.drop o ++ z) n b → Stage z n b ⟨.clen, contentLength, o, false, buffer⟩
  | emptyLine {o : Nat} {buffer : Chars} : 0 < o → o + 3 ≤ buffer.length →
      HeadersEnd (buffer.drop o ++ z) b → Stage z n b ⟨.body, n, o, false, buffer⟩
  | body {o : Nat} {buffer : Chars} : 0 < o → o ≤ buffer.length → buffer.drop o ++ z = b →
      Stage z n b ⟨.body, n, o, true, buffer⟩

/-- How a call of `CheckCompleteMessage` with `buffer` received ends within a
message: either something it waits for is in `z`, or the message ends `n` bytes
behind the empty line. -/
inductive Checked (z : Chars) (n : Int) (b buffer : Chars) : SipMessageFraming × Bool → Prop where
  | waiting {f : SipMessageFraming} : Stage z n b f → f.messageBuffer = buffer →
      (b.length < z.length ∨ (b.length : Int) < n + z.length) → Checked z n b buffer (f, false)
  | complete {f : SipMessageFraming} : f.messageBuffer = buffer → z.length ≤ b.length →
      n + z.length ≤ b.length → f.offset = buffer.length + z.length - b.length + n →
      Checked z n b buffer (f, true)

section Check

variable {z b buffer : Chars} {n : Int} {o : Nat}

theorem takeBody_checked (hpos : 0 < o) (ho : o ≤ buffer.length) (hb : buffer.drop o ++ z = b) {rest : Nat}
    (hrest : rest = buffer.length - o) :
    Checked z n b buffer ((SipMessageFraming.mk .body n o true buffer).takeBody rest,
      decide (((SipMessageFraming.mk .body n o true buffer).takeBody rest).state = .done)) := by
  have hlength := congrArg List.length hb
  rw [List.length_append, List.length_drop] at hlength
  unfold takeBody
  split
  · rename_i hzero
    obtain ⟨hrestZero, hn⟩ := hzero
    simp only at hn
    refine .complete rfl (by omega) (by omega) ?_
    simp only
    omega
  · simp only
    split
    · rename_i hwait
      exact .waiting (.body hpos ho hb) rfl (.inr (by omega))
    · refine .complete rfl (by omega) (by omega) ?_
      simp only
      omega

theorem parseMessageBody_checked (hpos : 0 < o) (ho : o + 3 ≤ buffer.length)
    (hend : HeadersEnd (buffer.drop o ++ z) b) :
    Checked z n b buffer ((SipMessageFraming.mk .body n o false buffer).parseMessageBody,
      decide ((SipMessageFraming.mk .body n o false buffer).parseMessageBody.state = .done)) := by
  have hlength : 3 ≤ (buffer.drop o).length := by
    rw [List.length_drop]
    omega
  obtain ⟨q, rest, hq, hor⟩ := lookupBody_spec (buffer.drop o) hlength hend
  have hqlen := congrArg List.length hq
  simp only [List.length_append, List.length_drop] at hqlen
  have hdrop : buffer.drop (o + ((buffer.drop o).length - rest.length)) = rest := by
    rw [← List.drop_drop, hq, List.length_append, Nat.add_sub_cancel, List.drop_left]
  have hoffset : (o : Int) + (((buffer.drop o).length - rest.length : Nat) : Int) =
      ((o + ((buffer.drop o).length - rest.length) : Nat) : Int) := by
    norm_cast
  simp only [parseMessageBody, Int.toNat_natCast, Bool.false_eq_true, ↓reduceIte]
  rcases hor with ⟨hfound, hb⟩ | ⟨hfound, hthree, hwait, hend'⟩
  · rw [hfound]
    simp only [Bool.not_true, Bool.false_eq_true, and_false, ↓reduceIte, hoffset]
    refine takeBody_checked (by omega) ?_ (by rw [hdrop]; exact hb) ?_ <;>
      simp only [List.length_drop] <;> omega
  · rw [hfound]
    simp only [hthree, Bool.not_false, and_self, ↓reduceIte]
    rw [hthree] at hoffset hdrop
    rw [hoffset]
    refine .waiting (.emptyLine (by omega) ?_ (by rw [hdrop]; exact hend')) rfl (.inl hwait)
    rw [List.length_drop]
    omega

theorem checkCompleteMessage_stage {f : SipMessageFraming} (h : Stage z n b f)
    (hne : f.messageBuffer ≠ []) : Checked z n b f.messageBuffer f.checkCompleteMessage := by
  have hempty : f.isEmpty = false := by simpa [isEmpty] using hne
  cases h with
  | @fields contentLength o buffer hpos ho hread =>
      obtain ⟨o', hle, hor⟩ := parseContentLength_resume (f := ⟨.clen, contentLength, o, false,
        buffer⟩) rfl hpos ho hread
      rcases hor with ⟨hparse, ho', hwait, hread'⟩ | ⟨hparse, hthree, hend⟩
      · have hstage : Checked z n b buffer
            (SipMessageFraming.mk .clen contentLength o' false buffer, false) :=
          .waiting (.fields (by omega) ho' hread') rfl (.inl hwait)
        simpa [checkCompleteMessage, hempty, hparse] using hstage
      · have hchecked := parseMessageBody_checked (n := n) (by omega) hthree hend
        simpa [checkCompleteMessage, hempty, hparse] using hchecked
  | emptyLine hpos ho hend =>
      have hchecked := parseMessageBody_checked (n := n) hpos ho hend
      simpa [checkCompleteMessage, hempty] using hchecked
  | @body o buffer hpos ho hb =>
      have hchecked := takeBody_checked (n := n) hpos ho hb rfl
      simpa [checkCompleteMessage, hempty, parseMessageBody, List.length_drop] using hchecked

end Check

end ImsStack.Framing.Stages
