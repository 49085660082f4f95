import ImsStack.Framing.Stages

/-!
Well-formed SIP messages as text, and streams of them with CRLF keep-alives in
between.  A message names the length of its body in the first of its lines that
reads as a Content-Length header.
-/

namespace ImsStack.Framing

open Platform.AString HeaderScan Stages SipMessageFraming

def crlf : Chars := ['\r', '\n']

/-- A message: its start line, the header lines in front of the Content-Length
header, that header, the header lines behind it, and the body. -/
structure SipText where
  startLine : Chars
  headers : List Chars
  lengthLine : Chars
  moreHeaders : List Chars
  body : Chars
  startLine_noEol : NoEol startLine
  startLine_head : ∃ c ∈ startLine.head?, isSpace c = false
  headers_ok : ∀ line ∈ headers, line ≠ [] ∧ NoEol line ∧ lineContentLength line = none
  lengthLine_ok : NoEol lengthLine ∧ lineContentLength lengthLine = some (body.length : Int)
  moreHeaders_ok : ∀ line ∈ moreHeaders, line ≠ [] ∧ NoEol line

def linesText (lines : List Chars) : Chars := lines.flatMap (· ++ crlf)

theorem linesText_cons (line : Chars) (lines : List Chars) :
    linesText (line :: lines) = line ++ crlf ++ linesText lines := rfl

theorem linesText_append (lines more : List Chars) :
    linesText (lines ++ more) = linesText lines ++ linesText more := List.flatMap_append

namespace SipText

def lines (m : SipText) : List Chars := m.headers ++ m.lengthLine :: m.moreHeaders

def text (m : SipText) : Chars := linesText (m.startLine :: m.lines) ++ crlf ++ m.body

end SipText

def keepAlives (k : Nat) : Chars := (List.replicate k crlf).flatten

/-- The bytes of a stream: `(k, m)` is a message with `k` keep-alives in front of
it, and `last` keep-alives follow the last message. -/
def stream : List (Nat × SipText) → Nat → Chars
  | [], last => keepAlives last
  | (k, m) :: items, last => keepAlives k ++ (m.text ++ stream items last)

theorem length_keepAlives (k : Nat) : (keepAlives k).length = 2 * k := by
  simp [keepAlives, crlf, Nat.mul_comm]

theorem keepAlives_succ (k : Nat) : keepAlives (k + 1) = '\r' :: '\n' :: keepAlives k := by
  simp [keepAlives, List.replicate_succ, crlf]

theorem stream_append (done items : List (Nat × SipText)) (last : Nat) :
    stream (done ++ items) last = stream done 0 ++ stream items last := by
  induction done with
  | nil => rfl
  | cons item done ih =>
      simp only [List.cons_append, stream, ih, List.append_assoc]

section Lines

theorem noEol_startLine_ne {m : SipText} : m.startLine ≠ [] := by
  obtain ⟨c, hc, -⟩ := m.startLine_head
  intro hnil
  rw [hnil] at hc
  exact absurd hc nofun

theorem lengthLine_ne (m : SipText) : m.lengthLine ≠ [] := by
  intro hnil
  have h := m.lengthLine_ok.2
  rw [hnil] at h
  exact absurd h nofun

theorem lines_ok (m : SipText) : ∀ line ∈ m.startLine :: m.lines, line ≠ [] ∧ NoEol line := by
  intro line hline
  simp only [SipText.lines, List.mem_cons, List.mem_append] at hline
  rcases hline with rfl | hline | rfl | hline
  · exact ⟨noEol_startLine_ne, m.startLine_noEol⟩
  · exact ⟨(m.headers_ok line hline).1, (m.headers_ok line hline).2.1⟩
  · exact ⟨lengthLine_ne m, m.lengthLine_ok.1⟩
  · exact m.moreHeaders_ok line hline

theorem splitLine_line {line : Chars} (h : NoEol line) (x : Chars) :
    splitLine (line ++ crlf ++ x) = (line, 2, x) := by
  rw [List.append_assoc, splitLine_append h]
  simp [crlf]

theorem suffix_of_line {line x s : Chars} (h : NoEol line) (hs : s <:+ line ++ x)
    (hstart : crlfcrlf <+: s) : s <:+ x := by
  induction line with
  | nil => exact hs
  | cons c line ih =>
      rcases List.suffix_cons_iff.mp hs with rfl | hs
      · obtain ⟨t, ht⟩ := hstart
        have hc : '\r' = c := (List.cons.inj ht).1
        exact absurd hc.symm (h c List.mem_cons_self).1
      · exact ih (fun d hd => h d (List.mem_cons_of_mem _ hd)) hs

theorem headersEnd_lines (lines : List Chars) (hne : lines ≠ [])
    (hlines : ∀ line ∈ lines, line ≠ [] ∧ NoEol line) (b : Chars) :
    HeadersEnd (linesText lines ++ crlf ++ b) b := by
  induction lines with
  | nil => exact absurd rfl hne
  | cons line lines ih =>
      obtain ⟨hline, heol⟩ := hlines line List.mem_cons_self
      rcases lines with _ | ⟨next, lines⟩
      · have hx : linesText [line] ++ crlf ++ b = line ++ (crlfcrlf ++ b) := by
          simp [linesText, crlf, crlfcrlf]
        rw [hx]
        refine ⟨⟨line, by rw [List.append_assoc]⟩, fun s hs hstart => ?_⟩
        have hle := (suffix_of_line heol hs hstart).length_le
        simp only [List.length_append, crlfcrlf, List.length_cons, List.length_nil] at hle
        omega
      · have hnext := ih (by rintro ⟨⟩) fun l hl => hlines l (List.mem_cons_of_mem _ hl)
        have hx : linesText (line :: next :: lines) ++ crlf ++ b =
            line ++ ('\r' :: '\n' :: (linesText (next :: lines) ++ crlf ++ b)) := by
          simp [linesText, crlf]
        rw [hx]
        generalize hrest : linesText (next :: lines) ++ crlf ++ b = rest at hnext
        obtain ⟨⟨d, hd⟩, hfirst⟩ := hnext
        refine ⟨⟨line ++ '\r' :: '\n' :: d, by rw [hd]; simp⟩, fun s hs hstart => ?_⟩
        rcases List.suffix_cons_iff.mp (suffix_of_line heol hs hstart) with rfl | hs
        · obtain ⟨c, next, rfl⟩ := List.exists_cons_of_ne_nil
            (hlines next (List.mem_cons_of_mem _ List.mem_cons_self)).1
          obtain ⟨t, ht⟩ := hstart
          rw [← hrest] at ht
          have hc : '\r' = c := (List.cons.inj (List.cons.inj (List.cons.inj ht).2).2).1
          exact absurd hc.symm ((hlines (c :: next)
            (List.mem_cons_of_mem _ List.mem_cons_self)).2 c List.mem_cons_self).1
        · rcases List.suffix_cons_iff.mp hs with rfl | hs
          · obtain ⟨t, ht⟩ := hstart
            exact absurd (List.cons.inj ht).1 (by decide)
          · exact hfirst s hs hstart

theorem finds_lines (headers : List Chars)
    (hheaders : ∀ line ∈ headers, line ≠ [] ∧ NoEol line ∧ lineContentLength line = none)
    {line : Chars} {n : Int} (hline : NoEol line) (hn : lineContentLength line = some n)
    {x : Chars} (hx : x ≠ []) :
    Finds (linesText headers ++ (line ++ crlf ++ x)) n 2 x.length := by
  induction headers with
  | nil =>
      have heq := splitLine_line hline x
      have h : Finds (line ++ crlf ++ x) n (splitLine (line ++ crlf ++ x)).2.1
          (splitLine (line ++ crlf ++ x)).2.2.length :=
        .here (by rw [heq]; exact hx) (by rw [heq]; exact hn)
      rwa [heq] at h
  | cons header headers ih =>
      obtain ⟨-, heol, hnone⟩ := hheaders header List.mem_cons_self
      have hfinds := ih fun l hl => hheaders l (List.mem_cons_of_mem _ hl)
      rw [linesText_cons, List.append_assoc]
      have heq := splitLine_line heol (linesText headers ++ (line ++ crlf ++ x))
      refine .skip ?_ ?_ ?_ <;> rw [heq]
      · intro hnil
        change linesText headers ++ (line ++ crlf ++ x) = [] at hnil
        rw [hnil] at hfinds
        exact absurd hfinds.rest_lt.2 (Nat.not_lt_zero _)
      · exact hnone
      · exact hfinds

end Lines

namespace SipText

variable (m : SipText) (post : Chars)

theorem text_append : m.text ++ post =
    m.startLine ++ crlf ++ (linesText m.lines ++ crlf ++ (m.body ++ post)) := by
  simp [text, linesText_cons]

theorem headersEnd_text : HeadersEnd (m.text ++ post) (m.body ++ post) := by
  have h := headersEnd_lines (m.startLine :: m.lines) nofun (lines_ok m) (m.body ++ post)
  rwa [← List.append_assoc] at h

theorem reading_lines :
    Reading (linesText m.lines ++ crlf ++ (m.body ++ post)) m.body.length (m.body ++ post) := by
  have hlines : ∀ line ∈ m.lines, line ≠ [] ∧ NoEol line := fun line hline =>
    lines_ok m line (List.mem_cons_of_mem _ hline)
  refine ⟨⟨(linesText m.moreHeaders ++ crlf ++ (m.body ++ post)).length, ?_, ?_⟩,
    headersEnd_lines m.lines (by simp [lines]) hlines (m.body ++ post)⟩
  · have hfinds := finds_lines m.headers m.headers_ok m.lengthLine_ok.1 m.lengthLine_ok.2
      (x := linesText m.moreHeaders ++ crlf ++ (m.body ++ post)) (by simp [crlf])
    simpa [lines, linesText_append, linesText_cons] using hfinds
  · simp only [List.length_append, crlf, List.length_cons, List.length_nil]
    omega

/-- The number the framer goes by when the first look at the message shows it
`cut` bytes: what is left of the start line is then taken for a header line. -/
def readLength (cut : Nat) : Int := (lineContentLength (m.startLine.drop cut)).getD m.body.length

variable {m post}

theorem noEol_drop {line : Chars} (h : NoEol line) (cut : Nat) : NoEol (line.drop cut) :=
  fun c hc => h c (List.mem_of_mem_drop hc)

theorem reading_cut {y z : Chars} (heq : y ++ z = m.text ++ post)
    (hcut : (linesText m.lines ++ crlf ++ (m.body ++ post)).length ≤ z.length) :
    Reading z (m.readLength y.length) (m.body ++ post) := by
  have hlines := m.reading_lines post
  have hend := m.headersEnd_text post
  generalize hfields : linesText m.lines ++ crlf ++ (m.body ++ post) = fields at hlines hcut
  have htext : m.text ++ post = m.startLine ++ crlf ++ fields := by
    rw [text_append, hfields]
  rw [htext] at heq hend
  have hz : z = (m.startLine ++ crlf ++ fields).drop y.length := by
    rw [← heq, List.drop_left]
  have hzend : HeadersEnd z (m.body ++ post) := by
    rw [← heq] at hend
    refine hend.of_append ?_
    have := hlines.length_lt
    omega
  have hylen := congrArg List.length heq
  simp only [List.length_append, crlf, List.length_cons, List.length_nil] at hylen
  by_cases hstart : y.length ≤ m.startLine.length
  · -- The line left over is read like any other line.
    have hz' : z = m.startLine.drop y.length ++ crlf ++ fields := by
      rw [hz, List.append_assoc, List.append_assoc, List.drop_append_of_le_length hstart]
    have hsplit := splitLine_line (noEol_drop m.startLine_noEol y.length) fields
    have hne : fields ≠ [] := by
      rintro rfl
      exact absurd hlines.length_lt (Nat.not_lt_zero _)
    obtain ⟨⟨r, hfinds, hr⟩, -⟩ := hlines
    refine ⟨?_, hzend⟩
    rw [hz']
    cases hline : lineContentLength (m.startLine.drop y.length) with
    | none =>
        refine ⟨r, ?_, hr⟩
        rw [readLength, hline]
        exact .skip (by rw [hsplit]; exact hne) (by rw [hsplit]; exact hline)
          (by rw [hsplit]; exact hfinds)
    | some n =>
        rw [readLength, hline]
        have h : Finds (m.startLine.drop y.length ++ crlf ++ fields) n
            (splitLine (m.startLine.drop y.length ++ crlf ++ fields)).2.1
            (splitLine (m.startLine.drop y.length ++ crlf ++ fields)).2.2.length :=
          .here (by rw [hsplit]; exact hne) (by rw [hsplit]; exact hline)
        rw [hsplit] at h
        have := hfinds.rest_lt
        exact ⟨fields.length, h, by omega⟩
  · have hread : m.readLength y.length = m.body.length := by
      rw [readLength, List.drop_eq_nil_of_le (by omega)]
      rfl
    rw [hread]
    obtain ⟨⟨r, hfinds, hr⟩, -⟩ := hlines
    refine ⟨⟨r, ?_, hr⟩, hzend⟩
    have hcases : y.length = m.startLine.length + 1 ∨ y.length = m.startLine.length + 2 := by omega
    rcases hcases with hlen | hlen
    · have hz' : z = '\n' :: fields := by
        rw [hz, hlen, List.append_assoc, List.drop_append]
        simp [crlf]
      rw [hz']
      exact (Finds.cons_space_iff rfl).mpr hfinds
    · have hz' : z = fields := by
        rw [hz, hlen, List.append_assoc, List.drop_append]
        simp [crlf]
      rw [hz']
      exact hfinds

end SipText

end ImsStack.Framing
