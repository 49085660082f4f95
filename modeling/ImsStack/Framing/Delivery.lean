import ImsStack.Framing.Segmentation

/-!
The messages a stream delivers, packet by packet.  Before each packet the framer
stands between two messages or within one; the packet completes some messages
and leaves it between or within again, unless it meets a message for which it
goes by a number that is not the length of the body.
-/

namespace ImsStack.Framing.Delivery

open Platform.AString HeaderScan Stages Segmentation SipMessageFraming

/-- A stream from its first message on. -/
def fromMessage : List (Nat × SipText) → Nat → Chars
  | [], _ => []
  | (_, m) :: items, last => m.text ++ stream items last

theorem exists_keepAlives (items : List (Nat × SipText)) (last : Nat) :
    ∃ k, stream items last = keepAlives k ++ fromMessage items last := by
  rcases items with _ | ⟨⟨k, m⟩, items⟩
  · exact ⟨last, (List.append_nil _).symm⟩
  · exact ⟨k, rfl⟩

theorem head_fromMessage (items : List (Nat × SipText)) (last : Nat) :
    ∀ c ∈ (fromMessage items last).head?, isSpace c = false := by
  intro c hc
  rcases items with _ | ⟨⟨k, m⟩, items⟩
  · exact absurd hc nofun
  · have hne : m.text ≠ [] := by simp [SipText.text, crlf]
    have heq : m.text ++ [] = m.text ++ [] := rfl
    obtain ⟨d, s, hcons, hspace⟩ := exists_head hne heq
    rw [fromMessage, hcons] at hc
    obtain rfl : d = c := by simpa using hc
    exact hspace

section Run

variable (packets : List Chars) (last : Nat)

/-- Where the framer stands with `items` to come and `z` not received: `done` are
the messages delivered. -/
inductive At (done : List (Nat × SipText)) (z : Chars) :
    List (Nat × SipText) → SipMessageFraming → Prop where
  | between {items : List (Nat × SipText)} {k : Nat} {buffer : Chars} {f : SipMessageFraming} :
      Fresh buffer f → (buffer = [] ∨ buffer = ['\r']) →
      buffer ++ z = keepAlives k ++ fromMessage items last → At done z items f
  | within {k : Nat} {m : SipText} {items : List (Nat × SipText)} {f : SipMessageFraming} :
      Stage z (m.readLength (cut packets done k)) (m.body ++ stream items last) f →
      f.messageBuffer ≠ [] → f.messageBuffer ++ z = m.text ++ stream items last →
      (Good packets done k m → (stream items last).length < z.length) →
      At done z ((k, m) :: items) f

/-- Where it stands when the extraction loop looks at the buffer: there it may
also hold the beginning of a message not looked at yet.  `z₀` had not been
received before the packet. -/
inductive Ready (done : List (Nat × SipText)) (z z₀ : Chars) :
    List (Nat × SipText) → SipMessageFraming → Prop where
  | between {items : List (Nat × SipText)} {k : Nat} {buffer : Chars} {f : SipMessageFraming} :
      Fresh buffer f → (buffer = [] ∨ buffer = ['\r']) →
      buffer ++ z = keepAlives k ++ fromMessage items last → Ready done z z₀ items f
  | message {k : Nat} {m : SipText} {items : List (Nat × SipText)} {f : SipMessageFraming} :
      Checked z (m.readLength (cut packets done k)) (m.body ++ stream items last)
        f.messageBuffer f.checkCompleteMessage →
      f.messageBuffer ≠ [] → f.messageBuffer ++ z = m.text ++ stream items last →
      (Good packets done k m → (stream items last).length ≤ z₀.length) →
      Ready done z z₀ ((k, m) :: items) f

/-- Every message of `items` has been looked at well. -/
def AllGood (done items : List (Nat × SipText)) : Prop :=
  ∀ d k m d', items = d ++ (k, m) :: d' → Good packets (done ++ d) k m

def texts (items : List (Nat × SipText)) : List Chars := items.map fun item => item.2.text

theorem allGood_nil (done : List (Nat × SipText)) : AllGood packets done [] := by
  intro d k m d' heq
  exact absurd heq (by simp)

/-- What a part of the run brings: some of the messages to come, with the framer
left between or within, or no more than the messages in front of one it goes
wrong with. -/
inductive Delivers (done items : List (Nat × SipText)) (z : Chars) :
    Option (List Chars × SipMessageFraming) → Prop where
  | well {new rest : List (Nat × SipText)} {f : SipMessageFraming} : items = new ++ rest →
      AllGood packets done new → At packets last (done ++ new) z rest f →
      Delivers done items z (some (texts new, f))
  | wrong {new rest : List (Nat × SipText)} {k : Nat} {m : SipText}
      {result : Option (List Chars × SipMessageFraming)} : items = new ++ (k, m) :: rest →
      ¬Good packets (done ++ new) k m →
      (∀ messages f, result = some (messages, f) →
        ∃ x more, messages = texts new ++ x :: more ∧ x ≠ m.text) →
      Delivers done items z result

end Run

section Complete

variable {z post : Chars} {m : SipText} {f f' : SipMessageFraming} {n : Int}

theorem length_text (m : SipText) : m.body.length < m.text.length := by
  simp only [SipText.text, List.length_append, crlf, List.length_cons, List.length_nil]
  omega

theorem complete_good (heq : f.messageBuffer ++ z = m.text ++ post)
    (hlen : (m.body.length : Int) + z.length ≤ (m.body ++ post).length)
    (hoffset : f.offset = f.messageBuffer.length + z.length - (m.body ++ post).length +
      m.body.length) (hne : f.messageBuffer ≠ []) :
    f.getCompleteMessage = some m.text ∧ ∃ rest, rest ++ z = post ∧
      Fresh (dropWhiteSpace rest) f.updateState := by
  have hlength := congrArg List.length heq
  simp only [List.length_append] at hlength hlen hoffset
  have htext : f.offset = m.text.length := by omega
  obtain ⟨rest, hrest⟩ : ∃ rest, f.messageBuffer = m.text ++ rest := by
    have hstart : m.text <+: f.messageBuffer :=
      List.prefix_of_prefix_length_le ⟨post, heq.symm⟩ (List.prefix_append _ _) (by omega)
    obtain ⟨rest, hrest⟩ := hstart
    exact ⟨rest, hrest.symm⟩
  refine ⟨?_, rest, ?_, fresh_updateState f ?_ ⟨m.text, hrest⟩⟩
  · rw [getCompleteMessage, if_neg (by simpa [isEmpty] using hne), htext, Int.toNat_natCast, hrest,
      List.take_left]
  · rw [hrest, List.append_assoc] at heq
    exact List.append_cancel_left heq
  · rw [htext, hrest, List.length_append]
    omega

theorem complete_wrong (heq : f.messageBuffer ++ z = m.text ++ post) (hn : n ≠ m.body.length)
    (hlen : n + z.length ≤ (m.body ++ post).length)
    (hoffset : f.offset = f.messageBuffer.length + z.length - (m.body ++ post).length + n)
    (hne : f.messageBuffer ≠ []) :
    ∃ x, f.getCompleteMessage = some x ∧ x ≠ m.text := by
  refine ⟨f.messageBuffer.take f.offset.toNat, ?_, ?_⟩
  · rw [getCompleteMessage, if_neg (by simpa [isEmpty] using hne)]
  · intro hx
    have hxlen := congrArg List.length hx
    have hlength := congrArg List.length heq
    have := length_text m
    simp only [List.length_append, List.length_take] at hlength hlen hoffset hxlen
    omega

end Complete

section Loop

variable {packets ps qs : List Chars} {p z : Chars} {all : List (Nat × SipText)} {last : Nat}
  {done items : List (Nat × SipText)}

/-- The packet that brings the first byte of a message shows as much of it as has
been received then. -/
theorem cut_eq (hpackets : packets = ps ++ p :: qs) (hz : z = qs.flatten)
    (hstream : packets.flatten = stream all last) {k : Nat} {m : SipText}
    (hall : all = done ++ (k, m) :: items) {y : Chars} (hy : y ≠ [])
    (heq : y ++ z = m.text ++ stream items last)
    (hle : (m.text ++ stream items last).length ≤ (p ++ z).length) :
    cut packets done k = y.length := by
  have htotal := congrArg List.length hstream
  have hylen := congrArg List.length heq
  have hypos := List.length_pos_iff.mpr hy
  rw [hpackets, hall, stream_append] at htotal
  simp only [List.flatten_append, List.flatten_cons, List.length_append, stream,
    length_keepAlives, ← hz] at htotal hylen hle
  rw [cut, hpackets, firstEnd_eq (by omega) (by omega)]
  omega

/-- Between messages, or at the beginning of one, the framer is ready for what
comes. -/
theorem ready_of_fresh (hpackets : packets = ps ++ p :: qs) (hz : z = qs.flatten)
    (hstream : packets.flatten = stream all last) (hall : all = done ++ items) {buffer : Chars}
    {f : SipMessageFraming} {k : Nat} (hfresh : Fresh buffer f)
    (heq : buffer ++ z = keepAlives k ++ fromMessage items last)
    (hor : buffer = [] ∨ buffer = ['\r'] ∨ (k = 0 ∧ buffer ≠ []))
    (hle : (fromMessage items last).length ≤ (p ++ z).length) :
    Ready packets last done z (p ++ z) items f := by
  rcases hor with hnil | hcr | ⟨rfl, hne⟩
  · exact .between hfresh (.inl hnil) heq
  · exact .between hfresh (.inr hcr) heq
  · rcases items with _ | ⟨⟨k, m⟩, items⟩
    · have hnil : buffer ++ z = [] := heq
      exact absurd (List.append_eq_nil_iff.mp hnil).1 hne
    · have heq' : buffer ++ z = m.text ++ stream items last := heq
      have hcut := cut_eq hpackets hz hstream hall hne heq' hle
      obtain ⟨state, contentLength, rfl, hstate⟩ := hfresh
      have hstate' : state = .created ∨ state = .clen := by
        rcases hstate with ⟨-, hnil⟩ | hstate
        · exact absurd hnil hne
        · exact hstate
      have hchecked := checkCompleteMessage_fresh contentLength hstate' hne heq'
      rw [← hcut] at hchecked
      refine .message hchecked hne heq' fun _ => ?_
      simp only [fromMessage, List.length_append] at hle ⊢
      omega

theorem AllGood.append {new more : List (Nat × SipText)} (hnew : AllGood packets done new)
    (hmore : AllGood packets (done ++ new) more) : AllGood packets done (new ++ more) := by
  rintro d k m d' heq
  rcases List.append_eq_append_iff.mp heq with ⟨a, hd, hrest⟩ | ⟨c, hd, hrest⟩
  · rw [hd, ← List.append_assoc]
    exact hmore a k m d' hrest
  · rcases c with _ | ⟨item, c⟩
    · rw [List.append_nil] at hd
      rw [← hd]
      have h := hmore [] k m d' hrest.symm
      rwa [List.append_nil] at h
    · obtain ⟨rfl, -⟩ := List.cons.inj hrest
      exact hnew d k m c hd

theorem AllGood.singleton {k : Nat} {m : SipText} (hgood : Good packets done k m) :
    AllGood packets done [(k, m)] := by
  rintro d k' m' d' heq
  rcases d with _ | ⟨item, d⟩
  · obtain ⟨hitem, -⟩ := List.cons.inj heq
    obtain ⟨rfl, rfl⟩ := Prod.mk.inj hitem
    rwa [List.append_nil]
  · exact absurd (List.cons.inj heq).2 (by simp)

theorem Delivers.append {new rest : List (Nat × SipText)}
    {result : Option (List Chars × SipMessageFraming)} (hgood : AllGood packets done new)
    (h : Delivers packets last (done ++ new) rest z result) :
    Delivers packets last done (new ++ rest) z
      (result.map fun (messages, f) => (texts new ++ messages, f)) := by
  rcases h with @⟨more, rest', f, hrest, hmore, hat⟩ | @⟨more, rest', k, m, _, hrest, hbad, hresult⟩
  · have h : Delivers packets last done (new ++ (more ++ rest')) z
        (some (texts (new ++ more), f)) := by
      refine .well (List.append_assoc new more rest').symm (hgood.append hmore) ?_
      rwa [List.append_assoc] at hat
    rw [hrest]
    simpa [texts] using h
  · have hitems : new ++ rest = new ++ more ++ (k, m) :: rest' := by
      rw [hrest, List.append_assoc]
    refine .wrong hitems ?_ ?_
    · rwa [List.append_assoc] at hbad
    · rintro messages f hmap
      obtain ⟨⟨messages', f'⟩, hsome, heq⟩ := Option.map_eq_some_iff.mp hmap
      obtain ⟨x, more', rfl, hx⟩ := hresult messages' f' hsome
      obtain ⟨rfl, -⟩ := Prod.mk.inj heq
      exact ⟨x, more', by simp [texts], hx⟩

theorem length_of_waiting {m : SipText} {n : Int}
    (hwait : (m.body ++ stream items last).length < z.length ∨
      ((m.body ++ stream items last).length : Int) < n + z.length) (hn : n = m.body.length) :
    (stream items last).length < z.length := by
  simp only [List.length_append] at hwait
  omega

theorem ready_of_updateState (hpackets : packets = ps ++ p :: qs) (hz : z = qs.flatten)
    (hstream : packets.flatten = stream all last) (hall : all = done ++ items)
    {f : SipMessageFraming} {rest : Chars} (hrest : rest ++ z = stream items last)
    (hfresh : Fresh (dropWhiteSpace rest) f)
    (hle : (stream items last).length ≤ (p ++ z).length) :
    Ready packets last done z (p ++ z) items f := by
  obtain ⟨k, hk⟩ := exists_keepAlives items last
  have hlen := congrArg List.length hk
  rw [List.length_append] at hlen
  rw [hk] at hrest
  obtain ⟨k', heq, hor⟩ := drop_keepAlives (g := dropWhiteSpace) rfl rfl dropWhiteSpace_crlf
    (fun c s hc => dropWhiteSpace_text hc s) (head_fromMessage items last) k rest hrest
  exact ready_of_fresh hpackets hz hstream hall hfresh heq hor (by omega)

theorem extract_delivers (hpackets : packets = ps ++ p :: qs) (hz : z = qs.flatten)
    (hstream : packets.flatten = stream all last) (fuel : Nat) :
    ∀ (done items : List (Nat × SipText)) (f : SipMessageFraming), all = done ++ items →
      f.messageBuffer.length < fuel → Ready packets last done z (p ++ z) items f →
      Delivers packets last done items z (extract fuel f) := by
  induction fuel with
  | zero =>
      intro done items f _ hfuel
      exact absurd hfuel (Nat.not_lt_zero _)
  | succ fuel ih =>
      intro done items f hall hfuel hready
      rcases hready with @⟨items, k, buffer, f, hfresh, hgap, heq⟩ |
        @⟨k, m, items, f, hchecked, hne, heq, hle⟩
      · obtain ⟨f', hcheck, hfresh'⟩ := hfresh.checkCompleteMessage_gap hgap
        rw [extract, hcheck]
        refine .well (List.nil_append _).symm (allGood_nil packets done) ?_
        rw [List.append_nil]
        exact .between hfresh' hgap heq
      · rcases hresult : f.checkCompleteMessage with ⟨f', complete⟩
        rw [hresult] at hchecked
        rw [extract, hresult]
        rcases hchecked with @⟨_, hstage, hbuffer, hwait⟩ | @⟨_, hbuffer, hzlen, hlen, hoffset⟩
        · refine .well (List.nil_append _).symm (allGood_nil packets done) ?_
          rw [List.append_nil]
          rw [← hbuffer] at hne heq
          exact .within hstage hne heq fun hgood => length_of_waiting hwait hgood
        · rw [← hbuffer] at hne heq hoffset hfuel
          by_cases hgood : Good packets done k m
          · rw [hgood] at hlen hoffset
            obtain ⟨hget, rest, hrest, hfresh⟩ := complete_good heq hlen hoffset hne
            have hall' : all = (done ++ [(k, m)]) ++ items := by rw [hall, List.append_assoc]; rfl
            have hready := ready_of_updateState hpackets hz hstream hall' hrest hfresh (hle hgood)
            have hshort : f'.updateState.messageBuffer.length < fuel := by
              obtain ⟨_, _, hupdate, -⟩ := hfresh
              have := length_dropWhiteSpace_le rest
              have hlength := congrArg List.length heq
              have hrestLength := congrArg List.length hrest
              have := length_text m
              rw [hupdate]
              simp only [List.length_append] at *
              omega
            have h := (ih _ _ _ hall' hshort hready).append (AllGood.singleton hgood)
            simp only [hget]
            exact h
          · obtain ⟨x, hget, hx⟩ := complete_wrong heq hgood hlen hoffset hne
            simp only [hget]
            refine .wrong (List.nil_append _).symm (by rwa [List.append_nil]) ?_
            rintro messages g hmap
            obtain ⟨⟨messages', g'⟩, -, hpair⟩ := Option.map_eq_some_iff.mp hmap
            obtain ⟨rfl, -⟩ := Prod.mk.inj hpair
            exact ⟨x, messages', rfl, hx⟩

end Loop

section Packet

variable {packets ps qs : List Chars} {p z : Chars} {all : List (Nat × SipText)} {last : Nat}
  {done items : List (Nat × SipText)} {f : SipMessageFraming}

theorem Stage.appendPacket {n : Int} {b : Chars} (h : Stage (p ++ z) n b f) :
    Stage z n b (f.appendPacket p) ∧ (f.appendPacket p).messageBuffer = f.messageBuffer ++ p ∧
      (f.appendPacket p).offset ≠ 0 := by
  by_cases hp : p = []
  · subst hp
    simp only [SipMessageFraming.appendPacket, ↓reduceIte, List.append_nil, true_and]
    refine ⟨h, ?_⟩
    cases h <;> simp only [ne_eq] <;> omega
  · cases h with
    | @fields contentLength o buffer hpos ho hread =>
        rw [← List.append_assoc, ← List.drop_append_of_le_length ho] at hread
        have hstage : Stage z n b ⟨.clen, contentLength, o, false, buffer ++ p⟩ :=
          .fields hpos (by rw [List.length_append]; omega) hread
        have hoffset : ¬o = 0 := Nat.ne_of_gt hpos
        simpa [SipMessageFraming.appendPacket, hp] using ⟨hstage, hoffset⟩
    | @emptyLine o buffer hpos ho hend =>
        rw [← List.append_assoc, ← List.drop_append_of_le_length (by omega)] at hend
        have hstage : Stage z n b ⟨.body, n, o, false, buffer ++ p⟩ :=
          .emptyLine hpos (by rw [List.length_append]; omega) hend
        have hoffset : ¬o = 0 := Nat.ne_of_gt hpos
        simpa [SipMessageFraming.appendPacket, hp] using ⟨hstage, hoffset⟩
    | @body o buffer hpos ho hb =>
        rw [← List.append_assoc, ← List.drop_append_of_le_length ho] at hb
        have hstage : Stage z n b ⟨.body, n, o, true, buffer ++ p⟩ :=
          .body hpos (by rw [List.length_append]; omega) hb
        have hoffset : ¬o = 0 := Nat.ne_of_gt hpos
        simpa [SipMessageFraming.appendPacket, hp] using ⟨hstage, hoffset⟩

theorem isEmpty_eq_false {f : SipMessageFraming} (h : f.messageBuffer ≠ []) : f.isEmpty = false := by
  simpa [isEmpty] using h

theorem onDataReceived_delivers (hpackets : packets = ps ++ p :: qs) (hz : z = qs.flatten)
    (hstream : packets.flatten = stream all last) (hall : all = done ++ items)
    (h : At packets last done (p ++ z) items f) :
    Delivers packets last done items z (onDataReceived [p] .shortRead f) := by
  have hreceived : onDataReceived [p] .shortRead f =
      if (f.appendPacket p).ignoreCrlf.1.isEmpty then some ([], (f.appendPacket p).ignoreCrlf.1)
      else extract ((f.appendPacket p).ignoreCrlf.1.messageBuffer.length + 1)
        (f.appendPacket p).ignoreCrlf.1 := by
    simp only [onDataReceived, reduceCtorEq, false_and, or_self, ↓reduceIte, List.foldl_cons,
      List.foldl_nil]
    rfl
  rw [hreceived]
  rcases h with @⟨items, k, buffer, f, hfresh, hgap, heq⟩ | @⟨k, m, items, f, hstage, hne, heq, hle⟩
  · have hfresh' := (hfresh.appendPacket p).ignoreCrlf
    have hhead := head_fromMessage items last
    have hlength : (fromMessage items last).length ≤ (p ++ z).length := by
      have hlen := congrArg List.length heq
      simp only [List.length_append, length_keepAlives] at hlen ⊢
      rcases hgap with rfl | rfl
      · rw [List.length_nil] at hlen
        omega
      · rcases k with _ | k
        · exfalso
          have hcr := hhead '\r' (by
            rw [keepAlives, List.replicate_zero, List.flatten_nil, List.nil_append] at heq
            rw [← heq]
            rfl)
          exact absurd hcr (by decide)
        · rw [List.length_singleton] at hlen
          omega
    rw [← List.append_assoc] at heq
    obtain ⟨k', heq', hor⟩ := drop_keepAlives (g := dropCrlf) rfl rfl (fun _ => rfl)
      (fun c s hc => dropCrlf_text hc s) hhead k (buffer ++ p) heq
    have hready := ready_of_fresh hpackets hz hstream hall hfresh' heq' hor hlength
    by_cases hnil : dropCrlf (buffer ++ p) = []
    · obtain ⟨state, contentLength, hf, hstate⟩ := hfresh'
      rw [if_pos (by rw [hf]; simpa [isEmpty] using hnil)]
      refine .well (List.nil_append _).symm (allGood_nil packets done) ?_
      rw [List.append_nil]
      exact .between ⟨state, contentLength, hf, hstate⟩ (.inl hnil) heq'
    · have hempty : ((f.appendPacket p).ignoreCrlf.1).isEmpty = false := by
        obtain ⟨state, contentLength, hf, -⟩ := hfresh'
        rw [hf]
        exact isEmpty_eq_false hnil
      rw [hempty, if_neg Bool.false_ne_true]
      exact extract_delivers hpackets hz hstream _ done items _ hall (Nat.lt_succ_self _) hready
  · obtain ⟨hstage', hbuffer, hoffset⟩ := Stage.appendPacket hstage
    have hignore : (f.appendPacket p).ignoreCrlf.1 = f.appendPacket p := by
      rw [ignoreCrlf, if_pos hoffset]
    have hne' : (f.appendPacket p).messageBuffer ≠ [] := by
      rw [hbuffer]
      exact List.append_ne_nil_of_left_ne_nil hne p
    rw [hignore, isEmpty_eq_false hne', if_neg Bool.false_ne_true]
    refine extract_delivers hpackets hz hstream _ done _ _ hall (Nat.lt_succ_self _) ?_
    refine .message (checkCompleteMessage_stage hstage' hne') hne' ?_ fun hgood => Nat.le_of_lt (hle hgood)
    rw [hbuffer, List.append_assoc]
    exact heq

theorem feed_delivers (hstream : packets.flatten = stream all last) (qs : List Chars) :
    ∀ (ps : List Chars) (done items : List (Nat × SipText)) (f : SipMessageFraming),
      packets = ps ++ qs → all = done ++ items → At packets last done qs.flatten items f →
      Delivers packets last done items [] (feed (qs.map fun p => ([p], .shortRead)) f) := by
  induction qs with
  | nil =>
      intro ps done items f _ _ hat
      refine .well (List.nil_append _).symm (allGood_nil packets done) ?_
      rwa [List.append_nil]
  | cons p qs ih =>
      intro ps done items f hpackets hall hat
      have hpacket := onDataReceived_delivers hpackets rfl hstream hall hat
      rw [List.map_cons, feed]
      rcases hresult : onDataReceived [p] .shortRead f with _ | ⟨messages, f'⟩
      · rw [hresult] at hpacket
        rcases hpacket with _ | @⟨new, rest, k, m, _, hitems, hbad, -⟩
        exact .wrong hitems hbad nofun
      · rw [hresult] at hpacket
        rcases hpacket with @⟨new, rest, _, hitems, hgood, hat'⟩ |
          @⟨new, rest, k, m, _, hitems, hbad, hwrong⟩
        · have hnext := ih (ps ++ [p]) (done ++ new) rest f' (by rw [hpackets, List.append_assoc]; rfl)
            (by rw [hall, hitems, List.append_assoc]) hat'
          rw [hitems]
          exact hnext.append hgood
        · obtain ⟨x, more, rfl, hx⟩ := hwrong messages f' rfl
          refine .wrong hitems hbad fun messages' g hsome => ?_
          obtain ⟨⟨more', g'⟩, -, hpair⟩ := Option.map_eq_some_iff.mp hsome
          obtain ⟨rfl, -⟩ := Prod.mk.inj hpair
          exact ⟨x, more ++ more', by simp, hx⟩

end Packet

section Stream

variable {packets : List Chars} {items : List (Nat × SipText)} {last : Nat}

/-- At the end of the stream the framer is between messages, unless it is stuck in
one it went wrong with. -/
theorem At.end_of_stream {done : List (Nat × SipText)} {f : SipMessageFraming}
    (h : At packets last done [] items f) :
    items = [] ∨ ∃ k m rest, items = (k, m) :: rest ∧ ¬Good packets done k m := by
  rcases h with @⟨items, k, buffer, f, hfresh, hgap, heq⟩ | @⟨k, m, items, f, hstage, hne, heq, hle⟩
  · rcases items with _ | ⟨⟨k', m⟩, items⟩
    · exact .inl rfl
    · exfalso
      have hlen := congrArg List.length heq
      have := length_text m
      have htext : 4 ≤ m.text.length := by
        have h := (m.headersEnd_text []).length_le
        simp only [List.append_nil] at h
        omega
      simp only [fromMessage, List.append_nil, List.length_append] at hlen
      rcases hgap with rfl | rfl <;> simp only [List.length_nil, List.length_singleton] at hlen <;>
        omega
  · exact .inr ⟨k, m, items, rfl, fun hgood => absurd (hle hgood) (Nat.not_lt_zero _)⟩

/-- The messages of the stream are delivered if and only if the framer goes by the
length of the body for each of them. -/
theorem feed_eq_iff (hstream : packets.flatten = stream items last) :
    (feed (packets.map fun p => ([p], .shortRead)) {}).map Prod.fst = some (texts items) ↔
      AllGood packets [] items := by
  have hat : At packets last [] packets.flatten items {} := by
    obtain ⟨k, hk⟩ := exists_keepAlives items last
    have hfresh : Fresh [] {} := ⟨.idle, 0, rfl, .inl ⟨rfl, rfl⟩⟩
    exact .between hfresh (.inl rfl) (hstream.trans hk)
  have hdelivers := feed_delivers hstream packets [] [] items {} rfl rfl hat
  generalize feed (packets.map fun p => ([p], ReadEnd.shortRead)) {} = run at hdelivers ⊢
  rcases hdelivers with @⟨new, rest, f, hitems, hgood, hat⟩ | @⟨new, rest, k, m, _, hitems, hbad, hwrong⟩
  · rcases hat.end_of_stream with rfl | ⟨k, m, more, rfl, hbad⟩
    · rw [List.append_nil] at hitems
      rw [hitems]
      exact ⟨fun _ => hgood, fun _ => rfl⟩
    · constructor
      · intro hsome
        have hlen := congrArg List.length (Option.some.inj hsome)
        rw [hitems] at hlen
        simp [texts] at hlen
      · intro h
        exact absurd (h new k m more hitems) hbad
  · constructor
    · intro hsome
      obtain ⟨⟨messages, f⟩, hresult, heq⟩ := Option.map_eq_some_iff.mp hsome
      obtain ⟨x, more, hmessages, hx⟩ := hwrong messages f hresult
      have heq' : texts new ++ x :: more = texts new ++ m.text :: texts rest := by
        rw [← hmessages]
        refine heq.trans ?_
        rw [hitems]
        simp [texts]
      exact absurd (List.cons.inj (List.append_cancel_left heq')).1 hx
    · intro h
      exact absurd (h new k m rest hitems) hbad

end Stream

end ImsStack.Framing.Delivery
