import ImsStack.Platform.Numerals
import ImsStack.SipMsg.SipPercentEncoding

/-!
What an escaped string decodes to, and when it ends inside of its buffer.
-/

namespace ImsStack.SipMsg

open Library.BoundedInt Platform.AString SipAbnfUtil

namespace SipPercentEncoding

def octet (h l : Char) : Char :=
  Char.ofNat (16 * (hexDigit? h).getD 0 + (hexDigit? l).getD 0)

/-- The characters that a text stands for when its escaped octets are read. -/
def unescape : Chars → Chars
  | [] => []
  | c :: h :: l :: rest =>
    if isEscaped c h l then octet h l :: unescape rest
    else c :: unescape (h :: l :: rest)
  | c :: rest => c :: unescape rest

/-- Every `%` of a text begins an escaped octet. -/
def WellEscaped (s : Chars) : Prop :=
  ∀ front rest, s = front ++ '%' :: rest →
    ∃ h l rest', rest = h :: l :: rest' ∧ isHexDig h ∧ isHexDig l

theorem WellEscaped.of_cons {c : Char} {s : Chars} (hs : WellEscaped (c :: s)) : WellEscaped s :=
  fun front rest h => hs (c :: front) rest (by rw [h, List.cons_append])

/-- What a rule writes for a character that it does not keep as part of an escaped octet. -/
def Rule.print (rule : Rule) (c : Char) : Chars :=
  if rule.copied c then [c] else '%' :: print02X c

/-- What a rule writes for a text. -/
def Rule.printed (rule : Rule) : Chars → Chars
  | [] => []
  | c :: h :: l :: rest =>
    if !rule.copied c && (rule.keepsEscaped && isEscaped c h l) then
      c :: h :: l :: rule.printed rest
    else rule.print c ++ rule.printed (h :: l :: rest)
  | c :: rest => rule.print c ++ rule.printed rest

/-- What a text means under a rule: a rule that leaves escaped octets as they are has their
characters written. -/
def Rule.meaning (rule : Rule) (s : Chars) : Chars :=
  if rule.keepsEscaped || rule.copied '%' then cString (unescape s) else s

section Digits

theorem hexDigit?_upperHex {n : Nat} (h : n < 16) : hexDigit? (upperHex n) = some n := by
  have hall : ∀ n : Fin 16, hexDigit? (upperHex n) = some n.val := by decide
  exact hall ⟨n, h⟩

theorem upperHex_plain {n : Nat} (h : n < 16) :
    isSpace (upperHex n) = false ∧ upperHex n ≠ '+' ∧ upperHex n ≠ '-' := by
  have hall : ∀ n : Fin 16, isSpace (upperHex n) = false ∧ upperHex n ≠ '+' ∧ upperHex n ≠ '-' := by
    decide
  exact hall ⟨n, h⟩

theorem hexDigit?_of_isHexDig {c : Char} (hc : isHexDig c) : (hexDigit? c).isSome := by
  unfold isHexDig isDigit at hc
  unfold hexDigit?
  split
  · rfl
  · split
    · rfl
    · next hdigit hlower =>
      have hupper : 'A' ≤ c ∧ c ≤ 'F' := by simpa [hdigit, hlower] using hc
      rw [if_pos hupper]
      rfl

theorem plain_of_isHexDig {c : Char} (hc : isHexDig c) :
    isSpace c = false ∧ c ≠ '+' ∧ c ≠ '-' := by
  have hnot : ∀ d, isHexDig d = false → c ≠ d := by
    rintro d hd rfl
    exact Bool.noConfusion (hd.symm.trans hc)
  refine ⟨?_, hnot '+' (by decide), hnot '-' (by decide)⟩
  unfold isSpace
  simp [hnot '\n' (by decide), hnot '\t' (by decide), hnot '\x0b' (by decide),
    hnot ' ' (by decide), hnot '\r' (by decide), hnot '\x0c' (by decide)]

end Digits

theorem scan2X_cons_cons {h l : Char} {high low : Nat} (rest : Chars)
    (hplain : isSpace h = false ∧ h ≠ '+' ∧ h ≠ '-') (hhigh : hexDigit? h = some high)
    (hlow : hexDigit? l = some low) : scan2X (h :: l :: rest) = 16 * high + low := by
  obtain ⟨hspace, hplus, hminus⟩ := hplain
  unfold scan2X
  rw [List.dropWhile_cons_of_neg (by simp [hspace])]
  split
  · next heq => exact absurd (List.cons.inj heq).1 hplus
  · next heq => exact absurd (List.cons.inj heq).1 hminus
  · next heq =>
    cases heq
    rw [hhigh, hlow]
    rfl
  · next heq => exact absurd (List.cons.inj heq).2 (List.cons_ne_nil _ _)
  · next heq => exact absurd heq (List.cons_ne_nil _ _)

theorem scan2X_print02X {c : Char} (hc : c.toNat < 256) (rest : Chars) :
    Char.ofNat (scan2X (print02X c ++ rest)) = c := by
  have hhigh : c.toNat / 16 < 16 := by omega
  have hlow : c.toNat % 16 < 16 := by omega
  have hscan := scan2X_cons_cons rest (upperHex_plain hhigh) (hexDigit?_upperHex hhigh)
    (hexDigit?_upperHex hlow)
  have hvalue : 16 * (c.toNat / 16) + c.toNat % 16 = c.toNat := by omega
  change Char.ofNat (scan2X (upperHex (c.toNat / 16) :: upperHex (c.toNat % 16) :: rest)) = c
  rw [hscan, hvalue, Char.ofNat_toNat]

theorem decodeLoop_cons {c : Char} (hc : c ≠ '%') (rest : Chars) :
    decodeLoop (c :: rest) = c :: decodeLoop rest := by
  rw [decodeLoop]
  intro a b rest' h
  exact absurd h hc

theorem decodeLoop_escaped {c h l : Char} (hescaped : isEscaped c h l) (rest : Chars) :
    decodeLoop (c :: h :: l :: rest) = octet h l :: decodeLoop rest := by
  unfold isEscaped at hescaped
  obtain ⟨⟨hc, hh⟩, hl⟩ := by simpa using hescaped
  obtain ⟨high, hhigh⟩ := Option.isSome_iff_exists.mp (hexDigit?_of_isHexDig hh)
  obtain ⟨low, hlow⟩ := Option.isSome_iff_exists.mp (hexDigit?_of_isHexDig hl)
  have hscan := scan2X_cons_cons rest (plain_of_isHexDig hh) hhigh hlow
  rw [hc, decodeLoop, hscan, octet, hhigh, hlow]
  rfl

/-- What is written for one character decodes to it, unless it is a `%` that is copied. -/
theorem decodeLoop_print {rule : Rule} {c : Char} (hc : c.toNat < 256)
    (hcopied : rule.copied c → c ≠ '%') (rest : Chars) :
    decodeLoop (rule.print c ++ rest) = c :: decodeLoop rest := by
  unfold Rule.print
  split
  · next h => exact decodeLoop_cons (hcopied h) rest
  · change Char.ofNat (scan2X (print02X c ++ rest)) :: decodeLoop rest = _
    rw [scan2X_print02X hc]

theorem isEscaped_iff {c h l : Char} :
    isEscaped c h l = true ↔ c = '%' ∧ isHexDig h ∧ isHexDig l := by
  unfold isEscaped
  simp [and_assoc]

section Rules

variable {rule : Rule}

theorem printed_cons (hkeeps : rule.keepsEscaped = false) (c : Char) (rest : Chars) :
    rule.printed (c :: rest) = rule.print c ++ rule.printed rest := by
  rcases rest with _ | ⟨h, _ | ⟨l, rest⟩⟩
  · rfl
  · rfl
  · rw [Rule.printed, if_neg (by simp [hkeeps])]

theorem decodeLoop_printed_of_not_kept {s : Chars} (hs : ∀ c ∈ s, c.toNat < 256)
    (hkeeps : rule.keepsEscaped = false) (hpercent : rule.copied '%' = false) :
    decodeLoop (rule.printed s) = s := by
  induction s with
  | nil => rfl
  | cons c rest ih =>
    obtain ⟨hc, hs⟩ := List.forall_mem_cons.mp hs
    have hcopied : rule.copied c → c ≠ '%' := by
      rintro hc rfl
      exact Bool.noConfusion (hpercent.symm.trans hc)
    rw [printed_cons hkeeps, decodeLoop_print hc hcopied, ih hs]

theorem decodeLoop_printed_of_keeps {s : Chars} (hs : ∀ c ∈ s, c.toNat < 256)
    (hkeeps : rule.keepsEscaped = true) (hpercent : rule.copied '%' = false) :
    decodeLoop (rule.printed s) = unescape s := by
  have hcopied : ∀ c, rule.copied c → c ≠ '%' := by
    rintro c hc rfl
    exact Bool.noConfusion (hpercent.symm.trans hc)
  induction s using Rule.printed.induct rule with
  | case1 => rfl
  | case2 c h l rest hkept ih =>
    obtain ⟨hc, hs⟩ := List.forall_mem_cons.mp hs
    obtain ⟨hh, hs⟩ := List.forall_mem_cons.mp hs
    obtain ⟨hl, hs⟩ := List.forall_mem_cons.mp hs
    have hescaped : isEscaped c h l = true := by
      simp only [Bool.and_eq_true] at hkept
      exact hkept.2.2
    rw [Rule.printed, if_pos hkept, unescape, if_pos hescaped, decodeLoop_escaped hescaped, ih hs]
  | case3 c h l rest hkept ih =>
    obtain ⟨hc, hs⟩ := List.forall_mem_cons.mp hs
    have hescaped : ¬ isEscaped c h l = true := by
      intro hescaped
      apply hkept
      rw [hkeeps, hescaped, (isEscaped_iff.mp hescaped).1, hpercent]
      rfl
    rw [Rule.printed, if_neg hkept, unescape, if_neg hescaped, decodeLoop_print hc (hcopied c), ih hs]
  | case4 c rest hshort ih =>
    obtain ⟨hc, hs⟩ := List.forall_mem_cons.mp hs
    rw [Rule.printed.eq_3 _ _ _ hshort, unescape.eq_3 _ _ hshort, decodeLoop_print hc (hcopied c),
      ih hs]

theorem decodeLoop_printed_of_wellEscaped {s : Chars} (hs : ∀ c ∈ s, c.toNat < 256)
    (hkeeps : rule.keepsEscaped = false) (hpercent : rule.copied '%' = true)
    (hhex : ∀ c, isHexDig c → rule.copied c) (hescaped : WellEscaped s) :
    decodeLoop (rule.printed s) = unescape s := by
  induction s using unescape.induct with
  | case1 => rfl
  | case2 c h l rest hoctet ih =>
    obtain ⟨hpercent', hh, hl⟩ := isEscaped_iff.mp hoctet
    obtain ⟨hc, hs⟩ := List.forall_mem_cons.mp hs
    obtain ⟨hh', hs⟩ := List.forall_mem_cons.mp hs
    obtain ⟨hl', hs⟩ := List.forall_mem_cons.mp hs
    have hprinted : rule.printed (c :: h :: l :: rest) = c :: h :: l :: rule.printed rest := by
      rw [printed_cons hkeeps, printed_cons hkeeps, printed_cons hkeeps, Rule.print, Rule.print,
        Rule.print, if_pos (hhex h hh), if_pos (hhex l hl), if_pos (hpercent' ▸ hpercent)]
      rfl
    rw [hprinted, decodeLoop_escaped hoctet, unescape, if_pos hoctet,
      ih hs hescaped.of_cons.of_cons.of_cons]
  | case3 c h l rest hoctet ih =>
    obtain ⟨hc, hs⟩ := List.forall_mem_cons.mp hs
    have hne : c ≠ '%' := by
      rintro rfl
      obtain ⟨h', l', rest', heq, hh, hl⟩ := hescaped [] _ rfl
      cases heq
      exact hoctet (isEscaped_iff.mpr ⟨rfl, hh, hl⟩)
    rw [printed_cons hkeeps, decodeLoop_print hc fun _ => hne, unescape, if_neg hoctet,
      ih hs hescaped.of_cons]
  | case4 c rest hshort ih =>
    obtain ⟨hc, hs⟩ := List.forall_mem_cons.mp hs
    have hne : c ≠ '%' := by
      rintro rfl
      obtain ⟨h', l', rest', heq, -⟩ := hescaped [] _ rfl
      exact hshort h' l' rest' heq
    rw [printed_cons hkeeps, decodeLoop_print hc fun _ => hne, unescape.eq_3 _ _ hshort,
      ih hs hescaped.of_cons]

/-! ### The buffer -/

theorem store?_of_le (b : Buffer) (text : Chars)
    (h : b.written.length + text.length ≤ b.capacity) :
    ∃ b', b.store? text = some b' ∧ b'.written = b.written ++ text ∧ b'.capacity = b.capacity := by
  have hlength : (b.written ++ text).length ≤ b.capacity := by simpa using h
  exact ⟨_, dif_pos hlength, rfl, rfl⟩

theorem put_of_lt (rule : Rule) {b : Buffer} {c : Char}
    (h : b.written.length + (rule.print c).length < b.capacity) :
    ∃ b', rule.put c b = some b' ∧ b'.written = b.written ++ rule.print c ∧
      b'.capacity = b.capacity := by
  unfold Rule.print at h ⊢
  unfold Rule.put
  split
  · next hcopied =>
    rw [if_pos hcopied] at h
    exact store?_of_le b [c] (Nat.le_of_lt h)
  · next hcopied =>
    rw [if_neg hcopied] at h
    have hlength : ('%' :: print02X c).length = 3 := rfl
    rw [hlength] at h
    obtain ⟨b₁, hstore, hwritten, hcapacity⟩ :=
      store?_of_le b ['%'] (by rw [List.length_singleton]; omega)
    have hroom : (b₁.written ++ print02X c).length < b₁.capacity := by
      rw [hwritten, hcapacity, List.length_append, List.length_append, List.length_singleton]
      exact h
    obtain ⟨b₂, hprint, hwritten₂, hcapacity₂⟩ :=
      store?_of_le b₁ (print02X c) (by simpa using Nat.le_of_lt hroom)
    refine ⟨b₂, ?_, ?_, hcapacity₂.trans hcapacity⟩
    · rw [hstore, Option.bind_some, Buffer.sprintf?, if_pos hroom, hprint]
    · rw [hwritten₂, hwritten, List.append_assoc]
      rfl

theorem encodeLoop_of_lt (rule : Rule) {s : Chars} {b : Buffer}
    (h : b.written.length + (rule.printed s).length < b.capacity) :
    ∃ b', rule.encodeLoop s b = some b' ∧ b'.written = b.written ++ rule.printed s ∧
      b'.capacity = b.capacity := by
  induction s using Rule.printed.induct rule generalizing b with
  | case1 => exact ⟨b, rfl, (List.append_nil _).symm, rfl⟩
  | case2 c h' l rest hkept ih =>
    rw [Rule.printed, if_pos hkept] at h ⊢
    obtain ⟨b₁, hstore, hwritten, hcapacity⟩ :=
      store?_of_le b [c, h', l] (by simp at h ⊢; omega)
    obtain ⟨b₂, hloop, hwritten₂, hcapacity₂⟩ :=
      ih (b := b₁) (by rw [hwritten, hcapacity]; simp at h ⊢; omega)
    refine ⟨b₂, ?_, ?_, hcapacity₂.trans hcapacity⟩
    · rw [Rule.encodeLoop, if_pos hkept, hstore, Option.bind_some, hloop]
    · rw [hwritten₂, hwritten, List.append_assoc]
      rfl
  | case3 c h' l rest hkept ih =>
    rw [Rule.printed, if_neg hkept] at h ⊢
    rw [List.length_append] at h
    obtain ⟨b₁, hput, hwritten, hcapacity⟩ := put_of_lt rule (b := b) (c := c) (by omega)
    obtain ⟨b₂, hloop, hwritten₂, hcapacity₂⟩ :=
      ih (b := b₁) (by rw [hwritten, hcapacity, List.length_append]; omega)
    refine ⟨b₂, ?_, ?_, hcapacity₂.trans hcapacity⟩
    · rw [Rule.encodeLoop, if_neg hkept, hput, Option.bind_some, hloop]
    · rw [hwritten₂, hwritten, List.append_assoc]
  | case4 c rest hshort ih =>
    rw [Rule.printed.eq_3 _ _ _ hshort] at h ⊢
    rw [List.length_append] at h
    obtain ⟨b₁, hput, hwritten, hcapacity⟩ := put_of_lt rule (b := b) (c := c) (by omega)
    obtain ⟨b₂, hloop, hwritten₂, hcapacity₂⟩ :=
      ih (b := b₁) (by rw [hwritten, hcapacity, List.length_append]; omega)
    refine ⟨b₂, ?_, ?_, hcapacity₂.trans hcapacity⟩
    · rw [Rule.encodeLoop.eq_3 _ _ _ _ hshort, hput, Option.bind_some, hloop]
    · rw [hwritten₂, hwritten, List.append_assoc]

theorem written_of_store? {b b' : Buffer} {text : Chars} (h : b.store? text = some b') :
    b'.written = b.written ++ text ∧ b'.capacity = b.capacity := by
  unfold Buffer.store? at h
  split at h
  · cases h
    exact ⟨rfl, rfl⟩
  · cases h

theorem written_of_put {b b' : Buffer} {c : Char} (h : rule.put c b = some b') :
    b'.written = b.written ++ rule.print c ∧ b'.capacity = b.capacity := by
  unfold Rule.put at h
  unfold Rule.print
  split at h
  · next hcopied =>
    rw [if_pos hcopied]
    exact written_of_store? h
  · next hcopied =>
    obtain ⟨b₁, hpercent, hdigits⟩ := Option.bind_eq_some_iff.mp h
    unfold Buffer.sprintf? at hdigits
    split at hdigits
    · obtain ⟨hwritten, hcapacity⟩ := written_of_store? hpercent
      obtain ⟨hwritten₂, hcapacity₂⟩ := written_of_store? hdigits
      rw [if_neg hcopied, hwritten₂, hwritten, List.append_assoc]
      exact ⟨rfl, hcapacity₂.trans hcapacity⟩
    · cases hdigits

theorem written_of_encodeLoop {s : Chars} {b b' : Buffer} (h : rule.encodeLoop s b = some b') :
    b'.written = b.written ++ rule.printed s ∧ b'.capacity = b.capacity := by
  induction s using Rule.printed.induct rule generalizing b with
  | case1 =>
    cases h
    exact ⟨(List.append_nil _).symm, rfl⟩
  | case2 c h' l rest hkept ih =>
    rw [Rule.encodeLoop, if_pos hkept] at h
    obtain ⟨b₁, hstore, hloop⟩ := Option.bind_eq_some_iff.mp h
    obtain ⟨hwritten, hcapacity⟩ := written_of_store? hstore
    obtain ⟨hwritten₂, hcapacity₂⟩ := ih hloop
    rw [Rule.printed, if_pos hkept, hwritten₂, hwritten, List.append_assoc]
    exact ⟨rfl, hcapacity₂.trans hcapacity⟩
  | case3 c h' l rest hkept ih =>
    rw [Rule.encodeLoop, if_neg hkept] at h
    obtain ⟨b₁, hput, hloop⟩ := Option.bind_eq_some_iff.mp h
    obtain ⟨hwritten, hcapacity⟩ := written_of_put hput
    obtain ⟨hwritten₂, hcapacity₂⟩ := ih hloop
    rw [Rule.printed, if_neg hkept, hwritten₂, hwritten, List.append_assoc]
    exact ⟨rfl, hcapacity₂.trans hcapacity⟩
  | case4 c rest hshort ih =>
    rw [Rule.encodeLoop.eq_3 _ _ _ _ hshort] at h
    obtain ⟨b₁, hput, hloop⟩ := Option.bind_eq_some_iff.mp h
    obtain ⟨hwritten, hcapacity⟩ := written_of_put hput
    obtain ⟨hwritten₂, hcapacity₂⟩ := ih hloop
    rw [Rule.printed.eq_3 _ _ _ hshort, hwritten₂, hwritten, List.append_assoc]
    exact ⟨rfl, hcapacity₂.trans hcapacity⟩

theorem length_print_le (rule : Rule) (c : Char) : (rule.print c).length ≤ 3 := by
  unfold Rule.print
  split
  · exact Nat.le_of_ble_eq_true rfl
  · exact Nat.le_refl _

theorem length_print_of_copied {c : Char} (hc : rule.copied c) : (rule.print c).length = 1 := by
  rw [Rule.print, if_pos hc]
  rfl

theorem length_printed_le (rule : Rule) (s : Chars) :
    (rule.printed s).length ≤ 3 * s.length := by
  induction s using Rule.printed.induct rule with
  | case1 => exact Nat.le_refl _
  | case2 c h l rest hkept ih =>
    rw [Rule.printed, if_pos hkept]
    simp only [List.length_cons]
    omega
  | case3 c h l rest hkept ih =>
    have hprint := length_print_le rule c
    rw [Rule.printed, if_neg hkept, List.length_append, List.length_cons]
    omega
  | case4 c rest hshort ih =>
    have hprint := length_print_le rule c
    rw [Rule.printed.eq_3 _ _ _ hshort, List.length_append, List.length_cons]
    omega

theorem length_printed_lt {s : Chars} (hroom : ∃ c ∈ s, rule.copied c) :
    (rule.printed s).length < 3 * s.length := by
  induction s using Rule.printed.induct rule with
  | case1 =>
    obtain ⟨c, hc, -⟩ := hroom
    exact absurd hc List.not_mem_nil
  | case2 c h l rest hkept ih =>
    have hle := length_printed_le rule rest
    rw [Rule.printed, if_pos hkept]
    simp only [List.length_cons]
    omega
  | case3 c h l rest hkept ih =>
    rw [Rule.printed, if_neg hkept, List.length_append, List.length_cons]
    rcases List.exists_mem_cons_iff _ _ _ |>.mp hroom with hc | hroom
    · have hprint := length_print_of_copied hc
      have hle := length_printed_le rule (h :: l :: rest)
      omega
    · have hprint := length_print_le rule c
      have hlt := ih hroom
      omega
  | case4 c rest hshort ih =>
    rw [Rule.printed.eq_3 _ _ _ hshort, List.length_append, List.length_cons]
    rcases List.exists_mem_cons_iff _ _ _ |>.mp hroom with hc | hroom
    · have hprint := length_print_of_copied hc
      have hle := length_printed_le rule rest
      omega
    · have hprint := length_print_le rule c
      have hlt := ih hroom
      omega

/-- A text of characters that are all escaped fills three bytes for each of them. -/
theorem length_printed_of_not_copied {s : Chars} (hcopied : ∀ c ∈ s, ¬ rule.copied c)
    (hkeeps : rule.keepsEscaped → ∀ c, isHexDig c → rule.copied c) :
    (rule.printed s).length = 3 * s.length := by
  have hprint : ∀ c ∈ s, (rule.print c).length = 3 := by
    intro c hc
    rw [Rule.print, if_neg (hcopied c hc)]
    rfl
  induction s using Rule.printed.induct rule with
  | case1 => rfl
  | case2 c h l rest hkept ih =>
    simp only [Bool.and_eq_true] at hkept
    have hhex : isHexDig h := (isEscaped_iff.mp hkept.2.2).2.1
    exact absurd (hkeeps hkept.2.1 h hhex) (hcopied h (by simp))
  | case3 c h l rest hkept ih =>
    rw [Rule.printed, if_neg hkept, List.length_append, hprint c List.mem_cons_self,
      ih (fun d hd => hcopied d (List.mem_cons_of_mem _ hd))
        (fun d hd => hprint d (List.mem_cons_of_mem _ hd))]
    simp only [List.length_cons]
    omega
  | case4 c rest hshort ih =>
    rw [Rule.printed.eq_3 _ _ _ hshort, List.length_append, hprint c List.mem_cons_self,
      ih (fun d hd => hcopied d (List.mem_cons_of_mem _ hd))
        (fun d hd => hprint d (List.mem_cons_of_mem _ hd)), List.length_cons]
    omega

end Rules

theorem userAndHeaderRule_percent (pType : Chars) :
    (userAndHeaderRule pType).copied '%' = false := by
  have hunreserved : isUnreserved '%' = false := by decide
  have huser : isUserUnreserved '%' = false := by decide
  have hheader : isHnvUnreserved '%' = false := by decide
  simp [userAndHeaderRule, hunreserved, huser, hheader]

theorem Routine.rule_percent (r : Routine) : r.rule.copied '%' = false ∨ r.rule = tokenRule := by
  have hparam : ∀ pszName, (paramRule pszName).copied '%' = false ∨ paramRule pszName = tokenRule := by
    intro pszName
    unfold paramRule
    split_ifs
    · exact Or.inr rfl
    · exact Or.inl (by decide)
    · exact Or.inl (by decide)
    · exact Or.inl (userAndHeaderRule_percent _)
    · exact Or.inr rfl
  cases r with
  | userAndHeader pType => exact Or.inl (userAndHeaderRule_percent pType)
  | password => exact Or.inl (by decide)
  | host => exact Or.inl (by decide)
  | tokenParam => exact Or.inr rfl
  | ttlParam => exact Or.inl (by decide)
  | mddrParam => exact Or.inl (by decide)
  | otherParam => exact Or.inr rfl
  | param pszName => exact hparam pszName

theorem isAlphanum_of_isHexDig {c : Char} (hc : isHexDig c) : isAlphanum c := by
  unfold isHexDig at hc
  unfold isAlphanum isAlpha
  simp only [Bool.or_eq_true, decide_eq_true_eq] at hc ⊢
  rcases hc with (hupper | hlower) | hdigit
  · exact Or.inl (Or.inr ⟨hupper.1, Char.le_trans hupper.2 (by decide)⟩)
  · exact Or.inl (Or.inl ⟨hlower.1, Char.le_trans hlower.2 (by decide)⟩)
  · exact Or.inr hdigit

theorem isToken_of_isHexDig {c : Char} (hc : isHexDig c) : isToken c := by
  simp [isToken, isAlphanum_of_isHexDig hc]

theorem Routine.copied_of_keepsEscaped (r : Routine) (hkeeps : r.rule.keepsEscaped) {c : Char}
    (hc : isHexDig c) : r.rule.copied c := by
  have huser : ∀ pType, (userAndHeaderRule pType).copied c = true := by
    intro pType
    simp [userAndHeaderRule, isUnreserved, isAlphanum_of_isHexDig hc]
  cases r with
  | userAndHeader pType => exact huser pType
  | password => simp [rule, passwordRule, isUnreserved, isAlphanum_of_isHexDig hc]
  | host | tokenParam | ttlParam | mddrParam | otherParam => exact absurd hkeeps (by decide)
  | param pszName =>
    change (paramRule pszName).keepsEscaped = true at hkeeps
    change (paramRule pszName).copied c = true
    unfold paramRule at hkeeps ⊢
    split_ifs at hkeeps ⊢
    · cases hkeeps
    · cases hkeeps
    · cases hkeeps
    · exact huser _
    · cases hkeeps

theorem doPercentDecoding_printed (r : Routine) (s : CString)
    (hescaped : r.rule.copied '%' → WellEscaped s.chars) :
    doPercentDecoding (r.rule.printed s.chars) = r.rule.meaning s.chars := by
  have hplain : cString s.chars = s.chars :=
    Platform.Numerals.cString_eq_self fun hnul => s.ne_nul nul hnul rfl
  unfold doPercentDecoding Rule.meaning
  rcases r.rule_percent with hpercent | htoken
  · cases hkeeps : r.rule.keepsEscaped with
    | false =>
      rw [decodeLoop_printed_of_not_kept s.lt_byte hkeeps hpercent, hplain, hpercent]
      rfl
    | true =>
      rw [decodeLoop_printed_of_keeps s.lt_byte hkeeps hpercent]
      rfl
  · rw [htoken] at hescaped ⊢
    rw [decodeLoop_printed_of_wellEscaped s.lt_byte rfl (by decide) (fun _ => isToken_of_isHexDig)
      (hescaped (by decide))]
    rfl

/-- A routine that leaves some character as it is ends inside of its buffer, and what it has written
decodes to what its argument means. -/
theorem run_decodes (r : Routine) (s : CString) (hroom : ∃ c ∈ s.chars, r.rule.copied c)
    (hlength : 3 * s.chars.length < 0x80000000)
    (hescaped : r.rule.copied '%' → WellEscaped s.chars) :
    ∃ b, r.run s.chars = some b ∧ b.capacity = 3 * s.chars.length ∧ b.Terminated ∧
      doPercentDecoding b.written = r.rule.meaning s.chars := by
  have hlt := length_printed_lt hroom
  obtain ⟨b, hloop, hwritten, hcapacity⟩ :=
    encodeLoop_of_lt r.rule (s := s.chars) (b := .allocate (3 * s.chars.length))
      (by simpa [Buffer.allocate] using hlt)
  have hprinted : b.written = r.rule.printed s.chars := hwritten
  have hwrap : wrap s.chars.length = s.chars.length := wrap_of_fits (by unfold Fits; omega)
  have hsize : checked (3 * wrap s.chars.length) = some ((3 * s.chars.length : Nat) : Int) := by
    rw [hwrap]
    exact checked_of_fits (by unfold Fits; omega)
  refine ⟨b, ?_, hcapacity, ?_, ?_⟩
  · rw [Routine.run_eq_encode, Rule.encode]
    simp only [hsize, Option.bind_eq_bind, Option.bind_some]
    rw [if_neg (by omega)]
    exact hloop
  · unfold Buffer.Terminated
    rw [hprinted, hcapacity]
    exact hlt
  · rw [hprinted, doPercentDecoding_printed r s hescaped]

/-- A routine that escapes all the characters of its argument has no byte left for the NUL. -/
theorem not_terminated_of_not_copied {r : Routine} {s : Chars} {b : Buffer}
    (hcopied : ∀ c ∈ s, ¬ r.rule.copied c) (hrun : r.run s = some b) : ¬ b.Terminated := by
  have hlength := length_printed_of_not_copied hcopied fun hkeeps _ =>
    r.copied_of_keepsEscaped hkeeps
  rw [Routine.run_eq_encode, Rule.encode] at hrun
  simp only [Option.bind_eq_bind] at hrun
  obtain ⟨size, hsize, hloop⟩ := Option.bind_eq_some_iff.mp hrun
  obtain ⟨-, rfl⟩ := checked_eq_some_iff.mp hsize
  have hwrap : wrap s.length ≤ s.length := by
    unfold wrap
    rw [Int.bmod_eq_emod]
    split <;> omega
  split at hloop
  · cases hloop
  · obtain ⟨hwritten, hcapacity⟩ := written_of_encodeLoop hloop
    have hall : b.written.length = 3 * s.length := by
      rw [hwritten, List.length_append, hlength]
      exact Nat.zero_add _
    unfold Buffer.Terminated
    rw [hcapacity, hall, Buffer.allocate_capacity]
    omega

/-- A routine stays inside of its buffer and ends it with a NUL exactly when it leaves some
character as it is. -/
theorem run_terminated_iff (r : Routine) {s : Chars} (hlength : 3 * s.length < 0x80000000) :
    (∃ b, r.run s = some b ∧ b.Terminated) ↔ ∃ c ∈ s, r.rule.copied c := by
  constructor
  · rintro ⟨b, hrun, hterminated⟩
    by_contra hnone
    exact not_terminated_of_not_copied (fun c hc hcopied => hnone ⟨c, hc, hcopied⟩) hrun
      hterminated
  · intro hroom
    obtain ⟨b, hloop, hwritten, hcapacity⟩ :=
      @encodeLoop_of_lt r.rule s (.allocate (3 * s.length))
        (by simpa [Buffer.allocate] using length_printed_lt hroom)
    have hwrap : wrap s.length = s.length := wrap_of_fits (by unfold Fits; omega)
    have hsize : checked (3 * wrap s.length) = some ((3 * s.length : Nat) : Int) := by
      rw [hwrap]
      exact checked_of_fits (by unfold Fits; omega)
    refine ⟨b, ?_, ?_⟩
    · rw [Routine.run_eq_encode, Rule.encode]
      simp only [hsize, Option.bind_eq_bind, Option.bind_some]
      rw [if_neg (by omega)]
      exact hloop
    · unfold Buffer.Terminated
      rw [hwritten, hcapacity]
      exact length_printed_lt hroom

theorem run_terminated_iff_host :
    (∃ b, Routine.host.run ['a', '<'] = some b ∧ b.Terminated) ↔
      ∃ c ∈ ['a', '<'], Routine.host.rule.copied c :=
  run_terminated_iff .host (by decide)

theorem escapedUser_bytes {c : Char} (hc : c ∈ ['a', '%', '4', '1']) : c ≠ nul ∧ c.toNat < 256 := by
  simp only [List.mem_cons, List.not_mem_nil, or_false] at hc
  rcases hc with rfl | rfl | rfl | rfl
  · exact ⟨by decide, by decide⟩
  · exact ⟨by decide, by decide⟩
  · exact ⟨by decide, by decide⟩
  · exact ⟨by decide, by decide⟩

/-- A user part with an escaped octet in it. -/
def escapedUser : CString where
  chars := ['a', '%', '4', '1']
  ne_nul _ hc := (escapedUser_bytes hc).1
  lt_byte _ hc := (escapedUser_bytes hc).2

theorem run_decodes_escapedUser :
    ∃ b, (Routine.userAndHeader "User".toList).run escapedUser.chars = some b ∧ b.capacity = 12 ∧
      b.Terminated ∧ doPercentDecoding b.written = "aA".toList :=
  run_decodes (.userAndHeader "User".toList) escapedUser ⟨'a', List.mem_cons_self, by decide⟩
    (by decide) fun h => absurd h (by decide)

/-- The octet that the user part has in escaped form is left as it is, and read as its character. -/
theorem not_run_restores :
    ¬ ∀ (r : Routine) (s : CString),
      ∃ b, r.run s.chars = some b ∧ b.Terminated ∧ doPercentDecoding b.written = s.chars := by
  intro h
  obtain ⟨b, hrun, -, hdecoded⟩ := h (.userAndHeader "User".toList) escapedUser
  have hread : ((Routine.userAndHeader "User".toList).run escapedUser.chars).map
      (fun b => doPercentDecoding b.written) = some "aA".toList := by
    decide
  rw [hrun, Option.map_some, hdecoded] at hread
  exact absurd (Option.some.inj hread) (by decide)

end SipPercentEncoding

end ImsStack.SipMsg
