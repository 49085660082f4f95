import Mathlib.Data.Bool.Basic
import Mathlib.Data.List.TakeWhile
import Mathlib.Data.Option.Basic
import ImsStack.Framing.SipMessageFraming

/-!
The search for the Content-Length header as the lines of a text say it, and that
the scan of the framer finds the same header whatever part of the text has been
received: it stops in front of a header that is not complete, and goes on from
there to the same result.
-/

namespace ImsStack.Framing.HeaderScan

open Platform.AString

/-- The number a line gives as Content-Length, when it reads as that header. -/
def lineContentLength (line : Chars) : Option Int :=
  match line.dropWhile (· ≠ ':') with
  | [] => none
  | _ :: value =>
    if isContentLength (strip (line.takeWhile (· ≠ ':'))) then some (toInt32 (strip value))
    else none

def NoEol (s : Chars) : Prop := ∀ c ∈ s, c ≠ '\r' ∧ c ≠ '\n'

instance : DecidablePred NoEol := fun s => List.decidableBAll (fun c => c ≠ '\r' ∧ c ≠ '\n') s

section SplitLine

@[simp] theorem splitLine_cr_lf (s : Chars) : splitLine ('\r' :: '\n' :: s) = ([], 2, s) := rfl

@[simp] theorem splitLine_lf (s : Chars) : splitLine ('\n' :: s) = ([], 1, s) := rfl

theorem splitLine_cr {s : Chars} (h : ∀ t, s ≠ '\n' :: t) : splitLine ('\r' :: s) = ([], 1, s) := by
  cases s with
  | nil => rfl
  | cons c t =>
      rw [splitLine]
      intro t' heq
      exact h t' heq

theorem splitLine_cons {c : Char} (hcr : c ≠ '\r') (hlf : c ≠ '\n') (s : Chars) :
    splitLine (c :: s) = (c :: (splitLine s).1, (splitLine s).2.1, (splitLine s).2.2) := by
  rw [splitLine] <;> simp_all

theorem splitLine_append {p : Chars} (hp : NoEol p) (s : Chars) :
    splitLine (p ++ s) = (p ++ (splitLine s).1, (splitLine s).2.1, (splitLine s).2.2) := by
  induction p with
  | nil => rfl
  | cons c p ih =>
      obtain ⟨hcr, hlf⟩ := hp c List.mem_cons_self
      rw [List.cons_append, splitLine_cons hcr hlf, ih fun d hd => hp d (List.mem_cons_of_mem _ hd)]
      rfl

theorem splitLine_eq (s : Chars) :
    ∃ eol : Chars, s = (splitLine s).1 ++ eol ++ (splitLine s).2.2 ∧
      eol.length = (splitLine s).2.1 := by
  induction s with
  | nil => exact ⟨[], rfl, rfl⟩
  | cons c s ih =>
      by_cases hcr : c = '\r'
      · subst hcr
        rcases s with _ | ⟨d, s⟩
        · exact ⟨['\r'], rfl, rfl⟩
        · by_cases hlf : d = '\n'
          · subst hlf
            exact ⟨['\r', '\n'], rfl, rfl⟩
          · rw [splitLine_cr (by simp [hlf])]
            exact ⟨['\r'], rfl, rfl⟩
      · by_cases hlf : c = '\n'
        · subst hlf
          exact ⟨['\n'], rfl, rfl⟩
        · obtain ⟨eol, heq, hlength⟩ := ih
          rw [splitLine_cons hcr hlf]
          refine ⟨eol, ?_, hlength⟩
          simp only [List.cons_append]
          rw [← heq]

theorem length_splitLine (s : Chars) :
    (splitLine s).1.length + (splitLine s).2.1 + (splitLine s).2.2.length = s.length := by
  obtain ⟨eol, heq, hlength⟩ := splitLine_eq s
  have hs := congrArg List.length heq
  simp only [List.length_append] at hs
  omega

theorem splitLine_end_pos {s : Chars} (h : (splitLine s).2.2 ≠ []) : 0 < (splitLine s).2.1 := by
  induction s with
  | nil => exact absurd rfl h
  | cons c s ih =>
      by_cases hcr : c = '\r'
      · subst hcr
        rcases s with _ | ⟨d, s⟩
        · exact absurd rfl h
        · by_cases hlf : d = '\n'
          · subst hlf
            simp
          · rw [splitLine_cr (by simp [hlf])]
            simp
      · by_cases hlf : c = '\n'
        · subst hlf
          simp
        · rw [splitLine_cons hcr hlf] at h ⊢
          exact ih h

/-- The first line of a text and of the part of it received so far: they agree
once a byte behind the line has arrived, and before that the line has no end. -/
theorem splitLine_received (y z : Chars) :
    ((splitLine y).2.2 ≠ [] ∧
      splitLine (y ++ z) = ((splitLine y).1, (splitLine y).2.1, (splitLine y).2.2 ++ z)) ∨
    ((splitLine y).2.2 = [] ∧ (splitLine (y ++ z)).2.2.length ≤ z.length) := by
  induction y with
  | nil =>
      refine .inr ⟨rfl, ?_⟩
      have := length_splitLine z
      simp only [List.nil_append]
      omega
  | cons c y ih =>
      by_cases hcr : c = '\r'
      · subst hcr
        rcases y with _ | ⟨d, y⟩
        · refine .inr ⟨rfl, ?_⟩
          rcases z with _ | ⟨d, z⟩
          · exact Nat.le_refl _
          · by_cases hlf : d = '\n'
            · subst hlf
              simp
            · simp only [List.cons_append, List.nil_append]
              rw [splitLine_cr (by simp [hlf])]
        · by_cases hlf : d = '\n'
          · subst hlf
            rcases y with _ | ⟨d, y⟩
            · exact .inr ⟨rfl, by simp⟩
            · exact .inl ⟨by simp, by simp⟩
          · refine .inl ?_
            simp only [List.cons_append]
            rw [splitLine_cr (by simp [hlf]), splitLine_cr (by simp [hlf])]
            exact ⟨by simp, rfl⟩
      · by_cases hlf : c = '\n'
        · subst hlf
          rcases y with _ | ⟨d, y⟩
          · exact .inr ⟨rfl, by simp⟩
          · exact .inl ⟨by simp, by simp⟩
        · simp only [List.cons_append]
          rw [splitLine_cons hcr hlf, splitLine_cons hcr hlf]
          rcases ih with ⟨hrest, heq⟩ | ⟨hrest, hlength⟩
          · exact .inl ⟨hrest, by rw [heq]⟩
          · exact .inr ⟨hrest, hlength⟩

end SplitLine

section LineContentLength

theorem stripLeading_cons_space {c : Char} (hc : isSpace c) (s : Chars) :
    stripLeading (c :: s) = stripLeading s := by
  simp [stripLeading, hc]

theorem stripLeading_append_space {w : Chars} (hw : ∀ c ∈ w, isSpace c) (s : Chars) :
    stripLeading (w ++ s) = stripLeading s := by
  induction w with
  | nil => rfl
  | cons c w ih =>
      rw [List.cons_append, stripLeading_cons_space (hw c List.mem_cons_self),
        ih fun d hd => hw d (List.mem_cons_of_mem _ hd)]

theorem exists_stripLeading (s : Chars) :
    ∃ w, (∀ c ∈ w, isSpace c) ∧ s = w ++ stripLeading s :=
  ⟨s.takeWhile isSpace, fun _ hc => List.mem_takeWhile_imp hc,
    (List.takeWhile_append_dropWhile).symm⟩

theorem lineContentLength_of_no_colon {line : Chars} (h : ':' ∉ line) :
    lineContentLength line = none := by
  have hdrop : line.dropWhile (· ≠ ':') = [] := by
    rw [List.dropWhile_eq_nil_iff]
    intro c hc
    simp only [decide_eq_true_eq]
    rintro rfl
    exact h hc
  rw [lineContentLength, hdrop]

theorem lineContentLength_colon {name : Chars} (h : ':' ∉ name) (value : Chars) :
    lineContentLength (name ++ ':' :: value) =
      if isContentLength (strip name) then some (toInt32 (strip value)) else none := by
  have hname : ∀ c ∈ name, (decide (c ≠ ':')) = true := by
    intro c hc
    simp only [decide_eq_true_eq]
    rintro rfl
    exact h hc
  rw [lineContentLength, List.dropWhile_append_of_pos hname, List.takeWhile_append_of_pos hname]
  simp

theorem lineContentLength_cons_space {c : Char} (hc : isSpace c) (line : Chars) :
    lineContentLength (c :: line) = lineContentLength line := by
  have hcolon : c ≠ ':' := by
    rintro rfl
    exact absurd hc (by decide)
  simp only [lineContentLength, List.dropWhile_cons, List.takeWhile_cons, decide_eq_true hcolon,
    if_true, strip, stripLeading_cons_space hc]
  rfl

end LineContentLength

/-- The first line of a text that reads as a Content-Length header gives the
number `n`; it ends with `e` bytes, and `r` bytes, at least one, follow it. -/
inductive Finds : Chars → Int → Nat → Nat → Prop where
  | here {s : Chars} {n : Int} : (splitLine s).2.2 ≠ [] →
      lineContentLength (splitLine s).1 = some n →
      Finds s n (splitLine s).2.1 (splitLine s).2.2.length
  | skip {s : Chars} {n : Int} {e r : Nat} : (splitLine s).2.2 ≠ [] →
      lineContentLength (splitLine s).1 = none → Finds (splitLine s).2.2 n e r → Finds s n e r

namespace Finds

variable {s : Chars} {n : Int} {e r : Nat}

theorem rest_lt (h : Finds s n e r) : r + e ≤ s.length ∧ r < s.length := by
  induction h with
  | @here s n hrest _ =>
      have := length_splitLine s
      have := splitLine_end_pos hrest
      omega
  | @skip s n e r hrest _ _ ih =>
      have := length_splitLine s
      omega

theorem line_pos (h : Finds s n e r) : r + e < s.length := by
  induction h with
  | @here s n hrest hline =>
      have hne : (splitLine s).1 ≠ [] := by
        intro hnil
        rw [hnil] at hline
        exact absurd hline nofun
      have := length_splitLine s
      have := List.length_pos_iff.mpr hne
      omega
  | @skip s n e r hrest _ _ ih =>
      have := length_splitLine s
      omega

theorem rest_le_splitLine (h : Finds s n e r) : r ≤ (splitLine s).2.2.length := by
  cases h with
  | here _ _ => exact Nat.le_refl _
  | skip _ _ h => exact Nat.le_of_lt h.rest_lt.2

theorem cons_space_iff {c : Char} (hc : isSpace c) :
    Finds (c :: s) n e r ↔ Finds s n e r := by
  have hblank : lineContentLength [] = none := rfl
  by_cases hcr : c = '\r'
  · subst hcr
    by_cases hlf : ∃ t, s = '\n' :: t
    · obtain ⟨t, rfl⟩ := hlf
      constructor
      · intro h
        cases h with
        | here hrest hline => exact absurd (hblank.symm.trans hline) nofun
        | skip hrest hline h => exact .skip hrest rfl h
      · intro h
        cases h with
        | here hrest hline => exact absurd (hblank.symm.trans hline) nofun
        | skip hrest hline h => exact .skip hrest rfl h
    · have heq : splitLine ('\r' :: s) = ([], 1, s) := splitLine_cr (by simpa using hlf)
      constructor
      · intro h
        cases h with
        | here hrest hline =>
            rw [heq] at hline
            exact absurd (hblank.symm.trans hline) nofun
        | skip hrest hline h => rwa [heq] at h
      · intro h
        refine .skip ?_ ?_ ?_ <;> rw [heq]
        · rintro rfl
          exact absurd h.rest_lt.2 (Nat.not_lt_zero _)
        · exact hblank
        · exact h
  · by_cases hlf : c = '\n'
    · subst hlf
      constructor
      · intro h
        cases h with
        | here hrest hline => exact absurd (hblank.symm.trans hline) nofun
        | skip hrest hline h => exact h
      · intro h
        refine .skip ?_ rfl h
        rintro rfl
        exact absurd h.rest_lt.2 (Nat.not_lt_zero _)
    · have heq := splitLine_cons hcr hlf s
      have hline := lineContentLength_cons_space hc (splitLine s).1
      constructor
      · intro h
        generalize hcs : c :: s = t at h
        cases h with
        | here hrest hsome =>
            subst hcs
            rw [heq] at hrest hsome ⊢
            exact .here hrest (hline ▸ hsome)
        | skip hrest hnone h =>
            subst hcs
            rw [heq] at hrest hnone h
            exact .skip hrest (hline ▸ hnone) h
      · intro h
        cases h with
        | here hrest hsome =>
            have hhere : Finds (c :: s) n (splitLine (c :: s)).2.1 (splitLine (c :: s)).2.2.length :=
              .here (by rwa [heq]) (by rw [heq]; exact hline.trans hsome)
            rwa [heq] at hhere
        | skip hrest hnone h =>
            exact .skip (by rwa [heq]) (by rw [heq]; exact hline.trans hnone) (by rwa [heq])

theorem append_space_iff {w : Chars} (hw : ∀ c ∈ w, isSpace c) :
    Finds (w ++ s) n e r ↔ Finds s n e r := by
  induction w with
  | nil => exact Iff.rfl
  | cons c w ih =>
      rw [List.cons_append, cons_space_iff (hw c List.mem_cons_self),
        ih fun d hd => hw d (List.mem_cons_of_mem _ hd)]

theorem stripLeading_append_iff (y z : Chars) :
    Finds (stripLeading y ++ z) n e r ↔ Finds (y ++ z) n e r := by
  obtain ⟨w, hw, hy⟩ := exists_stripLeading y
  conv_rhs => rw [hy, List.append_assoc, append_space_iff hw]

theorem of_line {p : Chars} {c : Char} (hp : NoEol p) (hpc : ':' ∉ p) (hc : c = '\r' ∨ c = '\n')
    (h : Finds (p ++ c :: s) n e r) : Finds s n e r := by
  have heq := splitLine_append hp (c :: s)
  have hline : (splitLine (c :: s)).1 = [] := by
    rcases hc with rfl | rfl
    · rcases s with _ | ⟨d, s⟩
      · rfl
      · by_cases hlf : d = '\n'
        · rw [hlf, splitLine_cr_lf]
        · rw [splitLine_cr (by simp [hlf])]
    · rfl
  have hspace : isSpace c := by
    rcases hc with rfl | rfl <;> decide
  have hnone : lineContentLength (splitLine (p ++ c :: s)).1 = none := by
    rw [heq, hline, List.append_nil]
    exact lineContentLength_of_no_colon hpc
  cases h with
  | here _ hsome => exact absurd (hnone.symm.trans hsome) nofun
  | skip hrest _ h =>
      rw [heq] at hrest h
      have hskip : Finds (c :: s) n e r :=
        .skip hrest (by rw [hline]; rfl) h
      exact (cons_space_iff hspace).mp hskip

end Finds

/-- How a scan of the part `y` received of `y ++ z` ends when the header found in
all of it is followed by `r` bytes: it finds the header once one of them has
arrived, and stops in front of it before that. -/
inductive Stops (y z : Chars) (n : Int) (e r : Nat) : HeaderScan → Prop where
  | found : z.length < r → Stops y z n e r (.found n (r - z.length + e + 1))
  | incomplete {q s : Chars} : r ≤ z.length → y = q ++ s → Finds (s ++ z) n e r →
      Stops y z n e r (.incomplete s.length)

theorem Stops.append_left {y z : Chars} {n : Int} {e r : Nat} {scan : HeaderScan}
    (h : Stops y z n e r scan) (x : Chars) : Stops (x ++ y) z n e r scan := by
  cases h with
  | found hr => exact .found hr
  | @incomplete q s hr hy h =>
      exact .incomplete (q := x ++ q) hr (by rw [hy, List.append_assoc]) h

section Scan

variable {n : Int} {e r : Nat}

theorem lookupHeaderName_colon (headerStart s : Chars) :
    lookupHeaderName headerStart (':' :: s) = (headerStart, ':' :: s) := by
  rw [lookupHeaderName, if_pos rfl]

theorem lookupHeaderName_eol {c : Char} (hc : c = '\r' ∨ c = '\n') (headerStart s : Chars) :
    lookupHeaderName headerStart (c :: s) = lookupHeaderName (c :: s) s := by
  have hcolon : c ≠ ':' := by
    rcases hc with rfl | rfl <;> decide
  rw [lookupHeaderName, if_neg hcolon, if_pos hc]

theorem lookupHeaderName_other {c : Char} (hcolon : c ≠ ':') (hc : ¬(c = '\r' ∨ c = '\n'))
    (headerStart s : Chars) :
    lookupHeaderName headerStart (c :: s) = lookupHeaderName headerStart s := by
  rw [lookupHeaderName, if_neg hcolon, if_neg hc]

theorem scanHeader_colon {next : Chars → HeaderScan} {w p s z : Chars}
    (hw : ∀ c ∈ w, isSpace c) (hp : NoEol p) (hpc : ':' ∉ p)
    (hnext : ∀ y, y.length ≤ s.length → Finds (y ++ z) n e r → Stops y z n e r (next y))
    (h : Finds (p ++ ':' :: s ++ z) n e r) :
    Stops (w ++ p ++ ':' :: s) z n e r (scanHeader next (w ++ p ++ ':' :: s, ':' :: s)) := by
  have hname : (w ++ p ++ ':' :: s).take ((w ++ p ++ ':' :: s).length - (':' :: s).length) =
      w ++ p := by
    rw [List.length_append, Nat.add_sub_cancel, List.take_left']
    rfl
  have hstrip : strip (w ++ p) = strip p := by
    rw [strip, strip, stripLeading_append_space hw]
  have hcolon : splitLine (':' :: s) = (':' :: (splitLine s).1, (splitLine s).2.1,
      (splitLine s).2.2) := splitLine_cons (by decide) (by decide) s
  have hwhole : splitLine (p ++ ':' :: s ++ z) = (p ++ ':' :: (splitLine (s ++ z)).1,
      (splitLine (s ++ z)).2.1, (splitLine (s ++ z)).2.2) := by
    rw [List.append_assoc, splitLine_append hp, List.cons_append,
      splitLine_cons (by decide) (by decide)]
  simp only [scanHeader, hname, hstrip, hcolon, List.drop_succ_cons, List.drop_zero]
  rcases splitLine_received s z with ⟨hrest, heq⟩ | ⟨hrest, hlength⟩
  · rw [if_neg hrest]
    rw [heq] at hwhole
    cases h with
    | here _ hline =>
        rw [hwhole] at hline ⊢
        rw [lineContentLength_colon hpc] at hline
        split at hline
        · rename_i hcl
          rw [if_pos hcl]
          cases hline
          have hfound := Stops.found (y := w ++ p ++ ':' :: s) (z := z)
            (n := toInt32 (strip (splitLine s).1)) (e := (splitLine s).2.1)
            (r := ((splitLine s).2.2 ++ z).length) (by
              rw [List.length_append]
              have := List.length_pos_iff.mpr hrest
              omega)
          rwa [List.length_append, Nat.add_sub_cancel, ← List.length_append] at hfound
        · exact absurd hline nofun
    | skip _ hline h =>
        rw [hwhole] at hline h
        rw [lineContentLength_colon hpc] at hline
        split at hline
        · exact absurd hline nofun
        · rename_i hcl
          rw [if_neg hcl]
          have hlen := length_splitLine s
          obtain ⟨eol, heol, -⟩ := splitLine_eq s
          have hy : w ++ p ++ ':' :: s =
              (w ++ p ++ ':' :: ((splitLine s).1 ++ eol)) ++ (splitLine s).2.2 := by
            rw [List.append_assoc (w ++ p), List.cons_append, ← heol]
          rw [hy]
          exact (hnext _ (by omega) h).append_left _
  · rw [if_pos hrest]
    have hr : r ≤ z.length := by
      have := h.rest_le_splitLine
      rw [hwhole] at this
      exact Nat.le_trans this hlength
    obtain ⟨q, -, hq⟩ := exists_stripLeading (w ++ p ++ ':' :: s)
    refine .incomplete hr hq ?_
    rw [Finds.stripLeading_append_iff, List.append_assoc w, List.append_assoc w,
      Finds.append_space_iff hw]
    exact h

/-- One round of the scan, begun at a header start of white space `w` and `p`
with `s` still to be looked at. -/
theorem scanHeader_stops {next : Chars → HeaderScan} {z : Chars} (s : Chars) :
    ∀ w p : Chars, (∀ c ∈ w, isSpace c) → NoEol p → ':' ∉ p →
    (∀ y, y.length < s.length → Finds (y ++ z) n e r → Stops y z n e r (next y)) →
    Finds (p ++ s ++ z) n e r →
    Stops (w ++ p ++ s) z n e r (scanHeader next (lookupHeaderName (w ++ p ++ s) s)) := by
  induction s with
  | nil =>
      intro w p hw hp hpc hnext h
      have hr : r ≤ z.length := by
        have hle := h.rest_le_splitLine
        rw [List.append_nil, splitLine_append hp] at hle
        have := length_splitLine z
        simp only at hle
        omega
      refine .incomplete (q := []) hr rfl ?_
      rw [List.append_assoc w, List.append_assoc w, Finds.append_space_iff hw]
      exact h
  | cons c s ih =>
      intro w p hw hp hpc hnext h
      by_cases hcolon : c = ':'
      · subst hcolon
        rw [lookupHeaderName_colon]
        exact scanHeader_colon hw hp hpc (fun y hy => hnext y (Nat.lt_succ_of_le hy)) h
      · by_cases hc : c = '\r' ∨ c = '\n'
        · rw [lookupHeaderName_eol hc]
          have hspace : ∀ d ∈ [c], isSpace d := by
            rw [List.forall_mem_singleton]
            rcases hc with rfl | rfl <;> rfl
          have hrest : Finds (s ++ z) n e r := by
            rw [List.append_assoc] at h
            exact h.of_line hp hpc hc
          have hstops := ih [c] [] hspace nofun nofun
            (fun y hy => hnext y (Nat.lt_succ_of_lt hy)) hrest
          exact hstops.append_left (w ++ p)
        · rw [lookupHeaderName_other hcolon hc]
          have hmove : w ++ p ++ c :: s = w ++ (p ++ [c]) ++ s := by simp
          rw [hmove]
          refine ih w (p ++ [c]) hw ?_ ?_ (fun y hy => hnext y (Nat.lt_succ_of_lt hy)) ?_
          · intro d hd
            rcases List.mem_append.mp hd with hd | hd
            · exact hp d hd
            · rw [List.mem_singleton.mp hd]
              exact not_or.mp hc
          · simp [hpc, Ne.symm hcolon]
          · simpa using h

theorem scanHeaders_stops {z : Chars} (fuel : Nat) :
    ∀ y : Chars, y.length ≤ fuel → Finds (y ++ z) n e r → Stops y z n e r (scanHeaders fuel y) := by
  induction fuel with
  | zero =>
      intro y hy h
      obtain rfl := List.eq_nil_of_length_eq_zero (Nat.le_zero.mp hy)
      exact .incomplete (q := []) (Nat.le_of_lt h.rest_lt.2) rfl h
  | succ fuel ih =>
      intro y hy h
      exact scanHeader_stops y [] [] nofun nofun nofun
        (fun y' hy' => ih y' (by omega)) h

end Scan

end ImsStack.Framing.HeaderScan
