import ImsStack.Platform.Tokens
import ImsStack.Sdp.SdpText

/-!
How the parts of a line and the lines of a text are put together and taken apart again.
-/

namespace ImsStack.Sdp.Tokens

open Platform.AString Platform.Numerals Platform.Tokens

theorem splitLine_one (s : Chars) : splitLine 1 s = some [s] := rfl

theorem splitLine_append {n : Nat} {a : Chars} (ha : ' ' ∉ a) (rest : Chars) :
    splitLine (n + 2) (a ++ ' ' :: rest) = (splitLine (n + 1) rest).map (a :: ·) := by
  have hne : ∀ c ∈ a, decide (c ≠ ' ') = true := fun c hc => decide_eq_true fun h => ha (h ▸ hc)
  have hdrop : (a ++ ' ' :: rest).dropWhile (· ≠ ' ') = ' ' :: rest := by
    rw [List.dropWhile_append_of_pos hne]
    exact List.dropWhile_cons_of_neg (by simp)
  have htake : (a ++ ' ' :: rest).takeWhile (· ≠ ' ') = a := by
    rw [List.takeWhile_append_of_pos hne, List.takeWhile_cons_of_neg (by simp), List.append_nil]
  rw [splitLine, hdrop, htake]

/-- The first part of a line that has been split is what stands in front of its first space. -/
theorem splitLine_eq_some_cons {n : Nat} {s a : Chars} {parts : List Chars}
    (h : splitLine (n + 2) s = some (a :: parts)) :
    ∃ rest, s = a ++ ' ' :: rest ∧ ' ' ∉ a ∧ splitLine (n + 1) rest = some parts := by
  rw [splitLine] at h
  split at h
  · exact absurd h (by simp)
  · next c rest hdrop =>
    obtain ⟨parts', hparts, h⟩ := Option.map_eq_some_iff.mp h
    obtain ⟨rfl, rfl⟩ := List.cons.inj h
    have hc : c = ' ' := by
      have hhead := List.head?_dropWhile_not (fun c => decide (c ≠ ' ')) s
      rw [hdrop] at hhead
      simpa using hhead
    refine ⟨rest, ?_, ?_, hparts⟩
    · conv_lhs => rw [← List.takeWhile_append_dropWhile (p := (· ≠ ' ')) (l := s), hdrop, hc]
    · intro hmem
      simpa using List.mem_takeWhile_imp hmem

theorem splitLine_eq_none {n : Nat} {s : Chars} (hs : ' ' ∉ s) : splitLine (n + 2) s = none := by
  have hdrop : s.dropWhile (· ≠ ' ') = [] :=
    List.dropWhile_eq_nil_iff.mpr fun c hc => decide_eq_true fun h => hs (h ▸ hc)
  rw [splitLine, hdrop]

theorem chopCr_append (line : Chars) : chopCr (line ++ ['\r']) = line := by
  simp [chopCr]

theorem mem_of_mem_chopCr {c : Char} {line : Chars} (hc : c ∈ chopCr line) : c ∈ line := by
  unfold chopCr at hc
  split at hc
  · exact (List.dropLast_sublist line).mem hc
  · exact hc

theorem newline_not_mem_of_mem_splitLines {sdp line : Chars} (h : line ∈ splitLines sdp) :
    '\n' ∉ line := by
  obtain ⟨hline, -⟩ := List.mem_filter.mp h
  obtain ⟨raw, hraw, rfl⟩ := List.mem_map.mp hline
  intro hc
  exact (mem_of_mem_splitOn hraw (mem_of_mem_chopCr hc)).2 rfl

theorem splitLines_cons {line : Chars} (hne : line ≠ []) (hline : '\n' ∉ line) (rest : Chars) :
    splitLines (line ++ crlf ++ rest) = line :: splitLines rest := by
  have hraw : '\n' ∉ line ++ ['\r'] := by simp [hline]
  have htext : line ++ crlf ++ rest = (line ++ ['\r']) ++ '\n' :: rest := by simp [crlf]
  rw [splitLines, htext, List.splitOn_append_cons_self_of_not_mem hraw, List.map_cons,
    chopCr_append, List.filter_cons_of_pos (by simpa using hne), splitLines]

theorem splitLines_flatMap_crlf {lines : List Chars}
    (h : ∀ line ∈ lines, line ≠ [] ∧ '\n' ∉ line) :
    splitLines (lines.flatMap (· ++ crlf)) = lines := by
  induction lines with
  | nil => decide
  | cons line lines ih =>
    rw [List.forall_mem_cons] at h
    rw [List.flatMap_cons, splitLines_cons h.1.1 h.1.2, ih h.2]

end ImsStack.Sdp.Tokens
