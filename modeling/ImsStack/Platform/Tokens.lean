import ImsStack.Platform.Numerals

/-!
How the tokens of a string are put together and taken apart again.
-/

namespace ImsStack.Platform.Tokens

open AString Numerals

theorem dropWhile_isSpace_idem (s : Chars) :
    (s.dropWhile isSpace).dropWhile isSpace = s.dropWhile isSpace := by
  induction s with
  | nil => rfl
  | cons c s ih => by_cases hc : isSpace c <;> simp [hc, ih]

theorem mem_of_mem_strip {c : Char} {s : Chars} (hc : c ∈ strip s) : c ∈ s := by
  have hreverse : c ∈ (stripLeading s).reverse.dropWhile isSpace := List.mem_reverse.mp hc
  have hleading : c ∈ stripLeading s :=
    List.mem_reverse.mp ((List.dropWhile_sublist _).mem hreverse)
  exact (List.dropWhile_sublist _).mem hleading

theorem strip_strip (s : Chars) : strip (strip s) = strip s := by
  have htrailing : ∀ t : Chars, stripTrailing (stripTrailing t) = stripTrailing t := fun t => by
    rw [stripTrailing, stripTrailing, List.reverse_reverse, dropWhile_isSpace_idem]
  have hleading : stripLeading (stripTrailing (stripLeading s)) = stripTrailing (stripLeading s) := by
    cases hs : stripTrailing (stripLeading s) with
    | nil => rfl
    | cons c t =>
      have hstart : stripTrailing (stripLeading s) <+: stripLeading s := by
        rw [stripTrailing, ← List.reverse_suffix, List.reverse_reverse]
        exact List.dropWhile_suffix _
      rw [hs] at hstart
      obtain ⟨rest, hrest⟩ := hstart
      have hc : isSpace c = false := by
        have hhead := List.head?_dropWhile_not isSpace s
        rw [← stripLeading, ← hrest] at hhead
        simpa using hhead
      exact List.dropWhile_cons_of_neg (by simp [hc])
  rw [strip, strip, hleading, htrailing]

theorem split_of_not_mem {sep : Char} {s : Chars} (hs : sep ∉ s) : split sep s = [strip s] := by
  rw [split, List.splitOn_eq_singleton hs, List.map_singleton]

theorem split_append_cons {sep : Char} {a : Chars} (ha : sep ∉ a) (rest : Chars) :
    split sep (a ++ sep :: rest) = strip a :: split sep rest := by
  rw [split, List.splitOn_append_cons_self_of_not_mem ha, List.map_cons, split]

theorem split_ne_nil (sep : Char) (s : Chars) : split sep s ≠ [] := by
  simp [split]

theorem strip_eq_of_mem_split {sep : Char} {s token : Chars} (h : token ∈ split sep s) :
    strip token = token := by
  obtain ⟨raw, -, rfl⟩ := List.mem_map.mp h
  exact strip_strip raw

theorem mem_of_mem_splitOn {c sep : Char} {s token : Chars} (h : token ∈ s.splitOn sep)
    (hc : c ∈ token) : c ∈ s ∧ c ≠ sep := by
  induction s generalizing token with
  | nil =>
    rw [List.splitOn_nil, List.mem_singleton] at h
    simp [h] at hc
  | cons d s ih =>
    rw [List.splitOn_cons_eq_if_modifyHead] at h
    split at h
    · rcases List.mem_cons.mp h with rfl | h
      · simp at hc
      · exact ⟨List.mem_cons_of_mem _ (ih h hc).1, (ih h hc).2⟩
    · next hd =>
      cases hsplit : s.splitOn sep with
      | nil => exact absurd hsplit (List.splitOn_ne_nil sep s)
      | cons first tokens =>
        rw [hsplit, List.modifyHead_cons] at h
        rcases List.mem_cons.mp h with rfl | h
        · rcases List.mem_cons.mp hc with rfl | hc
          · exact ⟨List.mem_cons_self, by simpa using hd⟩
          · have hmem := ih (hsplit ▸ List.mem_cons_self) hc
            exact ⟨List.mem_cons_of_mem _ hmem.1, hmem.2⟩
        · have hmem := ih (hsplit ▸ List.mem_cons_of_mem _ h) hc
          exact ⟨List.mem_cons_of_mem _ hmem.1, hmem.2⟩

/-- The characters of a token are characters of the string other than the separator. -/
theorem mem_of_mem_split {c sep : Char} {s token : Chars} (h : token ∈ split sep s)
    (hc : c ∈ token) : c ∈ s ∧ c ≠ sep := by
  obtain ⟨raw, hraw, rfl⟩ := List.mem_map.mp h
  exact mem_of_mem_splitOn hraw (mem_of_mem_strip hc)

theorem split_intercalate {sep : Char} {tokens : List Chars} (hne : tokens ≠ [])
    (hsep : ∀ t ∈ tokens, sep ∉ t) (hstrip : ∀ t ∈ tokens, strip t = t) :
    split sep ([sep].intercalate tokens) = tokens := by
  rw [split, List.splitOn_intercalate sep hsep hne]
  exact (List.map_congr_left hstrip).trans (List.map_id' tokens)

theorem mem_of_mem_intercalate {c sep : Char} {tokens : List Chars}
    (h : c ∈ [sep].intercalate tokens) : c = sep ∨ ∃ token ∈ tokens, c ∈ token := by
  induction tokens with
  | nil => simp at h
  | cons token tokens ih =>
    cases tokens with
    | nil => exact .inr ⟨token, by simp, by simpa using h⟩
    | cons next tokens =>
      rw [List.intercalate_cons_cons] at h
      rcases List.mem_append.mp h with h | h
      · rcases List.mem_append.mp h with h | h
        · exact .inr ⟨token, by simp, h⟩
        · exact .inl (List.mem_singleton.mp h)
      · rcases ih h with h | ⟨found, hfound, hc⟩
        · exact .inl h
        · exact .inr ⟨found, List.mem_cons_of_mem _ hfound, hc⟩

end ImsStack.Platform.Tokens
