import Mathlib.Data.String.Basic
import PromptGraph.Deploy.Registry
import PromptGraph.Effect.Files

/-!
# `Proofs.Text.Segments` — the segments of a path

A text that is cut at a character is cut like the list of its characters. A path therefore is its last segment, with or
without directories and a slash before it, and its temporary path differs from it in that segment alone.

## Contents
- **Cutting.** `splitOnAux_of_valid`, `splitOn_singleton`.
- **Paths.** `splitOn_temporaryPath`, `pathSegments_temporaryPath`, `start_temporaryPath`.
-/

namespace PromptGraph

/-! ## Cutting -/

open String in
/-- The pieces of a text that is cut at a character, from a position on: `m` has been read of the piece in progress. -/
theorem splitOnAux_of_valid (c : Char) (l m r : List Char) (pieces : List String) :
    splitOnAux (ofList (l ++ m ++ r)) (ofList [c]) ⟨utf8Len l⟩ ⟨utf8Len l + utf8Len m⟩ 0 pieces
      = pieces.reverse ++ (List.splitOnPPrepend (· == c) r m.reverse).map ofList := by
  have hseparator : Pos.Raw.get (ofList [c]) 0 = c := get_of_valid [] [c]
  have hover : Pos.Raw.next (ofList [c]) 0 = ⟨c.utf8Size⟩ := by simpa using next_of_valid [] c []
  have hend : Pos.Raw.atEnd (ofList [c]) ⟨c.utf8Size⟩ = true := by simpa using (atEnd_of_valid [c] []).mpr rfl
  induction r generalizing l m pieces with
  | nil =>
      have hat := (atEnd_of_valid (l ++ m) []).mpr rfl
      rw [utf8Len_append] at hat
      rw [splitOnAux, if_pos hat, extract_of_valid, List.splitOnPPrepend, List.reverse_reverse]
      exact List.reverse_cons
  | cons a r ih =>
      have hat := atEnd_of_valid (l ++ m) (a :: r)
      have hget := get_of_valid (l ++ m) (a :: r)
      have hnext := next_of_valid (l ++ m) a r
      have hback : (⟨utf8Len l + utf8Len m + c.utf8Size⟩ : Pos.Raw).unoffsetBy ⟨c.utf8Size⟩
          = ⟨utf8Len l + utf8Len m⟩ := by simp [Pos.Raw.unoffsetBy]
      have hstay : (⟨utf8Len l + utf8Len m⟩ : Pos.Raw).unoffsetBy 0 = ⟨utf8Len l + utf8Len m⟩ := by
        simp [Pos.Raw.unoffsetBy]
      have hsize : utf8Len [a] = a.utf8Size := by simp
      rw [utf8Len_append] at hat hget hnext
      rw [splitOnAux, if_neg (fun h => nomatch hat.mp h), hget, hseparator, hnext, hover, List.headD_cons, hstay, hnext,
        List.splitOnPPrepend_cons_eq_if]
      by_cases ha : (a == c) = true
      · -- the piece ends, and the next one begins after the separator
        obtain rfl := eq_of_beq ha
        dsimp only
        rw [if_pos ha, if_pos ha, if_pos hend, hback, extract_of_valid]
        have hrest := ih (l ++ m ++ [a]) [] (ofList m :: pieces)
        rw [List.append_nil, List.append_assoc (l ++ m), utf8Len_append, utf8Len_append, hsize] at hrest
        refine hrest.trans ?_
        rw [List.reverse_cons, List.append_assoc, List.reverse_reverse]
        rfl
      · rw [if_neg ha, if_neg ha]
        have hrest := ih l (m ++ [a]) pieces
        rw [← List.append_assoc, List.append_assoc _ [a] r, utf8Len_append, hsize, ← Nat.add_assoc,
          List.reverse_append] at hrest
        exact hrest

/-- **A text is cut at a character like the list of its characters.** -/
theorem splitOn_singleton (s : String) (c : Char) :
    s.splitOn (String.ofList [c]) = (s.toList.splitOn c).map String.ofList := by
  have hne : ¬ (String.ofList [c] == "") = true := by
    intro h
    have hlength := congrArg String.length (eq_of_beq h)
    rw [String.length_ofList] at hlength
    cases hlength
  have hall := splitOnAux_of_valid c [] [] s.toList []
  rw [List.nil_append, List.nil_append, String.ofList_toList] at hall
  rw [String.splitOn, if_neg hne]
  exact hall

theorem splitOn_slash (s : String) : s.splitOn "/" = (s.toList.splitOn '/').map String.ofList :=
  splitOn_singleton s '/'

/-! ## Paths -/

/-- The last piece of a list that is cut at a character, with the character before it or alone. -/
theorem eq_or_exists_last (c : Char) (cs : List Char) :
    c ∉ cs ∨ ∃ front last, cs = front ++ c :: last ∧ c ∉ last := by
  by_cases h : c ∈ cs
  · obtain ⟨last, front, heq, hlast⟩ := List.eq_append_cons_of_mem (List.mem_reverse.mpr h)
    refine Or.inr ⟨front.reverse, last.reverse, ?_, fun hmem => hlast (List.mem_reverse.mp hmem)⟩
    rw [← List.reverse_reverse cs, heq]
    simp
  · exact Or.inl h

/-- **The temporary path differs from a path in the last segment only**, and the directory of a path has the segments
    before it. -/
theorem splitOn_temporaryPath (path : String) : ∃ front last,
    path.splitOn "/" = front ++ [last] ∧ (temporaryPath path).splitOn "/" = front ++ [last ++ ".tmp"]
      ∧ pathSegments (parentPath path) = front.filter fun s => s ≠ "" ∧ s ≠ "." := by
  unfold pathSegments parentPath
  simp only [splitOn_slash]
  rcases eq_or_exists_last '/' path.toList with hnone | ⟨front, last, hpath, hlast⟩
  · -- no slash: the path is its last segment
    refine ⟨[], path, ?_, ?_, ?_⟩
    · rw [List.splitOn_eq_singleton hnone]
      simp
    · rw [temporaryPath, String.toList_append, List.splitOn_eq_singleton (by simp [hnone])]
      simp
    · rw [List.splitOn_eq_singleton hnone]
      rfl
  · -- what is before the last slash is the directory
    have hsuffixed : '/' ∉ last ++ ".tmp".toList := by simp [hlast]
    refine ⟨(front.splitOn '/').map String.ofList, String.ofList last, ?_, ?_, ?_⟩
    · rw [hpath, List.splitOn_append_cons_self, List.splitOn_eq_singleton hlast]
      simp
    · rw [temporaryPath, String.toList_append, hpath, List.append_assoc, List.cons_append,
        List.splitOn_append_cons_self, List.splitOn_eq_singleton hsuffixed]
      simp
    · rw [hpath, List.splitOn_append_cons_self, List.splitOn_eq_singleton hlast, List.map_append, List.map_singleton,
        List.dropLast_concat, String.toList_intercalate]
      simp [Function.comp_def]

theorem ne_empty_of_namesDirectory {path : String} (h : namesDirectory path = false) : path ≠ "" := by
  rintro rfl
  rw [namesDirectory, lastSegment, splitOn_slash] at h
  exact absurd h (by decide +kernel)

theorem endsInDots_of_namesDirectory {path : String} (h : namesDirectory path = false) : endsInDots path = false := by
  obtain ⟨front, last, hpath, -, -⟩ := splitOn_temporaryPath path
  have hlast : last ≠ "" ∧ last ≠ "." ∧ last ≠ ".." := by
    simpa [namesDirectory, lastSegment, hpath] using h
  rw [endsInDots, hpath, List.filter_append, List.filter_cons_of_pos (by simp [hlast]), List.filter_nil,
    List.getLast?_concat]
  simp [hlast]

theorem temporaryPath_ne_empty (path : String) : temporaryPath path ≠ "" := by
  intro h
  have hlength := congrArg String.length h
  rw [temporaryPath, String.length_append] at hlength
  exact absurd hlength (Nat.ne_of_gt (Nat.lt_of_lt_of_le (by decide) (Nat.le_add_left 4 _)))

/-- **The temporary path of a path that names no directory** is beside it: the last segments are no dots, and differ. -/
theorem pathSegments_temporaryPath {path : String} (h : namesDirectory path = false) : ∃ dirs last,
    pathSegments path = dirs ++ [last] ∧ pathSegments (temporaryPath path) = dirs ++ [last ++ ".tmp"]
      ∧ pathSegments (parentPath (temporaryPath path)) = dirs ∧ last ≠ ".." ∧ last ++ ".tmp" ≠ ".."
      ∧ namesDirectory (temporaryPath path) = false := by
  obtain ⟨front, last, hpath, htmp, hparent⟩ := splitOn_temporaryPath path
  have hlast : last ≠ "" ∧ last ≠ "." ∧ last ≠ ".." := by
    simpa [namesDirectory, lastSegment, hpath] using h
  have hlength : 4 ≤ (last ++ ".tmp").length := by
    rw [String.length_append]
    exact Nat.le_add_left 4 _
  have hsuffixed : last ++ ".tmp" ≠ "" ∧ last ++ ".tmp" ≠ "." ∧ last ++ ".tmp" ≠ ".." := by
    refine ⟨?_, ?_, ?_⟩ <;> intro heq <;> rw [heq] at hlength <;> exact absurd hlength (by decide)
  refine ⟨front.filter fun s => s ≠ "" ∧ s ≠ ".", last, ?_, ?_, ?_, hlast.2.2, hsuffixed.2.2, ?_⟩
  · rw [pathSegments, hpath, List.filter_append, List.filter_cons_of_pos (by simp [hlast]), List.filter_nil]
  · rw [pathSegments, htmp, List.filter_append, List.filter_cons_of_pos (by simp [hsuffixed]), List.filter_nil]
  · rw [← hparent, parentPath, parentPath, htmp, hpath, List.dropLast_concat, List.dropLast_concat]
  · simp [namesDirectory, lastSegment, htmp, hsuffixed]

/-- A temporary path begins where its path does. -/
theorem start_temporaryPath {path : String} (h : path ≠ "") : Place.start (temporaryPath path) = Place.start path := by
  have hstarts : (temporaryPath path).startsWith "/" = path.startsWith "/" := by
    rw [Bool.eq_iff_iff, String.startsWith_string_iff, String.startsWith_string_iff, temporaryPath,
      String.toList_append]
    cases hcs : path.toList with
    | nil => exact absurd (String.toList_eq_nil_iff.mp hcs) h
    | cons a cs => simp
  rw [Place.start, Place.start, hstarts]

end PromptGraph
