import PromptGraph.Proofs.Json.RoundTrip

/-!
# `Proofs.Json.TextMembers` — a written object of texts is read back

## Contents
- **Objects.** `ofTexts`, `sortedByName`; `write_texts`: sorting while writing is writing what is sorted;
  `write_obj_ends`.
- **Reading back.** `read_write_texts`: the object with its members in the order in which they are written, which is
  that of their names (`pairwise_sortedByName`).
-/

namespace PromptGraph.Json

/-! ## Objects -/

/-- An object of texts. -/
def ofTexts (es : List (String × String)) : Json := .obj (es.map fun e => (e.1, .str e.2))

/-- Entries in the order in which they are written. -/
def sortedByName (es : List (String × String)) : List (String × String) := es.mergeSort fun a b => a.1 ≤ b.1

theorem writeMembers_texts (s : JsonStyle) (level : Nat) (es : List (String × String)) :
    writeMembers s level (es.map fun e => (e.1, .str e.2)) = es.map fun e => (e.1, writeText s e.2) := by
  induction es with
  | nil => rfl
  | cons e rest ih =>
      rw [List.map_cons, List.map_cons, writeMembers, ih]
      rfl

/-- Members that are sorted while they are written are written as sorted members are. -/
theorem write_texts (es : List (String × String)) :
    write .sortedIndented (ofTexts es) = write .indented (ofTexts (sortedByName es)) := by
  have hsort : (es.map fun e => (e.1, writeText .indented e.2)).mergeSort (fun a b => a.1 ≤ b.1)
      = (sortedByName es).map fun e => (e.1, writeText .indented e.2) := by
    rw [sortedByName, List.map_mergeSort]
    exact fun _ _ _ _ => rfl
  have harrange : arrange .sortedIndented (es.map fun e => (e.1, writeText .sortedIndented e.2))
      = arrange .indented ((sortedByName es).map fun e => (e.1, writeText .indented e.2)) := by
    rw [← hsort]
    rfl
  rw [write, write, ofTexts, ofTexts, writeAt, writeAt, writeMembers_texts, writeMembers_texts, harrange]
  rfl

/-- A written object begins and ends with its braces. -/
theorem write_obj_ends (s : JsonStyle) (ms : Members) :
    ∃ cs, (write s (.obj ms)).toList = '\x7b' :: (cs ++ ['\x7d']) := by
  have hopening : "\x7b".toList = ['\x7b'] := rfl
  have hclosing : "\x7d".toList = ['\x7d'] := rfl
  rw [write, writeAt, enclose]
  split
  · exact ⟨[], by rw [String.toList_append, hopening, hclosing]; rfl⟩
  · simp only [String.toList_append, hopening, hclosing, List.cons_append]
    exact ⟨_, rfl⟩

/-! ## Reading back -/

theorem mem_sortedByName {e : String × String} {es : List (String × String)} : e ∈ sortedByName es ↔ e ∈ es :=
  List.mem_mergeSort

theorem nodup_sortedByName {es : List (String × String)} (h : (es.map Prod.fst).Nodup) :
    ((sortedByName es).map Prod.fst).Nodup :=
  ((List.mergeSort_perm es _).map Prod.fst).nodup_iff.mpr h

/-- Entries of distinct names are written in the order of their names. -/
theorem pairwise_sortedByName {es : List (String × String)} (h : (es.map Prod.fst).Nodup) :
    ((sortedByName es).map Prod.fst).Pairwise (· < ·) := by
  have hsorted : ((sortedByName es).map Prod.fst).Pairwise (· ≤ ·) := by
    rw [List.pairwise_map]
    refine (List.pairwise_mergeSort ?_ ?_ es).imp fun hle => of_decide_eq_true hle
    · intro a b c hab hbc
      exact decide_eq_true (String.le_trans (of_decide_eq_true hab) (of_decide_eq_true hbc))
    · intro a b
      rcases String.le_total a.1 b.1 with hab | hba
      · simp [hab]
      · simp [hba]
  have hdistinct : ((sortedByName es).map Prod.fst).Pairwise (· ≠ ·) := nodup_sortedByName h
  exact (hsorted.and hdistinct).imp fun ⟨hle, hne⟩ => Std.lt_of_le_of_ne hle hne

theorem isData_texts {P : Number → Prop} {es : List (String × String)} (h : (es.map Prod.fst).Nodup) :
    IsData P (ofTexts es) := by
  refine ⟨by rw [List.map_map]; exact h, ?_⟩
  clear h
  induction es with
  | nil => exact trivial
  | cons e rest ih => exact ⟨trivial, ih⟩

theorem height_texts (es : List (String × String)) : height (ofTexts es) ≤ 2 := by
  refine Nat.succ_le_succ ?_
  induction es with
  | nil => exact Nat.zero_le 1
  | cons e rest ih => exact max_le (Nat.le_refl 1) ih

/-- **An object of texts is read back as it was written**: its members with distinct names, in the order of the
    names. -/
theorem read_write_texts [Depth] {es : List (String × String)} (hnodup : (es.map Prod.fst).Nodup) :
    read (write .sortedIndented (ofTexts es)) = .ok (ofTexts (sortedByName es)) := by
  have hheight : height (ofTexts (sortedByName es)) ≤ Depth.read :=
    (height_texts _).trans ((Nat.le_succ 2).trans Depth.three_le_read)
  rw [write_texts]
  exact readWithin_write spacedStyle_indented (isData_texts (nodup_sortedByName hnodup)) hheight

end PromptGraph.Json
