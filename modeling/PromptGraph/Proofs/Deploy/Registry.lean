import Mathlib.Data.List.Nodup
import PromptGraph.Deploy.Registry
import PromptGraph.Proofs.Json.TextMembers

/-!
# `Proofs.Deploy.Registry` — entries of a registry, and reading back a written one

## Contents
- **Entries.** `get?_insert_self`, `get?_insert_of_ne`, `mem_insert`, `mem_of_get?`; distinct chains stay distinct
  (`nodup_insert`), and their order does not matter (`get?_sortedByName`).
- **Reading back.** `nodup_ofText`: what is read has one entry for each chain; `ofText_toText`: a written registry is
  read as its entries in the order of the chains.
-/

namespace PromptGraph.Registry

/-! ## Entries -/

/-- The chains of a registry. -/
def chains (r : Registry) : List String := r.map Prod.fst

theorem get?_insert_self (chain remote : String) (r : Registry) : (r.insert chain remote).get? chain = some remote := by
  induction r with
  | nil => simp [insert, get?]
  | cons entry rest ih =>
      obtain ⟨k, v⟩ := entry
      by_cases hk : k = chain
      · simp [insert, get?, hk]
      · simp [insert, get?, hk, ih]

/-- An entry after an insertion is the inserted one or was there. -/
theorem mem_insert {entry : String × String} {chain remote : String} {r : Registry}
    (h : entry ∈ r.insert chain remote) : entry = (chain, remote) ∨ entry ∈ r := by
  induction r with
  | nil => exact Or.inl (List.mem_singleton.mp h)
  | cons first rest ih =>
      obtain ⟨k, v⟩ := first
      rw [insert] at h
      split at h
      · rename_i hk
        rcases List.mem_cons.mp h with rfl | h
        · exact Or.inl (by rw [hk])
        · exact Or.inr (List.mem_cons_of_mem _ h)
      · rcases List.mem_cons.mp h with rfl | h
        · exact Or.inr List.mem_cons_self
        · rcases ih h with h | h
          · exact Or.inl h
          · exact Or.inr (List.mem_cons_of_mem _ h)

/-- An insertion keeps the chains distinct. -/
theorem nodup_insert {r : Registry} (h : r.chains.Nodup) (chain remote : String) :
    (r.insert chain remote).chains.Nodup := by
  induction r with
  | nil => exact List.nodup_singleton chain
  | cons first rest ih =>
      obtain ⟨k, v⟩ := first
      obtain ⟨hnew, hrest⟩ := List.nodup_cons.mp h
      rw [insert]
      split
      · exact h
      · rename_i hk
        refine List.nodup_cons.mpr ⟨fun hmem => ?_, ih hrest⟩
        obtain ⟨entry, hentry, heq⟩ := List.mem_map.mp hmem
        rcases mem_insert hentry with rfl | hold
        · exact hk heq.symm
        · exact hnew (List.mem_map.mpr ⟨entry, hold, heq⟩)

theorem mem_of_get? {chain remote : String} {r : Registry} (h : r.get? chain = some remote) : (chain, remote) ∈ r := by
  induction r with
  | nil => cases h
  | cons first rest ih =>
      obtain ⟨k, v⟩ := first
      rw [get?] at h
      split at h
      · rename_i hk
        cases h
        rw [hk]
        exact List.mem_cons_self
      · exact List.mem_cons_of_mem _ (ih h)

theorem get?_insert_of_ne {chain other : String} (h : other ≠ chain) (remote : String) (r : Registry) :
    (r.insert other remote).get? chain = r.get? chain := by
  induction r with
  | nil => exact if_neg h
  | cons first rest ih =>
      obtain ⟨k, v⟩ := first
      by_cases hk : k = other
      · simp [insert, get?, hk, h]
      · simp [insert, get?, hk, ih]

/-- Where each chain has one entry, the entries of a chain are what is looked up. -/
theorem get?_eq_some_iff {chain remote : String} {r : Registry} (h : r.chains.Nodup) :
    r.get? chain = some remote ↔ (chain, remote) ∈ r := by
  refine ⟨mem_of_get?, fun hmem => ?_⟩
  induction r with
  | nil => cases hmem
  | cons first rest ih =>
      obtain ⟨k, v⟩ := first
      obtain ⟨hnew, hrest⟩ := List.nodup_cons.mp h
      rcases List.mem_cons.mp hmem with heq | hmem
      · cases heq
        exact if_pos rfl
      · have hk : k ≠ chain := fun heq => hnew (List.mem_map.mpr ⟨(chain, remote), hmem, heq.symm⟩)
        rw [get?, if_neg hk]
        exact ih hrest hmem

/-- The order of the entries does not matter. -/
theorem get?_sortedByName {r : Registry} (h : r.chains.Nodup) (chain : String) :
    Registry.get? chain (Json.sortedByName r) = r.get? chain :=
  Option.ext fun remote => by
    rw [get?_eq_some_iff h, get?_eq_some_iff (Json.nodup_sortedByName h), Json.mem_sortedByName]

/-! ## Reading back -/

/-- The entries of an object have the names of some of its members. -/
theorem chains_ofJson_sublist (ms : Members) : List.Sublist (ofJson (.obj ms)).chains (ms.map Prod.fst) := by
  induction ms with
  | nil => exact List.Sublist.refl _
  | cons m rest ih =>
      obtain ⟨name, v⟩ := m
      unfold ofJson at ih ⊢
      dsimp only at ih ⊢
      rw [List.filterMap_cons]
      cases entryId? v with
      | none => exact ih.cons name
      | some id => exact ih.cons_cons name

/-- What is read of a text has one entry for each chain. -/
theorem nodup_ofText [Depth] {text : String} {r : Registry} (h : ofText text = .entries r) : r.chains.Nodup := by
  unfold ofText at h
  dsimp only at h
  split at h
  · cases h
    exact List.nodup_nil
  · split at h
    · rename_i v hread
      cases h
      cases v with
      | obj ms => exact (chains_ofJson_sublist ms).nodup (Json.nodup_read hread)
      | _ => exact List.nodup_nil
    · cases h
    · cases h

/-- A list whose ends stay is not trimmed. -/
theorem trim_of_ends {drop : Char → Bool} {a b : Char} (ha : drop a = false) (hb : drop b = false) (cs : List Char) :
    Text.trim drop (a :: (cs ++ [b])) = a :: (cs ++ [b]) := by
  have hfirst : ¬ drop a = true := by rw [ha]; exact Bool.false_ne_true
  have hlast : ¬ drop b = true := by rw [hb]; exact Bool.false_ne_true
  have hreverse : (a :: (cs ++ [b])).reverse = b :: (cs.reverse ++ [a]) := by simp
  rw [Text.trim, List.dropWhile_cons_of_neg hfirst, Text.trimEnd, hreverse, List.dropWhile_cons_of_neg hlast,
    ← hreverse, List.reverse_reverse]

/-- A written registry is an object of texts, in braces. -/
theorem toText_ends (r : Registry) : ∃ cs, r.toText.toList = '\x7b' :: (cs ++ ['\x7d']) :=
  Json.write_obj_ends .sortedIndented _

/-- The entries of an object of texts. -/
theorem ofJson_ofTexts (es : List (String × String)) : ofJson (Json.ofTexts es) = es := by
  show (es.map _).filterMap _ = es
  rw [List.filterMap_map]
  exact List.filterMap_some

/-- **A written registry is read as its entries**, in the order of the chains. -/
theorem ofText_toText [Depth] {r : Registry} (h : r.chains.Nodup) :
    ofText r.toText = .entries (Json.sortedByName r) := by
  obtain ⟨cs, hcs⟩ := r.toText_ends
  have hstrip : Text.strip r.toText = r.toText := by
    rw [Text.strip, hcs, trim_of_ends (by decide) (by decide), ← hcs, String.ofList_toList]
  have hne : r.toText ≠ "" := by
    intro heq
    rw [heq] at hcs
    cases hcs
  have hread : Json.read r.toText = .ok (Json.ofTexts (Json.sortedByName r)) := Json.read_write_texts h
  -- the braces keep the text from being trimmed or empty
  rw [ofText, hstrip, if_neg hne, hread]
  show Content.entries (ofJson (Json.ofTexts _)) = _
  rw [ofJson_ofTexts]

end PromptGraph.Registry
