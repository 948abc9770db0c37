import Mathlib.Data.List.Nodup
import PromptGraph.Json.Value

/-!
# `Proofs.Json.Members` — looking up and changing members

## Contents
- **Lookups.** `get?_insert` and `get?_eq_none_iff`.
- **Changes.** `Members.merge`: members with others put in; `get?_merge` when the others have distinct names.
- **Pairs.** `ofPairs_of_nodup`: pairs of distinct names are members as they are; `nodup_ofPairs`: the members of any
  pairs have distinct names.
-/

namespace PromptGraph.Members

/-! ## Lookups -/

theorem get?_cons (name k : String) (v : Json) (ms : Members) :
    get? name ((k, v) :: ms) = if k = name then some v else get? name ms := rfl

theorem get?_insert (name k : String) (v : Json) (ms : Members) :
    get? name (insert k v ms) = if k = name then some v else get? name ms := by
  induction ms with
  | nil => rfl
  | cons m rest ih =>
      obtain ⟨k', v'⟩ := m
      by_cases hk : k' = k
      · subst hk
        rw [insert, if_pos rfl, get?_cons, get?_cons]
        by_cases hn : k' = name
        · rw [if_pos hn, if_pos hn]
        · rw [if_neg hn, if_neg hn, if_neg hn]
      · rw [insert, if_neg hk, get?_cons, get?_cons, ih]
        by_cases hn : k' = name
        · rw [if_pos hn, if_pos hn, if_neg (fun h => hk (hn.trans h.symm))]
        · rw [if_neg hn, if_neg hn]

theorem get?_eq_none_iff {name : String} {ms : Members} : get? name ms = none ↔ name ∉ ms.map Prod.fst := by
  induction ms with
  | nil => exact ⟨fun _ => List.not_mem_nil, fun _ => rfl⟩
  | cons m rest ih =>
      obtain ⟨k, v⟩ := m
      rw [get?_cons, List.map_cons, List.mem_cons, not_or]
      by_cases hk : k = name
      · rw [if_pos hk]
        exact ⟨nofun, fun h => absurd hk.symm h.1⟩
      · rw [if_neg hk, ih]
        exact ⟨fun h => ⟨fun hn => hk hn.symm, h⟩, fun h => h.2⟩

/-! ## Changes -/

/-- The members of a mapping after others have been put into it. -/
def merge (old new : Members) : Members := new.foldl (fun ms m => ms.insert m.1 m.2) old

/-- What is put in has precedence over what was there. -/
theorem get?_merge {new : Members} (hnew : (new.map Prod.fst).Nodup) (name : String) (old : Members) :
    get? name (merge old new) = (get? name new).or (get? name old) := by
  induction new generalizing old with
  | nil => rfl
  | cons m rest ih =>
      obtain ⟨k, v⟩ := m
      rw [List.map_cons, List.nodup_cons] at hnew
      show get? name (merge (insert k v old) rest) = _
      rw [ih hnew.2, get?_insert, get?_cons]
      by_cases hk : k = name
      · subst hk
        rw [if_pos rfl, if_pos rfl, get?_eq_none_iff.mpr hnew.1]
        rfl
      · rw [if_neg hk, if_neg hk]

/-! ## Pairs -/

theorem insert_of_not_mem {name : String} {ms : Members} (h : name ∉ ms.map Prod.fst) (v : Json) :
    insert name v ms = ms ++ [(name, v)] := by
  induction ms with
  | nil => rfl
  | cons m rest ih =>
      obtain ⟨k, w⟩ := m
      rw [List.map_cons, List.mem_cons, not_or] at h
      rw [insert, if_neg (fun hk => h.1 hk.symm), ih h.2]
      rfl

theorem foldl_insert_of_nodup (ms : Members) {ps : Members} (h : ((ms ++ ps).map Prod.fst).Nodup) :
    ps.foldl (fun ms p => ms.insert p.1 p.2) ms = ms ++ ps := by
  induction ps generalizing ms with
  | nil => exact (List.append_nil ms).symm
  | cons p rest ih =>
      have hsplit : ms ++ p :: rest = (ms ++ [p]) ++ rest := by rw [List.append_assoc]; rfl
      have hnew : p.1 ∉ ms.map Prod.fst := by
        rw [List.map_append, List.nodup_append] at h
        intro hmem
        exact h.2.2 p.1 hmem p.1 List.mem_cons_self rfl
      rw [List.foldl_cons, insert_of_not_mem hnew]
      exact (ih _ (hsplit ▸ h)).trans hsplit.symm

theorem ofPairs_of_nodup {ps : Members} (h : (ps.map Prod.fst).Nodup) : ofPairs ps = ps :=
  foldl_insert_of_nodup [] h

/-- A member that is put in keeps the names distinct. -/
theorem nodup_insert {ms : Members} (h : (ms.map Prod.fst).Nodup) (name : String) (v : Json) :
    ((ms.insert name v).map Prod.fst).Nodup := by
  induction ms with
  | nil => exact List.nodup_singleton name
  | cons m rest ih =>
      obtain ⟨k, w⟩ := m
      obtain ⟨hnew, hrest⟩ := List.nodup_cons.mp h
      rw [insert]
      split
      · exact h
      · rename_i hk
        refine List.nodup_cons.mpr ⟨?_, ih hrest⟩
        rw [← get?_eq_none_iff, get?_insert, if_neg (fun heq => hk heq.symm), get?_eq_none_iff]
        exact hnew

/-- The names of the members of pairs are distinct, whatever the pairs are. -/
theorem nodup_ofPairs (ps : List (String × Json)) : ((ofPairs ps).map Prod.fst).Nodup := by
  have hfold : ∀ ms : Members, (ms.map Prod.fst).Nodup →
      ((ps.foldl (fun ms p => ms.insert p.1 p.2) ms).map Prod.fst).Nodup := by
    induction ps with
    | nil => exact fun ms h => h
    | cons p rest ih => exact fun ms h => ih _ (nodup_insert h p.1 p.2)
  exact hfold [] List.nodup_nil

end PromptGraph.Members
