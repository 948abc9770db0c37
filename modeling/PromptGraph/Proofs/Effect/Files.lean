import PromptGraph.Effect.Files

/-!
# `Proofs.Effect.Files` — what files hold after a change

A change of files leaves each of them as it is, save those that it names: what a file holds afterwards it held before,
or it was written, or moved there.

## Contents
- **Places.** `get?_set`; `get?_of_state`, `directory_of_state`: a path leads to its place or nowhere.
- **Changes.** `file_of_makeDirectories`, `file_of_write`, `get?_write`, `file_of_move`.
-/

namespace PromptGraph.Files

/-! ## Places -/

theorem get?_cons (place p : Place) (state : FileState) (fs : Files) :
    get? place ((p, state) :: fs) = if p = place then some state else get? place fs := rfl

theorem get?_set (place p : Place) (state : FileState) (fs : Files) :
    (fs.set p state).get? place = if p = place then some state else fs.get? place := by
  induction fs with
  | nil => rfl
  | cons f rest ih =>
      obtain ⟨q, old⟩ := f
      by_cases hq : q = p
      · subst hq
        rw [set, if_pos rfl, get?_cons, get?_cons]
        split <;> rfl
      · rw [set, if_neg hq, get?_cons, get?_cons, ih]
        by_cases hplace : q = place
        · rw [if_pos hplace, if_pos hplace, if_neg (fun h => hq (hplace.trans h.symm))]
        · rw [if_neg hplace, if_neg hplace]

theorem get?_of_stateAt {fs : Files} {place : Place} {bytes : List UInt8} (h : fs.stateAt place = .file bytes) :
    fs.get? place = some (.file bytes) := by
  unfold stateAt at h
  split at h
  · rename_i hget
    rw [hget, h]
  · cases h
  · split at h <;> cases h

/-- Segments lead where they say, or nowhere. -/
theorem walk_eq_place {fs : Files} {segments : List String} {here place : Place}
    (h : fs.walk here segments = .place place) : segments.foldl Place.step here = place := by
  induction segments generalizing here with
  | nil =>
      cases h
      rfl
  | cons segment rest ih =>
      rw [walk] at h
      split at h
      · cases h
      · split at h
        · rename_i hrest
          cases h
          rw [List.isEmpty_iff.mp hrest]
          rfl
        · split at h
          · exact ih h
          · cases h
          · cases h

theorem walkPath_eq_place {fs : Files} {path : String} {place : Place} (h : fs.walkPath path = .place place) :
    Place.ofPath path = place := by
  unfold walkPath at h
  split at h
  · cases h
  · split at h
    · cases h
    · exact walk_eq_place h

/-- A file that a path leads to stands at the path's place. -/
theorem get?_of_state {fs : Files} {path : String} {bytes : List UInt8} (h : fs.state path = .file bytes) :
    fs.get? (Place.ofPath path) = some (.file bytes) := by
  unfold state at h
  split at h
  · cases h
  · cases h
  · cases h
  · rename_i place hwalk
    rw [walkPath_eq_place hwalk]
    split at h
    · rename_i found hfound
      split at h
      · cases h
      · cases h
        exact get?_of_stateAt hfound
    · exact get?_of_stateAt h

/-- A directory that a path leads to is at the path's place. -/
theorem directory_of_state {fs : Files} {path : String} (h : fs.state path = .directory) :
    fs.stateAt (Place.ofPath path) = .directory := by
  unfold state at h
  split at h
  · cases h
  · cases h
  · cases h
  · rename_i place hwalk
    rw [walkPath_eq_place hwalk]
    split at h
    · split at h <;> cases h
    · exact h

/-! ## Changes -/

/-- The making of directories makes no files. -/
theorem file_of_makeDirectories {segments : List String} {fs : Files} {here place : Place} {bytes : List UInt8}
    (h : (fs.makeDirectories here segments).2.get? place = some (.file bytes)) :
    fs.get? place = some (.file bytes) := by
  induction segments generalizing fs here with
  | nil => exact h
  | cons segment rest ih =>
      rw [makeDirectories] at h
      split at h
      · exact h
      · split at h
        · exact ih h
        · exact h
        · have hset := ih h
          rw [get?_set] at hset
          split at hset
          · cases hset
          · exact hset

theorem file_of_writeFile {fs : Files} {path text : String} {place : Place} {bytes : List UInt8}
    (h : (fs.writeFile path text).2.get? place = some (.file bytes)) :
    fs.get? place = some (.file bytes) ∨ bytes = Text.utf8Bytes text := by
  unfold writeFile at h
  split at h
  · exact Or.inl h
  · exact Or.inl h
  · exact Or.inl h
  · split at h
    · exact Or.inl h
    · rw [get?_set] at h
      split at h
      · cases h
        exact Or.inr rfl
      · exact Or.inl h

/-- After a text was written a file holds it, or what it held before. -/
theorem file_of_write {fs : Files} {path text : String} {place : Place} {bytes : List UInt8}
    (h : (fs.write path text).2.get? place = some (.file bytes)) :
    fs.get? place = some (.file bytes) ∨ bytes = Text.utf8Bytes text := by
  unfold write at h
  split at h
  · -- the directories could not be made
    rename_i hmade
    exact Or.inl (file_of_makeDirectories (by rw [hmade]; exact h))
  · rename_i hmade
    rcases file_of_writeFile h with hold | hnew
    · exact Or.inl (file_of_makeDirectories (by rw [hmade]; exact hold))
    · exact Or.inr hnew

theorem get?_writeFile {fs : Files} {path text : String} (h : (fs.writeFile path text).1 = none) :
    (fs.writeFile path text).2.get? (Place.ofPath path) = some (.file (Text.utf8Bytes text)) := by
  unfold writeFile at h ⊢
  cases hwalk : fs.walkPath path with
  | place place =>
      rw [hwalk] at h
      rw [walkPath_eq_place hwalk]
      dsimp only at h ⊢
      split at h
      · cases h
      · rw [get?_set, if_pos rfl]
  | _ =>
      rw [hwalk] at h
      cases h

/-- A text that was written stands at the place of its path. -/
theorem get?_write {fs : Files} {path text : String} (h : (fs.write path text).1 = none) :
    (fs.write path text).2.get? (Place.ofPath path) = some (.file (Text.utf8Bytes text)) := by
  unfold write at h ⊢
  generalize fs.makeDirectories (Place.start path) (pathSegments (parentPath path)) = made at h ⊢
  obtain ⟨e, fs'⟩ := made
  cases e with
  | some e => cases h
  | none => exact get?_writeFile h

/-- After a move a file holds what was moved, or what it held before. -/
theorem file_of_move {fs : Files} {source target : String} {place : Place} {bytes : List UInt8}
    (h : (fs.move source target).2.get? place = some (.file bytes)) :
    fs.get? place = some (.file bytes) ∨ fs.state source = .file bytes := by
  unfold move at h
  split at h
  · exact Or.inl h
  · split at h
    · exact Or.inl h
    · split at h
      · exact Or.inl h
      · exact Or.inl h
      · exact Or.inl h
      · rw [put, put, get?_set, get?_set] at h
        split at h
        · cases h
        · split at h
          · exact Or.inr (Option.some.inj h)
          · exact Or.inl h

end PromptGraph.Files
