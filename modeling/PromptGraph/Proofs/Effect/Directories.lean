import PromptGraph.Proofs.Effect.Files

/-!
# `Proofs.Effect.Directories` — which places are directories, and where paths lead through them

A place is a directory when it was made one, or when something stands below it. Setting another place to anything that
is there keeps it one; so once directories were made they can be walked through, whatever is written afterwards.

## Contents
- **Directories.** `stateAt_eq_directory_iff`, `directory_set`.
- **Walking.** `Passable`, `passable_makeDirectories`, `walk_concat`.
- **Successes.** `writeFile_of_none`, `write_of_none`, `move_of_none`: what a change has done that the system allowed.
-/

namespace PromptGraph.Files

variable {fs fs' : Files} {here place p q : Place} {state : FileState}

/-! ## Directories -/

/-- Something stands at a place or below it. -/
def Reaches (fs : Files) (place : Place) : Prop := ∃ f ∈ fs, place <+: f.1 ∧ f.2 ≠ .absent

theorem mem_of_get? (h : fs.get? place = some state) : (place, state) ∈ fs := by
  induction fs with
  | nil => cases h
  | cons f rest ih =>
      obtain ⟨p, old⟩ := f
      rw [get?_cons] at h
      split at h
      · rename_i hp
        cases h
        rw [hp]
        exact List.mem_cons_self
      · exact List.mem_cons_of_mem _ (ih h)

theorem stateAt_of_file {bytes : List UInt8} (h : fs.get? place = some (.file bytes)) :
    fs.stateAt place = .file bytes := by
  rw [stateAt, h]

theorem stateAt_eq_directory_iff : fs.stateAt place = .directory ↔ fs.get? place = some .directory
    ∨ ((∀ bytes, fs.get? place ≠ some (.file bytes)) ∧ (place.isAbove = true ∨ fs.Reaches place)) := by
  have hany : (fs.any fun f => place.isPrefixOf f.1 && f.2 != .absent) = true ↔ fs.Reaches place := by
    simp [Reaches]
  unfold stateAt
  split
  · rename_i bytes hget
    simp [hget]
  · rename_i hget
    simp [hget]
  · rename_i hfile hdirectory
    rw [← hany, ← Bool.or_eq_true]
    constructor
    · intro h
      split at h
      · rename_i habove
        exact Or.inr ⟨hfile, habove⟩
      · cases h
    · rintro (h | ⟨-, habove⟩)
      · exact absurd h hdirectory
      · rw [if_pos habove]

theorem stateAt_ne_of (fs : Files) (place : Place) : fs.stateAt place ≠ .blocked ∧ fs.stateAt place ≠ .tooLong := by
  unfold stateAt
  split
  · exact ⟨nofun, nofun⟩
  · exact ⟨nofun, nofun⟩
  · split <;> exact ⟨nofun, nofun⟩

/-- A place below which nothing stands, and that is not above the working directory, is no directory. -/
theorem stateAt_ne_directory (habove : place.isAbove = false) (h : ¬ fs.Reaches place) :
    fs.stateAt place ≠ .directory := by
  intro hdirectory
  rcases stateAt_eq_directory_iff.mp hdirectory with hget | ⟨-, habove' | hreaches⟩
  · exact h ⟨(place, .directory), mem_of_get? hget, List.prefix_rfl, nofun⟩
  · rw [habove] at habove'
    cases habove'
  · exact h hreaches

theorem mem_set_self (fs : Files) (q : Place) (state : FileState) : (q, state) ∈ fs.set q state := by
  induction fs with
  | nil => exact List.mem_cons_self
  | cons f rest ih =>
      rw [set]
      split
      · rename_i hq
        rw [hq]
        exact List.mem_cons_self
      · exact List.mem_cons_of_mem _ ih

theorem mem_set_of_mem {f : Place × FileState} (hf : f ∈ fs) (hq : f.1 ≠ q) : f ∈ fs.set q state := by
  induction fs with
  | nil => cases hf
  | cons first rest ih =>
      rw [set]
      rcases List.mem_cons.mp hf with rfl | hf
      · rw [if_neg hq]
        exact List.mem_cons_self
      · split
        · exact List.mem_cons_of_mem _ hf
        · exact List.mem_cons_of_mem _ (ih hf)

theorem mem_of_mem_set {f : Place × FileState} (hf : f ∈ fs.set q state) : f = (q, state) ∨ f ∈ fs := by
  induction fs with
  | nil => exact Or.inl (List.mem_singleton.mp hf)
  | cons first rest ih =>
      rw [set] at hf
      split at hf
      · rename_i hq
        rcases List.mem_cons.mp hf with rfl | hf
        · exact Or.inl (by rw [hq])
        · exact Or.inr (List.mem_cons_of_mem _ hf)
      · rcases List.mem_cons.mp hf with rfl | hf
        · exact Or.inr List.mem_cons_self
        · exact (ih hf).imp id (List.mem_cons_of_mem _)

/-- What was set for a place is gone when it is set again. -/
theorem mem_of_mem_set_set {f : Place × FileState} {first : FileState} (hf : f ∈ (fs.set q first).set q state) :
    f = (q, state) ∨ f ∈ fs := by
  induction fs with
  | nil =>
      rw [set, set, if_pos rfl] at hf
      exact Or.inl (List.mem_singleton.mp hf)
  | cons entry rest ih =>
      obtain ⟨place, old⟩ := entry
      by_cases hq : place = q
      · rw [set, if_pos hq, set, if_pos hq] at hf
        rcases List.mem_cons.mp hf with rfl | hf
        · exact Or.inl (by rw [hq])
        · exact Or.inr (List.mem_cons_of_mem _ hf)
      · rw [set, if_neg hq, set, if_neg hq] at hf
        rcases List.mem_cons.mp hf with rfl | hf
        · exact Or.inr List.mem_cons_self
        · exact (ih hf).imp id (List.mem_cons_of_mem _)

/-- What was set for a place is gone when it is set again, also after another was set. -/
theorem mem_of_mem_set_set_set {f : Place × FileState} {first other : FileState} (hne : p ≠ q)
    (hf : f ∈ ((fs.set q first).set p other).set q state) : f = (q, state) ∨ f = (p, other) ∨ f ∈ fs := by
  induction fs with
  | nil =>
      rw [set, set, if_neg (Ne.symm hne), set, set, if_pos rfl] at hf
      simpa using hf
  | cons entry rest ih =>
      obtain ⟨place, old⟩ := entry
      by_cases hq : place = q
      · rw [set, if_pos hq, set, if_neg (fun hp => hne (hp.symm.trans hq)), set, if_pos hq] at hf
        rcases List.mem_cons.mp hf with rfl | hf
        · exact Or.inl (by rw [hq])
        · exact Or.inr ((mem_of_mem_set hf).imp id (List.mem_cons_of_mem _))
      · by_cases hp : place = p
        · rw [set, if_neg hq, set, if_pos hp, set, if_neg hq] at hf
          rcases List.mem_cons.mp hf with rfl | hf
          · exact Or.inr (Or.inl (by rw [hp]))
          · exact (mem_of_mem_set_set hf).imp id fun hf => Or.inr (List.mem_cons_of_mem _ hf)
        · rw [set, if_neg hq, set, if_neg hp, set, if_neg hq] at hf
          rcases List.mem_cons.mp hf with rfl | hf
          · exact Or.inr (Or.inr List.mem_cons_self)
          · exact (ih hf).imp id (Or.imp id (List.mem_cons_of_mem _))

/-- What stands below a place stays there, or something else comes to stand below it. -/
theorem Reaches.set (h : fs.Reaches p) (hstate : state ≠ .absent) : (fs.set q state).Reaches p := by
  obtain ⟨f, hf, hbelow, hthere⟩ := h
  by_cases hq : f.1 = q
  · exact ⟨(q, state), mem_set_self fs q state, hq ▸ hbelow, hstate⟩
  · exact ⟨f, mem_set_of_mem hf hq, hbelow, hthere⟩

/-- A directory stays one when another place is set, if something still stands below it where it needs that. -/
theorem directory_set_of_reaches (h : fs.stateAt p = .directory) (hp : p ≠ q)
    (hreaches : fs.Reaches p → (fs.set q state).Reaches p) : (fs.set q state).stateAt p = .directory := by
  have hget : (fs.set q state).get? p = fs.get? p := by rw [get?_set, if_neg hp.symm]
  rw [stateAt_eq_directory_iff] at h ⊢
  rw [hget]
  exact h.imp id fun ⟨hfile, habove⟩ => ⟨hfile, habove.imp id hreaches⟩

/-- A directory stays one when something is put at another place. -/
theorem directory_set (h : fs.stateAt p = .directory) (hp : p ≠ q) (hstate : state ≠ .absent) :
    (fs.set q state).stateAt p = .directory :=
  directory_set_of_reaches h hp fun hreaches => hreaches.set hstate

/-- What is put at a place that is not below another does not make that one a directory. -/
theorem directory_of_set (h : (fs.set q state).stateAt p = .directory) (hbelow : ¬ p <+: q) :
    fs.stateAt p = .directory := by
  have hp : ¬ q = p := fun heq => hbelow (heq ▸ List.prefix_rfl)
  rw [stateAt_eq_directory_iff, get?_set, if_neg hp] at h
  rw [stateAt_eq_directory_iff]
  refine h.imp id fun ⟨hfile, habove⟩ => ⟨hfile, habove.imp id ?_⟩
  rintro ⟨f, hf, hf', hthere⟩
  rcases mem_of_mem_set hf with rfl | hf
  · exact absurd hf' hbelow
  · exact ⟨f, hf, hf', hthere⟩

theorem stateAt_set_directory (fs : Files) (q : Place) : (fs.set q .directory).stateAt q = .directory := by
  rw [stateAt_eq_directory_iff, get?_set, if_pos rfl]
  exact Or.inl rfl

/-- The making of directories keeps those that are there. -/
theorem directory_makeDirectories {segments : List String} (h : fs.stateAt p = .directory) :
    (fs.makeDirectories here segments).2.stateAt p = .directory := by
  induction segments generalizing fs here with
  | nil => exact h
  | cons segment rest ih =>
      rw [makeDirectories]
      split
      · exact h
      · split
        · exact ih h
        · exact h
        · refine ih ?_
          by_cases hp : p = here.step segment
          · rw [hp]
            exact stateAt_set_directory _ _
          · exact directory_set h hp (fun hkind => by cases hkind)

/-! ## Walking -/

/-- Segments lead through directories, and none of their names is too long. -/
def Passable (fs : Files) : Place → List String → Prop
  | _, [] => True
  | here, segment :: rest =>
    isLongName segment = false ∧ fs.stateAt (here.step segment) = .directory ∧ Passable fs (here.step segment) rest

/-- Where directories are kept, segments lead through them as before. -/
theorem Passable.mono {segments : List String} (h : fs.Passable here segments)
    (hkeep : ∀ p, fs.stateAt p = .directory → fs'.stateAt p = .directory) : fs'.Passable here segments := by
  induction segments generalizing here with
  | nil => trivial
  | cons segment rest ih => exact ⟨h.1, hkeep _ h.2.1, ih h.2.2⟩

/-- Directories that could be made can be walked through. -/
theorem passable_makeDirectories {segments : List String} (h : (fs.makeDirectories here segments).1 = none) :
    (fs.makeDirectories here segments).2.Passable here segments := by
  induction segments generalizing fs here with
  | nil => trivial
  | cons segment rest ih =>
      rw [makeDirectories] at h ⊢
      split at h
      · cases h
      · rename_i hshort
        rw [if_neg hshort]
        refine ⟨Bool.eq_false_iff.mpr hshort, ?_⟩
        split at h
        · rename_i hdirectory
          exact ⟨directory_makeDirectories hdirectory, ih h⟩
        · cases h
        · exact ⟨directory_makeDirectories (stateAt_set_directory fs _), ih h⟩

/-- Through directories segments lead to the place of the last one, unless its name is too long. -/
theorem walk_concat {segments : List String} {last : String} (h : fs.Passable here segments) :
    fs.walk here (segments ++ [last])
      = if isLongName last then .tooLong else .place ((segments.foldl Place.step here).step last) := by
  induction segments generalizing here with
  | nil => rfl
  | cons segment rest ih =>
      obtain ⟨hshort, hdirectory, hrest⟩ := h
      rw [List.cons_append, walk, if_neg (Bool.eq_false_iff.mp hshort), if_neg (by simp), hdirectory]
      exact ih hrest

/-- A path whose directories can be walked through leads to its place, unless it or its last name is too long. -/
theorem walkPath_of_passable {path last : String} {segments : List String} (hpath : path ≠ "")
    (hsegments : pathSegments path = segments ++ [last]) (h : fs.Passable (Place.start path) segments) :
    fs.walkPath path = if pathLimit < path.utf8ByteSize ∨ isLongName last = true then .tooLong
      else .place (Place.ofPath path) := by
  rw [walkPath, if_neg hpath, Place.ofPath, hsegments, walk_concat h, List.foldl_append]
  by_cases hlong : pathLimit < path.utf8ByteSize
  · rw [if_pos hlong, if_pos (Or.inl hlong)]
  · rw [if_neg hlong]
    simp only [hlong, false_or]
    rfl

/-! ## Successes -/

theorem writeFile_of_none {path text : String} (h : (fs.writeFile path text).1 = none) :
    ∃ place, fs.walkPath path = .place place ∧ fs.stateAt place ≠ .directory
      ∧ fs.writeFile path text = (none, fs.set place (.file (Text.utf8Bytes text))) := by
  unfold writeFile at h ⊢
  split at h
  · cases h
  · cases h
  · cases h
  · rename_i place hwalk
    split at h
    · cases h
    · rename_i hnot
      exact ⟨place, hwalk, hnot, rfl⟩

/-- A text that was written stands at its path's place, beside the directories that were made for it. -/
theorem write_of_none {path text : String} (h : (fs.write path text).1 = none) :
    ∃ fs' : Files, fs'.Passable (Place.start path) (pathSegments (parentPath path))
      ∧ fs'.walkPath path = .place (Place.ofPath path) ∧ fs'.stateAt (Place.ofPath path) ≠ .directory
      ∧ fs.write path text = (none, fs'.set (Place.ofPath path) (.file (Text.utf8Bytes text))) := by
  have hpassable : (fs.makeDirectories (Place.start path) (pathSegments (parentPath path))).1 = none →
      (fs.makeDirectories (Place.start path) (pathSegments (parentPath path))).2.Passable (Place.start path)
        (pathSegments (parentPath path)) := passable_makeDirectories
  unfold write at h ⊢
  generalize fs.makeDirectories (Place.start path) (pathSegments (parentPath path)) = made at h hpassable ⊢
  obtain ⟨_ | e, fs'⟩ := made
  · obtain ⟨place, hwalk, hnot, hwritten⟩ := writeFile_of_none h
    obtain rfl := walkPath_eq_place hwalk
    exact ⟨fs', hpassable rfl, hwalk, hnot, hwritten⟩
  · cases h

/-- A text is not written where a directory is. -/
theorem stateAt_ne_directory_of_write {path text : String} (h : (fs.write path text).1 = none) :
    fs.stateAt (Place.ofPath path) ≠ .directory := by
  intro hdirectory
  unfold write at h
  have hkept : (fs.makeDirectories (Place.start path) (pathSegments (parentPath path))).2.stateAt (Place.ofPath path)
      = .directory := directory_makeDirectories hdirectory
  generalize fs.makeDirectories (Place.start path) (pathSegments (parentPath path)) = made at h hkept
  obtain ⟨_ | e, fs'⟩ := made
  · obtain ⟨place, hwalk, hfree, -⟩ := writeFile_of_none h
    rw [← walkPath_eq_place hwalk] at hfree
    exact hfree hkept
  · cases h

/-- Directories that are there need not be made. -/
theorem makeDirectories_of_passable {segments : List String} (h : fs.Passable here segments) :
    fs.makeDirectories here segments = (none, fs) := by
  induction segments generalizing here with
  | nil => rfl
  | cons segment rest ih =>
      rw [makeDirectories, if_neg (Bool.eq_false_iff.mp h.1), h.2.1]
      exact ih h.2.2

/-- A file is moved to where a path leads, unless a directory is there. -/
theorem move_of_walkPath {source target : String} (hdots : endsInDots target = false)
    (hnames : namesDirectory target = false) (hwalk : fs.walkPath target = .place place)
    (hfree : fs.stateAt place ≠ .directory) :
    fs.move source target = (none, (fs.put target (fs.state source)).put source .absent) := by
  have hstate : fs.state target = fs.stateAt place := by
    rw [state, hwalk]
    dsimp only
    split
    · rename_i hfile
      rw [hfile, if_neg (Bool.eq_false_iff.mp hnames)]
    · rfl
  rw [move, if_neg (Bool.eq_false_iff.mp hdots), if_neg (Bool.eq_false_iff.mp hnames), hstate]
  -- what stands at a place is a file, a directory or nothing
  split
  · rename_i hdirectory
    exact absurd hdirectory hfree
  · rename_i hblocked
    exact absurd hblocked (stateAt_ne_of fs place).1
  · rename_i hlong
    exact absurd hlong (stateAt_ne_of fs place).2
  · rfl

/-- A text is written where a path leads, unless a directory is there. -/
theorem writeFile_of_walkPath {path text : String} (hwalk : fs.walkPath path = .place place)
    (hfree : fs.stateAt place ≠ .directory) :
    fs.writeFile path text = (none, fs.set place (.file (Text.utf8Bytes text))) := by
  rw [writeFile, hwalk]
  dsimp only
  split
  · rename_i hdirectory
    exact absurd hdirectory hfree
  · rfl

/-- What was moved stands where the target's path leads, which names no directory. -/
theorem move_of_none {source target : String} (h : (fs.move source target).1 = none) :
    namesDirectory target = false ∧ fs.state target ≠ .directory
      ∧ fs.move source target = (none, (fs.put target (fs.state source)).put source .absent) := by
  unfold move at h ⊢
  split at h
  · cases h
  · rename_i hdots
    rw [if_neg hdots]
    split at h
    · cases h
    · rename_i hnames
      rw [if_neg hnames]
      refine ⟨Bool.eq_false_iff.mpr hnames, ?_, ?_⟩
      · intro hdirectory
        rw [hdirectory] at h
        cases h
      · split at h
        · cases h
        · cases h
        · cases h
        · rfl

end PromptGraph.Files
