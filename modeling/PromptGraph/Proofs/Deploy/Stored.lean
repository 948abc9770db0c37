import PromptGraph.Proofs.Deploy.Remembering
import PromptGraph.Proofs.Effect.Directories
import PromptGraph.Proofs.Text.Segments

/-!
# `Proofs.Deploy.Stored` — what was stored is found again

A registry is stored by way of a temporary file in the same directory. When the system allows all of it, the path leads
to the new text: the directories on the way are still there after the temporary file has been moved.

## Contents
- **Files.** `Files.stored_of_none`, `Files.state_stored`; `Files.Writable`: texts can be stored under a path, one after
  another, and `Files.Writable.holds_temporary_stored`: no temporary file is left.
- **Registries.** `Loads.stored`: a registry that was stored with an entry is read back with it.
-/

namespace PromptGraph

open Act

/-! ## Files -/

namespace Files

variable {fs : Files} {dir p : Place} {source target : String} {state : FileState}

/-- A directory stays one when a file is moved beside where it was. -/
theorem directory_replaced (h : fs.stateAt p = .directory) (hsource : p ≠ dir ++ [source])
    (htarget : p ≠ dir ++ [target]) (hne : target ≠ source) (hstate : state ≠ .absent) :
    ((fs.set (dir ++ [target]) state).set (dir ++ [source]) .absent).stateAt p = .directory := by
  refine directory_set_of_reaches (directory_set h htarget hstate) hsource ?_
  rintro ⟨f, hf, hbelow, hthere⟩
  by_cases hgone : f.1 = dir ++ [source]
  · -- what stands below it is moved away, to a place that is below it as well
    rw [hgone] at hbelow
    rcases List.prefix_concat_iff.mp hbelow with heq | hdir
    · exact absurd heq hsource
    · refine ⟨(dir ++ [target], state), mem_set_of_mem (mem_set_self fs _ state) ?_, ?_, hstate⟩
      · simpa using hne
      · exact hdir.trans (List.prefix_append dir [target])
  · exact ⟨f, mem_set_of_mem hf hgone, hbelow, hthere⟩

/-- A file to which a path leads is found under it. -/
theorem state_of_walkPath {path : String} {place : Place} {bytes : List UInt8} (hnames : namesDirectory path = false)
    (hwalk : fs.walkPath path = .place place) (hget : fs.get? place = some (.file bytes)) :
    fs.state path = .file bytes := by
  rw [state, hwalk]
  dsimp only
  rw [stateAt_of_file hget]
  exact if_neg (Bool.eq_false_iff.mp hnames)

/-- The place of a path is in the directory to which its other segments lead. -/
theorem ofPath_concat {path last : String} (dirs : List String) (h : pathSegments path = dirs ++ [last])
    (hlast : last ≠ "..") : Place.ofPath path = dirs.foldl Place.step (Place.start path) ++ [last] := by
  rw [Place.ofPath, h, List.foldl_append]
  exact if_neg hlast

/-- A path that names no directory has segments that lead to one, and a last segment. -/
structure Parts (path : String) (dirs : List String) (last : String) : Prop where
  names : namesDirectory path = false
  names_temporary : namesDirectory (temporaryPath path) = false
  segments : pathSegments path = dirs ++ [last]
  segments_temporary : pathSegments (temporaryPath path) = dirs ++ [last ++ ".tmp"]
  place : Place.ofPath path = dirs.foldl Place.step (Place.start path) ++ [last]
  place_temporary : Place.ofPath (temporaryPath path) = dirs.foldl Place.step (Place.start path) ++ [last ++ ".tmp"]
  parent : pathSegments (parentPath (temporaryPath path)) = dirs

/-- Neither the temporary path nor its last name is too long. -/
def Fits (path last : String) : Prop :=
  ¬ (pathLimit < (temporaryPath path).utf8ByteSize ∨ isLongName (last ++ ".tmp") = true)

namespace Parts

variable {path last : String} {dirs : List String} {bytes : List UInt8}

theorem of_names (h : namesDirectory path = false) : ∃ dirs last, Parts path dirs last := by
  obtain ⟨dirs, last, hpath, htmp, hdirs, hlast, hsuffixed, htmpNames⟩ := pathSegments_temporaryPath h
  have hstart := start_temporaryPath (ne_empty_of_namesDirectory h)
  exact ⟨dirs, last, h, htmpNames, hpath, htmp, ofPath_concat dirs hpath hlast,
    hstart ▸ ofPath_concat dirs htmp hsuffixed, hdirs⟩

theorem start (h : Parts path dirs last) : Place.start (temporaryPath path) = Place.start path :=
  start_temporaryPath (ne_empty_of_namesDirectory h.names)

theorem place_ne (h : Parts path dirs last) : Place.ofPath (temporaryPath path) ≠ Place.ofPath path := by
  rw [h.place, h.place_temporary]
  simp

/-- The temporary file is beside the path: neither is below the other. -/
theorem not_prefix (h : Parts path dirs last) : ¬ Place.ofPath path <+: Place.ofPath (temporaryPath path)
    ∧ ¬ Place.ofPath (temporaryPath path) <+: Place.ofPath path := by
  have hlength : (Place.ofPath path).length = (Place.ofPath (temporaryPath path)).length := by
    rw [h.place, h.place_temporary, List.length_append, List.length_append]
    rfl
  exact ⟨fun hp => h.place_ne (hp.eq_of_length hlength).symm, fun hp => h.place_ne (hp.eq_of_length hlength.symm)⟩

theorem walkPath_temporary (h : Parts path dirs last) (hpassable : fs.Passable (Place.start path) dirs) :
    fs.walkPath (temporaryPath path) = .place (Place.ofPath (temporaryPath path)) ↔ Fits path last := by
  rw [walkPath_of_passable (temporaryPath_ne_empty path) h.segments_temporary (h.start ▸ hpassable), Fits]
  split
  · rename_i hlong
    exact ⟨nofun, fun hfits => absurd hlong hfits⟩
  · rename_i hfits
    exact ⟨fun _ => hfits, fun _ => rfl⟩

/-- A path is shorter than its temporary path. -/
theorem walkPath (h : Parts path dirs last) (hpassable : fs.Passable (Place.start path) dirs)
    (hfits : Fits path last) : fs.walkPath path = .place (Place.ofPath path) := by
  have hshort : ¬ (pathLimit < path.utf8ByteSize ∨ isLongName last = true) := by
    rw [Fits, temporaryPath, isLongName, String.utf8ByteSize_append, String.utf8ByteSize_append,
      decide_eq_true_iff] at hfits
    rw [isLongName, decide_eq_true_iff]
    omega
  rw [walkPath_of_passable (ne_empty_of_namesDirectory h.names) h.segments hpassable, if_neg hshort]

/-- The way to a path is kept when a file is written beside it. -/
theorem passable_written (hpassable : fs.Passable (Place.start path) dirs)
    (hfree : fs.stateAt (Place.ofPath (temporaryPath path)) ≠ .directory) (bytes : List UInt8) :
    (fs.set (Place.ofPath (temporaryPath path)) (.file bytes)).Passable (Place.start path) dirs := by
  refine hpassable.mono fun p hp => directory_set hp ?_ nofun
  rintro rfl
  exact hfree hp

/-- The way to a path is kept when the file beside it is moved there. -/
theorem passable_moved (h : Parts path dirs last) (hpassable : fs.Passable (Place.start path) dirs)
    (hfile : fs.get? (Place.ofPath (temporaryPath path)) = some (.file bytes))
    (hfree : fs.stateAt (Place.ofPath path) ≠ .directory) :
    ((fs.set (Place.ofPath path) (.file bytes)).set (Place.ofPath (temporaryPath path)) .absent).Passable
      (Place.start path) dirs := by
  refine hpassable.mono fun p hp => ?_
  rw [h.place, h.place_temporary]
  refine directory_replaced hp ?_ ?_ (Ne.symm (by simp)) nofun
  · rintro rfl
    rw [← h.place_temporary, stateAt_of_file hfile] at hp
    cases hp
  · rintro rfl
    exact hfree (h.place ▸ hp)

/-- What was moved to a path is found there. -/
theorem state_moved (h : Parts path dirs last) (hpassable : fs.Passable (Place.start path) dirs)
    (hfits : Fits path last) (hfile : fs.get? (Place.ofPath (temporaryPath path)) = some (.file bytes))
    (hnot : fs.state path ≠ .directory) :
    ((fs.put path (fs.state (temporaryPath path))).put (temporaryPath path) .absent).state path = .file bytes := by
  have hread : fs.state (temporaryPath path) = .file bytes :=
    state_of_walkPath h.names_temporary ((h.walkPath_temporary hpassable).mpr hfits) hfile
  have hfree : fs.stateAt (Place.ofPath path) ≠ .directory := by
    intro hdirectory
    refine hnot ?_
    rw [state, h.walkPath hpassable hfits]
    dsimp only
    rw [hdirectory]
  rw [hread, put, put]
  refine state_of_walkPath h.names (h.walkPath (h.passable_moved hpassable hfile hfree) hfits) ?_
  rw [get?_set, if_neg h.place_ne, get?_set, if_pos rfl]

end Parts

/-- A text that was stored was written beside the path, and moved there from where it was written. -/
theorem stored_of_none {fs : Files} {path text : String} (h : (fs.stored path text).1 = none) :
    ∃ fs₁, fs.write (temporaryPath path) text = (none, fs₁) ∧ namesDirectory path = false
      ∧ fs₁.state path ≠ .directory
      ∧ fs.stored path text = (none, (fs₁.put path (fs₁.state (temporaryPath path))).put (temporaryPath path) .absent) := by
  unfold stored at h ⊢
  cases hwritten : fs.write (temporaryPath path) text with
  | mk e fs₁ =>
      rw [hwritten] at h
      cases e with
      | some e => cases h
      | none =>
          obtain ⟨hnames, hnot, hmoved⟩ := move_of_none h
          exact ⟨fs₁, rfl, hnames, hnot, hmoved⟩

/-- **What was stored is found**, if the system has allowed it to be stored. -/
theorem state_stored {fs : Files} {path text : String} (h : (fs.stored path text).1 = none) :
    (fs.stored path text).2.state path = .file (Text.utf8Bytes text) := by
  obtain ⟨fs₁, hwritten, hnames, hnot, hstored⟩ := stored_of_none h
  obtain ⟨fs', hpassable, hwalk, hfree, hset⟩ := write_of_none (congrArg Prod.fst hwritten)
  cases hwritten.symm.trans hset
  obtain ⟨dirs, last, hparts⟩ := Parts.of_names hnames
  rw [hparts.start, hparts.parent] at hpassable
  rw [hstored]
  exact hparts.state_moved (Parts.passable_written hpassable hfree _)
    ((hparts.walkPath_temporary hpassable).mp hwalk) (by rw [get?_set, if_pos rfl]) hnot

/-- Whatever texts were stored under a path before, the system allows one more. -/
def Writable (fs : Files) (path : String) : Prop :=
  ∀ (before : List String) (text : String),
    ((before.foldl (fun fs text => (fs.stored path text).2) fs).stored path text).1 = none

namespace Writable

variable {path : String}

theorem stored_eq_none (h : fs.Writable path) (text : String) : (fs.stored path text).1 = none := h [] text

/-- What is stored under a path leaves it writable. -/
theorem stored (h : fs.Writable path) (text : String) : (fs.stored path text).2.Writable path :=
  fun before => h (text :: before)

/-- A path that can be written to is not empty. -/
theorem ne_empty (h : fs.Writable path) : path ≠ "" := by
  obtain ⟨_, -, hnames, -, -⟩ := stored_of_none (h.stored_eq_none "")
  exact ne_empty_of_namesDirectory hnames

/-- **No temporary file is left**, nor anything else in its place: it would keep the next text from being stored. -/
theorem holds_temporary_stored (h : fs.Writable path) (text : String) :
    (fs.stored path text).2.holds (temporaryPath path) = false := by
  obtain ⟨fs₁, -, -, -, hstored⟩ := stored_of_none (h.stored_eq_none text)
  obtain ⟨_, hwritten, -, -, -⟩ := stored_of_none ((h.stored text).stored_eq_none "")
  have hfree : (fs.stored path text).2.stateAt (Place.ofPath (temporaryPath path)) ≠ .directory :=
    stateAt_ne_directory_of_write (congrArg Prod.fst hwritten)
  have hgone : (fs.stored path text).2.get? (Place.ofPath (temporaryPath path)) = some .absent := by
    rw [hstored]
    show Files.get? _ (Files.set _ _ _) = _
    rw [get?_set, if_pos rfl]
  unfold holds
  split
  · rename_i hfile
    rw [get?_of_state hfile] at hgone
    cases hgone
  · rename_i hdirectory
    exact absurd (directory_of_state hdirectory) hfree
  · rfl

end Writable

/-- A path is ready for texts to be stored: its directories are there, it is no directory, and nothing is left where
    the temporary file will be. -/
structure Ready (fs : Files) (path : String) (dirs : List String) (last : String) : Prop where
  parts : Parts path dirs last
  fits : Fits path last
  passable : fs.Passable (Place.start path) dirs
  free : fs.stateAt (Place.ofPath path) ≠ .directory
  clear : ¬ fs.Reaches (Place.ofPath (temporaryPath path))

/-- A name that is not too short for it is no dots and no slash. -/
theorem isAbove_concat (dir : Place) (name : String) : Place.isAbove (dir ++ [name ++ ".tmp"]) = false := by
  have hne : ∀ short : String, short.length < 4 → name ++ ".tmp" ≠ short := by
    rintro short hshort rfl
    rw [String.length_append] at hshort
    exact absurd hshort (Nat.not_lt.mpr (Nat.le_add_left 4 _))
  have hdots := hne ".." (by decide)
  have hslash := hne "/" (by decide)
  have hroot : dir ++ [name ++ ".tmp"] ≠ Place.root := by
    intro h
    have hlast := congrArg List.getLast? h
    rw [List.getLast?_concat] at hlast
    exact hslash (Option.some.inj hlast)
  simp [Place.isAbove, hroot, hdots]

namespace Ready

variable {path last : String} {dirs : List String}

theorem free_temporary (h : fs.Ready path dirs last) : fs.stateAt (Place.ofPath (temporaryPath path)) ≠ .directory :=
  stateAt_ne_directory (h.parts.place_temporary ▸ isAbove_concat _ _) h.clear

theorem free_written (h : fs.Ready path dirs last) (bytes : List UInt8) :
    (fs.set (Place.ofPath (temporaryPath path)) (.file bytes)).stateAt (Place.ofPath path) ≠ .directory :=
  fun hdirectory => h.free (directory_of_set hdirectory h.parts.not_prefix.1)

/-- A text is stored at a path that is ready, by way of the temporary file. -/
theorem stored_eq (h : fs.Ready path dirs last) (text : String) :
    fs.stored path text
      = (none, ((fs.set (Place.ofPath (temporaryPath path)) (.file (Text.utf8Bytes text))).set (Place.ofPath path)
          (.file (Text.utf8Bytes text))).set (Place.ofPath (temporaryPath path)) .absent) := by
  have hpassable := Parts.passable_written h.passable h.free_temporary (Text.utf8Bytes text)
  have hwrite : fs.write (temporaryPath path) text
      = (none, fs.set (Place.ofPath (temporaryPath path)) (.file (Text.utf8Bytes text))) := by
    rw [write, h.parts.start, h.parts.parent, makeDirectories_of_passable h.passable]
    exact writeFile_of_walkPath ((h.parts.walkPath_temporary h.passable).mpr h.fits) h.free_temporary
  have hread := state_of_walkPath h.parts.names_temporary ((h.parts.walkPath_temporary hpassable).mpr h.fits)
    (by rw [get?_set, if_pos rfl])
  rw [Files.stored, hwrite]
  dsimp only
  rw [move_of_walkPath (endsInDots_of_namesDirectory h.parts.names) h.parts.names
    (h.parts.walkPath hpassable h.fits) (h.free_written _), hread]
  rfl

/-- A path that is ready is ready again after a text was stored. -/
theorem stored (h : fs.Ready path dirs last) (text : String) : (fs.stored path text).2.Ready path dirs last := by
  have hpassable := Parts.passable_written h.passable h.free_temporary (Text.utf8Bytes text)
  rw [h.stored_eq]
  refine ⟨h.parts, h.fits, ?_, ?_, ?_⟩
  · exact h.parts.passable_moved hpassable (by rw [get?_set, if_pos rfl]) (h.free_written _)
  · rw [stateAt_of_file (by rw [get?_set, if_neg h.parts.place_ne, get?_set, if_pos rfl])]
    nofun
  · rintro ⟨f, hf, hbelow, hthere⟩
    rcases mem_of_mem_set_set_set h.parts.place_ne.symm hf with rfl | rfl | hold
    · exact hthere rfl
    · exact h.parts.not_prefix.2 hbelow
    · exact h.clear ⟨f, hold, hbelow, hthere⟩

/-- **A path that is ready is writable.** -/
theorem writable (h : fs.Ready path dirs last) : fs.Writable path := by
  intro before
  induction before generalizing fs with
  | nil => exact fun text => congrArg Prod.fst (h.stored_eq text)
  | cons first rest ih => exact ih (h.stored first)

end Ready

/-- The parts of a path in the working directory. -/
theorem parts_plain : Parts "reg.json" [] "reg.json" := by
  have hnames : namesDirectory "reg.json" = false := by
    rw [namesDirectory, lastSegment, splitOn_slash]
    decide +kernel
  have hnamesTemporary : namesDirectory (temporaryPath "reg.json") = false := by
    rw [namesDirectory, lastSegment, splitOn_slash]
    decide +kernel
  have hsegments : pathSegments "reg.json" = ["reg.json"] := by
    rw [pathSegments, splitOn_slash]
    decide +kernel
  have hsegmentsTemporary : pathSegments (temporaryPath "reg.json") = ["reg.json.tmp"] := by
    rw [pathSegments, splitOn_slash]
    decide +kernel
  have hparent : pathSegments (parentPath (temporaryPath "reg.json")) = [] := by
    rw [pathSegments, parentPath, splitOn_slash, splitOn_slash]
    decide +kernel
  have hstart : Place.start (temporaryPath "reg.json") = Place.start "reg.json" := start_temporaryPath (by decide)
  exact ⟨hnames, hnamesTemporary, hsegments, hsegmentsTemporary, ofPath_concat [] hsegments (by decide),
    hstart ▸ ofPath_concat [] hsegmentsTemporary (by decide), hparent⟩

theorem ofPath_plain : Place.ofPath "reg.json" = ["reg.json"] := parts_plain.place.trans (by decide +kernel)

theorem fits_plain : Fits "reg.json" "reg.json" := by
  unfold Fits
  decide +kernel

end Files

/-! ## Registries -/

section Registries

variable {ctx : DeployContext} {files : Files} {r : Registry} {path : String}

/-- A registry that is read has one entry for each chain. -/
theorem Loads.nodup [Depth] (h : Loads ctx files r) : r.chains.Nodup := by
  obtain ⟨w, -, hrun⟩ := h
  have hfiled : Filed ctx.registryPath (fun _ _ => True) w.files :=
    fun _ _ _ _ _ _ _ hread => ⟨Registry.nodup_ofText hread, fun _ _ => trivial⟩
  exact (run_loadRegistry hfiled hrun).1

/-- **A registry that was stored with an entry is read back with it**, and with all the others. -/
theorem Loads.stored [Depth] (hpath : nonEmpty ctx.registryPath = some path) (h : Loads ctx files r)
    (chain remote : String) (hstored : (files.stored path (r.insert chain remote).toText).1 = none) :
    Loads ctx (files.stored path (r.insert chain remote).toText).2 (Json.sortedByName (r.insert chain remote)) := by
  have hnodup := Registry.nodup_insert h.nodup chain remote
  obtain ⟨w, -, hrun⟩ := h
  obtain ⟨hsome, hne⟩ := nonEmpty_eq_some.mp hpath
  refine ⟨{ w with files := (files.stored path (r.insert chain remote).toText).2 }, rfl, ?_⟩
  rw [hsome] at hrun ⊢
  rw [run_loadRegistry_of_file hne (isPossiblePath_of_load hne hrun) (Files.state_stored hstored)
    (Registry.ofText_toText hnodup)]

end Registries

end PromptGraph
