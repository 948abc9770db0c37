import PromptGraph.Proofs.Deploy.Phases
import PromptGraph.Proofs.Deploy.Recorded

/-!
# `Proofs.Deploy.Remembering` — the registry is read twice

A deployment reads the registry when it begins, and again when it puts into it what it came to. Nothing is written in
between, so the second reading brings what the first one brought. Once it was read, only the system can keep it from
being stored, which is no failure of the deployment.

## Contents
- **Reading.** `run_loadRegistry_congr`, `Loads.unique`: what is read depends on the files alone;
  `run_loadRegistry_of_text`: it is what the file's text says.
- **Storing.** `Files.stored`, `run_storeRegistry`, and `run_rememberDeployment_of_loads`.
-/

namespace PromptGraph

open Act

variable [Depth]

/-! ## Reading -/

/-- What is read of a registry depends on the files alone. -/
theorem run_loadRegistry_congr (path : Option String) {v w : Rehearsal} (h : v.files = w.files) :
    ((loadRegistry path).run Rehearsal.answer v).1 = ((loadRegistry path).run Rehearsal.answer w).1 := by
  refine (run_agree (R := fun v w : Rehearsal => v.files = w.files) ?_ (asks_loadRegistry (C := True) path) h).1
  rintro q s t (notice | path) hfiles
  · exact ⟨rfl, hfiles⟩
  · exact ⟨congrArg (fun files : Files => files.state path) hfiles, hfiles⟩

/-- A file that holds a text is read as what the text says. An invalid one is reported, and one that is nested too
    deeply is refused. -/
theorem run_loadRegistry_of_text {path text : String} {w : Rehearsal} (hpath : path ≠ "")
    (hpossible : isPossiblePath path = true) (hstate : w.files.state path = .file (Text.utf8Bytes text)) :
    (loadRegistry (some path)).run Rehearsal.answer w = match Registry.ofText text with
      | .entries r => (.value r, w)
      | .tooDeep => (.failure (.kind .nesting), w)
      | .invalid => (.value [], { w with notices := w.notices ++ [.registryInvalid path] }) := by
  have hsome : (some path).filter (· ≠ "") = some path := nonEmpty_of_ne hpath
  have hanswer : Rehearsal.answer (.readFile path) w = (.file (Text.utf8Bytes text), w) :=
    Prod.ext hstate rfl
  unfold loadRegistry
  rw [hsome]
  dsimp only
  rw [if_neg (by simp [hpossible]), run_ask, hanswer]
  dsimp only
  rw [Text.ofUtf8?_utf8Bytes]
  dsimp only
  cases Registry.ofText text <;> rfl

/-- A file that holds a registry's text is read as it, without a word. -/
theorem run_loadRegistry_of_file {path text : String} {r : Registry} {w : Rehearsal} (hpath : path ≠ "")
    (hpossible : isPossiblePath path = true) (hstate : w.files.state path = .file (Text.utf8Bytes text))
    (hread : Registry.ofText text = .entries r) :
    (loadRegistry (some path)).run Rehearsal.answer w = (.value r, w) := by
  rw [run_loadRegistry_of_text hpath hpossible hstate, hread]

/-- Where there is no file the registry is empty. -/
theorem run_loadRegistry_of_absent {path : String} {w : Rehearsal} (hpath : path ≠ "")
    (hpossible : isPossiblePath path = true) (hstate : w.files.state path = .absent) :
    (loadRegistry (some path)).run Rehearsal.answer w = (.value [], w) := by
  have hsome : (some path).filter (· ≠ "") = some path := nonEmpty_of_ne hpath
  have hanswer : Rehearsal.answer (.readFile path) w = (.absent, w) := Prod.ext hstate rfl
  unfold loadRegistry
  rw [hsome]
  dsimp only
  rw [if_neg (by simp [hpossible]), run_ask, hanswer]
  rfl

/-- A path from which a registry was read is one that can be. -/
theorem isPossiblePath_of_load {path : String} {r : Registry} {w : Rehearsal} (hpath : path ≠ "")
    (hload : ((loadRegistry (some path)).run Rehearsal.answer w).1 = .value r) : isPossiblePath path = true := by
  have hsome : (some path).filter (· ≠ "") = some path := nonEmpty_of_ne hpath
  unfold loadRegistry at hload
  rw [hsome] at hload
  dsimp only at hload
  by_contra hnot
  rw [if_pos (by simpa using hnot)] at hload
  cases hload

theorem Loads.run {ctx : DeployContext} {files : Files} {r : Registry} (h : Loads ctx files r) {w : Rehearsal}
    (hfiles : w.files = files) : ((loadRegistry ctx.registryPath).run Rehearsal.answer w).1 = .value r := by
  obtain ⟨v, hv, hrun⟩ := h
  rw [run_loadRegistry_congr ctx.registryPath (hfiles.trans hv.symm), hrun]

/-- Files hold one registry. -/
theorem Loads.unique {ctx : DeployContext} {files : Files} {r r' : Registry} (h : Loads ctx files r)
    (h' : Loads ctx files r') : r = r' := by
  obtain ⟨w, hfiles, hrun⟩ := h'
  cases (h.run hfiles).symm.trans hrun
  rfl

/-! ## Storing -/

/-- Files after a text was stored: it is written beside the path, and takes the place of what was there. -/
def Files.stored (fs : Files) (path text : String) : Option String × Files :=
  match fs.write (temporaryPath path) text with
  | (some e, fs) => (some e, fs)
  | (none, fs) => fs.move (temporaryPath path) path

omit [Depth] in
theorem run_storeRegistry (path : String) (r : Registry) (w : Rehearsal) :
    (storeRegistry path r).run Rehearsal.answer w
      = ((ofSystem (w.files.stored path r.toText).1).run Rehearsal.answer
          { w with files := (w.files.stored path r.toText).2 }) := by
  have hrun : (storeRegistry path r).run Rehearsal.answer w
      = ((ofSystem (w.files.write (temporaryPath path) r.toText).1 >>= fun _ =>
          perform (.moveFile (temporaryPath path) path) >>= fun e => ofSystem e).run Rehearsal.answer
          { w with files := (w.files.write (temporaryPath path) r.toText).2 }) := rfl
  rw [hrun, Files.stored]
  generalize w.files.write (temporaryPath path) r.toText = written
  obtain ⟨_ | e, files⟩ := written
  · rfl
  · rfl

/-- A registry that can be read is stored with the new entry, or the system refuses. -/
theorem run_storeDeployment (chain remote : String) {path : String} {r : Registry} {w : Rehearsal}
    (hload : ((loadRegistry (some path)).run Rehearsal.answer w).1 = .value r) :
    ∃ v : Rehearsal, v.files = w.files ∧ (storeDeployment path chain remote).run Rehearsal.answer w
      = (storeRegistry path (r.insert chain remote)).run Rehearsal.answer v := by
  have hfiles := (run_of_reading (C := True) (asks_loadRegistry (some path)) w).2.1
  refine ⟨_, hfiles, ?_⟩
  rw [storeDeployment, run_bind]
  generalize (loadRegistry (some path)).run Rehearsal.answer w = loaded at hload
  obtain ⟨o, v⟩ := loaded
  cases hload
  rfl

/-- The files after a deployment was remembered beside them. -/
def DeployContext.filesAfter (ctx : DeployContext) (r : Registry) (chain remote : String) (files : Files) : Files :=
  match nonEmpty ctx.registryPath with
  | none => files
  | some path => (files.stored path (r.insert chain remote).toText).2

/-- **A deployment is remembered where the registry can be read**, whether or not the system lets it be stored. -/
theorem run_rememberDeployment_of_loads {ctx : DeployContext} {r : Registry} {w : Rehearsal}
    (hload : Loads ctx w.files r) (chain remote : String) :
    ((rememberDeployment ctx chain remote).run Rehearsal.answer w).1 = .value ()
      ∧ ((rememberDeployment ctx chain remote).run Rehearsal.answer w).2.files
        = ctx.filesAfter r chain remote w.files := by
  rw [rememberDeployment_eq]
  show ((storeRemembered ctx chain remote).run Rehearsal.answer { w with cache := w.cache.insert chain remote }).1 = _
    ∧ ((storeRemembered ctx chain remote).run Rehearsal.answer _).2.files = _
  unfold storeRemembered DeployContext.filesAfter
  cases hpath : nonEmpty ctx.registryPath with
  | none => exact ⟨rfl, rfl⟩
  | some path =>
      have hsome := (nonEmpty_eq_some.mp hpath).1
      obtain ⟨v, hfiles, hstore⟩ := run_storeDeployment chain remote
        (hsome ▸ hload.run (w := { w with cache := w.cache.insert chain remote }) rfl)
      have hfiles : v.files = w.files := hfiles
      dsimp only
      rw [run_bind, run_attempt, hstore, run_storeRegistry, hfiles]
      generalize w.files.stored path (r.insert chain remote).toText = stored
      obtain ⟨_ | e, files⟩ := stored
      · exact ⟨rfl, rfl⟩
      · exact ⟨rfl, rfl⟩

end PromptGraph
