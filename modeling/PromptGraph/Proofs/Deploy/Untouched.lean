import PromptGraph.Proofs.Deploy.Sessions
import PromptGraph.Proofs.Deploy.Stored

/-!
# `Proofs.Deploy.Untouched` — a deployment that fails leaves no trace nearby

A deployment seeks until it has come to an active workflow, and seeking changes neither the cache nor a file. From then
on it cannot fail any more: it has read the registry before, so it can be read again, and a registry that the system
does not let be stored is only reported. What fails has therefore changed nothing nearby.

## Contents
- **Seeking.** `run_placeDefinition_loads`: a deployment that has come to a workflow has read the registry.
- **Failing.** `run_deployDefinition_untouched`, `ensureDeployed_untouched`; an engine that fails at the last request.
-/

namespace PromptGraph

open Act Engine Http

section

variable {ctx : DeployContext} {chain : String} {d : Definition} {w v t : Rehearsal} {o : End String}

/-! ## Seeking -/

/-- A deployment that has come to a workflow has read the registry, which is as it was. -/
theorem run_placeDefinition_loads [Depth] {remote : String}
    (hrun : (placeDefinition ctx chain d).run Rehearsal.answer w = (.value remote, v)) :
    ∃ r, Loads ctx v.files r := by
  have hfiles := (run_of_seeking (asks_placeDefinition ctx chain d) w).2
  rw [hrun] at hfiles
  rw [placeDefinition, updateRegistered_eq, bind_bind] at hrun
  rcases run_bind_cases hrun with ⟨r, u, hload, -⟩ | ⟨e, -, hend⟩ | ⟨-, hend⟩
  · exact ⟨r, w, hfiles.symm, by rw [hload]⟩
  · cases hend
  · cases hend

/-! ## Failing -/

/-- A definition that could not be deployed has changed neither the cache nor a file. -/
theorem run_deployDefinition_untouched [Depth]
    (hrun : (deployDefinition ctx chain d).run Rehearsal.answer w = (o, t)) (hfailed : ∀ r, o ≠ .value r) :
    t.cache = w.cache ∧ t.files = w.files := by
  have hkept := run_of_seeking (asks_placeDefinition ctx chain d) w
  rw [deployDefinition_eq_place] at hrun
  rcases run_bind_cases hrun with ⟨remote, v, hplaced, hrest⟩ | ⟨e, hplaced, -⟩ | ⟨hplaced, -⟩
  · -- an active workflow is remembered: from here on the deployment does not fail
    obtain ⟨r, hload⟩ := run_placeDefinition_loads hplaced
    have hremembered := (run_rememberDeployment_of_loads hload chain remote).1
    rcases run_bind_cases hrest with ⟨_, u, -, hlast⟩ | ⟨e, hfirst, -⟩ | ⟨hfirst, -⟩
    · cases hlast
      exact absurd rfl (hfailed remote)
    · rw [hfirst] at hremembered
      cases hremembered
    · rw [hfirst] at hremembered
      cases hremembered
  · rw [hplaced] at hkept
    exact hkept
  · rw [hplaced] at hkept
    exact hkept

/-- Notices are reported without an end before the last. -/
theorem run_reportAll (notices : List Notice) (w : Rehearsal) :
    (reportAll notices).run Rehearsal.answer w = (.value (), { w with notices := w.notices ++ notices }) := by
  induction notices generalizing w with
  | nil => rw [List.append_nil]; rfl
  | cons n rest ih =>
      have hrest := ih { w with notices := w.notices ++ [n] }
      rw [List.append_assoc] at hrest
      exact hrest

/-- **A deployment that does not return leaves the cache and the files as they were**, whatever they hold and whatever
    the engine answers; and where the chain does not compile, that is the failure, and no request was sent. -/
theorem ensureDeployed_untouched [Depth] (ctx : DeployContext) (c : Chain) (org : Option String) (w t : Rehearsal)
    (o : End String) (hrun : (ensureDeployed ctx c org).run Rehearsal.answer w = (o, t))
    (hfailed : ∀ r, o ≠ .value r) :
    t.cache = w.cache ∧ t.files = w.files
      ∧ ∀ e, compileChain (settingFor ctx.rewrites org c) c = .error e → o = .failure e ∧ t.requests = w.requests := by
  rw [ensureDeployed_eq] at hrun
  replace hrun : (afterLookUp ctx c org (w.cache.get? c.id)).run Rehearsal.answer w = (o, t) := hrun
  unfold afterLookUp at hrun
  cases hcached : nonEmpty (w.cache.get? c.id) with
  | some remote =>
      rw [hcached] at hrun
      cases hrun
      exact absurd rfl (hfailed remote)
  | none =>
      -- the notices of the compilation are read out before its result
      rw [hcached] at hrun
      dsimp only at hrun
      rw [run_bind, run_reportAll] at hrun
      dsimp only at hrun
      cases hcompiled : compileChain (settingFor ctx.rewrites org c) c with
      | error e =>
          rw [hcompiled] at hrun
          cases hrun
          refine ⟨rfl, rfl, fun e' he => ⟨?_, rfl⟩⟩
          cases he
          rfl
      | ok d =>
          rw [hcompiled] at hrun
          obtain ⟨hcache, hfiles⟩ := run_deployDefinition_untouched hrun hfailed
          exact ⟨hcache, hfiles, fun e he => by cases he⟩

end

/-- A cache and a registry of other chains, and an engine that makes a workflow but does not activate it. -/
def strandedRehearsal : Rehearsal :=
  { Site.empty.near with
    cache := [("other", "5")],
    files := [(["reg.json"], .file (Text.utf8Bytes "\x7b\"other\": \"5\"\x7d"))],
    replies := [.answer 200 (.json (.arr [])), .answer 200 (.json (.obj [("id", .str "6")])),
      .answer 500 (.text "down")] }

theorem run_strandedRehearsal :
    (ensureDeployed .filed (emptyChain "chain" "Chain") none).run Rehearsal.answer strandedRehearsal
      = (ofExcept (compileChain (settingFor Rewrites.default none (emptyChain "chain" "Chain"))
          (emptyChain "chain" "Chain")) >>= fun d => updateNamed "chain" d [("other", "5")]
            >>= afterRegistered .filed "chain" d).run Rehearsal.answer strandedRehearsal := by
  have hstate : strandedRehearsal.files.state "reg.json" = .file (Text.utf8Bytes "\x7b\"other\": \"5\"\x7d") :=
    Files.state_of_walkPath Files.parts_plain.names (Files.parts_plain.walkPath trivial Files.fits_plain)
      (by rw [Files.ofPath_plain]; rfl)
  exact run_ensureDeployed_of_load .filed (emptyChain "chain" "Chain") none rfl rfl
    (run_loadRegistry_of_file (by decide) (by decide +kernel) hstate (by decide +kernel))

theorem ensureDeployed_untouched_stranded : ∃ o t,
    (ensureDeployed .filed (emptyChain "chain" "Chain") none).run Rehearsal.answer strandedRehearsal = (o, t)
      ∧ (∀ r, o ≠ .value r) ∧ t.requests.length = 3
      ∧ t.cache = strandedRehearsal.cache ∧ t.files = strandedRehearsal.files := by
  obtain ⟨⟨o, t⟩, hrun⟩ : ∃ ended, (ensureDeployed .filed (emptyChain "chain" "Chain") none).run Rehearsal.answer
      strandedRehearsal = ended := ⟨_, rfl⟩
  have hended := run_strandedRehearsal.symm.trans hrun
  have hvalue : o.value? = none := (congrArg (fun x => x.1.value?) hended).symm.trans (by decide +kernel)
  have hlength : t.requests.length = 3 :=
    (congrArg (fun x => x.2.requests.length) hended).symm.trans (by decide +kernel)
  have hfailed : ∀ r, o ≠ .value r := by
    rintro r rfl
    cases hvalue
  obtain ⟨hcache, hfiles, -⟩ := ensureDeployed_untouched _ _ _ _ _ _ hrun hfailed
  exact ⟨o, t, hrun, hfailed, hlength, hcache, hfiles⟩

end PromptGraph
