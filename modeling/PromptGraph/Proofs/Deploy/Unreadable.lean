import PromptGraph.Proofs.Deploy.RegistryMap
import PromptGraph.Proofs.Deploy.Untouched

/-!
# `Proofs.Deploy.Unreadable` — what a registry that cannot be read does to a deployment

Whatever stands under its path, a registry is loaded, with two exceptions: bytes that are no text, and a text that is
nested too deeply. What is loaded is empty unless the file holds an object. A deployment loads the registry before its
first request, so it goes on without a registered workflow where nothing was loaded, and ends there where loading fails.

## Contents
- **Files.** `FileState.Refuses`: what keeps a file from being loaded; `FileState.Lists`: the registry that it holds.
- **Loading.** `lists_of_ofText`: what a text says; `loadedFrom`: what is made of a file's state;
  `run_loadedFrom_of_refuses`, `run_loadedFrom_of_not_refuses`: a file is refused or loaded.
- **Deploying.** `run_ensureDeployed_of_uncached` and, for a refused file and an unlisted chain, its two courses;
  `registry_is_loaded_unless_refused`, `undecodable_registry_ends_deployment`.
-/

namespace PromptGraph

open Act

section

variable [Depth]
variable {path : String} {w : Rehearsal} {state : FileState} {r : Registry}

/-! ## Files -/

/-- What keeps a file from being loaded as a registry. -/
inductive FileState.Refuses : FileState → KindFault → Prop where
  /-- The bytes are those of no text. -/
  | encoding {bytes : List UInt8} (h : ∀ text, bytes ≠ Text.utf8Bytes text) : Refuses (.file bytes) .encoding
  | nesting {text : String} (h : NestsTooDeeply text) : Refuses (.file (Text.utf8Bytes text)) .nesting

/-- There is a file whose text is an object with these members. -/
def FileState.HoldsObject (state : FileState) (ms : Members) : Prop :=
  ∃ text, state = .file (Text.utf8Bytes text) ∧ Json.read (Text.strip text) = .ok (.obj ms)

/-- A registry has the entries of the object in a file; where there is no file, or no object in it, it is empty. -/
structure FileState.Lists (state : FileState) (r : Registry) : Prop where
  object : ∀ ms, state.HoldsObject ms → r = Registry.ofJson (.obj ms)
  nothing : (∀ ms, ¬ state.HoldsObject ms) → r = []

/-- Surroundings to which something more was reported. -/
def Rehearsal.noticing (w : Rehearsal) (notices : List Notice) : Rehearsal := { w with notices := w.notices ++ notices }

omit [Depth] in
@[simp] theorem Rehearsal.noticing_nil (w : Rehearsal) : w.noticing [] = w := by
  rw [noticing, List.append_nil]

omit [Depth] in
@[simp] theorem Rehearsal.noticing_noticing (w : Rehearsal) (first more : List Notice) :
    (w.noticing first).noticing more = w.noticing (first ++ more) := by
  simp only [noticing, List.append_assoc]

omit [Depth] in
@[simp] theorem Rehearsal.files_noticing (w : Rehearsal) (notices : List Notice) :
    (w.noticing notices).files = w.files := rfl

omit [Depth] in
theorem utf8Bytes_injective {s t : String} (h : Text.utf8Bytes s = Text.utf8Bytes t) : s = t := by
  have hread := Text.ofUtf8?_utf8Bytes s
  rw [h, Text.ofUtf8?_utf8Bytes] at hread
  exact (Option.some.inj hread).symm

/-- A text is refused for its nesting only. -/
theorem not_refuses_text {text : String} (h : ¬ NestsTooDeeply text) (fault : KindFault) :
    ¬ (FileState.file (Text.utf8Bytes text)).Refuses fault := by
  generalize hstate : FileState.file (Text.utf8Bytes text) = state
  rintro (hnone | hdeep)
  · exact hnone text (FileState.file.inj hstate).symm
  · exact h (utf8Bytes_injective (FileState.file.inj hstate) ▸ hdeep)

theorem holdsObject_text {text : String} {ms : Members} :
    (FileState.file (Text.utf8Bytes text)).HoldsObject ms ↔ Json.read (Text.strip text) = .ok (.obj ms) := by
  constructor
  · rintro ⟨other, hother, hread⟩
    rw [utf8Bytes_injective (FileState.file.inj hother)]
    exact hread
  · intro hread
    exact ⟨text, rfl, hread⟩

theorem FileState.HoldsObject.unique {ms ms' : Members} (h : state.HoldsObject ms) (h' : state.HoldsObject ms') :
    ms = ms' := by
  obtain ⟨text, rfl, hread⟩ := h
  exact Json.obj.inj (Except.ok.inj (hread.symm.trans (holdsObject_text.mp h')))

/-- A file holds one registry. -/
theorem FileState.Lists.unique {r' : Registry} (h : state.Lists r) (h' : state.Lists r') : r = r' := by
  by_cases hnone : ∀ ms, ¬ state.HoldsObject ms
  · rw [h.nothing hnone, h'.nothing hnone]
  · obtain ⟨ms, hms⟩ := not_forall_not.mp hnone
    rw [h.object ms hms, h'.object ms hms]

theorem lists_of_no_file (h : ∀ bytes, state ≠ .file bytes) : state.Lists [] where
  object ms := by
    rintro ⟨text, hfile, -⟩
    exact absurd hfile (h _)
  nothing _ := rfl

/-! ## Loading -/

/-- What a text says is a matter of its data value; a blank text has none, and is no fault. -/
theorem Registry.ofText_eq (text : String) : ofText text =
    match Json.read (Text.strip text) with
    | .ok v => .entries (ofJson v)
    | .error .tooDeep => .tooDeep
    | .error _ => if Text.strip text = "" then .entries [] else .invalid := by
  unfold ofText
  dsimp only
  split
  next hblank =>
    have hempty : Json.read "" = .error (.syntaxAt .value 1 1 0) := rfl
    rw [hblank, hempty]
  next => rfl

theorem lists_ofJson {text : String} {v : Json} (hread : Json.read (Text.strip text) = .ok v) :
    (FileState.file (Text.utf8Bytes text)).Lists (Registry.ofJson v) where
  object ms hms := by
    rw [holdsObject_text, hread] at hms
    rw [Except.ok.inj hms]
  nothing hnone := by
    simp only [holdsObject_text] at hnone
    -- a value that is no object has no entries
    cases v with
    | obj ms => exact absurd hread (hnone ms)
    | _ => rfl

theorem lists_of_error {text : String} {fault : JsonFault} (hread : Json.read (Text.strip text) = .error fault) :
    (FileState.file (Text.utf8Bytes text)).Lists [] where
  object ms hms := by
    rw [holdsObject_text, hread] at hms
    cases hms
  nothing _ := rfl

/-- What a text says, unless it is nested too deeply, is what a file with it lists. -/
theorem lists_of_ofText (text : String) :
    match Registry.ofText text with
    | .entries r => (FileState.file (Text.utf8Bytes text)).Lists r
    | .invalid => (FileState.file (Text.utf8Bytes text)).Lists []
    | .tooDeep => NestsTooDeeply text := by
  rw [Registry.ofText_eq]
  cases hread : Json.read (Text.strip text) with
  | ok v => exact lists_ofJson hread
  | error fault =>
      have hlists := lists_of_error hread
      cases fault with
      | tooDeep => exact hread
      | _ =>
          by_cases hblank : Text.strip text = ""
          · simpa only [hblank, if_true] using hlists
          · simpa only [hblank, if_false] using hlists

/-- The registry that is loaded from what stands under a path. -/
def loadedFrom (path : String) : FileState → Act Registry
  | .absent => .done []
  | .directory => unreadable path "IsADirectoryError"
  | .blocked => unreadable path "NotADirectoryError"
  | .tooLong => unreadable path "OSError"
  | .file bytes =>
    match Text.ofUtf8? bytes with
    | none => .failed (.kind .encoding)
    | some text =>
      match Registry.ofText text with
      | .entries r => .done r
      | .tooDeep => .failed (.kind .nesting)
      | .invalid => report (.registryInvalid path) >>= fun _ => pure []

theorem run_loadRegistry_eq (hpath : path ≠ "") (hpossible : isPossiblePath path = true) (w : Rehearsal) :
    (loadRegistry (some path)).run Rehearsal.answer w = (loadedFrom path (w.files.state path)).run Rehearsal.answer w := by
  have hsome : (some path).filter (· ≠ "") = some path := nonEmpty_of_ne hpath
  have hanswer : Rehearsal.answer (.readFile path) w = (w.files.state path, w) := rfl
  unfold loadRegistry
  rw [hsome]
  dsimp only
  rw [if_neg (by simp [hpossible]), run_ask, hanswer]
  cases w.files.state path <;> rfl

theorem run_loadedFrom_of_refuses {fault : KindFault} (h : state.Refuses fault) (w : Rehearsal) :
    (loadedFrom path state).run Rehearsal.answer w = (.failure (.kind fault), w) := by
  cases h with
  | @encoding bytes hnone =>
      have hread : Text.ofUtf8? bytes = none :=
        Option.eq_none_iff_forall_ne_some.mpr fun text htext => hnone text (Text.utf8Bytes_of_ofUtf8? htext).symm
      rw [loadedFrom, hread]
      rfl
  | nesting hdeep =>
      rw [loadedFrom, Text.ofUtf8?_utf8Bytes]
      dsimp only
      rw [Registry.ofText_eq_tooDeep_iff.mpr hdeep]
      rfl

/-- What is not refused is loaded, and perhaps reported. -/
theorem run_loadedFrom_of_not_refuses (path : String) (h : ∀ fault, ¬ state.Refuses fault) (w : Rehearsal) :
    ∃ r notices, state.Lists r
      ∧ (loadedFrom path state).run Rehearsal.answer w = (.value r, w.noticing notices) := by
  cases state with
  | absent =>
      refine ⟨[], [], lists_of_no_file nofun, ?_⟩
      rw [Rehearsal.noticing_nil]
      rfl
  | directory => exact ⟨[], _, lists_of_no_file nofun, rfl⟩
  | blocked => exact ⟨[], _, lists_of_no_file nofun, rfl⟩
  | tooLong => exact ⟨[], _, lists_of_no_file nofun, rfl⟩
  | file bytes =>
      cases htext : Text.ofUtf8? bytes with
      | none =>
          refine absurd (.encoding fun text hbytes => ?_) (h .encoding)
          rw [hbytes, Text.ofUtf8?_utf8Bytes] at htext
          cases htext
      | some text =>
          obtain rfl := Text.utf8Bytes_of_ofUtf8? htext
          have hlists := lists_of_ofText text
          rw [loadedFrom, htext]
          dsimp only
          cases hsaid : Registry.ofText text with
          | tooDeep =>
              rw [hsaid] at hlists
              exact absurd (.nesting hlists) (h .nesting)
          | entries r =>
              rw [hsaid] at hlists
              refine ⟨r, [], hlists, ?_⟩
              rw [Rehearsal.noticing_nil]
              rfl
          | invalid =>
              rw [hsaid] at hlists
              exact ⟨[], _, hlists, rfl⟩

/-! ## Deploying -/

section Deploying

variable {ctx : DeployContext} {c : Chain} {org : Option String} {d : Definition}

/-- A chain that compiles, and that the cache does not know, is looked for in the registry first. -/
theorem run_ensureDeployed_of_uncached (hcold : nonEmpty (w.cache.get? c.id) = none)
    (hcompiled : compileChain (settingFor ctx.rewrites org c) c = .ok d) :
    (ensureDeployed ctx c org).run Rehearsal.answer w
      = (loadRegistry ctx.registryPath >>= fun r => updateNamed c.id d r >>= afterRegistered ctx c.id d).run
          Rehearsal.answer (w.noticing (compileNotices (settingFor ctx.rewrites org c) c)) := by
  rw [ensureDeployed_eq]
  show (afterLookUp ctx c org (w.cache.get? c.id)).run Rehearsal.answer w = _
  unfold afterLookUp
  rw [hcold]
  dsimp only
  rw [run_bind, run_reportAll]
  dsimp only
  rw [hcompiled]
  show (deployDefinition ctx c.id d).run Rehearsal.answer _ = _
  rw [deployDefinition_eq, updateRegistered_eq, bind_bind]
  rfl

/-- A deployment that cannot load the registry ends before its first request. -/
theorem run_ensureDeployed_of_refuses (hpath : path ≠ "") (hpossible : isPossiblePath path = true)
    (hregistry : ctx.registryPath = some path) {fault : KindFault} (h : (w.files.state path).Refuses fault)
    (hcold : nonEmpty (w.cache.get? c.id) = none)
    (hcompiled : compileChain (settingFor ctx.rewrites org c) c = .ok d) :
    (ensureDeployed ctx c org).run Rehearsal.answer w = (.failure (.kind fault),
      w.noticing (compileNotices (settingFor ctx.rewrites org c) c)) := by
  rw [run_ensureDeployed_of_uncached hcold hcompiled, run_bind, hregistry, run_loadRegistry_eq hpath hpossible,
    Rehearsal.files_noticing, run_loadedFrom_of_refuses h]

/-- A deployment that finds no entry for its chain goes on with the workflow of the name. -/
theorem run_ensureDeployed_of_unlisted (hpath : path ≠ "") (hpossible : isPossiblePath path = true)
    (hregistry : ctx.registryPath = some path) (hfree : ∀ fault, ¬ (w.files.state path).Refuses fault)
    (hlists : (w.files.state path).Lists r) (hentry : nonEmpty (r.get? c.id) = none)
    (hcold : nonEmpty (w.cache.get? c.id) = none)
    (hcompiled : compileChain (settingFor ctx.rewrites org c) c = .ok d) :
    ∃ notices, (ensureDeployed ctx c org).run Rehearsal.answer w
      = (upsertByName ctx d >>= finishDeployment ctx c.id).run Rehearsal.answer (w.noticing notices) := by
  obtain ⟨r', notices, hlists', hload⟩ := run_loadedFrom_of_not_refuses path hfree
    (w.noticing (compileNotices (settingFor ctx.rewrites org c) c))
  obtain rfl := hlists.unique hlists'
  refine ⟨compileNotices (settingFor ctx.rewrites org c) c ++ notices, ?_⟩
  rw [run_ensureDeployed_of_uncached hcold hcompiled, run_bind, hregistry, run_loadRegistry_eq hpath hpossible,
    Rehearsal.files_noticing, hload]
  dsimp only
  rw [updateNamed, hentry, Rehearsal.noticing_noticing]
  rfl

end Deploying

/-- **A registry is loaded unless its bytes are no text or its text is nested too deeply**, whatever stands under its
    path. It is then empty unless the file holds an object, and a deployment of a chain that it does not list goes on as
    if there were none. A registry that is refused ends every deployment that the cache does not answer, before its first
    request. -/
theorem registry_is_loaded_unless_refused (hpath : path ≠ "") (hpossible : isPossiblePath path = true) (w : Rehearsal) :
    (∀ fault, (w.files.state path).Refuses fault ↔
        ∃ t, (loadRegistry (some path)).run Rehearsal.answer w = (.failure (.kind fault), t))
      ∧ ((∀ fault, ¬ (w.files.state path).Refuses fault) ↔
        ∃ r t, (loadRegistry (some path)).run Rehearsal.answer w = (.value r, t))
      ∧ (∀ r t, (loadRegistry (some path)).run Rehearsal.answer w = (.value r, t) →
        (w.files.state path).Lists r ∧ t.files = w.files)
      ∧ ∀ ctx c org d, ctx.registryPath = some path → nonEmpty (w.cache.get? c.id) = none →
        compileChain (settingFor ctx.rewrites org c) c = .ok d →
          (∀ fault, (w.files.state path).Refuses fault → ∃ t,
            (ensureDeployed ctx c org).run Rehearsal.answer w = (.failure (.kind fault), t) ∧ t.requests = w.requests)
          ∧ ∀ r t, (loadRegistry (some path)).run Rehearsal.answer w = (.value r, t) → nonEmpty (r.get? c.id) = none →
            ∃ notices, (ensureDeployed ctx c org).run Rehearsal.answer w
              = (upsertByName ctx d >>= finishDeployment ctx c.id).run Rehearsal.answer (w.noticing notices) := by
  have hload := run_loadRegistry_eq hpath hpossible w
  by_cases hfree : ∀ fault, ¬ (w.files.state path).Refuses fault
  · obtain ⟨r, notices, hlists, hloaded⟩ := run_loadedFrom_of_not_refuses path hfree w
    have hrun := hload.trans hloaded
    refine ⟨fun fault => ⟨fun h => absurd h (hfree fault), ?_⟩, ⟨fun _ => ⟨r, _, hrun⟩, fun _ => hfree⟩, ?_, ?_⟩
    · rintro ⟨t, hfails⟩
      cases hrun.symm.trans hfails
    · intro r' t hvalue
      cases hrun.symm.trans hvalue
      exact ⟨hlists, rfl⟩
    · intro ctx c org d hregistry hcold hcompiled
      refine ⟨fun fault h => absurd h (hfree fault), fun r' t hvalue hentry => ?_⟩
      cases hrun.symm.trans hvalue
      exact run_ensureDeployed_of_unlisted hpath hpossible hregistry hfree hlists hentry hcold hcompiled
  · obtain ⟨fault, hfault⟩ := not_forall_not.mp hfree
    have hrun := hload.trans (run_loadedFrom_of_refuses hfault w)
    refine ⟨fun other => ⟨fun h => ⟨w, hload.trans (run_loadedFrom_of_refuses h w)⟩, ?_⟩,
      ⟨fun h => absurd h hfree, ?_⟩, ?_, ?_⟩
    · rintro ⟨t, hfails⟩
      cases hrun.symm.trans hfails
      exact hfault
    · rintro ⟨r, t, hvalue⟩
      cases hrun.symm.trans hvalue
    · intro r t hvalue
      cases hrun.symm.trans hvalue
    · intro ctx c org d hregistry hcold hcompiled
      refine ⟨fun other h => ?_, fun r t hvalue => ?_⟩
      · exact ⟨_, run_ensureDeployed_of_refuses hpath hpossible hregistry h hcold hcompiled, rfl⟩
      · cases hrun.symm.trans hvalue

end

/-- Surroundings with a file of any bytes in the working directory. -/
def withBytes (bytes : List UInt8) : Rehearsal := { withRegistry "" with files := [(["reg.json"], .file bytes)] }

theorem state_withBytes (bytes : List UInt8) : (withBytes bytes).files.state "reg.json" = .file bytes := by
  have hget : (withBytes bytes).files.get? (Place.ofPath "reg.json") = some (.file bytes) := by
    rw [Files.ofPath_plain]
    exact if_pos rfl
  exact Files.state_of_walkPath Files.parts_plain.names (Files.parts_plain.walkPath trivial Files.fits_plain) hget

/-- A byte that no text has. -/
theorem lone_ne_utf8Bytes (text : String) : [(0xFF : UInt8)] ≠ Text.utf8Bytes text := by
  intro h
  have hread : Text.ofUtf8? [0xFF] = none := by decide +kernel
  rw [h, Text.ofUtf8?_utf8Bytes] at hread
  cases hread

/-- The file is no text, so the registry is not loaded, and the chain is not deployed. -/
theorem undecodable_registry_ends_deployment :
    (loadRegistry (some "reg.json")).run Rehearsal.answer (withBytes [0xFF])
        = (.failure (.kind .encoding), withBytes [0xFF])
      ∧ (ensureDeployed .filed (emptyChain "chain" "Chain") none).run Rehearsal.answer (withBytes [0xFF])
        = (.failure (.kind .encoding), withBytes [0xFF]) := by
  have hrefuses : ((withBytes [0xFF]).files.state "reg.json").Refuses .encoding := by
    rw [state_withBytes]
    exact .encoding lone_ne_utf8Bytes
  exact ⟨(run_loadRegistry_eq (by decide) (by decide +kernel) _).trans (run_loadedFrom_of_refuses hrefuses _),
    run_ensureDeployed_of_refuses (by decide) (by decide +kernel) rfl hrefuses rfl rfl⟩

/-- A list is no object: the registry is empty, and the chain is deployed as if there were none. -/
theorem registry_is_loaded_unless_refused_list : ∃ t notices d,
    compileChain (settingFor Rewrites.default none (emptyChain "chain" "Chain")) (emptyChain "chain" "Chain") = .ok d
      ∧ (loadRegistry (some "reg.json")).run Rehearsal.answer (withBytes (Text.utf8Bytes "[]")) = (.value [], t)
      ∧ (ensureDeployed .filed (emptyChain "chain" "Chain") none).run Rehearsal.answer (withBytes (Text.utf8Bytes "[]"))
        = (upsertByName .filed d >>= finishDeployment .filed "chain").run Rehearsal.answer
          ((withBytes (Text.utf8Bytes "[]")).noticing notices) := by
  have hpath : "reg.json" ≠ "" := by decide
  obtain ⟨-, hloads, hlists, hdeploys⟩ := registry_is_loaded_unless_refused hpath (by decide +kernel)
    (withBytes (Text.utf8Bytes "[]"))
  have hshallow : ¬ NestsTooDeeply "[]" := by
    rw [← Registry.ofText_eq_tooDeep_iff]
    decide +kernel
  rw [state_withBytes] at hloads hlists
  obtain ⟨r, t, hrun⟩ := hloads.mp (not_refuses_text hshallow)
  have hempty : r = [] := by
    refine (hlists r t hrun).1.nothing fun ms hms => ?_
    rw [holdsObject_text] at hms
    have hread : Json.read (Text.strip "[]") = .ok (.arr []) := rfl
    rw [hread] at hms
    cases hms
  subst hempty
  obtain ⟨notices, hdeployed⟩ := (hdeploys .filed (emptyChain "chain" "Chain") none _ rfl rfl rfl).2 [] t hrun rfl
  exact ⟨t, notices, _, rfl, hrun, hdeployed⟩

end PromptGraph
