import Mathlib.Logic.Function.Basic
import PromptGraph.Proofs.Deploy.Stored
import PromptGraph.Proofs.Json.Nesting

/-!
# `Proofs.Deploy.RegistryMap` — the registry's file as a map

To record a deployment the registry is read, changed, written anew and put in the place of the old one. What is loaded
after any number of recordings is what was loaded before them, with the recorded ids in it, provided that the file can
be read to begin with: a text that is nested too deeply is refused, and then nothing can be recorded.

## Contents
- **Files.** `Files.Holding`, `NestsTooDeeply`; `ofText_eq_tooDeep_iff`.
- **Maps.** `LoadsMap`, and `loadsMap_of_holding`: what can be read is a map.
- **Recording.** `Complete`, `Recordable` with the step `Recordable.record` and the run `Recordable.recordAll`;
  `registry_is_map`.
- **Refusals.** `readValue_nestedChars`; `nested_registry_is_refused`.
-/

namespace PromptGraph

open Act

section

variable [Depth] {path : String} {w : Rehearsal} {m : String → Option String}

/-! ## Files -/

/-- Under a path there is no file, or one that holds a text. -/
def Files.Holding (files : Files) (path : String) : Option String → Prop
  | none => files.state path = .absent
  | some text => files.state path = .file (Text.utf8Bytes text)

/-- More lists and objects are nested in a text than are read. -/
def NestsTooDeeply (text : String) : Prop := Json.read (Text.strip text) = .error .tooDeep

theorem Registry.ofText_eq_tooDeep_iff {text : String} : ofText text = .tooDeep ↔ NestsTooDeeply text := by
  unfold ofText NestsTooDeeply
  dsimp only
  split
  · rename_i hblank
    have hempty : Json.read "" = .error (.syntaxAt .value 1 1 0) := rfl
    rw [hblank, hempty]
    exact ⟨nofun, nofun⟩
  · split
    · rename_i hread
      rw [hread]
      exact ⟨nofun, nofun⟩
    · rename_i hread
      exact ⟨fun _ => hread, fun _ => rfl⟩
    · rename_i hother hread
      exact ⟨nofun, fun h => absurd (Except.error.inj (hread.symm.trans h)) (hother ·)⟩

/-! ## Maps -/

/-- A registry is loaded that maps chains as given, each of them once, and the files are left alone. -/
def LoadsMap (path : String) (w : Rehearsal) (m : String → Option String) : Prop :=
  ∃ r v, (loadRegistry (some path)).run Rehearsal.answer w = (.value r, v) ∧ v.files = w.files ∧ r.chains.Nodup
    ∧ ∀ chain, r.get? chain = m chain

/-- What can be read is loaded as a map. -/
theorem loadsMap_of_holding {content : Option String} (hpath : path ≠ "") (hpossible : isPossiblePath path = true)
    (hholding : w.files.Holding path content) (hreadable : ∀ text, content = some text → ¬ NestsTooDeeply text) :
    ∃ m, LoadsMap path w m := by
  cases content with
  | none => exact ⟨_, [], w, run_loadRegistry_of_absent hpath hpossible hholding, rfl, List.nodup_nil, fun _ => rfl⟩
  | some text =>
      have hload := run_loadRegistry_of_text hpath hpossible hholding
      cases hread : Registry.ofText text with
      | entries r =>
          rw [hread] at hload
          exact ⟨_, r, w, hload, rfl, Registry.nodup_ofText hread, fun _ => rfl⟩
      | invalid =>
          rw [hread] at hload
          exact ⟨_, [], _, hload, rfl, List.nodup_nil, fun _ => rfl⟩
      | tooDeep => exact absurd (Registry.ofText_eq_tooDeep_iff.mp hread) (hreadable text rfl)

/-! ## Recording -/

/-- The file holds an object with its names in order, and nothing is left of the temporary file. -/
structure Complete (path : String) (w : Rehearsal) : Prop where
  object : ∃ text ms, w.files.state path = .file (Text.utf8Bytes text) ∧ Json.read text = .ok (.obj ms)
    ∧ (ms.map Prod.fst).Pairwise (· < ·)
  alone : w.files.holds (temporaryPath path) = false

/-- A map is loaded, and the system allows its file to be written. -/
structure Recordable (path : String) (w : Rehearsal) (m : String → Option String) : Prop where
  loads : LoadsMap path w m
  writable : w.files.Writable path

/-- Records deployments one after the other. -/
def recordAll (path : String) : List (String × String) → Act Unit
  | [] => .done ()
  | (chain, remote) :: rest => do
    storeDeployment path chain remote
    recordAll path rest

/-- A map with entries put into it one after the other. -/
def updated (m : String → Option String) (entries : List (String × String)) : String → Option String :=
  entries.foldl (fun m entry => Function.update m entry.1 (some entry.2)) m

/-- The file after a registry was stored. -/
theorem complete_of_stored {fs : Files} {r : Registry} (hwritable : fs.Writable path) (hnodup : r.chains.Nodup)
    (hfiles : w.files = (fs.stored path r.toText).2) : Complete path w where
  object := by
    refine ⟨r.toText, _, ?_, Json.read_write_texts hnodup, ?_⟩
    · rw [hfiles]
      exact Files.state_stored (hwritable.stored_eq_none _)
    · rw [List.map_map]
      exact Json.pairwise_sortedByName hnodup
  alone := by
    rw [hfiles]
    exact hwritable.holds_temporary_stored _

namespace Recordable

/-- **One recording** changes the map at its chain. -/
theorem record (hpossible : isPossiblePath path = true) (h : Recordable path w m) (chain remote : String) :
    ∃ v, (storeDeployment path chain remote).run Rehearsal.answer w = (.value (), v)
      ∧ Recordable path v (Function.update m chain (some remote)) ∧ Complete path v := by
  obtain ⟨r, t, hload, -, hnodup, hmap⟩ := h.loads
  have hinserted := Registry.nodup_insert hnodup chain remote
  have hallowed := h.writable.stored_eq_none (r.insert chain remote).toText
  obtain ⟨u, hu, hstore⟩ := run_storeDeployment chain remote (congrArg Prod.fst hload)
  rw [run_storeRegistry, hu, hallowed] at hstore
  refine ⟨_, hstore, ⟨⟨_, _, ?_, rfl, Json.nodup_sortedByName hinserted, fun other => ?_⟩, ?_⟩, ?_⟩
  · exact run_loadRegistry_of_file h.writable.ne_empty hpossible (Files.state_stored hallowed)
      (Registry.ofText_toText hinserted)
  · rw [Registry.get?_sortedByName hinserted]
    by_cases hother : other = chain
    · rw [hother, Registry.get?_insert_self, Function.update_self]
    · rw [Registry.get?_insert_of_ne (Ne.symm hother), Function.update_of_ne hother, hmap]
  · exact h.writable.stored _
  · exact complete_of_stored h.writable hinserted rfl

/-- **Recordings** change the map one after the other, by induction on them. -/
theorem recordAll (hpossible : isPossiblePath path = true) (h : Recordable path w m) (entries : List (String × String)) :
    ∃ v, (PromptGraph.recordAll path entries).run Rehearsal.answer w = (.value (), v)
      ∧ Recordable path v (updated m entries) ∧ (entries ≠ [] → Complete path v) := by
  induction entries generalizing w m with
  | nil => exact ⟨w, rfl, h, fun hne => absurd rfl hne⟩
  | cons entry rest ih =>
      obtain ⟨u, hfirst, hrecorded, hcomplete⟩ := h.record hpossible entry.1 entry.2
      obtain ⟨v, hrest, hv, hcompleteRest⟩ := ih hrecorded
      refine ⟨v, ?_, hv, fun _ => ?_⟩
      · rw [PromptGraph.recordAll, run_bind, hfirst]
        exact hrest
      · -- where nothing else is recorded the file is that of the first recording
        by_cases hlast : rest = []
        · subst hlast
          cases hrest
          exact hcomplete
        · exact hcompleteRest hlast

end Recordable

/-- A file that is nested too deeply can be neither loaded nor recorded in. -/
theorem refused_of_nestsTooDeeply {text : String} (hpath : path ≠ "") (hpossible : isPossiblePath path = true)
    (hstate : w.files.state path = .file (Text.utf8Bytes text)) (hdeep : NestsTooDeeply text) :
    (loadRegistry (some path)).run Rehearsal.answer w = (.failure (.kind .nesting), w)
      ∧ ∀ chain remote,
        (storeDeployment path chain remote).run Rehearsal.answer w = (.failure (.kind .nesting), w) := by
  have hload := run_loadRegistry_of_text hpath hpossible hstate
  rw [Registry.ofText_eq_tooDeep_iff.mpr hdeep] at hload
  refine ⟨hload, fun chain remote => ?_⟩
  rw [storeDeployment, run_bind, hload]

/-- **The registry's file is a map, provided that it can be read.** Where there is no file, or one whose text is not
    nested too deeply, any number of deployments can be recorded, and what is loaded after them is what was loaded
    before with the recorded ids in it: the last one of a chain counts, and the other chains keep theirs. The file then
    holds an object with its names in order, and no temporary file is left. A text that is nested too deeply is refused
    by every loading and every recording, and stays. -/
theorem registry_is_map {content : Option String} (hpossible : isPossiblePath path = true)
    (hwritable : w.files.Writable path) (hholding : w.files.Holding path content) :
    ((∀ text, content = some text → ¬ NestsTooDeeply text) →
        ∃ m, LoadsMap path w m ∧ ∀ entries, ∃ v, (recordAll path entries).run Rehearsal.answer w = (.value (), v)
          ∧ LoadsMap path v (updated m entries) ∧ (entries ≠ [] → Complete path v))
      ∧ ∀ text, content = some text → NestsTooDeeply text →
        (loadRegistry (some path)).run Rehearsal.answer w = (.failure (.kind .nesting), w)
          ∧ ∀ chain remote,
            (storeDeployment path chain remote).run Rehearsal.answer w = (.failure (.kind .nesting), w) := by
  constructor
  · intro hreadable
    obtain ⟨m, hloads⟩ := loadsMap_of_holding hwritable.ne_empty hpossible hholding hreadable
    refine ⟨m, hloads, fun entries => ?_⟩
    obtain ⟨v, hrun, hv, hcomplete⟩ := Recordable.recordAll hpossible ⟨hloads, hwritable⟩ entries
    exact ⟨v, hrun, hv.loads, hcomplete⟩
  · rintro text rfl hdeep
    exact refused_of_nestsTooDeeply hwritable.ne_empty hpossible hholding hdeep

end

/-- A registry with an entry that is no id. -/
def mixedRegistry : String := "\x7b\"a\": \"1\", \"b\": [null]\x7d"

/-- Surroundings with a file in the working directory. -/
def withRegistry (text : String) : Rehearsal where
  base := ⟨"http".toList, [], "engine".toList, none, ['/'], none, []⟩
  clock := []
  files := [(["reg.json"], .file (Text.utf8Bytes text))]

theorem get?_withRegistry (text : String) :
    (withRegistry text).files.get? (Place.ofPath "reg.json") = some (.file (Text.utf8Bytes text)) := by
  rw [Files.ofPath_plain]
  exact if_pos rfl

theorem holding_withRegistry (text : String) : (withRegistry text).files.Holding "reg.json" (some text) := by
  have hwalk : (withRegistry text).files.walkPath "reg.json" = .place (Place.ofPath "reg.json") :=
    Files.parts_plain.walkPath trivial Files.fits_plain
  exact Files.state_of_walkPath Files.parts_plain.names hwalk (get?_withRegistry text)

theorem ready_withRegistry (text : String) : (withRegistry text).files.Ready "reg.json" [] "reg.json" where
  parts := Files.parts_plain
  fits := Files.fits_plain
  passable := trivial
  free := by
    rw [Files.stateAt_of_file (get?_withRegistry text)]
    nofun
  clear := by
    have hapart : ¬ Place.ofPath (temporaryPath "reg.json") <+: ["reg.json"] := by
      rw [← Files.ofPath_plain]
      exact Files.parts_plain.not_prefix.2
    rintro ⟨f, hf, hbelow, -⟩
    cases List.mem_singleton.mp hf
    exact hapart hbelow

/-- Deployments are recorded beside the id that such a registry has. -/
theorem registry_is_map_mixed : ∃ m, LoadsMap "reg.json" (withRegistry mixedRegistry) m ∧ ∀ entries, ∃ v,
    (recordAll "reg.json" entries).run Rehearsal.answer (withRegistry mixedRegistry) = (.value (), v)
      ∧ LoadsMap "reg.json" v (updated m entries) ∧ (entries ≠ [] → Complete "reg.json" v) := by
  have hread : Registry.ofText mixedRegistry = .entries [("a", "1")] := by decide +kernel
  refine (registry_is_map (by decide +kernel) (ready_withRegistry _).writable (holding_withRegistry _)).1 ?_
  rintro text heq hdeep
  cases heq
  rw [Registry.ofText_eq_tooDeep_iff.mpr hdeep] at hread
  cases hread

/-! ## Refusals -/

/-- The characters of an object with one entry, which is a list in a list, and so on for so many levels. -/
def nestedChars (levels : Nat) : List Char :=
  '\x7b' :: (('"' :: 'a' :: '"' :: ':' :: ' ' :: (List.replicate levels '[' ++ List.replicate levels ']')) ++ ['\x7d'])

def nestedRegistry (levels : Nat) : String := String.ofList (nestedChars levels)

/-- The object takes one level, and its entry more than are left. -/
theorem readValue_nestedChars {size room fuel levels : Nat} (hlevels : room < levels) (hfuel : 2 * room < fuel) :
    Json.readValue (size + 2) (room + 1) (fuel + 2) (nestedChars levels) = .error .tooDeep := by
  obtain ⟨levels, rfl⟩ := Nat.exists_eq_add_one.mpr (Nat.zero_lt_of_lt hlevels)
  generalize hentry : List.replicate (levels + 1) '[' ++ List.replicate (levels + 1) ']' ++ ['\x7d'] = entry
  have hrefused : Json.readValue (size + 2) room fuel entry = .error .tooDeep := by
    rw [← hentry, List.append_assoc]
    exact Json.readValue_brackets hlevels hfuel _
  have hskip : Json.skipBlanks (' ' :: entry) = entry := by
    rw [← hentry]
    rfl
  have hmembers : Json.readMembers (size + 2) room (fuel + 1) ('"' :: 'a' :: '"' :: ':' :: ' ' :: entry)
      = .error .tooDeep := by
    rw [Json.readMembers]
    show (Json.readValue (size + 2) room fuel (Json.skipBlanks (' ' :: entry)) >>= _) = _
    rw [hskip, hrefused]
    rfl
  show Json.readValue (size + 2) (room + 1) (fuel + 2) ('\x7b' :: ('"' :: 'a' :: '"' :: ':' :: ' ' :: (_ ++ ['\x7d']))) = _
  rw [hentry]
  show (Json.readMembers (size + 2) room (fuel + 1) ('"' :: 'a' :: '"' :: ':' :: ' ' :: entry) >>= _) = _
  rw [hmembers]
  rfl

theorem readAll_nestedChars {room levels : Nat} (h : room < levels) :
    Json.readAll (room + 1) (nestedChars levels) = .error .tooDeep := by
  have hlength : room + 1 < (nestedChars levels).length := by
    simp only [nestedChars, List.length_cons, List.length_append, List.length_replicate]
    omega
  have hfirst : (nestedChars levels).head? = some '\x7b' := rfl
  have hskip : Json.skipBlanks (nestedChars levels) = nestedChars levels := rfl
  rw [Json.readAll, hfirst, if_neg (by decide), hskip]
  dsimp only
  -- the steps that are allowed are counted from the length of the text
  obtain ⟨size, hsize⟩ : ∃ size, (nestedChars levels).length + 1 = size + 2 := Nat.exists_eq_add_of_le' (by omega)
  obtain ⟨fuel, hfuel⟩ : ∃ fuel, 2 * (size + 2) = fuel + 2 := Nat.exists_eq_add_of_le' (by omega)
  have hvalue : Json.readValue (size + 2) (room + 1) (fuel + 2) (nestedChars levels) = .error .tooDeep :=
    readValue_nestedChars h (by omega)
  rw [hsize, hfuel, hvalue]
  rfl

theorem nestsTooDeeply_nestedRegistry [Depth] {levels : Nat} (h : Depth.read ≤ levels) :
    NestsTooDeeply (nestedRegistry levels) := by
  have hstrip : Text.strip (nestedRegistry levels) = nestedRegistry levels := by
    rw [Text.strip, nestedRegistry, String.toList_ofList, nestedChars, Registry.trim_of_ends (by decide) (by decide)]
  obtain ⟨room, hroom⟩ : ∃ room, Depth.read = room + 1 :=
    Nat.exists_eq_add_one.mpr (Nat.zero_lt_of_lt Depth.three_le_read)
  rw [NestsTooDeeply, hstrip, Json.read, Json.readWithin, nestedRegistry, String.toList_ofList, hroom]
  dsimp only
  rw [readAll_nestedChars (by omega)]

/-- Such an entry is not dropped: the registry cannot be loaded, and no deployment recorded in it. -/
theorem nested_registry_is_refused :
    (loadRegistry (some "reg.json")).run Rehearsal.answer (withRegistry (nestedRegistry 5000))
        = (.failure (.kind .nesting), withRegistry (nestedRegistry 5000))
      ∧ (storeDeployment "reg.json" "k" "v").run Rehearsal.answer (withRegistry (nestedRegistry 5000))
        = (.failure (.kind .nesting), withRegistry (nestedRegistry 5000)) := by
  have hdeep : NestsTooDeeply (nestedRegistry 5000) := nestsTooDeeply_nestedRegistry (by decide)
  obtain ⟨hload, hstore⟩ := refused_of_nestsTooDeeply (by decide) (by decide +kernel) (holding_withRegistry _) hdeep
  exact ⟨hload, hstore "k" "v"⟩

end PromptGraph
