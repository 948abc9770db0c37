import PromptGraph.Proofs.Deploy.Footprint
import PromptGraph.Proofs.Deploy.Registry
import PromptGraph.Proofs.Effect.Files
import PromptGraph.Proofs.Engine.Host
import PromptGraph.Proofs.Text.Encoding

/-!
# `Proofs.Deploy.Recorded` — what the registry's file records

A property of entries that holds of the file at the registry's place holds of whatever is loaded from it, and it is
kept when an entry of the property is stored: the file then holds what it held before, or the registry that was
written, and a written registry is read back.

## Contents
- **Bytes.** `Records`, `records_toText`.
- **Files.** `Filed`, `run_loadRegistry`, `filed_storeRegistry`, `filed_rememberDeployment`.
-/

namespace PromptGraph

open Act

variable [Depth]
variable {P Q : String → String → Prop}

/-! ## Bytes -/

/-- As far as bytes are read as a registry, each chain has one entry, and the entries have a property. -/
def Records (P : String → String → Prop) (bytes : List UInt8) : Prop :=
  ∀ text r, Text.ofUtf8? bytes = some text → Registry.ofText text = .entries r →
    r.chains.Nodup ∧ ∀ entry ∈ r, P entry.1 entry.2

/-- A written registry records its entries. -/
theorem records_toText {r : Registry} (hnodup : r.chains.Nodup) (h : ∀ entry ∈ r, P entry.1 entry.2) :
    Records P (Text.utf8Bytes r.toText) := by
  intro text r' htext hread
  rw [Text.ofUtf8?_utf8Bytes] at htext
  cases htext
  rw [Registry.ofText_toText hnodup] at hread
  cases hread
  exact ⟨Json.nodup_sortedByName hnodup, fun entry hentry => h entry (Json.mem_sortedByName.mp hentry)⟩

/-! ## Files -/

/-- What stands at the place of a registry records entries of a property only. -/
def Filed (path : Option String) (P : String → String → Prop) (files : Files) : Prop :=
  ∀ p, nonEmpty path = some p → ∀ bytes, files.get? (Place.ofPath p) = some (.file bytes) → Records P bytes

theorem Filed.mono {path : Option String} {files : Files} (h : Filed path P files)
    (hPQ : ∀ chain remote, P chain remote → Q chain remote) : Filed path Q files := by
  intro p hp bytes hbytes text r htext hread
  obtain ⟨hnodup, hentries⟩ := h p hp bytes hbytes text r htext hread
  exact ⟨hnodup, fun entry hentry => hPQ _ _ (hentries entry hentry)⟩

/-- The entries that are loaded have the property of the file. -/
theorem run_loadRegistry {path : Option String} {w : Rehearsal} {r : Registry} (h : Filed path P w.files)
    (hrun : ((loadRegistry path).run Rehearsal.answer w).1 = .value r) :
    r.chains.Nodup ∧ ∀ entry ∈ r, P entry.1 entry.2 := by
  have hempty : ∀ {r : Registry}, End.value [] = End.value r → r.chains.Nodup ∧ ∀ entry ∈ r, P entry.1 entry.2 := by
    intro r heq
    cases heq
    exact ⟨List.nodup_nil, nofun⟩
  unfold loadRegistry at hrun
  split at hrun
  · exact hempty hrun
  · rename_i p hp
    split at hrun
    · cases hrun
    · rw [run_ask] at hrun
      generalize hstate : (Rehearsal.answer (.readFile p) w).1 = content at hrun
      cases content with
      | file bytes =>
          have hbytes : w.files.get? (Place.ofPath p) = some (.file bytes) := Files.get?_of_state hstate
          dsimp only at hrun
          split at hrun
          · cases hrun
          · rename_i text htext
            split at hrun
            · rename_i r' hread
              cases hrun
              exact h p hp bytes hbytes text r htext hread
            · cases hrun
            · exact hempty hrun
      | _ => exact hempty hrun

omit [Depth] in
/-- A registry is written, and takes the place of the old one if it could be. -/
theorem files_storeRegistry (p : String) (r : Registry) (w : Rehearsal) :
    ((storeRegistry p r).run Rehearsal.answer w).2.files = (w.files.write (temporaryPath p) r.toText).2
      ∨ ((w.files.write (temporaryPath p) r.toText).1 = none
        ∧ ((storeRegistry p r).run Rehearsal.answer w).2.files
          = ((w.files.write (temporaryPath p) r.toText).2.move (temporaryPath p) p).2) := by
  have hrun : (storeRegistry p r).run Rehearsal.answer w
      = ((ofSystem (w.files.write (temporaryPath p) r.toText).1 >>= fun _ =>
          perform (.moveFile (temporaryPath p) p) >>= fun e => ofSystem e).run Rehearsal.answer
          { w with files := (w.files.write (temporaryPath p) r.toText).2 }) := rfl
  rw [hrun]
  cases (w.files.write (temporaryPath p) r.toText).1 with
  | some e => exact Or.inl rfl
  | none =>
      refine Or.inr ⟨rfl, ?_⟩
      show ((ofSystem (Files.move _ _ _).1).run Rehearsal.answer _).2.files = _
      cases (Files.move _ _ _).1 <;> rfl

/-- Storing a registry of the property keeps the property of the file. -/
theorem filed_storeRegistry {path : Option String} {p : String} (hp : nonEmpty path = some p) {r : Registry}
    (hnodup : r.chains.Nodup) (hr : ∀ entry ∈ r, P entry.1 entry.2) {w : Rehearsal} (h : Filed path P w.files) :
    Filed path P ((storeRegistry p r).run Rehearsal.answer w).2.files := by
  intro p' hp' bytes hbytes
  rw [hp] at hp'
  cases hp'
  have hwritten : ∀ {place : Place} {bytes : List UInt8},
      (w.files.write (temporaryPath p) r.toText).2.get? place = some (.file bytes) →
      w.files.get? place = some (.file bytes) ∨ Records P bytes := by
    intro place bytes hget
    rcases Files.file_of_write hget with hold | hnew
    · exact Or.inl hold
    · exact Or.inr (hnew ▸ records_toText hnodup hr)
  rcases files_storeRegistry p r w with hfiles | ⟨hdone, hfiles⟩
  · -- the text could not be written in full
    rw [hfiles] at hbytes
    rcases hwritten hbytes with hold | hnew
    · exact h p hp bytes hold
    · exact hnew
  · -- the text was written beside the registry and moved there
    rw [hfiles] at hbytes
    rcases Files.file_of_move hbytes with hkept | hmoved
    · rcases hwritten hkept with hold | hnew
      · exact h p hp bytes hold
      · exact hnew
    · -- what is moved is the text that was just written
      have hget := Files.get?_of_state hmoved
      rw [Files.get?_write hdone] at hget
      cases hget
      exact records_toText hnodup hr

/-- **Storing an entry of the property keeps the property of the file**, whether or not it can be stored. -/
theorem filed_storeDeployment {path : Option String} {p : String} (hp : nonEmpty path = some p) {chain remote : String}
    (hentry : P chain remote) {w : Rehearsal} (h : Filed path P w.files) :
    Filed path P ((storeDeployment p chain remote).run Rehearsal.answer w).2.files := by
  have hsome : Filed (some p) P w.files := by
    intro p' hp'
    cases (nonEmpty_eq_some.mp hp').1
    exact h p hp
  have hload := (run_of_reading (C := True) (asks_loadRegistry (some p)) w).2.1
  rw [storeDeployment, run_bind]
  cases hrun : (loadRegistry (some p)).run Rehearsal.answer w with
  | mk o t =>
      rw [hrun] at hload
      -- what cannot be loaded is not stored either
      cases o with
      | value r =>
          obtain ⟨hnodup, hr⟩ := run_loadRegistry hsome (by rw [hrun])
          refine filed_storeRegistry hp (Registry.nodup_insert hnodup chain remote) (fun entry hmem => ?_) (hload ▸ h)
          rcases Registry.mem_insert hmem with rfl | hold
          · exact hentry
          · exact hr entry hold
      | failure e => exact hload ▸ h
      | cut => exact hload ▸ h

theorem filed_rememberDeployment {ctx : DeployContext} {chain remote : String} (hentry : P chain remote) {w : Rehearsal}
    (h : Filed ctx.registryPath P w.files) :
    Filed ctx.registryPath P ((rememberDeployment ctx chain remote).run Rehearsal.answer w).2.files := by
  rw [rememberDeployment_eq]
  show Filed _ P ((storeRemembered ctx chain remote).run Rehearsal.answer
    { w with cache := w.cache.insert chain remote }).2.files
  unfold storeRemembered
  cases hp : nonEmpty ctx.registryPath with
  | none => exact h
  | some p =>
      have hstore := filed_storeDeployment hp hentry (w := { w with cache := w.cache.insert chain remote }) h
      dsimp only
      rw [run_bind, run_attempt]
      cases hrun : (storeDeployment p chain remote).run Rehearsal.answer _ with
      | mk o t =>
          rw [hrun] at hstore
          cases o with
          | value _ => exact hstore
          | failure e => cases e <;> exact hstore
          | cut => exact hstore

end PromptGraph
