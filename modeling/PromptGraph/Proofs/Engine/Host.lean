import Mathlib.Data.List.Nodup
import PromptGraph.Deploy.Ensure
import PromptGraph.Effect.Rehearsal
import PromptGraph.Proofs.Checked
import PromptGraph.Proofs.Effect.Programs
import PromptGraph.Proofs.Json.Members

/-!
# `Proofs.Engine.Host` — an engine that keeps what it is sent

A host holds workflows and answers as documented: a listing tells all of them, a new one gets an id of its own, a change
puts the given members into a workflow, and a workflow that is not there is not found. What the operations on workflows
bring back from a host is derived from this.

## Contents
- **The host.** `IdSource`, `Host`, `Host.answer`.
- **What is held.** `Host.named`: the ids of a name; creation adds one, and a change that keeps the name keeps them.
- **Surroundings.** `Site`: a host beside the cache and the files of a process; `Site.answer`.
- **What is read.** `read_told`, `namedIds_told`: a listing names just what is held.
-/

namespace PromptGraph

open Http

/-! ## The host -/

/-- Where the ids of new workflows come from: for any ids in use, one that is not among them. -/
structure IdSource where
  next : List String → String
  next_not_mem : ∀ ids, next ids ∉ ids
  next_ne_empty : ∀ ids, next ids ≠ ""

/-- The letters of the ids in use, and one more. -/
def IdSource.tally : IdSource where
  next ids := String.ofList ((ids.map String.toList).flatten ++ ['1'])
  next_not_mem ids h := by
    have hle := (List.sublist_flatten_of_mem (List.mem_map_of_mem (f := String.toList) h)).length_le
    rw [String.toList_ofList, List.length_append, List.length_singleton] at hle
    omega
  next_ne_empty ids h := by
    have hlength := congrArg String.length h
    rw [String.length_ofList, List.length_append, List.length_singleton] at hlength
    cases hlength

/-- A workflow of a host. -/
structure HostedWorkflow where
  id : String
  members : Members

namespace HostedWorkflow

/-- The name of a workflow; one without a name has the empty one. -/
def name (w : HostedWorkflow) : String :=
  match Members.get? "name" w.members with
  | some (.str s) => s
  | _ => ""

/-- A workflow as a host tells it. -/
def told (w : HostedWorkflow) : Json := .obj (("id", .str w.id) :: w.members)

end HostedWorkflow

/-- The workflows that a host holds, in the order of their making. -/
abbrev Host := List HostedWorkflow

namespace Host

def ids (h : Host) : List String := h.map HostedWorkflow.id

/-- The ids of the workflows of a name. -/
def named (h : Host) (name : String) : List String := (h.filter fun w => w.name = name).map HostedWorkflow.id

/-- Puts members into the workflow of an id. -/
def change (h : Host) (id : String) (changes : Members) : Host :=
  h.map fun w => if w.id = id then { w with members := w.members.merge changes } else w

/-- The workflow of an id. -/
def find? (h : Host) (id : String) : Option HostedWorkflow := List.find? (fun w => w.id == id) h

/-- What a host answers to a request, and what it holds afterwards. -/
def answer (source : IdSource) (h : Host) (r : Request) : Reply × Host :=
  match r.method, r.endpoint, r.body with
  | .get, .workflows, _ => (.answer 200 (.json (.obj [("data", .arr (h.map HostedWorkflow.told))])), h)
  | .post, .workflows, some (.obj members) =>
    let w : HostedWorkflow := ⟨source.next h.ids, members⟩
    (.answer 200 (.json w.told), h ++ [w])
  | .patch, .workflow id, some (.obj changes) =>
    match (h.change id changes).find? id with
    | some w => (.answer 200 (.json w.told), h.change id changes)
    | none => (.answer 404 (.text "not found"), h)
  | _, _, _ => (.answer 404 (.text "not found"), h)

end Host

/-- A host beside the cache, the files and whatever else is near a process. -/
structure Site where
  host : Host
  near : Rehearsal

namespace Site

/-- A host without workflows, beside a process that knows nothing. -/
def empty : Site := ⟨[], { base := ⟨"http".toList, [], "engine".toList, none, ['/'], none, []⟩, clock := [] }⟩

/-- Requests go to the host and are noted; all else is answered nearby. -/
def answer (source : IdSource) : Act.Handler Site
  | .exchange r, s =>
    ((s.host.answer source r).1,
      { host := (s.host.answer source r).2, near := { s.near with requests := s.near.requests ++ [r] } })
  | q, s => ((Rehearsal.answer q s.near).1, { s with near := (Rehearsal.answer q s.near).2 })

end Site

/-! ## What is held -/

namespace Host

theorem ids_append (h : Host) (w : HostedWorkflow) : ids (h ++ [w]) = h.ids ++ [w.id] := by
  rw [ids, List.map_append]
  rfl

theorem ids_change (h : Host) (id : String) (changes : Members) : (h.change id changes).ids = h.ids := by
  rw [ids, change, List.map_map]
  refine List.map_congr_left fun w _ => ?_
  show HostedWorkflow.id (if w.id = id then _ else w) = w.id
  split <;> rfl

theorem mem_named {h : Host} {name id : String} : id ∈ h.named name ↔ ∃ w ∈ h, w.name = name ∧ w.id = id := by
  rw [named, List.mem_map]
  constructor
  · rintro ⟨w, hw, rfl⟩
    obtain ⟨hmem, hname⟩ := List.mem_filter.mp hw
    exact ⟨w, hmem, of_decide_eq_true hname, rfl⟩
  · rintro ⟨w, hmem, hname, rfl⟩
    exact ⟨w, List.mem_filter.mpr ⟨hmem, decide_eq_true hname⟩, rfl⟩

theorem mem_ids_of_mem_named {h : Host} {name id : String} (hid : id ∈ h.named name) : id ∈ h.ids := by
  obtain ⟨w, hw, -, rfl⟩ := mem_named.mp hid
  exact List.mem_map_of_mem hw

theorem named_append (h : Host) (w : HostedWorkflow) (name : String) :
    named (h ++ [w]) name = h.named name ++ if w.name = name then [w.id] else [] := by
  rw [named, List.filter_append, List.map_append]
  by_cases hn : w.name = name
  · simp [named, hn]
  · simp [named, hn]

/-- Putting members into the workflow of an id leaves it its name. -/
def KeepsName (h : Host) (id : String) (changes : Members) : Prop :=
  ∀ w ∈ h, w.id = id → HostedWorkflow.name ⟨w.id, w.members.merge changes⟩ = w.name

theorem named_change {h : Host} {id : String} {changes : Members} (hkeep : h.KeepsName id changes) (name : String) :
    (h.change id changes).named name = h.named name := by
  induction h with
  | nil => rfl
  | cons w rest ih =>
      have hrest := ih (fun v hv => hkeep v (List.mem_cons_of_mem w hv))
      have hhead : (if w.id = id then { w with members := w.members.merge changes } else w).name = w.name := by
        by_cases hid : w.id = id
        · rw [if_pos hid]
          exact hkeep w List.mem_cons_self hid
        · rw [if_neg hid]
      have hsame : (if w.id = id then { w with members := w.members.merge changes } else w).id = w.id := by
        split <;> rfl
      show named ((if w.id = id then { w with members := w.members.merge changes } else w) :: change rest id changes)
        name = _
      rw [named, named, List.filter_cons, List.filter_cons, hhead]
      split
      · rw [List.map_cons, List.map_cons, hsame]
        exact congrArg (w.id :: ·) hrest
      · exact hrest

/-- What a workflow holds after a change. -/
theorem mem_change {h : Host} {id : String} {changes : Members} {w : HostedWorkflow} (hw : w ∈ h.change id changes) :
    ∃ v ∈ h, w.id = v.id ∧
      ((v.id ≠ id ∧ w.members = v.members) ∨ (v.id = id ∧ w.members = v.members.merge changes)) := by
  obtain ⟨v, hv, rfl⟩ := List.mem_map.mp hw
  refine ⟨v, hv, ?_⟩
  by_cases hid : v.id = id
  · rw [if_pos hid]
    exact ⟨rfl, Or.inr ⟨hid, rfl⟩⟩
  · rw [if_neg hid]
    exact ⟨rfl, Or.inl ⟨hid, rfl⟩⟩

/-- The workflow of an id has this name, and there is one. -/
def Owns (h : Host) (name id : String) : Prop := id ∈ h.named name ∧ ∀ w ∈ h, w.id = id → w.name = name

theorem owns_change {h : Host} {id : String} {changes : Members} (hkeep : h.KeepsName id changes) {name owned : String}
    (howns : h.Owns name owned) : (h.change id changes).Owns name owned := by
  refine ⟨by rw [named_change hkeep]; exact howns.1, fun w hw hid => ?_⟩
  obtain ⟨v, hv, hvid, ⟨-, hmembers⟩ | ⟨hchanged, hmembers⟩⟩ := mem_change hw
  · -- another workflow was changed
    have hname : w.name = v.name := by rw [HostedWorkflow.name, HostedWorkflow.name, hmembers]
    rw [hname]
    exact howns.2 v hv (hvid ▸ hid)
  · have hname : w.name = HostedWorkflow.name ⟨v.id, v.members.merge changes⟩ := by
      rw [HostedWorkflow.name, HostedWorkflow.name, hmembers]
    rw [hname, hkeep v hv hchanged]
    exact howns.2 v hv (hvid ▸ hid)

/-- A new workflow owns its id. -/
theorem owns_append {h : Host} {w : HostedWorkflow} (hnew : w.id ∉ h.ids) : Owns (h ++ [w]) w.name w.id := by
  refine ⟨?_, fun v hv hid => ?_⟩
  · rw [named_append, if_pos rfl]
    exact List.mem_append_right _ List.mem_cons_self
  · rcases List.mem_append.mp hv with hold | hlast
    · exact absurd (List.mem_map.mpr ⟨v, hold, hid⟩) hnew
    · rw [List.mem_singleton.mp hlast]

theorem Owns.append {h : Host} {w : HostedWorkflow} (hnew : w.id ∉ h.ids) {name id : String} (howns : h.Owns name id) :
    Owns (h ++ [w]) name id := by
  refine ⟨?_, fun v hv hid => ?_⟩
  · rw [named_append]
    exact List.mem_append_left _ howns.1
  · rcases List.mem_append.mp hv with hold | hlast
    · exact howns.2 v hold hid
    · rw [List.mem_singleton.mp hlast] at hid
      exact absurd (hid ▸ mem_ids_of_mem_named howns.1) hnew

/-- A change for a workflow that is not there changes nothing. -/
theorem change_of_not_mem {h : Host} {id : String} (hid : id ∉ h.ids) (changes : Members) :
    h.change id changes = h := by
  rw [change]
  refine (List.map_congr_left fun w hw => ?_).trans (List.map_id h)
  rw [if_neg (fun heq => hid (List.mem_map.mpr ⟨w, hw, heq⟩))]
  rfl

end Host

theorem HostedWorkflow.name_eq_of_get? {w : HostedWorkflow} {name : String}
    (h : Members.get? "name" w.members = some (.str name)) : w.name = name := by
  rw [HostedWorkflow.name, h]

theorem HostedWorkflow.name_congr {v w : HostedWorkflow}
    (h : Members.get? "name" v.members = Members.get? "name" w.members) : v.name = w.name := by
  rw [HostedWorkflow.name, HostedWorkflow.name, h]

namespace Host

theorem mem_of_find? {h : Host} {id : String} {w : HostedWorkflow} (hfind : h.find? id = some w) :
    w ∈ h ∧ w.id = id :=
  ⟨List.mem_of_find?_eq_some hfind, by simpa using List.find?_some hfind⟩

theorem find?_eq_none_iff {h : Host} {id : String} : h.find? id = none ↔ id ∉ h.ids := by
  rw [find?, List.find?_eq_none, ids, List.mem_map]
  constructor
  · rintro hnone ⟨w, hw, hid⟩
    exact hnone w hw (by simpa using hid)
  · intro hnot w hw hid
    exact hnot ⟨w, hw, by simpa using hid⟩

theorem find?_change (h : Host) (id : String) (changes : Members) :
    (id ∈ h.ids ∧ ∃ w, (h.change id changes).find? id = some w ∧ w.id = id)
      ∨ (id ∉ h.ids ∧ (h.change id changes).find? id = none) := by
  rw [← ids_change h id changes]
  cases hfind : (h.change id changes).find? id with
  | some w =>
      obtain ⟨hmem, hid⟩ := mem_of_find? hfind
      exact Or.inl ⟨List.mem_map.mpr ⟨w, hmem, hid⟩, w, rfl, hid⟩
  | none => exact Or.inr ⟨find?_eq_none_iff.mp hfind, rfl⟩

/-- A change is made and told, or there is no such workflow and nothing is changed. -/
theorem answer_change (source : IdSource) (h : Host) (id : String) (changes : Members) :
    (id ∈ h.ids ∧ ∃ w, w.id = id
        ∧ answer source h ⟨.patch, .workflow id, none, some (.obj changes)⟩
          = (.answer 200 (.json (HostedWorkflow.told w)), h.change id changes))
      ∨ (id ∉ h.ids
        ∧ answer source h ⟨.patch, .workflow id, none, some (.obj changes)⟩
          = (.answer 404 (.text "not found"), h)) := by
  unfold answer
  rcases find?_change h id changes with ⟨hmem, w, hfind, hid⟩ | ⟨hmem, hfind⟩
  · exact Or.inl ⟨hmem, w, hid, by simp only [hfind]⟩
  · exact Or.inr ⟨hmem, by simp only [hfind]⟩

end Host

/-! ## What is sent -/

namespace Definition

/-- The members of a definition as it is sent. -/
def sent (d : Definition) : Members :=
  [("name", .str d.name), ("nodes", .arr (d.nodes.map EngineNode.payload)),
      ("connections", connectionsJson d.connections)]
    ++ presentMembers [("active", d.active.map .bool), ("settings", some (.obj d.settings))]

theorem payload_eq (d : Definition) : d.payload = .obj d.sent := rfl

theorem sent_nodup (d : Definition) : (d.sent.map Prod.fst).Nodup := by
  obtain ⟨id, name, nodes, connections, active, settings⟩ := d
  cases active with
  | none =>
      show ["name", "nodes", "connections", "settings"].Nodup
      decide
  | some active =>
      show ["name", "nodes", "connections", "active", "settings"].Nodup
      decide

theorem get?_name_sent (d : Definition) : Members.get? "name" d.sent = some (.str d.name) := rfl

end Definition

namespace Host

theorem keepsName_sent {h : Host} {id : String} {d : Definition} (hname : ∀ w ∈ h, w.id = id → w.name = d.name) :
    h.KeepsName id d.sent := by
  intro w hw hid
  have hget : Members.get? "name" (w.members.merge d.sent) = some (.str d.name) := by
    rw [Members.get?_merge d.sent_nodup, d.get?_name_sent]
    rfl
  rw [hname w hw hid]
  exact HostedWorkflow.name_eq_of_get? hget

theorem keepsName_active (h : Host) (id : String) (active : Bool) : h.KeepsName id [("active", .bool active)] := by
  intro w _ _
  have hnodup : (List.map Prod.fst [("active", Json.bool active)]).Nodup := List.nodup_singleton "active"
  refine HostedWorkflow.name_congr ?_
  rw [Members.get?_merge hnodup]
  rfl

theorem answer_change_snd (source : IdSource) (h : Host) (id : String) (changes : Members) :
    (answer source h ⟨.patch, .workflow id, none, some (.obj changes)⟩).2 = h.change id changes := by
  rcases answer_change source h id changes with ⟨-, w, -, ha⟩ | ⟨hid, ha⟩
  · rw [ha]
  · rw [ha, change_of_not_mem hid]

end Host

/-! ## What is read -/

theorem nonEmpty_eq_some {o : Option String} {s : String} : nonEmpty o = some s ↔ o = some s ∧ s ≠ "" := by
  rw [nonEmpty, Option.filter_eq_some_iff]
  exact and_congr_right fun _ => decide_eq_true_iff

theorem nonEmpty_of_ne {s : String} (h : s ≠ "") : nonEmpty (some s) = some s := nonEmpty_eq_some.mpr ⟨rfl, h⟩

theorem nonEmpty_empty : nonEmpty (some "") = none := rfl

/-- What is read of a told workflow has its id and its name. -/
theorem read_told {w : HostedWorkflow} {d : Definition} (h : Definition.read w.told = .ok d) :
    d.id = some w.id ∧ d.name = w.name := by
  -- the fields are checked one after another; they are peeled off from the last to the first
  obtain ⟨ms, hms, hfields⟩ := Checked.andThen_eq_ok.mp (Checked.toExcept_eq_ok.mp h)
  cases Schema.record_eq_ok.mp hms
  obtain ⟨_, settings, h₁, -, rfl⟩ := Checked.seq_eq_ok.mp hfields
  obtain ⟨_, active, h₂, -, rfl⟩ := Checked.seq_eq_ok.mp h₁
  obtain ⟨_, connections, h₃, -, rfl⟩ := Checked.seq_eq_ok.mp h₂
  obtain ⟨_, nodes, h₄, -, rfl⟩ := Checked.seq_eq_ok.mp h₃
  obtain ⟨_, name, h₅, hname, rfl⟩ := Checked.seq_eq_ok.mp h₄
  obtain ⟨id, hid, rfl⟩ := Checked.map_eq_ok.mp h₅
  have hid' := (Schema.withDefault_of_some rfl).mp hid
  refine ⟨(Checked.ok.inj hid').symm, ?_⟩
  show name = w.name
  have hget : Members.get? "name" (("id", Json.str w.id) :: w.members) = Members.get? "name" w.members := rfl
  cases hv : Members.get? "name" w.members with
  | none =>
      rw [Schema.withDefault_of_none (hget.trans hv)] at hname
      rw [HostedWorkflow.name, hv]
      exact (Checked.ok.inj hname).symm
  | some v =>
      have htext := (Schema.withDefault_of_some (hget.trans hv)).mp hname
      rw [HostedWorkflow.name, hv]
      cases v with
      | str s => exact (Checked.ok.inj htext).symm
      | _ => cases htext

/-- The ids under a name in a listing of a host are those of the name, save empty ones. -/
theorem namedIds_told {h : Host} {listed : List Definition}
    (hread : Engine.readEach Definition.read (h.map HostedWorkflow.told) = .ok listed) (name : String) :
    namedIds name listed = (h.named name).filter (· ≠ "") := by
  induction h generalizing listed with
  | nil =>
      cases hread
      rfl
  | cons w rest ih =>
      obtain ⟨d, hd, hread⟩ := bind_eq_ok.mp hread
      obtain ⟨more, hmore, hread⟩ := bind_eq_ok.mp hread
      cases hread
      obtain ⟨hid, hname⟩ := read_told hd
      have hrest := ih hmore
      unfold namedIds at hrest ⊢
      rw [List.filterMap_cons, hname, hid, hrest, Host.named, Host.named, List.filter_cons]
      by_cases hn : w.name = name
      · by_cases hempty : w.id = ""
        · simp [hn, hempty, nonEmpty_empty]
        · simp [hn, hempty, nonEmpty_of_ne]
      · simp [hn]

end PromptGraph
