import PromptGraph.Credential.Propagation
import PromptGraph.Proofs.Credential.Attempts
import PromptGraph.Proofs.Engine.Host

/-!
# `Proofs.Credential.Vault` — an engine that keeps credentials, behind a network that may fail

A vault holds credentials and answers as documented: a listing tells all of them, page after page, a new one gets an id
of its own, a change puts the given fields into a credential, and a deletion takes it away. Between a process and a
vault stands a network: a request may not arrive, its answer may be lost after it took effect, or it is delivered.

## Contents
- **The vault.** `KeptCredential`, `Vault` with `add`, `change` and `remove`; `Vault.named`.
- **Answers.** `Custodian`: how a vault is listed and told of; `Custodian.answer`.
- **The network.** `Mishap`, `Fate`, `VaultSite`; `VaultSite.answer`, `answer_exchange_cases`.
- **What is held.** `named_add`, `named_change`, `named_remove`, and the same of the others.
-/

namespace PromptGraph

open Http

/-! ## The vault -/

/-- A credential that an engine keeps. -/
structure KeptCredential where
  id : String
  name : String
  type : String
  data : Members
  id_ne_empty : id ≠ ""

/-- The credentials that an engine keeps, in the order of their making, each under an id of its own. -/
@[ext] structure Vault where
  held : List KeptCredential
  distinct : (held.map KeptCredential.id).Nodup

namespace Vault

def ids (v : Vault) : List String := v.held.map KeptCredential.id

/-- The credentials of a name. -/
def named (v : Vault) (name : String) : List KeptCredential := v.held.filter fun k => k.name = name

/-- The credentials of other names. -/
def others (v : Vault) (name : String) : List KeptCredential := v.held.filter fun k => k.name ≠ name

/-- The id of the first credential of a name. -/
def found (v : Vault) (name : String) : Option String := (v.named name).head?.map KeptCredential.id

/-- The credential of an id. -/
def find? (v : Vault) (id : String) : Option KeptCredential := v.held.find? fun k => k.id == id

/-- A new credential. -/
def made (source : IdSource) (v : Vault) (name type : String) (data : Members) : KeptCredential :=
  ⟨source.next v.ids, name, type, data, source.next_ne_empty v.ids⟩

/-- Puts a new credential into the vault. -/
def add (source : IdSource) (v : Vault) (name type : String) (data : Members) : Vault where
  held := v.held ++ [v.made source name type data]
  distinct := by
    rw [List.map_append]
    exact List.nodup_append_comm.mp (List.nodup_cons.mpr ⟨source.next_not_mem v.ids, v.distinct⟩)

/-- A credential with other fields under the same id. -/
def changed (k : KeptCredential) (name type : String) (data : Members) : KeptCredential :=
  { k with name := name, type := type, data := data }

/-- Puts fields into the credential of an id. -/
def change (v : Vault) (id name type : String) (data : Members) : Vault where
  held := v.held.map fun k => if k.id = id then changed k name type data else k
  distinct := by
    have hids : (v.held.map fun k => if k.id = id then changed k name type data else k).map KeptCredential.id
        = v.held.map KeptCredential.id := by
      rw [List.map_map]
      refine List.map_congr_left fun k _ => ?_
      show KeptCredential.id (if k.id = id then changed k name type data else k) = k.id
      split <;> rfl
    rw [hids]
    exact v.distinct

/-- Takes the credential of an id away. -/
def remove (v : Vault) (id : String) : Vault where
  held := v.held.filter fun k => k.id ≠ id
  distinct := (List.filter_sublist.map _).nodup v.distinct

end Vault

/-! ## Answers -/

/-- How a vault is kept: where new ids come from, in which order and on which pages its credentials are listed, and what
    is told of a credential besides its id, its name and its type. Of its data an object is told, or nothing. -/
structure Custodian where
  source : IdSource
  order : List KeptCredential → List KeptCredential
  order_perm : ∀ held, (order held).Perm held
  pageSize : Nat
  pageSize_pos : 0 < pageSize
  /-- The cursor of the page that begins at a position. -/
  mark : Nat → String
  mark_ne_empty : ∀ n, mark n ≠ ""
  place? : String → Option Nat
  place?_mark : ∀ n, place? (mark n) = some n
  details : KeptCredential → Members
  details_data : ∀ k v, Members.get? "data" (details k) = some v → ∃ ms, v = .obj ms

namespace Custodian

variable (z : Custodian)

/-- A credential as it is told. -/
def told (k : KeptCredential) : Json :=
  .obj ([("id", .str k.id), ("name", .str k.name), ("type", .str k.type)] ++ z.details k)

/-- The cursor of the page after the one that begins at a position, null after the last. -/
def next (v : Vault) (start : Nat) : Json :=
  if start + z.pageSize < v.held.length then .str (z.mark (start + z.pageSize)) else .null

/-- The page that begins at a position. -/
def page (v : Vault) (start : Nat) : Json :=
  .obj [("data", .arr ((((z.order v.held).drop start).take z.pageSize).map z.told)), ("nextCursor", z.next v start)]

/-- The position that the parameters of a request for a page mean. -/
def start? : Option (List (String × String)) → Option Nat
  | none => some 0
  | some [("cursor", s)] => z.place? s
  | some _ => none

/-- The text of a member. -/
def textOf? (name : String) (ms : Members) : Option String := (Members.get? name ms).bind Json.asString?

/-- The mapping of a member. -/
def mappingOf? (name : String) (ms : Members) : Option Members := (Members.get? name ms).bind Json.asObject?

def ok (value : Json) : Reply := .answer 200 (.json value)

def missing : Reply := .answer 404 (.text "not found")

def invalid : Reply := .answer 400 (.text "bad request")

/-- What a vault answers to a request, and what it holds afterwards. -/
def answer (v : Vault) (r : Request) : Reply × Vault :=
  match r.method, r.endpoint, r.body with
  | .get, .credentials, _ =>
    match z.start? r.parameters with
    | some start => (ok (z.page v start), v)
    | none => (invalid, v)
  | .post, .credentials, some (.obj ms) =>
    match textOf? "name" ms, textOf? "type" ms, mappingOf? "data" ms with
    | some name, some type, some data =>
      (ok (z.told (v.made z.source name type data)), v.add z.source name type data)
    | _, _, _ => (invalid, v)
  | .patch, .credential id, some (.obj ms) =>
    match v.find? id with
    | some k =>
      let name := (textOf? "name" ms).getD k.name
      let type := (textOf? "type" ms).getD k.type
      let data := (mappingOf? "data" ms).getD k.data
      (ok (z.told (Vault.changed k name type data)), v.change id name type data)
    | none => (missing, v)
  | .delete, .credential id, _ =>
    match v.find? id with
    | some k => (ok (z.told k), v.remove id)
    | none => (missing, v)
  | _, _, _ => (missing, v)

end Custodian

/-! ## The network -/

section Network

variable [Depth]

/-- A reply that brings no usable answer: a failed transport, an answer outside 2xx, or an unreadable one. -/
structure Mishap where
  reply : Reply
  remote : ∀ r, ∃ e, Engine.replyValue r reply = .error (.remote e)

/-- What becomes of a request. -/
inductive Fate where
  /-- It has no effect. -/
  | refused (mishap : Mishap)
  /-- It takes effect, and its answer is lost. -/
  | lost (mishap : Mishap)
  | delivered

/-- A vault beside whatever else is near a process. -/
structure VaultSite where
  vault : Vault
  near : Rehearsal

namespace VaultSite

variable (z : Custodian) (fate : Nat → Fate)

/-- Each request has its fate, by its number, and is noted; all else is answered nearby. -/
def answer : Act.Handler VaultSite
  | .exchange r, s =>
    let near := { s.near with requests := s.near.requests ++ [r] }
    match fate s.near.requests.length with
    | .refused m => (m.reply, ⟨s.vault, near⟩)
    | .lost m => (m.reply, ⟨(z.answer s.vault r).2, near⟩)
    | .delivered => ((z.answer s.vault r).1, ⟨(z.answer s.vault r).2, near⟩)
  | q, s => ((Rehearsal.answer q s.near).1, { s with near := (Rehearsal.answer q s.near).2 })

/-- **What comes of a request**: the vault's answer to it, or no usable answer, whether it took effect or not. Only what
    is not delivered is not answered. -/
theorem answer_exchange_cases (r : Request) (s : VaultSite) :
    ∃ near, near.failures = s.near.failures
      ∧ ((∃ reply v, answer z fate (.exchange r) s = (reply, ⟨v, near⟩) ∧ (v = s.vault ∨ v = (z.answer s.vault r).2)
          ∧ (∃ e, Engine.replyValue r reply = .error (.remote e)) ∧ ∃ n, fate n ≠ .delivered)
        ∨ answer z fate (.exchange r) s = ((z.answer s.vault r).1, ⟨(z.answer s.vault r).2, near⟩)) := by
  refine ⟨{ s.near with requests := s.near.requests ++ [r] }, rfl, ?_⟩
  have hundelivered : fate s.near.requests.length ≠ .delivered → ∃ n, fate n ≠ .delivered := fun h => ⟨_, h⟩
  simp only [answer]
  cases hfate : fate s.near.requests.length with
  | refused m => exact Or.inl ⟨_, _, rfl, Or.inl rfl, m.remote r, hundelivered (by rw [hfate]; nofun)⟩
  | lost m => exact Or.inl ⟨_, _, rfl, Or.inr rfl, m.remote r, hundelivered (by rw [hfate]; nofun)⟩
  | delivered => exact Or.inr rfl

end VaultSite

end Network

/-! ## What is held -/

namespace Vault

variable {v : Vault} {name id type : String} {data : Members} {k : KeptCredential}

theorem mem_named : k ∈ v.named name ↔ k ∈ v.held ∧ k.name = name := by
  rw [named, List.mem_filter, decide_eq_true_eq]

/-- An id is that of one credential. -/
theorem eq_of_id {k' : KeptCredential} (hk : k ∈ v.held) (hk' : k' ∈ v.held) (hid : k.id = k'.id) : k = k' :=
  List.inj_on_of_nodup_map v.distinct hk hk' hid

theorem find?_of_mem (hk : k ∈ v.held) : v.find? k.id = some k := by
  obtain ⟨k', hfind⟩ : ∃ k', v.find? k.id = some k' := by
    rw [← Option.isSome_iff_exists, find?, List.find?_isSome]
    exact ⟨k, hk, beq_self_eq_true _⟩
  have hid : k'.id = k.id := by simpa using List.find?_some hfind
  rw [hfind, eq_of_id (List.mem_of_find?_eq_some hfind) hk hid]

theorem named_add (source : IdSource) (v : Vault) (name type : String) (data : Members) :
    (v.add source name type data).named name = v.named name ++ [v.made source name type data] := by
  simp [named, add, made]

theorem others_add (source : IdSource) (v : Vault) (name type : String) (data : Members) :
    (v.add source name type data).others name = v.others name := by
  simp [others, add, made]

/-- The credential of an id, if there is one, has this name. -/
def Owns (v : Vault) (name id : String) : Prop := ∀ k ∈ v.held, k.id = id → k.name = name

theorem owns_of_mem (hk : k ∈ v.held) : v.Owns k.name k.id := by
  intro k' hk' hid
  rw [eq_of_id hk' hk hid]

/-- A change that leaves a credential its name is a change of the credentials of that name. -/
theorem named_change (howns : v.Owns name id) :
    (v.change id name type data).named name
      = (v.named name).map fun k => if k.id = id then changed k name type data else k := by
  rw [named, named, change, List.filter_map]
  congr 1
  refine List.filter_congr fun k hk => ?_
  show decide (KeptCredential.name (if k.id = id then changed k name type data else k) = name) = _
  by_cases hid : k.id = id
  · rw [if_pos hid, howns k hk hid]
    rfl
  · rw [if_neg hid]

theorem others_change (howns : v.Owns name id) : (v.change id name type data).others name = v.others name := by
  have hkept : (v.held.filter fun k => k.name ≠ name).map
      (fun k => if k.id = id then changed k name type data else k) = v.held.filter fun k => k.name ≠ name := by
    refine (List.map_congr_left fun k hk => ?_).trans (List.map_id _)
    obtain ⟨hmem, hname⟩ := List.mem_filter.mp hk
    rw [if_neg fun hid => of_decide_eq_true hname (howns k hmem hid)]
    rfl
  rw [others, others, change, List.filter_map]
  refine (congrArg _ (List.filter_congr fun k hk => ?_)).trans hkept
  show decide (KeptCredential.name (if k.id = id then changed k name type data else k) ≠ name) = _
  by_cases hid : k.id = id
  · rw [if_pos hid, howns k hk hid]
    rfl
  · rw [if_neg hid]

/-- Fields that a credential has already are put into it without a change. -/
theorem change_eq_self (h : ∀ k ∈ v.held, k.id = id → changed k name type data = k) :
    v.change id name type data = v := by
  ext1
  refine (List.map_congr_left fun k hk => ?_).trans (List.map_id _)
  by_cases hid : k.id = id
  · rw [if_pos hid, h k hk hid]
    rfl
  · rw [if_neg hid]
    rfl

theorem named_remove (v : Vault) (name id : String) :
    (v.remove id).named name = (v.named name).filter fun k => k.id ≠ id := by
  rw [named, named, remove, List.filter_comm]

theorem others_remove (howns : v.Owns name id) : (v.remove id).others name = v.others name := by
  rw [others, others, remove, List.filter_comm]
  refine List.filter_eq_self.mpr fun k hk => ?_
  obtain ⟨hmem, hname⟩ := List.mem_filter.mp hk
  exact decide_eq_true fun hid => of_decide_eq_true hname (howns k hmem hid)

end Vault

end PromptGraph
