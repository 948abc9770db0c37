import PromptGraph.Proofs.Chain.Reading
import PromptGraph.Proofs.Json.Faults

/-!
# `Proofs.Chain.Refusals` — how the reading of a chain fails

A row is refused for the type of a node or for its shape, and the types come first: the first entry of an unknown type
is named, whatever else is wrong with the row. Two things are used before their shape is checked, and with them the
reading fails in a way of its own: a graph given as a text that cannot be decoded, and nodes that are a lone value. Two
things are put into words whatever they are, and some values have none: what is named of an entry, and the handle of an
edge.

## Contents
- **Refusals.** `Failure.IsRefusal`.
- **Stored graphs.** `HoldsGraph`, `HoldsNoDataText`; `graph_cases`.
- **Entries.** `HasKnownType`, `HasName`; `checkEntries_of_known`, `checkEntries_first` and `known_or_first` by
  induction on the entries.
- **Nodes.** `IsLone`, `EntriesOf`, `HasLoneNodes`, `HasEntries`, `HasNamelessEntry`; `lone_or_entries`.
- **Handles.** `IsDeepHandle`, `HasDeepHandle`; `readGraph_eq_broken`.
- **Reading.** `read_of_graph`, `readingEnd`, and what holds of them as `ReadsOrRefuses`: `chain_reads_or_refuses`.
-/

namespace PromptGraph

open Schema

/-! ## Refusals -/

namespace Failure

/-- The failures that a reader of rows is told of: an unknown node type, and a wrong shape. -/
inductive IsRefusal : Failure → Prop where
  | unsupportedNodeType (type node : Json) : IsRefusal (.unsupportedNodeType type node)
  | schema (fault : SchemaFault) : IsRefusal (.schema fault)

theorem not_isRefusal_ofJson (fault : JsonFault) : ¬ (ofJson fault).IsRefusal := by
  cases fault <;> (intro h; cases h)

theorem not_isRefusal_kind (fault : KindFault) : ¬ (kind fault).IsRefusal := by
  intro h
  cases h

end Failure

section

variable [Depth] {ms : Members} {config v : Json}

/-! ## Stored graphs -/

/-- What stands under the name of the graph once a text is decoded; a blank text stands for no nodes at all. -/
inductive HoldsGraph (ms : Members) : Json → Prop where
  | value {v : Json} (stored : Members.get? "config" ms = some v) (untyped : v.asString? = none) : HoldsGraph ms v
  | blank {s : String} (stored : Members.get? "config" ms = some (.str s))
      (isBlank : s.toList.all Text.isBlank = true) :
      HoldsGraph ms (.obj [])
  | decoded {s : String} {v : Json} (stored : Members.get? "config" ms = some (.str s))
      (isText : s.toList.all Text.isBlank = false) (read : Json.read s = .ok v) : HoldsGraph ms v

/-- The graph is stored as a text that is not blank and cannot be decoded. -/
def HoldsNoDataText (ms : Members) (fault : JsonFault) : Prop :=
  ∃ s, Members.get? "config" ms = some (.str s) ∧ s.toList.all Text.isBlank = false ∧ Json.read s = .error fault

theorem storedGraph_of_holds (h : HoldsGraph ms config) : storedGraph ms = .ok config := by
  unfold storedGraph
  cases h with
  | value stored untyped =>
      rw [stored]
      cases config with
      | str s => cases untyped
      | _ => rfl
  | blank stored isBlank =>
      rw [stored]
      exact if_pos isBlank
  | decoded stored isText read =>
      rw [stored]
      simp only [isText, Bool.false_eq_true, if_false, read]
      rfl

theorem storedGraph_of_noDataText {fault : JsonFault} (h : HoldsNoDataText ms fault) :
    storedGraph ms = .error (.ofJson fault) := by
  obtain ⟨s, stored, isText, read⟩ := h
  unfold storedGraph
  rw [stored]
  simp only [isText, Bool.false_eq_true, if_false, read]
  rfl

theorem HoldsGraph.contains (h : HoldsGraph ms config) : ms.contains "config" = true := by
  cases h with
  | value stored => rw [Members.contains, stored]; rfl
  | blank stored => rw [Members.contains, stored]; rfl
  | decoded stored => rw [Members.contains, stored]; rfl

/-- A row holds a graph, or none, or a text that cannot be decoded. -/
theorem graph_cases (ms : Members) :
    (∃ config, HoldsGraph ms config) ∨ Members.get? "config" ms = none ∨ ∃ fault, HoldsNoDataText ms fault := by
  cases stored : Members.get? "config" ms with
  | none => exact Or.inr (Or.inl rfl)
  | some v =>
      cases untyped : v.asString? with
      | none => exact Or.inl ⟨v, .value stored untyped⟩
      | some s =>
          obtain rfl : v = .str s := by
            cases v with
            | str t => rw [Option.some.inj untyped]
            | _ => cases untyped
          cases isBlank : s.toList.all Text.isBlank with
          | true => exact Or.inl ⟨_, .blank stored isBlank⟩
          | false =>
              cases read : Json.read s with
              | ok config => exact Or.inl ⟨config, .decoded stored isBlank read⟩
              | error fault => exact Or.inr (Or.inr ⟨fault, s, stored, isBlank, read⟩)

/-! ## Entries -/

/-- The entry carries the tag of one of the four kinds. -/
def HasKnownType (entry : Json) : Prop := ∃ tag ∈ NodeBody.tags, entry.get? "type" = some (.str tag)

omit [Depth] in
theorem isNodeTag_iff {entry : Json} : isNodeTag ((entry.get? "type").getD .null) = true ↔ HasKnownType entry := by
  unfold HasKnownType
  cases entry.get? "type" with
  | none => simp [isNodeTag]
  | some t => cases t <;> simp [isNodeTag]

/-- What is named of an entry: its type and its id as they stand, null where they do not. -/
def typeOf (entry : Json) : Json := (entry.get? "type").getD .null

def idOf (entry : Json) : Json := (entry.get? "id").getD .null

/-- An entry has a name: there are words for its type, and for its id if that counts as present. -/
structure HasName (entry : Json) : Prop where
  type : (typeOf entry).height ≤ Depth.named ∧ ¬ (typeOf entry).HasLongInteger
  id : (idOf entry).isTruthy = true →
    (∃ s, idOf entry = .str s) ∨ (idOf entry).height ≤ Depth.named ∧ ¬ (idOf entry).HasLongInteger

theorem nameFault?_eq_none_iff {entry : Json} :
    ((if (idOf entry).isTruthy then (idOf entry).displayFault? Depth.named else none).or
        ((typeOf entry).showFault? Depth.named) = none)
      ↔ HasName entry := by
  rw [Option.or_eq_none_iff, Json.showFault?_eq_none_iff]
  constructor
  · rintro ⟨hid, htype⟩
    exact ⟨htype, fun htruthy => (Json.displayFault?_eq_none_iff _).mp (by rwa [if_pos htruthy] at hid)⟩
  · rintro ⟨htype, hid⟩
    refine ⟨?_, htype⟩
    split
    · next htruthy => exact (Json.displayFault?_eq_none_iff _).mpr (hid htruthy)
    · rfl

theorem entryRefusal_of_name {entry : Json} (h : HasName entry) :
    entryRefusal (typeOf entry) (idOf entry) = .unsupportedNodeType (typeOf entry) (idOf entry) := by
  rw [entryRefusal, nameFault?_eq_none_iff.mpr h]

/-- What an entry without a name is refused with: its type or its id has an integer that is too long to be written, or
    is nested too deeply. -/
inductive NamelessRefusal (entry : Json) : Failure → Prop where
  | long (h : (typeOf entry).HasLongInteger ∨ (idOf entry).HasLongInteger) :
      NamelessRefusal entry (.value .longInteger)
  | high (h : Depth.named < (typeOf entry).height ∨ Depth.named < (idOf entry).height) :
      NamelessRefusal entry (.kind .nesting)

theorem NamelessRefusal.not_isRefusal {entry : Json} {f : Failure} (h : NamelessRefusal entry f) : ¬ f.IsRefusal := by
  cases h <;> nofun

theorem entryRefusal_of_nameless {entry : Json} (h : ¬ HasName entry) :
    NamelessRefusal entry (entryRefusal (typeOf entry) (idOf entry)) := by
  rw [entryRefusal]
  split
  · next fault hfault =>
      rcases Option.or_eq_some_iff.mp hfault with hid | ⟨-, htype⟩
      · split at hid
        · cases Json.displayFault?_eq_some hid with
          | high hhigh => exact .high (.inr hhigh)
          | long hlong => exact .long (.inr hlong)
        · cases hid
      · cases Json.showFault?_eq_some _ htype with
        | high hhigh => exact .high (.inl hhigh)
        | long hlong => exact .long (.inl hlong)
  · next hnone => exact absurd (nameFault?_eq_none_iff.mp hnone) h

/-- Entries of known types pass. -/
theorem checkEntries_append {known rest : List Json} (h : ∀ entry ∈ known, HasKnownType entry) :
    checkEntries (known ++ rest) = checkEntries rest := by
  induction known with
  | nil => rfl
  | cons entry more ih =>
      have hentry := isNodeTag_iff.mpr (h entry (List.mem_cons_self ..))
      have hmore : ∀ other ∈ more, HasKnownType other := fun other ho => h other (List.mem_cons_of_mem _ ho)
      rw [List.cons_append, checkEntries, if_pos hentry]
      exact ih hmore

theorem checkEntries_of_known {entries : List Json} (h : ∀ e ∈ entries, HasKnownType e) :
    checkEntries entries = .ok () := by
  have happend : checkEntries (entries ++ []) = checkEntries [] := checkEntries_append h
  rwa [List.append_nil] at happend

/-- The first entry of an unknown type is the one that is refused. -/
theorem checkEntries_first {known rest : List Json} {entry : Json} (hknown : ∀ e ∈ known, HasKnownType e)
    (hentry : ¬ HasKnownType entry) : checkEntries (known ++ entry :: rest)
      = .error (entryRefusal (typeOf entry) (idOf entry)) := by
  rw [checkEntries_append hknown, checkEntries, if_neg (mt isNodeTag_iff.mp hentry)]
  rfl

omit [Depth] in
/-- Either all entries are of known types, or one of them is the first that is not. -/
theorem known_or_first (entries : List Json) :
    (∀ e ∈ entries, HasKnownType e) ∨
      ∃ known entry rest, entries = known ++ entry :: rest ∧ (∀ e ∈ known, HasKnownType e) ∧ ¬ HasKnownType entry := by
  induction entries with
  | nil => exact Or.inl (by simp)
  | cons entry more ih =>
      by_cases hentry : HasKnownType entry
      · rcases ih with hall | ⟨known, first, rest, rfl, hknown, hfirst⟩
        · exact Or.inl (List.forall_mem_cons.mpr ⟨hentry, hall⟩)
        · exact Or.inr ⟨entry :: known, first, rest, rfl, List.forall_mem_cons.mpr ⟨hentry, hknown⟩, hfirst⟩
      · exact Or.inr ⟨[], entry, more, rfl, by simp, hentry⟩

/-! ## Nodes -/

/-- A value without items, members or characters that does not count as absent. -/
inductive IsLone : Json → Prop where
  | yes : IsLone (.bool true)
  | number (x : Number) (counts : (Json.num x).isTruthy = true) : IsLone (.num x)

/-- The entries under which nodes are looked for: the items of a list, the names of a mapping, the characters of a
    text; what counts as absent has none. -/
inductive EntriesOf : Json → List Json → Prop where
  | list (xs : List Json) : EntriesOf (.arr xs) xs
  | mapping (members : Members) : EntriesOf (.obj members) (members.map fun m => .str m.1)
  | text (s : String) : EntriesOf (.str s) (s.toList.map fun c => .str (String.singleton c))
  | null : EntriesOf .null []
  | no : EntriesOf (.bool false) []
  | zero (x : Number) (counts : (Json.num x).isTruthy = false) : EntriesOf (.num x) []

omit [Depth] in
theorem nodeEntries_of_lone (h : IsLone v) : nodeEntries v = .error (.kind .operation) := by
  cases h with
  | yes => rfl
  | number x counts => exact if_pos counts

omit [Depth] in
theorem nodeEntries_of_entries {entries : List Json} (h : EntriesOf v entries) : nodeEntries v = .ok entries := by
  cases h with
  | list xs => rfl
  | mapping members => rfl
  | text s => rfl
  | null => rfl
  | no => rfl
  | zero x counts => exact if_neg (by simp [counts])

omit [Depth] in
/-- Nodes that are no lone value have entries. -/
theorem lone_or_entries (v : Json) : IsLone v ∨ ∃ entries, EntriesOf v entries := by
  cases v with
  | null => exact Or.inr ⟨[], .null⟩
  | bool b =>
      cases b with
      | true => exact Or.inl .yes
      | false => exact Or.inr ⟨[], .no⟩
  | num x =>
      cases counts : (Json.num x).isTruthy with
      | true => exact Or.inl (.number x counts)
      | false => exact Or.inr ⟨[], .zero x counts⟩
  | str s => exact Or.inr ⟨_, .text s⟩
  | arr xs => exact Or.inr ⟨xs, .list xs⟩
  | obj members => exact Or.inr ⟨_, .mapping members⟩

/-- The row holds a graph whose nodes are a lone value. -/
def HasLoneNodes (ms : Members) : Prop := ∃ config v, HoldsGraph ms config ∧ config.get? "nodes" = some v ∧ IsLone v

/-- The row holds a graph whose nodes are looked for under the given entries. -/
def HasEntries (ms : Members) (entries : List Json) : Prop :=
  ∃ config v, HoldsGraph ms config ∧ config.get? "nodes" = some v ∧ EntriesOf v entries

/-- The first entry of an unknown type among the nodes of a row. -/
def FirstUnknown (ms : Members) (entry : Json) : Prop :=
  ∃ known rest, HasEntries ms (known ++ entry :: rest) ∧ (∀ e ∈ known, HasKnownType e) ∧ ¬ HasKnownType entry

/-- The first entry of an unknown type has no name. -/
def HasNamelessEntry (ms : Members) : Prop := ∃ entry, FirstUnknown ms entry ∧ ¬ HasName entry

theorem checkNodeTypes_of_nodes (h : config.get? "nodes" = some v) :
    checkNodeTypes config = nodeEntries v >>= checkEntries := by
  cases config with
  | obj members =>
      have hget : Members.get? "nodes" members = some v := h
      simp only [checkNodeTypes, hget, Option.getD_some]
  | _ => cases h

/-- Without nodes there is nothing to check. -/
theorem checkNodeTypes_of_none (h : config.get? "nodes" = none) : checkNodeTypes config = .ok () := by
  cases config with
  | obj members =>
      have hget : Members.get? "nodes" members = none := h
      simp only [checkNodeTypes, hget, Option.getD_none]
      rfl
  | _ => rfl

/-! ## Handles -/

/-- A handle that is nested too deeply to be kept as its text. -/
def IsDeepHandle (handle : Json) : Prop := handle ≠ .null ∧ handle.displayFault? Depth.kept = some .tooDeep

/-- An edge has such a handle at one of its ends. -/
def HasDeepEnd (edge : Json) : Prop :=
  (∃ handle, edge.get? "sourceHandle" = some handle ∧ IsDeepHandle handle)
    ∨ ∃ handle, edge.get? "targetHandle" = some handle ∧ IsDeepHandle handle

/-- A stored graph lists an edge with such a handle. -/
def ListsDeepEnd (config : Json) : Prop :=
  ∃ edges, config.get? "edges" = some (.arr edges) ∧ ∃ edge ∈ edges, HasDeepEnd edge

/-- The nodes of a row are of known types, and its graph lists an edge with such a handle. -/
def HasDeepHandle (ms : Members) : Prop :=
  (∃ config, HoldsGraph ms config ∧ ListsDeepEnd config) ∧ ∀ entry, ¬ FirstUnknown ms entry

theorem readHandle_eq_broken {handle : Json} : readHandle handle = .broken ↔ IsDeepHandle handle := by
  unfold readHandle IsDeepHandle
  split
  · simp
  · next hnull =>
      rw [and_iff_right hnull]
      split <;> simp_all

theorem readEdge_eq_broken {edge : Json} : readEdge edge = .broken ↔ HasDeepEnd edge := by
  unfold readEdge HasDeepEnd
  cases edge with
  | obj members => simp [record, readHandle_eq_broken, Json.get?]
  | _ => simp [record, Json.get?]

omit [Depth] in
theorem readBody_ne_broken (type : String) (members : Members) : readBody type members ≠ .broken := by
  have htemperature : ∀ v, readTemperature v ≠ .broken := by simp [readTemperature]
  have hmaxTokens : ∀ v, readMaxTokens v ≠ .broken := by simp [readMaxTokens]
  unfold readBody
  split <;> simp [readPromptBody, readRouterBody, readValidatorBody, readIntegrationBody, nullable_ne_broken,
    htemperature, hmaxTokens]

omit [Depth] in
/-- What is read of a node is checked to its end. -/
theorem readNode_ne_broken (v : Json) : readNode v ≠ .broken := by
  have hposition : ∀ v, readPosition v ≠ .broken := by simp [readPosition]
  simp only [readNode, readNodeAs, ne_eq, Checked.under_eq_broken, Checked.andThen_eq_broken, record_ne_broken,
    false_or, not_exists, not_and]
  intro members _
  split <;> simp [readBody_ne_broken, hposition]

/-- **The reading of a graph breaks off at a handle that is nested too deeply**, and nowhere else. -/
theorem readGraph_eq_broken : readGraph config = .broken ↔ ListsDeepEnd config := by
  have hmake : ∀ nodes edges, makeGraph nodes edges ≠ .broken := by
    intro nodes edges hbroken
    unfold makeGraph at hbroken
    split at hbroken <;> cases hbroken
  unfold readGraph ListsDeepEnd
  cases config with
  | obj members => simp [record, readNode_ne_broken, readEdge_eq_broken, hmake, Json.get?]
  | _ => simp [record, Json.get?]

/-! ## Reading -/

theorem readChain_eq_broken : readChain ms = .broken ↔ ∃ config, Members.get? "config" ms = some config
    ∧ ListsDeepEnd config := by
  simp [readChain, nullable_ne_broken, readGraph_eq_broken]

/-- Once its graph is known, the node types of a row are checked, and then the row as a whole. -/
theorem read_of_graph (h : storedGraph ms = .ok config) :
    ∃ normal, Chain.read (.obj ms) = (checkNodeTypes config >>= fun _ => (readChain normal).toExcept "Workflow")
      ∧ Members.get? "config" normal = if ms.contains "config" then some config else none := by
  obtain ⟨normal, hnormal, hget⟩ := normalRow_of_graph h
  refine ⟨normal, ?_, hget⟩
  show (normalRow ms >>= fun ms => (readChain ms).toExcept "Workflow") = _
  rw [hnormal, bind_assoc]
  rfl

theorem read_of_noDataText {fault : JsonFault} (h : HoldsNoDataText ms fault) :
    Chain.read (.obj ms) = .error (.ofJson fault) := by
  show (normalRow ms >>= fun ms => (readChain ms).toExcept "Workflow") = _
  rw [normalRow, storedGraph_of_noDataText h]
  rfl

theorem read_of_loneNodes (h : HasLoneNodes ms) : Chain.read (.obj ms) = .error (.kind .operation) := by
  obtain ⟨config, v, hgraph, hnodes, hlone⟩ := h
  obtain ⟨normal, hread, -⟩ := read_of_graph (storedGraph_of_holds hgraph)
  rw [hread, checkNodeTypes_of_nodes hnodes, nodeEntries_of_lone hlone]
  rfl

theorem read_of_unknown {entry : Json} (h : FirstUnknown ms entry) :
    Chain.read (.obj ms) = .error (entryRefusal (typeOf entry) (idOf entry)) := by
  obtain ⟨known, rest, ⟨config, v, hgraph, hnodes, hentries⟩, hknown, hentry⟩ := h
  obtain ⟨normal, hread, -⟩ := read_of_graph (storedGraph_of_holds hgraph)
  rw [hread, checkNodeTypes_of_nodes hnodes, nodeEntries_of_entries hentries]
  show (checkEntries (known ++ entry :: rest) >>= _) = _
  rw [checkEntries_first hknown hentry]
  rfl

theorem read_of_nameless {entry : Json} (h : FirstUnknown ms entry) (hname : ¬ HasName entry) :
    ∃ f, Chain.read (.obj ms) = .error f ∧ NamelessRefusal entry f :=
  ⟨_, read_of_unknown h, entryRefusal_of_nameless hname⟩

/-- A graph whose nodes are no lone value is checked for their types, which fails only with the first unknown one. -/
theorem checkNodeTypes_of_known (hgraph : HoldsGraph ms config) (hlone : ¬ HasLoneNodes ms)
    (hknown : ∀ entry, ¬ FirstUnknown ms entry) : checkNodeTypes config = .ok () := by
  cases hnodes : config.get? "nodes" with
  | none => exact checkNodeTypes_of_none hnodes
  | some v =>
      rcases lone_or_entries v with h | ⟨entries, hentries⟩
      · exact absurd ⟨config, v, hgraph, hnodes, h⟩ hlone
      · rw [checkNodeTypes_of_nodes hnodes, nodeEntries_of_entries hentries]
        rcases known_or_first entries with hall | ⟨known, entry, rest, rfl, hbefore, hentry⟩
        · exact checkEntries_of_known hall
        · exact absurd ⟨known, rest, ⟨config, v, hgraph, hnodes, hentries⟩, hbefore, hentry⟩ (hknown entry)

theorem read_of_deepHandle (h : HasDeepHandle ms) (hlone : ¬ HasLoneNodes ms) :
    Chain.read (.obj ms) = .error (.kind .nesting) := by
  obtain ⟨⟨config, hgraph, hdeep⟩, hknown⟩ := h
  obtain ⟨normal, hread, hconfig⟩ := read_of_graph (storedGraph_of_holds hgraph)
  have hbroken : readChain normal = .broken :=
    readChain_eq_broken.mpr ⟨config, hconfig.trans (if_pos hgraph.contains), hdeep⟩
  rw [hread, checkNodeTypes_of_known hgraph hlone hknown]
  exact Checked.toExcept_eq_nesting.mpr hbroken

/-- Where the types are known, only the row as a whole is left to be checked: it is read, or refused for its shape, or
    a handle in its graph is nested too deeply. -/
theorem read_of_known (hgraph : storedGraph ms = .ok config) (hchecked : checkNodeTypes config = .ok ()) :
    (∃ c, Chain.read (.obj ms) = .ok c) ∨ (∃ fault, Chain.read (.obj ms) = .error (.schema fault))
      ∨ (ms.contains "config" = true ∧ ListsDeepEnd config) ∧ Chain.read (.obj ms) = .error (.kind .nesting) := by
  obtain ⟨normal, hread, hconfig⟩ := read_of_graph hgraph
  have hshape : Chain.read (.obj ms) = (readChain normal).toExcept "Workflow" := by
    rw [hread, hchecked]
    rfl
  cases hend : (readChain normal).toExcept "Workflow" with
  | ok c => exact Or.inl ⟨c, hshape.trans hend⟩
  | error f =>
      rcases Checked.toExcept_error hend with ⟨fault, rfl⟩ | ⟨hbroken, rfl⟩
      · exact Or.inr (Or.inl ⟨fault, hshape.trans hend⟩)
      · obtain ⟨config', hget, hdeep⟩ := readChain_eq_broken.mp hbroken
        rw [hget] at hconfig
        split at hconfig
        · next hcontains =>
            cases hconfig
            exact Or.inr (Or.inr ⟨⟨hcontains, hdeep⟩, hshape.trans hend⟩)
        · cases hconfig

/-- How the reading of a row ends. -/
inductive ReadingEnd (ms : Members) : Except Failure Chain → Prop where
  | noDataText {fault : JsonFault} (text : HoldsNoDataText ms fault) : ReadingEnd ms (.error (.ofJson fault))
  | loneNodes (lone : HasLoneNodes ms) : ReadingEnd ms (.error (.kind .operation))
  | unknown {entry : Json} (first : FirstUnknown ms entry) (name : HasName entry) :
      ReadingEnd ms (.error (.unsupportedNodeType (typeOf entry) (idOf entry)))
  | nameless {entry : Json} {f : Failure} (first : FirstUnknown ms entry) (nameless : ¬ HasName entry)
      (refusal : NamelessRefusal entry f) : ReadingEnd ms (.error f)
  | deepHandle (deep : HasDeepHandle ms) : ReadingEnd ms (.error (.kind .nesting))
  | shape (fault : SchemaFault) : ReadingEnd ms (.error (.schema fault))
  | chain (c : Chain) : ReadingEnd ms (.ok c)

theorem readingEnd (ms : Members) : ReadingEnd ms (Chain.read (.obj ms)) := by
  by_cases hlone : HasLoneNodes ms
  · rw [read_of_loneNodes hlone]
    exact .loneNodes hlone
  by_cases hfirst : ∃ entry, FirstUnknown ms entry
  · obtain ⟨entry, hfirst⟩ := hfirst
    rw [read_of_unknown hfirst]
    by_cases hname : HasName entry
    · rw [entryRefusal_of_name hname]
      exact .unknown hfirst hname
    · exact .nameless hfirst hname (entryRefusal_of_nameless hname)
  -- the row as a whole is checked last, when nothing before has failed
  have hknown : ∀ entry, ¬ FirstUnknown ms entry := fun entry h => hfirst ⟨entry, h⟩
  have hlast : ∀ {config}, storedGraph ms = .ok config → checkNodeTypes config = .ok () →
      (ms.contains "config" = true → HoldsGraph ms config) → ReadingEnd ms (Chain.read (.obj ms)) := by
    intro config hgraph hchecked hholds
    rcases read_of_known hgraph hchecked with ⟨c, hc⟩ | ⟨fault, hfault⟩ | ⟨⟨hcontains, hdeep⟩, hbroken⟩
    · rw [hc]
      exact .chain c
    · rw [hfault]
      exact .shape fault
    · rw [hbroken]
      exact .deepHandle ⟨⟨config, hholds hcontains, hdeep⟩, hknown⟩
  rcases graph_cases ms with ⟨config, hgraph⟩ | hnone | ⟨fault, htext⟩
  · exact hlast (storedGraph_of_holds hgraph) (checkNodeTypes_of_known hgraph hlone hknown) fun _ => hgraph
  · have hgraph : storedGraph ms = .ok .null := by rw [storedGraph, hnone]
    have hempty : ms.contains "config" = false := by rw [Members.contains, hnone]; rfl
    exact hlast hgraph rfl fun hcontains => absurd hcontains (by simp [hempty])
  · rw [read_of_noDataText htext]
    exact .noDataText htext

/-- How the reading of a row fails. -/
structure ReadsOrRefuses (ms : Members) : Prop where
  /-- It returns a chain or fails in one of the two ways it is said to, except for a text that cannot be decoded, for
      nodes that are a lone value, for an unknown type without a name, and for a handle that is nested too deeply. -/
  announced_iff : ((∃ c, Chain.read (.obj ms) = .ok c) ∨ ∃ f, Chain.read (.obj ms) = .error f ∧ f.IsRefusal) ↔
    (∀ fault, ¬ HoldsNoDataText ms fault) ∧ ¬ HasLoneNodes ms ∧ ¬ HasNamelessEntry ms ∧ ¬ HasDeepHandle ms
  noDataText : ∀ fault, HoldsNoDataText ms fault → Chain.read (.obj ms) = .error (.ofJson fault)
  loneNodes : HasLoneNodes ms → Chain.read (.obj ms) = .error (.kind .operation)
  /-- The first entry of an unknown type is refused by name, whatever else is wrong with the row. -/
  firstUnknown : ∀ entry, FirstUnknown ms entry → HasName entry → Chain.read (.obj ms)
    = .error (.unsupportedNodeType ((entry.get? "type").getD .null) ((entry.get? "id").getD .null))
  nameless : ∀ entry, FirstUnknown ms entry → ¬ HasName entry →
    ∃ f, Chain.read (.obj ms) = .error f ∧ NamelessRefusal entry f
  /-- Nothing else is refused for its type. -/
  onlyUnknown : ∀ type node, Chain.read (.obj ms) = .error (.unsupportedNodeType type node) →
    ∃ entry, FirstUnknown ms entry ∧ HasName entry ∧ type = (entry.get? "type").getD .null
      ∧ node = (entry.get? "id").getD .null
  deepHandle : HasDeepHandle ms → ¬ HasLoneNodes ms → Chain.read (.obj ms) = .error (.kind .nesting)

/-- **A row is read, or refused for its first unknown type or for its shape; it fails otherwise just where its graph is
a text that cannot be decoded, its nodes are a lone value, its first unknown type has no name, or a handle of it is
nested too deeply.** -/
theorem chain_reads_or_refuses (ms : Members) : ReadsOrRefuses ms where
  noDataText _ h := read_of_noDataText h
  loneNodes h := read_of_loneNodes h
  firstUnknown _ h hname := (read_of_unknown h).trans (congrArg Except.error (entryRefusal_of_name hname))
  nameless _ h hname := read_of_nameless h hname
  deepHandle h hlone := read_of_deepHandle h hlone
  announced_iff := by
    constructor
    · intro h
      have hother : ∀ f, Chain.read (.obj ms) = .error f → f.IsRefusal := by
        intro f hf
        rcases h with ⟨c, hc⟩ | ⟨f', hf', hrefusal⟩
        · rw [hc] at hf
          cases hf
        · rw [hf'] at hf
          cases hf
          exact hrefusal
      have hlone : ¬ HasLoneNodes ms := fun hlone =>
        Failure.not_isRefusal_kind _ (hother _ (read_of_loneNodes hlone))
      refine ⟨fun fault htext => ?_, hlone, ?_, fun hdeep => ?_⟩
      · exact Failure.not_isRefusal_ofJson fault (hother _ (read_of_noDataText htext))
      · rintro ⟨entry, hfirst, hname⟩
        obtain ⟨f, hf, hrefusal⟩ := read_of_nameless hfirst hname
        exact hrefusal.not_isRefusal (hother f hf)
      · exact Failure.not_isRefusal_kind _ (hother _ (read_of_deepHandle hdeep hlone))
    · rintro ⟨htext, hlone, hnames, hhandles⟩
      generalize hend : Chain.read (.obj ms) = result
      cases hend ▸ readingEnd ms with
      | noDataText text => exact absurd text (htext _)
      | loneNodes lone => exact absurd lone hlone
      | unknown first name => exact Or.inr ⟨_, rfl, .unsupportedNodeType _ _⟩
      | nameless first nameless => exact absurd ⟨_, first, nameless⟩ hnames
      | deepHandle deep => exact absurd deep hhandles
      | shape fault => exact Or.inr ⟨_, rfl, .schema fault⟩
      | chain c => exact Or.inl ⟨c, rfl⟩
  onlyUnknown := by
    intro type node h
    generalize hend : Failure.unsupportedNodeType type node = f at h
    cases h ▸ readingEnd ms with
    | noDataText text =>
        have hrefusal := Failure.IsRefusal.unsupportedNodeType type node
        rw [hend] at hrefusal
        exact absurd hrefusal (Failure.not_isRefusal_ofJson _)
    | loneNodes lone => cases hend
    | unknown first name =>
        cases hend
        exact ⟨_, first, name, rfl, rfl⟩
    | nameless first nameless refusal =>
        cases hend
        cases refusal
    | deepHandle deep => cases hend
    | shape fault => cases hend

end

/-- A row whose nodes are the number five. -/
def loneNodesRow : Members := [("id", .str "c"), ("name", .str "n"), ("config", .obj [("nodes", Json.int 5)])]

/-- The reading of this row fails, and not in a way that is announced. -/
theorem loneNodesRow_escapes :
    Chain.read (.obj loneNodesRow) = .error (.kind .operation) ∧ ¬ (Failure.kind .operation).IsRefusal :=
  ⟨rfl, nofun⟩

end PromptGraph
