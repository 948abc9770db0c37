import Mathlib.Data.List.Induction
import PromptGraph.Proofs.Compile.Connections
import PromptGraph.Proofs.Compile.Outcome

/-!
# `Proofs.Compile.Ports` — which targets stand on which port

The connections of a graph are built edge by edge, each adding one link to what is there. Read per source and port they
are a selection from the edges: a port has the targets of exactly the edges that leave from it, in their order, and a
source has as many ports as its largest one needs.

## Contents
- **Ports.** `getD_add`, `length_add`: what a target on a port changes.
- **Links.** `Link`, `connect`: connections as links added one by one; `sources_connect`, `getD_connect`,
  `lt_length_connect`, `links_connect`, each by induction on the links.
- **Edges.** `Edge.link`, `compileConnections_eq`; `Routes` and `compileConnections_routes`; `paddedEdge`, whose handle
  spells zero with more digits than are read.
-/

namespace PromptGraph

/-! ## Ports -/

namespace Ports

variable (target : Target) (port : Nat) (ports : Ports)

/-- A target comes after those that its port has; other ports keep theirs. -/
theorem getD_add (i : Nat) :
    (Ports.add target port ports).getD i [] = ports.getD i [] ++ if i = port then [target] else [] := by
  induction port generalizing ports i with
  | zero => cases ports <;> cases i <;> simp [Ports.add]
  | succ port ih =>
      cases ports with
      | nil =>
          cases i with
          | zero => simp [Ports.add]
          | succ i => simpa [Ports.add] using ih [] i
      | cons first rest =>
          cases i with
          | zero => simp [Ports.add]
          | succ i => simpa [Ports.add] using ih rest i

/-- There are as many ports as the largest one needs. -/
theorem length_add : (Ports.add target port ports).length = max ports.length (port + 1) := by
  induction port generalizing ports with
  | zero => cases ports <;> simp [Ports.add]
  | succ port ih =>
      cases ports with
      | nil => simp [Ports.add, ih]
      | cons first rest =>
          rw [Ports.add, List.length_cons, ih, List.length_cons]
          omega

end Ports

/-! ## Links -/

/-- A target on a port of a source. -/
structure Link where
  source : String
  port : Nat
  target : Target

namespace Ports

/-- The links from a source, its ports being counted from an index. -/
def links (source : String) : Nat → Ports → List Link
  | _, [] => []
  | index, targets :: rest => targets.map (Link.mk source index) ++ links source (index + 1) rest

/-- A target on a port is one more link. -/
theorem links_add (source : String) (target : Target) (port index : Nat) (ports : Ports) :
    (links source index (Ports.add target port ports)).Perm
      (⟨source, index + port, target⟩ :: links source index ports) := by
  induction port generalizing ports index with
  | zero =>
      cases ports with
      | nil => exact List.Perm.refl _
      | cons first rest =>
          rw [Ports.add, links, links, List.map_append, List.append_assoc]
          exact List.perm_middle
  | succ port ih =>
      have hindex : index + (port + 1) = index + 1 + port := by omega
      rw [hindex]
      cases ports with
      | nil => exact ih (index + 1) []
      | cons first rest =>
          rw [Ports.add, links, links]
          exact ((ih (index + 1) rest).append_left _).trans List.perm_middle

end Ports

namespace Connections

/-- The ports of a source; what is no source has none. -/
def portsOf (c : Connections) (source : String) : Ports := (c.lookup source).getD []

/-- All links. -/
def links (c : Connections) : List Link := c.flatMap fun entry => Ports.links entry.1 0 entry.2

/-- The source that a target is added to. -/
theorem portsOf_add_self (source : String) (port : Nat) (target : Target) (c : Connections) :
    (c.add source port target).portsOf source = Ports.add target port (c.portsOf source) := by
  unfold portsOf
  induction c with
  | nil => simp [Connections.add]
  | cons entry rest ih =>
      obtain ⟨s, ports⟩ := entry
      by_cases hs : s = source
      · simp [Connections.add, hs]
      · have hlookup : (source == s) = false := beq_false_of_ne fun heq => hs heq.symm
        rw [Connections.add, if_neg hs, List.lookup_cons, List.lookup_cons, hlookup]
        exact ih

theorem portsOf_add_of_ne {source other : String} (h : source ≠ other) (port : Nat) (target : Target)
    (c : Connections) : (c.add source port target).portsOf other = c.portsOf other := by
  unfold portsOf
  rw [lookup_add_of_ne h]

theorem links_add (source : String) (port : Nat) (target : Target) (c : Connections) :
    (c.add source port target).links.Perm (⟨source, port, target⟩ :: c.links) := by
  induction c with
  | nil =>
      have hport := Ports.links_add source target port 0 []
      rw [Nat.zero_add] at hport
      exact hport.append_right _
  | cons entry rest ih =>
      obtain ⟨s, ports⟩ := entry
      by_cases hs : s = source
      · subst hs
        have hport := Ports.links_add s target port 0 ports
        rw [Nat.zero_add] at hport
        rw [Connections.add, if_pos rfl]
        exact hport.append_right _
      · rw [Connections.add, if_neg hs]
        exact (ih.append_left _).trans List.perm_middle

end Connections

/-- The connections of links. -/
def connect (links : List Link) : Connections := links.foldl (fun c l => c.add l.source l.port l.target) []

theorem connect_concat (links : List Link) (l : Link) :
    connect (links ++ [l]) = (connect links).add l.source l.port l.target := by
  rw [connect, List.foldl_append]
  rfl

/-- What was not there before comes last. -/
theorem eraseDups_concat (names : List String) (name : String) :
    (names ++ [name]).eraseDups = if name ∈ names then names.eraseDups else names.eraseDups ++ [name] := by
  rw [List.eraseDups_append]
  by_cases hname : name ∈ names
  · simp [List.removeAll, hname]
  · simp [List.removeAll, hname, List.eraseDups_cons]

/-- The sources of links are in the order of their first appearance. -/
theorem sources_connect (links : List Link) : (connect links).sources = (links.map Link.source).eraseDups := by
  induction links using List.reverseRecOn with
  | nil => rfl
  | append_singleton links l ih =>
      rw [connect_concat, sources_add, ih, List.map_append, List.map_singleton, eraseDups_concat]
      simp only [List.mem_eraseDups]

/-- The links from a port of a source. -/
def linksFrom (links : List Link) (source : String) (port : Nat) : List Link :=
  links.filter fun l => l.source = source ∧ l.port = port

/-- A port has the targets of the links from it, in their order. -/
theorem getD_connect (links : List Link) (source : String) (port : Nat) :
    ((connect links).portsOf source).getD port [] = (linksFrom links source port).map Link.target := by
  induction links using List.reverseRecOn with
  | nil => rfl
  | append_singleton links l ih =>
      rw [connect_concat, linksFrom, List.filter_append, List.map_append]
      by_cases hsource : l.source = source
      · subst hsource
        rw [Connections.portsOf_add_self, Ports.getD_add, ih]
        by_cases hport : l.port = port
        · simp [linksFrom, hport]
        · simp [linksFrom, hport, Ne.symm hport]
      · rw [Connections.portsOf_add_of_ne hsource, ih]
        simp [linksFrom, hsource]

/-- A source has a port exactly if some link leaves from this one or a larger one. -/
theorem lt_length_connect (links : List Link) (source : String) (port : Nat) :
    port < ((connect links).portsOf source).length ↔ ∃ l ∈ links, l.source = source ∧ port ≤ l.port := by
  induction links using List.reverseRecOn with
  | nil => simp [connect, Connections.portsOf]
  | append_singleton links l ih =>
      rw [connect_concat]
      by_cases hsource : l.source = source
      · subst hsource
        have hmax : port < max ((connect links).portsOf l.source).length (l.port + 1)
            ↔ port < ((connect links).portsOf l.source).length ∨ port ≤ l.port := by omega
        rw [Connections.portsOf_add_self, Ports.length_add, hmax, ih]
        simp [or_and_right, exists_or]
      · rw [Connections.portsOf_add_of_ne hsource, ih]
        simp [or_and_right, exists_or, hsource]

/-- Every link is there once, and there are no others. -/
theorem links_connect (links : List Link) : (connect links).links.Perm links := by
  induction links using List.reverseRecOn with
  | nil => exact List.Perm.refl _
  | append_singleton links l ih =>
      rw [connect_concat]
      exact (Connections.links_add l.source l.port l.target (connect links)).trans
        ((ih.cons l).trans (List.perm_append_singleton l links).symm)

/-! ## Edges -/

/-- The number that the handle of an edge spells. -/
def Edge.port (e : Edge) : Nat := Text.readDigits (handleDigits e.sourceHandle)

/-- An edge leads from its port to the main input of its target. -/
def Edge.link (e : Edge) : Link := ⟨e.source, e.port, .main e.target⟩

/-- The trigger feeds the first node from its first port. -/
def feed (id : String) : Link := ⟨triggerId, 0, .main id⟩

theorem addEdges_eq {edges : List Edge} (h : ∀ e ∈ edges, ¬ IsOverlong e) (links : List Link) :
    Connections.addEdges edges (connect links) = .ok (connect (links ++ edges.map Edge.link)) := by
  induction edges generalizing links with
  | nil =>
      rw [List.map_nil, List.append_nil]
      rfl
  | cons e rest ih =>
      obtain ⟨he, hrest⟩ := List.forall_mem_cons.mp h
      have hnext := ih hrest (links ++ [e.link])
      rw [connect_concat, List.append_assoc] at hnext
      rw [Connections.addEdges, outputPort_of_short he]
      exact hnext

/-- Edges whose handles are read are connected as links, after what the trigger feeds. -/
theorem compileConnections_eq {edges : List Edge} (h : ∀ e ∈ edges, ¬ IsOverlong e) (first : Option String) :
    compileConnections edges first = .ok (connect (first.toList.map feed ++ edges.map Edge.link)) := by
  cases first with
  | none => exact addEdges_eq h []
  | some id => exact addEdges_eq h [feed id]

/-- The port that an edge leaves from, if its handle is read. -/
def Edge.port? (e : Edge) : Option Nat := (outputPort e.sourceHandle).toOption

theorem port?_of_short {e : Edge} (h : ¬ IsOverlong e) : e.port? = some e.port := by
  rw [Edge.port?, outputPort_of_short h]
  rfl

/-- The edges that leave from a port of a source, in order. -/
def leaving (edges : List Edge) (source : String) (port : Nat) : List Edge :=
  edges.filter fun e => e.source = source ∧ e.port? = some port

/-- What is used of a source: the first port of the trigger where it feeds a node, and the ports that edges leave
    from. -/
def Uses (edges : List Edge) (first : Option String) (source : String) (port : Nat) : Prop :=
  (first.isSome ∧ source = triggerId ∧ port = 0) ∨ ∃ e ∈ edges, e.source = source ∧ e.port? = some port

/-- **What edges are connected to**, `first` being the id of the first node. -/
structure Routes (edges : List Edge) (first : Option String) (c : Connections) : Prop where
  /-- The trigger, where there is a node, and then the sources in the order of their first appearance. -/
  sources : c.sources = (first.toList.map (fun _ => triggerId) ++ edges.map Edge.source).eraseDups
  /-- A port has the node that the trigger feeds, and the targets of exactly the edges that leave from it, in order. -/
  targets : ∀ source port, (c.portsOf source).getD port []
    = (if source = triggerId ∧ port = 0 then first.toList.map Target.main else [])
      ++ (leaving edges source port).map fun e => .main e.target
  /-- There is one port more than the number of the largest that is used. -/
  ports : ∀ source ∈ c.sources, ∃ last, (c.portsOf source).length = last + 1 ∧ Uses edges first source last
    ∧ ∀ port, Uses edges first source port → port ≤ last
  /-- No edge is lost, doubled or moved, and none is made up. -/
  links : c.links.Perm (first.toList.map feed ++ edges.map Edge.link)

section Routes

variable {edges : List Edge} {first : Option String}

/-- The links that are used are those of the trigger and of the edges. -/
theorem uses_iff (h : ∀ e ∈ edges, ¬ IsOverlong e) (source : String) (port : Nat) :
    Uses edges first source port
      ↔ ∃ l ∈ first.toList.map feed ++ edges.map Edge.link, l.source = source ∧ l.port = port := by
  have hedges : (∃ l ∈ edges.map Edge.link, l.source = source ∧ l.port = port)
      ↔ ∃ e ∈ edges, e.source = source ∧ e.port? = some port := by
    constructor
    · rintro ⟨l, hl, hsource, hport⟩
      obtain ⟨e, he, rfl⟩ := List.mem_map.mp hl
      exact ⟨e, he, hsource, hport ▸ port?_of_short (h e he)⟩
    · rintro ⟨e, he, hsource, hport⟩
      rw [port?_of_short (h e he)] at hport
      exact ⟨e.link, List.mem_map_of_mem he, hsource, Option.some.inj hport⟩
  unfold Uses
  rw [← hedges]
  cases first <;> simp [feed, or_and_right, exists_or, eq_comm]

theorem linksFrom_links (h : ∀ e ∈ edges, ¬ IsOverlong e) (source : String) (port : Nat) :
    (linksFrom (edges.map Edge.link) source port).map Link.target
      = (leaving edges source port).map fun e => .main e.target := by
  rw [linksFrom, List.filter_map, List.map_map, leaving]
  congr 1
  refine List.filter_congr fun e he => ?_
  have hport : e.port? = some port ↔ e.port = port := by rw [port?_of_short (h e he), Option.some_inj]
  exact decide_eq_decide.mpr (and_congr_right fun _ => hport.symm)

theorem linksFrom_feed (first : Option String) (source : String) (port : Nat) :
    (linksFrom (first.toList.map feed) source port).map Link.target
      = if source = triggerId ∧ port = 0 then first.toList.map Target.main else [] := by
  cases first with
  | none => simp [linksFrom]
  | some id =>
      by_cases hfed : source = triggerId ∧ port = 0
      · simp [linksFrom, feed, hfed]
      · have hnot : ¬ (triggerId = source ∧ 0 = port) := fun ⟨hs, hp⟩ => hfed ⟨hs.symm, hp.symm⟩
        simp [linksFrom, feed, hfed, hnot]

theorem routes_connect (h : ∀ e ∈ edges, ¬ IsOverlong e) :
    Routes edges first (connect (first.toList.map feed ++ edges.map Edge.link)) := by
  constructor
  case sources =>
    rw [sources_connect, List.map_append, List.map_map, List.map_map]
    rfl
  case targets =>
    intro source port
    rw [getD_connect, linksFrom, List.filter_append, List.map_append]
    exact congrArg₂ (· ++ ·) (linksFrom_feed first source port) (linksFrom_links h source port)
  case ports =>
    intro source hsource
    rw [sources_connect, List.mem_eraseDups, List.mem_map] at hsource
    obtain ⟨l, hl, hls⟩ := hsource
    have hlt := lt_length_connect (first.toList.map feed ++ edges.map Edge.link) source
    generalize ((connect (first.toList.map feed ++ edges.map Edge.link)).portsOf source).length = n at hlt
    have hpos : 0 < n := (hlt 0).mpr ⟨l, hl, hls, Nat.zero_le _⟩
    obtain ⟨last, rfl⟩ : ∃ last, n = last + 1 := ⟨n - 1, by omega⟩
    have hle : ∀ port, Uses edges first source port → port ≤ last := by
      intro port hport
      obtain ⟨l', hl', hls', hlp'⟩ := (uses_iff h source port).mp hport
      exact Nat.le_of_lt_succ ((hlt port).mpr ⟨l', hl', hls', Nat.le_of_eq hlp'.symm⟩)
    -- the last port is there because of a link that needs it, and no link needs a larger one
    obtain ⟨l', hl', hls', hlp'⟩ := (hlt last).mp (Nat.lt_succ_self last)
    have huses : Uses edges first source l'.port := (uses_iff h source l'.port).mpr ⟨l', hl', hls', rfl⟩
    exact ⟨last, rfl, Nat.le_antisymm (hle _ huses) hlp' ▸ huses, hle⟩
  case links => exact links_connect _

end Routes

/-- **Edges whose handles are read are connected as they say**, whatever nodes there are, and the other ones are
    refused. -/
theorem compileConnections_routes (edges : List Edge) (nodes : List Node) :
    ((∀ e ∈ edges, ¬ IsOverlong e) →
      ∃ c, compileConnections edges (nodes.head?.map Node.id) = .ok c ∧ Routes edges (nodes.head?.map Node.id) c)
    ∧ ((∃ e ∈ edges, IsOverlong e) →
      ∃ e ∈ edges, IsOverlong e ∧ compileConnections edges (nodes.head?.map Node.id)
        = .error (.value (.tooManyDigits (handleDigits e.sourceHandle).length))) :=
  ⟨fun h => ⟨_, compileConnections_eq h _, routes_connect h⟩, fun h => compileConnections_of_overlong h _⟩

/-- A router without conditions. -/
def bareRouter : Node := ⟨"r", .origin, .router ⟨none, []⟩⟩

/-- An edge from a port of the router. -/
def branch (target handle : String) : Edge := ⟨"e", "r", target, some handle, none⟩

/-- Edges from the third, the first and again the third port, the last of these with words after the number, and an
    edge from the trigger itself. -/
def branches : List Edge := [branch "c" "2", branch "b" "0", branch "a" "2-out", ⟨"e", triggerId, "c", none, none⟩]

theorem compileConnections_routes_branches :
    (∀ e ∈ branches, ¬ IsOverlong e)
      ∧ compileConnections branches (some "r")
        = .ok [(triggerId, [[.main "r", .main "c"]]), ("r", [[.main "b"], [], [.main "c", .main "a"]])]
      ∧ ∃ c, compileConnections branches (some "r") = .ok c ∧ Routes branches (some "r") c := by
  have hshort : ∀ e ∈ branches, ¬ IsOverlong e := by
    unfold IsOverlong
    decide +kernel
  exact ⟨hshort, rfl, (compileConnections_routes branches [bareRouter]).1 hshort⟩

/-- Zero, spelled with so many digits. -/
def zeros (count : Nat) : String := String.ofList (List.replicate count '0')

theorem handleDigits_zeros (count : Nat) : handleDigits (some (zeros count)) = List.replicate count '0' := by
  have hblank : ¬ Text.isBlank '0' = true := by decide
  have hdigit : Text.isDigit '0' = true := by decide
  rw [handleDigits, zeros, String.toList_ofList, List.dropWhile_replicate, if_neg hblank, List.takeWhile_replicate,
    if_pos hdigit]

theorem readDigits_zeros (count : Nat) : Text.readDigits (List.replicate count '0') = 0 := by
  induction count with
  | zero => rfl
  | succ count ih => exact ih

/-- An edge whose handle spells zero with one digit more than is read. -/
def paddedEdge : Edge := branch "a" (zeros 4301)

/-- A handle that spells zero is refused for the number of its digits. -/
theorem paddedEdge_is_refused : paddedEdge.port = 0
    ∧ compileConnections [paddedEdge] none = .error (.value (.tooManyDigits 4301)) := by
  have hdigits : handleDigits paddedEdge.sourceHandle = List.replicate 4301 '0' := handleDigits_zeros 4301
  have hlong : IsOverlong paddedEdge := by
    rw [IsOverlong, hdigits, List.length_replicate]
    decide
  constructor
  · rw [Edge.port, hdigits, readDigits_zeros]
  · show outputPort paddedEdge.sourceHandle >>= _ = _
    rw [outputPort_of_overlong hlong, hdigits, List.length_replicate]
    rfl

end PromptGraph
