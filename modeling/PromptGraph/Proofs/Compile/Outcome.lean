import PromptGraph.Proofs.Compile.Nodes
import PromptGraph.Proofs.Json.Faults

/-!
# `Proofs.Compile.Outcome` — which chains compile

Almost every text, condition, rule and extra member compiles. What does not is the reserved id, a mail limit that is an
infinite number, a number of tokens with more digits than are written, and a handle that spells the number of its port
with more digits than are read. `compileChain_outcome` says that nothing else is refused, and which refusal comes first.

## Contents
- **Mail limits.** `mailLimit_of_infinite`, `mailLimit_of_other`: every other limit is positive.
- **Tokens.** `parameters_eq`: a call has parameters unless its number of tokens is too long.
- **Nodes.** `HasEndlessLimit`, `HasLongTokens`; `NodeFault`, `ofBody_of_fault` and `ofBody_of_sound`; `FetchesMail`.
- **All nodes.** `FirstFault`; `compileNodes_of_firstFault` and `compileNodes_of_sound`.
- **Handles.** `handleDigits`, `outputPort_eq`; `IsOverlong`, `addEdges_of_overlong` and `addEdges_of_short`.
- **Chains.** `compileChain_outcome`; `endlessMailRow`, a chain that is read and does not compile.
-/

namespace PromptGraph

variable {s : CompileSetting}

/-! ## Mail limits -/

theorem mailLimit_of_infinite (negative : Bool) :
    mailLimit (.num (.float (.infinite negative))) = .error (.kind .overflow) := rfl

theorem namedInteger?_of_other {given : Json} (h : ∀ negative, given ≠ .num (.float (.infinite negative))) :
    ∃ named, namedInteger? given = .ok named := by
  cases given with
  | num number =>
      cases number with
      | int n => exact ⟨some n, rfl⟩
      | float x =>
          cases x with
          | nan => exact ⟨none, rfl⟩
          | infinite negative => exact absurd rfl (h negative)
          | finite negative mantissa exponent canonical => exact ⟨_, rfl⟩
  | str text => exact ⟨_, rfl⟩
  | _ => exact ⟨none, rfl⟩

/-- A limit that is no infinite number is a positive number of mails: the authored one, or the default. -/
theorem mailLimit_of_other {given : Json} (h : ∀ negative, given ≠ .num (.float (.infinite negative))) :
    ∃ limit, mailLimit given = .ok limit ∧ 0 < limit := by
  have hdefault : 0 < defaultMailLimit := by decide
  unfold mailLimit
  split
  · exact ⟨defaultMailLimit, rfl, hdefault⟩
  · obtain ⟨named, hnamed⟩ := namedInteger?_of_other h
    rw [hnamed]
    cases named with
    | none => exact ⟨defaultMailLimit, rfl, hdefault⟩
    | some n =>
        by_cases hn : 0 < n
        · exact ⟨n, congrArg Except.ok (if_pos hn), hn⟩
        · exact ⟨defaultMailLimit, congrArg Except.ok (if_neg hn), hdefault⟩

/-- A limit that is found is positive. -/
theorem mailLimit_pos {given : Json} {limit : Int} (h : mailLimit given = .ok limit) : 0 < limit := by
  by_cases hinfinite : ∃ negative, given = .num (.float (.infinite negative))
  · obtain ⟨negative, rfl⟩ := hinfinite
    rw [mailLimit_of_infinite] at h
    cases h
  · obtain ⟨found, hfound, hpos⟩ := mailLimit_of_other (not_exists.mp hinfinite)
    cases h.symm.trans hfound
    exact hpos

/-! ## Tokens -/

/-- The only number of a call that may have no text is its number of tokens. -/
theorem writeFault?_body (call : ModelCall) :
    Json.writeFault? false call.body = if isLongInteger call.maxTokens then some .longInteger else none := by
  have hmessages : Json.numbers call.messages = [] := rfl
  unfold ModelCall.body
  split <;> cases hlong : isLongInteger call.maxTokens <;>
    simp [Json.writeFault?_eq, Json.numbers, Json.numbersOfMembers, hmessages, Json.float, Json.int, Json.numberFault?,
      hlong]

theorem parameters_eq (call : ModelCall) : call.parameters
    = if isLongInteger call.maxTokens then .error .longInteger
      else .ok (call.parametersWith (Json.write .line call.body)) := by
  unfold ModelCall.parameters Json.encode
  rw [writeFault?_body]
  cases isLongInteger call.maxTokens <;> rfl

theorem maxTokens_modelCall (b : PromptBody) : (modelCall b).maxTokens = b.maxTokens.getD defaultMaxTokens := rfl

/-- The default number of tokens is written. -/
theorem not_isLongInteger_defaultMaxTokens : isLongInteger defaultMaxTokens = false := by decide

/-! ## Nodes -/

/-- The type of the nodes that fetch mails. -/
def mailType : String := "n8n-nodes-base.gmail"

/-- An integration that fetches mails. -/
def IsMail (n : Node) (b : IntegrationBody) : Prop := n.body = .integration b ∧ IntegrationKind.ofBody b = .mail

/-- A mail node whose authored limit is an infinite number. -/
def HasEndlessLimit (n : Node) : Prop :=
  ∃ b negative, IsMail n b ∧ Members.get? "limit" b.extras = some (.num (.float (.infinite negative)))

/-- An engine node fetches mails exactly where the authored node does, and then a positive number of them. -/
structure FetchesMail (n : Node) (e : EngineNode) : Prop where
  type : e.type = mailType ↔ ∃ b, IsMail n b
  limit : e.type = mailType → ∃ limit, Members.get? "limit" e.parameters = some (.int limit) ∧ 0 < limit

theorem infinite_of_getD {limit : Option Json} {negative : Bool}
    (h : limit.getD .null = .num (.float (.infinite negative))) :
    limit = some (.num (.float (.infinite negative))) := by
  cases limit with
  | none => cases h
  | some v => exact congrArg some h

/-- A prompt whose authored number of tokens has more digits than are written. -/
def HasLongTokens (n : Node) : Prop :=
  ∃ b tokens, n.body = .prompt b ∧ b.maxTokens = some tokens ∧ 10 ^ integerDigitLimit ≤ tokens.natAbs

/-- Why a node is not compiled. -/
inductive NodeFault (n : Node) : Failure → Prop where
  | endless (h : HasEndlessLimit n) : NodeFault n (.kind .overflow)
  | longTokens (h : HasLongTokens n) : NodeFault n (.value .longInteger)

theorem prompt_of_longTokens {b : PromptBody} {tokens : Int} (htokens : b.maxTokens = some tokens)
    (hlong : 10 ^ integerDigitLimit ≤ tokens.natAbs) : NodeAction.prompt s b = .error (.value .longInteger) := by
  have hcall : isLongInteger (modelCall b).maxTokens = true := by
    rw [maxTokens_modelCall, htokens]
    exact isLongInteger_iff.mpr hlong
  show ((modelCall b).parameters.mapError Failure.ofText >>= _) = _
  rw [parameters_eq, if_pos hcall]
  rfl

theorem prompt_of_written {b : PromptBody} (h : isLongInteger (modelCall b).maxTokens = false) :
    NodeAction.prompt s b = .ok ⟨requestType, (modelCall b).parametersWith (Json.write .line (modelCall b).body),
      some (credentialRef (modelCall b).provider.service s.org)⟩ := by
  show ((modelCall b).parameters.mapError Failure.ofText >>= _) = _
  rw [parameters_eq, h]
  rfl

theorem ofBody_of_endless {n : Node} (h : HasEndlessLimit n) :
    NodeAction.ofBody s n.body = .error (.kind .overflow) := by
  obtain ⟨b, negative, ⟨hbody, hkind⟩, hlimit⟩ := h
  rw [hbody]
  simp only [NodeAction.ofBody, NodeAction.ofIntegration, hkind, NodeAction.mail, hlimit, Option.getD_some]
  rfl

theorem ofBody_of_fault {n : Node} {f : Failure} (h : NodeFault n f) : NodeAction.ofBody s n.body = .error f := by
  cases h with
  | endless h => exact ofBody_of_endless h
  | longTokens h =>
      obtain ⟨b, tokens, hbody, htokens, hlong⟩ := h
      rw [hbody]
      exact prompt_of_longTokens htokens hlong

/-- A prompt without that fault has a number of tokens that is written: the authored one, or the default. -/
theorem written_of_sound {n : Node} {b : PromptBody} (hbody : n.body = .prompt b) (h : ¬ HasLongTokens n) :
    isLongInteger (modelCall b).maxTokens = false := by
  rw [maxTokens_modelCall]
  cases htokens : b.maxTokens with
  | none => exact not_isLongInteger_defaultMaxTokens
  | some tokens => exact Bool.eq_false_iff.mpr fun hlong => h ⟨b, tokens, hbody, htokens, isLongInteger_iff.mp hlong⟩

theorem ofBody_of_sound {n : Node} (h : ∀ f, ¬ NodeFault n f) : ∃ action, NodeAction.ofBody s n.body = .ok action := by
  cases hbody : n.body with
  | prompt b => exact ⟨_, prompt_of_written (written_of_sound hbody fun hlong => h _ (.longTokens hlong))⟩
  | integration b =>
      cases hkind : IntegrationKind.ofBody b with
      | mail =>
          have hlimit : ∀ negative, (Members.get? "limit" b.extras).getD .null ≠ .num (.float (.infinite negative)) :=
            fun negative hinfinite => h _ (.endless ⟨b, negative, ⟨hbody, hkind⟩, infinite_of_getD hinfinite⟩)
          obtain ⟨limit, hok, -⟩ := mailLimit_of_other hlimit
          simp only [NodeAction.ofBody, NodeAction.ofIntegration, hkind, NodeAction.mail, hok]
          exact ⟨_, rfl⟩
      | _ =>
          simp only [NodeAction.ofBody, NodeAction.ofIntegration, hkind]
          exact ⟨_, rfl⟩
  | _ => exact ⟨_, rfl⟩

/-- What is no mail node is compiled to none. -/
theorem type_ne_mailType {n : Node} {type : String} {parameters : Members} {credentials : Option Members}
    (hother : ∀ b, ¬ IsMail n b) (h : NodeAction.ofBody s n.body = .ok ⟨type, parameters, credentials⟩) :
    type ≠ mailType := by
  cases hbody : n.body with
  | prompt b =>
      rw [hbody] at h
      obtain ⟨written, -, hrest⟩ := bind_eq_ok.mp h
      rw [← (NodeAction.mk.inj (Except.ok.inj hrest)).1]
      decide
  | integration b =>
      rw [hbody] at h
      cases hkind : IntegrationKind.ofBody b with
      | mail => exact absurd ⟨hbody, hkind⟩ (hother b)
      | _ =>
          simp only [NodeAction.ofBody, NodeAction.ofIntegration, hkind] at h
          rw [← (NodeAction.mk.inj (Except.ok.inj h)).1]
          decide
  | _ =>
      rw [hbody] at h
      rw [← (NodeAction.mk.inj (Except.ok.inj h)).1]
      decide

/-- A mail node is compiled to one with a positive limit. -/
theorem mail_of_isMail {n : Node} {b : IntegrationBody} {action : NodeAction} (hmail : IsMail n b)
    (h : NodeAction.ofBody s n.body = .ok action) :
    action.type = mailType ∧ ∃ limit, Members.get? "limit" action.parameters = some (.int limit) ∧ 0 < limit := by
  obtain ⟨hbody, hkind⟩ := hmail
  rw [hbody] at h
  simp only [NodeAction.ofBody, NodeAction.ofIntegration, hkind, NodeAction.mail] at h
  obtain ⟨limit, hlimit, hrest⟩ := bind_eq_ok.mp h
  cases hrest
  exact ⟨rfl, limit, rfl, mailLimit_pos hlimit⟩

/-- What a body is compiled to fetches mails only where the body does. -/
theorem fetchesMail_of_renders {n : Node} {e : EngineNode} (h : Renders s n e) : FetchesMail n e := by
  by_cases hmail : ∃ b, IsMail n b
  · obtain ⟨b, hb⟩ := hmail
    obtain ⟨htype, hlimit⟩ := mail_of_isMail hb h.action
    exact ⟨⟨fun _ => ⟨b, hb⟩, fun _ => htype⟩, fun _ => hlimit⟩
  · have htype := type_ne_mailType (not_exists.mp hmail) h.action
    exact ⟨⟨fun heq => absurd heq htype, fun h => absurd h hmail⟩, fun heq => absurd heq htype⟩

/-! ## All nodes -/

/-- The first node that is not compiled fails so. -/
inductive FirstFault : List Node → Failure → Prop where
  | here {n : Node} {rest : List Node} {f : Failure} (h : NodeFault n f) : FirstFault (n :: rest) f
  | later {n : Node} {rest : List Node} {f : Failure} (hn : ∀ f, ¬ NodeFault n f) (h : FirstFault rest f) :
      FirstFault (n :: rest) f

/-- Either a node is the first that is not compiled, or all are. -/
theorem firstFault_or_sound (nodes : List Node) :
    (∃ f, FirstFault nodes f) ∨ ∀ n ∈ nodes, ∀ f, ¬ NodeFault n f := by
  induction nodes with
  | nil => exact .inr (List.forall_mem_nil _)
  | cons n rest ih =>
      by_cases hn : ∃ f, NodeFault n f
      · obtain ⟨f, hf⟩ := hn
        exact .inl ⟨f, .here hf⟩
      · rw [not_exists] at hn
        rcases ih with ⟨f, hf⟩ | hrest
        · exact .inl ⟨f, .later hn hf⟩
        · exact .inr (List.forall_mem_cons.mpr ⟨hn, hrest⟩)

theorem fault_unique {n : Node} {f f' : Failure} (h : NodeFault n f) (h' : NodeFault n f') : f = f' :=
  Except.error.inj ((ofBody_of_fault (s := ⟨Rewrites.default, none⟩) h).symm.trans (ofBody_of_fault h'))

theorem firstFault_unique {nodes : List Node} {f f' : Failure} (h : FirstFault nodes f) (h' : FirstFault nodes f') :
    f = f' := by
  induction h with
  | here h =>
      cases h' with
      | here h' => exact fault_unique h h'
      | later hn _ => exact absurd h (hn _)
  | later hn _ ih =>
      cases h' with
      | here h' => exact absurd h' (hn _)
      | later _ h' => exact ih h'

theorem exists_of_firstFault {nodes : List Node} {f : Failure} (h : FirstFault nodes f) :
    ∃ n ∈ nodes, NodeFault n f := by
  induction h with
  | here h => exact ⟨_, List.mem_cons_self, h⟩
  | later _ _ ih =>
      obtain ⟨n, hn, hfault⟩ := ih
      exact ⟨n, List.mem_cons_of_mem _ hn, hfault⟩

theorem compileNodes_of_firstFault {pairs : List (Node × String)} {f : Failure}
    (h : FirstFault (pairs.map Prod.fst) f) : compileNodes s pairs = .error f := by
  induction pairs with
  | nil => cases h
  | cons p rest ih =>
      obtain ⟨n, name⟩ := p
      cases h with
      | here hn =>
          -- this node is refused, whatever the nodes after it are
          simp only [compileNodes, compileNode, ofBody_of_fault hn]
          rfl
      | later hn hrest =>
          obtain ⟨action, haction⟩ := ofBody_of_sound (s := s) hn
          simp only [compileNodes, compileNode, haction, ih hrest]
          rfl

theorem compileNodes_of_sound {pairs : List (Node × String)} (h : ∀ p ∈ pairs, ∀ f, ¬ NodeFault p.1 f) :
    ∃ es, compileNodes s pairs = .ok es := by
  induction pairs with
  | nil => exact ⟨[], rfl⟩
  | cons p rest ih =>
      obtain ⟨n, name⟩ := p
      obtain ⟨hn, hrest⟩ := List.forall_mem_cons.mp h
      obtain ⟨action, haction⟩ := ofBody_of_sound (s := s) hn
      obtain ⟨es, hes⟩ := ih hrest
      simp only [compileNodes, compileNode, haction, hes]
      exact ⟨_, rfl⟩

theorem length_displayNames (used : List String) (nodes : List Node) :
    (displayNames used nodes).length = nodes.length := by
  induction nodes generalizing used with
  | nil => rfl
  | cons n rest ih => exact congrArg (· + 1) (ih _)

/-- The nodes that are compiled under their display names are all the nodes. -/
theorem named_nodes (used : List String) (nodes : List Node) :
    (nodes.zip (displayNames used nodes)).map Prod.fst = nodes :=
  List.map_fst_zip (Nat.le_of_eq (length_displayNames used nodes).symm)

/-! ## Handles -/

/-- The digits with which a handle spells the number of its port. -/
def handleDigits : Option String → List Char
  | none => []
  | some h => (h.toList.dropWhile Text.isBlank).takeWhile Text.isDigit

/-- An edge whose handle spells a number with more digits than are read. -/
def IsOverlong (e : Edge) : Prop := integerDigitLimit < (handleDigits e.sourceHandle).length

/-- The port of a handle is the number that its digits spell, unless they are too many. -/
theorem outputPort_eq (handle : Option String) : outputPort handle
    = if integerDigitLimit < (handleDigits handle).length then
        .error (.value (.tooManyDigits (handleDigits handle).length))
      else .ok (Text.readDigits (handleDigits handle)) := by
  cases handle <;> rfl

theorem outputPort_of_overlong {e : Edge} (h : IsOverlong e) :
    outputPort e.sourceHandle = .error (.value (.tooManyDigits (handleDigits e.sourceHandle).length)) := by
  rw [outputPort_eq]
  exact if_pos h

theorem outputPort_of_short {e : Edge} (h : ¬ IsOverlong e) :
    outputPort e.sourceHandle = .ok (Text.readDigits (handleDigits e.sourceHandle)) := by
  rw [outputPort_eq]
  exact if_neg h

/-- The first handle of too many digits is the one that is told of. -/
theorem addEdges_of_overlong {edges : List Edge} (h : ∃ e ∈ edges, IsOverlong e) (connections : Connections) :
    ∃ e ∈ edges, IsOverlong e ∧ Connections.addEdges edges connections
      = .error (.value (.tooManyDigits (handleDigits e.sourceHandle).length)) := by
  induction edges generalizing connections with
  | nil =>
      obtain ⟨e, he, -⟩ := h
      exact absurd he List.not_mem_nil
  | cons first rest ih =>
      by_cases hfirst : IsOverlong first
      · refine ⟨first, List.mem_cons_self, hfirst, ?_⟩
        rw [Connections.addEdges, outputPort_of_overlong hfirst]
        rfl
      · have hrest : ∃ e ∈ rest, IsOverlong e := ((List.exists_mem_cons_iff _ _ _).mp h).resolve_left hfirst
        obtain ⟨e, he, hlong, herror⟩ := ih hrest
          (connections.add first.source (Text.readDigits (handleDigits first.sourceHandle)) (.main first.target))
        refine ⟨e, List.mem_cons_of_mem _ he, hlong, ?_⟩
        rw [Connections.addEdges, outputPort_of_short hfirst]
        exact herror

theorem addEdges_of_short {edges : List Edge} (h : ∀ e ∈ edges, ¬ IsOverlong e) (connections : Connections) :
    ∃ connected, Connections.addEdges edges connections = .ok connected := by
  induction edges generalizing connections with
  | nil => exact ⟨connections, rfl⟩
  | cons first rest ih =>
      obtain ⟨hfirst, hrest⟩ := List.forall_mem_cons.mp h
      rw [Connections.addEdges, outputPort_of_short hfirst]
      exact ih hrest _

theorem compileConnections_of_overlong {edges : List Edge} (h : ∃ e ∈ edges, IsOverlong e) (first : Option String) :
    ∃ e ∈ edges, IsOverlong e ∧ compileConnections edges first
      = .error (.value (.tooManyDigits (handleDigits e.sourceHandle).length)) :=
  addEdges_of_overlong h _

theorem compileConnections_of_short {edges : List Edge} (h : ∀ e ∈ edges, ¬ IsOverlong e) (first : Option String) :
    ∃ connections, compileConnections edges first = .ok connections :=
  addEdges_of_short h _

/-! ## Chains -/

variable {c : Chain}

theorem usesReservedId_iff : usesReservedId c = true ↔ ∃ n ∈ c.graph.nodes, n.id = triggerId := by
  simp [usesReservedId]

theorem compileChain_of_reserved (h : usesReservedId c = true) :
    compileChain s c = .error (.reservedNode triggerId) := by
  unfold compileChain
  rw [if_pos h]
  rfl

/-- Without the reserved id a chain is compiled node by node, and then edge by edge. -/
theorem compileChain_of_free (h : ¬ usesReservedId c = true) : compileChain s c
    = compileNodes s (c.graph.nodes.zip (displayNames [triggerName] c.graph.nodes)) >>= fun compiled =>
      compileConnections c.graph.edges (c.graph.nodes.head?.map Node.id) >>= fun connections =>
        .ok ⟨none, c.name, triggerNode :: compiled, connections, some false, [("executionOrder", .str "v1")]⟩ := by
  unfold compileChain
  rw [if_neg h]
  rfl

theorem compileChain_of_firstFault (hfree : ¬ usesReservedId c = true) {f : Failure}
    (h : FirstFault c.graph.nodes f) : compileChain s c = .error f := by
  rw [← named_nodes [triggerName] c.graph.nodes] at h
  rw [compileChain_of_free hfree, compileNodes_of_firstFault h]
  rfl

theorem compileNodes_of_chain (h : ∀ n ∈ c.graph.nodes, ∀ f, ¬ NodeFault n f) :
    ∃ es, compileNodes s (c.graph.nodes.zip (displayNames [triggerName] c.graph.nodes)) = .ok es := by
  refine compileNodes_of_sound fun p hp => h p.1 ?_
  rw [← named_nodes [triggerName] c.graph.nodes]
  exact List.mem_map_of_mem hp

theorem compileChain_of_overlong (hfree : ¬ usesReservedId c = true)
    (hsound : ∀ n ∈ c.graph.nodes, ∀ f, ¬ NodeFault n f) (h : ∃ e ∈ c.graph.edges, IsOverlong e) :
    ∃ e ∈ c.graph.edges, IsOverlong e
      ∧ compileChain s c = .error (.value (.tooManyDigits (handleDigits e.sourceHandle).length)) := by
  obtain ⟨es, hes⟩ := compileNodes_of_chain (s := s) hsound
  obtain ⟨e, he, hlong, herror⟩ := compileConnections_of_overlong h (c.graph.nodes.head?.map Node.id)
  refine ⟨e, he, hlong, ?_⟩
  rw [compileChain_of_free hfree, hes]
  exact bind_eq_error.mpr (Or.inr ⟨es, rfl, bind_eq_error.mpr (Or.inl herror)⟩)

theorem compileChain_of_short (hfree : ¬ usesReservedId c = true)
    (hsound : ∀ n ∈ c.graph.nodes, ∀ f, ¬ NodeFault n f) (hhandles : ∀ e ∈ c.graph.edges, ¬ IsOverlong e) :
    ∃ d, compileChain s c = .ok d := by
  obtain ⟨es, hes⟩ := compileNodes_of_chain (s := s) hsound
  obtain ⟨connections, hconnections⟩ := compileConnections_of_short hhandles (c.graph.nodes.head?.map Node.id)
  rw [compileChain_of_free hfree, hes]
  exact ⟨_, bind_eq_ok.mpr ⟨es, rfl, bind_eq_ok.mpr ⟨connections, hconnections, rfl⟩⟩⟩

/-- How the compilation of a chain ends, and why. The reasons exclude one another and leave no chain out. -/
inductive CompileOutcome (c : Chain) : Except Failure Definition → Prop where
  | reserved (h : ∃ n ∈ c.graph.nodes, n.id = triggerId) : CompileOutcome c (.error (.reservedNode triggerId))
  | faulty (hfree : ¬ ∃ n ∈ c.graph.nodes, n.id = triggerId) {f : Failure} (h : FirstFault c.graph.nodes f) :
      CompileOutcome c (.error f)
  | overlong (hfree : ¬ ∃ n ∈ c.graph.nodes, n.id = triggerId) (hsound : ∀ n ∈ c.graph.nodes, ∀ f, ¬ NodeFault n f)
      {e : Edge} (he : e ∈ c.graph.edges) (h : IsOverlong e) :
      CompileOutcome c (.error (.value (.tooManyDigits (handleDigits e.sourceHandle).length)))
  | compiled (hfree : ¬ ∃ n ∈ c.graph.nodes, n.id = triggerId) (hsound : ∀ n ∈ c.graph.nodes, ∀ f, ¬ NodeFault n f)
      (hhandles : ∀ e ∈ c.graph.edges, ¬ IsOverlong e) {d : Definition} {compiled : List EngineNode}
      (hnodes : d.nodes = triggerNode :: compiled) (hmail : List.Forall₂ FetchesMail c.graph.nodes compiled) :
      CompileOutcome c (.ok d)

theorem compileOutcome (s : CompileSetting) (c : Chain) : CompileOutcome c (compileChain s c) := by
  -- the reasons are split off in the order in which a compilation meets them
  by_cases hreserved : usesReservedId c = true
  · rw [compileChain_of_reserved hreserved]
    exact .reserved (usesReservedId_iff.mp hreserved)
  have hfree : ¬ ∃ n ∈ c.graph.nodes, n.id = triggerId := fun h => hreserved (usesReservedId_iff.mpr h)
  rcases firstFault_or_sound c.graph.nodes with ⟨f, hfault⟩ | hsound
  · rw [compileChain_of_firstFault hreserved hfault]
    exact .faulty hfree hfault
  by_cases hoverlong : ∃ e ∈ c.graph.edges, IsOverlong e
  · obtain ⟨e, he, hlong, herror⟩ := compileChain_of_overlong (s := s) hreserved hsound hoverlong
    rw [herror]
    exact .overlong hfree hsound he hlong
  have hhandles : ∀ e ∈ c.graph.edges, ¬ IsOverlong e := fun e he h => hoverlong ⟨e, he, h⟩
  obtain ⟨d, hd⟩ := compileChain_of_short (s := s) hreserved hsound hhandles
  obtain ⟨compiled, hnodes, hrenders⟩ := compileChain_renders hd
  rw [hd]
  exact .compiled hfree hsound hhandles hnodes (hrenders.imp fun _ _ => fetchesMail_of_renders)

theorem sound_iff {nodes : List Node} : (∀ n ∈ nodes, ∀ f, ¬ NodeFault n f)
    ↔ ∀ n ∈ nodes, ¬ HasEndlessLimit n ∧ ¬ HasLongTokens n := by
  refine forall₂_congr fun n _ => ⟨fun h => ⟨fun hn => h _ (.endless hn), fun hn => h _ (.longTokens hn)⟩, ?_⟩
  rintro ⟨hendless, hlong⟩ f (hn | hn)
  · exact hendless hn
  · exact hlong hn

/-- A fault of a node is no refusal of the reserved id, and none of a handle. -/
theorem fault_cases {n : Node} {f : Failure} (h : NodeFault n f) : f = .kind .overflow ∨ f = .value .longInteger := by
  cases h with
  | endless => exact .inl rfl
  | longTokens => exact .inr rfl

/-- A stored chain whose only node fetches mails up to a limit beyond all numbers, as a data text may give it. -/
def endlessMailRow : Json :=
  .obj [("id", .str "chain"), ("name", .str "Endless"),
    ("config", .obj [("nodes", .arr [.obj [("id", .str "m"), ("type", .str "integration"),
      ("data", .obj [("integrationType", .str "mail"), ("limit", .float (.infinite false))])]])])]

end PromptGraph
