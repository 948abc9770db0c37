import PromptGraph.Proofs.Compile.Nodes

/-!
# `Proofs.Compile.Credentials` — the credentials that a definition refers to

A node refers to a credential by its name, and the name is made of a service and the organization of the setting. What
is sent of a definition therefore refers to credentials of that one organization, whichever chain it was compiled from.

## Contents
- **Nodes.** `NodeBody.service?`; `credentials_of_renders`: none, or the one of that service.
- **Definitions.** `nodeCredentials`, `RefersOnlyTo`; `service_of_compileChain`, and `compileChain_refersOnlyTo`.
- **A chain with a chat.** `chatChain`.
-/

namespace PromptGraph

variable {s : CompileSetting}

/-! ## Nodes -/

/-- The service whose credentials a node needs, if it needs any. -/
def NodeBody.service? : NodeBody → Option Service
  | .prompt b => some (modelCall b).provider.service
  | .router _ => none
  | .validator _ => none
  | .integration b =>
    match IntegrationKind.ofBody b with
    | .mail => some .gmail
    | .chat => some .slack
    | .webhook => none
    | .unknown => none

/-- What a node is compiled to refers to the service that the node needs, in the organization of the setting. -/
theorem credentials_of_ofBody {b : NodeBody} {action : NodeAction} (h : NodeAction.ofBody s b = .ok action) :
    action.credentials = b.service?.map fun service => credentialRef service s.org := by
  cases b with
  | prompt b =>
      obtain ⟨parameters, -, haction⟩ := bind_eq_ok.mp h
      rw [← Except.ok.inj haction, NodeBody.service?, Option.map_some]
  | router b =>
      rw [← Except.ok.inj h, NodeBody.service?, Option.map_none]
      rfl
  | validator b =>
      rw [← Except.ok.inj h, NodeBody.service?, Option.map_none]
      rfl
  | integration b =>
      simp only [NodeAction.ofBody, NodeAction.ofIntegration] at h
      cases hkind : IntegrationKind.ofBody b with
      | mail =>
          rw [hkind] at h
          obtain ⟨limit, -, haction⟩ := bind_eq_ok.mp h
          simp only [NodeBody.service?, hkind, ← Except.ok.inj haction, Option.map_some]
      | chat =>
          rw [hkind] at h
          simp only [NodeBody.service?, hkind, ← Except.ok.inj h, Option.map_some, NodeAction.chat]
      | webhook =>
          rw [hkind] at h
          simp only [NodeBody.service?, hkind, ← Except.ok.inj h, Option.map_none, NodeAction.webhook]
      | unknown =>
          rw [hkind] at h
          simp only [NodeBody.service?, hkind, ← Except.ok.inj h, Option.map_none, NodeAction.function]

theorem credentials_of_renders {n : Node} {e : EngineNode} (h : Renders s n e) :
    e.credentials = n.body.service?.map fun service => credentialRef service s.org :=
  credentials_of_ofBody h.action

/-! ## Definitions -/

/-- The credentials of the nodes of a definition as it is sent. -/
def nodeCredentials (v : Json) : List Json :=
  (((v.get? "nodes").bind Json.asArray?).getD []).filterMap fun n => n.get? "credentials"

/-- A definition as it is sent refers to no credentials but those of services in an organization. -/
def RefersOnlyTo (org : Option String) (v : Json) : Prop :=
  ∀ credentials ∈ nodeCredentials v, ∃ service, credentials = .obj (credentialRef service org)

theorem payload_credentials (e : EngineNode) : e.payload.get? "credentials" = e.credentials.map .obj := by
  obtain ⟨id, name, type, typeVersion, position, parameters, _ | credentials⟩ := e <;> rfl

theorem nodeCredentials_payload (d : Definition) :
    nodeCredentials d.payload = d.nodes.filterMap fun e => e.credentials.map .obj := by
  have hnodes : nodeCredentials d.payload
      = (d.nodes.map EngineNode.payload).filterMap fun n => n.get? "credentials" := rfl
  rw [hnodes, List.filterMap_map]
  exact congrArg (d.nodes.filterMap ·) (funext payload_credentials)

/-- A node of a definition that refers to credentials is an authored node that needs a service, and refers to it. -/
theorem service_of_compileChain {c : Chain} {d : Definition} (h : compileChain s c = .ok d) {e : EngineNode}
    (he : e ∈ d.nodes) {block : Members} (hblock : e.credentials = some block) :
    ∃ n ∈ c.graph.nodes, n.id = e.id
      ∧ ∃ service, n.body.service? = some service ∧ block = credentialRef service s.org := by
  obtain ⟨compiled, hnodes, hrenders⟩ := compileChain_renders h
  rw [hnodes] at he
  rcases List.mem_cons.mp he with rfl | he
  · cases hblock -- the trigger needs no credentials
  · obtain ⟨n, hn, hrendered⟩ := exists_rendered hrenders he
    obtain ⟨service, hservice, href⟩ :=
      Option.map_eq_some_iff.mp ((credentials_of_renders hrendered).symm.trans hblock)
    exact ⟨n, hn, hrendered.id.symm, service, hservice, href.symm⟩

/-- **A compiled definition refers to no credentials but those of the organization that it was compiled for.** -/
theorem compileChain_refersOnlyTo {c : Chain} {d : Definition} (h : compileChain s c = .ok d) :
    RefersOnlyTo s.org d.payload := by
  intro credentials hcredentials
  rw [nodeCredentials_payload] at hcredentials
  obtain ⟨e, he, hobject⟩ := List.mem_filterMap.mp hcredentials
  obtain ⟨block, hblock, rfl⟩ := Option.map_eq_some_iff.mp hobject
  obtain ⟨-, -, -, service, -, rfl⟩ := service_of_compileChain h he hblock
  exact ⟨service, rfl⟩

/-! ## A chain with a chat -/

/-- A node that posts to a chat. -/
def chatNode : Node := ⟨"chat", .origin, .integration ⟨none, some "slack", none, none, []⟩⟩

/-- A chain of that node alone, of an organization or of none. -/
def chatChain (org : Option String) : Chain := ⟨"chain", "Chat", none, org, ⟨[chatNode], [], by simp, by simp⟩⟩

end PromptGraph
