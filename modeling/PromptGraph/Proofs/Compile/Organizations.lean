import PromptGraph.Proofs.Compile.Credentials
import PromptGraph.Proofs.Credential.References
import PromptGraph.Proofs.Engine.Host
import PromptGraph.Proofs.Json.Alike

/-!
# `Proofs.Compile.Organizations` — what the organization changes of a definition

One chain is compiled for two organizations. The definitions are alike but for the names of credentials: they are the
same where the organizations are, an empty one counting as none, and where no node needs a credential.

## Contents
- **Nodes.** `ofBody_org`: the action of a node but for its credentials; `alike_of_compileNodes` by induction on the
  nodes.
- **Credentials.** `credentialRef_org_iff`; `nodeCredentials_compileChain`.
- **Definitions.** `alike_of_compileChain`, `compileChain_congr_org`, and `payload_eq_iff`.
-/

namespace PromptGraph

open Json

variable {rewrites : Rewrites} {a b : Option String}

/-! ## Nodes -/

/-- The reference to the credential that a node needs in an organization. -/
def NodeBody.reference? (org : Option String) (body : NodeBody) : Option Members :=
  body.service?.map fun service => credentialRef service org

/-- An organization changes nothing of an action but the credentials. -/
theorem ofBody_org (rewrites : Rewrites) (a b : Option String) (body : NodeBody) :
    NodeAction.ofBody ⟨rewrites, b⟩ body
      = (NodeAction.ofBody ⟨rewrites, a⟩ body).map fun action => { action with credentials := body.reference? b } := by
  cases body with
  | prompt body =>
      simp only [NodeAction.ofBody, NodeAction.prompt]
      cases (modelCall body).parameters <;> rfl
  | router _ => rfl
  | validator _ => rfl
  | integration body =>
      simp only [NodeAction.ofBody, NodeAction.ofIntegration, NodeBody.reference?, NodeBody.service?]
      cases IntegrationKind.ofBody body with
      | mail =>
          simp only [NodeAction.mail]
          cases mailLimit ((Members.get? "limit" body.extras).getD .null) <;> rfl
      | chat => rfl
      | webhook => rfl
      | unknown => rfl

/-- Two nodes differ in nothing but their credentials, which are alike. -/
structure EngineNode.Alike (e f : EngineNode) : Prop where
  rest : f = { e with credentials := f.credentials }
  credentials : e.credentials.map blankMembers = f.credentials.map blankMembers

theorem EngineNode.Alike.payload {e f : EngineNode} (h : e.Alike f) : blank e.payload = blank f.payload := by
  have hplain : f.plainFields = e.plainFields := by rw [h.rest]; rfl
  have hcredentials := h.credentials
  simp only [EngineNode.payload, blank, hplain, blankMembers_append, Json.obj.injEq, List.append_cancel_left_eq]
  cases he : e.credentials <;> cases hf : f.credentials <;>
    simp_all [presentMembers, blankMembers, blank]

/-- References to one service are alike whatever the organization. -/
theorem blankMembers_reference? (a b : Option String) (body : NodeBody) :
    (body.reference? a).map blankMembers = (body.reference? b).map blankMembers := by
  unfold NodeBody.reference?
  cases body.service? with
  | none => rfl
  | some service => rfl

theorem alike_of_compileNode {name : String} {n : Node} {e f : EngineNode}
    (he : compileNode ⟨rewrites, a⟩ name n = .ok e) (hf : compileNode ⟨rewrites, b⟩ name n = .ok f) : e.Alike f := by
  obtain ⟨action, haction, hend⟩ := bind_eq_ok.mp he
  obtain ⟨action', haction', hend'⟩ := bind_eq_ok.mp hf
  have hcredentials : action.credentials = n.body.reference? a := credentials_of_ofBody haction
  rw [ofBody_org rewrites a b, haction] at haction'
  obtain rfl := Except.ok.inj haction'
  obtain rfl := Except.ok.inj hend
  obtain rfl := Except.ok.inj hend'
  exact ⟨rfl, by simp only [hcredentials, blankMembers_reference? a b]⟩

/-- Nodes that are compiled for two organizations are alike, one by one. -/
theorem alike_of_compileNodes {pairs : List (Node × String)} {es fs : List EngineNode}
    (hes : compileNodes ⟨rewrites, a⟩ pairs = .ok es) (hfs : compileNodes ⟨rewrites, b⟩ pairs = .ok fs) :
    List.Forall₂ EngineNode.Alike es fs := by
  induction pairs generalizing es fs with
  | nil =>
      cases hes
      cases hfs
      exact .nil
  | cons pair pairs ih =>
      obtain ⟨e, more, he, hmore, rfl⟩ := compileNodes_cons hes
      obtain ⟨f, more', hf, hmore', rfl⟩ := compileNodes_cons hfs
      exact .cons (alike_of_compileNode he hf) (ih hmore hmore')

/-! ## Credentials -/

/-- An empty organization counts as none, and other organizations are told apart. -/
theorem credentialRef_org_iff (service : Service) (a b : Option String) :
    credentialRef service a = credentialRef service b ↔ nonEmpty a = nonEmpty b := by
  have hname : ∀ org : Option String, credentialName service.name org
      = (nonEmpty org).elim (service.name ++ "_account") fun o => "org_" ++ o ++ "_" ++ service.name := by
    intro org
    cases org with
    | none => rfl
    | some o =>
        by_cases ho : o = ""
        · subst ho
          rfl
        · rw [nonEmpty_of_ne ho, credentialName_of_ne service.name ho]
          rfl
  have hnames : credentialRef service a = credentialRef service b
      ↔ credentialName service.name a = credentialName service.name b := by
    simp [credentialRef]
  rw [hnames]
  constructor
  · intro heq
    cases ha : nonEmpty a with
    | none =>
        cases hb : nonEmpty b with
        | none => rfl
        | some o =>
            obtain ⟨rfl, ho⟩ := nonEmpty_eq_some.mp hb
            rw [hname a, ha] at heq
            exact absurd heq.symm (credentialName_ne_shared ho service service.name)
    | some o =>
        obtain ⟨rfl, ho⟩ := nonEmpty_eq_some.mp ha
        cases hb : nonEmpty b with
        | none =>
            rw [hname b, hb] at heq
            exact absurd heq (credentialName_ne_shared ho service service.name)
        | some o' =>
            obtain ⟨rfl, ho'⟩ := nonEmpty_eq_some.mp hb
            exact congrArg some ((credentialName_service_iff ho ho').mp heq).1
  · intro heq
    rw [hname a, hname b, heq]

/-- The services whose credentials the nodes of a chain need, in the order of the nodes. -/
def Chain.services (c : Chain) : List Service := c.graph.nodes.filterMap fun n => n.body.service?

theorem credentials_of_rendered {s : CompileSetting} {nodes : List Node} {es : List EngineNode}
    (h : List.Forall₂ (Renders s) nodes es) : es.filterMap (fun e => e.credentials.map Json.obj)
      = (nodes.filterMap fun n => n.body.service?).map fun service => .obj (credentialRef service s.org) := by
  induction h with
  | nil => rfl
  | @cons n e nodes es hfirst _ ih =>
      have hcredentials := congrArg (Option.map Json.obj) (credentials_of_renders hfirst)
      cases hservice : n.body.service? with
      | none =>
          rw [hservice] at hcredentials
          simp only [List.filterMap_cons, hcredentials, hservice, Option.map_none, ih]
      | some service =>
          rw [hservice] at hcredentials
          simp only [List.filterMap_cons, hcredentials, hservice, Option.map_some, List.map_cons, ih]

/-- The credentials in a definition are those for the services that its chain needs. -/
theorem nodeCredentials_compileChain {s : CompileSetting} {c : Chain} {d : Definition}
    (h : compileChain s c = .ok d) :
    nodeCredentials d.payload = c.services.map fun service => .obj (credentialRef service s.org) := by
  obtain ⟨compiled, hnodes, hrenders⟩ := compileChain_renders h
  rw [nodeCredentials_payload, hnodes, List.filterMap_cons_none rfl, credentials_of_rendered hrenders, Chain.services]

/-! ## Definitions -/

section Definitions

variable {c : Chain} {d d' : Definition}

/-- **Definitions of one chain are alike**, whichever organizations they are compiled for. -/
theorem alike_of_compileChain (h : compileChain ⟨rewrites, a⟩ c = .ok d) (h' : compileChain ⟨rewrites, b⟩ c = .ok d') :
    blank d.payload = blank d'.payload := by
  obtain ⟨es, connections, hes, hconnections, rfl⟩ := compileChain_parts h
  obtain ⟨fs, connections', hfs, hconnections', rfl⟩ := compileChain_parts h'
  cases hconnections.symm.trans hconnections'
  have hnodes : es.map (fun e => blank e.payload) = fs.map (fun f => blank f.payload) := by
    rw [← List.forall₂_eq_eq_eq, List.forall₂_map_left_iff, List.forall₂_map_right_iff]
    exact (alike_of_compileNodes hes hfs).imp fun _ _ halike => halike.payload
  simp only [Definition.payload, blank, blankMembers_append, blankMembers, blankItems_eq_map, List.map_map,
    List.map_cons, Function.comp_def, hnodes]

/-- Where the nodes refer to the same credentials, two organizations are compiled for alike. -/
theorem compileNodes_congr_org {pairs : List (Node × String)}
    (h : ∀ p ∈ pairs, p.1.body.reference? a = p.1.body.reference? b) :
    compileNodes ⟨rewrites, a⟩ pairs = compileNodes ⟨rewrites, b⟩ pairs := by
  induction pairs with
  | nil => rfl
  | cons pair pairs ih =>
      obtain ⟨hfirst, hmore⟩ := List.forall_mem_cons.mp h
      have hbody : NodeAction.ofBody ⟨rewrites, a⟩ pair.1.body = NodeAction.ofBody ⟨rewrites, b⟩ pair.1.body := by
        rw [ofBody_org rewrites a b, ← hfirst, ← ofBody_org rewrites a a]
      rw [compileNodes, compileNodes, ih hmore, compileNode, compileNode, hbody]

theorem compileChain_congr_org (rewrites : Rewrites)
    (h : ∀ n ∈ c.graph.nodes, n.body.reference? a = n.body.reference? b) :
    compileChain ⟨rewrites, a⟩ c = compileChain ⟨rewrites, b⟩ c := by
  have hnodes : compileNodes ⟨rewrites, a⟩ (c.graph.nodes.zip (displayNames [triggerName] c.graph.nodes))
      = compileNodes ⟨rewrites, b⟩ (c.graph.nodes.zip (displayNames [triggerName] c.graph.nodes)) :=
    compileNodes_congr_org fun p hp => h p.1 (List.of_mem_zip hp).1
  simp only [compileChain, hnodes]

/-- **A chain is compiled to one definition for two organizations just where these are the same**, an empty one counting
    as none, or no node needs a credential. -/
theorem payload_eq_iff (h : compileChain ⟨rewrites, a⟩ c = .ok d) (h' : compileChain ⟨rewrites, b⟩ c = .ok d') :
    d.payload = d'.payload ↔ nonEmpty a = nonEmpty b ∨ c.services = [] := by
  constructor
  · intro heq
    have hcredentials := nodeCredentials_compileChain h'
    rw [← heq, nodeCredentials_compileChain h] at hcredentials
    cases hservices : c.services with
    | nil => exact Or.inr rfl
    | cons service more =>
        rw [hservices] at hcredentials
        have hfirst := Json.obj.inj (List.map_inj_left.mp hcredentials service List.mem_cons_self)
        exact Or.inl ((credentialRef_org_iff service a b).mp hfirst)
  · intro hsame
    have hreferences : ∀ n ∈ c.graph.nodes, n.body.reference? a = n.body.reference? b := by
      intro n hn
      unfold NodeBody.reference?
      cases hservice : n.body.service? with
      | none => rfl
      | some service =>
          rcases hsame with horgs | hnone
          · exact congrArg some ((credentialRef_org_iff service a b).mpr horgs)
          · have hneeded : service ∈ c.services := List.mem_filterMap.mpr ⟨n, hn, hservice⟩
            exact absurd (hnone ▸ hneeded) List.not_mem_nil
    rw [compileChain_congr_org rewrites hreferences, h'] at h
    rw [Except.ok.inj h]

end Definitions

end PromptGraph
