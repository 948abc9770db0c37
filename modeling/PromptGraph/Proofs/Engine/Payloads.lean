import PromptGraph.Proofs.Compile.DisplayNames
import PromptGraph.Proofs.Engine.Footprint
import PromptGraph.Proofs.Engine.Host

/-!
# `Proofs.Engine.Payloads` — a definition that is sent comes back as it was

A payload leaves out the id and what is absent, and keeps the free mappings whole. Reading it restores what was left out
by the defaults of the fields. Only the form of two defaults changes: a version and a position that were never given are
integers, and are floats of the same value once they were read.

## Contents
- **Values.** `Number.byValue`, `Json.byValue`, `Definition.byValue`: numbers without regard to their form;
  `Definition.byValue_payload`.
- **Numbers of definitions.** `IsHeld`: a float has the number's value; `isHeld_of_read`.
- **Reading.** `readEngineNode_payload`, `readPorts_json`, `Definition.read_told`.
- **Echoes.** `Reply.Tells`, `Definition.calls`, `Definition.run_call_of_told`.
- **Round trips.** `Definition.ComesBackAs` and `payload_comes_back`.
- **Compiled definitions.** `read_payload_of_compileChain`.
-/

namespace PromptGraph

open Http

/-! ## Values -/

namespace Number

/-- A number by its value: what is whole is an integer, in whichever form it is given. Numbers compare as equal exactly
    where these are the same; what is not a number is taken as itself. -/
def byValue : Number → Number
  | .int n => .int n
  | .float x => if x.isWhole then .int (x.trunc.getD 0) else .float x

theorem byValue_byValue (n : Number) : n.byValue.byValue = n.byValue := by
  cases n with
  | int n => rfl
  | float x =>
      rw [byValue]
      split
      next => rfl
      next h => rw [byValue, if_neg h]

/-- The number as a float, if it is one's. -/
def floated (n : Number) : Number := (n.toDouble?.map .float).getD n

theorem floated_floated (n : Number) : n.floated.floated = n.floated := by
  unfold floated
  cases h : n.toDouble? with
  | none => simp [h]
  | some x => rfl

/-- A float has the value of the number. -/
def IsHeld (n : Number) : Prop := ∃ x, n.toDouble? = some x ∧ byValue (.float x) = n.byValue

theorem isHeld_float (x : Double) : IsHeld (.float x) := ⟨x, rfl, rfl⟩

theorem isHeld_zero : IsHeld (.int 0) := ⟨.ofNat 0, by decide, by decide⟩

theorem isHeld_one : IsHeld (.int 1) := ⟨.ofNat 1, by decide, by decide⟩

variable {n : Number}

theorem IsHeld.floated (h : n.IsHeld) : n.floated.IsHeld := by
  obtain ⟨x, hx, -⟩ := h
  rw [Number.floated, hx]
  exact isHeld_float x

theorem IsHeld.byValue_floated (h : n.IsHeld) : n.floated.byValue = n.byValue := by
  obtain ⟨x, hx, hvalue⟩ := h
  rw [Number.floated, hx]
  exact hvalue

/-- A number that a float holds is read as that float. -/
theorem IsHeld.read (h : n.IsHeld) : (Number.float <$> Schema.float (.num n)) = .ok n.floated := by
  obtain ⟨x, hx, -⟩ := h
  rw [Schema.float, hx, Number.floated, hx]
  rfl

end Number

namespace Json

mutual

/-- A value with its numbers by their values. -/
def byValue : Json → Json
  | .num n => .num n.byValue
  | .arr xs => .arr (itemsByValue xs)
  | .obj ms => .obj (membersByValue ms)
  | .null => .null
  | .bool b => .bool b
  | .str s => .str s

def itemsByValue : List Json → List Json
  | [] => []
  | x :: rest => byValue x :: itemsByValue rest

def membersByValue : List (String × Json) → List (String × Json)
  | [] => []
  | (k, v) :: rest => (k, byValue v) :: membersByValue rest

end

theorem itemsByValue_eq_map (xs : List Json) : itemsByValue xs = xs.map byValue := by
  induction xs with
  | nil => rfl
  | cons x xs ih => rw [itemsByValue, ih, List.map_cons]

theorem membersByValue_append (ms ns : Members) : membersByValue (ms ++ ns) = membersByValue ms ++ membersByValue ns := by
  induction ms with
  | nil => rfl
  | cons m ms ih =>
      obtain ⟨k, v⟩ := m
      rw [List.cons_append, membersByValue, ih, membersByValue, List.cons_append]

end Json

namespace EngineNode

/-- The node with its version and its position by their values; all else is as it is. -/
def byValue (n : EngineNode) : EngineNode :=
  { n with typeVersion := n.typeVersion.byValue, position := (n.position.1.byValue, n.position.2.byValue) }

/-- The node with its version and its position as floats. -/
def floated (n : EngineNode) : EngineNode :=
  { n with typeVersion := n.typeVersion.floated, position := (n.position.1.floated, n.position.2.floated) }

theorem byValue_payload (n : EngineNode) : n.byValue.payload.byValue = n.payload.byValue := by
  simp only [payload, plainFields, byValue, Json.byValue, Json.membersByValue_append, Json.membersByValue,
    Json.itemsByValue, Number.byValue_byValue]

end EngineNode

namespace Definition

/-- The definition with the versions and the positions of its nodes by their values; all else is as it is. -/
def byValue (d : Definition) : Definition := { d with nodes := d.nodes.map EngineNode.byValue }

/-- The definition with the versions and the positions of its nodes as floats. -/
def floated (d : Definition) : Definition := { d with nodes := d.nodes.map EngineNode.floated }

theorem byValue_payload (d : Definition) : d.byValue.payload.byValue = d.payload.byValue := by
  have hnodes : ∀ n ∈ d.nodes, (Json.byValue ∘ EngineNode.payload ∘ EngineNode.byValue) n
      = (Json.byValue ∘ EngineNode.payload) n := fun n _ => n.byValue_payload
  simp only [payload, byValue, Json.byValue, Json.membersByValue_append, Json.membersByValue, Json.itemsByValue_eq_map,
    List.map_map, List.map_congr_left hnodes]

end Definition

/-! ## Numbers of definitions -/

namespace EngineNode

/-- Floats have the values of the version and the position. -/
structure IsHeld (n : EngineNode) : Prop where
  version : n.typeVersion.IsHeld
  left : n.position.1.IsHeld
  top : n.position.2.IsHeld

variable {n : EngineNode}

theorem IsHeld.floated (h : n.IsHeld) : n.floated.IsHeld := ⟨h.version.floated, h.left.floated, h.top.floated⟩

theorem IsHeld.byValue_floated (h : n.IsHeld) : n.floated.byValue = n.byValue := by
  simp only [EngineNode.floated, byValue, h.version.byValue_floated, h.left.byValue_floated, h.top.byValue_floated]

theorem floated_floated (n : EngineNode) : n.floated.floated = n.floated := by
  simp only [floated, Number.floated_floated]

end EngineNode

theorem Schema.isHeld_of_float {v : Json} {n : Number} (h : (Number.float <$> Schema.float v) = .ok n) : n.IsHeld := by
  obtain ⟨x, -, rfl⟩ := Checked.map_eq_ok.mp h
  exact Number.isHeld_float x

theorem Schema.isHeld_of_pair {v : Json} {p : Number × Number}
    (h : Schema.pair (fun v => Number.float <$> Schema.float v) v = .ok p) : p.1.IsHeld ∧ p.2.IsHeld := by
  unfold Schema.pair at h
  split at h
  case h_3 x y =>
    obtain ⟨_, b, hfirst, hb, rfl⟩ := Checked.seq_eq_ok.mp h
    obtain ⟨a, ha, rfl⟩ := Checked.map_eq_ok.mp hfirst
    exact ⟨isHeld_of_float (Checked.under_eq_ok.mp ha), isHeld_of_float (Checked.under_eq_ok.mp hb)⟩
  case h_2 x =>
    obtain ⟨_, b, -, hb, -⟩ := Checked.seq_eq_ok.mp h
    cases hb
  all_goals cases h

/-- Whatever is read as a node, its numbers are floats, or the defaults. -/
theorem isHeld_of_readEngineNode {v : Json} {n : EngineNode} (h : readEngineNode v = .ok n) : n.IsHeld := by
  obtain ⟨ms, -, hfields⟩ := Checked.andThen_eq_ok.mp h
  obtain ⟨_, credentials, h₁, -, rfl⟩ := Checked.seq_eq_ok.mp hfields
  obtain ⟨_, parameters, h₂, -, rfl⟩ := Checked.seq_eq_ok.mp h₁
  obtain ⟨_, position, h₃, hposition, rfl⟩ := Checked.seq_eq_ok.mp h₂
  obtain ⟨_, version, h₄, hversion, rfl⟩ := Checked.seq_eq_ok.mp h₃
  obtain ⟨_, type, h₅, -, rfl⟩ := Checked.seq_eq_ok.mp h₄
  obtain ⟨_, name, h₆, -, rfl⟩ := Checked.seq_eq_ok.mp h₅
  obtain ⟨id, -, rfl⟩ := Checked.map_eq_ok.mp h₆
  have hpoint : position.1.IsHeld ∧ position.2.IsHeld := by
    rcases Schema.withDefault_cases hposition with rfl | ⟨w, hw⟩
    · exact ⟨Number.isHeld_zero, Number.isHeld_zero⟩
    · exact Schema.isHeld_of_pair hw
  have hheld : version.IsHeld := by
    rcases Schema.withDefault_cases hversion with rfl | ⟨w, hw⟩
    · exact Number.isHeld_one
    · exact Schema.isHeld_of_float hw
  exact ⟨hheld, hpoint.1, hpoint.2⟩

theorem isHeld_of_read {v : Json} {d : Definition} (h : Definition.read v = .ok d) : ∀ n ∈ d.nodes, n.IsHeld := by
  obtain ⟨ms, -, hfields⟩ := Checked.andThen_eq_ok.mp (Checked.toExcept_eq_ok.mp h)
  obtain ⟨_, settings, h₁, -, rfl⟩ := Checked.seq_eq_ok.mp hfields
  obtain ⟨_, active, h₂, -, rfl⟩ := Checked.seq_eq_ok.mp h₁
  obtain ⟨_, connections, h₃, -, rfl⟩ := Checked.seq_eq_ok.mp h₂
  obtain ⟨_, nodes, h₄, hnodes, rfl⟩ := Checked.seq_eq_ok.mp h₃
  obtain ⟨_, name, h₅, -, rfl⟩ := Checked.seq_eq_ok.mp h₄
  obtain ⟨id, -, rfl⟩ := Checked.map_eq_ok.mp h₅
  show ∀ n ∈ nodes, n.IsHeld
  rcases Schema.withDefault_cases hnodes with rfl | ⟨w, hw⟩
  · exact List.forall_mem_nil _
  · obtain ⟨xs, -, hitems⟩ := Schema.list_eq_ok.mp hw
    intro n hn
    obtain ⟨i, hi, rfl⟩ := List.mem_iff_getElem.mp hn
    exact isHeld_of_readEngineNode (hitems.get (by rw [hitems.length_eq]; exact hi) hi)

/-! ## Reading -/

/-- **A node's payload is read as the node.** -/
theorem readEngineNode_payload {n : EngineNode} (h : n.IsHeld) : readEngineNode n.payload = .ok n.floated := by
  obtain ⟨id, name, type, version, ⟨left, top⟩, parameters, credentials⟩ := n
  have hposition : Schema.pair (fun v => Number.float <$> Schema.float v) (.arr [.num left, .num top])
      = .ok (left.floated, top.floated) := by
    rw [Schema.pair, h.left.read, h.top.read]
    rfl
  have hversion := h.version.read
  cases credentials <;>
    simp only [readEngineNode, EngineNode.payload, Schema.record, Checked.andThen]
  all_goals
    rw [(Schema.withDefault_of_some rfl).mpr hversion, (Schema.withDefault_of_some rfl).mpr hposition]
    rfl

theorem readTarget_toJson (t : Target) : readTarget t.toJson = .ok t := rfl

theorem readPorts_json (ports : Ports) : readPorts (.obj [("main", portsJson ports)]) = .ok ports := by
  have htargets : ∀ targets ∈ ports, Schema.list readTarget (.arr (targets.map Target.toJson)) = .ok targets := by
    intro targets _
    rw [Schema.list_map fun t _ => readTarget_toJson t, List.map_id']
  have hports : Schema.list (Schema.list readTarget) (portsJson ports) = .ok ports := by
    rw [portsJson, Schema.list_map htargets, List.map_id']
  show Schema.withDefault [("main", portsJson ports)] "main" (Schema.list (Schema.list readTarget)) [] = .ok ports
  exact (Schema.withDefault_of_some rfl).mpr hports

theorem entries_connectionsJson (c : Connections) : Schema.entries readPorts (connectionsJson c) = .ok c :=
  Schema.entries_map (fun ports => .obj [("main", portsJson ports)]) fun e _ => readPorts_json e.2

namespace Definition

/-- A definition as an engine tells it, under an id or without one. -/
def told (d : Definition) (id : Option String) : Json := .obj (presentMembers [("id", id.map .str)] ++ d.sent)

theorem told_none (d : Definition) : d.told none = d.payload := rfl

/-- **A definition that is told is read as the definition under the told id.** -/
theorem read_told (d : Definition) (h : ∀ n ∈ d.nodes, n.IsHeld) (id : Option String) :
    Definition.read (d.told id) = .ok { d.floated with id := id } := by
  obtain ⟨id', name, nodes, connections, active, settings⟩ := d
  have hnodes : Schema.list readEngineNode (.arr (nodes.map EngineNode.payload)) = .ok (nodes.map EngineNode.floated) :=
    Schema.list_map fun n hn => readEngineNode_payload (h n hn)
  have hconnections := entries_connectionsJson connections
  refine Checked.toExcept_eq_ok.mpr ?_
  cases id <;> cases active <;> simp only [readDefinition, told, Schema.record, Checked.andThen]
  all_goals
    rw [(Schema.withDefault_of_some rfl).mpr hnodes, (Schema.withDefault_of_some rfl).mpr hconnections]
    rfl

end Definition

/-! ## Echoes -/

section

variable [Depth]

/-- A reply accepts its request and tells a value. -/
def Http.Reply.Tells (reply : Reply) (v : Json) : Prop :=
  ∃ status body, reply = .answer status body ∧ 200 ≤ status ∧ status < 300 ∧ body.decode = .ok (some v)

/-- A request has an address, and its body, if it has one, has a text. -/
def Http.Request.IsSendable (r : Request) : Prop :=
  r.isAddressable = true ∧ Engine.bodyFault? r = none

theorem Http.Body.decode_of_isEmpty {body : Body} (h : body.isEmpty = true) : body.decode = .ok none := by
  cases body with
  | json v => cases h
  | text s =>
      have hdetected : Text.detect? (Text.utf8Bytes "") = some "" := by decide +kernel
      rw [eq_of_beq h, decode, hdetected]
      rfl

theorem Engine.replyValue_of_tells (r : Request) {reply : Reply} {v : Json} (h : reply.Tells v) :
    replyValue r reply = .ok v := by
  obtain ⟨status, body, rfl, hlow, hhigh, hdecode⟩ := h
  have hfull : body.isEmpty = false := by
    cases hempty : body.isEmpty with
    | false => rfl
    | true =>
        rw [Body.decode_of_isEmpty hempty] at hdecode
        cases hdecode
  simp only [replyValue, hlow, hhigh, and_self, not_true_eq_false, if_false, hfull, Bool.false_eq_true, hdecode]

namespace Definition

/-- The calls that a definition is sent with or asked for, each with its request. -/
def calls (d : Definition) (workflow : String) : List (Act Definition × Request) :=
  [(Engine.createWorkflow d, ⟨.post, .workflows, none, some d.payload⟩),
    (Engine.updateWorkflow workflow d.payload, ⟨.patch, .workflow workflow, none, some d.payload⟩),
    (Engine.getWorkflow workflow, ⟨.get, .workflow workflow, none, none⟩)]

variable {d : Definition} {call : Act Definition} {request : Request}

/-- Each call reads the answer to its request. -/
theorem call_eq {workflow : String} (h : (call, request) ∈ d.calls workflow) :
    call = Engine.send request >>= fun v => .ofExcept (Definition.read (Engine.orEmpty v)) := by
  simp only [calls, List.mem_cons, List.not_mem_nil, or_false, Prod.mk.injEq] at h
  rcases h with ⟨rfl, rfl⟩ | ⟨rfl, rfl⟩ | ⟨rfl, rfl⟩ <;> rfl

omit [Depth] in
theorem orEmpty_told (d : Definition) (id : Option String) : Engine.orEmpty (d.told id) = d.told id := by
  cases id <;> rfl

/-- A call that is answered with a told definition ends with what is read of it. -/
theorem run_call_of_told {workflow : String} {id : Option String} {told : Definition}
    (hcall : (call, request) ∈ d.calls workflow) (hsendable : request.IsSendable)
    (htold : Definition.read (d.told id) = .ok told) {σ : Type} (h : Act.Handler σ) (s : σ)
    (hreply : Reply.Tells (h (.exchange request) s).1 (d.told id)) :
    call.run h s = (.value told, (h (.exchange request) s).2) := by
  have hvalue := Engine.replyValue_of_tells request hreply
  rw [call_eq hcall, Engine.send_eq_ask hsendable.1 hsendable.2, Act.ask_bind, Act.run_ask, hvalue]
  show (Act.ofExcept (Definition.read (Engine.orEmpty (d.told id)))).run h _ = _
  rw [orEmpty_told, htold]
  rfl

/-! ## Round trips -/

/-- A definition that is sent comes back as another one, which differs in the form of numbers at most. -/
structure ComesBackAs (d back : Definition) : Prop where
  /-- Without its id it is the same, number by number in value and otherwise as it is. -/
  same : back.byValue = { d with id := none }.byValue
  read : Definition.read d.payload = .ok back
  payload : back.payload.byValue = d.payload.byValue
  /-- Nothing changes any more when it is sent again. -/
  settled : Definition.read back.payload = .ok back
  /-- An engine that tells what it was sent, under an id or without one, is understood. -/
  echoed : ∀ (workflow : String) {id : Option String} {call : Act Definition} {request : Request},
    (call, request) ∈ d.calls workflow → request.IsSendable → ∀ {σ : Type} (h : Act.Handler σ) (s : σ),
      Reply.Tells (h (.exchange request) s).1 (d.told id)
        → call.run h s = (.value { back with id := id }, (h (.exchange request) s).2)

omit [Depth] in
theorem byValue_floated (h : ∀ n ∈ d.nodes, n.IsHeld) : d.floated.byValue = d.byValue := by
  have hnodes : ∀ n ∈ d.nodes, (EngineNode.byValue ∘ EngineNode.floated) n = n.byValue :=
    fun n hn => (h n hn).byValue_floated
  simp only [byValue, floated, List.map_map, List.map_congr_left hnodes]

omit [Depth] in
theorem floated_floated (d : Definition) : d.floated.floated = d.floated := by
  have hnodes : ∀ n ∈ d.nodes, (EngineNode.floated ∘ EngineNode.floated) n = n.floated :=
    fun n _ => n.floated_floated
  simp only [floated, List.map_map, List.map_congr_left hnodes]

/-- A definition comes back with its numbers as floats, if they have the same values. -/
theorem comesBackAs_floated (h : ∀ n ∈ d.nodes, n.IsHeld) : d.ComesBackAs { d.floated with id := none } where
  same := congrArg (fun e : Definition => { e with id := none }) (byValue_floated h)
  read := d.read_told h none
  payload := by
    show d.floated.payload.byValue = d.payload.byValue
    rw [← byValue_payload, byValue_floated h, byValue_payload]
  settled := by
    have hheld : ∀ n ∈ d.floated.nodes, n.IsHeld := by
      intro n hn
      obtain ⟨m, hm, rfl⟩ := List.mem_map.mp hn
      exact (h m hm).floated
    have hread := d.floated.read_told hheld none
    rw [floated_floated] at hread
    exact hread
  echoed _ _ _ _ hcall hsendable _ handler s hreply := run_call_of_told hcall hsendable (d.read_told h _) handler s hreply

end Definition

/-- **A definition that is sent comes back as it was**, whatever it was read of: what its payload leaves out is restored,
    nulls in free mappings are kept, and an engine that tells what it was sent is understood. -/
theorem payload_comes_back {v : Json} {d : Definition} (h : Definition.read v = .ok d) :
    ∃ back, d.ComesBackAs back :=
  ⟨_, Definition.comesBackAs_floated (isHeld_of_read h)⟩

end

/-- A node without a version, a position and credentials, with nulls at two levels of its parameters. -/
def sparseWorkflow : Json :=
  .obj [("id", .str "7"), ("name", .str "Chain"),
    ("nodes", .arr [.obj [("id", .str "ask"), ("name", .str "Ask"), ("type", .str "request"),
      ("parameters", .obj [("body", .null), ("headers", .arr [.obj [("value", .null)]])])]]),
    ("connections", .obj [("ask", .obj [("main", .arr [.arr [.obj [("node", .str "ask")]]])])])]

theorem payload_comes_back_sparse : ∃ d back, Definition.read sparseWorkflow = .ok d ∧ d.ComesBackAs back
    ∧ ∃ t, (Engine.createWorkflow d).run (Site.answer .tally) Site.empty
        = (.value { back with id := some (IdSource.tally.next []) }, t) := by
  obtain ⟨back, hback⟩ := payload_comes_back (v := sparseWorkflow) rfl
  refine ⟨_, back, rfl, hback, _, hback.echoed "" List.mem_cons_self ⟨rfl, rfl⟩ (Site.answer .tally) Site.empty ?_⟩
  exact ⟨200, _, rfl, by decide, by decide, rfl⟩

/-! ## Compiled definitions -/

theorem held_of_compileNodes {s : CompileSetting} {nodes : List (Node × String)} {es : List EngineNode}
    (h : compileNodes s nodes = .ok es) : ∀ e ∈ es, e.IsHeld ∧ e.floated = e := by
  induction nodes generalizing es with
  | nil =>
      cases Except.ok.inj h
      exact List.forall_mem_nil _
  | cons entry nodes ih =>
      obtain ⟨e, more, he, hmore, rfl⟩ := compileNodes_cons h
      obtain ⟨action, -, hnode⟩ := bind_eq_ok.mp he
      cases Except.ok.inj hnode
      refine List.forall_mem_cons.mpr ⟨⟨?_, rfl⟩, ih hmore⟩
      exact ⟨Number.isHeld_float _, Number.isHeld_float _, Number.isHeld_float _⟩

/-- **What is sent of a chain is read as the definition of the chain**, to the last number. -/
theorem read_payload_of_compileChain {s : CompileSetting} {c : Chain} {d : Definition}
    (h : compileChain s c = .ok d) : Definition.read d.payload = .ok d := by
  obtain ⟨compiled, connections, hnodes, -, rfl⟩ := compileChain_parts h
  have hheld := held_of_compileNodes hnodes
  have htrigger : triggerNode.IsHeld := ⟨Number.isHeld_float _, Number.isHeld_float _, Number.isHeld_float _⟩
  rw [← Definition.told_none, Definition.read_told _ (List.forall_mem_cons.mpr ⟨htrigger, fun e he => (hheld e he).1⟩)]
  have hsame : (triggerNode :: compiled).map EngineNode.floated = triggerNode :: compiled := by
    rw [List.map_cons, List.map_congr_left fun e he => (hheld e he).2, List.map_id']
    rfl
  rw [Definition.floated, hsame]

end PromptGraph
