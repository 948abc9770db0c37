import PromptGraph.Proofs.Chain.Prompts
import PromptGraph.Proofs.Compile.Outcome
import PromptGraph.Proofs.Json.Plain
import PromptGraph.Proofs.Json.RoundTrip

/-!
# `Proofs.Compile.Requests` — what a prompt asks of its provider

The body of a request is a data text of its own. Where every number in it can be spelled in digits, whoever reads the
text finds what was authored: the prompt character by character, the model, the temperature and the number of tokens. A
temperature that is read is finite, so the number of tokens alone may be too long for a text. It is not in a chain that
was stored as one.

## Contents
- **Models.** `PromptBody.ModelBegins`; `modelCall_cases`: the three ways of choosing a provider and a model.
- **Bodies.** `bodyMembers`, `isSpelled_modelCall`, `isData_body`, `isStrict_body`; `read_write_body`.
- **Nodes.** `Sends`; `sends_of_spelled`.
- **Prompts.** `prompt_request_lossless`; `longTokens_do_not_compile`.
- **Stored chains.** `stored_requests_lossless`.
-/

namespace PromptGraph

open Json

/-! ## Models -/

/-- An authored model whose name begins so. -/
def PromptBody.ModelBegins (b : PromptBody) (start : String) : Prop :=
  ∃ m, b.model = some m ∧ start.toList <+: m.toList

/-- A name does not begin in both ways. -/
theorem not_both_starts {cs : List Char} (hgpt : "gpt".toList <+: cs) : ¬ "claude".toList <+: cs := by
  intro hclaude
  obtain ⟨more, rfl⟩ := hgpt
  obtain ⟨rest, hrest⟩ := hclaude
  exact absurd (List.cons.inj hrest).1 (by decide)

theorem ofModel?_cases (m : String) :
    ("gpt".toList <+: m.toList ∧ Provider.ofModel? m = some .openai)
      ∨ ("claude".toList <+: m.toList ∧ Provider.ofModel? m = some .anthropic)
      ∨ (¬ "gpt".toList <+: m.toList ∧ ¬ "claude".toList <+: m.toList ∧ Provider.ofModel? m = none) := by
  have hopenai : Provider.openai.modelStart = "gpt" := rfl
  have hanthropic : Provider.anthropic.modelStart = "claude" := rfl
  simp only [Provider.ofModel?, List.find?_cons, List.find?_nil, hopenai, hanthropic, ← List.isPrefixOf_iff_prefix]
  cases "gpt".toList.isPrefixOf m.toList with
  | true => exact .inl ⟨rfl, rfl⟩
  | false =>
      cases "claude".toList.isPrefixOf m.toList with
      | true => exact .inr (.inl ⟨rfl, rfl⟩)
      | false => exact .inr (.inr ⟨Bool.false_ne_true, Bool.false_ne_true, rfl⟩)

/-- A model of a known beginning is asked for by its name, and its provider is the one of the beginning. -/
theorem modelCall_cases (b : PromptBody) :
    (∃ m, b.model = some m ∧ "gpt".toList <+: m.toList ∧ (modelCall b).provider = .openai ∧ (modelCall b).model = m)
      ∨ (∃ m, b.model = some m ∧ "claude".toList <+: m.toList ∧ (modelCall b).provider = .anthropic
        ∧ (modelCall b).model = m)
      ∨ (¬ b.ModelBegins "gpt" ∧ ¬ b.ModelBegins "claude" ∧ (modelCall b).provider = .openai
        ∧ (modelCall b).model = defaultModel) := by
  have hdefault : Provider.ofModel? defaultModel = some .openai := rfl
  by_cases hmodel : nonEmpty b.model = none
  · -- no model, or an empty name
    have hnone {start : String} (hstart : start.toList ≠ []) : ¬ b.ModelBegins start := by
      rintro ⟨m, hm, hprefix⟩
      have hempty : m = "" := by simpa [nonEmpty, hm] using hmodel
      rw [hempty] at hprefix
      exact hstart (List.prefix_nil.mp hprefix)
    refine .inr (.inr ⟨hnone (by decide), hnone (by decide), ?_, ?_⟩) <;>
      simp only [modelCall, hmodel, Option.getD_none, hdefault]
  · obtain ⟨m, hm⟩ := Option.ne_none_iff_exists'.mp hmodel
    have hauthored : b.model = some m := (Option.filter_eq_some_iff.mp hm).1
    rcases ofModel?_cases m with ⟨hgpt, hfound⟩ | ⟨hclaude, hfound⟩ | ⟨hgpt, hclaude, hfound⟩
    · refine .inl ⟨m, hauthored, hgpt, ?_, ?_⟩ <;> simp only [modelCall, hm, Option.getD_some, hfound]
    · refine .inr (.inl ⟨m, hauthored, hclaude, ?_, ?_⟩) <;> simp only [modelCall, hm, Option.getD_some, hfound]
    · have hother {start : String} (h : ¬ start.toList <+: m.toList) : ¬ b.ModelBegins start := by
        rintro ⟨m', hm', hprefix⟩
        rw [hauthored] at hm'
        cases hm'
        exact h hprefix
      refine .inr (.inr ⟨hother hgpt, hother hclaude, ?_, ?_⟩) <;> simp only [modelCall, hm, Option.getD_some, hfound]

/-- A call as a prompt was authored, the defaults standing for what was not. -/
structure ModelCall.IsAuthored (b : PromptBody) (c : ModelCall) : Prop where
  prompt : ∀ p, b.prompt = some p → p ≠ "" → c.prompt = p
  noPrompt : b.prompt = none ∨ b.prompt = some "" → c.prompt = inputPassthrough
  /-- The authored model is asked for exactly when its name begins like one of a provider. -/
  model : ∀ m, b.model = some m → (c.model = m ↔ "gpt".toList <+: m.toList ∨ "claude".toList <+: m.toList)
  otherModel : ¬ b.ModelBegins "gpt" → ¬ b.ModelBegins "claude" → c.model = defaultModel
  provider : c.provider = .anthropic ↔ b.ModelBegins "claude"
  temperature : ∀ t, b.temperature = some t → c.temperature = t
  noTemperature : b.temperature = none → c.temperature = defaultTemperature
  maxTokens : ∀ n, b.maxTokens = some n → c.maxTokens = n
  noMaxTokens : b.maxTokens = none → c.maxTokens = defaultMaxTokens

theorem model_modelCall {b : PromptBody} {m : String} (hm : b.model = some m) :
    (modelCall b).model = m ↔ "gpt".toList <+: m.toList ∨ "claude".toList <+: m.toList := by
  rcases modelCall_cases b with ⟨m', hm', hgpt, -, hname⟩ | ⟨m', hm', hclaude, -, hname⟩ | ⟨hgpt, hclaude, -, hname⟩
  · obtain rfl : m' = m := Option.some.inj (hm'.symm.trans hm)
    exact ⟨fun _ => .inl hgpt, fun _ => hname⟩
  · obtain rfl : m' = m := Option.some.inj (hm'.symm.trans hm)
    exact ⟨fun _ => .inr hclaude, fun _ => hname⟩
  · -- the default begins like a model of a provider, so it is no authored model that does not
    have hdefault : "gpt".toList <+: defaultModel.toList := by decide
    constructor
    · intro heq
      exact .inl (heq ▸ hname ▸ hdefault)
    · rintro (h | h)
      · exact absurd ⟨m, hm, h⟩ hgpt
      · exact absurd ⟨m, hm, h⟩ hclaude

theorem provider_modelCall (b : PromptBody) : (modelCall b).provider = .anthropic ↔ b.ModelBegins "claude" := by
  obtain ⟨m, hm, hgpt, hprovider, -⟩ | ⟨m, hm, hclaude, hprovider, -⟩ | ⟨-, hclaude, hprovider, -⟩ := modelCall_cases b
  · rw [hprovider]
    refine ⟨nofun, ?_⟩
    rintro ⟨m', hm', hclaude⟩
    obtain rfl : m = m' := Option.some.inj (hm.symm.trans hm')
    exact absurd hclaude (not_both_starts hgpt)
  · exact ⟨fun _ => ⟨m, hm, hclaude⟩, fun _ => hprovider⟩
  · rw [hprovider]
    exact ⟨nofun, fun h => absurd h hclaude⟩

theorem defaultModel_modelCall {b : PromptBody} (hgpt : ¬ b.ModelBegins "gpt") (hclaude : ¬ b.ModelBegins "claude") :
    (modelCall b).model = defaultModel := by
  rcases modelCall_cases b with ⟨m, hm, hstart, -⟩ | ⟨m, hm, hstart, -⟩ | ⟨-, -, -, hname⟩
  · exact absurd ⟨m, hm, hstart⟩ hgpt
  · exact absurd ⟨m, hm, hstart⟩ hclaude
  · exact hname

/-- **A prompt is called as it was authored.** -/
theorem isAuthored_modelCall (b : PromptBody) : (modelCall b).IsAuthored b where
  prompt p hp hne := by simp [modelCall, nonEmpty, hp, Option.filter, hne]
  noPrompt h := by rcases h with h | h <;> simp [modelCall, nonEmpty, h, Option.filter]
  model _ := model_modelCall
  otherModel := defaultModel_modelCall
  provider := provider_modelCall b
  temperature t ht := by simp [modelCall, ht]
  noTemperature h := by simp [modelCall, h]
  maxTokens n hn := by simp [modelCall, hn]
  noMaxTokens h := by simp [modelCall, h]

/-! ## Bodies -/

/-- The members of a request body, in no particular order. -/
def bodyMembers (c : ModelCall) : Members :=
  [("model", .str c.model), ("messages", .arr [.obj [("role", .str "user"), ("content", .str c.prompt)]]),
    ("temperature", .float c.temperature), ("max_tokens", .int c.maxTokens)]

theorem exists_body (c : ModelCall) : ∃ ms, c.body = .obj ms ∧ ms.Perm (bodyMembers c) := by
  unfold ModelCall.body
  split
  · exact ⟨_, rfl, .refl _⟩
  · -- the other members are the other way round
    exact ⟨_, rfl, (List.reverse_perm [_, _, _]).cons _⟩

/-- A call whose numbers can be spelled in digits. -/
structure ModelCall.IsSpelled (c : ModelCall) : Prop where
  temperature : Json.IsSpelled (.float c.temperature)
  maxTokens : Json.IsSpelled (.int c.maxTokens)

/-- A finite temperature and a number of tokens that is not too long can be spelled, and so can the defaults. -/
theorem isSpelled_modelCall {b : PromptBody} (htemperature : ∀ t, b.temperature = some t → t.isFinite = true)
    (htokens : ∀ k, b.maxTokens = some k → k.natAbs < 10 ^ integerDigitLimit) : (modelCall b).IsSpelled where
  temperature := by
    have hdefault : defaultTemperature.isFinite = true := by decide
    cases ht : b.temperature with
    | none =>
        rw [(isAuthored_modelCall b).noTemperature ht]
        exact hdefault
    | some t =>
        rw [(isAuthored_modelCall b).temperature t ht]
        exact htemperature t ht
  maxTokens := by
    have hdefault : 1000 < 10 ^ integerDigitLimit :=
      (show 1000 < 10 ^ 4 by decide).trans_le (Nat.pow_le_pow_right (by decide) (by decide))
    cases hn : b.maxTokens with
    | none =>
        rw [(isAuthored_modelCall b).noMaxTokens hn]
        exact hdefault
    | some n =>
        rw [(isAuthored_modelCall b).maxTokens n hn]
        exact htokens n hn

theorem isData_body {c : ModelCall} (h : c.IsSpelled) : IsData Json.IsSpelled c.body := by
  have hmessages : IsData Json.IsSpelled c.messages :=
    ⟨⟨show ["role", "content"].Nodup by decide, trivial, trivial, trivial⟩, trivial⟩
  unfold ModelCall.body
  split
  · have hnames : ["model", "messages", "temperature", "max_tokens"].Nodup := by decide
    exact ⟨hnames, trivial, hmessages, h.temperature, h.maxTokens, trivial⟩
  · have hnames : ["model", "max_tokens", "temperature", "messages"].Nodup := by decide
    exact ⟨hnames, trivial, h.maxTokens, h.temperature, hmessages, trivial⟩

theorem isStrict_body {c : ModelCall} (h : c.IsSpelled) : isStrict c.body = true := by
  have hfinite : c.temperature.isFinite = true := h.temperature
  unfold ModelCall.body
  split <;>
    simp [isStrict, areStrictMembers, areStrict, ModelCall.messages, isStrictNumber, Json.float, Json.int, hfinite]

theorem height_body (c : ModelCall) : height c.body = 4 := by
  unfold ModelCall.body
  split <;> rfl

/-- **The body of a request is read back as it was meant**, wherever its levels are read. -/
theorem read_write_body {c : ModelCall} (h : c.IsSpelled) {levels : Nat} (hlevels : 4 ≤ levels) :
    readWithin levels (Json.write .line c.body) = .ok c.body :=
  readWithin_write spacedStyle_line (isData_body h) ((height_body c).trans_le hlevels)

/-! ## Nodes -/

/-- A header that tells a version. -/
def versionHeader (value : String) : Json := .obj [("name", .str "anthropic-version"), ("value", .str value)]

/-- A node that sends a call to its provider, in the name of an organization. -/
structure Sends (org : Option String) (c : ModelCall) (e : EngineNode) : Prop where
  /-- The body is a strict data text of ASCII characters, and is read as the call wherever four levels are
      read. -/
  body : ∃ text ms, Members.get? "jsonBody" e.parameters = some (.str text) ∧ (∀ ch ∈ text.toList, ch.toNat < 0x80)
    ∧ (∀ levels, 4 ≤ levels → readWithin levels text = .ok (.obj ms)) ∧ isStrict (.obj ms) = true
    ∧ ms.Perm (bodyMembers c)
  url : Members.get? "url" e.parameters = some (.str c.provider.url)
  credentialType : Members.get? "nodeCredentialType" e.parameters = some (.str c.provider.service.credentialType)
  credentials : e.credentials = some (credentialRef c.provider.service org)
  version : ∃ headers, Members.get? "headerParameters" e.parameters = some (.obj [("parameters", .arr headers)])
    ∧ ((∃ value, versionHeader value ∈ headers) ↔ c.provider = .anthropic)

theorem version_headers (c : ModelCall) : (∃ value, versionHeader value ∈ c.headers) ↔ c.provider = .anthropic := by
  unfold ModelCall.headers
  cases hprovider : c.provider with
  | openai =>
      refine ⟨?_, nofun⟩
      rintro ⟨value, hmem⟩
      simp [versionHeader, ModelCall.header] at hmem
  | anthropic => exact ⟨fun _ => rfl, fun _ => ⟨"2023-06-01", by simp [versionHeader, ModelCall.header]⟩⟩

/-- Every printable character of ASCII, and the line break, is below the first beyond ASCII. -/
theorem lt_of_plain {ch : Char} (h : Plain ch) : ch.toNat < 0x80 := by
  rcases h with rfl | ⟨-, hlt⟩
  · decide
  · exact hlt.trans (by decide)

theorem sends_of_spelled {s : CompileSetting} {name : String} {n : Node} {b : PromptBody} (hb : n.body = .prompt b)
    (h : (modelCall b).IsSpelled) : ∃ e, compileNode s name n = .ok e ∧ Sends s.org (modelCall b) e := by
  obtain ⟨ms, hbody, hmembers⟩ := exists_body (modelCall b)
  have hwritten : isLongInteger (modelCall b).maxTokens = false :=
    Bool.eq_false_iff.mpr fun hlong => absurd h.maxTokens (Nat.not_lt_of_le (isLongInteger_iff.mp hlong))
  have hcompile : compileNode s name n = .ok ⟨n.id, name, requestType, versionOne,
      (coordinate n.position.x, coordinate n.position.y),
      (modelCall b).parametersWith (Json.write .line (modelCall b).body),
      some (credentialRef (modelCall b).provider.service s.org)⟩ := by
    rw [compileNode, hb, NodeAction.ofBody, prompt_of_written hwritten]
    rfl
  refine ⟨_, hcompile, ⟨?_, rfl, rfl, rfl, ?_⟩⟩
  · refine ⟨Json.write .line (modelCall b).body, ms, rfl, fun ch hch => ?_, fun levels hlevels => ?_, ?_, hmembers⟩
    · exact lt_of_plain (plain_writeAt plainStyle_line 0 _ ch hch)
    · rw [read_write_body h hlevels, hbody]
    · rw [← hbody]
      exact isStrict_body h
  · exact ⟨_, rfl, version_headers (modelCall b)⟩

/-! ## Prompts -/

/-- **The request of a prompt is lossless**, provided that its number of tokens, if it has one, is not too long to be
    written. A node that is read as a prompt compiles then, for whatever organization; its body is a strict data text of
    ASCII characters that is read as exactly the model, the temperature, the number of tokens and the one message of the
    user, as they were authored. Its address, its credential and the header with a version are of the provider of the
    model. -/
theorem prompt_request_lossless {v : Json} {n : Node} {b : PromptBody} (hread : readNodeAs "prompt" v = .ok n)
    (hb : n.body = .prompt b) (htokens : ∀ k, b.maxTokens = some k → k.natAbs < 10 ^ integerDigitLimit)
    (s : CompileSetting) (name : String) :
    ∃ e call, compileNode s name n = .ok e ∧ call.IsAuthored b ∧ Sends s.org call e := by
  obtain ⟨ms, hbody, -⟩ := exists_promptBody hread hb
  obtain ⟨e, hcompile, hsends⟩ := sends_of_spelled hb (isSpelled_modelCall (isFinite_of_readPromptBody hbody) htokens)
  exact ⟨e, modelCall b, hcompile, isAuthored_modelCall b, hsends⟩

/-- A prompt node with a temperature of zero, and a text of quotes, a line break and characters beyond ASCII. -/
def quotingNode : Json :=
  .obj [("id", .str "ask"), ("type", .str "prompt"),
    ("data", .obj [("prompt", .str "Say \"é\" \\ \n 😀"), ("model", .str "claude-3-opus"), ("temperature", .int 0),
      ("maxTokens", .int 7)])]

theorem prompt_request_lossless_quoting : ∃ n b, readNodeAs "prompt" quotingNode = .ok n ∧ n.body = .prompt b
    ∧ b.prompt = some "Say \"é\" \\ \n 😀" ∧ b.temperature = some (Double.ofNat 0) ∧ b.ModelBegins "claude"
    ∧ (∀ k, b.maxTokens = some k → k.natAbs < 10 ^ integerDigitLimit)
    ∧ ∃ e call, compileNode ⟨Rewrites.default, some "acme"⟩ "Ask" n = .ok e ∧ call.IsAuthored b
      ∧ Sends (some "acme") call e := by
  have hseven : 7 < 10 ^ integerDigitLimit :=
    (show 7 < 10 ^ 1 by decide).trans_le (Nat.pow_le_pow_right (by decide) (by decide))
  have htokens : ∀ k, some (7 : Int) = some k → k.natAbs < 10 ^ integerDigitLimit := by
    rintro k ⟨⟩
    exact hseven
  exact ⟨_, _, rfl, rfl, rfl, rfl, ⟨"claude-3-opus", rfl, by decide⟩, htokens,
    prompt_request_lossless (v := quotingNode) rfl rfl htokens ⟨Rewrites.default, some "acme"⟩ "Ask"⟩

/-- A prompt node with a number of tokens. -/
def tokensNode (tokens : Int) : Json :=
  .obj [("id", .str "ask"), ("type", .str "prompt"), ("data", .obj [("maxTokens", .int tokens)])]

theorem readNodeAs_tokensNode {tokens : Int} (h : 0 < tokens) : readNodeAs "prompt" (tokensNode tokens)
    = .ok ⟨"ask", Position.origin, .prompt ⟨none, none, none, none, some tokens⟩⟩ := by
  have hpositive : Schema.positive tokens = .ok tokens := if_pos h
  have htokens : Schema.nullable [("maxTokens", .int tokens)] "maxTokens" readMaxTokens = .ok (some tokens) := by
    show (some <$> Schema.positive tokens).under (.field "maxTokens") = _
    rw [hpositive]
    rfl
  have hbody : readPromptBody [("maxTokens", .int tokens)] = .ok ⟨none, none, none, none, some tokens⟩ := by
    unfold readPromptBody
    rw [htokens]
    rfl
  show (_ <*> (NodeBody.prompt <$> readPromptBody [("maxTokens", .int tokens)]).under (.field "data")) = _
  rw [hbody]
  rfl

/-- Such a node is read, however long the number is, and compiles for no organization where it is too long to be
    written. -/
theorem longTokens_do_not_compile : ∃ n b, readNodeAs "prompt" (tokensNode (10 ^ integerDigitLimit)) = .ok n
    ∧ n.body = .prompt b ∧ b.maxTokens = some (10 ^ integerDigitLimit)
    ∧ ∀ s name, compileNode s name n = .error (.value .longInteger) := by
  refine ⟨_, _, readNodeAs_tokensNode (by positivity), rfl, rfl, fun s name => ?_⟩
  have hlong : 10 ^ integerDigitLimit ≤ ((10 : Int) ^ integerDigitLimit).natAbs := by
    rw [Int.natAbs_pow, show (10 : Int).natAbs = 10 from rfl]
  rw [compileNode, NodeAction.ofBody, prompt_of_longTokens rfl hlong]
  rfl

/-! ## Stored chains -/

/-- The prompts of a chain that is stored as a data text meet the condition: **all of their requests are lossless.** -/
theorem stored_requests_lossless [Depth] {text : String} {row : Json} {c : Chain} (hrow : Json.read text = .ok row)
    (hchain : Chain.read row = .ok c) {n : Node} (hn : n ∈ c.graph.nodes) {b : PromptBody} (hb : n.body = .prompt b)
    (s : CompileSetting) (name : String) :
    ∃ e call, compileNode s name n = .ok e ∧ call.IsAuthored b ∧ Sends s.org call e := by
  obtain ⟨v, hv, type, hread⟩ := exists_storedNode hchain hn
  obtain ⟨ms, hbody, -⟩ := exists_promptBody hread hb
  have htokens := isRead_of_readNodeAs (isData_storedNodes (isData_read hrow) v hv) hread hb
  obtain ⟨e, hcompile, hsends⟩ := sends_of_spelled hb (isSpelled_modelCall (isFinite_of_readPromptBody hbody) htokens)
  exact ⟨e, modelCall b, hcompile, isAuthored_modelCall b, hsends⟩

end PromptGraph
