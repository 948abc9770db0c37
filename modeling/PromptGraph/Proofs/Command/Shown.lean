import Mathlib
import PromptGraph.Command.Run
import PromptGraph.Proofs.Compile.Organizations
import PromptGraph.Proofs.Deploy.Stored
import PromptGraph.Proofs.Deploy.Untouched
import PromptGraph.Proofs.Execution.Isolation
import PromptGraph.Proofs.Json.Plain
import PromptGraph.Proofs.Text.Encoding

/-!
# `Proofs.Command.Shown` — the definition that one command shows and another sends

Both commands read the chain in a file and compile it. One prints the definition; the other, where the cache does not
know the chain, writes it to the engine. Each settles on an organization by itself, and they differ in one case: an
empty one that is given hides the chain's own from the first and not from the second.

## Contents
- **Commands.** `run_withSource`, `Output.run_guarded`: the part of a successful command after its file is read.
- **Sent.** `sentDefinitions`; `sendsOnly_of_deploys`, `run_ensureDeployed_cold`.
- **Shown.** `run_runCompile`, `run_runDeploy`, and `compile_shows_deploy_iff`.
-/

namespace PromptGraph

open Act Engine Http

-- what a path leads to is a matter of the files; to unfold the path takes long
attribute [local irreducible] plainPath

section

variable [Depth] {w v t : Rehearsal} {file : String} {o : Output}

/-! ## Commands -/

theorem asks_readSource {C : Prop} (file : String) :
    (readSource file).Asks (fun q => q = .readFile (plainPath file)) C := by
  unfold readSource
  dsimp only
  split
  · trivial
  · refine ⟨rfl, fun state => ?_⟩
    cases state with
    | file bytes =>
        dsimp only
        split
        · trivial
        · exact asks_ofExcept _
    | _ => trivial

/-- Reading a source changes nothing. -/
theorem run_readSource_snd (file : String) (w : Rehearsal) : ((readSource file).run Rehearsal.answer w).2 = w :=
  (run_related (R := Eq) (C := True) (fun _ => rfl) Eq.trans (fun q s hq => by rw [hq]; rfl) (asks_readSource file)
    w).symm

/-- What is read is what the path leads to. -/
theorem run_readSource_congr (h : w.files.state (plainPath file) = v.files.state (plainPath file)) :
    ((readSource file).run Rehearsal.answer w).1 = ((readSource file).run Rehearsal.answer v).1 := by
  have hstep : ∀ q (s t : Rehearsal), q = .readFile (plainPath file) →
      s.files.state (plainPath file) = t.files.state (plainPath file) →
      (Rehearsal.answer q s).1 = (Rehearsal.answer q t).1 ∧ (Rehearsal.answer q s).2.files.state (plainPath file)
        = (Rehearsal.answer q t).2.files.state (plainPath file) := by
    rintro q s t rfl hst
    exact ⟨hst, hst⟩
  exact (run_agree (C := True) hstep (asks_readSource file) h).1

theorem run_readSource_of_file {text : String} (hpossible : isPossiblePath (plainPath file) = true)
    (hstate : w.files.state (plainPath file) = .file (Text.utf8Bytes text)) :
    (readSource file).run Rehearsal.answer w = (endOf (chainOfText (plainPath file) text), w) := by
  have hanswer : Rehearsal.answer (.readFile (plainPath file)) w = (.file (Text.utf8Bytes text), w) :=
    Prod.ext hstate rfl
  unfold readSource
  dsimp only
  rw [if_neg (by simp [hpossible]), run_ask, hanswer]
  dsimp only
  rw [Text.ofUtf8?_utf8Bytes]
  exact run_ofExcept _ _ w

/-- A command that succeeds has read a chain, and goes on from it. -/
theorem run_withSource {next : Chain → Act Output}
    (hrun : (withSource file next).run Rehearsal.answer w = (.value o, t)) (ho : o.exitCode = 0) :
    ∃ c, ((readSource file).run Rehearsal.answer w).1 = .value (.ok c) ∧ (next c).run Rehearsal.answer w = (.value o, t)
      ∧ exchanges Rehearsal.answer (withSource file next) w = exchanges Rehearsal.answer (next c) w := by
  rcases run_bind_cases hrun with ⟨outcome, m, hread, hrest⟩ | ⟨e, -, hend⟩ | ⟨-, hend⟩
  · have hm := run_readSource_snd file w
    rw [hread] at hm
    obtain rfl : m = w := hm
    cases outcome with
    | error fault =>
        cases hrest
        cases ho
    | ok c =>
        have hquiet : exchanges Rehearsal.answer (readSource file) m = [] :=
          course_quiet (C := True) (asks_mono (fun q hq => by rw [hq]; rfl) (asks_readSource file)) (course_run _ _ m)
        refine ⟨c, by rw [hread], hrest, ?_⟩
        rw [withSource, exchanges_bind hread, hquiet, List.nil_append]
  · cases hend
  · cases hend

omit [Depth] in
/-- A guarded program that succeeds is the program. -/
theorem Output.run_guarded {program : Act Output}
    (hrun : (Output.guarded program).run Rehearsal.answer w = (.value o, t)) (ho : o.exitCode = 0) :
    program.run Rehearsal.answer w = (.value o, t)
      ∧ exchanges Rehearsal.answer (Output.guarded program) w = exchanges Rehearsal.answer program w := by
  have hfirst := run_attempt Rehearsal.answer program w
  rcases hprogram : program.run Rehearsal.answer w with ⟨ended, m⟩
  rw [hprogram] at hfirst
  rcases run_bind_cases hrun with ⟨outcome, m', hattempt, hrest⟩ | ⟨e, -, hend⟩ | ⟨-, hend⟩
  · cases ended with
    | value made =>
        cases hattempt.symm.trans hfirst
        cases hrest
        refine ⟨rfl, ?_⟩
        rw [Output.guarded, exchanges_bind hattempt, exchanges_attempt]
        exact List.append_nil _
    | failure e =>
        cases hattempt.symm.trans hfirst
        dsimp only at hrest
        split at hrest
        · cases hrest
          cases ho
        · cases hrest
    | cut => cases hattempt.symm.trans hfirst
  · cases hend
  · cases hend

/-! ## Sent -/

/-- The definitions that are written, in their order. A change without nodes writes none. -/
def sentDefinitions (xs : List Exchange) : List Json :=
  (xs.filterMap fun x => x.request.definition?).filter fun body => (body.get? "nodes").isSome

/-- One definition is written, once or again. -/
def SendsOnly (d : Definition) (xs : List Exchange) : Prop :=
  sentDefinitions xs ≠ [] ∧ ∀ body ∈ sentDefinitions xs, body = d.payload

section Sent

variable {d : Definition} {xs : List Exchange} {remote : String}

omit [Depth] in
theorem mem_sentDefinitions {body : Json} : body ∈ sentDefinitions xs
    ↔ (∃ x ∈ xs, x.request.definition? = some body) ∧ (body.get? "nodes").isSome = true := by
  rw [sentDefinitions, List.mem_filter, List.mem_filterMap]

/-- A write that returns an id is among what was sent. -/
theorem exists_written {r : Request} (h : Writes r xs (.value remote)) : ∃ x ∈ xs, x.request = r := by
  obtain ⟨-, reply, reply', rfl, -⟩ := h.returned
  exact ⟨_, List.mem_cons_self, rfl⟩

/-- **A deployment that returns an id has written the definition**, and no other. -/
theorem sendsOnly_of_deploys (h : Deploys d xs (.value remote)) : SendsOnly d xs := by
  have hwritten : ∃ x ∈ xs, x.request.definition? = some d.payload := by
    cases h with
    | @registered registered _ _ hwrites =>
        obtain ⟨x, hx, hrequest⟩ := exists_written hwrites
        exact ⟨x, hx, hrequest ▸ rfl⟩
    | unlisted _ _ ho _ => exact absurd rfl (ho remote)
    | listed _ _ _ _ hlisted =>
        cases hlisted with
        | created _ hwrites =>
            obtain ⟨x, hx, hrequest⟩ := exists_written hwrites
            exact ⟨x, by simp [hx], hrequest ▸ rfl⟩
        | updated _ hwrites =>
            obtain ⟨x, hx, hrequest⟩ := exists_written hwrites
            exact ⟨x, by simp [hx], hrequest ▸ rfl⟩
  refine ⟨List.ne_nil_of_mem (mem_sentDefinitions.mpr ⟨hwritten, rfl⟩), fun body hbody => ?_⟩
  obtain ⟨⟨x, hx, hdefinition⟩, hnodes⟩ := mem_sentDefinitions.mp hbody
  rcases h.writesOnly x hx body hdefinition with hown | hactivation
  · exact hown
  · rw [hactivation] at hnodes
    cases hnodes

/-- **A chain that the cache does not know is compiled and written.** -/
theorem run_ensureDeployed_cold {ctx : DeployContext} {c : Chain} {org : Option String}
    (hcold : nonEmpty (w.cache.get? c.id) = none)
    (hrun : (ensureDeployed ctx c org).run Rehearsal.answer w = (.value remote, t)) :
    ∃ d, compileChain (settingFor ctx.rewrites org c) c = .ok d
      ∧ SendsOnly d (exchanges Rehearsal.answer (ensureDeployed ctx c org) w) := by
  have hexchanges : exchanges Rehearsal.answer (ensureDeployed ctx c org) w
      = exchanges Rehearsal.answer (afterLookUp ctx c org (w.cache.get? c.id)) w := rfl
  replace hrun : (afterLookUp ctx c org (w.cache.get? c.id)).run Rehearsal.answer w = (.value remote, t) := hrun
  rw [hexchanges]
  unfold afterLookUp at hrun ⊢
  rw [hcold] at hrun ⊢
  dsimp only at hrun ⊢
  have hcourse := course_run Rehearsal.answer (reportAll (compileNotices (settingFor ctx.rewrites org c) c) >>= fun _ =>
    ofExcept (compileChain (settingFor ctx.rewrites org c) c) >>= fun d => deployDefinition ctx c.id d) w
  rw [hrun] at hcourse
  obtain ⟨d, ys, zs, hcompiled, hdeployed, hparts⟩ := course_bind_value (course_reportAll hcourse)
  obtain ⟨rfl, hd⟩ := course_ofExcept hcompiled
  rw [hparts]
  exact ⟨d, (endOf_eq_value.mp hd.symm), sendsOnly_of_deploys (course_deployDefinition hdeployed)⟩

end Sent

/-! ## Shown -/

omit [Depth] in
/-- What is printed of a value is the value. -/
theorem value_of_print {body : Json} {xs : List Exchange} (h : Course (Output.print body) xs (.value o)) :
    o = .value body := by
  unfold Output.print at h
  split at h <;> cases h
  rfl

/-- What is printed is the definition for the organization that is given, or else the chain's own. -/
theorem run_runCompile {org : Option String}
    (hrun : (runCompile file org).run Rehearsal.answer w = (.value o, t)) (ho : o.exitCode = 0) :
    ∃ c d, ((readSource file).run Rehearsal.answer w).1 = .value (.ok c)
      ∧ compileChain (settingFor Rewrites.default org c) c = .ok d ∧ o = .value d.payload := by
  obtain ⟨c, hread, hrest, -⟩ := run_withSource hrun ho
  have hcourse := course_run Rehearsal.answer
    (compileReporting Rewrites.default org c >>= fun d => Output.print d.payload) w
  rw [(Output.run_guarded hrest ho).1] at hcourse
  obtain ⟨d, ys, zs, hcompiled, hprinted, -⟩ := course_bind_value hcourse
  obtain ⟨-, hd⟩ := course_ofExcept (course_reportAll hcompiled)
  exact ⟨c, d, hread, endOf_eq_value.mp hd.symm, value_of_print hprinted⟩

/-- What is sent is the definition for the organization that is given, an empty one counting as none, or else the
    chain's own. -/
theorem run_runDeploy {s : Settings} {budget : Nat} {org : Option String} (hcold : w.cache = [])
    (hrun : (runDeploy s budget file org).run Rehearsal.answer w = (.value o, t)) (ho : o.exitCode = 0) :
    ∃ c d, ((readSource file).run Rehearsal.answer w).1 = .value (.ok c)
      ∧ compileChain (settingFor Rewrites.default (nonEmpty org <|> c.org) c) c = .ok d
      ∧ SendsOnly d (exchanges Rehearsal.answer (runDeploy s budget file org) w) := by
  obtain ⟨c, hread, hrest, hsource⟩ := run_withSource hrun ho
  obtain ⟨hprogram, hguarded⟩ := Output.run_guarded hrest ho
  refine ⟨c, ?_⟩
  rw [runDeploy, hsource, hguarded]
  cases haccess : s.access with
  | error e =>
      rw [haccess] at hprogram
      cases hprogram
  | ok access =>
      rw [haccess] at hprogram
      replace hprogram : (ensureDeployed (s.deployContext budget) c (nonEmpty org <|> c.org) >>= fun remote =>
          pure (Output.line ("Deployed " ++ c.id ++ " -> n8n workflow " ++ remote))).run Rehearsal.answer w
            = (.value o, t) := hprogram
      rcases run_bind_cases hprogram with ⟨remote, m, hdeployed, -⟩ | ⟨e, -, hend⟩ | ⟨-, hend⟩
      · obtain ⟨d, hd, hsends⟩ := run_ensureDeployed_cold (by rw [hcold]; rfl) hdeployed
        -- after the deployment its end is printed
        have hexchanges := exchanges_bind_pure Rehearsal.answer
          (ensureDeployed (s.deployContext budget) c (nonEmpty org <|> c.org))
          (fun remote => Output.line ("Deployed " ++ c.id ++ " -> n8n workflow " ++ remote)) w
        rw [← hexchanges] at hsends
        exact ⟨d, hread, hd, hsends⟩
      · cases hend
      · cases hend

omit [Depth] in
/-- The organizations that the two commands settle on are the same, an empty one counting as none, unless an empty one
    is given beside one of the chain's own. -/
theorem nonEmpty_given_iff (org own : Option String) :
    nonEmpty (org <|> own) = nonEmpty ((nonEmpty org <|> own) <|> own) ↔ ¬ (org = some "" ∧ nonEmpty own ≠ none) := by
  have htwice : (own <|> own) = own := by cases own <;> rfl
  cases org with
  | none => simp [nonEmpty, htwice]
  | some o =>
      by_cases ho : o = ""
      · subst ho
        simp [nonEmpty_empty, htwice, eq_comm]
      · simp [nonEmpty_of_ne ho, ho]

omit [Depth] in
/-- What is printed of the two definitions is the same just where the organizations are, or no credential is needed. -/
theorem shown_eq_iff {org : Option String} {c : Chain} {d d' : Definition}
    (h : compileChain (settingFor Rewrites.default org c) c = .ok d)
    (h' : compileChain (settingFor Rewrites.default (nonEmpty org <|> c.org) c) c = .ok d') :
    Output.value d.payload = .value d'.payload ↔ ¬ (org = some "" ∧ nonEmpty c.org ≠ none ∧ c.services ≠ []) := by
  have hshown : Output.value d.payload = .value d'.payload ↔ d.payload = d'.payload :=
    ⟨Output.value_inj_of_alike (alike_of_compileChain h h'), congrArg Output.value⟩
  rw [hshown, payload_eq_iff h h', nonEmpty_given_iff]
  simp only [ne_eq, not_and_or, not_not, or_assoc]

/-- **One command shows what the other sends, with one exception**: where an empty organization is given, the chain has
    one of its own, and some node needs a credential. -/
theorem compile_shows_deploy_iff {s : Settings} {budget : Nat} {org : Option String} {w w' : Rehearsal} {o o' : Output}
    (hfile : w.files.state (plainPath file) = w'.files.state (plainPath file)) (hcold : w'.cache = [])
    (hcompile : ((runCommand s budget (.compile file org)).run Rehearsal.answer w).1 = .value o) (ho : o.exitCode = 0)
    (hdeploy : ((runCommand s budget (.deploy file org)).run Rehearsal.answer w').1 = .value o')
    (ho' : o'.exitCode = 0) :
    ∃ c body, ((readSource file).run Rehearsal.answer w).1 = .value (.ok c)
      ∧ sentDefinitions (exchanges Rehearsal.answer (runCommand s budget (.deploy file org)) w') ≠ []
      ∧ (∀ sent ∈ sentDefinitions (exchanges Rehearsal.answer (runCommand s budget (.deploy file org)) w'), sent = body)
      ∧ (o = .value body ↔ ¬ (org = some "" ∧ nonEmpty c.org ≠ none ∧ c.services ≠ [])) := by
  simp only [runCommand] at hcompile hdeploy ⊢
  obtain ⟨t, hcompile⟩ := exists_run_eq hcompile
  obtain ⟨t', hdeploy⟩ := exists_run_eq hdeploy
  obtain ⟨c, d, hread, hcompiled, rfl⟩ := run_runCompile hcompile ho
  obtain ⟨c', d', hread', hcompiled', hnonempty, hall⟩ := run_runDeploy hcold hdeploy ho'
  -- both have read the one file
  rw [← run_readSource_congr hfile, hread] at hread'
  obtain rfl : c = c' := by simpa using hread'
  exact ⟨c, d'.payload, hread, hnonempty, hall, shown_eq_iff hcompiled hcompiled'⟩

end

/-- The settings where nothing is given, but without a registry. -/
def plainSettings : Settings :=
  ⟨"http://localhost:5678", "admin", "admin", none, .ofNat 30, "", none, some 5432, none, none, none, none, "", "INFO",
    .ofNat 1, 60, Decimal.toDouble ⟨false, 2, -6⟩, "USD", none, 3, [], none, 30, "n8n-prompt-chains"⟩

/-- The chain with a chat, of the organization `acme`. -/
def chatText : String :=
  "\x7b\"id\":\"chain\",\"name\":\"Chat\",\"org_id\":\"acme\",\"config\":\x7b\"nodes\":["
    ++ "\x7b\"id\":\"chat\",\"type\":\"integration\",\"data\":\x7b\"integrationType\":\"slack\"\x7d\x7d]\x7d\x7d"

theorem chainOfText_chat : chainOfText "chain.json" chatText = .ok (.ok (chatChain (some "acme"))) := by cbv

/-- A file with that chain, and an engine that makes a workflow of it. -/
def chatRehearsal : Rehearsal :=
  { Site.empty.near with
    files := [(["chain.json"], .file (Text.utf8Bytes chatText))],
    replies := [.answer 200 (.json (.obj [("data", .arr [])])), .answer 200 (.json (.obj [("id", .str "1")])),
      .answer 200 (.json (.obj [("id", .str "1")]))] }

theorem pathSegments_chat : pathSegments "chain.json" = ["chain.json"] := by
  rw [pathSegments, splitOn_slash]
  decide +kernel

theorem plainPath_chat : plainPath "chain.json" = "chain.json" := by
  rw [plainPath, pathSegments_chat]
  decide +kernel

theorem state_chat : chatRehearsal.files.state "chain.json" = .file (Text.utf8Bytes chatText) := by
  have hnames : namesDirectory "chain.json" = false := by
    rw [namesDirectory, lastSegment, splitOn_slash]
    decide +kernel
  have hwalk : chatRehearsal.files.walkPath "chain.json" = .place ["chain.json"] := by
    have hstart : Place.start "chain.json" = [] := by decide +kernel
    rw [Files.walkPath, if_neg (by decide +kernel), if_neg (by decide), pathSegments_chat, hstart, Files.walk]
    exact if_neg (by decide +kernel)
  exact Files.state_of_walkPath hnames hwalk rfl

theorem run_readSource_chat : (readSource "chain.json").run Rehearsal.answer chatRehearsal
    = (.value (.ok (chatChain (some "acme"))), chatRehearsal) := by
  have hsource : (readSource "chain.json").run Rehearsal.answer chatRehearsal
      = (endOf (chainOfText (plainPath "chain.json") chatText), chatRehearsal) :=
    run_readSource_of_file (by rw [plainPath_chat]; decide) (by rw [plainPath_chat]; exact state_chat)
  rwa [plainPath_chat, chainOfText_chat] at hsource

/-- Both commands succeed with that file, with an empty organization and without one. -/
theorem run_chat {org : Option String} (horg : org = none ∨ org = some "") :
    (∃ o, ((runCommand plainSettings 5 (.compile "chain.json" org)).run Rehearsal.answer chatRehearsal).1 = .value o
      ∧ o.exitCode = 0)
      ∧ ∃ o, ((runCommand plainSettings 5 (.deploy "chain.json" org)).run Rehearsal.answer chatRehearsal).1 = .value o
        ∧ o.exitCode = 0 := by
  have hvalue : ∀ {e : End Output}, e.value?.map Output.exitCode = some 0 → ∃ o, e = .value o ∧ o.exitCode = 0 := by
    intro e he
    obtain ⟨o, ho, hcode⟩ := Option.map_eq_some_iff.mp he
    exact ⟨o, End.value?_eq_some.mp ho, hcode⟩
  constructor
  · refine hvalue ?_
    rw [runCommand, runCompile, withSource, run_bind, run_readSource_chat]
    rcases horg with rfl | rfl <;> decide +kernel
  · refine hvalue ?_
    rw [runCommand, runDeploy, withSource, run_bind, run_readSource_chat]
    rcases horg with rfl | rfl <;> decide +kernel

/-- Without an organization that is given, what is shown of that chain is what is sent. -/
theorem compile_shows_deploy_iff_chat : ∃ o o' body,
    ((runCommand plainSettings 5 (.compile "chain.json" none)).run Rehearsal.answer chatRehearsal).1 = .value o
      ∧ o.exitCode = 0
      ∧ ((runCommand plainSettings 5 (.deploy "chain.json" none)).run Rehearsal.answer chatRehearsal).1 = .value o'
      ∧ o'.exitCode = 0
      ∧ body ∈ sentDefinitions
          (exchanges Rehearsal.answer (runCommand plainSettings 5 (.deploy "chain.json" none)) chatRehearsal)
      ∧ o = .value body := by
  obtain ⟨⟨o, hcompile, ho⟩, o', hdeploy, ho'⟩ := run_chat (Or.inl rfl)
  obtain ⟨c, body, -, hnonempty, hall, hshown⟩ := compile_shows_deploy_iff rfl rfl hcompile ho hdeploy ho'
  obtain ⟨sent, hsent⟩ := List.exists_mem_of_ne_nil _ hnonempty
  exact ⟨o, o', body, hcompile, ho, hdeploy, ho', hall sent hsent ▸ hsent, hshown.mpr nofun⟩

/-- With an empty organization that is given, the shared credential is shown, and the chain's own organization's is
    sent. -/
theorem empty_org_shows_shared : ∃ o o' shown body,
    ((runCommand plainSettings 5 (.compile "chain.json" (some ""))).run Rehearsal.answer chatRehearsal).1 = .value o
      ∧ o.exitCode = 0
      ∧ ((runCommand plainSettings 5 (.deploy "chain.json" (some ""))).run Rehearsal.answer chatRehearsal).1 = .value o'
      ∧ o'.exitCode = 0 ∧ chatRehearsal.cache = []
      ∧ body ∈ sentDefinitions
          (exchanges Rehearsal.answer (runCommand plainSettings 5 (.deploy "chain.json" (some ""))) chatRehearsal)
      ∧ o = .value shown ∧ o ≠ .value body
      ∧ nodeCredentials shown = [.obj [("slackOAuth2", .obj [("name", .str "slack_account")])]]
      ∧ nodeCredentials body = [.obj [("slackOAuth2", .obj [("name", .str "org_acme_slack")])]] := by
  obtain ⟨⟨o, hcompile, ho⟩, o', hdeploy, ho'⟩ := run_chat (Or.inr rfl)
  have hcompile' := hcompile
  have hdeploy' := hdeploy
  simp only [runCommand] at hcompile' hdeploy'
  obtain ⟨t, hcompileRun⟩ := exists_run_eq hcompile'
  obtain ⟨t', hdeployRun⟩ := exists_run_eq hdeploy'
  obtain ⟨c, d, hread, hcompiled, rfl⟩ := run_runCompile hcompileRun ho
  obtain ⟨c', d', hread', hcompiled', hnonempty, hall⟩ := run_runDeploy rfl hdeployRun ho'
  rw [run_readSource_chat] at hread hread'
  cases hread
  cases hread'
  have hservices : (chatChain (some "acme")).services = [.slack] := by decide +kernel
  obtain ⟨sent, hsent⟩ := List.exists_mem_of_ne_nil _ hnonempty
  refine ⟨_, o', _, d'.payload, hcompile, ho, hdeploy, ho', rfl, hall sent hsent ▸ hsent, rfl, ?_, ?_, ?_⟩
  · exact fun heq => (shown_eq_iff hcompiled hcompiled').mp heq ⟨rfl, nofun, by rw [hservices]; nofun⟩
  · rw [nodeCredentials_compileChain hcompiled, hservices]
    rfl
  · rw [nodeCredentials_compileChain hcompiled', hservices]
    rfl

end PromptGraph
