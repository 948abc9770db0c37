import PromptGraph.Compile.Node
import PromptGraph.Proofs.Compile.Literals
import PromptGraph.Proofs.Text.Segments

/-!
# `Proofs.Compile.Scripts` — authored text stays where it is put in generated code

Authored text stands in a function's code in two kinds of places: behind the two slashes of a comment, and in string
literals. A comment ends with its line and a literal with its closing quote, so the lines of the code are those that
were generated, and each has the authored text inside a part that it cannot leave.

## Contents
- **Lines.** `joinLines_splitOn`, `not_mem_joinLines`: the lines of code are the ones that were joined.
- **Comments.** `IsComment`, `isComment_numbered`.
- **Validators.** `IsRuleBlock`, `rulesLines_block`; `IsValidatorCode`.
- **Routers.** `IsConditionBlock`, `conditionsLines_blocks`; `IsRouterCode`.
- **Integrations.** `IsPassthroughCode`.
- **Nodes.** `function_code_is_contained`.
-/

namespace PromptGraph

/-! ## Lines -/

/-- Unbroken lines that are joined are the lines of the code. -/
theorem joinLines_splitOn {lines : List String} (h : ∀ l ∈ lines, Unbroken l) (hne : lines ≠ []) :
    (joinLines lines).splitOn "\n" = lines := by
  have hcut : ∀ cs ∈ lines.map String.toList, '\n' ∉ cs := by
    intro cs hcs hmem
    obtain ⟨l, hl, rfl⟩ := List.mem_map.mp hcs
    exact (h l hl '\n' hmem).1 rfl
  have hsplit := List.splitOn_intercalate '\n' hcut (mt List.map_eq_nil_iff.mp hne)
  have hseparator : "\n" = String.ofList ['\n'] := rfl
  rw [hseparator, splitOn_singleton, joinLines, String.toList_intercalate]
  show (List.splitOn '\n' (['\n'].intercalate _)).map String.ofList = lines
  rw [hsplit, List.map_map]
  exact (List.map_congr_left fun _ _ => String.ofList_toList).trans (List.map_id lines)

/-- A carriage return is in no line, and so not in the code. -/
theorem not_mem_joinLines {lines : List String} (h : ∀ l ∈ lines, Unbroken l) : '\r' ∉ (joinLines lines).toList := by
  have hnone : ∀ c ∈ (joinLines lines).toList, c ≠ '\r' := by
    rw [joinLines, String.toList_intercalate]
    have hbreak : ∀ c ∈ "\n".toList, c ≠ '\r' := List.forall_mem_singleton.mpr (by decide)
    refine forall_mem_intercalate hbreak fun cs hcs => ?_
    obtain ⟨l, hl, rfl⟩ := List.mem_map.mp hcs
    exact fun c hc => (h l hl c hc).2
  exact fun hmem => hnone '\r' hmem rfl

/-! ## Comments -/

/-- The characters that end a line of the generated language, and with it a comment. -/
def isTerminator (c : Char) : Bool := c == '\n' || c == '\r' || c.toNat == 0x2028 || c.toNat == 0x2029

/-- A text in which no comment ends. -/
def IsComment (s : String) : Prop := ∀ c ∈ s.toList, isTerminator c = false

instance : DecidablePred IsComment := fun s => List.decidableBAll _ s.toList

theorem terminator_cases {c : Char} (h : isTerminator c = true) :
    c = '\n' ∨ c = '\r' ∨ c.toNat = 0x2028 ∨ c.toNat = 0x2029 := by
  simpa [isTerminator, or_assoc] using h

theorem isTerminator_of_isLineEnd {c : Char} (h : Text.isLineEnd c = false) : isTerminator c = false := by
  rw [Bool.eq_false_iff] at h ⊢
  intro hend
  apply h
  rcases terminator_cases hend with rfl | rfl | hcode | hcode
  · decide
  · decide
  · simp [Text.isLineEnd, hcode]
  · simp [Text.isLineEnd, hcode]

theorem isComment_append {s t : String} : IsComment (s ++ t) ↔ IsComment s ∧ IsComment t := by
  unfold IsComment
  rw [String.toList_append, List.forall_mem_append]

theorem isComment_oneLine (s : String) : IsComment (Text.oneLine s) :=
  fun c hc => isTerminator_of_isLineEnd (Text.isLineEnd_of_oneLine s c hc)

theorem isTerminator_of_isDigit {c : Char} (h : c.isDigit = true) : isTerminator c = false := by
  rw [Bool.eq_false_iff]
  intro hend
  have hhigh : c.toNat ≤ '9'.toNat := (Char.isDigit_iff_toNat.mp h).2
  have hnine : '9'.toNat = 57 := rfl
  rcases terminator_cases hend with rfl | rfl | hcode | hcode
  · exact absurd h (by decide)
  · exact absurd h (by decide)
  · omega
  · omega

theorem isComment_toString (n : Nat) : IsComment (toString n) := by
  intro c hc
  have hdigits : (toString n).toList = Nat.toDigits 10 n := by simp
  exact isTerminator_of_isDigit (Nat.isDigit_of_mem_toDigits (by decide) (by decide) (hdigits ▸ hc))

/-- A comment that counts what follows and has authored text at its end. -/
theorem isComment_numbered {word : String} (hword : IsComment word) (n : Nat) (s : String) :
    IsComment (word ++ toString n ++ ": " ++ Text.oneLine s) := by
  have hcolon : IsComment ": " := by decide
  exact isComment_append.mpr
    ⟨isComment_append.mpr ⟨isComment_append.mpr ⟨hword, isComment_toString n⟩, hcolon⟩, isComment_oneLine s⟩

theorem IsComment.unbroken {s : String} (h : IsComment s) : Unbroken s := by
  intro c hc
  constructor
  · rintro rfl
    exact absurd (h '\n' hc) (by decide)
  · rintro rfl
    exact absurd (h '\r' hc) (by decide)

/-! ## Validators -/

/-- The lines of a rule: its comment, and around the evaluation of its expression the results with its text. -/
inductive IsRuleBlock (index : Nat) (rule : String) : List String → Prop where
  | mk {comment expression l : String} (hcomment : IsComment ("// Rule " ++ toString (index + 1) ++ ": " ++ comment))
      (hexpression : RuleExpression expression) (hliteral : IsLiteral l rule) :
      IsRuleBlock index rule
        ["// Rule " ++ toString (index + 1) ++ ": " ++ comment,
          "try \x7b",
          "  const result = " ++ expression ++ ";",
          "  validationResults.push(\x7b rule: " ++ l ++ ", passed: Boolean(result) \x7d);",
          "\x7d catch (error) \x7b",
          "  validationResults.push(\x7b rule: " ++ l ++ ", passed: false, error: error.message \x7d);",
          "\x7d",
          ""]

theorem isRuleBlock_ruleLines (index : Nat) (rule : String) : IsRuleBlock index rule (ruleLines index rule) :=
  .mk (isComment_numbered (by decide) (index + 1) rule) (ruleExpression_translateRule rule) (isLiteral_literal rule)

theorem unbroken_ruleLines (index : Nat) (rule : String) : ∀ l ∈ ruleLines index rule, Unbroken l := by
  have hword : IsComment "// Rule " := by decide
  have hcomment := (isComment_numbered hword (index + 1) rule).unbroken
  have hexpression := unbroken_translateRule rule
  have hliteral := unbroken_literal rule
  simp only [unbroken_append] at hcomment
  simp only [ruleLines, List.forall_mem_cons, unbroken_append, hcomment, hexpression, hliteral, and_true]
  decide

theorem unbroken_rulesLines (index : Nat) (rules : List String) : ∀ l ∈ rulesLines index rules, Unbroken l := by
  induction rules generalizing index with
  | nil => exact List.forall_mem_nil _
  | cons r rest ih => exact List.forall_mem_append.mpr ⟨unbroken_ruleLines index r, ih (index + 1)⟩

theorem unbroken_validatorLines (rules : List String) : ∀ l ∈ validatorLines rules, Unbroken l := by
  have hhead : ∀ l ∈ validatorHead, Unbroken l := by decide
  have htail : ∀ l ∈ validatorTail, Unbroken l := by decide
  exact List.forall_mem_append.mpr
    ⟨List.forall_mem_append.mpr ⟨hhead, unbroken_rulesLines 0 rules⟩, htail⟩

/-- Every rule has eight lines. -/
theorem length_rulesLines (index : Nat) (rules : List String) : (rulesLines index rules).length = 8 * rules.length := by
  induction rules generalizing index with
  | nil => rfl
  | cons r rest ih =>
      rw [rulesLines, List.length_append, ih, List.length_cons]
      show 8 + 8 * rest.length = _
      omega

/-- The lines of a rule stand after those of the rules before it. -/
theorem rulesLines_block (index : Nat) (rules : List String) (i : Nat) (hi : i < rules.length) :
    ((rulesLines index rules).drop (8 * i)).take 8 = ruleLines (index + i) rules[i] := by
  induction rules generalizing index i with
  | nil => exact absurd hi (Nat.not_lt_zero i)
  | cons r rest ih =>
      cases i with
      | zero => rfl
      | succ i =>
          have hmore := ih (index + 1) i (Nat.lt_of_succ_lt_succ hi)
          have hdrop : 8 * (i + 1) = (ruleLines index r).length + 8 * i := by
            show 8 * (i + 1) = 8 + 8 * i
            omega
          have hindex : index + (i + 1) = index + 1 + i := by omega
          rw [rulesLines, hdrop, List.drop_length_add_append, hmore, hindex]
          rfl

/-- The code of a validator, line by line. -/
structure IsValidatorCode (rules : List String) (code : String) : Prop where
  length : (code.splitOn "\n").length = 4 + 8 * rules.length + 11
  noReturn : '\r' ∉ code.toList
  block : ∀ (i : Nat) (hi : i < rules.length),
    IsRuleBlock i rules[i] (((code.splitOn "\n").drop (4 + 8 * i)).take 8)

theorem isValidatorCode_joinLines (rules : List String) : IsValidatorCode rules (joinLines (validatorLines rules)) := by
  have hlines := joinLines_splitOn (unbroken_validatorLines rules) (by simp [validatorLines, validatorHead])
  constructor
  case length =>
    rw [hlines, validatorLines, List.length_append, List.length_append, length_rulesLines]
    rfl
  case noReturn => exact not_mem_joinLines (unbroken_validatorLines rules)
  case block =>
    intro i hi
    have hblock := rulesLines_block 0 rules i hi
    have hfits : 8 ≤ ((rulesLines 0 rules).drop (8 * i)).length := by
      rw [List.length_drop, length_rulesLines]
      omega
    have hstart : 8 * i ≤ (rulesLines 0 rules).length := by
      rw [length_rulesLines]
      omega
    have hhead : 4 + 8 * i = validatorHead.length + 8 * i := rfl
    rw [hlines, validatorLines, List.append_assoc, hhead, List.drop_length_add_append, List.drop_append_of_le_length hstart,
      List.take_append_of_le_length hfits, hblock, Nat.zero_add]
    exact isRuleBlock_ruleLines i rules[i]

/-! ## Routers -/

/-- The lines of a condition: its comment, and what is returned where its expression holds. -/
inductive IsConditionBlock (rewrites : Rewrites) (index : Nat) (condition : String) : List String → Prop where
  | mk {comment : String} (hcomment : IsComment ("// Condition " ++ toString (index + 1) ++ ": " ++ comment)) :
      IsConditionBlock rewrites index condition
        ["// Condition " ++ toString (index + 1) ++ ": " ++ comment,
          "if (" ++ translateCondition rewrites condition ++ ") \x7b",
          "  return [\x7b json: \x7b ...input, routePath: '" ++ toString index ++ "' \x7d \x7d];",
          "\x7d",
          ""]

theorem isConditionBlock_conditionLines (rewrites : Rewrites) (index : Nat) (condition : String) :
    IsConditionBlock rewrites index condition (conditionLines rewrites index condition) :=
  .mk (isComment_numbered (by decide) (index + 1) condition)

/-- The lines of all conditions are blocks, one for each. -/
theorem conditionsLines_blocks (rewrites : Rewrites) (index : Nat) (conditions : List String) :
    conditionsLines rewrites index conditions
      = (conditions.mapIdx fun i c => conditionLines rewrites (index + i) c).flatten := by
  induction conditions generalizing index with
  | nil => rfl
  | cons c rest ih =>
      rw [conditionsLines, ih, List.mapIdx_cons, List.flatten_cons]
      simp only [Nat.add_zero, Nat.add_assoc, Nat.add_comm 1]

/-- The code of a router: a block for each condition between fixed lines. -/
inductive IsRouterCode (rewrites : Rewrites) (conditions : List String) : String → Prop where
  | mk {blocks : List (List String)} (hlength : blocks.length = conditions.length)
      (hblock : ∀ (i : Nat) (hi : i < conditions.length),
        IsConditionBlock rewrites i conditions[i] (blocks.get ⟨i, hlength ▸ hi⟩)) :
      IsRouterCode rewrites conditions
        (joinLines (["// Router Logic", "const input = items[0].json;", ""] ++ blocks.flatten
          ++ ["// Default path", "return [\x7b json: \x7b ...input, routePath: 'default' \x7d \x7d];"]))

theorem isRouterCode_joinLines (rewrites : Rewrites) (conditions : List String) :
    IsRouterCode rewrites conditions (joinLines (routerLines rewrites conditions)) := by
  rw [routerLines, conditionsLines_blocks]
  refine .mk (List.length_mapIdx ..) fun i hi => ?_
  rw [List.get_eq_getElem, List.getElem_mapIdx, Nat.zero_add]
  exact isConditionBlock_conditionLines rewrites i conditions[i]

/-! ## Integrations -/

/-- The code of an integration that passes its items on: its three lines, with the kind as a literal. -/
structure IsPassthroughCode (kind code : String) : Prop where
  lines : ∃ l, IsLiteral l kind
    ∧ code.splitOn "\n"
      = ["// Generic Integration", "console.log('Integration node:', " ++ l ++ ");", "return items;"]

theorem isPassthroughCode_joinLines (kind : String) : IsPassthroughCode kind (joinLines (passthroughLines kind)) := by
  have hunbroken : ∀ l ∈ passthroughLines kind, Unbroken l := by
    simp only [passthroughLines, List.forall_mem_cons, unbroken_append, unbroken_literal, and_true]
    decide
  exact ⟨literal kind, isLiteral_literal kind, joinLines_splitOn hunbroken (List.cons_ne_nil _ _)⟩

/-! ## Nodes -/

/-- A node compiles to a function node whose code has the property. -/
def CompilesToCode (s : CompileSetting) (name : String) (n : Node) (P : String → Prop) : Prop :=
  ∃ e code, compileNode s name n = .ok e ∧ e.type = functionType ∧ e.parameters = [("functionCode", .str code)] ∧ P code

/-- **Authored text stays where it is put in generated code.** Whatever characters the rules of a validator have, its
    code is four lines, eight for each rule and eleven more, without a carriage return. The comment of a rule does not
    end before its line, its expression is fixed or searches for a literal, and both results carry one literal that is
    read as the rule. The comment of a router's condition does not end before its line either, and an integration of
    unknown kind has three lines of code, with a literal that is read as its kind. -/
theorem function_code_is_contained (s : CompileSetting) (name : String) (n : Node) :
    (∀ b, n.body = .validator b → CompilesToCode s name n (IsValidatorCode b.rules))
      ∧ (∀ b, n.body = .router b → CompilesToCode s name n (IsRouterCode s.rewrites b.conditions))
      ∧ (∀ b, n.body = .integration b → IntegrationKind.ofBody b = .unknown →
        CompilesToCode s name n (IsPassthroughCode (b.kind.getD ""))) := by
  -- a node that is done by a function is compiled whatever its lines are
  have hcompiled : ∀ {lines : List String} {P : String → Prop},
      NodeAction.ofBody s n.body = .ok (.function lines) → P (joinLines lines) → CompilesToCode s name n P := by
    intro lines P haction hP
    have hnode : compileNode s name n = .ok ⟨n.id, name, functionType, versionOne,
        (coordinate n.position.x, coordinate n.position.y), [("functionCode", .str (joinLines lines))], none⟩ := by
      rw [compileNode, haction]
      rfl
    exact ⟨_, joinLines lines, hnode, rfl, rfl, hP⟩
  refine ⟨?validator, ?router, ?integration⟩
  case validator =>
    intro b hbody
    have haction : NodeAction.ofBody s n.body = .ok (.function (validatorLines b.rules)) := by rw [hbody]; rfl
    exact hcompiled haction (isValidatorCode_joinLines b.rules)
  case router =>
    intro b hbody
    have haction : NodeAction.ofBody s n.body = .ok (.function (routerLines s.rewrites b.conditions)) := by
      rw [hbody]; rfl
    exact hcompiled haction (isRouterCode_joinLines s.rewrites b.conditions)
  case integration =>
    intro b hbody hunknown
    have haction : NodeAction.ofBody s n.body = .ok (.function (passthroughLines (b.kind.getD ""))) := by
      rw [hbody, NodeAction.ofBody, NodeAction.ofIntegration, hunknown]
    exact hcompiled haction (isPassthroughCode_joinLines (b.kind.getD ""))

/-- A rule that would leave its comment, and one that would leave its literal. -/
def hostileRules : List String :=
  ["line\nevil();\u2028evil();\revil();", "contains \"a\\\" \"); evil(); //"]

/-- An integration of a kind with a quote and a line break. -/
def hostileKind : IntegrationBody := ⟨none, some "x\"); evil();\n//", none, none, []⟩

/-- The rules and the kind are contained. -/
theorem function_code_is_contained_hostile :
    CompilesToCode ⟨.default, none⟩ "check" ⟨"n1", .origin, .validator ⟨none, hostileRules⟩⟩
        (IsValidatorCode hostileRules)
      ∧ CompilesToCode ⟨.default, none⟩ "call" ⟨"n2", .origin, .integration hostileKind⟩
        (IsPassthroughCode "x\"); evil();\n//") := by
  have hunknown : IntegrationKind.ofBody hostileKind = .unknown := by decide +kernel
  constructor
  · exact (function_code_is_contained _ _ _).1 ⟨none, hostileRules⟩ rfl
  · exact (function_code_is_contained _ _ _).2.2 hostileKind rfl hunknown

end PromptGraph
