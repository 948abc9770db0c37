import PromptGraph.Chain.Graph
import PromptGraph.Rule.Condition
import PromptGraph.Rule.Validation
import PromptGraph.Text.Lines

/-!
# `PromptGraph.Compile.Script` — generated function code

Routers, validators and integrations without a node type of their own become function nodes. Their code is given
as lines; authored text stands in comments of one line and in string literals only.

## Contents
- `routerLines`: each condition in turn returns its index, and without a match the default route is taken.
- `validatorLines`: every rule is evaluated, a failing evaluation being recorded as a failed rule.
- `passthroughLines`: the items are passed on.
-/

namespace PromptGraph

/-- Lines as code. -/
def joinLines (lines : List String) : String := String.intercalate "\n" lines

/-- The lines of a router's condition. -/
def conditionLines (rewrites : Rewrites) (index : Nat) (condition : String) : List String :=
  ["// Condition " ++ toString (index + 1) ++ ": " ++ Text.oneLine condition,
    "if (" ++ translateCondition rewrites condition ++ ") \x7b",
    "  return [\x7b json: \x7b ...input, routePath: '" ++ toString index ++ "' \x7d \x7d];",
    "\x7d",
    ""]

/-- The lines of all conditions, counted from an index. -/
def conditionsLines (rewrites : Rewrites) : Nat → List String → List String
  | _, [] => []
  | index, c :: rest => conditionLines rewrites index c ++ conditionsLines rewrites (index + 1) rest

/-- The code of a router. -/
def routerLines (rewrites : Rewrites) (conditions : List String) : List String :=
  ["// Router Logic", "const input = items[0].json;", ""] ++ conditionsLines rewrites 0 conditions
    ++ ["// Default path", "return [\x7b json: \x7b ...input, routePath: 'default' \x7d \x7d];"]

/-- The lines of a validator's rule. -/
def ruleLines (index : Nat) (rule : String) : List String :=
  ["// Rule " ++ toString (index + 1) ++ ": " ++ Text.oneLine rule,
    "try \x7b",
    "  const result = " ++ translateRule rule ++ ";",
    "  validationResults.push(\x7b rule: " ++ literal rule ++ ", passed: Boolean(result) \x7d);",
    "\x7d catch (error) \x7b",
    "  validationResults.push(\x7b rule: " ++ literal rule ++ ", passed: false, error: error.message \x7d);",
    "\x7d",
    ""]

/-- The lines of all rules, counted from an index. -/
def rulesLines : Nat → List String → List String
  | _, [] => []
  | index, r :: rest => ruleLines index r ++ rulesLines (index + 1) rest

/-- The lines before the rules. -/
def validatorHead : List String :=
  ["// Validation Logic", "const input = items[0].json;", "const validationResults = [];", ""]

/-- The lines after the rules. -/
def validatorTail : List String :=
  ["const allPassed = validationResults.every(r => r.passed);",
    "",
    "return [\x7b",
    "  json: \x7b",
    "    ...input,",
    "    validation: \x7b",
    "      passed: allPassed,",
    "      results: validationResults",
    "    \x7d",
    "  \x7d",
    "\x7d];"]

/-- The code of a validator. -/
def validatorLines (rules : List String) : List String := validatorHead ++ rulesLines 0 rules ++ validatorTail

/-- The code of an integration of unknown kind. -/
def passthroughLines (kind : String) : List String :=
  ["// Generic Integration", "console.log('Integration node:', " ++ literal kind ++ ");", "return items;"]

end PromptGraph
