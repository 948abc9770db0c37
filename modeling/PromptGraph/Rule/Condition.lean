import PromptGraph.Text.Replace

/-!
# `PromptGraph.Rule.Condition` — authored conditions as expressions

A condition is a short phrase such as `sentiment is "negative"`. It becomes an expression over `input` by an
ordered list of replacements, each applied to every occurrence in the result of those before it. Words are not
recognised: `this` becomes `th===`.

## Contents
- `Rewrites.default`: the vocabulary.
- `translateCondition`.
-/

namespace PromptGraph

/-- Replacements in the order of their application: what is replaced, and by what. -/
abbrev Rewrites := List (String × String)

namespace Rewrites

/-- The vocabulary of conditions. -/
def default : Rewrites :=
  [("sentiment", "input.sentiment"), ("urgency", "input.urgency"), ("contains", "input.content.includes"),
    ("is", "==="), ("greater than", ">"), ("less than", "<")]

end Rewrites

/-- Applies each replacement in turn. -/
def translateCondition (rewrites : Rewrites) (condition : String) : String :=
  rewrites.foldl (fun expression r => Text.replace r.1 r.2 expression) condition

end PromptGraph
