import PromptGraph.Json.Writer
import PromptGraph.Text.Replace

/-!
# `PromptGraph.Rule.Validation` — authored validation rules as expressions

The first keyword found decides: `length` asks for content, `contains` for a quoted term in it, `not empty` for
content other than blanks; a rule without a keyword always passes.

## Contents
- `literal`: a text as a string literal of the generated code.
- `containsTerm?`: the quoted term after `contains`.
- `translateRule`.
-/

namespace PromptGraph

/-- A string literal of the generated code. -/
def literal (s : String) : String := String.ofList (Json.escape false s.toList)

/-- The term at the beginning of a text: characters other than a double quote, at least one, up to a double quote. -/
def quotedTerm? (cs : List Char) : Option (List Char) :=
  let term := cs.takeWhile (· ≠ '"')
  if term.isEmpty || (cs.drop term.length).isEmpty then none else some term

/-- The words before a term. -/
def containsWords : List Char := "contains \"".toList

/-- The term at the leftmost place where `contains` and a quoted term stand. -/
def containsTerm? : List Char → Option (List Char)
  | [] => none
  | c :: rest =>
    match (Text.dropStart? containsWords (c :: rest)).bind quotedTerm? with
    | some term => some term
    | none => containsTerm? rest

/-- The expression of a rule. -/
def translateRule (rule : String) : String :=
  if Text.occurs "length" rule then "input.content && input.content.length > 0"
  else if Text.occurs "contains" rule then
    "input.content && input.content.includes("
      ++ literal (String.ofList ((containsTerm? rule.toList).getD [])) ++ ")"
  else if Text.occurs "not empty" rule then "input.content && input.content.trim().length > 0"
  else "true"

end PromptGraph
