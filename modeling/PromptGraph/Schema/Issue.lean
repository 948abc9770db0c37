import PromptGraph.Json.Value

/-!
# `PromptGraph.Schema.Issue` — what is wrong with a value, and where

## Contents
- **Issues.** `Issue`: a path into the value and the kind of the fault; `IssueKind.code` names the kind.
- **Checked values.** `Checked`: a value, or all issues found, in order. Its `Applicative` instance collects the
  issues of both sides, so that a record reports every faulty field. A check that breaks off leaves no issues.
- **Faults.** `SchemaFault`: the issues of a value that was to become the named record.
-/

namespace PromptGraph

/-- One step of a path into a value. -/
inductive PathStep where
  | field (name : String)
  | item (index : Nat)
  deriving DecidableEq, Repr

/-- The kinds of faults. -/
inductive IssueKind where
  | missing
  | modelType
  | stringType
  | listType
  | dictType
  | tupleType
  | tooLong
  | intType
  | intParsing
  | intParsingSize
  | intFromFloat
  | finiteNumber
  | floatType
  | floatParsing
  | boolType
  | boolParsing
  | datetimeType
  | datetimeParsing
  | datetimeFromDateParsing
  | enumeration
  | greaterThan
  | greaterThanEqual
  | lessThanEqual
  /-- A fault of the record as a whole, in words. -/
  | rule (message : String)
  deriving DecidableEq, Repr

namespace IssueKind

/-- The name of a kind. -/
def code : IssueKind → String
  | .missing => "missing"
  | .modelType => "model_type"
  | .stringType => "string_type"
  | .listType => "list_type"
  | .dictType => "dict_type"
  | .tupleType => "tuple_type"
  | .tooLong => "too_long"
  | .intType => "int_type"
  | .intParsing => "int_parsing"
  | .intParsingSize => "int_parsing_size"
  | .intFromFloat => "int_from_float"
  | .finiteNumber => "finite_number"
  | .floatType => "float_type"
  | .floatParsing => "float_parsing"
  | .boolType => "bool_type"
  | .boolParsing => "bool_parsing"
  | .datetimeType => "datetime_type"
  | .datetimeParsing => "datetime_parsing"
  | .datetimeFromDateParsing => "datetime_from_date_parsing"
  | .enumeration => "enum"
  | .greaterThan => "greater_than"
  | .greaterThanEqual => "greater_than_equal"
  | .lessThanEqual => "less_than_equal"
  | .rule _ => "value_error"

/-- The words of a fault of a whole record. -/
def words? : IssueKind → Option String
  | .rule message => some ("Value error, " ++ message)
  | _ => none

end IssueKind

/-- A fault and its place. -/
structure Issue where
  path : List PathStep
  kind : IssueKind
  deriving DecidableEq, Repr

/-! ## Checked values -/

/-- A value, or the issues that prevent it. -/
inductive Checked (α : Type) where
  | ok (value : α)
  | bad (issues : List Issue)
  /-- The check broke off: a value is nested too deeply to become a text. -/
  | broken

namespace Checked

/-- A single issue at the value itself. -/
def fail {α : Type} (kind : IssueKind) : Checked α := .bad [⟨[], kind⟩]

def map {α β : Type} (f : α → β) : Checked α → Checked β
  | .ok a => .ok (f a)
  | .bad is => .bad is
  | .broken => .broken

/-- Applies a checked function to a checked value and collects the issues of both. -/
def apply {α β : Type} : Checked (α → β) → Checked α → Checked β
  | .broken, _ => .broken
  | _, .broken => .broken
  | .ok f, .ok a => .ok (f a)
  | .ok _, .bad js => .bad js
  | .bad is, .ok _ => .bad is
  | .bad is, .bad js => .bad (is ++ js)

instance : Functor Checked := ⟨map, fun a => map fun _ => a⟩

instance : Applicative Checked where
  pure := .ok
  seq f x := apply f (x ())

/-- A further check of a value without issues. -/
def andThen {α β : Type} : Checked α → (α → Checked β) → Checked β
  | .ok a, f => f a
  | .bad is, _ => .bad is
  | .broken, _ => .broken

/-- The issues seen from a containing value. -/
def under {α : Type} (step : PathStep) : Checked α → Checked α
  | .ok a => .ok a
  | .bad is => .bad (is.map fun i => ⟨step :: i.path, i.kind⟩)
  | .broken => .broken

end Checked

/-- The issues of a value that was to become a record. -/
structure SchemaFault where
  /-- The name of the record. -/
  title : String
  issues : List Issue
  deriving DecidableEq, Repr

end PromptGraph
