import PromptGraph.Schema.Issue
import PromptGraph.Schema.Numeral
import PromptGraph.Time.Iso

/-!
# `PromptGraph.Schema.Field` — lenient reading of fields

Values are accepted in every form that names them without loss: numerals for numbers, whole floats for integers,
zero and one for truth values, written or counted time for timestamps.

## Contents
- **Scalars.** `text`, `integer`, `float`, `truth`, `timestamp`, and bounds.
- **Containers.** `record`, `mapping`, `list`, `entries`, `pair`, `optional`.
- **Fields.** `required` and `withDefault`; a default is not itself read.
-/

namespace PromptGraph.Schema

/-! ## Scalars -/

/-- A text, and nothing that would have to be turned into one. -/
def text : Json → Checked String
  | .str s => .ok s
  | _ => .fail .stringType

/-- A float that is a whole number. -/
def wholeFloat (x : Double) : Checked Int :=
  match x.trunc with
  | none => .fail .finiteNumber
  | some n =>
    if !x.isWhole then .fail .intFromFloat
    else if n.natAbs < 0x8000000000000000 then .ok n
    else .fail .intParsingSize

def integer : Json → Checked Int
  | .num (.int n) => .ok n
  | .num (.float x) => wholeFloat x
  | .bool b => .ok (if b then 1 else 0)
  | .str s =>
    match plainInteger? s with
    | none => .fail .intParsing
    | some cs =>
      if integerDigitLimit < cs.length then .fail .intParsingSize
      else match integerOfPlain? cs with
        | none => .fail .intParsing
        | some n => .ok n
  | _ => .fail .intType

def float : Json → Checked Double
  | .num n =>
    match n.toDouble? with
    | some x => .ok x
    | none => .fail .floatType
  | .bool b => .ok (Double.ofNat (if b then 1 else 0))
  | .str s =>
    match floatNumeral? s with
    | some x => .ok x
    | none => .fail .floatParsing
  | _ => .fail .floatType

def truth : Json → Checked Bool
  | .bool b => .ok b
  | .num (.int n) =>
    if n = 0 then .ok false else if n = 1 then .ok true
    else if -0x8000000000000000 ≤ n ∧ n < 0x8000000000000000 then .fail .boolParsing else .fail .boolType
  | .num (.float x) =>
    match wholeFloat x with
    | .ok n => if n = 0 then .ok false else if n = 1 then .ok true else .fail .boolParsing
    | _ => .fail .boolType
  | .str s =>
    match boolWord? s with
    | some b => .ok b
    | none => .fail .boolParsing
  | _ => .fail .boolType

/-- A timestamp of the calendar; counted time may also fall into the year before its first. -/
def inCalendar (t : Timestamp) : Checked Timestamp := if t.isInCalendar then .ok t else .fail .datetimeParsing

def timestamp : Json → Checked Timestamp
  | .str s =>
    match Timestamp.ofText? s with
    | some t => inCalendar t
    | none => .fail .datetimeFromDateParsing
  | .num (.int n) =>
    match Timestamp.ofCount? n with
    | some t => inCalendar t
    | none => .fail (if (Double.ofInt? n).isSome then .datetimeParsing else .datetimeType)
  | .num (.float x) =>
    match Timestamp.ofDouble? x with
    | some t => inCalendar t
    | none => .fail .datetimeParsing
  | _ => .fail .datetimeType

/-- A value left as it is. -/
def any (v : Json) : Checked Json := .ok v

/-- An identifier given as a text or as an integer, which stands for its digits. -/
def identifier : Json → Checked String
  | .num (.int n) =>
    if isLongInteger n then .fail (.rule longIntegerMessage) else .ok (NumberLayout.integer n)
  | v => text v

/-! ## Containers -/

/-- The members of a value that is to become a record. -/
def record : Json → Checked Members
  | .obj ms => .ok ms
  | _ => .fail .modelType

/-- The members of a free mapping. -/
def mapping : Json → Checked Members
  | .obj ms => .ok ms
  | _ => .fail .dictType

/-- Every item, from the given index on. -/
def itemsFrom {α : Type} (read : Json → Checked α) : Nat → List Json → Checked (List α)
  | _, [] => .ok []
  | i, x :: rest => List.cons <$> (read x).under (.item i) <*> itemsFrom read (i + 1) rest

def list {α : Type} (read : Json → Checked α) : Json → Checked (List α)
  | .arr xs => itemsFrom read 0 xs
  | _ => .fail .listType

/-- The value of every member. -/
def memberValues {α : Type} (read : Json → Checked α) : Members → Checked (List (String × α))
  | [] => .ok []
  | (k, v) :: rest =>
    (fun a more => (k, a) :: more) <$> (read v).under (.field k) <*> memberValues read rest

def entries {α : Type} (read : Json → Checked α) : Json → Checked (List (String × α))
  | .obj ms => memberValues read ms
  | _ => .fail .dictType

/-- Two values in a list of length two. -/
def pair {α : Type} (read : Json → Checked α) : Json → Checked (α × α)
  | .arr [] => .bad [⟨[.item 0], .missing⟩, ⟨[.item 1], .missing⟩]
  | .arr [x] => Prod.mk <$> (read x).under (.item 0) <*> (Checked.fail .missing).under (.item 1)
  | .arr [x, y] => Prod.mk <$> (read x).under (.item 0) <*> (read y).under (.item 1)
  | .arr _ => .fail .tooLong
  | _ => .fail .tupleType

/-- A value that may be null. -/
def optional {α : Type} (read : Json → Checked α) : Json → Checked (Option α)
  | .null => .ok none
  | v => some <$> read v

/-! ## Fields -/

/-- The field of a record that must be present. -/
def required {α : Type} (ms : Members) (name : String) (read : Json → Checked α) : Checked α :=
  match Members.get? name ms with
  | some v => (read v).under (.field name)
  | none => (Checked.fail .missing).under (.field name)

/-- The field of a record that may be absent. -/
def withDefault {α : Type} (ms : Members) (name : String) (read : Json → Checked α) (default : α) : Checked α :=
  match Members.get? name ms with
  | some v => (read v).under (.field name)
  | none => .ok default

/-- The field of a record that may be absent or null. -/
def nullable {α : Type} (ms : Members) (name : String) (read : Json → Checked α) : Checked (Option α) :=
  withDefault ms name (optional read) none

/-! ## Bounds -/

/-- A number from `low` to `high`; what is not a number exceeds the upper bound. -/
def within (low high : Double) (x : Double) : Checked Double :=
  if !x.le high then .fail .lessThanEqual
  else if !low.le x then .fail .greaterThanEqual
  else .ok x

def positive (n : Int) : Checked Int := if 0 < n then .ok n else .fail .greaterThan

end PromptGraph.Schema
