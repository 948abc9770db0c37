import PromptGraph.Number.Decimal
import PromptGraph.Text.Quoted

/-!
# `PromptGraph.Json.Value` — data values

## Contents
- **The type.** `Json`: objects keep the order of their members, numbers the distinction of `1` and `1.0`.
- **Members.** `Members.get?`, `Members.insert`: an object's members as an ordered map.
- **Views.** `asString?`, `asObject?`, `asArray?`, `isTruthy`.
- **Limits.** `Depth`: how deep values may be nested; `TextFault`: why a value has no text.
- **Shown form.** `Json.shown`: the text of a value in messages; `Json.showFault?`: why there is none.
-/

namespace PromptGraph

/-- A data value. -/
inductive Json where
  | null
  | bool (value : Bool)
  | num (value : Number)
  | str (value : String)
  | arr (items : List Json)
  | obj (members : List (String × Json))

instance : Inhabited Json := ⟨.null⟩

/-- The members of an object, in order. -/
abbrev Members := List (String × Json)

namespace Members

/-- The value of the first member of the given name. -/
def get? (name : String) : Members → Option Json
  | [] => none
  | (k, v) :: rest => if k = name then some v else get? name rest

def contains (ms : Members) (name : String) : Bool := (Members.get? name ms).isSome

/-- Replaces the value of a present name in place; a new name is added at the end. -/
def insert (name : String) (value : Json) : Members → Members
  | [] => [(name, value)]
  | (k, v) :: rest => if k = name then (k, value) :: rest else (k, v) :: insert name value rest

/-- The members of a list of pairs: a repeated name keeps its first place and its last value. -/
def ofPairs (ps : List (String × Json)) : Members := ps.foldl (fun ms p => ms.insert p.1 p.2) []

end Members

/-! ## Limits -/

/-- How deep values may be nested. The surroundings of a program set the numbers, and no two places need have one. -/
class Depth where
  /-- The number of lists and objects that are nested in a data text. -/
  read : Nat
  /-- An object in a list of an object is read everywhere. -/
  three_le_read : 3 ≤ read
  /-- The number of levels of a value that a message names. -/
  named : Nat
  /-- The number of levels of a value that is kept as its text. -/
  kept : Nat
  /-- What is neither a list nor an object is kept everywhere. -/
  kept_pos : 0 < kept

/-- The usual depth. -/
instance usualDepth : Depth := ⟨985, by decide, 985, 985, by decide⟩

/-- Why a value has no text. -/
inductive TextFault where
  /-- An integer of more digits than are written. -/
  | longInteger
  /-- A number that is infinite or none, where a text is to have finite numbers only. -/
  | notFinite
  /-- More levels than are put into words. -/
  | tooDeep
  deriving DecidableEq, Repr

/-- The message on an integer that is too long to be written. -/
def longIntegerMessage : String :=
  "Exceeds the limit (" ++ toString integerDigitLimit ++ " digits) for integer string conversion; "
    ++ "use sys.set_int_max_str_digits() to increase the limit"

namespace Json

/-! ## Views -/

def int (n : Int) : Json := .num (.int n)

def float (x : Double) : Json := .num (.float x)

def asString? : Json → Option String
  | .str s => some s
  | _ => none

def asObject? : Json → Option Members
  | .obj ms => some ms
  | _ => none

def asArray? : Json → Option (List Json)
  | .arr xs => some xs
  | _ => none

/-- The member of an object; anything else has none. -/
def get? (name : String) : Json → Option Json
  | .obj ms => Members.get? name ms
  | _ => none

/-- An optional value, `null` when absent. -/
def ofOption {α : Type} (f : α → Json) : Option α → Json
  | none => .null
  | some a => f a

def ofString? : Option String → Json := ofOption .str

/-- Whether a value counts as present: `null`, `false`, zero and what is empty do not. -/
def isTruthy : Json → Bool
  | .null => false
  | .bool b => b
  | .num (.int n) => n ≠ 0
  | .num (.float x) => !(x.same (Double.zero false))
  | .str s => s ≠ ""
  | .arr xs => !xs.isEmpty
  | .obj ms => !ms.isEmpty

/-! ## Shown form -/

mutual

/-- The text of a value in messages, texts being quoted. -/
def shown : Json → String
  | .null => "None"
  | .bool b => if b then "True" else "False"
  | .num n => NumberLayout.value.number n
  | .str s => Text.quoted s
  | .arr xs => "[" ++ shownItems xs ++ "]"
  | .obj ms => "\x7b" ++ shownMembers ms ++ "\x7d"

/-- The texts of items, with commas between them. -/
def shownItems : List Json → String
  | [] => ""
  | [x] => shown x
  | x :: y :: rest => shown x ++ ", " ++ shownItems (y :: rest)

/-- The texts of members, with commas between them. -/
def shownMembers : List (String × Json) → String
  | [] => ""
  | [(k, v)] => Text.quoted k ++ ": " ++ shown v
  | (k, v) :: m :: rest => Text.quoted k ++ ": " ++ shown v ++ ", " ++ shownMembers (m :: rest)

end

/-- The text of a value in messages; a text stands for itself. -/
def display : Json → String
  | .str s => s
  | v => shown v

mutual

/-- The first reason, in the order of its text, for which a value is not shown within some levels. -/
def showFault? : (levels : Nat) → Json → Option TextFault
  | 0, _ => some .tooDeep
  | _ + 1, .num (.int n) => if isLongInteger n then some .longInteger else none
  | levels + 1, .arr xs => showFaultOfItems? levels xs
  | levels + 1, .obj ms => showFaultOfMembers? levels ms
  | _ + 1, _ => none

def showFaultOfItems? (levels : Nat) : List Json → Option TextFault
  | [] => none
  | x :: rest => (showFault? levels x).or (showFaultOfItems? levels rest)

def showFaultOfMembers? (levels : Nat) : List (String × Json) → Option TextFault
  | [] => none
  | (_, v) :: rest => (showFault? levels v).or (showFaultOfMembers? levels rest)

end

/-- The reason for which a value has no text in a message; a text always has one. -/
def displayFault? (levels : Nat) : Json → Option TextFault
  | .str _ => none
  | v => showFault? levels v

end Json

end PromptGraph
