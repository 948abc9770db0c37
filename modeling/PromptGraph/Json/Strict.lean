import PromptGraph.Json.Value

/-!
# `PromptGraph.Json.Strict` — values without non-finite numbers

Numbers that are infinite, or none at all, have no place in a strict data text.

## Contents
- `Json.isStrict`: whether every number of a value is finite.
- `Json.strict`: a value with null in the place of other numbers.
- `Json.height`: the number of levels of a value.
-/

namespace PromptGraph

namespace Json

def isStrictNumber : Number → Bool
  | .int _ => true
  | .float x => x.isFinite

mutual

/-- Whether every number in a value is finite. -/
def isStrict : Json → Bool
  | .num n => isStrictNumber n
  | .arr xs => areStrict xs
  | .obj ms => areStrictMembers ms
  | _ => true

def areStrict : List Json → Bool
  | [] => true
  | x :: rest => isStrict x && areStrict rest

def areStrictMembers : List (String × Json) → Bool
  | [] => true
  | (_, v) :: rest => isStrict v && areStrictMembers rest

end

mutual

/-- A value with null in the place of the numbers that are not finite. -/
def strict : Json → Json
  | .num n => if isStrictNumber n then .num n else .null
  | .arr xs => .arr (strictItems xs)
  | .obj ms => .obj (strictMembers ms)
  | v => v

def strictItems : List Json → List Json
  | [] => []
  | x :: rest => strict x :: strictItems rest

def strictMembers : List (String × Json) → List (String × Json)
  | [] => []
  | (k, v) :: rest => (k, strict v) :: strictMembers rest

end

mutual

/-- The number of levels of a value: one more than its highest item or member has. -/
def height : Json → Nat
  | .arr xs => heightOfItems xs + 1
  | .obj ms => heightOfMembers ms + 1
  | _ => 1

/-- The number of levels of the highest item. -/
def heightOfItems : List Json → Nat
  | [] => 0
  | x :: rest => max (height x) (heightOfItems rest)

/-- The number of levels of the highest member. -/
def heightOfMembers : List (String × Json) → Nat
  | [] => 0
  | (_, v) :: rest => max (height v) (heightOfMembers rest)

end

mutual

/-- Writing null for numbers leaves only finite ones. -/
theorem isStrict_strict : (v : Json) → isStrict (strict v) = true
  | .null => rfl
  | .bool _ => rfl
  | .str _ => rfl
  | .num n => by
    by_cases h : isStrictNumber n = true
    · simp [strict, h, isStrict]
    · simp [strict, h, isStrict]
  | .arr xs => by simp [strict, isStrict, areStrict_strictItems xs]
  | .obj ms => by simp [strict, isStrict, areStrictMembers_strictMembers ms]

theorem areStrict_strictItems : (xs : List Json) → areStrict (strictItems xs) = true
  | [] => rfl
  | x :: rest => by simp [strictItems, areStrict, isStrict_strict x, areStrict_strictItems rest]

theorem areStrictMembers_strictMembers : (ms : List (String × Json)) → areStrictMembers (strictMembers ms) = true
  | [] => rfl
  | (_, v) :: rest => by
    simp [strictMembers, areStrictMembers, isStrict_strict v, areStrictMembers_strictMembers rest]

end

end Json

end PromptGraph
