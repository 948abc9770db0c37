/-!
# `PromptGraph.Text.Replace` — occurrences and replacement

## Contents
- `dropStart?`: the rest after a given beginning.
- `isInfix`: whether a text occurs in another.
- `replaceAll`: every occurrence, found from the left without overlap, is replaced; the empty text occurs before
  every character and at the end.
-/

namespace PromptGraph.Text

/-- The rest of `text` after `start`, if it begins so. -/
def dropStart? : (start text : List Char) → Option (List Char)
  | [], text => some text
  | _ :: _, [] => none
  | s :: start, c :: text => if s = c then dropStart? start text else none

/-- Whether `needle` occurs in `text`. -/
def isInfix (needle : List Char) : List Char → Bool
  | [] => needle.isEmpty
  | c :: text => (dropStart? needle (c :: text)).isSome || isInfix needle text

/-- Replaces a non-empty needle; `skip` counts the characters still covered by the last occurrence. -/
def replaceFrom (needle replacement : List Char) : Nat → List Char → List Char
  | _, [] => []
  | skip + 1, _ :: text => replaceFrom needle replacement skip text
  | 0, c :: text =>
    if (dropStart? needle (c :: text)).isSome then
      replacement ++ replaceFrom needle replacement (needle.length - 1) text
    else c :: replaceFrom needle replacement 0 text

/-- Replaces every occurrence of `needle`. -/
def replaceAll (needle replacement text : List Char) : List Char :=
  if needle.isEmpty then replacement ++ text.flatMap fun c => c :: replacement
  else replaceFrom needle replacement 0 text

/-- `replaceAll` on strings. -/
def replace (needle replacement text : String) : String :=
  String.ofList (replaceAll needle.toList replacement.toList text.toList)

/-- Whether `needle` occurs in the string `text`. -/
def occurs (needle text : String) : Bool := isInfix needle.toList text.toList

end PromptGraph.Text
