import PromptGraph.Json.Reader

/-!
# `PromptGraph.Text.Terminal` — texts without the controls of a terminal

A control sequence is an escape character, a bracket, parameters of digits, semicolons and question marks, and a
letter. A stream that is no terminal is written without them.
-/

namespace PromptGraph.Text

def isControlParameter (c : Char) : Bool := c = ';' || c = '?' || Json.isAsciiDigit c

/-- The number of characters of the control sequence that a text begins with. -/
def controlLength? : List Char → Option Nat
  | '\x1b' :: '[' :: rest =>
    let parameters := rest.takeWhile isControlParameter
    if (rest.drop parameters.length).head?.any Char.isAlpha then some (parameters.length + 3) else none
  | _ => none

/-- The characters outside control sequences; `skip` counts the characters of one still to pass. -/
def outsideControls : (skip : Nat) → List Char → List Char
  | _, [] => []
  | skip + 1, _ :: rest => outsideControls skip rest
  | 0, c :: rest =>
    match controlLength? (c :: rest) with
    | some n => outsideControls (n - 1) rest
    | none => c :: outsideControls 0 rest

/-- A text without control sequences. -/
def dropControls (s : String) : String := String.ofList (outsideControls 0 s.toList)

end PromptGraph.Text
