import PromptGraph.Text.Encoding
import PromptGraph.Text.Hex

/-!
# `PromptGraph.Http.Percent` — percent encoding

Each part of an address has its own safe characters, which stand for themselves; the bytes of any other character
are escaped. Escapes that are there already stay.

## Contents
- **Safe characters.** `isPathSafe`, `isQuerySafe`, `isFragmentSafe`, `isUserSafe`, `isHostSafe`.
- **Encoding.** `percentEncode`; `formEncode` for the parameters of a query.
- **Decoding.** `percentDecode`, and `queryParameters`: the parameters of a query.
-/

namespace PromptGraph.Http

/-! ## Safe characters -/

/-- Whether a character prints in ASCII and is none of the given ones. -/
def printsExcept (escaped : String) (c : Char) : Bool :=
  0x21 ≤ c.toNat && c.toNat < 0x7F && !escaped.toList.contains c

def isQuerySafe : Char → Bool := printsExcept "\"#<>"

def isPathSafe : Char → Bool := printsExcept "\"#<>?\x60\x7b\x7d"

def isFragmentSafe : Char → Bool := printsExcept "\"<>\x60"

/-- The safe characters of a user's name and password, with the colon between them. -/
def isUserSafe : Char → Bool := printsExcept "\"#<>?\x60\x7b\x7d/;=@[\\]^|"

def isHostSafe : Char → Bool := printsExcept "#<>/:?@[]^"

/-- The safe characters of form data. -/
def isFormSafe (c : Char) : Bool := c.isAlphanum || c = '-' || c = '.' || c = '_' || c = '~'

/-! ## Encoding -/

/-- A byte as an escape. -/
def escapeByte (b : UInt8) : List Char := '%' :: (Text.hexPadded 2 b.toNat).map Char.toUpper

/-- The escapes of the bytes of a character. -/
def escapeChar (c : Char) : List Char := (Text.utf8Bytes (String.singleton c)).flatMap escapeByte

/-- The escapes of every unsafe character. Escapes that are there already consist of safe characters. -/
def percentEncode (safe : Char → Bool) (cs : List Char) : List Char :=
  cs.flatMap fun c => if safe c then [c] else escapeChar c

/-- A name or a value of form data. -/
def formEncode (s : String) : List Char :=
  s.toList.flatMap fun c => if c = ' ' then ['+'] else if isFormSafe c then [c] else escapeChar c

/-- The query of parameters. -/
def formQuery (parameters : List (String × String)) : List Char :=
  List.intercalate ['&'] (parameters.map fun p => formEncode p.1 ++ '=' :: formEncode p.2)

/-! ## Decoding -/

/-- The bytes of a text whose escapes are resolved; `skip` counts the characters of an escape still to pass. -/
def decodedBytes : (skip : Nat) → List Char → List UInt8
  | _, [] => []
  | skip + 1, _ :: rest => decodedBytes skip rest
  | 0, '%' :: a :: b :: rest =>
    match Text.hexValue? a, Text.hexValue? b with
    | some x, some y => UInt8.ofNat (16 * x + y) :: decodedBytes 2 (a :: b :: rest)
    | _, _ => '%'.toNat.toUInt8 :: decodedBytes 0 (a :: b :: rest)
  | 0, c :: rest => Text.utf8Bytes (String.singleton c) ++ decodedBytes 0 rest

/-- A part of a query as a text. -/
def percentDecode (cs : List Char) : String :=
  Text.ofUtf8Lossy (decodedBytes 0 (cs.map fun c => if c = '+' then ' ' else c))

/-- The part of a text before a character, and the part after it if it occurs. -/
def cutAt (c : Char) (cs : List Char) : List Char × Option (List Char) :=
  match cs.dropWhile (· ≠ c) with
  | [] => (cs, none)
  | _ :: rest => (cs.takeWhile (· ≠ c), some rest)

/-- The parts of a text between the occurrences of a character. -/
def splitOnChar (c : Char) (cs : List Char) : List (List Char) :=
  cs.foldr (fun x parts => if x = c then [] :: parts else match parts with
    | [] => [[x]]
    | p :: rest => (x :: p) :: rest) [[]]

/-- The parameters of a query, decoded. -/
def queryParameters (query : List Char) : List (String × String) :=
  ((splitOnChar '&' query).filter (!·.isEmpty)).map fun part =>
    let (name, value) := cutAt '=' part
    (percentDecode name, percentDecode (value.getD []))

end PromptGraph.Http
