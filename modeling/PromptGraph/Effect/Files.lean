import PromptGraph.Effect.Act
import PromptGraph.Text.Encoding

/-!
# `PromptGraph.Effect.Files` — files in memory

A path leads from the working directory through directories to its last name. Directories above the working
directory exist and are taken for empty; those below it exist when they were made, or when something lies below them.

## Contents
- **Paths.** `plainPath`: a path without empty and dot segments; `parentPath`.
- **Places.** `Place`: the names on the way from the working directory; `Place.parent`, `Place.ofPath`.
- **Files.** `Files`: contents by place; `Files.stateAt`, `Files.put`.
- **Walking.** `Walk`, `Files.walk`: where a path leads; `Files.state`, `Files.text?`, `Files.holds`.
- **Changes.** `Files.makeDirectories`, `Files.write`, `Files.move`.
-/

namespace PromptGraph

/-! ## Paths -/

/-- The segments of a path, without empty ones and single dots. -/
def pathSegments (path : String) : List String := (path.splitOn "/").filter fun s => s ≠ "" ∧ s ≠ "."

/-- The slashes that a plain path begins with: one, or two where a path begins with exactly two. -/
def rootOf (path : String) : String :=
  match (path.toList.takeWhile (· == '/')).length with
  | 0 => ""
  | 2 => "//"
  | _ => "/"

/-- A path without empty segments and single dots. -/
def plainPath (path : String) : String :=
  let plain := rootOf path ++ String.intercalate "/" (pathSegments path)
  if plain = "" then "." else plain

/-- The directory of a path. -/
def parentPath (path : String) : String := String.intercalate "/" ((path.splitOn "/").dropLast)

/-- The last segment of a path, which is empty after a slash. -/
def lastSegment (path : String) : String := ((path.splitOn "/").getLast?).getD ""

/-- Whether a path can only lead to a directory: it ends in a slash or in dots. -/
def namesDirectory (path : String) : Bool := ["", ".", ".."].contains (lastSegment path)

/-- Whether the last segment of a path that is not empty is one of dots, or there is none. -/
def endsInDots (path : String) : Bool :=
  match ((path.splitOn "/").filter (· ≠ "")).getLast? with
  | none => true
  | some s => s = "." || s = ".."

/-- The number of bytes of the longest name, and of the longest path. -/
def nameLimit : Nat := 255

def pathLimit : Nat := 4095

def isLongName (name : String) : Bool := nameLimit < name.utf8ByteSize

/-! ## Places -/

/-- The names on the way from the working directory to a place; two dots lead to the directory above, and a slash at
    the beginning to the root. -/
abbrev Place := List String

namespace Place

def root : Place := ["/"]

/-- Whether a place is a directory at or above the working directory, or the root. -/
def isAbove (p : Place) : Bool := p == root || p.all (· == "..")

/-- The directory that a place is in. -/
def parent (p : Place) : Place :=
  if p == root then root else if p.all (· == "..") then p ++ [".."] else p.dropLast

/-- The place that a segment leads to. -/
def step (p : Place) (segment : String) : Place := if segment = ".." then p.parent else p ++ [segment]

/-- Where a path begins. -/
def start (path : String) : Place := if path.startsWith "/" then root else []

/-- The place of a path, all of whose directories are taken to exist. -/
def ofPath (path : String) : Place := (pathSegments path).foldl step (start path)

end Place

/-! ## Files -/

/-- The state of each place that has one. -/
abbrev Files := List (Place × FileState)

namespace Files

/-- The state that was set for a place. -/
def get? (place : Place) : Files → Option FileState
  | [] => none
  | (p, s) :: rest => if p = place then some s else get? place rest

/-- Sets the state of a place. -/
def set (place : Place) (state : FileState) : Files → Files
  | [] => [(place, state)]
  | (p, s) :: rest => if p = place then (p, state) :: rest else (p, s) :: set place state rest

/-- What stands at a place. -/
def stateAt (fs : Files) (place : Place) : FileState :=
  match get? place fs with
  | some (.file bytes) => .file bytes
  | some .directory => .directory
  | _ =>
    if place.isAbove || fs.any fun f => place.isPrefixOf f.1 && f.2 != .absent then .directory else .absent

/-- Sets what a path leads to. -/
def put (fs : Files) (path : String) (state : FileState) : Files := fs.set (Place.ofPath path) state

/-! ## Walking -/

/-- Where a path leads. -/
inductive Walk where
  | place (place : Place)
  | absent
  /-- A file stands where a directory would have to be. -/
  | blocked
  | tooLong

/-- Where segments lead from a directory. -/
def walk (fs : Files) : Place → List String → Walk
  | here, [] => .place here
  | here, segment :: rest =>
    let next := here.step segment
    if isLongName segment then .tooLong
    else if rest.isEmpty then .place next
    else match fs.stateAt next with
      | .directory => walk fs next rest
      | .file _ => .blocked
      | _ => .absent

/-- Where a path leads. -/
def walkPath (fs : Files) (path : String) : Walk :=
  if pathLimit < path.utf8ByteSize then .tooLong
  else if path = "" then .absent
  else walk fs (Place.start path) (pathSegments path)

/-- What stands under a path. -/
def state (fs : Files) (path : String) : FileState :=
  match fs.walkPath path with
  | .absent => .absent
  | .blocked => .blocked
  | .tooLong => .tooLong
  | .place place =>
    match fs.stateAt place with
    | .file bytes => if namesDirectory path then .blocked else .file bytes
    | s => s

/-- The text of a file. -/
def text? (fs : Files) (path : String) : Option String :=
  match fs.state path with
  | .file bytes => Text.ofUtf8? bytes
  | _ => none

/-- Whether a path leads to a file or a directory. -/
def holds (fs : Files) (path : String) : Bool :=
  match fs.state path with
  | .file _ => true
  | .directory => true
  | _ => false

/-! ## Changes -/

/-- Makes the directories that segments lead through from a directory; answers the name of a system error. -/
def makeDirectories : Files → Place → List String → Option String × Files
  | fs, _, [] => (none, fs)
  | fs, here, segment :: rest =>
    let next := here.step segment
    if isLongName segment then (some "OSError", fs)
    else match fs.stateAt next with
      | .directory => makeDirectories fs next rest
      | .file _ => (some (if rest.isEmpty then "FileExistsError" else "NotADirectoryError"), fs)
      | _ => makeDirectories (fs.set next .directory) next rest

/-- Writes a text to a file whose directory exists. -/
def writeFile (fs : Files) (path text : String) : Option String × Files :=
  match fs.walkPath path with
  | .tooLong => (some "OSError", fs)
  | .blocked => (some "NotADirectoryError", fs)
  | .absent => (some "FileNotFoundError", fs)
  | .place place =>
    match fs.stateAt place with
    | .directory => (some "IsADirectoryError", fs)
    | _ => (none, fs.set place (.file (Text.utf8Bytes text)))

/-- Writes a text and makes the directories above it. -/
def write (fs : Files) (path text : String) : Option String × Files :=
  match fs.makeDirectories (Place.start path) (pathSegments (parentPath path)) with
  | (some e, fs) => (some e, fs)
  | (none, fs) => fs.writeFile path text

/-- Puts a file in the place of another. No file takes the place of a path that ends in dots, or in a slash. -/
def move (fs : Files) (source target : String) : Option String × Files :=
  if endsInDots target then (some "OSError", fs)
  else if namesDirectory target then (some "NotADirectoryError", fs)
  else match fs.state target with
    | .directory => (some "IsADirectoryError", fs)
    | .blocked => (some "NotADirectoryError", fs)
    | .tooLong => (some "OSError", fs)
    | _ => (none, (fs.put target (fs.state source)).put source .absent)

end Files

end PromptGraph
