import PromptGraph.Http.Exchange
import PromptGraph.Http.Host
import PromptGraph.Schema.Numeral

/-!
# `PromptGraph.Http.Address` — what a request looks like on the wire

Ids stand in addresses as they are given. A question mark in one therefore begins the query, a number sign begins a
fragment, which is not sent, and characters outside the safe ones are percent-encoded. The text of a request is put
after the path of the base address, or after its query if it has one.

## Contents
- **Base addresses.** `Base`, `Base.ofText?`, `Base.host`.
- **Addresses.** `Address`, `Base.address?`: the address of a request under a base.
-/

namespace PromptGraph.Http

/-! ## Base addresses -/

/-- A base address, in encoded parts. -/
structure Base where
  /-- In lower case; empty where none is given. -/
  scheme : List Char
  user : List Char
  host : List Char
  port : Option Int
  /-- Ends in a slash. -/
  path : List Char
  /-- A query ends in a slash too. -/
  query : Option (List Char)
  fragment : List Char
  deriving Inhabited

namespace Base

/-- Whether a character may stand in a scheme after its first one. -/
def isSchemeChar (c : Char) : Bool := c.isAlphanum || c = '+' || c = '.' || c = '-'

/-- The scheme before the first colon, and the rest; a text may also begin with that colon. -/
def takeScheme (cs : List Char) : List Char × List Char :=
  match cs.takeWhile isSchemeChar, cs.dropWhile isSchemeChar with
  | [], ':' :: rest => ([], rest)
  | c :: more, ':' :: rest => if c.isAlpha then (c :: more, rest) else ([], cs)
  | _, _ => ([], cs)

/-- The authority between two slashes and the path, and the rest. -/
def takeAuthority : List Char → List Char × List Char
  | '/' :: '/' :: rest =>
    let isEnd := fun c => c = '/' || c = '?' || c = '#'
    (rest.takeWhile (!isEnd ·), rest.dropWhile (!isEnd ·))
  | cs => ([], cs)

/-- The user before the last at sign, and the rest. -/
def takeUser (authority : List Char) : List Char × List Char :=
  match cutAt '@' authority.reverse with
  | (host, some user) => (user.reverse, host.reverse)
  | (_, none) => ([], authority)

/-- The host, in brackets or up to a colon, and the text of the port. -/
def takeHost (cs : List Char) : List Char × List Char :=
  let upToColon := (cs.takeWhile (· ≠ ':'), (cs.dropWhile (· ≠ ':')).drop 1)
  match cs with
  | '[' :: _ =>
    match cutAt ']' cs.reverse with
    | (port, some inside) =>
      let port := port.reverse
      ((']' :: inside).reverse, if port.head? == some ':' then port.drop 1 else port)
    | (_, none) => upToColon
  | _ => upToColon

/-- The port that a scheme has where none is given. -/
def ownPort? (scheme : String) : Option Int :=
  match scheme with
  | "http" | "ws" => some 80
  | "https" | "wss" => some 443
  | "ftp" => some 21
  | _ => none

/-- The port of a text that is empty or spells an integer; a scheme's own port is left out. -/
def portOf? (scheme text : List Char) : Option (Option Int) :=
  if text.isEmpty then some none
  else (Schema.spelledInteger? (String.ofList text)).map fun n =>
    if ownPort? (String.ofList scheme) = some n then none else some n

/-- The slash is added at the end of a path or a query that does not end in one. -/
def closed (cs : List Char) : List Char := if cs.getLast? == some '/' then cs else cs ++ ['/']

/-- Whether a base names a server. -/
def hasAuthority (b : Base) : Bool := !b.user.isEmpty || !b.host.isEmpty || b.port.isSome

/-- Whether a path may follow what stands before it. -/
def pathFits (b : Base) (path : List Char) : Bool :=
  if b.hasAuthority then path.isEmpty || path.head? == some '/'
  else !b.scheme.isEmpty || !(path.head? == some ':' || ['/', '/'].isPrefixOf path)

/-- One segment of a path after those before it, in reverse order. -/
def stepSegment (segments : List (List Char)) (segment : List Char) : List (List Char) :=
  if segment = ['.'] then segments
  else if segment = ['.', '.'] then (match segments with | [] => [] | [[]] => [[]] | _ :: rest => rest)
  else segment :: segments

/-- A path without dot segments. -/
def dropDots (path : List Char) : List Char :=
  let segments := splitOnChar '/' path
  if segments.contains ['.'] || segments.contains ['.', '.'] then
    List.intercalate ['/'] (segments.foldl stepSegment []).reverse
  else path

/-- The encoded path; dot segments have a meaning only after a scheme or a server. -/
def encodePath (b : Base) (path : List Char) : List Char :=
  percentEncode isPathSafe (if !b.scheme.isEmpty || b.hasAuthority then dropDots path else path)

/-- The base address of a text. -/
def ofText? (text : String) : Option Base := do
  let cs := text.toList
  if !isAddressText cs then none
  else
    let (scheme, rest) := takeScheme cs
    let scheme := scheme.map Char.toLower
    let (authority, rest) := takeAuthority rest
    let (main, fragment) := cutAt '#' rest
    let (path, query) := cutAt '?' main
    let (user, server) := takeUser authority
    let (host, portText) := takeHost server
    let host ← hostText? host
    let port ← portOf? scheme portText
    let bare : Base :=
      ⟨scheme, percentEncode isUserSafe user, host, port, [], none, percentEncode isFragmentSafe (fragment.getD [])⟩
    if !bare.pathFits path then none
    else
      let encoded := bare.encodePath path
      let start := if encoded.isEmpty then ['/'] else encoded
      match query with
      | none => some { bare with path := closed start }
      | some q => some { bare with path := start, query := some (closed (percentEncode isQuerySafe q)) }

/-- The host with its port, if the base names a host. -/
def hostLine? (b : Base) : Option String :=
  if b.host.isEmpty then none
  else some (String.ofList b.host ++ match b.port with
    | none => ""
    | some n => ":" ++ NumberLayout.integer n)

end Base

/-! ## Addresses -/

/-- What a request looks like on the wire. -/
structure Address where
  path : String
  query : List (String × String)
  /-- The whole address. -/
  text : String
  deriving DecidableEq

namespace Address

/-- Whether an address names what it is an address of: a colon stands before every slash, and something before it. -/
def isNamed (a : Address) : Bool :=
  let start := a.text.toList.takeWhile fun c => c ≠ '/' && c ≠ ':'
  !start.isEmpty && (a.text.toList.drop start.length).head? == some ':'

end Address

namespace Base

/-- What stands before the path in an address. -/
def opening (b : Base) : List Char :=
  let authority := (if b.user.isEmpty then [] else b.user ++ ['@']) ++ ((b.hostLine?).getD "").toList
  (if b.scheme.isEmpty then [] else b.scheme ++ [':']) ++ (if authority.isEmpty then [] else '/' :: '/' :: authority)

/-- The path and the query of a request's own text, encoded, without slashes at the beginning. -/
def tailOf (r : Request) : List Char :=
  let (main, _) := cutAt '#' r.endpoint.fullPath.toList
  let (path, query) := cutAt '?' main
  let asked := match query with
    | none => []
    | some q => '?' :: percentEncode isQuerySafe q
  (percentEncode isPathSafe path ++ asked).dropWhile (· == '/')

/-- The encoded path and query of a request under a base, where the request has no parameters of its own. -/
def pathAndQuery (b : Base) (r : Request) : List Char × Option (List Char) :=
  match b.query with
  | none => cutAt '?' (b.path ++ tailOf r)
  | some q => (b.path, some (q ++ tailOf r))

/-- The address of a request under a base; a text that is too long or has control characters is none. -/
def address? (b : Base) (r : Request) : Option Address :=
  let (path, own) := b.pathAndQuery r
  let query := match r.parameters with
    | none => own
    | some ps => some (formQuery ps)
  let isShort := fun (cs : List Char) => cs.length ≤ addressLimit
  if !r.isAddressable || !isShort path || !isShort (own.getD []) || !isShort (query.getD [])
  then none
  else
    let path := b.encodePath path
    let sent := match r.parameters with
      | some ps => ps
      | none => queryParameters (own.getD [])
    let marked (mark : Char) (cs : List Char) : List Char := mark :: cs
    some
      { path := String.ofList (if path.isEmpty then ['/'] else path)
        query := sent
        text := String.ofList (b.opening ++ path ++ ((query.map (marked '?')).getD [])
          ++ (if b.fragment.isEmpty then [] else marked '#' b.fragment)) }

end Base

end PromptGraph.Http
