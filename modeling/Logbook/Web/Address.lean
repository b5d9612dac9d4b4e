import Logbook.Fault
import Logbook.Text.Integer
import Logbook.Web.Host

/-!
# Web addresses

An address has a scheme, an authority (who asks, the host and the port), a path, a query and a
fragment. It is absolute if it has both a scheme and a host. `WebAddress.ofText` takes a text apart
and brings its parts into the one form in which they are written: the scheme and the host in lower
case, no port that the scheme implies, a path without steps to where it is or back, and escapes for
what may not stand in a part.
-/

namespace Logbook

/-- An address. The parts are as they are written; a host of version 6 is without its brackets. -/
structure WebAddress where
  scheme : List Char := []
  user : List Char := []
  host : List Char := []
  port : Option Int := none
  path : List Char := []
  query : Option (List Char) := none
  fragment : Option (List Char) := none
  deriving DecidableEq, Repr

namespace Web

/-- The largest length of an address. -/
def maxLength : Nat := 65536

/-- Is a character one of the controls of ASCII? -/
def isControl (c : Char) : Bool :=
  c.val < 32 || c.val == 127

/-- May a character of ASCII stand in a part of an address from which some are shut out? -/
def keeps (shutOut : String) (c : Char) : Bool :=
  32 ≤ c.val && c.val < 127 && c ∉ shutOut.toList

/-- May a character stand in a path? -/
def inPath (c : Char) : Bool := keeps " \"#<>?`\x7b\x7d" c

/-- May a character stand in a query? -/
def inQuery (c : Char) : Bool := keeps " \"#<>" c

/-- May a character stand in a fragment? -/
def inFragment (c : Char) : Bool := keeps " \"<>`" c

/-- May a character stand in the name of who asks? -/
def inUser (c : Char) : Bool := keeps " \"#<>?`\x7b\x7d/;=@[\\]^|" c

/-- The ports that schemes imply. -/
def impliedPorts : List (String × Int) :=
  [("ftp", 21), ("http", 80), ("https", 443), ("ws", 80), ("wss", 443)]

/-- A text up to a character, and what stands behind that character, if it is there. -/
def splitAtFirst (c : Char) (s : List Char) : List Char × Option (List Char) :=
  match s.span (· != c) with
  | (a, _ :: b) => (a, some b)
  | (a, []) => (a, none)

/-- A text cut at the last of a character; all of it is behind where there is none. -/
def splitAtLast (c : Char) (s : List Char) : List Char × List Char :=
  match splitAtFirst c s.reverse with
  | (b, some a) => (a.reverse, b.reverse)
  | (b, none) => ([], b.reverse)

/-- The scheme of a text, which may be empty, and what stands behind its colon. -/
def splitScheme (s : List Char) : List Char × List Char :=
  let isScheme (c : Char) := c.isAlphanum || c ∈ ['+', '.', '-']
  let scheme := if s.head?.any Char.isAlpha then s.takeWhile isScheme else []
  match s.drop scheme.length with
  | ':' :: r => (scheme, r)
  | _ => ([], s)

/-- The authority of a text, if it has one, and what stands behind it. -/
def splitAuthority : List Char → List Char × List Char
  | '/' :: '/' :: r => r.span fun c => c ∉ ['/', '?', '#']
  | s => ([], s)

/-- The host at the start of an authority, and what stands behind it: a host in brackets reaches
to the last bracket, another one to the first colon. -/
def splitHost (s : List Char) : List Char × List Char :=
  if s.head? = some '[' ∧ ']' ∈ s then
    let rest := (splitAtLast ']' s).2
    (s.take (s.length - rest.length), rest)
  else s.span (· != ':')

/-- The port of an authority, where it is not the one that the scheme implies. -/
def port? (scheme s : List Char) : Except Fault (Option Int) :=
  let digits := if s.head? = some ':' then s.drop 1 else s
  if digits.isEmpty then .ok none
  else match Text.integer? digits with
    | some n => .ok (if impliedPorts.lookup (String.ofList scheme) = some n then none else some n)
    | none => .error .address

/-- The steps of a path without those that stay where they are and those that lead back, which
take the step before them along unless only the root is left. -/
def walk : List (List Char) → List (List Char) → List (List Char)
  | done, [] => done
  | done, ['.'] :: r => walk done r
  | done, ['.', '.'] :: r => walk (if done = [[]] then done else done.dropLast) r
  | done, s :: r => walk (done ++ [s]) r

/-- A path that leads straight to its end. -/
def straight (path : List Char) : List Char :=
  List.intercalate ['/'] (walk [] (Text.splitOn ['/'] path))

end Web

namespace WebAddress

open Web

/-- Does an address stand for a place by itself? -/
def isAbsolute (a : WebAddress) : Bool :=
  !a.scheme.isEmpty && !a.host.isEmpty

/-- Does an address have an authority? -/
def hasAuthority (a : WebAddress) : Bool :=
  !a.user.isEmpty || !a.host.isEmpty || a.port.isSome

/-- The path and what follows it. Without a scheme and an authority the path may not begin like
one of them; with one of them it is made straight. -/
def withTail (a : WebAddress) (s : List Char) : Except Fault WebAddress := do
  let (s, fragment) := splitAtFirst '#' s
  let (path, query) := splitAtFirst '?' s
  let anchored := !a.scheme.isEmpty || a.hasAuthority
  if !anchored && (['/', '/'].isPrefixOf path || [':'].isPrefixOf path) then throw .address
  return { a with
    path := escaped inPath (if anchored then straight path else path)
    query := query.map (escaped inQuery)
    fragment := fragment.map (escaped inFragment) }

/-- The address that a text writes. -/
def ofText (text : String) : Except Fault WebAddress := do
  let s := text.toList
  if maxLength < s.length || s.any isControl then throw .address
  let (scheme, s) := splitScheme s
  let (authority, s) := splitAuthority s
  let (user, place) := splitAtLast '@' authority
  let (host, rest) := splitHost place
  let some host := hostText? host | throw .address
  let port ← port? scheme rest
  let scheme := Text.lower scheme
  withTail { scheme := scheme, user := escaped inUser user, host := host, port := port } s

/-- The authority as it is written. -/
def authority (a : WebAddress) : List Char :=
  (if a.user.isEmpty then [] else a.user ++ ['@']) ++
    (if ':' ∈ a.host then '[' :: a.host ++ [']'] else a.host) ++
    a.port.toList.flatMap fun n => ':' :: (toString n).toList

/-- The path, or the root where it is empty, and the query as they are written. -/
def target (a : WebAddress) : List Char :=
  (if a.path.isEmpty then ['/'] else a.path) ++ a.query.toList.flatMap ('?' :: ·)

/-- The address as it is written. -/
def text (a : WebAddress) : String :=
  let authority := a.authority
  String.ofList ((if a.scheme.isEmpty then [] else a.scheme ++ [':']) ++
    (if authority.isEmpty then [] else '/' :: '/' :: authority) ++ a.path ++
    a.query.toList.flatMap ('?' :: ·) ++ a.fragment.toList.flatMap ('#' :: ·))

/-- The path and query of an address, taken from the root. -/
def fromRoot (a : WebAddress) : WebAddress :=
  let (path, query) := splitAtFirst '?' ('/' :: a.target.dropWhile (· == '/'))
  { path := path, query := query }

/-- The name and the password of who asks, with their escapes resolved. -/
def credentials (a : WebAddress) : String × String :=
  let (name, password) := splitAtFirst ':' a.user
  (String.ofList (unescaped name), String.ofList (unescaped (password.getD [])))

end WebAddress

end Logbook
