import SmartyLayout.Server.Host

/-!
# SmartyLayout.Server.Uri — names of documents

A document's name is kept in its parts, and the parts in a normal form, so that two spellings of one
name are equal: the scheme is in lower case, hosts and ports are read, dots between slashes are
resolved, and characters that may not stand for themselves are written with a percent sign.
-/

namespace SmartyLayout

/-- The part of a name behind two slashes. -/
structure Authority where
  /-- User and password, with the sign that ends them; empty if there are none. -/
  user : Text := []
  host : Option Host := none
  port : Option Nat := none
deriving DecidableEq, Repr

/-- The name of a document. -/
structure Uri where
  scheme : Text
  authority : Option Authority
  /-- A path with a slash in front, or a text that cannot be taken apart. -/
  path : Text
  query : Option Text
  fragment : Option Text
deriving DecidableEq, Repr

namespace Uri

/-! ## Schemes -/

/-- What a scheme says about the rest of a name. -/
inductive Kind where
  | file
  /-- There is always a host, and a port that need not be written. -/
  | hosted (port : Nat)
  | other
deriving DecidableEq, Repr

def kindOf (scheme : Text) : Kind :=
  match String.ofList scheme with
  | "file" => .file
  | "http" | "ws" => .hosted 80
  | "https" | "wss" => .hosted 443
  | "ftp" => .hosted 21
  | _ => .other

/-- Backslashes are slashes. -/
def Kind.isSpecial : Kind → Bool
  | .other => false
  | _ => true

/-- The scheme in lower case, and what follows its colon. -/
def scheme? (t : Text) : Option (Text × Text) :=
  let name := t.takeWhile fun c => c.isAlphanum || c == '+' || c == '-' || c == '.'
  match name, t.drop name.length with
  | c :: cs, ':' :: rest => if c.isAlpha then some ((c :: cs).map Char.toLower, rest) else none
  | _, _ => none

/-! ## Paths -/

/-- The characters that a path writes with percent signs. -/
def pathSpecials : Text :=
  [' ', '"', '<', '>', '\x60', '#', '?', '\x7b', '\x7d']

/-- A segment with its percent-encoded dots read. -/
def dots (segment : Text) : Text :=
  Text.replace "%2e".toList ['.'] (segment.map Char.toLower)

/-- A letter and a colon or a bar. -/
def isDrive : Text → Bool
  | [c, d] => c.isAlpha && (d == ':' || d == '|')
  | _ => false

/-- The segment is a drive, with or without a backslash behind it. -/
def beginsWithDrive (segment : Text) : Bool :=
  isDrive (segment.take 2) && (segment.drop 2).head?.all (· == '\\')

def lastSegment (path : Text) : Text :=
  (path.reverse.takeWhile (· != '/')).reverse

/-- Takes the last segment off, with the slash behind it. A path is not cut in front of a drive,
nor to nothing. -/
def shorten (path : Text) : Text :=
  let inner := path.dropLast
  let closed := inner.any (· == '/') && !beginsWithDrive (lastSegment inner)
  let path := if path.getLast? = some '/' && closed then inner else path
  path.take (path.length - (lastSegment path).length)

structure PathReader where
  path : Text
  /-- The path of a file begins with a drive, which leaves no room for a host. -/
  onDrive : Bool := false

/-- Adds a segment, and the slash behind it. Dots are resolved, and the drive in front of a file's
path is written with a colon. -/
def PathReader.push (file : Bool) (r : PathReader) (segment : Text) (slash : Bool) : PathReader :=
  let close (t : Text) : Text := if t.getLast? = some '/' then t else t ++ ['/']
  let segment := Percent.encode pathSpecials segment
  if dots segment = ['.', '.'] then
    let path := shorten r.path
    { r with path := if slash then close path else path }
  else if dots segment = ['.'] then { r with path := close r.path }
  else
    let atDrive := file && r.path.length == 1 && isDrive segment
    let segment := if atDrive then segment.take 1 ++ [':'] else segment
    { path := r.path ++ segment ++ (if slash then ['/'] else [])
      onDrive := r.onDrive || atDrive }

/-- Adds the segments of a text. -/
def PathReader.read (file : Bool) : PathReader → List Text → PathReader
  | r, [] => r
  | r, s :: ss => (r.push file s (!ss.isEmpty)).read file ss

/-- Reads a path behind the part that is given. The path of a file begins with one slash. -/
def readPath (file : Bool) (start t : Text) : PathReader :=
  let r := PathReader.read file { path := start } (t.splitOn '/')
  if file then { r with path := '/' :: r.path.dropWhile (· == '/') } else r

/-! ## Authorities -/

/-- The characters that user and password write with percent signs. -/
def userSpecials : Text :=
  pathSpecials ++ ['/', ':', ';', '=', '@', '[', '\\', ']', '^', '|']

/-- User and password in front of a host, in normal form. A colon is kept only in front of a
password. -/
def userInfo (t : Text) : Text :=
  let user := Percent.encode userSpecials (t.takeWhile (· != ':'))
  let password := Percent.encode userSpecials ((t.dropWhile (· != ':')).drop 1)
  let t := if password.isEmpty then user else user ++ ':' :: password
  if t.isEmpty then [] else t ++ ['@']

/-- The part of a text through the last `@`, without it, and the rest. -/
def cutUser (t : Text) : Option (Text × Text) :=
  let rest := (t.reverse.takeWhile (· != '@')).reverse
  if rest.length < t.length then some (t.take (t.length - rest.length - 1), rest) else none

/-- The characters of a host: up to a colon that is not between brackets. -/
def hostLength : (inside : Bool) → Text → Nat
  | _, [] => 0
  | inside, c :: cs =>
    if c = ':' ∧ ¬ inside then 0
    else hostLength (if c = '[' then true else if c = ']' then false else inside) cs + 1

/-- A port, and the text behind it, which is empty or begins with a backslash. The port that need
not be written counts as none. -/
def port? (usual : Option Nat) (t : Text) : Option (Option Nat × Text) := do
  let digits := t.takeWhile Char.isDigit
  let rest := t.drop digits.length
  let n ← Host.number? 10 digits
  if 0xFFFF < n ∨ rest.head?.any (· != '\\') then none
  else some (if digits.isEmpty ∨ some n = usual then none else some n, rest)

/-- Reads an authority: `t` ends in front of the path. A backslash behind a port begins the path as
well, and is given back with what follows it. -/
def authority? (kind : Kind) (t : Text) : Option (Authority × Text) := do
  let (user, t) ← match cutUser t with
    | none => some ([], t)
    | some (user, rest) => some (userInfo user, rest)
  let name := t.take (hostLength false t)
  let rest := t.drop name.length
  let host ← match kind with
    | .other => if name.isEmpty then some none else (Host.readOpaque? name).map some
    | _ => (Host.read? name).map some
  if host.isNone ∧ (user ≠ [] ∨ rest ≠ []) then none
  let (port, rest) ← match kind with
    | .hosted usual => port? (some usual) rest.tail
    | _ => port? none rest.tail
  some ({ user, host, port }, rest)

/-! ## Names -/

/-- A text without blanks at its ends and without line breaks and tabs. -/
def cleaned (t : Text) : Text :=
  let dropBlank (t : Text) := t.dropWhile (·.toNat ≤ 0x20)
  ((dropBlank (dropBlank t).reverse).reverse).filter fun c => c ≠ '\t' ∧ c ≠ '\n' ∧ c ≠ '\r'

/-- The part of a text in front of a character, and the part behind it. -/
def cutAt (c : Char) (t : Text) : Text × Option Text :=
  let front := t.takeWhile (· != c)
  match t.drop front.length with
  | [] => (front, none)
  | _ :: rest => (front, some rest)

/-- The host of a file's name; this computer has no host. -/
def fileHost? (t : Text) : Option (Option Host) :=
  if t.isEmpty then some none
  else (Host.read? t).map fun h => if h = .domain "localhost".toList then none else some h

/-- The host and path of a file's name. A drive is read as such in front of the path, behind a host,
and in the place of the host, and not where the host is left out between slashes. -/
def filePlace? (t : Text) : Option (Authority × Text) :=
  match t with
  | '/' :: '/' :: rest =>
    let name := rest.takeWhile (· != '/')
    if isDrive name then some ({}, (readPath true ['/'] rest).path)
    else do
      let host ← fileHost? name
      let path := rest.drop name.length
      let r := readPath true ['/'] (if host.isNone then path else path.tail)
      some ({ host := if r.onDrive then none else host }, r.path)
  | '/' :: _ => some ({}, (readPath true [] t).path)
  | _ => some ({}, (readPath true ['/'] t).path)

/-- The authority and path of a name that always has a host. -/
def hostedPlace? (kind : Kind) (t : Text) : Option (Authority × Text) := do
  let t := t.dropWhile (· == '/')
  let name := t.takeWhile (· != '/')
  let (authority, _) ← authority? kind name
  some (authority, (readPath false ['/'] (t.drop name.length).tail).path)

/-- The authority and path of any other name. The sign that ends a user may stand alone only at the
end of a name; `more` tells that a query or a fragment follows. -/
def otherPlace? (more : Bool) (t : Text) : Option (Option Authority × Text) :=
  match t with
  | '/' :: '/' :: rest => do
    let span := rest.takeWhile (· != '/')
    let path := rest.drop span.length
    if span = ['@'] ∧ (more ∨ path ≠ []) then none
    else
      let (authority, front) ← authority? .other span
      let start := if front.isEmpty then [] else ['/']
      some (some authority, (readPath false start (front ++ path)).path)
  | '/' :: rest => some (none, (readPath false ['/'] rest).path)
  | _ => some (none, Percent.encode [] t)

/-- Authority and path of a name behind its scheme. -/
def place? (kind : Kind) (more : Bool) (t : Text) : Option (Option Authority × Text) :=
  let t := if kind.isSpecial then t.map fun c => if c = '\\' then '/' else c else t
  match kind with
  | .file => (filePlace? t).map fun (a, p) => (some a, p)
  | .hosted _ => (hostedPlace? kind t).map fun (a, p) => (some a, p)
  | .other => otherPlace? more t

/-- Reads a name. It needs a scheme. -/
def parse? (t : Text) : Option Uri := do
  let (scheme, rest) ← scheme? (cleaned t)
  let kind := kindOf scheme
  let (rest, fragment) := cutAt '#' rest
  let (rest, query) := cutAt '?' rest
  let (authority, path) ← place? kind (query.isSome || fragment.isSome) rest
  let querySpecials := [' ', '"', '#', '<', '>'] ++ (if kind.isSpecial then ['\x27'] else [])
  some { scheme, authority, path
         query := query.map (Percent.encode querySpecials)
         fragment := fragment.map (Percent.encode [' ', '"', '<', '>', '\x60']) }

/-- The host of a name is this computer. -/
def isLocal (u : Uri) : Bool :=
  match u.authority.bind Authority.host with
  | none => true
  | some host => host == .domain "localhost".toList

/-- The path of the file that a name stands for; names with another host stand for none. -/
def filePath? (u : Uri) : Option Text :=
  if u.isLocal && u.path.head? == some '/' then
    let path := Utf8.decodeLossy (Percent.decode u.path)
    some (if 2 < path.length ∧ isDrive (path.drop (path.length - 2)) then path ++ ['/'] else path)
  else none

end Uri

end SmartyLayout
