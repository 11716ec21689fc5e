import SmartyLayout.File.Path

/-!
# SmartyLayout.File.Store — files as values

A store maps absolute locations to files and directories. Paths are looked up step by step from
the current directory, so that `missing/../a` names nothing even where `a` exists.
-/

namespace SmartyLayout

/-- An absolute location: the names from the root down. -/
abbrev Location := List Text

inductive Entry where
  | file (content : Bytes)
  | directory
deriving DecidableEq, Repr

/-- Why a path could not be used. -/
inductive FileFault where
  | notFound
  | notDirectory
  | isDirectory
  | notText
  | nameTooLong
  | nulInName
deriving DecidableEq, Repr

def FileFault.message : FileFault → String
  | .notFound => "No such file or directory (os error 2)"
  | .notDirectory => "Not a directory (os error 20)"
  | .isDirectory => "Is a directory (os error 21)"
  | .notText => "stream did not contain valid UTF-8"
  | .nameTooLong => "File name too long (os error 36)"
  | .nulInName => "file name contained an unexpected NUL byte"

/-- Files and directories by location. The root needs no entry. -/
structure FileStore where
  entries : List (Location × Entry) := []
deriving DecidableEq, Repr

namespace FileStore

def get? (s : FileStore) (l : Location) : Option Entry :=
  if l = [] then some .directory else (s.entries.find? (·.1 == l)).map (·.2)

def isDirectory (s : FileStore) (l : Location) : Bool :=
  s.get? l == some .directory

def content? (s : FileStore) (l : Location) : Option Bytes :=
  match s.get? l with
  | some (.file content) => some content
  | _ => none

/-- Puts an entry at a location, in place of what stood there. -/
def put (s : FileStore) (l : Location) (e : Entry) : FileStore :=
  if s.entries.any (·.1 == l) then
    { entries := s.entries.map fun x => if x.1 == l then (l, e) else x }
  else { entries := s.entries ++ [(l, e)] }

/-- Makes a directory and those above it, where nothing stands yet. -/
def makeDirectories (s : FileStore) (l : Location) : FileStore :=
  ((List.range l.length).map fun n => l.take (n + 1)).foldl
    (fun s l => if (s.get? l).isSome then s else s.put l .directory) s

/-- Puts a file at a location and makes the directories above it. -/
def addFile (s : FileStore) (l : Location) (content : Bytes) : FileStore :=
  (s.makeDirectories l.dropLast).put l (.file content)

end FileStore

/-- A store seen from a current directory. -/
structure Workspace where
  store : FileStore
  cwd : Location
  /-- The directory of the user's settings. -/
  configHome : Text
  /-- The directory of the user. -/
  home : Text

namespace Workspace

/-- The largest number of bytes in a name. -/
def nameLimit : Nat := 255

/-- The largest number of bytes in a path. -/
def pathLimit : Nat := 4095

/-- One step along a path. The location it starts from must be a directory, and a name is looked up
there only if it is short enough. -/
def step (s : FileStore) (l : Location) (segment : Text) : Except FileFault Location :=
  match s.get? l with
  | none => .error .notFound
  | some (.file _) => .error .notDirectory
  | some .directory =>
    if segment = [] ∨ segment = ['.'] then .ok l
    else if segment = ['.', '.'] then .ok l.dropLast
    else if nameLimit < (Utf8.encode segment).length then .error .nameTooLong
    else .ok (l ++ [segment])

/-- The location of a path's segments, from a location on. Every location passed through must be a
directory. -/
def walk (s : FileStore) : Location → List Text → Except FileFault Location
  | l, [] => .ok l
  | l, segment :: later =>
    match step s l segment with
    | .error e => .error e
    | .ok l => walk s l later

def segments (p : Text) : List Text :=
  (Path.segmentsFrom 0 [] p).map (·.1)

/-- The location where the walk along a path begins; a text that can be no path has none. -/
def origin (w : Workspace) (p : Text) : Except FileFault Location :=
  if p.any (·.toNat == 0) then .error .nulInName
  else if p.isEmpty then .error .notFound
  else if pathLimit < (Utf8.encode p).length then .error .nameTooLong
  else .ok (if Path.isAbsolute p then [] else w.cwd)

/-- The location a path leads to, whether or not anything stands there. -/
def locate (w : Workspace) (p : Text) : Except FileFault Location :=
  match w.origin p with
  | .error e => .error e
  | .ok l => walk w.store l (segments p)

def find (w : Workspace) (p : Text) : Except FileFault (Location × Entry) :=
  match w.locate p with
  | .error e => .error e
  | .ok l =>
    match w.store.get? l with
    | none => .error .notFound
    | some e => .ok (l, e)

def pathExists (w : Workspace) (p : Text) : Bool :=
  match w.find p with
  | .ok _ => true
  | .error _ => false

def isFile (w : Workspace) (p : Text) : Bool :=
  match w.find p with
  | .ok (_, .file _) => true
  | _ => false

def readBytes (w : Workspace) (p : Text) : Except FileFault Bytes :=
  match w.find p with
  | .error e => .error e
  | .ok (_, .directory) => .error .isDirectory
  | .ok (_, .file content) => .ok content

def readText (w : Workspace) (p : Text) : Except FileFault Text :=
  match w.readBytes p with
  | .error e => .error e
  | .ok bytes =>
    match Utf8.decode bytes with
    | .error _ => .error .notText
    | .ok t => .ok t

/-- Where a file of some name can be written in the directory at `l`. A name that stands for a
directory is refused, and so is one with a slash behind it, which asks for a directory. -/
def placeIn (s : FileStore) (l : Location) (name : Text) (slash : Bool) :
    Except FileFault Location :=
  match step s l name with
  | .error .nameTooLong => .error (if slash then .isDirectory else .nameTooLong)
  | .error e => .error e
  | .ok l' => if slash || s.isDirectory l' then .error .isDirectory else .ok l'

/-- Where a file can be written at a path. -/
def place (w : Workspace) (p : Text) : Except FileFault Location :=
  match w.origin p with
  | .error e => .error e
  | .ok l =>
    let trimmed := (p.reverse.dropWhile (· == '/')).reverse
    let names := segments trimmed
    match walk w.store l names.dropLast with
    | .error e => .error e
    | .ok l => placeIn w.store l (names.getLast?.getD []) (trimmed.length < p.length)

def writeText (w : Workspace) (p : Text) (t : Text) : Except FileFault Workspace :=
  match w.place p with
  | .error e => .error e
  | .ok l => .ok { w with store := w.store.put l (.file (Utf8.encode t)) }

def pathOf (l : Location) : Text :=
  if l.isEmpty then ['/'] else l.flatMap ('/' :: ·)

def cwdPath (w : Workspace) : Text :=
  pathOf w.cwd

end Workspace

end SmartyLayout
