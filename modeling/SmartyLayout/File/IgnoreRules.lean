import SmartyLayout.File.Glob
import SmartyLayout.File.Store

/-!
# SmartyLayout.File.IgnoreRules — files that are passed over

Ignore files hold one rule per line. Three kinds of them stand in directories and one belongs to the
user:

1. `.ignore` comes first;
2. then `.gitignore`;
3. then `info/exclude` of the repository;
4. then the user's own file.

For each kind the innermost directory with a matching rule decides, and the first kind that decides
at all wins. Hidden names are passed over unless a rule restores them.

Rules are matched against path texts. A text is cut where the directory of the rules ends, and a
text that does not begin with that directory, as it was written, is matched whole.
-/

namespace SmartyLayout

/-- A rule of an ignore file. -/
structure IgnoreRule where
  glob : Glob
  /-- The rule takes files back in. -/
  restores : Bool
  /-- The rule holds for directories only. -/
  directoriesOnly : Bool

inductive Verdict where
  | ignored
  | restored
deriving DecidableEq, Repr

namespace IgnoreRule

/-- The pattern of a rule in full: without a slash it may match at any depth, and `/**` at the end
asks for something inside. -/
def fullPattern (anchored : Bool) (t : Text) : Text :=
  let deep := "**/".toList
  let floating := !anchored && !t.any (· == '/') && t != ['*', '*']
  let t := if floating && !Text.startsWith deep t then deep ++ t else t
  if Text.endsWith "/**".toList t then t ++ ['/', '*'] else t

/-- Takes a final slash off, with a backslash in front of it. -/
def withoutSlash (t : Text) : Text × Bool :=
  match t.reverse with
  | '/' :: '\\' :: rest => (rest.reverse, true)
  | '/' :: rest => (rest.reverse, true)
  | _ => (t, false)

/-- The rule behind its leading signs; a text that is no pattern gives none. -/
def ofBody (restores anchored : Bool) (body : Text) : Option IgnoreRule :=
  let (t, directoriesOnly) := withoutSlash body
  match Glob.parse { strict := true, lenientClass := true } (fullPattern anchored t) with
  | .ok glob => some { glob, restores, directoriesOnly }
  | .error _ => none

/-- The rule of a line; comments and empty lines hold none. -/
def parse? (line : Text) : Option IgnoreRule :=
  if line.head? = some '#' then none
  else
    -- blanks at the end do not count, unless the last one is escaped
    let line := if Text.endsWith ['\\', ' '] line then line else Text.trimEnd line
    match line with
    | [] => none
    | '\\' :: '!' :: _ | '\\' :: '#' :: _ => ofBody false false line.tail
    | '!' :: '/' :: body => ofBody true true body
    | '!' :: body => ofBody true false body
    | '/' :: body => ofBody false true body
    | body => ofBody false false body

/-- The lines of a file up to the first that is no text. A carriage return belongs to the line break
behind it. -/
def textLines : List Bytes → List Text
  | [] => []
  | [l] =>
    match Utf8.decode l with
    | .ok t => [t]
    | .error _ => []
  | l :: ls =>
    match Utf8.decode (if l.getLast? = some 13 then l.dropLast else l) with
    | .ok t => t :: textLines ls
    | .error _ => []

/-- A line without byte order marks in front. -/
def withoutMark (t : Text) : Text :=
  t.dropWhile (·.toNat == 0xFEFF)

def ofFile (content : Bytes) : List IgnoreRule :=
  match textLines (content.splitOn 10) with
  | [] => []
  | first :: later => (withoutMark first :: later).filterMap parse?

/-- The verdict of a list of rules on a path; the last rule that matches decides. -/
def verdict? (rules : List IgnoreRule) (path : Text) (isDirectory : Bool) : Option Verdict :=
  (rules.reverse.find? fun r => (isDirectory || !r.directoriesOnly) && r.glob.isMatch path).map
    fun r => if r.restores then .restored else .ignored

end IgnoreRule

namespace IgnoreRules

def withoutLead (path : Text) : Text :=
  (Text.after? ['.', '/'] path).getD path

/-- A path without the text `base` in front, nor the slash behind it. -/
def withoutBase (base path : Text) : Text :=
  match Text.after? base path with
  | some rest => (Text.after? ['/'] rest).getD rest
  | none => path

/-- The path names the current directory. -/
def isCurrent (path : Text) : Bool :=
  Path.components path == [.current]

/-- A path as the rules of a directory see it. A bare name stays as it is, and so does every path
for the rules of the current directory. -/
def seenFrom (dir path : Text) : Text :=
  let dir := withoutLead dir
  let path := withoutLead path
  if isCurrent dir || !path.any (· == '/') then path else withoutBase dir path

/-- The verdict of a file with rules for what is below `dir`. -/
def fileVerdict? (w : Workspace) (file dir path : Text) (isDirectory : Bool) : Option Verdict :=
  match w.readBytes file with
  | .error _ => none
  | .ok content => IgnoreRule.verdict? (IgnoreRule.ofFile content) (seenFrom dir path) isDirectory

def firstLine? (w : Workspace) (path : Text) : Option Text :=
  match w.readBytes path with
  | .error _ | .ok [] => none
  | .ok content => (IgnoreRule.textLines (content.splitOn 10)).head?

/-- The directory that a repository shares with its working copies. A working copy has a file in
place of `.git`, which leads to it in two steps. -/
def repositoryOf? (w : Workspace) (dir : Text) : Option Text :=
  let git := Path.join dir ".git".toList
  if w.isFile git then do
    let own ← Text.after? "gitdir: ".toList (← firstLine? w git)
    let shared ← firstLine? w (Path.join own "commondir".toList)
    some (if shared.head? = some '.' then Path.join own shared else shared)
  else some git

/-- An entry of a walk: `names` leads to it from the directory `root`, which stands at `dir`. -/
structure Visited where
  root : Text
  dir : Location
  names : List Text
  isDirectory : Bool

namespace Visited

/-- The path of an entry, as the rules of the walk see it. -/
def path (v : Visited) : Text :=
  withoutLead (v.names.foldl Path.join v.root)

def absolute (v : Visited) : Text :=
  Path.join (Workspace.pathOf v.dir)
    (if isCurrent v.root then v.path else withoutBase (withoutLead v.root) v.path)

/-- The directories of the walk above an entry, from the innermost outward, each with the path of
the entry. -/
def walked (v : Visited) : List (Text × Text) :=
  (List.range v.names.length).reverse.map fun n =>
    ((v.names.take n).foldl Path.join v.root, v.path)

/-- The directories above the walk, from the innermost outward, each with the path of the entry. -/
def above (v : Visited) : List (Text × Text) :=
  (List.range v.dir.length).reverse.map fun n => (Workspace.pathOf (v.dir.take n), v.absolute)

/-- The directories whose rules count. A repository on the way ends nothing: the rules of what is
around it go on. -/
def around (v : Visited) : List (Text × Text) :=
  v.walked ++ v.above

/-- The last name of an entry begins with a dot. -/
def isHidden (v : Visited) : Bool :=
  v.names.getLast?.any fun name => name.head? == some '.'

end Visited

/-- The verdict of one kind of ignore file, which `file?` finds for a directory: directories are
asked in order. -/
def kindVerdict? (w : Workspace) (file? : Text → Option Text) (v : Visited) : Option Verdict :=
  v.around.findSome? fun (dir, path) =>
    (file? dir).bind fun file => fileVerdict? w file dir path v.isDirectory

/-- The byte is blank in a settings file. -/
def isSpace (b : UInt8) : Bool :=
  b == 32 || (9 ≤ b && b ≤ 13)

/-- Nothing but blank bytes is left of a line, or of the text. -/
def closesLine (bs : Bytes) : Bool :=
  let run := bs.takeWhile isSpace
  run.any (· == 10) || run.length == bs.length

/-- Only blank bytes, and a quotation mark among them, are left of a line. -/
def closesValue (bs : Bytes) : Bool :=
  closesLine bs ||
    match bs.dropWhile isSpace with
    | 34 :: later => closesLine later
    | _ => false

/-- The shortest value at the front of a text that can end there. -/
def valueFrom? : Bytes → Option Bytes
  | [] => none
  | b :: bs =>
    if isSpace b then none
    else if closesValue bs then some [b]
    else (valueFrom? bs).map (b :: ·)

/-- What follows an ASCII word, in any letter case; the word is given in lower case. -/
def afterWord? : Bytes → Bytes → Option Bytes
  | [], bs => some bs
  | _ :: _, [] => none
  | p :: ps, b :: bs =>
    if (if 65 ≤ b && b ≤ 90 then b + 32 else b) == p then afterWord? ps bs else none

/-- The excludes file that a setting at the front of a text names. Blank bytes between the parts of
the setting may be line breaks. -/
def excludesFileAt? (bs : Bytes) : Option Bytes := do
  let bs ← afterWord? (Utf8.encode "excludesfile".toList) (bs.dropWhile isSpace)
  let bs ← afterWord? [61] (bs.dropWhile isSpace)
  let bs := bs.dropWhile isSpace
  -- a quotation mark belongs to the value where nothing else makes one
  (match bs with
    | 34 :: later => valueFrom? (later.dropWhile isSpace)
    | _ => none) <|> valueFrom? bs

/-- The excludes file that the first setting at the beginning of a line names. -/
def excludesFileIn? : (lineStart : Bool) → Bytes → Option Bytes
  | lineStart, bs =>
    (if lineStart then excludesFileAt? bs else none) <|>
      match bs with
      | [] => none
      | b :: later => excludesFileIn? (b == 10) later

/-- The excludes file that a settings file of the user names. -/
def excludesFileOf? (w : Workspace) (path : Text) : Option Text :=
  match w.readBytes path with
  | .error _ => none
  | .ok content =>
    match (excludesFileIn? true content).map Utf8.decode with
    | some (.ok value) => some (Text.replace ['~'] w.home value)
    | _ => none

def userFile (w : Workspace) : Text :=
  (excludesFileOf? w (Path.join w.home ".gitconfig".toList)
    <|> excludesFileOf? w (Path.join w.configHome "git/config".toList)).getD
    (Path.join w.configHome "git/ignore".toList)

/-- The verdict of all rules on an entry. -/
def verdict? (w : Workspace) (v : Visited) : Option Verdict :=
  kindVerdict? w (fun dir => some (Path.join dir ".ignore".toList)) v
    <|> kindVerdict? w (fun dir => some (Path.join dir ".gitignore".toList)) v
    <|> kindVerdict? w (fun dir => (repositoryOf? w dir).map (Path.join · "info/exclude".toList)) v
    <|> fileVerdict? w (userFile w) w.cwdPath v.path v.isDirectory

def skips (w : Workspace) (respect : Bool) (v : Visited) : Bool :=
  match if respect then verdict? w v else none with
  | some .ignored => true
  | some .restored => false
  | none => v.isHidden

end IgnoreRules

end SmartyLayout
