import SmartyLayout.CommandLine.Run

/-!
# SmartyLayout.Main — the command line program

Takes a picture of the files that a command may look at, carries the command out on it, and writes
the files back that have changed. All that is decided is decided in `CommandLine`.
-/

namespace SmartyLayout

namespace Program

def bytesOf (a : ByteArray) : Bytes :=
  a.toList

def arrayOf (bs : Bytes) : ByteArray :=
  ByteArray.mk bs.toArray

def locationOf (path : String) : Location :=
  (Workspace.segments path.toList).foldl (fun l s =>
    if s = [] ∨ s = ['.'] then l else if s = ['.', '.'] then l.dropLast else l ++ [s]) []

def pathOf (l : Location) : String :=
  String.ofList (l.flatMap ('/' :: ·))

def addFile (s : FileStore) (l : Location) : IO FileStore := do
  try
    let content ← IO.FS.readBinFile (pathOf l)
    return s.addFile l (bytesOf content)
  catch _ => return s

/-- Adds a directory without what is in it, if there is one. -/
def addDirectory (s : FileStore) (l : Location) : IO FileStore := do
  try
    let here ← IO.FS.realPath (if l.isEmpty then "/" else pathOf l)
    return if ← here.isDir then s.makeDirectories l else s
  catch _ => return s

/-- Adds what settings and ignore rules look at in a directory. -/
def addRules (s : FileStore) (l : Location) : IO FileStore := do
  let s ← addDirectory s l
  let git := l ++ [".git".toList]
  let s ← addDirectory s git
  let s ← addFile s git
  let files := (Config.fileName :: [".ignore".toList, ".gitignore".toList]).map (l ++ [·])
  (files ++ [git ++ ["info".toList, "exclude".toList]]).foldlM addFile s

/-- Adds the rules of the directories on the way to a location. -/
def addWay (s : FileStore) (l : Location) : IO FileStore :=
  ((List.range (l.length + 1)).map l.take).foldlM addRules s

def namesIn (l : Location) : IO (List Text) := do
  try
    let here ← IO.FS.realPath (if l.isEmpty then "/" else pathOf l)
    let entries ← here.readDir
    return entries.toList.map (·.fileName.toList)
  catch _ => return []

/-- Adds all that is visible below a location. -/
partial def addTree (s : FileStore) (l : Location) : IO FileStore := do
  let s ← addDirectory s l
  if s.isDirectory l then
    let s ← addRules s l
    let names ← namesIn l
    (names.filter (·.head? != some '.')).foldlM (fun s name => addTree s (l ++ [name])) s
  else addFile s l

/-- The location that an argument names, seen from a directory. -/
def argumentLocation (cwd : String) (arg : String) : Location :=
  locationOf (String.ofList (Path.join cwd.toList arg.toList))

/-- Takes the picture for a command line. -/
def picture (args : List String) : IO Workspace := do
  let here ← IO.currentDir
  let cwd := locationOf here.toString
  let home := (← IO.getEnv "HOME").getD "/"
  let configHome := (← IO.getEnv "XDG_CONFIG_HOME").getD (home ++ "/.config")
  let settings := locationOf configHome
  let s ← addTree {} cwd
  let s ← addWay s cwd
  let s ← (args.map (argumentLocation here.toString)).foldlM
    (fun s l => do addTree (← addWay s l) l) s
  let s ← [settings ++ ["smartyfmt".toList, "config.toml".toList],
    settings ++ ["git".toList, "config".toList], settings ++ ["git".toList, "ignore".toList],
    locationOf home ++ [".gitconfig".toList]].foldlM addFile s
  return { store := s, cwd, configHome := configHome.toList, home := home.toList }

/-- Writes the files back that differ from an earlier picture. -/
def writeBack (before after : FileStore) : IO Unit :=
  after.entries.forM fun (l, e) => do
    match e with
    | .file content =>
      if before.content? l ≠ some content then
        IO.FS.writeBinFile (pathOf l) (arrayOf content)
    | .directory => pure ()

partial def readInput (input : IO.FS.Stream) (sofar : ByteArray) : IO ByteArray := do
  let more ← input.read 65536
  if more.isEmpty then return sofar else readInput input (sofar ++ more)

def readsInput : CommandLine.Command → Bool
  | .format r => r.paths.contains ['-']
  | _ => false

def printReport (r : CommandLine.Report) : IO UInt32 := do
  (← IO.getStdout).putStr (String.ofList r.stdout)
  (← IO.getStderr).putStr (String.ofList r.stderr)
  return UInt32.ofNat r.code

/-- Carries out a command line. -/
def run (args : List String) : IO UInt32 := do
  match CommandLine.parse (args.map String.toList) with
  | .error f =>
    (← IO.getStderr).putStrLn ("error: " ++ f.message)
    return 2
  | .ok command =>
    let w ← picture args
    let input ← if readsInput command then readInput (← IO.getStdin) .empty else pure .empty
    let (report, after) := CommandLine.run (.ofScript .echo) w (bytesOf input) command
    writeBack w.store after.store
    printReport report

end Program

end SmartyLayout

def main (args : List String) : IO UInt32 :=
  SmartyLayout.Program.run args
