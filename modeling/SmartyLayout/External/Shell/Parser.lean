import SmartyLayout.External.Shell.Grammar

/-!
# SmartyLayout.External.Shell.Parser — reading scripts

A script is read one complete line of commands at a time, so that what stands in front of a mistake
is still run. The text of a here-document is taken out of the script when its sign is read.
-/

namespace SmartyLayout

namespace External

namespace Shell

/-- A redirection sign without its target. -/
inductive RedirectionSign where
  | file (stream : Nat) (mode : OpenMode)
  | duplicate (stream : Nat)
  | here (stream : Nat) (dropTabs : Bool)

structure Reader where
  rest : Text
  line : Nat := 1
  /-- Lines of here-documents that have been taken out behind the present line. -/
  hidden : Nat := 0
  /-- The latest token is to be read again. -/
  again : Bool := false
  latest : Token := .endOfFile
  /-- The latest word, and whether some of it was quoted. -/
  word : Word := []
  quoted : Bool := false
  sign : RedirectionSign := .duplicate 0

structure Mistake where
  line : Nat
  message : String

abbrev Parser := StateT Reader (Except Mistake)

/-- Which words are taken for keywords, and whether line breaks are passed over. -/
structure Expecting where
  keywords : Bool := false
  lines : Bool := false

def mistake {α : Type} (message : String) : Parser α := do
  let r ← get
  throw ⟨r.line, message⟩

/-- Stops at a token that does not belong here. -/
def unexpected {α : Type} (wanted : Option Token) : Parser α := do
  let r ← get
  mistake (r.latest.describe ++ " unexpected" ++
    match wanted with
    | some t => " (expecting " ++ t.describe ++ ")"
    | none => "")

/-- The latest token is to be read again. -/
def pushBack : Parser Unit :=
  modify fun r => { r with again := true }

/-- Passes over so many characters. -/
def skip (n : Nat) : Parser Unit :=
  modify fun r =>
    let breaks := (r.rest.take n).count '\n'
    { r with rest := r.rest.drop n
             line := r.line + breaks + (if 0 < breaks then r.hidden else 0)
             hidden := if 0 < breaks then 0 else r.hidden }

/-- Passes over line breaks behind backslashes. -/
def joinLines : (fuel : Nat) → Parser Unit
  | 0 => pure ()
  | fuel + 1 => do
    match (← get).rest with
    | '\\' :: '\n' :: _ => do skip 2; joinLines fuel
    | _ => pure ()

/-- The text to be read, with joined lines passed over. -/
def ahead : Parser Text := do
  joinLines (← get).rest.length
  pure (← get).rest

/-- Adds a character to a word; the parts are given latest first. -/
def addChar (parts : Word) (c : Char) (quoted : Bool) : Word :=
  match parts with
  | .text t q :: ps => if q = quoted then .text (t ++ [c]) q :: ps else .text [c] quoted :: parts
  | ps => .text [c] quoted :: ps

def endsWord (c : Char) : Bool :=
  " \t\n;&|<>()".toList.any (· == c)

/-- The text of a word without quotes; none if something has to be expanded. -/
def plainText? : Word → Option Text
  | [] => some []
  | .text t _ :: ps => (plainText? ps).map (t ++ ·)
  | _ => none

/-- The text of a word for the end of a here-document. -/
def markText (w : Word) : Text :=
  w.flatMap fun p =>
    match p with
    | .text t _ => t
    | .parameter name _ => '$' :: name
    | _ => []

/-- The lines of a here-document up to its mark, and how many lines that takes. -/
def hereLines (mark : Text) (dropTabs : Bool) : List Text → Text × Nat
  | [] => ([], 0)
  | l :: ls =>
    let l := if dropTabs then l.dropWhile (· == '\t') else l
    if l = mark then ([], 1)
    else if ls.isEmpty ∧ l.isEmpty then ([], 0)
    else
      let (t, n) := hereLines mark dropTabs ls
      (l ++ (if ls.isEmpty then [] else ['\n']) ++ t, n + 1)

/-- Takes the lines of a here-document out of the script. -/
def takeHere (mark : Text) (dropTabs : Bool) : Parser Text := do
  let r ← get
  let front := r.rest.takeWhile (· != '\n')
  let behind := (r.rest.drop (front.length + 1)).splitOn '\n'
  let (body, n) := hereLines mark dropTabs behind
  let later := List.intercalate ['\n'] (behind.drop n)
  set { r with rest := front ++ (if front.length < r.rest.length then '\n' :: later else [])
               hidden := r.hidden + n }
  pure body

/-- The name in front of an equals sign, and the rest of the word. -/
def assignment? (w : Word) : Option (Text × Word) :=
  match w with
  | .text t false :: ps =>
    let name := t.takeWhile (· != '=')
    if name.length < t.length ∧ isName name then
      let rest := t.drop (name.length + 1)
      some (name, if rest.isEmpty then ps else .text rest false :: ps)
    else none
  | _ => none

def keyword? (w : Word) : Option String :=
  match w with
  | [.text t false] => keywords.find? (·.toList == t)
  | _ => none

/-- The text between backquotes, with its escapes read, and the number of characters through the
closing one. -/
def backquoted? (quoted : Bool) : Text → Option (Text × Nat)
  | [] => none
  | '\\' :: c :: cs =>
    (backquoted? quoted cs).map fun (t, n) =>
      (if c = '\\' ∨ c = '$' ∨ c = '\x60' ∨ (quoted ∧ c = '"') then c :: t
        else if c = '\n' then t else '\\' :: c :: t, n + 2)
  | c :: cs =>
    if c = '\x60' then some ([], 1)
    else (backquoted? quoted cs).map fun (t, n) => (c :: t, n + 1)

/-- The sign of a redirection at `<` or `>`, and the number of its characters. -/
def redirectionSign (stream : Option Nat) (t : Text) : RedirectionSign × Nat :=
  match t with
  | '>' :: '>' :: _ => (.file (stream.getD 1) .append, 2)
  | '>' :: '|' :: _ => (.file (stream.getD 1) .write, 2)
  | '>' :: '&' :: _ => (.duplicate (stream.getD 1), 2)
  | '>' :: _ => (.file (stream.getD 1) .write, 1)
  | '<' :: '<' :: '-' :: _ => (.here (stream.getD 0) true, 3)
  | '<' :: '<' :: _ => (.here (stream.getD 0) false, 2)
  | '<' :: '&' :: _ => (.duplicate (stream.getD 0), 2)
  | '<' :: '>' :: _ => (.file (stream.getD 0) .readWrite, 2)
  | _ => (.file (stream.getD 0) .read, 1)

/-- What stands behind the name of a parameter between braces. -/
inductive BraceSign where
  | close
  | fallback (kind : Fallback) (emptyToo : Bool)
  | trim (kind : Trimming)
  | unknown

/-- The sign behind a parameter's name, and the number of its characters. -/
def braceSign (t : Text) : BraceSign × Nat :=
  let kind? (c : Char) : Option Fallback :=
    match c with
    | '-' => some .value
    | '+' => some .alternative
    | '?' => some .complaint
    | '=' => some .assignment
    | _ => none
  match t with
  | '\x7d' :: _ => (.close, 1)
  | ':' :: c :: _ =>
    match kind? c with
    | some k => (.fallback k true, 2)
    | none => (.unknown, 0)
  | '%' :: '%' :: _ => (.trim ⟨false, true⟩, 2)
  | '%' :: _ => (.trim ⟨false, false⟩, 1)
  | '#' :: '#' :: _ => (.trim ⟨true, true⟩, 2)
  | '#' :: _ => (.trim ⟨true, false⟩, 1)
  | c :: _ =>
    match kind? c with
    | some k => (.fallback k false, 1)
    | none => (.unknown, 0)
  | [] => (.unknown, 0)

/-- The name of a parameter at the front of a text between braces. -/
def braceName (t : Text) : Text :=
  match t with
  | [] => []
  | c :: _ =>
    if isNameStart c then t.takeWhile isNameChar
    else if c.isDigit then t.takeWhile Char.isDigit
    else if isSpecial c then [c]
    else []

/-- A mistake unless the text goes on. -/
def unterminated {α : Type} : Parser α :=
  mistake "Unterminated quoted string"

mutual


/-- Reads an unquoted word; its parts so far are given latest first. -/
def readPlain : (fuel : Nat) → Word → Parser Word
  | 0, _ => mistake "word too long"
  | fuel + 1, parts => do
    match ← ahead with
    | [] => pure parts.reverse
    | '\\' :: c :: _ => do
      skip 2
      modify fun r => { r with quoted := true }
      readPlain fuel (addChar parts c true)
    | ['\\'] => do skip 1; readPlain fuel (addChar parts '\\' true)
    | '\x27' :: t => do
      let inner := t.takeWhile (· != '\x27')
      if inner.length = t.length then do skip (t.length + 1); unterminated
      else do
        skip (inner.length + 2)
        modify fun r => { r with quoted := true }
        readPlain fuel (.text inner true :: parts)
    | '"' :: _ => do
      skip 1
      modify fun r => { r with quoted := true }
      let inner ← readDouble fuel []
      let inner := if inner.isEmpty then [.text [] true] else inner
      readPlain fuel (inner.reverse ++ parts)
    | '$' :: _ => do
      skip 1
      let p ← readDollar fuel false
      readPlain fuel (p :: parts)
    | '\x60' :: _ => do
      skip 1
      let p ← readBackquote fuel false
      readPlain fuel (p :: parts)
    | c :: _ =>
      if endsWord c then pure parts.reverse
      else do skip 1; readPlain fuel (addChar parts c false)

/-- Reads the rest of a part between double quotes. -/
def readDouble : (fuel : Nat) → Word → Parser Word
  | 0, _ => mistake "word too long"
  | fuel + 1, parts => do
    match ← ahead with
    | [] => unterminated
    | '"' :: _ => do skip 1; pure parts.reverse
    | '\\' :: c :: _ => do
      skip 2
      if "$\x60\"\\".toList.any (· == c) then readDouble fuel (addChar parts c true)
      else readDouble fuel (addChar (addChar parts '\\' true) c true)
    | '$' :: _ => do
      skip 1
      let p ← readDollar fuel true
      readDouble fuel (p :: parts)
    | '\x60' :: _ => do
      skip 1
      let p ← readBackquote fuel true
      readDouble fuel (p :: parts)
    | c :: _ => do skip 1; readDouble fuel (addChar parts c true)

/-- Reads the word between braces behind a sign, through the closing brace. Inside double quotes
everything counts as quoted. -/
def readBraceWord : (fuel : Nat) → (quoted : Bool) → Word → Parser Word
  | 0, _, _ => mistake "word too long"
  | fuel + 1, quoted, parts => do
    match ← ahead with
    | [] => mistake "Missing '\x7d'"
    | '\x7d' :: _ => do skip 1; pure parts.reverse
    | '\\' :: c :: _ => do
      skip 2
      if !quoted || "$\x60\"\\\x7d".toList.any (· == c) then
        readBraceWord fuel quoted (addChar parts c true)
      else readBraceWord fuel quoted (addChar (addChar parts '\\' true) c true)
    | '\x27' :: t =>
      if quoted then do skip 1; readBraceWord fuel quoted (addChar parts '\x27' true)
      else do
        let inner := t.takeWhile (· != '\x27')
        if inner.length = t.length then do skip (t.length + 1); unterminated
        else do
          skip (inner.length + 2)
          readBraceWord fuel quoted (.text inner true :: parts)
    | '"' :: _ => do
      skip 1
      let inner ← readDouble fuel []
      let inner := if inner.isEmpty then [.text [] true] else inner
      readBraceWord fuel quoted (inner.reverse ++ parts)
    | '$' :: _ => do
      skip 1
      let p ← readDollar fuel quoted
      readBraceWord fuel quoted (p :: parts)
    | '\x60' :: _ => do
      skip 1
      let p ← readBackquote fuel quoted
      readBraceWord fuel quoted (p :: parts)
    | c :: _ => do skip 1; readBraceWord fuel quoted (addChar parts c quoted)

/-- Reads an arithmetic expression through its two closing parentheses; `depth` counts the open
ones inside. -/
def readArithmetic : (fuel : Nat) → (depth : Nat) → Word → Parser Word
  | 0, _, _ => mistake "word too long"
  | fuel + 1, depth, parts => do
    match ← ahead with
    | [] => mistake "Missing '))'"
    | '(' :: _ => do skip 1; readArithmetic fuel (depth + 1) (addChar parts '(' true)
    | ')' :: t =>
      if 0 < depth then do
        skip 1
        readArithmetic fuel (depth - 1) (addChar parts ')' true)
      else if t.head? = some ')' then do skip 2; pure parts.reverse
      else do skip 1; readArithmetic fuel depth (addChar parts ')' true)
    | '"' :: _ => do skip 1; readArithmetic fuel depth parts
    | '\\' :: c :: _ => do skip 2; readArithmetic fuel depth (addChar parts c true)
    | '$' :: _ => do
      skip 1
      let p ← readDollar fuel true
      readArithmetic fuel depth (p :: parts)
    | '\x60' :: _ => do
      skip 1
      let p ← readBackquote fuel true
      readArithmetic fuel depth (p :: parts)
    | c :: _ => do skip 1; readArithmetic fuel depth (addChar parts c true)

/-- Reads the text of a here-document, in which parameters are expanded. -/
def readHereText : (fuel : Nat) → Word → Parser Word
  | 0, _ => mistake "word too long"
  | fuel + 1, parts => do
    match ← ahead with
    | [] => pure parts.reverse
    | '\\' :: c :: _ => do
      skip 2
      if "$\x60\\".toList.any (· == c) then readHereText fuel (addChar parts c true)
      else readHereText fuel (addChar (addChar parts '\\' true) c true)
    | '$' :: _ => do
      skip 1
      let p ← readDollar fuel true
      readHereText fuel (p :: parts)
    | '\x60' :: _ => do
      skip 1
      let p ← readBackquote fuel true
      readHereText fuel (p :: parts)
    | c :: _ => do skip 1; readHereText fuel (addChar parts c true)

/-- Reads what stands behind a dollar sign. -/
def readDollar : (fuel : Nat) → (quoted : Bool) → Parser Part
  | 0, _ => mistake "word too long"
  | fuel + 1, quoted => do
    match ← ahead with
    | '(' :: '(' :: _ => do
      skip 2
      let w ← readArithmetic fuel 0 []
      pure (.arithmetic w quoted)
    | '(' :: _ => do
      skip 1
      let before ← get
      set { before with again := false }
      let body ← parseList fuel 2
      let t ← nextToken fuel {}
      if t ≠ .closeParen then unexpected (some .closeParen)
      modify fun r => { r with again := false, latest := before.latest, word := before.word
                               quoted := before.quoted }
      pure (.output body quoted)
    | '\x7b' :: _ => do skip 1; readBraces fuel quoted
    | c :: t =>
      if isNameStart c then do
        let name := (c :: t).takeWhile isNameChar
        skip name.length
        pure (.parameter name quoted)
      else if isSpecial c then do skip 1; pure (.parameter [c] quoted)
      else pure (.text ['$'] quoted)
    | [] => pure (.text ['$'] quoted)

def readBraces : (fuel : Nat) → (quoted : Bool) → Parser Part
  | 0, _ => mistake "word too long"
  | fuel + 1, quoted => do
    let t ← ahead
    let length? : Option Text := match t with
      | '#' :: rest =>
        let name := braceName rest
        if !name.isEmpty ∧ (rest.drop name.length).head? = some '\x7d' then some name else none
      | _ => none
    match length? with
    | some name => do
      skip (name.length + 2)
      pure (.length name quoted)
    | none => do
      let name := braceName t
      let (sign, size) := braceSign (t.drop name.length)
      skip (name.length + size)
      match sign with
      | .close => if name.isEmpty then pure .invalid else pure (.parameter name quoted)
      | .fallback kind emptyToo => do
        let w ← readBraceWord fuel quoted []
        pure (if name.isEmpty then .invalid else .fallback name kind emptyToo w quoted)
      | .trim kind => do
        let w ← readBraceWord fuel false []
        pure (if name.isEmpty then .invalid else .trimmed name kind w quoted)
      | .unknown => do
        let _ ← readBraceWord fuel quoted []
        pure .invalid

def readBackquote : (fuel : Nat) → (quoted : Bool) → Parser Part
  | 0, _ => mistake "word too long"
  | fuel + 1, quoted => do
    let outer ← get
    match backquoted? quoted outer.rest with
    | none => do
      skip outer.rest.length
      mistake "EOF in backquote substitution"
    | some (t, n) => do
      set { outer with rest := t, again := false }
      let body ← parseList fuel 2
      let r ← nextToken fuel {}
      if r ≠ .endOfFile then unexpected (some .endOfFile)
      set outer
      skip n
      pure (.output body quoted)


def rawToken : (fuel : Nat) → Parser Token
  | 0 => mistake "script too long"
  | fuel + 1 => do
    let sign (t : Token) (n : Nat) : Parser Token := do skip n; pure t
    match ← ahead with
    | [] => pure .endOfFile
    | ' ' :: _ | '\t' :: _ => do skip 1; rawToken fuel
    | '#' :: t => do
      skip (1 + (t.takeWhile (· != '\n')).length)
      rawToken fuel
    | '\n' :: _ => sign .newline 1
    | '&' :: '&' :: _ => sign .andAnd 2
    | '&' :: _ => sign .ampersand 1
    | '|' :: '|' :: _ => sign .orOr 2
    | '|' :: _ => sign .bar 1
    | ';' :: ';' :: _ => sign .endCase 2
    | ';' :: _ => sign .semicolon 1
    | '(' :: _ => sign .openParen 1
    | ')' :: _ => sign .closeParen 1
    | c :: t => do
      let next := if c.isDigit then t else c :: t
      if next.head? = some '<' ∨ next.head? = some '>' then
        let stream := if c.isDigit then some (c.toNat - '0'.toNat) else none
        let (s, n) := redirectionSign stream next
        skip (n + (if c.isDigit then 1 else 0))
        modify fun r => { r with sign := s }
        pure .redirection
      else do
        modify fun r => { r with quoted := false }
        let w ← readPlain fuel []
        modify fun r => { r with word := w }
        pure .word

/-- Passes over line breaks in front of a token. -/
def lineToken : (fuel : Nat) → Parser Token
  | 0 => mistake "script too long"
  | fuel + 1 => do
    let r ← get
    let t ← if r.again then do set { r with again := false }; pure r.latest else rawToken fuel
    modify fun r => { r with latest := t }
    if t = .newline then lineToken fuel else pure t

def nextToken : (fuel : Nat) → Expecting → Parser Token
  | 0, _ => mistake "script too long"
  | fuel + 1, e => do
    let t ← if e.lines then lineToken fuel
      else do
        let r ← get
        if r.again then do set { r with again := false }; pure r.latest else rawToken fuel
    let r ← get
    let t := match t with
      | .word =>
        if e.keywords && !r.quoted then
          match keyword? r.word with
          | some k => .keyword k
          | none => .word
        else .word
      | t => t
    set { r with latest := t }
    pure t


/-- Reads a list of commands. The flag is 0 for a list that must not be empty, 1 for one that ends
with its line, and 2 for one that may be empty. -/
def parseList : (fuel : Nat) → (flag : Nat) → Parser Command
  | 0, _ => mistake "script too long"
  | fuel + 1, flag => parseMore fuel (flag == 1) (flag == 2) .empty true

/-- Goes on with a list of commands. -/
def parseMore : (fuel : Nat) → (oneLine mayEnd : Bool) → Command → (first : Bool) → Parser Command
  | 0, _, _, _, _ => mistake "script too long"
  | fuel + 1, oneLine, mayEnd, done, first => do
    let t ← nextToken fuel { keywords := true, lines := !oneLine }
    if t = .newline then pure done
    else if t = .endOfFile then do pushBack; pure done
    else do
      pushBack
      if mayEnd && t.endsList then pure done
      else do
        let c ← parseAndOr fuel
        let t ← nextToken fuel {}
        let c := if t = .ampersand then Command.background c else c
        let all := if first then c else .sequence done c
        match t with
        | .endOfFile => do pushBack; pure all
        | .newline => do pushBack; parseMore fuel oneLine (!oneLine) all false
        | .ampersand | .semicolon => parseMore fuel oneLine (!oneLine) all false
        | _ =>
          if oneLine then unexpected none
          else do pushBack; pure all

/-- Reads commands joined by `&&` and `||`. -/
def parseAndOr : (fuel : Nat) → Parser Command
  | 0 => mistake "script too long"
  | fuel + 1 => do
    let first ← parsePipeline fuel {}
    parseJoined fuel first

/-- Goes on with commands joined by `&&` and `||`. -/
def parseJoined : (fuel : Nat) → Command → Parser Command
  | 0, _ => mistake "script too long"
  | fuel + 1, c => do
    match ← nextToken fuel {} with
    | .andAnd => do
      let d ← parsePipeline fuel { keywords := true, lines := true }
      parseJoined fuel (.both c d)
    | .orOr => do
      let d ← parsePipeline fuel { keywords := true, lines := true }
      parseJoined fuel (.either c d)
    | _ => do pushBack; pure c

/-- Reads commands joined by pipes. -/
def parsePipeline : (fuel : Nat) → Expecting → Parser Command
  | 0, _ => mistake "script too long"
  | fuel + 1, e => do
    let t ← nextToken fuel e
    let negated := t = .keyword "!"
    let c ← if negated then parseCommand fuel { keywords := true }
      else do pushBack; parseCommand fuel {}
    let stages ← parseStages fuel [c]
    let c := match stages with
      | [c] => c
      | cs => .pipeline cs
    pure (if negated then .negated c else c)

/-- Goes on with the stages of a pipe. -/
def parseStages : (fuel : Nat) → List Command → Parser (List Command)
  | 0, _ => mistake "script too long"
  | fuel + 1, cs => do
    match ← nextToken fuel {} with
    | .bar => do
      let c ← parseCommand fuel { keywords := true, lines := true }
      parseStages fuel (cs ++ [c])
    | _ => do pushBack; pure cs

/-- Reads a token that has to be a certain one. -/
def require : (fuel : Nat) → Expecting → Token → Parser Unit
  | 0, _, _ => mistake "script too long"
  | fuel + 1, e, wanted => do
    let t ← nextToken fuel e
    if t ≠ wanted then unexpected (some wanted)

def parseCommand : (fuel : Nat) → Expecting → Parser Command
  | 0, _ => mistake "script too long"
  | fuel + 1, e => do
    let t ← nextToken fuel e
    let line := (← get).line
    match t with
    | .keyword "if" => do
      let c ← parseIf fuel
      require fuel {} (.keyword "fi")
      parseRedirected fuel line c
    | .keyword "while" => do
      let c ← parseLoop fuel false
      parseRedirected fuel line c
    | .keyword "until" => do
      let c ← parseLoop fuel true
      parseRedirected fuel line c
    | .keyword "for" => do
      let c ← parseFor fuel line
      parseRedirected fuel line c
    | .keyword "case" => do
      let c ← parseCase fuel line
      parseRedirected fuel line c
    | .openParen => do
      let body ← parseList fuel 0
      require fuel {} .closeParen
      let rs ← parseRedirections fuel { keywords := true }
      pure (.subshell line body rs)
    | .keyword "\x7b" => do
      let body ← parseList fuel 0
      require fuel {} (.keyword "\x7d")
      parseRedirected fuel line body
    | .word | .redirection => do
      pushBack
      parseSimple fuel line [] [] []
    | _ => unexpected none

/-- Reads the redirections behind a command. -/
def parseRedirected : (fuel : Nat) → (line : Nat) → Command → Parser Command
  | 0, _, _ => mistake "script too long"
  | fuel + 1, line, c => do
    let rs ← parseRedirections fuel { keywords := true }
    pure (if rs.isEmpty then c else .redirected line c rs)

def parseRedirections : (fuel : Nat) → Expecting → Parser (List Redirection)
  | 0, _ => mistake "script too long"
  | fuel + 1, e => do
    match ← nextToken fuel e with
    | .redirection => do
      let r ← parseTarget fuel
      let rs ← parseRedirections fuel {}
      pure (r :: rs)
    | _ => do pushBack; pure []

def parseTarget : (fuel : Nat) → Parser Redirection
  | 0 => mistake "script too long"
  | fuel + 1 => do
    let sign := (← get).sign
    let t ← nextToken fuel {}
    if t ≠ .word then unexpected none
    else do
      let r ← get
      match sign with
      | .file stream mode => pure (.file stream mode r.word)
      | .duplicate stream =>
        match r.word with
        | [.text t false] =>
          if t = ['-'] ∨ (t.length = 1 ∧ t.all Char.isDigit) then pure (.duplicate stream r.word)
          else mistake "Bad fd number"
        | w => pure (.duplicate stream w)
      | .here stream dropTabs => do
        let body ← takeHere (markText r.word) dropTabs
        if r.quoted then pure (.here stream [.text body true])
        else do
          let outer ← get
          set { outer with rest := body }
          let w ← readHereText fuel []
          set outer
          pure (.here stream w)

/-- Reads the parts of a condition. -/
def parseIf : (fuel : Nat) → Parser Command
  | 0 => mistake "script too long"
  | fuel + 1 => do
    let test ← parseList fuel 0
    require fuel {} (.keyword "then")
    let yes ← parseList fuel 0
    match ← nextToken fuel {} with
    | .keyword "elif" => do
      let no ← parseIf fuel
      pure (.conditional test yes no)
    | .keyword "else" => do
      let no ← parseList fuel 0
      pure (.conditional test yes no)
    | _ => do pushBack; pure (.conditional test yes .empty)

def parseLoop : (fuel : Nat) → (inverted : Bool) → Parser Command
  | 0, _ => mistake "script too long"
  | fuel + 1, inverted => do
    let test ← parseList fuel 0
    require fuel {} (.keyword "do")
    let body ← parseList fuel 0
    require fuel {} (.keyword "done")
    pure (.loop inverted test body)

def parseFor : (fuel : Nat) → (line : Nat) → Parser Command
  | 0, _ => mistake "script too long"
  | fuel + 1, line => do
    let t ← nextToken fuel {}
    let r ← get
    match t, plainText? r.word with
    | .word, some name =>
      if r.quoted || !isName name then mistake "Bad for loop variable"
      else do
        let words ← match ← nextToken fuel { keywords := true, lines := true } with
          | .keyword "in" => parseWords fuel []
          | t => do
            if t ≠ .semicolon then pushBack
            pure [[.parameter ['@'] true]]
        require fuel { keywords := true, lines := true } (.keyword "do")
        let body ← parseList fuel 0
        require fuel {} (.keyword "done")
        pure (.each line name words body)
    | _, _ => mistake "Bad for loop variable"

/-- Reads the words of a loop up to the end of the line. -/
def parseWords : (fuel : Nat) → List Word → Parser (List Word)
  | 0, _ => mistake "script too long"
  | fuel + 1, ws => do
    match ← nextToken fuel {} with
    | .word => do
      let r ← get
      parseWords fuel (ws ++ [r.word])
    | .newline | .semicolon => pure ws
    | _ => unexpected none

/-- Reads the parts of a choice. -/
def parseCase : (fuel : Nat) → (line : Nat) → Parser Command
  | 0, _ => mistake "script too long"
  | fuel + 1, line => do
    let t ← nextToken fuel {}
    if t ≠ .word then unexpected (some .word)
    else do
      let subject := (← get).word
      require fuel { keywords := true, lines := true } (.keyword "in")
      let cases ← parseCases fuel []
      pure (.choice line subject cases)

def parseCases : (fuel : Nat) → List (List Word × Command) → Parser (List (List Word × Command))
  | 0, _ => mistake "script too long"
  | fuel + 1, cases => do
    let t ← nextToken fuel { keywords := true, lines := true }
    if t = .keyword "esac" then pure cases
    else do
      if t = .openParen then
        let _ ← nextToken fuel {}
      let patterns ← parsePatterns fuel []
      let body ← parseList fuel 2
      let cases := cases ++ [(patterns, body)]
      match ← nextToken fuel { keywords := true, lines := true } with
      | .keyword "esac" => pure cases
      | .endCase => parseCases fuel cases
      | _ => unexpected (some .endCase)

/-- Reads the patterns of a case; the first one is the latest token. -/
def parsePatterns : (fuel : Nat) → List Word → Parser (List Word)
  | 0, _ => mistake "script too long"
  | fuel + 1, ws => do
    let r ← get
    let isWord : Bool := match r.latest with
      | .word | .keyword _ => true
      | _ => false
    if !isWord then unexpected (some .closeParen)
    else
      match ← nextToken fuel {} with
      | .bar => do
        let _ ← nextToken fuel {}
        parsePatterns fuel (ws ++ [r.word])
      | .closeParen => pure (ws ++ [r.word])
      | _ => unexpected (some .closeParen)

/-- Reads a simple command or the definition of a function. -/
def parseSimple : (fuel : Nat) → (line : Nat) → List (Text × Word) → List Word →
    List Redirection → Parser Command
  | 0, _, _, _, _ => mistake "script too long"
  | fuel + 1, line, assigned, words, rs => do
    match ← nextToken fuel {} with
    | .word => do
      let w := (← get).word
      match if words.isEmpty then assignment? w else none with
      | some a => parseSimple fuel line (assigned ++ [a]) words rs
      | none => parseSimple fuel line assigned (words ++ [w]) rs
    | .redirection => do
      let r ← parseTarget fuel
      parseSimple fuel line assigned words (rs ++ [r])
    | .openParen =>
      match assigned, words, rs with
      | [], [w], [] => do
        require fuel {} .closeParen
        match w with
        | [.text name false] =>
          if isName name ∧ !specialBuiltins.any (·.toList == name) then do
            let body ← parseCommand fuel { keywords := true, lines := true }
            pure (.definition name body)
          else mistake "Bad function name"
        | _ => mistake "Bad function name"
      | _, _, _ => do pushBack; pure (.simple line assigned words rs)
    | _ => do pushBack; pure (.simple line assigned words rs)

end

/-- Reads the next line of commands; none at the end of the script. -/
def nextCommand (r : Reader) : Except Mistake (Option Command × Reader) :=
  match (parseList (40 * r.rest.length + 200) 1).run { r with again := false } with
  | .error m => .error m
  | .ok (c, s) =>
    .ok (match c with
      | .empty => if s.latest = .endOfFile && s.rest.isEmpty then none else some .empty
      | c => some c, s)

end Shell

end External

end SmartyLayout
