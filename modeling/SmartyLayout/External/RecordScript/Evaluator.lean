import SmartyLayout.External.RecordScript.Machine

/-!
# SmartyLayout.External.RecordScript.Evaluator — running programs

Expressions have values and may change variables, fields and tables; statements are run one after
the other. The `fuel` bounds how deep calls can nest, and loops have a most number of rounds.
-/

namespace SmartyLayout

namespace External

namespace RecordScript

def roundLimit : Nat := 10000000

/-- How deep expressions, statements and calls can nest. -/
def nestingLimit : Nat := 12000

/-! ## Texts -/

/-- What a match is replaced by: an ampersand stands for the match, unless a backslash stands in
front of it. `slashes` counts the backslashes in front. -/
def replacement (hit : Text) : (slashes : Nat) → Text → Text
  | n, [] => List.replicate n '\\'
  | n, c :: cs =>
    if c = '\\' then replacement hit (n + 1) cs
    else if c = '&' then
      List.replicate (n / 2) '\\' ++ (if n % 2 = 1 then ['&'] else hit) ++ replacement hit 0 cs
    else List.replicate n '\\' ++ c :: replacement hit 0 cs

/-- Replaces matches: the text, and how often. `free` says that an empty match counts here, which it
does not right behind another match. -/
def replaceAll (r : Regex) (by' : Text) (once : Bool) : (fuel : Nat) → (free : Bool) →
    Regex.Place → Text × Nat
  | 0, _, p => (p.after, 0)
  | fuel + 1, free, p =>
    let further : Text × Nat :=
      match p.after with
      | [] => ([], 0)
      | c :: _ =>
        let (t, n) := replaceAll r by' once fuel true (p.advance 1)
        (c :: t, n)
    match r.at? p with
    | none => further
    | some q =>
      let hit := q.since p
      if hit.isEmpty ∧ !free then further
      else
        let written := replacement hit 0 by'
        if once then (written ++ q.after, 1)
        else if hit.isEmpty then
          let (t, n) := further
          (written ++ t, n + 1)
        else
          let (t, n) := replaceAll r by' once fuel false q
          (written ++ t, n + 1)

/-- A part of a text: from a place on, so many characters. Places count from 1. -/
def substring (t : Text) (start : Float) (length : Option Float) : Text :=
  let rounded (x : Float) : Int :=
    if x.isNaN then 0 else if x > 1.0e9 then 1000000000 else if x < -1.0e9 then -1000000000
    else wholePart (x + (if x < 0 then -0.5 else 0.5))
  let first := rounded start
  let stop : Int := match length with
    | some n => if n > 1.0e9 then 1000000000 else rounded (start + n)
    | none => (t.length : Int) + 1
  let first := max 1 first
  (t.drop (first - 1).toNat).take (stop - first).toNat

/-- Why values cannot be written in a format. -/
inductive FormatFault where
  | tooFew
  /-- The directive of this number is unknown. -/
  | improper (number : Nat)

/-- Writes values in a format, up to what cannot be written; `number` is that of the next
directive. -/
def formatValues (textOf : Value → Text) : (number : Nat) → List FormatPiece → List Value →
    Text × Option FormatFault
  | _, [], _ => ([], none)
  | number, .char c :: ps, vs =>
    let (t, fault) := formatValues textOf number ps vs
    (c :: t, fault)
  | number, .unknown _ :: _, vs => ([], some (if vs.isEmpty then .tooFew else .improper number))
  | _, .stop :: _, _ => ([], none)
  | number, .directive d :: ps, vs =>
    let (d, vs) := fillDirective d (vs.map fun v => (v, v.toNumber))
    match vs with
    | [] => ([], some .tooFew)
    | v :: vs =>
      let cut (t : Text) : Text := match d.precision with
        | some p => t.take p
        | none => t
      let shown := match d.kind, v with
        | 's', v => inField d (cut (textOf v))
        | 'c', .text t => inField d [t.head?.getD '\x00']
        | 'c', .unset => inField d ['\x00']
        | 'c', v => inField d [byteChar (directiveInt v.toNumber % 256).toNat]
        | _, v => writeFloat d v.toNumber
      let (t, fault) := formatValues textOf (number + 1) ps vs
      (shown ++ t, fault)
where
  /-- Takes a width or precision from the values. -/
  fillDirective (d : Directive) (vs : List (Value × Float)) : Directive × List Value :=
    let number (x : Option (Value × Float)) : Int := directiveInt ((x.map (·.2)).getD 0)
    let (d, vs) := if d.widthGiven then
        let n := number vs.head?
        ({ d with width := some n.natAbs, flags := if n < 0 then '-' :: d.flags else d.flags },
          vs.tail)
      else (d, vs)
    if d.precisionGiven then
      let n := number vs.head?
      ({ d with precision := if n < 0 then none else some n.toNat }, vs.tail.map (·.1))
    else (d, vs.map (·.1))

/-! ## Reading -/

inductive Target where
  | plain (n : Text)
  | element (table : Nat) (k : Key)
  | field (n : Nat)

def readTarget (t : Target) : Run Value := do
  let m ← get
  match t with
  | .plain n => return m.variableValue n
  | .field n => return m.field n
  | .element table k => do
    let found := (m.tables[table]?.getD {}).find k true
    set { m with tables := m.tables.setIfInBounds table found }
    return found.get k

def writeTarget (t : Target) (v : Value) : Run Unit := do
  match t with
  | .plain n => do
    if n = ['N', 'F'] ∧ v.toNumber < 0 then
      failure (Raw.ofString "negative value assigned to NF")
    modify fun m => m.putVariable n v
  | .field n => modify fun m => m.putField n v
  | .element table k =>
    modify fun m => { m with tables := m.tables.modify table fun t => (t.find k true).put k v }

/-- An operand that sets a variable: its name and its value. -/
def setting? (t : Text) : Option (Text × Text) :=
  let name := t.takeWhile isNameChar
  match t.drop name.length with
  | '=' :: value =>
    if name.head?.any fun c => !c.isDigit then
      some (name, ((quotedText? 0 (escapeQuotes value ++ ['"'])).map (·.1)).getD value)
    else none
  | _ => none
where
  /-- A text whose quotes and line breaks are escaped. -/
  escapeQuotes : Text → Text
    | [] => []
    | '\\' :: c :: cs => '\\' :: c :: escapeQuotes cs
    | '"' :: cs => '\\' :: '"' :: escapeQuotes cs
    | '\n' :: cs => '\\' :: 'n' :: escapeQuotes cs
    | c :: cs => c :: escapeQuotes cs

/-- Opens the next file; false if there is none. -/
def openNext : (operands : List Text) → Run Bool
  | [] => do
    let m ← get
    if m.begun then
      set { m with operands := [] }
      return false
    else
      set ({ m with operands := [], input := some [], live := true, begun := true }.putVariable
        "FILENAME".toList (.text ['-']))
      return true
  | o :: os => do
    match setting? o with
    | some (n, v) => do
      modify (·.putVariable n (.ofInput v))
      openNext os
    | none => do
      if o.isEmpty then openNext os
      else
        let live := o == ['-'] || o == "/dev/stdin".toList
        let s ← inShell get
        match live, s.read? o with
        | false, none => do
          let m ← get
          inShell (Shell.write 2 (m.name ++ Raw.ofString ": cannot open \"" ++ o ++
            Raw.ofString "\" (No such file or directory)\n"))
          set { m with status := 2, program := { m.program with rules := [] } }
          throw .finish
        | live, content => do
          modify fun m =>
            { m with operands := os, live, begun := true
                     input := some (if live then [] else content.getD []) }
          modify fun m => (m.putVariable "FILENAME".toList (.text o)).putVariable "FNR".toList
            (.number 0)
          return true

def nextMain : (fuel : Nat) → Run (Option Text)
  | 0 => return none
  | fuel + 1 => do
    let m ← get
    match m.input with
    | none =>
      if ← openNext m.operands then nextMain fuel else return none
    | some _ => do
      let m ← inShell (fillInput m)
      match firstRecord (m.specialText "RS") (m.input.getD []) with
      | some (record, rest) => do
        let count (n : String) : Value := .number ((m.special n).toNumber + 1)
        set (({ m with input := some rest }.putVariable "NR".toList (count "NR")).putVariable
          "FNR".toList (count "FNR"))
        return some record
      | none => do
        set { m with input := none, live := false }
        nextMain fuel

/-- The next record of another file or of a command: none if there is no such file, and an empty
one if there is no record. -/
def nextFrom (run : CommandRunner) (o : Origin) : Run (Option (Option Text)) := do
  let m ← get
  let content ← match m.sources.find? (·.1 == o) with
    | some (_, t) => pure (some t)
    | none =>
      match o with
      | .command line => do
        flush
        pure (some (← inShell (run none true line)))
      | .file name => do
        let s ← inShell get
        if name = ['-'] ∨ name = "/dev/stdin".toList then
          inShell (set (s.leave 0 []))
          pure (some (s.pending 0))
        else if s.isDirectory name then pure none
        else pure (s.read? name)
  match content with
  | none => return none
  | some t => do
    let found := firstRecord (m.specialText "RS") t
    let rest := (found.map (·.2)).getD []
    modify fun m => { m with sources := (o, rest) :: m.sources.filter (·.1 != o) }
    return some (found.map (·.1))

/-! ## Running -/

def regexOfValue (v : Value) : Run Regex := do
  match readRegex ((← get).textOf v) with
  | .ok r => return r
  | .error message => failure message

def numberValue (n : Nat) : Value :=
  .number (Float.ofNat n)

/-- Values in the format that the first one is. What can be written before a fault is written. -/
def formatted (function : String) (vs : List Value) : Run Text := do
  let m ← get
  match vs with
  | [] => return []
  | format :: vs => do
    let format := m.textOf format
    let (t, fault) := formatValues m.textOf 1 (directivePieces 0 format) vs
    let place := Raw.ofString (function ++ "(\"") ++ format ++ Raw.ofString "\")"
    match fault with
    | none => return t
    | some fault => do
      if function = "printf" then modify fun m => { m with pending := t :: m.pending }
      match fault with
      | .tooFew => failure (Raw.ofString "not enough arguments passed to " ++ place)
      | .improper n =>
        failure (Raw.ofString ("improper conversion(number " ++ toString n ++ ") in ") ++ place)

/-- Runs a loop; `round` runs its body once and says whether to go on. -/
def rounds (round : Run Bool) : Run Unit := do
  for _ in [0:roundLimit] do
    let goes ← tryCatch round fun j =>
      match j with
      | .leaveLoop => pure false
      | .nextRound => pure true
      | j => throw j
    if !goes then break

mutual

def eval (run : CommandRunner) : (fuel : Nat) → Expr → Run Value
  | 0, _ => failure (Raw.ofString "out of memory")
  | fuel + 1, e => do
    match e with
    | .number x => return .number x
    | .text t => return .text t
    | .grouped e => eval run fuel e
    | .regex r => return .ofBool (r.find? (← get).refreshed.record).isSome
    | .name _ | .element _ _ | .field _ => do readTarget (← target run fuel e)
    | .assign op t value => do
      let place ← target run fuel t
      let v ← eval run fuel value
      match op with
      | none => do
        writeTarget place v
        return v
      | some op => do
        let old ← readTarget place
        let v := Value.number (op.apply old.toNumber v.toNumber)
        writeTarget place v
        return v
    | .step before amount t => do
      let place ← target run fuel t
      let old := (← readTarget place).toNumber
      writeTarget place (.number (old + amount))
      return .number (if before then old + amount else old)
    | .conditional test yes no => do
      if (← eval run fuel test).holds then eval run fuel yes else eval run fuel no
    | .both a b => do
      if (← eval run fuel a).holds then return .ofBool (← eval run fuel b).holds
      else return .ofBool false
    | .either a b => do
      if (← eval run fuel a).holds then return .ofBool true
      else return .ofBool (← eval run fuel b).holds
    | .negation e => return .ofBool (!(← eval run fuel e).holds)
    | .opposite e => return .number (-(← eval run fuel e).toNumber)
    | .numeric e => return .number (← eval run fuel e).toNumber
    | .arithmetic op a b => do
      let x ← eval run fuel a
      let y ← eval run fuel b
      return .number (op.apply x.toNumber y.toNumber)
    | .joined a b => do
      let x ← eval run fuel a
      let y ← eval run fuel b
      let m ← get
      return .text (m.textOf x ++ m.textOf y)
    | .compared r a b => do
      let x ← eval run fuel a
      let y ← eval run fuel b
      return .ofBool (r.decides (← get).textFormat x y)
    | .matched wanted subject pattern => do
      let t ← eval run fuel subject
      let r ← pattern? run fuel pattern
      return .ofBool ((r.find? ((← get).textOf t)).isSome == wanted)
    | .isElement index table => do
      let k ← key run fuel index
      let m ← get
      let (n, m) := m.tableOf table
      let found := (m.tables[n]?.getD {}).find k false
      set { m with tables := m.tables.setIfInBounds n found }
      return .ofBool (found.has k)
    | .call f args => call run fuel f args
    | .builtin f args => builtin run fuel f args
    | .nextRecord t => do
      match ← nextMain 1000 with
      | none => return .number 0
      | some record => do
        receive run fuel t record
        return .number 1
    | .fileRecord file t => do
      let name ← eval run fuel file
      match ← nextFrom run (.file ((← get).textOf name)) with
      | none => return .number (-1)
      | some none => return .number 0
      | some (some record) => do
        receive run fuel t record
        return .number 1
    | .commandRecord line t => do
      let name ← eval run fuel line
      match ← nextFrom run (.command ((← get).textOf name)) with
      | some (some record) => do
        receive run fuel t record
        return .number 1
      | _ => return .number 0

/-- Gives a record to a target, or makes it the record. -/
def receive (run : CommandRunner) : (fuel : Nat) → Option Expr → Text → Run Unit
  | 0, _, _ => pure ()
  | fuel + 1, t, record => do
    match t with
    | none => modify (·.setRecord record)
    | some t => do writeTarget (← target run fuel t) (.ofInput record)

/-- Where the value of an expression stands. -/
def target (run : CommandRunner) : (fuel : Nat) → Expr → Run Target
  | 0, _ => failure (Raw.ofString "out of memory")
  | fuel + 1, e => do
    match e with
    | .element table index => do
      let k ← key run fuel index
      let m ← get
      let (n, m) := m.tableOf table
      set m
      return .element n k
    | .field e => do
      let x := (← eval run fuel e).toNumber
      if x < 0 then
        failure (Raw.ofString "negative field index $" ++ numberText "%.6g".toList x)
      else return .field (wholePart x).toNat
    | .name n => return .plain n
    | e => do
      let _ ← eval run fuel e
      return .plain []

/-- The key of an index; several parts are joined. -/
def key (run : CommandRunner) : (fuel : Nat) → List Expr → Run Key
  | 0, _ => failure (Raw.ofString "out of memory")
  | fuel + 1, index => do
    match index with
    | [e] => return (← eval run fuel e).toKey (← get).textFormat
    | es => do
      let mut parts : List Text := []
      for e in es do
        let v ← eval run fuel e
        parts := parts ++ [(← get).textOf v]
      return .text (List.intercalate ((← get).specialText "SUBSEP") parts)

/-- The regular expression that an argument stands for. -/
def pattern? (run : CommandRunner) : (fuel : Nat) → Expr → Run Regex
  | 0, _ => failure (Raw.ofString "out of memory")
  | fuel + 1, e => do
    match e with
    | .regex r => return r
    | .grouped (.regex r) => return r
    | e => regexOfValue (← eval run fuel e)

/-- Calls a function of the program. Tables are given as they are, values are copied. -/
def call (run : CommandRunner) : (fuel : Nat) → Text → List Expr → Run Value
  | 0, _, _ => failure (Raw.ofString "out of memory")
  | fuel + 1, name, args => do
    match (← get).program.functions.find? (·.name == name) with
    | none => return .unset
    | some f => do
      let mut slots : List Slot := []
      for a in args do
        let slot ← match a with
          | .name n => do
            let m ← get
            match m.slot n with
            | .table k => pure (Slot.table k)
            | .pending k => pure (Slot.pending k)
            | .value .unset =>
              if n = ['N', 'F'] then pure (Slot.value (m.variableValue n))
              else do
                let k := m.tables.size
                set ({ m with tables := m.tables.push {} }.putSlot n (.pending k))
                pure (Slot.pending k)
            | .value _ => pure (Slot.value (m.variableValue n))
          | a => do pure (Slot.value (← eval run fuel a))
        slots := slots ++ [slot]
      let frame := f.parameters.zipIdx.map fun (p, i) => (p, (slots[i]?).getD (.value .unset))
      let outer := (← get).frames
      modify fun m => { m with frames := frame :: outer }
      let result ← tryCatch (do runStatements run fuel f.body; pure Value.unset) fun j =>
        match j with
        | .giveBack v => pure v
        | j => throw j
      modify fun m => { m with frames := outer }
      return result

/-- Calls a function that every program has. -/
def builtin (run : CommandRunner) : (fuel : Nat) → String → List Expr → Run Value
  | 0, _, _ => failure (Raw.ofString "out of memory")
  | fuel + 1, f, args => do
    let value (n : Nat) : Run Value :=
      match args[n]? with
      | some e => eval run fuel e
      | none => pure .unset
    let number (n : Nat) : Run Float := do return (← value n).toNumber
    let text (n : Nat) : Run Text := do
      let v ← value n
      return (← get).textOf v
    let math (g : Float → Float) : Run Value := do return .number (g (← number 0))
    match f with
    | "length" =>
      match args with
      | [] => return numberValue (← get).refreshed.record.length
      | [.name n] => do
        let m ← get
        match m.slot n with
        | .table k | .pending k => return numberValue (m.tables[k]?.getD {}).cells.size
        | .value _ => return numberValue (← text 0).length
      | _ => return numberValue (← text 0).length
    | "substr" => do
      let t ← text 0
      let start ← number 1
      let length ← if args.length > 2 then pure (some (← number 2)) else pure none
      return .text (substring t start length)
    | "index" => do
      let t ← text 0
      let s ← text 1
      if s.isEmpty then return .number 1
      else
        match Text.through s t with
        | some n => return numberValue (n - s.length + 1)
        | none => return .number 0
    | "split" => do
      let t ← text 0
      let parts ← match (args[2]? : Option Expr) with
        | some (.regex r) =>
          pure (if t.isEmpty then [] else Machine.regexParts r (t.length + 1) [] ⟨[], t, []⟩)
        | some _ => do pure (Machine.splitText (← text 2) false t)
        | none => do pure (Machine.splitText ((← get).specialText "FS") false t)
      match (args[1]? : Option Expr) with
      | some (.name n) => do
        let (k, m) := (← get).tableOf n
        set { m with tables := m.tables.setIfInBounds k (Table.ofParts parts) }
      | _ => pure ()
      return numberValue parts.length
    | "sub" | "gsub" => do
      match (args[0]? : Option Expr) with
      | none => return .number 0
      | some e => do
        let r ← pattern? run fuel e
        let by' ← text 1
        let place ← match (args[2]? : Option Expr) with
          | some e => target run fuel e
          | none => pure (Target.field 0)
        let old ← readTarget place
        let t := (← get).textOf old
        if f = "sub" then
          match r.find? t with
          | none => return .number 0
          | some (p, q) => do
            writeTarget place (.text (p.before.reverse ++ replacement (q.since p) 0 by' ++ q.after))
            return .number 1
        else
          let (t, n) := replaceAll r by' false (2 * t.length + 2) true ⟨[], t, []⟩
          if n = 0 then return .number 0
          else
            writeTarget place (.text t)
            return numberValue n
    | "match" => do
      let t ← text 0
      match (args[1]? : Option Expr) with
      | none => return .number 0
      | some e => do
        let r ← pattern? run fuel e
        let (start, length) : Float × Float := match r.find? t with
          | some (p, q) => (Float.ofNat (p.before.length + 1), Float.ofNat (q.since p).length)
          | none => (0, -1)
        modify fun m => (m.putVariable "RSTART".toList (.number start)).putVariable
          "RLENGTH".toList (.number length)
        return .number start
    | "sprintf" => do
      let mut vs : List Value := []
      for e in args do
        vs := vs ++ [← eval run fuel e]
      return .text (← formatted "sprintf" vs)
    | "tolower" => return .text ((← text 0).map Char.toLower)
    | "toupper" => return .text ((← text 0).map Char.toUpper)
    | "int" => do
      let x ← number 0
      return .number (if x.isFinite then ofInt (wholePart x) else x)
    | "sin" => math Float.sin
    | "cos" => math Float.cos
    | "exp" => math Float.exp
    | "log" => math Float.log
    | "sqrt" => math Float.sqrt
    | "atan2" => do
      let y ← number 0
      return .number (Float.atan2 y (← number 1))
    | "rand" => return .number 0.5
    | "srand" => return .number 0
    | "system" => do
      let line ← text 0
      flush
      let _ ← inShell (run none false line)
      return numberValue ((← inShell get).status % 256)
    | "close" => do
      let name ← text 0
      let m ← get
      let named (o : Origin) : Bool := o == .file name || o == .command name
      let known := m.sources.any fun (o, _) => named o
      set { m with sources := m.sources.filter fun (o, _) => !named o }
      match ← closeOutlet run (.file name), ← closeOutlet run (.command name) with
      | some n, _ | none, some n => return numberValue n
      | none, none => return .number (if known then 0 else -1)
    | "fflush" => do
      flush
      return .number 0
    | _ => return .unset

def runStatements (run : CommandRunner) : (fuel : Nat) → List Statement → Run Unit
  | 0, _ => failure (Raw.ofString "out of memory")
  | fuel + 1, body => do
    for s in body do
      runStatement run fuel s

def output (run : CommandRunner) : (fuel : Nat) → Destination → Text → Run Unit
  | 0, _, _ => pure ()
  | fuel + 1, d, t => do
    match d with
    | .standard => modify fun m => { m with pending := t :: m.pending }
    | .file e => do
      let v ← eval run fuel e
      writeFile false ((← get).textOf v) t
    | .append e => do
      let v ← eval run fuel e
      writeFile true ((← get).textOf v) t
    | .command e => do
      let v ← eval run fuel e
      writeCommand ((← get).textOf v) t

def runStatement (run : CommandRunner) : (fuel : Nat) → Statement → Run Unit
  | 0, _ => failure (Raw.ofString "out of memory")
  | fuel + 1, s => do
    match s with
    | .expression e => do
      let _ ← eval run fuel e
    | .block body => runStatements run fuel body
    | .print args dest => do
      let mut parts : List Text := []
      for e in args do
        let v ← eval run fuel e
        parts := parts ++ [v.toText ((← get).specialText "OFMT")]
      let m ← get
      let line := if args.isEmpty then m.refreshed.record
        else List.intercalate (m.specialText "OFS") parts
      output run fuel dest (line ++ m.specialText "ORS")
    | .printf args dest => do
      let mut vs : List Value := []
      for e in args do
        vs := vs ++ [← eval run fuel e]
      output run fuel dest (← formatted "printf" vs)
    | .branch test yes no => do
      if (← eval run fuel test).holds then runStatement run fuel yes
      else
        match no with
        | some s => runStatement run fuel s
        | none => pure ()
    | .repeatWhile test body =>
      rounds do
        if (← eval run fuel test).holds then
          runStatement run fuel body
          return true
        else return false
    | .doWhile body test => do
      let mut going := true
      for _ in [0:roundLimit] do
        going ← tryCatch (do runStatement run fuel body; pure true) fun j =>
          match j with
          | .leaveLoop => pure false
          | .nextRound => pure true
          | j => throw j
        if !going then break
        if !(← eval run fuel test).holds then break
    | .loop first test next body => do
      match first with
      | some s => runStatement run fuel s
      | none => pure ()
      for _ in [0:roundLimit] do
        let holds ← match test with
          | some e => do pure (← eval run fuel e).holds
          | none => pure true
        if !holds then break
        let going ← tryCatch (do runStatement run fuel body; pure true) fun j =>
          match j with
          | .leaveLoop => pure false
          | .nextRound => pure true
          | j => throw j
        if !going then break
        match next with
        | some s => runStatement run fuel s
        | none => pure ()
    | .forEach n table body => do
      let (k, m) := (← get).tableOf table
      let t := (m.tables[k]?.getD {}).withTexts
      set { m with tables := m.tables.setIfInBounds k t }
      for s in t.keys do
        modify (·.putVariable n (.text s))
        let going ← tryCatch (do runStatement run fuel body; pure true) fun j =>
          match j with
          | .leaveLoop => pure false
          | .nextRound => pure true
          | j => throw j
        if !going then break
    | .skipRecord => throw .skipRecord
    | .skipFile => throw .skipFile
    | .leaveLoop => throw .leaveLoop
    | .nextRound => throw .nextRound
    | .finish status => do
      match status with
      | some e => do
        let x := (← eval run fuel e).toNumber
        modify fun m => { m with status := (directiveInt x % 256).toNat }
      | none => pure ()
      throw .finish
    | .giveBack v => do
      match v with
      | some e => throw (.giveBack (← eval run fuel e))
      | none => throw (.giveBack .unset)
    | .delete table index => do
      let (k, m) := (← get).tableOf table
      set m
      match index with
      | none => modify fun m => { m with tables := m.tables.setIfInBounds k {} }
      | some index => do
        let i ← key run fuel index
        modify fun m => { m with tables := m.tables.modify k (·.remove i) }

end

/-! ## Programs -/

/-- Runs an action; without one the record is printed. -/
def runAction (run : CommandRunner) (action : Option (List Statement)) : Run Unit :=
  runStatements run nestingLimit (action.getD [.print [] .standard])

def runRule (run : CommandRunner) (number : Nat) (r : Rule) : Run Unit := do
  let holds (e : Expr) : Run Bool := do return (← eval run nestingLimit e).holds
  match r.pattern with
  | .atStart | .atEnd => pure ()
  | .always => runAction run r.action
  | .test e => if ← holds e then runAction run r.action
  | .between first last => do
    let inside := (← get).within.contains number
    let begins ← if inside then pure true else holds first
    if begins then
      let ends ← holds last
      modify fun m =>
        { m with within := if ends then m.within.filter (· != number)
                   else if inside then m.within else number :: m.within }
      runAction run r.action

def runRecords (run : CommandRunner) (rules : List (Rule × Nat)) : Run Unit := do
  for _ in [0:roundLimit] do
    match ← nextMain 1000 with
    | none => break
    | some record => do
      modify (·.setRecord record)
      tryCatch (for (r, n) in rules do runRule run n r) fun j =>
        match j with
        | .skipRecord => pure ()
        | .skipFile => modify fun m => { m with input := none, live := false }
        | j => throw j

/-- Runs the rules that have no record: those at the start, or those at the end. -/
def runEdge (run : CommandRunner) (rules : List Rule) (atStart : Bool) : Run Unit := do
  for r in rules do
    match r.pattern with
    | .atStart => if atStart then runAction run r.action
    | .atEnd => if !atStart then runAction run r.action
    | _ => pure ()

/-- Runs something and says whether the program is to end. -/
def finishes (x : Run Unit) : Run Bool :=
  tryCatch (do x; pure false) fun _ => pure true

def runProgram (run : CommandRunner) : Run Unit := do
  let rules := (← get).program.rules
  let isEdge (r : Rule) : Bool := match r.pattern with
    | .atStart => true
    | _ => false
  let ended ← finishes (runEdge run rules true)
  if !ended && !rules.all isEdge then
    let _ ← finishes (runRecords run rules.zipIdx)
  let _ ← finishes (runEdge run (← get).program.rules false)
  for (o, _) in (← get).outlets do
    let _ ← closeOutlet run o
  flush

/-! ## The program -/

structure CommandLine where
  separator : Option Text := none
  settings : List Text := []
  files : List Text := []
  operands : List Text := []

/-- Reads the arguments; none if an option lacks its value. -/
def CommandLine.read (c : CommandLine) : List Text → Option CommandLine
  | [] => some c
  | ['-', '-'] :: rest => some { c with operands := rest }
  | ['-', 'F'] :: v :: rest => CommandLine.read { c with separator := some v } rest
  | ['-', 'v'] :: v :: rest => CommandLine.read { c with settings := c.settings ++ [v] } rest
  | ['-', 'f'] :: v :: rest => CommandLine.read { c with files := c.files ++ [v] } rest
  | ['-', 'W'] :: _ :: rest => CommandLine.read c rest
  | ('-' :: 'F' :: x :: v) :: rest => CommandLine.read { c with separator := some (x :: v) } rest
  | ('-' :: 'v' :: x :: v) :: rest =>
    CommandLine.read { c with settings := c.settings ++ [x :: v] } rest
  | ('-' :: 'f' :: x :: v) :: rest => CommandLine.read { c with files := c.files ++ [x :: v] } rest
  | ('-' :: 'W' :: _ :: _) :: rest => CommandLine.read c rest
  | ['-', _] :: [] => none
  | args => some { c with operands := args }

def startMachine (name : Text) (p : Program) (c : CommandLine) (environment : List (Text × Text)) :
    Machine :=
  let m : Machine := { name, program := p, operands := c.operands }
  let m := initialVariables.foldl (fun (m : Machine) (n, v) => m.putVariable n.toList v) m
  let fill (m : Machine) (n : String) (entries : List (Key × Text)) : Machine :=
    let (k, m) := m.tableOf n.toList
    let t := entries.foldl (fun (t : Table) (key, v) => (t.find key true).put key (.ofInput v)) {}
    { m with tables := m.tables.setIfInBounds k t }
  let arguments := (name :: c.operands).zipIdx.map fun (a, i) => (Key.int i, a)
  let m := fill m "ENVIRON" (environment.map fun (n, v) => (Key.text n, v))
  let m := fill m "ARGV" arguments
  let m := m.putVariable "ARGC".toList (numberValue arguments.length)
  let m := match c.separator with
    | some s =>
      let v := ((setting? ('x' :: '=' :: s)).map (·.2)).getD s
      m.putVariable "FS".toList (.text v)
    | none => m
  c.settings.foldl (fun m s =>
    match setting? s with
    | some (n, v) => m.putVariable n (.ofInput v)
    | none => m) m

def complain (name message : Text) : Shell.Eval Unit := do
  Shell.write 2 (name ++ Raw.ofString ": " ++ message ++ ['\n'])
  Shell.setStatus 2

/-- Runs a program on the records of files or of the standard input. -/
def awk (run : CommandRunner) : Shell.FileProgram := fun path args => do
  let name := baseName path
  let s ← get
  match CommandLine.read {} args with
  | none => complain name (Raw.ofString "option requires an argument")
  | some c => do
    let sources : Except Text (Text × CommandLine) :=
      if c.files.isEmpty then
        match c.operands with
        | [] => .error []
        | t :: rest => .ok (t, { c with operands := rest })
      else
        (c.files.mapM fun f =>
          match s.read? f with
          | some t => Except.ok t
          | none => .error f).map fun ts => (List.intercalate ['\n'] ts, c)
    match sources with
    | .error [] => do
      Shell.write 1 (Raw.ofString "Usage: " ++ name ++
        Raw.ofString " [Options] [Program] [file ...]\n")
      Shell.setStatus 2
    | .error f =>
      complain name (Raw.ofString "cannot open \"" ++ f ++
        Raw.ofString "\" (No such file or directory)")
    | .ok (t, c) =>
      match parse t with
      | .error fault =>
        for message in fault.complaints do
          complain name message
      | .ok p => do
        let environment := s.environment.map fun (n, v) => (n, v.value.getD [])
        let (_, m) ← ((runProgram run).run).run (startMachine name p c environment)
        Shell.setStatus m.status

end RecordScript

end External

end SmartyLayout
