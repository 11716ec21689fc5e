import SmartyLayout.Toml.Scalar

/-!
# SmartyLayout.Toml.Reader — settings files

Reads a settings file into a table of values. A table may be opened by one header only; dotted keys
open tables that no header may reopen, and put values into no table that a header has opened.
Values, inline tables among them, are never extended. Brackets and keys nest to a fixed depth only.
-/

namespace SmartyLayout

namespace Toml

/-! ## Tables under construction -/

/-- How a table came to be. -/
inductive Origin where
  /-- By a header of its own. -/
  | header
  /-- By the header of a table inside it. -/
  | implied
  /-- By a dotted key. -/
  | dotted
deriving DecidableEq, Repr

/-- What a key stands for while a file is read. -/
inductive Item where
  | value (d : Data)
  | table (origin : Origin) (fields : List (Text × Item))
  /-- Tables opened one after the other by double brackets, latest first. -/
  | tables (elements : List (List (Text × Item)))

abbrev Fields := List (Text × Item)

/-- Changes the item of a key, or adds one. Nothing comes of a change that is refused. -/
def change (key : Text) (f : Option Item → Option Item) : Fields → Option Fields
  | [] => (f none).map fun item => [(key, item)]
  | (k, item) :: later =>
    if k = key then (f (some item)).map fun item => (k, item) :: later
    else (change key f later).map ((k, item) :: ·)

/-- Puts a value under a dotted key. On the way it passes through tables that no header has opened,
which are tables of dotted keys from then on, and through the latest of several tables; the value
may not stand in such a one itself. -/
def assign (value : Data) : List Text → Fields → Option Fields
  | [], _ => none
  | [key], fields =>
    change key (fun
      | none => some (.value value)
      | some _ => none) fields
  | key :: later, fields =>
    let last := later.length == 1
    change key (fun
      | none => (assign value later []).map (.table .dotted)
      | some (.table .dotted inner) | some (.table .implied inner) =>
        (assign value later inner).map (.table .dotted)
      | some (.tables (latest :: earlier)) =>
        -- the value itself may not stand in the latest table
        if last then none
        else (assign value later latest).map fun inner => .tables (inner :: earlier)
      | some _ => none) fields

/-- Opens the table of a header. -/
def openTable : List Text → Fields → Option Fields
  | [], _ => none
  | [key], fields =>
    change key (fun
      | none => some (.table .header [])
      | some (.table .implied inner) => some (.table .header inner)
      | some _ => none) fields
  | key :: later, fields =>
    change key (fun
      | none => (openTable later []).map (.table .implied)
      | some (.table origin inner) => (openTable later inner).map (.table origin)
      | some (.tables (latest :: earlier)) =>
        (openTable later latest).map fun inner => .tables (inner :: earlier)
      | some _ => none) fields

/-- Adds a table to the list of a double header. -/
def addTable : List Text → Fields → Option Fields
  | [], _ => none
  | [key], fields =>
    change key (fun
      | none => some (.tables [[]])
      | some (.tables elements) => some (.tables ([] :: elements))
      | some _ => none) fields
  | key :: later, fields =>
    change key (fun
      | none => (addTable later []).map (.table .implied)
      | some (.table origin inner) => (addTable later inner).map (.table origin)
      | some (.tables (latest :: earlier)) =>
        (addTable later latest).map fun inner => .tables (inner :: earlier)
      | some _ => none) fields

/-- Puts a value under a dotted key of the table that the headers have led to. -/
def assignAt (value : Data) (dotted : List Text) : List Text → Fields → Option Fields
  | [], fields => assign value dotted fields
  | key :: later, fields =>
    change key (fun
      | some (.table origin inner) => (assignAt value dotted later inner).map (.table origin)
      | some (.tables (latest :: earlier)) =>
        (assignAt value dotted later latest).map fun inner => .tables (inner :: earlier)
      | _ => none) fields

mutual

def Item.toData : Item → Data
  | .value d => d
  | .table _ fields => .table (fieldsToData fields)
  | .tables elements => .list (elementsToData elements).reverse

def fieldsToData : List (Text × Item) → List (Text × Data)
  | [] => []
  | (k, item) :: later => (k, item.toData) :: fieldsToData later

def elementsToData : List (List (Text × Item)) → List Data
  | [] => []
  | fields :: later => .table (fieldsToData fields) :: elementsToData later

end

/-! ## Keys and blanks -/

def afterSpaces (t : Text) : Text :=
  t.dropWhile isSpace

/-- The text behind blanks, line breaks and comments. The flag tells whether a comment is open. -/
def afterTrivia : Bool → Text → Option Text
  | _, [] => some []
  | true, c :: cs =>
    if c = '\n' then afterTrivia false cs
    else if c = '\r' then (if cs.head? = some '\n' then afterTrivia true cs else none)
    else if isControl c then none
    else afterTrivia true cs
  | false, c :: cs =>
    if isSpace c ∨ c = '\n' then afterTrivia false cs
    else if c = '\r' then (if cs.head? = some '\n' then afterTrivia false cs else none)
    else if c = '#' then afterTrivia true cs
    else some (c :: cs)

/-- The text behind the end of a line: blanks, a comment, and a line break or the end. -/
def afterLine? (t : Text) : Option Text :=
  match afterSpaces t with
  | [] => some []
  | '#' :: cs =>
    let comment := cs.takeWhile fun c => !(isControl c)
    match cs.drop comment.length with
    | [] => some []
    | rest => afterBreak? rest
  | rest => afterBreak? rest

/-- A character of a key without quotes. -/
def isKeyChar (c : Char) : Bool :=
  c.isAlphanum || c == '_' || c == '-'

def simpleKey? (t : Text) : Option (Text × Text) :=
  let word := t.takeWhile isKeyChar
  if word.isEmpty then lineString? t else some (word, t.drop word.length)

/-- How deep brackets may nest, and how many keys dots may join. -/
def depthLimit : Nat := 80

/-- Reads keys joined by dots; there are at most `fuel` of them. -/
def keyPath? : (fuel : Nat) → Text → Option (List Text × Text)
  | 0, _ => none
  | fuel + 1, t => do
    let (key, rest) ← simpleKey? t
    match afterSpaces rest with
    | '.' :: cs =>
      let (later, rest) ← keyPath? fuel (afterSpaces cs)
      some (key :: later, rest)
    | _ => some ([key], rest)

/-! ## Values -/

mutual

/-- Reads a value. It may open `room` brackets inside each other; `fuel` bounds the steps. -/
def value? : (fuel room : Nat) → Text → Option (Data × Text)
  | 0, _, _ => none
  | fuel + 1, room, t =>
    match t, room with
    | '[' :: _, 0 | '{' :: _, 0 => none
    | '[' :: cs, room + 1 => do
      let (items, rest) ← items? fuel room cs
      some (.list items, rest)
    | '{' :: cs, room + 1 => do
      let (fields, rest) ← pairs? fuel room [] cs
      some (.table (fieldsToData fields), rest)
    | '"' :: _, _ | '\x27' :: _, _ => (string? t).map fun (s, rest) => (.text s, rest)
    | _, _ => bare? t

/-- Reads the items of a list behind its opening bracket or a comma. -/
def items? : (fuel room : Nat) → Text → Option (List Data × Text)
  | 0, _, _ => none
  | fuel + 1, room, t => do
    let t ← afterTrivia false t
    match t with
    | ']' :: rest => some ([], rest)
    | _ =>
      let (item, rest) ← value? fuel room t
      let rest ← afterTrivia false rest
      match rest with
      | ',' :: rest =>
        let (later, rest) ← items? fuel room rest
        some (item :: later, rest)
      | ']' :: rest => some ([item], rest)
      | _ => none

/-- Reads the fields of an inline table behind its opening brace or a comma. -/
def pairs? : (fuel room : Nat) → Fields → Text → Option (Fields × Text)
  | 0, _, _, _ => none
  | fuel + 1, room, fields, t => do
    let t ← afterTrivia false t
    match t with
    | '}' :: rest => some (fields, rest)
    | _ =>
      let (path, rest) ← keyPath? depthLimit t
      let rest ← afterTrivia false rest
      match rest with
      | '=' :: rest =>
        let rest ← afterTrivia false rest
        let (d, rest) ← value? fuel room rest
        let fields ← assign d path fields
        let rest ← afterTrivia false rest
        match rest with
        | ',' :: rest => pairs? fuel room fields rest
        | '}' :: rest => some (fields, rest)
        | _ => none
      | _ => none

end

/-! ## Documents -/

/-- A file under reading: its fields, and the table that the last header opened. -/
structure State where
  fields : Fields := []
  current : List Text := []

/-- Reads a header behind its first bracket. -/
def header? (st : State) (t : Text) : Option (State × Text) :=
  match t with
  | '[' :: cs => do
    let (path, rest) ← keyPath? depthLimit (afterSpaces cs)
    match afterSpaces rest with
    | ']' :: ']' :: rest =>
      let fields ← addTable path st.fields
      some ({ fields, current := path }, rest)
    | _ => none
  | cs => do
    let (path, rest) ← keyPath? depthLimit (afterSpaces cs)
    match afterSpaces rest with
    | ']' :: rest =>
      let fields ← openTable path st.fields
      some ({ fields, current := path }, rest)
    | _ => none

def pair? (st : State) (t : Text) : Option (State × Text) := do
  let (path, rest) ← keyPath? depthLimit t
  match afterSpaces rest with
  | '=' :: rest =>
    let (d, rest) ← value? t.length depthLimit (afterSpaces rest)
    let fields ← assignAt d path st.current st.fields
    some ({ st with fields }, rest)
  | _ => none

def lines? : (fuel : Nat) → State → Text → Option State
  | 0, _, _ => none
  | fuel + 1, st, t =>
    match afterSpaces t with
    | [] => some st
    | '[' :: cs => do
      let (st, rest) ← header? st cs
      let rest ← afterLine? rest
      lines? fuel st rest
    | c :: cs =>
      if c = '#' ∨ c = '\n' ∨ c = '\r' then do
        let rest ← afterLine? (c :: cs)
        lines? fuel st rest
      else do
        let (st, rest) ← pair? st (c :: cs)
        let rest ← afterLine? rest
        lines? fuel st rest

/-- Reads a settings file; a byte order mark in front does not count. -/
def parse? (t : Text) : Option Data :=
  let t := if t.head? = some (Char.ofNat 0xFEFF) then t.tail else t
  (lines? (t.length + 1) {} t).map fun st => .table (fieldsToData st.fields)

end Toml

end SmartyLayout
