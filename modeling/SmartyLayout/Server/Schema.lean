import SmartyLayout.Data
import SmartyLayout.Server.Uri

/-!
# SmartyLayout.Server.Schema — the shapes of messages

A schema says which values a message may hold. A record is written as a table, or as the list of its
values in order; some records can be written as tables only.
-/

namespace SmartyLayout

namespace Data

/-- An integer of 32 bits with a sign. -/
def int32? : Data → Option Int
  | .int n => if -0x80000000 ≤ n ∧ n < 0x80000000 then some n else none
  | _ => none

def uri? (d : Data) : Option Uri :=
  d.text?.bind Uri.parse?

/-- The value names a case, by its word or by its place among the cases. -/
def namesCase (word : String) (place : Nat) : Data → Bool
  | .text t => t == word.toList
  | .int n => n == place
  | _ => false

def isNumber : Data → Bool
  | .int _ | .real => true
  | _ => false

end Data

namespace Server

/-- The shape of a value. -/
inductive Schema where
  | any
  | bool
  /-- A natural number of 32 bits. -/
  | word
  /-- An integer of 32 bits. -/
  | int
  | number
  | text
  /-- The name of a document. -/
  | uri
  /-- One of some words. -/
  | choice (words : List String)
  | list (item : Schema)
  /-- Two values of one shape. -/
  | pair (item : Schema)
  /-- A table with texts for keys. -/
  | map (item : Schema)
  /-- A table with names of documents for keys. -/
  | uriMap (item : Schema)
  /-- A value that may be null; a field of this shape may be absent from a table. -/
  | optional (s : Schema)
  /-- A field of this shape may be absent. -/
  | defaulted (s : Schema)
  | oneOf (ss : List Schema)
  /-- A table with fields, or the list of their values. -/
  | record (fields : List (String × Schema))
  /-- A table with fields; all other fields have the shape `others`. -/
  | table (fields : List (String × Schema)) (others : Schema)
  /-- A table whose field `key` says which shape it has, or a list whose first value says so. -/
  | tagged (key : String) (cases : List (String × Schema))

namespace Schema

/-- A field of this shape may be absent from a table. -/
def mayBeAbsent : Schema → Bool
  | .optional _ | .defaulted _ => true
  | _ => false

/-- A field of this shape may be absent from a list. -/
def isDefaulted : Schema → Bool
  | .defaulted _ => true
  | _ => false

mutual

def accepts : Schema → Data → Bool
  | .any, _ => true
  | .bool, d => d.bool?.isSome
  | .word, d => (d.word? 32).isSome
  | .int, d => d.int32?.isSome
  | .number, d => d.isNumber
  | .text, d => d.text?.isSome
  | .uri, d => d.uri?.isSome
  | .choice words, d => (d.choice? .message).any fun word => words.any (·.toList == word)
  | .list item, .list xs => xs.all fun x => item.accepts x
  | .list _, _ => false
  | .pair item, .list [x, y] => item.accepts x && item.accepts y
  | .pair _, _ => false
  | .map item, .table fields => fields.all fun f => item.accepts f.2
  | .map _, _ => false
  | .uriMap item, .table fields =>
    fields.all fun f => (Uri.parse? f.1).isSome && item.accepts f.2
  | .uriMap _, _ => false
  | .optional _, .null => true
  | .optional s, d => s.accepts d
  | .defaulted s, d => s.accepts d
  | .oneOf ss, d => someAccepts ss d
  | .record fields, .list xs => acceptValues fields xs
  | .record fields, .table entries => acceptFields fields (.table entries)
  | .record _, _ => false
  | .table fields others, .table entries =>
    acceptFields fields (.table entries) &&
      entries.all fun e => fields.any (·.1.toList == e.1) || others.accepts e.2
  | .table _ _, _ => false
  | .tagged _ cases, .list (tag :: xs) => caseAccepts cases 0 tag (.list xs)
  | .tagged key cases, d =>
    match d.field? key with
    | some tag => caseAccepts cases 0 tag d
    | none => false

/-- A value has one of some shapes. -/
def someAccepts : List Schema → Data → Bool
  | [], _ => false
  | s :: ss, d => s.accepts d || someAccepts ss d

/-- The values of a list have the shapes of fields, in order. -/
def acceptValues : List (String × Schema) → List Data → Bool
  | [], xs => xs.isEmpty
  | (_, s) :: fields, [] => s.isDefaulted && acceptValues fields []
  | (_, s) :: fields, x :: xs => s.accepts x && acceptValues fields xs

/-- The fields of a table have their shapes. -/
def acceptFields : List (String × Schema) → Data → Bool
  | [], _ => true
  | (key, s) :: fields, d =>
    (match d.field? key with
      | none => s.mayBeAbsent
      | some v => s.accepts v) && acceptFields fields d

/-- A value has the shape of the case that a tag names; `place` counts the cases in front. -/
def caseAccepts : List (String × Schema) → (place : Nat) → (tag : Data) → Data → Bool
  | [], _, _, _ => false
  | (name, s) :: cases, place, tag, d =>
    if tag.namesCase name place then s.accepts d else caseAccepts cases (place + 1) tag d

end

end Schema

end Server

end SmartyLayout
