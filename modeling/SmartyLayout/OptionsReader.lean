import SmartyLayout.Data
import SmartyLayout.Options

/-!
# SmartyLayout.OptionsReader — options as values

Reads formatting options from a table of settings. Missing settings keep their defaults, unknown
ones are passed over, and a setting of the wrong kind or out of range spoils the whole table.
-/

namespace SmartyLayout

def IndentSize.ofData? (d : Data) : Option IndentSize :=
  (d.word? 32).bind IndentSize.ofNat?

def WrapLength.ofData? (d : Data) : Option WrapLength :=
  (d.word? 64).map WrapLength.ofNat

def WrapAttributes.ofData? (s : Source) (d : Data) : Option WrapAttributes :=
  (d.choice? s).bind fun t => ofName? (String.ofList t)

/-- The most blank lines in a row; nothing and 0 both mean that there is no limit. -/
def Options.limitOfData? : Data → Option (Option Nat)
  | .null => some none
  | d => (d.word? 64).map fun n => if n = 0 then none else some n

/-- The settings in the order in which a list gives them. -/
def Options.keys : List String :=
  ["indent-size", "insert-spaces", "indent-inner-html", "preserve-newlines",
    "max-preserve-newlines", "wrap-line-length", "wrap-attributes", "end-with-newline"]

/-- The options of a table or a list. -/
def Options.ofData? (s : Source) (d : Data) : Option Options := do
  let d ← d.record? true keys
  let base : Options := {}
  let indentSize ← d.fieldOr "indent-size" base.indentSize IndentSize.ofData?
  let insertSpaces ← d.fieldOr "insert-spaces" base.insertSpaces Data.bool?
  let indentInnerHtml ← d.fieldOr "indent-inner-html" base.indentInnerHtml Data.bool?
  let preserveNewlines ← d.fieldOr "preserve-newlines" base.preserveNewlines Data.bool?
  let maxPreserveNewlines ←
    d.fieldOr "max-preserve-newlines" base.maxPreserveNewlines limitOfData?
  let wrapLineLength ← d.fieldOr "wrap-line-length" base.wrapLineLength WrapLength.ofData?
  let wrapAttributes ← d.fieldOr "wrap-attributes" base.wrapAttributes (WrapAttributes.ofData? s)
  let endWithNewline ← d.fieldOr "end-with-newline" base.endWithNewline Data.bool?
  some { indentSize, insertSpaces, indentInnerHtml, preserveNewlines, maxPreserveNewlines,
         wrapLineLength, wrapAttributes, endWithNewline }

end SmartyLayout
