import SmartyLayout.Text.Blank

/-!
# SmartyLayout.Tag.Taxonomy — which tags shape the layout

A taxonomy sorts tag names into those that open a block, those that split one, those that close
one, and the verbatim blocks whose content is never scanned for tags. Names are compared exactly;
a name in none of the sets is plain text.
-/

namespace SmartyLayout

/-- The part a recognised tag plays in block nesting. -/
inductive Role where
  | start
  | middle
  | finish
deriving DecidableEq, Repr

/-- The sets of tag names that decide nesting. -/
structure Taxonomy where
  start : List Text
  middle : List Text
  finish : List Text
  verbatim : List Text := []
deriving DecidableEq, Repr

namespace Taxonomy

/-- Tags that open a block and are closed by `{/name}`. -/
def blockNames : List Text :=
  ["block", "capture", "for", "foreach", "function", "if", "literal", "section", "setfilter",
    "strip", "while"].map String.toList

/-- Tags that split a block without closing it. -/
def middleNames : List Text :=
  ["else", "elseif", "foreachelse", "sectionelse"].map String.toList

/-- Blocks whose content is not scanned for tags. -/
def verbatimNames : List Text :=
  ["literal".toList]

/-- Each name becomes both an opening and a closing tag. -/
def addBlocks (t : Taxonomy) (names : List Text) : Taxonomy :=
  { t with start := names ++ t.start, finish := names ++ t.finish }

/-- Each name also splits a block. -/
def addMiddles (t : Taxonomy) (names : List Text) : Taxonomy :=
  { t with middle := names ++ t.middle }

/-- The verbatim blocks are these and no others; they are block tags as well. -/
def setVerbatim (t : Taxonomy) (names : List Text) : Taxonomy :=
  { t.addBlocks names with verbatim := names }

/-- The tags built into the template language. -/
def default : Taxonomy :=
  ({ start := blockNames, middle := middleNames, finish := blockNames } : Taxonomy).setVerbatim
    verbatimNames

instance : Inhabited Taxonomy := ⟨default⟩

/-- The role of a tag; `closing` says that its name follows a slash. A name that both opens and
splits blocks opens one. -/
def classify (t : Taxonomy) (name : Text) (closing : Bool) : Option Role :=
  if closing then (if name ∈ t.finish then some .finish else none)
  else if name ∈ t.start then some .start
  else if name ∈ t.middle then some .middle
  else none

/-- The block `name` is verbatim. -/
def isVerbatim (t : Taxonomy) (name : Text) : Bool :=
  name ∈ t.verbatim

end Taxonomy

end SmartyLayout
