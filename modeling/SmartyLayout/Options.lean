import SmartyLayout.Text.Blank

/-!
# SmartyLayout.Options — how a document is to be laid out

Formatting options with their defaults, and the two number types whose range is part of the
type's meaning: an indent size between 1 and 8 and a wrap length where 0 stands for "never".
-/

namespace SmartyLayout

/-- Columns of one indentation level, between 1 and 8. -/
structure IndentSize where
  val : Nat
  one_le : 1 ≤ val := by decide
  le_eight : val ≤ 8 := by decide
deriving DecidableEq, Repr

/-- A number outside the range of an indent size. -/
structure IndentSize.Error where
  value : Nat
deriving DecidableEq, Repr

namespace IndentSize

/-- The indent size of a number in range. -/
def ofNat? (n : Nat) : Option IndentSize :=
  if h : 1 ≤ n ∧ n ≤ 8 then some ⟨n, h.1, h.2⟩ else none

/-- The indent size of a number, or the number itself as the fault. -/
def ofNat (n : Nat) : Except Error IndentSize :=
  match ofNat? n with
  | some size => .ok size
  | none => .error ⟨n⟩

def default : IndentSize := ⟨4, by decide, by decide⟩

instance : Inhabited IndentSize := ⟨default⟩

def Error.message (e : Error) : String :=
  s!"indent-size must be between 1 and 8, got {e.value}"

end IndentSize

/-- The column after which markup is wrapped; none means that lines are never wrapped. -/
structure WrapLength where
  limit : Option Nat
deriving DecidableEq, Repr

namespace WrapLength

/-- The number 0 switches wrapping off. -/
def ofNat (n : Nat) : WrapLength :=
  ⟨if n = 0 then none else some n⟩

/-- The limit as a number, 0 when there is none. -/
def toNat (w : WrapLength) : Nat :=
  w.limit.getD 0

/-- Lines are never wrapped. -/
def unlimited (w : WrapLength) : Bool :=
  w.limit.isNone

def describe (w : WrapLength) : String :=
  match w.limit with
  | none => "unlimited"
  | some n => toString n

end WrapLength

/-- How the attributes of an element are wrapped. -/
inductive WrapAttributes where
  | auto
  | force
  | forceAligned
  | forceExpandMultiline
  | alignedMultiple
  | preserve
  | preserveAligned
deriving DecidableEq, Repr

namespace WrapAttributes

def all : List WrapAttributes :=
  [.auto, .force, .forceAligned, .forceExpandMultiline, .alignedMultiple, .preserve,
    .preserveAligned]

def name : WrapAttributes → String
  | .auto => "auto"
  | .force => "force"
  | .forceAligned => "force-aligned"
  | .forceExpandMultiline => "force-expand-multiline"
  | .alignedMultiple => "aligned-multiple"
  | .preserve => "preserve"
  | .preserveAligned => "preserve-aligned"

/-- The mode a word stands for. -/
def ofName? (s : String) : Option WrapAttributes :=
  all.find? (·.name == s)

/-- The text of the fault for a word that names no mode. -/
def unknownMessage (s : String) : String :=
  s!"unknown wrap-attributes mode '{s}'"

end WrapAttributes

/-- The formatting options. -/
structure Options where
  indentSize : IndentSize := .default
  insertSpaces : Bool := true
  indentInnerHtml : Bool := false
  preserveNewlines : Bool := true
  /-- The most blank lines kept in a row; none keeps every run. -/
  maxPreserveNewlines : Option Nat := none
  wrapLineLength : WrapLength := .ofNat 120
  wrapAttributes : WrapAttributes := .auto
  endWithNewline : Bool := false
deriving DecidableEq, Repr

namespace Options

instance : Inhabited Options := ⟨{}⟩

def indentUnit (o : Options) : Text :=
  if o.insertSpaces then List.replicate o.indentSize.val ' ' else ['\t']

end Options

end SmartyLayout
