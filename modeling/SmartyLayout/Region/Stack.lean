import SmartyLayout.Text.Blank

/-!
# SmartyLayout.Region.Stack — the open blocks

The names of the blocks that are open at some point of a document, innermost first.
-/

namespace SmartyLayout

/-- The open blocks, innermost first. -/
structure RegionStack where
  names : List Text := []
deriving DecidableEq, Repr

namespace RegionStack

def empty : RegionStack := {}

def push (s : RegionStack) (name : Text) : RegionStack :=
  ⟨name :: s.names⟩

/-- Closes the innermost block, if any. -/
def pop (s : RegionStack) : RegionStack :=
  ⟨s.names.tail⟩

def innermost? (s : RegionStack) : Option Text :=
  s.names.head?

/-- The number of open blocks. -/
def depth (s : RegionStack) : Nat :=
  s.names.length

def isEmpty (s : RegionStack) : Bool :=
  s.names.isEmpty

@[simp] theorem depth_empty : empty.depth = 0 := rfl

@[simp] theorem depth_push (s : RegionStack) (n : Text) : (s.push n).depth = s.depth + 1 := rfl

@[simp] theorem pop_push (s : RegionStack) (n : Text) : (s.push n).pop = s := rfl

end RegionStack

end SmartyLayout
