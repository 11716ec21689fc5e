import SmartyLayout.Text.Blank

/-!
# SmartyLayout.Text.Span — byte offsets

Offsets are counted in UTF-8 bytes, columns in UTF-16 units. `size` and `units16` measure a text in
the two units; `dropBytes`, `takeBytes` and `slice` cut a text at byte offsets. A cut that would
fall inside a character falls behind it.
-/

namespace SmartyLayout

/-- A half-open range `[start, stop)` of byte offsets. -/
structure Span where
  start : Nat
  stop : Nat
deriving DecidableEq, Repr

namespace Span

/-- `n` lies in the range. -/
def contains (s : Span) (n : Nat) : Bool :=
  s.start ≤ n && n < s.stop

/-- The two ranges share an offset, or one is an empty range inside the other. -/
def meets (s t : Span) : Bool :=
  s.start < t.stop && t.start < s.stop

/-- The part of `s` inside `t`, counted from the start of `t`. -/
def within (s t : Span) : Span :=
  ⟨max s.start t.start - t.start, min s.stop t.stop - t.start⟩

end Span

namespace Text

/-- Length in UTF-8 bytes. -/
def size : Text → Nat
  | [] => 0
  | c :: cs => c.utf8Size + size cs

/-- Width of a character in UTF-16 units. -/
def charUnits16 (c : Char) : Nat :=
  if c.toNat < 0x10000 then 1 else 2

/-- Length in UTF-16 units. -/
def units16 : Text → Nat
  | [] => 0
  | c :: cs => charUnits16 c + units16 cs

/-- What is left behind the first `n` bytes. -/
def dropBytes : Nat → Text → Text
  | _, [] => []
  | 0, cs => cs
  | n + 1, c :: cs => dropBytes (n + 1 - c.utf8Size) cs

/-- The first `n` bytes. -/
def takeBytes : Nat → Text → Text
  | _, [] => []
  | 0, _ => []
  | n + 1, c :: cs => c :: takeBytes (n + 1 - c.utf8Size) cs

/-- The bytes of a range. -/
def slice (t : Text) (s : Span) : Text :=
  takeBytes (s.stop - s.start) (dropBytes s.start t)

@[simp] theorem size_nil : size [] = 0 := rfl

@[simp] theorem size_cons (c : Char) (cs : Text) : size (c :: cs) = c.utf8Size + size cs := rfl

@[simp] theorem size_append (s t : Text) : size (s ++ t) = size s + size t := by
  induction s with
  | nil => simp
  | cons c cs ih => simp [ih, Nat.add_assoc]

@[simp] theorem units16_append (s t : Text) : units16 (s ++ t) = units16 s + units16 t := by
  induction s with
  | nil => simp [units16]
  | cons c cs ih => simp [units16, ih, Nat.add_assoc]

@[simp] theorem dropBytes_zero (t : Text) : dropBytes 0 t = t := by
  cases t <;> rfl

@[simp] theorem takeBytes_zero (t : Text) : takeBytes 0 t = [] := by
  cases t <;> rfl

/-- Cutting at any offset loses nothing. -/
theorem takeBytes_append_dropBytes (n : Nat) (t : Text) : takeBytes n t ++ dropBytes n t = t := by
  induction t generalizing n with
  | nil => simp [takeBytes, dropBytes]
  | cons c cs ih =>
    cases n with
    | zero => simp
    | succ n => simp [takeBytes, dropBytes, ih]

/-- Cutting behind a part of known size gives back what follows it. -/
@[simp] theorem dropBytes_size_append (s t : Text) : dropBytes (size s) (s ++ t) = t := by
  induction s with
  | nil => simp
  | cons c cs ih =>
    have hc : 0 < c.utf8Size := Char.utf8Size_pos c
    obtain ⟨k, hk⟩ : ∃ k, size (c :: cs) = k + 1 := ⟨c.utf8Size + size cs - 1, by simp; omega⟩
    rw [hk, List.cons_append, dropBytes, ← hk]
    simpa using ih

end Text

end SmartyLayout
