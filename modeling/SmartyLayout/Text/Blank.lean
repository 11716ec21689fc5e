/-!
# SmartyLayout.Text.Blank — texts, blank characters, trimming

A text is the list of its characters. Layout only ever moves *blank* characters, so this module
fixes which characters those are and the three trimming operations built on them.
-/

namespace SmartyLayout

/-- A text: its characters in order. -/
abbrev Text := List Char

/-- Blank characters are those with the Unicode property White_Space. -/
def isBlank (c : Char) : Bool :=
  let n := c.toNat
  (9 ≤ n && n ≤ 13) || n == 0x20 || n == 0x85 || n == 0xA0 || n == 0x1680 ||
    (0x2000 ≤ n && n ≤ 0x200A) || n == 0x2028 || n == 0x2029 || n == 0x202F || n == 0x205F ||
    n == 0x3000

/-- A line break is blank. -/
@[simp] theorem isBlank_newline : isBlank '\n' = true := by decide

namespace Text

/-- Every character is blank; the empty text counts. -/
def blank (t : Text) : Bool :=
  t.all isBlank

/-- The text without its leading blank characters. -/
def trimStart (t : Text) : Text :=
  t.dropWhile isBlank

/-- The text without its trailing blank characters. -/
def trimEnd (t : Text) : Text :=
  (t.reverse.dropWhile isBlank).reverse

/-- The text without blank characters at either end. -/
def trim (t : Text) : Text :=
  trimEnd (trimStart t)

def leading (t : Text) : Text :=
  t.takeWhile isBlank

/-- The text without its trailing line breaks. -/
def dropFinalBreaks (t : Text) : Text :=
  (t.reverse.dropWhile (· == '\n')).reverse

/-- The text without line breaks at either end. -/
def trimBreaks (t : Text) : Text :=
  dropFinalBreaks (t.dropWhile (· == '\n'))

/-- `n` copies of a text in a row. -/
def times (n : Nat) (t : Text) : Text :=
  (List.replicate n t).flatten

/-- Lines written one below the other. -/
def unlines (ts : List Text) : Text :=
  List.intercalate ['\n'] ts

/-- The physical lines of a text: the pieces between its line breaks, so one more than breaks. -/
def lines : Text → List Text
  | [] => [[]]
  | c :: cs =>
    if c = '\n' then [] :: lines cs
    else
      match lines cs with
      | [] => [[c]]
      | l :: ls => (c :: l) :: ls

/-- The leading part and the rest make the text. -/
theorem leading_append_trimStart (t : Text) : leading t ++ trimStart t = t :=
  List.takeWhile_append_dropWhile

end Text

end SmartyLayout
