import SmartyLayout.Beautifier
import SmartyLayout.Markup.Embedded
import SmartyLayout.Markup.Printer
import SmartyLayout.Text.Position

/-!
# SmartyLayout.Markup.Shield — template lines as placeholders

A markup printer fills text like prose, and would glue a line such as `{foreach $items as $item}`
to its neighbours. Logical lines that hold template text alone are therefore replaced by numbered
empty elements before printing, and put back afterwards.

`Shield.build` fails where the markup is unterminated: a comment outside embedded code, or a script
or style element at the end of the text.
-/

namespace SmartyLayout

namespace Shield

/-- A logical line as the printer sees it. `origin` is the physical line of the source, from 1,
where it begins. -/
inductive Item where
  /-- Markup, kept as it is. -/
  | markup (origin : Nat) (text : Text)
  /-- A template line, trimmed, that a placeholder stands for. -/
  | template (origin : Nat) (line : Text)
deriving DecidableEq, Repr

/-! ## Template lines -/

/-- What follows a `<` reads as a tag, a comment or a declaration. -/
def opensMarkup : Text → Bool
  | [] => false
  | c :: _ => c.isAlpha || c == '/' || c == '!'

/-- No markup begins in the rest of a line, from byte `pos` on, outside the line's literals. -/
def noMarkupFrom (l : LogicalLine) : Nat → Text → Bool
  | _, [] => true
  | pos, c :: cs =>
    (c != '<' || l.inLiteral pos || !opensMarkup cs) && noMarkupFrom l (pos + c.utf8Size) cs

/-- The line holds template text and no markup of its own. -/
def isTemplateOnly (l : LogicalLine) : Bool :=
  let t := Text.trim l.text
  t.head? == some '{' && t.getLast? == some '}' && noMarkupFrom l 0 l.text

/-- A comment opens in the rest of a line, from byte `pos` on, outside the line's literals. -/
def opensCommentFrom (l : LogicalLine) : Nat → Text → Bool
  | _, [] => false
  | pos, c :: cs =>
    (Text.startsWith "<!--".toList (c :: cs) && !l.inLiteral pos) ||
      opensCommentFrom l (pos + c.utf8Size) cs

/-- A comment opens on the line and is not closed: a closed one would be a literal. -/
def opensComment (l : LogicalLine) : Bool :=
  opensCommentFrom l 0 l.text

/-! ## Shielding -/

/-- The fault of a comment that never closes. -/
def unterminatedComment (line : Nat) : Beautifier.Fault :=
  .unparseable line "unterminated comment"

/-- The fault of an element that never closes. -/
def unterminatedElement (e : Embedded.OpenElement) : Beautifier.Fault :=
  let name := String.ofList e.name
  .unparseable e.line s!"unterminated <{name}> element"

/-- Shields logical lines, the first of which begins on physical line `line`. Inside embedded code
nothing is shielded. -/
def itemsFrom (line : Nat) (open? : Option Embedded.OpenElement) :
    List LogicalLine → Except Beautifier.Fault (List Item)
  | [] =>
    match open? with
    | some e => .error (unterminatedElement e)
    | none => .ok []
  | l :: ls =>
    let next := line + l.breaks + 1
    -- a template line holds no markup, so it opens no element
    if open?.isNone && isTemplateOnly l then
      (itemsFrom next open? ls).map (.template line (Text.trim l.text) :: ·)
    else if open?.isNone && opensComment l then .error (unterminatedComment line)
    else (itemsFrom next (Embedded.track line open? l) ls).map (.markup line l.text :: ·)

end Shield

/-- A text with its template lines shielded. -/
structure Shield where
  items : List Shield.Item
deriving DecidableEq, Repr

namespace Shield

def build (d : Dialect) (t : Text) : Except Beautifier.Fault Shield :=
  (itemsFrom 1 none (LogicalLine.split d t)).map (⟨·⟩)

def placeholder (n : Nat) : Text :=
  "<div data-smartyfmt=\"".toList ++ (toString n).toList ++ "\"></div>".toList

/-- The lines the printer is given, placeholders numbered from `n` on. -/
def textsFrom : Nat → List Item → List Text
  | _, [] => []
  | n, .markup _ t :: is => t :: textsFrom n is
  | n, .template _ _ :: is => placeholder n :: textsFrom (n + 1) is

def text (s : Shield) : Text :=
  Text.unlines (textsFrom 0 s.items)

/-- The template line an item stands for. -/
def Item.line? : Item → Option Text
  | .markup _ _ => none
  | .template _ line => some line

/-- The template lines, by placeholder number. -/
def lines (s : Shield) : List Text :=
  s.items.filterMap Item.line?

/-- The source lines of an item's physical lines. -/
def Item.origins : Item → List Nat
  | .markup origin t => (List.range (t.count '\n' + 1)).map (origin + ·)
  | .template origin _ => [origin]

/-- The source line of each physical line the printer is given. -/
def origins (s : Shield) : List Nat :=
  s.items.flatMap Item.origins

/-! ## Putting the lines back -/

/-- The number written by the leading decimal digits. -/
def number? (t : Text) : Option (Nat × Text) :=
  let digits := t.takeWhile Char.isDigit
  if digits.isEmpty then none
  else some (digits.foldl (fun n c => n * 10 + (c.toNat - '0'.toNat)) 0, t.dropWhile Char.isDigit)

/-- A placeholder at the front of `t`, with any blanks a printer may have put inside it: its width
and its number. -/
def placeholder? (t : Text) : Option (Nat × Nat) := do
  let rest ← Text.after? "<div".toList t
  let spaced := rest.dropWhile isBlank
  -- a blank has to end the name of the element
  if spaced.length = rest.length then none
  else
    let rest ← Text.after? "data-smartyfmt=\"".toList spaced
    let (n, rest) ← number? rest
    let rest ← Text.after? ['"'] rest
    let rest ← Text.after? ['>'] (rest.dropWhile isBlank)
    let rest ← Text.after? "</div>".toList (rest.dropWhile isBlank)
    some (t.length - rest.length, n)

/-- A placeholder at the front of `t` and the line it stands for; other numbers stand for
nothing. -/
def stored? (lines : List Text) (t : Text) : Option (Nat × Text) := do
  let (width, n) ← placeholder? t
  let line ← lines[n]?
  some (width, line)

/-- A printed text with the template lines put back. -/
def restore (s : Shield) (printed : Text) : Text :=
  Text.substitute (stored? s.lines) printed

/-! ## Talking to the printer -/

/-- The width that stands for "never wrap". -/
def unboundedWidth : Nat := 65535

def request (s : Shield) (d : Dialect) (settings : Beautifier.Settings) : PrintRequest where
  text := s.text
  indentWidth := settings.indentSize
  useTabs := settings.indentWithTabs
  printWidth := if settings.wrapLineLength = 0 then unboundedWidth else settings.wrapLineLength
  embed := Embedded.indent d settings.indentUnit

/-- The source line of a byte offset in the text the printer was given. -/
def sourceLine (s : Shield) (offset : Nat) : Nat :=
  let line := (Text.position s.text offset).line
  s.origins[line]?.getD (line + 1)

/-- A printer's fault, told in lines of the source. -/
def fault (s : Shield) : PrintFault → Beautifier.Fault
  | .malformed offset message => .unparseable (s.sourceLine offset) message
  | .embedded => .unparseable 1 "embedded code could not be formatted"

end Shield

end SmartyLayout
