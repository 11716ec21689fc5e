import SmartyLayout.Text.Search

/-!
# SmartyLayout.IgnoreMarker — template lines inside scripts and styles

A beautifier would reshape `{foreach $a as $b}` inside a script as if it were code. Every line of a
script or style body that looks like template text is therefore put between two comments that
beautifiers respect, and the comments are removed when the layout is done.

* `protect` inserts the markers, dropping the tabs and spaces in front of the lines it marks.
* `unprotect` removes every marker.
-/

namespace SmartyLayout

namespace IgnoreMarker

/-- The comment in front of a protected line. -/
def opening : Text := "/* beautify ignore:start */".toList

/-- The comment behind a protected line. -/
def closing : Text := "/* beautify ignore:end */".toList

/-! ## Bodies of scripts and styles -/

/-- What follows `script` or `style` at the front of `t`, letter case aside. -/
def afterElementName? (t : Text) : Option Text :=
  Text.afterFolded? "script".toList t <|> Text.afterFolded? "style".toList t

/-- The width of `</script>` or `</style>` at the front of `t`. -/
def closeTag? (t : Text) : Option Nat := do
  let rest ← Text.after? "</".toList t
  let rest ← afterElementName? rest
  let rest ← Text.after? ['>'] rest
  some (t.length - rest.length)

/-- The text up to the first closing tag, and the closing tag. -/
def body? : Text → Option (Text × Text)
  | [] => none
  | c :: cs =>
    match closeTag? (c :: cs) with
    | some n => some ([], (c :: cs).take n)
    | none => (body? cs).map fun (body, close) => (c :: body, close)

/-- A script or style element: its opening tag, its body and its closing tag. -/
structure Element where
  opening : Text
  body : Text
  closing : Text
deriving DecidableEq, Repr

def Element.text (e : Element) : Text :=
  e.opening ++ e.body ++ e.closing

/-- The element at the front of `t`. Its opening tag runs through the first `>`; any closing tag of
a script or a style ends it. -/
def element? (t : Text) : Option (Nat × Element) := do
  let rest ← Text.after? ['<'] t
  let rest ← afterElementName? rest
  match rest.dropWhile (· != '>') with
  | [] => none
  | _ :: content =>
    let (body, closing) ← body? content
    let e : Element := { opening := t.take (t.length - content.length), body, closing }
    some (e.text.length, e)

/-! ## Marked lines -/

/-- An opening brace stands in front of something other than a blank or a closing brace. -/
def looksLikeTemplate : Text → Bool
  -- the second character is read again, since it may be a brace itself
  | '{' :: c :: cs => !(c == '}' || isBlank c) || looksLikeTemplate (c :: cs)
  | _ :: cs => looksLikeTemplate cs
  | [] => false

/-- A line between markers, without the tabs and spaces in front of it. -/
def mark (line : Text) : Text :=
  opening ++ line.dropWhile (fun c => c == '\t' || c == ' ') ++ closing

/-- The body holds a line to be marked. -/
def Element.marked (e : Element) : Bool :=
  !Text.blank e.body && (Text.lines e.body).any looksLikeTemplate

/-- The element with its template lines marked; a blank body stays as it is. -/
def Element.protect (e : Element) : Text :=
  if e.marked then
    e.opening ++
      Text.unlines ((Text.lines e.body).map fun l => if looksLikeTemplate l then mark l else l) ++
      e.closing
  else e.text

/-- A text with markers inserted, and whether there were any to insert. -/
structure Protected where
  text : Text
  changed : Bool
deriving DecidableEq, Repr

/-- Marks the template lines of every script and style. -/
def protect (t : Text) : Protected :=
  let parts := Text.segments element? t
  { text := parts.flatMap (Text.Segment.text Element.protect)
    changed := parts.any fun
      | .hit e => e.marked
      | .char _ => false }

/-! ## Removing markers -/

/-- What is left behind at least one blank. -/
def afterBlanks? : Text → Option Text
  | [] => none
  | c :: cs => if isBlank c then some (cs.dropWhile isBlank) else none

/-- A marker at the front of `t`: any run of blanks separates its words. -/
def marker? (t : Text) : Option (Nat × Text) := do
  let rest ← Text.after? "/*".toList t
  let rest ← afterBlanks? rest
  let rest ← Text.after? "beautify".toList rest
  let rest ← afterBlanks? rest
  let rest ← Text.after? "ignore:".toList rest
  let rest ← Text.after? "start".toList rest <|> Text.after? "end".toList rest
  let rest ← afterBlanks? rest
  let rest ← Text.after? "*/".toList rest
  some (t.length - rest.length, [])

def unprotect (t : Text) : Text :=
  Text.substitute marker? t

end IgnoreMarker

end SmartyLayout
