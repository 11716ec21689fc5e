import SmartyLayout.Tag.Taxonomy
import SmartyLayout.Text.Span
import SmartyLayout.Text.Search

/-!
# SmartyLayout.Tag.Token — tags on one line

* `TagShape.read` recognises a brace construct shaped like a tag: opener, optional slash, name,
  then anything up to the closer of the opener's own width on the same line.
* `Token.scan` tiles a line with tag tokens and stretches of plain text. A construct whose name the
  taxonomy does not know stays plain text, and is passed over as a whole.
-/

namespace SmartyLayout

def isNameStart (c : Char) : Bool :=
  c.isAlpha || c == '_'

def isNameRest (c : Char) : Bool :=
  c.isAlphanum || c == '_'

/-- The longest tag name at the front of `t`, possibly empty. -/
def leadingName : Text → Text
  | [] => []
  | c :: cs => if isNameStart c then c :: cs.takeWhile isNameRest else []

/-- The text is a tag name: a letter or an underscore, then letters, digits and underscores. -/
def isTagName : Text → Bool
  | [] => false
  | c :: cs => (c.isAlpha || c == '_') && cs.all fun e => e.isAlphanum || e == '_'

/-- A brace construct shaped like a tag, before its name is looked up. -/
structure TagShape where
  name : Text
  closing : Bool
  /-- Number of characters of the whole construct. -/
  width : Nat
deriving DecidableEq, Repr

namespace TagShape

/-- The quote that is open inside a tag, and whether its next character is escaped. -/
structure OpenQuote where
  mark : Char
  escaped : Bool := false

/-- The number of characters through the closer that ends the tag. Quoted text is passed over,
inner braces nest, and a line break ends the attempt. -/
def bodyWidth (closer : Text) : Nat → Option OpenQuote → Text → Option Nat
  | _, _, [] => none
  | depth, some q, c :: cs =>
    if c = '\n' then none
    else
      let next :=
        if q.escaped then some { q with escaped := false }
        else if c = '\\' then some { q with escaped := true }
        else if c = q.mark then none
        else some q
      (bodyWidth closer depth next cs).map (· + 1)
  | depth, none, c :: cs =>
    if c = '\n' then none
    else if c = '"' ∨ c = '\x27' then (bodyWidth closer depth (some { mark := c }) cs).map (· + 1)
    else if c = '{' then (bodyWidth closer (depth + 1) none cs).map (· + 1)
    else if c = '}' ∧ 0 < depth then (bodyWidth closer (depth - 1) none cs).map (· + 1)
    -- the closer counts only outside inner braces
    else if Text.startsWith closer (c :: cs) then some closer.length
    else (bodyWidth closer depth none cs).map (· + 1)

/-- The opener at the front of `t`, as its closer and what follows it; two braces are one opener. -/
def opener? : Text → Option (Text × Text)
  | '{' :: '{' :: t => some (['}', '}'], t)
  | '{' :: t => some (['}'], t)
  | _ => none

/-- The optional slash at the front of `t`, and what follows it. -/
def slash : Text → Bool × Text
  | '/' :: t => (true, t)
  | t => (false, t)

/-- The tag at the front of `t`. Its name must end at a blank or at the closer, so that a call such
as `{if(x)` in a script is no tag. -/
def read (t : Text) : Option TagShape := do
  let (closer, afterOpener) ← opener? t
  let (closing, afterSlash) := slash afterOpener
  let name := leadingName afterSlash
  let rest := afterSlash.drop name.length
  if name.isEmpty then none
  else if Text.startsWith closer rest || (rest.head?.map isBlank).getD false then
    let body ← bodyWidth closer 0 none rest
    some { name, closing, width := t.length - rest.length + body }
  else none

end TagShape

/-- A stretch of a line: a recognised tag or plain text, with its bytes. -/
inductive Token where
  | tag (role : Role) (name : Text) (span : Span)
  | plain (span : Span)
deriving DecidableEq, Repr

namespace Token

def span : Token → Span
  | .tag _ _ s => s
  | .plain s => s

/-- Plain text from `start` to `stop`, if there is any. -/
def plainBetween (start stop : Nat) : List Token :=
  if start < stop then [.plain ⟨start, stop⟩] else []

/-- Reads the rest of a line. `pos` is the byte offset of the rest, `textStart` the offset where the
current plain text began, `skip` the number of characters left of a construct already dealt with.
Nothing starts inside a mask. -/
def scanFrom (tax : Taxonomy) (masks : List Span) : (pos textStart skip : Nat) → Text → List Token
  | pos, textStart, _, [] => plainBetween textStart pos
  | pos, textStart, skip + 1, c :: cs => scanFrom tax masks (pos + c.utf8Size) textStart skip cs
  | pos, textStart, 0, c :: cs =>
    if masks.any (·.contains pos) then scanFrom tax masks (pos + c.utf8Size) textStart 0 cs
    else
      match TagShape.read (c :: cs) with
      | none => scanFrom tax masks (pos + c.utf8Size) textStart 0 cs
      | some shape =>
        match tax.classify shape.name shape.closing with
        -- nothing is looked for inside an unknown construct
        | none => scanFrom tax masks (pos + c.utf8Size) textStart (shape.width - 1) cs
        | some role =>
          let stop := pos + Text.size ((c :: cs).take shape.width)
          plainBetween textStart pos ++ .tag role shape.name ⟨pos, stop⟩ ::
            scanFrom tax masks (pos + c.utf8Size) stop (shape.width - 1) cs

/-- The tokens of a line; offsets inside a mask start no tag. -/
def scan (tax : Taxonomy) (masks : List Span) (line : Text) : List Token :=
  scanFrom tax masks 0 0 0 line

end Token

end SmartyLayout
