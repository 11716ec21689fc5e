import SmartyLayout.Dialect
import SmartyLayout.Text.Span
import SmartyLayout.Text.Word

/-!
# SmartyLayout.Literal.Kind — stretches whose bytes are kept

Strings, comments and verbatim elements are *literals*: layout never moves anything inside them.
`Literal.at?` decides whether a literal starts at the front of a text and how many characters it
covers. Which kind is possible follows from the first characters, so no two kinds compete.
-/

namespace SmartyLayout

namespace Literal

inductive Kind where
  | string
  | templateComment
  | markupComment
  | styleComment
  | verbatimElement
deriving DecidableEq, Repr

/-- Comments and verbatim elements hide the tags inside them. A string does not: attribute values
hold tags legitimately. -/
def Kind.hidesTags : Kind → Bool
  | .string => false
  | _ => true

/-! ## Comments -/

/-- The width of a literal that runs from `opener` through the first `closer` behind it. -/
def enclosed? (opener closer t : Text) : Option Nat := do
  let rest ← Text.after? opener t
  let n ← Text.through closer rest
  some (opener.length + n)

/-! ## Strings -/

/-- How a kind of quote is closed. -/
structure Quote where
  mark : Char
  /-- Characters that may not stand bare inside the string. -/
  bars : Char → Bool
  /-- Characters that may stand behind a backslash. -/
  escapes : Char → Bool

/-- Double-quoted strings may span lines but hold no bare angle bracket. -/
def doubleQuote : Quote where
  mark := '"'
  bars c := c == '<' || c == '>'
  escapes _ := true

/-- Backquoted strings may hold anything. -/
def backQuote : Quote where
  mark := '\x60'
  bars _ := false
  escapes _ := true

/-- Single-quoted strings stay on one line, so that an apostrophe in prose swallows no break. -/
def singleQuote : Quote where
  mark := '\x27'
  bars c := c == '\n'
  escapes c := c != '\n'

/-- The number of characters through the closing quote; `t` follows the opening one. -/
def Quote.closing? (q : Quote) : Text → Option Nat
  | [] => none
  | '\\' :: c :: cs => if q.escapes c then (q.closing? cs).map (· + 2) else none
  | c :: cs =>
    if c = q.mark then some 1
    -- a backslash that is left here is the last character
    else if c = '\\' || q.bars c then none
    else (q.closing? cs).map (· + 1)

/-- The width of a string at the front of `t`. -/
def string? : Text → Option Nat
  | [] => none
  | c :: cs =>
    if c = '"' then (doubleQuote.closing? cs).map (· + 1)
    else if c = '\x60' then (backQuote.closing? cs).map (· + 1)
    else if c = '\x27' then (singleQuote.closing? cs).map (· + 1)
    else none

/-! ## Verbatim elements -/

/-- The width of the closing tag `</name >` at the front of `t`. -/
def closeTag? (name t : Text) : Option Nat := do
  let rest ← Text.after? "</".toList t
  let rest ← Text.afterFolded? name rest
  match rest.dropWhile isBlank with
  | '>' :: tail => some (t.length - tail.length)
  | _ => none

/-- The number of characters through the first closing tag of `name`. -/
def throughCloseTag (name : Text) : Text → Option Nat
  | [] => none
  | c :: cs =>
    match closeTag? name (c :: cs) with
    | some n => some n
    | none => (throughCloseTag name cs).map (· + 1)

/-- The width of a whole element `name` whose attributes satisfy `accepts`. The attributes end at
the first `>`. -/
def element? (name : Text) (accepts : Text → Bool) (t : Text) : Option Nat := do
  let rest ← Text.after? ['<'] t
  let rest ← Text.afterFolded? name rest
  -- `<prefix>` is no `<pre>`
  if atWordEnd rest then
    let attributes := rest.takeWhile (· != '>')
    match rest.dropWhile (· != '>') with
    | [] => none
    | _ :: content =>
      if accepts attributes then
        let n ← throughCloseTag name content
        some (t.length - content.length + n)
      else none
  else none

/-- The script types that hold templates rather than scripts. -/
def templateTypes : List Text :=
  ["template", "x-template", "html", "x-handlebars-template", "x-smarty"].map String.toList

/-- `t` begins with a `type` attribute that names a template type. -/
def templateTypeAt (t : Text) : Bool :=
  ((do
    let rest ← Text.afterFolded? "type".toList t
    let rest ← Text.after? ['='] (rest.dropWhile isBlank)
    let rest := rest.dropWhile isBlank
    -- quotes are optional, and the closing one is not looked for
    let rest := if rest.head? = some '"' ∨ rest.head? = some '\x27' then rest.tail else rest
    let rest ← Text.afterFolded? "text/".toList rest
    some (templateTypes.any fun name => ((Text.afterFolded? name rest).map atWordEnd).getD false))
    : Option Bool).getD false

/-- Some `type` attribute, standing at a word boundary, names a template type. The flag tells
whether a word character precedes. -/
def namesTemplateType : Bool → Text → Bool
  | _, [] => false
  | inWord, c :: cs => (!inWord && templateTypeAt (c :: cs)) || namesTemplateType (isWord c) cs

/-- The width of a verbatim element at the front of `t`: a script that holds a template, or
preformatted or editable text. -/
def verbatimElement? (t : Text) : Option Nat :=
  element? "script".toList (namesTemplateType true) t
    <|> element? "pre".toList (fun _ => true) t
    <|> element? "textarea".toList (fun _ => true) t

/-! ## All kinds -/

/-- The literal at the front of `t`: its kind and its width in characters. -/
def at? (d : Dialect) (t : Text) : Option (Kind × Nat) :=
  match t with
  | [] => none
  | c :: _ =>
    if c = '{' then (enclosed? d.commentPair.1 d.commentPair.2 t).map (Kind.templateComment, ·)
    else if c = '/' then (enclosed? "/*".toList "*/".toList t).map (Kind.styleComment, ·)
    else if c = '<' then
      (enclosed? "<!--".toList "-->".toList t).map (Kind.markupComment, ·)
        <|> (verbatimElement? t).map (Kind.verbatimElement, ·)
    else (string? t).map (Kind.string, ·)

end Literal

end SmartyLayout
