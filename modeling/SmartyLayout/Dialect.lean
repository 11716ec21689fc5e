import SmartyLayout.Text.Search

/-!
# SmartyLayout.Dialect — single and double braces

Tags are recognised with either brace width in every document. The *dialect* of a document only
decides which pair of delimiters encloses a template comment. A document is double-brace as soon as
one double-brace comment or one double-brace tag occurs in it.
-/

namespace SmartyLayout

/-- Which template comments a document uses. -/
inductive Dialect where
  | single
  | double
deriving DecidableEq, Repr

namespace Dialect

/-- The delimiters of a template comment. -/
def commentPair : Dialect → Text × Text
  | .single => ("\x7b*".toList, "*\x7d".toList)
  | .double => ("\x7b\x7b*".toList, "*\x7d\x7d".toList)

/-- A double-brace comment closes on the line it opens on: `t` is what follows its opener. -/
def commentCloses : Text → Bool
  | [] => false
  | c :: cs => Text.startsWith "*\x7d\x7d".toList (c :: cs) || (c != '\n' && commentCloses cs)

/-- A double-brace tag is well formed from here on: plain characters and inner `{...}` groups
without further nesting, then `}}`. The flag tells whether an inner group is open. -/
def tagCloses : Bool → Text → Bool
  | _, [] => false
  | true, c :: cs => if c = '}' then tagCloses false cs else c != '{' && tagCloses true cs
  | false, c :: cs =>
    if c = '}' then cs.head? == some '}'
    else tagCloses (c == '{') cs

/-- A double-brace construct starts at the front of `t`. -/
def doubleAt : Text → Bool
  | '{' :: '{' :: c :: cs =>
    (c == '*' && commentCloses cs) || (!(c == '}' || isBlank c) && tagCloses false cs)
  | _ => false

/-- A double-brace construct starts somewhere in `t`. -/
def anyDouble : Text → Bool
  | [] => false
  | c :: cs => doubleAt (c :: cs) || anyDouble cs

/-- The dialect a document is written in. -/
def detect (t : Text) : Dialect :=
  if anyDouble t then .double else .single

end Dialect

end SmartyLayout
