import SmartyLayout.Text.Search

/-!
# SmartyLayout.Text.LineEnding — LF and CRLF

Layout works on texts whose lines end in LF alone. The ending a document prefers is found out
beforehand and put back afterwards.
-/

namespace SmartyLayout

/-- The two line endings. -/
inductive LineEnding where
  | lf
  | crlf
deriving DecidableEq, Repr

namespace LineEnding

def text : LineEnding → Text
  | .lf => ['\n']
  | .crlf => ['\r', '\n']

/-- The number of CRLF breaks. -/
def countCrlf : Text → Nat
  | '\r' :: '\n' :: cs => countCrlf cs + 1
  | _ :: cs => countCrlf cs
  | [] => 0

/-- The ending that most breaks of a text have; LF if there are none, or as many of each. -/
def detect (t : Text) : LineEnding :=
  if t.count '\n' - countCrlf t < countCrlf t then .crlf else .lf

/-- Every CRLF becomes LF. -/
def normalize : Text → Text
  | '\r' :: '\n' :: cs => '\n' :: normalize cs
  | c :: cs => c :: normalize cs
  | [] => []

/-- Every LF becomes the given ending. -/
def restore (e : LineEnding) (t : Text) : Text :=
  match e with
  | .lf => t
  | .crlf => t.flatMap fun c => if c = '\n' then ['\r', '\n'] else [c]

end LineEnding

end SmartyLayout
