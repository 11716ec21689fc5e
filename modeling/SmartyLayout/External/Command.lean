import SmartyLayout.Beautifier
import SmartyLayout.Text.Utf8

/-!
# SmartyLayout.External.Command — beautifiers that are commands

Runs a command on a text. What a program does once it is started is not decided here: it is a
parameter, the `Launcher`, and all that is known of a launcher is what it answers.
-/

namespace SmartyLayout

namespace External

/-- How a program has ended and what it has written. -/
structure Outcome where
  status : Beautifier.ExitStatus
  stdout : Bytes
  stderr : Bytes
  /-- Why not all of its input could be written, if so. -/
  unwritten : Option String := none
deriving DecidableEq, Repr

/-- What became of a program. -/
inductive Ending where
  /-- It could not be started. -/
  | refused (reason : String)
  /-- It was started, and its end was not seen. -/
  | lost (reason : String)
  | ended (outcome : Outcome)
deriving DecidableEq, Repr

/-- The programs that can be started: what becomes of one, given its arguments and its input. It is a
class so that what is said about settings and sessions need not carry it along. -/
class Launcher where
  start (program : Text) (arguments : List Text) (input : Text) : Ending

structure Command where
  program : Text
  arguments : List Text
deriving DecidableEq, Repr

namespace Command

/-- The command of a list of words; an empty list names no program. -/
def ofWords? : List Text → Option Command
  | [] => none
  | program :: arguments => some { program, arguments }

/-- The command that is run where none is configured. -/
def default : Command where
  program := "js-beautify".toList
  arguments := ["--type", "html"].map String.toList

variable [Launcher]

/-- Beautifies a text by running a command with the settings as flags. -/
def beautify (c : Command) (t : Text) (s : Beautifier.Settings) : Except Beautifier.Fault Text :=
  let name := String.ofList c.program
  match Launcher.start c.program (c.arguments ++ s.flags.map String.toList) t with
  | .refused reason => .error (.spawn name reason)
  | .lost reason => .error (.io reason)
  | .ended outcome =>
    -- a program that failed is reported even if its input could not be written
    if outcome.status ≠ .code 0 then
      let stderr := Text.trim (Utf8.decodeLossy outcome.stderr)
      .error (.failed name outcome.status (String.ofList stderr))
    else
      match outcome.unwritten with
      | some reason => .error (.io reason)
      | none => (Utf8.decode outcome.stdout).mapError fun fault => .utf8 fault.message

end Command

end External

def Beautifier.external [External.Launcher] (c : External.Command) : Beautifier where
  name := "external"
  run := c.beautify

end SmartyLayout
