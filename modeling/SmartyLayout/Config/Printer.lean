import SmartyLayout.Config.Basic
import SmartyLayout.Toml.Writer

/-!
# SmartyLayout.Config.Printer — settings as a file's text

Writes out settings with every value spelled out, and holds the commented file that a new project
starts from.
-/

namespace SmartyLayout

open Toml

/-- The formatting options, one setting per line. -/
def Options.render (o : Options) : Text :=
  setting "indent-size" (nat o.indentSize.val) ++
  setting "insert-spaces" (bool o.insertSpaces) ++
  setting "indent-inner-html" (bool o.indentInnerHtml) ++
  setting "preserve-newlines" (bool o.preserveNewlines) ++
  (o.maxPreserveNewlines.map fun n => setting "max-preserve-newlines" (nat n)).getD [] ++
  setting "wrap-line-length" (nat o.wrapLineLength.toNat) ++
  setting "wrap-attributes" (string o.wrapAttributes.name.toList) ++
  setting "end-with-newline" (bool o.endWithNewline)

namespace Config

/-- The settings in two tables. -/
def render (c : Config) : Text :=
  "[global]\n".toList ++
  setting "include" (strings c.files.included) ++
  setting "exclude" (strings c.files.excluded) ++
  setting "respect-gitignore" (bool c.files.respectIgnoreFiles) ++
  "\n[format]\n".toList ++
  c.options.render ++
  setting "delegate" (string c.delegate.name.toList) ++
  setting "delegate-command" (strings c.delegateCommand) ++
  setting "extra-start-tags" (strings c.extraStartTags) ++
  setting "extra-middle-tags" (strings c.extraMiddleTags) ++
  setting "verbatim-tags" (strings c.verbatimTags)

/-- The lines of the file that a new project starts from. -/
def templateLines : List String :=
  ["# smartyfmt configuration file",
    "",
    "[global]",
    "# Files formatted when a directory is given",
    "include = [\"**/*.tpl\", \"**/*.smarty\"]",
    "",
    "# Files and directories skipped while walking",
    "exclude = [",
    "    \"vendor/**\",",
    "    \"node_modules/**\",",
    "    \"templates_c/**\",",
    "]",
    "",
    "# Respect .gitignore files when scanning directories (default: true)",
    "respect-gitignore = true",
    "",
    "[format]",
    "# Spaces per indentation level (1-8)",
    "indent-size = 4",
    "",
    "# Indent with spaces; set to false for tabs",
    "insert-spaces = true",
    "",
    "# Indent <head> and <body> inside <html>",
    "indent-inner-html = false",
    "",
    "# Keep blank lines, at most this many in a row (0 = no limit)",
    "preserve-newlines = true",
    "max-preserve-newlines = 0",
    "",
    "# Line length the external beautifier wraps attributes at (0 = never)",
    "wrap-line-length = 120",
    "",
    "# auto, force, force-aligned, force-expand-multiline, aligned-multiple, preserve, " ++
      "preserve-aligned",
    "wrap-attributes = \"auto\"",
    "",
    "# End every file with exactly one newline",
    "end-with-newline = true",
    "",
    "# Markup beautifier: \"builtin\" or \"external\"",
    "delegate = \"builtin\"",
    "# delegate-command = [\"js-beautify\", \"--type\", \"html\"]",
    "",
    "# Plugin block tags, e.g. \x7bnocache\x7d...\x7b/nocache\x7d",
    "extra-start-tags = []",
    "extra-middle-tags = []",
    "",
    "# Blocks whose content is left alone",
    "verbatim-tags = [\"literal\"]"]

/-- The file that a new project starts from. -/
def template : Text :=
  templateLines.flatMap fun l => l.toList ++ ['\n']

end Config

end SmartyLayout
