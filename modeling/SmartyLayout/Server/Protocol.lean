import SmartyLayout.Server.Schema

/-!
# SmartyLayout.Server.Protocol — the parameters of the editor protocol

The shapes of what editors say about their abilities, and the parameters of the requests that are
known and not served. A request with wrong parameters is refused for that reason first.
-/

namespace SmartyLayout

namespace Server

namespace Schema

/-! ## Common shapes -/

def text? : Schema := .optional .text

/-- A truth value that may be absent. -/
def bool? : Schema := .optional .bool

def any? : Schema := .optional .any

/-- A record of truth values that may all be absent. -/
def flags (keys : List String) : Schema :=
  .record (keys.map (·, bool?))

def texts (key : String) : Schema :=
  .record [(key, .list .text)]

def place : Schema := .record [("line", .word), ("character", .word)]

def range : Schema := .record [("start", place), ("end", place)]

/-- A part of a named document. -/
def location : Schema := .record [("uri", .uri), ("range", range)]

def document : Schema := .record [("uri", .uri)]

/-- A mark by which an editor follows progress. -/
def progress : Schema := .optional (.oneOf [.int, .text])

/-- The field with a mark for the work. -/
def workField : List (String × Schema) := [("workDoneToken", progress)]

/-- The fields with marks for the work and for partial results. -/
def resultFields : List (String × Schema) := workField ++ [("partialResultToken", progress)]

def placeFields : List (String × Schema) := [("textDocument", document), ("position", place)]

/-- A table that may have other fields as well. -/
def fields (fs : List (String × Schema)) : Schema := .table fs .any

def command : Schema :=
  .record [("title", .text), ("command", .text), ("arguments", .optional (.list .any))]

/-- The notation of a longer text. -/
def proseKind : Schema := .choice ["plaintext", "markdown"]

/-- A text, or a text in some notation. -/
def prose : Schema := .oneOf [.text, .record [("kind", proseKind), ("value", .text)]]

/-- A replacement of a part of a document. -/
def textEdit : Schema := .record [("range", range), ("newText", .text)]

/-- A remark about a part of a document. -/
def diagnostic : Schema :=
  .record [("range", range), ("severity", .optional .int),
    ("code", .optional (.oneOf [.int, .text])),
    ("codeDescription", .optional (.record [("href", .uri)])),
    ("source", text?), ("message", .text),
    ("relatedInformation",
      .optional (.list (.record [("location", location), ("message", .text)]))),
    ("tags", .optional (.list .int)), ("data", any?)]

/-- How an editor indents; it may add settings of its own. -/
def indentation : Schema :=
  .table [("tabSize", .word), ("insertSpaces", .bool), ("trimTrailingWhitespace", bool?),
    ("insertFinalNewline", bool?), ("trimFinalNewlines", bool?)] (.oneOf [.bool, .int, .text])

/-! ## Edits of a workspace -/

def documentEdit : Schema :=
  .record [("textDocument", .record [("uri", .uri), ("version", .optional .int)]),
    ("edits", .list (.oneOf [textEdit,
      fields [("range", range), ("newText", .text), ("annotationId", .text)]]))]

/-- A file is made, renamed or deleted. -/
def fileOperation : Schema :=
  .tagged "kind"
    [("create", .record [("uri", .uri),
        ("options", .optional (flags ["overwrite", "ignoreIfExists"])), ("annotationId", text?)]),
      ("rename", .record [("oldUri", .uri), ("newUri", .uri),
        ("options", .optional (flags ["overwrite", "ignoreIfExists"])), ("annotationId", text?)]),
      ("delete", .record [("uri", .uri),
        ("options", .optional (.record [("recursive", bool?), ("ignoreIfNotExists", bool?),
          ("annotationId", text?)]))])]

def workspaceEdit : Schema :=
  .record [("changes", .defaulted (.optional (.uriMap (.list textEdit)))),
    ("documentChanges", .optional (.oneOf [.list documentEdit,
      .list (.oneOf [fileOperation, documentEdit])])),
    ("changeAnnotations", .optional (.map (.record
      [("label", .text), ("needsConfirmation", bool?), ("description", text?)])))]

/-! ## Abilities of an editor -/

/-- An ability that can be registered later. -/
def registrable : Schema := .optional (flags ["dynamicRegistration"])

/-- An ability to draw again. -/
def refreshable : Schema := .optional (flags ["refreshSupport"])

/-- The tags that an editor knows; some editors say only whether they know any. -/
def tagSupport : Schema :=
  .defaulted (.optional (.oneOf [.bool, .record [("valueSet", .list .int)]]))

/-- The kinds that an editor knows, by number. -/
def kindSupport : Schema := .optional (.record [("valueSet", .optional (.list .int))])

/-- The properties that an editor can ask for later. -/
def resolveSupport : Schema := .optional (texts "properties")

/-- The notations that an editor shows. -/
def proseKinds : Schema := .optional (.list proseKind)

def workspaceAbilities : Schema :=
  .record [("applyEdit", bool?),
    ("workspaceEdit", .optional (.record [("documentChanges", bool?),
      ("resourceOperations", .optional (.list (.choice ["create", "rename", "delete"]))),
      ("failureHandling",
        .optional (.choice ["abort", "transactional", "textOnlyTransactional", "undo"])),
      ("normalizesLineEndings", bool?),
      ("changeAnnotationSupport", .optional (flags ["groupsOnLabel"]))])),
    ("didChangeConfiguration", registrable),
    ("didChangeWatchedFiles",
      .optional (flags ["dynamicRegistration", "relativePatternSupport"])),
    ("symbol", .optional (.record [("dynamicRegistration", bool?), ("symbolKind", kindSupport),
      ("tagSupport", tagSupport), ("resolveSupport", resolveSupport)])),
    ("executeCommand", registrable), ("workspaceFolders", bool?), ("configuration", bool?),
    ("semanticTokens", refreshable), ("codeLens", refreshable),
    ("fileOperations", .optional (flags ["dynamicRegistration", "didCreate", "willCreate",
      "didRename", "willRename", "didDelete", "willDelete"])),
    ("inlineValue", refreshable), ("inlayHint", refreshable), ("diagnostic", refreshable)]

def completionAbilities : Schema :=
  .record [("dynamicRegistration", bool?),
    ("completionItem", .optional (.record [("snippetSupport", bool?),
      ("commitCharactersSupport", bool?), ("documentationFormat", proseKinds),
      ("deprecatedSupport", bool?), ("preselectSupport", bool?), ("tagSupport", tagSupport),
      ("insertReplaceSupport", bool?), ("resolveSupport", resolveSupport),
      ("insertTextModeSupport", .optional (.record [("valueSet", .list .int)])),
      ("labelDetailsSupport", bool?)])),
    ("completionItemKind", kindSupport), ("contextSupport", bool?),
    ("insertTextMode", .optional .int),
    ("completionList", .optional (.record [("itemDefaults", .optional (.list .text))]))]

def signatureAbilities : Schema :=
  .record [("dynamicRegistration", bool?),
    ("signatureInformation", .optional (.record [("documentationFormat", proseKinds),
      ("parameterInformation", .optional (flags ["labelOffsetSupport"])),
      ("activeParameterSupport", bool?)])),
    ("contextSupport", bool?)]

def codeActionAbilities : Schema :=
  .record [("dynamicRegistration", bool?),
    ("codeActionLiteralSupport", .optional (.record [("codeActionKind", texts "valueSet")])),
    ("isPreferredSupport", bool?), ("disabledSupport", bool?), ("dataSupport", bool?),
    ("resolveSupport", resolveSupport), ("honorsChangeAnnotations", bool?)]

/-- What an editor can do with the meaning of tokens. -/
def tokenAbilities : Schema :=
  .record [("dynamicRegistration", bool?),
    ("requests", .record [("range", bool?),
      ("full", .optional (.oneOf [.bool, fields [("delta", bool?)]]))]),
    ("tokenTypes", .list .text), ("tokenModifiers", .list .text), ("formats", .list .text),
    ("overlappingTokenSupport", bool?), ("multilineTokenSupport", bool?),
    ("serverCancelSupport", bool?), ("augmentsSyntaxTokens", bool?)]

def documentAbilities : Schema :=
  let goto := .optional (flags ["dynamicRegistration", "linkSupport"])
  .record [("synchronization", .optional (flags ["dynamicRegistration", "willSave",
      "willSaveWaitUntil", "didSave"])),
    ("completion", .optional completionAbilities),
    ("hover", .optional (.record [("dynamicRegistration", bool?),
      ("contentFormat", proseKinds)])),
    ("signatureHelp", .optional signatureAbilities),
    ("references", registrable), ("documentHighlight", registrable),
    ("documentSymbol", .optional (.record [("dynamicRegistration", bool?),
      ("symbolKind", kindSupport), ("hierarchicalDocumentSymbolSupport", bool?),
      ("tagSupport", tagSupport)])),
    ("formatting", registrable), ("rangeFormatting", registrable),
    ("onTypeFormatting", registrable),
    ("declaration", goto), ("definition", goto), ("typeDefinition", goto),
    ("implementation", goto),
    ("codeAction", .optional codeActionAbilities), ("codeLens", registrable),
    ("documentLink", .optional (flags ["dynamicRegistration", "tooltipSupport"])),
    ("colorProvider", registrable),
    ("rename", .optional (.record [("dynamicRegistration", bool?), ("prepareSupport", bool?),
      ("prepareSupportDefaultBehavior", .optional .int), ("honorsChangeAnnotations", bool?)])),
    ("publishDiagnostics", .optional (.record [("relatedInformation", bool?),
      ("tagSupport", tagSupport), ("versionSupport", bool?), ("codeDescriptionSupport", bool?),
      ("dataSupport", bool?)])),
    ("foldingRange", .optional (.record [("dynamicRegistration", bool?),
      ("rangeLimit", .optional .word), ("lineFoldingOnly", bool?),
      ("foldingRangeKind", .optional (.record
        [("valueSet", .optional (.list (.choice ["comment", "imports", "region"])))])),
      ("foldingRange", .optional (flags ["collapsedText"]))])),
    ("selectionRange", registrable), ("linkedEditingRange", registrable),
    ("callHierarchy", registrable), ("semanticTokens", .optional tokenAbilities),
    ("moniker", registrable), ("typeHierarchy", registrable), ("inlineValue", registrable),
    ("inlayHint", .optional (.record [("dynamicRegistration", bool?),
      ("resolveSupport", resolveSupport)])),
    ("diagnostic", .optional (flags ["dynamicRegistration", "relatedDocumentSupport"]))]

def windowAbilities : Schema :=
  .record [("workDoneProgress", bool?),
    ("showMessage", .optional (.record [("messageActionItem",
      .optional (flags ["additionalPropertiesSupport"]))])),
    ("showDocument", .optional (.record [("support", .bool)]))]

def generalAbilities : Schema :=
  .record [("regularExpressions", .optional (.record [("engine", .text), ("version", text?)])),
    ("markdown", .optional (.record [("parser", .text), ("version", text?),
      ("allowedTags", .optional (.list .text))])),
    ("staleRequestSupport", .optional (.record
      [("cancel", .bool), ("retryOnContentModified", .list .text)])),
    ("positionEncodings", .optional (.list .text))]

def abilities : Schema :=
  .record [("workspace", .optional workspaceAbilities),
    ("textDocument", .optional documentAbilities), ("window", .optional windowAbilities),
    ("general", .optional generalAbilities), ("experimental", any?)]

/-! ## Items that are handed back -/

/-- An item of a hierarchy; `tags` is the shape of its tags. -/
def hierarchyItem (tags : Schema) : Schema :=
  .record [("name", .text), ("kind", .int), ("tags", .optional tags), ("detail", text?),
    ("uri", .uri), ("range", range), ("selectionRange", range), ("data", any?)]

/-- A remark between the characters of a document. -/
def inlayHint : Schema :=
  .record [("position", place),
    ("label", .oneOf [.text, .list (.record [("value", .text), ("tooltip", .optional prose),
      ("location", .optional location), ("command", .optional command)])]),
    ("kind", .optional .int), ("textEdits", .optional (.list textEdit)),
    ("tooltip", .optional prose), ("paddingLeft", bool?), ("paddingRight", bool?),
    ("data", any?)]

/-- A proposal to complete a text. -/
def completionItem : Schema :=
  .record [("label", .text),
    ("labelDetails", .optional (.record [("detail", text?), ("description", text?)])),
    ("kind", .optional .int), ("detail", text?), ("documentation", .optional prose),
    ("deprecated", bool?), ("preselect", bool?), ("sortText", text?), ("filterText", text?),
    ("insertText", text?), ("insertTextFormat", .optional .int),
    ("insertTextMode", .optional .int),
    ("textEdit", .optional (.oneOf [textEdit,
      .record [("newText", .text), ("insert", range), ("replace", range)]])),
    ("additionalTextEdits", .optional (.list textEdit)), ("command", .optional command),
    ("commitCharacters", .optional (.list .text)), ("data", any?),
    ("tags", .optional (.list .int))]

def signatureHelp : Schema :=
  .record [("signatures", .list (.record [("label", .text), ("documentation", .optional prose),
      ("parameters", .optional (.list (.record [("label", .oneOf [.text, .pair .word]),
        ("documentation", .optional prose)]))),
      ("activeParameter", .optional .word)])),
    ("activeSignature", .optional .word), ("activeParameter", .optional .word)]

/-- A change that is proposed. -/
def codeAction : Schema :=
  .record [("title", .text), ("kind", text?), ("diagnostics", .optional (.list diagnostic)),
    ("edit", .optional workspaceEdit), ("command", .optional command), ("isPreferred", bool?),
    ("disabled", .optional (.record [("reason", .text)])), ("data", any?)]

def workspaceSymbol : Schema :=
  .record [("name", .text), ("kind", .int), ("tags", .optional (.list .int)),
    ("containerName", text?), ("location", .oneOf [location, document]), ("data", any?)]

def fileList (keys : List String) : Schema :=
  .record [("files", .list (.record (keys.map (·, .text))))]

end Schema

open Schema in
/-- The methods of requests that are known and not served, each with its parameters. -/
def unserved : List (String × Schema) :=
  let place := fields (placeFields ++ resultFields)
  let placeOnly := fields (placeFields ++ workField)
  let document := fields (("textDocument", Schema.document) :: resultFields)
  let documentAnd (fs : List (String × Schema)) : Schema :=
    fields (("textDocument", Schema.document) :: fs ++ resultFields)
  [("textDocument/willSaveWaitUntil",
      .record [("textDocument", Schema.document), ("reason", .int)]),
    ("textDocument/declaration", place), ("textDocument/definition", place),
    ("textDocument/typeDefinition", place), ("textDocument/implementation", place),
    ("textDocument/references", fields (placeFields ++ resultFields ++
      [("context", .record [("includeDeclaration", .bool)])])),
    ("textDocument/prepareCallHierarchy", placeOnly),
    ("callHierarchy/incomingCalls",
      fields (("item", hierarchyItem (.list .int)) :: resultFields)),
    ("callHierarchy/outgoingCalls",
      fields (("item", hierarchyItem (.list .int)) :: resultFields)),
    ("textDocument/prepareTypeHierarchy", placeOnly),
    ("typeHierarchy/supertypes", fields (("item", hierarchyItem .int) :: resultFields)),
    ("typeHierarchy/subtypes", fields (("item", hierarchyItem .int) :: resultFields)),
    ("textDocument/documentHighlight", place), ("textDocument/documentLink", document),
    ("documentLink/resolve", .record [("range", range), ("target", .optional .uri),
      ("tooltip", text?), ("data", any?)]),
    ("textDocument/hover", placeOnly), ("textDocument/codeLens", document),
    ("codeLens/resolve",
      .record [("range", range), ("command", .optional command), ("data", any?)]),
    ("textDocument/foldingRange", document),
    ("textDocument/selectionRange", documentAnd [("positions", .list Schema.place)]),
    ("textDocument/documentSymbol", document), ("textDocument/semanticTokens/full", document),
    ("textDocument/semanticTokens/full/delta", documentAnd [("previousResultId", .text)]),
    ("textDocument/semanticTokens/range", documentAnd [("range", range)]),
    ("textDocument/inlineValue", fields (workField ++ [("textDocument", Schema.document),
      ("range", range), ("context", .record [("frameId", .int), ("stoppedLocation", range)])])),
    ("textDocument/inlayHint",
      fields (workField ++ [("textDocument", Schema.document), ("range", range)])),
    ("inlayHint/resolve", inlayHint), ("textDocument/moniker", place),
    ("textDocument/completion", fields (placeFields ++ resultFields ++ [("context", .optional
      (.record [("triggerKind", .int), ("triggerCharacter", text?)]))])),
    ("completionItem/resolve", completionItem),
    ("textDocument/diagnostic",
      documentAnd [("identifier", text?), ("previousResultId", text?)]),
    ("workspace/diagnostic", fields ([("identifier", text?),
      ("previousResultIds", .list (.record [("uri", .uri), ("value", .text)]))] ++
      resultFields)),
    ("textDocument/signatureHelp", fields (placeFields ++ workField ++ [("context", .optional
      (.record [("triggerKind", .int), ("triggerCharacter", text?), ("isRetrigger", .bool),
        ("activeSignatureHelp", .optional signatureHelp)]))])),
    ("textDocument/codeAction", documentAnd [("range", range),
      ("context", .record [("diagnostics", .list diagnostic),
        ("only", .optional (.list .text)), ("triggerKind", .optional .int)])]),
    ("codeAction/resolve", codeAction), ("textDocument/documentColor", document),
    ("textDocument/colorPresentation", documentAnd [("range", range),
      ("color", .record [("red", .number), ("green", .number), ("blue", .number),
        ("alpha", .number)])]),
    ("textDocument/onTypeFormatting",
      fields (placeFields ++ [("ch", .text), ("options", indentation)])),
    ("textDocument/rename", fields (placeFields ++ workField ++ [("newName", .text)])),
    ("textDocument/prepareRename", .record placeFields),
    ("textDocument/linkedEditingRange", placeOnly),
    ("workspace/symbol", fields (("query", .text) :: resultFields)),
    ("workspaceSymbol/resolve", workspaceSymbol),
    ("workspace/willCreateFiles", fileList ["uri"]),
    ("workspace/willRenameFiles", fileList ["oldUri", "newUri"]),
    ("workspace/willDeleteFiles", fileList ["uri"]),
    ("workspace/executeCommand", fields ([("command", .text),
      ("arguments", .defaulted (.list .any))] ++ workField))]

end Server

end SmartyLayout
