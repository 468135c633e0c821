import TealTools.LanguageServer.Params

/-!
# Calls that are understood

The calls that an editor may make of servers, with the shape of their
parameters.  None of them is supported by this server, but parameters of the
wrong shape are still told apart from that.
-/

namespace TealTools.LanguageServer.Query

open Json (Key Shape)
open Params

/-- Parameters with the tokens of calls that report progress and send results
bit by bit. -/
def reporting (name : String) (own : List (Key × Shape)) : Shape :=
  .merged name own [workDone, partialResult]

/-- Parameters about a place in a document. -/
def atPlace (name : String) (own : List (Key × Shape))
    (parts : List (List (Key × Shape))) : Shape :=
  .merged name own (place :: parts)

/-! ## Navigation -/

def jump : Shape :=
  atPlace "GotoDefinitionParams" [] [workDone, partialResult]

/-- An item of a hierarchy. -/
def item (name : String) : Key × Shape :=
  field "item" (.record name
    [field "name" .text, field "kind" int32,
     optional "tags" (.list int32), optional "detail" .text,
     field "uri" uri, field "range" range, field "selectionRange" range,
     data])

def navigation : List (String × Shape) :=
  [("textDocument/declaration", jump), ("textDocument/definition", jump),
   ("textDocument/typeDefinition", jump),
   ("textDocument/implementation", jump),
   ("textDocument/references",
     atPlace "ReferenceParams"
       [field "context" (.record "ReferenceContext"
         [field "includeDeclaration" .flag])]
       [workDone, partialResult]),
   ("textDocument/prepareCallHierarchy",
     atPlace "CallHierarchyPrepareParams" [] [workDone]),
   ("callHierarchy/incomingCalls",
     reporting "CallHierarchyIncomingCallsParams"
       [item "CallHierarchyItem"]),
   ("callHierarchy/outgoingCalls",
     reporting "CallHierarchyOutgoingCallsParams"
       [item "CallHierarchyItem"]),
   ("textDocument/prepareTypeHierarchy",
     atPlace "TypeHierarchyPrepareParams" [] [workDone]),
   ("typeHierarchy/supertypes",
     reporting "TypeHierarchySupertypesParams" [item "TypeHierarchyItem"]),
   ("typeHierarchy/subtypes",
     reporting "TypeHierarchySubtypesParams" [item "TypeHierarchyItem"]),
   ("textDocument/documentHighlight",
     atPlace "DocumentHighlightParams" [] [workDone, partialResult]),
   ("textDocument/moniker",
     atPlace "MonikerParams" [] [workDone, partialResult])]

/-! ## Whole documents -/

def documentLink : Shape :=
  .record "DocumentLink"
    [field "range" range, optional "target" uri, optional "tooltip" .text,
     data]

def codeLens : Shape :=
  .record "CodeLens"
    [field "range" range, optional "command" command, data]

def inlayHint : Shape :=
  .record "InlayHint"
    [field "position" position,
     field "label"
       (.either "InlayHintLabel"
         [.text,
          .list (.record "InlayHintLabelPart"
            [field "value" .text,
             optional "tooltip" (prose "InlayHintLabelPartTooltip"),
             optional "location" location, optional "command" command])]),
     optional "kind" int32, optional "textEdits" (.list textEdit),
     optional "tooltip" (prose "InlayHintTooltip"),
     optional "paddingLeft" .flag, optional "paddingRight" .flag, data]

def contents : List (String × Shape) :=
  [("textDocument/documentLink",
     reporting "DocumentLinkParams" [textDocument]),
   ("documentLink/resolve", documentLink),
   ("textDocument/hover", atPlace "HoverParams" [] [workDone]),
   ("textDocument/codeLens", reporting "CodeLensParams" [textDocument]),
   ("codeLens/resolve", codeLens),
   ("textDocument/foldingRange",
     reporting "FoldingRangeParams" [textDocument]),
   ("textDocument/selectionRange",
     reporting "SelectionRangeParams"
       [textDocument, field "positions" (.list position)]),
   ("textDocument/documentSymbol",
     reporting "DocumentSymbolParams" [textDocument]),
   ("textDocument/semanticTokens/full",
     reporting "SemanticTokensParams" [textDocument]),
   ("textDocument/semanticTokens/full/delta",
     reporting "SemanticTokensDeltaParams"
       [textDocument, field "previousResultId" .text]),
   ("textDocument/semanticTokens/range",
     reporting "SemanticTokensRangeParams"
       [textDocument, field "range" range]),
   ("textDocument/inlineValue",
     .merged "InlineValueParams"
       [textDocument, field "range" range,
        field "context" (.record "InlineValueContext"
          [field "frameId" int32, field "stoppedLocation" range])]
       [workDone]),
   ("textDocument/inlayHint",
     .merged "InlayHintParams" [textDocument, field "range" range]
       [workDone]),
   ("inlayHint/resolve", inlayHint),
   ("textDocument/diagnostic",
     reporting "DocumentDiagnosticParams"
       [textDocument, optional "identifier" .text,
        optional "previousResultId" .text]),
   ("workspace/diagnostic",
     reporting "WorkspaceDiagnosticParams"
       [optional "identifier" .text,
        field "previousResultIds" (.list (.record "PreviousResultId"
          [field "uri" uri, field "value" .text]))]),
   ("textDocument/documentColor",
     reporting "DocumentColorParams" [textDocument]),
   ("textDocument/colorPresentation",
     reporting "ColorPresentationParams"
       [textDocument,
        field "color" (.record "Color"
          (["red", "green", "blue", "alpha"].map fun name =>
            field name (.real "f32"))),
        field "range" range])]

/-! ## Typing -/

def completionItem : Shape :=
  .record "CompletionItem"
    [field "label" .text,
     optional "labelDetails" (.record "CompletionItemLabelDetails"
       [optional "detail" .text, optional "description" .text]),
     optional "kind" int32, optional "detail" .text,
     optional "documentation" (prose "Documentation"),
     optional "deprecated" .flag, optional "preselect" .flag,
     optional "sortText" .text, optional "filterText" .text,
     optional "insertText" .text, optional "insertTextFormat" int32,
     optional "insertTextMode" int32,
     optional "textEdit" (.either "CompletionTextEdit"
       [textEdit,
        .record "InsertReplaceEdit"
          [field "newText" .text, field "insert" range,
           field "replace" range]]),
     optional "additionalTextEdits" (.list textEdit),
     optional "command" command, optional "commitCharacters" texts, data,
     optional "tags" (.list int32)]

def signature : Shape :=
  .record "SignatureInformation"
    [field "label" .text, optional "documentation" (prose "Documentation"),
     optional "parameters" (.list (.record "ParameterInformation"
       [field "label" (.either "ParameterLabel" [.text, .tuple uint32 2]),
        optional "documentation" (prose "Documentation")])),
     optional "activeParameter" uint32]

def signatureContext : Shape :=
  .record "SignatureHelpContext"
    [field "triggerKind" int32, optional "triggerCharacter" .text,
     field "isRetrigger" .flag,
     optional "activeSignatureHelp" (.record "SignatureHelp"
       [field "signatures" (.list signature),
        optional "activeSignature" uint32,
        optional "activeParameter" uint32])]

def formattingOptions : Key × Shape :=
  field "options" (.withTable "FormattingOptions"
    [field "tabSize" uint32, field "insertSpaces" .flag,
     optional "trimTrailingWhitespace" .flag,
     optional "insertFinalNewline" .flag,
     optional "trimFinalNewlines" .flag]
    (.either "FormattingProperty" [.flag, int32, .text]))

def typing : List (String × Shape) :=
  [("textDocument/completion",
     atPlace "CompletionParams"
       [optional "context" (.record "CompletionContext"
         [field "triggerKind" int32, optional "triggerCharacter" .text])]
       [workDone, partialResult]),
   ("completionItem/resolve", completionItem),
   ("textDocument/signatureHelp",
     atPlace "SignatureHelpParams" [optional "context" signatureContext]
       [workDone]),
   ("textDocument/formatting",
     .merged "DocumentFormattingParams" [textDocument, formattingOptions]
       [workDone]),
   ("textDocument/rangeFormatting",
     .merged "DocumentRangeFormattingParams"
       [textDocument, field "range" range, formattingOptions] [workDone]),
   ("textDocument/onTypeFormatting",
     atPlace "DocumentOnTypeFormattingParams"
       [field "ch" .text, formattingOptions] []),
   ("textDocument/linkedEditingRange",
     atPlace "LinkedEditingRangeParams" [] [workDone])]

/-! ## Changes -/

def codeAction : Shape :=
  .record "CodeAction"
    [field "title" .text, optional "kind" .text,
     optional "diagnostics" (.list diagnostic),
     optional "edit" workspaceEdit, optional "command" command,
     optional "isPreferred" .flag,
     optional "disabled"
       (.record "CodeActionDisabled" [field "reason" .text]),
     data]

/-- Files that are about to change. -/
def files (name item : String) (names : List String) : Shape :=
  .record name
    [field "files" (.list (.record item
      (names.map fun name => field name .text)))]

def workspaceSymbol : Shape :=
  .record "WorkspaceSymbol"
    [field "name" .text, field "kind" int32, optional "tags" (.list int32),
     optional "containerName" .text,
     field "location" (.either "OneOf"
       [location, .record "WorkspaceLocation" [field "uri" uri]]),
     data]

def changes : List (String × Shape) :=
  [("textDocument/codeAction",
     reporting "CodeActionParams"
       [textDocument, field "range" range,
        field "context" (.record "CodeActionContext"
          [field "diagnostics" (.list diagnostic), optional "only" texts,
           optional "triggerKind" int32])]),
   ("codeAction/resolve", codeAction),
   ("textDocument/rename",
     atPlace "RenameParams" [field "newName" .text] [workDone]),
   ("textDocument/prepareRename",
     .record "TextDocumentPositionParams" place),
   ("workspace/symbol",
     .merged "WorkspaceSymbolParams" [field "query" .text]
       [partialResult, workDone]),
   ("workspaceSymbol/resolve", workspaceSymbol),
   ("workspace/willCreateFiles",
     files "CreateFilesParams" "FileCreate" ["uri"]),
   ("workspace/willRenameFiles",
     files "RenameFilesParams" "FileRename" ["oldUri", "newUri"]),
   ("workspace/willDeleteFiles",
     files "DeleteFilesParams" "FileDelete" ["uri"]),
   ("workspace/executeCommand",
     .merged "ExecuteCommandParams"
       [field "command" .text,
        field "arguments" (.defaulted (.list .anything))]
       [workDone]),
   ("textDocument/willSaveWaitUntil",
     .record "WillSaveTextDocumentParams"
       [textDocument, field "reason" int32])]

/-- Every call that is understood, and the shape of its parameters. -/
def shapes : List (String × Shape) :=
  navigation ++ contents ++ typing ++ changes

end TealTools.LanguageServer.Query
