import TealTools.LanguageServer.Params

/-!
# What an editor says about itself

The parameters of the call that starts a server: who the editor is, which
folders it works in, and what it can do.
-/

namespace TealTools.LanguageServer.Client

open Json (Key Shape)
open Params

/-! ## Common abilities -/

/-- May the ability be registered later? -/
def dynamic : Key × Shape := optional "dynamicRegistration" .flag

/-- An ability that can only be registered later. -/
def registration : Shape :=
  .record "DynamicRegistrationClientCapabilities" [dynamic]

/-- An ability that consists of flags. -/
def switches (name : String) (names : List String) : Shape :=
  .record name (flags names)

/-- An ability that may be registered later, and consists of flags. -/
def dynamicSwitches (name : String) (names : List String) : Shape :=
  .record name (dynamic :: flags names)

/-- Can the editor be told to ask again? -/
def refresh (name : String) : Shape := switches name ["refreshSupport"]

/-- The properties that the editor can ask for later. -/
def properties (name : String) : Shape :=
  .record name [field "properties" texts]

/-- The numbers that the editor knows. -/
def knownNumbers (name : String) : Shape :=
  .record name [optional "valueSet" (.list int32)]

/-- The tags that the editor knows; a flag is allowed in their place. -/
def tags : Key × Shape :=
  field "tagSupport" (.defaulted (.optional
    (.flagOr (.record "TagSupport" [field "valueSet" (.list int32)]))))

def formats (name : String) : Key × Shape :=
  optional name (.list markupKind)

/-! ## Workspaces -/

def workspaceEdits : Shape :=
  .record "WorkspaceEditClientCapabilities"
    [optional "documentChanges" .flag,
     optional "resourceOperations"
       (.list (.oneOf ["create", "rename", "delete"])),
     optional "failureHandling"
       (.oneOf ["abort", "transactional", "textOnlyTransactional", "undo"]),
     optional "normalizesLineEndings" .flag,
     optional "changeAnnotationSupport"
       (switches "ChangeAnnotationWorkspaceEditClientCapabilities"
         ["groupsOnLabel"])]

def workspace : Shape :=
  .record "WorkspaceClientCapabilities"
    [optional "applyEdit" .flag, optional "workspaceEdit" workspaceEdits,
     optional "didChangeConfiguration" registration,
     optional "didChangeWatchedFiles"
       (dynamicSwitches "DidChangeWatchedFilesClientCapabilities"
         ["relativePatternSupport"]),
     optional "symbol"
       (.record "WorkspaceSymbolClientCapabilities"
         [dynamic, optional "symbolKind" (knownNumbers "SymbolKindCapability"),
          tags,
          optional "resolveSupport"
            (properties "WorkspaceSymbolResolveSupportCapability")]),
     optional "executeCommand" registration,
     optional "workspaceFolders" .flag, optional "configuration" .flag,
     optional "semanticTokens"
       (refresh "SemanticTokensWorkspaceClientCapabilities"),
     optional "codeLens" (refresh "CodeLensWorkspaceClientCapabilities"),
     optional "fileOperations"
       (dynamicSwitches "WorkspaceFileOperationsClientCapabilities"
         ["didCreate", "willCreate", "didRename", "willRename", "didDelete",
          "willDelete"]),
     optional "inlineValue"
       (refresh "InlineValueWorkspaceClientCapabilities"),
     optional "inlayHint" (refresh "InlayHintWorkspaceClientCapabilities"),
     optional "diagnostic"
       (refresh "DiagnosticWorkspaceClientCapabilities")]

/-! ## Documents -/

def completionItems : Shape :=
  .record "CompletionItemCapability"
    [optional "snippetSupport" .flag,
     optional "commitCharactersSupport" .flag,
     formats "documentationFormat", optional "deprecatedSupport" .flag,
     optional "preselectSupport" .flag, tags,
     optional "insertReplaceSupport" .flag,
     optional "resolveSupport"
       (properties "CompletionItemCapabilityResolveSupport"),
     optional "insertTextModeSupport"
       (.record "InsertTextModeSupport" [field "valueSet" (.list int32)]),
     optional "labelDetailsSupport" .flag]

def completion : Shape :=
  .record "CompletionClientCapabilities"
    [dynamic, optional "completionItem" completionItems,
     optional "completionItemKind"
       (knownNumbers "CompletionItemKindCapability"),
     optional "contextSupport" .flag, optional "insertTextMode" int32,
     optional "completionList"
       (.record "CompletionListCapability" [optional "itemDefaults" texts])]

def signatureHelp : Shape :=
  .record "SignatureHelpClientCapabilities"
    [dynamic,
     optional "signatureInformation"
       (.record "SignatureInformationSettings"
         [formats "documentationFormat",
          optional "parameterInformation"
            (switches "ParameterInformationSettings"
              ["labelOffsetSupport"]),
          optional "activeParameterSupport" .flag]),
     optional "contextSupport" .flag]

def codeAction : Shape :=
  .record "CodeActionClientCapabilities"
    [dynamic,
     optional "codeActionLiteralSupport"
       (.record "CodeActionLiteralSupport"
         [field "codeActionKind"
           (.record "CodeActionKindLiteralSupport"
             [field "valueSet" texts])]),
     optional "isPreferredSupport" .flag, optional "disabledSupport" .flag,
     optional "dataSupport" .flag,
     optional "resolveSupport"
       (properties "CodeActionCapabilityResolveSupport"),
     optional "honorsChangeAnnotations" .flag]

def foldingRange : Shape :=
  .record "FoldingRangeClientCapabilities"
    [dynamic, optional "rangeLimit" uint32,
     optional "lineFoldingOnly" .flag,
     optional "foldingRangeKind"
       (.record "FoldingRangeKindCapability"
         [optional "valueSet"
           (.list (.oneOf ["comment", "imports", "region"]))]),
     optional "foldingRange"
       (switches "FoldingRangeCapability" ["collapsedText"])]

def semanticTokens : Shape :=
  .record "SemanticTokensClientCapabilities"
    ([dynamic,
      field "requests"
        (.record "SemanticTokensClientCapabilitiesRequests"
          [optional "range" .flag,
           optional "full"
             (.either "SemanticTokensFullOptions"
               [.flag, .merged "Delta" (flags ["delta"]) []])]),
      field "tokenTypes" texts, field "tokenModifiers" texts,
      field "formats" (.list (.oneOf ["relative"]))] ++
      flags ["overlappingTokenSupport", "multilineTokenSupport",
        "serverCancelSupport", "augmentsSyntaxTokens"])

/-- A jump to another place. -/
def jump : Shape := dynamicSwitches "GotoCapability" ["linkSupport"]

def documents : Shape :=
  .record "TextDocumentClientCapabilities"
    [optional "synchronization"
       (dynamicSwitches "TextDocumentSyncClientCapabilities"
         ["willSave", "willSaveWaitUntil", "didSave"]),
     optional "completion" completion,
     optional "hover"
       (.record "HoverClientCapabilities" [dynamic, formats "contentFormat"]),
     optional "signatureHelp" signatureHelp,
     optional "references" registration,
     optional "documentHighlight" registration,
     optional "documentSymbol"
       (.record "DocumentSymbolClientCapabilities"
         [dynamic, optional "symbolKind" (knownNumbers "SymbolKindCapability"),
          optional "hierarchicalDocumentSymbolSupport" .flag, tags]),
     optional "formatting" registration,
     optional "rangeFormatting" registration,
     optional "onTypeFormatting" registration,
     optional "declaration" jump, optional "definition" jump,
     optional "typeDefinition" jump, optional "implementation" jump,
     optional "codeAction" codeAction, optional "codeLens" registration,
     optional "documentLink"
       (dynamicSwitches "DocumentLinkClientCapabilities"
         ["tooltipSupport"]),
     optional "colorProvider" registration,
     optional "rename"
       (.record "RenameClientCapabilities"
         [dynamic, optional "prepareSupport" .flag,
          optional "prepareSupportDefaultBehavior" int32,
          optional "honorsChangeAnnotations" .flag]),
     optional "publishDiagnostics"
       (.record "PublishDiagnosticsClientCapabilities"
         [optional "relatedInformation" .flag, tags,
          optional "versionSupport" .flag,
          optional "codeDescriptionSupport" .flag,
          optional "dataSupport" .flag]),
     optional "foldingRange" foldingRange,
     optional "selectionRange"
       (.record "SelectionRangeClientCapabilities" [dynamic]),
     optional "linkedEditingRange" registration,
     optional "callHierarchy" registration,
     optional "semanticTokens" semanticTokens,
     optional "moniker" registration,
     optional "typeHierarchy" registration,
     optional "inlineValue" registration,
     optional "inlayHint"
       (.record "InlayHintClientCapabilities"
         [dynamic,
          optional "resolveSupport"
            (properties "InlayHintResolveClientCapabilities")]),
     optional "diagnostic"
       (dynamicSwitches "DiagnosticClientCapabilities"
         ["relatedDocumentSupport"]),
     optional "inlineCompletion"
       (.record "InlineCompletionClientCapabilities" [dynamic])]

def notebooks : Shape :=
  .record "NotebookDocumentClientCapabilities"
    [field "synchronization"
      (dynamicSwitches "NotebookDocumentSyncClientCapabilities"
        ["executionSummarySupport"])]

/-! ## The editor -/

def window : Shape :=
  .record "WindowClientCapabilities"
    [optional "workDoneProgress" .flag,
     optional "showMessage"
       (.record "ShowMessageRequestClientCapabilities"
         [optional "messageActionItem"
           (switches "MessageActionItemCapabilities"
             ["additionalPropertiesSupport"])]),
     optional "showDocument"
       (.record "ShowDocumentClientCapabilities" [field "support" .flag])]

def general : Shape :=
  .record "GeneralClientCapabilities"
    [optional "regularExpressions"
       (.record "RegularExpressionsClientCapabilities"
         [field "engine" .text, optional "version" .text]),
     optional "markdown"
       (.record "MarkdownClientCapabilities"
         [field "parser" .text, optional "version" .text,
          optional "allowedTags" texts]),
     optional "staleRequestSupport"
       (.record "StaleRequestSupportClientCapabilities"
         [field "cancel" .flag, field "retryOnContentModified" texts]),
     optional "positionEncodings" texts]

/-- What the editor can do. -/
def capabilities : Shape :=
  .record "ClientCapabilities"
    [optional "workspace" workspace, optional "textDocument" documents,
     optional "notebookDocument" notebooks, optional "window" window,
     optional "general" general, optional "offsetEncoding" texts,
     optional "experimental" .anything]

/-- The parameters of the call that starts a server. -/
def shape : Shape :=
  .merged "InitializeParams"
    [optional "processId" uint32, optional "rootPath" .text,
     optional "rootUri" uri, optional "initializationOptions" .anything,
     field "capabilities" capabilities,
     optional "trace" (.oneOf ["off", "messages", "verbose"]),
     optional "workspaceFolders"
       (.list (.record "WorkspaceFolder"
         [field "uri" uri, field "name" .text])),
     optional "clientInfo"
       (.record "ClientInfo" [field "name" .text, optional "version" .text]),
     optional "locale" .text]
    [workDone]

end TealTools.LanguageServer.Client
