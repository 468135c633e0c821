import TealTools.Json.Shape
import TealTools.LanguageServer.Uri

/-!
# Records of the protocol

The records that parameters of calls are made of: places in documents, edits,
diagnostics, and the tokens under which progress is reported.
-/

namespace TealTools.LanguageServer.Params

open Json (Key Shape)

/-! ## Fields -/

/-- A field that has to be given. -/
def field (name : String) (shape : Shape) : Key × Shape :=
  ({ name, label := name }, shape)

/-- A field that may be absent or null. -/
def optional (name : String) (shape : Shape) : Key × Shape :=
  field name (.optional shape)

/-- Flags that may be absent. -/
def flags (names : List String) : List (Key × Shape) :=
  names.map fun name => optional name .flag

def int32 : Shape :=
  .integer "i32" Int32.minValue.toInt Int32.maxValue.toInt

def uint32 : Shape := .integer "u32" 0 (UInt32.size - 1)

def uri : Shape := .word Uri.refusal?

def texts : Shape := .list .text

def numberOrText : Shape := .either "NumberOrString" [int32, .text]

/-- Data that a server keeps with a record. -/
def data : Key × Shape := optional "data" .anything

/-! ## Places -/

def position : Shape :=
  .record "Position" [field "line" uint32, field "character" uint32]

def range : Shape :=
  .record "Range" [field "start" position, field "end" position]

def location : Shape :=
  .record "Location" [field "uri" uri, field "range" range]

def document : Shape := .record "TextDocumentIdentifier" [field "uri" uri]

def textDocument : Key × Shape := field "textDocument" document

/-- A document and a position in it. -/
def place : List (Key × Shape) := [textDocument, field "position" position]

/-! ## Progress -/

def workDone : List (Key × Shape) := [optional "workDoneToken" numberOrText]

def partialResult : List (Key × Shape) :=
  [optional "partialResultToken" numberOrText]

/-! ## Texts and commands -/

def markupKind : Shape := .oneOf ["plaintext", "markdown"]

def markup : Shape :=
  .record "MarkupContent" [field "kind" markupKind, field "value" .text]

/-- A text, perhaps with its kind. -/
def prose (name : String) : Shape := .either name [.text, markup]

def command : Shape :=
  .record "Command"
    [field "title" .text, field "command" .text,
     optional "arguments" (.list .anything)]

/-! ## Diagnostics -/

def diagnostic : Shape :=
  .record "Diagnostic"
    [field "range" range, optional "severity" int32,
     optional "code" numberOrText,
     optional "codeDescription"
       (.record "CodeDescription" [field "href" uri]),
     optional "source" .text, field "message" .text,
     optional "relatedInformation"
       (.list (.record "DiagnosticRelatedInformation"
         [field "location" location, field "message" .text])),
     optional "tags" (.list int32), data]

/-! ## Edits -/

def textEdit : Shape :=
  .record "TextEdit" [field "range" range, field "newText" .text]

def annotatedTextEdit : Shape :=
  .merged "AnnotatedTextEdit" [field "annotationId" .text]
    [[field "range" range, field "newText" .text]]

def documentEdit : Shape :=
  .record "TextDocumentEdit"
    [field "textDocument"
       (.record "OptionalVersionedTextDocumentIdentifier"
         [field "uri" uri, optional "version" int32]),
     field "edits" (.list (.either "OneOf" [textEdit, annotatedTextEdit]))]

/-- The options of an operation on files. -/
def fileOptions (name : String) (names : List String) : Key × Shape :=
  optional "options" (.record name (flags names))

/-- An operation on files, which says what it is. -/
def fileOperation : Shape :=
  .either "ResourceOp"
    [.record "CreateFile"
       [field "kind" (.oneOf ["create"]), field "uri" uri,
        fileOptions "CreateFileOptions" ["overwrite", "ignoreIfExists"],
        optional "annotationId" .text],
     .record "RenameFile"
       [field "kind" (.oneOf ["rename"]), field "oldUri" uri,
        field "newUri" uri,
        fileOptions "RenameFileOptions" ["overwrite", "ignoreIfExists"],
        optional "annotationId" .text],
     .record "DeleteFile"
       [field "kind" (.oneOf ["delete"]), field "uri" uri,
        fileOptions "DeleteFileOptions"
          ["recursive", "ignoreIfNotExists"]]]

def workspaceEdit : Shape :=
  .record "WorkspaceEdit"
    [optional "changes" (.table Uri.refusal? (.list textEdit)),
     optional "documentChanges"
       (.either "DocumentChanges"
         [.list documentEdit,
          .list (.either "DocumentChangeOperation"
            [fileOperation, documentEdit])]),
     optional "changeAnnotations"
       (.table (fun _ => none) (.record "ChangeAnnotation"
         [field "label" .text, optional "needsConfirmation" .flag,
          optional "description" .text]))]

end TealTools.LanguageServer.Params
