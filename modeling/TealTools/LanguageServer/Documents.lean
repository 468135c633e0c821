import TealTools.Diagnostic

/-!
# Documents of an editor

The text of a document is remembered from the last event that carried it
until the document is closed.  Every event that has a text to look at
publishes the diagnostics of that text.
-/

namespace TealTools.LanguageServer

/-- What an editor tells about its documents. -/
inductive DocumentEvent where
  | opened (uri : String) (version : Int) (text : String)
  /-- Every change carries the whole text. -/
  | changed (uri : String) (version : Int) (texts : List String)
  | saved (uri : String) (text : Option String)
  | closed (uri : String)
  deriving DecidableEq, Repr

/-- The document that an event is about. -/
def DocumentEvent.uri : DocumentEvent → String
  | opened uri _ _ | changed uri _ _ | saved uri _ | closed uri => uri

/-- Diagnostics for a document, which replace the ones before. -/
structure Publication where
  uri : String
  diagnostics : List Diagnostic
  version : Option Int
  deriving DecidableEq, Repr

/-- The remembered texts by their documents. -/
structure Documents where
  entries : List (String × String)
  deriving DecidableEq, Repr

namespace Documents

def empty : Documents := { entries := [] }

def get? (documents : Documents) (uri : String) : Option String :=
  documents.entries.lookup uri

def erase (documents : Documents) (uri : String) : Documents :=
  { entries := documents.entries.filter fun entry => entry.1 ≠ uri }

def insert (documents : Documents) (uri text : String) : Documents :=
  { entries := (uri, text) :: (documents.erase uri).entries }

/-- The documents behind an event, and what is published for it. -/
def handle (diagnose : String → List Diagnostic) (documents : Documents) :
    DocumentEvent → Documents × Option Publication
  | .opened uri version text =>
    (documents.insert uri text,
      some { uri, diagnostics := diagnose text, version := some version })
  | .changed uri version texts =>
    match texts.getLast? with
    | none => (documents, none)
    | some text =>
      (documents.insert uri text,
        some { uri, diagnostics := diagnose text, version := some version })
  | .saved uri (some text) =>
    (documents.insert uri text,
      some { uri, diagnostics := diagnose text, version := none })
  | .saved uri none =>
    (documents, (documents.get? uri).map fun text =>
      { uri, diagnostics := diagnose text, version := none })
  | .closed uri =>
    (documents.erase uri, some { uri, diagnostics := [], version := none })

end Documents

end TealTools.LanguageServer
