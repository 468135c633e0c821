import TealTools.Text.Split
import TealTools.Text.Utf8

/-!
# Files

The files that a session can see, by the names on the way to them.  Paths are
byte strings; they begin at the working directory unless they begin with a
slash.
-/

namespace TealTools

/-- Why a file cannot be read or created. -/
inductive FileError where
  | notFound
  | notDirectory
  | isDirectory
  | nameTooLong
  | invalidName
  | invalidText
  /-- Anything else, in the words of the system. -/
  | other (description : String)
  deriving DecidableEq, Repr

def FileError.message : FileError → String
  | notFound => "No such file or directory (os error 2)"
  | notDirectory => "Not a directory (os error 20)"
  | isDirectory => "Is a directory (os error 21)"
  | nameTooLong => "File name too long (os error 36)"
  | invalidName => "file name contained an unexpected NUL byte"
  | invalidText => "stream did not contain valid UTF-8"
  | other description => description

inductive FileEntry where
  | file (content : Bytes)
  | directory
  /-- A device that takes every write, or refuses every write. -/
  | device (accepts : Bool)
  /-- A place where somebody waits for connections. -/
  | socket
  deriving DecidableEq, Repr

/-- The names on the way to a file, from the working directory or from the
root. -/
structure FilePlace where
  absolute : Bool
  names : List Bytes
  deriving DecidableEq, Repr

structure Files where
  entries : List (FilePlace × FileEntry)
  deriving DecidableEq, Repr

namespace Files

/-- The names of a path, split at slashes. -/
def splitPath (path : Bytes) : List Bytes :=
  Text.split 0x2F path

def name (text : String) : Bytes := Text.utf8 text.toList

/-- The directory around the working directory. -/
def surrounding : FilePlace := ⟨true, [[]]⟩

/-- The working directory is empty; of the system only its devices are
seen. -/
def empty : Files :=
  { entries :=
      [(surrounding, .directory),
       (⟨true, [name "dev"]⟩, .directory),
       (⟨true, [name "dev", name "null"]⟩, .device true),
       (⟨true, [name "dev", name "full"]⟩, .device false)] }

/-- What stands at a place; the working directory and the root always
exist. -/
def get? (files : Files) (place : FilePlace) : Option FileEntry :=
  if place.names.isEmpty then some .directory
  else files.entries.lookup place

/-- Puts an entry at a place. -/
def set (files : Files) (place : FilePlace) (entry : FileEntry) : Files :=
  { entries :=
      (place, entry) :: files.entries.filter fun other => other.1 ≠ place }

/-- Every directory on the way to a place. -/
def ancestors (place : FilePlace) : List FilePlace :=
  (List.range place.names.length).map fun count =>
    { place with names := place.names.take count }

/-- One step up. -/
def parent (place : FilePlace) : FilePlace :=
  if place = ⟨false, []⟩ then surrounding
  else { place with names := place.names.dropLast }

def dot : Bytes := [0x2E]

def dotDot : Bytes := [0x2E, 0x2E]

/-- The place that a path names, whatever exists on the way. -/
def place (path : Bytes) : FilePlace :=
  (splitPath path).foldl (fun place name =>
    if name.isEmpty ∨ name = dot then place
    else if name = dotDot then parent place
    else { place with names := place.names ++ [name] })
    ⟨path.head? = some 0x2F, []⟩

/-- Puts an entry at a path, with the directories on the way. -/
def put (files : Files) (path : Bytes) (entry : FileEntry) : Files :=
  let files := (ancestors (place path)).foldl (fun files directory =>
    if directory.names.isEmpty then files
    else files.set directory .directory) files
  files.set (place path) entry

/-- Follows names from a place.  Only the last one need not exist. -/
def walk (files : Files) (place : FilePlace) :
    List Bytes → Except FileError FilePlace
  | [] => .ok place
  | name :: names =>
    match files.get? place with
    | none => .error .notFound
    | some .directory =>
      if name.isEmpty ∨ name = dot then walk files place names
      else if name = dotDot then
        walk files (parent place) names
      else if name.length > 255 then .error .nameTooLong
      else walk files { place with names := place.names ++ [name] } names
    | some _ => .error .notDirectory

/-- The place that a path leads to. -/
def locate (files : Files) (path : Bytes) : Except FileError FilePlace :=
  if path.contains 0 then .error .invalidName
  else if path.isEmpty then .error .notFound
  else if path.length > 4095 then .error .nameTooLong
  else
    let names := (splitPath path).reverse.dropWhile List.isEmpty
    files.walk ⟨path.head? = some 0x2F, []⟩ names.reverse

/-- A socket cannot be opened like a file. -/
def noDevice : FileError :=
  .other "No such device or address (os error 6)"

/-- Does the path end in a slash, so that it can only lead to a directory? -/
def wantsDirectory (path : Bytes) : Bool :=
  path.getLast? = some 0x2F

/-- The content of a file. -/
def read (files : Files) (path : Bytes) : Except FileError Bytes := do
  let place ← files.locate path
  match files.get? place with
  | none => .error .notFound
  | some .directory => .error .isDirectory
  | some entry =>
    if wantsDirectory path then .error .notDirectory
    else
      match entry with
      | .file content => .ok content
      | .socket => .error noDevice
      | _ => .ok []

/-- The text of a file. -/
def readText (files : Files) (path : Bytes) : Except FileError String := do
  match Text.ofUtf8? (← files.read path) with
  | some text => .ok (String.ofList text)
  | none => .error .invalidText

/-- Makes an empty file, or empties the one that is there. -/
def create (files : Files) (path : Bytes) : Except FileError Files := do
  let place ← files.locate path
  if wantsDirectory path then .error .isDirectory
  else
    match files.get? place with
    | some .directory => .error .isDirectory
    | some (.device _) => .ok files
    | some .socket => .error noDevice
    | entry =>
      if entry.isNone ∧ files.get? (parent place) ≠ some .directory then
        .error .notFound
      else .ok (files.set place (.file []))

/-- Does the path lead to anything? -/
def contains (files : Files) (path : Bytes) : Bool :=
  match files.locate path with
  | .ok place =>
    match files.get? place with
    | none => false
    | some entry => entry = .directory || !wantsDirectory path
  | .error _ => false

/-- Does the path lead to a device that refuses every write? -/
def refusesWrites (files : Files) (path : Bytes) : Bool :=
  match files.locate path with
  | .ok place => files.get? place = some (.device false)
  | .error _ => false

/-- The last name of a path, unless the path ends in a step to a parent or
has no name. -/
def fileName? (path : List Char) : Option (List Char) :=
  let names := (Text.split '/' path).filter fun name => !name.isEmpty
  let names := match path, names with
    | '.' :: _, ['.'] :: rest => ['.'] :: rest.filter (· ≠ ['.'])
    | _, names => names.filter (· ≠ ['.'])
  match names.getLast? with
  | none => none
  | some last => if last = ['.'] ∨ last = ['.', '.'] then none else some last

/-- A path as a message shows it. -/
def shown (path : Bytes) : String :=
  String.ofList (Text.ofUtf8 path)

end Files

end TealTools
