import RollCall.Logging.Line
import RollCall.Settings.Reader
import RollCall.Text.Lines
import RollCall.Yaml.Graph.Value

/-!
# Settings files

Settings may come from a file. The file holds one document, whose value is a mapping: either the
settings themselves or, under the name of their section, a mapping with the settings. A document
without content counts as an empty mapping.

## Main definitions

* `Settings.ofDocument`: the settings in the value of a document.
* `Settings.load`: the settings in the bytes of a file.
* `Settings.normalPath`: a path as it is shown.
-/

namespace RollCall.Settings

/-- The name of the section that may hold the settings. -/
def sectionName : String := "s3-discovery"

/-- The number of levels of a document that settings make use of: the document, its section, the
values of the fields, and the parts of these. -/
def documentLevels : Nat := 4

/-- The failure for a file that is not there. -/
def missingFile (path : String) : Failure :=
  .settings
    ("Could not find '" ++ path ++ "'. Please verify that the configuration file exists.") []

/-- The failure for a file without a document. -/
def unreadableFile (path : String) : Failure :=
  .settings ("Could not read configuration file '" ++ path ++ "'") []

/-- The failure for a document that is not a mapping. -/
def noMapping (path : String) : Failure :=
  .settings ("Configuration file '" ++ path ++ "' must contain a mapping.") []

/-- The failure for a section that is not a mapping. -/
def noSection (path : String) : Failure :=
  .settings ("Section '" ++ sectionName ++ "' in '" ++ path ++ "' must be a mapping.") []

/-- The entries of the settings in the value of a document: those of the section if there is one,
else all. -/
def sectionEntries (path : String) (document : Value) : Except Failure (List (Value × Value)) :=
  let document := if document.isTruthy then document else .map []
  match document with
  | .map entries =>
    match Value.lookup? sectionName entries with
    | none => .ok entries
    | some (.map entries) => .ok entries
    | some _ => .error (noSection path)
  | _ => .error (noMapping path)

/-- The settings in the value of a document. -/
def ofDocument (path : String) (document : Value) : Except Failure Settings := do
  ofEntries (← sectionEntries path document)

/-- The value of the document that the bytes of a file hold. -/
def document (path : String) (bytes : List UInt8) : Except Failure Value :=
  match Utf8.decode bytes with
  | .error fault => .error (.notUtf8 fault)
  | .ok cs =>
    match Yaml.value documentLevels (Text.unifyEnds cs) with
    | .ok v => .ok v
    | .error .malformed => .error (unreadableFile path)
    | .error (.failed cause) => .error cause

/-- The line about settings that were read. -/
def loadedLine (path : String) : Logging.Line :=
  ⟨.debug, "Read discovery configuration from " ++ path⟩

/-! ### Paths -/

/-- The parts of a path that say something: neither nothing nor the directory itself. -/
def pathParts (path : String) : List (List Char) :=
  (path.toList.splitOn '/').filter fun p => !p.isEmpty && p != ['.']

/-- The greatest number of bytes in a part of a path. -/
def maxPartLength : Nat := 255

/-- Whether a path below a home directory cannot be looked for: the first of its parts that leads
further is too long for a name. -/
def isTooLong (path : String) : Bool :=
  match ((pathParts path).drop 1).dropWhile fun p => p == ['.', '.'] with
  | [] => false
  | part :: _ => maxPartLength < (Utf8.encode part).length && !path.toList.contains '\x00'

/-- A path in its shortest form, with the home directory for a tilde at its front. -/
def normalPath (home path : String) : String :=
  let parts := (pathParts path).map String.ofList
  if path.toList.head? == some '/' then "/" ++ "/".intercalate parts
  else
    match parts with
    | "~" :: parts => "/".intercalate (home :: parts)
    | parts => "/".intercalate parts

/-! ### Loading -/

/-- The settings in a file, given its bytes if it is there. -/
def load (path : String) (file : Option (List UInt8)) : Except Failure Settings := do
  match file with
  | none => throw (if isTooLong path then .longName path else missingFile path)
  | some bytes => ofDocument path (← document path bytes)

end RollCall.Settings
