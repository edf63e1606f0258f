import RollCall.Text.Blank
import RollCall.Text.Case
import RollCall.Text.Lines

/-!
# Profile files

A profile file consists of sections, each with a name in square brackets on a line of its own, and
options, each with a value behind an equals sign or a colon. A line that is indented deeper than
the option before it carries on that option's value; lines that begin with `#` or `;` are comments.
The options of the section `DEFAULT` count for every other section too. The value of an option may
be nested: if nothing stands behind the equals sign, the lines that carry it on are members, each
with a name and a value of its own. A name that comes twice, a line that is none of these things,
and an option before the first section make the whole file unreadable.

## Main definitions

* `Ini.Setting`: the value of an option.
* `Ini.Document`: the sections of a file with their options.
* `Ini.read?`: the sections in a text.
* `Ini.option?`: the value of an option of a section.
-/

namespace RollCall.Ini

/-- The value of an option. -/
inductive Setting
  | text (s : String)
  /-- Members with their values; of several of one name the last counts. -/
  | nested (members : List (String × String))
  deriving DecidableEq, Repr

/-- Options with their values. -/
abbrev Options := List (String × Setting)

/-- The sections of a file, each with the options that count for it. -/
structure Document where
  sections : List (String × Options)
  deriving DecidableEq, Repr

/-- The name of the section whose options count for every section. -/
def sharedName : String := "DEFAULT"

/-- Whether there is a section of a name. -/
def Document.hasSection (d : Document) (name : String) : Bool :=
  (d.sections.lookup name).isSome

/-- The value of an option of a section. -/
def Document.option? (d : Document) (name option : String) : Option Setting := do
  (← d.sections.lookup name).lookup option

/-! ### Lines -/

/-- What a line says where no value is carried on. -/
inductive Statement
  | header (name : String)
  | option (name : String) (value : List Char)
  | nonsense
  deriving DecidableEq, Repr

/-- The name in a header: what stands before the last closing bracket. -/
def headerName? (cs : List Char) : Option String :=
  match (cs.reverse.dropWhile (· != ']')) with
  | _ :: c :: name => some (String.ofList (c :: name).reverse)
  | _ => none

/-- Whether a character divides an option from its value. -/
def isDivider (c : Char) : Bool :=
  c == '=' || c == ':'

/-- The option that a line sets. -/
def optionStatement (cs : List Char) : Statement :=
  let name := Text.trimList Text.isBlank (cs.takeWhile fun c => !isDivider c)
  match cs.dropWhile fun c => !isDivider c with
  | [] => .nonsense
  | _ :: value =>
    if name.isEmpty then .nonsense
    else .option (Text.lower (String.ofList name)) (Text.trimList Text.isBlank value)

/-- What a line without blanks at its ends says. -/
def statement (cs : List Char) : Statement :=
  match cs with
  | '[' :: rest =>
    match headerName? rest with
    | some name => .header name
    | none => optionStatement cs
  | cs => optionStatement cs

/-- Whether a line is a comment. -/
def isComment : List Char → Bool
  | c :: _ => c == '#' || c == ';'
  | [] => false

/-! ### Reading -/

/-- An option as it is read: its section, its name, and the lines of its value in reverse. -/
structure Entry where
  sectionName : String
  name : String
  value : List (List Char)

/-- How far a file is read: the names of its sections and its options, the latest first, the
section that is open, whether the latest option may be carried on, and how far it was indented. -/
structure Progress where
  names : List String
  entries : List Entry
  current : Option String
  isOpen : Bool
  indent : Nat

namespace Progress

/-- Nothing read. -/
def start : Progress := ⟨[], [], none, false, 0⟩

/-- A line more for the value of the latest option. -/
def carryOn (p : Progress) (line : List Char) : Progress :=
  match p.entries with
  | e :: es => { p with entries := { e with value := line :: e.value } :: es }
  | [] => p

/-- After a line that carries on nothing. -/
def state (p : Progress) (indent : Nat) (line : List Char) : Option Progress :=
  match statement line, p.current with
  | .header name, _ =>
    if p.names.contains name then none
    else
      some { p with
        names := if name == sharedName then p.names else name :: p.names
        current := some name
        isOpen := false
        indent := indent }
  | .option name value, some current =>
    if p.entries.any fun e => e.sectionName == current && e.name == name then none
    else
      some { p with
        entries := ⟨current, name, [value]⟩ :: p.entries
        isOpen := true
        indent := indent }
  | _, _ => none

/-- After a line of the file. -/
def line (p : Progress) (cs : List Char) : Option Progress :=
  let bare := Text.trimList Text.isBlank cs
  if isComment bare then some p
  else if bare.isEmpty then some (if p.isOpen then p.carryOn [] else p)
  else
    let indent := (cs.takeWhile Text.isBlank).length
    if p.isOpen && p.indent < indent then some (p.carryOn bare) else p.state indent bare

/-- The characters of the value of an option. -/
def valueOf (e : Entry) : List Char :=
  let value := ['\n'].intercalate e.value.reverse
  (value.reverse.dropWhile Text.isBlank).reverse

/-- The options that a section sets, with the characters of their values. -/
def ownOptions (p : Progress) (name : String) : List (String × List Char) :=
  (p.entries.reverse.filter fun e => e.sectionName == name).map fun e => (e.name, valueOf e)

/-- The options that count for a section: its own, and those for all that it does not set. -/
def optionsOf (p : Progress) (name : String) : List (String × List Char) :=
  let own := p.ownOptions name
  own ++ (p.ownOptions sharedName).filter fun o => (own.lookup o.1).isNone

end Progress

/-! ### Values -/

/-- The member that a line of a nested value sets. -/
def member? (line : List Char) : Option (String × String) :=
  match line.dropWhile (· != '=') with
  | [] => none
  | _ :: value =>
    let trimmed (cs : List Char) := String.ofList (Text.trimList Text.isBlank cs)
    some (trimmed (line.takeWhile (· != '=')), trimmed value)

/-- The value of an option from its characters. A value that begins with a line feed is nested, and
each of its lines that is not blank has to set a member. -/
def setting? (value : List Char) : Option Setting :=
  match value with
  | '\n' :: rest => do
    let lines := (Text.pieces rest).filter fun l => !l.all Text.isBlank
    return .nested (← lines.mapM member?)
  | value => some (.text (String.ofList value))

/-- Options with their values. -/
def options? (os : List (String × List Char)) : Option Options :=
  os.mapM fun (name, value) => (setting? value).map fun v => (name, v)

/-- The document in a text whose line ends are line feeds. A value for all sections is looked at
only where it counts. -/
def read? (cs : List Char) : Option Document := do
  let p ← (Text.lines cs).foldlM (fun p l => p.line l) Progress.start
  return ⟨← p.names.reverse.mapM fun name =>
    (options? (p.optionsOf name)).map fun os => (name, os)⟩

end RollCall.Ini
