import RollCall.Bucket.Fault
import RollCall.Moment
import RollCall.Problem
import RollCall.Text.Utf8
import RollCall.Value.Literal

/-!
# Failures

Every way in which an operation of this library can fail, as its cause. `Failure.message` is the
only place that words them. Failures of the object store come in three grades: any failure, one
that is only due to throttling, and one that says that a key does not exist.

## Main definitions

* `Failure`: the causes.
* `Failure.message`: their wording.
* `Failure.families`: the families a failure belongs to.
* `Failure.isStore`: whether a failure is one of the object store, which callers recover from.
-/

namespace RollCall

/-- The cause of a failed operation. -/
inductive Failure
  /-- A failure without a family of its own. -/
  | general (message : String)
  /-- Settings or an identity that cannot be used, with what is wrong about them. -/
  | settings (head : String) (reasons : List String)
  /-- An operation on the object store failed. -/
  | store (operation : String) (key : Option String) (reason : String)
  /-- The object store kept throttling an operation. -/
  | throttled (operation : String) (key : Option String) (attempts : Int)
  /-- The object store holds nothing under the key. -/
  | notFound (key : Option String)
  /-- Stored bytes are not a record. -/
  | undecodable (reason : String) (key : Option String)
  /-- A query for peers cannot be answered. -/
  | discovery (message : String)
  /-- A record or an address was refused. -/
  | refused (reasons : List Reason)
  /-- An infinite number of seconds was to be counted. -/
  | infiniteDuration
  /-- Something that is no number of seconds was to be counted. -/
  | meaninglessDuration
  /-- A power of two left the range of floating-point numbers. -/
  | hugePower
  /-- An integer has too many digits to be written. -/
  | tooManyDigits
  /-- Bytes are not UTF-8. -/
  | notUtf8 (fault : Utf8.Fault)
  /-- A reply lacks a member. -/
  | missingMember (name : String)
  /-- A text that is to be a word for a truth value is none. -/
  | unknownWord (word : List Text.Symbol)
  /-- A value of this kind has no attribute of this name. -/
  | noAttribute (kind name : String)
  /-- A value of this kind has no items. -/
  | noItems (kind : String)
  /-- A value of this kind is not made of anything that could be looked for. -/
  | noContents (kind : String)
  /-- The item of this number among those that are to be pairs cannot be gone through. -/
  | noSequence (number : Nat)
  /-- The item of this number among those that are to be pairs has this many parts. -/
  | noPair (number length : Nat)
  /-- A value of this kind is no key. -/
  | noKey (kind : String)
  /-- A text was looked for among bytes. -/
  | textAmongBytes
  /-- A value cannot be used. -/
  | badValue (reason : String)
  /-- Something unforeseen happened. -/
  | unforeseen (reason : String)
  /-- A credentials source names a key without its secret. -/
  | partialCredentials (source missing : String)
  /-- There is no such profile. -/
  | unknownProfile (name : String)
  /-- The bucket service reported an error that nothing was made of. -/
  | service (error : Bucket.ServiceError)
  /-- The bucket service gave no answer, of which nothing was made. -/
  | outage (cause : Bucket.Outage)
  /-- A file cannot be looked for, as a part of its path is too long for a name. -/
  | longName (path : String)
  /-- A profile file cannot be read. -/
  | unreadableProfiles (path : String)
  /-- A text that is to be an integer is no numeral of the base. -/
  | notIntegerNumeral (base : Nat) (text : List Text.Symbol)
  /-- A text that is to be a number is no numeral. -/
  | notRealNumeral (text : List Text.Symbol)
  /-- A text that is to be a number has no characters. -/
  | emptyNumeral
  /-- A numeral has too many digits to be read. -/
  | longNumeral (digits : Nat)
  /-- A text that is to be a point in time has another form. -/
  | notMoment
  /-- A mapping stands where a point in time is to be. -/
  | wrappedMoment
  /-- The numbers of a point in time are out of range. -/
  | calendar (fault : CalendarFault)
  /-- There is no character of this number. -/
  | noCharacter
  /-- A number is beyond those that are looked up as characters. -/
  | hugeCharacter
  /-- A document nests too deep. -/
  | tooDeep
  deriving DecidableEq, Repr

namespace Failure

/-- The first words about settings that cannot be used. -/
def settingsHead : String := "Invalid discovery configuration."

/-- The first words about an identity that cannot be used. -/
def identityHead : String := "Invalid local node identity."

/-- The words about a query that cannot be answered, where nothing more is known. -/
def discoveryMessage : String := "Discovery of cluster nodes failed."

/-- The key in quotes after some words, if there is one. -/
def quotedKey (words : String) : Option String → String
  | none => ""
  | some key => words ++ "'" ++ key ++ "'"

/-- The reason at the end of a message, if there is one. -/
def reasonPart (reason : String) : String :=
  if reason.isEmpty then "" else " Reason: " ++ reason

/-- The words about a failed operation on the object store. -/
def storeMessage (operation : String) (key : Option String) (reason : String) : String :=
  "Object store operation '" ++ operation ++ "' failed" ++ quotedKey " for key " key ++ "." ++
    reasonPart reason

/-- The reason given when throttling did not end. -/
def throttledReason (attempts : Int) : String :=
  "Throttled after " ++ toString attempts ++ " attempts"

/-- How much is shown of a text that is no integer numeral. -/
def shownLength : Nat := 200

/-- The wording of a failure. -/
def message : Failure → String
  | .general message => message
  | .settings head reasons =>
    if reasons.isEmpty then head else head ++ " " ++ "; ".intercalate reasons
  | .store operation key reason => storeMessage operation key reason
  | .throttled operation key attempts => storeMessage operation key (throttledReason attempts)
  | .notFound key => storeMessage "get" key "No such key"
  | .undecodable reason key =>
    "Could not decode node record" ++ quotedKey " " key ++ "." ++ reasonPart reason
  | .discovery message => message
  | .refused reasons => ", ".intercalate (reasons.map Reason.message)
  | .infiniteDuration => "cannot convert float infinity to integer"
  | .meaninglessDuration => "cannot convert float NaN to integer"
  | .hugePower => "int too large to convert to float"
  | .tooManyDigits =>
    "Exceeds the limit (4300 digits) for integer string conversion; " ++
      "use sys.set_int_max_str_digits() to increase the limit"
  | .notUtf8 fault => fault.message
  | .missingMember name => String.ofList (Value.quoted name)
  | .unknownWord word => String.ofList (Value.quotedSymbols word)
  | .noAttribute kind name => "'" ++ kind ++ "' object has no attribute '" ++ name ++ "'"
  | .noItems kind => "'" ++ kind ++ "' object is not iterable"
  | .noContents kind => "argument of type '" ++ kind ++ "' is not iterable"
  | .noSequence number =>
    "cannot convert dictionary update sequence element #" ++ toString number ++ " to a sequence"
  | .noPair number length =>
    "dictionary update sequence element #" ++ toString number ++ " has length " ++
      toString length ++ "; 2 is required"
  | .noKey kind => "unhashable type: '" ++ kind ++ "'"
  | .textAmongBytes => "a bytes-like object is required, not 'str'"
  | .badValue reason => reason
  | .unforeseen reason => reason
  | .partialCredentials source missing =>
    "Partial credentials found in " ++ source ++ ", missing: " ++ missing
  | .unknownProfile name => "The config profile (" ++ name ++ ") could not be found"
  | .service error => error.message
  | .outage cause => cause.message
  | .longName path => "[Errno 36] File name too long: " ++ String.ofList (Value.quoted path)
  | .unreadableProfiles path => "Unable to parse config file: " ++ path
  | .notIntegerNumeral base text =>
    "invalid literal for int() with base " ++ toString base ++ ": " ++
      String.ofList ((Value.quotedSymbols text).take shownLength)
  | .notRealNumeral text =>
    "could not convert string to float: " ++ String.ofList (Value.quotedSymbols text)
  | .emptyNumeral => "string index out of range"
  | .longNumeral digits =>
    "Exceeds the limit (4300 digits) for integer string conversion: value has " ++
      toString digits ++ " digits; use sys.set_int_max_str_digits() to increase the limit"
  | .notMoment => "'NoneType' object has no attribute 'groupdict'"
  | .wrappedMoment => "expected string or bytes-like object, got 'list'"
  | .calendar fault => fault.message
  | .noCharacter => "chr() arg not in range(0x110000)"
  | .hugeCharacter => "Python int too large to convert to C int"
  | .tooDeep => "maximum recursion depth exceeded"

/-! ### Families -/

/-- The families of failures that callers may tell apart. -/
inductive Family
  | discovery
  | settings
  | query
  | record
  | store
  | throttled
  | notFound
  deriving DecidableEq, Repr

/-- The families a failure belongs to: its own and those it is a special case of. -/
def families : Failure → List Family
  | .general _ => [.discovery]
  | .settings .. => [.discovery, .settings]
  | .discovery _ => [.discovery, .query]
  | .undecodable .. => [.discovery, .record]
  | .store .. => [.discovery, .store]
  | .throttled .. => [.discovery, .store, .throttled]
  | .notFound _ => [.discovery, .store, .notFound]
  | _ => []

/-- Whether a failure is one of the object store. -/
def isStore (f : Failure) : Bool :=
  f.families.contains .store

/-- Whether a failure says that a query for peers cannot be answered. -/
def isQuery (f : Failure) : Bool :=
  f.families.contains .query

end Failure

end RollCall
