import RollCall.Json.Printer
import RollCall.Json.Reader
import RollCall.Presence.Basic
import RollCall.Text.Utf8

/-!
# The stored form of a record

A record is stored as a JSON object in printable ASCII, without blanks: the version of the format,
then the fields. Reading takes any JSON object that offers the fields, whatever else it holds, and
says of everything else why it is no record: bytes are looked at first, then text, then JSON, then
the fields.

## Main definitions

* `Presence.encode`: the stored bytes of a record.
* `Presence.decode`: the record in stored bytes.
-/

namespace RollCall.Presence

/-- The version of the stored form. -/
def formatVersion : Int := 1

/-- The document that stores a record. -/
def document (r : Presence) : Json :=
  .object [("format_version", .int formatVersion), (fieldNames.cluster, .text r.cluster),
    (fieldNames.node, .text r.node), (fieldNames.host, .text r.host),
    (fieldNames.port, .int r.port), (fieldNames.expires, .int r.expires)]

/-- The characters of the stored form. -/
def encodeText (r : Presence) : List Char :=
  r.document.render .compact

/-- Whether an integer is short enough to be written, and so to be read again. -/
def isWritable (n : Int) : Bool :=
  (Decimal.digits n.natAbs).length ≤ Json.maxDigits

/-- The stored bytes of a record; an expiry with too many digits is not written. -/
def encode (r : Presence) : Except Failure (List UInt8) :=
  if isWritable r.expires then .ok (Utf8.encode r.encodeText) else .error .tooManyDigits

/-- The ASCII white space that alone makes no content. -/
def isAsciiSpace (b : UInt8) : Bool :=
  b == 0x20 || (0x09 ≤ b && b ≤ 0x0D)

/-- The record in the members of a JSON object. -/
def ofMembers (members : List (String × Json)) : Except (List Reason) Presence :=
  ofDraft (.ofMembers fun name => .ofJson (Json.lookup? name members))

/-- The record in a text. -/
def ofText (cs : List Char) : Except (List Reason) Presence :=
  match Json.read? cs with
  | none => .error [⟨"<root>", .invalidJson⟩]
  | some (.object members) => ofMembers members
  | some _ => .error [⟨"<root>", .notObject⟩]

/-- The record in stored bytes; `key` says in a failure where they came from. -/
def decode (bytes : List UInt8) (key : Option String) : Except Failure Presence :=
  if bytes.all isAsciiSpace then .error (.undecodable "empty content" key)
  else
    match Utf8.decode bytes with
    | .error fault => .error (.undecodable ("not UTF-8: " ++ fault.message) key)
    | .ok cs =>
      match ofText cs with
      | .ok r => .ok r
      | .error reasons =>
        .error (.undecodable (", ".intercalate (reasons.map Reason.message)) key)

/-- The record in a stored value, which ought to be bytes. -/
def decodeValue (v : Value) (key : Option String) : Except Failure Presence :=
  match v with
  | .bytes bs => decode bs key
  | v => .error (.undecodable ("expected bytes, got " ++ v.kind) key)

/-- The record of the fields offered by name. -/
def ofEntries (entries : List (Value × Value)) : Except Failure Presence :=
  match ofDraft (.ofMembers fun name => .ofValue (Value.lookup? name entries)) with
  | .ok r => .ok r
  | .error reasons => .error (.refused reasons)

end RollCall.Presence
