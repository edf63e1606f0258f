import RollCall.Failure
import RollCall.Settings.Basic
import RollCall.Value.Lax

/-!
# The fields of the settings

Each field has two names, one with underscores and one with hyphens; a value under the hyphened
name is taken first. A field either has a value to take when none is offered or is required, and
converts what is offered by itself, without a look at any other field.

## Main definitions

* `Settings.Field`: a field, and `Settings.Field.read`, its value among offered ones.
* `Settings.Fields`: the eighteen fields.
-/

namespace RollCall.Settings

/-- A field of the settings: its two names, the value it takes when none is offered, and the
conversion of an offered one. -/
structure Field (α : Type) where
  name : String
  hyphened : String
  absent : Option α
  convert : Value → Except Problem α

namespace Field

variable {α : Type}

/-- The name under which a value is offered for a field, with the value. -/
def offered? (f : Field α) (find : String → Option Value) : Option (String × Value) :=
  match find f.hyphened with
  | some v => some (f.hyphened, v)
  | none => (find f.name).map fun v => (f.name, v)

/-- The value of a field, or why there is none. -/
def read (f : Field α) (find : String → Option Value) : Except Reason α :=
  match f.offered? find with
  | some (place, v) =>
    match f.convert v with
    | .ok a => .ok a
    | .error p => .error ⟨place, p⟩
  | none =>
    match f.absent with
    | some a => .ok a
    | none => .error ⟨f.hyphened, .missing⟩

/-- The reason why a field has no value, if it has none. -/
def refusals (f : Field α) (find : String → Option Value) : List Reason :=
  match f.read find with
  | .ok _ => []
  | .error r => [r]

end Field

/-! ### Conversions -/

/-- A text without blanks at its ends, of which something is left. -/
def convertPresent (v : Value) : Except Problem String :=
  match v.toText with
  | .ok s => if (Text.strip s).isEmpty then .error .blank else .ok (Text.strip s)
  | .error p => .error p

/-- The name of a cluster. -/
def convertCluster (v : Value) : Except Problem String :=
  match convertPresent v with
  | .ok s => if s.toList.contains '/' then .error .hasSlash else .ok s
  | .error p => .error p

/-- A duration: a number above zero. -/
def convertDuration (v : Value) : Except Problem Binary64 :=
  match v.toNumber with
  | .ok x => if (Binary64.zero false).lt x then .ok x else .error .notPositive
  | .error p => .error p

/-- The name of a region. It may be shown in a message, so it has no halves of surrogate pairs. -/
def convertRegion : Value → Except Problem String
  | .broken symbols => convertPresent (.text (Text.Symbol.replaced symbols))
  | v => convertPresent v

/-- The credentials type of a name, if there is a name. -/
def credentialsOf (name : Option String) : Except Problem CredentialsType :=
  match name.bind CredentialsType.ofName? with
  | some t => .ok t
  | none => .error .notCredentialsType

/-- A credentials type: a text in any case with blanks around it, or bytes that spell it exactly. -/
def convertCredentials : Value → Except Problem CredentialsType
  | .text s => credentialsOf (some (Text.lower (Text.strip s)))
  | .broken _ => .error .notUnicode
  | .bytes bs => credentialsOf (Utf8.text? bs)
  | _ => credentialsOf none

/-- A secret text. -/
def convertSecret (v : Value) : Except Problem Secret :=
  match v.toSecret with
  | .ok s => .ok ⟨s⟩
  | .error p => .error p

/-- What may also be left out by offering null. -/
def convertOptional {α : Type} (convert : Value → Except Problem α) :
    Value → Except Problem (Option α)
  | .null => .ok none
  | v =>
    match convert v with
    | .ok a => .ok (some a)
    | .error p => .error p

/-! ### The fields -/

namespace Fields

def bucket : Field String :=
  ⟨"bucket_name", "s3-bucket-name", none, convertPresent⟩

def region : Field String :=
  ⟨"bucket_region", "s3-bucket-region", none, convertRegion⟩

def keyPrefix : Field String :=
  ⟨"file_prefix", "file-prefix", some "", Value.toText⟩

def cluster : Field String :=
  ⟨"cluster_id", "cluster-id", some "default", convertCluster⟩

def expiration : Field Binary64 :=
  ⟨"file_expiration", "file-expiration", none, convertDuration⟩

def interval : Field Binary64 :=
  ⟨"update_interval", "update-interval", none, convertDuration⟩

def endpoint : Field String :=
  ⟨"endpoint", "s3-endpoint", some defaultEndpoint, convertPresent⟩

def endpointRegion : Field (Option String) :=
  ⟨"endpoint_region", "s3-endpoint-region", some none, convertOptional Value.toText⟩

def pathStyle : Field (Option Bool) :=
  ⟨"path_style_access", "s3-path-style-access", some none, convertOptional Value.toBool⟩

def credentials : Field CredentialsType :=
  ⟨"credentials_type", "credentials-type", some .default, convertCredentials⟩

def accessKeyId : Field (Option String) :=
  ⟨"access_key_id", "credentials-access-key-id", some none, convertOptional Value.toText⟩

def secretKey : Field (Option Secret) :=
  ⟨"secret_access_key", "credentials-secret-access-key", some none, convertOptional convertSecret⟩

def sessionToken : Field (Option Secret) :=
  ⟨"session_token", "credentials-session-token", some none, convertOptional convertSecret⟩

def profile : Field (Option String) :=
  ⟨"credentials_profile", "credentials-profile", some none, convertOptional Value.toText⟩

def requestTimeout : Field Binary64 :=
  ⟨"request_timeout", "request-timeout", some (.ofInt 5), convertDuration⟩

def discoveryTimeout : Field Binary64 :=
  ⟨"discovery_timeout", "discovery-timeout", some (.ofInt 10), convertDuration⟩

def stopTimeout : Field Binary64 :=
  ⟨"stop_timeout", "stop-timeout", some (.ofInt 5), convertDuration⟩

def cleanup : Field Bool :=
  ⟨"cleanup_expired", "cleanup-expired", some false, Value.toBool⟩

end Fields

end RollCall.Settings
