import RollCall.Binary64.Text
import RollCall.Settings.Region
import RollCall.Text.Blank

/-!
# Settings

What a node must know to take part: the bucket and where it is, the cluster, how long a record
counts and how often it is written, how to reach the service, and with which credentials. Durations
are in seconds. Settings are checked field by field (`RollCall.Settings.Field`) and then as a
whole; `Settings.inconsistency?` is the check of the whole.

## Main definitions

* `Settings`, `CredentialsType`, `Secret`.
* `Settings.inconsistency?`: the first fault of settings whose fields are each in order.
* `Settings.endpointUrl?`: the address of a service other than the default one.
-/

namespace RollCall

/-- How the credentials for the bucket are found. -/
inductive CredentialsType
  /-- The usual sources, one after the other. -/
  | default
  /-- The environment. -/
  | environmentVariables
  /-- A credentials file. -/
  | userCredentialsFile
  /-- The service that answers inside a virtual machine. -/
  | instanceProfile
  /-- A key and its secret in the settings. -/
  | accessKey
  /-- A key, its secret and a session token in the settings. -/
  | temporarySession
  deriving DecidableEq, Repr, Inhabited

namespace CredentialsType

/-- The name of a credentials type in settings and messages. -/
def name : CredentialsType → String
  | .default => "default"
  | .environmentVariables => "environment_variables"
  | .userCredentialsFile => "user_credentials_file"
  | .instanceProfile => "instance_profile_credentials"
  | .accessKey => "access_key"
  | .temporarySession => "temporary_session"

/-- All credentials types. -/
def all : List CredentialsType :=
  [.default, .environmentVariables, .userCredentialsFile, .instanceProfile, .accessKey,
    .temporarySession]

/-- The credentials type of a name. -/
def ofName? (s : String) : Option CredentialsType :=
  all.find? fun t => t.name == s

/-- Whether the settings themselves hold the credentials. -/
def isExplicit : CredentialsType → Bool
  | .accessKey | .temporarySession => true
  | _ => false

end CredentialsType

/-- A text that is never shown. -/
structure Secret where
  plain : String
  deriving DecidableEq, Repr, Inhabited

/-- What is shown of a secret: only whether there is one. -/
def Secret.shown (s : Secret) : String :=
  if s.plain.isEmpty then "" else "**********"

/-- The settings of a node. -/
structure Settings where
  bucket : String
  region : String
  keyPrefix : String
  cluster : String
  expiration : Binary64
  interval : Binary64
  endpoint : String
  endpointRegion : Option String
  pathStyle : Option Bool
  credentials : CredentialsType
  accessKeyId : Option String
  secretKey : Option Secret
  sessionToken : Option Secret
  profile : Option String
  requestTimeout : Binary64
  discoveryTimeout : Binary64
  stopTimeout : Binary64
  cleanup : Bool
  deriving DecidableEq, Repr, Inhabited

namespace Settings

/-- The endpoint that is used unless the settings name another. -/
def defaultEndpoint : String := "s3.amazonaws.com"

/-- Whether the bucket is behind the default endpoint. -/
def usesDefaultEndpoint (s : Settings) : Bool :=
  s.endpoint == defaultEndpoint

/-- Whether a text holds the mark between a scheme and a host. -/
def hasScheme : List Char → Bool
  | ':' :: '/' :: '/' :: _ => true
  | _ :: cs => hasScheme cs
  | [] => false

/-- The address of a service other than the default one; without a scheme it is reached securely. -/
def endpointUrl? (s : Settings) : Option String :=
  if s.usesDefaultEndpoint then none
  else if hasScheme s.endpoint.toList then some s.endpoint
  else some ("https://" ++ s.endpoint)

/-! ### The check of the whole -/

/-- Whether an optional text is missing or has nothing but blanks. -/
def isAbsent : Option String → Bool
  | none => true
  | some s => Text.isBlankText s

/-- The finding that a field is needed for a credentials type. -/
def requiredFinding (field : String) (t : CredentialsType) : String :=
  field ++ " is required for credentials-type '" ++ t.name ++ "'"

/-- The first fault of settings whose fields are each in order. -/
def inconsistency? (s : Settings) : Option String :=
  if s.expiration.le s.interval then
    some ("update-interval (" ++ s.interval.text ++ "s) must be smaller than file-expiration (" ++
      s.expiration.text ++ "s)")
  else if s.usesDefaultEndpoint && !isKnownRegion s.region then
    some ("'" ++ s.region ++ "' is not a valid S3 region")
  else if s.credentials.isExplicit && isAbsent s.accessKeyId then
    some (requiredFinding "credentials-access-key-id" s.credentials)
  else if s.credentials.isExplicit && isAbsent (s.secretKey.map (·.plain)) then
    some (requiredFinding "credentials-secret-access-key" s.credentials)
  else if s.credentials == .temporarySession && isAbsent (s.sessionToken.map (·.plain)) then
    some (requiredFinding "credentials-session-token" .temporarySession)
  else none

end Settings

end RollCall
