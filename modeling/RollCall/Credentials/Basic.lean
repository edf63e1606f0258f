import RollCall.Failure
import RollCall.Ini
import RollCall.Settings.Basic
import RollCall.Text.Utf8

/-!
# Credentials

Credentials are a key, its secret and perhaps a session token, together with the kind of source
that they come from. They are looked for in a node's surroundings: its environment variables and
the profile file of its user.

## Main definitions

* `Credentials`, `Surroundings`.
* `Credentials.ofEnvironment`: the credentials in the environment.
* `Credentials.ofProfile`: the credentials of a profile.
-/

namespace RollCall

/-- The kinds of sources of credentials. -/
inductive Origin
  /-- The settings. -/
  | settings
  /-- The environment. -/
  | environment
  /-- The profile file. -/
  | profileFile
  deriving DecidableEq, Repr

/-- The name of a kind of source. -/
def Origin.name : Origin → String
  | .settings => "explicit"
  | .environment => "env"
  | .profileFile => "shared-credentials-file"

/-- A key, its secret and perhaps a session token. -/
structure Credentials where
  key : Ini.Setting
  secret : Ini.Setting
  token : Option Ini.Setting
  origin : Origin
  deriving DecidableEq, Repr

/-- Where a node runs: its environment variables, the home directory of its user, and the files
there are. -/
structure Surroundings where
  environment : List (String × String)
  home : String
  file? : String → Option (List UInt8)

namespace Surroundings

/-- The value of an environment variable. -/
def env? (w : Surroundings) (name : String) : Option String :=
  w.environment.lookup name

/-- A path with the home directory in the place of a leading tilde. -/
def expand (w : Surroundings) (path : String) : String :=
  match path.toList with
  | ['~'] => w.home
  | '~' :: '/' :: rest => w.home ++ "/" ++ String.ofList rest
  | _ => path

/-- The path of the profile file. -/
def profilePath (w : Surroundings) : String :=
  w.expand ((w.env? "AWS_SHARED_CREDENTIALS_FILE").getD "~/.aws/credentials")

/-- The profiles, none if there is no profile file. -/
def profiles (w : Surroundings) : Except Failure Ini.Document :=
  match w.file? w.profilePath with
  | none => .ok ⟨[]⟩
  | some bytes =>
    match Utf8.decode bytes with
    | .error _ => .error (.unreadableProfiles w.profilePath)
    | .ok cs =>
      match Ini.read? (Text.unifyEnds cs) with
      | none => .error (.unreadableProfiles w.profilePath)
      | some document => .ok document

end Surroundings

namespace Credentials

/-- The names under which a source holds a key, its secret, and a session token, the token's in the
order in which they are tried. -/
structure Names where
  key : String
  secret : String
  tokens : List String

/-- The names of the environment variables. -/
def variableNames : Names :=
  ⟨"AWS_ACCESS_KEY_ID", "AWS_SECRET_ACCESS_KEY", ["AWS_SECURITY_TOKEN", "AWS_SESSION_TOKEN"]⟩

/-- The names of the options of a profile. -/
def optionNames : Names :=
  ⟨"aws_access_key_id", "aws_secret_access_key", ["aws_security_token", "aws_session_token"]⟩

/-- The credentials that a source holds under some names, if it holds a key. -/
def ofSource (origin : Origin) (names : Names) (find : String → Option Ini.Setting) :
    Except Failure (Option Credentials) :=
  match find names.key, find names.secret with
  | none, _ => .ok none
  | some _, none => .error (.partialCredentials origin.name names.secret)
  | some key, some secret =>
    .ok (some ⟨key, secret, names.tokens.findSome? find, origin⟩)

/-- The value of an environment variable; an empty one counts as none. -/
def ofVariable? (w : Surroundings) (name : String) : Option Ini.Setting :=
  ((w.env? name).filter fun v => !v.isEmpty).map .text

/-- The credentials in the environment. -/
def ofEnvironment (w : Surroundings) : Except Failure (Option Credentials) :=
  ofSource .environment variableNames (ofVariable? w)

/-- The credentials of a profile. -/
def ofProfile (profiles : Ini.Document) (name : String) : Except Failure (Option Credentials) :=
  ofSource .profileFile optionNames (profiles.option? name)

end Credentials

end RollCall
