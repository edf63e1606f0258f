import RollCall.Credentials.Basic

/-!
# Sources of credentials

Each credentials type says where credentials are looked for. An explicit type takes those of the
settings and looks nowhere. A type that names a source looks only there. The default type looks at
the environment, unless the settings name a profile, and then at the profile file; a profile that
is named must be there. The profile file is read in any case, and one that cannot be read is a
failure for every type.

## Main definitions

* `Source`, `Source.ofSettings`: the source that a credentials type names.
* `Credentials.find`: the credentials for some settings.
-/

namespace RollCall

/-- A place to look for credentials. -/
inductive Source
  /-- The environment. -/
  | environment
  /-- A profile of a profile file. -/
  | profileFile (path profile : String)
  /-- The service that answers inside a virtual machine, with the patience for one attempt and the
  number of attempts. -/
  | instanceProfile (timeout : Binary64) (attempts : Nat)
  deriving DecidableEq, Repr

namespace Source

/-- The profile that counts where none is named. -/
def defaultProfile : String := "default"

/-- The profile that settings name, if they name one. -/
def profileOf (s : Settings) : String :=
  match s.profile with
  | none => defaultProfile
  | some name => if name.isEmpty then defaultProfile else name

/-- The words for a credentials type that names no source. -/
def unnamedMessage (t : CredentialsType) : String :=
  "Unknown credentials type: AuthenticationType." ++ t.name.toUpper

/-- The source that the credentials type of some settings names. -/
def ofSettings (s : Settings) (w : Surroundings) : Except Failure Source :=
  match s.credentials with
  | .environmentVariables => .ok .environment
  | .userCredentialsFile => .ok (.profileFile w.profilePath (profileOf s))
  | .instanceProfile => .ok (.instanceProfile s.requestTimeout 2)
  | t => .error (.badValue (unnamedMessage t))

end Source

namespace Credentials

/-- The credentials that settings hold themselves. -/
def ofSettings (s : Settings) : Option Credentials :=
  match s.accessKeyId, s.secretKey with
  | some key, some secret =>
    let token := if s.credentials == .temporarySession then s.sessionToken.map (·.plain) else none
    some ⟨.text key, .text secret.plain, token.map .text, .settings⟩
  | _, _ => none

/-- The profile that must be there: with the default type the one that settings name, else one
that the environment names. -/
def namedProfile? (s : Settings) (w : Surroundings) : Option String :=
  let named := if s.credentials == .default then s.profile else none
  named <|> w.env? "AWS_DEFAULT_PROFILE" <|> w.env? "AWS_PROFILE"

/-- The credentials from the usual sources. -/
def ofUsualSources (s : Settings) (w : Surroundings) (profiles : Ini.Document) :
    Except Failure (Option Credentials) := do
  let name := (namedProfile? s w).getD Source.defaultProfile
  if s.profile.isNone then
    if let some found ← ofEnvironment w then return some found
  ofProfile profiles name

/-- The credentials for some settings; there may be none. The service inside a virtual machine is
taken not to answer. -/
def find (s : Settings) (w : Surroundings) : Except Failure (Option Credentials) := do
  let profiles ← w.profiles
  if let some name := namedProfile? s w then
    if !profiles.hasSection name then throw (.unknownProfile name)
  match s.credentials with
  | .default => ofUsualSources s w profiles
  | .accessKey | .temporarySession => return ofSettings s
  | .environmentVariables => ofEnvironment w
  | .userCredentialsFile => ofProfile profiles (Source.profileOf s)
  | .instanceProfile => return none

end Credentials

end RollCall
