import RollCall.Credentials.Source
import RollCall.Proofs.Settings.Consistent

/-!
# Sources of explicit credentials types

A credentials type other than the default one looks at a single source. What the other sources hold
makes no difference to it, and if its own source holds nothing, no other is tried.

## Main definitions

* `Surroundings.Plain`: surroundings that name no profile and whose profile file can be read.
* `Surroundings.SameVariables`, `Credentials.SameProfile`: two runs with the same source.

## Main results

* `Credentials.find_settings`, `Credentials.find_environment`, `Credentials.find_profile`: what each
  type comes to.
* `Credentials.own_source_only`: each type depends on its own source only.
-/

namespace RollCall

/-- Surroundings that name no profile, and in which a profile file can be read if there is one. -/
structure Surroundings.Plain (w : Surroundings) : Prop where
  noDefaultProfile : w.env? "AWS_DEFAULT_PROFILE" = none
  noProfile : w.env? "AWS_PROFILE" = none
  readable : ∃ document, w.profiles = .ok document

/-- Two surroundings with the same values of the variables for a key, a secret and a token. -/
def Surroundings.SameVariables (w w' : Surroundings) : Prop :=
  ∀ name ∈
      ["AWS_ACCESS_KEY_ID", "AWS_SECRET_ACCESS_KEY", "AWS_SECURITY_TOKEN", "AWS_SESSION_TOKEN"],
    w.env? name = w'.env? name

namespace Credentials

variable {s s' : Settings} {w w' : Surroundings}

/-- Two runs with the same profile of the same file. No profile, or one without a name, is the
default profile. -/
structure SameProfile (s : Settings) (w : Surroundings) (s' : Settings) (w' : Surroundings) :
    Prop where
  path : w.profilePath = w'.profilePath
  content : w.file? w.profilePath = w'.file? w'.profilePath
  profile : (s.profile.filter (· ≠ "")).getD "default" = (s'.profile.filter (· ≠ "")).getD "default"

/-! ### Sources -/

theorem findSome?_congr {α β : Type} {f g : α → Option β} {l : List α} (h : ∀ a ∈ l, f a = g a) :
    l.findSome? f = l.findSome? g := by
  rw [← List.head?_filterMap, List.filterMap_congr h, List.head?_filterMap]

/-- What a source holds under some names depends on nothing under other names. -/
theorem ofSource_congr (origin : Origin) {names : Names} {find find' : String → Option Ini.Setting}
    (h : ∀ name ∈ names.key :: names.secret :: names.tokens, find name = find' name) :
    ofSource origin names find = ofSource origin names find' := by
  have hkey : find names.key = find' names.key := h _ (by simp)
  have hsecret : find names.secret = find' names.secret := h _ (by simp)
  have htoken : names.tokens.findSome? find = names.tokens.findSome? find' :=
    findSome?_congr fun name hname => h name (by simp [hname])
  rw [ofSource, hkey, hsecret, htoken]
  rfl

theorem ofEnvironment_congr (h : w.SameVariables w') : ofEnvironment w = ofEnvironment w' := by
  refine ofSource_congr _ fun name hname => ?_
  rw [ofVariable?, ofVariable?, h name hname]

theorem profiles_congr (hpath : w.profilePath = w'.profilePath)
    (hcontent : w.file? w.profilePath = w'.file? w'.profilePath) : w.profiles = w'.profiles := by
  rw [Surroundings.profiles, hcontent, hpath]
  rfl

theorem profileOf_eq (s : Settings) :
    Source.profileOf s = (s.profile.filter (· ≠ "")).getD "default" := by
  rw [Source.profileOf]
  cases s.profile with
  | none => rfl
  | some name =>
    by_cases hname : name = ""
    · subst hname
      rfl
    · simp [hname, Option.filter]

/-! ### Types -/

/-- Surroundings without a profile of their own name none to a type that does not look at it. -/
theorem namedProfile?_eq_none (hw : w.Plain) (hs : s.credentials ≠ .default) :
    namedProfile? s w = none := by
  rw [namedProfile?, hw.noDefaultProfile, hw.noProfile, if_neg (by simpa using hs)]
  rfl

theorem find_settings (hw : w.Plain)
    (hs : s.credentials = .accessKey ∨ s.credentials = .temporarySession) :
    find s w = .ok (ofSettings s) := by
  obtain ⟨document, hprofiles⟩ := hw.readable
  have hnone : namedProfile? s w = none :=
    namedProfile?_eq_none hw (by rcases hs with hs | hs <;> simp [hs])
  rw [find, hprofiles, hnone]
  rcases hs with hs | hs <;> rw [hs] <;> rfl

theorem find_environment (hw : w.Plain) (hs : s.credentials = .environmentVariables) :
    find s w = ofEnvironment w := by
  obtain ⟨document, hprofiles⟩ := hw.readable
  rw [find, hprofiles, namedProfile?_eq_none hw (by simp [hs]), hs]
  rfl

theorem find_profile (hw : w.Plain) (hs : s.credentials = .userCredentialsFile) :
    find s w = w.profiles >>= fun document => ofProfile document (Source.profileOf s) := by
  obtain ⟨document, hprofiles⟩ := hw.readable
  rw [find, hprofiles, namedProfile?_eq_none hw (by simp [hs]), hs]

/-- What settings hold whose type is that of a key alone, whether or not they hold a token too. -/
theorem ofSettings_accessKey (hs : s.credentials = .accessKey) {key : String} {secret : Secret}
    (hkey : s.accessKeyId = some key) (hsecret : s.secretKey = some secret) :
    ofSettings s = some ⟨.text key, .text secret.plain, none, .settings⟩ := by
  rw [ofSettings, hkey, hsecret, hs]
  rfl

theorem ofSettings_temporarySession (hs : s.credentials = .temporarySession) {key : String}
    {secret token : Secret} (hkey : s.accessKeyId = some key) (hsecret : s.secretKey = some secret)
    (htoken : s.sessionToken = some token) :
    ofSettings s = some ⟨.text key, .text secret.plain, some (.text token.plain), .settings⟩ := by
  rw [ofSettings, hkey, hsecret, hs, htoken]
  rfl

/-- **Each explicit type depends on its own source only.** With accepted settings and surroundings
that name no profile, the types for which the settings hold the credentials come to exactly those,
with the token for a session only. The outcome of the type for the environment is the same wherever
the variables are the same, and that of the type for a profile file wherever the path, the file and
the profile are the same. -/
theorem own_source_only {v : Value} (hs : Settings.ofValue v = .ok s) (hw : w.Plain) :
    (s.credentials = .accessKey → ∃ key secret,
      s.accessKeyId = some key ∧ s.secretKey = some secret ∧
        find s w = .ok (some ⟨.text key, .text secret.plain, none, .settings⟩)) ∧
    (s.credentials = .temporarySession → ∃ key secret token,
      s.accessKeyId = some key ∧ s.secretKey = some secret ∧ s.sessionToken = some token ∧
        find s w =
          .ok (some ⟨.text key, .text secret.plain, some (.text token.plain), .settings⟩)) ∧
    ∀ s' w', Surroundings.Plain w' → s'.credentials = s.credentials →
      (s.credentials = .environmentVariables → w.SameVariables w' → find s w = find s' w') ∧
      (s.credentials = .userCredentialsFile → SameProfile s w s' w' → find s w = find s' w') := by
  obtain ⟨entries, -, hreads, hfault⟩ := Settings.ofValue_eq_ok_iff.1 hs
  have hconsistent : s.Consistent := hreads.consistent hfault
  refine ⟨fun htype => ?_, fun htype => ?_, fun s' w' hw' hsame => ⟨fun htype h => ?_,
    fun htype h => ?_⟩⟩
  · obtain ⟨key, hkey, -⟩ := hconsistent.accessKeyId (.inl htype)
    obtain ⟨secret, hsecret, -⟩ := hconsistent.secretKey (.inl htype)
    refine ⟨key, secret, hkey, hsecret, ?_⟩
    rw [find_settings hw (.inl htype), ofSettings_accessKey htype hkey hsecret]
  · obtain ⟨key, hkey, -⟩ := hconsistent.accessKeyId (.inr htype)
    obtain ⟨secret, hsecret, -⟩ := hconsistent.secretKey (.inr htype)
    obtain ⟨token, htoken, -⟩ := hconsistent.sessionToken htype
    refine ⟨key, secret, token, hkey, hsecret, htoken, ?_⟩
    rw [find_settings hw (.inr htype), ofSettings_temporarySession htype hkey hsecret htoken]
  · rw [find_environment hw htype, find_environment hw' (hsame.trans htype),
      ofEnvironment_congr h]
  · rw [find_profile hw htype, find_profile hw' (hsame.trans htype),
      profiles_congr h.path h.content, profileOf_eq, profileOf_eq, h.profile]

/-- Settings of a type with a key, a secret, a token and a profile. -/
def filled (t : CredentialsType) (profile : String) : Settings where
  bucket := "b"
  region := "us-east-1"
  keyPrefix := ""
  cluster := "default"
  expiration := .ofInt 30
  interval := .ofInt 10
  endpoint := Settings.defaultEndpoint
  endpointRegion := none
  pathStyle := none
  credentials := t
  accessKeyId := some "key"
  secretKey := some ⟨"secret"⟩
  sessionToken := some ⟨"token"⟩
  profile := some profile
  requestTimeout := .ofInt 5
  discoveryTimeout := .ofInt 10
  stopTimeout := .ofInt 5
  cleanup := false

theorem consistent_filled (t : CredentialsType) (profile : String) :
    (filled t profile).Consistent := by
  have hduration (n : Int) (hn : (Binary64.zero false).lt (.ofInt n) = true) :
      Settings.IsDuration (.ofInt n) := Settings.isDuration_of_pos hn
  have hslash : '/' ∉ "default".toList := by decide
  have hshorter : (Binary64.ofInt 10).lt (.ofInt 30) = true := by decide +kernel
  have hregion : "us-east-1" ∈ knownRegions := by decide
  exact {
    bucket := Text.isPresent_of_all (s := "b") (by decide) (by decide)
    region := Text.isPresent_of_all (s := "us-east-1") (by decide) (by decide)
    cluster := Settings.isPresent_default.2
    endpoint := Settings.isPresent_default.1
    slashless := hslash
    interval := hduration 10 (by decide +kernel)
    expiration := hduration 30 (by decide +kernel)
    shorter := hshorter
    requestTimeout := hduration 5 (by decide +kernel)
    discoveryTimeout := hduration 10 (by decide +kernel)
    stopTimeout := hduration 5 (by decide +kernel)
    served := fun _ => hregion
    accessKeyId := fun _ => ⟨"key", rfl, by decide⟩
    secretKey := fun _ => ⟨⟨"secret"⟩, rfl, by decide⟩
    sessionToken := fun _ => ⟨⟨"token"⟩, rfl, by decide⟩ }

/-- Surroundings with a key and a secret in the environment, and with a profile file. -/
def laden (value file : String) : Surroundings where
  environment := [("AWS_ACCESS_KEY_ID", value), ("AWS_SECRET_ACCESS_KEY", value)]
  home := "/home"
  file? path := if path = "/home/.aws/credentials" then some (Utf8.encode file.toList) else none

/-- A profile file with a key and a secret. -/
def profileFile : String :=
  "[default]\naws_access_key_id = f\naws_secret_access_key = g\n"

/-- Where all three sources hold a key and a secret, each type finds those of its own source, also
after the other two have changed. -/
theorem own_source_only_laden :
    let w := laden "e" profileFile
    (∀ t, Settings.ofValue (.map (filled t "").entries) = .ok (filled t "")) ∧ w.Plain ∧
      find (filled .accessKey "") w =
        .ok (some ⟨.text "key", .text "secret", none, .settings⟩) ∧
      find (filled .temporarySession "") w =
        .ok (some ⟨.text "key", .text "secret", some (.text "token"), .settings⟩) ∧
      find (filled .environmentVariables "") w =
        .ok (some ⟨.text "e", .text "e", none, .environment⟩) ∧
      find (filled .environmentVariables "other") (laden "e" "") =
        .ok (some ⟨.text "e", .text "e", none, .environment⟩) ∧
      find (filled .userCredentialsFile "") w =
        .ok (some ⟨.text "f", .text "g", none, .profileFile⟩) ∧
      find (filled .userCredentialsFile "default") (laden "" profileFile) =
        .ok (some ⟨.text "f", .text "g", none, .profileFile⟩) := by
  intro w
  have haccepted (t : CredentialsType) :
      Settings.ofValue (.map (filled t "").entries) = .ok (filled t "") :=
    Settings.ofValue_eq_ok_iff.2 ⟨_, rfl, (consistent_filled t "").reads,
      (consistent_filled t "").inconsistency?_eq_none⟩
  have hprofiles : w.profiles = .ok ⟨[("default", [("aws_access_key_id", .text "f"),
      ("aws_secret_access_key", .text "g")])]⟩ := by decide +kernel
  have hw : w.Plain := ⟨rfl, rfl, _, hprofiles⟩
  have hbare : (laden "e" "").Plain := ⟨rfl, rfl, ⟨[]⟩, by decide +kernel⟩
  have hpath : w.profilePath = (laden "" profileFile).profilePath := by decide +kernel
  have hcontent : w.file? w.profilePath =
      (laden "" profileFile).file? (laden "" profileFile).profilePath := by
    rw [hpath]
    rfl
  have hempty : (laden "" profileFile).Plain :=
    ⟨rfl, rfl, profiles_congr hpath hcontent ▸ hw.readable⟩
  obtain ⟨key, secret, hkey, hsecret, hexplicit⟩ :=
    (own_source_only (haccepted .accessKey) hw).1 rfl
  cases hkey
  cases hsecret
  obtain ⟨key, secret, token, hkey, hsecret, htoken, hsession⟩ :=
    (own_source_only (haccepted .temporarySession) hw).2.1 rfl
  cases hkey
  cases hsecret
  cases htoken
  have henvironment : find (filled .environmentVariables "") w =
      .ok (some ⟨.text "e", .text "e", none, .environment⟩) := by
    rw [find_environment hw rfl]
    rfl
  have hprofile : find (filled .userCredentialsFile "") w =
      .ok (some ⟨.text "f", .text "g", none, .profileFile⟩) := by
    rw [find_profile hw rfl, hprofiles]
    rfl
  have hvariables := ((own_source_only (haccepted .environmentVariables) hw).2.2
    (filled .environmentVariables "other") _ hbare rfl).1 rfl fun _ _ => rfl
  have hfile := ((own_source_only (haccepted .userCredentialsFile) hw).2.2
    (filled .userCredentialsFile "default") _ hempty rfl).2 rfl ⟨hpath, hcontent, by decide⟩
  exact ⟨haccepted, hw, hexplicit, hsession, henvironment, hvariables ▸ henvironment, hprofile,
    hfile ▸ hprofile⟩

end Credentials

end RollCall
