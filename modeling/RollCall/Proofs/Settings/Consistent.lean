import RollCall.Proofs.Binary64.Value
import RollCall.Proofs.Settings.Accepted
import RollCall.Proofs.Text.Plain
import RollCall.Proofs.Value

/-!
# Settings that are consistent

What is accepted as settings can be relied on without another look: the names have nothing blank
about them, every duration is above zero, a record counts for longer than the time between two
refreshes, the region is one that the default endpoint serves, and credentials that the settings are
to hold are there. That is all that is asked of settings: any that are consistent are accepted, if
every field is offered as it is.

## Main definitions

* `Settings.Consistent`: settings that can be relied on.
* `Settings.entries`: settings as the entries of a mapping.

## Main results

* `ofValue_consistent`: accepted settings are consistent, and consistent ones are accepted.
-/

namespace RollCall.Settings

variable {find : String → Option Value} {s : Settings}

/-! ### Consistency -/

/-- A duration is a number above zero. -/
structure IsDuration (x : Binary64) : Prop where
  pos : (Binary64.zero false).lt x = true
  isNumber : x ≠ .nan

/-- Settings that can be relied on. -/
structure Consistent (s : Settings) : Prop where
  bucket : Text.IsPresent s.bucket
  region : Text.IsPresent s.region
  cluster : Text.IsPresent s.cluster
  endpoint : Text.IsPresent s.endpoint
  /-- The cluster is one part of a key. -/
  slashless : '/' ∉ s.cluster.toList
  interval : IsDuration s.interval
  expiration : IsDuration s.expiration
  /-- A record counts for longer than the time between two refreshes. -/
  shorter : s.interval.lt s.expiration = true
  requestTimeout : IsDuration s.requestTimeout
  discoveryTimeout : IsDuration s.discoveryTimeout
  stopTimeout : IsDuration s.stopTimeout
  /-- The default endpoint serves the region. -/
  served : s.endpoint = defaultEndpoint → s.region ∈ knownRegions
  accessKeyId : s.credentials = .accessKey ∨ s.credentials = .temporarySession →
    ∃ id, s.accessKeyId = some id ∧ Text.isBlankText id = false
  secretKey : s.credentials = .accessKey ∨ s.credentials = .temporarySession →
    ∃ key, s.secretKey = some key ∧ Text.isBlankText key.plain = false
  sessionToken : s.credentials = .temporarySession →
    ∃ token, s.sessionToken = some token ∧ Text.isBlankText token.plain = false

theorem isDuration_of_pos {x : Binary64} (h : (Binary64.zero false).lt x = true) : IsDuration x :=
  ⟨h, (Binary64.ne_nan_of_lt h).2⟩

theorem usesDefaultEndpoint_iff : s.usesDefaultEndpoint = true ↔ s.endpoint = defaultEndpoint :=
  beq_iff_eq

theorem isKnownRegion_iff {name : String} : isKnownRegion name = true ↔ name ∈ knownRegions :=
  List.contains_iff_mem

theorem isExplicit_iff {t : CredentialsType} :
    t.isExplicit = true ↔ t = .accessKey ∨ t = .temporarySession := by
  cases t <;> decide

theorem isAbsent_eq_false_iff {o : Option String} :
    isAbsent o = false ↔ ∃ a, o = some a ∧ Text.isBlankText a = false := by
  cases o <;> simp [isAbsent]

theorem isAbsent_map_eq_false_iff {o : Option Secret} :
    isAbsent (o.map (·.plain)) = false ↔ ∃ a, o = some a ∧ Text.isBlankText a.plain = false := by
  cases o <;> simp [isAbsent]

/-- A check that comes first passes if there is no finding. -/
theorem finding_eq_none_iff {c : Prop} [Decidable c] {finding : String} {rest : Option String} :
    (if c then some finding else rest) = none ↔ ¬c ∧ rest = none := by
  by_cases hc : c
  · rw [if_pos hc]
    exact iff_of_false nofun fun h => h.1 hc
  · rw [if_neg hc]
    exact (and_iff_right hc).symm

/-- **When no fault is found** in settings whose fields are each in order. -/
theorem inconsistency?_eq_none_iff :
    s.inconsistency? = none ↔ s.expiration.le s.interval = false ∧
      (s.endpoint = defaultEndpoint → s.region ∈ knownRegions) ∧
      (s.credentials = .accessKey ∨ s.credentials = .temporarySession →
        isAbsent s.accessKeyId = false ∧ isAbsent (s.secretKey.map (·.plain)) = false) ∧
      (s.credentials = .temporarySession → isAbsent (s.sessionToken.map (·.plain)) = false) := by
  simp only [inconsistency?, finding_eq_none_iff, Bool.and_eq_true, not_and, Bool.not_eq_true,
    Bool.not_eq_false', usesDefaultEndpoint_iff, isKnownRegion_iff, isExplicit_iff, beq_iff_eq,
    and_true]
  tauto

/-! ### What the fields read -/

/-- The texts that are present: what is offered, stripped, if anything is left. -/
theorem convertPresent_eq_ok_iff {v : Value} {s : String} :
    convertPresent v = .ok s ↔ ∃ t, v.toText = .ok t ∧ Text.strip t = s ∧ s ≠ "" := by
  rw [convertPresent]
  cases v.toText with
  | error p =>
    constructor
    · intro h
      cases h
    · rintro ⟨t, ht, -⟩
      cases ht
  | ok t =>
    dsimp only
    constructor
    · intro h
      split at h
      · cases h
      · next hleft =>
        cases h
        exact ⟨t, rfl, rfl, fun hempty => hleft (String.isEmpty_iff.2 hempty)⟩
    · rintro ⟨_, ⟨⟩, rfl, hleft⟩
      rw [if_neg fun hempty => hleft (String.isEmpty_iff.1 hempty)]

theorem isPresent_of_convertPresent {v : Value} {s : String} (h : convertPresent v = .ok s) :
    Text.IsPresent s := by
  obtain ⟨t, -, rfl, hleft⟩ := convertPresent_eq_ok_iff.1 h
  exact Text.isPresent_strip hleft

theorem isPresent_of_convertRegion {v : Value} {s : String} (h : convertRegion v = .ok s) :
    Text.IsPresent s := by
  unfold convertRegion at h
  split at h <;> exact isPresent_of_convertPresent h

/-- The name of a cluster is a text that is present and has no slash. -/
theorem convertCluster_eq_ok_iff {v : Value} {s : String} :
    convertCluster v = .ok s ↔ convertPresent v = .ok s ∧ '/' ∉ s.toList := by
  rw [convertCluster]
  cases convertPresent v with
  | error p =>
    constructor
    · intro h
      cases h
    · rintro ⟨h, -⟩
      cases h
  | ok t =>
    dsimp only
    constructor
    · intro h
      split at h
      · cases h
      · next hslash =>
        cases h
        exact ⟨rfl, fun hmem => hslash (List.contains_iff_mem.2 hmem)⟩
    · rintro ⟨⟨⟩, hslash⟩
      rw [if_neg fun hmem => hslash (List.contains_iff_mem.1 hmem)]

/-- A duration is above zero, whether it is offered or the default. -/
theorem isDuration_of_read {f : Field Binary64} {x : Binary64}
    (habsent : f.absent.all (Binary64.zero false).lt = true)
    (hconvert : f.convert = convertDuration) (h : f.read find = .ok x) : IsDuration x := by
  refine isDuration_of_pos ?_
  refine Field.of_read (fun x => (Binary64.zero false).lt x = true) (fun a ha => ?_)
    (fun v a hv => ?_) h
  · rwa [ha, Option.all_some] at habsent
  · rw [hconvert] at hv
    exact zero_lt_of_convertDuration hv

/-- The default endpoint and the default cluster are names that could be offered. -/
theorem isPresent_default : Text.IsPresent defaultEndpoint ∧ Text.IsPresent "default" :=
  ⟨Text.isPresent_of_all (by decide) (by decide), Text.isPresent_of_all (by decide) (by decide)⟩

/-- Fields that are read, and together are in order, are consistent. -/
theorem Reads.consistent (h : Reads find s) (hfault : s.inconsistency? = none) :
    s.Consistent := by
  obtain ⟨hlonger, hserved, hexplicit, htemporary⟩ := inconsistency?_eq_none_iff.1 hfault
  have hinterval : IsDuration s.interval := isDuration_of_read rfl rfl h.interval
  have hexpiration : IsDuration s.expiration := isDuration_of_read rfl rfl h.expiration
  have hbucket : Text.IsPresent s.bucket := by
    refine Field.of_read Text.IsPresent (fun a ha => ?_)
      (fun _ _ => isPresent_of_convertPresent) h.bucket
    cases ha
  have hregion : Text.IsPresent s.region := by
    refine Field.of_read Text.IsPresent (fun a ha => ?_)
      (fun _ _ => isPresent_of_convertRegion) h.region
    cases ha
  have hendpoint : Text.IsPresent s.endpoint := by
    refine Field.of_read Text.IsPresent (fun a ha => ?_)
      (fun _ _ => isPresent_of_convertPresent) h.endpoint
    cases ha
    exact isPresent_default.1
  have hcluster : Text.IsPresent s.cluster ∧ '/' ∉ s.cluster.toList := by
    refine Field.of_read (fun name => Text.IsPresent name ∧ '/' ∉ name.toList) (fun a ha => ?_)
      (fun v a hv => ?_) h.cluster
    · cases ha
      exact ⟨isPresent_default.2, by decide⟩
    · have hv := convertCluster_eq_ok_iff.1 hv
      exact ⟨isPresent_of_convertPresent hv.1, hv.2⟩
  exact {
    bucket := hbucket
    region := hregion
    cluster := hcluster.1
    slashless := hcluster.2
    endpoint := hendpoint
    interval := hinterval
    expiration := hexpiration
    shorter := (Binary64.lt_iff_le_eq_false hinterval.isNumber hexpiration.isNumber).2 hlonger
    requestTimeout := isDuration_of_read (by decide +kernel) rfl h.requestTimeout
    discoveryTimeout := isDuration_of_read (by decide +kernel) rfl h.discoveryTimeout
    stopTimeout := isDuration_of_read (by decide +kernel) rfl h.stopTimeout
    served := hserved
    accessKeyId := fun hcredentials => isAbsent_eq_false_iff.1 (hexplicit hcredentials).1
    secretKey := fun hcredentials => isAbsent_map_eq_false_iff.1 (hexplicit hcredentials).2
    sessionToken := fun hcredentials => isAbsent_map_eq_false_iff.1 (htemporary hcredentials) }

/-! ### Offering settings -/

/-- What offers an optional value. -/
def offered {α : Type} (offer : α → Value) : Option α → Value
  | none => .null
  | some a => offer a

/-- What offers a secret. -/
def offerSecret (secret : Secret) : Value :=
  .text secret.plain

/-- The values of the fields, each under its hyphenated name. -/
def named (s : Settings) : List (String × Value) :=
  [("s3-bucket-name", .text s.bucket), ("s3-bucket-region", .text s.region),
    ("file-prefix", .text s.keyPrefix), ("cluster-id", .text s.cluster),
    ("file-expiration", .float s.expiration), ("update-interval", .float s.interval),
    ("s3-endpoint", .text s.endpoint), ("s3-endpoint-region", offered .text s.endpointRegion),
    ("s3-path-style-access", offered .bool s.pathStyle),
    ("credentials-type", .text s.credentials.name),
    ("credentials-access-key-id", offered .text s.accessKeyId),
    ("credentials-secret-access-key", offered offerSecret s.secretKey),
    ("credentials-session-token", offered offerSecret s.sessionToken),
    ("credentials-profile", offered .text s.profile),
    ("request-timeout", .float s.requestTimeout),
    ("discovery-timeout", .float s.discoveryTimeout), ("stop-timeout", .float s.stopTimeout),
    ("cleanup-expired", .bool s.cleanup)]

/-- Settings as the entries of a mapping. -/
def entries (s : Settings) : List (Value × Value) :=
  s.named.map fun e => (.text e.1, e.2)

theorem nodup_named (s : Settings) : (s.named.map Prod.fst).Nodup := by
  simp [named]

/-- A field under whose hyphenated name a value is offered converts that value. -/
theorem Field.read_named {α : Type} {f : Field α} {convert : Value → Except Problem α} {v : Value}
    {a : α} (hconvert : convert v = .ok a) (hf : f.convert = convert)
    (hv : (f.hyphened, v) ∈ s.named) :
    f.read (fun name => Value.lookup? name s.entries) = .ok a := by
  rw [Field.read, Field.offered?, entries, Value.lookup?_of_mem s.nodup_named hv]
  dsimp only
  rw [hf, hconvert]

theorem convertPresent_text {name : String} (h : Text.IsPresent name) :
    convertPresent (.text name) = .ok name :=
  convertPresent_eq_ok_iff.2 ⟨name, rfl, h.strip_eq, h.ne_empty⟩

theorem convertDuration_float {x : Binary64} (h : IsDuration x) :
    convertDuration (.float x) = .ok x := by
  rw [convertDuration, Value.toNumber]
  exact if_pos h.pos

theorem convertOptional_offered {α : Type} (convert : Value → Except Problem α) (offer : α → Value)
    (hoffer : ∀ a, offer a ≠ .null) (hconvert : ∀ a, convert (offer a) = .ok a) (o : Option α) :
    convertOptional convert (offered offer o) = .ok o := by
  cases o with
  | none => rfl
  | some a => rw [offered, convertOptional.eq_2 _ _ (hoffer a), hconvert a]

theorem convertCredentials_name (t : CredentialsType) :
    convertCredentials (.text t.name) = .ok t := by
  have hpresent : Text.IsPresent t.name := by
    cases t <;> exact Text.isPresent_of_all (by decide) (by decide)
  have hsmall : (t.name.toList.all fun c => 0x5A < c.toNat && c.toNat < 0xC0) = true := by
    cases t <;> decide
  rw [convertCredentials, hpresent.strip_eq, Text.lower_eq_self hsmall]
  cases t <;> rfl

/-- Consistent settings are read from their own entries. -/
theorem Consistent.reads (h : s.Consistent) :
    Reads (fun name => Value.lookup? name s.entries) s where
  bucket := Field.read_named (convertPresent_text h.bucket) rfl (by simp [named, Fields.bucket])
  region := Field.read_named (show convertRegion (.text s.region) = .ok s.region from
    convertPresent_text h.region) rfl (by simp [named, Fields.region])
  keyPrefix := Field.read_named (rfl : Value.toText (.text s.keyPrefix) = .ok s.keyPrefix) rfl
    (by simp [named, Fields.keyPrefix])
  cluster := Field.read_named
    (convertCluster_eq_ok_iff.2 ⟨convertPresent_text h.cluster, h.slashless⟩) rfl
    (by simp [named, Fields.cluster])
  expiration := Field.read_named (convertDuration_float h.expiration) rfl
    (by simp [named, Fields.expiration])
  interval := Field.read_named (convertDuration_float h.interval) rfl
    (by simp [named, Fields.interval])
  endpoint := Field.read_named (convertPresent_text h.endpoint) rfl
    (by simp [named, Fields.endpoint])
  endpointRegion := Field.read_named
    (convertOptional_offered Value.toText .text nofun (fun _ => rfl) s.endpointRegion) rfl
    (by simp [named, Fields.endpointRegion])
  pathStyle := Field.read_named
    (convertOptional_offered Value.toBool .bool nofun (fun _ => rfl) s.pathStyle) rfl
    (by simp [named, Fields.pathStyle])
  credentials := Field.read_named (convertCredentials_name s.credentials) rfl
    (by simp [named, Fields.credentials])
  accessKeyId := Field.read_named
    (convertOptional_offered Value.toText .text nofun (fun _ => rfl) s.accessKeyId) rfl
    (by simp [named, Fields.accessKeyId])
  secretKey := Field.read_named
    (convertOptional_offered convertSecret offerSecret nofun (fun _ => rfl) s.secretKey) rfl
    (by simp [named, Fields.secretKey])
  sessionToken := Field.read_named
    (convertOptional_offered convertSecret offerSecret nofun (fun _ => rfl) s.sessionToken) rfl
    (by simp [named, Fields.sessionToken])
  profile := Field.read_named
    (convertOptional_offered Value.toText .text nofun (fun _ => rfl) s.profile) rfl
    (by simp [named, Fields.profile])
  requestTimeout := Field.read_named (convertDuration_float h.requestTimeout) rfl
    (by simp [named, Fields.requestTimeout])
  discoveryTimeout := Field.read_named (convertDuration_float h.discoveryTimeout) rfl
    (by simp [named, Fields.discoveryTimeout])
  stopTimeout := Field.read_named (convertDuration_float h.stopTimeout) rfl
    (by simp [named, Fields.stopTimeout])
  cleanup := Field.read_named (rfl : Value.toBool (.bool s.cleanup) = .ok s.cleanup) rfl
    (by simp [named, Fields.cleanup])

/-- No fault is found in consistent settings. -/
theorem Consistent.inconsistency?_eq_none (h : s.Consistent) : s.inconsistency? = none := by
  refine inconsistency?_eq_none_iff.2 ⟨?_, h.served, fun hcredentials => ⟨?_, ?_⟩,
    fun hcredentials => ?_⟩
  · exact (Binary64.lt_iff_le_eq_false h.interval.isNumber h.expiration.isNumber).1 h.shorter
  · exact isAbsent_eq_false_iff.2 (h.accessKeyId hcredentials)
  · exact isAbsent_map_eq_false_iff.2 (h.secretKey hcredentials)
  · exact isAbsent_map_eq_false_iff.2 (h.sessionToken hcredentials)

/-- **Accepted settings are consistent**: whatever is offered as a mapping, if it makes settings, they
can be relied on. No more is asked of settings: any that are consistent are accepted when every field
is offered as it is. -/
theorem ofValue_consistent (s : Settings) :
    (∀ v, ofValue v = .ok s → s.Consistent) ∧ (s.Consistent → ofValue (.map s.entries) = .ok s) := by
  constructor
  · intro v hv
    obtain ⟨entries, -, hreads, hfault⟩ := ofValue_eq_ok_iff.1 hv
    exact hreads.consistent hfault
  · intro h
    exact ofValue_eq_ok_iff.2 ⟨s.entries, rfl, h.reads, h.inconsistency?_eq_none⟩

end RollCall.Settings
