import RollCall.Presence.Basic
import RollCall.Settings.Reader

/-!
# Settings that are accepted

Settings are accepted if every field can be read and no fault is found in the whole. So what every
value that a field can take has in common, its default included, holds of accepted settings.

## Main definitions

* `Settings.Reads`: settings are what the fields read.
* `Settings.Accepted`: a proper name for the cluster, and proper durations for a record.

## Main results

* `ofValue_eq_ok_iff`: what is accepted as settings.
* `accepted_of_ofValue`: what holds of the cluster and of the durations of a record.
-/

namespace RollCall.Settings

variable {find : String → Option Value} {s : Settings}

/-- What holds of the default of a field and of everything that it converts holds of everything that
it reads. -/
theorem Field.of_read {α : Type} {f : Field α} (P : α → Prop)
    (habsent : ∀ a, f.absent = some a → P a) (hconvert : ∀ v a, f.convert v = .ok a → P a) {a : α}
    (h : f.read find = .ok a) : P a := by
  unfold Field.read at h
  split at h
  · split at h
    · next hv =>
      cases h
      exact hconvert _ _ hv
    · cases h
  · split at h
    · next ha =>
      cases h
      exact habsent _ ha
    · cases h

/-! ### Reading all fields -/

/-- The settings are what the fields read. -/
structure Reads (find : String → Option Value) (s : Settings) : Prop where
  bucket : Fields.bucket.read find = .ok s.bucket
  region : Fields.region.read find = .ok s.region
  keyPrefix : Fields.keyPrefix.read find = .ok s.keyPrefix
  cluster : Fields.cluster.read find = .ok s.cluster
  expiration : Fields.expiration.read find = .ok s.expiration
  interval : Fields.interval.read find = .ok s.interval
  endpoint : Fields.endpoint.read find = .ok s.endpoint
  endpointRegion : Fields.endpointRegion.read find = .ok s.endpointRegion
  pathStyle : Fields.pathStyle.read find = .ok s.pathStyle
  credentials : Fields.credentials.read find = .ok s.credentials
  accessKeyId : Fields.accessKeyId.read find = .ok s.accessKeyId
  secretKey : Fields.secretKey.read find = .ok s.secretKey
  sessionToken : Fields.sessionToken.read find = .ok s.sessionToken
  profile : Fields.profile.read find = .ok s.profile
  requestTimeout : Fields.requestTimeout.read find = .ok s.requestTimeout
  discoveryTimeout : Fields.discoveryTimeout.read find = .ok s.discoveryTimeout
  stopTimeout : Fields.stopTimeout.read find = .ok s.stopTimeout
  cleanup : Fields.cleanup.read find = .ok s.cleanup

/-- What begins with reading a field comes to a value only if the field is read. -/
theorem exists_of_bind_toOption {α β : Type} {r : Except Reason α} {f : α → Option β} {b : β}
    (h : (r.toOption >>= f) = some b) : ∃ a, r = .ok a ∧ f a = some b := by
  cases r with
  | error e => cases h
  | ok a => exact ⟨a, rfl, h⟩

/-- **The fields make the settings that they read.** -/
theorem ofFields?_eq_some_iff : ofFields? find = some s ↔ Reads find s := by
  constructor
  · intro h
    unfold ofFields? at h
    obtain ⟨_, h₁, h⟩ := exists_of_bind_toOption h
    obtain ⟨_, h₂, h⟩ := exists_of_bind_toOption h
    obtain ⟨_, h₃, h⟩ := exists_of_bind_toOption h
    obtain ⟨_, h₄, h⟩ := exists_of_bind_toOption h
    obtain ⟨_, h₅, h⟩ := exists_of_bind_toOption h
    obtain ⟨_, h₆, h⟩ := exists_of_bind_toOption h
    obtain ⟨_, h₇, h⟩ := exists_of_bind_toOption h
    obtain ⟨_, h₈, h⟩ := exists_of_bind_toOption h
    obtain ⟨_, h₉, h⟩ := exists_of_bind_toOption h
    obtain ⟨_, h₁₀, h⟩ := exists_of_bind_toOption h
    obtain ⟨_, h₁₁, h⟩ := exists_of_bind_toOption h
    obtain ⟨_, h₁₂, h⟩ := exists_of_bind_toOption h
    obtain ⟨_, h₁₃, h⟩ := exists_of_bind_toOption h
    obtain ⟨_, h₁₄, h⟩ := exists_of_bind_toOption h
    obtain ⟨_, h₁₅, h⟩ := exists_of_bind_toOption h
    obtain ⟨_, h₁₆, h⟩ := exists_of_bind_toOption h
    obtain ⟨_, h₁₇, h⟩ := exists_of_bind_toOption h
    obtain ⟨_, h₁₈, h⟩ := exists_of_bind_toOption h
    cases h
    exact ⟨h₁, h₂, h₃, h₄, h₅, h₆, h₇, h₈, h₉, h₁₀, h₁₁, h₁₂, h₁₃, h₁₄, h₁₅, h₁₆, h₁₇, h₁₈⟩
  · rintro ⟨h₁, h₂, h₃, h₄, h₅, h₆, h₇, h₈, h₉, h₁₀, h₁₁, h₁₂, h₁₃, h₁₄, h₁₅, h₁₆, h₁₇, h₁₈⟩
    unfold ofFields?
    rw [h₁, h₂, h₃, h₄, h₅, h₆, h₇, h₈, h₉, h₁₀, h₁₁, h₁₂, h₁₃, h₁₄, h₁₅, h₁₆, h₁₇, h₁₈]
    rfl

/-- **What makes settings**: what every field reads, if it is consistent. -/
theorem read_eq_ok_iff : read find = .ok s ↔ Reads find s ∧ s.inconsistency? = none := by
  rw [← ofFields?_eq_some_iff, read]
  cases ofFields? find with
  | none => exact iff_of_false nofun fun h => nomatch h.1
  | some s' =>
    rw [Option.some.injEq]
    dsimp only
    constructor
    · intro h
      split at h
      · cases h
      · next hconsistent =>
        cases h
        exact ⟨rfl, hconsistent⟩
    · rintro ⟨rfl, hconsistent⟩
      rw [hconsistent]

/-- **What is accepted as settings**: entries that every field can read and that are consistent. -/
theorem ofValue_eq_ok_iff {v : Value} :
    ofValue v = .ok s ↔ ∃ entries, v.entries = .ok entries ∧
      Reads (fun name => Value.lookup? name entries) s ∧ s.inconsistency? = none := by
  rw [ofValue]
  cases v.entries with
  | error f => exact iff_of_false nofun fun ⟨_, h, _⟩ => nomatch h
  | ok entries =>
    have hentries : ofEntries entries = .ok s ↔
        read (fun name => Value.lookup? name entries) = .ok s := by
      rw [ofEntries]
      cases read fun name => Value.lookup? name entries <;> simp
    change ofEntries entries = .ok s ↔ _
    rw [hentries, read_eq_ok_iff]
    constructor
    · exact fun h => ⟨entries, rfl, h⟩
    · rintro ⟨_, ⟨⟩, h⟩
      exact h

/-! ### What the fields read -/

/-- The name of a cluster is one that a record may hold. -/
theorem isName_of_convertCluster {v : Value} {name : String} (h : convertCluster v = .ok name) :
    Presence.IsName name := by
  rw [convertCluster, convertPresent] at h
  split at h
  · next s hs =>
    split at h
    · cases h
    · next hslash =>
      cases h
      split at hs
      · split at hs
        · cases hs
        · next hblank =>
          cases hs
          refine ⟨fun hempty => hblank (String.isEmpty_iff.2 hempty), ?_⟩
          rwa [List.contains_iff_mem] at hslash
      · cases hs
  · cases h

/-- A duration is above zero. -/
theorem zero_lt_of_convertDuration {v : Value} {x : Binary64} (h : convertDuration v = .ok x) :
    (Binary64.zero false).lt x = true := by
  rw [convertDuration] at h
  split at h
  · split at h
    · next hpos =>
      cases h
      exact hpos
    · cases h
  · cases h

/-- A required duration is above zero. -/
theorem zero_lt_of_read {f : Field Binary64} {x : Binary64} (hrequired : f.absent = none)
    (hconvert : f.convert = convertDuration) (h : f.read find = .ok x) :
    (Binary64.zero false).lt x = true := by
  refine Field.of_read (fun x => (Binary64.zero false).lt x = true) (fun a ha => ?_)
    (fun v a hv => ?_) h
  · rw [hrequired] at ha
    cases ha
  · rw [hconvert] at hv
    exact zero_lt_of_convertDuration hv

/-- What holds of the cluster and of the durations of a record in accepted settings. -/
structure Accepted (s : Settings) : Prop where
  cluster : Presence.IsName s.cluster
  expiration : (Binary64.zero false).lt s.expiration = true
  interval : (Binary64.zero false).lt s.interval = true
  /-- A record counts for longer than the time between two refreshes. -/
  longer : s.expiration.le s.interval = false

/-- **Accepted settings** name their cluster as records may, and have durations above zero, of which
that of a record is the longer one. -/
theorem accepted_of_ofValue {v : Value} (h : ofValue v = .ok s) : s.Accepted := by
  obtain ⟨entries, -, hreads, hconsistent⟩ := ofValue_eq_ok_iff.1 h
  refine ⟨?_, ?_, ?_, ?_⟩
  · refine Field.of_read Presence.IsName (fun name hname => ?_)
      (fun _ _ => isName_of_convertCluster) hreads.cluster
    cases hname
    decide
  · exact zero_lt_of_read rfl rfl hreads.expiration
  · exact zero_lt_of_read rfl rfl hreads.interval
  · rw [inconsistency?] at hconsistent
    split at hconsistent
    · cases hconsistent
    · next hlonger => exact Bool.eq_false_iff.2 hlonger

end RollCall.Settings
