import RollCall.Settings.Field
import RollCall.Value.Items

/-!
# Settings from a mapping

Every field is read on its own, and all fields that are refused are reported together, in the order
of the fields. Only when no field is refused are the settings checked as a whole.

## Main definitions

* `Settings.refusals`: the reasons of all refused fields.
* `Settings.ofFields?`: settings from the values of their fields.
* `Settings.ofEntries`: settings from a mapping.
* `Settings.ofValue`: settings from a value that is offered as a mapping.

## Main results

* `refusals_eq_nil_iff`: the fields make settings exactly if none is refused.
-/

namespace RollCall.Settings

variable (find : String → Option Value)

/-- The reasons of all refused fields, in the order of the fields. -/
def refusals : List Reason :=
  Fields.bucket.refusals find ++ Fields.region.refusals find ++ Fields.keyPrefix.refusals find ++
    Fields.cluster.refusals find ++ Fields.expiration.refusals find ++
    Fields.interval.refusals find ++ Fields.endpoint.refusals find ++
    Fields.endpointRegion.refusals find ++ Fields.pathStyle.refusals find ++
    Fields.credentials.refusals find ++ Fields.accessKeyId.refusals find ++
    Fields.secretKey.refusals find ++ Fields.sessionToken.refusals find ++
    Fields.profile.refusals find ++ Fields.requestTimeout.refusals find ++
    Fields.discoveryTimeout.refusals find ++ Fields.stopTimeout.refusals find ++
    Fields.cleanup.refusals find

/-- The settings of the values of the fields, if every field has one. -/
def ofFields? : Option Settings := do
  let bucket ← (Fields.bucket.read find).toOption
  let region ← (Fields.region.read find).toOption
  let keyPrefix ← (Fields.keyPrefix.read find).toOption
  let cluster ← (Fields.cluster.read find).toOption
  let expiration ← (Fields.expiration.read find).toOption
  let interval ← (Fields.interval.read find).toOption
  let endpoint ← (Fields.endpoint.read find).toOption
  let endpointRegion ← (Fields.endpointRegion.read find).toOption
  let pathStyle ← (Fields.pathStyle.read find).toOption
  let credentials ← (Fields.credentials.read find).toOption
  let accessKeyId ← (Fields.accessKeyId.read find).toOption
  let secretKey ← (Fields.secretKey.read find).toOption
  let sessionToken ← (Fields.sessionToken.read find).toOption
  let profile ← (Fields.profile.read find).toOption
  let requestTimeout ← (Fields.requestTimeout.read find).toOption
  let discoveryTimeout ← (Fields.discoveryTimeout.read find).toOption
  let stopTimeout ← (Fields.stopTimeout.read find).toOption
  let cleanup ← (Fields.cleanup.read find).toOption
  return { bucket, region, keyPrefix, cluster, expiration, interval, endpoint, endpointRegion,
           pathStyle, credentials, accessKeyId, secretKey, sessionToken, profile, requestTimeout,
           discoveryTimeout, stopTimeout, cleanup }

/-- The reasons for which a mapping makes no settings, or the settings. -/
def read : Except (List Reason) Settings :=
  match ofFields? find with
  | none => .error (refusals find)
  | some s =>
    match s.inconsistency? with
    | some finding => .error [⟨"config", .inconsistent finding⟩]
    | none => .ok s

/-- The settings in the entries of a mapping. -/
def ofEntries (entries : List (Value × Value)) : Except Failure Settings :=
  match read fun name => Value.lookup? name entries with
  | .ok s => .ok s
  | .error reasons => .error (.settings Failure.settingsHead (reasons.map Reason.message))

/-- The settings in a value that is offered as a mapping. -/
def ofValue (v : Value) : Except Failure Settings :=
  v.entries >>= ofEntries

/-! ### Refusals -/

variable {find}

theorem Field.refusals_eq_nil_iff {α : Type} {f : Field α} :
    f.refusals find = [] ↔ ∃ a, f.read find = .ok a := by
  unfold Field.refusals
  cases f.read find <;> simp

/-- A computation that has a value begins with one that has. -/
theorem exists_of_isSome_bind {α β : Type} {o : Option α} {f : α → Option β}
    (h : (o >>= f).isSome) : ∃ a, o = some a ∧ (f a).isSome := by
  cases o with
  | none => simp at h
  | some a => exact ⟨a, rfl, h⟩

theorem exists_ok_of_toOption {α : Type} {r : Except Reason α} {a : α}
    (h : r.toOption = some a) : ∃ a, r = .ok a := by
  cases r with
  | ok a => exact ⟨a, rfl⟩
  | error e => simp [Except.toOption] at h

/-- The fields make settings exactly if none is refused. -/
theorem refusals_eq_nil_iff : refusals find = [] ↔ (ofFields? find).isSome := by
  constructor
  · intro h
    simp only [refusals, List.append_eq_nil_iff, Field.refusals_eq_nil_iff] at h
    obtain ⟨⟨⟨⟨⟨⟨⟨⟨⟨⟨⟨⟨⟨⟨⟨⟨⟨⟨_, h₁⟩, ⟨_, h₂⟩⟩, ⟨_, h₃⟩⟩, ⟨_, h₄⟩⟩, ⟨_, h₅⟩⟩, ⟨_, h₆⟩⟩, ⟨_, h₇⟩⟩,
      ⟨_, h₈⟩⟩, ⟨_, h₉⟩⟩, ⟨_, h₁₀⟩⟩, ⟨_, h₁₁⟩⟩, ⟨_, h₁₂⟩⟩, ⟨_, h₁₃⟩⟩, ⟨_, h₁₄⟩⟩, ⟨_, h₁₅⟩⟩,
      ⟨_, h₁₆⟩⟩, ⟨_, h₁₇⟩⟩, ⟨_, h₁₈⟩⟩ := h
    unfold ofFields?
    rw [h₁, h₂, h₃, h₄, h₅, h₆, h₇, h₈, h₉, h₁₀, h₁₁, h₁₂, h₁₃, h₁₄, h₁₅, h₁₆, h₁₇, h₁₈]
    rfl
  · intro h
    unfold ofFields? at h
    obtain ⟨_, h₁, h⟩ := exists_of_isSome_bind h
    obtain ⟨_, h₂, h⟩ := exists_of_isSome_bind h
    obtain ⟨_, h₃, h⟩ := exists_of_isSome_bind h
    obtain ⟨_, h₄, h⟩ := exists_of_isSome_bind h
    obtain ⟨_, h₅, h⟩ := exists_of_isSome_bind h
    obtain ⟨_, h₆, h⟩ := exists_of_isSome_bind h
    obtain ⟨_, h₇, h⟩ := exists_of_isSome_bind h
    obtain ⟨_, h₈, h⟩ := exists_of_isSome_bind h
    obtain ⟨_, h₉, h⟩ := exists_of_isSome_bind h
    obtain ⟨_, h₁₀, h⟩ := exists_of_isSome_bind h
    obtain ⟨_, h₁₁, h⟩ := exists_of_isSome_bind h
    obtain ⟨_, h₁₂, h⟩ := exists_of_isSome_bind h
    obtain ⟨_, h₁₃, h⟩ := exists_of_isSome_bind h
    obtain ⟨_, h₁₄, h⟩ := exists_of_isSome_bind h
    obtain ⟨_, h₁₅, h⟩ := exists_of_isSome_bind h
    obtain ⟨_, h₁₆, h⟩ := exists_of_isSome_bind h
    obtain ⟨_, h₁₇, h⟩ := exists_of_isSome_bind h
    obtain ⟨_, h₁₈, h⟩ := exists_of_isSome_bind h
    simp only [refusals, List.append_eq_nil_iff, Field.refusals_eq_nil_iff]
    have ok {α : Type} {r : Except Reason α} {a : α} (h : r.toOption = some a) : ∃ a, r = .ok a :=
      exists_ok_of_toOption h
    exact ⟨⟨⟨⟨⟨⟨⟨⟨⟨⟨⟨⟨⟨⟨⟨⟨⟨ok h₁, ok h₂⟩, ok h₃⟩, ok h₄⟩, ok h₅⟩, ok h₆⟩, ok h₇⟩, ok h₈⟩, ok h₉⟩,
      ok h₁₀⟩, ok h₁₁⟩, ok h₁₂⟩, ok h₁₃⟩, ok h₁₄⟩, ok h₁₅⟩, ok h₁₆⟩, ok h₁₇⟩, ok h₁₈⟩

end RollCall.Settings
