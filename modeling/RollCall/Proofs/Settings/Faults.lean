import Mathlib.Data.List.Forall2
import RollCall.Proofs.Settings.Accepted

/-!
# Faults in settings

Each field is judged by what is offered for it and by nothing else. All fields with a fault are
reported together, each once and in the order of the fields, at the name under which the value was
found. The settings are judged as a whole only if no field has a fault, and then a fault is reported
alone, at a place that is no field.

The fields have different types; a *slot* is what is left of a field if its type is forgotten, so
that all eighteen are one list.

## Main definitions

* `Settings.Slot`, `Settings.slots`: fields without their types.
* `Slot.offer?`, `Slot.place`: what is offered for a field, and under which name.
* `Slot.Tells`: a reason that tells of the fault of a field.

## Main results

* `refusals_eq_filterMap`: the reasons, field by field.
* `slots_faultless_iff`: no field has a fault if and only if all fields are read.
* `Reason.place_eq_of_message_eq`: the words of a reason tell its place.
* `ofValue_faults`: what comes of a mapping.
-/

namespace RollCall

/-! ### The words of reasons -/

/-- The words of a reason begin with its place. -/
theorem Reason.takeWhile_message {r : Reason} (h : ':' ∉ r.place.toList) :
    r.message.toList.takeWhile (· != ':') = r.place.toList := by
  have hplace : ∀ c ∈ r.place.toList, (c != ':') = true := by
    intro c hc
    exact bne_iff_ne.2 fun hcolon => h (hcolon ▸ hc)
  rw [message, String.toList_append, String.toList_append, List.append_assoc,
    List.takeWhile_append_of_pos hplace]
  exact List.append_nil _

/-- **The words of a reason tell its place**, as no place has a colon in it. -/
theorem Reason.place_eq_of_message_eq {r r' : Reason} (h : ':' ∉ r.place.toList)
    (h' : ':' ∉ r'.place.toList) (hmessage : r.message = r'.message) : r.place = r'.place := by
  rw [← String.toList_inj, ← takeWhile_message h, ← takeWhile_message h', hmessage]

/-- The words of a finding tell what was found. -/
theorem Reason.finding_eq_of_message_eq {place finding finding' : String}
    (h : message ⟨place, .inconsistent finding⟩ = message ⟨place, .inconsistent finding'⟩) :
    finding = finding' := by
  have hwords : place ++ ": " ++ ("Value error, " ++ finding) =
      place ++ ": " ++ ("Value error, " ++ finding') := h
  rw [← String.toList_inj] at hwords ⊢
  simp only [String.toList_append] at hwords
  exact List.append_cancel_left (List.append_cancel_left hwords)

namespace Settings

variable {α : Type} {find : String → Option Value} {s : Settings}

/-! ### Slots -/

/-- A field without its type: its two names, and why it refuses what is offered, if it does. -/
structure Slot where
  name : String
  hyphened : String
  fault? : Option Value → Option Problem

/-- Why a field refuses what is offered, if it does. -/
def Field.fault? (f : Field α) : Option Value → Option Problem
  | none => if f.absent.isSome then none else some .missing
  | some v =>
    match f.convert v with
    | .ok _ => none
    | .error p => some p

/-- A field without its type. -/
def Field.slot (f : Field α) : Slot :=
  ⟨f.name, f.hyphened, f.fault?⟩

/-- All fields, in their order. -/
def slots : List Slot :=
  [Fields.bucket.slot, Fields.region.slot, Fields.keyPrefix.slot, Fields.cluster.slot,
    Fields.expiration.slot, Fields.interval.slot, Fields.endpoint.slot, Fields.endpointRegion.slot,
    Fields.pathStyle.slot, Fields.credentials.slot, Fields.accessKeyId.slot, Fields.secretKey.slot,
    Fields.sessionToken.slot, Fields.profile.slot, Fields.requestTimeout.slot,
    Fields.discoveryTimeout.slot, Fields.stopTimeout.slot, Fields.cleanup.slot]

namespace Slot

/-- What is offered for a field: what is under its hyphened name, or else under the other. -/
def offer? (c : Slot) (find : String → Option Value) : Option Value :=
  (find c.hyphened).or (find c.name)

/-- The name under which a value is offered for a field; the hyphened one if there is none. -/
def place (c : Slot) (find : String → Option Value) : String :=
  if (find c.hyphened).isNone && (find c.name).isSome then c.name else c.hyphened

/-- Whether a field refuses what is offered for it. -/
def isFaulty (c : Slot) (find : String → Option Value) : Bool :=
  (c.fault? (c.offer? find)).isSome

/-- The reason why a field refuses what is offered for it, if it does. -/
def refusal? (c : Slot) (find : String → Option Value) : Option Reason :=
  (c.fault? (c.offer? find)).map fun p => ⟨c.place find, p⟩

/-- A reason tells of the fault of a field. -/
structure Tells (find : String → Option Value) (c : Slot) (r : Reason) : Prop where
  place : r.place = c.place find
  /-- The problem is one with what is offered for the field. -/
  problem : c.fault? (c.offer? find) = some r.problem

/-- If nothing is offered for a field, its place is its hyphened name. -/
theorem place_eq_hyphened {c : Slot} (h : c.offer? find = none) : c.place find = c.hyphened := by
  obtain ⟨-, hname⟩ := Option.or_eq_none_iff.1 h
  rw [place, hname, Option.isSome_none, Bool.and_false, if_neg Bool.false_ne_true]

/-- The reasons of some fields tell of those that have a fault, one by one. -/
theorem forall₂_tells (find : String → Option Value) (cs : List Slot) :
    List.Forall₂ (Tells find) (cs.filter (·.isFaulty find)) (cs.filterMap (·.refusal? find)) := by
  induction cs with
  | nil => exact .nil
  | cons c cs ih =>
    rw [List.filter_cons, List.filterMap_cons, isFaulty, refusal?]
    cases hfault : c.fault? (c.offer? find) with
    | none => exact ih
    | some p => exact .cons ⟨rfl, hfault⟩ ih

end Slot

/-! ### The names of fields -/

/-- All names of fields. -/
def fieldNames : List String :=
  slots.flatMap fun c => [c.name, c.hyphened]

/-- No name of a field has a colon in it, and none is the place of the whole. -/
theorem of_mem_fieldNames : ∀ name ∈ fieldNames, ':' ∉ name.toList ∧ name ≠ "config" := by
  decide +kernel

theorem Slot.place_mem_names (c : Slot) (find : String → Option Value) :
    c.place find ∈ [c.name, c.hyphened] := by
  rw [place]
  split <;> simp

theorem Slot.place_mem {c : Slot} (hc : c ∈ slots) (find : String → Option Value) :
    c.place find ∈ fieldNames :=
  List.mem_flatMap.2 ⟨c, hc, c.place_mem_names find⟩

/-- What is found in the whole is not said in the words of a field. -/
theorem message_ne_config {r : Reason} (h : r.place ∈ fieldNames) (p : Problem) :
    r.message ≠ Reason.message ⟨"config", p⟩ := by
  -- Reasons are listed as texts, and it is the texts that must not be confused.
  intro hmessage
  obtain ⟨hcolon, hother⟩ := of_mem_fieldNames _ h
  have hcolon' : ':' ∉ "config".toList := by decide +kernel
  exact hother (Reason.place_eq_of_message_eq hcolon hcolon' hmessage)

/-! ### Fields and slots -/

/-- What is offered for a field, and under which name, is what is offered for its slot. -/
theorem Field.offered?_eq (f : Field α) (find : String → Option Value) :
    f.offered? find = (f.slot.offer? find).map fun v => (f.slot.place find, v) := by
  rw [offered?, Slot.offer?, Slot.place, slot]
  dsimp only
  cases find f.hyphened with
  | some v => rfl
  | none => cases find f.name <;> rfl

/-- A field is refused as its slot is. -/
theorem Field.refusals_eq (f : Field α) : f.refusals find = (f.slot.refusal? find).toList := by
  rw [refusals, read, f.offered?_eq, Slot.refusal?]
  cases hoffer : f.slot.offer? find with
  | some v =>
    dsimp only [Option.map, slot, fault?]
    cases f.convert v <;> rfl
  | none =>
    rw [Slot.place_eq_hyphened hoffer]
    dsimp only [Option.map, slot, fault?]
    cases f.absent <;> rfl

/-- **The reasons, field by field.** -/
theorem refusals_eq_filterMap : refusals find = slots.filterMap (·.refusal? find) := by
  rw [List.filterMap_eq_flatMap_toList]
  simp only [refusals, slots, Field.refusals_eq, List.flatMap_cons, List.flatMap_nil,
    List.append_nil, List.append_assoc]

/-- There is a reason if and only if a field has a fault. -/
theorem refusals_eq_nil_iff_faultless :
    refusals find = [] ↔ slots.filter (·.isFaulty find) = [] := by
  have hlength := (Slot.forall₂_tells find slots).length_eq
  rw [← refusals_eq_filterMap] at hlength
  rw [← List.length_eq_zero_iff, ← hlength, List.length_eq_zero_iff]

/-- **No field has a fault** if and only if all fields are read. -/
theorem slots_faultless_iff :
    slots.filter (·.isFaulty find) = [] ↔ ∃ s, Reads find s := by
  rw [← refusals_eq_nil_iff_faultless, refusals_eq_nil_iff, Option.isSome_iff_exists]
  exact exists_congr fun s => ofFields?_eq_some_iff

/-- Reasons are those of fields. -/
theorem place_mem_of_mem_refusals {r : Reason} (h : r ∈ refusals find) :
    r.place ∈ fieldNames := by
  rw [refusals_eq_filterMap] at h
  obtain ⟨c, hc, hr⟩ := List.mem_filterMap.1 h
  obtain ⟨p, -, rfl⟩ := Option.map_eq_some_iff.1 hr
  exact c.place_mem hc find

/-! ### What comes of a mapping -/

section

variable {entries : List (Value × Value)}

/-- **The two stages of the check**: a mapping is refused for all the reasons of its fields, if
there are any, and else judged as a whole. -/
theorem ofValue_map_cases (entries : List (Value × Value)) :
    let find := fun name => Value.lookup? name entries
    (refusals find ≠ [] ∧ ofValue (.map entries) =
        .error (.settings Failure.settingsHead ((refusals find).map Reason.message))) ∨
      ∃ s, Reads find s ∧ ofValue (.map entries) = match s.inconsistency? with
        | some finding =>
          .error (.settings Failure.settingsHead [Reason.message ⟨"config", .inconsistent finding⟩])
        | none => .ok s := by
  intro find
  change (_ ∧ ofEntries entries = _) ∨ ∃ s, _ ∧ ofEntries entries = _
  rw [ofEntries, read]
  cases hfields : ofFields? find with
  | none =>
    refine .inl ⟨fun hnone => ?_, rfl⟩
    rw [refusals_eq_nil_iff, hfields] at hnone
    cases hnone
  | some s =>
    refine .inr ⟨s, ofFields?_eq_some_iff.1 hfields, ?_⟩
    dsimp only
    cases s.inconsistency? <;> rfl

theorem Reads.unique {s' : Settings} (h : Reads find s) (h' : Reads find s') : s = s' :=
  Option.some.inj ((ofFields?_eq_some_iff.2 h).symm.trans (ofFields?_eq_some_iff.2 h'))

theorem Reads.refusals_eq (h : Reads find s) : refusals find = [] :=
  refusals_eq_nil_iff.2 (Option.isSome_of_eq_some (ofFields?_eq_some_iff.2 h))

/-- A mapping is refused for reasons of fields if and only if there are any. -/
theorem refused_for_fields_iff :
    (∃ reasons : List Reason, reasons ≠ [] ∧ (∀ r ∈ reasons, r.place ∈ fieldNames) ∧
      ofValue (.map entries) =
        .error (.settings Failure.settingsHead (reasons.map Reason.message))) ↔
      refusals (fun name => Value.lookup? name entries) ≠ [] := by
  rcases ofValue_map_cases entries with ⟨hsome, houtcome⟩ | ⟨s, hreads, houtcome⟩
  · exact iff_of_true ⟨_, hsome, fun r hr => place_mem_of_mem_refusals hr, houtcome⟩ hsome
  · refine iff_of_false ?_ fun hsome => hsome hreads.refusals_eq
    rintro ⟨reasons, hsome, hplaces, hrefused⟩
    rw [houtcome] at hrefused
    split at hrefused
    · obtain ⟨r, rest, rfl⟩ := List.exists_cons_of_ne_nil hsome
      injection hrefused with hfailure
      injection hfailure with _ htexts
      exact message_ne_config (hplaces r List.mem_cons_self) _ (List.cons.inj htexts).1.symm
    · cases hrefused

/-- A mapping is refused as a whole if and only if all fields are read and what they read is
inconsistent. -/
theorem refused_as_whole_iff {finding : String} :
    ofValue (.map entries) = .error (.settings Failure.settingsHead
        [Reason.message ⟨"config", .inconsistent finding⟩]) ↔
      ∃ s, Reads (fun name => Value.lookup? name entries) s ∧ s.inconsistency? = some finding := by
  rcases ofValue_map_cases entries with ⟨hsome, houtcome⟩ | ⟨s, hreads, houtcome⟩
  · refine iff_of_false (fun hrefused => ?_) fun ⟨s, hreads, _⟩ => hsome hreads.refusals_eq
    rw [houtcome] at hrefused
    injection hrefused with hfailure
    injection hfailure with _ htexts
    obtain ⟨r, hr, hmessage⟩ := List.map_eq_singleton_iff.1 htexts
    have hmem : r ∈ refusals fun name => Value.lookup? name entries :=
      hr ▸ List.mem_cons_self
    exact message_ne_config (place_mem_of_mem_refusals hmem) _ hmessage
  · rw [houtcome]
    constructor
    · intro hrefused
      split at hrefused
      · next finding' hfinding =>
        injection hrefused with hfailure
        injection hfailure with _ htexts
        have hsame := Reason.finding_eq_of_message_eq (List.cons.inj htexts).1
        exact ⟨s, hreads, hsame ▸ hfinding⟩
      · cases hrefused
    · rintro ⟨s', hreads', hfinding⟩
      rw [hreads.unique hreads', hfinding]

/-- The words of a refused mapping. -/
theorem message_of_refused {f : Failure} (h : ofValue (.map entries) = .error f) :
    ∃ texts, f = .settings Failure.settingsHead texts ∧
      f.message = Failure.settingsHead ++ " " ++ "; ".intercalate texts := by
  have hmessage (reasons : List Reason) (hsome : reasons ≠ []) :
      (Failure.settings Failure.settingsHead (reasons.map Reason.message)).message =
        Failure.settingsHead ++ " " ++ "; ".intercalate (reasons.map Reason.message) := by
    have hsome' : ¬(reasons.map Reason.message).isEmpty = true := by simpa using hsome
    exact if_neg hsome'
  rcases ofValue_map_cases entries with ⟨hsome, houtcome⟩ | ⟨s, hreads, houtcome⟩
  · cases houtcome.symm.trans h
    exact ⟨_, rfl, hmessage _ hsome⟩
  · rw [houtcome] at h
    split at h
    · cases h
      exact ⟨_, rfl, hmessage [_] (List.cons_ne_nil _ _)⟩
    · cases h

end

/-- Of two faulty fields both are reported, and the durations are not compared. -/
example :
    ofValue (.map [(.text "s3-bucket-name", .text "b"), (.text "cluster_id", .text "a/b"),
        (.text "file-expiration", .int 5), (.text "update-interval", .int 9)]) =
      .error (.settings Failure.settingsHead
        ["s3-bucket-region: Field required", "cluster_id: Value error, must not contain '/'"]) := by
  decide +kernel

end Settings

end RollCall
