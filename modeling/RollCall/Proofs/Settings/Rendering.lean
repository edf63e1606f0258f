import Mathlib.Data.List.Nodup
import RollCall.Proofs.Settings.Consistent
import RollCall.Proofs.Settings.Spelling

/-!
# Settings offered once more

Checking settings strips texts, makes words small, reads numbers and fills in defaults. All of this
comes to rest after one pass: what was accepted is accepted again when each field is offered the
value that it has, and the settings are the same. Under which of its names a field is offered, in
which order the entries come, and whether a field without a value is offered as null or left out is
no matter.

## Main definitions

* `Settings.Rendering`: a choice of names, and of fields that are left out.
* `Settings.rendered`: settings as the entries of a mapping, rendered in such a way.

## Main results

* `offer?_rendered`: what a rendering offers for a field.
* `Reads.rendered`: every field reads its value again.
* `ofValue_rendered`: accepted settings are accepted again.
-/

namespace RollCall.Settings

variable {α : Type} {s : Settings} {find : String → Option Value}

/-! ### Renderings -/

/-- How settings are rendered as a mapping, field by field; fields are known by their hyphened
names. -/
structure Rendering where
  /-- Whether a field is offered under its other name. -/
  renames : String → Bool
  /-- Whether a field is left out if it has no value. -/
  omits : String → Bool

namespace Rendering

variable {w : Rendering} {c : Slot} {v : Value}

/-- The name under which a field is offered. -/
def nameOf (w : Rendering) (c : Slot) : String :=
  if w.renames c.hyphened then c.name else c.hyphened

/-- Whether a field with some value is offered; only null is ever left out. -/
def keeps (w : Rendering) : Slot × Value → Bool
  | (c, .null) => !w.omits c.hyphened
  | _ => true

theorem nameOf_mem (w : Rendering) (c : Slot) : w.nameOf c ∈ [c.name, c.hyphened] := by
  rw [nameOf]
  split <;> simp

/-- What is left out is null. -/
theorem eq_null_of_keeps (h : w.keeps (c, v) = false) : v = .null := by
  cases v with
  | null => rfl
  | _ => cases h

end Rendering

/-- All fields, each with what offers its value. -/
def fieldValues (s : Settings) : List (Slot × Value) :=
  slots.zip (s.named.map Prod.snd)

/-- Settings as the entries of a mapping: the value of every field that is kept, under the name
chosen for the field. -/
def rendered (s : Settings) (w : Rendering) : List (Value × Value) :=
  ((s.fieldValues.filter w.keeps).map fun e => (w.nameOf e.1, e.2)).map
    fun e => (.text e.1, e.2)

/-! ### Fields and their values -/

variable {w : Rendering} {c d : Slot} {e e' : Slot × Value} {v : Value} {name : String}

theorem named_eq (s : Settings) : s.named = s.fieldValues.map fun e => (e.1.hyphened, e.2) :=
  rfl

theorem slots_eq (s : Settings) : slots = s.fieldValues.map Prod.fst :=
  rfl

theorem mem_slots_of_mem (he : e ∈ s.fieldValues) : e.1 ∈ slots :=
  (List.of_mem_zip he).1

theorem exists_value (s : Settings) (hc : c ∈ slots) : ∃ v, (c, v) ∈ s.fieldValues := by
  rw [s.slots_eq] at hc
  obtain ⟨⟨_, v⟩, he, rfl⟩ := List.mem_map.1 hc
  exact ⟨v, he⟩

theorem nodup_hyphened (s : Settings) : (s.fieldValues.map fun e => e.1.hyphened).Nodup := by
  have hnodup := s.nodup_named
  rwa [named_eq, List.map_map] at hnodup

/-- A field has one value. -/
theorem eq_of_fst_eq (he : e ∈ s.fieldValues) (he' : e' ∈ s.fieldValues) (h : e.1 = e'.1) :
    e = e' :=
  List.inj_on_of_nodup_map s.nodup_hyphened he he' (congrArg Slot.hyphened h)

/-- Fields with a name in common are the same. -/
theorem eq_of_mem_names (hc : c ∈ slots) (hd : d ∈ slots) (hname : name ∈ [c.name, c.hyphened])
    (hname' : name ∈ [d.name, d.hyphened]) : c = d := by
  by_contra hne
  exact disjoint_names hc hd hne hname hname'

/-- A field that is offered under a name of another is that field, with the same value. -/
theorem eq_of_nameOf_mem (he : e ∈ s.fieldValues) (he' : e' ∈ s.fieldValues)
    (h : w.nameOf e'.1 ∈ [e.1.name, e.1.hyphened]) : e' = e :=
  eq_of_fst_eq he' he
    (eq_of_mem_names (mem_slots_of_mem he') (mem_slots_of_mem he) (w.nameOf_mem e'.1) h)

/-! ### Looking up in a rendering -/

/-- No name is chosen twice. -/
theorem nodup_nameOf (s : Settings) (w : Rendering) :
    (((s.fieldValues.filter w.keeps).map fun e => (w.nameOf e.1, e.2)).map Prod.fst).Nodup := by
  rw [List.map_map]
  have hnodup : s.fieldValues.Nodup := s.nodup_hyphened.of_map _
  refine (hnodup.filter _).map_on fun e he e' he' hname => ?_
  have hmem : w.nameOf e.1 ∈ [e'.1.name, e'.1.hyphened] := by
    rw [show w.nameOf e.1 = w.nameOf e'.1 from hname]
    exact w.nameOf_mem e'.1
  exact eq_of_nameOf_mem (List.mem_filter.1 he').1 (List.mem_filter.1 he).1 hmem

theorem nodup_keys_rendered (s : Settings) (w : Rendering) :
    ((s.rendered w).filterMap (·.1.text?)).Nodup := by
  rw [rendered, List.filterMap_map]
  change (List.filterMap (some ∘ Prod.fst) _).Nodup
  rw [List.filterMap_eq_map]
  exact s.nodup_nameOf w

theorem lookup?_rendered (he : (c, v) ∈ s.fieldValues) (hkeeps : w.keeps (c, v) = true) :
    Value.lookup? (w.nameOf c) (s.rendered w) = some v :=
  Value.lookup?_of_mem (s.nodup_nameOf w)
    (List.mem_map.2 ⟨(c, v), List.mem_filter.2 ⟨he, hkeeps⟩, rfl⟩)

/-- Under a name of a field that was not chosen for it there is nothing. -/
theorem lookup?_rendered_eq_none (he : (c, v) ∈ s.fieldValues)
    (hname : name ∈ [c.name, c.hyphened]) (h : w.keeps (c, v) = true → w.nameOf c ≠ name) :
    Value.lookup? name (s.rendered w) = none := by
  refine Value.lookup?_eq_none fun entry hentry => ?_
  obtain ⟨_, hpair, rfl⟩ := List.mem_map.1 hentry
  obtain ⟨e, hkept, rfl⟩ := List.mem_map.1 hpair
  obtain ⟨he', hkeeps⟩ := List.mem_filter.1 hkept
  rintro ⟨⟩
  obtain rfl := eq_of_nameOf_mem he he' hname
  exact h hkeeps rfl

/-- **What a rendering offers for a field**: its value, unless it is left out. -/
theorem offer?_rendered (he : (c, v) ∈ s.fieldValues) :
    c.offer? (fun name => Value.lookup? name (s.rendered w)) =
      if w.keeps (c, v) then some v else none := by
  rw [Slot.offer?]
  cases hkeeps : w.keeps (c, v) with
  | false =>
    rw [lookup?_rendered_eq_none he (by simp) (by simp [hkeeps]),
      lookup?_rendered_eq_none he (by simp) (by simp [hkeeps])]
    rfl
  | true =>
    have hvalue := lookup?_rendered he hkeeps
    cases hrenames : w.renames c.hyphened with
    | false =>
      rw [Rendering.nameOf, hrenames, if_neg Bool.false_ne_true] at hvalue
      rw [hvalue]
      rfl
    | true =>
      have hname : w.nameOf c = c.name := if_pos hrenames
      have hdiffer : c.name ≠ c.hyphened := by
        simpa using (List.nodup_flatMap.1 nodup_fieldNames).1 c (mem_slots_of_mem he)
      rw [hname] at hvalue
      rw [hvalue, lookup?_rendered_eq_none he (by simp) fun _ => hname.trans_ne hdiffer]
      rfl

theorem offer?_entries (he : (c, v) ∈ s.fieldValues) :
    c.offer? (fun name => Value.lookup? name s.entries) = some v := by
  have hmem : (c.hyphened, v) ∈ s.named := by
    rw [named_eq]
    exact List.mem_map.2 ⟨(c, v), he, rfl⟩
  rw [Slot.offer?, entries, Value.lookup?_of_mem s.nodup_named hmem]
  rfl

/-! ### Reading a rendering -/

theorem toOption_eq_some_iff {ε : Type} {r : Except ε α} {a : α} :
    r.toOption = some a ↔ r = .ok a := by
  cases r <;> simp [Except.toOption]

theorem Field.read_eq_ok_iff {f : Field α} {a : α} :
    f.read find = .ok a ↔ f.taken? (f.slot.offer? find) = some a := by
  rw [← f.toOption_read, toOption_eq_some_iff]

/-- A field reads its value again, provided that it takes null for what it takes nothing for. -/
theorem Field.read_rendered {f : Field α} {a : α} (w : Rendering) (hf : f.slot ∈ slots)
    (hnull : ∀ a, f.convert .null = .ok a → f.absent = some a)
    (h : f.read (fun name => Value.lookup? name s.entries) = .ok a) :
    f.read (fun name => Value.lookup? name (s.rendered w)) = .ok a := by
  obtain ⟨v, he⟩ := s.exists_value hf
  rw [read_eq_ok_iff, offer?_entries he] at h
  rw [read_eq_ok_iff, offer?_rendered he]
  cases hkeeps : w.keeps (f.slot, v) with
  | true => exact h
  | false =>
    obtain rfl := Rendering.eq_null_of_keeps hkeeps
    exact hnull a (toOption_eq_some_iff.1 h)

/-- **Every field reads its value again**, however the settings are rendered. -/
theorem Reads.rendered (h : Reads (fun name => Value.lookup? name s.entries) s) (w : Rendering) :
    Reads (fun name => Value.lookup? name (s.rendered w)) s where
  bucket := Field.read_rendered w (by simp [slots]) nofun h.bucket
  region := Field.read_rendered w (by simp [slots]) nofun h.region
  keyPrefix := Field.read_rendered w (by simp [slots]) nofun h.keyPrefix
  cluster := Field.read_rendered w (by simp [slots]) nofun h.cluster
  expiration := Field.read_rendered w (by simp [slots]) nofun h.expiration
  interval := Field.read_rendered w (by simp [slots]) nofun h.interval
  endpoint := Field.read_rendered w (by simp [slots]) nofun h.endpoint
  endpointRegion :=
    Field.read_rendered w (by simp [slots]) (by rintro _ ⟨⟩; rfl) h.endpointRegion
  pathStyle := Field.read_rendered w (by simp [slots]) (by rintro _ ⟨⟩; rfl) h.pathStyle
  credentials := Field.read_rendered w (by simp [slots]) nofun h.credentials
  accessKeyId := Field.read_rendered w (by simp [slots]) (by rintro _ ⟨⟩; rfl) h.accessKeyId
  secretKey := Field.read_rendered w (by simp [slots]) (by rintro _ ⟨⟩; rfl) h.secretKey
  sessionToken := Field.read_rendered w (by simp [slots]) (by rintro _ ⟨⟩; rfl) h.sessionToken
  profile := Field.read_rendered w (by simp [slots]) (by rintro _ ⟨⟩; rfl) h.profile
  requestTimeout := Field.read_rendered w (by simp [slots]) nofun h.requestTimeout
  discoveryTimeout := Field.read_rendered w (by simp [slots]) nofun h.discoveryTimeout
  stopTimeout := Field.read_rendered w (by simp [slots]) nofun h.stopTimeout
  cleanup := Field.read_rendered w (by simp [slots]) nofun h.cleanup

/-- **Accepted settings are accepted again**, unchanged, however they are rendered as a mapping and
in whatever order its entries are. -/
theorem ofValue_rendered {v : Value} (h : ofValue v = .ok s) (w : Rendering)
    {entries : List (Value × Value)} (hentries : entries.Perm (s.rendered w)) :
    ofValue (.map entries) = .ok s := by
  obtain ⟨_, -, hreads, hfault⟩ := ofValue_eq_ok_iff.1 h
  have hagain := (hreads.consistent hfault).reads.rendered w
  have hlookup (name : String) :
      Value.lookup? name (s.rendered w) = Value.lookup? name entries :=
    Value.lookup?_perm hentries.symm (s.nodup_keys_rendered w) name
  simp only [hlookup] at hagain
  exact ofValue_eq_ok_iff.2 ⟨entries, rfl, hagain, hfault⟩

/-! ### Loosely written settings -/

/-- Settings with blanks, capitals, bytes, numbers in words and something else among them. -/
def looseOffer : Value :=
  .map [(.text "s3-bucket-name", .text "\t broker "),
    (.text "bucket_region", .bytes (Utf8.encode " us-east-1".toList)), (.text "color", .int 3),
    (.text "file-expiration", .text "1_0.5e0"), (.text "update_interval", .bool true),
    (.text "credentials-type", .text " Access_KEY\n"), (.text "access_key_id", .text " id "),
    (.text "credentials-secret-access-key", .bytes (Utf8.encode "key".toList)),
    (.text "s3-path-style-access", .int 0), (.text "cleanup-expired", .text "YES"),
    (.text "credentials-profile", .null)]

/-- Names of even length are exchanged for the others, and of the fields without a value only the
profile is offered. -/
def mixedRendering : Rendering where
  renames name := name.length % 2 == 0
  omits name := name != "credentials-profile"

/-- What is written loosely is accepted, and accepted again when written otherwise. -/
theorem ofValue_rendered_loose :
    ∃ s, ofValue looseOffer = .ok s ∧ s.bucket = "broker" ∧ s.pathStyle = some false ∧
      (s.rendered mixedRendering).length = 16 ∧
      ofValue (.map (s.rendered mixedRendering).reverse) = .ok s := by
  have haccepted : (ofValue looseOffer).toOption.map
      (fun s => (s.bucket, s.pathStyle, (s.rendered mixedRendering).length)) =
        some ("broker", some false, 16) := by
    decide +kernel
  obtain ⟨s, hs, hparts⟩ := Option.map_eq_some_iff.1 haccepted
  obtain ⟨hbucket, hrest⟩ := Prod.mk.inj hparts
  obtain ⟨hpathStyle, hlength⟩ := Prod.mk.inj hrest
  have h := toOption_eq_some_iff.1 hs
  exact ⟨s, h, hbucket, hpathStyle, hlength,
    ofValue_rendered h mixedRendering (List.reverse_perm _)⟩

end RollCall.Settings
