import RollCall.Proofs.Presence.RoundTrip

/-!
# What a document offers, and what is said of it

A record is read from any JSON object, whatever else it holds. Of each of the five fields only the
last value of its name counts, and each field is checked on its own: if all of them pass, they make
the record, and otherwise every one that does not pass is named, in the order of the fields. Members
of other names, and the order of the members, do not matter.

Texts are sequences of Unicode characters, so no name and no value holds half of a surrogate pair.

## Main definitions

* `Json.LastValue`: the value of a name in an object.
* `Presence.Field`: the five fields, with what passes the check of each (`Field.Accepts`) and what
  is said of a value that does not (`Field.Rejects`).
* `Presence.Diagnosis`: what is said of some members, field by field.
* `Presence.Spells`: bytes that are the text of an object.

## Main results

* `ofMembers_eq_ok_iff`: which members make which record.
* `diagnosis_refusals`: the refusals are the diagnosis.
* `decode_diagnosis`: the law for bytes.
-/

namespace RollCall

/-! ### The last value of a name -/

namespace Json

variable {name : String} {members : List (String × Json)} {v : Json}

/-- A value is the last one of its name among some members. -/
def LastValue (name : String) (members : List (String × Json)) (v : Json) : Prop :=
  ∃ before after, members = before ++ (name, v) :: after ∧ ∀ m ∈ after, m.1 ≠ name

/-- The value that is looked up is the last one. -/
theorem lookup?_eq_some_iff : lookup? name members = some v ↔ LastValue name members v := by
  rw [lookup?, Option.map_eq_some_iff]
  constructor
  · rintro ⟨⟨name', v'⟩, hfind, rfl⟩
    obtain ⟨hname, after, before, hmembers, hafter⟩ := List.find?_eq_some_iff_append.1 hfind
    obtain rfl : name' = name := beq_iff_eq.1 hname
    refine ⟨before.reverse, after.reverse, ?_, fun m hm => ?_⟩
    · rw [← List.reverse_reverse members, hmembers]
      simp
    · simpa using hafter m (List.mem_reverse.1 hm)
  · rintro ⟨before, after, rfl, hafter⟩
    refine ⟨(name, v), List.find?_eq_some_iff_append.2 ?_, rfl⟩
    refine ⟨beq_self_eq_true name, after.reverse, before.reverse, by simp, fun m hm => ?_⟩
    simpa using hafter m (List.mem_reverse.1 hm)

/-- Nothing is looked up where no member has the name. -/
theorem lookup?_eq_none_iff : lookup? name members = none ↔ ∀ m ∈ members, m.1 ≠ name := by
  simp [lookup?]

/-- A name that no member has has no last value. -/
theorem not_lastValue (h : ∀ m ∈ members, m.1 ≠ name) : ¬ LastValue name members v := by
  rw [← lookup?_eq_some_iff, lookup?_eq_none_iff.2 h]
  exact nofun

/-- There is at most one last value. -/
theorem LastValue.unique {w : Json} (hv : LastValue name members v)
    (hw : LastValue name members w) : v = w :=
  Option.some.inj ((lookup?_eq_some_iff.2 hv).symm.trans (lookup?_eq_some_iff.2 hw))

/-- The members of an object nest no deeper than the deepest of them. -/
theorem membersNesting_le {k : ℕ} (h : ∀ m ∈ members, m.2.nesting ≤ k) :
    membersNesting members ≤ k := by
  induction members with
  | nil => exact Nat.zero_le k
  | cons m ms ih =>
    rw [List.forall_mem_cons] at h
    exact Nat.max_le.2 ⟨h.1, ih h.2⟩

end Json

namespace Presence

/-! ### The fields -/

/-- A field of a record. -/
inductive Field
  | cluster
  | node
  | host
  | port
  | expires
  deriving DecidableEq, Repr

namespace Field

/-- The fields in order. -/
def all : List Field :=
  [.cluster, .node, .host, .port, .expires]

/-- The name of a field in a document. -/
def name : Field → String
  | .cluster => "cluster_id"
  | .node => "node_id"
  | .host => "host"
  | .port => "port"
  | .expires => "expiration_epoch_millis"

/-- The value of a field of a record. -/
def of (r : Presence) : Field → Json
  | .cluster => .text r.cluster
  | .node => .text r.node
  | .host => .text r.host
  | .port => .int r.port
  | .expires => .int r.expires

/-- A value passes the check of a field. -/
def Accepts : Field → Json → Prop
  | .cluster, .text s => IsName s
  | .node, .text s => IsName s
  | .host, .text s => IsHost s
  | .port, .int n => 1 ≤ n ∧ n ≤ maxPort
  | .expires, .int n => 0 < n
  | _, _ => False

/-- The fields that hold texts. -/
def HoldsText (f : Field) : Prop :=
  f = .cluster ∨ f = .node ∨ f = .host

/-- The fields that hold integers. -/
def HoldsInteger (f : Field) : Prop :=
  f = .port ∨ f = .expires

/-- The problem that a field has with a value. -/
inductive Rejects : Field → Json → Problem → Prop
  | notText {f : Field} {v : Json} (hf : f.HoldsText) (hv : ∀ s, v ≠ .text s) :
      Rejects f v .notText
  | emptyText {f : Field} (hf : f.HoldsText) : Rejects f (.text "") .emptyText
  | hasSlash {f : Field} {s : String} (hf : f = .cluster ∨ f = .node) (hs : '/' ∈ s.toList) :
      Rejects f (.text s) .hasSlash
  | blank {s : String} (hne : s ≠ "") (hs : Text.isBlankText s = true) :
      Rejects .host (.text s) .blank
  | notInteger {f : Field} {v : Json} (hf : f.HoldsInteger) (hv : ∀ n, v ≠ .int n) :
      Rejects f v .notInteger
  | belowOne {n : Int} (hn : n < 1) : Rejects .port (.int n) .belowOne
  | aboveMaxPort {n : Int} (hn : maxPort < n) : Rejects .port (.int n) .aboveMaxPort
  | notPositive {n : Int} (hn : n ≤ 0) : Rejects .expires (.int n) .notPositive

/-- The last value of a field is there and passes its check. -/
def Passes (members : List (String × Json)) (f : Field) : Prop :=
  ∃ v, Json.LastValue f.name members v ∧ f.Accepts v

/-- A field has a problem: it is missing, or has one with its last value. -/
inductive Refused (members : List (String × Json)) (f : Field) : Problem → Prop
  | missing (h : ∀ m ∈ members, m.1 ≠ f.name) : Refused members f .missing
  | rejected {v : Json} {p : Problem} (hlast : Json.LastValue f.name members v)
      (h : f.Rejects v p) : Refused members f p

end Field

/-- What is said of some members, field by field: nothing of a field that passes, and one problem
of a field that does not. -/
inductive Diagnosis (members : List (String × Json)) : List Field → List Reason → Prop
  | nil : Diagnosis members [] []
  | passes {f : Field} {fs : List Field} {reasons : List Reason} (h : f.Passes members)
      (rest : Diagnosis members fs reasons) : Diagnosis members (f :: fs) reasons
  | refused {f : Field} {p : Problem} {fs : List Field} {reasons : List Reason}
      (h : f.Refused members p) (rest : Diagnosis members fs reasons) :
      Diagnosis members (f :: fs) (⟨f.name, p⟩ :: reasons)

/-! ### Values and problems -/

/-- A record is valid exactly if each of its fields passes. -/
theorem valid_iff_accepts {r : Presence} : r.Valid ↔ ∀ f : Field, f.Accepts (f.of r) := by
  constructor
  · intro h f
    cases f with
    | cluster => exact h.cluster
    | node => exact h.node
    | host => exact h.host
    | port => exact h.port
    | expires => exact h.expires
  · exact fun h => ⟨h .cluster, h .node, h .host, h .port, h .expires⟩

/-- What passes the check of a field that holds a text is one. -/
theorem Field.Accepts.exists_text {f : Field} {v : Json} (h : f.Accepts v) (hf : f.HoldsText) :
    ∃ s, v = .text s := by
  cases v with
  | text s => exact ⟨s, rfl⟩
  | _ => rcases hf with rfl | rfl | rfl <;> exact h.elim

/-- What passes the check of a field that holds an integer is one. -/
theorem Field.Accepts.exists_int {f : Field} {v : Json} (h : f.Accepts v)
    (hf : f.HoldsInteger) : ∃ n, v = .int n := by
  cases v with
  | int n => exact ⟨n, rfl⟩
  | _ => rcases hf with rfl | rfl <;> exact h.elim

/-- A value that a field rejects does not pass. -/
theorem Field.Rejects.not_accepts {f : Field} {v : Json} {p : Problem} (h : f.Rejects v p) :
    ¬ f.Accepts v := by
  cases h with
  | notText hf hv =>
    intro h
    obtain ⟨s, rfl⟩ := h.exists_text hf
    exact hv s rfl
  | emptyText hf =>
    rcases hf with rfl | rfl | rfl
    · exact fun h => h.1 rfl
    · exact fun h => h.1 rfl
    · exact Bool.noConfusion
  | hasSlash hf hs => rcases hf with rfl | rfl <;> exact fun h => h.2 hs
  | blank _ hs => exact fun h => Bool.noConfusion (h.symm.trans hs)
  | notInteger hf hv =>
    intro h
    obtain ⟨n, rfl⟩ := h.exists_int hf
    exact hv n rfl
  | belowOne hn => exact fun h => Int.not_le.2 hn h.1
  | aboveMaxPort hn => exact fun h => Int.not_le.2 hn h.2
  | notPositive hn => exact Int.not_lt.2 hn

/-- A field that has a problem does not pass. -/
theorem Field.Refused.not_passes {members : List (String × Json)} {f : Field} {p : Problem}
    (h : f.Refused members p) : ¬ f.Passes members := by
  rintro ⟨v, hlast, hv⟩
  cases h with
  | missing hnone => exact Json.not_lastValue hnone hlast
  | rejected hlast' hrejects =>
    obtain rfl := hlast.unique hlast'
    exact hrejects.not_accepts hv

/-- A field has at most one problem with a value. -/
theorem Field.Rejects.unique {f : Field} {v : Json} {p q : Problem} (hp : f.Rejects v p)
    (hq : f.Rejects v q) : p = q := by
  cases hp <;> cases hq <;> grind [maxPort, Field.HoldsText, Field.HoldsInteger]

/-- A field has at most one problem. -/
theorem Field.Refused.unique {members : List (String × Json)} {f : Field} {p q : Problem}
    (hp : f.Refused members p) (hq : f.Refused members q) : p = q := by
  cases hp with
  | missing h =>
    cases hq with
    | missing => rfl
    | rejected hlast _ => exact absurd hlast (Json.not_lastValue h)
  | rejected hlast h =>
    cases hq with
    | missing h' => exact absurd hlast (Json.not_lastValue h')
    | rejected hlast' h' =>
      obtain rfl := hlast.unique hlast'
      exact h.unique h'

/-- **There is one diagnosis**: the last values of the fields decide what is said. -/
theorem Diagnosis.unique {members : List (String × Json)} {fs : List Field}
    {reasons reasons' : List Reason} (h : Diagnosis members fs reasons)
    (h' : Diagnosis members fs reasons') : reasons = reasons' := by
  induction h generalizing reasons' with
  | nil =>
    cases h'
    rfl
  | passes hf _ ih =>
    cases h' with
    | passes _ rest' => exact ih rest'
    | refused hf' _ => exact absurd hf hf'.not_passes
  | refused hf _ ih =>
    cases h' with
    | passes hf' _ => exact absurd hf' hf.not_passes
    | refused hf' rest' => rw [hf.unique hf', ih rest']

/-! ### Checks -/

section

variable {f : Field} {v : Json}

/-- A field that holds a text has a problem with what is no text or an empty one. -/
theorem exists_toText_eq_error (hf : f.HoldsText) (h : ∀ s, v = .text s → s = "") :
    ∃ p, f.Rejects v p ∧ (Offer.ofJson (some v)).toText = .error p := by
  cases v with
  | text s =>
    obtain rfl := h s rfl
    exact ⟨.emptyText, .emptyText hf, rfl⟩
  | _ => exact ⟨.notText, .notText hf (by simp), rfl⟩

/-- The check of a name has a problem with what does not pass. -/
theorem exists_toName_eq_error (hf : f = .cluster ∨ f = .node) (h : ¬ f.Accepts v) :
    ∃ p, f.Rejects v p ∧ (Offer.ofJson (some v)).toName = .error p := by
  by_cases htext : ∃ s, v = .text s ∧ s ≠ ""
  · obtain ⟨s, rfl, hne⟩ := htext
    have htake : (Offer.ofJson (some (.text s))).toText = .ok s :=
      Offer.toText_eq_ok_iff.2 ⟨rfl, hne⟩
    have hslash : '/' ∈ s.toList := by
      by_contra hslash
      rcases hf with rfl | rfl <;> exact h ⟨hne, hslash⟩
    refine ⟨.hasSlash, .hasSlash hf hslash, ?_⟩
    rw [Offer.toName, htake]
    exact if_pos (by simpa using hslash)
  · obtain ⟨p, hp, hcheck⟩ := exists_toText_eq_error (hf.imp_right .inl)
      fun s hs => not_not.1 fun hne => htext ⟨s, hs, hne⟩
    exact ⟨p, hp, by rw [Offer.toName, hcheck]⟩

/-- The check of a host has a problem with what does not pass. -/
theorem exists_toHost_eq_error (h : ¬ Field.host.Accepts v) :
    ∃ p, Field.Rejects .host v p ∧ (Offer.ofJson (some v)).toHost = .error p := by
  by_cases htext : ∃ s, v = .text s ∧ s ≠ ""
  · obtain ⟨s, rfl, hne⟩ := htext
    have htake : (Offer.ofJson (some (.text s))).toText = .ok s :=
      Offer.toText_eq_ok_iff.2 ⟨rfl, hne⟩
    have hblank : Text.isBlankText s = true := by simpa [Field.Accepts, IsHost] using h
    refine ⟨.blank, .blank hne hblank, ?_⟩
    rw [Offer.toHost, htake]
    exact if_pos hblank
  · obtain ⟨p, hp, hcheck⟩ := exists_toText_eq_error (f := .host) (.inr (.inr rfl))
      fun s hs => not_not.1 fun hne => htext ⟨s, hs, hne⟩
    exact ⟨p, hp, by rw [Offer.toHost, hcheck]⟩

/-- The check of a TCP port has a problem with what does not pass. -/
theorem exists_toPort_eq_error (h : ¬ Field.port.Accepts v) :
    ∃ p, Field.Rejects .port v p ∧ (Offer.ofJson (some v)).toPort = .error p := by
  cases v with
  | int n =>
    rw [Offer.ofJson, Offer.toPort, Offer.toInteger]
    rw [Field.Accepts] at h
    by_cases hlow : n < 1
    · exact ⟨.belowOne, .belowOne hlow, if_pos hlow⟩
    · have hhigh : maxPort < n := by omega
      exact ⟨.aboveMaxPort, .aboveMaxPort hhigh, (if_neg hlow).trans (if_pos hhigh)⟩
  | _ => exact ⟨.notInteger, .notInteger (.inl rfl) (by simp), rfl⟩

/-- The check of an expiry has a problem with what does not pass. -/
theorem exists_toExpiry_eq_error (h : ¬ Field.expires.Accepts v) :
    ∃ p, Field.Rejects .expires v p ∧ (Offer.ofJson (some v)).toExpiry = .error p := by
  cases v with
  | int n =>
    have hn : n ≤ 0 := Int.not_lt.1 h
    exact ⟨.notPositive, .notPositive hn, if_pos hn⟩
  | _ => exact ⟨.notInteger, .notInteger (.inr rfl) (by simp), rfl⟩

end

/-! ### Refusals -/

/-- What the check of a field says of an offer. -/
def Field.refusal : Field → Offer → List Reason
  | .cluster, o => Presence.refusal fieldNames.cluster o.toName
  | .node, o => Presence.refusal fieldNames.node o.toName
  | .host, o => Presence.refusal fieldNames.host o.toHost
  | .port, o => Presence.refusal fieldNames.port o.toPort
  | .expires, o => Presence.refusal fieldNames.expires o.toExpiry

/-- The refusals of a document are those of its fields, in order. -/
theorem refusals_ofMembers (find : String → Offer) :
    (Draft.ofMembers find).refusals = Field.all.flatMap fun f => f.refusal (find f.name) := by
  simp [Draft.refusals, Draft.ofMembers, Field.all, Field.refusal, Field.name, fieldNames]

/-- Nothing is said of a value that passes. -/
theorem Field.refusal_of_accepts {f : Field} {v : Json} (h : f.Accepts v) :
    f.refusal (.ofJson (some v)) = [] := by
  cases f with
  | cluster =>
    obtain ⟨s, rfl⟩ := h.exists_text (.inl rfl)
    rw [Field.refusal, Offer.ofJson, Offer.toName_eq_ok_iff.2 ⟨rfl, h⟩, Presence.refusal]
  | node =>
    obtain ⟨s, rfl⟩ := h.exists_text (.inr (.inl rfl))
    rw [Field.refusal, Offer.ofJson, Offer.toName_eq_ok_iff.2 ⟨rfl, h⟩, Presence.refusal]
  | host =>
    obtain ⟨s, rfl⟩ := h.exists_text (.inr (.inr rfl))
    rw [Field.refusal, Offer.ofJson, Offer.toHost_eq_ok_iff.2 ⟨rfl, h⟩, Presence.refusal]
  | port =>
    obtain ⟨n, rfl⟩ := h.exists_int (.inl rfl)
    rw [Field.refusal, Offer.ofJson, Offer.toPort_eq_ok_iff.2 ⟨rfl, h⟩, Presence.refusal]
  | expires =>
    obtain ⟨n, rfl⟩ := h.exists_int (.inr rfl)
    rw [Field.refusal, Offer.ofJson, Offer.toExpiry_eq_ok_iff.2 ⟨rfl, h⟩, Presence.refusal]

/-- One thing is said of a value that does not pass. -/
theorem Field.exists_rejects {f : Field} {v : Json} (h : ¬ f.Accepts v) :
    ∃ p, f.Rejects v p ∧ f.refusal (.ofJson (some v)) = [⟨f.name, p⟩] := by
  cases f with
  | cluster =>
    obtain ⟨p, hp, hcheck⟩ := exists_toName_eq_error (.inl rfl) h
    exact ⟨p, hp, by rw [Field.refusal, hcheck]; rfl⟩
  | node =>
    obtain ⟨p, hp, hcheck⟩ := exists_toName_eq_error (.inr rfl) h
    exact ⟨p, hp, by rw [Field.refusal, hcheck]; rfl⟩
  | host =>
    obtain ⟨p, hp, hcheck⟩ := exists_toHost_eq_error h
    exact ⟨p, hp, by rw [Field.refusal, hcheck]; rfl⟩
  | port =>
    obtain ⟨p, hp, hcheck⟩ := exists_toPort_eq_error h
    exact ⟨p, hp, by rw [Field.refusal, hcheck]; rfl⟩
  | expires =>
    obtain ⟨p, hp, hcheck⟩ := exists_toExpiry_eq_error h
    exact ⟨p, hp, by rw [Field.refusal, hcheck]; rfl⟩

/-- What some members offer for a name. -/
def offered (members : List (String × Json)) (name : String) : Offer :=
  .ofJson (Json.lookup? name members)

section

variable {members : List (String × Json)}

/-- **The refusals are the diagnosis**, whatever the fields. -/
theorem diagnosis_refusals (fs : List Field) :
    Diagnosis members fs (fs.flatMap fun f => f.refusal (offered members f.name)) := by
  induction fs with
  | nil => exact .nil
  | cons f fs ih =>
    rw [List.flatMap_cons, offered]
    cases hlast : Json.lookup? f.name members with
    | none =>
      have hmissing : f.refusal (.ofJson none) = [⟨f.name, .missing⟩] := by cases f <;> rfl
      rw [hmissing]
      exact .refused (.missing (Json.lookup?_eq_none_iff.1 hlast)) ih
    | some v =>
      have hv : Json.LastValue f.name members v := Json.lookup?_eq_some_iff.1 hlast
      by_cases hpasses : f.Accepts v
      · rw [Field.refusal_of_accepts hpasses]
        exact .passes ⟨v, hv, hpasses⟩ ih
      · obtain ⟨p, hp, hrefusal⟩ := Field.exists_rejects hpasses
        rw [hrefusal]
        exact .refused (.rejected hv hp) ih

/-- A text is offered by a text. -/
theorem ofJson_eq_text {o : Option Json} {s : String} (h : Offer.ofJson o = .text s) :
    o = some (.text s) := by
  unfold Offer.ofJson at h
  split at h
  · cases h
  · cases h
    rfl
  · cases h
  · cases h

/-- **Which members make which record**: those whose last values are the fields of a valid one. -/
theorem ofMembers_eq_ok_iff {r : Presence} :
    ofMembers members = .ok r ↔
      (∀ f : Field, Json.LastValue f.name members (f.of r)) ∧ r.Valid := by
  rw [ofMembers, ofDraft_eq_ok_iff]
  refine and_congr_left fun _ => ⟨fun h f => Json.lookup?_eq_some_iff.1 ?_, fun h => ?_⟩
  · cases f with
    | cluster => exact ofJson_eq_text (congrArg Draft.cluster h)
    | node => exact ofJson_eq_text (congrArg Draft.node h)
    | host => exact ofJson_eq_text (congrArg Draft.host h)
    | port => exact ofJson_eq_integer (congrArg Draft.port h)
    | expires => exact ofJson_eq_integer (congrArg Draft.expires h)
  · have hoffer (f : Field) :
        Offer.ofJson (Json.lookup? f.name members) = .ofJson (some (f.of r)) := by
      rw [Json.lookup?_eq_some_iff.2 (h f)]
    exact (Draft.mk.injEq ..).mpr ⟨hoffer .cluster, hoffer .node, hoffer .host, hoffer .port,
      hoffer .expires⟩

/-- Members whose fields all pass make a record. -/
theorem exists_record (h : ∀ f : Field, f.Passes members) :
    ∃ r : Presence, (∀ f : Field, Json.LastValue f.name members (f.of r)) ∧ r.Valid := by
  have htext {f : Field} (hf : f.HoldsText) :
      ∃ s, Json.LastValue f.name members (.text s) ∧ f.Accepts (.text s) := by
    obtain ⟨v, hlast, hv⟩ := h f
    obtain ⟨s, rfl⟩ := hv.exists_text hf
    exact ⟨s, hlast, hv⟩
  have hint {f : Field} (hf : f.HoldsInteger) :
      ∃ n, Json.LastValue f.name members (.int n) ∧ f.Accepts (.int n) := by
    obtain ⟨v, hlast, hv⟩ := h f
    obtain ⟨n, rfl⟩ := hv.exists_int hf
    exact ⟨n, hlast, hv⟩
  obtain ⟨cluster, hcluster⟩ := htext (.inl rfl)
  obtain ⟨node, hnode⟩ := htext (.inr (.inl rfl))
  obtain ⟨host, hhost⟩ := htext (.inr (.inr rfl))
  obtain ⟨port, hport⟩ := hint (.inl rfl)
  obtain ⟨expires, hexpires⟩ := hint (.inr rfl)
  refine ⟨⟨cluster, node, host, port, expires⟩, fun f => ?_,
    hcluster.2, hnode.2, hhost.2, hport.2, hexpires.2⟩
  cases f with
  | cluster => exact hcluster.1
  | node => exact hnode.1
  | host => exact hhost.1
  | port => exact hport.1
  | expires => exact hexpires.1

/-- The fields of members that make a record all pass. -/
theorem passes_of_ofMembers {r : Presence} (h : ofMembers members = .ok r) (f : Field) :
    f.Passes members := by
  obtain ⟨hlast, hvalid⟩ := ofMembers_eq_ok_iff.1 h
  exact ⟨f.of r, hlast f, valid_iff_accepts.1 hvalid f⟩

/-- Members that make no record are refused with their diagnosis. -/
theorem diagnosis_of_ofMembers {reasons : List Reason} (h : ofMembers members = .error reasons) :
    Diagnosis members Field.all reasons := by
  rw [ofMembers, ofDraft] at h
  split at h
  · cases h
  · cases h
    rw [refusals_ofMembers]
    exact diagnosis_refusals Field.all

/-- Only the last values of the fields matter. -/
theorem ofMembers_congr {members' : List (String × Json)}
    (h : ∀ (f : Field) v,
      Json.LastValue f.name members' v ↔ Json.LastValue f.name members v) :
    ofMembers members' = ofMembers members := by
  have hoffer (f : Field) : offered members' f.name = offered members f.name := by
    rw [offered, offered]
    congr 1
    ext v
    rw [Json.lookup?_eq_some_iff, Json.lookup?_eq_some_iff, h]
  exact congrArg ofDraft ((Draft.mk.injEq ..).mpr
    ⟨hoffer .cluster, hoffer .node, hoffer .host, hoffer .port, hoffer .expires⟩)

end

/-! ### Bytes -/

/-- Bytes are the text of an object with these members: values without reals and with integers
short enough to be read, nested at most 150 deep, and nothing but spaces behind the separators. -/
structure Spells (bytes : List UInt8) (members : List (String × Json)) : Prop where
  plain : ∀ m ∈ members, m.2.IsPlain
  nesting : ∀ m ∈ members, m.2.nesting ≤ 150
  text : ∃ sp : Json.Spacing, sp.IsReadable ∧ sp.IsPrinting ∧
    bytes = Utf8.encode ((Json.object members).render sp)

/-- The text of an object is not blank: it begins with a brace. -/
theorem not_blank_object (sp : Json.Spacing) (members : List (String × Json)) :
    (Utf8.encode ((Json.object members).render sp)).all isAsciiSpace = false :=
  rfl

/-- **What bytes spell is what is read.** -/
theorem decode_of_spells {bytes : List UInt8} {members : List (String × Json)}
    (h : Spells bytes members) (key : Option String) :
    decode bytes key = (ofMembers members).mapError fun reasons =>
      .undecodable (", ".intercalate (reasons.map Reason.message)) key := by
  obtain ⟨sp, hreadable, hprinting, rfl⟩ := h.text
  have hplain : (Json.object members).IsPlain := Json.membersHold_iff.2 h.plain
  have hdepth : (Json.object members).nesting ≤ Json.maxDepth := by
    have := Json.membersNesting_le h.nesting
    rw [Json.nesting, Json.maxDepth]
    omega
  have hread := Json.read?_render hreadable hplain hdepth [] (by simp)
  rw [List.append_nil] at hread
  rw [decode, not_blank_object, if_neg (by decide),
    Utf8.decode_encode fun c hc => Json.printing_of_mem_render hprinting hplain hc]
  simp only [ofText, hread]
  cases ofMembers members <;> rfl

/-- Members as a later version may write them: fields in another order, values of other versions,
and two fields offered twice. -/
def laterMembers : List (String × Json) :=
  [("cluster_id", .int 1), ("zone", .object [("a", .array [.null, .bool true])]),
    ("expiration_epoch_millis", .int 5), ("host", .text "h"), ("format_version", .text "2"),
    ("port", .int 70000), ("node_id", .text "\"😀"), ("cluster_id", .text "c"), ("port", .int 80)]

/-- Members of which none makes a field: two are missing, and the last host is blank. -/
def brokenMembers : List (String × Json) :=
  [("port", .int 70000), ("host", .text "h"), ("node_id", .text "a/b"), ("host", .text " ")]

end Presence

end RollCall
