import RollCall.Address
import RollCall.Json.Basic

/-!
# Presence records

A node that can be reached writes a *presence record*: its cluster, its own name in it, the host
and TCP port at which to reach it, and the moment from which the record no longer counts. A record
is built from five offered values, each of which must already have the right type; `ofDraft` lists
every refused field in order.

## Main definitions

* `Presence`: the type, and `Presence.Valid`, what holds of every record that is built.
* `Presence.Draft`: the offered values.
* `Presence.ofDraft`: a record from offered values.
* `Presence.isExpired`: whether a record no longer counts.

## Main results

* `ofDraft_eq_ok_iff`: a draft becomes a record exactly if it offers the fields of a valid record.
-/

namespace RollCall

/-- What a node tells its peers about itself. -/
structure Presence where
  cluster : String
  node : String
  host : String
  port : Int
  expires : Int
  deriving DecidableEq, Repr

namespace Presence

/-- The address at which the node is reached. -/
def address (r : Presence) : Address := ⟨r.host, r.port⟩

/-- A record no longer counts from the moment at which it expires. -/
def isExpired (r : Presence) (now : Int) : Bool :=
  r.expires ≤ now

/-- A name of a cluster or a node: not empty, and without the separator of keys. -/
def IsName (s : String) : Prop :=
  s ≠ "" ∧ '/' ∉ s.toList

/-- A host: something other than blanks. -/
def IsHost (s : String) : Prop :=
  Text.isBlankText s = false

/-- The greatest TCP port. -/
def maxPort : Int := 65535

/-- What holds of every record that is built. -/
structure Valid (r : Presence) : Prop where
  cluster : IsName r.cluster
  node : IsName r.node
  host : IsHost r.host
  port : 1 ≤ r.port ∧ r.port ≤ maxPort
  expires : 0 < r.expires

instance (s : String) : Decidable (IsName s) :=
  inferInstanceAs (Decidable (_ ∧ _))

instance (s : String) : Decidable (IsHost s) :=
  inferInstanceAs (Decidable (_ = _))

instance (r : Presence) : Decidable r.Valid :=
  decidable_of_iff
    (IsName r.cluster ∧ IsName r.node ∧ IsHost r.host ∧ (1 ≤ r.port ∧ r.port ≤ maxPort) ∧
      0 < r.expires)
    ⟨fun ⟨a, b, c, d, e⟩ => ⟨a, b, c, d, e⟩,
      fun h => ⟨h.cluster, h.node, h.host, h.port, h.expires⟩⟩

/-! ### Offers -/

/-- What is offered for a field of a record: nothing, a text, an integer, or something else. -/
inductive Offer
  | missing
  | text (s : String)
  | integer (n : Int)
  | other
  deriving DecidableEq, Repr

/-- A JSON member as an offer. -/
def Offer.ofJson : Option Json → Offer
  | none => .missing
  | some (.text s) => .text s
  | some (.int n) => .integer n
  | some _ => .other

/-- A value as an offer. -/
def Offer.ofValue : Option Value → Offer
  | none => .missing
  | some (.text s) => .text s
  | some (.int n) => .integer n
  | some _ => .other

/-- What a text field takes of an offer. -/
def Offer.toText : Offer → Except Problem String
  | .missing => .error .missing
  | .text s => if s.isEmpty then .error .emptyText else .ok s
  | _ => .error .notText

/-- What an integer field takes of an offer. -/
def Offer.toInteger : Offer → Except Problem Int
  | .missing => .error .missing
  | .integer n => .ok n
  | _ => .error .notInteger

/-- What a name takes of an offer. -/
def Offer.toName (o : Offer) : Except Problem String :=
  match o.toText with
  | .ok s => if s.toList.contains '/' then .error .hasSlash else .ok s
  | .error p => .error p

/-- What a host takes of an offer. -/
def Offer.toHost (o : Offer) : Except Problem String :=
  match o.toText with
  | .ok s => if Text.isBlankText s then .error .blank else .ok s
  | .error p => .error p

/-- What a TCP port takes of an offer. -/
def Offer.toPort (o : Offer) : Except Problem Int :=
  match o.toInteger with
  | .ok n => if n < 1 then .error .belowOne else if maxPort < n then .error .aboveMaxPort else .ok n
  | .error p => .error p

/-- What an expiry takes of an offer. -/
def Offer.toExpiry (o : Offer) : Except Problem Int :=
  match o.toInteger with
  | .ok n => if n ≤ 0 then .error .notPositive else .ok n
  | .error p => .error p

/-! ### Building a record -/

/-- The values offered for a record. -/
structure Draft where
  cluster : Offer
  node : Offer
  host : Offer
  port : Offer
  expires : Offer
  deriving DecidableEq, Repr

/-- The names of the fields in a document, in the order in which refusals are listed. -/
structure FieldNames where
  cluster : String := "cluster_id"
  node : String := "node_id"
  host : String := "host"
  port : String := "port"
  expires : String := "expiration_epoch_millis"

/-- The names of the fields. -/
def fieldNames : FieldNames := {}

/-- The draft of a document's members, each found by its name. -/
def Draft.ofMembers (find : String → Offer) : Draft :=
  ⟨find fieldNames.cluster, find fieldNames.node, find fieldNames.host, find fieldNames.port,
    find fieldNames.expires⟩

/-- The reason for a refusal, if there is one. -/
def refusal {α : Type} (place : String) : Except Problem α → List Reason
  | .ok _ => []
  | .error p => [⟨place, p⟩]

/-- The reasons for which a draft is refused, in field order. -/
def Draft.refusals (d : Draft) : List Reason :=
  refusal fieldNames.cluster d.cluster.toName ++ refusal fieldNames.node d.node.toName ++
    refusal fieldNames.host d.host.toHost ++ refusal fieldNames.port d.port.toPort ++
    refusal fieldNames.expires d.expires.toExpiry

/-- The record of a draft, or the reasons for which it is refused. -/
def ofDraft (d : Draft) : Except (List Reason) Presence :=
  match d.cluster.toName, d.node.toName, d.host.toHost, d.port.toPort, d.expires.toExpiry with
  | .ok cluster, .ok node, .ok host, .ok port, .ok expires =>
    .ok ⟨cluster, node, host, port, expires⟩
  | _, _, _, _, _ => .error d.refusals

/-- The draft that offers the fields of a record. -/
def draft (r : Presence) : Draft :=
  ⟨.text r.cluster, .text r.node, .text r.host, .integer r.port, .integer r.expires⟩

/-! ### What is accepted -/

theorem Offer.toText_eq_ok_iff {o : Offer} {s : String} :
    o.toText = .ok s ↔ o = .text s ∧ s ≠ "" := by
  cases o with
  | text t =>
    simp only [Offer.toText]
    split
    · next h =>
      have : t = "" := by simpa using h
      simp only [reduceCtorEq, false_iff, Offer.text.injEq]
      rintro ⟨rfl, hs⟩
      exact hs this
    · next h =>
      have : t ≠ "" := by simpa using h
      constructor
      · intro hs
        cases hs
        exact ⟨rfl, this⟩
      · rintro ⟨hs, _⟩
        cases hs
        rfl
  | _ => simp [Offer.toText]

/-- A name is taken exactly from a text that is one. -/
theorem Offer.toName_eq_ok_iff {o : Offer} {s : String} :
    o.toName = .ok s ↔ o = .text s ∧ IsName s := by
  unfold Offer.toName IsName
  cases h : o.toText with
  | error p =>
    simp only [reduceCtorEq, false_iff]
    rintro ⟨rfl, hs, _⟩
    rw [Offer.toText_eq_ok_iff.2 ⟨rfl, hs⟩] at h
    cases h
  | ok t =>
    obtain ⟨rfl, ht⟩ := Offer.toText_eq_ok_iff.1 h
    simp only [List.contains_eq_mem, decide_eq_true_eq]
    split
    · next hm =>
      simp only [reduceCtorEq, false_iff]
      rintro ⟨hs, _, hn⟩
      cases hs
      exact hn hm
    · next hm =>
      constructor
      · intro hs
        cases hs
        exact ⟨rfl, ht, hm⟩
      · rintro ⟨hs, _⟩
        cases hs
        rfl

/-- A host is taken exactly from a text that is one. -/
theorem Offer.toHost_eq_ok_iff {o : Offer} {s : String} :
    o.toHost = .ok s ↔ o = .text s ∧ IsHost s := by
  unfold Offer.toHost IsHost
  have blank_empty : Text.isBlankText "" = true := rfl
  cases h : o.toText with
  | error p =>
    simp only [reduceCtorEq, false_iff]
    rintro ⟨rfl, hs⟩
    have hne : s ≠ "" := by
      rintro rfl
      rw [blank_empty] at hs
      cases hs
    rw [Offer.toText_eq_ok_iff.2 ⟨rfl, hne⟩] at h
    cases h
  | ok t =>
    obtain ⟨rfl, _⟩ := Offer.toText_eq_ok_iff.1 h
    dsimp only
    split
    · next hb =>
      simp only [reduceCtorEq, false_iff]
      rintro ⟨hs, hn⟩
      cases hs
      rw [hb] at hn
      cases hn
    · next hb =>
      constructor
      · intro hs
        cases hs
        exact ⟨rfl, by simpa using hb⟩
      · rintro ⟨hs, _⟩
        cases hs
        rfl

/-- A TCP port is taken exactly from an integer that is one. -/
theorem Offer.toPort_eq_ok_iff {o : Offer} {n : Int} :
    o.toPort = .ok n ↔ o = .integer n ∧ 1 ≤ n ∧ n ≤ maxPort := by
  cases o with
  | integer m =>
    simp only [Offer.toPort, Offer.toInteger]
    constructor
    · intro h
      split at h
      · cases h
      · split at h
        · cases h
        · cases h
          exact ⟨rfl, by omega, by omega⟩
    · rintro ⟨h, h₁, h₂⟩
      cases h
      rw [if_neg (by omega), if_neg (by omega)]
  | _ => simp [Offer.toPort, Offer.toInteger]

/-- An expiry is taken exactly from a positive integer. -/
theorem Offer.toExpiry_eq_ok_iff {o : Offer} {n : Int} :
    o.toExpiry = .ok n ↔ o = .integer n ∧ 0 < n := by
  cases o with
  | integer m =>
    simp only [Offer.toExpiry, Offer.toInteger]
    constructor
    · intro h
      split at h
      · cases h
      · cases h
        exact ⟨rfl, by omega⟩
    · rintro ⟨h, h₁⟩
      cases h
      rw [if_neg (by omega)]
  | _ => simp [Offer.toExpiry, Offer.toInteger]

/-- A draft becomes a record exactly if it offers the fields of that record and the record is
valid. -/
theorem ofDraft_eq_ok_iff {d : Draft} {r : Presence} :
    ofDraft d = .ok r ↔ d = r.draft ∧ r.Valid := by
  constructor
  · intro h
    unfold ofDraft at h
    split at h
    · next h₁ h₂ h₃ h₄ h₅ =>
      cases h
      obtain ⟨e₁, v₁⟩ := Offer.toName_eq_ok_iff.1 h₁
      obtain ⟨e₂, v₂⟩ := Offer.toName_eq_ok_iff.1 h₂
      obtain ⟨e₃, v₃⟩ := Offer.toHost_eq_ok_iff.1 h₃
      obtain ⟨e₄, v₄⟩ := Offer.toPort_eq_ok_iff.1 h₄
      obtain ⟨e₅, v₅⟩ := Offer.toExpiry_eq_ok_iff.1 h₅
      refine ⟨?_, v₁, v₂, v₃, v₄, v₅⟩
      cases d
      simp_all [draft]
    · cases h
  · rintro ⟨rfl, v⟩
    unfold ofDraft
    rw [show r.draft.cluster.toName = .ok r.cluster from Offer.toName_eq_ok_iff.2 ⟨rfl, v.cluster⟩,
      show r.draft.node.toName = .ok r.node from Offer.toName_eq_ok_iff.2 ⟨rfl, v.node⟩,
      show r.draft.host.toHost = .ok r.host from Offer.toHost_eq_ok_iff.2 ⟨rfl, v.host⟩,
      show r.draft.port.toPort = .ok r.port from Offer.toPort_eq_ok_iff.2 ⟨rfl, v.port⟩,
      show r.draft.expires.toExpiry = .ok r.expires from
        Offer.toExpiry_eq_ok_iff.2 ⟨rfl, v.expires⟩]

end Presence

end RollCall
