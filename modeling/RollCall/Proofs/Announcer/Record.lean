import RollCall.Proofs.Announcer.Writing
import RollCall.Proofs.Presence.RoundTrip

/-!
# Announcers and the records that they write

An announcer can be made if its durations are finite, and what it is made of decides its record.
Whether an announcer can make its record depends on the moment in one point only: the expiry must be
positive, and short enough to be written down. What is written is read back as the record of the
announcer's cluster, node, host and port.

## Main results

* `create_eq_ok_iff`: what an announcer is made of.
* `record_eq_iff`: what is in the record of a moment.
* `body_eq_ok_of_body`: an announcer that could make its record once can make it at any moment.
* `decode_of_body`: what is written is read back.
-/

namespace RollCall

/-- A value offers a text exactly if it is one. -/
theorem Presence.Offer.ofValue_eq_text_iff {v : Value} {s : String} :
    ofValue (some v) = .text s ↔ v = .text s := by
  cases v <;> simp [ofValue]

/-- A value offers an integer exactly if it is one. -/
theorem Presence.Offer.ofValue_eq_integer_iff {v : Value} {n : Int} :
    ofValue (some v) = .integer n ↔ v = .int n := by
  cases v <;> simp [ofValue]

namespace Announcer

variable {a : Announcer} {r : Presence} {data : List UInt8} {t now : Int}

/-- What an announcer is made of that has not begun. -/
theorem create_eq_ok_iff {gateway : Nat} {settings : Settings} {node host port : Value} :
    create gateway settings node host port = .ok a ↔
      ∃ ttl interval, Duration.millis settings.expiration = .ok ttl ∧
        Duration.millis settings.interval = .ok interval ∧
        a = { gateway, settings, node, host, port, ttl, interval
              key := ObjectKey.node settings.keyPrefix settings.cluster node.display
              isAnnouncing := false
              isStopRequested := false
              hasLoop := false
              isWriting := false
              last := none } := by
  rw [create]
  cases Duration.millis settings.expiration with
  | error f => exact iff_of_false nofun nofun
  | ok ttl =>
    cases Duration.millis settings.interval with
    | error f => exact iff_of_false nofun nofun
    | ok interval =>
      constructor
      · intro h
        cases h
        exact ⟨ttl, interval, rfl, rfl, rfl⟩
      · rintro ⟨_, _, ⟨⟩, ⟨⟩, rfl⟩
        rfl

/-- It neither announces nor writes, and has no loop. -/
theorem create_eq_ok {gateway : Nat} {settings : Settings} {node host port : Value}
    (h : create gateway settings node host port = .ok a) :
    a.gateway = gateway ∧ a.isAnnouncing = false ∧ a.isWriting = false ∧ a.hasLoop = false := by
  obtain ⟨ttl, interval, -, -, rfl⟩ := create_eq_ok_iff.1 h
  exact ⟨rfl, rfl, rfl, rfl⟩

/-- The key of an announcer. -/
theorem key_of_create {gateway : Nat} {settings : Settings} {node host port : Value}
    (h : create gateway settings node host port = .ok a) :
    a.key = ObjectKey.node settings.keyPrefix settings.cluster node.display := by
  obtain ⟨ttl, interval, -, -, rfl⟩ := create_eq_ok_iff.1 h
  rfl

/-- A record is that of an announcer at some moment. -/
structure IsRecord (a : Announcer) (now : Int) (r : Presence) : Prop where
  cluster : r.cluster = a.settings.cluster
  node : .text r.node = a.node
  host : .text r.host = a.host
  port : .int r.port = a.port
  expires : r.expires = now + a.ttl

/-- **What is in the record of a moment.** -/
theorem record_eq_iff : a.record now = .ok r ↔ a.IsRecord now r ∧ r.Valid := by
  rw [record_eq_ok_iff]
  refine and_congr_left fun _ => ?_
  rw [draft, Presence.draft, Presence.Draft.mk.injEq, Presence.Offer.ofValue_eq_text_iff,
    Presence.Offer.ofValue_eq_text_iff, Presence.Offer.ofValue_eq_integer_iff,
    Presence.Offer.text.injEq, Presence.Offer.integer.injEq]
  constructor
  · rintro ⟨hcluster, hnode, hhost, hport, hexpires⟩
    exact ⟨hcluster.symm, hnode.symm, hhost.symm, hport.symm, hexpires.symm⟩
  · rintro ⟨hcluster, hnode, hhost, hport, hexpires⟩
    exact ⟨hcluster.symm, hnode.symm, hhost.symm, hport.symm, hexpires.symm⟩

/-- A record whose expiry is positive and short can be written. -/
theorem body_eq_ok_of_record (hrecord : a.record now = .ok r)
    (hshort : now + a.ttl < 10 ^ Json.maxDigits) : ∃ data, a.body now = .ok (r, data) := by
  obtain ⟨hr, hvalid⟩ := record_eq_iff.1 hrecord
  have hdigits := Presence.natAbs_lt_pow hvalid.expires (hr.expires ▸ hshort)
  obtain ⟨data, hencode, -⟩ := Presence.exists_encode_of_short hvalid hdigits
  exact ⟨data, body_eq_ok_iff.2 ⟨hrecord, hencode⟩⟩

/-- **An announcer that could make its record once** can make it whenever the expiry is positive and
short. -/
theorem body_eq_ok_of_body (hbody : a.body t = .ok (r, data)) (hpos : 0 < now + a.ttl)
    (hshort : now + a.ttl < 10 ^ Json.maxDigits) :
    ∃ data, a.body now = .ok ({ r with expires := now + a.ttl }, data) := by
  obtain ⟨hr, hvalid⟩ := record_eq_iff.1 (body_eq_ok_iff.1 hbody).1
  have hrecord : a.record now = .ok { r with expires := now + a.ttl } :=
    record_eq_iff.2 ⟨⟨hr.cluster, hr.node, hr.host, hr.port, rfl⟩,
      hvalid.cluster, hvalid.node, hvalid.host, hvalid.port, hpos⟩
  exact body_eq_ok_of_record hrecord hshort

/-- **What is written is read back**, whatever the key. -/
theorem decode_of_body (hbody : a.body t = .ok (r, data)) (key : Option String) :
    a.IsRecord t r ∧ Presence.decode data key = .ok r := by
  obtain ⟨hrecord, hencode⟩ := body_eq_ok_iff.1 hbody
  obtain ⟨hr, hvalid⟩ := record_eq_iff.1 hrecord
  exact ⟨hr, Presence.decode_of_encode hvalid hencode key⟩

end Announcer

end RollCall
