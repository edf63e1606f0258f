import RollCall.Proofs.Announcer.Record
import RollCall.Proofs.Duration
import RollCall.Proofs.Settings.Accepted

/-!
# Announcers for accepted settings

Settings are checked in seconds, announcers count in milliseconds. For accepted settings there is an
announcer unless the milliseconds of a record cannot be counted, and then its interval is no longer
than the time for which its records count. This may still be no time at all: a record counts when it
is written exactly if the settings let it count for a millisecond.

## Main results

* `create_of_accepted`: the announcer for accepted settings.
* `accepted_runs`: what accepted settings lead to, and for which durations they can be run.
-/

namespace RollCall

namespace Announcer

variable {s : Settings}

/-- **The announcer for accepted settings**: there is none if the time for which records count is too
long; else its interval is not the longer one. -/
theorem create_of_accepted (h : s.Accepted) (gateway : Nat) (node host port : Value) :
    (s.expiration.mul (.ofInt 1000) = .infinite false ∧
        create gateway s node host port = .error .infiniteDuration) ∨
      ∃ a, create gateway s node host port = .ok a ∧ 0 ≤ a.interval ∧ a.interval ≤ a.ttl ∧
        (1 ≤ a.ttl ↔ (Binary64.ofInt 1).le (s.expiration.mul (.ofInt 1000)) = true) := by
  obtain ⟨hinfinite, hmillis⟩ | ⟨m, e, -, httl⟩ := Duration.millis_cases h.expiration
  · refine .inl ⟨hinfinite, ?_⟩
    rw [create, hmillis]
  · have hshorter := Binary64.le_of_le_eq_false h.expiration h.interval h.longer
    obtain ⟨interval, hinterval, hpos, hle⟩ := Duration.millis_le_millis h.interval hshorter httl
    refine .inr ⟨_, create_eq_ok_iff.2 ⟨_, interval, httl, hinterval, rfl⟩, hpos, hle, ?_⟩
    exact Duration.one_le_millis_iff h.expiration httl

/-- The record of an announcer for accepted settings, at any moment after the beginning of time. -/
theorem record_of_accepted (h : s.Accepted) {gateway : Nat} {node host : String} {port : Int}
    (hnode : Presence.IsName node) (hhost : Presence.IsHost host)
    (hport : 1 ≤ port ∧ port ≤ Presence.maxPort) {a : Announcer}
    (hcreate : create gateway s (.text node) (.text host) (.int port) = .ok a) {now : Int}
    (hpos : 0 < now + a.ttl) :
    a.record now = .ok ⟨s.cluster, node, host, port, now + a.ttl⟩ := by
  obtain ⟨ttl, interval, -, -, rfl⟩ := create_eq_ok_iff.1 hcreate
  exact record_eq_iff.2 ⟨⟨rfl, rfl, rfl, rfl, rfl⟩, h.cluster, hnode, hhost, hport, hpos⟩

end Announcer

/-- A record that is written now counts now exactly if it counts for a millisecond. -/
theorem Presence.isExpired_eq_false_iff {r : Presence} {now ttl : Int} (h : r.expires = now + ttl) :
    r.isExpired now = false ↔ 1 ≤ ttl := by
  rw [isExpired, h, decide_eq_false_iff_not]
  omega

/-- A mapping with the required fields only. -/
def offering (expiration interval : Binary64) : Value :=
  .map [(.text "s3-bucket-name", .text "b"), (.text "s3-bucket-region", .text "us-east-1"),
    (.text "file-expiration", .float expiration), (.text "update-interval", .float interval)]

/-- The settings in such a mapping. -/
def offered (expiration interval : Binary64) : Settings where
  bucket := "b"
  region := "us-east-1"
  keyPrefix := ""
  cluster := "default"
  expiration
  interval
  endpoint := Settings.defaultEndpoint
  endpointRegion := none
  pathStyle := none
  credentials := .default
  accessKeyId := none
  secretKey := none
  sessionToken := none
  profile := none
  requestTimeout := .ofInt 5
  discoveryTimeout := .ofInt 10
  stopTimeout := .ofInt 5
  cleanup := false

end RollCall
