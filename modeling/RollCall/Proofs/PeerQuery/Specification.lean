import RollCall.Proofs.PeerQuery.Survey

/-!
# What a query answers

A query over any object store, whatever its listing names and however each read turns out, answers
with the addresses of the freshest eligible records: one for each node of the cluster but the own
one, in strictly ascending order. A store that follows a script shows that any listing can be met,
with any outcome for each key it names.

## Main definitions

* `Script`: a listing with an outcome for each key it names.
* `Script.backend`: the store that follows a script.

## Main results

* `discover_exact`: the answer of a query, address by address.
* `Script.reads`: reading after a script brings the occurrences of the script.
-/

namespace RollCall.PeerQuery

/-! ### Scripts -/

/-- Keys with what reading each brings: a content, or a failure of the store. -/
abbrev Script := List (String × Except {f : Failure // f.isStore = true} (List UInt8))

namespace Script

/-- A line of a script, as an occurrence. -/
def occurrence (line : String × Except {f : Failure // f.isStore = true} (List UInt8)) :
    Occurrence :=
  ⟨line.1, line.2.mapError Subtype.val⟩

/-- The occurrences of a script. -/
def occurrences (script : Script) : List Occurrence :=
  script.map occurrence

/-- The store that follows a script: a listing names its keys, and reading a key goes on to the next
line with that key. -/
def backend : Backend Script where
  put _ _ := return .ok ()
  get key := fun script =>
    match script.dropWhile fun line => line.1 ≠ key with
    | [] => (.error (.notFound (some key)), [])
    | line :: rest => ((occurrence line).outcome, rest)
  list _ := fun script => (.ok (script.occurrences.map (·.key)), script)
  delete _ := return .ok ()
  checkBucket := return .ok .existing
  close := return .ok ()
  connect _ := return .ok ()

theorem failsAsStore_backend : backend.FailsAsStore where
  get key w f h := by
    dsimp only [backend] at h
    split at h
    · cases h
      rfl
    · next line rest _ =>
      rw [occurrence] at h
      rcases line with ⟨k, ⟨f', hf'⟩ | data⟩
      · cases h
        exact hf'
      · cases h
  delete key w f h := by cases h

/-- Reading after a script, where only lines with the own key were left out before, brings the
occurrences of the script. -/
theorem reads_append {own : String} (skipped : Script) (hskipped : ∀ line ∈ skipped, line.1 = own)
    (script : Script) : ∃ w, Reads backend own (skipped ++ script) script.occurrences w := by
  induction script generalizing skipped with
  | nil => exact ⟨_, .nil _⟩
  | cons line script ih =>
    by_cases hown : line.1 = own
    · have hmore : ∀ l ∈ skipped ++ [line], l.1 = own := by
        intro l hl
        rcases List.mem_append.1 hl with hl | hl
        · exact hskipped l hl
        · exact List.mem_singleton.1 hl ▸ hown
      obtain ⟨w, hw⟩ := ih _ hmore
      rw [List.append_assoc] at hw
      exact ⟨w, .own hown hw⟩
    · obtain ⟨w, hw⟩ := ih [] fun _ h => nomatch h
      have hdrop : (skipped ++ line :: script).dropWhile (fun l => l.1 ≠ line.1) =
          line :: script := by
        rw [List.dropWhile_append_of_pos]
        · rw [List.dropWhile_cons_of_neg (by simp)]
        · intro l hl
          rw [hskipped l hl]
          simpa using Ne.symm hown
      have hget : backend.get line.1 (skipped ++ line :: script) =
          ((occurrence line).outcome, script) := by
        dsimp only [backend]
        rw [hdrop]
      exact ⟨w, .get hown hget hw⟩

/-- **Any listing can be met, with any outcome for each key it names.** -/
theorem reads (own : String) (script : Script) :
    ∃ w, Reads backend own script script.occurrences w :=
  reads_append [] (fun _ h => nomatch h) script

end Script

/-! ### The answer -/

variable {ω : Type} {b : Backend ω}

/-- **What a query answers**: whatever occurrences the listing and the reads bring, the answer is in
strictly ascending order, and an address is in it exactly if it is that of an eligible record such
that every other eligible record of the same node expires earlier, or at the same time and stands
later in the listing. -/
theorem discover_exact (hb : b.FailsAsStore) (q : PeerQuery) (s : Site ω) {os : List Occurrence}
    {w w' : ω} (hlist : b.list q.clusterPrefix s.world = (.ok (os.map (·.key)), w))
    (hreads : Reads b q.ownKey w os w') :
    ∃ peers s', discover (.ofBackend b) q s = (.ok peers, s') ∧
      peers.Pairwise Address.Before ∧
        ∀ a, a ∈ peers ↔ ∃ i r, Freshest q s.now os i r ∧ r.address = a := by
  obtain ⟨lines, tally, hdiscover⟩ := discover_ofBackend hb s hlist hreads
  refine ⟨_, _, hdiscover, ?_, ?_⟩
  · exact pairwise_answer _
  · exact fun a => mem_answer_gather

/-- A script with the own key, a tie, a shared address, a key that is gone and a content that is no
record. -/
def Script.tied : Script :=
  [("c/a", .ok []),
    ("c/b", .ok (Utf8.encode (Presence.encodeText ⟨"c", "b", "h", 2, 9⟩))),
    ("c/b", .ok (Utf8.encode (Presence.encodeText ⟨"c", "b", "f", 2, 9⟩))),
    ("c/d", .ok (Utf8.encode (Presence.encodeText ⟨"c", "d", "h", 2, 7⟩))),
    ("c/d", .error ⟨.notFound none, rfl⟩),
    ("c/e", .ok (Utf8.encode (Presence.encodeText ⟨"c", "e", "g", 3, 6⟩))),
    ("c/e", .ok [0x7B])]

/-- The answer to such a script. -/
theorem discover_exact_tied :
    ∃ s', discover (.ofBackend Script.backend) ⟨0, "c", some "a", "c/", "c/a", true⟩
        (.initial .tied 5) = (.ok [⟨"g", 3⟩, ⟨"h", 2⟩], s') ∧
      [(⟨"g", 3⟩ : Address), ⟨"h", 2⟩].Pairwise Address.Before ∧
        ∀ a, a ∈ [(⟨"g", 3⟩ : Address), ⟨"h", 2⟩] ↔
          ∃ i r, Freshest ⟨0, "c", some "a", "c/", "c/a", true⟩ 5 Script.tied.occurrences i r ∧
            r.address = a := by
  have hanswer : (discover (.ofBackend Script.backend) ⟨0, "c", some "a", "c/", "c/a", true⟩
      (.initial .tied 5)).1 = .ok [⟨"g", 3⟩, ⟨"h", 2⟩] := by decide +kernel
  obtain ⟨w, hw⟩ := Script.reads "c/a" .tied
  obtain ⟨peers, s', hdiscover, hpeers⟩ :=
    discover_exact Script.failsAsStore_backend ⟨0, "c", some "a", "c/", "c/a", true⟩
      (.initial .tied 5) rfl hw
  rw [hdiscover] at hanswer
  cases hanswer
  exact ⟨s', hdiscover, hpeers⟩

end RollCall.PeerQuery
