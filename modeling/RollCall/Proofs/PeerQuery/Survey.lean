import RollCall.PeerQuery.Run
import RollCall.Proofs.PeerQuery.Freshest
import RollCall.Proofs.Site.Calls

/-!
# What a query does to a site

A query lists, reads and deletes through a gateway whose backend may change the world with every
call. What its reads bring is a list of occurrences, in the order of the listing; the query judges
them as `Sightings.gather` does. So the answer, all calls of a query and all that it counts are
functions of the occurrences, the clock and the settings, and nothing else at the site changes but
what is said.

## Main definitions

* `Reads`: what reading the listed keys one after the other brings.
* `sweep`: the world after some keys are deleted.
* `skips`: what is counted of the records that are skipped.

## Main results

* `survey_ofBackend`, `clean_ofBackend`: reading and deleting.
* `discover_counted`: the whole query, with its answer, its calls and what it counts.
* `discover_ofBackend`: the same without the counts.
-/

namespace RollCall.PeerQuery

variable {ω : Type} {b : Backend ω} {q : PeerQuery} {now : Int}

/-- What reading the keys of some occurrences, one after the other, brings from a world, and the
world afterwards. The own key is not read, so that nothing is said of its outcome. -/
inductive Reads (b : Backend ω) (own : String) : ω → List Occurrence → ω → Prop
  | nil (w : ω) : Reads b own w [] w
  | own {o : Occurrence} {os : List Occurrence} {w w' : ω} (hown : o.key = own)
      (rest : Reads b own w os w') : Reads b own w (o :: os) w'
  | get {o : Occurrence} {os : List Occurrence} {w w₁ w' : ω} (hother : o.key ≠ own)
      (hget : b.get o.key w = (o.outcome, w₁)) (rest : Reads b own w₁ os w') :
      Reads b own w (o :: os) w'

/-- The calls that read the keys of some occurrences. -/
def gets (q : PeerQuery) (os : List Occurrence) : List Call :=
  (os.filter fun o => o.key ≠ q.ownKey).map fun o => .get q.gateway o.key

/-- The calls that delete some keys. -/
def deletes (q : PeerQuery) (keys : List String) : List Call :=
  keys.map (.delete q.gateway)

/-- The world after some keys are deleted, one after the other. -/
def sweep (b : Backend ω) (keys : List String) (w : ω) : ω :=
  keys.foldl (fun w key => (b.delete key w).2) w

/-- The keys that a query deletes once it has read the records: those of the expired ones, if the
settings ask for it. -/
def doomed (q : PeerQuery) (seen : Sightings) : List String :=
  if q.cleanup then seen.expired else []

/-- What a verdict of a query adds to the counts. -/
def Verdict.counted (q : PeerQuery) : Verdict → Counter → ℕ
  | .accept _ => fun _ => 0
  | .skip reason => Counter.once (.skipped q.cluster reason)

/-- How often a query counts something while it reads some occurrences: it counts each record that
it skips, under the reason. -/
def skips (q : PeerQuery) (now : Int) (os : List Occurrence) : Counter → ℕ
  | .skipped cluster reason =>
    if cluster = q.cluster then os.countP fun o => o.verdict? q now = some (.skip reason) else 0
  | _ => 0

theorem gets_nil : gets q [] = [] := rfl

theorem gets_cons_own {o : Occurrence} (h : o.key = q.ownKey) (os : List Occurrence) :
    gets q (o :: os) = gets q os := by
  rw [gets, List.filter_cons_of_neg (by simpa using h), gets]

theorem gets_cons_other {o : Occurrence} (h : o.key ≠ q.ownKey) (os : List Occurrence) :
    gets q (o :: os) = .get q.gateway o.key :: gets q os := by
  rw [gets, List.filter_cons_of_pos (by simpa using h), List.map_cons, gets]

theorem skips_nil : q.skips now [] = fun _ => 0 := by
  funext c
  cases c <;> simp [skips]

theorem skips_cons_own {o : Occurrence} (h : o.key = q.ownKey) (os : List Occurrence) :
    q.skips now (o :: os) = q.skips now os := by
  funext c
  cases c <;> simp [skips, Occurrence.verdict?, h]

theorem skips_cons_other {o : Occurrence} {reading : Reading} (h : o.key ≠ q.ownKey)
    (hread : read o.key o.outcome = .ok reading) (os : List Occurrence) :
    q.skips now (o :: os) = fun c => (q.judge now reading).counted q c + q.skips now os c := by
  have hverdict : o.verdict? q now = some (q.judge now reading) := by
    rw [Occurrence.verdict?, if_neg h, hread]
  funext c
  cases c with
  | skipped cluster reason =>
    simp only [skips, List.countP_cons, hverdict, Option.some.injEq, decide_eq_true_eq]
    cases q.judge now reading with
    | accept r => simp [Verdict.counted]
    | skip reason' =>
      by_cases hcluster : cluster = q.cluster <;>
        simp [Verdict.counted, Counter.once, hcluster, Nat.add_comm, eq_comm]
  | _ => cases hjudge : q.judge now reading <;> simp [skips, Verdict.counted, Counter.once]

/-! ### Reading -/

theorem gather_cons (seen : Sightings) (o : Occurrence) (os : List Occurrence) :
    seen.gather q now (o :: os) = (seen.add q now o).gather q now os :=
  rfl

/-- The own key adds nothing. -/
theorem add_own {o : Occurrence} (h : o.key = q.ownKey) (seen : Sightings) :
    seen.add q now o = seen := by
  rw [Sightings.add, Occurrence.verdict?, if_pos h]

/-- Another key adds what its reading means. -/
theorem add_other {o : Occurrence} {reading : Reading} (h : o.key ≠ q.ownKey)
    (hread : read o.key o.outcome = .ok reading) (seen : Sightings) :
    seen.add q now o = seen.note o.key (q.judge now reading) := by
  rw [Sightings.add, Occurrence.verdict?, if_neg h, hread]

/-- Reading a key brings a reading, unless something else than the store failed. -/
theorem read_of_isAnswered {o : Occurrence} (h : o.IsAnswered) :
    ∃ reading, read o.key o.outcome = .ok reading := by
  unfold read
  split
  · split <;> exact ⟨_, rfl⟩
  · exact ⟨_, rfl⟩
  · next f _ hf =>
    rw [if_pos (h f hf)]
    exact ⟨_, rfl⟩

/-- A reading comes of a content or of what the store says. -/
theorem isAnswered_of_read {o : Occurrence} {reading : Reading}
    (h : read o.key o.outcome = .ok reading) : o.IsAnswered := by
  intro f hf
  rw [hf] at h
  unfold read at h
  split at h
  · next heq => cases heq
  · next heq =>
    cases heq
    rfl
  · next f' _ heq =>
    cases heq
    by_contra hstore
    rw [if_neg hstore] at h
    cases h

/-- Noting a reading counts what the verdict adds. -/
theorem counts_announceVerdict (q : PeerQuery) (now : Int) (key : String) (reading : Reading) :
    (announceVerdict q now key reading : Doing ω Unit).Counts
      ((q.judge now reading).counted q) := by
  unfold announceVerdict
  rcases reading with e | r
  · dsimp only
    generalize unreadText key e = text?
    cases q.judge now (.error e) with
    | accept r =>
      cases text? with
      | none => exact .skip
      | some text => exact .say _ text
    | skip reason =>
      cases text? with
      | none => exact (Doing.Counts.count _).bind .skip
      | some text => exact (Doing.Counts.count _).bind (.say _ text)
  · generalize q.judge now (.ok r) = verdict
    have hforeign : (if verdict = .skip .foreign then
        Site.say .debug (foreignText key r) else pure () : Doing ω Unit).Counts fun _ => 0 := by
      split
      · exact .say _ _
      · exact .skip
    cases verdict with
    | accept r' => exact hforeign
    | skip reason => exact (Doing.Counts.count _).bind hforeign

/-- Noting a reading is a remark. -/
theorem isRemark_announceVerdict (q : PeerQuery) (now : Int) (key : String) (reading : Reading) :
    (announceVerdict q now key reading : Doing ω Unit).IsRemark :=
  (counts_announceVerdict q now key reading).isRemark

/-- Every key that is read is answered, if reads fail only as the store does. -/
theorem Reads.isAnswered (hb : b.FailsAsStore) {own : String} {w w' : ω} {os : List Occurrence}
    (h : Reads b own w os w') : ∀ o ∈ os, o.key ≠ own → o.IsAnswered := by
  induction h with
  | nil => exact fun o ho => absurd ho List.not_mem_nil
  | own hown _ ih =>
    refine List.forall_mem_cons.2 ⟨fun hother => absurd hown hother, ih⟩
  | @get o os w w₁ w' _ hget _ ih =>
    refine List.forall_mem_cons.2 ⟨fun _ f hf => ?_, ih⟩
    exact hb.get o.key w f (by rw [hget, hf])

/-- **Reading the listed keys**: the sightings are those of the occurrences, every key but the own
one is read once for each time it is listed, and what is counted are the skipped records. -/
theorem survey_ofBackend (now : Int) {w w' : ω} {os : List Occurrence}
    (h : Reads b q.ownKey w os w') (hanswered : ∀ o ∈ os, o.key ≠ q.ownKey → o.IsAnswered)
    (seen : Sightings) (s : Site ω) (hs : s.world = w) :
    ∃ lines tally,
      survey (.ofBackend b) q now (os.map (·.key)) seen s =
        (.ok (seen.gather q now os),
          { s with world := w', calls := s.calls ++ gets q os, lines, tally }) ∧
      s.tally.Gains tally (q.skips now os) := by
  induction h generalizing seen s with
  | nil w =>
    subst hs
    refine ⟨s.lines, s.tally, ?_, ?_⟩
    · rw [gets_nil, List.append_nil]
      rfl
    · rw [skips_nil]
      exact .refl s.tally
  | @own o os w w' hown rest ih =>
    obtain ⟨-, hanswered⟩ := List.forall_mem_cons.1 hanswered
    obtain ⟨lines, tally, hrest, hgains⟩ := ih hanswered seen s hs
    refine ⟨lines, tally, ?_, ?_⟩
    · rw [List.map_cons, survey, if_pos hown, hrest, gets_cons_own hown, gather_cons, add_own hown]
    · rwa [skips_cons_own hown]
  | @get o os w w₁ w' hother hget rest ih =>
    subst hs
    obtain ⟨hfirst, hanswered⟩ := List.forall_mem_cons.1 hanswered
    obtain ⟨reading, hread⟩ := read_of_isAnswered (hfirst hother)
    have hcall : (Gateway.ofBackend b).get q.gateway o.key s =
        (o.outcome, { s with world := w₁, calls := s.calls ++ [.get q.gateway o.key] }) := by
      rw [Gateway.ofBackend_get, hget]
    obtain ⟨lines, tally, hremark, hgains⟩ := counts_announceVerdict q now o.key reading
      { s with world := w₁, calls := s.calls ++ [.get q.gateway o.key] }
    obtain ⟨lines', tally', hrest, hgains'⟩ := ih hanswered (seen.add q now o)
      { s with world := w₁, calls := s.calls ++ [.get q.gateway o.key], lines, tally } rfl
    refine ⟨lines', tally', ?_, ?_⟩
    · rw [List.map_cons, survey, if_neg hother, Doing.bind_of_eq hcall, hread]
      dsimp only
      rw [Doing.bind_of_eq hremark, ← add_other hother hread, hrest, gather_cons,
        gets_cons_other hother, List.append_assoc]
      rfl
    · rw [skips_cons_other hother hread]
      exact hgains.trans hgains'

/-! ### Deleting and answering -/

/-- **Deleting some keys**: each is deleted, whether or not the store refuses it, and nothing is
counted. -/
theorem clean_ofBackend (hb : b.FailsAsStore) (keys : List String) (s : Site ω) :
    ∃ lines,
      clean (.ofBackend b) q keys s =
        (.ok (), { s with
          world := sweep b keys s.world
          calls := s.calls ++ deletes q keys
          lines }) := by
  induction keys generalizing s with
  | nil =>
    refine ⟨s.lines, ?_⟩
    rw [deletes, List.map_nil, List.append_nil]
    rfl
  | cons key keys ih =>
    have hcall := Gateway.ofBackend_delete b s q.gateway key
    have hgoes : ∃ text level,
        clean (.ofBackend b) q (key :: keys) s =
          (Site.say level text >>= fun _ => clean (.ofBackend b) q keys)
            { s with
              world := (b.delete key s.world).2
              calls := s.calls ++ [.delete q.gateway key] } := by
      rw [clean, Doing.bind_of_eq hcall]
      cases hdelete : (b.delete key s.world).1 with
      | ok u => exact ⟨_, _, rfl⟩
      | error f =>
        dsimp only
        rw [if_pos (hb.delete key s.world f hdelete)]
        exact ⟨_, _, rfl⟩
    obtain ⟨text, level, hgoes⟩ := hgoes
    obtain ⟨lines, hrest⟩ := ih { s with
      world := (b.delete key s.world).2
      calls := s.calls ++ [.delete q.gateway key]
      lines := s.lines ++ [⟨level, text⟩] }
    rw [List.append_assoc] at hrest
    exact ⟨lines, hgoes.trans ((Doing.bind_of_eq rfl _).trans hrest)⟩

/-- **Answering**: the expired records are deleted if the settings ask for it, and the answer is
that of the sightings; an answered query is counted, and how many peers it found. -/
theorem conclude_ofBackend (hb : b.FailsAsStore) (records : ℕ) (seen : Sightings) (s : Site ω) :
    ∃ lines,
      conclude (.ofBackend b) q records seen s =
        (.ok (answer seen), { s with
          world := sweep b (q.doomed seen) s.world
          calls := s.calls ++ deletes q (q.doomed seen)
          lines
          tally := s.tally.answered q.cluster (answer seen).length }) := by
  unfold conclude doomed
  cases q.cleanup with
  | true =>
    obtain ⟨lines, hclean⟩ := clean_ofBackend (q := q) hb seen.expired s
    exact ⟨_, Doing.bind_of_eq hclean _⟩
  | false =>
    have hskip : (pure (.ok ()) : Doing ω (Except Failure Unit)) s = (.ok (), s) := rfl
    simp only [Bool.false_eq_true, if_false, deletes, List.map_nil, List.append_nil]
    exact ⟨_, Doing.bind_of_eq hskip _⟩

/-- **The whole query**, where the listing succeeds: its answer is that of the occurrences listed;
it lists, reads and deletes, in this order, counts the records that it skips and its answer, and
changes nothing else but what is said. -/
theorem discover_counted (hb : b.FailsAsStore) (s : Site ω) {os : List Occurrence} {w w' : ω}
    (hlist : b.list q.clusterPrefix s.world = (.ok (os.map (·.key)), w))
    (hreads : Reads b q.ownKey w os w') :
    ∃ lines tally,
      discover (.ofBackend b) q s =
        (.ok (answer (Sightings.none.gather q s.now os)), { s with
          world := sweep b (q.doomed (Sightings.none.gather q s.now os)) w'
          calls := s.calls ++ .list q.gateway q.clusterPrefix ::
            (gets q os ++ deletes q (q.doomed (Sightings.none.gather q s.now os)))
          lines
          tally := tally.answered q.cluster
            (answer (Sightings.none.gather q s.now os)).length }) ∧
      s.tally.Gains tally (q.skips s.now os) := by
  have hcall : (Gateway.ofBackend b).list q.gateway q.clusterPrefix s =
      (.ok (os.map (·.key)),
        { s with world := w, calls := s.calls ++ [.list q.gateway q.clusterPrefix] }) := by
    rw [Gateway.ofBackend_list, hlist]
  obtain ⟨lines, tally, hsurvey, hgains⟩ := survey_ofBackend s.now hreads (hreads.isAnswered hb)
    .none { s with world := w, calls := s.calls ++ [.list q.gateway q.clusterPrefix] } rfl
  rw [List.append_assoc] at hsurvey
  obtain ⟨lines', hconclude⟩ := conclude_ofBackend (q := q) hb (os.map (·.key)).length
    (Sightings.none.gather q s.now os)
    { s with
      world := w'
      calls := s.calls ++ ([.list q.gateway q.clusterPrefix] ++ gets q os)
      lines, tally }
  rw [List.append_assoc, List.append_assoc] at hconclude
  refine ⟨lines', tally, ?_, hgains⟩
  rw [discover, Doing.bind_of_eq hcall]
  exact (Doing.bind_of_eq rfl _).trans ((Doing.bind_of_eq hsurvey _).trans hconclude)

/-- The whole query, without what it counts. -/
theorem discover_ofBackend (hb : b.FailsAsStore) (s : Site ω) {os : List Occurrence} {w w' : ω}
    (hlist : b.list q.clusterPrefix s.world = (.ok (os.map (·.key)), w))
    (hreads : Reads b q.ownKey w os w') :
    ∃ lines tally,
      discover (.ofBackend b) q s =
        (.ok (answer (Sightings.none.gather q s.now os)), { s with
          world := sweep b (q.doomed (Sightings.none.gather q s.now os)) w'
          calls := s.calls ++ .list q.gateway q.clusterPrefix ::
            (gets q os ++ deletes q (q.doomed (Sightings.none.gather q s.now os)))
          lines, tally }) := by
  obtain ⟨lines, tally, hdiscover, -⟩ := discover_counted hb s hlist hreads
  exact ⟨lines, _, hdiscover⟩

end RollCall.PeerQuery
