import RollCall.Proofs.Announcer.Bookkeeping
import RollCall.Proofs.Member.Visibility

/-!
# When a refresh may be skipped

An announcer that is to refresh its record writes nothing if it remembers a write within the
interval. It does not look whether the record is there. A stop deletes the record, and the announcer
keeps the memory of having written it. So memory and store agree until the announcer is stopped, and
again once it has written after that; in between nothing is under the key. An announcer that is
started again within the interval, and whose first write the store refuses, trusts a record that is
gone.

The ledger of a run tells what is under the key: what was written last, unless it was deleted since.

## Main definitions

* `Backend.Touches`: what one stage may do to a world.
* `Deed.leaves`: what a deed leaves under its key.
* `Announcer.isWithdrawn`: whether the record was deleted since it was last written.

## Main results

* `Announcer.touches_after`: what one stage does to the world.
* `Announcer.content_through`: what is under the key after a run.
* `Announcer.refresh_skips`: when a refresh writes nothing.
* `Announcer.skip_justified_iff`: when a refresh that writes nothing is justified.
* `Announcer.skip_unjustified`: a refresh that writes nothing although nothing is there.
-/

namespace RollCall

variable {ω : Type} {b : Backend ω} {content : ω → String → Option (List UInt8)}

/-- What may be done to a world under a key: nothing, a write or, if that may be, a deletion. -/
inductive Backend.Touches (b : Backend ω) (key : String) (mayDelete : Prop) (w : ω) : ω → Prop
  | nothing : Touches b key mayDelete w w
  | put (data : List UInt8) : Touches b key mayDelete w (b.put key data w).2
  | delete (h : mayDelete) : Touches b key mayDelete w (b.delete key w).2

namespace Deed

/-- Whether something was deleted. -/
def isRemoved : Deed → Bool
  | delete _ (.ok ()) => true
  | _ => false

/-- What is under the key of a deed afterwards. -/
def leaves (held : Option (List UInt8)) : Deed → Option (List UInt8)
  | put _ data (.ok ()) => some data
  | delete _ (.ok ()) => none
  | _ => held

theorem exists_put_of_isWritten {d : Deed} (h : d.isWritten = true) :
    ∃ key data, d = .put key data (.ok ()) := by
  rcases d with ⟨key, data, f | u⟩ | ⟨key, outcome⟩
  · cases h
  · exact ⟨key, data, rfl⟩
  · cases h

/-- A deed that writes nothing leaves what was there, or nothing. -/
theorem leaves_of_not_isWritten {d : Deed} (h : d.isWritten = false) (held : Option (List UInt8)) :
    d.leaves held = if d.isRemoved then none else held := by
  rcases d with ⟨key, data, f | u⟩ | ⟨key, f | u⟩
  · rfl
  · cases h
  · rfl
  · rfl

/-- Deeds that write nothing leave what was there, unless one of them deletes it. -/
theorem foldl_leaves {deeds : List Deed} (h : ∀ d ∈ deeds, d.isWritten = false)
    (held : Option (List UInt8)) :
    deeds.foldl leaves held = if deeds.any isRemoved then none else held := by
  induction deeds generalizing held with
  | nil => rfl
  | cons d deeds ih =>
    rw [List.foldl_cons, leaves_of_not_isWritten (h d List.mem_cons_self),
      ih fun d' hd' => h d' (List.mem_cons_of_mem d hd'), List.any_cons]
    cases d.isRemoved with
    | true => simp
    | false => simp

end Deed

/-- **What is under the key afterwards** is told by the deed that is noted, if a deletion that fails
deletes nothing. -/
theorem Backend.Touches.content_eq (hb : b.StoresOrRefuses content)
    (hkept : ∀ key w f, (b.delete key w).1 = .error f →
      content (b.delete key w).2 key = content w key)
    {key : String} {mayDelete : Prop} {w w' : ω × List Deed}
    (h : b.noted.Touches key mayDelete w w') :
    ∃ deeds, w'.2 = w.2 ++ deeds ∧ content w'.1 key = deeds.foldl Deed.leaves (content w.1 key) ∧
      ((∃ d ∈ deeds, d.isRemoved = true) → mayDelete) := by
  cases h with
  | nothing => exact ⟨[], (List.append_nil _).symm, rfl, nofun⟩
  | put data =>
    refine ⟨[.put key data (b.put key data w.1).1], rfl, ?_, ?_⟩
    · change content (b.put key data w.1).2 key = _
      cases hput : (b.put key data w.1).1 with
      | ok u => exact hb.put_ok key data w.1 hput
      | error f => exact congrFun (hb.put_error key data w.1 f hput).2 key
    · rintro ⟨d, hd, hremoved⟩
      cases List.mem_singleton.1 hd
      cases hremoved
  | delete hmay =>
    refine ⟨[.delete key (b.delete key w.1).1], rfl, ?_, fun _ => hmay⟩
    change content (b.delete key w.1).2 key = _
    cases hdelete : (b.delete key w.1).1 with
    | ok u => exact hb.delete_ok key w.1 hdelete
    | error f => exact hkept key w.1 f hdelete

namespace Announcer

variable {i : Nat} {a a' : Announcer}

/-! ### The world after a stage -/

section

variable {s : Site ω} (ha : s.announcers[i]? = some a) {mayDelete : Prop}
include ha

theorem touches_announce :
    b.Touches a.key mayDelete s.world (announce (.ofBackend b) i s).2.world := by
  rcases announce_cases (b := b) ha with ⟨result, hannounce, -⟩ |
    ⟨r, data, lines, tally, -, -, hannounce⟩
  · rw [hannounce]
    exact .nothing
  · rw [hannounce]
    exact .put data

theorem touches_start : b.Touches a.key mayDelete s.world (start (.ofBackend b) i s).2.world := by
  cases hstopped : a.isAnnouncing with
  | true =>
    rw [start_announcing ha hstopped]
    exact .nothing
  | false =>
    rcases start_cases (b := b) ha hstopped with ⟨f, -, hstart⟩ |
      ⟨r, data, -, ⟨f, -, hstart⟩ | ⟨written, lines, -, hstart⟩⟩
    · rw [hstart]
      exact .nothing
    · rw [hstart]
      exact .put data
    · rw [hstart]
      exact .put data

theorem touches_stop (hmay : mayDelete) (patience : Value) :
    b.Touches a.key mayDelete s.world (stop (.ofBackend b) i patience s).2.world := by
  cases hannouncing : a.isAnnouncing with
  | false =>
    rw [stop_stopped ha hannouncing]
    exact .nothing
  | true =>
    obtain ⟨lines, hstop⟩ := stop_announcing (b := b) ha hannouncing patience
    rw [hstop, withdrawal]
    cases a.isWriting with
    | true => exact .nothing
    | false => exact .delete hmay

/-- **What one stage does to the world**: at most one call, under the own key, and only a stop
deletes. -/
theorem touches_after (stage : Stage) :
    b.Touches a.key (∃ patience, stage = .stop patience) s.world
      (stage.after (.ofBackend b) i s).world := by
  rcases stage.after_cases (g := .ofBackend b) ha with rfl | ⟨patience, rfl⟩ |
    ⟨-, ⟨now, lines, hafter⟩ | ⟨now, isWriting, hafter⟩⟩
  · exact touches_start ha
  · exact touches_stop ha ⟨patience, rfl⟩ patience
  · rw [hafter]
    exact touches_announce (s := { s with now }) ha
  · rw [hafter]
    exact .nothing

end

/-! ### The key after a run -/

variable {s : Site (ω × List Deed)}

/-- **What is under the key after a run** is told by the ledger, and nothing is deleted but by a
stop. -/
theorem content_through (hb : b.StoresOrRefuses content)
    (hkept : ∀ key w f, (b.delete key w).1 = .error f →
      content (b.delete key w).2 key = content w key)
    (ha : s.announcers[i]? = some a) (stages : List Stage) :
    content (through (.ofBackend b.noted) i stages s).world.1 a.key =
        ((ledger (.ofBackend b.noted) i stages s).map (·.2)).foldl Deed.leaves
          (content s.world.1 a.key) ∧
      ((∃ e ∈ ledger (.ofBackend b.noted) i stages s, e.2.isRemoved = true) →
        ∃ patience, .stop patience ∈ stages) := by
  induction stages generalizing s a with
  | nil => exact ⟨rfl, nofun⟩
  | cons stage stages ih =>
    obtain ⟨a₁, -, ha₁, hmade, -⟩ := enters_after (b := b) ha stage
    obtain ⟨deeds, hdeeds, hcontent, hremoved⟩ :=
      (touches_after (b := b.noted) ha stage).content_eq hb hkept
    obtain ⟨hrest, hstopped⟩ := ih ha₁
    rw [key_eq_of_made hmade, hcontent] at hrest
    have hentered : (deeds.map ((stage.after (.ofBackend b.noted) i s).now, ·)).map (·.2) =
        deeds := by
      rw [List.map_map]
      exact List.map_id' deeds
    rw [ledger, hdeeds, List.drop_left]
    refine ⟨?_, ?_⟩
    · rw [List.map_append, List.foldl_append, hentered]
      exact hrest
    · rintro ⟨e, he, hgone⟩
      rcases List.mem_append.1 he with he | he
      · obtain ⟨d, hd, rfl⟩ := List.mem_map.1 he
        obtain ⟨patience, rfl⟩ := hremoved ⟨d, hd, hgone⟩
        exact ⟨patience, List.mem_cons_self⟩
      · obtain ⟨patience, hmem⟩ := hstopped ⟨e, he, hgone⟩
        exact ⟨patience, List.mem_cons_of_mem _ hmem⟩

/-- Whether the record was deleted since it was last written. -/
def isWithdrawn (ledger : List (Int × Deed)) : Bool :=
  ledger.foldl (fun gone e => !e.2.isWritten && (gone || e.2.isRemoved)) false

variable {l l' : List (Int × Deed)} {t : Int}

/-- The last deed that wrote something. -/
theorem exists_of_lastWritten (h : lastWritten l = some t) :
    ∃ before d after, l = before ++ (t, d) :: after ∧ d.isWritten = true ∧
      ∀ e ∈ after, e.2.isWritten = false := by
  obtain ⟨times, htimes⟩ := List.getLast?_eq_some_iff.1 h
  obtain ⟨es, es', hfilter, -, hlast⟩ := List.map_eq_append_iff.1 htimes
  obtain ⟨e, rfl, rfl⟩ := List.map_eq_singleton_iff.1 hlast
  obtain ⟨before, rest, rfl, -, hrest⟩ := List.filter_eq_append_iff.1 hfilter
  obtain ⟨between, after, rfl, -, hwritten, hafter⟩ := List.filter_eq_cons_iff.1 hrest
  refine ⟨before ++ between, e.2, after, (List.append_assoc ..).symm, hwritten, fun e he => ?_⟩
  exact Bool.eq_false_iff.2 (List.filter_eq_nil_iff.1 hafter e he)

/-- Once something was written, only a deletion after it withdraws it. -/
theorem isWithdrawn_eq {d : Deed} (hd : d.isWritten = true)
    (hafter : ∀ e ∈ l', e.2.isWritten = false) :
    isWithdrawn (l ++ (t, d) :: l') = (l'.map (·.2)).any Deed.isRemoved := by
  have hgone (gone : Bool) :
      l'.foldl (fun gone e => !e.2.isWritten && (gone || e.2.isRemoved)) gone =
        (gone || (l'.map (·.2)).any Deed.isRemoved) := by
    induction l' generalizing gone with
    | nil => exact (Bool.or_false gone).symm
    | cons e l' ih =>
      rw [List.foldl_cons, ih fun e' he' => hafter e' (List.mem_cons_of_mem e he'),
        hafter e List.mem_cons_self, List.map_cons, List.any_cons, Bool.not_false, Bool.true_and,
        Bool.or_assoc]
  rw [isWithdrawn, List.foldl_append, List.foldl_cons, hd, Bool.not_true, Bool.false_and, hgone,
    Bool.false_or]

/-! ### Refreshes that write nothing -/

/-- **A refresh writes nothing** and does not fail, while the announcer is announcing, only because
it remembers a write within the interval. -/
theorem refresh_skips (ha : s.announcers[i]? = some a) (hannouncing : a.isAnnouncing = true)
    (hskip : (refresh (.ofBackend b.noted) i s).1 = .ok false)
    (hquiet : (refresh (.ofBackend b.noted) i s).2.world.2 = s.world.2) :
    ∃ t, a.last = some t ∧ s.now - t < a.interval := by
  rw [refresh_eq ha, hannouncing, Bool.true_and] at hskip hquiet
  cases hdue : a.isDue s.now with
  | true =>
    rw [hdue, if_pos rfl] at hskip hquiet
    cases hbody : a.body s.now with
    | error f =>
      rw [announce_refused ha hannouncing hbody] at hskip
      cases hskip
    | ok record =>
      obtain ⟨r, data⟩ := record
      rw [announce_offered ha hannouncing hbody] at hquiet
      exact absurd (List.append_right_eq_self.1 hquiet) (List.cons_ne_nil _ _)
  | false =>
    rw [isDue] at hdue
    split at hdue
    · cases hdue
    · next t hlast => exact ⟨t, hlast, Int.not_le.1 (of_decide_eq_false hdue)⟩

/-- **When a refresh that writes nothing is justified.** In every run of an announcer from its
creation on, stopped and started again or not, over a store that may refuse any write, where nobody
else touches its key and the interval is no longer than the time for which records count: a refresh
that writes nothing remembers a write within the interval. If the record was not deleted since that
write, it is there and counts at the reading of the clock, and for as long as it was written for. If
it was, which only a stop does, nothing is there. -/
theorem skip_justified_iff (hb : b.StoresOrRefuses content)
    (hkept : ∀ key w f, (b.delete key w).1 = .error f →
      content (b.delete key w).2 key = content w key)
    {gateway : Nat} {settings : Settings} {node host port : Value}
    (hcreate : create gateway settings node host port = .ok a) (hle : a.interval ≤ a.ttl)
    (ha : s.announcers[i]? = some a) (stages : List Stage) :
    let g := Gateway.ofBackend b.noted
    let s' := through g i stages s
    let deeds := ledger g i stages s
    ∀ a', s'.announcers[i]? = some a' → a'.isAnnouncing = true →
      (refresh g i s').1 = .ok false → (refresh g i s').2.world.2 = s'.world.2 →
      ∃ t, a'.last = some t ∧ s'.now - t < a.interval ∧
        (a.ShownAt content s'.world.1 s'.now (t + a.ttl) ↔ isWithdrawn deeds = false) ∧
        (content s'.world.1 a.key = none ↔ isWithdrawn deeds = true) ∧
        (isWithdrawn deeds = true → ∃ patience, .stop patience ∈ stages) := by
  intro g s' deeds a' ha' hannouncing hskip hquiet
  obtain ⟨a₁, ha₁, hmade, hbooks⟩ := books_through b stages ha
  obtain rfl : a₁ = a' := Option.some.inj (ha₁.symm.trans ha')
  obtain ⟨t, hlast, hrecent⟩ := refresh_skips ha' hannouncing hskip hquiet
  have hinterval : a₁.interval = a.interval := congrArg (·.interval) hmade
  have hnever : a.last = none := by
    obtain ⟨ttl, interval, -, -, rfl⟩ := create_eq_ok_iff.1 hcreate
    rfl
  have hwritten : lastWritten deeds = some t := by
    have hlast' := hbooks.last
    rw [hnever, Option.or_none] at hlast'
    exact hlast'.symm.trans hlast
  obtain ⟨before, d, after, hsplit, hd, hafter⟩ := exists_of_lastWritten hwritten
  obtain ⟨key, data, rfl⟩ := Deed.exists_put_of_isWritten hd
  have hmem : (t, Deed.put key data (.ok ())) ∈ deeds :=
    hsplit ▸ List.mem_append_right _ List.mem_cons_self
  obtain rfl : key = a.key := hbooks.key _ hmem
  obtain ⟨r, hr, hdecode⟩ := hbooks.record t a.key data _ hmem
  obtain ⟨hcontent, hstopped⟩ := content_through hb hkept ha stages
  have hgone : isWithdrawn deeds = (after.map (·.2)).any Deed.isRemoved := by
    rw [hsplit]
    exact isWithdrawn_eq hd hafter
  have hheld : content s'.world.1 a.key = if isWithdrawn deeds then none else some data := by
    have hunwritten : ∀ d ∈ after.map (·.2), d.isWritten = false := by
      intro d hd
      obtain ⟨e, he, rfl⟩ := List.mem_map.1 hd
      exact hafter e he
    rw [hgone, ← Deed.foldl_leaves hunwritten]
    refine hcontent.trans ?_
    change (deeds.map (·.2)).foldl Deed.leaves _ = _
    rw [hsplit, List.map_append, List.foldl_append]
    rfl
  have hnow : s'.now < r.expires := by
    rw [hr.expires]
    omega
  have hshown : isWithdrawn deeds = false → a.ShownAt content s'.world.1 s'.now (t + a.ttl) := by
    intro hkeep
    rw [hkeep, if_neg Bool.false_ne_true] at hheld
    exact ⟨data, r, hheld, hdecode, hr.cluster, hr.node, hr.host, hr.port, hnow, hr.expires.ge⟩
  refine ⟨t, hlast, hinterval ▸ hrecent, ⟨fun h => ?_, hshown⟩, ?_, fun hwithdrawn => ?_⟩
  · obtain ⟨data', r', hdata', -⟩ := h
    refine Bool.eq_false_iff.2 fun hwithdrawn => ?_
    rw [hheld, if_pos hwithdrawn] at hdata'
    cases hdata'
  · rw [hheld]
    cases isWithdrawn deeds <;> simp
  · rw [hgone, List.any_map, List.any_eq_true] at hwithdrawn
    obtain ⟨e, he, hremoved⟩ := hwithdrawn
    have hmem' : e ∈ deeds := hsplit ▸ List.mem_append_right _ (List.mem_cons_of_mem _ he)
    exact hstopped ⟨e, hmem', hremoved⟩

/-! ### Stopped and started again within the interval -/

/-- The announcer of a node with plain settings, before it begins. -/
def plain : Announcer where
  gateway := 0
  settings := plainSettings
  node := .text "x"
  host := .text "h"
  port := .int 7
  key := ObjectKey.node plainSettings.keyPrefix plainSettings.cluster (Value.text "x").display
  ttl := 30000
  interval := 10000
  isAnnouncing := false
  isStopRequested := false
  hasLoop := false
  isWriting := false
  last := none

theorem create_plain : create 0 plainSettings (.text "x") (.text "h") (.int 7) = .ok plain :=
  create_eq_ok_iff.2 ⟨30000, 10000, by decide +kernel, by decide +kernel, rfl⟩

/-- This announcer over a store in memory that refuses the writes that it is told to refuse. -/
def plainSite (moods : List Bool) : Site (MoodyStore × List Deed) :=
  { Site.initial ((Store.empty, moods), []) 1000 with announcers := [plain] }

/-- The announcer starts, stops, and starts again within the interval. -/
def resumption : List Stage :=
  [.start, .stop (.int 5), .clock 4000, .start, .clock 9000]

/-- If the store refuses the first write after that, nothing is under the key and the refresh writes
nothing; if not, the refresh writes nothing either, and the record is there. -/
theorem skip_justified_iff_resumed :
    let g := Gateway.ofBackend MoodyStore.backend.noted
    let gone := through g 0 resumption (plainSite [false, true])
    let there := through g 0 resumption (plainSite [false, false, true])
    (refresh g 0 gone).1 = .ok false ∧ (refresh g 0 there).1 = .ok false ∧
      gone.world.1.1.get? "p/c/x" = none ∧
      plain.ShownAt (fun w => w.1.get?) there.world.1 9000 34000 := by
  intro g gone there
  have hb := MoodyStore.storesOrRefuses_backend
  have hkept (key : String) (w : MoodyStore) (f : Failure)
      (h : (MoodyStore.backend.delete key w).1 = .error f) :
      (MoodyStore.backend.delete key w).2.1.get? key = w.1.get? key := by cases h
  have hle : plain.interval ≤ plain.ttl := by decide
  have hgoneSkips : (refresh g 0 gone).1 = .ok false := by decide +kernel
  have hthereSkips : (refresh g 0 there).1 = .ok false := by decide +kernel
  have hlasts : gone.announcers.map (fun a => (a.isAnnouncing, a.last)) = [(true, some 1000)] ∧
      there.announcers.map (fun a => (a.isAnnouncing, a.last)) = [(true, some 4000)] := by
    decide +kernel
  refine ⟨hgoneSkips, hthereSkips, ?_, ?_⟩
  · obtain ⟨a', rest, ha', hlast, -⟩ := List.map_eq_cons_iff.1 hlasts.1
    obtain ⟨-, -, -, -, hnone, -⟩ := skip_justified_iff hb hkept create_plain hle rfl resumption a'
      (List.head?_eq_getElem?.symm.trans (congrArg List.head? ha')) (congrArg Prod.fst hlast)
      hgoneSkips (by decide +kernel)
    exact hnone.2 (by decide +kernel)
  · obtain ⟨a', rest, ha', hlast, -⟩ := List.map_eq_cons_iff.1 hlasts.2
    obtain ⟨t, ht, -, hshown, -⟩ := skip_justified_iff hb hkept create_plain hle rfl resumption a'
      (List.head?_eq_getElem?.symm.trans (congrArg List.head? ha')) (congrArg Prod.fst hlast)
      hthereSkips (by decide +kernel)
    have h := hshown.2 (by decide +kernel)
    cases ht.symm.trans (congrArg Prod.snd hlast)
    exact h

/-- **A refresh that writes nothing although nothing is there**: the record was deleted by a stop,
the store refuses the first write after the next start, and the announcer remembers its earlier
write. -/
theorem skip_unjustified :
    let g := Gateway.ofBackend MoodyStore.backend.noted
    let s := plainSite [false, true]
    let s' := through g 0 [.start, .stop (.int 5), .start] s
    create 0 plainSettings (.text "x") (.text "h") (.int 7) = .ok plain ∧
      1 ≤ plain.interval ∧ plain.interval ≤ plain.ttl ∧ s.announcers[0]? = some plain ∧
      s'.announcers.map (·.isAnnouncing) = [true] ∧ (refresh g 0 s').1 = .ok false ∧
      (refresh g 0 s').2.world.2 = s'.world.2 ∧ s'.world.1.1.get? plain.key = none := by
  intro g s s'
  exact ⟨create_plain, by decide, by decide, rfl, by decide +kernel, by decide +kernel,
    by decide +kernel, by decide +kernel⟩

end Announcer

end RollCall
