import RollCall.Proofs.PeerQuery.Answer
import RollCall.Proofs.Roster

/-!
# Rosters name nobody twice

Whatever gateway a query goes through and however its calls fail, an answer is put together by
inserting addresses into an ascending list, so that it names no address twice. The text of an
address decides the address. So a roster that leaves out its member names each peer once, by a text
that belongs to no other address, and in the order of the answer.

## Main definitions

* `Doing.Brings`: a step whose result has a property.

## Main results

* `Member.brings_discover`: what a member finds are distinct addresses.
* `Roster.nodes_peers`: a roster without its member, told from what the member finds.
* `Roster.nodes_distinct`: such a roster names each peer by a text of its own.
-/

namespace RollCall

variable {ω α β : Type}

/-- A step whose result has a property, whatever the site. -/
abbrev Doing.Brings (m : Doing ω α) (P : α → Prop) : Prop :=
  m.Yields (fun _ => True) P

namespace Doing

variable {P : α → Prop} {Q : β → Prop} {m : Doing ω α} {f : α → Doing ω β}

theorem Brings.pure {a : α} (h : P a) : (Pure.pure a : Doing ω α).Brings P :=
  Yields.pure h

/-- The last step brings the result. -/
theorem Brings.bind (h : ∀ a, (f a).Brings Q) : (m >>= f).Brings Q :=
  Keeps.bind (fun _ _ => ⟨trivial, trivial⟩) h

end Doing

open Doing (Yields Brings)

/-- An answer that names no address twice, or a failure. -/
def IsDistinct (answer : Except Failure (List Address)) : Prop :=
  ∀ peers, answer = .ok peers → peers.Nodup

theorem isDistinct_error (f : Failure) : IsDistinct (.error f) :=
  nofun

/-! ### What a member finds -/

namespace PeerQuery

variable (g : Gateway ω) (q : PeerQuery)

theorem isDistinct_answer (seen : Sightings) : IsDistinct (.ok (answer seen)) := by
  rintro _ ⟨⟩
  exact nodup_answer seen

theorem brings_conclude (records : ℕ) (seen : Sightings) :
    (conclude g q records seen).Brings IsDistinct := by
  rw [conclude]
  -- Whether expired records are deleted or not, the answer comes last.
  split <;> refine Brings.bind fun cleaned => ?_
  all_goals
    cases cleaned with
    | error f => exact .pure (isDistinct_error f)
    | ok u => exact .bind fun _ => .bind fun _ => .bind fun _ => .pure (isDistinct_answer seen)

theorem brings_discover : (discover g q).Brings IsDistinct := by
  refine Brings.bind fun listed => ?_
  cases listed with
  | error f =>
    dsimp only
    split
    · exact .bind fun _ => .bind fun _ => .pure (isDistinct_error _)
    · exact .pure (isDistinct_error f)
  | ok keys =>
    refine .bind fun s => .bind fun surveyed => ?_
    cases surveyed with
    | error f => exact .pure (isDistinct_error f)
    | ok seen => exact brings_conclude g q keys.length seen

end PeerQuery

namespace Member

variable (g : Gateway ω) (i : ℕ)

theorem brings_submitQuery (pool : ℕ) (q : PeerQuery) :
    (submitQuery g i pool q).Brings fun answer? => ∀ answer ∈ answer?, IsDistinct answer := by
  refine Brings.bind fun s => ?_
  split
  · exact .bind fun _ => .pure nofun
  · refine Yields.bind (q.brings_discover g) fun answer hanswer => .pure ?_
    rintro _ ⟨⟩
    exact hanswer

/-- **What a member finds** are distinct addresses, through any gateway. -/
theorem brings_discover : (discover g i).Brings IsDistinct := by
  refine Brings.bind fun m => ?_
  split
  · refine .bind fun _ => Yields.bind (brings_submitQuery g i _ _) fun answer? hanswer => ?_
    cases answer? with
    | none => exact Brings.bind fun _ => Brings.pure (isDistinct_error _)
    | some answer => exact .pure (hanswer answer rfl)
  · exact .pure (isDistinct_error _)

end Member

/-! ### The roster -/

namespace Roster

/-- A roster without its member gives the texts of what the member finds, in the same order, and
fails as the member does. -/
theorem nodes_peers (g : Gateway ω) (i : ℕ) (s : Site ω) :
    (nodes g ⟨i, false⟩ s).1 = (Member.discover g i s).1.map (List.map Address.text) := by
  rcases hdiscover : Member.discover g i s with ⟨f | peers, s'⟩
  · rw [nodes, Doing.bind_of_eq hdiscover]
    dsimp only
    cases f.isQuery <;> rfl
  · rw [nodes, Doing.bind_of_eq hdiscover]
    rfl

/-- **A roster names nobody twice.** Two addresses with the same text have the same host and the
same TCP port, whatever the hosts look like. So through any gateway, a roster that leaves out its
member gives one text for each address that the member finds, in the same order, and all of them
are different; and it fails exactly if the member does. -/
theorem nodes_distinct (g : Gateway ω) (i : ℕ) (s : Site ω) :
    (∀ a b : Address, a.text = b.text → a.host = b.host ∧ a.port = b.port) ∧
      (nodes g ⟨i, false⟩ s).1 = (Member.discover g i s).1.map (List.map Address.text) ∧
      ∀ texts, (nodes g ⟨i, false⟩ s).1 = .ok texts → texts.Nodup := by
  refine ⟨fun a b h => ?_, nodes_peers g i s, fun texts htexts => ?_⟩
  · obtain rfl := Address.text_injective h
    exact ⟨rfl, rfl⟩
  · rw [nodes_peers] at htexts
    have hdistinct : IsDistinct (Member.discover g i s).1 :=
      (Member.brings_discover g i s trivial).1
    cases hpeers : (Member.discover g i s).1 with
    | error f =>
      rw [hpeers] at htexts
      cases htexts
    | ok peers =>
      rw [hpeers] at htexts
      cases htexts
      exact (hdistinct peers hpeers).map Address.text_injective

/-- A store with the records of four nodes whose hosts are easily mistaken for each other. -/
def lookalikes : Store :=
  [("plain", "h", 17), ("colon", "h:1", 7), ("bracket", "[h:1]", 7)].foldl
    (fun store (name, host, port) =>
      store.put ("p/c/" ++ name) (Utf8.encode (Presence.encodeText ⟨"c", name, host, port, 6⟩)))
    (leftBehind 6)

/-- A host that ends like a TCP port, and one that is in brackets by itself. -/
theorem nodes_distinct_lookalikes :
    let g := Gateway.ofBackend Store.backend
    (Member.discover g 0 (cameBack lookalikes)).1 =
        .ok [⟨"[h:1]", 7⟩, ⟨"h", 7⟩, ⟨"h", 17⟩, ⟨"h:1", 7⟩] ∧
      (nodes g ⟨0, false⟩ (cameBack lookalikes)).1 =
        .ok ["[[h:1]]:7", "h:7", "h:17", "[h:1]:7"] ∧
      ["[[h:1]]:7", "h:7", "h:17", "[h:1]:7"].Nodup := by
  intro g
  obtain ⟨-, hnodes, hdistinct⟩ := nodes_distinct g 0 (cameBack lookalikes)
  have hpeers : (Member.discover g 0 (cameBack lookalikes)).1 =
      .ok [⟨"[h:1]", 7⟩, ⟨"h", 7⟩, ⟨"h", 17⟩, ⟨"h:1", 7⟩] := by decide +kernel
  have htexts : [(⟨"[h:1]", 7⟩ : Address), ⟨"h", 7⟩, ⟨"h", 17⟩, ⟨"h:1", 7⟩].map Address.text =
      ["[[h:1]]:7", "h:7", "h:17", "[h:1]:7"] := by decide +kernel
  have hanswer := hnodes.trans (congrArg (Except.map (List.map Address.text)) hpeers)
  rw [Except.map, htexts] at hanswer
  exact ⟨hpeers, hanswer, hdistinct _ hanswer⟩

end Roster

end RollCall
