import Mathlib.Data.List.Induction
import Mathlib.Data.List.Nodup
import RollCall.Logging.Session
import RollCall.Proofs.Logging.Board
import RollCall.Proofs.Since

/-!
# What a board shows of its history

Owners come and go in any order, and root handlers are added meanwhile. What hangs on the board
afterwards can be read off the history: an owner is installed if no removal came after its last
installation, the installation that counts is the first one since it was not installed, and the
filter hangs on every noisy logger and on the root handlers that had been added when that
installation came.

## Main definitions

* `Change`, `Board.after`: what may happen to a board, and the board after a history.
* `IsOn`, `Began`: who is installed after a history, and since when.
* `Board.Shows`: everything on a board is as its history says.

## Main results

* `isOn_iff_exists_began`, `Began.unique`: who is installed has been since one moment.
* `Board.recorded_after`: the entries of a board are those of its history.
* `Board.Tidy.remove_eq`: a removal takes one filter off everywhere.
* `Board.shows_after`: after every history the board shows it.
* `Session.board_run`: the board of a session is one after a history.
-/

namespace RollCall.Logging

variable {ι : Type}

/-! ### Histories -/

/-- What may happen to a board. -/
inductive Change (ι : Type)
  /-- An owner installs its filter. -/
  | install (owner : ι)
  /-- An owner removes its filter. -/
  | remove (owner : ι)
  /-- A root handler is added. -/
  | addHandler (name : String)

/-- The root handler that a change adds, if it adds one. -/
def Change.handler? : Change ι → Option String
  | .addHandler name => some name
  | .install _ | .remove _ => none

/-- The root handlers that were added in a history, in this order. -/
def added (history : List (Change ι)) : List String :=
  history.filterMap Change.handler?

/-- The owner installed its filter after the first part of a history, and did not remove it since. -/
def InstalledAfter (o : ι) (before history : List (Change ι)) : Prop :=
  ∃ since, history = before ++ .install o :: since ∧ .remove o ∉ since

/-- The owner is installed after a history: it installed its filter and did not remove it since. -/
def IsOn (o : ι) (history : List (Change ι)) : Prop :=
  ∃ before, InstalledAfter o before history

/-- The current installation of the owner began after the first part of a history: then it was not
installed, and it has been ever since. -/
def Began (o : ι) (before history : List (Change ι)) : Prop :=
  InstalledAfter o before history ∧ ¬ IsOn o before

section Histories

variable {o : ι} {before history : List (Change ι)} {c : Change ι}

theorem installedAfter_iff_since : InstalledAfter o before history ↔
    Since (fun front c => c = .install o ∧ before = front) (· ≠ .remove o) history := by
  constructor
  · rintro ⟨since, rfl, hsince⟩
    exact ⟨before, _, since, rfl, ⟨rfl, rfl⟩, fun c hc heq => hsince (heq ▸ hc)⟩
  · rintro ⟨_, _, since, rfl, ⟨rfl, rfl⟩, hsince⟩
    exact ⟨since, rfl, fun hmem => hsince _ hmem rfl⟩

theorem not_installedAfter_nil : ¬ InstalledAfter o before [] := by
  rw [installedAfter_iff_since]
  exact not_since_nil

/-- The last change is the installation, or it is no removal and the installation came earlier. -/
theorem installedAfter_concat_iff : InstalledAfter o before (history ++ [c]) ↔
    (c = .install o ∧ before = history) ∨ (c ≠ .remove o ∧ InstalledAfter o before history) := by
  rw [installedAfter_iff_since, since_concat_iff, installedAfter_iff_since]

theorem not_isOn_nil : ¬ IsOn o ([] : List (Change ι)) :=
  fun ⟨_, h⟩ => not_installedAfter_nil h

/-- Who is installed after one more change. -/
theorem isOn_concat_iff :
    IsOn o (history ++ [c]) ↔ c = .install o ∨ (c ≠ .remove o ∧ IsOn o history) := by
  simp only [IsOn, installedAfter_concat_iff, exists_or, exists_and_left, exists_eq, and_true]

/-- **Since when an owner is installed** after one more change. -/
theorem began_concat_iff : Began o before (history ++ [c]) ↔
    (c = .install o ∧ before = history ∧ ¬ IsOn o history) ∨
      (c ≠ .remove o ∧ Began o before history) := by
  rw [Began, Began, installedAfter_concat_iff, or_and_right, and_assoc, and_assoc]
  refine or_congr (and_congr_right fun _ => and_congr_right ?_) Iff.rfl
  rintro rfl
  exact Iff.rfl

/-- A change that does not begin the owner's installation and does not end it. -/
theorem began_concat_iff_of_steady (hinstall : c = .install o → IsOn o history)
    (hremove : c ≠ .remove o) : Began o before (history ++ [c]) ↔ Began o before history := by
  rw [began_concat_iff]
  refine ⟨?_, fun hbegan => .inr ⟨hremove, hbegan⟩⟩
  rintro (⟨hc, -, hoff⟩ | ⟨-, hbegan⟩)
  · exact absurd (hinstall hc) hoff
  · exact hbegan

/-- Who is installed has been since some moment. -/
theorem isOn_iff_exists_began : IsOn o history ↔ ∃ before, Began o before history := by
  refine ⟨fun h => ?_, fun ⟨before, hbegan⟩ => ⟨before, hbegan.1⟩⟩
  induction history using List.reverseRecOn with
  | nil => exact absurd h not_isOn_nil
  | append_singleton history c ih =>
    by_cases hon : IsOn o history
    · -- A further installation of who is installed is not where the current one began.
      have hc : c ≠ .remove o := by
        rintro rfl
        obtain hc | hc := isOn_concat_iff.1 h
        · cases hc
        · exact hc.1 rfl
      obtain ⟨before, hbegan⟩ := ih hon
      exact ⟨before, began_concat_iff.2 (.inr ⟨hc, hbegan⟩)⟩
    · obtain hc | ⟨-, hon'⟩ := isOn_concat_iff.1 h
      · exact ⟨history, began_concat_iff.2 (.inl ⟨hc, rfl, hon⟩)⟩
      · exact absurd hon' hon

/-- The current installation began at one moment. -/
theorem Began.unique {before' : List (Change ι)} (h : Began o before history)
    (h' : Began o before' history) : before = before' := by
  induction history using List.reverseRecOn with
  | nil => exact absurd h.1 not_installedAfter_nil
  | append_singleton history c ih =>
    obtain ⟨-, heq, hoff⟩ | ⟨-, h⟩ := began_concat_iff.1 h <;>
      obtain ⟨-, heq', hoff'⟩ | ⟨-, h'⟩ := began_concat_iff.1 h'
    · exact heq.trans heq'.symm
    · exact absurd ⟨before', h'.1⟩ hoff
    · exact absurd ⟨before, h.1⟩ hoff'
    · exact ih h h'

theorem added_concat : added (history ++ [c]) = added history ++ c.handler?.toList := by
  rw [added, List.filterMap_append, added]
  cases c <;> rfl

end Histories

variable [DecidableEq ι] {o p : ι}

namespace Board

/-- The board after a change. -/
def change (b : Board ι) : Change ι → Board ι
  | .install owner => b.install owner
  | .remove owner => b.remove owner
  | .addHandler name => b.addHandler name

/-- The board after a history, the first change of which comes first. -/
def after (history : List (Change ι)) : Board ι :=
  history.foldl change empty

variable {b : Board ι} {history : List (Change ι)}

/-! ### One filter is taken off everywhere -/

namespace Tidy

/-- A filter is taken off the root handlers that its installation reached; on the others it does not
hang. -/
theorem updateFirst_unhang (h : b.Tidy) {reach : ℕ} (ho : b.installed.lookup o = some reach) :
    updateFirst (unhang o) reach b.handlers =
      b.handlers.map (Handler.update (·.filter (· != o))) := by
  refine List.ext_getElem? fun k => ?_
  rw [getElem?_updateFirst, List.getElem?_map]
  refine Option.map_congr fun handler hk => ?_
  obtain ⟨hnodup, hmem⟩ := h.handler hk
  rw [Handler.update, Handler.update, unhang, ← hnodup.erase_eq_filter o]
  split
  · rfl
  · next hbeyond =>
    rw [List.erase_of_not_mem]
    rw [hmem, ho]
    rintro ⟨_, ⟨⟩, hlt⟩
    exact hbeyond hlt

/-- **A removal takes one filter off everywhere**, and no other filter anywhere. -/
theorem remove_eq (h : b.Tidy) (o : ι) : b.remove o =
    ⟨b.handlers.map (Handler.update (·.filter (· != o))), b.loggers.map (·.filter (· != o)),
      b.installed.filter fun e => e.1 != o⟩ := by
  cases ho : b.installed.lookup o with
  | none =>
    have hhangs := h.not_hangs (isInstalled_eq_false_iff.2 ho)
    have hkept {filters : List ι} (hfilters : o ∉ filters) :
        filters.filter (· != o) = filters :=
      List.filter_eq_self.2 fun _ hp => bne_iff_ne.2 fun heq => hfilters (heq ▸ hp)
    have hhandlers : b.handlers.map (Handler.update (·.filter (· != o))) = b.handlers :=
      map_update_eq_self fun handler hmem =>
        hkept fun hfilter => hhangs (.inl ⟨handler, hmem, hfilter⟩)
    have hloggers : b.loggers.map (·.filter (· != o)) = b.loggers :=
      map_eq_self fun filters hmem => hkept fun hfilter => hhangs (.inr ⟨filters, hmem, hfilter⟩)
    rw [Board.remove, ho, hhandlers, hloggers, forget_eq_self ho]
  | some reach =>
    have hloggers : b.loggers.map (unhang o) = b.loggers.map (·.filter (· != o)) :=
      List.map_congr_left fun filters hmem => (h.logger hmem).1.erase_eq_filter o
    rw [remove_of_lookup ho, h.updateFirst_unhang ho, hloggers]

end Tidy

/-! ### Boards record their history -/

/-- The entries of a board are those of a history, and the filters hang as the entries say. -/
structure Recorded (b : Board ι) (history : List (Change ι)) : Prop where
  /-- The filters hang as the entries say. -/
  tidy : b.Tidy
  /-- An installation reached the root handlers that had been added when it began. -/
  lookup_eq_some_iff (o : ι) (reach : ℕ) : b.installed.lookup o = some reach ↔
    ∃ before, Began o before history ∧ (added before).length = reach
  /-- The root handlers are those that were added. -/
  names : b.handlers.map Handler.name = added history
  /-- No noisy logger is missing. -/
  loggers : b.loggers.length = noisyLoggers.length

omit [DecidableEq ι] in
theorem map_name_update (f : List ι → List ι) (hs : List (Handler ι)) :
    (hs.map (Handler.update f)).map Handler.name = hs.map Handler.name := by
  rw [List.map_map]
  rfl

theorem names_install : (b.install o).handlers.map Handler.name = b.handlers.map Handler.name := by
  rw [install]
  split
  · rfl
  · exact map_name_update _ _

theorem length_loggers_install : (b.install o).loggers.length = b.loggers.length := by
  rw [install]
  split
  · rfl
  · exact List.length_map _

theorem recorded_empty : (empty : Board ι).Recorded [] where
  tidy := tidy_empty
  lookup_eq_some_iff _ _ :=
    iff_of_false nofun fun ⟨_, hbegan, _⟩ => not_installedAfter_nil hbegan.1
  names := rfl
  loggers := List.length_map _

namespace Recorded

/-- Who is installed is so by the history. -/
theorem isInstalled_iff (h : b.Recorded history) : b.isInstalled o = true ↔ IsOn o history := by
  rw [isInstalled, Option.isSome_iff_exists, isOn_iff_exists_began]
  simp only [h.lookup_eq_some_iff]
  constructor
  · rintro ⟨_, before, hbegan, -⟩
    exact ⟨before, hbegan⟩
  · rintro ⟨before, hbegan⟩
    exact ⟨_, before, hbegan, rfl⟩

theorem isInstalled_eq_false_iff (h : b.Recorded history) :
    b.isInstalled o = false ↔ ¬ IsOn o history := by
  rw [← h.isInstalled_iff, Bool.not_eq_true]

theorem length_handlers (h : b.Recorded history) : b.handlers.length = (added history).length := by
  rw [← h.names, List.length_map]

/-- An installation that a change neither begins nor ends keeps its reach. -/
theorem lookup_of_steady (h : b.Recorded history) {c : Change ι} {reach : ℕ}
    (hinstall : c = .install o → IsOn o history) (hremove : c ≠ .remove o) :
    b.installed.lookup o = some reach ↔
      ∃ before, Began o before (history ++ [c]) ∧ (added before).length = reach := by
  rw [h.lookup_eq_some_iff]
  exact exists_congr fun _ => and_congr_left' (began_concat_iff_of_steady hinstall hremove).symm

theorem addHandler (h : b.Recorded history) (name : String) :
    (b.addHandler name).Recorded (history ++ [.addHandler name]) where
  tidy := h.tidy.addHandler name
  lookup_eq_some_iff _ _ := h.lookup_of_steady nofun nofun
  names := by
    rw [Board.addHandler, List.map_append, h.names, added_concat]
    rfl
  loggers := h.loggers

theorem install (h : b.Recorded history) (p : ι) :
    (b.install p).Recorded (history ++ [.install p]) where
  tidy := h.tidy.install p
  lookup_eq_some_iff o reach := by
    rw [lookup_install]
    split
    · next hbegins =>
      -- The installation begins at the end of the history, and reaches all root handlers.
      obtain ⟨rfl, hfalse⟩ := hbegins
      have hoff := h.isInstalled_eq_false_iff.1 hfalse
      rw [Option.some_inj, h.length_handlers]
      constructor
      · rintro rfl
        exact ⟨history, began_concat_iff.2 (.inl ⟨rfl, rfl, hoff⟩), rfl⟩
      · rintro ⟨before, hbegan, rfl⟩
        obtain ⟨-, rfl, -⟩ | ⟨-, hbegan⟩ := began_concat_iff.1 hbegan
        · rfl
        · exact absurd ⟨before, hbegan.1⟩ hoff
    · next hgoes =>
      have hne : Change.install p ≠ .remove o := by rintro ⟨⟩
      refine h.lookup_of_steady ?_ hne
      rintro ⟨⟩
      by_contra hoff
      exact hgoes ⟨rfl, h.isInstalled_eq_false_iff.2 hoff⟩
  names := by
    rw [names_install, h.names, added_concat]
    exact (List.append_nil _).symm
  loggers := by
    rw [length_loggers_install, h.loggers]

theorem remove (h : b.Recorded history) (p : ι) :
    (b.remove p).Recorded (history ++ [.remove p]) where
  tidy := h.tidy.remove p
  lookup_eq_some_iff o reach := by
    rw [lookup_remove]
    split
    · next heq =>
      refine iff_of_false nofun ?_
      rintro ⟨before, hbegan, -⟩
      obtain ⟨⟨⟩, -⟩ | ⟨hne, -⟩ := began_concat_iff.1 hbegan
      exact hne (congrArg _ heq.symm)
    · next hne =>
      refine h.lookup_of_steady nofun ?_
      rintro ⟨⟩
      exact hne rfl
  names := by
    rw [h.tidy.remove_eq, map_name_update, h.names, added_concat]
    exact (List.append_nil _).symm
  loggers := by
    rw [h.tidy.remove_eq, List.length_map, h.loggers]

/-- **One change**: the board records it. -/
theorem change (h : b.Recorded history) (c : Change ι) :
    (b.change c).Recorded (history ++ [c]) := by
  cases c with
  | install owner => exact h.install owner
  | remove owner => exact h.remove owner
  | addHandler name => exact h.addHandler name

end Recorded

/-- **After every history the board records it.** -/
theorem recorded_after (history : List (Change ι)) : (after history).Recorded history := by
  induction history using List.reverseRecOn with
  | nil => exact recorded_empty
  | append_singleton history c ih =>
    rw [after, List.foldl_concat]
    exact ih.change c

/-! ### What a board shows -/

/-- Everything on a board, and what becomes of it, is as a history says. -/
structure Shows (b : Board ι) (history : List (Change ι)) : Prop where
  /-- Installed is who installed its filter and did not remove it since. -/
  isInstalled_iff (o : ι) : b.isInstalled o = true ↔ IsOn o history
  /-- On every noisy logger hangs one filter of everyone who is installed, and no other. -/
  loggers : b.loggers.length = noisyLoggers.length ∧ ∀ filters ∈ b.loggers,
    filters.Nodup ∧ ∀ o, o ∈ filters ↔ IsOn o history
  /-- The root handlers are those that were added. -/
  names : b.handlers.map Handler.name = added history
  /-- On a root handler hangs one filter of everyone whose current installation began when the
  handler had been added, and no other. -/
  handlers (k : ℕ) (h : Handler ι) (hk : b.handlers[k]? = some h) :
    h.filters.Nodup ∧ ∀ o, o ∈ h.filters ↔ ∃ before, Began o before history ∧
      k < (added before).length
  /-- Who is installed installs without any effect. -/
  install_eq_self (o : ι) (ho : IsOn o history) : b.install o = b
  /-- Who is not installed removes without any effect. -/
  remove_eq_self (o : ι) (ho : ¬ IsOn o history) : b.remove o = b
  /-- A removal takes the filter of the owner off everywhere, and no other filter anywhere. -/
  remove_eq (o : ι) : b.remove o =
    ⟨b.handlers.map (Handler.update (·.filter (· != o))), b.loggers.map (·.filter (· != o)),
      b.installed.filter fun e => e.1 != o⟩

/-- **Filters are installed and removed exactly.** After every history of installations, removals
and new root handlers, everything on the board is as the history says. -/
theorem shows_after (history : List (Change ι)) : (after history).Shows history := by
  have hrecorded := recorded_after history
  have htidy := hrecorded.tidy
  refine ⟨fun o => hrecorded.isInstalled_iff, ⟨hrecorded.loggers, fun filters hmem => ?_⟩,
    hrecorded.names, fun k h hk => ?_, fun o ho => ?_, fun o ho => ?_, htidy.remove_eq⟩
  · obtain ⟨hnodup, hinstalled⟩ := htidy.logger hmem
    exact ⟨hnodup, fun o => (hinstalled o).trans hrecorded.isInstalled_iff⟩
  · obtain ⟨hnodup, hreached⟩ := htidy.handler hk
    refine ⟨hnodup, fun o => (hreached o).trans ?_⟩
    simp only [hrecorded.lookup_eq_some_iff]
    constructor
    · rintro ⟨_, ⟨before, hbegan, rfl⟩, hlt⟩
      exact ⟨before, hbegan, hlt⟩
    · rintro ⟨before, hbegan, hlt⟩
      exact ⟨_, ⟨before, hbegan, rfl⟩, hlt⟩
  · rw [install, if_pos (hrecorded.isInstalled_iff.2 ho)]
  · rw [remove, isInstalled_eq_false_iff.1 (hrecorded.isInstalled_eq_false_iff.2 ho)]

/-- A root handler that comes after an installation stays without its filter, also if the owner
installs again, but not if the owner removes the filter first. -/
example : (after [.install 0, .addHandler "x", .install 1, .install 0]).handlers = [⟨"x", [1]⟩] ∧
    (after [.install 0, .addHandler "x", .install 1, .remove 0, .install 0]).handlers =
      [⟨"x", [1, 0]⟩] := by
  decide

end Board

/-! ### Sessions -/

namespace Session

/-- The change that a step of a session makes on the board, if it makes one. -/
def Step.change? : Step → Option (Change String)
  | .handler name => some (.addHandler name)
  | .install owner => some (.install owner)
  | .remove owner => some (.remove owner)
  | .level _ _ | .send _ _ => none

/-- The session after some steps. -/
def run (steps : List Step) : Session :=
  steps.foldl (fun s t => (s.step t).1) empty

theorem board_step (s : Session) (t : Step) :
    (s.step t).1.board = t.change?.toList.foldl Board.change s.board := by
  cases t <;> rfl

/-- **The board of a session** is one after a history, that of its changes. -/
theorem board_run (steps : List Step) :
    (run steps).board = .after (steps.filterMap Step.change?) := by
  induction steps using List.reverseRecOn with
  | nil => rfl
  | append_singleton steps t ih =>
    rw [run, List.foldl_concat, board_step, ← run, ih, List.filterMap_append, Board.after,
      Board.after, List.foldl_append]
    cases t <;> rfl

end Session

end RollCall.Logging
