import Mathlib.Data.List.Induction
import RollCall.ObjectKey
import RollCall.Presence.Basic
import RollCall.Proofs.Text.Plain

/-!
# Keys and their beginnings

A key is a prefix, the name of a cluster and the name of a node, one behind the other. What is in
front of a name is a *stem*: nothing, or a text that ends with a slash. A name has no slash, so the
last slash of a text is where its last name begins, and the parts of a key can be told from the key:
the names themselves, and the prefix but for the slashes at its ends. Likewise, a key begins like
those of some cluster exactly if the beginning that it has itself does.

## Main definitions

* `IsCore`: a text without the slashes at its ends.
* `IsStem`: what may be in front of a name.

## Main results

* `normalize_eq_iff`: what normalizing a prefix leaves.
* `IsStem.append_inj`: a text decides its last name, and the stem in front of it.
* `prefix_node_iff`: which keys begin like those of a cluster.
* `cluster_eq_cluster_iff`, `node_inj`: what the beginning of a key and the key decide.
* `node_eq_node_iff`: keys never collide, and a cluster lists only itself.
-/

namespace RollCall

namespace ObjectKey

open Presence (IsName)

/-! ### Prefixes -/

/-- A text is another one without the slashes at its ends. -/
structure IsCore (core text : String) : Prop where
  head : core.toList.head? ≠ some '/'
  last : core.toList.getLast? ≠ some '/'
  padded : ∃ k l, text.toList = List.replicate k '/' ++ core.toList ++ List.replicate l '/'

theorem normalizeList_eq (cs : List Char) : normalizeList cs = Text.trimList (· == '/') cs :=
  rfl

theorem eq_replicate_of_all {cs : List Char} (h : ∀ c ∈ cs, (c == '/') = true) :
    cs = List.replicate cs.length '/' :=
  List.eq_replicate_of_mem fun c hc => beq_iff_eq.1 (h c hc)

/-- **What normalizing a prefix leaves**: all but the slashes at its ends. -/
theorem normalize_eq_iff {p q : String} : normalize p = q ↔ IsCore q p := by
  rw [normalize, normalizeList_eq]
  constructor
  · rintro rfl
    obtain ⟨front, back, hsplit, hfront, hback⟩ :=
      Text.exists_trimList_append (· == '/') p.toList
    rw [eq_replicate_of_all hfront, eq_replicate_of_all hback] at hsplit
    refine ⟨?_, ?_, ?_⟩ <;> rw [String.toList_ofList]
    · exact fun h => nomatch Text.head?_trimList _ h
    · exact fun h => nomatch Text.getLast?_trimList _ h
    · exact ⟨_, _, hsplit⟩
  · rintro ⟨hhead, hlast, k, l, hpadded⟩
    have hslash {n : ℕ} : ∀ c ∈ List.replicate n '/', (c == '/') = true := by
      intro c hc
      rw [List.eq_of_mem_replicate hc]
      rfl
    have hother {o : Option Char} (ho : o ≠ some '/') : ∀ c ∈ o, (c == '/') = false := by
      rintro c rfl
      exact beq_false_of_ne fun h => ho (congrArg some h)
    rw [hpadded, Text.trimList_append hslash hslash (hother hhead) (hother hlast),
      String.ofList_toList]

/-! ### Stems and names -/

/-- What may be in front of a name: nothing, or a text that ends with a slash. -/
def IsStem (cs : List Char) : Prop :=
  cs = [] ∨ ∃ front, cs = front ++ ['/']

/-- A text begins with a stem exactly if what is in front of its last name does. -/
theorem IsStem.prefix_append_iff {stem text name : List Char} (hstem : IsStem stem)
    (hname : '/' ∉ name) : stem <+: text ++ name ↔ stem <+: text := by
  refine ⟨fun h => ?_, fun h => h.trans (List.prefix_append text name)⟩
  obtain rfl | ⟨front, rfl⟩ := hstem
  · exact List.nil_prefix
  -- Character by character from the end: the last one of the stem is a slash, and so not in the name.
  induction name using List.reverseRecOn with
  | nil => rwa [List.append_nil] at h
  | append_singleton name c ih =>
    rw [List.mem_append, not_or, List.mem_singleton] at hname
    rw [← List.append_assoc, List.prefix_concat_iff] at h
    obtain hsame | hshorter := h
    · exact absurd (List.singleton_inj.1 (List.append_inj_right' hsame rfl)) hname.2
    · exact ih hname.1 hshorter

/-- **A text decides its last name**, and the stem in front of it. -/
theorem IsStem.append_inj {stem stem' name name' : List Char} (hstem : IsStem stem)
    (hstem' : IsStem stem') (hname : '/' ∉ name) (hname' : '/' ∉ name')
    (h : stem ++ name = stem' ++ name') : stem = stem' ∧ name = name' := by
  have hle : stem <+: stem' :=
    (hstem.prefix_append_iff hname').1 (h ▸ List.prefix_append stem name)
  have hge : stem' <+: stem :=
    (hstem'.prefix_append_iff hname).1 (h ▸ List.prefix_append stem' name')
  obtain rfl := hle.eq_of_length_le hge.length_le
  exact ⟨rfl, List.append_cancel_left h⟩

variable {p p' c c' n n' name name' : String}

/-- What is in front of the name of a cluster. -/
def base (keyPrefix : String) : List Char :=
  if (normalize keyPrefix).isEmpty then [] else (normalize keyPrefix).toList ++ ['/']

theorem isStem_base (p : String) : IsStem (base p) := by
  rw [base]
  split
  · exact .inl rfl
  · exact .inr ⟨_, rfl⟩

/-- The base decides the prefix, but for the slashes at its ends. -/
theorem base_eq_base_iff : base p = base p' ↔ normalize p = normalize p' := by
  refine ⟨fun h => ?_, fun h => by rw [base, base, h]⟩
  rw [base, base] at h
  split at h <;> split at h
  · next hp hp' => exact (String.isEmpty_iff.1 hp).trans (String.isEmpty_iff.1 hp').symm
  · exact absurd h.symm (List.append_ne_nil_of_right_ne_nil _ (List.cons_ne_nil _ _))
  · exact absurd h (List.append_ne_nil_of_right_ne_nil _ (List.cons_ne_nil _ _))
  · exact String.toList_inj.1 (List.append_cancel_right h)

theorem toList_cluster (p c : String) :
    (cluster p c).toList = base p ++ c.toList ++ ['/'] := by
  rw [cluster, base]
  split
  · exact String.toList_append ..
  · rw [String.toList_append, String.toList_append, String.toList_append]
    rfl

theorem isStem_cluster (p c : String) : IsStem (cluster p c).toList :=
  .inr ⟨_, toList_cluster p c⟩

/-! ### Keys -/

/-- **Which keys begin like those of a cluster**: those of clusters whose keys all do. -/
theorem prefix_node_iff (hname : IsName name) :
    (cluster p c).toList <+: (node p' c' name).toList ↔
      (cluster p c).toList <+: (cluster p' c').toList := by
  rw [node, String.toList_append, (isStem_cluster p c).prefix_append_iff hname.2]

/-- **A key decides the beginning that it has, and the node.** -/
theorem node_inj (hname : IsName name) (hname' : IsName name') (h : node p c name = node p' c' name') :
    cluster p c = cluster p' c' ∧ name = name' := by
  rw [node, node, ← String.toList_inj, String.toList_append, String.toList_append] at h
  rw [← String.toList_inj, ← String.toList_inj]
  exact (isStem_cluster p c).append_inj (isStem_cluster p' c') hname.2 hname'.2 h

/-- **For a cluster the beginning decides the prefix.** -/
theorem normalize_eq_of_cluster_eq (h : cluster p c = cluster p' c) :
    normalize p = normalize p' := by
  rw [← String.toList_inj, toList_cluster, toList_cluster] at h
  exact base_eq_base_iff.1 (List.append_cancel_right (List.append_cancel_right h))

/-- **What the beginning of a key decides**: the cluster, and the prefix but for its slashes. -/
theorem cluster_eq_cluster_iff (hc : IsName c) (hc' : IsName c') :
    cluster p c = cluster p' c' ↔ normalize p = normalize p' ∧ c = c' := by
  rw [← String.toList_inj, toList_cluster, toList_cluster, List.append_left_inj,
    ← base_eq_base_iff, ← String.toList_inj]
  constructor
  · exact (isStem_base p).append_inj (isStem_base p') hc.2 hc'.2
  · rintro ⟨hbase, hname⟩
    rw [hbase, hname]

/-- Under one prefix no beginning of a cluster begins like that of another cluster. -/
theorem cluster_prefix_cluster_iff (hc : IsName c) :
    (cluster p c').toList <+: (cluster p c).toList ↔ c = c' := by
  refine ⟨fun h => ?_, fun h => h ▸ List.prefix_refl _⟩
  rw [toList_cluster, toList_cluster, List.append_assoc, List.append_assoc,
    List.prefix_append_right_inj, List.prefix_concat_iff] at h
  obtain hsame | hshorter := h
  · exact String.toList_inj.1 (List.append_cancel_right hsame).symm
  · exact absurd (hshorter.subset (List.mem_append_right _ (List.mem_singleton_self '/'))) hc.2

/-- **Keys never collide, and a cluster lists only itself.** Two keys of nodes are the same exactly
if the names of the clusters and of the nodes are, and the prefixes but for the slashes at their
ends; and under one prefix the key of a node begins like those of a cluster exactly if this is its
cluster. -/
theorem node_eq_node_iff (p p' : String) (hc : IsName c) (hc' : IsName c') (hn : IsName n)
    (hn' : IsName n') :
    (node p c n = node p' c' n' ↔ normalize p = normalize p' ∧ c = c' ∧ n = n') ∧
      (∀ core, normalize p = core ↔ IsCore core p) ∧
      ((cluster p c').toList <+: (node p c n).toList ↔ c = c') := by
  refine ⟨⟨fun h => ?_, ?_⟩, fun _ => normalize_eq_iff, ?_⟩
  · obtain ⟨hcluster, hnode⟩ := node_inj hn hn' h
    obtain ⟨hfront, hname⟩ := (cluster_eq_cluster_iff hc hc').1 hcluster
    exact ⟨hfront, hname, hnode⟩
  · rintro ⟨hfront, rfl, rfl⟩
    rw [node, node, (cluster_eq_cluster_iff hc hc).2 ⟨hfront, rfl⟩]
  · rw [prefix_node_iff hn, cluster_prefix_cluster_iff hc]

/-- Slashes in a row stay inside a prefix and go at its ends; what is in front of the last two names
is the prefix, even if it is empty; and a cluster does not list one whose name is longer. -/
theorem node_eq_node_iff_slashes :
    node "//a//b/" "c" "n" = node "a//b" "c" "n" ∧ node "///" "c" "n" = "c/n" ∧
      node "b" "c" "n" ≠ node "" "b" "n" ∧
      ¬ (cluster "a" "c").toList <+: (node "a" "c-2" "n").toList := by
  have hb : IsName "b" := by decide
  have hc : IsName "c" := by decide
  have hn : IsName "n" := by decide
  have hcollide := (node_eq_node_iff "//a//b/" "a//b" hc hc hn hn).1
  have hdiffer := (node_eq_node_iff "b" "" hc hb hn hn).1
  have hc' : IsName "c-2" := by decide
  have hlonger := (node_eq_node_iff "a" "a" hc' hc hn hn).2.2
  refine ⟨hcollide.2 ⟨by decide, rfl, rfl⟩, by decide, fun h => ?_, fun h => ?_⟩
  · exact absurd (hdiffer.1 h).2.1 (by decide)
  · exact absurd (hlonger.1 h) (by decide)

end ObjectKey

end RollCall
