import Listing.Proofs.Sorting.Stable
import Listing.Proofs.Store.Order
import Listing.Store.Run

/-!
What a sorted listing looks like. Where the order by the sort keys is transitive among the hits there is a listing. It
holds each of them, none before a lesser one, and those that tie in the order of the store. There is only one such
list, so that it makes no difference by which steps it was sorted.
-/

namespace Listing

/-! ### Two members of a list -/

section
variable {α : Type} {l : List α} {a b : α}

theorem pair_sublist_or (isA : a ∈ l) (isB : b ∈ l) (apart : a ≠ b) : [a, b].Sublist l ∨ [b, a].Sublist l := by
  obtain ⟨front, back, rfl⟩ := List.append_of_mem isA
  rcases List.mem_append.mp isB with before | behind
  · exact .inr ((List.singleton_sublist.mpr before).append (List.singleton_sublist.mpr List.mem_cons_self))
  · have later := (List.mem_cons.mp behind).resolve_left (Ne.symm apart)
    exact .inl (((List.singleton_sublist.mpr later).cons_cons a).trans (List.sublist_append_right front _))

theorem not_pair_sublist_of_nodup (nodup : l.Nodup) (forward : [a, b].Sublist l) : ¬[b, a].Sublist l := by
  intro backward
  induction l with
  | nil => cases forward
  | cons c rest ih =>
    obtain ⟨fresh, others⟩ := List.nodup_cons.mp nodup
    cases forward with
    | cons _ forward =>
      cases backward with
      | cons _ backward => exact ih others forward backward
      | cons_cons _ _ => exact fresh (forward.subset (by simp))
    | cons_cons _ later =>
      cases backward with
      | cons _ backward => exact fresh (backward.subset (by simp))
      | cons_cons _ _ => exact fresh (later.subset (by simp))

end

namespace Store

/-! ### Sorting -/

def compareEntries (keys : List SortKey) (a b : Entry) : Ordering := compareRecords keys a.2 b.2

instance (keys : List SortKey) : Std.OrientedCmp (compareEntries keys) := ⟨compareRecords_swap keys _ _⟩

variable {keys : List SortKey} {members entries order : List Entry} {entry a b : Entry}

@[simp]
theorem sortEntries_nil : sortEntries [] entries = some entries := rfl

theorem precedes_eq_false : precedes keys a b = false ↔ (compareEntries keys b a).isLE := by
  have turned : compareEntries keys a b = (compareEntries keys b a).swap := Std.OrientedCmp.eq_swap
  rw [precedes, beq_eq_false_iff_ne, ← compareEntries, turned]
  cases compareEntries keys b a <;> decide

theorem orderOn_of_transOn (trans : TransOn (compareEntries keys) members) :
    Sorting.OrderOn (precedes keys) members where
  asymm a _ b _ less := by
    rw [precedes_eq_false]
    exact Ordering.isLE_of_eq_lt (beq_iff_eq.mp less)
  trans a isA b isB c isC first second := by
    rw [precedes_eq_false] at first second ⊢
    exact trans a isA b isB c isC first second

theorem sortEntries_perm (sorted : sortEntries keys entries = some order) : order.Perm entries := by
  unfold sortEntries at sorted
  split at sorted
  · exact Option.some.inj sorted ▸ .refl _
  · exact ((Sorting.sorts_stable (precedes keys) entries).sound order sorted).perm

/-! ### Lists in order -/

/-- Entries put in order: all of them, none before a lesser one, and those that tie as they came. -/
structure InOrder (keys : List SortKey) (entries order : List Entry) : Prop where
  perm : order.Perm entries
  ascending : order.Pairwise fun a b => (compareRecords keys a.2 b.2).isLE
  stable : ∀ a b, [a, b].Sublist entries → compareRecords keys a.2 b.2 = .eq → [a, b].Sublist order

theorem exists_inOrder (trans : TransOn (compareEntries keys) entries) :
    ∃ order, sortEntries keys entries = some order ∧ InOrder keys entries order := by
  unfold sortEntries
  split
  · rename_i none
    obtain rfl : keys = [] := List.isEmpty_iff.mp none
    exact ⟨entries, rfl, .refl _, List.pairwise_of_forall_mem_list fun _ _ _ _ => rfl, fun _ _ pair _ => pair⟩
  · have orders := orderOn_of_transOn trans
    have sorts := Sorting.sorts_stable (precedes keys) entries
    obtain ⟨order, sorted⟩ := sorts.total orders (List.Subset.refl _)
    obtain ⟨perm, arranged⟩ := sorts.sound order sorted
    obtain ⟨ascending, same⟩ := arranged orders (List.Subset.refl _)
    refine ⟨order, sorted, perm, ascending.imp precedes_eq_false.mp, fun a b pair tie => ?_⟩
    have level : compareEntries keys a b = .eq := tie
    have own : Sorting.ties (precedes keys) a a = true := by
      simp [Sorting.ties, orders.irrefl (pair.subset List.mem_cons_self)]
    have other : Sorting.ties (precedes keys) a b = true := by
      rw [Sorting.ties, Bool.and_eq_true, Bool.not_eq_true', Bool.not_eq_true', precedes_eq_false, precedes_eq_false,
        level, Std.OrientedCmp.eq_symm level]
      exact ⟨rfl, rfl⟩
    have both : [a, b].filter (Sorting.ties (precedes keys) a) = [a, b] := by
      rw [List.filter_cons_of_pos own, List.filter_cons_of_pos other, List.filter_nil]
    rw [← both]
    exact (same a (pair.subset List.mem_cons_self) ▸ pair.filter _).trans List.filter_sublist

theorem InOrder.sublist_of_lt {order : List Entry} (inOrder : InOrder keys entries order) (isA : a ∈ entries)
    (isB : b ∈ entries) (less : compareRecords keys a.2 b.2 = .lt) : [a, b].Sublist order := by
  have apart : a ≠ b := by
    rintro rfl
    exact Std.OrientedCmp.not_lt_of_lt less less
  rcases pair_sublist_or (inOrder.perm.mem_iff.mpr isA) (inOrder.perm.mem_iff.mpr isB) apart with forward | backward
  · exact forward
  · have below := List.pairwise_iff_forall_sublist.mp inOrder.ascending backward
    exact absurd below (Std.OrientedCmp.not_isLE_of_lt less)

/-- Two entries in a list in order differ in the order of records, or stand as they came. -/
theorem InOrder.lt_or_came {order : List Entry} (inOrder : InOrder keys entries order) (nodup : entries.Nodup)
    (pair : [a, b].Sublist order) :
    compareRecords keys a.2 b.2 = .lt ∨ compareRecords keys a.2 b.2 = .eq ∧ [a, b].Sublist entries := by
  have below := List.pairwise_iff_forall_sublist.mp inOrder.ascending pair
  cases order : compareRecords keys a.2 b.2 with
  | lt => exact .inl rfl
  | gt =>
    rw [order] at below
    cases below
  | eq =>
    refine .inr ⟨rfl, ?_⟩
    have once := inOrder.perm.nodup_iff.mpr nodup
    have isA := inOrder.perm.mem_iff.mp (pair.subset List.mem_cons_self)
    have isB := inOrder.perm.mem_iff.mp (pair.subset (List.mem_cons_of_mem _ List.mem_cons_self))
    have apart : a ≠ b := by simpa using once.sublist pair
    rcases pair_sublist_or isA isB apart with forward | backward
    · exact forward
    · have moved := inOrder.stable b a backward (Std.OrientedCmp.eq_symm order)
      exact absurd moved (not_pair_sublist_of_nodup once pair)

/-- There is one way to put entries in order. -/
theorem InOrder.unique {order order' : List Entry} (inOrder : InOrder keys entries order)
    (inOrder' : InOrder keys entries order') (nodup : entries.Nodup) : order = order' := by
  refine List.Perm.eq_of_pairwise ?_ (List.pairwise_iff_forall_sublist.mpr fun pair => inOrder.lt_or_came nodup pair)
    (List.pairwise_iff_forall_sublist.mpr fun pair => inOrder'.lt_or_came nodup pair)
    (inOrder.perm.trans inOrder'.perm.symm)
  intro a b _ _ forward backward
  rcases forward with less | ⟨level, came⟩
  · rcases backward with more | ⟨level, -⟩
    · exact absurd more (Std.OrientedCmp.not_lt_of_lt less)
    · rw [Std.OrientedCmp.eq_symm level] at less
      cases less
  · rcases backward with more | ⟨-, went⟩
    · rw [Std.OrientedCmp.gt_of_lt more] at level
      cases level
    · exact absurd went (not_pair_sublist_of_nodup nodup came)

/-! ### Listings -/

theorem compareRecords_append (first second : List SortKey) (a b : Json) :
    compareRecords (first ++ second) a b = (compareRecords first a b).then (compareRecords second a b) := by
  induction first with
  | nil => rfl
  | cons key rest ih =>
    rw [List.cons_append, compareRecords_cons, compareRecords_cons, compareLex, compareLex, ih, Ordering.then_assoc]

theorem compareRecords_of_ties {a b : Json} (level : ∀ key ∈ keys, compareBy key a b = .eq) :
    compareRecords keys a b = .eq := by
  induction keys with
  | nil => rfl
  | cons key rest ih =>
    obtain ⟨own, others⟩ := List.forall_mem_cons.mp level
    rw [compareRecords_cons, compareLex, own, ih others]
    rfl

/-- A value under a key counts for more than what follows the key, and a missing one comes last. -/
theorem compareRecords_of_missing {before after : List SortKey} {key : SortKey} {a b : Json}
    (level : ∀ k ∈ before, compareBy k a b = .eq) (held : resolve a key.field ≠ [])
    (missing : resolve b key.field = []) : compareRecords (before ++ key :: after) a b = .lt := by
  obtain ⟨x, rest, values⟩ := List.exists_cons_of_ne_nil held
  have own : compareBy key a b = .lt := by
    rw [compareBy, values, missing]
    rfl
  rw [compareRecords_append, compareRecords_of_ties level, compareRecords_cons, compareLex, own]
  rfl

theorem run_of_settled (s : Store) (shuffle : Shuffle) {q : Selection} (settled : q.hasTag randomTag = false) :
    s.run shuffle q =
      (sortEntries q.sort (s.matching q)).map fun order => cutWindow q.window (order.map Prod.fst) := by
  rw [run, sequence, settled]
  exact Option.map_map ..

/-- The listing of a query that is not random is the one list of its hits in order, in which a hit without a value
comes behind those that have one whatever the direction, and without sort keys the order of the store. The window
cuts it. -/
theorem run_in_order (s : Store) (shuffle : Shuffle) {q : Selection} (settled : q.hasTag randomTag = false)
    (trans : TransOn (compareEntries q.sort) (s.matching q)) :
    ∃ order : List Entry,
      s.run shuffle { q with window := none } = some (order.map Prod.fst) ∧
      s.run shuffle q = some (cutWindow q.window (order.map Prod.fst)) ∧
      InOrder q.sort (s.matching q) order ∧ (∀ other, InOrder q.sort (s.matching q) other → other = order) ∧
      (∀ before key after, q.sort = before ++ key :: after → ∀ a ∈ s.matching q, ∀ b ∈ s.matching q,
        (∀ k ∈ before, compareBy k a.2 b.2 = .eq) → resolve a.2 key.field ≠ [] → resolve b.2 key.field = [] →
          [a, b].Sublist order) ∧
      (q.sort = [] → order = s.matching q) := by
  obtain ⟨order, sorted, inOrder⟩ := exists_inOrder trans
  have distinct : s.records.entries.Nodup :=
    List.Pairwise.of_map Prod.fst (fun _ _ apart => apart ∘ congrArg Prod.fst) s.records.nodup
  have nodup : (s.matching q).Nodup := distinct.filter _
  refine ⟨order, ?_, ?_, inOrder, fun other found => found.unique inOrder nodup, ?_, ?_⟩
  · rw [run_of_settled (q := { q with window := none }) s shuffle settled]
    exact congrArg (Option.map _) sorted
  · rw [s.run_of_settled shuffle settled, sorted]
    rfl
  · intro before key after keys a isA b isB level held missing
    refine inOrder.sublist_of_lt isA isB ?_
    rw [keys]
    exact compareRecords_of_missing level held missing
  · intro none
    rw [none] at sorted
    exact (Option.some.inj sorted).symm

/-- Two hits that tie stay as they came, and the first one, which has no value, goes to the end. -/
theorem hits_in_descending_order :
    let held (text : String) : Json := .object [("v", .text text)]
    let s : Store := ⟨"nid", [(4, .object []), (2, held "b"), (3, held "a"), (1, held "b")], by decide⟩
    let q : Selection := ⟨[], [⟨"v", .desc⟩], some ⟨1, 2⟩, []⟩
    q.hasTag randomTag = false ∧ TransOn (compareEntries q.sort) (s.matching q) ∧
      ∃ order : List Entry, s.run .still { q with window := none } = some (order.map Prod.fst) ∧
        s.run .still q = some (cutWindow (some ⟨1, 2⟩) (order.map Prod.fst)) ∧
        [(2, held "b"), (1, held "b")].Sublist order ∧ [(3, held "a"), (4, .object [])].Sublist order := by
  intro held s q
  have settled : q.hasTag randomTag = false := by decide
  have trans : TransOn (compareEntries q.sort) (s.matching q) := by decide +kernel
  obtain ⟨order, whole, cut, inOrder, -, missingLast, -⟩ := run_in_order s .still settled trans
  have matching : s.matching q = s.records.entries := rfl
  have tie : compareRecords q.sort (held "b") (held "b") = .eq := Std.ReflCmp.compare_self
  have came : [(2, held "b"), (1, held "b")].Sublist (s.matching q) := by
    rw [matching]
    exact .cons _ (.cons_cons _ (.cons _ (.cons_cons _ .slnil)))
  refine ⟨settled, trans, order, whole, cut, inOrder.stable _ _ came tie, ?_⟩
  refine missingLast [] ⟨"v", .desc⟩ [] rfl (3, held "a") ?_ (4, .object []) ?_ nofun ?_ rfl
  · simp [matching, s]
  · simp [matching, s]
  · exact List.cons_ne_nil _ _

end Store
end Listing
