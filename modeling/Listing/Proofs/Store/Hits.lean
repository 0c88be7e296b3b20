import Listing.Proofs.Query.Requests
import Listing.Proofs.Store.Sorting
import Listing.Proofs.Translation

/-!
What a store answers to a descriptor. Its hits are the records that the descriptor asks for; they are
counted, put into the one order of the descriptor, and cut to its window. Descriptors that are alike have
the same hits in the same order. Hits that the sort keys hold in no order may not be listed at all.
-/

namespace Listing

instance Descriptor.decidableAsks (d : Descriptor) (record : Json) : Decidable (d.Asks record) :=
  decidable_of_iff _ (Store.admits_applyFilters d record)

theorem Descriptor.Alike.asks {d d' : Descriptor} (alike : d.Alike d') (record : Json) :
    d.Asks record → d'.Asks record := by
  rintro ⟨bundle, conditions, group, dates⟩
  refine ⟨?_, ?_, ?_, ?_⟩
  · rw [← alike.bundle, ← alike.bundleField]
    exact bundle
  · rintro ⟨field, test⟩ member
    have bound := (d'.conditions.get?_eq_some_iff).mpr member
    rw [← alike.conditions] at bound
    exact conditions _ ((d.conditions.get?_eq_some_iff).mp bound)
  · rw [← alike.group]
    exact group
  · rw [← alike.dates]
    exact dates

theorem Descriptor.Alike.symm {d d' : Descriptor} (alike : d.Alike d') : d'.Alike d :=
  ⟨alike.entityKind.symm, alike.bundleField.symm, alike.bundle.symm,
    fun field => (alike.conditions field).symm, alike.group.symm, alike.dates.symm, alike.sort.symm⟩

namespace Store
variable {s : Store} {d d' : Descriptor} {shuffle shuffle' : Shuffle}

def published (ids : List Count) (nodup : ids.Nodup) : Store where
  idField := "nid"
  records := {
    entries := ids.map fun id =>
      (id, .object [("nid", .ofCount id), ("status", .ofNat 1), ("type", .text "page")])
    nodup := by
      rw [List.map_map]
      exact (List.map_id ids).symm ▸ nodup }

/-- Published records whose values `v` stand in a circle: 10 before 1a before 9, as texts, and 9 before 10, as
numbers. Three are in some order, but one and twenty are too many to be sorted. -/
def tangle : Store where
  idField := "nid"
  records := {
    entries := (["10", "10", "10", "9", "9", "10", "1a", "10", "10", "10", "9", "9", "10", "1a", "10", "10", "10", "9",
      "9", "10", "1a"].zipIdx 1).map fun (label, place) =>
        (UInt64.ofNat place, .object [("nid", .ofCount (UInt64.ofNat place)), ("status", .ofNat 1),
          ("type", .text "page"), ("v", .text label)])
    nodup := by decide +kernel }

/-! ### Hits -/

def hits (s : Store) (d : Descriptor) : List Entry :=
  s.records.entries.filter fun entry => d.Asks entry.2

/-- All ids that a descriptor selects in its own order: random order off, no window. -/
def listing (s : Store) (d : Descriptor) : Option (List Count) :=
  s.run .still { selecting.applyQuery { d with random := false } .empty with window := none }

theorem matching_eq_hits {selection : Selection}
    (filters : selection.filters = (selecting.applyFilters d .empty).filters) :
    s.matching selection = s.hits d := by
  unfold matching hits
  apply List.filter_congr
  intro entry _
  rw [Bool.eq_iff_iff, decide_eq_true_eq, ← admits_applyFilters]
  unfold Selection.admits
  rw [filters]

theorem hits_congr (s : Store) (alike : d.Alike d') : s.hits d = s.hits d' := by
  unfold hits
  apply List.filter_congr
  intro entry _
  exact decide_eq_decide.mpr ⟨alike.asks entry.2, alike.symm.asks entry.2⟩

theorem listing_eq (s : Store) (d : Descriptor) :
    s.listing d = (sortEntries d.sort (s.hits d)).map (·.map Prod.fst) := by
  have applied := applyQuery_empty { d with random := false }
  have alike : Descriptor.Alike { d with random := false } d := ⟨rfl, rfl, rfl, fun _ => rfl, rfl, rfl, rfl⟩
  have found : s.matching { selecting.applyQuery { d with random := false } .empty with window := none } =
      s.hits d := by
    rw [matching_eq_hits (d := { d with random := false }) (by rw [applied]), hits_congr s alike]
  unfold listing run sequence
  rw [found, applied]
  exact Option.map_map ..

def ordered (s : Store) (shuffle : Shuffle) (d : Descriptor) : Option (List Count) :=
  if d.random then some (shuffle.order ((s.hits d).map Prod.fst)) else s.listing d

theorem execute_eq (s : Store) (shuffle : Shuffle) (d : Descriptor) :
    s.execute shuffle d = (s.ordered shuffle d).map (cutWindow (some d.window)) := by
  have applied := applyQuery_empty d
  have found : s.matching (selecting.applyQuery d .empty) = s.hits d :=
    matching_eq_hits (by rw [applied])
  unfold execute run sequence ordered
  rw [found, applied, listing_eq]
  cases d.random with
  | false =>
    have untagged : ∀ filters sort window, Selection.hasTag ⟨filters, sort, window, []⟩ randomTag = false :=
      fun _ _ _ => rfl
    simp only [untagged, Bool.false_eq_true, if_false]
  | true =>
    have tagged : ∀ filters sort window, Selection.hasTag ⟨filters, sort, window, [randomTag]⟩ randomTag = true := by
      intro filters sort window
      simp only [Selection.hasTag, List.contains_cons, BEq.rfl, Bool.true_or]
    simp only [tagged, if_true]

theorem execute_of_settled (s : Store) (shuffle : Shuffle) (settled : d.random = false) :
    s.execute shuffle d =
      (s.listing d).map fun ids => (ids.drop d.window.start.toNat).take d.window.length.toNat := by
  rw [execute_eq, ordered, settled]
  rfl

theorem toNat_count (s : Store) (d : Descriptor) :
    (s.count d).toNat = min (s.hits d).length 18446744073709551615 := by
  unfold count
  rw [Count.toNat_clamp, matching_eq_hits rfl]

theorem hits_nodup (s : Store) (d : Descriptor) : ((s.hits d).map Prod.fst).Nodup :=
  s.records.nodup.sublist (List.filter_sublist.map Prod.fst)

theorem length_hits_le (s : Store) (d : Descriptor) : (s.hits d).length ≤ s.size := List.length_filter_le _ _

/-- A store whose size is a count counts all that it finds. -/
theorem toNat_count_of_size (small : s.size ≤ Count.top.toNat) (d : Descriptor) :
    (s.count d).toNat = (s.hits d).length := by
  have within := Nat.le_trans (s.length_hits_le d) small
  rw [Count.toNat_top] at within
  rw [toNat_count, Nat.min_eq_left within]

theorem mem_hits {id : Count} :
    id ∈ (s.hits d).map Prod.fst ↔ ∃ record, s.get? id = some record ∧ d.Asks record := by
  rw [List.mem_map]
  constructor
  · rintro ⟨⟨id, record⟩, hit, rfl⟩
    obtain ⟨member, asked⟩ := List.mem_filter.mp hit
    exact ⟨record, (s.records.get?_eq_some_iff).mpr member, of_decide_eq_true asked⟩
  · rintro ⟨record, found, asked⟩
    exact ⟨(id, record), List.mem_filter.mpr ⟨(s.records.get?_eq_some_iff).mp found,
      decide_eq_true asked⟩, rfl⟩

/-! ### Order -/

section
variable {ids : List Count}

theorem listing_perm (listed : s.listing d = some ids) : ids.Perm ((s.hits d).map Prod.fst) := by
  rw [listing_eq] at listed
  obtain ⟨order, sorted, rfl⟩ := Option.map_eq_some_iff.mp listed
  exact (sortEntries_perm sorted).map Prod.fst

theorem exists_listing (trans : TransOn (compareEntries d.sort) (s.hits d)) : ∃ ids, s.listing d = some ids := by
  obtain ⟨order, sorted, -⟩ := exists_inOrder trans
  rw [listing_eq, sorted]
  exact ⟨_, rfl⟩

theorem listing_length (listed : s.listing d = some ids) : ids.length = (s.hits d).length := by
  rw [(listing_perm listed).length_eq, List.length_map]

theorem listing_nodup (listed : s.listing d = some ids) : ids.Nodup :=
  (listing_perm listed).nodup_iff.mpr (s.hits_nodup d)

theorem mem_listing (listed : s.listing d = some ids) {id : Count} :
    id ∈ ids ↔ ∃ record, s.get? id = some record ∧ d.Asks record := by
  rw [(listing_perm listed).mem_iff, mem_hits]

theorem ordered_perm (listed : s.ordered shuffle d = some ids) : ids.Perm ((s.hits d).map Prod.fst) := by
  unfold ordered at listed
  split at listed
  · exact Option.some.inj listed ▸ shuffle.perm _
  · exact listing_perm listed

theorem found_of_mem_execute (executed : s.execute shuffle d = some ids) {id : Count} (member : id ∈ ids) :
    ∃ record, s.get? id = some record ∧ d.Asks record := by
  rw [execute_eq] at executed
  obtain ⟨all, listed, rfl⟩ := Option.map_eq_some_iff.mp executed
  exact mem_hits.mp ((ordered_perm listed).mem_iff.mp (List.mem_of_mem_drop (List.mem_of_mem_take member)))

end

/-! ### Alike descriptors -/

theorem listing_congr (s : Store) (alike : d.Alike d') : s.listing d = s.listing d' := by
  rw [listing_eq, listing_eq, hits_congr s alike, alike.sort]

theorem count_congr (s : Store) (alike : d.Alike d') : s.count d = s.count d' := by
  unfold count
  rw [matching_eq_hits rfl, matching_eq_hits rfl, hits_congr s alike]

/-! ### Windows -/

theorem execute_nodup {ids : List Count} (executed : s.execute shuffle d = some ids) : ids.Nodup := by
  rw [execute_eq] at executed
  obtain ⟨all, listed, rfl⟩ := Option.map_eq_some_iff.mp executed
  have distinct := (ordered_perm listed).nodup_iff.mpr (s.hits_nodup d)
  exact distinct.sublist ((List.take_sublist _ _).trans (List.drop_sublist _ _))

theorem length_execute {ids : List Count} (executed : s.execute shuffle d = some ids) :
    ids.length = min d.window.length.toNat ((s.hits d).length - d.window.start.toNat) := by
  rw [execute_eq] at executed
  obtain ⟨all, listed, rfl⟩ := Option.map_eq_some_iff.mp executed
  have size := (ordered_perm listed).length_eq
  rw [List.length_map] at size
  simp only [cutWindow, List.length_take, List.length_drop, size]

/-- Nothing but hits that the sort keys hold in no order keeps a store from an answer. -/
theorem exists_execute (s : Store) (shuffle : Shuffle)
    (sorted : d.random = true ∨ TransOn (compareEntries d.sort) (s.hits d)) :
    ∃ ids, s.execute shuffle d = some ids := by
  rw [execute_eq, ordered]
  rcases sorted with random | trans
  · rw [if_pos random]
    exact ⟨_, rfl⟩
  · obtain ⟨ids, listed⟩ := exists_listing trans
    rw [listed]
    cases d.random <;> exact ⟨_, rfl⟩

/-- A store returns distinct ids of records that the descriptor asks for, as many as the window leaves of
the count, whatever order a random listing takes. In any other listing they stand where the window says. Only hits
that the sort keys hold in no order may keep it from an answer. -/
theorem execute_agrees_with_count (s : Store) (shuffle : Shuffle) (d : Descriptor) :
    (∀ ids, s.execute shuffle d = some ids →
      ids.Nodup ∧
      (∀ id ∈ ids, ∃ record, s.get? id = some record ∧ d.Asks record) ∧
      -- Only records under each of the 2 ^ 64 ids would be more than a count says; no memory holds them.
      (s.size ≤ Count.top.toNat →
        ids.length = min d.window.length.toNat ((s.count d).toNat - d.window.start.toNat)) ∧
      (d.random = false → ∃ all, s.listing d = some all ∧
        ∀ i, ids[i]? = if i < d.window.length.toNat then all[d.window.start.toNat + i]? else none)) ∧
    (d.random = true ∨ TransOn (compareEntries d.sort) (s.hits d) → ∃ ids, s.execute shuffle d = some ids) := by
  refine ⟨fun ids executed => ⟨execute_nodup executed, ?_, ?_, ?_⟩, s.exists_execute shuffle⟩
  · exact fun id member => found_of_mem_execute executed member
  · intro small
    rw [toNat_count_of_size small]
    exact length_execute executed
  · intro settled
    rw [execute_of_settled s shuffle settled] at executed
    obtain ⟨all, listed, rfl⟩ := Option.map_eq_some_iff.mp executed
    refine ⟨all, listed, fun i => ?_⟩
    rw [List.getElem?_take, List.getElem?_drop]

theorem windows_of_three_records :
    let s := published [3, 5, 4] (by decide)
    let backwards : Shuffle := ⟨List.reverse, List.reverse_perm⟩
    let p : Params := .ofList [("sort", "nid-DESC"), ("range", "1-18446744073709551614")]
    let d := (Builder.standard.finish (Builder.standard.draft p.entries)).descriptor
    s.size ≤ Count.top.toNat ∧
      (∃ ids, s.execute backwards { d with random := true } = some ids ∧ ids.length = 2) ∧
      d.random = false ∧ ∃ ids, s.execute backwards d = some ids ∧ ids[0]? = some 4 := by
  intro s backwards p d
  have small : s.size ≤ Count.top.toNat := by decide
  have settled : d.random = false := by decide +kernel
  have trans : TransOn (compareEntries d.sort) (s.hits d) := by decide +kernel
  have all : s.listing d = some [5, 4, 3] := by decide +kernel
  have shuffled := execute_agrees_with_count s backwards { d with random := true }
  obtain ⟨ids, executed⟩ := shuffled.2 (.inl rfl)
  obtain ⟨_, _, number, _⟩ := shuffled.1 ids executed
  obtain ⟨sound, total⟩ := execute_agrees_with_count s backwards d
  obtain ⟨ids', executed'⟩ := total (.inr trans)
  obtain ⟨_, _, _, position⟩ := sound ids' executed'
  obtain ⟨listed, same, places⟩ := position settled
  obtain rfl : [5, 4, 3] = listed := Option.some.inj (all.symm.trans same)
  refine ⟨small, ⟨ids, executed, (number small).trans ?_⟩, settled, ids', executed', (places 0).trans ?_⟩
  · decide +kernel
  · decide +kernel

end Store
end Listing
