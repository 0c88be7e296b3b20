import Listing.Proofs.Sorting.Small
import Listing.Sorting.Stable
import Mathlib.Data.List.Forall2

/-!
The stable sort. Each run stands for a stretch of the list, and so does what runs are joined to; a part around a
pivot stands for those items that go there. So the sort loses and repeats nothing, and under an order it does not
give up and arranges what it is given.
-/

namespace Listing.Sorting
variable {α : Type} {less : α → α → Bool} {members items part part' rest before : List α} {run last : Run α}

/-! ### Runs -/

structure Run.Holds (less : α → α → Bool) (part : List α) (run : Run α) : Prop where
  settled : run.sorted = true → Sorted less part run.items
  later : run.sorted = false → run.items = part

theorem sorted_merge {left right : List α} (lower : Sorted less part left) (upper : Sorted less part' right) :
    Sorted less (part ++ part') (merge less left right) := by
  have front := lower.merge upper
  unfold merge
  split
  · exact front
  · refine ⟨?_, fun orders own => ?_⟩
    · refine (List.reverse_perm _).trans ((List.merge_perm_append _).trans ?_)
      rw [← List.reverse_append]
      exact (List.reverse_perm _).trans (lower.perm.append upper.perm)
    · obtain ⟨areLower, areUpper⟩ := List.append_subset.mp own
      have turned := reverse_merge_reverse orders (lower.subset areLower) (upper.subset areUpper)
        (lower.arranged orders areLower).ascending (upper.arranged orders areUpper).ascending
      exact turned ▸ front.arranged orders own

section
variable {follows : α → α → Bool} {a : α}

theorem chain_append (follows : α → α → Bool) (a : α) (items : List α) :
    (chain follows a items).1 ++ (chain follows a items).2 = items := by
  induction items generalizing a with
  | nil => rfl
  | cons next rest ih =>
    rw [chain]
    split
    · exact congrArg (next :: ·) (ih next)
    · rfl

theorem chain_pairwise (trans : ∀ a ∈ members, ∀ b ∈ members, ∀ c ∈ members,
      follows a b = true → follows b c = true → follows a c = true)
    (own : a :: (chain follows a items).1 ⊆ members) :
    (a :: (chain follows a items).1).Pairwise fun a b => follows a b = true := by
  induction items generalizing a with
  | nil => exact List.pairwise_singleton _ _
  | cons next rest ih =>
    rw [chain] at own ⊢
    split at own
    · rename_i first
      obtain ⟨isA, others⟩ := List.cons_subset.mp own
      have later := ih others
      rw [if_pos first]
      refine List.pairwise_cons.mpr ⟨List.forall_mem_cons.mpr ⟨first, fun x isX => ?_⟩, later⟩
      obtain ⟨isNext, areRest⟩ := List.cons_subset.mp others
      exact trans a isA next isNext x (areRest isX) first (List.rel_of_pairwise_cons later isX)
    · rename_i last
      rw [if_neg last]
      exact List.pairwise_singleton _ _

end

/-- A list in which each item precedes those before it may be turned round. -/
theorem sameTies_reverse (orders : OrderOn less members) (own : items ⊆ members)
    (descending : items.Pairwise fun a b => less b a = true) : SameTies less members items items.reverse := by
  induction items with
  | nil => exact .refl _
  | cons a rest ih =>
    obtain ⟨isA, others⟩ := List.cons_subset.mp own
    obtain ⟨below, descending⟩ := List.pairwise_cons.mp descending
    have swapped : SameTies less members ([a] ++ rest) (rest ++ [a]) := by
      refine .swap orders (List.cons_subset.mpr ⟨isA, List.nil_subset _⟩) others ?_
      simpa using below
    rw [List.reverse_cons]
    exact swapped.trans (SameTies.append (ih others descending) (.refl [a]))

theorem firstRun_sorted (less : α → α → Bool) (items : List α) :
    ∃ part, items = part ++ (firstRun less items).2 ∧ Sorted less part (firstRun less items).1 ∧
      (items ≠ [] → part ≠ []) := by
  cases items with
  | nil => exact ⟨[], rfl, ⟨.refl _, fun _ _ => ⟨.nil, .refl _⟩⟩, id⟩
  | cons a rest =>
    rw [firstRun]
    split
    · have whole := congrArg (a :: ·) (chain_append (fun last next => less next last) a rest).symm
      refine ⟨_ :: _, whole, ⟨List.reverse_perm _, fun {members} orders own => ?_⟩, fun _ => List.cons_ne_nil _ _⟩
      have descending := chain_pairwise (fun x isX y isY z isZ first second =>
        orders.lt_of_lt_of_le isZ isY isX second (orders.asymm y isY x isX first)) own
      refine ⟨?_, sameTies_reverse orders own descending⟩
      refine List.pairwise_reverse.mpr (descending.imp_of_mem fun isX isY precedes => ?_)
      exact orders.asymm _ (own isY) _ (own isX) precedes
    · have whole := congrArg (a :: ·) (chain_append (fun last next => !less next last) a rest).symm
      refine ⟨_ :: _, whole, ⟨.refl _, fun {members} orders own => ⟨?_, .refl _⟩⟩, fun _ => List.cons_ne_nil _ _⟩
      have trans : ∀ x ∈ members, ∀ y ∈ members, ∀ z ∈ members,
          (!less y x) = true → (!less z y) = true → (!less z x) = true := by
        simp only [Bool.not_eq_true']
        exact orders.trans
      exact (chain_pairwise trans own).imp fun kept => by simpa using kept

theorem nextRun_cut (less : α → α → Bool) (eager : Bool) {least : Nat} (room : 0 < least) (items : List α) :
    Yields less items (fun cut : Run α × List α => ∃ part, items = part ++ cut.2 ∧ cut.1.Holds less part ∧
      (items ≠ [] → part ≠ [])) (nextRun? less eager least items) := by
  unfold nextRun?
  simp only
  split
  · obtain ⟨part, whole, sorted, some⟩ := firstRun_sorted less items
    exact .some ⟨part, whole, ⟨fun _ => sorted, nofun⟩, some⟩
  · split
    · rw [Option.map_eq_bind]
      refine (sorts_sortSmall less (items.take 32)).bind (List.take_subset _ _) fun order sorted => ?_
      refine .some ⟨items.take 32, (List.take_append_drop 32 items).symm, ⟨fun _ => sorted, nofun⟩, fun some none => ?_⟩
      exact some (List.take_eq_nil_iff.mp none |>.resolve_left nofun)
    · refine .some
        ⟨items.take least, (List.take_append_drop least items).symm, ⟨nofun, fun _ => rfl⟩, fun some none => ?_⟩
      exact some (List.take_eq_nil_iff.mp none |>.resolve_left (Nat.ne_of_gt room))

theorem runs_cut (less : α → α → Bool) (eager : Bool) {least n : Nat} (room : 0 < least) {items : List α}
    (enough : items.length ≤ n) :
    Yields less items
      (fun runs : List (Run α) => ∃ parts, items = parts.flatten ∧ List.Forall₂ (Run.Holds less) parts runs)
      (runs? less eager least n items) := by
  induction n generalizing items with
  | zero =>
    obtain rfl := List.length_eq_zero_iff.mp (Nat.le_zero.mp enough)
    exact .some ⟨[], rfl, .nil⟩
  | succ n ih =>
    cases items with
    | nil => exact .some ⟨[], rfl, .nil⟩
    | cons a rest =>
      refine (nextRun_cut less eager room (a :: rest)).bind (List.Subset.refl _) ?_
      rintro ⟨run, rest'⟩ ⟨part, whole, holds, some⟩
      have shorter : rest'.length ≤ n := by
        have taken := List.length_pos_iff.mpr (some (List.cons_ne_nil a rest))
        have counted : rest.length + 1 = part.length + rest'.length := by
          rw [← List.length_append, ← whole, List.length_cons]
        rw [List.length_cons] at enough
        omega
      refine (ih shorter).bind ?_ ?_
      · rw [whole]
        exact List.subset_append_right _ _
      · rintro runs ⟨parts, cut, held⟩
        refine .some ⟨part :: parts, ?_, .cons holds held⟩
        rw [whole, cut, List.flatten_cons]

theorem leastRun_pos {length : Nat} (some : 0 < length) : 0 < leastRun length := by
  unfold leastRun
  split
  · omega
  · rename_i long
    have two : 2 ≤ 2 ^ ((1 + length.log2) / 2) := by
      refine Nat.le_self_pow ?_ 2
      have log : 12 ≤ length.log2 := (Nat.le_log2 (by omega)).mpr (by omega)
      omega
    exact Nat.div_pos (Nat.le_trans two (Nat.le_add_right _ _)) (by decide)

/-! ### Joining runs -/

section
variable {quick? : List α → Option (List α)} {room depth length scanned : Nat} {stack : List (Nat × Run α)}

theorem Run.Holds.settle (holds : run.Holds less part) (sorts : ∀ items, Sorts less items (quick? items)) :
    Sorts less part (run.settle? quick?) := by
  unfold Run.settle?
  split
  · rename_i settled
    exact .some (holds.settled settled)
  · rename_i later
    rw [holds.later (Bool.eq_false_iff.mpr later)]
    exact sorts part

theorem join_holds (sorts : ∀ items, Sorts less items (quick? items)) (first : run.Holds less part)
    (second : last.Holds less part') :
    Yields less (part ++ part') (Run.Holds less (part ++ part')) (join? less quick? room run last) := by
  unfold join?
  split
  · rename_i later
    simp only [Bool.not_eq_true'] at later
    exact .some ⟨nofun, fun _ => by rw [first.later later.2.1, second.later later.2.2]⟩
  · refine (first.settle sorts).bind (List.subset_append_left _ _) fun left lower => ?_
    refine (second.settle sorts).bind (List.subset_append_right _ _) fun right upper => ?_
    exact .some ⟨fun _ => sorted_merge lower upper, nofun⟩

/-- What the runs on a stack stand for; the nearest one is on top. -/
inductive Covers (less : α → α → Bool) : List α → List (Nat × Run α) → Prop
  | nil : Covers less [] []
  | cons {before part : List α} {border : Nat} {run : Run α} {stack : List (Nat × Run α)}
      (covers : Covers less before stack) (holds : run.Holds less part) :
      Covers less (before ++ part) ((border, run) :: stack)

theorem joinDeeper_covers (sorts : ∀ items, Sorts less items (quick? items)) (covers : Covers less before stack)
    (holds : last.Holds less part) :
    Yields less (before ++ part) (fun joined : Run α × List (Nat × Run α) => ∃ before' part',
        before' ++ part' = before ++ part ∧ Covers less before' joined.2 ∧ joined.1.Holds less part' ∧
          (depth = 0 → joined.2 = [])) (joinDeeper? less quick? room depth last stack) := by
  induction covers generalizing last part with
  | nil => exact .some ⟨[], part, rfl, .nil, holds, fun _ => rfl⟩
  | @cons before part' border run stack covers held ih =>
    rw [joinDeeper?]
    split
    · rw [List.append_assoc]
      refine (join_holds sorts held holds).bind (List.subset_append_right _ _) fun joined holds => ?_
      exact ih holds
    · rename_i shallow
      refine .some ⟨_, part, rfl, .cons covers held, holds, fun none => ?_⟩
      exact absurd (none ▸ Nat.zero_le border) shallow

theorem joinAll_holds (sorts : ∀ items, Sorts less items (quick? items)) (covers : Covers less before stack)
    (holds : last.Holds less part) {parts : List (List α)} {runs : List (Run α)}
    (held : List.Forall₂ (Run.Holds less) parts runs) :
    Yields less (before ++ part ++ parts.flatten) (Run.Holds less (before ++ part ++ parts.flatten))
      (joinAll? less quick? room length scanned last stack runs) := by
  induction held generalizing before part last stack scanned with
  | nil =>
    rw [joinAll?, List.flatten_nil, List.append_nil]
    refine (joinDeeper_covers sorts covers holds).bind (List.Subset.refl _) ?_
    rintro ⟨joined, stack⟩ ⟨before', part', same, covers, holds, all⟩
    obtain rfl := all rfl
    cases covers
    exact .some (same ▸ holds)
  | @cons next run parts runs first others ih =>
    rw [joinAll?, List.flatten_cons]
    refine (joinDeeper_covers sorts covers holds).bind (List.subset_append_left _ _) ?_
    rintro ⟨joined, stack⟩ ⟨before', part', same, covers, holds, -⟩
    rw [← same, ← List.append_assoc]
    exact ih (.cons covers holds) first

theorem sorts_sortRuns (sorts : ∀ items, Sorts less items (quick? items)) (eager : Bool) (items : List α) :
    Sorts less items (sortRuns? less quick? room eager items) := by
  cases items with
  | nil => exact .some ⟨.refl _, fun _ _ => ⟨.nil, .refl _⟩⟩
  | cons a rest =>
    have some : 0 < (a :: rest).length := Nat.succ_pos _
    refine (runs_cut less eager (leastRun_pos some) (Nat.le_refl _)).bind (List.Subset.refl _) ?_
    rintro runs ⟨parts, whole, held⟩
    rw [whole]
    cases held with
    | nil => exact .some ⟨.refl _, fun _ _ => ⟨.nil, .refl _⟩⟩
    | cons first others =>
      refine (joinAll_holds sorts .nil first others).bind (List.Subset.refl _) fun joined holds => ?_
      exact holds.settle sorts

end

/-! ### Parting items -/

theorem middle_cases (precedes : Nat → Nat → Bool) (a b c : Nat) :
    middle precedes a b c = a ∨ middle precedes a b c = b ∨ middle precedes a b c = c := by
  unfold middle
  split
  · split
    · exact .inr (.inl rfl)
    · exact .inr (.inr rfl)
  · exact .inl rfl

theorem middleOf_lt (precedes : Nat → Nat → Bool) {width a b c bound : Nat} (some : 0 < width)
    (first : a + width ≤ bound) (second : b + width ≤ bound) (third : c + width ≤ bound) : middleOf precedes width a b c < bound := by
  induction width using Nat.strongRecOn generalizing a b c bound with
  | ind width ih =>
    rw [middleOf]
    split
    · rcases middle_cases precedes a b c with same | same | same <;> omega
    · rename_i wide
      have within : ∀ start, start + width ≤ bound →
          middleOf precedes (width / 8) start (start + width / 8 * 4) (start + width / 8 * 7) < bound :=
        fun start fits => ih (width / 8) (by omega) (by omega) (by omega) (by omega) (by omega)
      simp only
      rcases middle_cases precedes _ _ _ with same | same | same
      · exact Nat.lt_of_le_of_lt (Nat.le_of_eq same) (within a first)
      · exact Nat.lt_of_le_of_lt (Nat.le_of_eq same) (within b second)
      · exact Nat.lt_of_le_of_lt (Nat.le_of_eq same) (within c third)

theorem pivotPlace_lt (less : α → α → Bool) (long : 32 < items.length) : pivotPlace less items < items.length :=
  middleOf_lt _ (by omega) (by omega) (by omega) (by omega)

theorem exists_pivot (less : α → α → Bool) (long : 32 < items.length) :
    ∃ before pivot after, items.splitAt (pivotPlace less items) = (before, pivot :: after) ∧
      items = before ++ pivot :: after := by
  have within := pivotPlace_lt less long
  refine ⟨items.take (pivotPlace less items), items[pivotPlace less items], items.drop (pivotPlace less items + 1), ?_⟩
  rw [List.splitAt_eq, ← List.drop_eq_getElem_cons within]
  exact ⟨rfl, (List.take_append_drop _ items).symm⟩

section
variable {sort? : Option α → List α → Option (List α)} {ancestor : Option α} {pivot : α}
variable {after order lower upper : List α}

theorem perm_parts (test : α → Bool) (first : lower.Perm ((before ++ after).filter test))
    (second : upper.Perm (before.filter (!test ·) ++ pivot :: after.filter (!test ·))) :
    (lower ++ upper).Perm (before ++ pivot :: after) := by
  refine (first.append (second.trans List.perm_middle)).trans (List.perm_middle.trans ?_)
  rw [← List.filter_append]
  exact ((List.filter_append_perm test (before ++ after)).cons pivot).trans List.perm_middle.symm

theorem sortParts_perm (permutes : ∀ ancestor items order, sort? ancestor items = some order → order.Perm items)
    (sorted : sortParts? less sort? ancestor before pivot after = some order) :
    order.Perm (before ++ pivot :: after) := by
  unfold sortParts? at sorted
  simp only at sorted
  split at sorted
  · obtain ⟨upper, above, sorted⟩ := Option.bind_eq_some_iff.mp sorted
    rw [← Option.some.inj sorted]
    refine List.perm_append_comm.trans (perm_parts (less pivot ·) (permutes _ _ _ above) (.refl _))
  · obtain ⟨upper, above, sorted⟩ := Option.bind_eq_some_iff.mp sorted
    obtain ⟨lower, below, sorted⟩ := Option.bind_eq_some_iff.mp sorted
    rw [← Option.some.inj sorted]
    exact perm_parts (less · pivot) (permutes _ _ _ below) (permutes _ _ _ above)

/-- No item precedes the pivot above a part of a list. -/
def Bounded (less : α → α → Bool) (members : List α) (ancestor : Option α) (items : List α) : Prop :=
  ∀ a ∈ ancestor, a ∈ members ∧ ∀ x ∈ items, less x a = false

structure Settles (less : α → α → Bool) (members items order : List α) : Prop where
  perm : order.Perm items
  arranged : Arranged less members items order

theorem exists_settles (orders : OrderOn less members) (own : items ⊆ members) {result : Option (List α)}
    (sorts : Sorts less items result) : ∃ order, result = some order ∧ Settles less members items order := by
  obtain ⟨order, given⟩ := sorts.total orders own
  have sorted := sorts.sound order given
  exact ⟨order, given, sorted.perm, sorted.arranged orders own⟩

theorem Settles.parted (orders : OrderOn less members) (own : items ⊆ members) (test : α → Bool)
    (first : Settles less members (items.filter test) lower)
    (second : Settles less members (items.filter (!test ·)) upper)
    (apart : ∀ x ∈ items.filter test, ∀ y ∈ items.filter (!test ·), less x y = true) :
    Settles less members items (lower ++ upper) := by
  refine ⟨(first.perm.append second.perm).trans (List.filter_append_perm test items), ?_, ?_⟩
  · refine List.pairwise_append.mpr ⟨first.arranged.ascending, second.arranged.ascending, fun x isX y isY => ?_⟩
    have low := first.perm.mem_iff.mp isX
    have high := second.perm.mem_iff.mp isY
    exact orders.asymm x (own (List.mem_filter.mp low).1) y (own (List.mem_filter.mp high).1) (apart x low y high)
  · exact (SameTies.parted orders own test apart).trans (first.arranged.stable.append second.arranged.stable)

/-- Nothing precedes a pivot that does not come behind the one above it, or for which nothing is found that does. -/
theorem least_of_repeated (orders : OrderOn less members) (own : before ++ pivot :: after ⊆ members)
    (bounded : Bounded less members ancestor (before ++ pivot :: after))
    (repeated : (ancestor.any (!less · pivot) || ((before ++ after).filter (less · pivot)).isEmpty) = true) :
    ∀ x ∈ before ++ pivot :: after, less x pivot = false := by
  have isPivot : pivot ∈ members := own (List.mem_append_right _ List.mem_cons_self)
  intro x isX
  rcases Bool.or_eq_true_iff.mp repeated with again | none
  · obtain ⟨a, same, level⟩ := (Option.any_eq_true _ _).mp again
    obtain ⟨isA, above⟩ := bounded a same
    exact orders.trans pivot isPivot a isA x (own isX) (by simpa using level) (above x isX)
  · have none := List.filter_eq_nil_iff.mp (List.isEmpty_iff.mp none)
    rcases List.mem_cons.mp ((List.perm_middle.mem_iff).mp isX) with rfl | isX
    · exact orders.irrefl isPivot
    · exact Bool.eq_false_iff.mpr (none x isX)

theorem Bounded.filter (bounded : Bounded less members ancestor items) (test : α → Bool) :
    Bounded less members ancestor (items.filter test) :=
  fun a same => ⟨(bounded a same).1, fun x isX => (bounded a same).2 x (List.mem_filter.mp isX).1⟩

theorem bounded_upper (isPivot : pivot ∈ members) (items : List α) :
    Bounded less members (some pivot) (items.filter (!less · pivot)) := by
  rintro _ ⟨⟩
  exact ⟨isPivot, fun x isX => by simpa using (List.mem_filter.mp isX).2⟩

theorem filter_of_pivot {test : α → Bool} (passes : test pivot = true) :
    (before ++ pivot :: after).filter test = before.filter test ++ pivot :: after.filter test := by
  rw [List.filter_append, List.filter_cons_of_pos passes]

theorem filter_without_pivot {test : α → Bool} (fails : test pivot = false) :
    (before ++ pivot :: after).filter test = (before ++ after).filter test := by
  rw [List.filter_append, List.filter_cons_of_neg (Bool.eq_false_iff.mp fails), List.filter_append]

theorem sortParts_settles (orders : OrderOn less members) (own : before ++ pivot :: after ⊆ members)
    (bounded : Bounded less members ancestor (before ++ pivot :: after))
    (settles : ∀ ancestor items, items ⊆ members → Bounded less members ancestor items →
      ∃ order, sort? ancestor items = some order ∧ Settles less members items order) :
    ∃ order, sortParts? less sort? ancestor before pivot after = some order ∧
      Settles less members (before ++ pivot :: after) order := by
  have isPivot : pivot ∈ members := own (List.mem_append_right _ List.mem_cons_self)
  have self : less pivot pivot = false := orders.irrefl isPivot
  have kept (test : α → Bool) : (before ++ pivot :: after).filter test ⊆ members :=
    List.Subset.trans List.filter_sublist.subset own
  unfold sortParts?
  simp only
  split
  · rename_i repeated
    have least := least_of_repeated orders own bounded repeated
    obtain ⟨upper, sorted, settled⟩ := settles none _ (kept (!!less pivot ·)) nofun
    rw [filter_without_pivot (by rw [self]; rfl)] at sorted
    simp only [Bool.not_not] at sorted
    rw [← filter_of_pivot (by rw [self]; rfl), sorted]
    refine ⟨_, rfl, .parted orders own (!less pivot ·) ⟨.refl _, ?_, .refl _⟩ settled fun x isX y isY => ?_⟩
    · -- What is not behind the pivot ties with it, and so with each other.
      refine List.pairwise_of_forall_mem_list fun x isX y isY => ?_
      obtain ⟨memberX, low⟩ := List.mem_filter.mp isX
      have memberY := (List.mem_filter.mp isY).1
      exact orders.trans x (own memberX) pivot isPivot y (own memberY) (by simpa using low) (least y memberY)
    · obtain ⟨memberX, low⟩ := List.mem_filter.mp isX
      obtain ⟨memberY, high⟩ := List.mem_filter.mp isY
      exact orders.lt_of_le_of_lt (own memberX) isPivot (own memberY) (by simpa using low) (by simpa using high)
  · obtain ⟨upper, sorted, settled⟩ := settles (some pivot) _ (kept (!less · pivot)) (bounded_upper isPivot _)
    obtain ⟨lower, sorted', settled'⟩ := settles ancestor _ (kept (less · pivot)) (bounded.filter _)
    have ahead : (before ++ pivot :: after).filter (less · pivot) = (before ++ after).filter (less · pivot) :=
      filter_without_pivot self
    rw [← filter_of_pivot (by rw [self]; rfl), ← ahead, sorted, sorted']
    refine ⟨_, rfl, .parted orders own (less · pivot) settled' settled fun x isX y isY => ?_⟩
    obtain ⟨memberX, low⟩ := List.mem_filter.mp isX
    obtain ⟨memberY, high⟩ := List.mem_filter.mp isY
    exact orders.lt_of_lt_of_le (own memberX) isPivot (own memberY) low (by simpa using high)

end

theorem quick_perm (less : α → α → Bool) {limit : Nat} {ancestor : Option α} {items order : List α}
    (sorted : quick? less limit ancestor items = some order) : order.Perm items := by
  induction limit generalizing ancestor items order with
  | zero =>
    rw [quick?] at sorted
    split at sorted
    · exact ((sorts_sortSmall less items).sound _ sorted).perm
    · exact ((sorts_sortRuns (sorts_sortSmall less) true items).sound _ sorted).perm
  | succ limit ih =>
    rw [quick?] at sorted
    split at sorted
    · exact ((sorts_sortSmall less items).sound _ sorted).perm
    · rename_i long
      obtain ⟨before, pivot, after, cut, whole⟩ := exists_pivot less (Nat.lt_of_not_le long)
      rw [cut] at sorted
      rw [whole]
      exact sortParts_perm (fun _ _ _ => ih) sorted

theorem quick_settles (orders : OrderOn less members) (limit : Nat) (ancestor : Option α) (items : List α)
    (own : items ⊆ members) (bounded : Bounded less members ancestor items) :
    ∃ order, quick? less limit ancestor items = some order ∧ Settles less members items order := by
  induction limit generalizing ancestor items with
  | zero =>
    rw [quick?]
    split
    · exact exists_settles orders own (sorts_sortSmall less items)
    · exact exists_settles orders own (sorts_sortRuns (sorts_sortSmall less) true items)
  | succ limit ih =>
    rw [quick?]
    split
    · exact exists_settles orders own (sorts_sortSmall less items)
    · rename_i long
      obtain ⟨before, pivot, after, cut, whole⟩ := exists_pivot less (Nat.lt_of_not_le long)
      rw [whole] at own bounded
      rw [cut, whole]
      exact sortParts_settles orders own bounded ih

theorem sorts_quick (less : α → α → Bool) (limit : Nat) (items : List α) :
    Sorts less items (quick? less limit none items) where
  sound order sorted := by
    refine ⟨quick_perm less sorted, fun orders own => ?_⟩
    obtain ⟨order', sorted', settled⟩ := quick_settles orders limit none items own nofun
    rw [sorted] at sorted'
    exact Option.some.inj sorted' ▸ settled.arranged
  total orders own := by
    obtain ⟨order, sorted, -⟩ := quick_settles orders limit none items own nofun
    exact ⟨order, sorted⟩

/-- The sort loses and repeats nothing. Under an order it does not give up, and arranges what it is given. -/
theorem sorts_stable (less : α → α → Bool) (items : List α) : Sorts less items (stable? less items) := by
  unfold stable?
  simp only
  split
  · exact .some (sorted_insertAll less items)
  · exact sorts_sortRuns (fun run => sorts_quick less _ run) _ items

end Listing.Sorting
