import Listing.Proofs.Sorting.Arranged

/-!
Short lists. Two halves that are merged from both ends come together as they would from one end: under an order
nothing is taken twice, so that what the ends have put together and the one item that may be left between them are
the merge.
-/

namespace Listing.Sorting
variable {α : Type} {less : α → α → Bool} {members left right : List α} {a b c d x y : α} {n : Nat}

/-! ### Four items -/

theorem sortTwo_sorted (less : α → α → Bool) (a b : α) :
    Sorted less [a, b] [(sortTwo less a b).1, (sortTwo less a b).2] := by
  unfold sortTwo
  split
  · rename_i precedes
    refine ⟨.swap a b [], fun {members} orders own => ?_⟩
    obtain ⟨isA, isB⟩ := List.cons_subset.mp own
    have swapped : SameTies less members ([a] ++ [b]) ([b] ++ [a]) := by
      refine .swap orders (List.cons_subset.mpr ⟨isA, List.nil_subset _⟩) isB ?_
      simpa using precedes
    exact ⟨List.pairwise_pair.mpr (orders.asymm b (isB List.mem_cons_self) a isA precedes), swapped⟩
  · rename_i kept
    refine ⟨.refl _, fun _ _ => ⟨List.pairwise_pair.mpr (Bool.eq_false_iff.mpr kept), .refl _⟩⟩

theorem mergeTwos_perm (less : α → α → Bool) (a b c d : α) : (mergeTwos less (a, b) (c, d)).Perm [a, b, c, d] := by
  classical
  refine List.perm_iff_count.mpr fun x => ?_
  cases below : less c a <;> cases above : less d b
  all_goals
    simp only [mergeTwos, below, above, reduceIte, Bool.false_eq_true]
    split
  all_goals simp only [List.cons_append, List.nil_append, List.count_cons, List.count_nil]
  all_goals omega

/-- Under an order the last comparison only matters where the pairs lie crosswise within each other. -/
theorem mergeTwos_eq_merge (orders : OrderOn less members) (own : [a, b, c, d] ⊆ members) (lower : less b a = false)
    (upper : less d c = false) : mergeTwos less (a, b) (c, d) = [a, b].merge [c, d] fun a b => !less b a := by
  simp only [List.cons_subset, List.nil_subset, and_true] at own
  obtain ⟨isA, isB, isC, isD⟩ := own
  unfold mergeTwos
  cases below : less c a with
  | true =>
    cases above : less d b with
    | true => cases inner : less d a <;> simp [below, above, inner]
    | false =>
      have inner : less d a = false := orders.trans a isA b isB d isD lower above
      simp [below, above, lower, inner]
  | false =>
    cases above : less d b with
    | true =>
      have inner : less c b = true := orders.lt_of_le_of_lt isC isD isB upper above
      simp [below, above, upper, inner]
    | false => cases inner : less c b <;> simp [below, above, inner]

theorem sortFour_sorted (less : α → α → Bool) (a b c d : α) : Sorted less [a, b, c, d] (sortFour less a b c d) := by
  have lower := sortTwo_sorted less a b
  have upper := sortTwo_sorted less c d
  refine ⟨(mergeTwos_perm less _ _ _ _).trans (lower.perm.append upper.perm), fun orders own => ?_⟩
  obtain ⟨areLower, areUpper⟩ := List.append_subset.mp (show [a, b] ++ [c, d] ⊆ _ from own)
  have merged := (lower.merge upper).arranged orders own
  have ascending := List.pairwise_pair.mp (lower.arranged orders areLower).ascending
  have ascending' := List.pairwise_pair.mp (upper.arranged orders areUpper).ascending
  rw [← mergeTwos_eq_merge orders ?_ ascending ascending'] at merged
  · exact merged
  · exact List.append_subset.mpr ⟨lower.subset areLower, upper.subset areUpper⟩

/-! ### Both ends -/

structure Partial.Takes (done : Partial α) (left right taken taken' : List α) : Prop where
  left : left = taken ++ done.left
  right : right = taken' ++ done.right
  perm : done.merged.Perm (taken ++ taken')

structure Partial.Apart (less : α → α → Bool) (done : Partial α) (taken taken' : List α) : Prop where
  left : ∀ x ∈ taken, ∀ y ∈ done.right, less y x = false
  right : ∀ y ∈ taken', ∀ x ∈ done.left, less y x = true

theorem mergeFirst_takes (less : α → α → Bool) (n : Nat) (left right : List α) :
    ∃ taken taken', (mergeFirst less n left right).Takes left right taken taken' ∧
      ∀ {members}, OrderOn less members → left ⊆ members → right ⊆ members → Ascending less left →
        Ascending less right → (mergeFirst less n left right).Apart less taken taken' := by
  have untouched : ∀ left right : List α, ∃ taken taken',
      (⟨[], left, right⟩ : Partial α).Takes left right taken taken' ∧
      ∀ {members}, OrderOn less members → left ⊆ members → right ⊆ members → Ascending less left →
        Ascending less right → (⟨[], left, right⟩ : Partial α).Apart less taken taken' :=
    fun left right => ⟨[], [], ⟨rfl, rfl, .refl _⟩, fun _ _ _ _ _ => ⟨nofun, nofun⟩⟩
  fun_induction mergeFirst less n left right with
  | case1 n a left b right precedes rest ih =>
    obtain ⟨taken, taken', takes, apart⟩ := ih
    refine ⟨taken, b :: taken', ⟨takes.left, congrArg (b :: ·) takes.right, ?_⟩, ?_⟩
    · exact (takes.perm.cons b).trans List.perm_middle.symm
    · intro members orders own others lower upper
      obtain ⟨isB, areRight⟩ := List.cons_subset.mp others
      obtain ⟨isA, areLeft⟩ := List.cons_subset.mp own
      have apart := apart orders own areRight lower upper.of_cons
      refine ⟨apart.left, List.forall_mem_cons.mpr ⟨fun x isX => ?_, apart.right⟩⟩
      have member : x ∈ a :: left := by
        rw [takes.left]
        exact List.mem_append_right _ isX
      rcases List.mem_cons.mp member with rfl | member
      · exact precedes
      · exact orders.lt_of_lt_of_le isB isA (areLeft member) precedes (List.rel_of_pairwise_cons lower member)
  | case2 n a left b right kept rest ih =>
    obtain ⟨taken, taken', takes, apart⟩ := ih
    refine ⟨a :: taken, taken', ⟨congrArg (a :: ·) takes.left, takes.right, takes.perm.cons a⟩, ?_⟩
    intro members orders own others lower upper
    obtain ⟨isB, areRight⟩ := List.cons_subset.mp others
    obtain ⟨isA, areLeft⟩ := List.cons_subset.mp own
    have apart := apart orders areLeft others lower.of_cons upper
    refine ⟨List.forall_mem_cons.mpr ⟨fun y isY => ?_, apart.left⟩, apart.right⟩
    have first : less b a = false := Bool.eq_false_iff.mpr kept
    have member : y ∈ b :: right := by
      rw [takes.right]
      exact List.mem_append_right _ isY
    rcases List.mem_cons.mp member with rfl | member
    · exact first
    · exact orders.trans a isA b isB y (areRight member) first (List.rel_of_pairwise_cons upper member)
  | case3 n left right => exact untouched _ _

theorem merge_eq_mergeFirst (less : α → α → Bool) (n : Nat) (left right : List α) :
    (left.merge right fun a b => !less b a) = (mergeFirst less n left right).merged ++
      (mergeFirst less n left right).left.merge (mergeFirst less n left right).right fun a b => !less b a := by
  fun_induction mergeFirst less n left right with
  | case1 n a left b right precedes rest ih =>
    rw [List.cons_merge_cons, if_neg (by simpa using precedes), ih]
    rfl
  | case2 n a left b right kept rest ih =>
    rw [List.cons_merge_cons, if_pos (by simpa using kept), ih]
    rfl
  | case3 n left right => rfl

theorem length_mergeFirst (less : α → α → Bool) (enough : n ≤ left.length) (enough' : n ≤ right.length) :
    (mergeFirst less n left right).merged.length = n := by
  fun_induction mergeFirst less n left right with
  | case1 n a left b right precedes rest ih =>
    rw [List.length_cons, ih (Nat.le_of_succ_le enough) (Nat.le_of_succ_le_succ enough')]
  | case2 n a left b right kept rest ih =>
    rw [List.length_cons, ih (Nat.le_of_succ_le_succ enough) (Nat.le_of_succ_le enough')]
  | case3 n left right none =>
    cases n with
    | zero => rfl
    | succ n =>
      cases left with
      | nil => cases enough
      | cons a left =>
        cases right with
        | nil => cases enough'
        | cons b right => exact (none n a left b right rfl rfl rfl).elim

section
variable {whole front back rest rest' : List α}

theorem exists_mem_both (first : whole = front ++ rest) (last : whole = rest' ++ back)
    (short : rest.length + rest'.length < whole.length) : ∃ x ∈ front, x ∈ back := by
  have same := first.symm.trans last
  rw [first, List.length_append] at short
  rcases List.append_eq_append_iff.mp same with ⟨middle, rfl, rfl⟩ | ⟨middle, rfl, rfl⟩
  · simp only [List.length_append] at short
    omega
  · cases middle with
    | nil =>
      simp only [List.length_append, List.length_nil] at short
      omega
    | cons x middle => exact ⟨x, by simp, by simp⟩

/-- Two ends and what is between them. -/
theorem append_take_append (first : whole = front ++ rest) (last : whole = rest' ++ back)
    (apart : whole.length ≤ rest.length + rest'.length) :
    front ++ rest.take (rest.length + rest'.length - whole.length) ++ back = whole := by
  have same := first.symm.trans last
  rw [first, List.length_append] at apart ⊢
  rcases List.append_eq_append_iff.mp same with ⟨middle, rfl, rfl⟩ | ⟨middle, rfl, rfl⟩
  · simp only [List.length_append]
    rw [List.take_append_of_le_length (by omega), List.take_of_length_le (by omega), List.append_assoc]
  · simp only [List.length_append] at apart ⊢
    obtain rfl : middle = [] := List.length_eq_zero_iff.mp (by omega)
    simp only [List.append_nil, List.nil_append]
    rw [Nat.add_comm rest.length, List.length_nil, Nat.add_zero, Nat.sub_self, List.take_zero, List.append_nil]

theorem eq_append_of_reverse (turned : whole.reverse = back ++ rest) : whole = rest.reverse ++ back.reverse := by
  rw [← List.reverse_append, ← turned, List.reverse_reverse]

theorem eq_of_perm_of_short (perm : front.Perm back) (short : back.length ≤ 1) : front = back := by
  cases back with
  | nil => exact perm.eq_nil
  | cons a rest =>
    obtain rfl : rest = [] := List.length_eq_zero_iff.mp (by simpa using short)
    exact List.perm_singleton.mp perm

end

theorem mergeEnds_perm {order : List α} (merged : mergeEnds? less left right = some order) :
    order.Perm (left ++ right) := by
  obtain ⟨first, first', front, -⟩ := mergeFirst_takes less left.length left right
  obtain ⟨last', last, back, -⟩ := mergeFirst_takes (flip less) left.length right.reverse left.reverse
  unfold mergeEnds? at merged
  generalize mergeFirst less left.length left right = begun at front merged
  generalize mergeFirst (flip less) left.length right.reverse left.reverse = ended at back merged
  simp only at merged
  split at merged
  · rename_i meet
    have size : ended.right.reverse.length = ended.right.length := List.length_reverse
    have size' : ended.left.reverse.length = ended.left.length := List.length_reverse
    rw [← size, ← size'] at meet merged
    have lower := append_take_append front.left (eq_append_of_reverse back.right) meet.1
    have upper := append_take_append front.right (eq_append_of_reverse back.left) meet.2
    generalize begun.left.take _ = middle at lower merged
    generalize begun.right.take _ = middle' at upper merged
    rw [← Option.some.inj merged, ← lower, ← upper]
    classical
    refine List.perm_iff_count.mpr fun x => ?_
    have begin := front.perm.count_eq x
    have finish := back.perm.count_eq x
    simp only [List.count_append, List.count_reverse] at begin finish ⊢
    omega
  · cases merged

section
variable {front back : Partial α}

/-- Under an order no item is taken at both ends. If one were, then of the other side an item would be left over at
both ends; that item would have to stand behind the former at the front, and before it at the back. -/
theorem ends_meet (orders : OrderOn less members) (own : left ⊆ members) (others : right ⊆ members)
    (lower : Ascending less left) (upper : Ascending less right) (short : left.length ≤ right.length)
    (atFront : mergeFirst less left.length left right = front)
    (atBack : mergeFirst (flip less) left.length right.reverse left.reverse = back) :
    left.length ≤ front.left.length + back.right.length ∧ right.length ≤ front.right.length + back.left.length := by
  obtain ⟨first, first', takes, apart⟩ := mergeFirst_takes less left.length left right
  obtain ⟨last', last, takes', apart'⟩ := mergeFirst_takes (flip less) left.length right.reverse left.reverse
  have apart := apart orders own others lower upper
  have apart' := apart' orders.flipped (List.reverse_subset.mpr others) (List.reverse_subset.mpr own)
    (ascending_reverse.mpr upper) (ascending_reverse.mpr lower)
  have begun := takes.perm.length_eq
  rw [length_mergeFirst less (Nat.le_refl _) short] at begun
  have ended := takes'.perm.length_eq
  rw [length_mergeFirst (flip less) (by rwa [List.length_reverse]) (Nat.le_of_eq List.length_reverse.symm)] at ended
  rw [atFront] at takes apart
  rw [atBack] at takes' apart'
  have ofLeft := eq_append_of_reverse takes'.right
  have ofRight := eq_append_of_reverse takes'.left
  have sizes := congrArg List.length takes.left
  have sizes' := congrArg List.length takes.right
  have counted := congrArg List.length ofLeft
  have counted' := congrArg List.length ofRight
  simp only [List.length_append, List.length_reverse] at begun ended sizes sizes' counted counted'
  constructor
  · refine Nat.le_of_not_lt fun twice => ?_
    obtain ⟨x, isFirst, isLast⟩ := exists_mem_both takes.left ofLeft (by rwa [List.length_reverse])
    obtain ⟨y, ahead, behind⟩ := exists_mem_both ofRight takes.right (by rw [List.length_reverse]; omega)
    have above := apart.left x isFirst y behind
    have below := apart'.right x (List.mem_reverse.mp isLast) y (List.mem_reverse.mp ahead)
    rw [flip, above] at below
    cases below
  · refine Nat.le_of_not_lt fun twice => ?_
    obtain ⟨y, isFirst, isLast⟩ := exists_mem_both takes.right ofRight (by rwa [List.length_reverse])
    obtain ⟨x, ahead, behind⟩ := exists_mem_both ofLeft takes.left (by rw [List.length_reverse]; omega)
    have above := apart.right y isFirst x behind
    have below := apart'.left y (List.mem_reverse.mp isLast) x (List.mem_reverse.mp ahead)
    rw [flip, above] at below
    cases below

/-- What the ends have put together is a beginning and an end of the merge, and what is between them one item at most,
which is determined by the others. -/
theorem mergeEnds_eq_merge (orders : OrderOn less members) (own : left ⊆ members) (others : right ⊆ members)
    (lower : Ascending less left) (upper : Ascending less right) (short : left.length ≤ right.length)
    (narrow : right.length ≤ left.length + 1) :
    mergeEnds? less left right = some (left.merge right fun a b => !less b a) := by
  generalize atFront : mergeFirst less left.length left right = front
  generalize atBack : mergeFirst (flip less) left.length right.reverse left.reverse = back
  obtain ⟨order, merged⟩ : ∃ order, mergeEnds? less left right = some order := by
    unfold mergeEnds?
    rw [atFront, atBack]
    exact ⟨_, if_pos (ends_meet orders own others lower upper short atFront atBack)⟩
  have perm := (mergeEnds_perm merged).trans (List.merge_perm_append fun a b => !less b a).symm
  obtain ⟨middle, rfl⟩ : ∃ middle, order = front.merged ++ middle ++ back.merged.reverse := by
    unfold mergeEnds? at merged
    rw [atFront, atBack] at merged
    simp only at merged
    split at merged
    · exact ⟨_, (Option.some.inj merged).symm⟩
    · cases merged
  have begun := length_mergeFirst less (Nat.le_refl left.length) short
  have turned : left.length ≤ right.reverse.length := by rwa [List.length_reverse]
  have ended := length_mergeFirst (flip less) turned (Nat.le_of_eq List.length_reverse.symm)
  have fromFront := merge_eq_mergeFirst less left.length left right
  have fromBack := merge_eq_mergeFirst (flip less) left.length right.reverse left.reverse
  rw [← List.reverse_inj, reverse_merge_reverse orders own others lower upper, List.reverse_append] at fromBack
  rw [atFront] at begun fromFront
  rw [atBack] at ended fromBack
  have size : (left.merge right fun a b => !less b a).length = (left ++ right).length :=
    (List.merge_perm_append _).length_eq
  generalize (left.merge right fun a b => !less b a) = whole at fromFront fromBack perm size
  have counted := congrArg List.length fromFront
  have counted' := congrArg List.length fromBack
  simp only [List.length_append, List.length_reverse] at size counted counted'
  obtain ⟨inside, between⟩ : ∃ inside, front.merged ++ inside ++ back.merged.reverse = whole :=
    ⟨_, append_take_append fromFront fromBack (by rw [List.length_reverse]; omega)⟩
  have inner := congrArg List.length between
  simp only [List.length_append, List.length_reverse] at inner
  rw [← between, List.perm_append_right_iff, List.perm_append_left_iff] at perm
  rw [merged, eq_of_perm_of_short perm (by omega), between]

end

theorem sorts_mergeEnds {items items' : List α} (lower : Sorted less items left) (upper : Sorted less items' right)
    (short : left.length ≤ right.length) (narrow : right.length ≤ left.length + 1) :
    Sorts less (items ++ items') (mergeEnds? less left right) := by
  have met : ∀ {members}, OrderOn less members → items ++ items' ⊆ members →
      mergeEnds? less left right = some (left.merge right fun a b => !less b a) := by
    intro members orders own
    obtain ⟨areItems, areItems'⟩ := List.append_subset.mp own
    exact mergeEnds_eq_merge orders (lower.subset areItems) (upper.subset areItems')
      (lower.arranged orders areItems).ascending (upper.arranged orders areItems').ascending short narrow
  refine ⟨fun _ merged => ⟨(mergeEnds_perm merged).trans (lower.perm.append upper.perm), fun orders own => ?_⟩, ?_⟩
  · rw [met orders own] at merged
    rw [← Option.some.inj merged]
    exact (lower.merge upper).arranged orders own
  · exact fun orders own => ⟨_, met orders own⟩

/-! ### Short lists -/

theorem sorted_insertAll (less : α → α → Bool) (items : List α) : Sorted less items (insertAll less [] items) :=
  Sorted.insertAll ⟨.refl _, fun _ _ => ⟨.nil, .refl _⟩⟩ items

theorem sorts_sortHalf (less : α → α → Bool) (length : Nat) (items : List α) :
    Sorts less items (sortHalf? less length items) := by
  unfold sortHalf?
  split
  · rename_i a b c d rest
    have four := sortFour_sorted less a b c d
    split
    · exact .some (sorted_insertAll less _)
    · split
      · rename_i e f g h rest _
        have four' := sortFour_sorted less e f g h
        have size : (sortFour less a b c d).length = 4 := four.perm.length_eq
        have size' : (sortFour less e f g h).length = 4 := four'.perm.length_eq
        rw [Option.map_eq_bind]
        refine Yields.bind (sorts_mergeEnds four four' (by omega) (by omega)) ?_ ?_
        · exact List.subset_append_left _ rest
        · exact fun _ eight => .some (eight.insertAll rest)
      · exact .some (four.insertAll _)
  · exact .some (sorted_insertAll less _)

theorem sorts_sortSmall (less : α → α → Bool) (items : List α) : Sorts less items (sortSmall? less items) := by
  have whole := List.take_append_drop (items.length / 2) items
  refine Yields.bind (sorts_sortHalf less items.length _) (List.take_subset _ _) fun left lower => ?_
  refine Yields.bind (sorts_sortHalf less items.length _) (List.drop_subset _ _) fun right upper => ?_
  have size := lower.perm.length_eq
  have size' := upper.perm.length_eq
  rw [List.length_take] at size
  rw [List.length_drop] at size'
  have merged := sorts_mergeEnds lower upper (by omega) (by omega)
  rwa [whole] at merged

end Listing.Sorting
