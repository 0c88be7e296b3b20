import Listing.Sorting.Runs

/-!
What it means to put items in order: none stands behind one that it precedes, and those that tie stand as they
came. Insertion and merging do so under a comparison that is an order among the items. Under any other one they
still neither lose nor repeat an item.
-/

namespace Listing.Sorting
variable {α : Type} {less : α → α → Bool} {members items items' order order' left right done : List α} {a b c : α}

/-- A comparison that orders some items, those apart that tie. -/
structure OrderOn (less : α → α → Bool) (members : List α) : Prop where
  asymm : ∀ a ∈ members, ∀ b ∈ members, less a b = true → less b a = false
  trans : ∀ a ∈ members, ∀ b ∈ members, ∀ c ∈ members, less b a = false → less c b = false → less c a = false

def ties (less : α → α → Bool) (a b : α) : Bool := !less a b && !less b a

namespace OrderOn

theorem irrefl (orders : OrderOn less members) (isA : a ∈ members) : less a a = false :=
  Bool.eq_false_iff.mpr fun less => Bool.eq_false_iff.mp (orders.asymm a isA a isA less) less

theorem lt_of_lt_of_le (orders : OrderOn less members) (isA : a ∈ members) (isB : b ∈ members) (isC : c ∈ members)
    (first : less a b = true) (second : less c b = false) : less a c = true := by
  refine Decidable.byContradiction fun kept => ?_
  have back := orders.trans b isB c isC a isA second (Bool.eq_false_iff.mpr kept)
  rw [first] at back
  cases back

theorem lt_of_le_of_lt (orders : OrderOn less members) (isA : a ∈ members) (isB : b ∈ members) (isC : c ∈ members)
    (first : less b a = false) (second : less b c = true) : less a c = true := by
  refine Decidable.byContradiction fun kept => ?_
  have back := orders.trans c isC a isA b isB (Bool.eq_false_iff.mpr kept) first
  rw [second] at back
  cases back

theorem not_lt_of_ties (orders : OrderOn less members) (isA : a ∈ members) (isB : b ∈ members) (isC : c ∈ members)
    (first : ties less a b = true) (second : ties less a c = true) : less b c = false := by
  simp only [ties, Bool.and_eq_true, Bool.not_eq_true'] at first second
  exact orders.trans c isC a isA b isB second.1 first.2

theorem flipped (orders : OrderOn less members) : OrderOn (flip less) members where
  asymm a isA b isB precedes := orders.asymm b isB a isA precedes
  trans a isA b isB c isC first second := orders.trans c isC b isB a isA second first

end OrderOn

theorem ties_flip (less : α → α → Bool) : ties (flip less) = ties less := by
  funext a b
  exact Bool.and_comm _ _

/-! ### Items that tie -/

def SameTies (less : α → α → Bool) (members items order : List α) : Prop :=
  ∀ a ∈ members, order.filter (ties less a) = items.filter (ties less a)

namespace SameTies

theorem refl (items : List α) : SameTies less members items items := fun _ _ => rfl

theorem trans (first : SameTies less members items order) (second : SameTies less members order order') :
    SameTies less members items order' :=
  fun a isA => (second a isA).trans (first a isA)

theorem append (first : SameTies less members items order) (second : SameTies less members items' order') :
    SameTies less members (items ++ items') (order ++ order') := by
  intro a isA
  rw [List.filter_append, List.filter_append, first a isA, second a isA]

theorem reverse (same : SameTies less members items order) : SameTies less members items.reverse order.reverse := by
  intro a isA
  rw [List.filter_reverse, List.filter_reverse, same a isA]

/-- Where one side precedes the other none of its items ties with what an item of the other side ties with. -/
theorem filter_eq_nil (orders : OrderOn less members) (own : left ⊆ members) (others : right ⊆ members)
    (apart : ∀ x ∈ left, ∀ y ∈ right, less x y = true) (isA : a ∈ members) (tied : ∃ x ∈ left, ties less a x = true) :
    right.filter (ties less a) = [] := by
  obtain ⟨x, isX, first⟩ := tied
  refine List.filter_eq_nil_iff.mpr fun y isY second => ?_
  have level := orders.not_lt_of_ties isA (own isX) (others isY) first second
  rw [apart x isX y isY] at level
  cases level

theorem swap (orders : OrderOn less members) (own : left ⊆ members) (others : right ⊆ members)
    (apart : ∀ x ∈ right, ∀ y ∈ left, less x y = true) : SameTies less members (left ++ right) (right ++ left) := by
  intro a isA
  rw [List.filter_append, List.filter_append]
  by_cases tied : ∃ x ∈ right, ties less a x = true
  · rw [filter_eq_nil orders others own apart isA tied, List.append_nil, List.nil_append]
  · have none : right.filter (ties less a) = [] :=
      List.filter_eq_nil_iff.mpr fun x isX tie => tied ⟨x, isX, tie⟩
    rw [none, List.append_nil, List.nil_append]

/-- Items may be parted into those that pass a test and the others if the former precede the latter. -/
theorem parted (orders : OrderOn less members) (own : items ⊆ members) (test : α → Bool)
    (apart : ∀ x ∈ items.filter test, ∀ y ∈ items.filter (!test ·), less x y = true) :
    SameTies less members items (items.filter test ++ items.filter (!test ·)) := by
  intro a isA
  have lower : items.filter test ⊆ members := fun _ member => own (List.mem_filter.mp member).1
  have upper : items.filter (!test ·) ⊆ members := fun _ member => own (List.mem_filter.mp member).1
  rw [List.filter_append]
  by_cases tied : ∃ x ∈ items.filter test, ties less a x = true
  · have none := filter_eq_nil orders lower upper apart isA tied
    rw [none, List.append_nil, List.filter_filter]
    refine List.filter_congr fun x isX => ?_
    cases passed : test x with
    | true => rw [Bool.and_true]
    | false =>
      have behind := List.filter_eq_nil_iff.mp none x (List.mem_filter.mpr ⟨isX, by rw [passed]; rfl⟩)
      rw [Bool.and_false, Bool.eq_false_iff.mpr behind]
  · have none : (items.filter test).filter (ties less a) = [] :=
      List.filter_eq_nil_iff.mpr fun x isX tie => tied ⟨x, isX, tie⟩
    rw [none, List.nil_append, List.filter_filter]
    refine List.filter_congr fun x isX => ?_
    cases passed : test x with
    | true =>
      have before := List.filter_eq_nil_iff.mp none x (List.mem_filter.mpr ⟨isX, passed⟩)
      rw [Bool.not_true, Bool.and_false, Bool.eq_false_iff.mpr before]
    | false => rw [Bool.not_false, Bool.and_true]

end SameTies

/-! ### Items in order -/

def Ascending (less : α → α → Bool) (order : List α) : Prop := order.Pairwise fun a b => less b a = false

theorem ascending_reverse : Ascending (flip less) order.reverse ↔ Ascending less order :=
  List.pairwise_reverse

/-- Items in order, those that tie as they came. -/
structure Arranged (less : α → α → Bool) (members items order : List α) : Prop where
  ascending : Ascending less order
  stable : SameTies less members items order

theorem Arranged.of_sameTies (arranged : Arranged less members order order')
    (same : SameTies less members items order) : Arranged less members items order' :=
  ⟨arranged.ascending, same.trans arranged.stable⟩

theorem Arranged.reverse (arranged : Arranged (flip less) members items order) :
    Arranged less members items.reverse order.reverse where
  ascending := by
    rw [← ascending_reverse, List.reverse_reverse]
    exact arranged.ascending
  stable := by
    have same := arranged.stable
    rw [SameTies, ties_flip] at same
    exact SameTies.reverse same

/-! ### Insertion -/

theorem insertBehind_perm (less : α → α → Bool) (item : α) (done : List α) :
    (insertBehind less item done).Perm (item :: done) := by
  induction done with
  | nil => exact .refl _
  | cons last rest ih =>
    rw [insertBehind]
    split
    · exact (ih.cons last).trans (.swap item last rest)
    · exact .refl _

/-- An item goes behind what it does not precede; the list has its last item first. -/
theorem insertBehind_arranged (orders : OrderOn less members) (own : a ∈ members) (others : done ⊆ members)
    (ascending : Ascending (flip less) done) :
    Arranged (flip less) members (a :: done) (insertBehind less a done) := by
  induction done with
  | nil => exact ⟨List.pairwise_singleton _ _, .refl _⟩
  | cons last rest ih =>
    obtain ⟨isLast, areRest⟩ := List.cons_subset.mp others
    obtain ⟨below, upper⟩ := List.pairwise_cons.mp ascending
    obtain ⟨placed, same⟩ := ih areRest upper
    rw [insertBehind]
    split
    · rename_i precedes
      refine ⟨List.pairwise_cons.mpr ⟨fun x member => ?_, placed⟩, ?_⟩
      · rcases List.mem_cons.mp ((insertBehind_perm less a rest).mem_iff.mp member) with rfl | member
        · exact orders.asymm x own last isLast precedes
        · exact below x member
      · -- The item and the last one change their places, and so they may.
        have swapped : SameTies (flip less) members ([a] ++ [last]) ([last] ++ [a]) := by
          refine .swap orders.flipped (List.cons_subset.mpr ⟨own, List.nil_subset _⟩)
            (List.cons_subset.mpr ⟨isLast, List.nil_subset _⟩) ?_
          simpa [flip] using precedes
        exact (swapped.append (.refl rest)).trans (SameTies.append (.refl [last]) same)
    · rename_i behind
      refine ⟨List.pairwise_cons.mpr ⟨fun x member => ?_, ascending⟩, .refl _⟩
      have first : less a last = false := Bool.eq_false_iff.mpr behind
      rcases List.mem_cons.mp member with rfl | member
      · exact first
      · exact orders.trans x (areRest member) last isLast a own (below x member) first

theorem insertAll_perm (less : α → α → Bool) (done items : List α) :
    (insertAll less done items).Perm (done ++ items) := by
  unfold insertAll
  have folded : ∀ start : List α,
      (items.foldl (fun done item => insertBehind less item done) start).Perm (items ++ start) := by
    induction items with
    | nil => exact fun start => .refl _
    | cons item rest ih =>
      intro start
      exact ((ih _).trans ((insertBehind_perm less item start).append_left rest)).trans List.perm_middle
  refine (List.reverse_perm _).trans ((folded _).trans ?_)
  exact (List.perm_append_comm).trans ((List.reverse_perm done).append_right items)

theorem insertAll_arranged (orders : OrderOn less members) (own : items ⊆ members) (others : done ⊆ members)
    (ascending : Ascending less done) : Arranged less members (done ++ items) (insertAll less done items) := by
  have folded : ∀ start : List α, start ⊆ members → Ascending (flip less) start →
      Arranged (flip less) members (items.reverse ++ start)
        (items.foldl (fun done item => insertBehind less item done) start) := by
    induction items with
    | nil => exact fun start _ ascending => ⟨ascending, .refl _⟩
    | cons item rest ih =>
      intro start others ascending
      obtain ⟨isItem, areRest⟩ := List.cons_subset.mp own
      have placed := insertBehind_arranged orders isItem others ascending
      have within : insertBehind less item start ⊆ members :=
        List.Subset.trans (insertBehind_perm less item start).subset (List.cons_subset.mpr ⟨isItem, others⟩)
      have same := SameTies.append (.refl rest.reverse) placed.stable
      rw [List.reverse_cons, List.append_assoc, List.singleton_append]
      exact (ih areRest _ within placed.ascending).of_sameTies same
  have all := folded done.reverse (List.reverse_subset.mpr others) (ascending_reverse.mpr ascending)
  have turned := all.reverse
  rwa [List.reverse_append, List.reverse_reverse, List.reverse_reverse] at turned

/-! ### Merging -/

theorem merge_arranged (orders : OrderOn less members) (own : left ⊆ members) (others : right ⊆ members)
    (lower : Ascending less left) (upper : Ascending less right) :
    Arranged less members (left ++ right) (left.merge right fun a b => !less b a) := by
  induction left generalizing right with
  | nil =>
    rw [List.nil_merge]
    exact ⟨upper, .refl _⟩
  | cons a left ihLeft =>
    induction right with
    | nil =>
      rw [List.merge_right, List.append_nil]
      exact ⟨lower, .refl _⟩
    | cons b right ihRight =>
      obtain ⟨isA, areLeft⟩ := List.cons_subset.mp own
      obtain ⟨isB, areRight⟩ := List.cons_subset.mp others
      obtain ⟨aboveA, lower'⟩ := List.pairwise_cons.mp lower
      obtain ⟨aboveB, upper'⟩ := List.pairwise_cons.mp upper
      rw [List.cons_merge_cons]
      split
      · rename_i first
        have first : less b a = false := by simpa using first
        obtain ⟨placed, same⟩ := ihLeft areLeft others lower' upper
        refine ⟨List.pairwise_cons.mpr ⟨fun x member => ?_, placed⟩, SameTies.append (.refl [a]) same⟩
        rcases List.mem_merge.mp member with member | member
        · exact aboveA x member
        · rcases List.mem_cons.mp member with rfl | member
          · exact first
          · exact orders.trans a isA b isB x (areRight member) first (aboveB x member)
      · rename_i second
        have second : less b a = true := by simpa using second
        obtain ⟨placed, same⟩ := ihRight areRight upper'
        refine ⟨List.pairwise_cons.mpr ⟨fun x member => ?_, placed⟩, ?_⟩
        · rcases List.mem_merge.mp member with member | member
          · rcases List.mem_cons.mp member with rfl | member
            · exact orders.asymm b isB x isA second
            · exact orders.trans b isB a isA x (areLeft member) (orders.asymm b isB a isA second) (aboveA x member)
          · exact aboveB x member
        · -- The item that is taken goes before the whole left side.
          have swapped : SameTies less members ((a :: left) ++ [b]) ([b] ++ (a :: left)) := by
            refine .swap orders own (List.cons_subset.mpr ⟨isB, List.nil_subset _⟩) fun x isX y isY => ?_
            rw [List.mem_singleton.mp isX]
            rcases List.mem_cons.mp isY with rfl | isY
            · exact second
            · exact orders.lt_of_lt_of_le isB isA (areLeft isY) second (aboveA y isY)
          have moved := swapped.append (.refl right)
          rw [List.append_assoc, List.append_assoc, List.singleton_append] at moved
          exact moved.trans (SameTies.append (.refl [b]) same)

/-- There is one way to put items in order. -/
theorem eq_of_arranged (orders : OrderOn less members) (own : order ⊆ members) (lower : Ascending less order)
    (upper : Ascending less order') (perm : order.Perm order') (same : SameTies less members order order') :
    order = order' := by
  induction order generalizing order' with
  | nil => exact perm.nil_eq
  | cons a rest ih =>
    obtain ⟨isA, areRest⟩ := List.cons_subset.mp own
    obtain ⟨above, lower'⟩ := List.pairwise_cons.mp lower
    cases order' with
    | nil => exact perm.eq_nil
    | cons b rest' =>
      obtain ⟨above', upper'⟩ := List.pairwise_cons.mp upper
      have self : less a a = false := orders.irrefl isA
      -- Neither first item precedes the other, so that they tie, and ties stand alike.
      have first : less b a = false := by
        rcases List.mem_cons.mp (perm.mem_iff.mpr List.mem_cons_self) with rfl | member
        · exact self
        · exact above b member
      have second : less a b = false := by
        rcases List.mem_cons.mp (perm.mem_iff.mp List.mem_cons_self) with rfl | member
        · exact self
        · exact above' a member
      have heads := same a isA
      rw [List.filter_cons_of_pos (by simp [ties, first, second]),
        List.filter_cons_of_pos (by simp [ties, self])] at heads
      obtain ⟨rfl, -⟩ := List.cons.inj heads
      refine congrArg (b :: ·) (ih areRest lower' upper' (List.Perm.cons_inv perm) fun c isC => ?_)
      have whole := same c isC
      rw [List.filter_cons, List.filter_cons] at whole
      split at whole
      · exact List.cons.inj whole |>.2
      · exact whole

/-- Under an order it makes no difference at which end a merge begins. -/
theorem reverse_merge_reverse (orders : OrderOn less members) (own : left ⊆ members) (others : right ⊆ members)
    (lower : Ascending less left) (upper : Ascending less right) :
    (right.reverse.merge left.reverse fun a b => !flip less b a).reverse = left.merge right fun a b => !less b a := by
  have front := merge_arranged orders own others lower upper
  have back := (merge_arranged orders.flipped (List.reverse_subset.mpr others) (List.reverse_subset.mpr own)
    (ascending_reverse.mpr upper) (ascending_reverse.mpr lower)).reverse
  rw [List.reverse_append, List.reverse_reverse, List.reverse_reverse] at back
  have perm : (right.reverse.merge left.reverse fun a b => !flip less b a).reverse.Perm (left ++ right) := by
    refine (List.reverse_perm _).trans ((List.merge_perm_append _).trans ?_)
    rw [← List.reverse_append]
    exact List.reverse_perm _
  have within := List.Subset.trans perm.subset (List.append_subset.mpr ⟨own, others⟩)
  refine eq_of_arranged orders within back.ascending front.ascending
    (perm.trans (List.merge_perm_append _).symm) fun a isA => ?_
  rw [front.stable a isA, back.stable a isA]

/-! ### Sorts -/

/-- Items sorted: none is lost or repeated, and under an order they are arranged. -/
structure Sorted (less : α → α → Bool) (items order : List α) : Prop where
  perm : order.Perm items
  arranged : ∀ {members}, OrderOn less members → items ⊆ members → Arranged less members items order

namespace Sorted

theorem subset (sorted : Sorted less items order) (own : items ⊆ members) : order ⊆ members :=
  List.Subset.trans sorted.perm.subset own

theorem insertAll (sorted : Sorted less items done) (rest : List α) :
    Sorted less (items ++ rest) (insertAll less done rest) where
  perm := (insertAll_perm less done rest).trans (sorted.perm.append_right rest)
  arranged orders own := by
    obtain ⟨areItems, areRest⟩ := List.append_subset.mp own
    obtain ⟨ascending, same⟩ := sorted.arranged orders areItems
    exact (insertAll_arranged orders areRest (sorted.subset areItems) ascending).of_sameTies (same.append (.refl rest))

theorem merge (lower : Sorted less items left) (upper : Sorted less items' right) :
    Sorted less (items ++ items') (left.merge right fun a b => !less b a) where
  perm := (List.merge_perm_append _).trans (lower.perm.append upper.perm)
  arranged orders own := by
    obtain ⟨areItems, areItems'⟩ := List.append_subset.mp own
    obtain ⟨ascending, same⟩ := lower.arranged orders areItems
    obtain ⟨ascending', same'⟩ := upper.arranged orders areItems'
    exact (merge_arranged orders (lower.subset areItems) (upper.subset areItems') ascending ascending').of_sameTies
      (same.append same')

end Sorted

/-- A step that gives what it promises or gives up, but never gives up under an order of the items. -/
structure Yields {β : Type} (less : α → α → Bool) (items : List α) (promise : β → Prop) (result : Option β) : Prop where
  sound : ∀ b, result = some b → promise b
  total : ∀ {members}, OrderOn less members → items ⊆ members → ∃ b, result = some b

abbrev Sorts (less : α → α → Bool) (items : List α) : Option (List α) → Prop := Yields less items (Sorted less items)

namespace Yields
variable {β γ : Type} {promise : β → Prop} {promise' : γ → Prop}

theorem some {b : β} (kept : promise b) : Yields less items promise (some b) :=
  ⟨fun _ same => Option.some.inj same ▸ kept, fun _ _ => ⟨b, rfl⟩⟩

theorem bind {result : Option β} {next : β → Option γ} (first : Yields less items promise result)
    (part : items ⊆ items') (rest : ∀ b, promise b → Yields less items' promise' (next b)) :
    Yields less items' promise' (result.bind next) where
  sound c same := by
    obtain ⟨b, given, same⟩ := Option.bind_eq_some_iff.mp same
    exact (rest b (first.sound b given)).sound c same
  total orders own := by
    obtain ⟨b, given⟩ := first.total orders (List.Subset.trans part own)
    rw [given]
    exact (rest b (first.sound b given)).total orders own

end Yields

end Listing.Sorting
