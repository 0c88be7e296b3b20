import Listing.Proofs.Sorting.Stable

/-!
A sort sees its items through the comparison only. So it takes the same steps on items and on what they are mapped
to, if these compare as the items do.
-/

namespace Listing.Sorting

def Partial.map {α β : Type} (f : α → β) (p : Partial α) : Partial β := ⟨p.merged.map f, p.left.map f, p.right.map f⟩

def Run.map {α β : Type} (f : α → β) (run : Run α) : Run β := ⟨run.items.map f, run.sorted⟩

section
variable {α β : Type} {less : α → α → Bool} {less' : β → β → Bool} {f : α → β}
variable (same : ∀ a b, less' (f a) (f b) = less a b)
include same

/-! ### Short lists -/

theorem insertBehind_map (item : α) (done : List α) :
    insertBehind less' (f item) (done.map f) = (insertBehind less item done).map f := by
  induction done with
  | nil => rfl
  | cons last rest ih =>
    rw [List.map_cons, insertBehind, insertBehind, ih, same]
    split <;> rfl

theorem insertAll_map (done items : List α) :
    insertAll less' (done.map f) (items.map f) = (insertAll less done items).map f := by
  unfold insertAll
  rw [← List.map_reverse, List.map_reverse (l := List.foldl _ _ _)]
  refine congrArg List.reverse ?_
  generalize done.reverse = start
  induction items generalizing start with
  | nil => rfl
  | cons item rest ih =>
    rw [List.map_cons, List.foldl_cons, List.foldl_cons, insertBehind_map same, ih]

theorem sortTwo_map (a b : α) : sortTwo less' (f a) (f b) = (sortTwo less a b).map f f := by
  unfold sortTwo
  rw [same]
  split <;> rfl

theorem mergeTwos_map (p q : α × α) : mergeTwos less' (p.map f f) (q.map f f) = (mergeTwos less p q).map f := by
  obtain ⟨low, high⟩ := p
  obtain ⟨low', high'⟩ := q
  simp only [mergeTwos, Prod.map_apply, same, ← apply_ite f, List.map_append, List.map_cons, List.map_nil,
    apply_ite (List.map f)]

theorem sortFour_map (a b c d : α) :
    sortFour less' (f a) (f b) (f c) (f d) = (sortFour less a b c d).map f := by
  rw [sortFour, sortTwo_map same, sortTwo_map same, mergeTwos_map same, sortFour]

theorem mergeFirst_map (n : Nat) (left right : List α) :
    mergeFirst less' n (left.map f) (right.map f) = (mergeFirst less n left right).map f := by
  fun_induction mergeFirst less n left right with
  | case1 n a left b right below _ ih =>
    rw [List.map_cons, List.map_cons, mergeFirst, if_pos (same b a ▸ below)]
    rw [List.map_cons] at ih
    rw [ih]
    rfl
  | case2 n a left b right below _ ih =>
    rw [List.map_cons, List.map_cons, mergeFirst, if_neg (same b a ▸ below)]
    rw [List.map_cons] at ih
    rw [ih]
    rfl
  | case3 n left right stops =>
    -- No item is left to be taken, on either side or by the count, and so for the images.
    match n, left, right with
    | 0, _, _ => simp [mergeFirst, Partial.map]
    | _ + 1, [], _ => simp [mergeFirst, Partial.map]
    | _ + 1, _ :: _, [] => simp [mergeFirst, Partial.map]
    | _ + 1, _ :: _, _ :: _ => exact (stops _ _ _ _ _ rfl rfl rfl).elim

theorem mergeEnds_map (left right : List α) :
    mergeEnds? less' (left.map f) (right.map f) = (mergeEnds? less left right).map (List.map f) := by
  have turned : ∀ a b, flip less' (f a) (f b) = flip less a b := fun a b => same b a
  have back := mergeFirst_map turned left.length right.reverse left.reverse
  rw [List.map_reverse, List.map_reverse] at back
  unfold mergeEnds?
  simp only [List.length_map, mergeFirst_map same, back, Partial.map]
  split
  · simp only [Option.map_some, List.map_append, List.map_take, List.map_reverse]
  · rfl

theorem sortHalf_map (length : Nat) (items : List α) :
    sortHalf? less' length (items.map f) = (sortHalf? less length items).map (List.map f) := by
  have plain (done items : List α) :
      some (insertAll less' (done.map f) (items.map f)) = (some (insertAll less done items)).map (List.map f) :=
    congrArg some (insertAll_map same done items)
  match items with
  | [] => exact plain [] []
  | [a] => exact plain [] [a]
  | [a, b] => exact plain [] [a, b]
  | [a, b, c] => exact plain [] [a, b, c]
  | a :: b :: c :: d :: rest =>
    simp only [List.map_cons, sortHalf?, sortFour_map same]
    split
    · exact plain [] (a :: b :: c :: d :: rest)
    · match decide (16 ≤ length), rest with
      | true, e :: f' :: g :: h :: rest =>
        simp only [List.map_cons, sortFour_map same, mergeEnds_map same, Option.map_map]
        exact congrArg (Option.map · _) (funext fun eight => insertAll_map same eight rest)
      | false, rest => exact plain _ rest
      | true, [] => exact plain _ []
      | true, [e] => exact plain _ [e]
      | true, [e, g] => exact plain _ [e, g]
      | true, [e, g, h] => exact plain _ [e, g, h]

theorem sortSmall_map (items : List α) :
    sortSmall? less' (items.map f) = (sortSmall? less items).map (List.map f) := by
  unfold sortSmall?
  simp only [List.length_map, ← List.map_take, ← List.map_drop, sortHalf_map same, Option.bind_eq_bind,
    Option.bind_map, Option.map_bind, Function.comp_def, mergeEnds_map same]

/-! ### Runs -/

theorem merge_map (left right : List α) :
    merge less' (left.map f) (right.map f) = (merge less left right).map f := by
  unfold merge
  rw [List.length_map, List.length_map]
  split
  · exact (List.map_merge fun a _ b _ => congrArg (! ·) (same b a).symm).symm
  · rw [List.map_reverse, ← List.map_reverse, ← List.map_reverse]
    exact congrArg List.reverse (List.map_merge fun b _ a _ => congrArg (! ·) (same b a).symm).symm

omit same in
theorem chain_map (follows : α → α → Bool) (follows' : β → β → Bool)
    (alike : ∀ a b, follows' (f a) (f b) = follows a b) (last : α) (items : List α) :
    chain follows' (f last) (items.map f) = (chain follows last items).map (List.map f) (List.map f) := by
  induction items generalizing last with
  | nil => rfl
  | cons next rest ih =>
    simp only [List.map_cons, chain, alike, ih]
    split <;> rfl

theorem firstRun_map (items : List α) :
    firstRun less' (items.map f) = (firstRun less items).map (List.map f) (List.map f) := by
  cases items with
  | nil => rfl
  | cons a rest =>
    have down := chain_map (fun last next => less next last) (fun last next => less' next last)
      (fun last next => same next last) a rest
    have up := chain_map (fun last next => !less next last) (fun last next => !less' next last)
      (fun last next => congrArg (! ·) (same next last)) a rest
    simp only [List.map_cons, firstRun, List.head?_map, Option.any_map, same, down, up]
    split
    · simp only [Prod.map, List.map_reverse, List.map_cons]
    · rfl

theorem nextRun_map (eager : Bool) (least : Nat) (items : List α) :
    nextRun? less' eager least (items.map f) =
      (nextRun? less eager least items).map (Prod.map (Run.map f) (List.map f)) := by
  unfold nextRun?
  simp only [firstRun_map same, Prod.map_fst, Prod.map_snd, List.length_map]
  split
  · rfl
  · split
    · rw [← List.map_take, ← List.map_drop, sortSmall_map same, Option.map_map, Option.map_map]
      rfl
    · rw [← List.map_take, ← List.map_drop]
      rfl

theorem runs_map (eager : Bool) (least n : Nat) (items : List α) :
    runs? less' eager least n (items.map f) = (runs? less eager least n items).map (List.map (Run.map f)) := by
  induction n generalizing items with
  | zero => cases items <;> rfl
  | succ n ih =>
    cases items with
    | nil => rfl
    | cons a rest =>
      simp only [List.map_cons, runs?]
      rw [← List.map_cons, nextRun_map same]
      simp only [Option.bind_eq_bind, Option.bind_map, Option.map_bind, Function.comp_def, Prod.map, ih]
      rfl

section
variable {quick? : List α → Option (List α)} {quick'? : List β → Option (List β)} (room : Nat)
variable (alike : ∀ items, quick'? (items.map f) = (quick? items).map (List.map f))
include alike

omit same in
theorem settle_map (run : Run α) : (run.map f).settle? quick'? = (run.settle? quick?).map (List.map f) := by
  unfold Run.settle?
  simp only [Run.map, alike]
  split <;> rfl

theorem join_map (left right : Run α) :
    join? less' quick'? room (left.map f) (right.map f) = (join? less quick? room left right).map (Run.map f) := by
  unfold join?
  simp only [settle_map alike]
  simp only [Run.map, List.length_map]
  split
  · simp only [Option.map_some, Run.map, List.map_append]
  · simp only [Option.bind_eq_bind, Option.bind_map, Option.map_bind, Function.comp_def, merge_map same]
    rfl

theorem joinDeeper_map (depth : Nat) (last : Run α) (stack : List (Nat × Run α)) :
    joinDeeper? less' quick'? room depth (last.map f) (stack.map (Prod.map id (Run.map f))) =
      (joinDeeper? less quick? room depth last stack).map
        (Prod.map (Run.map f) (List.map (Prod.map id (Run.map f)))) := by
  induction stack generalizing last with
  | nil => rfl
  | cons top stack ih =>
    obtain ⟨border, run⟩ := top
    simp only [List.map_cons, Prod.map_apply, id, joinDeeper?, join_map same room alike]
    split
    · simp only [Option.bind_eq_bind, Option.bind_map, Option.map_bind, Function.comp_def]
      exact congrArg _ (funext ih)
    · rfl

theorem joinAll_map (length scanned : Nat) (last : Run α) (stack : List (Nat × Run α)) (rest : List (Run α)) :
    joinAll? less' quick'? room length scanned (last.map f) (stack.map (Prod.map id (Run.map f)))
        (rest.map (Run.map f)) =
      (joinAll? less quick? room length scanned last stack rest).map (Run.map f) := by
  have size (run : Run α) : (run.map f).items.length = run.items.length := List.length_map _
  induction rest generalizing scanned last stack with
  | nil =>
    simp only [List.map_nil, joinAll?, joinDeeper_map same room alike, Option.bind_eq_bind, Option.bind_map,
      Option.map_bind]
    rfl
  | cons next rest ih =>
    simp only [List.map_cons, joinAll?, joinDeeper_map same room alike, size, Option.bind_eq_bind, Option.bind_map,
      Option.map_bind]
    refine congrArg _ (funext fun joined => ?_)
    exact ih _ next ((_, joined.1) :: joined.2)

theorem sortRuns_map (eager : Bool) (items : List α) :
    sortRuns? less' quick'? room eager (items.map f) =
      (sortRuns? less quick? room eager items).map (List.map f) := by
  unfold sortRuns?
  simp only [List.length_map, runs_map same, Option.bind_eq_bind, Option.bind_map, Option.map_bind]
  refine congrArg _ (funext fun runs => ?_)
  cases runs with
  | nil => rfl
  | cons first rest =>
    have size : (first.map f).items.length = first.items.length := List.length_map _
    have joined := joinAll_map same room alike items.length first.items.length first [] rest
    rw [List.map_nil] at joined
    simp only [Function.comp_apply, List.map_cons, size, joined, Option.bind_map, Option.map_bind]
    exact congrArg _ (funext (settle_map alike))

end

/-! ### Pivots -/

theorem pivotPlace_map (items : List α) : pivotPlace less' (items.map f) = pivotPlace less items := by
  unfold pivotPlace
  simp only [List.getElem?_map, List.length_map]
  congr 1
  funext i j
  cases items[i]? <;> cases items[j]? <;> simp [same]

theorem sortParts_map {sort? : Option α → List α → Option (List α)} {sort'? : Option β → List β → Option (List β)}
    (alike : ∀ ancestor items, sort'? (ancestor.map f) (items.map f) = (sort? ancestor items).map (List.map f))
    (ancestor : Option α) (before : List α) (pivot : α) (after : List α) :
    sortParts? less' sort'? (ancestor.map f) (before.map f) (f pivot) (after.map f) =
      (sortParts? less sort? ancestor before pivot after).map (List.map f) := by
  have lower (items : List α) : (items.map f).filter (less' · (f pivot)) = (items.filter (less · pivot)).map f := by
    simp only [List.filter_map, Function.comp_def, same]
  have level (items : List α) :
      (items.map f).filter (!less' (f pivot) ·) = (items.filter (!less pivot ·)).map f := by
    simp only [List.filter_map, Function.comp_def, same]
  have upper (items : List α) : (items.map f).filter (less' (f pivot) ·) = (items.filter (less pivot ·)).map f := by
    simp only [List.filter_map, Function.comp_def, same]
  have kept (items : List α) :
      (items.map f).filter (!less' · (f pivot)) = (items.filter (!less · pivot)).map f := by
    simp only [List.filter_map, Function.comp_def, same]
  have alone (items : List α) : sort'? none (items.map f) = (sort? none items).map (List.map f) := alike none items
  have below (items : List α) : sort'? (some (f pivot)) (items.map f) = (sort? (some pivot) items).map (List.map f) :=
    alike (some pivot) items
  unfold sortParts?
  simp only [← List.map_append, ← List.map_cons, lower, level, upper, kept, List.isEmpty_map, Option.any_map, same,
    alone, below, alike]
  split
  · simp only [Option.bind_eq_bind, Option.bind_map, Option.map_bind]
    refine congrArg _ (funext fun upper => ?_)
    simp
  · simp only [Option.bind_eq_bind, Option.bind_map, Option.map_bind, Function.comp_def]
    refine congrArg _ (funext fun upper => congrArg _ (funext fun lower => ?_))
    simp

theorem quick_map (limit : Nat) (ancestor : Option α) (items : List α) :
    quick? less' limit (ancestor.map f) (items.map f) = (quick? less limit ancestor items).map (List.map f) := by
  induction limit generalizing ancestor items with
  | zero =>
    simp only [quick?, List.length_map, sortSmall_map same, sortRuns_map same 0 (sortSmall_map same)]
    split <;> rfl
  | succ limit ih =>
    simp only [quick?, List.length_map, sortSmall_map same, pivotPlace_map same, List.splitAt_eq, ← List.map_take,
      ← List.map_drop]
    split
    · rfl
    · cases items.drop (pivotPlace less items) with
      | nil => rfl
      | cons pivot after => exact sortParts_map same ih ancestor _ pivot after

/-- Items that compare as those that they are mapped to are sorted as these. -/
theorem stable_map (items : List α) : stable? less' (items.map f) = (stable? less items).map (List.map f) := by
  unfold stable?
  simp only [List.length_map]
  split
  · exact congrArg some (insertAll_map same [] items)
  · refine sortRuns_map same _ (fun run => ?_) _ items
    simp only [List.length_map]
    exact quick_map same _ none run

end

end Listing.Sorting
