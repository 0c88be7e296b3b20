import Mathlib.Algebra.Group.Nat.Defs
import Mathlib.Data.List.Forall2
import Listing.Fragment.Dates
import Listing.Fragment.Field
import Listing.Fragment.Order
import Listing.Fragment.Terms

/-!
What fragments are read into. A test has the operands that its operator asks for, a group has children at
each of its levels, of which there are two at most, and a window ends at a count.
-/

namespace Listing

def Test.Shaped : Test → Prop
  | compare _ operator => operator ∈ [.ne, .le, .lt, .gt, .ge, .contains]
  | isIn operands | notIn operands => operands ≠ []
  | equals _ | between _ _ => True

/-- A condition with at most so many levels of groups, each group with a child, over tests in shape. -/
inductive Condition.WellFormed : Nat → Condition → Prop where
  | leaf {levels : Nat} {l : Leaf} (shaped : l.test.Shaped) : WellFormed levels (.leaf l)
  | group {levels : Nat} {conjunction : Conjunction} {children : List Condition} (inhabited : children ≠ [])
      (all : ∀ c ∈ children, WellFormed levels c) : WellFormed (levels + 1) (.group conjunction children)

def Group.WellFormed (g : Group) : Prop := g.toCondition.WellFormed 2

structure Window.Bounded (w : Window) : Prop where
  solid : 0 < w.length.toNat
  fits : w.start.toNat + w.length.toNat < 2 ^ 64

theorem bind_eq_ok {ε α β : Type} {x : Except ε α} {f : α → Except ε β} {y : β}
    (h : (x >>= f) = .ok y) : ∃ a, x = .ok a ∧ f a = .ok y := by
  cases x with
  | error => cases h
  | ok a => exact ⟨a, rfl, h⟩

theorem mapError_eq_ok {ε ε' α : Type} {f : ε → ε'} {x : Except ε α} {a : α} (h : x.mapError f = .ok a) :
    x = .ok a := by
  cases x with
  | error => cases h
  | ok own =>
    cases h
    rfl

theorem bind_eq_error {ε α β : Type} {x : Except ε α} {f : α → Except ε β} {e : ε}
    (h : (x >>= f) = .error e) : x = .error e ∨ ∃ a, x = .ok a ∧ f a = .error e := by
  cases x with
  | error own =>
    cases h
    exact .inl rfl
  | ok a => exact .inr ⟨a, rfl, h⟩

theorem forall₂_of_mapM_eq_ok {ε α β : Type} {f : α → Except ε β} {items : List α} {results : List β}
    (h : items.mapM f = .ok results) : List.Forall₂ (fun a b => f a = .ok b) items results := by
  induction items generalizing results with
  | nil =>
    cases h
    exact .nil
  | cons a rest ih =>
    rw [List.mapM_cons] at h
    obtain ⟨b, here, h⟩ := bind_eq_ok h
    obtain ⟨later, there, h⟩ := bind_eq_ok h
    cases h
    exact .cons here (ih there)

theorem mapM_eq_ok_iff {ε α β : Type} {f : α → Except ε β} {items : List α} {results : List β} :
    items.mapM f = .ok results ↔ List.Forall₂ (fun a b => f a = .ok b) items results := by
  refine ⟨forall₂_of_mapM_eq_ok, fun each => ?_⟩
  induction each with
  | nil => rfl
  | cons here _ ih =>
    rw [List.mapM_cons, here, ih]
    rfl

theorem mapM_eq_error {ε α β : Type} {f : α → Except ε β} {before after : List α} {a : α} {error : ε}
    (earlier : ∀ b ∈ before, ∃ result, f b = .ok result) (failed : f a = .error error) :
    (before ++ a :: after).mapM f = .error error := by
  induction before with
  | nil =>
    rw [List.nil_append, List.mapM_cons, failed]
    rfl
  | cons b before ih =>
    obtain ⟨⟨result, here⟩, earlier⟩ := List.forall_mem_cons.mp earlier
    rw [List.cons_append, List.mapM_cons, here, ih earlier]
    rfl

/-- The first item that fails decides. -/
theorem exists_of_mapM_eq_error {ε α β : Type} {f : α → Except ε β} {items : List α} {error : ε}
    (h : items.mapM f = .error error) :
    ∃ before a after, items = before ++ a :: after ∧ (∀ b ∈ before, ∃ result, f b = .ok result) ∧
      f a = .error error := by
  induction items with
  | nil => cases h
  | cons a rest ih =>
    rw [List.mapM_cons] at h
    cases here : f a with
    | error first =>
      rw [here] at h
      cases h
      exact ⟨[], a, rest, rfl, List.forall_mem_nil _, here⟩
    | ok result =>
      have later : rest.mapM f = .error error := by
        rw [here] at h
        cases found : rest.mapM f with
        | error =>
          rw [found] at h
          cases h
          rfl
        | ok =>
          rw [found] at h
          cases h
      obtain ⟨before, b, after, rfl, earlier, failed⟩ := ih later
      exact ⟨a :: before, b, after, rfl, List.forall_mem_cons.mpr ⟨⟨result, here⟩, earlier⟩, failed⟩

theorem exists_of_mapM_eq_ok {ε α β : Type} {f : α → Except ε β} {items : List α} {results : List β}
    (h : items.mapM f = .ok results) : ∀ b ∈ results, ∃ a ∈ items, f a = .ok b := by
  have made := forall₂_of_mapM_eq_ok h
  intro b member
  obtain ⟨i, bound, rfl⟩ := List.mem_iff_getElem.mp member
  have bound' : i < items.length := made.length_eq ▸ bound
  exact ⟨items[i], List.getElem_mem bound', made.get bound' bound⟩

theorem exists_result_of_mapM_eq_ok {ε α β : Type} {f : α → Except ε β} {items : List α} {results : List β}
    (h : items.mapM f = .ok results) : ∀ a ∈ items, ∃ b, f a = .ok b := by
  have made := forall₂_of_mapM_eq_ok h
  clear h
  induction made with
  | nil => exact List.forall_mem_nil _
  | cons here _ ih => exact List.forall_mem_cons.mpr ⟨⟨_, here⟩, ih⟩

theorem forall_of_mapM_eq_ok {ε α β : Type} {f : α → Except ε β} {P : β → Prop}
    (each : ∀ a b, f a = .ok b → P b) {items : List α} {results : List β} (h : items.mapM f = .ok results) :
    ∀ b ∈ results, P b := by
  intro b member
  obtain ⟨a, _, made⟩ := exists_of_mapM_eq_ok h b member
  exact each a b made

theorem Group.wellFormed_single (field : String) {test : Test} (shaped : test.Shaped) :
    (Group.single field test).WellFormed :=
  .group (List.cons_ne_nil _ _) (List.forall_mem_singleton.mpr (.leaf shaped))

namespace Fragment

/-! ### Tests -/

theorem operands?_ne_nil {raw : List Char} {operands : List Scalar} (read : operands? raw = some operands) :
    operands ≠ [] := by
  simp only [operands?] at read
  split at read
  · cases read
  · rename_i held
    cases read
    simpa using held

theorem test_shaped {raw : List Char} {operator : Operator} {t : Test} (read : test raw operator = .ok t) :
    t.Shaped := by
  cases operator with
  | between =>
    simp only [test] at read
    split at read
    · cases read
      trivial
    · cases read
  | isIn | notIn =>
    simp only [test] at read
    split at read
    · rename_i found
      cases read
      exact operands?_ne_nil found
    · cases read
  | eq =>
    cases read
    trivial
  | ne | le | lt | gt | ge | contains =>
    cases read
    simp [Test.ofOperator, Test.Shaped]

theorem fieldTest_shaped {fragment : List Char} {leaf : Leaf} (read : fieldTest fragment = .ok leaf) :
    leaf.test.Shaped := by
  unfold fieldTest at read
  split at read
  · cases read
  split at read
  · cases read
  split at read
  · cases read
  split at read
  · cases read
  split at read
  · cases read
  · rename_i found
    cases read
    exact test_shaped found

theorem fieldTests_shaped {raw : String} {leaves : List Leaf} (read : fieldTests raw = .ok leaves) :
    ∀ leaf ∈ leaves, leaf.test.Shaped := by
  obtain ⟨_, _, read⟩ := bind_eq_ok read
  exact forall_of_mapM_eq_ok (fun _ _ => fieldTest_shaped) read

theorem address_shaped {raw : String} {leaf : Leaf} (read : address raw = .ok leaf) : leaf.test.Shaped := by
  obtain ⟨_, _, read⟩ := bind_eq_ok read
  split at read
  · cases read
  split at read
  · cases read
  split at read
  · cases read
  · cases read
    simp [Test.Shaped]

/-! ### Lists of terms -/

theorem terms?_ne_nil {cs : List Char} {terms : List (List Char)} (read : terms? cs = some terms) :
    terms ≠ [] := by
  simp only [terms?] at read
  split at read
  · cases read
    exact List.splitOn_ne_nil _ _
  · cases read

theorem idList_ne_nil {raw : String} {ids : List Scalar} (read : idList raw = .ok ids) : ids ≠ [] := by
  obtain ⟨_, _, read⟩ := bind_eq_ok read
  split at read
  · rename_i found
    cases read
    simpa using terms?_ne_nil found
  · cases read

theorem fieldTerms_ne_nil {key : Key} {fragment : List Char} {pair : String × List Scalar}
    (read : fieldTerms key fragment = .ok pair) : pair.2 ≠ [] := by
  unfold fieldTerms at read
  split at read
  · cases read
  split at read
  · cases read
  · rename_i found
    split at read
    · cases read
    · cases read
      simpa using terms?_ne_nil found

/-! ### Groups -/

theorem category_wellFormed {raw : String} {g : Group} (read : category raw = .ok (some g)) : g.WellFormed := by
  obtain ⟨_, _, read⟩ := bind_eq_ok read
  split at read
  · cases read
  · obtain ⟨_, found, read⟩ := bind_eq_ok read
    cases read
    exact Group.wellFormed_single _ (fieldTerms_ne_nil found)

theorem categories_wellFormed {raw : String} {g : Group} (read : categories raw = .ok (some g)) :
    g.WellFormed := by
  obtain ⟨_, _, read⟩ := bind_eq_ok read
  obtain ⟨pairs, found, read⟩ := bind_eq_ok read
  simp only at read
  split at read
  · cases read
  · rename_i held
    cases read
    have solid : ∀ pair ∈ pairs, pair.2 ≠ [] := forall_of_mapM_eq_ok (fun _ _ => fieldTerms_ne_nil) found
    have terms : ∀ entry ∈ (OrderedMap.ofList pairs).entries, entry.2 ≠ [] :=
      OrderedMap.forall_ofList (P := (· ≠ [])) solid
    refine .group (by simpa using held) ?_
    intro c member
    obtain ⟨entry, listed, rfl⟩ := List.mem_map.mp member
    exact .leaf (terms entry listed)

theorem categoryIgnore_wellFormed {raw : String} {g : Group} (read : categoryIgnore raw = .ok g) :
    g.WellFormed := by
  obtain ⟨_, _, read⟩ := bind_eq_ok read
  obtain ⟨_, found, read⟩ := bind_eq_ok read
  cases read
  exact Group.wellFormed_single _ (fieldTerms_ne_nil found)

/-- The tests of an overlap are the deepest tree that is ever built. -/
theorem overlapOf_wellFormed (field : String) (first last : Scalar) : (overlapOf field first last).WellFormed := by
  have leaf : ∀ {levels : Nat} (field : String) {test : Test}, test.Shaped →
      (Condition.test field test).WellFormed levels := fun _ _ shaped => .leaf shaped
  have pair : ∀ {c d : Condition}, c.WellFormed 0 → d.WellFormed 0 →
      (Condition.group .and [c, d]).WellFormed 1 := fun first second =>
    .group (List.cons_ne_nil _ _) (List.forall_mem_cons.mpr ⟨first, List.forall_mem_singleton.mpr second⟩)
  have compared : ∀ operator ∈ [Operator.le, .gt, .lt, .ge], ∀ operand,
      (Test.compare operand operator).Shaped := by
    simp [Test.Shaped]
  refine .group (List.cons_ne_nil _ _) (List.forall_mem_cons.mpr ⟨?_, List.forall_mem_cons.mpr ⟨?_,
    List.forall_mem_cons.mpr ⟨leaf _ trivial, List.forall_mem_singleton.mpr (leaf _ trivial)⟩⟩⟩)
  · exact pair (leaf _ (compared .le (by decide) first)) (leaf _ (compared .gt (by decide) first))
  · exact pair (leaf _ (compared .lt (by decide) last)) (leaf _ (compared .ge (by decide) last))

/-! ### Windows and bundles -/

theorem window_bounded {raw : String} {w : Window} (read : window raw = .ok w) : w.Bounded := by
  obtain ⟨cs, _, read⟩ := bind_eq_ok read
  split at read
  · cases read
  rename_i start length _
  by_cases empty : length = 0
  · rw [if_pos empty] at read
    cases read
  rw [if_neg empty] at read
  cases sum : Count.add? start length with
  | none =>
    rw [sum] at read
    cases read
  | some last =>
    rw [sum] at read
    cases read
    have fits := Count.add?_eq_some.mp sum
    have bound : start.toNat + length.toNat < 2 ^ 64 := fits ▸ Count.toNat_lt last
    exact ⟨Nat.pos_of_ne_zero fun zero => empty (UInt64.toNat_inj.mp zero), bound⟩

end Fragment

end Listing
