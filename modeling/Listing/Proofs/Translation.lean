import Listing.Store.Selection

/-!
What the calls on a storage mean. A descriptor is put to a storage by a fixed list of calls, whatever the
storage does with them, and the groups among them are the trees of the descriptor. On the memory store
those calls keep exactly the records that the descriptor asks for, its trees read by recursion.
-/

namespace Listing

/-! ### Reading a descriptor -/

/-- A record satisfies a condition, read off the tree: all children under AND, one of them under OR. A
group without children asks for nothing. -/
inductive Condition.Satisfied (record : Json) : Condition → Prop where
  | leaf {l : Leaf} (passes : Store.passesTest (Store.resolve record l.field) l.test = true) :
      Satisfied record (.leaf l)
  | empty (conjunction : Conjunction) : Satisfied record (.group conjunction [])
  | every {children : List Condition} (all : ∀ c ∈ children, Satisfied record c) :
      Satisfied record (.group .and children)
  | some {children : List Condition} {c : Condition} (member : c ∈ children)
      (satisfied : Satisfied record c) : Satisfied record (.group .or children)

structure Descriptor.Asks (d : Descriptor) (record : Json) : Prop where
  bundle : ∀ test, d.bundle.test = some test →
    Store.passesTest (Store.resolve record d.bundleField) test = true
  conditions : ∀ entry ∈ d.conditions.entries,
    Store.passesTest (Store.resolve record entry.1) entry.2 = true
  group : ∀ g, d.group = some g → g.toCondition.Satisfied record
  dates : ∀ g, d.dates = some g → g.toCondition.Satisfied record

/-! ### The calls of a descriptor -/

def Descriptor.filterCalls (d : Descriptor) : List Call :=
  d.bundle.test.toList.map (.condition d.bundleField) ++
    d.conditions.entries.map (fun entry => .condition entry.1 entry.2) ++
    (d.group.toList ++ d.dates.toList).map .group

/-- The calls that settle the order: one tag for a random listing where that is honoured, else the sort
keys. -/
def Descriptor.orderCalls (d : Descriptor) (honoured : Bool) : List Call :=
  if d.random && honoured then [.tag randomTag] else d.sort.map .sort

namespace Storage
variable {Q G R H : Type}

def beside (s : Storage Q G) (t : Storage R H) : Storage (Q × R) (G × H) where
  newGroup conjunction := (s.newGroup conjunction, t.newGroup conjunction)
  addToGroup field test g := (s.addToGroup field test g.1, t.addToGroup field test g.2)
  nest inner g := (s.nest inner.1 g.1, t.nest inner.2 g.2)
  condition field test q := (s.condition field test q.1, t.condition field test q.2)
  group g q := (s.group g.1 q.1, t.group g.2 q.2)
  sort field direction q := (s.sort field direction q.1, t.sort field direction q.2)
  window w q := (s.window w q.1, t.window w q.2)
  tag name q := (s.tag name q.1, t.tag name q.2)
  honours := s.honours

/-- A storage with its calls written down: a group carries the tree that was put into it, a query the
list of the calls made on it. -/
def logged (s : Storage Q G) : Storage (Q × List Call) (G × Group) := s.beside (recorder s.honours)

def perform (s : Storage Q G) (q : Q) : Call → Q
  | .condition field test => s.condition field test q
  | .group g => s.group (s.buildGroup g) q
  | .sort key => s.sort key.field key.direction q
  | .window w => s.window w q
  | .tag name => s.tag name q

theorem applyFilters_eq (s : Storage Q G) (d : Descriptor) (q : Q) :
    s.applyFilters d q = d.filterCalls.foldl s.perform q := by
  unfold applyFilters Descriptor.filterCalls
  simp only [List.foldl_append, List.foldl_map]
  cases d.bundle.test <;> rfl

theorem applyQuery_eq (s : Storage Q G) (d : Descriptor) (q : Q) :
    s.applyQuery d q = s.window d.window
      ((d.orderCalls (s.honours randomTag)).foldl s.perform (s.applyFilters d q)) := by
  unfold applyQuery Descriptor.orderCalls
  cases d.random && s.honours randomTag
  · simp only [Bool.false_eq_true, if_false, List.foldl_map]
    rfl
  · rfl

/-! ### Groups -/

section Beside
variable (s : Storage Q G) (t : Storage R H)

mutual
theorem addChild_beside (g : G) (h : H) :
    ∀ c : Condition, (s.beside t).addChild (g, h) c = (s.addChild g c, t.addChild h c)
  | .leaf _ => by simp only [addChild, beside]
  | .group conjunction children => by
    have inner := addChildren_beside (s.newGroup conjunction) (t.newGroup conjunction) children
    simp only [addChild]
    rw [show (s.beside t).newGroup conjunction = (s.newGroup conjunction, t.newGroup conjunction) from rfl,
      inner]
    rfl

theorem addChildren_beside (g : G) (h : H) :
    ∀ children : List Condition,
      (s.beside t).addChildren (g, h) children = (s.addChildren g children, t.addChildren h children)
  | [] => by simp only [addChildren]
  | c :: rest => by
    simp only [addChildren]
    rw [addChild_beside g h c]
    exact addChildren_beside _ _ rest
end

end Beside

structure KeepsGroups (s : Storage Q Group) : Prop where
  newGroup : ∀ conjunction, s.newGroup conjunction = ⟨conjunction, []⟩
  addToGroup : ∀ field test g,
    s.addToGroup field test g = { g with children := g.children ++ [.test field test] }
  nest : ∀ inner g, s.nest inner g = { g with children := g.children ++ [inner.toCondition] }

section KeepsGroups
variable {s : Storage Q Group}

-- The accumulator is general: what is added stands behind the children that are there already.
mutual
theorem KeepsGroups.addChild_eq (keeps : s.KeepsGroups) (g : Group) :
    ∀ c : Condition, s.addChild g c = { g with children := g.children ++ [c] }
  | .leaf l => by
    simp only [addChild, keeps.addToGroup]
    rfl
  | .group conjunction children => by
    simp only [addChild, keeps.newGroup, keeps.nest]
    rw [KeepsGroups.addChildren_eq keeps ⟨conjunction, []⟩ children]
    rfl

theorem KeepsGroups.addChildren_eq (keeps : s.KeepsGroups) (g : Group) :
    ∀ children : List Condition, s.addChildren g children = { g with children := g.children ++ children }
  | [] => by simp only [addChildren, List.append_nil]
  | c :: rest => by
    simp only [addChildren]
    rw [KeepsGroups.addChild_eq keeps g c, KeepsGroups.addChildren_eq keeps _ rest]
    simp only [List.append_assoc, List.singleton_append]
end

theorem KeepsGroups.buildGroup_eq (keeps : s.KeepsGroups) (g : Group) : s.buildGroup g = g := by
  unfold buildGroup
  rw [keeps.newGroup, keeps.addChildren_eq]
  rfl

end KeepsGroups

theorem selecting_keepsGroups : Store.selecting.KeepsGroups :=
  ⟨fun _ => rfl, fun _ _ _ => rfl, fun _ _ => rfl⟩

/-! ### Logs -/

end Storage

/-! ### Selections -/

namespace Store

mutual
theorem meets_iff (record : Json) : ∀ c : Condition, meets record c = true ↔ c.Satisfied record
  | .leaf l => by
    simp only [meets]
    constructor
    · exact .leaf
    · rintro ⟨passes⟩
      exact passes
  | .group .and children => by
    simp only [meets, Bool.or_eq_true, List.isEmpty_iff]
    rw [meetsAll_iff record children]
    constructor
    · rintro (rfl | all)
      · exact .empty _
      · exact .every all
    · intro satisfied
      cases satisfied with
      | empty => exact .inl rfl
      | every all => exact .inr all
  | .group .or children => by
    simp only [meets, Bool.or_eq_true, List.isEmpty_iff]
    rw [meetsSome_iff record children]
    constructor
    · rintro (rfl | ⟨c, member, satisfied⟩)
      · exact .empty _
      · exact .some member satisfied
    · intro satisfied
      cases satisfied with
      | empty => exact .inl rfl
      | some member satisfied => exact .inr ⟨_, member, satisfied⟩

theorem meetsAll_iff (record : Json) :
    ∀ children : List Condition, meetsAll record children = true ↔ ∀ c ∈ children, c.Satisfied record
  | [] => by simp [meetsAll]
  | c :: rest => by
    simp only [meetsAll, Bool.and_eq_true, List.forall_mem_cons]
    rw [meets_iff record c, meetsAll_iff record rest]

theorem meetsSome_iff (record : Json) :
    ∀ children : List Condition, meetsSome record children = true ↔ ∃ c ∈ children, c.Satisfied record
  | [] => by simp [meetsSome]
  | c :: rest => by
    simp only [meetsSome, Bool.or_eq_true]
    rw [meets_iff record c, meetsSome_iff record rest]
    simp only [List.mem_cons, exists_eq_or_imp]
end

/-- The condition that a call adds to a selection. -/
def filterOf : Call → Option Condition
  | .condition field test => some (.test field test)
  | .group g => some g.toCondition
  | _ => none

theorem perform_filter {call : Call} {c : Condition} (added : filterOf call = some c)
    (selection : Selection) :
    selecting.perform selection call = { selection with filters := selection.filters ++ [c] } := by
  cases call with
  | condition =>
    cases added
    rfl
  | group g =>
    cases added
    simp only [Storage.perform, Storage.selecting_keepsGroups.buildGroup_eq]
    rfl
  | _ => cases added

theorem foldl_perform_filters (calls : List Call) (filters : ∀ call ∈ calls, (filterOf call).isSome)
    (selection : Selection) :
    calls.foldl selecting.perform selection =
      { selection with filters := selection.filters ++ calls.filterMap filterOf } := by
  induction calls generalizing selection with
  | nil => simp
  | cons call rest ih =>
    obtain ⟨here, later⟩ := List.forall_mem_cons.mp filters
    obtain ⟨c, added⟩ := Option.isSome_iff_exists.mp here
    rw [List.foldl_cons, perform_filter added, ih later]
    simp [added]

theorem applyFilters_empty (d : Descriptor) :
    selecting.applyFilters d .empty =
      { Selection.empty with filters := d.filterCalls.filterMap filterOf } := by
  rw [Storage.applyFilters_eq, foldl_perform_filters]
  · rfl
  · intro call member
    simp only [Descriptor.filterCalls, List.mem_append, List.mem_map, or_assoc] at member
    rcases member with ⟨_, _, rfl⟩ | ⟨_, _, rfl⟩ | ⟨_, _, rfl⟩ <;> rfl

theorem foldl_perform_sort (keys : List SortKey) (selection : Selection) :
    (keys.map Call.sort).foldl selecting.perform selection =
      { selection with sort := selection.sort ++ keys } := by
  induction keys generalizing selection with
  | nil => simp
  | cons key rest ih =>
    rw [List.map_cons, List.foldl_cons, ih]
    simp [Storage.perform, selecting]

theorem applyQuery_empty (d : Descriptor) :
    selecting.applyQuery d .empty =
      { filters := (selecting.applyFilters d .empty).filters
        sort := if d.random then [] else d.sort
        window := some d.window
        tags := if d.random then [randomTag] else [] } := by
  rw [Storage.applyQuery_eq, show selecting.honours randomTag = true from rfl, applyFilters_empty]
  unfold Descriptor.orderCalls
  cases d.random
  · simp only [Bool.false_and, Bool.false_eq_true, if_false, foldl_perform_sort]
    rfl
  · rfl

/-- A selection keeps the records that its descriptor asks for. -/
theorem admits_applyFilters (d : Descriptor) (record : Json) :
    (selecting.applyFilters d .empty).admits record = true ↔ d.Asks record := by
  have leaf : ∀ field test, (Condition.test field test).Satisfied record ↔
      passesTest (resolve record field) test = true := by
    intro field test
    rw [← meets_iff]
    simp only [Condition.test, meets]
  have calls : (∀ c ∈ d.filterCalls.filterMap filterOf, c.Satisfied record) ↔
      (∀ test, d.bundle.test = some test → passesTest (resolve record d.bundleField) test = true) ∧
      (∀ entry ∈ d.conditions.entries, passesTest (resolve record entry.1) entry.2 = true) ∧
      (∀ g, d.group = some g → g.toCondition.Satisfied record) ∧
      ∀ g, d.dates = some g → g.toCondition.Satisfied record := by
    simp only [Descriptor.filterCalls, List.filterMap_append, List.filterMap_map, List.mem_append,
      List.mem_filterMap, Function.comp_apply, filterOf, Option.some.injEq, or_imp, forall_and,
      forall_exists_index, and_imp, forall_apply_eq_imp_iff₂, leaf, Option.mem_toList,
      and_assoc]
  unfold Selection.admits
  rw [applyFilters_empty, meetsAll_iff, calls]
  constructor
  · rintro ⟨bundle, conditions, group, dates⟩
    exact ⟨bundle, conditions, group, dates⟩
  · rintro ⟨bundle, conditions, group, dates⟩
    exact ⟨bundle, conditions, group, dates⟩

end Store

end Listing
