import Mathlib.Tactic.MkIffOfInductiveProp
import Listing.Proofs.Fragment.Field
import Listing.Proofs.Fragment.Shape

/-!
Values of the `field` key with any number of tests. Each test is read as its name, its value and its operator say.
The first one whose value does not suit its operator is the error of them all.
-/

namespace Listing

structure Fragment.IsBounds (raw low high : List Char) : Prop where
  whole : raw = low ++ '-' :: high
  lower : low ≠ []
  upper : high ≠ []
  before : '-' ∉ low
  behind : '-' ∉ high

/-- What stands between the dashes of a list; nothing does not count. -/
def Fragment.items (raw : List Char) : List (List Char) := (raw.splitOn '-').filter (!·.isEmpty)

inductive Operator.Makes : Operator → List Char → Test → Prop
  | equals {raw : List Char} : Makes .eq raw (.equals (Scalar.ofChars raw))
  | compare {operator : Operator} {raw : List Char} (single : operator ∈ [.ne, .le, .lt, .gt, .ge, .contains]) :
    Makes operator raw (.compare (Scalar.ofChars raw) operator)
  | between {raw low high : List Char} (bounds : Fragment.IsBounds raw low high) :
    Makes .between raw (.between (Scalar.ofChars low) (Scalar.ofChars high))
  | isIn {raw : List Char} (held : Fragment.items raw ≠ []) :
    Makes .isIn raw (.isIn ((Fragment.items raw).map Scalar.ofChars))
  | notIn {raw : List Char} (held : Fragment.items raw ≠ []) :
    Makes .notIn raw (.notIn ((Fragment.items raw).map Scalar.ofChars))

inductive Operator.Refuses : Operator → List Char → Flaw → Prop
  | between {raw : List Char} (shapeless : ∀ low high, ¬Fragment.IsBounds raw low high) :
    Refuses .between raw .boundsShape
  | isIn {raw : List Char} (empty : Fragment.items raw = []) : Refuses .isIn raw .emptyList
  | notIn {raw : List Char} (empty : Fragment.items raw = []) : Refuses .notIn raw .emptyList

structure WrittenTest where
  name : List Char
  raw : List Char
  spelling : List Char

namespace WrittenTest

def text (w : WrittenTest) : List Char := Fragment.fieldText w.name w.raw w.spelling

def joined (tests : List WrittenTest) : List Char := [','].intercalate (tests.map text)

/-- A name that the grammar leaves whole, a value without a comma, and an operator. -/
@[mk_iff]
structure Proper (w : WrittenTest) : Prop where
  named : w.name ≠ []
  solid : w.name.head?.any Text.isSpace = false
  joint : ',' ∉ w.name
  undashed : Text.occurs Fragment.dashes w.name = false
  last : w.name.getLast? ≠ some '-'
  single : ',' ∉ w.raw
  known : (Operator.ofChars? w.spelling).isSome

instance (w : WrittenTest) : Decidable w.Proper := decidable_of_iff' _ (proper_iff w)

def Means (w : WrittenTest) (leaf : Leaf) : Prop :=
  leaf.field = String.ofList w.name ∧
    ∃ operator, Operator.ofChars? w.spelling = some operator ∧ operator.Makes w.raw leaf.test

def Fails (w : WrittenTest) (flaw : Flaw) : Prop :=
  ∃ operator, Operator.ofChars? w.spelling = some operator ∧ operator.Refuses w.raw flaw

end WrittenTest

namespace Fragment
open Text

variable {raw : List Char} {operator : Operator}

/-! ### Values -/

theorem bounds?_eq_some {low high : List Char} : bounds? raw = some (low, high) ↔ IsBounds raw low high := by
  unfold bounds?
  constructor
  · intro read
    split at read
    · rename_i first second cut
      obtain ⟨whole, before⟩ := cut?_singleton_eq_some.mp cut
      split at read
      · cases read
      · rename_i accepted
        cases read
        simp only [Bool.or_eq_true, not_or, List.isEmpty_iff, List.contains_iff_mem] at accepted
        exact ⟨whole, accepted.1.1, accepted.1.2, before, accepted.2⟩
    · cases read
  · rintro ⟨rfl, lower, upper, before, behind⟩
    simp [cut?_singleton high before, lower, upper, behind]

theorem operands?_of_empty (empty : items raw = []) : operands? raw = none :=
  if_pos (List.isEmpty_iff.mpr empty)

theorem operands?_of_held (held : items raw ≠ []) : operands? raw = some ((items raw).map Scalar.ofChars) :=
  if_neg fun empty => held (List.isEmpty_iff.mp empty)

theorem makes_or_refuses (operator : Operator) (raw : List Char) :
    (∃ t, operator.Makes raw t) ∨ ∃ flaw, operator.Refuses raw flaw := by
  have listed := eq_or_ne (items raw) []
  cases operator with
  | eq => exact .inl ⟨_, .equals⟩
  | ne | le | lt | gt | ge | contains => exact .inl ⟨_, .compare (by decide)⟩
  | between =>
    by_cases shaped : ∃ low high, IsBounds raw low high
    · obtain ⟨low, high, bounds⟩ := shaped
      exact .inl ⟨_, .between bounds⟩
    · exact .inr ⟨_, .between fun low high bounds => shaped ⟨low, high, bounds⟩⟩
  | isIn =>
    rcases listed with empty | held
    · exact .inr ⟨_, .isIn empty⟩
    · exact .inl ⟨_, .isIn held⟩
  | notIn =>
    rcases listed with empty | held
    · exact .inr ⟨_, .notIn empty⟩
    · exact .inl ⟨_, .notIn held⟩

theorem test_of_makes {t : Test} (made : operator.Makes raw t) : test raw operator = .ok t := by
  cases made with
  | equals => rfl
  | compare single =>
    simp only [List.mem_cons, List.not_mem_nil, or_false] at single
    rcases single with rfl | rfl | rfl | rfl | rfl | rfl <;> rfl
  | between bounds => rw [test, bounds?_eq_some.mpr bounds]
  | isIn held => rw [test, operands?_of_held held]
  | notIn held => rw [test, operands?_of_held held]

theorem test_of_refuses {flaw : Flaw} (refused : operator.Refuses raw flaw) : test raw operator = .error flaw := by
  cases refused with
  | between shapeless =>
    have none : bounds? raw = none :=
      Option.eq_none_iff_forall_ne_some.mpr fun (low, high) read => shapeless low high (bounds?_eq_some.mp read)
    rw [test, none]
  | isIn empty => rw [test, operands?_of_empty empty]
  | notIn empty => rw [test, operands?_of_empty empty]

theorem test_eq_ok {t : Test} : test raw operator = .ok t ↔ operator.Makes raw t := by
  refine ⟨fun read => ?_, test_of_makes⟩
  rcases makes_or_refuses operator raw with ⟨t', made⟩ | ⟨flaw, refused⟩
  · rw [test_of_makes made] at read
    cases read
    exact made
  · rw [test_of_refuses refused] at read
    cases read

theorem test_eq_error {flaw : Flaw} : test raw operator = .error flaw ↔ operator.Refuses raw flaw := by
  refine ⟨fun read => ?_, test_of_refuses⟩
  rcases makes_or_refuses operator raw with ⟨t, made⟩ | ⟨flaw', refused⟩
  · rw [test_of_makes made] at read
    cases read
  · rw [test_of_refuses refused] at read
    cases read
    exact refused

/-! ### Spellings -/

theorem ofChars?_trimEnd (cs : List Char) : Operator.ofChars? (trimEnd cs) = Operator.ofChars? cs := by
  rw [Operator.ofChars?, trim_trimEnd, Operator.ofChars?]

/-- A character that no operator has in upper case stands in no spelling, blanks apart. -/
theorem notMem_spelling {cs : List Char} {c : Char} (known : Operator.ofChars? cs = some operator)
    (solid : isSpace c = false) (foreign : ∀ pair ∈ Operator.spellings, c.toUpper ∉ pair.1.toList) : c ∉ cs := by
  intro member
  have spelled := foreign _ (OrderedMap.mem_of_lookup known)
  rw [String.toList_ofList] at spelled
  exact spelled (List.mem_map_of_mem (mem_trim member solid))

theorem occurs_dashes_spelling {cs : List Char} (known : Operator.ofChars? cs = some operator) :
    occurs dashes ('-' :: cs) = false := by
  have dashless : '-' ∉ cs := notMem_spelling known (by decide) (by decide)
  have absent := occurs_pair_append (d := '-') [] dashless
  rw [List.append_nil] at absent
  cases cs with
  | nil => rfl
  | cons c cs =>
    have solid : '-' ≠ c := fun same => dashless (same ▸ List.mem_cons_self)
    rw [dashes, occurs, absent]
    simp [List.isPrefixOf, solid, occurs]

/-! ### One test -/

variable {w : WrittenTest} {tests : List WrittenTest}

theorem trim_text (proper : w.Proper) : trim w.text = fieldText w.name w.raw (trimEnd w.spelling) := by
  have front : trimStart w.text = w.text := by
    rw [WrittenTest.text, fieldText, List.append_assoc]
    exact trimStart_append _ proper.named proper.solid
  have ends := trimEnd_append (w.name ++ dashes ++ w.raw ++ ['-']) w.spelling (show isSpace '-' = false by decide)
  rw [trim, front]
  simpa [WrittenTest.text, fieldText, dashes] using ends

/-- Blanks behind the operator are cut off before it is read, and make no difference to it. -/
theorem fieldTest_trim_text (proper : w.Proper) (known : Operator.ofChars? w.spelling = some operator) :
    fieldTest (trim w.text) =
      ((test w.raw operator).mapError (malformed .field (trim w.text))).map (Leaf.mk (String.ofList w.name)) := by
  have known' := (ofChars?_trimEnd w.spelling).trans known
  rw [trim_text proper]
  exact fieldTest_fieldText w.raw proper.named (occurs_pair_concat proper.undashed proper.last '-')
    (occurs_dashes_spelling known') known'

theorem fieldTest_eq_ok (proper : w.Proper) {leaf : Leaf} :
    fieldTest (trim w.text) = .ok leaf ↔ w.Means leaf := by
  obtain ⟨operator, known⟩ := Option.isSome_iff_exists.mp proper.known
  rw [fieldTest_trim_text proper known]
  constructor
  · intro read
    cases made : test w.raw operator with
    | error flaw =>
      rw [made] at read
      cases read
    | ok t =>
      rw [made] at read
      cases read
      exact ⟨rfl, operator, known, test_eq_ok.mp made⟩
  · obtain ⟨field, t⟩ := leaf
    rintro ⟨rfl, other, spelled, made⟩
    obtain rfl := Option.some.inj (known.symm.trans spelled)
    rw [test_eq_ok.mpr made]
    rfl

theorem fieldTest_eq_error (proper : w.Proper) {error : FragmentError} :
    fieldTest (trim w.text) = .error error ↔ ∃ flaw, w.Fails flaw ∧ error = malformed .field (trim w.text) flaw := by
  obtain ⟨operator, known⟩ := Option.isSome_iff_exists.mp proper.known
  rw [fieldTest_trim_text proper known]
  constructor
  · intro read
    cases made : test w.raw operator with
    | error flaw =>
      rw [made] at read
      cases read
      exact ⟨flaw, ⟨operator, known, test_eq_error.mp made⟩, rfl⟩
    | ok t =>
      rw [made] at read
      cases read
  · rintro ⟨flaw, ⟨other, spelled, refused⟩, rfl⟩
    obtain rfl := Option.some.inj (known.symm.trans spelled)
    rw [test_eq_error.mpr refused]
    rfl

theorem exists_leaf_iff (proper : w.Proper) :
    (∃ leaf, fieldTest (trim w.text) = .ok leaf) ↔ ∀ flaw, ¬w.Fails flaw := by
  constructor
  · rintro ⟨leaf, read⟩ flaw fails
    rw [(fieldTest_eq_error proper).mpr ⟨flaw, fails, rfl⟩] at read
    cases read
  · intro sound
    cases read : fieldTest (trim w.text) with
    | ok leaf => exact ⟨leaf, rfl⟩
    | error error =>
      obtain ⟨flaw, fails, -⟩ := (fieldTest_eq_error proper).mp read
      exact absurd fails (sound flaw)

/-! ### Tests with commas between them -/

theorem comma_notMem_text (proper : w.Proper) : ',' ∉ w.text := by
  obtain ⟨operator, known⟩ := Option.isSome_iff_exists.mp proper.known
  have bare : ',' ∉ w.spelling := notMem_spelling known (by decide) (by decide)
  simp [WrittenTest.text, fieldText, dashes, proper.joint, proper.single, bare]

theorem entries_joined (held : tests ≠ []) (proper : ∀ w ∈ tests, w.Proper) :
    entries (WrittenTest.joined tests) = tests.map fun w => trim w.text := by
  have parts : (WrittenTest.joined tests).splitOn ',' = tests.map WrittenTest.text := by
    refine List.splitOn_intercalate ',' ?_ (by simpa using held)
    intro text member
    obtain ⟨w, listed, rfl⟩ := List.mem_map.mp member
    exact comma_notMem_text (proper w listed)
  rw [entries, parts, List.map_map]
  refine List.filter_eq_self.mpr fun text member => ?_
  obtain ⟨w, listed, rfl⟩ := List.mem_map.mp member
  simp [trim_text (proper w listed), fieldText, dashes]

theorem fieldTests_joined (held : tests ≠ []) (proper : ∀ w ∈ tests, w.Proper) :
    fieldTests (String.ofList (WrittenTest.joined tests)) = tests.mapM fun w => fieldTest (trim w.text) := by
  have split := entries_joined held proper
  have solid : isBlank (WrittenTest.joined tests) = false := by
    rw [← Bool.not_eq_true]
    intro blank
    rw [← entries_trim, trim_of_isBlank blank] at split
    exact held (List.map_eq_nil_iff.mp split.symm)
  rw [fieldTests_of_solid solid, split, List.mapM_map]
  rfl

theorem fieldTests_joined_eq_ok (held : tests ≠ []) (proper : ∀ w ∈ tests, w.Proper) {leaves : List Leaf} :
    fieldTests (String.ofList (WrittenTest.joined tests)) = .ok leaves ↔
      List.Forall₂ WrittenTest.Means tests leaves := by
  rw [fieldTests_joined held proper, mapM_eq_ok_iff]
  constructor
  · intro read
    refine ((List.forall₂_and_left _ _).mpr ⟨proper, read⟩).imp ?_
    rintro w leaf ⟨proper, read⟩
    exact (fieldTest_eq_ok proper).mp read
  · intro means
    refine ((List.forall₂_and_left _ _).mpr ⟨proper, means⟩).imp ?_
    rintro w leaf ⟨proper, means⟩
    exact (fieldTest_eq_ok proper).mpr means

theorem fieldTests_joined_eq_error (held : tests ≠ []) (proper : ∀ w ∈ tests, w.Proper) {error : FragmentError} :
    fieldTests (String.ofList (WrittenTest.joined tests)) = .error error ↔
      ∃ before w after flaw, tests = before ++ w :: after ∧ (∀ v ∈ before, ∀ flaw, ¬v.Fails flaw) ∧ w.Fails flaw ∧
        error = malformed .field (trim w.text) flaw := by
  rw [fieldTests_joined held proper]
  constructor
  · intro failed
    obtain ⟨before, w, after, rfl, earlier, failed⟩ := exists_of_mapM_eq_error failed
    obtain ⟨proper, own, -⟩ := by simpa only [List.forall_mem_append, List.forall_mem_cons] using proper
    obtain ⟨flaw, fails, rfl⟩ := (fieldTest_eq_error own).mp failed
    exact ⟨before, w, after, flaw, rfl, fun v member => (exists_leaf_iff (proper v member)).mp (earlier v member),
      fails, rfl⟩
  · rintro ⟨before, w, after, flaw, rfl, sound, fails, rfl⟩
    obtain ⟨proper, own, -⟩ := by simpa only [List.forall_mem_append, List.forall_mem_cons] using proper
    exact mapM_eq_error (fun v member => (exists_leaf_iff (proper v member)).mpr (sound v member))
      ((fieldTest_eq_error own).mpr ⟨flaw, fails, rfl⟩)

theorem fieldTests_joined_fails_iff (held : tests ≠ []) (proper : ∀ w ∈ tests, w.Proper) :
    (∃ error, fieldTests (String.ofList (WrittenTest.joined tests)) = .error error) ↔
      ∃ w ∈ tests, ∃ flaw, w.Fails flaw := by
  constructor
  · rintro ⟨error, failed⟩
    obtain ⟨before, w, after, flaw, rfl, -, fails, -⟩ := (fieldTests_joined_eq_error held proper).mp failed
    exact ⟨w, List.mem_append_right _ List.mem_cons_self, flaw, fails⟩
  · rintro ⟨w, member, flaw, fails⟩
    rw [fieldTests_joined held proper]
    cases read : tests.mapM fun w => fieldTest (trim w.text) with
    | error error => exact ⟨error, rfl⟩
    | ok leaves =>
      have sound := (exists_leaf_iff (proper w member)).mp (exists_result_of_mapM_eq_ok read w member)
      exact absurd fails (sound flaw)

/-- Tests are read in their order, each as it was written. They are refused together if the operator of one of
them cannot take its value, and the first such test is named. -/
theorem field_grammar_exact (held : tests ≠ []) (proper : ∀ w ∈ tests, w.Proper) :
    (∀ leaves, fieldTests (String.ofList (WrittenTest.joined tests)) = .ok leaves ↔
      List.Forall₂ WrittenTest.Means tests leaves) ∧
    ((∃ error, fieldTests (String.ofList (WrittenTest.joined tests)) = .error error) ↔
      ∃ w ∈ tests, ∃ flaw, w.Fails flaw) ∧
    (∀ error, fieldTests (String.ofList (WrittenTest.joined tests)) = .error error ↔
      ∃ before w after flaw, tests = before ++ w :: after ∧ (∀ v ∈ before, ∀ flaw, ¬v.Fails flaw) ∧ w.Fails flaw ∧
        error = malformed .field (trim w.text) flaw) :=
  ⟨fun _ => fieldTests_joined_eq_ok held proper, fieldTests_joined_fails_iff held proper,
    fun _ => fieldTests_joined_eq_error held proper⟩

/-- The dashes of a value are its own, and blanks and small letters in an operator do no harm. A list of nothing
but dashes is refused. -/
theorem dashed_values_read :
    let tests : List WrittenTest := [⟨"price".toList, "10-20".toList, "between".toList⟩,
      ⟨"-name ".toList, "-a--b-".toList, " contains ".toList⟩, ⟨"tid".toList, "4--5".toList, "not_in ".toList⟩]
    let listless : WrittenTest := ⟨"kind".toList, "--".toList, "In ".toList⟩
    (tests ≠ [] ∧ ∀ w ∈ tests ++ [listless], w.Proper) ∧
      fieldTests "price--10-20--between,-name ---a--b--- contains ,tid--4--5--not_in " =
        .ok [⟨"price", .between (.int 10) (.int 20)⟩, ⟨"-name ", .compare (.text "-a--b-") .contains⟩,
          ⟨"tid", .notIn [.int 4, .int 5]⟩] ∧
      fieldTests "price--10-20--between,-name ---a--b--- contains ,tid--4--5--not_in ,kind------In " =
        .error (.malformed .field "kind------In" .emptyList) := by
  intro tests listless
  have proper : ∀ w ∈ tests ++ [listless], w.Proper := by decide
  have proper' : ∀ w ∈ tests, w.Proper := (List.forall_mem_append.mp proper).1
  have held : tests ≠ [] := List.cons_ne_nil _ _
  have bounds : IsBounds "10-20".toList "10".toList "20".toList :=
    ⟨by decide, by decide, by decide, by decide, by decide⟩
  have means : List.Forall₂ WrittenTest.Means tests [⟨"price", .between (.int 10) (.int 20)⟩,
      ⟨"-name ", .compare (.text "-a--b-") .contains⟩, ⟨"tid", .notIn [.int 4, .int 5]⟩] := by
    refine .cons ⟨by decide, .between, by decide, ?_⟩ (.cons ⟨by decide, .contains, by decide, ?_⟩
      (.cons ⟨by decide, .notIn, by decide, ?_⟩ .nil))
    · exact .between bounds
    · exact .compare (by decide)
    · exact .notIn (by decide)
  have read := ((field_grammar_exact held proper').1 _).mpr means
  have sound : ∀ w ∈ tests, ∀ flaw, ¬w.Fails flaw := by
    intro w member flaw fails
    obtain ⟨error, failed⟩ := (field_grammar_exact held proper').2.1.mpr ⟨w, member, flaw, fails⟩
    rw [read] at failed
    cases failed
  have refused := ((field_grammar_exact (List.append_ne_nil_of_left_ne_nil held _) proper).2.2 _).mpr
    ⟨tests, listless, [], .emptyList, rfl, sound, ⟨.isIn, by decide, .isIn (by decide)⟩, rfl⟩
  exact ⟨⟨held, proper⟩, read, refused⟩

end Fragment
end Listing
