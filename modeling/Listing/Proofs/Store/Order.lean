import Listing.Store.Selection

/-!
The order of values and of records. Whatever is compared, an order turns round with its sides. It need not be
transitive: two numbers compare as numbers, but each of them and a text that is none as texts, so that the text
can stand between them against their own order; and what is no number ties with every number. A list is in one
order exactly where no such three values meet, and records are if their values are, key by key.
-/

namespace Listing

def TransOn {α : Type} (cmp : α → α → Ordering) (members : List α) : Prop :=
  ∀ a ∈ members, ∀ b ∈ members, ∀ c ∈ members, (cmp a b).isLE → (cmp b c).isLE → (cmp a c).isLE

instance {α : Type} (cmp : α → α → Ordering) (members : List α) : Decidable (TransOn cmp members) :=
  inferInstanceAs (Decidable (∀ a ∈ members, ∀ b ∈ members, ∀ c ∈ members, _ → _ → _))

theorem TransOn.mono {α : Type} {cmp : α → α → Ordering} {members part : List α} (trans : TransOn cmp members)
    (within : part ⊆ members) : TransOn cmp part :=
  fun a isA b isB c isC => trans a (within isA) b (within isB) c (within isC)

theorem TransOn.eq_of_circle {α : Type} {cmp : α → α → Ordering} [Std.OrientedCmp cmp] {members : List α} {a b c : α}
    (trans : TransOn cmp members) (isA : a ∈ members) (isB : b ∈ members) (isC : c ∈ members)
    (first : (cmp a b).isLE) (second : (cmp b c).isLE) (third : (cmp c a).isLE) : cmp a b = .eq :=
  Std.OrientedCmp.isLE_antisymm first (trans b isB c isC a isA second third)

/-- The standard library's notion, on the members alone. -/
theorem transOn_iff_transCmp {α : Type} {cmp : α → α → Ordering} [oriented : Std.OrientedCmp cmp] {members : List α} :
    TransOn cmp members ↔ Std.TransCmp fun a b : { x // x ∈ members } => cmp a.1 b.1 where
  mp trans :=
    { eq_swap := oriented.eq_swap
      isLE_trans := fun {a b c} => trans a.1 a.2 b.1 b.2 c.1 c.2 }
  mpr trans a isA b isB c isC := trans.isLE_trans (a := ⟨a, isA⟩) (b := ⟨b, isB⟩) (c := ⟨c, isC⟩)

/-! ### Doubles -/

namespace Decimal.Double
variable {x y z : Double}

theorem compare?_swap (x y : Double) : y.compare? x = (x.compare? y).map Ordering.swap := by
  unfold compare?
  cases hx : x.rank? with
  | none => cases y.rank? <;> rfl
  | some i =>
    cases hy : y.rank? with
    | none => rfl
    | some j => exact congrArg some Std.OrientedOrd.eq_swap

/-- Only what is no number, between two numbers, breaks the order. -/
theorem isLE_trans_of_number (number : y ≠ nan) (first : ((x.compare? y).getD .eq).isLE)
    (second : ((y.compare? z).getD .eq).isLE) : ((x.compare? z).getD .eq).isLE := by
  obtain ⟨j, middle⟩ := Option.ne_none_iff_exists'.mp (mt rank?_eq_none.mp number)
  unfold compare? at first second ⊢
  rw [middle] at first second
  cases hx : x.rank? with
  | none => rfl
  | some i =>
    cases hz : z.rank? with
    | none => rfl
    | some k =>
      rw [hx] at first
      rw [hz] at second
      exact Std.TransOrd.isLE_trans first second

end Decimal.Double

/-! ### Values -/

namespace Store
open Decimal (Double)

variable {a b c : Json} {x y : Double}

theorem compareTexts_eq (s t : Option String) : compareTexts s t = compare s t := by
  cases s <;> cases t <;> rfl

theorem compareValues_of_numbers (first : number? a = some x) (second : number? b = some y) :
    compareValues a b = (x.compare? y).getD .eq := by
  rw [compareValues, first, second]

theorem compareValues_of_text (text : number? a = none ∨ number? b = none) :
    compareValues a b = compareTexts (text? a) (text? b) := by
  unfold compareValues
  rcases text with none | none
  · rw [none]
  · rw [none]
    cases number? a <;> rfl

theorem compareValues_swap (a b : Json) : compareValues a b = (compareValues b a).swap := by
  cases first : number? a with
  | none =>
    rw [compareValues_of_text (.inl first), compareValues_of_text (.inr first), compareTexts_eq, compareTexts_eq]
    exact Std.OrientedOrd.eq_swap
  | some x =>
    cases second : number? b with
    | none =>
      rw [compareValues_of_text (.inr second), compareValues_of_text (.inl second), compareTexts_eq, compareTexts_eq]
      exact Std.OrientedOrd.eq_swap
    | some y =>
      rw [compareValues_of_numbers first second, compareValues_of_numbers second first, x.compare?_swap y]
      cases x.compare? y with
      | none => rfl
      | some o => exact Ordering.swap_swap.symm

instance : Std.OrientedCmp compareValues := ⟨compareValues_swap _ _⟩

/-- Two numbers that differ, and what is no number beside them. -/
def Blurred (low high other : Json) : Prop :=
  compareValues low high = .lt ∧ number? other = some .nan

/-- A text that is no number between two numbers, against their own order. -/
def Crossed (low high other : Json) : Prop :=
  (compareValues low high).isLE ∧ number? other = none ∧
    (compareTexts (text? high) (text? other)).isLE ∧ (compareTexts (text? other) (text? low)).isLE ∧
    (compareValues low high = .lt ∨ compareTexts (text? high) (text? low) = .lt)

def Tangled (low high other : Json) : Prop :=
  ((number? low).isSome ∧ (number? high).isSome) ∧ (Blurred low high other ∨ Crossed low high other)

def Untangled (values : List Json) : Prop :=
  ∀ low ∈ values, ∀ high ∈ values, ∀ other ∈ values, ¬Tangled low high other

theorem texts_trans {s t u : Option String} (first : (compareTexts s t).isLE) (second : (compareTexts t u).isLE) :
    (compareTexts s u).isLE := by
  rw [compareTexts_eq] at first second ⊢
  exact Std.TransOrd.isLE_trans first second

theorem tangled_of_circle (first : (compareValues a b).isLE) (second : (compareValues b c).isLE)
    (back : compareValues c a = .lt) : Tangled c a b ∨ Tangled a b c ∨ Tangled b c a := by
  have backward : ¬(compareValues a c).isLE := Std.OrientedCmp.not_isLE_of_lt back
  cases ha : number? a with
  | none =>
    rw [compareValues_of_text (.inl ha)] at first backward
    rw [compareValues_of_text (.inr ha)] at back
    cases hb : number? b with
    | none =>
      rw [compareValues_of_text (.inl hb)] at second
      exact absurd (texts_trans first second) backward
    | some y =>
      cases hc : number? c with
      | none =>
        rw [compareValues_of_text (.inr hc)] at second
        exact absurd (texts_trans first second) backward
      | some z =>
        refine .inr (.inr ⟨⟨hb ▸ rfl, hc ▸ rfl⟩, .inr ⟨second, ha, ?_, first, .inr ?_⟩⟩)
        · rw [back]
          rfl
        · rw [compareTexts_eq] at first back ⊢
          exact Std.TransCmp.lt_of_lt_of_isLE back first
  | some x =>
    cases hb : number? b with
    | none =>
      rw [compareValues_of_text (.inr hb)] at first
      rw [compareValues_of_text (.inl hb)] at second
      cases hc : number? c with
      | none =>
        rw [compareValues_of_text (.inr hc)] at backward
        exact absurd (texts_trans first second) backward
      | some z =>
        exact .inl ⟨⟨hc ▸ rfl, ha ▸ rfl⟩, .inr ⟨by rw [back]; rfl, hb, first, second, .inl back⟩⟩
    | some y =>
      cases hc : number? c with
      | none =>
        rw [compareValues_of_text (.inr hc)] at second
        rw [compareValues_of_text (.inl hc)] at back
        refine .inr (.inl ⟨⟨ha ▸ rfl, hb ▸ rfl⟩, .inr ⟨first, hc, second, by rw [back]; rfl, .inr ?_⟩⟩)
        rw [compareTexts_eq] at second back ⊢
        exact Std.TransCmp.lt_of_isLE_of_lt second back
      | some z =>
        refine .inl ⟨⟨hc ▸ rfl, ha ▸ rfl⟩, .inl ⟨back, ?_⟩⟩
        rw [compareValues_of_numbers ha hb] at first
        rw [compareValues_of_numbers hb hc] at second
        rw [compareValues_of_numbers ha hc] at backward
        by_cases missing : y = .nan
        · exact missing ▸ hb
        · exact absurd (Decimal.Double.isLE_trans_of_number missing first second) backward

theorem Tangled.circle {low high other : Json} (tangled : Tangled low high other) :
    (compareValues low high).isLE ∧ (compareValues high other).isLE ∧ (compareValues other low).isLE ∧
      (compareValues low high = .lt ∨ compareValues high other = .lt ∨ compareValues other low = .lt) := by
  obtain ⟨⟨isLow, isHigh⟩, blurred | crossed⟩ := tangled
  · obtain ⟨apart, missing⟩ := blurred
    obtain ⟨x, low⟩ := Option.isSome_iff_exists.mp isLow
    obtain ⟨y, high⟩ := Option.isSome_iff_exists.mp isHigh
    rw [compareValues_of_numbers high missing, compareValues_of_numbers missing low,
      Decimal.Double.compare?_eq_none.mpr (.inr rfl), Decimal.Double.compare?_eq_none.mpr (.inl rfl), apart]
    exact ⟨rfl, rfl, rfl, .inl rfl⟩
  · obtain ⟨ascending, none, upper, lower, strict⟩ := crossed
    rw [compareValues_of_text (.inr none), compareValues_of_text (.inl none)]
    refine ⟨ascending, upper, lower, strict.imp_right fun apart => ?_⟩
    by_cases below : compareTexts (text? high) (text? other) = .lt
    · exact .inl below
    · right
      have level : compareTexts (text? high) (text? other) = .eq := by
        cases order : compareTexts (text? high) (text? other) <;> simp_all
      rw [compareTexts_eq] at level apart ⊢
      exact Std.TransCmp.lt_of_eq_of_lt (Std.OrientedCmp.eq_symm level) apart

/-- Values are in one order exactly where no three of them are tangled. -/
theorem transOn_compareValues {values : List Json} : TransOn compareValues values ↔ Untangled values := by
  constructor
  · intro trans low isLow high isHigh other isOther tangled
    obtain ⟨first, second, third, strict⟩ := tangled.circle
    rw [trans.eq_of_circle isLow isHigh isOther first second third,
      trans.eq_of_circle isHigh isOther isLow second third first,
      trans.eq_of_circle isOther isLow isHigh third first second] at strict
    simp at strict
  · intro untangled a isA b isB c isC first second
    by_cases kept : (compareValues a c).isLE
    · exact kept
    · rcases tangled_of_circle first second (Std.OrientedCmp.lt_of_not_isLE kept) with tangled | tangled | tangled
      · exact absurd tangled (untangled c isC a isA b isB)
      · exact absurd tangled (untangled a isA b isB c isC)
      · exact absurd tangled (untangled b isB c isC a isA)

/-! ### Records -/

variable {key : SortKey} {records : List Json}

def leading? (key : SortKey) (record : Json) : Option Json := (resolve record key.field).head?

def directed : Direction → Json → Json → Ordering
  | .asc, x, y => compareValues x y
  | .desc, x, y => compareValues y x

/-- An order of values that are there; a missing one comes last. -/
def missingLast (order : Json → Json → Ordering) : Option Json → Option Json → Ordering
  | some x, some y => order x y
  | some _, none => .lt
  | none, some _ => .gt
  | none, none => .eq

/-- A direction turns the values round, and leaves the missing ones at the end. -/
theorem compareBy_eq (key : SortKey) (a b : Json) :
    compareBy key a b = missingLast (directed key.direction) (leading? key a) (leading? key b) := by
  unfold compareBy leading?
  cases (resolve a key.field).head? with
  | none => cases (resolve b key.field).head? <;> rfl
  | some x =>
    cases (resolve b key.field).head? with
    | none => rfl
    | some y =>
      cases key.direction with
      | asc => rfl
      | desc => exact (compareValues_swap y x).symm

theorem compareBy_swap (key : SortKey) (a b : Json) : compareBy key a b = (compareBy key b a).swap := by
  rw [compareBy_eq, compareBy_eq]
  cases leading? key a with
  | none => cases leading? key b <;> rfl
  | some x =>
    cases leading? key b with
    | none => rfl
    | some y => cases key.direction <;> exact compareValues_swap _ _

instance (key : SortKey) : Std.OrientedCmp (compareBy key) := ⟨compareBy_swap key _ _⟩

theorem transOn_directed {values : List Json} (direction : Direction) :
    TransOn (directed direction) values ↔ TransOn compareValues values := by
  cases direction with
  | asc => rfl
  | desc => exact ⟨fun trans a isA b isB c isC first second => trans c isC b isB a isA second first,
      fun trans a isA b isB c isC first second => trans c isC b isB a isA second first⟩

theorem transOn_compareBy : TransOn (compareBy key) records ↔ Untangled (records.filterMap (leading? key)) := by
  rw [← transOn_compareValues, ← transOn_directed key.direction]
  constructor
  · intro trans x isX y isY z isZ first second
    obtain ⟨a, isA, ownA⟩ := List.mem_filterMap.mp isX
    obtain ⟨b, isB, ownB⟩ := List.mem_filterMap.mp isY
    obtain ⟨c, isC, ownC⟩ := List.mem_filterMap.mp isZ
    have kept := trans a isA b isB c isC
    rw [compareBy_eq, compareBy_eq, compareBy_eq, ownA, ownB, ownC] at kept
    exact kept first second
  · intro trans a isA b isB c isC first second
    rw [compareBy_eq] at first second ⊢
    -- Nothing but a missing value stands behind one.
    cases ownA : leading? key a with
    | none =>
      cases ownB : leading? key b <;> cases ownC : leading? key c <;> simp_all [missingLast]
    | some x =>
      cases ownC : leading? key c with
      | none => rfl
      | some z =>
        cases ownB : leading? key b with
        | none => simp_all [missingLast]
        | some y =>
          rw [ownA, ownB] at first
          rw [ownB, ownC] at second
          exact trans x (List.mem_filterMap.mpr ⟨a, isA, ownA⟩) y (List.mem_filterMap.mpr ⟨b, isB, ownB⟩) z
            (List.mem_filterMap.mpr ⟨c, isC, ownC⟩) first second

theorem compareRecords_cons (key : SortKey) (rest : List SortKey) :
    compareRecords (key :: rest) = compareLex (compareBy key) (compareRecords rest) := by
  funext a b
  rw [compareRecords, compareLex]
  cases compareBy key a b <;> rfl

theorem compareRecords_swap (keys : List SortKey) (a b : Json) :
    compareRecords keys a b = (compareRecords keys b a).swap := by
  induction keys with
  | nil => rfl
  | cons key rest ih =>
    rw [compareRecords_cons, compareLex, compareLex, ih, compareBy_swap key a b, Ordering.swap_then]

instance (keys : List SortKey) : Std.OrientedCmp (compareRecords keys) := ⟨compareRecords_swap keys _ _⟩

theorem transOn_compareRecords {keys : List SortKey} (trans : ∀ key ∈ keys, TransOn (compareBy key) records) :
    TransOn (compareRecords keys) records := by
  induction keys with
  | nil => exact fun _ _ _ _ _ _ _ _ => rfl
  | cons key rest ih =>
    obtain ⟨own, others⟩ := List.forall_mem_cons.mp trans
    have first := transOn_iff_transCmp.mp own
    have second := transOn_iff_transCmp.mp (ih others)
    rw [transOn_iff_transCmp, compareRecords_cons]
    exact inferInstanceAs (Std.TransCmp (compareLex (fun a b : { x // x ∈ records } => compareBy key a.1 b.1)
      fun a b => compareRecords rest a.1 b.1))

theorem transOn_single : TransOn (compareRecords [key]) records ↔ TransOn (compareBy key) records := by
  have single : compareRecords [key] = compareBy key := by
    funext a b
    rw [compareRecords_cons, compareLex]
    cases compareBy key a b <;> rfl
  rw [single]

/-- The order of records turns round with its sides, whatever they hold. It is transitive among records that hold
no tangled values under a sort key, and by a single key among no others. -/
theorem records_in_one_order (keys : List SortKey) (records : List Json) :
    (∀ a, compareRecords keys a a = .eq) ∧
    (∀ a b, compareRecords keys b a = (compareRecords keys a b).swap) ∧
    ((∀ key ∈ keys, Untangled (records.filterMap (leading? key))) → TransOn (compareRecords keys) records) ∧
    ∀ key, TransOn (compareRecords [key]) records ↔ Untangled (records.filterMap (leading? key)) := by
  refine ⟨fun _ => Std.ReflCmp.compare_self, fun a b => compareRecords_swap keys b a, fun untangled => ?_, fun key => ?_⟩
  · exact transOn_compareRecords fun key member => transOn_compareBy.mpr (untangled key member)
  · exact transOn_single.trans transOn_compareBy

instance (low high other : Json) : Decidable (Tangled low high other) :=
  inferInstanceAs (Decidable (_ ∧ ((_ ∧ _) ∨ (_ ∧ _ ∧ _ ∧ _ ∧ _))))

instance (values : List Json) : Decidable (Untangled values) :=
  inferInstanceAs (Decidable (∀ low ∈ values, ∀ high ∈ values, ∀ other ∈ values, ¬Tangled low high other))

/-- Numbers, written out or not, a truth value, an object, no value at all, and a text behind all numbers. -/
theorem mixed_records_in_one_order :
    let held (value : Json) : Json := .object [("nid", .ofNat 7), ("v", value)]
    let records := [held (.ofNat 9), held (.text " 12"), held (.bool true), held (.object []), held (.array []),
      held (.text "zebra")]
    let keys : List SortKey := [⟨"v", .desc⟩, ⟨"nid", .asc⟩]
    (∀ key ∈ keys, Untangled (records.filterMap (leading? key))) ∧ TransOn (compareRecords keys) records := by
  intro held records keys
  have untangled : ∀ key ∈ keys, Untangled (records.filterMap (leading? key)) := by decide +kernel
  exact ⟨untangled, (records_in_one_order keys records).2.2.1 untangled⟩

/-- Nine comes before ten, but between them stands a text that is no number, behind ten and before nine. The name of
the missing number ties with both. -/
theorem records_in_a_circle :
    let held (text : String) : Json := .object [("v", .text text)]
    let keys : List SortKey := [⟨"v", .asc⟩]
    compareRecords keys (held "10") (held "9") = .gt ∧
      (compareRecords keys (held "10") (held "1a") = .lt ∧ compareRecords keys (held "1a") (held "9") = .lt) ∧
      (compareRecords keys (held "10") (held "NaN") = .eq ∧ compareRecords keys (held "NaN") (held "9") = .eq) := by
  decide +kernel

end Store
end Listing
