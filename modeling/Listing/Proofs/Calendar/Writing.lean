import Listing.Calendar.Writer

/-!
Patterns that can be written. Whether a moment can be written does not depend on the moment: a pattern can be
written unless it asks for a zone or an offset, which no moment has.
-/

namespace Listing.Calendar

def Item.needsZone : Item → Bool
  | .zoneName | .offset _ => true
  | _ => false

def opensZone (letter : Char) : Bool := ['Z', 'z', ':', '#', '+'].contains letter

/-- Whether a pattern asks for a zone or an offset: `%Z`, `%z`, `%:z`, `%::z`, `%:::z`, `%#z` or `%+`. -/
def asksZone : List Char → Bool
  | '%' :: letter :: cs => opensZone letter || asksZone cs
  | _ :: cs => asksZone cs
  | [] => false

theorem asksZone_cons {c : Char} (cs : List Char) (plain : c ≠ '%') : asksZone (c :: cs) = asksZone cs := by
  cases cs <;> simp [asksZone, plain]

theorem asksZone_append {taken : List Char} (rest : List Char) (plain : '%' ∉ taken) :
    asksZone (taken ++ rest) = asksZone rest := by
  induction taken with
  | nil => rfl
  | cons c cs ih =>
    rw [List.cons_append, asksZone_cons _ (List.ne_of_not_mem_cons plain).symm, ih (List.not_mem_of_not_mem_cons plain)]

/-! ### Fields -/

namespace Item

theorem needsZone_of_ofLetter? {c : Char} {items : List Item} (found : ofLetter? c = some items) :
    items.any needsZone = opensZone c := by
  unfold ofLetter? at found
  split at found <;> cases found <;> rfl

/-- Only numbers are padded, and the percent sign does not stand for one. -/
theorem needsZone_of_padded? {c : Char} {pad : Pad} {items : List Item}
    (found : (ofLetter? c).bind (padded? pad) = some items) : '%' ≠ c ∧ items.any needsZone = false := by
  unfold ofLetter? at found
  split at found <;> cases found <;> exact ⟨by decide, rfl⟩

theorem opensZone_of_padOf? {flag : Char} {pad : Pad} (padded : padOf? flag = some pad) : opensZone flag = false := by
  unfold padOf? at padded
  split at padded <;> cases padded <;> rfl

theorem plain_longForms : ∀ form ∈ longForms, '%' ∉ form.1 ∧
    form.1.head?.map opensZone = some form.2.needsZone := by
  decide

/-- A field is told by its first letter; no percent sign is among the others that it takes. -/
theorem field?_eq_some {cs : List Char} {items : List Item} {width : Nat} (found : field? cs = some (items, width)) :
    ∃ letter taken rest, cs = letter :: (taken ++ rest) ∧ width = (letter :: taken).length ∧ '%' ∉ taken ∧
      items.any needsZone = opensZone letter := by
  cases cs with
  | nil => cases found
  | cons flag cs =>
    unfold field? at found
    dsimp only at found
    split at found
    · rename_i pad padded
      obtain ⟨own, number, same⟩ := Option.map_eq_some_iff.mp found
      cases same
      cases cs with
      | nil => cases number
      | cons letter rest =>
        obtain ⟨plain, zoneless⟩ := needsZone_of_padded? number
        exact ⟨flag, [letter], rest, rfl, rfl, by simpa using plain, zoneless.trans (opensZone_of_padOf? padded).symm⟩
    · split at found
      · rename_i name item long
        cases found
        obtain ⟨plain, told⟩ := plain_longForms (name, item) (List.mem_of_find?_eq_some long)
        have begins := List.find?_some long
        dsimp only at plain told begins
        obtain ⟨rest, whole⟩ := List.isPrefixOf_iff_prefix.mp begins
        obtain ⟨letter, first, zoned⟩ := Option.map_eq_some_iff.mp told
        obtain ⟨taken, rfl⟩ := List.head?_eq_some_iff.mp first
        refine ⟨letter, taken, rest, whole.symm, rfl, fun inner => plain (List.mem_cons_of_mem _ inner), ?_⟩
        rw [List.any_cons, List.any_nil, Bool.or_false, zoned]
      · obtain ⟨own, letter, same⟩ := Option.map_eq_some_iff.mp found
        cases same
        exact ⟨flag, [], cs, rfl, rfl, List.not_mem_nil, needsZone_of_ofLetter? letter⟩

theorem any_prepend (c : Char) (items : List Item) : (prepend c items).any needsZone = items.any needsZone := by
  unfold prepend
  split <;> split <;> rfl

end Item

theorem needsZone_of_itemsBehind? {n : Nat} {cs : List Char} {items : List Item}
    (found : itemsBehind? n cs = some items) : items.any Item.needsZone = asksZone (cs.drop n) := by
  -- Along the reader: at the end, inside of a field, at a percent sign with a field and without, in plain text.
  induction n, cs using itemsBehind?.induct generalizing items with
  | case1 n =>
    rw [itemsBehind?] at found
    cases found
    rw [List.drop_nil]
    rfl
  | case2 n c cs ih => exact ih found
  | case3 cs own width field ih =>
    rw [itemsBehind?, if_pos rfl, field] at found
    obtain ⟨after, later, rfl⟩ := Option.map_eq_some_iff.mp found
    obtain ⟨letter, taken, rest, rfl, rfl, plain, zoned⟩ := Item.field?_eq_some field
    rw [List.any_append, ih later, zoned, List.drop_zero, asksZone, asksZone_append rest plain, ← List.cons_append,
      List.drop_append_length]
  | case4 cs unknown =>
    rw [itemsBehind?, if_pos rfl, unknown] at found
    cases found
  | case5 c cs plain ih =>
    rw [itemsBehind?, if_neg plain] at found
    obtain ⟨after, later, rfl⟩ := Option.map_eq_some_iff.mp found
    rw [Item.any_prepend, ih later, List.drop_zero, List.drop_zero, asksZone_cons cs plain]

/-! ### Moments -/

theorem isSome_writeItem (m : Moment) (item : Item) : (writeItem m item).isSome = !item.needsZone := by
  cases item <;> rfl

theorem isSome_writeItems (m : Moment) (items : List Item) :
    (writeItems m items).isSome = !items.any Item.needsZone := by
  induction items with
  | nil => rfl
  | cons item rest ih =>
    have here := isSome_writeItem m item
    rw [List.any_cons, Bool.not_or, ← ih, ← here, writeItems]
    cases writeItem m item <;> cases writeItems m rest <;> rfl

theorem Pattern.isSome_write? {s : String} {p : Pattern} (made : ofString? s = some p) (m : Moment) :
    (p.write? m).isSome = !asksZone s.toList := by
  obtain ⟨items, found, rfl⟩ := Option.map_eq_some_iff.mp made
  rw [write?, Option.isSome_map, isSome_writeItems, needsZone_of_itemsBehind? found, List.drop_zero]

end Listing.Calendar
