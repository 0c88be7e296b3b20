import Listing.Text.Blank
import Listing.Text.Digits
import Listing.Text.Split

/-!
Where texts are cut. A separator is found at its first occurrence, also where it overlaps with itself, and
blanks are cut off at the ends alone.
-/

namespace Listing.Text

/-! ### Occurrences -/

theorem cut?_eq_none {sep cs : List Char} (absent : occurs sep cs = false) : cut? sep cs = none := by
  induction cs with
  | nil => simpa [cut?, occurs] using absent
  | cons c cs ih =>
    simp only [occurs, Bool.or_eq_false_iff] at absent
    simp only [cut?, absent.1, ih absent.2, Bool.false_eq_true, if_false, Option.map_none]

theorem cut?_of_first {sep before : List Char} (after : List Char) (nonempty : sep ≠ [])
    (first : occurs sep (before ++ sep.dropLast) = false) :
    cut? sep (before ++ sep ++ after) = some (before, after) := by
  induction before with
  | nil =>
    obtain ⟨c, rest, rfl⟩ := List.exists_cons_of_ne_nil nonempty
    have found : (c :: rest).isPrefixOf (c :: rest ++ after) = true :=
      List.isPrefixOf_iff_prefix.mpr (List.prefix_append _ _)
    simp only [List.nil_append, List.cons_append] at found ⊢
    simp only [cut?, found, if_true]
    rw [← List.cons_append, List.drop_left]
  | cons c before ih =>
    simp only [List.cons_append, occurs, Bool.or_eq_false_iff] at first
    have elsewhere : sep.isPrefixOf (c :: (before ++ sep ++ after)) = false := by
      -- An occurrence at the front ends before the last character of the one that is known.
      rw [← Bool.not_eq_true, List.isPrefixOf_iff_prefix]
      intro front
      have last : sep = sep.dropLast ++ [sep.getLast nonempty] := (List.dropLast_concat_getLast nonempty).symm
      have whole : c :: (before ++ sep ++ after) =
          (c :: (before ++ sep.dropLast)) ++ ([sep.getLast nonempty] ++ after) :=
        (congrArg (fun text => c :: (before ++ text ++ after)) last).trans (by simp)
      rw [whole] at front
      have short : sep.length ≤ (c :: (before ++ sep.dropLast)).length := by
        simp only [List.length_cons, List.length_append, List.length_dropLast]
        omega
      have early := List.prefix_of_prefix_length_le front (List.prefix_append _ _) short
      rw [List.isPrefixOf_iff_prefix.mpr early] at first
      exact absurd first.1 (by decide)
    simp only [List.cons_append, cut?, elsewhere, Bool.false_eq_true, if_false, ih first.2,
      Option.map_some]

theorem occurs_singleton {c : Char} {cs : List Char} (absent : c ∉ cs) : occurs [c] cs = false := by
  induction cs with
  | nil => rfl
  | cons d cs ih =>
    simp only [List.mem_cons, not_or] at absent
    simp [occurs, List.isPrefixOf, absent.1, ih absent.2]

theorem cut?_singleton {c : Char} {before : List Char} (after : List Char) (absent : c ∉ before) :
    cut? [c] (before ++ c :: after) = some (before, after) := by
  have found := cut?_of_first after (List.cons_ne_nil c [])
    (show occurs [c] (before ++ [c].dropLast) = false by simpa using occurs_singleton absent)
  simpa using found

theorem cut?_singleton_eq_some {c : Char} {cs before after : List Char} :
    cut? [c] cs = some (before, after) ↔ cs = before ++ c :: after ∧ c ∉ before := by
  constructor
  · intro cut
    refine ⟨by simpa using cut?_append cut, ?_⟩
    induction cs generalizing before with
    | nil => cases cut
    | cons d cs ih =>
      simp only [cut?] at cut
      split at cut
      · cases cut
        exact List.not_mem_nil
      · rename_i other
        obtain ⟨⟨b, a⟩, later, same⟩ := Option.map_eq_some_iff.mp cut
        cases same
        have differs : c ≠ d := by simpa [List.isPrefixOf] using other
        simpa [differs] using ih later
  · rintro ⟨rfl, absent⟩
    exact cut?_singleton after absent

/-- A pair does not start in a stretch without its first character. -/
theorem occurs_pair_append {c d : Char} {front : List Char} (rest : List Char) (absent : c ∉ front) :
    occurs [c, d] (front ++ rest) = occurs [c, d] rest := by
  induction front with
  | nil => rfl
  | cons e front ih =>
    simp only [List.mem_cons, not_or] at absent
    simp [occurs, List.isPrefixOf, absent.1, ih absent.2]

theorem cut?_pair_append {c d : Char} {front : List Char} (rest : List Char) (absent : c ∉ front) :
    cut? [c, d] (front ++ rest) = (cut? [c, d] rest).map fun (before, after) => (front ++ before, after) := by
  induction front with
  | nil => simp
  | cons e front ih =>
    simp only [List.mem_cons, not_or] at absent
    have elsewhere : [c, d].isPrefixOf (e :: (front ++ rest)) = false := by simp [List.isPrefixOf, absent.1]
    rw [List.cons_append, cut?, elsewhere, ih absent.2, if_neg Bool.false_ne_true, Option.map_map]
    rfl

theorem cut?_append_right {sep cs before after : List Char} (nonempty : sep ≠ []) (more : List Char)
    (cut : cut? sep cs = some (before, after)) : cut? sep (cs ++ more) = some (before, after ++ more) := by
  induction cs generalizing before with
  | nil => simp [cut?, nonempty] at cut
  | cons c cs ih =>
    rw [cut?] at cut
    rw [List.cons_append, cut?]
    by_cases here : sep.isPrefixOf (c :: cs) = true
    · have front := List.isPrefixOf_iff_prefix.mp here
      have here' : sep.isPrefixOf (c :: (cs ++ more)) = true :=
        List.isPrefixOf_iff_prefix.mpr (front.trans (List.prefix_append (c :: cs) more))
      rw [if_pos here] at cut
      cases cut
      rw [if_pos here', ← List.cons_append, List.drop_append_of_le_length front.length_le]
    · rw [if_neg here] at cut
      obtain ⟨⟨b, a⟩, later, same⟩ := Option.map_eq_some_iff.mp cut
      cases same
      have short : sep.length ≤ (c :: cs).length := by
        have length := congrArg List.length (cut?_append later)
        simp only [List.length_append, List.length_cons] at length ⊢
        omega
      have elsewhere : ¬sep.isPrefixOf (c :: (cs ++ more)) = true := by
        rw [List.isPrefixOf_iff_prefix] at here ⊢
        exact fun front => here (List.prefix_of_prefix_length_le front (List.prefix_append (c :: cs) more) short)
      rw [if_neg elsewhere, ih later]
      rfl

theorem occurs_iff_infix {sought cs : List Char} : occurs sought cs = true ↔ sought <:+: cs := by
  induction cs with
  | nil => rw [occurs, List.isEmpty_iff, List.infix_nil]
  | cons c cs ih => rw [occurs, Bool.or_eq_true, List.isPrefixOf_iff_prefix, ih, List.infix_cons_iff]

theorem cut?_eq_some {sep cs before after : List Char} (nonempty : sep ≠ []) :
    cut? sep cs = some (before, after) ↔
      cs = before ++ sep ++ after ∧ ∀ front back, cs = front ++ sep ++ back → before.length ≤ front.length := by
  induction cs generalizing before with
  | nil => simp [cut?, nonempty]
  | cons c cs ih =>
    rw [cut?]
    by_cases here : sep.isPrefixOf (c :: cs) = true
    · have whole := isPrefixOf_iff_append.mp here
      rw [if_pos here]
      constructor
      · intro cut
        cases cut
        exact ⟨whole, fun _ _ _ => Nat.zero_le _⟩
      · rintro ⟨own, first⟩
        obtain rfl := List.length_eq_zero_iff.mp (Nat.le_zero.mp (first [] _ whole))
        rw [own, List.nil_append, List.drop_left]
    · have apart : ∀ back, c :: cs ≠ sep ++ back := fun back whole =>
        here (List.isPrefixOf_iff_prefix.mpr ⟨back, whole.symm⟩)
      rw [if_neg here, Option.map_eq_some_iff]
      constructor
      · rintro ⟨⟨front, back⟩, cut, same⟩
        cases same
        obtain ⟨whole, first⟩ := ih.mp cut
        refine ⟨by simpa using whole, fun other back' own => ?_⟩
        cases other with
        | nil => exact absurd own (apart back')
        | cons d other => exact Nat.succ_le_succ (first other back' (List.cons.inj own).2)
      · rintro ⟨whole, first⟩
        cases before with
        | nil => exact absurd whole (apart after)
        | cons d before =>
          obtain ⟨rfl, rest⟩ := List.cons.inj whole
          refine ⟨(before, after), ih.mpr ⟨rest, fun front back own => ?_⟩, rfl⟩
          exact Nat.le_of_succ_le_succ (first (c :: front) back (congrArg (c :: ·) own))

/-- A text without a pair of characters and without its first one at the end may take any other character. -/
theorem occurs_pair_concat {c d : Char} {cs : List Char} (absent : occurs [c, d] cs = false)
    (last : cs.getLast? ≠ some c) (e : Char) : occurs [c, d] (cs ++ [e]) = false := by
  induction cs with
  | nil => simp [occurs, List.isPrefixOf]
  | cons x cs ih =>
    cases cs with
    | nil =>
      have other : c ≠ x := fun same => last (by rw [same]; rfl)
      simp [occurs, List.isPrefixOf, other]
    | cons y cs =>
      rw [occurs, Bool.or_eq_false_iff] at absent
      rw [List.cons_append, occurs, Bool.or_eq_false_iff]
      exact ⟨absent.1, ih absent.2 (by rwa [List.getLast?_cons_cons] at last)⟩

theorem occurs_pair_append_cons {c d e : Char} {front : List Char} (rest : List Char)
    (absent : occurs [c, d] front = false) (last : front.getLast? ≠ some c) (other : c ≠ e) :
    occurs [c, d] (front ++ e :: rest) = occurs [c, d] rest := by
  induction front with
  | nil => simp [occurs, List.isPrefixOf, other]
  | cons x front ih =>
    cases front with
    | nil =>
      have foreign : (c == x) = false := beq_eq_false_iff_ne.mpr fun same => last (by rw [same]; rfl)
      have apart : (c == e) = false := beq_eq_false_iff_ne.mpr other
      simp [occurs, List.isPrefixOf, foreign, apart]
    | cons y front =>
      rw [occurs, Bool.or_eq_false_iff] at absent
      rw [List.cons_append, occurs, ih absent.2 (by rwa [List.getLast?_cons_cons] at last)]
      exact (congrArg (· || _) absent.1).trans (Bool.false_or _)

theorem cutLast?_eq_none {sep cs : List Char} (absent : occurs sep cs = false) : cutLast? sep cs = none := by
  induction cs with
  | nil => simpa [cutLast?, occurs] using absent
  | cons c cs ih =>
    simp only [occurs, Bool.or_eq_false_iff] at absent
    simp only [cutLast?, absent.1, ih absent.2, Bool.false_eq_true, if_false]

theorem cutLast?_of_last {sep after : List Char} (before : List Char) (nonempty : sep ≠ [])
    (last : occurs sep (sep.tail ++ after) = false) :
    cutLast? sep (before ++ sep ++ after) = some (before, after) := by
  induction before with
  | nil =>
    obtain ⟨c, rest, rfl⟩ := List.exists_cons_of_ne_nil nonempty
    have found : (c :: rest).isPrefixOf (c :: rest ++ after) = true :=
      List.isPrefixOf_iff_prefix.mpr (List.prefix_append _ _)
    have later := cutLast?_eq_none last
    simp only [List.tail_cons] at later
    simp only [List.nil_append, List.cons_append] at found ⊢
    simp only [cutLast?, later, found, if_true]
    rw [← List.cons_append, List.drop_left]
  | cons c before ih => simp only [List.cons_append, cutLast?, ih]

/-! ### Blanks -/

theorem isDigit_iff {c : Char} : c.isDigit = true ↔ 48 ≤ c.toNat ∧ c.toNat ≤ 57 := by
  simp only [Char.isDigit, Bool.and_eq_true, decide_eq_true_eq, ge_iff_le, UInt32.le_iff_toNat_le]
  rfl

theorem isSpace_of_isDigit {c : Char} (digit : c.isDigit = true) : isSpace c = false := by
  rw [isDigit_iff] at digit
  simp only [isSpace, Bool.or_eq_false_iff, Bool.and_eq_false_iff, decide_eq_false_iff_not,
    beq_eq_false_iff_ne, ne_eq]
  omega

theorem trimStart_of_head {c : Char} (cs : List Char) (solid : isSpace c = false) :
    trimStart (c :: cs) = c :: cs := by
  simp [trimStart, solid]

theorem trimStart_append {front : List Char} (rest : List Char) (held : front ≠ [])
    (solid : front.head?.any isSpace = false) : trimStart (front ++ rest) = front ++ rest := by
  obtain ⟨c, cs, rfl⟩ := List.exists_cons_of_ne_nil held
  exact trimStart_of_head _ (by simpa using solid)

theorem trimEnd_append {c : Char} (front back : List Char) (solid : isSpace c = false) :
    trimEnd (front ++ c :: back) = front ++ c :: trimEnd back := by
  have reversed : (front ++ c :: back).reverse = back.reverse ++ (c :: front.reverse) := by simp
  unfold trimEnd
  rw [reversed, List.dropWhile_append]
  split
  · rename_i blank
    rw [List.isEmpty_iff.mp blank, List.dropWhile_cons_of_neg (by simp [solid])]
    simp
  · simp

theorem trim_of_ends {c d : Char} (middle : List Char) (first : isSpace c = false) (last : isSpace d = false) :
    trim (c :: middle ++ [d]) = c :: middle ++ [d] := by
  unfold trim
  rw [List.cons_append, trimStart_of_head _ first, ← List.cons_append, trimEnd_append _ _ last]
  rfl

theorem solid_of_trim {c : Char} {cs : List Char} (trimmed : trim (c :: cs) = c :: cs) : isSpace c = false := by
  cases space : isSpace c with
  | false => rfl
  | true =>
    have dropped : trimStart (c :: cs) = trimStart cs := by simp [trimStart, space]
    have whole := congrArg List.length trimmed
    have front : (trimStart cs).length ≤ cs.length := (List.dropWhile_suffix isSpace).length_le
    have back : (trimEnd (trimStart cs)).length ≤ (trimStart cs).length := by
      rw [trimEnd, List.length_reverse]
      exact Nat.le_trans (List.dropWhile_suffix isSpace).length_le (Nat.le_of_eq List.length_reverse)
    rw [trim, dropped, List.length_cons] at whole
    omega

theorem trim_of_solid {cs : List Char} (solid : ∀ c ∈ cs, isSpace c = false) : trim cs = cs := by
  have kept : ∀ {cs : List Char}, (∀ c ∈ cs, isSpace c = false) → cs.dropWhile isSpace = cs := by
    intro cs solid
    cases cs with
    | nil => rfl
    | cons c cs => exact trimStart_of_head cs (solid c List.mem_cons_self)
  have back : ∀ c ∈ cs.reverse, isSpace c = false := fun c member => solid c (List.mem_reverse.mp member)
  rw [trim, trimStart, kept solid, trimEnd, kept back, List.reverse_reverse]

theorem isBlank_of_mem {c : Char} {cs : List Char} (member : c ∈ cs) (solid : isSpace c = false) :
    isBlank cs = false :=
  List.all_eq_false.mpr ⟨c, member, by simp [solid]⟩

theorem trim_of_isBlank {cs : List Char} (blank : isBlank cs = true) : trim cs = [] := by
  have dropped : trimStart cs = [] := by
    induction cs with
    | nil => rfl
    | cons c cs ih =>
      rw [isBlank, List.all_cons, Bool.and_eq_true] at blank
      rw [trimStart, List.dropWhile_cons_of_pos blank.1]
      exact ih blank.2
  rw [trim, dropped]
  rfl

/-- Only blanks are cut off. -/
theorem mem_trim {c : Char} {cs : List Char} (member : c ∈ cs) (solid : isSpace c = false) : c ∈ trim cs := by
  have kept : ∀ {cs : List Char}, c ∈ cs → c ∈ cs.dropWhile isSpace := by
    intro cs member
    rw [← List.takeWhile_append_dropWhile (p := isSpace) (l := cs), List.mem_append] at member
    refine member.resolve_left fun blank => ?_
    rw [List.all_eq_true.mp List.all_takeWhile c blank] at solid
    cases solid
  unfold trim trimEnd
  exact List.mem_reverse.mpr (kept (List.mem_reverse.mpr (kept member)))

theorem trimEnd_cons (c : Char) (cs : List Char) :
    trimEnd (c :: cs) = if isSpace c ∧ trimEnd cs = [] then [] else c :: trimEnd cs := by
  unfold trimEnd
  rw [List.reverse_cons, List.dropWhile_append]
  by_cases rest : cs.reverse.dropWhile isSpace = []
  · by_cases space : isSpace c = true <;> simp [rest, space]
  · simp [rest]

theorem trimStart_trimEnd (cs : List Char) : trimStart (trimEnd cs) = trimEnd (trimStart cs) := by
  induction cs with
  | nil => rfl
  | cons c cs ih =>
    by_cases space : isSpace c = true
    · have dropped : trimStart (c :: cs) = trimStart cs := by simp [trimStart, space]
      rw [trimEnd_cons, dropped, ← ih]
      by_cases rest : trimEnd cs = []
      · simp [space, rest]
      · simp [rest, trimStart, space]
    · have kept : trimEnd (c :: cs) = c :: trimEnd cs := by simp [trimEnd_cons, space]
      rw [trimStart_of_head cs (by simpa using space), kept, trimStart_of_head _ (by simpa using space)]

theorem trimEnd_trimEnd (cs : List Char) : trimEnd (trimEnd cs) = trimEnd cs := by
  induction cs with
  | nil => rfl
  | cons c cs ih =>
    rw [trimEnd_cons]
    split
    · rfl
    · rename_i solid
      rw [trimEnd_cons, ih, if_neg solid]

theorem trim_trimEnd (cs : List Char) : trim (trimEnd cs) = trim cs := by
  unfold trim
  rw [trimStart_trimEnd, trimEnd_trimEnd]

theorem trimStart_append_of_blank {lead : List Char} (blank : ∀ c ∈ lead, isSpace c = true) (cs : List Char) :
    trimStart (lead ++ cs) = trimStart cs :=
  List.dropWhile_append_of_pos blank

theorem trimStart_trimStart (cs : List Char) : trimStart (trimStart cs) = trimStart cs := by
  induction cs with
  | nil => rfl
  | cons c cs ih =>
    cases space : isSpace c with
    | false => rw [trimStart_of_head cs space, trimStart_of_head cs space]
    | true => simpa [trimStart, space] using ih

theorem trim_trim (cs : List Char) : trim (trim cs) = trim cs := by
  unfold trim
  rw [trimStart_trimEnd, trimStart_trimStart, trimEnd_trimEnd]

theorem exists_of_trim (cs : List Char) :
    ∃ lead trail, cs = lead ++ trim cs ++ trail ∧ ∀ c ∈ lead, isSpace c = true := by
  refine ⟨cs.takeWhile isSpace, ((trimStart cs).reverse.takeWhile isSpace).reverse, ?_, ?_⟩
  · have back : trimStart cs = trim cs ++ ((trimStart cs).reverse.takeWhile isSpace).reverse := by
      rw [trim, trimEnd, ← List.reverse_append, List.takeWhile_append_dropWhile, List.reverse_reverse]
    rw [List.append_assoc, ← back]
    exact List.takeWhile_append_dropWhile.symm
  · exact List.all_eq_true.mp List.all_takeWhile

/-! ### Parts -/

theorem notMem_of_mem_splitOn {sep : Char} {cs part : List Char} (member : part ∈ cs.splitOn sep) : sep ∉ part := by
  induction cs generalizing part with
  | nil =>
    rw [List.splitOn_nil, List.mem_singleton] at member
    rw [member]
    exact List.not_mem_nil
  | cons c cs ih =>
    rw [List.splitOn_cons_eq_if_modifyHead] at member
    split at member
    · rcases List.mem_cons.mp member with rfl | later
      · exact List.not_mem_nil
      · exact ih later
    · rename_i other
      obtain ⟨first, rest, parts⟩ := List.exists_cons_of_ne_nil (List.splitOn_ne_nil sep cs)
      rw [parts] at ih member
      rcases List.mem_cons.mp member with rfl | later
      · have differs : sep ≠ c := fun same => other (beq_iff_eq.mpr same.symm)
        exact fun own => (List.mem_cons.mp own).elim differs (ih List.mem_cons_self)
      · exact ih (List.mem_cons_of_mem _ later)

theorem beq_eq_false_of_isSpace {c d : Char} (space : isSpace c = true) (solid : isSpace d = false) :
    (c == d) = false := by
  rw [beq_eq_false_iff_ne]
  rintro rfl
  rw [space] at solid
  cases solid

theorem map_trimStart_splitOn {sep : Char} (solid : isSpace sep = false) (cs : List Char) :
    ((trimStart cs).splitOn sep).map trimStart = (cs.splitOn sep).map trimStart := by
  induction cs with
  | nil => rfl
  | cons c cs ih =>
    cases space : isSpace c with
    | false => rw [trimStart_of_head cs space]
    | true =>
      have other := beq_eq_false_of_isSpace space solid
      have dropped : ∀ cs, trimStart (c :: cs) = trimStart cs := fun cs => by simp [trimStart, space]
      rw [dropped, ih, List.splitOn_cons_eq_if_modifyHead, other]
      cases cs.splitOn sep with
      | nil => rfl
      | cons part parts => simp [dropped]

theorem map_trimEnd_splitOn {sep : Char} (solid : isSpace sep = false) (cs : List Char) :
    ((trimEnd cs).splitOn sep).map trimEnd = (cs.splitOn sep).map trimEnd := by
  induction cs with
  | nil => rfl
  | cons c cs ih =>
    rw [trimEnd_cons]
    have step : ∀ rest : List Char, (rest.splitOn sep).map trimEnd = (cs.splitOn sep).map trimEnd →
        ((c :: rest).splitOn sep).map trimEnd = ((c :: cs).splitOn sep).map trimEnd := by
      intro rest same
      rw [List.splitOn_cons_eq_if_modifyHead, List.splitOn_cons_eq_if_modifyHead]
      split
      · rw [List.map_cons, List.map_cons, same]
      · revert same
        cases rest.splitOn sep <;> cases cs.splitOn sep <;> simp +contextual [trimEnd_cons]
    split
    · rename_i blank
      rw [blank.2] at ih
      rw [← step [] ih, List.splitOn_cons_eq_if_modifyHead]
      have other := beq_eq_false_of_isSpace blank.1 solid
      rw [other]
      simp [blank.1, trimEnd]
    · exact step _ ih

theorem map_trim_splitOn {sep : Char} (solid : isSpace sep = false) (cs : List Char) :
    ((trim cs).splitOn sep).map trim = (cs.splitOn sep).map trim := by
  have inward : trim = trimStart ∘ trimEnd := funext fun cs => (trimStart_trimEnd cs).symm
  calc ((trim cs).splitOn sep).map trim
      = (((trimEnd (trimStart cs)).splitOn sep).map trimEnd).map trimStart := by
        rw [List.map_map, ← inward, trim]
    _ = (((trimStart cs).splitOn sep).map trimEnd).map trimStart := by rw [map_trimEnd_splitOn solid]
    _ = (((trimStart cs).splitOn sep).map trimStart).map trimEnd := by
        rw [List.map_map, ← inward, List.map_map]
        rfl
    _ = ((cs.splitOn sep).map trimStart).map trimEnd := by rw [map_trimStart_splitOn solid]
    _ = (cs.splitOn sep).map trim := by
        rw [List.map_map]
        rfl

end Listing.Text
