import Mathlib.Data.List.Basic
import Listing.Text.Case

/-!
Lower case inside a text. The neighbours of a character matter to a capital sigma alone, so a stretch of a text has
its own lower-case form in that of the text just where each of its capital sigmas ends a word in both or in neither.
-/

namespace Listing.Text

variable {before before' after after' front mid back cs : List Char} {c : Char}

/-- Whether a word ends between what precedes, the nearest character first, and what follows. -/
def endsWord (before after : List Char) : Bool := meetsCased before && !meetsCased after

def lowerAt (before : List Char) (c : Char) (after : List Char) : List Char :=
  if c = 'Σ' then [if endsWord before after then 'ς' else 'σ']
  else if c = 'İ' then ['i', '\u0307']
  else [lowerChar c]

/-- The lower-case form of a stretch between its neighbours. -/
def lowerWithin (before : List Char) : List Char → List Char → List Char
  | [], _ => []
  | c :: cs, after => lowerAt before c (cs ++ after) ++ lowerWithin (c :: before) cs after

/-- Each capital sigma of the stretch ends a word in the text `front ++ mid ++ back` just where it ends one in the
stretch alone. -/
def KeepsSigmas (front mid back : List Char) : Prop :=
  ∀ before after, mid = before ++ 'Σ' :: after →
    endsWord (before.reverse ++ front.reverse) (after ++ back) = endsWord before.reverse after

theorem lowerFrom_append (before cs after : List Char) :
    lowerFrom before (cs ++ after) = lowerWithin before cs after ++ lowerFrom (cs.reverse ++ before) after := by
  induction cs generalizing before with
  | nil => rfl
  | cons c cs ih =>
    have step : lowerFrom before (c :: (cs ++ after)) =
        lowerAt before c (cs ++ after) ++ lowerFrom (c :: before) (cs ++ after) := rfl
    rw [List.cons_append, step, ih, lowerWithin, List.append_assoc, List.reverse_cons, List.append_assoc]
    rfl

theorem lower_eq (cs : List Char) : lower cs = lowerWithin [] cs [] := by
  have whole := lowerFrom_append [] cs []
  rw [List.append_nil] at whole
  rw [lower, whole]
  exact List.append_nil _

theorem lower_append_append (front mid back : List Char) :
    lower (front ++ mid ++ back) = lowerWithin [] front (mid ++ back) ++ lowerWithin front.reverse mid back ++
      lowerFrom (mid.reverse ++ front.reverse) back := by
  rw [lower, List.append_assoc, lowerFrom_append, lowerFrom_append, List.append_nil, List.append_assoc]

/-! ### Forms and their neighbours -/

/-- A capital I with a dot becomes two characters, and every other character one. -/
theorem length_lowerAt (before : List Char) (c : Char) (after : List Char) :
    (lowerAt before c after).length = if c = 'İ' then 2 else 1 := by
  unfold lowerAt
  by_cases sigma : c = 'Σ'
  · have plain : c ≠ 'İ' := by
      rw [sigma]
      decide
    rw [if_pos sigma, if_neg plain]
    rfl
  · rw [if_neg sigma]
    split <;> rfl

theorem lowerAt_eq_iff :
    lowerAt before c after = lowerAt before' c after' ↔ (c = 'Σ' → endsWord before after = endsWord before' after') := by
  unfold lowerAt
  by_cases sigma : c = 'Σ'
  · have forms : ∀ a b : Bool, ([if a then 'ς' else 'σ'] = [if b then 'ς' else 'σ']) ↔ a = b := by decide
    rw [if_pos sigma, if_pos sigma, forms]
    exact ⟨fun same _ => same, fun same => same sigma⟩
  · rw [if_neg sigma, if_neg sigma]
    exact ⟨fun _ own => absurd own sigma, fun _ => rfl⟩

/-- A stretch has one form between two pairs of neighbours if they treat its capital sigmas alike. -/
theorem lowerWithin_eq_iff :
    lowerWithin before mid after = lowerWithin before' mid after' ↔ ∀ first rest, mid = first ++ 'Σ' :: rest →
      endsWord (first.reverse ++ before) (rest ++ after) = endsWord (first.reverse ++ before') (rest ++ after') := by
  induction mid generalizing before before' with
  | nil => simp [lowerWithin]
  | cons c cs ih =>
    constructor
    · intro same first rest whole
      obtain ⟨here, there⟩ := List.append_inj same (by rw [length_lowerAt, length_lowerAt])
      cases first with
      | nil =>
        obtain ⟨rfl, rfl⟩ := List.cons.inj whole
        exact lowerAt_eq_iff.mp here rfl
      | cons d first =>
        obtain ⟨rfl, own⟩ := List.cons.inj whole
        simpa using ih.mp there first rest own
    · intro alike
      have here : lowerAt before c (cs ++ after) = lowerAt before' c (cs ++ after') :=
        lowerAt_eq_iff.mpr fun sigma => alike [] cs (sigma ▸ rfl)
      have there : lowerWithin (c :: before) cs after = lowerWithin (c :: before') cs after' :=
        ih.mpr fun first rest own => by simpa using alike (c :: first) rest (congrArg (c :: ·) own)
      rw [lowerWithin, lowerWithin, here, there]

theorem lowerWithin_eq_lower_iff : lowerWithin front.reverse mid back = lower mid ↔ KeepsSigmas front mid back := by
  rw [lower_eq, lowerWithin_eq_iff, KeepsSigmas]
  simp only [List.append_nil]

instance (front mid back : List Char) : Decidable (KeepsSigmas front mid back) :=
  decidable_of_iff _ lowerWithin_eq_lower_iff

theorem lower_infix_of_keepsSigmas (keeps : KeepsSigmas front mid back) : lower mid <:+: lower (front ++ mid ++ back) := by
  rw [lower_append_append, lowerWithin_eq_lower_iff.mpr keeps]
  exact ⟨_, _, rfl⟩

theorem keepsSigmas_of_notMem (plain : 'Σ' ∉ mid) (front back : List Char) : KeepsSigmas front mid back := by
  rintro before after rfl
  exact absurd (List.mem_append_right _ List.mem_cons_self) plain

theorem length_lower (cs : List Char) : (lower cs).length = cs.length + cs.count 'İ' := by
  have within : ∀ before, (lowerWithin before cs []).length = cs.length + cs.count 'İ' := by
    induction cs with
    | nil => exact fun _ => rfl
    | cons c cs ih =>
      intro before
      rw [lowerWithin, List.length_append, length_lowerAt, ih, List.length_cons, List.count_cons]
      by_cases dotted : c = 'İ'
      · simp only [dotted, beq_self_eq_true, if_true]
        omega
      · simp only [dotted, beq_iff_eq, if_false]
        omega
  rw [lower_eq, within]

end Listing.Text
