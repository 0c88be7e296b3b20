import Listing.Proofs.Fragment.Shape

/-!
Whom errors blame. The readers of all keys but those of dates name their own key in every error.
-/

namespace Listing

/-- The key that an error names. A pattern that cannot be written is the fault of the settings. -/
def FragmentError.key? : FragmentError → Option Key
  | malformed key _ _ | invalidNumber key _ | invalidDate key _ | emptyInput key => some key
  | unknownOperator _ _ => some .field
  | invalidDirection _ => some .sort
  | invalidPagerMode _ => some .paged
  | invalidDateFormat _ => none

namespace Fragment

/-- A result that is an error only in the name of a key. -/
def Blames {α : Type} (key : Key) (x : Except FragmentError α) : Prop := ∀ e, x = .error e → e.key? = some key

namespace Blames
variable {α β : Type} {key : Key} {x : Except FragmentError α}

theorem ok (key : Key) (a : α) : Blames key (.ok a) := by
  intro e failed
  cases failed

theorem error {e : FragmentError} (named : e.key? = some key) : Blames key (.error e : Except FragmentError α) := by
  intro own failed
  cases failed
  exact named

theorem bind {f : α → Except FragmentError β} (first : Blames key x) (next : ∀ a, Blames key (f a)) :
    Blames key (x >>= f) := by
  intro e failed
  rcases bind_eq_error failed with own | ⟨a, _, later⟩
  · exact first e own
  · exact next a e later

theorem raise {f : β → Except FragmentError α} {e : FragmentError} (named : e.key? = some key) :
    Blames key ((throw e : Except FragmentError β) >>= f) :=
  error named

theorem map {f : α → β} (first : Blames key x) : Blames key (x.map f) := by
  intro e failed
  cases read : x with
  | error own =>
    rw [read] at failed
    cases failed
    exact first e read
  | ok a =>
    rw [read] at failed
    cases failed

theorem mapM {f : β → Except FragmentError α} (each : ∀ b, Blames key (f b)) (items : List β) :
    Blames key (items.mapM f) := by
  intro e failed
  obtain ⟨_, b, _, _, _, refused⟩ := exists_of_mapM_eq_error failed
  exact each b e refused

end Blames

theorem required_blames (key : Key) (raw : String) : Blames key (required key raw) := by
  unfold required
  split
  · exact .error rfl
  · exact .ok _ _

/-! ### Readers -/

theorem scalar_blames (key : Key) (raw : String) : Blames key (scalar key raw) := (required_blames key raw).map

theorem idList_blames (raw : String) : Blames .nids (idList raw) := by
  refine (required_blames .nids raw).bind fun cs => ?_
  split
  · exact .ok _ _
  · exact .error rfl

theorem sortKey_blames (entry : List Char) : Blames .sort (sortKey entry) := by
  unfold sortKey
  split
  · exact .error rfl
  split
  · exact .error rfl
  split
  · exact .error rfl
  · exact .ok _ _

theorem sortKeys_blames (raw : String) : Blames .sort (sortKeys raw) := .mapM sortKey_blames _

theorem window_blames (raw : String) : Blames .range (window raw) := by
  refine (required_blames .range raw).bind fun cs => ?_
  split
  · exact .error rfl
  dsimp only
  split
  · exact .raise rfl
  split
  · exact .raise rfl
  · exact .ok _ _

theorem pagerMode_blames (cs : List Char) : Blames .paged (pagerMode cs) := by
  unfold pagerMode
  split
  · exact .ok _ _
  · exact .error rfl

theorem pageSpec_blames (raw : String) : Blames .paged (pageSpec raw) := by
  refine (required_blames .paged raw).bind fun cs => ?_
  split
  split
  · exact .error rfl
  dsimp only
  split
  · exact .raise rfl
  split
  · exact .raise rfl
  split
  · exact .ok _ _
  · exact (pagerMode_blames _).bind fun mode => .ok _ _

theorem fieldTest_blames (fragment : List Char) : Blames .field (fieldTest fragment) := by
  unfold fieldTest
  split
  · exact .error rfl
  split
  · exact .error rfl
  split
  · exact .error rfl
  split
  · exact .error rfl
  split
  · exact .error rfl
  · exact .ok _ _

theorem fieldTests_blames (raw : String) : Blames .field (fieldTests raw) :=
  (required_blames .field raw).bind fun _ => .mapM fieldTest_blames _

theorem address_blames (raw : String) : Blames .address (address raw) := by
  refine (required_blames .address raw).bind fun cs => ?_
  split
  · exact .error rfl
  split
  · exact .error rfl
  split
  · exact .error rfl
  · exact .ok _ _

theorem fieldTerms_blames (key : Key) (fragment : List Char) : Blames key (fieldTerms key fragment) := by
  unfold fieldTerms
  split
  · exact .error rfl
  split
  · exact .error rfl
  split
  · exact .error rfl
  · exact .ok _ _

theorem category_blames (raw : String) : Blames .category (category raw) := by
  refine (required_blames .category raw).bind fun cs => ?_
  split
  · exact .ok _ _
  · exact (fieldTerms_blames .category cs).bind fun _ => .ok _ _

theorem categories_blames (raw : String) : Blames .categories (categories raw) := by
  refine (required_blames .categories raw).bind fun cs => ?_
  refine (Blames.mapM (fieldTerms_blames .categories) _).bind fun pairs => ?_
  dsimp only
  split
  · exact .ok _ _
  · exact .ok _ _

theorem categoryIgnore_blames (raw : String) : Blames .categoryIgnore (categoryIgnore raw) :=
  (required_blames .categoryIgnore raw).bind fun cs =>
    (fieldTerms_blames .categoryIgnore cs).bind fun _ => .ok _ _

end Fragment
end Listing
