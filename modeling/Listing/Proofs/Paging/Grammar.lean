import Mathlib.Algebra.Group.Nat.Defs
import Listing.Fragment.Order
import Listing.Proofs.Fragment.Field
import Listing.Proofs.Text.Numerals

/-!
The `paged` grammar. A text is read as a page exactly if it is one of the written forms of that page and the end
of the page is a count. The form that a page specification itself writes is read back as that very page, or not
at all.
-/

namespace Listing

/-- A page as a request writes it; a mode stands after two dashes. -/
def Fragment.pageText (page perPage : Nat) (mode? : Option (List Char)) : List Char :=
  Text.decimal page ++ '-' :: Text.decimal perPage ++ match mode? with
    | none => []
    | some mode => '-' :: '-' :: mode

/-- The modes of the grammar: a restricted pager shows an odd number of pages. -/
def PagerMode.Regular : PagerMode → Prop
  | restricted size => size.toNat % 2 = 1
  | _ => True

def Fragment.modeOf? : Option (List Char) → Option PagerMode
  | none => some .full
  | some mode => pagerMode? mode

structure PageSpec.Valid (spec : PageSpec) : Prop where
  first : 1 ≤ spec.page.toNat
  room : 1 ≤ spec.perPage.toNat
  fits : spec.page.toNat * spec.perPage.toNat < 2 ^ 64
  regular : spec.mode.Regular

/-! ### Written forms -/

inductive PagerMode.Written : PagerMode → List Char → Prop
  | full : Written .full "default".toList
  | simple : Written .simple "simple".toList
  | restricted {size : UInt32} {digits : List Char} (numeral : Text.Numeral digits size.toNat) :
    Written (.restricted size) ("restricted-".toList ++ digits)

def Fragment.IsPair (cs : List Char) (page perPage : Count) : Prop :=
  ∃ first second, cs = first ++ '-' :: second ∧ Text.Numeral first page.toNat ∧
    Text.Numeral second perPage.toNat

/-- The numbers of a page, and behind two dashes its mode. -/
inductive PageSpec.Written : PageSpec → List Char → Prop
  | bare {page perPage : Count} {numbers : List Char} (pair : Fragment.IsPair numbers page perPage) :
    Written ⟨page, perPage, .full⟩ numbers
  | moded {page perPage : Count} {mode : PagerMode} {numbers text : List Char}
    (pair : Fragment.IsPair numbers page perPage) (written : mode.Written (Text.trim text)) :
    Written ⟨page, perPage, mode⟩ (numbers ++ '-' :: '-' :: text)

namespace Fragment
open Text

/-! ### Digits and dashes -/

theorem countPair?_eq_some {cs : List Char} {page perPage : Count} :
    countPair? cs = some (page, perPage) ↔ IsPair cs page perPage := by
  unfold countPair?
  constructor
  · intro read
    split at read
    · rename_i first second cut
      split at read
      · rename_i a b reads readsNext
        cases read
        have whole := cut?_append cut
        rw [List.append_assoc] at whole
        exact ⟨first, second, whole, count?_eq_some.mp reads, count?_eq_some.mp readsNext⟩
      · cases read
    · cases read
  · rintro ⟨first, second, rfl, numeral, numeral'⟩
    rw [cut?_singleton second (numeral.notMem (by decide))]
    simp only [count?_eq_some.mpr numeral, count?_eq_some.mpr numeral']

theorem IsPair.unique {cs : List Char} {page perPage page' perPage' : Count} (pair : IsPair cs page perPage)
    (pair' : IsPair cs page' perPage') : page = page' ∧ perPage = perPage' := by
  have same := (countPair?_eq_some.mpr pair).symm.trans (countPair?_eq_some.mpr pair')
  exact ⟨congrArg Prod.fst (Option.some.inj same), congrArg Prod.snd (Option.some.inj same)⟩

theorem occurs_dashes_pair {cs : List Char} {page perPage : Count} (pair : IsPair cs page perPage)
    (rest : List Char) : occurs dashes (cs ++ rest) = occurs dashes rest := by
  obtain ⟨first, second, rfl, numeral, numeral'⟩ := pair
  have dashless : '-' ∉ second := numeral'.notMem (by decide)
  have tail := occurs_pair_append (d := '-') rest dashless
  obtain ⟨c, digits, rfl⟩ := List.exists_cons_of_ne_nil numeral'.nonempty
  have solid : c ≠ '-' := fun same => dashless (same ▸ List.mem_cons_self)
  rw [List.append_assoc, dashes, occurs_pair_append _ (numeral.notMem (by decide)), List.cons_append, occurs, tail]
  simp [List.isPrefixOf, Ne.symm solid]

theorem cut?_dashes_pair {cs : List Char} {page perPage : Count} (pair : IsPair cs page perPage) :
    cut? dashes cs = none := by
  have absent := occurs_dashes_pair pair []
  rw [List.append_nil] at absent
  exact cut?_eq_none absent

theorem cut?_dashes_moded {cs : List Char} {page perPage : Count} (pair : IsPair cs page perPage)
    (text : List Char) : cut? dashes (cs ++ '-' :: '-' :: text) = some (cs, text) := by
  have absent : occurs dashes (cs ++ dashes.dropLast) = false := occurs_dashes_pair pair dashes.dropLast
  have found := cut?_of_first text (List.cons_ne_nil _ _) absent
  simpa [dashes] using found

/-! ### Modes -/

theorem restricted_eq_cons (digits : List Char) :
    "restricted-".toList ++ digits = 'r' :: ("estricted-".toList ++ digits) := by
  rw [show "restricted-".toList = 'r' :: "estricted-".toList by decide, List.cons_append]

theorem restricted_ne_full (digits : List Char) : "restricted-".toList ++ digits ≠ "default".toList := by
  rw [restricted_eq_cons]
  exact fun same => absurd (List.cons.inj same).1 (by decide)

theorem restricted_ne_simple (digits : List Char) : "restricted-".toList ++ digits ≠ "simple".toList := by
  rw [restricted_eq_cons]
  exact fun same => absurd (List.cons.inj same).1 (by decide)

theorem pagerMode?_of_restricted {cs digits : List Char} (shape : trim cs = "restricted-".toList ++ digits) :
    pagerMode? cs = (naturalBelow? UInt32.size digits).bind fun size =>
      if size % 2 = 1 then some (.restricted (UInt32.ofNat size)) else none := by
  have notFull : "restricted-".toList ++ digits ≠ PagerMode.full.text := restricted_ne_full digits
  have notSimple : "restricted-".toList ++ digits ≠ PagerMode.simple.text := restricted_ne_simple digits
  have stem : "restricted-".toList.isPrefixOf ("restricted-".toList ++ digits) = true :=
    List.isPrefixOf_iff_prefix.mpr (List.prefix_append _ _)
  have rest : ("restricted-".toList ++ digits).drop "restricted-".toList.length = digits := List.drop_left
  unfold pagerMode?
  simp only [shape, notFull, notSimple, stem, rest, if_true, if_false]
  cases naturalBelow? UInt32.size digits <;> rfl

theorem pagerMode?_of_other {cs : List Char} (notFull : trim cs ≠ "default".toList)
    (notSimple : trim cs ≠ "simple".toList) (other : ¬"restricted-".toList <+: trim cs) : pagerMode? cs = none := by
  have stem : "restricted-".toList.isPrefixOf (trim cs) = false := by
    rw [← Bool.not_eq_true, List.isPrefixOf_iff_prefix]
    exact other
  unfold pagerMode?
  refine (if_neg notFull).trans ((if_neg notSimple).trans ?_)
  simp only [stem, Bool.false_eq_true, if_false]

theorem pagerMode?_eq_some {cs : List Char} {mode : PagerMode} :
    pagerMode? cs = some mode ↔ mode.Written (trim cs) ∧ mode.Regular := by
  constructor
  · intro read
    by_cases full : trim cs = "default".toList
    · rw [show pagerMode? cs = some .full from if_pos full] at read
      cases read
      exact ⟨full ▸ .full, trivial⟩
    by_cases simple : trim cs = "simple".toList
    · rw [show pagerMode? cs = some .simple from (if_neg full).trans (if_pos simple)] at read
      cases read
      exact ⟨simple ▸ .simple, trivial⟩
    by_cases restricted : "restricted-".toList <+: trim cs
    · obtain ⟨digits, shape⟩ := restricted
      rw [pagerMode?_of_restricted shape.symm] at read
      obtain ⟨size, found, odd⟩ := Option.bind_eq_some_iff.mp read
      obtain ⟨numeral, small⟩ := naturalBelow?_eq_some.mp found
      split at odd
      · rename_i regular
        cases odd
        have same : (UInt32.ofNat size).toNat = size := UInt32.toNat_ofNat_of_lt' small
        rw [← same] at numeral regular
        exact ⟨shape ▸ .restricted numeral, regular⟩
      · cases odd
    · rw [pagerMode?_of_other full simple restricted] at read
      cases read
  · rintro ⟨written, regular⟩
    generalize shape : trim cs = text at written
    cases written with
    | full => exact if_pos shape
    | simple =>
      have notFull : trim cs ≠ "default".toList := by
        rw [shape]
        decide
      exact (if_neg notFull).trans (if_pos shape)
    | @restricted size digits numeral =>
      have odd : size.toNat % 2 = 1 := regular
      rw [pagerMode?_of_restricted shape, naturalBelow?_eq_some.mpr ⟨numeral, size.toNat_lt⟩]
      simp only [Option.bind_some, odd, if_true, UInt32.ofNat_toNat]

/-! ### Pages -/

theorem counted_iff {page perPage : Count} :
    ¬(page = 0 ∨ perPage = 0) ∧ (Count.mul? page perPage).isNone = false ↔
      1 ≤ page.toNat ∧ 1 ≤ perPage.toNat ∧ page.toNat * perPage.toNat < 2 ^ 64 := by
  have zero : ∀ count : Count, count = 0 ↔ count.toNat = 0 := fun count => UInt64.toNat_inj.symm
  have refused : (Count.mul? page perPage).isNone = true ↔ 2 ^ 64 ≤ page.toNat * perPage.toNat :=
    Option.isNone_iff_eq_none.trans Count.ofNat?_eq_none
  have product : (Count.mul? page perPage).isNone = false ↔ page.toNat * perPage.toNat < 2 ^ 64 := by
    rw [← Bool.not_eq_true, refused, Nat.not_le]
  rw [product, zero, zero]
  omega

/-- What is read as a page is a written form of it. -/
theorem written_of_pageSpec {raw : String} {spec : PageSpec} (read : pageSpec raw = .ok spec) :
    spec.Written (trim raw.toList) ∧ spec.Valid := by
  unfold pageSpec at read
  cases text : required .paged raw with
  | error =>
    rw [text] at read
    cases read
  | ok cs =>
    obtain ⟨-, rfl⟩ := required_eq_ok.mp text
    rw [text] at read
    simp only [bind, Except.bind] at read
    split at read
    · cases read
    · rename_i page perPage numbers
      have pair := countPair?_eq_some.mp numbers
      by_cases empty : page = 0 ∨ perPage = 0
      · rw [if_pos empty] at read
        cases read
      rw [if_neg empty] at read
      cases product : (Count.mul? page perPage).isNone with
      | true =>
        rw [product] at read
        cases read
      | false =>
        obtain ⟨first, room, fits⟩ := counted_iff.mp ⟨empty, product⟩
        rw [product] at read
        cases cut : cut? dashes (trim raw.toList) with
        | none =>
          rw [cut] at read pair
          cases read
          exact ⟨.bare pair, first, room, fits, trivial⟩
        | some parts =>
          obtain ⟨numbers, suffix⟩ := parts
          rw [cut] at read pair
          have whole := cut?_append cut
          simp only [Bool.false_eq_true, if_false, pagerMode] at read
          cases known : pagerMode? suffix with
          | none =>
            rw [known] at read
            cases read
          | some mode =>
            rw [known] at read
            cases read
            obtain ⟨written, regular⟩ := pagerMode?_eq_some.mp known
            rw [whole, List.append_assoc]
            exact ⟨.moded pair written, first, room, fits, regular⟩

theorem IsPair.ne_nil {cs : List Char} {page perPage : Count} (pair : IsPair cs page perPage) : cs ≠ [] := by
  obtain ⟨first, second, rfl, numeral, -⟩ := pair
  simp

/-- A written form of a page whose end is a count is read as that page. -/
theorem pageSpec_of_written {raw : String} {spec : PageSpec} (written : spec.Written (trim raw.toList))
    (valid : spec.Valid) : pageSpec raw = .ok spec := by
  obtain ⟨first, room, fits, regular⟩ := valid
  obtain ⟨positive, product⟩ := counted_iff.mpr ⟨first, room, fits⟩
  have solid : isBlank raw.toList = false := by
    rw [← Bool.not_eq_true]
    intro blank
    rw [trim_of_isBlank blank] at written
    generalize shape : [] = cs at written
    cases written with
    | bare pair => exact pair.ne_nil shape.symm
    | moded pair => simp at shape
  unfold pageSpec
  rw [required_eq_ok.mpr ⟨solid, rfl⟩]
  simp only [bind, Except.bind]
  generalize trim raw.toList = cs at written
  cases written with
  | bare pair =>
    simp only [cut?_dashes_pair pair, countPair?_eq_some.mpr pair, if_neg positive, product, Bool.false_eq_true,
      if_false]
    rfl
  | moded pair written =>
    have read := pagerMode?_eq_some.mpr ⟨written, regular⟩
    simp only [cut?_dashes_moded pair, countPair?_eq_some.mpr pair, if_neg positive, product, Bool.false_eq_true,
      if_false, pagerMode, read]
    rfl

theorem pageSpec_eq_ok {raw : String} {spec : PageSpec} :
    pageSpec raw = .ok spec ↔ spec.Written (trim raw.toList) ∧ spec.Valid :=
  ⟨written_of_pageSpec, fun ⟨written, valid⟩ => pageSpec_of_written written valid⟩

/-! ### Pages of requests -/

theorem isPair_decimal (page perPage : Count) :
    IsPair (decimal page.toNat ++ '-' :: decimal perPage.toNat) page perPage :=
  ⟨_, _, rfl, numeral_decimal _, numeral_decimal _⟩

theorem trim_pageText (page perPage : Nat) (mode? : Option (List Char)) :
    trim (pageText page perPage mode?) = pageText page perPage (mode?.map trimEnd) := by
  have front : trimStart (pageText page perPage mode?) = pageText page perPage mode? := by
    obtain ⟨c, rest, digits, solid⟩ := (numeral_decimal page).eq_cons
    unfold pageText
    rw [digits, List.cons_append, List.cons_append]
    exact trimStart_of_head _ solid
  rw [trim, front]
  cases mode? with
  | none =>
    obtain ⟨rest, c, digits, solid⟩ := (numeral_decimal perPage).eq_concat
    have last := trimEnd_append (decimal page ++ '-' :: rest) [] solid
    simpa [pageText, digits, trimEnd] using last
  | some mode =>
    have last := trimEnd_append (decimal page ++ '-' :: decimal perPage ++ ['-']) mode
      (show isSpace '-' = false by decide)
    simpa [pageText] using last

theorem pageSpec_pageText (page perPage : Count) (mode? : Option (List Char)) {mode : PagerMode}
    (known : modeOf? mode? = some mode) (first : 0 < page.toNat) (room : 0 < perPage.toNat)
    (fits : page.toNat * perPage.toNat < 18446744073709551616) :
    pageSpec (String.ofList (pageText page.toNat perPage.toNat mode?)) = .ok ⟨page, perPage, mode⟩ := by
  rw [pageSpec_eq_ok, String.toList_ofList, trim_pageText]
  have pair := isPair_decimal page perPage
  cases mode? with
  | none =>
    cases known
    have bare : pageText page.toNat perPage.toNat none = decimal page.toNat ++ '-' :: decimal perPage.toNat :=
      List.append_nil _
    rw [Option.map_none, bare]
    exact ⟨.bare pair, first, room, fits, trivial⟩
  | some text =>
    obtain ⟨written, regular⟩ := pagerMode?_eq_some.mp known
    rw [← trim_trimEnd] at written
    exact ⟨.moded pair written, first, room, fits, regular⟩

theorem pageSpec_sound {raw : String} {spec : PageSpec} (read : pageSpec raw = .ok spec) :
    0 < spec.page.toNat ∧ 0 < spec.perPage.toNat ∧
      spec.page.toNat * spec.perPage.toNat < 18446744073709551616 ∧ spec.mode.Regular := by
  obtain ⟨-, first, room, fits, regular⟩ := pageSpec_eq_ok.mp read
  exact ⟨first, room, fits, regular⟩

end Fragment

/-! ### The form that a page writes -/

theorem PagerMode.written_text (mode : PagerMode) : mode.Written mode.text := by
  cases mode with
  | full => exact .full
  | simple => exact .simple
  | restricted size => exact .restricted (Text.numeral_decimal size.toNat)

theorem PagerMode.trim_text (mode : PagerMode) : Text.trim mode.text = mode.text := by
  cases mode with
  | full => decide
  | simple => decide
  | restricted size =>
    obtain ⟨front, c, digits, solid⟩ := (Text.numeral_decimal size.toNat).eq_concat
    have ends := Text.trim_of_ends ("estricted-".toList ++ front) (show Text.isSpace 'r' = false by decide) solid
    rwa [List.cons_append, List.append_assoc, ← digits, ← Fragment.restricted_eq_cons] at ends

theorem PagerMode.Written.unique {mode mode' : PagerMode} {cs : List Char} (written : mode.Written cs)
    (written' : mode'.Written cs) : mode = mode' := by
  cases written with
  | full =>
    generalize shape : "default".toList = text at written'
    cases written' with
    | full => rfl
    | simple => exact absurd shape (by decide)
    | restricted => exact absurd shape.symm (Fragment.restricted_ne_full _)
  | simple =>
    generalize shape : "simple".toList = text at written'
    cases written' with
    | full => exact absurd shape (by decide)
    | simple => rfl
    | restricted => exact absurd shape.symm (Fragment.restricted_ne_simple _)
  | @restricted size digits numeral =>
    generalize shape : "restricted-".toList ++ digits = text at written'
    cases written' with
    | full => exact absurd shape (Fragment.restricted_ne_full _)
    | simple => exact absurd shape (Fragment.restricted_ne_simple _)
    | restricted numeral' =>
      obtain rfl := List.append_cancel_left shape
      exact congrArg PagerMode.restricted (UInt32.toNat_inj.mp (numeral.value.symm.trans numeral'.value))

namespace PageSpec
open Fragment

theorem written_toString (spec : PageSpec) : spec.Written (Text.trim spec.toString.toList) := by
  obtain ⟨page, perPage, mode⟩ := spec
  have pair := isPair_decimal page perPage
  have moded : (PageSpec.mk page perPage mode).Written
      (Text.trim (pageText page.toNat perPage.toNat (some mode.text))) := by
    have written := mode.written_text
    rw [← mode.trim_text, ← Text.trim_trimEnd] at written
    rw [trim_pageText]
    exact .moded pair written
  rw [toString, String.toList_ofList]
  cases mode with
  | full =>
    have bare : (PageSpec.mk page perPage .full).text = pageText page.toNat perPage.toNat none :=
      (List.append_nil _).symm
    rw [bare, trim_pageText, Option.map_none, ← bare]
    exact .bare pair
  | simple => exact moded
  | restricted size => exact moded

theorem Written.unique {spec spec' : PageSpec} {cs : List Char} (written : spec.Written cs)
    (written' : spec'.Written cs) : spec = spec' := by
  cases written with
  | bare pair =>
    cases written' with
    | bare pair' =>
      obtain ⟨rfl, rfl⟩ := pair.unique pair'
      rfl
    | moded pair' =>
      have cut := cut?_dashes_pair pair
      rw [cut?_dashes_moded pair'] at cut
      cases cut
  | @moded _ _ _ numbers text pair mode =>
    generalize shape : numbers ++ '-' :: '-' :: text = cs at written'
    cases written' with
    | bare pair' =>
      have cut := cut?_dashes_pair pair'
      rw [← shape, cut?_dashes_moded pair] at cut
      cases cut
    | moded pair' mode' =>
      have cut := cut?_dashes_moded pair text
      rw [shape, cut?_dashes_moded pair'] at cut
      cases cut
      obtain ⟨rfl, rfl⟩ := pair.unique pair'
      obtain rfl := mode.unique mode'
      rfl

end PageSpec

theorem Fragment.pageSpec_toString {spec : PageSpec} (regular : spec.mode.Regular) (first : 0 < spec.page.toNat)
    (room : 0 < spec.perPage.toNat)
    (fits : spec.page.toNat * spec.perPage.toNat < 18446744073709551616) :
    pageSpec spec.toString = .ok spec :=
  pageSpec_of_written spec.written_toString ⟨first, room, fits, regular⟩

theorem Fragment.pageSpec_toString_eq_ok {spec other : PageSpec} :
    pageSpec spec.toString = .ok other ↔ spec = other ∧ spec.Valid := by
  rw [pageSpec_eq_ok]
  constructor
  · rintro ⟨written, valid⟩
    obtain rfl := spec.written_toString.unique written
    exact ⟨rfl, valid⟩
  · rintro ⟨rfl, valid⟩
    exact ⟨spec.written_toString, valid⟩

theorem Fragment.pageSpec_toString_of_invalid {spec : PageSpec} (invalid : ¬spec.Valid) :
    ∃ error, pageSpec spec.toString = .error error := by
  cases read : pageSpec spec.toString with
  | error error => exact ⟨error, rfl⟩
  | ok other => exact absurd (pageSpec_toString_eq_ok.mp read).2 invalid

/-- The written forms of a page are all that is read as it, and only while the end of the page is a count. The
form that it writes itself is read back, or else refused. -/
theorem Fragment.paged_grammar_exact :
    (∀ raw spec, pageSpec raw = .ok spec ↔ spec.Written (Text.trim raw.toList) ∧ spec.Valid) ∧
    (∀ spec : PageSpec, (pageSpec spec.toString = .ok spec ↔ spec.Valid) ∧
      (¬spec.Valid → ∃ error, pageSpec spec.toString = .error error)) := by
  refine ⟨fun _ _ => pageSpec_eq_ok, fun spec => ⟨?_, pageSpec_toString_of_invalid⟩⟩
  rw [pageSpec_toString_eq_ok]
  exact and_iff_right rfl

end Listing
