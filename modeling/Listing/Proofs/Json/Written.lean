import Mathlib.Data.List.DropRight
import Listing.Proofs.Json.Fields

/-!
Lists of objects as they are written: every literal with its escapes, blanks wherever they may stand, the members of
each object in their order. What is written is read, and the members are sorted by their names on the way.
-/

namespace Listing.Json
open Reader

/-! ### Written forms -/

def isPlain (c : Char) : Bool := 0x20 ≤ c.toNat && c != '"' && c != '\\'

/-- What stands between two quotes, and the characters that it is for. -/
inductive Literal : List Char → List Char → Prop
  | nil : Literal [] []
  | plain {c : Char} {cs chars : List Char} (bare : isPlain c = true) (rest : Literal cs chars) :
      Literal (c :: cs) (c :: chars)
  | escape {letter c : Char} {cs chars : List Char} (known : simpleEscape? letter = some c)
      (rest : Literal cs chars) : Literal ('\\' :: letter :: cs) (c :: chars)
  | unit {digits cs chars : List Char} {n : Nat} (spelt : unit? digits = some (n, []))
      (alone : n < 0xD800 ∨ 0xE000 ≤ n) (rest : Literal cs chars) :
      Literal ('\\' :: 'u' :: (digits ++ cs)) (Char.ofNat n :: chars)
  | pair {digits digits' cs chars : List Char} {high low : Nat} (spelt : unit? digits = some (high, []))
      (spelt' : unit? digits' = some (low, [])) (first : 0xD800 ≤ high ∧ high < 0xDC00)
      (second : 0xDC00 ≤ low ∧ low < 0xE000) (rest : Literal cs chars) :
      Literal ('\\' :: 'u' :: (digits ++ '\\' :: 'u' :: (digits' ++ cs)))
        (Char.ofNat (0x10000 + (high - 0xD800) * 0x400 + (low - 0xDC00)) :: chars)

inductive Quoted : List Char → String → Prop
  | intro {cs chars : List Char} (literal : Literal cs chars) : Quoted ('"' :: (cs ++ ['"'])) (String.ofList chars)

section
variable {α : Type}

def Blank (cs : List Char) : Prop := ∀ c ∈ cs, isBlankChar c = true

inductive Padded (R : List Char → α → Prop) : List Char → α → Prop
  | intro {front cs back : List Char} {a : α} (before : Blank front) (core : R cs a) (after : Blank back) :
      Padded R (front ++ (cs ++ back)) a

inductive Sequence (R : List Char → α → Prop) : List Char → List α → Prop
  | one {cs : List Char} {a : α} (item : R cs a) : Sequence R cs [a]
  | more {cs later : List Char} {a : α} {rest : List α} (item : R cs a) (others : Sequence R later rest) :
      Sequence R (cs ++ ',' :: later) (a :: rest)

inductive Enclosed (opening closing : Char) (R : List Char → α → Prop) : List Char → List α → Prop
  | empty {cs : List Char} (blank : Blank cs) : Enclosed opening closing R (opening :: (cs ++ [closing])) []
  | full {cs : List Char} {items : List α} (sequence : Sequence R cs items) :
      Enclosed opening closing R (opening :: (cs ++ [closing])) items

end

inductive Member : List Char → String × String → Prop
  | intro {key value : List Char} {name s : String} (named : Padded Quoted key name) (valued : Padded Quoted value s) :
      Member (key ++ ':' :: value) (name, s)

abbrev WrittenObject : List Char → List (String × String) → Prop := Enclosed '\x7b' '\x7d' Member

/-- A list of objects, each told by its members in the order in which they are written. -/
abbrev WrittenObjects (text : String) (objects : List (List (String × String))) : Prop :=
  Padded (Enclosed '[' ']' (Padded WrittenObject)) text.toList objects

theorem Literal.ofPlain {cs : List Char} (plain : cs.all isPlain = true) : Literal cs cs := by
  induction cs with
  | nil => exact .nil
  | cons c cs ih =>
    obtain ⟨bare, later⟩ := Bool.and_eq_true_iff.mp plain
    exact .plain bare (ih later)

theorem Quoted.ofPlain (cs : List Char) (plain : cs.all isPlain = true) :
    Quoted ('"' :: (cs ++ ['"'])) (String.ofList cs) :=
  .intro (.ofPlain plain)

section
variable {α : Type} {R : List Char → α → Prop} {cs front : List Char} {a : α}

theorem Padded.behind (before : Blank front) (core : R cs a) : Padded R (front ++ cs) a := by
  have padded : Padded R (front ++ (cs ++ [])) a := .intro before core (List.forall_mem_nil _)
  rwa [List.append_nil] at padded

theorem Padded.bare (core : R cs a) : Padded R cs a :=
  (Padded.behind (List.forall_mem_nil _) core : Padded R ([] ++ cs) a)

end

/-! ### Literals -/

namespace Reader
variable {cs chars front rest : List Char} {fuel depth : Nat}

theorem skipBlanks_append (blank : Blank front) (rest : List Char) : skipBlanks (front ++ rest) = skipBlanks rest :=
  List.dropWhile_append_of_pos blank

theorem skipBlanks_cons {c : Char} (solid : isBlankChar c = false) (rest : List Char) :
    skipBlanks (c :: rest) = c :: rest :=
  List.dropWhile_cons_of_neg (by simp [solid])

theorem skipBlanks_skipBlanks (cs : List Char) : skipBlanks (skipBlanks cs) = skipBlanks cs :=
  List.dropWhile_idempotent _ cs

theorem unit?_append {digits : List Char} {n : Nat} (spelt : unit? digits = some (n, [])) (rest : List Char) :
    unit? (digits ++ rest) = some (n, rest) := by
  unfold unit? at spelt
  split at spelt
  · simp only [Option.bind_eq_bind, Option.bind_eq_some_iff, Option.pure_def, Option.some.injEq, Prod.mk.injEq] at spelt
    obtain ⟨a, high, b, high', c, low, d, low', rfl, rfl⟩ := spelt
    simp [unit?, high, high', low, low']
  · cases spelt

theorem string?_escaped {c : Char} {behind : List Char} (escape : escaped? cs = some (c, behind))
    (later : string? fuel behind = some (chars, rest)) : string? (fuel + 1) ('\\' :: cs) = some (c :: chars, rest) := by
  simp [string?, escape, later]

theorem string?_of_literal (literal : Literal cs chars) (enough : cs.length < fuel) (rest : List Char) :
    string? fuel (cs ++ '"' :: rest) = some (chars, rest) := by
  -- Each step of the reader passes over at least one character.
  induction literal generalizing fuel with
  | nil =>
    obtain ⟨fuel, rfl⟩ := Nat.exists_eq_add_of_lt enough
    rfl
  | plain bare _ ih =>
    obtain ⟨fuel, rfl⟩ := Nat.exists_eq_add_one_of_ne_zero (Nat.ne_zero_of_lt enough)
    have later := ih (Nat.succ_lt_succ_iff.mp enough)
    simp only [isPlain, Bool.and_eq_true, decide_eq_true_eq, bne_iff_ne, ne_eq] at bare
    simp [string?, Nat.not_lt.mpr bare.1.1, bare.1.2, bare.2, later]
  | @escape letter c cs chars known _ ih =>
    obtain ⟨fuel, rfl⟩ := Nat.exists_eq_add_one_of_ne_zero (Nat.ne_zero_of_lt enough)
    refine string?_escaped ?_ (ih (by simp at enough; omega))
    have other : letter ≠ 'u' := by
      rintro rfl
      cases known
    simp [escaped?, known]
  | unit spelt alone _ ih =>
    obtain ⟨fuel, rfl⟩ := Nat.exists_eq_add_one_of_ne_zero (Nat.ne_zero_of_lt enough)
    refine string?_escaped ?_ (ih (by simp at enough; omega))
    simp [escaped?, unit?_append spelt, alone]
  | @pair digits digits' cs chars high low spelt spelt' first second _ ih =>
    obtain ⟨fuel, rfl⟩ := Nat.exists_eq_add_one_of_ne_zero (Nat.ne_zero_of_lt enough)
    refine string?_escaped ?_ (ih (by simp at enough; omega))
    have surrogate : ¬(high < 0xD800 ∨ 0xE000 ≤ high) := by omega
    simp [escaped?, unit?_append spelt, unit?_append spelt', surrogate, first, second]

/-! ### Values -/

theorem value?_skipBlanks (fuel depth : Nat) (cs : List Char) :
    value? fuel depth (skipBlanks cs) = value? fuel depth cs := by
  cases fuel with
  | zero => rfl
  | succ fuel => simp only [value?, skipBlanks_skipBlanks]

theorem items?_skipBlanks (fuel depth : Nat) (cs : List Char) :
    items? fuel depth (skipBlanks cs) = items? fuel depth cs := by
  cases fuel with
  | zero => rfl
  | succ fuel => simp only [items?, value?_skipBlanks]

theorem fields?_skipBlanks (fuel depth : Nat) (cs : List Char) :
    fields? fuel depth (skipBlanks cs) = fields? fuel depth cs := by
  cases fuel with
  | zero => rfl
  | succ fuel => simp only [fields?, skipBlanks_skipBlanks]

theorem exists_literal {s : String} (quoted : Padded Quoted cs s) (rest : List Char) :
    ∃ body after, skipBlanks (cs ++ rest) = '"' :: body ∧ skipBlanks after = skipBlanks rest ∧
      ∀ fuel, cs.length ≤ fuel + 1 → string? fuel body = some (s.toList, after) := by
  obtain @⟨front, _, back, _, before, ⟨literal⟩, after⟩ := quoted
  rename_i body chars
  refine ⟨body ++ '"' :: (back ++ rest), back ++ rest, ?_, skipBlanks_append after rest, fun fuel enough => ?_⟩
  · rw [List.append_assoc, skipBlanks_append before]
    simp [skipBlanks_cons (show isBlankChar '"' = false by decide)]
  · rw [String.toList_ofList]
    refine string?_of_literal literal ?_ _
    simp at enough
    omega

/-- A reader finds something, and comes to where another text starts but for blanks. -/
def Finds {α : Type} (read : Option (α × List Char)) (a : α) (rest : List Char) : Prop :=
  ∃ after, read = some (a, after) ∧ skipBlanks after = skipBlanks rest

theorem finds_text {s : String} (quoted : Padded Quoted cs s) (enough : cs.length ≤ fuel) (depth : Nat)
    (rest : List Char) : Finds (value? fuel depth (cs ++ rest)) (.text s) rest := by
  obtain ⟨body, after, opened, closed, read⟩ := exists_literal quoted rest
  cases fuel with
  | zero =>
    obtain ⟨-, ⟨literal⟩, -⟩ := quoted
    simp at enough
  | succ fuel =>
    refine ⟨after, ?_, closed⟩
    simp only [value?, opened, read fuel enough, Option.map_some, String.ofList_toList]

/-- Where all items start with one character, so does a sequence of them. -/
theorem skipBlanks_sequence {α : Type} {R : List Char → α → Prop} {items : List α} {c : Char}
    (first : ∀ {cs a}, R cs a → ∀ rest, ∃ behind, skipBlanks (cs ++ rest) = c :: behind)
    (written : Sequence R cs items) (rest : List Char) : ∃ behind, skipBlanks (cs ++ rest) = c :: behind := by
  cases written with
  | one item => exact first item rest
  | @more cs later _ _ item _ =>
    obtain ⟨behind, opened⟩ := first item (',' :: (later ++ rest))
    exact ⟨behind, by rw [List.append_assoc, List.cons_append, opened]⟩

/-! ### Members -/

def afterMember (fuel depth : Nat) (field : String × Json) (rest : List Char) :
    Option (List (String × Json) × List Char) :=
  match skipBlanks rest with
  | ',' :: rest => do
    let (fields, rest) ← fields? fuel depth rest
    return (field :: fields, rest)
  | '\x7d' :: rest => some ([field], rest)
  | _ => none

theorem fields?_of_member {member : String × String} (written : Member cs member) (enough : cs.length ≤ fuel + 1)
    (depth : Nat) (rest : List Char) :
    fields? (fuel + 1) depth (cs ++ rest) = afterMember fuel depth (member.1, .text member.2) rest := by
  obtain @⟨key, value, name, s, named, valued⟩ := written
  simp only [List.length_append, List.length_cons] at enough
  obtain ⟨body, behind, opened, colon, read⟩ := exists_literal named (':' :: (value ++ rest))
  have room : value.length ≤ fuel := by omega
  obtain ⟨after, found, closed⟩ := finds_text valued room depth rest
  have solid : isBlankChar ':' = false := by decide
  rw [skipBlanks_cons solid] at colon
  have whole : key ++ ':' :: value ++ rest = key ++ ':' :: (value ++ rest) := by simp
  rw [whole]
  simp only [fields?, opened, read fuel (by omega), colon, found, closed, bind, Option.bind, afterMember,
    String.ofList_toList]
  rfl

def textField (member : String × String) : String × Json := (member.1, .text member.2)

theorem afterMember_last (fuel depth : Nat) (field : String × Json) (rest : List Char) :
    afterMember fuel depth field ('\x7d' :: rest) = some ([field], rest) := by
  rw [afterMember, skipBlanks_cons (by decide)]
  rfl

theorem afterMember_comma (fuel depth : Nat) (field : String × Json) {fields : List (String × Json)} {rest' : List Char}
    (read : fields? fuel depth rest = some (fields, rest')) :
    afterMember fuel depth field (',' :: rest) = some (field :: fields, rest') := by
  rw [afterMember, skipBlanks_cons (by decide)]
  simp only [read, bind, Option.bind]
  rfl

theorem fields?_of_sequence {members : List (String × String)} (written : Sequence Member cs members)
    (enough : cs.length ≤ fuel + 1) (depth : Nat) (rest : List Char) :
    fields? (fuel + 1) depth (cs ++ '\x7d' :: rest) = some (members.map textField, rest) := by
  induction written generalizing fuel with
  | one item =>
    rw [fields?_of_member item enough, afterMember_last]
    rfl
  | @more cs later member members item _ ih =>
    simp only [List.length_append, List.length_cons] at enough
    obtain ⟨fuel, rfl⟩ : ∃ less, fuel = less + 1 := ⟨fuel - 1, by
      obtain ⟨named, valued⟩ := item
      simp at enough
      omega⟩
    have room : later.length ≤ fuel + 1 := by omega
    have others := ih room
    rw [List.append_assoc, List.cons_append, fields?_of_member item (by omega), afterMember_comma _ _ _ others]
    rfl

theorem skipBlanks_member {member : String × String} (written : Member cs member) (rest : List Char) :
    ∃ behind, skipBlanks (cs ++ rest) = '"' :: behind := by
  obtain @⟨key, value, name, s, named, valued⟩ := written
  obtain ⟨body, _, opened, -⟩ := exists_literal named (':' :: (value ++ rest))
  exact ⟨body, by rw [← opened]; simp⟩

theorem value?_of_object {members : List (String × String)} (written : WrittenObject cs members)
    (enough : cs.length ≤ fuel + 1) (depth : Nat) (rest : List Char) :
    value? (fuel + 1) (depth + 2) (cs ++ rest) = some (.ofFields (members.map textField), rest) := by
  have solid : isBlankChar '\x7b' = false := by decide
  cases written with
  | @empty cs blank =>
    have closed : skipBlanks (cs ++ '\x7d' :: rest) = '\x7d' :: rest := by
      rw [skipBlanks_append blank, skipBlanks_cons (by decide)]
    simp [value?, skipBlanks_cons solid, closed]
    rfl
  | @full cs members sequence =>
    simp only [List.length_append, List.length_cons, List.length_nil] at enough
    obtain ⟨fuel, rfl⟩ : ∃ less, fuel = less + 1 := ⟨fuel - 1, by omega⟩
    have room : cs.length ≤ fuel + 1 := by omega
    have read := fields?_of_sequence sequence room (depth + 1) rest
    obtain ⟨behind, opened⟩ := skipBlanks_sequence skipBlanks_member sequence ('\x7d' :: rest)
    rw [← fields?_skipBlanks, opened] at read
    simp [value?, skipBlanks_cons solid, opened, read]

theorem finds_object {members : List (String × String)} (written : Padded WrittenObject cs members)
    (enough : cs.length ≤ fuel + 1) (depth : Nat) (rest : List Char) :
    Finds (value? (fuel + 1) (depth + 2) (cs ++ rest)) (.ofFields (members.map textField)) rest := by
  obtain @⟨front, core, back, _, before, object, after⟩ := written
  simp only [List.length_append] at enough
  refine ⟨back ++ rest, ?_, skipBlanks_append after rest⟩
  rw [← value?_skipBlanks, List.append_assoc, List.append_assoc, skipBlanks_append before, value?_skipBlanks]
  exact value?_of_object object (by omega) depth _

/-! ### Items -/

def afterItem (fuel depth : Nat) (item : Json) (rest : List Char) : Option (List Json × List Char) :=
  match skipBlanks rest with
  | ',' :: rest => do
    let (items, rest) ← items? fuel depth rest
    return (item :: items, rest)
  | ']' :: rest => some ([item], rest)
  | _ => none

theorem items?_of_finds {item : Json} (found : Finds (value? fuel depth cs) item rest) :
    items? (fuel + 1) depth cs = afterItem fuel depth item rest := by
  obtain ⟨after, read, closed⟩ := found
  simp only [items?, read, closed, bind, Option.bind, afterItem]
  rfl

theorem items?_of_sequence {objects : List (List (String × String))}
    (written : Sequence (Padded WrittenObject) cs objects) (enough : cs.length ≤ fuel + 1) (depth : Nat)
    (rest : List Char) :
    items? (fuel + 2) (depth + 2) (cs ++ ']' :: rest) =
      some (objects.map fun members => .ofFields (members.map textField), rest) := by
  induction written generalizing fuel with
  | one item =>
    rw [items?_of_finds (finds_object item enough depth _), afterItem, skipBlanks_cons (by decide)]
    rfl
  | @more cs later members objects item _ ih =>
    simp only [List.length_append, List.length_cons] at enough
    obtain ⟨fuel, rfl⟩ : ∃ less, fuel = less + 1 := ⟨fuel - 1, by
      obtain ⟨-, _ | _, -⟩ := item <;> simp at enough <;> omega⟩
    have room : later.length ≤ fuel + 1 := by omega
    have others := ih room
    rw [List.append_assoc, List.cons_append, items?_of_finds (finds_object item (by omega) depth _), afterItem,
      skipBlanks_cons (by decide)]
    simp only [others, bind, Option.bind]
    rfl

theorem skipBlanks_object {members : List (String × String)} (written : Padded WrittenObject cs members)
    (rest : List Char) : ∃ behind, skipBlanks (cs ++ rest) = '\x7b' :: behind := by
  have solid : isBlankChar '\x7b' = false := by decide
  obtain ⟨before, _ | _, -⟩ := written <;>
    exact ⟨_, by rw [List.append_assoc, skipBlanks_append before]; exact skipBlanks_cons solid _⟩

theorem finds_objects {objects : List (List (String × String))}
    (written : Padded (Enclosed '[' ']' (Padded WrittenObject)) cs objects) (enough : cs.length ≤ fuel) (depth : Nat)
    (rest : List Char) :
    Finds (value? (fuel + 1) (depth + 3) (cs ++ rest))
      (.array (objects.map fun members => .ofFields (members.map textField))) rest := by
  obtain @⟨front, _, back, _, before, list, after⟩ := written
  have solid : isBlankChar '[' = false := by decide
  refine ⟨back ++ rest, ?_, skipBlanks_append after rest⟩
  rw [← value?_skipBlanks, List.append_assoc, List.append_assoc, skipBlanks_append before, value?_skipBlanks]
  cases list with
  | @empty cs blank =>
    have closed (rest : List Char) : skipBlanks (cs ++ ']' :: rest) = ']' :: rest := by
      rw [skipBlanks_append blank, skipBlanks_cons (by decide)]
    simp [value?, skipBlanks_cons solid, closed]
  | @full cs objects sequence =>
    simp only [List.length_append, List.length_cons, List.length_nil] at enough
    obtain ⟨fuel, rfl⟩ : ∃ less, fuel = less + 2 := ⟨fuel - 2, by omega⟩
    have room : cs.length ≤ fuel + 1 := by omega
    have read := items?_of_sequence sequence room depth (back ++ rest)
    obtain ⟨behind, opened⟩ := skipBlanks_sequence skipBlanks_object sequence (']' :: (back ++ rest))
    rw [← items?_skipBlanks, opened] at read
    simp [value?, skipBlanks_cons solid, opened, read]

end Reader

/-- What is written is read, whatever the escapes and the blanks. -/
theorem parse?_of_written {text : String} {objects : List (List (String × String))}
    (written : WrittenObjects text objects) :
    parse? text = some (.array (objects.map fun members => .ofFields (members.map Reader.textField))) := by
  have room : text.toList.length ≤ 2 * text.toList.length + 1 := by omega
  obtain ⟨after, read, closed⟩ := Reader.finds_objects written room 125 []
  rw [List.append_nil] at read
  unfold parse?
  simp only [read, closed]
  rfl

end Listing.Json
