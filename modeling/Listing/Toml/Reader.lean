import Listing.Toml.Document
import Listing.Toml.Scalar

/-!
# Reading TOML

The grammar of TOML 1.1, read into a JSON value. Arrays and inline tables nest at most 80 levels deep.
-/

namespace Listing.Toml
open DateTime (after? day?)

def isBlank (c : Char) : Bool := c = ' ' || c = '\t'

def skipBlanks (cs : List Char) : List Char := cs.dropWhile isBlank

/-- Whether a character may stand in a string or a comment. -/
def isPrintable (c : Char) : Bool := c = '\t' || (0x20 ≤ c.toNat && c.toNat ≠ 0x7F)

/-- A line break at the front of a text, cut off. -/
def newline? : List Char → Option (List Char)
  | '\n' :: cs => some cs
  | '\r' :: '\n' :: cs => some cs
  | _ => none

def skipComment (cs : List Char) : List Char :=
  match cs with
  | '#' :: rest => rest.dropWhile fun c => isPrintable c
  | cs => cs

def skipLines : Nat → List Char → List Char
  | 0, cs => cs
  | fuel + 1, cs =>
    let rest := skipComment (skipBlanks cs)
    match newline? rest with
    | some next => skipLines fuel next
    | none => rest

/-- The rest after the end of a line, where nothing but a comment may stand. -/
def lineEnd? (cs : List Char) : Option (List Char) :=
  match skipComment (skipBlanks cs) with
  | [] => some []
  | rest => newline? rest

/-! ### Strings -/

def hexDigits? : Nat → List Char → Option (Nat × List Char)
  | 0, cs => some (0, cs)
  | n + 1, c :: cs => do
    let high ← Json.Reader.hexValue? c
    let (low, rest) ← hexDigits? n cs
    return (high * Nat.pow 16 n + low, rest)
  | _, [] => none

def codePoint? (n : Nat) : Option Char :=
  if n < 0xD800 ∨ (0xE000 ≤ n ∧ n < 0x110000) then some (Char.ofNat n) else none

/-- The character that an escape stands for, its backslash already read. -/
def escaped? : List Char → Option (Char × List Char)
  | 'u' :: cs => do
    let (n, rest) ← hexDigits? 4 cs
    return (← codePoint? n, rest)
  | 'U' :: cs => do
    let (n, rest) ← hexDigits? 8 cs
    return (← codePoint? n, rest)
  | 'x' :: cs => do
    let (n, rest) ← hexDigits? 2 cs
    return (← codePoint? n, rest)
  | 'e' :: cs => some ('\x1b', cs)
  | '/' :: _ => none
  | c :: cs => (Json.Reader.simpleEscape? c).map (·, cs)
  | [] => none

/-- A string on one line up to its closing mark. -/
def line? (mark : Char) : Nat → List Char → Option (List Char × List Char)
  | fuel + 1, c :: cs =>
    if c = mark then some ([], cs)
    else if c = '\\' ∧ mark = '"' then do
      let (c, cs) ← escaped? cs
      let (tail, rest) ← line? mark fuel cs
      return (c :: tail, rest)
    else if isPrintable c then (line? mark fuel cs).map fun (tail, rest) => (c :: tail, rest)
    else none
  | _, _ => none

/-- The rest after blanks and line breaks. -/
def skipBreaks : Nat → List Char → List Char
  | 0, cs => cs
  | fuel + 1, cs =>
    match newline? (skipBlanks cs) with
    | some rest => skipBreaks fuel rest
    | none => skipBlanks cs

/-- What follows a backslash at the end of a line: nothing up to the next text. -/
def continued? (cs : List Char) : Option (List Char) :=
  (newline? (skipBlanks cs)).map fun rest => skipBreaks (rest.length + 1) rest

/-- A string over several lines up to its closing marks, to which one or two marks may belong that are
part of the text. Line breaks stay as they are. -/
def lines? (mark : Char) : Nat → List Char → Option (List Char × List Char)
  | fuel + 1, c :: cs =>
    let marks := (c :: cs).takeWhile (· = mark)
    if 3 ≤ marks.length then
      if marks.length ≤ 5 then some (marks.drop 3, (c :: cs).drop marks.length) else none
    else if c = '\\' ∧ mark = '"' then
      match continued? cs with
      | some rest => lines? mark fuel rest
      | none => do
        let (c, cs) ← escaped? cs
        let (tail, rest) ← lines? mark fuel cs
        return (c :: tail, rest)
    else if isPrintable c || (newline? (c :: cs)).isSome then
      (lines? mark fuel cs).map fun (tail, rest) => (c :: tail, rest)
    else none
  | _, _ => none

def string? (mark : Char) (cs : List Char) : Option (List Char × List Char) :=
  match cs with
  | a :: b :: rest =>
    if a = mark ∧ b = mark then
      lines? mark (rest.length + 1) ((newline? rest).getD rest)
    else line? mark (cs.length + 1) cs
  | cs => line? mark (cs.length + 1) cs

/-! ### Keys and values -/

def isBareKey (c : Char) : Bool := c.isAlphanum || c = '_' || c = '-'

def simpleKey? : List Char → Option (String × List Char)
  | '"' :: cs => (line? '"' (cs.length + 1) cs).map fun (s, rest) => (String.ofList s, rest)
  | '\'' :: cs => (line? '\'' (cs.length + 1) cs).map fun (s, rest) => (String.ofList s, rest)
  | cs =>
    let word := cs.takeWhile isBareKey
    if word.isEmpty then none else some (String.ofList word, cs.dropWhile isBareKey)

/-- A dotted key: the parts before the last, and the last. -/
def key? : Nat → List Char → Option ((List String × String) × List Char)
  | 0, _ => none
  | fuel + 1, cs => do
    let (first, rest) ← simpleKey? (skipBlanks cs)
    match skipBlanks rest with
    | '.' :: more =>
      let ((path, last), rest) ← key? fuel more
      return ((first :: path, last), rest)
    | rest => return (([], first), rest)

def isWordChar (c : Char) : Bool :=
  c.isAlphanum || c = '_' || c = '-' || c = '+' || c = '.' || c = ':'

/-- An unquoted value; a blank may stand between a date and a time. -/
def word? (cs : List Char) : Option (Json × List Char) :=
  let word := cs.takeWhile isWordChar
  let rest := cs.dropWhile isWordChar
  match day? word, rest with
  | some (_, []), ' ' :: c :: more =>
    if c.isDigit then
      let time := (c :: more).takeWhile isWordChar
      (bareValue? (word ++ ' ' :: time)).map (·, (c :: more).dropWhile isWordChar)
    else (bareValue? word).map (·, rest)
  | _, _ => (bareValue? word).map (·, rest)

mutual
/-- A value with room for `depth` levels of containers. -/
def value? : Nat → Nat → List Char → Option (Json × List Char)
  | 0, _, _ => none
  | fuel + 1, depth, cs =>
    match depth, cs with
    | _, '"' :: rest => (string? '"' rest).map fun (s, rest) => (.text (String.ofList s), rest)
    | _, '\'' :: rest => (string? '\'' rest).map fun (s, rest) => (.text (String.ofList s), rest)
    | 0, '[' :: _ | 0, '{' :: _ => none
    | depth + 1, '[' :: rest =>
      (items? fuel depth rest).map fun (items, rest) => (.array items, rest)
    | depth + 1, '{' :: rest =>
      (fields? fuel depth [] rest).map fun (entries, rest) => (entries.toJson, rest)
    | _, cs => word? cs

/-- The items of an array, over several lines and with a comma behind the last if need be. -/
def items? : Nat → Nat → List Char → Option (List Json × List Char)
  | 0, _, _ => none
  | fuel + 1, depth, cs =>
    match skipLines cs.length cs with
    | ']' :: rest => some ([], rest)
    | cs => do
      let (item, rest) ← value? fuel depth cs
      match skipLines rest.length rest with
      | ',' :: rest =>
        let (items, rest) ← items? fuel depth rest
        return (item :: items, rest)
      | ']' :: rest => return ([item], rest)
      | _ => none

/-- The entries of an inline table, laid out like the items of an array. Lines may also break around the
equals sign. -/
def fields? : Nat → Nat → Entries → List Char → Option (Entries × List Char)
  | 0, _, _, _ => none
  | fuel + 1, depth, entries, cs =>
    match skipLines cs.length cs with
    | '}' :: rest => some (entries, rest)
    | cs => do
      let ((path, name), rest) ← key? cs.length cs
      let rest ← after? '=' (skipLines rest.length rest)
      let (value, rest) ← value? fuel depth (skipLines rest.length rest)
      let entries ← entries.assign path name value .header
      match skipLines rest.length rest with
      | ',' :: rest => fields? fuel depth entries rest
      | '}' :: rest => return (entries, rest)
      | _ => none
end

def depthLimit : Nat := 80

/-! ### Lines -/

/-- The table under which keys are set, and the document so far. -/
structure Progress where
  header : List String
  root : Entries

def header? (cs : List Char) (p : Progress) : Option (Progress × List Char) :=
  match cs with
  | '[' :: '[' :: rest => do
    let ((path, name), rest) ← key? rest.length rest
    let rest ← after? ']' rest >>= after? ']' >>= lineEnd?
    return (⟨path ++ [name], ← p.root.extend path name⟩, rest)
  | '[' :: rest => do
    let ((path, name), rest) ← key? rest.length rest
    let rest ← after? ']' rest >>= lineEnd?
    return (⟨path ++ [name], ← p.root.define path name⟩, rest)
  | _ => none

def assignment? (cs : List Char) (p : Progress) : Option (Progress × List Char) := do
  let ((path, name), rest) ← key? cs.length cs
  let rest ← after? '=' rest
  let (value, rest) ← value? (2 * rest.length + 2) depthLimit (skipBlanks rest)
  let rest ← lineEnd? rest
  return ({ p with root := ← p.root.assignUnder p.header path name value }, rest)

def statements? : Nat → Progress → List Char → Option Entries
  | 0, _, _ => none
  | fuel + 1, p, cs =>
    match skipLines (cs.length + 1) cs with
    | [] => some p.root
    | '[' :: rest => do
      let (p, rest) ← header? ('[' :: rest) p
      statements? fuel p rest
    | cs => do
      let (p, rest) ← assignment? cs p
      statements? fuel p rest

/-- The document that a text holds, behind a byte order mark if there is one. -/
def parse? (s : String) : Option Json :=
  let cs := match s.toList with
    | '\ufeff' :: cs => cs
    | cs => cs
  (statements? (cs.length + 1) ⟨[], []⟩ cs).map Entries.toJson

end Listing.Toml
