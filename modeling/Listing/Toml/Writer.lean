import Listing.Json.Printer

/-!
# Writing TOML

Strings in the plainest quotes that they allow, and documents as a list of sections.
-/

namespace Listing.Toml

def longestRun (mark : Char) (cs : List Char) : Nat :=
  (cs.foldl (fun (best, run) c =>
    let run := if c = mark then run + 1 else 0
    (max best run, run)) (0, 0)).1

/-- Whether a character can be written by its escape alone. -/
def isControl (c : Char) : Bool :=
  c.toNat ≤ 8 || (0x0B ≤ c.toNat && c.toNat ≤ 0x1F) || c.toNat == 0x7F

def upperHex (n : Nat) : Char := (n % 16).digitChar.toUpper

def escapeControl (c : Char) : List Char :=
  if c = '\x08' then ['\\', 'b']
  else if c = '\t' then ['\\', 't']
  else if c = '\x0c' then ['\\', 'f']
  else if c = '\r' then ['\\', 'r']
  else if c = '\\' then ['\\', '\\']
  else if isControl c then ['\\', 'u', '0', '0', upperHex (c.toNat / 16), upperHex c.toNat]
  else [c]

/-- The body of a string between double quotes. A quote is escaped where `allowed` of them stand before
it already; line breaks stay where the string runs over lines. -/
def escapeBody (overLines : Bool) (allowed : Nat) : Nat → List Char → List Char
  | _, [] => []
  | quotes, c :: cs =>
    if c = '"' then
      if quotes < allowed then c :: escapeBody overLines allowed (quotes + 1) cs
      else '\\' :: c :: escapeBody overLines allowed 0 cs
    else if c = '\n' then
      (if overLines then ['\n'] else ['\\', 'n']) ++ escapeBody overLines allowed 0 cs
    else escapeControl c ++ escapeBody overLines allowed 0 cs

/-- A string in double quotes, in single quotes, or in three of either, whichever comes first that needs
no escapes; failing that, with escapes. -/
def quoteChars (cs : List Char) : List Char :=
  let control := cs.any isControl
  let backslash := cs.contains '\\'
  let breaks := cs.contains '\n'
  let doubles := longestRun '"' cs
  let singles := longestRun '\'' cs
  let lead := if breaks then ['\n'] else []
  let three (c : Char) := [c, c, c]
  if !control && !backslash && doubles == 0 && !breaks then
    '"' :: escapeBody false 0 0 cs ++ ['"']
  else if !control && singles == 0 && !breaks then '\'' :: cs ++ ['\'']
  else if !control && !backslash && doubles ≤ 2 then
    three '"' ++ lead ++ escapeBody true 2 0 cs ++ three '"'
  else if !control && singles ≤ 2 then three '\'' ++ lead ++ cs ++ three '\''
  else if breaks then three '"' ++ lead ++ escapeBody true 2 0 cs ++ three '"'
  else '"' :: escapeBody false 0 0 cs ++ ['"']

def quote (s : String) : String := String.ofList (quoteChars s.toList)

/-- A key, in quotes unless it is a plain word. -/
def key (s : String) : String :=
  let cs := s.toList
  let plain := !cs.isEmpty && cs.all fun c => c.isAlphanum || c = '_' || c = '-'
  if plain then s
  else
    let control := cs.any isControl
    let breaks := cs.contains '\n'
    if !(!control && !cs.contains '\\' && !cs.contains '"' && !breaks) &&
        (!control && !cs.contains '\'' && !breaks) then
      String.ofList ('\'' :: cs ++ ['\''])
    else String.ofList ('"' :: escapeBody false 0 0 cs ++ ['"'])

structure Section where
  header : String
  entries : List (String × String)

def Section.render (s : Section) : String :=
  s.header ++ "\n" ++ String.join (s.entries.map fun (name, value) => name ++ " = " ++ value ++ "\n")

def renderSections (sections : List Section) : String :=
  "\n".intercalate (sections.map Section.render)

end Listing.Toml
