import KeliNode.Lib.Json
import KeliNode.Lib.KeyedFold
import Mathlib.Data.List.Forall2

/-!
# What a JSON text denotes

`Denotes text value`: the parser reads `value` from `text` and stops where `text` ends, whatever comes after it.
The lemmas follow the grammar, so that a text a program puts together piece by piece is read by the rule of each
piece; `denotes_print` is the case of the printer, and `parse_of_denotes` ends a document.
-/

namespace Lib

open Std

namespace Json

/-! ## White space -/

/-- A text that starts with something other than white space. -/
def StartsDark (s : Text) : Prop := ∃ c rest, s = c :: rest ∧ isSpace c = false

theorem skipSpace_of_dark {c : Char} {rest : Text} (hc : isSpace c = false) : skipSpace (c :: rest) = c :: rest := by
  rw [skipSpace, List.dropWhile_cons, if_neg (by simp [hc])]

/-- What may follow a number: not another digit, a fraction or an exponent. -/
def Ends (rest : Text) : Prop := ∀ c, rest.head? = some c → c.isDigit = false ∧ c ≠ '.' ∧ c ≠ 'e' ∧ c ≠ 'E'

theorem ends_nil : Ends [] := by simp [Ends]

theorem ends_comma (rest : Text) : Ends (',' :: rest) := by
  rintro c hc
  cases hc
  decide

theorem ends_bracket (rest : Text) : Ends (']' :: rest) := by
  rintro c hc
  cases hc
  decide

theorem ends_brace (rest : Text) : Ends ('}' :: rest) := by
  rintro c hc
  cases hc
  decide

theorem ends_newline (rest : Text) : Ends ('\n' :: rest) := by
  rintro c hc
  cases hc
  decide

/-! ## Strings -/

theorem hexDigitValue_hexDigit : ∀ n < 16, hexDigitValue (hexDigit n) = some n := by decide

theorem parseUnicode_control {c : Char} (hc : c.toNat < 32) (rest : Text) :
    parseUnicode ('0' :: '0' :: hexDigit (c.toNat / 16) :: hexDigit (c.toNat % 16) :: rest) = some (c, rest) := by
  have hzero : hexDigitValue '0' = some 0 := by decide
  have hvalue : c.toNat / 16 * 16 + c.toNat % 16 = c.toNat := by omega
  simp only [parseUnicode, parseHex4, hzero, hexDigitValue_hexDigit (c.toNat / 16) (by omega),
    hexDigitValue_hexDigit (c.toNat % 16) (by omega), Option.bind_eq_bind, Option.bind_some, Nat.zero_mul, Nat.zero_add,
    hvalue]
  rw [if_neg (by omega), if_neg (by omega), Char.ofNat_toNat]

theorem parseChars_escapeChar (c : Char) (fuel : Nat) (rest : Text) :
    parseChars (fuel + 1) (escapeChar c ++ rest) =
      (parseChars fuel rest).map fun (s, rest) => (c :: s, rest) := by
  have hbind : ∀ c : Char, (do let (s, rest) ← parseChars fuel rest; some (c :: s, rest)) =
      (parseChars fuel rest).map fun (s, rest) => (c :: s, rest) := by
    intro c
    cases parseChars fuel rest <;> rfl
  unfold escapeChar
  split_ifs with h₁ h₂ h₃ h₄ h₅ h₆ h₇ h₈
  case pos | pos | pos | pos | pos | pos | pos =>
    subst_vars
    exact hbind _
  case pos =>
    simp only [List.cons_append, List.nil_append, parseChars, parseEscape, parseUnicode_control h₈,
      show ('\\' : Char) ≠ '"' by decide, show ('u' : Char) ≠ '"' by decide, show ('u' : Char) ≠ '\\' by decide,
      show ('u' : Char) ≠ '/' by decide, show ('u' : Char) ≠ 'b' by decide, show ('u' : Char) ≠ 'f' by decide,
      show ('u' : Char) ≠ 'n' by decide, show ('u' : Char) ≠ 'r' by decide, show ('u' : Char) ≠ 't' by decide,
      or_self, if_false, if_true, Option.bind_eq_bind, Option.bind_some]
    exact hbind c
  case neg =>
    simp only [List.cons_append, List.nil_append, parseChars, h₁, h₂, h₈, if_false]
    exact hbind c

theorem parseChars_escaped (s : Text) (rest : Text) :
    ∀ fuel, s.length < fuel → parseChars fuel (s.flatMap escapeChar ++ '"' :: rest) = some (s, rest) := by
  induction s with
  | nil =>
    intro fuel hfuel
    cases fuel with
    | zero => cases hfuel
    | succ fuel => rfl
  | cons c s ih =>
    intro fuel hfuel
    cases fuel with
    | zero => cases hfuel
    | succ fuel =>
      rw [List.flatMap_cons, List.append_assoc, parseChars_escapeChar, ih fuel (by simpa using hfuel)]
      rfl

theorem length_escapeChar (c : Char) : 0 < (escapeChar c).length := by
  unfold escapeChar
  split_ifs <;> simp

theorem length_escaped (s : Text) : s.length ≤ (s.flatMap escapeChar).length := by
  induction s with
  | nil => exact Nat.le_refl 0
  | cons c s ih =>
    have := length_escapeChar c
    rw [List.flatMap_cons, List.length_append, List.length_cons]
    omega

/-- **Strings**: the parser reads a printed string back, whatever follows it. -/
theorem parseString_printed (s rest : Text) : parseString (s.flatMap escapeChar ++ '"' :: rest) = some (s, rest) := by
  refine parseChars_escaped s rest _ ?_
  have := length_escaped s
  rw [List.length_append, List.length_cons]
  omega

/-! ## Numbers -/

theorem head_decimal {n : Nat} (hn : 0 < n) : (decimal n).head? ≠ some '0' := by
  induction n using Nat.strongRecOn with
  | ind n ih =>
    unfold decimal
    by_cases hlt : n < 10
    · have hdigit : ∀ n < 10, 0 < n → (Nat.digitChar n) ≠ '0' := by decide
      rw [Nat.toDigits_of_lt_base hlt]
      simpa using hdigit n hlt hn
    · rw [Nat.toDigits_of_base_le (by omega) (by omega), List.head?_append]
      have hhead := ih (n / 10) (by omega) (by omega)
      cases h : (Nat.toDigits 10 (n / 10)).head? with
      | none => exact absurd (List.head?_eq_none_iff.1 h) Nat.toDigits_ne_nil
      | some c =>
        rw [decimal, h] at hhead
        simpa using hhead

theorem takeWhile_append_of_ends {s rest : Text} (hs : ∀ c ∈ s, c.isDigit = true) (hrest : Ends rest) :
    (s ++ rest).takeWhile Char.isDigit = s ∧ (s ++ rest).dropWhile Char.isDigit = rest := by
  rw [List.takeWhile_append_of_pos hs, List.dropWhile_append_of_pos hs]
  cases rest with
  | nil => simp
  | cons c rest => simp [(hrest c rfl).1]

theorem parseFraction_of_ends {rest : Text} (hrest : Ends rest) : parseFraction rest = some ([], rest) := by
  unfold parseFraction
  split
  · exact absurd rfl (hrest '.' rfl).2.1
  · rfl

theorem parseExponent_of_ends {rest : Text} (hrest : Ends rest) : parseExponent rest = some ([], rest) := by
  cases rest with
  | nil => rfl
  | cons c rest =>
    have hc := hrest c rfl
    rw [parseExponent, if_neg (by simp [hc.2.2.1, hc.2.2.2])]

/-- **Numbers**: the parser reads a printed natural number back. -/
theorem parseNumber_decimal (n : Nat) {rest : Text} (hrest : Ends rest) :
    parseNumber (decimal n ++ rest) = some (.posInt n, rest) := by
  have hdigits := fun c hc => isDigit_of_mem_decimal (n := n) (c := c) hc
  obtain ⟨htake, hdrop⟩ := takeWhile_append_of_ends hdigits hrest
  have hsign : (decimal n ++ rest).head? ≠ some '-' := by
    rw [List.head?_append]
    cases h : (decimal n).head? with
    | none => exact absurd (List.head?_eq_none_iff.1 h) (decimal_ne_nil n)
    | some c =>
      have hdigit := hdigits c (List.mem_of_mem_head? h)
      rintro ⟨rfl⟩
      cases hdigit
  have hlead : ¬((decimal n).isEmpty = true ∨ (1 < (decimal n).length ∧ (decimal n).head? = some '0')) := by
    rintro (hempty | ⟨hlen, hhead⟩)
    · exact decimal_ne_nil n (List.isEmpty_iff.1 hempty)
    · cases n with
      | zero => simp [decimal] at hlen
      | succ n => exact head_decimal (by omega) hhead
  have hvalue : Nat.ofDigitChars 10 (decimal n) 0 = n := Nat.ofDigitChars_ten_toDigits
  simp only [parseNumber, hsign, if_false, List.length_nil, List.drop_zero, htake, hdrop, hlead,
    parseFraction_of_ends hrest, parseExponent_of_ends hrest, Option.bind_eq_bind, Option.bind_some, hvalue]
  rfl

/-! ## Values -/

/-- The text denotes the value: the parser reads the value and stops at the end of the text. -/
structure Denotes (text : Text) (value : Json) : Prop where
  dark : StartsDark text
  reads : ∀ fuel rest, text.length ≤ fuel → Ends rest → parseValue fuel (text ++ rest) = some (value, rest)

theorem Denotes.skip_eq {text : Text} {value : Json} (h : Denotes text value) (rest : Text) :
    skipSpace (text ++ rest) = text ++ rest := by
  obtain ⟨c, tail, rfl, hc⟩ := h.dark
  exact skipSpace_of_dark hc

/-- The rule behind every literal: what the parser does with the first character of the text. -/
theorem denotes_of_head {c : Char} {tail : Text} {value : Json} (hc : isSpace c = false)
    (hreads : ∀ fuel rest, tail.length ≤ fuel → Ends rest →
      parseValue (fuel + 1) (c :: tail ++ rest) = some (value, rest)) : Denotes (c :: tail) value := by
  refine ⟨⟨c, tail, rfl, hc⟩, fun fuel rest hfuel hrest => ?_⟩
  cases fuel with
  | zero => cases hfuel
  | succ fuel => exact hreads fuel rest (by simpa using hfuel) hrest

/-- A word is read by its first character and the rest of it. -/
theorem denotes_word {c : Char} {tail : Text} {value : Json} (hc : isSpace c = false)
    (hreads : ∀ fuel rest, parseValue (fuel + 1) (c :: tail ++ rest) =
      (stripPrefix tail (tail ++ rest)).map fun rest => (value, rest)) : Denotes (c :: tail) value := by
  refine denotes_of_head hc fun fuel rest _ _ => ?_
  rw [hreads, stripPrefix_append]
  rfl

theorem denotes_null : Denotes "null" .null := denotes_word (by decide) fun _ _ => rfl

theorem denotes_bool : ∀ b : Bool, Denotes (print (.bool b)) (.bool b)
  | true => denotes_word (by decide) fun _ _ => rfl
  | false => denotes_word (by decide) fun _ _ => rfl

theorem denotes_string (s : Text) : Denotes (printString s) (.string s) := by
  change Denotes ('"' :: (s.flatMap escapeChar ++ ['"'])) _
  refine denotes_of_head (by decide) fun fuel rest _ _ => ?_
  rw [parseValue, List.cons_append, List.append_assoc, List.cons_append, List.nil_append,
    skipSpace_of_dark (by decide)]
  simp only [if_true, parseString_printed, Option.map_some]

theorem not_digit_special {c : Char} (hc : c.isDigit = true) :
    isSpace c = false ∧ c ≠ '"' ∧ c ≠ '[' ∧ c ≠ '{' ∧ c ≠ 'n' ∧ c ≠ 't' ∧ c ≠ 'f' := by
  have hne : ∀ d : Char, d.isDigit = false → c ≠ d := by
    rintro d hd rfl
    rw [hc] at hd
    cases hd
  refine ⟨?_, hne _ (by decide), hne _ (by decide), hne _ (by decide), hne _ (by decide), hne _ (by decide),
    hne _ (by decide)⟩
  simp [isSpace, hne ' ' (by decide), hne '\t' (by decide), hne '\n' (by decide), hne '\r' (by decide)]

theorem denotes_posInt (n : Nat) : Denotes (decimal n) (.posInt n) := by
  cases hdecimal : decimal n with
  | nil => exact absurd hdecimal (decimal_ne_nil n)
  | cons c tail =>
    have hc : c.isDigit = true := isDigit_of_mem_decimal (n := n) (hdecimal ▸ List.mem_cons_self)
    obtain ⟨hspace, h₁, h₂, h₃, h₄, h₅, h₆⟩ := not_digit_special hc
    refine denotes_of_head hspace fun fuel rest _ hrest => ?_
    have hnumber := parseNumber_decimal n hrest
    rw [hdecimal, List.cons_append] at hnumber
    rw [parseValue, List.cons_append, skipSpace_of_dark hspace]
    simp only [h₁, h₂, h₃, h₄, h₅, h₆, if_false]
    exact hnumber

/-! ## Arrays and objects -/

theorem join_cons_cons (sep a b : Text) (parts : List Text) :
    join sep (a :: b :: parts) = a ++ (sep ++ join sep (b :: parts)) := by
  simp [join, List.intercalate_cons_cons]

theorem join_singleton (sep a : Text) : join sep [a] = a := by simp [join]

/-- The items of an array up to its closing bracket. -/
theorem parseItems_join {texts : List Text} {items : List Json} (h : List.Forall₂ Denotes texts items)
    (hne : texts ≠ []) (rest : Text) :
    ∀ fuel, (join [','] texts).length < fuel →
      parseItems fuel (join [','] texts ++ ']' :: rest) = some (items, rest) := by
  induction h with
  | nil => exact absurd rfl hne
  | @cons text item texts items htext htexts ih =>
    intro fuel hfuel
    cases fuel with
    | zero => cases hfuel
    | succ fuel =>
      cases htexts with
      | nil =>
        rw [join_singleton] at hfuel ⊢
        have hreads := htext.reads fuel (']' :: rest) (by omega) (ends_bracket rest)
        have hskip : skipSpace (']' :: rest) = ']' :: rest := skipSpace_of_dark (by decide)
        simp only [parseItems, hreads, Option.bind_eq_bind, Option.bind_some, hskip]
        rfl
      | @cons next nextItem texts items hnext hrest =>
        rw [join_cons_cons] at hfuel ⊢
        simp only [List.length_append, List.length_cons, List.length_nil] at hfuel
        have hitems := ih (by simp) fuel (by omega)
        have hskip : skipSpace (',' :: (join [','] (next :: texts) ++ ']' :: rest)) =
            ',' :: (join [','] (next :: texts) ++ ']' :: rest) := skipSpace_of_dark (by decide)
        have hreads := htext.reads fuel (',' :: (join [','] (next :: texts) ++ ']' :: rest)) (by omega) (ends_comma _)
        simp only [List.append_assoc, List.cons_append, List.nil_append, parseItems, hreads, Option.bind_eq_bind,
          Option.bind_some, hskip, if_true, hitems]

theorem Denotes.not_bracket {text : Text} {value : Json} (h : Denotes text value) (rest : Text) :
    (text ++ rest).head? ≠ some ']' := by
  obtain ⟨c, tail, rfl, -⟩ := h.dark
  rintro ⟨rfl⟩
  have hreads := h.reads _ [] (Nat.le_refl _) ends_nil
  have hnone : parseValue (tail.length + 1) (']' :: tail ++ []) = none := rfl
  rw [List.length_cons, hnone] at hreads
  cases hreads

/-- **Arrays**: items between commas. -/
theorem denotes_array {texts : List Text} {items : List Json} (h : List.Forall₂ Denotes texts items) :
    Denotes ('[' :: join [','] texts ++ [']']) (.array items) := by
  change Denotes ('[' :: (join [','] texts ++ [']'])) _
  refine denotes_of_head (by decide) fun fuel rest hfuel _ => ?_
  rw [List.cons_append, List.append_assoc, List.cons_append, List.nil_append, parseValue,
    skipSpace_of_dark (by decide)]
  cases h with
  | nil => rfl
  | @cons text item texts items htext htexts =>
    have hitems := parseItems_join (.cons htext htexts) (by simp) rest fuel (by simpa [Nat.succ_le_iff] using hfuel)
    have hdark : skipSpace (join [','] (text :: texts) ++ ']' :: rest) = join [','] (text :: texts) ++ ']' :: rest ∧
        (join [','] (text :: texts) ++ ']' :: rest).head? ≠ some ']' := by
      cases texts with
      | nil =>
        rw [join_singleton]
        exact ⟨htext.skip_eq _, htext.not_bracket _⟩
      | cons next texts =>
        rw [join_cons_cons, List.append_assoc]
        exact ⟨htext.skip_eq _, htext.not_bracket _⟩
    simp only [show ('[' : Char) ≠ '"' by decide, if_false, if_true, hdark.1, hdark.2, hitems, Option.map_some]

/-- The text of one member. -/
def printField (key text : Text) : Text := printString key ++ ':' :: text

theorem printField_append (key text rest : Text) :
    printField key text ++ rest = '"' :: (key.flatMap escapeChar ++ '"' :: ':' :: (text ++ rest)) := by
  simp [printField, printString]

/-- A member as it stands in the text, against the member it is read as. -/
def DenotesField (text : Text × Text) (field : Text × Json) : Prop := text.1 = field.1 ∧ Denotes text.2 field.2

/-- One member, read up to what follows its value. -/
theorem parseFields_step {key text : Text} {value : Json} (h : Denotes text value) {rest : Text} (hrest : Ends rest)
    {fuel : Nat} (hfuel : text.length ≤ fuel) :
    parseFields (fuel + 1) (printField key text ++ rest) =
      match skipSpace rest with
      | [] => none
      | c :: rest =>
        if c = ',' then do
          let (fields, rest) ← parseFields fuel rest
          some ((key, value) :: fields, rest)
        else if c = '}' then some ([(key, value)], rest)
        else none := by
  have hquote : skipSpace ('"' :: (key.flatMap escapeChar ++ '"' :: ':' :: (text ++ rest))) =
      '"' :: (key.flatMap escapeChar ++ '"' :: ':' :: (text ++ rest)) := skipSpace_of_dark (by decide)
  have hcolon : skipSpace (':' :: (text ++ rest)) = ':' :: (text ++ rest) := skipSpace_of_dark (by decide)
  cases hskip : skipSpace rest <;>
    simp only [printField_append, parseFields, hquote, List.head?_cons, if_true, List.tail_cons, parseString_printed,
      Option.bind_eq_bind, Option.bind_some, hcolon, h.reads fuel rest hfuel hrest, hskip]

def printMembers (texts : List (Text × Text)) : List Text := texts.map fun (key, text) => printField key text

theorem printMembers_cons (key text : Text) (texts : List (Text × Text)) :
    printMembers ((key, text) :: texts) = printField key text :: printMembers texts := rfl

/-- The members of an object up to its closing brace. -/
theorem parseFields_join {texts : List (Text × Text)} {fields : List (Text × Json)}
    (h : List.Forall₂ DenotesField texts fields) (hne : texts ≠ []) (rest : Text) :
    ∀ fuel, (join [','] (printMembers texts)).length < fuel →
      parseFields fuel (join [','] (printMembers texts) ++ '}' :: rest) = some (fields, rest) := by
  induction h with
  | nil => exact absurd rfl hne
  | @cons text field texts fields htext htexts ih =>
    intro fuel hfuel
    obtain ⟨key, text⟩ := text
    obtain ⟨key', value⟩ := field
    obtain ⟨hkey, hvalue⟩ := htext
    dsimp only at hkey hvalue
    subst hkey
    have hlength : text.length < (printField key text).length := by
      simp only [printField, printString, List.length_append, List.length_cons]
      omega
    cases fuel with
    | zero => cases hfuel
    | succ fuel =>
      cases htexts with
      | nil =>
        rw [printMembers_cons, printMembers, List.map_nil, join_singleton] at hfuel ⊢
        rw [parseFields_step hvalue (ends_brace rest) (by omega), skipSpace_of_dark (by decide)]
        rfl
      | @cons next nextField texts fields hnext hrest =>
        obtain ⟨nextKey, next⟩ := next
        have hfields := ih (by simp) fuel
        rw [printMembers_cons] at hfields
        rw [printMembers_cons, printMembers_cons, join_cons_cons] at hfuel ⊢
        simp only [List.length_append, List.length_cons, List.length_nil] at hfuel
        simp only [List.append_assoc, List.cons_append, List.nil_append]
        rw [parseFields_step hvalue (ends_comma _) (by omega), skipSpace_of_dark (by decide)]
        simp only [if_true, hfields (by omega), Option.bind_eq_bind, Option.bind_some]

/-- **Objects**: members between commas. -/
theorem denotes_object {texts : List (Text × Text)} {fields : List (Text × Json)}
    (h : List.Forall₂ DenotesField texts fields) :
    Denotes ('{' :: join [','] (printMembers texts) ++ ['}']) (ofFields fields) := by
  change Denotes ('{' :: (join [','] (printMembers texts) ++ ['}'])) _
  refine denotes_of_head (by decide) fun fuel rest hfuel _ => ?_
  rw [List.cons_append, List.append_assoc, List.cons_append, List.nil_append, parseValue,
    skipSpace_of_dark (by decide)]
  cases h with
  | nil => rfl
  | @cons text field texts fields htext htexts =>
    have hfields := parseFields_join (.cons htext htexts) (by simp) rest fuel (by simpa [Nat.succ_le_iff] using hfuel)
    have hquote : ∃ tail, join [','] (printMembers (text :: texts)) = '"' :: tail := by
      obtain ⟨key, text⟩ := text
      cases texts with
      | nil =>
        rw [printMembers_cons, printMembers, List.map_nil, join_singleton]
        exact ⟨_, rfl⟩
      | cons next texts =>
        obtain ⟨nextKey, next⟩ := next
        rw [printMembers_cons, printMembers_cons, join_cons_cons]
        exact ⟨_, rfl⟩
    obtain ⟨tail, htail⟩ := hquote
    rw [htail] at hfields ⊢
    have hskip : skipSpace ('"' :: tail ++ '}' :: rest) = '"' :: tail ++ '}' :: rest := skipSpace_of_dark (by decide)
    have hhead : ('"' :: tail ++ '}' :: rest).head? ≠ some '}' := by simp
    simp only [show ('{' : Char) ≠ '"' by decide, show ('{' : Char) ≠ '[' by decide, if_false, if_true, hskip, hhead,
      hfields, Option.map_some]

/-! ## Printed values -/

theorem printItems_eq (items : List Json) : printItems items = items.map print := by
  induction items with
  | nil => rfl
  | cons item items ih => rw [printItems, ih, List.map_cons]

theorem printFields_eq (fields : List (Text × Json)) :
    printFields fields = printMembers (fields.map fun (key, value) => (key, print value)) := by
  induction fields with
  | nil => rfl
  | cons field fields ih =>
    rw [printFields, ih, List.map_cons, printMembers_cons]
    rfl

/-- The members stand as in a map: in the order of the keys, no key twice. -/
def Sorted (fields : List (Text × Json)) : Prop := sortFields fields = fields

theorem sorted_sortFields (fields : List (Text × Json)) : Sorted (sortFields fields) := by
  unfold Sorted sortFields
  generalize (fields.foldl _ (∅ : ExtTreeMap Text Json)) = members
  refine congrArg ExtTreeMap.toList (ExtTreeMap.ext_getElem? fun key => ?_)
  rw [getElem?_foldl_insert Prod.fst Prod.snd, ExtTreeMap.getElem?_empty, Option.or_none]
  have hnodup : (members.toList.map Prod.fst).Nodup := by
    rw [List.Nodup, List.pairwise_map]
    exact ExtTreeMap.distinct_keys_toList.imp fun hne heq => by simp [heq] at hne
  cases hget : members[key]? with
  | some value =>
    have hlast := lastWith_of_mem hnodup (ExtTreeMap.mem_toList_iff_getElem?_eq_some.2 hget)
    rw [hlast]
    rfl
  | none =>
    have hnone : lastWith Prod.fst members.toList key = none := by
      refine lastWith_eq_none.2 ?_
      rintro ⟨key', value⟩ hmem rfl
      rw [ExtTreeMap.mem_toList_iff_getElem?_eq_some, hget] at hmem
      cases hmem
    rw [hnone]
    rfl

/-- A value whose numbers are natural and whose objects are maps. -/
inductive Canonical : Json → Prop where
  | null : Canonical .null
  | bool (b : Bool) : Canonical (.bool b)
  | posInt (n : Nat) : Canonical (.posInt n)
  | string (s : Text) : Canonical (.string s)
  | array {items : List Json} (hitems : ∀ item ∈ items, Canonical item) : Canonical (.array items)
  | object {fields : List (Text × Json)} (hsorted : Sorted fields) (hfields : ∀ field ∈ fields, Canonical field.2) :
    Canonical (.object fields)

theorem mem_of_mem_sortFields {fields : List (Text × Json)} {field : Text × Json} (h : field ∈ sortFields fields) :
    field ∈ fields := by
  obtain ⟨key, value⟩ := field
  rw [sortFields, ExtTreeMap.mem_toList_iff_getElem?_eq_some, getElem?_foldl_insert Prod.fst Prod.snd,
    ExtTreeMap.getElem?_empty, Option.or_none, Option.map_eq_some_iff] at h
  obtain ⟨⟨key', value'⟩, hlast, rfl⟩ := h
  obtain ⟨hmem, rfl⟩ := lastWith_eq_some hlast
  exact hmem

/-- **Members**: an object written member by member has the last value of each key. -/
theorem get_ofFields (fields : List (Text × Json)) (key : Text) :
    (ofFields fields).get key = (lastWith Prod.fst fields key).map Prod.snd := by
  have hget := getElem?_foldl_insert Prod.fst Prod.snd fields (∅ : ExtTreeMap Text Json) key
  rw [ExtTreeMap.getElem?_empty, Option.or_none] at hget
  rw [← hget, ofFields, get, sortFields]
  generalize fields.foldl _ (∅ : ExtTreeMap Text Json) = members
  cases hfind : members.toList.find? (·.1 = key) with
  | some found =>
    obtain ⟨key', value⟩ := found
    have hkey : key' = key := by simpa using List.find?_some hfind
    subst hkey
    exact (ExtTreeMap.mem_toList_iff_getElem?_eq_some.1 (List.mem_of_find?_eq_some hfind)).symm
  | none =>
    cases hvalue : members[key]? with
    | none => rfl
    | some value =>
      have hnot := List.find?_eq_none.1 hfind _ (ExtTreeMap.mem_toList_iff_getElem?_eq_some.2 hvalue)
      simp at hnot

/-- The member at a place, where no key stands twice. -/
theorem get_ofFields_at {fields : List (Text × Json)} (keys : List String) (hnodup : (keys.map String.toList).Nodup)
    (hkeys : fields.map Prod.fst = keys.map String.toList) {key : Text} {value : Json} (place : Nat)
    (h : fields[place]? = some (key, value)) : (ofFields fields).get key = some value := by
  rw [get_ofFields, lastWith_of_mem (hkeys ▸ hnodup) (List.mem_of_getElem? h)]
  rfl

/-- Members with other keys do not matter. -/
theorem get_ofFields_append {fields others : List (Text × Json)} {key : Text} (h : ∀ field ∈ others, field.1 ≠ key) :
    (ofFields (fields ++ others)).get key = (ofFields fields).get key := by
  rw [get_ofFields, get_ofFields, lastWith, List.reverse_append, List.find?_append, ← lastWith, lastWith_eq_none.2 h,
    Option.none_or, lastWith]

theorem canonical_ofFields {fields : List (Text × Json)} (h : ∀ field ∈ fields, Canonical field.2) :
    Canonical (ofFields fields) :=
  .object (sorted_sortFields fields) fun field hfield => h field (mem_of_mem_sortFields hfield)

/-- **The printer**: what it prints of a canonical value denotes the value. -/
theorem denotes_print {value : Json} (h : Canonical value) : Denotes (print value) value := by
  induction h with
  | null => exact denotes_null
  | bool b => exact denotes_bool b
  | posInt n => exact denotes_posInt n
  | string s => exact denotes_string s
  | @array items _ ih =>
    rw [print, printItems_eq]
    refine denotes_array (List.forall₂_map_left_iff.2 ?_)
    exact List.forall₂_same.2 ih
  | @object fields hsorted _ ih =>
    have hmembers : List.Forall₂ DenotesField (fields.map fun (key, value) => (key, print value)) fields :=
      List.forall₂_map_left_iff.2 (List.forall₂_same.2 fun field hfield => ⟨rfl, ih field hfield⟩)
    have hobject := denotes_object hmembers
    rw [ofFields, hsorted] at hobject
    rw [print, printFields_eq]
    exact hobject

/-- **Documents**: a denoting text and a newline. -/
theorem parse_of_denotes {text : Text} {value : Json} (h : Denotes text value) :
    parse (text ++ ['\n']) = some value := by
  have hreads := h.reads ((text ++ ['\n']).length + 1) ['\n'] (by simp; omega) (ends_newline [])
  rw [parse, hreads]
  rfl

/-! ## Negative numbers -/

theorem parseNumber_negative {n : Nat} (hn : 0 < n) {rest : Text} (hrest : Ends rest) :
    parseNumber ('-' :: decimal n ++ rest) = some (.negInt n, rest) := by
  have hdigits := fun c hc => isDigit_of_mem_decimal (n := n) (c := c) hc
  obtain ⟨htake, hdrop⟩ := takeWhile_append_of_ends hdigits hrest
  have hlead : ¬((decimal n).isEmpty = true ∨ (1 < (decimal n).length ∧ (decimal n).head? = some '0')) := by
    rintro (hempty | ⟨-, hhead⟩)
    · exact decimal_ne_nil n (List.isEmpty_iff.1 hempty)
    · exact head_decimal hn hhead
  have hvalue : Nat.ofDigitChars 10 (decimal n) 0 = n := Nat.ofDigitChars_ten_toDigits
  simp only [parseNumber, List.cons_append, List.head?_cons, if_true, List.length_singleton, List.drop_one,
    List.tail_cons, htake, hdrop, hlead, if_false, parseFraction_of_ends hrest, parseExponent_of_ends hrest,
    Option.bind_eq_bind, Option.bind_some, hvalue]
  simp [Nat.pos_iff_ne_zero.1 hn]

theorem denotes_negInt {n : Nat} (hn : 0 < n) : Denotes ('-' :: decimal n) (.negInt n) := by
  refine denotes_of_head (by decide) fun fuel rest _ hrest => ?_
  have hnumber := parseNumber_negative hn hrest
  have hskip : skipSpace ('-' :: decimal n ++ rest) = '-' :: decimal n ++ rest := skipSpace_of_dark (by decide)
  rw [parseValue, hskip]
  exact hnumber

/-- An integer, printed with its sign. -/
def signed (n : Int) : Json := if n < 0 then .negInt n.natAbs else .posInt n.natAbs

theorem denotes_signed (n : Int) : Denotes (print (signed n)) (signed n) := by
  unfold signed
  by_cases hneg : n < 0
  · rw [if_pos hneg]
    exact denotes_negInt (by omega)
  · rw [if_neg hneg]
    exact denotes_posInt _

/-! ## The text of an object -/

/-- An object written member by member, in the order given. -/
def printObject (fields : List (Text × Json)) : Text :=
  '{' :: join [','] (printMembers (fields.map fun field => (field.1, print field.2))) ++ ['}']

theorem denotes_printObject {fields : List (Text × Json)} (h : ∀ field ∈ fields, Denotes (print field.2) field.2) :
    Denotes (printObject fields) (ofFields fields) :=
  denotes_object (List.forall₂_map_left_iff.2 (List.forall₂_same.2 fun field hfield => ⟨rfl, h field hfield⟩))

end Json

end Lib
