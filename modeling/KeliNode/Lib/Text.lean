import Mathlib.Algebra.Ring.Nat
import Mathlib.Data.List.TakeWhile
import Mathlib.Data.List.Basic
import Mathlib.Tactic.Tauto

/-!
# Text as lists of characters

The string operations the models need, over `List Char`: white-space trimming, decimal printing and
parsing, joining and splitting.  Printing a number and parsing it back is the identity
(`parseUnsigned_decimal`), and joining separator-free parts is injective (`join_inj`).
-/

namespace Lib

/-- A string, as the list of its Unicode scalar values. -/
abbrev Text := List Char

instance : LawfulBEq Text := inferInstance

instance : Coe String Text := ⟨String.toList⟩

/-! ## White space -/

/-- Unicode's `White_Space` property. -/
def isWhite (c : Char) : Bool :=
  let n := c.toNat
  (9 ≤ n && n ≤ 13) || n == 0x20 || n == 0x85 || n == 0xA0 || n == 0x1680 ||
  (0x2000 ≤ n && n ≤ 0x200A) || n == 0x2028 || n == 0x2029 || n == 0x202F || n == 0x205F ||
  n == 0x3000

def trimStartMatches (p : Char → Bool) (s : Text) : Text := s.dropWhile p

def trimEndMatches (p : Char → Bool) (s : Text) : Text := (s.reverse.dropWhile p).reverse

def trimMatches (p : Char → Bool) (s : Text) : Text := trimEndMatches p (trimStartMatches p s)

def trim (s : Text) : Text := trimEndMatches isWhite (trimStartMatches isWhite s)

section

variable {p : Char → Bool} {s : Text}

theorem trimStartMatches_eq_self (hhead : ∀ c, s.head? = some c → p c = false) : trimStartMatches p s = s := by
  cases s with
  | nil => rfl
  | cons c s => rw [trimStartMatches, List.dropWhile_cons, if_neg (by rw [hhead c rfl]; simp)]

theorem trimEndMatches_eq_self (hlast : ∀ c, s.getLast? = some c → p c = false) : trimEndMatches p s = s := by
  have hrev : trimStartMatches p s.reverse = s.reverse := by
    apply trimStartMatches_eq_self
    rwa [List.head?_reverse]
  rw [trimEndMatches, ← trimStartMatches, hrev, List.reverse_reverse]

/-- Text whose first and last characters are dark is not trimmed. -/
theorem trim_eq_self (hhead : ∀ c, s.head? = some c → isWhite c = false)
    (hlast : ∀ c, s.getLast? = some c → isWhite c = false) : trim s = s := by
  rw [trim, trimStartMatches_eq_self hhead, trimEndMatches_eq_self hlast]

theorem head?_trimStartMatches {c : Char} (h : (trimStartMatches p s).head? = some c) : p c = false := by
  have hdark := List.head?_dropWhile_not p s
  rw [← trimStartMatches, h] at hdark
  exact hdark

theorem getLast?_trimEndMatches {c : Char} (h : (trimEndMatches p s).getLast? = some c) : p c = false := by
  rw [trimEndMatches, List.getLast?_reverse] at h
  exact head?_trimStartMatches h

variable (p s)

/-- What is left of a text once its end is trimmed is a front of it. -/
theorem trimEndMatches_isPrefix : trimEndMatches p s <+: s := by
  have h := List.reverse_prefix.2 (List.dropWhile_suffix (l := s.reverse) p)
  rwa [List.reverse_reverse] at h

theorem trimEndMatches_idem : trimEndMatches p (trimEndMatches p s) = trimEndMatches p s :=
  trimEndMatches_eq_self fun _ => getLast?_trimEndMatches

end

theorem mem_of_mem_trimEndMatches {p : Char → Bool} {c : Char} {s : Text} (h : c ∈ trimEndMatches p s) : c ∈ s :=
  (trimEndMatches_isPrefix p s).mem h

theorem mem_of_mem_trimMatches {p : Char → Bool} {c : Char} {s : Text} (h : c ∈ trimMatches p s) : c ∈ s :=
  (List.dropWhile_suffix p).mem (mem_of_mem_trimEndMatches h)

theorem mem_of_mem_trim {c : Char} {s : Text} (h : c ∈ trim s) : c ∈ s := mem_of_mem_trimMatches h

/-- Trimming an end stops at the last character that stays. -/
theorem trimEndMatches_append_cons {p : Char → Bool} {c : Char} (hc : p c = false) (s t : Text) :
    trimEndMatches p (s ++ c :: t) = s ++ c :: trimEndMatches p t := by
  rw [trimEndMatches, trimEndMatches, List.reverse_append, List.reverse_cons, List.append_assoc]
  have hdrop : ∀ r : Text, (r ++ ([c] ++ s.reverse)).dropWhile p = r.dropWhile p ++ ([c] ++ s.reverse) := by
    intro r
    induction r with
    | nil => simp [hc]
    | cons d r ih =>
      rw [List.cons_append, List.dropWhile_cons, List.dropWhile_cons, ih]
      split <;> rfl
  rw [hdrop]
  simp

/-- A front of a text starts as the text does. -/
theorem head?_of_isPrefix {s t : Text} {c : Char} (h : s <+: t) (hc : s.head? = some c) : t.head? = some c := by
  obtain ⟨rest, rfl⟩ := h
  rw [List.head?_append, hc]
  rfl

theorem head?_trimMatches {p : Char → Bool} {s : Text} {c : Char} (h : (trimMatches p s).head? = some c) : p c = false :=
  head?_trimStartMatches (head?_of_isPrefix (trimEndMatches_isPrefix p _) h)

theorem getLast?_trimMatches {p : Char → Bool} {s : Text} {c : Char} (h : (trimMatches p s).getLast? = some c) :
    p c = false :=
  getLast?_trimEndMatches h

theorem trimMatches_idem (p : Char → Bool) (s : Text) : trimMatches p (trimMatches p s) = trimMatches p s := by
  have hstart : trimStartMatches p (trimMatches p s) = trimMatches p s :=
    trimStartMatches_eq_self fun _ => head?_trimMatches
  rw [trimMatches, hstart]
  exact trimEndMatches_eq_self fun _ => getLast?_trimMatches

theorem trim_eq_nil_iff {s : Text} : trim s = [] ↔ ∀ c ∈ s, isWhite c = true := by
  rw [trim, trimEndMatches, trimStartMatches, List.reverse_eq_nil_iff, List.dropWhile_eq_nil_iff]
  simp only [List.mem_reverse]
  constructor
  · intro h
    cases hs : s.dropWhile isWhite with
    | nil => exact List.dropWhile_eq_nil_iff.1 hs
    | cons c rest =>
      have hdark := head?_trimStartMatches (p := isWhite) (s := s) (c := c) (by rw [trimStartMatches, hs]; rfl)
      rw [h c (by rw [hs]; exact List.mem_cons_self)] at hdark
      cases hdark
  · intro h c hc
    exact h c ((List.dropWhile_suffix isWhite).mem hc)

theorem trim_trim (s : Text) : trim (trim s) = trim s := trimMatches_idem isWhite s

/-! ## Words -/

/-- Characters that a shell-like listing prints without escaping them. -/
def isPlain (c : Char) : Bool :=
  c ≠ '"' && c ≠ '\'' && c ≠ '\\' && c ≠ '\n' && c ≠ '\r' && c.toNat ≠ 0

/-- A non-empty text of plain characters and no white space. -/
def isWord (s : Text) : Bool := !s.isEmpty && s.all fun c => isPlain c && !isWhite c

theorem isWord_iff {s : Text} : isWord s = true ↔ s ≠ [] ∧ ∀ c ∈ s, isPlain c = true ∧ isWhite c = false := by
  simp [isWord]

theorem isWord_append {s t : Text} (hs : isWord s = true) (ht : isWord t = true) : isWord (s ++ t) = true := by
  rw [isWord_iff] at hs ht ⊢
  refine ⟨by simp [hs.1], fun c hc => ?_⟩
  rcases List.mem_append.1 hc with hc | hc
  · exact hs.2 c hc
  · exact ht.2 c hc

theorem not_mem_of_isPlain {s : Text} {c : Char} (hs : ∀ d ∈ s, isPlain d = true) (hc : isPlain c = false) :
    c ∉ s := by
  intro h
  rw [hs c h] at hc
  cases hc

/-! ## Case -/

def asciiUpper (s : Text) : Text := s.map Char.toUpper

def asciiLower (s : Text) : Text := s.map Char.toLower

/-- `str::eq_ignore_ascii_case`. -/
def eqIgnoreCase (s t : Text) : Bool := asciiLower s = asciiLower t

/-! ## Decimal numbers -/

def decimal (n : Nat) : Text := Nat.toDigits 10 n

/-- Parse an unsigned decimal number below `bound`: an optional `+`, then at least one ASCII digit. -/
def parseUnsigned (bound : Nat) (s : Text) : Option Nat :=
  let ds := if s.head? = some '+' then s.tail else s
  if ds ≠ [] ∧ ds.all Char.isDigit = true ∧ Nat.ofDigitChars 10 ds 0 < bound then
    some (Nat.ofDigitChars 10 ds 0)
  else
    none

theorem isDigit_of_mem_decimal {n : Nat} {c : Char} (h : c ∈ decimal n) : c.isDigit = true :=
  Nat.isDigit_of_mem_toDigits (by omega) (by omega) h

theorem decimal_ne_nil (n : Nat) : decimal n ≠ [] := Nat.toDigits_ne_nil

theorem not_mem_decimal {c : Char} (hc : c.isDigit = false) (n : Nat) : c ∉ decimal n := by
  intro h
  rw [isDigit_of_mem_decimal h] at hc
  cases hc

theorem isDigit_plain {c : Char} (h : c.isDigit = true) : isPlain c = true ∧ isWhite c = false := by
  have hle : 48 ≤ c.toNat ∧ c.toNat ≤ 57 := by
    simpa [Char.isDigit, UInt32.le_iff_toNat_le] using h
  have hne : ∀ d : Char, (d.toNat < 48 ∨ 57 < d.toNat) → c ≠ d := by
    rintro d hd rfl
    omega
  refine ⟨?_, ?_⟩
  · simp only [isPlain, Bool.and_eq_true, decide_eq_true_eq]
    refine ⟨⟨⟨⟨⟨hne _ ?_, hne _ ?_⟩, hne _ ?_⟩, hne _ ?_⟩, hne _ ?_⟩, by omega⟩ <;> decide
  · simp only [isWhite, Bool.or_eq_false_iff, Bool.and_eq_false_iff, decide_eq_false_iff_not, beq_eq_false_iff_ne]
    omega

theorem isWord_decimal (n : Nat) : isWord (decimal n) = true :=
  isWord_iff.2 ⟨decimal_ne_nil n, fun _ hc => isDigit_plain (isDigit_of_mem_decimal hc)⟩

/-- **Round trip**: a number below the bound is read back from its decimal text. -/
theorem parseUnsigned_decimal {bound n : Nat} (h : n < bound) :
    parseUnsigned bound (decimal n) = some n := by
  have hval : Nat.ofDigitChars 10 (decimal n) 0 = n := Nat.ofDigitChars_ten_toDigits
  have hhead : (decimal n).head? ≠ some '+' := by
    intro hh
    exact not_mem_decimal (by decide) n (List.mem_of_mem_head? hh)
  have hall : (decimal n).all Char.isDigit = true :=
    List.all_eq_true.2 fun _ hc => isDigit_of_mem_decimal hc
  simp only [parseUnsigned, hhead, if_false, hval]
  rw [if_pos ⟨decimal_ne_nil n, hall, h⟩]

theorem decimal_inj {m n : Nat} (h : decimal m = decimal n) : m = n := by
  have hm : Nat.ofDigitChars 10 (decimal m) 0 = m := Nat.ofDigitChars_ten_toDigits
  have hn : Nat.ofDigitChars 10 (decimal n) 0 = n := Nat.ofDigitChars_ten_toDigits
  rw [← hm, ← hn, h]

/-! ## Joining and splitting -/

def join (sep : Text) (parts : List Text) : Text := sep.intercalate parts

def splitOn (sep : Char) (s : Text) : List Text := List.splitOn sep s

theorem not_mem_takeWhile_ne (sep : Char) (s : Text) : sep ∉ s.takeWhile (· ≠ sep) := by
  intro h
  simpa using List.mem_takeWhile_imp h

theorem head?_dropWhile_ne {sep c : Char} {s : Text} (h : (s.dropWhile (· ≠ sep)).head? = some c) : c = sep := by
  have hhead := List.head?_dropWhile_not (· ≠ sep) s
  rw [h] at hhead
  simpa using hhead

/-- A part has no separator, and its characters are the text's. -/
theorem part_of_mem_splitOn {sep : Char} {text s : Text} (hs : s ∈ splitOn sep text) : sep ∉ s ∧ s ⊆ text := by
  induction text generalizing s with
  | nil =>
    rw [splitOn, List.splitOn_nil, List.mem_singleton] at hs
    exact ⟨hs ▸ List.not_mem_nil, hs ▸ List.Subset.refl _⟩
  | cons c text ih =>
    rw [splitOn, List.splitOn_cons_eq_if_modifyHead] at hs
    by_cases hc : c = sep
    · rw [if_pos (by simp [hc]), List.mem_cons] at hs
      rcases hs with rfl | hs
      · exact ⟨List.not_mem_nil, List.nil_subset _⟩
      · exact ⟨(ih hs).1, List.subset_cons_of_subset _ (ih hs).2⟩
    · rw [if_neg (by simp [hc])] at hs
      cases hsplit : List.splitOn sep text with
      | nil => exact absurd hsplit (List.splitOn_ne_nil _ _)
      | cons first rest =>
        rw [hsplit, List.modifyHead_cons, List.mem_cons] at hs
        rcases hs with rfl | hs
        · have hfirst := ih (s := first) (by rw [splitOn, hsplit]; exact List.mem_cons_self)
          refine ⟨?_, List.cons_subset_cons _ hfirst.2⟩
          simp [hfirst.1, Ne.symm hc]
        · have hrest := ih (s := s) (by rw [splitOn, hsplit]; exact List.mem_cons_of_mem _ hs)
          exact ⟨hrest.1, List.subset_cons_of_subset _ hrest.2⟩

/-- Splitting undoes joining when no part holds the separator. -/
theorem splitOn_join (sep : Char) (parts : List Text) (hne : parts ≠ [])
    (hfree : ∀ part ∈ parts, sep ∉ part) : splitOn sep (join [sep] parts) = parts :=
  List.splitOn_intercalate sep hfree hne

theorem join_inj {sep : Char} {xs ys : List Text} (hx : xs ≠ []) (hy : ys ≠ [])
    (hxs : ∀ x ∈ xs, sep ∉ x) (hys : ∀ y ∈ ys, sep ∉ y) (h : join [sep] xs = join [sep] ys) :
    xs = ys := by
  rw [← splitOn_join sep xs hx hxs, ← splitOn_join sep ys hy hys, h]

theorem not_mem_join {c : Char} {sep : Text} (hsep : c ∉ sep) : ∀ (parts : List Text),
    (∀ part ∈ parts, c ∉ part) → c ∉ join sep parts
  | [], _ => by simp [join]
  | [part], h => by simpa [join] using h part List.mem_cons_self
  | part :: next :: parts, h => by
    have ih := not_mem_join hsep (next :: parts) fun p hp => h p (List.mem_cons_of_mem _ hp)
    have hpart := h part List.mem_cons_self
    simp only [join, List.intercalate_cons_cons, List.mem_append] at ih ⊢
    tauto

/-- A joined text ends as its last part does. -/
theorem getLast?_join (sep : Text) {P : Char → Prop} : ∀ (parts : List Text), parts ≠ [] →
    (∀ part ∈ parts, ∃ c, part.getLast? = some c ∧ P c) → ∃ c, (join sep parts).getLast? = some c ∧ P c
  | [], hne, _ => absurd rfl hne
  | [part], _, h => by simpa [join] using h part List.mem_cons_self
  | part :: next :: parts, _, h => by
    obtain ⟨c, hc, hp⟩ := getLast?_join sep (next :: parts) (by simp) fun p hp =>
      h p (List.mem_cons_of_mem _ hp)
    refine ⟨c, ?_, hp⟩
    simp only [join, List.intercalate_cons_cons] at hc ⊢
    rw [List.getLast?_append, hc]
    rfl

theorem isWord_join {sep : Text} (hsep : isWord sep = true) : ∀ (parts : List Text), parts ≠ [] →
    (∀ part ∈ parts, isWord part = true) → isWord (join sep parts) = true
  | [], hne, _ => absurd rfl hne
  | [part], _, h => by simpa [join] using h part List.mem_cons_self
  | part :: next :: parts, _, h => by
    have ih := isWord_join hsep (next :: parts) (by simp) fun p hp => h p (List.mem_cons_of_mem _ hp)
    simp only [join, List.intercalate_cons_cons] at ih ⊢
    exact isWord_append (isWord_append (h part List.mem_cons_self) hsep) ih

/-- A separator-free head and the tail after the first separator are both determined by the text. -/
theorem append_cons_inj {sep : Char} : ∀ {a b x y : Text}, sep ∉ a → sep ∉ b →
    a ++ sep :: x = b ++ sep :: y → a = b ∧ x = y
  | [], [], _, _, _, _, h => ⟨rfl, by simpa using h⟩
  | [], c :: b, _, _, _, hb, h => by
    simp only [List.nil_append, List.cons_append, List.cons.injEq] at h
    exact absurd (h.1 ▸ List.mem_cons_self) hb
  | c :: a, [], _, _, ha, _, h => by
    simp only [List.nil_append, List.cons_append, List.cons.injEq] at h
    exact absurd (h.1 ▸ List.mem_cons_self) ha
  | c :: a, d :: b, _, _, ha, hb, h => by
    simp only [List.cons_append, List.cons.injEq] at h
    obtain ⟨hab, hxy⟩ := append_cons_inj (fun hm => ha (List.mem_cons_of_mem _ hm))
      (fun hm => hb (List.mem_cons_of_mem _ hm)) h.2
    exact ⟨by rw [h.1, hab], hxy⟩

end Lib
