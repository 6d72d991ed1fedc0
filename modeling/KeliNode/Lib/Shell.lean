import KeliNode.Lib.Text

/-!
# Token recognition in the POSIX shell

The shell reads its input character by character (`step`).  Of a word it keeps how each character was given: a
`literal` one was quoted, an `active` one the shell still looks at.  Single and double quotes, the backslash, command
substitution, `$( )` and backquotes, parameters in braces, comments, operators and IO numbers are here; what stands
inside a substitution is kept as it is written, since the shell reads it again.  Here-documents and aliases are not.

Text that is read in pieces is read piece by piece (`Lexes.append`), so a quoted text is one word wherever it stands
(`lexes_singleQuoted`).
-/

namespace Lib.Shell

open Lib

inductive Piece where
  | active (c : Char)
  | literal (c : Char)
  deriving DecidableEq

inductive Token where
  | word (pieces : List Piece)
  | ioNumber (digits : List Piece)
  | operator (text : Text)
  | newline
  deriving DecidableEq

/-- What is open; the innermost comes first. -/
inductive Context where
  | single
  | double
  | command
  | parameter
  | backquote
  | comment
  deriving DecidableEq

inductive Pending where
  | nothing
  | backslash
  | dollar
  | name
  deriving DecidableEq

inductive Building where
  | nothing
  | word (pieces : List Piece)
  | operator (text : Text)
  deriving DecidableEq

structure Lexer where
  contexts : List Context := []
  pending : Pending := .nothing
  building : Building := .nothing
  deriving DecidableEq

def Building.flush : Building → List Token
  | .nothing => []
  | .word pieces => [.word pieces]
  | .operator text => [.operator text]

/-- A word is under way, perhaps an empty one. -/
def Lexer.start (lexer : Lexer) : List Token × Lexer :=
  match lexer.building with
  | .word _ => ([], lexer)
  | building => (building.flush, { lexer with building := .word [] })

def Lexer.push (lexer : Lexer) (piece : Piece) : List Token × Lexer :=
  match lexer.building with
  | .word pieces => ([], { lexer with building := .word (pieces ++ [piece]) })
  | building => (building.flush, { lexer with building := .word [piece] })

def Lexer.enter (lexer : Lexer) (context : Context) : Lexer := { lexer with contexts := context :: lexer.contexts }

def Lexer.leave (lexer : Lexer) : Lexer := { lexer with contexts := lexer.contexts.tail }

def Lexer.await (lexer : Lexer) (pending : Pending) : Lexer := { lexer with pending }

/-- Inside a substitution everything is kept as it is written. -/
def Lexer.nested (lexer : Lexer) : Bool :=
  lexer.contexts.any fun context => context = .command || context = .parameter || context = .backquote

/-- A quote mark. -/
def Lexer.mark (lexer : Lexer) (c : Char) : List Token × Lexer :=
  if lexer.nested then lexer.push (.active c) else lexer.start

/-- A quoted character. -/
def Lexer.quoted (lexer : Lexer) (c : Char) : List Token × Lexer :=
  lexer.push (if lexer.nested then .active c else .literal c)

def isOperatorChar (c : Char) : Bool := c = ';' || c = '&' || c = '|' || c = '<' || c = '>' || c = '(' || c = ')'

def operators : List Text := ["&&", "||", ";;", "<<", ">>", "<&", ">&", "<>", ">|", "<<-"]

def Piece.isDigit : Piece → Bool
  | .active c => c.isDigit
  | .literal _ => false

def Lexer.operate (lexer : Lexer) (c : Char) : List Token × Lexer :=
  match lexer.building with
  | .nothing => ([], { lexer with building := .operator [c] })
  | .word pieces =>
    let token := if (c = '<' || c = '>') && pieces ≠ [] && pieces.all Piece.isDigit then .ioNumber pieces else .word pieces
    ([token], { lexer with building := .operator [c] })
  | .operator text =>
    if operators.contains (text ++ [c]) then ([], { lexer with building := .operator (text ++ [c]) })
    else ([.operator text], { lexer with building := .operator [c] })

/-- What opens the same way in every unquoted place. -/
def Lexer.unquoted (lexer : Lexer) (c : Char) : List Token × Lexer :=
  if c = '\'' then (lexer.mark c).map id (·.enter .single)
  else if c = '"' then (lexer.mark c).map id (·.enter .double)
  else if c = '\\' then ([], lexer.await .backslash)
  else if c = '$' then (lexer.push (.active c)).map id (·.await .dollar)
  else if c = '\x60' then (lexer.push (.active c)).map id (·.enter .backquote)
  else lexer.push (.active c)

def Lexer.newline (lexer : Lexer) : List Token × Lexer :=
  (lexer.building.flush ++ [.newline], { lexer with building := .nothing })

def Building.isWord : Building → Bool
  | .word _ => true
  | _ => false

/-- A character between commands and words. -/
def Lexer.plain (lexer : Lexer) (c : Char) : List Token × Lexer :=
  if c = '\n' then lexer.newline
  else if c = ' ' || c = '\t' then (lexer.building.flush, { lexer with building := .nothing })
  else if c = '#' && !lexer.building.isWord then
    (lexer.building.flush, { lexer with building := .nothing, contexts := .comment :: lexer.contexts })
  else if isOperatorChar c then lexer.operate c
  else lexer.unquoted c

def Lexer.inContext (lexer : Lexer) (c : Char) : List Token × Lexer :=
  match lexer.contexts with
  | [] => lexer.plain c
  | .single :: _ => if c = '\'' then (lexer.leave).mark c else lexer.quoted c
  | .double :: _ =>
    if c = '"' then (lexer.leave).mark c
    else if c = '\'' then lexer.quoted c
    else if c = '\\' || c = '$' || c = '\x60' then lexer.unquoted c
    else lexer.quoted c
  | .command :: _ =>
    if c = ')' then (lexer.push (.active c)).map id (·.leave)
    else if c = '(' then (lexer.push (.active c)).map id (·.enter .command)
    else lexer.unquoted c
  | .parameter :: _ =>
    if c = '}' then (lexer.push (.active c)).map id (·.leave) else lexer.unquoted c
  | .backquote :: _ =>
    if c = '\x60' then (lexer.push (.active c)).map id (·.leave)
    else if c = '\\' then ([], lexer.await .backslash)
    else lexer.push (.active c)
  | .comment :: _ => if c = '\n' then (lexer.leave).newline else ([], lexer)

/-- A character behind a backslash. -/
def Lexer.escaped (lexer : Lexer) (c : Char) : List Token × Lexer :=
  if c = '\n' then ([], lexer)
  else if lexer.nested then
    let first := lexer.push (.active '\\')
    (first.1 ++ (first.2.push (.active c)).1, (first.2.push (.active c)).2)
  else if lexer.contexts.head? = some .double && c ≠ '$' && c ≠ '\x60' && c ≠ '"' && c ≠ '\\' then
    let first := lexer.push (.literal '\\')
    (first.1 ++ (first.2.push (.literal c)).1, (first.2.push (.literal c)).2)
  else lexer.push (.literal c)

def isNameStart (c : Char) : Bool := c.isAlpha || c = '_'

def isNameChar (c : Char) : Bool := c.isAlphanum || c = '_'

def specialParameters : Text := "@*#?-$!"

def Lexer.step (lexer : Lexer) (c : Char) : List Token × Lexer :=
  let ready := lexer.await .nothing
  match lexer.pending with
  | .nothing => lexer.inContext c
  | .backslash => ready.escaped c
  | .dollar =>
    if c = '(' then (ready.push (.active c)).map id (·.enter .command)
    else if c = '{' then (ready.push (.active c)).map id (·.enter .parameter)
    else if isNameStart c then (ready.push (.active c)).map id (·.await .name)
    else if c.isDigit || specialParameters.contains c then ready.push (.active c)
    else ready.inContext c
  | .name => if isNameChar c then lexer.push (.active c) else ready.inContext c

def Lexer.run (lexer : Lexer) : Text → List Token × Lexer
  | [] => ([], lexer)
  | c :: rest =>
    match lexer.step c with
    | (left, next) =>
      match next.run rest with
      | (right, last) => (left ++ right, last)

/-- The end of the input; nothing may be open there. -/
def Lexer.finish (lexer : Lexer) : Option (List Token) :=
  if (lexer.contexts = [] || lexer.contexts = [.comment]) && lexer.pending ≠ .backslash then some lexer.building.flush
  else none

def tokensFrom (lexer : Lexer) (text : Text) : Option (List Token) :=
  (lexer.run text).2.finish.map ((lexer.run text).1 ++ ·)

def tokens (text : Text) : Option (List Token) := tokensFrom {} text

/-! ## Reading in pieces -/

/-- Reading `text` gives `tokens` and leaves the lexer in `after`. -/
def Lexes (before : Lexer) (text : Text) (tokens : List Token) (after : Lexer) : Prop := before.run text = (tokens, after)

section

variable {before middle after : Lexer} {first second text value : Text} {left right : List Token} {pieces : List Piece}
  {c : Char}

theorem run_cons : before.run (c :: text) =
    ((before.step c).1 ++ ((before.step c).2.run text).1, ((before.step c).2.run text).2) := rfl

theorem Lexes.append (h₁ : Lexes before first left middle) (h₂ : Lexes middle second right after) :
    Lexes before (first ++ second) (left ++ right) after := by
  induction first generalizing before left with
  | nil =>
    cases h₁
    exact h₂
  | cons c first ih =>
    rw [Lexes, run_cons] at h₁
    obtain ⟨hleft, hmiddle⟩ := Prod.mk.inj h₁
    have hrest := @ih (before.step c).2 ((before.step c).2.run first).1 (Prod.ext rfl hmiddle)
    rw [Lexes] at hrest ⊢
    rw [List.cons_append, run_cons, hrest, ← hleft, List.append_assoc]

theorem Lexes.nil : Lexes before [] [] before := rfl

theorem Lexes.cons (hstep : before.step c = (left, middle)) (h : Lexes middle second right after) :
    Lexes before (c :: second) (left ++ right) after := by
  rw [Lexes] at h ⊢
  rw [run_cons, hstep, h]

theorem tokensFrom_append (h : Lexes before first left middle) :
    tokensFrom before (first ++ second) = (tokensFrom middle second).map (left ++ ·) := by
  have hrest : Lexes middle second (middle.run second).1 (middle.run second).2 := rfl
  have hall := h.append hrest
  rw [Lexes] at hall
  rw [tokensFrom, hall, tokensFrom, Option.map_map]
  simp only [Function.comp_def, List.append_assoc]

/-- At the top, in a word. -/
def inWord (pieces : List Piece) : Lexer := { building := .word pieces }

/-! ## Quoting -/

/-- The usual quoting: a quote mark of the value closes, stands in double quotes, and opens again. -/
def singleQuoted (value : Text) : Text :=
  '\'' :: value.flatMap (fun c => if c = '\'' then ['\'', '"', '\'', '"', '\''] else [c]) ++ ['\'']

def inSingle (pieces : List Piece) : Lexer := { contexts := [.single], building := .word pieces }

theorem lexes_single_char (c : Char) :
    Lexes (inSingle pieces) (if c = '\'' then ['\'', '"', '\'', '"', '\''] else [c]) [] (inSingle (pieces ++ [.literal c])) := by
  by_cases hc : c = '\''
  · subst hc
    rfl
  · rw [if_neg hc]
    have hstep : (inSingle pieces).step c = ([], inSingle (pieces ++ [.literal c])) := by
      change (if c = '\'' then _ else _) = _
      rw [if_neg hc]
      rfl
    exact Lexes.cons hstep Lexes.nil

theorem lexes_single_body (value : Text) :
    Lexes (inSingle pieces) (value.flatMap fun c => if c = '\'' then ['\'', '"', '\'', '"', '\''] else [c]) []
      (inSingle (pieces ++ value.map .literal)) := by
  induction value generalizing pieces with
  | nil =>
    rw [List.map_nil, List.append_nil]
    exact Lexes.nil
  | cons c value ih =>
    have hrest := @ih (pieces ++ [.literal c])
    rw [List.append_assoc, List.singleton_append, ← List.map_cons] at hrest
    exact (lexes_single_char c).append hrest

/-- **Quoting**: in a word, a quoted value adds its characters, all of them literal. -/
theorem lexes_singleQuoted (value : Text) :
    Lexes (inWord pieces) (singleQuoted value) [] (inWord (pieces ++ value.map .literal)) := by
  have hopen : Lexes (inWord pieces) ['\''] [] (inSingle pieces) := rfl
  have hclose : Lexes (inSingle (pieces ++ value.map .literal)) ['\''] [] (inWord (pieces ++ value.map .literal)) := rfl
  exact (hopen.append (lexes_single_body value)).append hclose

/-- Between words, it is a word. -/
theorem lexes_singleQuoted_start (value : Text) : Lexes {} (singleQuoted value) [] (inWord (value.map .literal)) := by
  have hopen : Lexes {} ['\''] [] (inSingle []) := rfl
  have hclose : Lexes (inSingle (value.map .literal)) ['\''] [] (inWord (value.map .literal)) := rfl
  exact (hopen.append (lexes_single_body value)).append hclose

/-! ## Ordinary text -/

/-- The characters that end a word, or that it does not keep as they are. -/
def specialChars : List Char :=
  ['\'', '"', '\\', '$', '\x60', '\n', ' ', '\t', '#', ';', '&', '|', '<', '>', '(', ')']

def isOrdinary (c : Char) : Bool := !specialChars.contains c

theorem step_ordinary (hc : isOrdinary c = true) {lexer : Lexer} (hcontexts : lexer.contexts = [])
    (hpending : lexer.pending = .nothing) : lexer.step c = lexer.push (.active c) := by
  rw [isOrdinary, Bool.not_eq_true', ← Bool.not_eq_true, List.contains_iff_mem] at hc
  simp only [specialChars, List.mem_cons, List.not_mem_nil, or_false, not_or] at hc
  obtain ⟨hsingle, hdouble, hback, hdollar, hquote, hnewline, hspace, htab, hhash, hoperator⟩ := hc
  simp only [Lexer.step, hpending, Lexer.inContext, hcontexts, Lexer.plain, Lexer.unquoted, isOperatorChar, hsingle,
    hdouble, hback, hdollar, hquote, hnewline, hspace, htab, hhash, hoperator, decide_false, Bool.or_self,
    Bool.false_and, Bool.false_eq_true, if_false]

theorem isOrdinary_of_isNameChar (h : isNameChar c = true) : isOrdinary c = true := by
  have hspecial : (specialChars.all fun d => !isNameChar d) = true := by decide
  rw [isOrdinary, Bool.not_eq_true', ← Bool.not_eq_true, List.contains_iff_mem]
  intro hmem
  have hname := List.all_eq_true.1 hspecial c hmem
  rw [h] at hname
  cases hname

theorem lexes_ordinary (h : ∀ c ∈ text, isOrdinary c = true) :
    Lexes (inWord pieces) text [] (inWord (pieces ++ text.map .active)) := by
  induction text generalizing pieces with
  | nil =>
    rw [List.map_nil, List.append_nil]
    exact Lexes.nil
  | cons c text ih =>
    rw [List.forall_mem_cons] at h
    have hrest := @ih (pieces ++ [.active c]) h.2
    rw [List.append_assoc, List.singleton_append, ← List.map_cons] at hrest
    exact Lexes.cons (step_ordinary h.1 rfl rfl) hrest

theorem lexes_ordinary_start (hne : text ≠ []) (h : ∀ c ∈ text, isOrdinary c = true) :
    Lexes {} text [] (inWord (text.map .active)) := by
  obtain ⟨c, rest, rfl⟩ := List.exists_cons_of_ne_nil hne
  rw [List.forall_mem_cons] at h
  have hrest := @lexes_ordinary rest [.active c] h.2
  exact Lexes.cons (step_ordinary h.1 rfl rfl) hrest

/-- Between an operator and a word. -/
def inOperator (text : Text) : Lexer := { building := .operator text }

theorem lexes_ordinary_operator {operator : Text} (hne : text ≠ []) (h : ∀ c ∈ text, isOrdinary c = true) :
    Lexes (inOperator operator) text [.operator operator] (inWord (text.map .active)) := by
  obtain ⟨c, rest, rfl⟩ := List.exists_cons_of_ne_nil hne
  rw [List.forall_mem_cons] at h
  have hrest := @lexes_ordinary rest [.active c] h.2
  exact Lexes.cons (step_ordinary h.1 rfl rfl) hrest

theorem lexes_newline : Lexes (inWord pieces) ['\n'] [.word pieces, .newline] {} := rfl

theorem lexes_space : Lexes (inWord pieces) [' '] [.word pieces] {} := rfl

theorem tokens_of_lexes (h : Lexes {} text left after) (hfinish : after.finish = some right) :
    tokens text = some (left ++ right) := by
  rw [Lexes] at h
  rw [tokens, tokensFrom, h, hfinish, Option.map_some]

/-! ## What a word stands for -/

/-- Tilde, parameter, command and pathname expansion start at one of these. -/
def isExpansion (c : Char) : Bool := c = '$' || c = '\x60' || c = '*' || c = '?' || c = '[' || c = '~'

/-- The text of a word in which nothing is expanded. -/
def literalValue : List Piece → Option Text
  | [] => some []
  | .literal c :: rest => (literalValue rest).map (c :: ·)
  | .active c :: rest => if isExpansion c then none else (literalValue rest).map (c :: ·)

theorem literalValue_literal (value : Text) : literalValue (value.map .literal) = some value := by
  induction value with
  | nil => rfl
  | cons c value ih => rw [List.map_cons, literalValue, ih, Option.map_some]

theorem literalValue_active (h : ∀ c ∈ text, isExpansion c = false) : literalValue (text.map .active) = some text := by
  induction text with
  | nil => rfl
  | cons c text ih =>
    rw [List.forall_mem_cons] at h
    rw [List.map_cons, literalValue, h.1, ih h.2, Option.map_some, if_neg Bool.false_ne_true]

def Token.wordValue : Token → Option Text
  | .word pieces => literalValue pieces
  | _ => none

/-- The words of a text of words only. -/
def words (text : Text) : Option (List Text) := (tokens text).bind (·.mapM Token.wordValue)

theorem words_singleQuoted (value : Text) : words (singleQuoted value) = some [value] := by
  have htokens : tokens (singleQuoted value) = some [.word (value.map .literal)] :=
    tokens_of_lexes (lexes_singleQuoted_start value) rfl
  rw [words, htokens, Option.bind_some, List.mapM_cons, Token.wordValue, literalValue_literal]
  rfl

/-! ## Assignments -/

def isName (name : Text) : Bool :=
  match name with
  | [] => false
  | c :: rest => isNameStart c && rest.all isNameChar

def Piece.isNamePiece : Piece → Bool
  | .active c => isNameChar c
  | .literal _ => false

def Piece.char : Piece → Char
  | .active c => c
  | .literal c => c

/-- A variable and its value, of a word that assigns one literally. -/
def Token.assignment : Token → Option (Text × Text)
  | .word pieces =>
    let name := (pieces.takeWhile Piece.isNamePiece).map Piece.char
    match pieces.dropWhile Piece.isNamePiece with
    | .active '=' :: rest => if isName name then (literalValue rest).map (name, ·) else none
    | _ => none
  | _ => none

def assignmentPieces (name value : Text) : List Piece := name.map .active ++ .active '=' :: value.map .literal

theorem isNameChar_of_isName {name : Text} (h : isName name = true) : ∀ c ∈ name, isNameChar c = true := by
  cases name with
  | nil => simp
  | cons first rest =>
    rw [isName, Bool.and_eq_true, List.all_eq_true] at h
    rw [List.forall_mem_cons]
    refine ⟨?_, h.2⟩
    have hfirst := h.1
    rw [isNameStart, Bool.or_eq_true] at hfirst
    rw [isNameChar, Bool.or_eq_true, Char.isAlphanum, Bool.or_eq_true]
    exact hfirst.imp_left .inl

theorem assignment_of_pieces {name : Text} (h : isName name = true) (value : Text) :
    (Token.word (assignmentPieces name value)).assignment = some (name, value) := by
  have hall : ∀ piece ∈ name.map Piece.active, piece.isNamePiece = true := by
    intro piece hpiece
    obtain ⟨c, hc, rfl⟩ := List.mem_map.1 hpiece
    exact isNameChar_of_isName h c hc
  have hstop : Piece.isNamePiece (.active '=') = false := by decide
  have htake : (assignmentPieces name value).takeWhile Piece.isNamePiece = name.map .active := by
    rw [assignmentPieces, List.takeWhile_append_of_pos hall, List.takeWhile_cons_of_neg (by rw [hstop]; decide),
      List.append_nil]
  have hdrop : (assignmentPieces name value).dropWhile Piece.isNamePiece = .active '=' :: value.map .literal := by
    rw [assignmentPieces, List.dropWhile_append_of_pos hall, List.dropWhile_cons_of_neg (by rw [hstop]; decide)]
  have hname : (name.map Piece.active).map Piece.char = name := by
    rw [List.map_map]
    exact List.map_id name
  simp only [Token.assignment, htake, hdrop, hname, h, if_true, literalValue_literal, Option.map_some]

/-- An assignment of a quoted value. -/
theorem lexes_assignment {name : Text} (hname : isName name = true) (value : Text) :
    Lexes {} (name ++ '=' :: singleQuoted value) [] (inWord (assignmentPieces name value)) := by
  have hne : name ≠ [] := by
    rintro rfl
    cases hname
  have hordinary : ∀ c ∈ name, isOrdinary c = true := fun c hc => isOrdinary_of_isNameChar (isNameChar_of_isName hname c hc)
  have hequals : Lexes (inWord (name.map .active)) ['='] [] (inWord (name.map .active ++ [.active '='])) := rfl
  have hall := (lexes_ordinary_start hne hordinary).append (hequals.append (lexes_singleQuoted value))
  rw [assignmentPieces]
  rwa [List.append_assoc] at hall

end

end Lib.Shell
