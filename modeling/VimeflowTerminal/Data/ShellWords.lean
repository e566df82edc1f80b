import Mathlib.Data.List.Basic

/-! How a POSIX shell takes a line apart: into words and operators, with quoting by backslashes,
single quotes and double quotes, and into the assignments and words of a simple command. A line
whose words would be expanded in any way has no result here. -/

namespace ShellWords

/-- A word as it is written, and what it stands for: its characters without the quoting, each
with whether it was quoted. -/
structure Word where
  raw : List Char
  value : List (Char × Bool)
  deriving DecidableEq

inductive Token where
  | word (word : Word)
  | operator (ch : Char)
  deriving DecidableEq

/-- The quoting that is in force. -/
inductive Quoting where
  | bare
  | escaped
  | single
  | double
  | doubleEscaped
  | comment
  deriving DecidableEq

def Word.empty : Word := ⟨[], []⟩

/-- Add a character of the line, which stands for itself. -/
def Word.push (word : Word) (ch : Char) (quoted : Bool) : Word where
  raw := word.raw ++ [ch]
  value := word.value ++ [(ch, quoted)]

/-- Add characters of the line that stand for nothing themselves. -/
def Word.mark (word : Word) (marks : List Char) : Word :=
  { word with raw := word.raw ++ marks }

/-- A word that has been begun is a token. -/
def Word.delimit (word : Word) (rest : List Token) : List Token :=
  if word.raw.isEmpty then rest else .word word :: rest

def isOperator (ch : Char) : Bool := ch ∈ ['&', '|', ';', '<', '>', '(', ')', '\n']

def isBlank (ch : Char) : Bool := ch = ' ' || ch = '\t'

/-- What a backslash quotes within double quotes. -/
def isDoubleQuotable (ch : Char) : Bool := ch ∈ ['$', '`', '"', '\\']

/-- What keeps its meaning within double quotes. -/
def isDoubleActive (ch : Char) : Bool := ch = '$' || ch = '`'

/-- The tokens of a line from within a word on. Without a closing quote there are none. -/
def tokensFrom : Quoting → Word → List Char → Option (List Token)
  | .bare, word, [] => some (word.delimit [])
  | .comment, _, [] => some []
  | _, _, [] => none
  | .bare, word, ch :: rest =>
    if ch = '\\' then tokensFrom .escaped word rest
    else if ch = '\'' then tokensFrom .single (word.mark [ch]) rest
    else if ch = '"' then tokensFrom .double (word.mark [ch]) rest
    else if isOperator ch then
      (tokensFrom .bare .empty rest).map fun tokens => word.delimit (.operator ch :: tokens)
    else if isBlank ch then (tokensFrom .bare .empty rest).map word.delimit
    else if ch = '#' && word.raw.isEmpty then tokensFrom .comment word rest
    else tokensFrom .bare (word.push ch false) rest
  | .escaped, word, ch :: rest =>
    -- an escaped newline continues the line
    if ch = '\n' then tokensFrom .bare word rest
    else tokensFrom .bare ((word.mark ['\\']).push ch true) rest
  | .single, word, ch :: rest =>
    if ch = '\'' then tokensFrom .bare (word.mark [ch]) rest
    else tokensFrom .single (word.push ch true) rest
  | .double, word, ch :: rest =>
    if ch = '"' then tokensFrom .bare (word.mark [ch]) rest
    else if ch = '\\' then tokensFrom .doubleEscaped word rest
    else tokensFrom .double (word.push ch (!isDoubleActive ch)) rest
  | .doubleEscaped, word, ch :: rest =>
    if ch = '\n' then tokensFrom .double word rest
    else if isDoubleQuotable ch then tokensFrom .double ((word.mark ['\\']).push ch true) rest
    else tokensFrom .double ((word.push '\\' true).push ch true) rest
  | .comment, word, ch :: rest =>
    if ch = '\n' then (tokensFrom .bare word rest).map (List.cons (.operator ch))
    else tokensFrom .comment word rest

def tokens (line : List Char) : Option (List Token) := tokensFrom .bare .empty line

/-- What begins an expansion or a pattern where it is not quoted. -/
def isActive (ch : Char) : Bool := ch ∈ ['$', '`', '*', '?', '[']

def Word.text (word : Word) : List Char := word.value.map Prod.fst

/-- The words that mean something else as the first word of a command. -/
def reservedWords : List (List Char) :=
  ["!", "\x7b", "\x7d", "case", "do", "done", "elif", "else", "esac", "fi", "for", "function", "if",
    "in", "select", "then", "time", "until", "while", "[[", "]]"].map String.toList

def isNameStart (ch : Char) : Bool := ch.isAlpha || ch = '_'

def isNameChar (ch : Char) : Bool := ch.isAlphanum || ch = '_'

/-- A name and `=` at the beginning of what is written. -/
def isAssignment (raw : List Char) : Bool :=
  raw.head?.any isNameStart && (raw.dropWhile isNameChar).head? == some '='

def Word.assigns (word : Word) : Bool := isAssignment word.raw

/-- The word stands for what it says: nothing in it is expanded, and no tilde is a home
directory. -/
def Word.isLiteral (word : Word) : Bool :=
  word.value.all (fun (ch, quoted) => quoted || !isActive ch) &&
    word.value.head? != some ('~', false) &&
    !(word.assigns && ('~', false) ∈ word.value)

structure SimpleCommand where
  assignments : List (List Char)
  words : List (List Char)
  deriving DecidableEq

/-- The words of a list of tokens without operators. -/
def wordsOf : List Token → Option (List Word)
  | [] => some []
  | .word word :: rest => (wordsOf rest).map (List.cons word)
  | .operator _ :: _ => none

/-- The assignments and words of a line that is one simple command, has no redirection, and is not
expanded. -/
def simpleCommand (line : List Char) : Option SimpleCommand := do
  let words ← (tokens line).bind wordsOf
  let first ← words.head?
  if first.raw ∈ reservedWords then none
  else if words.all Word.isLiteral then
    some
      { assignments := (words.takeWhile Word.assigns).map Word.text
        words := (words.dropWhile Word.assigns).map Word.text }
  else none

/-- A word is literal if what might be expanded in it is quoted. -/
theorem Word.isLiteral_of_forall {word : Word}
  (hEach : ∀ ch, (ch, false) ∈ word.value → isActive ch = false ∧ ch ≠ '~') :
  word.isLiteral = true := by
  have hTilde : ('~', false) ∉ word.value := fun hMem => (hEach '~' hMem).2 rfl
  have hHead : word.value.head? ≠ some ('~', false) := fun hSome =>
    hTilde (List.mem_of_mem_head? hSome)
  have hActive : word.value.all (fun (ch, quoted) => quoted || !isActive ch) = true := by
    rw [List.all_eq_true]
    rintro ⟨ch, quoted⟩ hMem
    cases quoted with
    | true => rfl
    | false => simp [(hEach ch hMem).1]
  simp [isLiteral, hActive, hHead, hTilde]

/-- A character without a meaning of its own outside of quotes. -/
def isOrdinary (ch : Char) : Bool :=
  !(ch ∈ ['\\', '\'', '"', '#']) && !isOperator ch && !isBlank ch

/-- Read behind any other text, the word goes on with this one. -/
def Word.Written (word : Word) : Prop :=
  ∀ before rest, tokensFrom .bare before (word.raw ++ rest) =
    tokensFrom .bare ⟨before.raw ++ word.raw, before.value ++ word.value⟩ rest

theorem written_empty : Word.empty.Written := by
  intro before rest
  rw [Word.empty, List.nil_append, List.append_nil, List.append_nil]

theorem tokensFrom_ordinary {ch : Char} (hOrdinary : isOrdinary ch = true) (word : Word)
  (rest : List Char) :
  tokensFrom .bare word (ch :: rest) = tokensFrom .bare (word.push ch false) rest := by
  simp only [isOrdinary, Bool.and_eq_true, Bool.not_eq_true', decide_eq_false_iff_not,
    List.mem_cons, List.not_mem_nil, or_false, not_or] at hOrdinary
  obtain ⟨⟨⟨hBackslash, hSingle, hDouble, hComment⟩, hOperator⟩, hBlank⟩ := hOrdinary
  rw [tokensFrom, if_neg hBackslash, if_neg hSingle, if_neg hDouble, hOperator, hBlank]
  simp [hComment]

theorem written_ordinary {text : List Char} (hOrdinary : ∀ ch ∈ text, isOrdinary ch = true) :
  Word.Written ⟨text, text.map fun ch => (ch, false)⟩ := by
  induction text with
  | nil => exact written_empty
  | cons ch text ih =>
    have hRest := ih fun later hMem => hOrdinary later (List.mem_cons_of_mem _ hMem)
    intro before rest
    rw [List.cons_append, tokensFrom_ordinary (hOrdinary ch List.mem_cons_self), hRest]
    simp [Word.push]

/-- A text within single quotes, with its quotes escaped outside of them. -/
def quotedBody (text : List Char) : List Char :=
  text.flatMap fun ch => if ch = '\'' then ['\'', '\\', '\'', '\''] else [ch]

def singleQuoted (text : List Char) : List Char := '\'' :: (quotedBody text ++ ['\''])

theorem tokensFrom_quotedBody (word : Word) (text rest : List Char) :
  tokensFrom .single word (quotedBody text ++ rest) =
    tokensFrom .single
      ⟨word.raw ++ quotedBody text, word.value ++ text.map fun ch => (ch, true)⟩ rest := by
  induction text generalizing word with
  | nil => simp [quotedBody]
  | cons ch text ih =>
    by_cases hQuote : ch = '\''
    · subst hQuote
      have hStep : tokensFrom .single word ('\'' :: '\\' :: '\'' :: '\'' ::
          (quotedBody text ++ rest)) =
        tokensFrom .single
          ⟨word.raw ++ ['\'', '\\', '\'', '\''], word.value ++ [('\'', true)]⟩
          (quotedBody text ++ rest) := by
        simp [tokensFrom, Word.push, Word.mark]
      have hBody : quotedBody ('\'' :: text) =
          '\'' :: '\\' :: '\'' :: '\'' :: quotedBody text := rfl
      rw [hBody, List.cons_append, List.cons_append, List.cons_append, List.cons_append, hStep, ih]
      simp
    · have hBody : quotedBody (ch :: text) = ch :: quotedBody text := by
        rw [quotedBody, List.flatMap_cons, if_neg hQuote]
        rfl
      rw [hBody, List.cons_append, tokensFrom, if_neg hQuote, ih]
      simp [Word.push]

theorem written_singleQuoted (text : List Char) :
  Word.Written ⟨singleQuoted text, text.map fun ch => (ch, true)⟩ := by
  intro before rest
  have hOpen : tokensFrom .bare before (singleQuoted text ++ rest) =
      tokensFrom .single (before.mark ['\'']) (quotedBody text ++ ('\'' :: rest)) := by
    rw [singleQuoted, List.cons_append, tokensFrom, if_neg (by decide), if_pos rfl]
    simp
  rw [hOpen, tokensFrom_quotedBody, tokensFrom, if_pos rfl]
  simp [Word.mark, singleQuoted]

/-- Words that are written with blanks between them are the tokens of the line. -/
theorem tokens_intercalate {words : List Word} (hWritten : ∀ word ∈ words, word.Written)
  (hRaw : ∀ word ∈ words, word.raw ≠ []) :
  tokens ([' '].intercalate (words.map Word.raw)) = some (words.map .word) := by
  unfold tokens
  induction words with
  | nil => rfl
  | cons word words ih =>
    have hWord := hWritten word List.mem_cons_self
    have hNotEmpty : word.raw.isEmpty = false :=
      List.isEmpty_eq_false_iff.2 (hRaw word List.mem_cons_self)
    have hRest := ih (fun later hMem => hWritten later (List.mem_cons_of_mem _ hMem))
      fun later hMem => hRaw later (List.mem_cons_of_mem _ hMem)
    cases words with
    | nil =>
      have hAlone := hWord .empty []
      rw [List.append_nil] at hAlone
      rw [List.map_singleton, List.intercalate_singleton, hAlone]
      simp [tokensFrom, Word.delimit, Word.empty, hNotEmpty]
    | cons second later =>
      rw [List.map_cons, List.map_cons, List.intercalate_cons_cons, ← List.map_cons,
        List.append_assoc, hWord]
      have hBlank : ∀ rest, tokensFrom .bare word ([' '] ++ rest) =
          (tokensFrom .bare .empty rest).map word.delimit := by
        intro rest
        rw [List.singleton_append, tokensFrom]
        rfl
      have hSame : (⟨Word.empty.raw ++ word.raw, Word.empty.value ++ word.value⟩ : Word) =
          word := rfl
      rw [hSame, hBlank, hRest, Option.map_some, Word.delimit, hNotEmpty]
      rfl

theorem wordsOf_map (words : List Word) : wordsOf (words.map .word) = some words := by
  induction words with
  | nil => rfl
  | cons word words ih =>
    rw [List.map_cons, wordsOf, ih]
    rfl

end ShellWords
