import VimeflowTerminal.App.PendingResumes
import VimeflowTerminal.Data.ShellWords

/-! What a shell makes of the line that is typed into it for an argument vector. -/

namespace App

open AgentResume ShellWords

/-- What `shell_quote` writes for a string, as a word of the shell. -/
def quotedWord (value : String) : Word :=
  if !value.isEmpty && value.toList.all isPlainByte then
    ⟨value.toList, value.toList.map fun ch => (ch, false)⟩
  else ⟨singleQuoted value.toList, value.toList.map fun ch => (ch, true)⟩

/-- The law behind the membership tests below. -/
local instance lawfulTexts : LawfulBEq (List Char) := inferInstance

/-- The shell takes a string that is written as it is for something else than a command. -/
def isShellPrefix (value : String) : Bool :=
  value.toList.all isPlainByte &&
    (decide (value.toList ∈ reservedWords) || isAssignment value.toList)

theorem flatMap_quote (text : List Char) :
  (text.map fun c => if c = '\'' then "'\\''" else c.toString).flatMap String.toList =
    quotedBody text := by
  rw [List.flatMap_map, quotedBody]
  apply List.flatMap_congr
  intro ch _
  split
  next => rfl
  next => exact String.toList_singleton ch

theorem shellQuote_toList (value : String) : (shellQuote value).toList = (quotedWord value).raw := by
  rw [shellQuote, quotedWord]
  cases hEmpty : value.isEmpty with
  | true =>
    obtain rfl := String.isEmpty_iff.1 hEmpty
    rfl
  | false =>
    cases hPlain : value.toList.all isPlainByte with
    | true => rfl
    | false =>
      simp only [Bool.false_eq_true, if_false, Bool.not_false, Bool.and_false]
      rw [String.toList_append, String.toList_append, String.toList_join, flatMap_quote]
      rfl

/-- The characters with a meaning to the shell. -/
def specialChars : List Char :=
  ['\\', '\'', '"', '#', '&', '|', ';', '<', '>', '(', ')', '\n', ' ', '\t', '$', '`', '*', '?',
    '[', '~']

theorem specialChars_not_plain : specialChars.all (fun ch => !isPlainByte ch) = true := by
  decide +kernel

theorem isOrdinary_of_plain {ch : Char} (hPlain : isPlainByte ch = true) :
  isOrdinary ch = true ∧ isActive ch = false ∧ ch ≠ '~' := by
  have hNe : ∀ special ∈ specialChars, ch ≠ special := by
    rintro special hMem rfl
    have hNot := List.all_eq_true.1 specialChars_not_plain _ hMem
    rw [hPlain] at hNot
    cases hNot
  simp only [specialChars, List.forall_mem_cons] at hNe
  simp [isOrdinary, isOperator, isBlank, isActive, hNe]

theorem written_quotedWord (value : String) : (quotedWord value).Written := by
  rw [quotedWord]
  split
  next hPlain =>
    have hAll := (Bool.and_eq_true_iff.1 hPlain).2
    rw [List.all_eq_true] at hAll
    exact written_ordinary fun ch hMem => (isOrdinary_of_plain (hAll ch hMem)).1
  next => exact written_singleQuoted value.toList

theorem raw_quotedWord_ne_nil (value : String) : (quotedWord value).raw ≠ [] := by
  rw [quotedWord]
  split
  next hPlain =>
    intro hNil
    have hNotEmpty := (Bool.and_eq_true_iff.1 hPlain).1
    rw [String.toList_eq_nil_iff.1 hNil] at hNotEmpty
    cases hNotEmpty
  next => exact List.cons_ne_nil _ _

theorem text_quotedWord (value : String) : (quotedWord value).text = value.toList := by
  rw [quotedWord]
  split <;> simp [Word.text, Function.comp_def]

theorem isLiteral_quotedWord (value : String) : (quotedWord value).isLiteral = true := by
  apply Word.isLiteral_of_forall
  intro ch hMem
  rw [quotedWord] at hMem
  split at hMem
  next hPlain =>
    have hAll := (Bool.and_eq_true_iff.1 hPlain).2
    rw [List.all_eq_true] at hAll
    obtain ⟨other, hOther, hSame⟩ := List.mem_map.1 hMem
    obtain rfl := (Prod.mk.inj hSame).1
    exact (isOrdinary_of_plain (hAll other hOther)).2
  next =>
    obtain ⟨other, -, hSame⟩ := List.mem_map.1 hMem
    cases (Prod.mk.inj hSame).2

/-- Only a string that is written as it is can be read as something else. -/
theorem isShellPrefix_eq (value : String) :
  isShellPrefix value = (decide ((quotedWord value).raw ∈ reservedWords) ||
    isAssignment (quotedWord value).raw) := by
  have hQuoted : ∀ text, (decide (singleQuoted text ∈ reservedWords) ||
      isAssignment (singleQuoted text)) = false := by
    intro text
    have hReserved : ∀ word ∈ reservedWords, word.head? ≠ some '\'' := by decide
    have hNot : singleQuoted text ∉ reservedWords := fun hMem => hReserved _ hMem rfl
    have hName : isAssignment (singleQuoted text) = false := by
      simp [isAssignment, singleQuoted, isNameStart]
    rw [hName, decide_eq_false hNot]
    rfl
  rw [isShellPrefix, quotedWord]
  cases hPlain : value.toList.all isPlainByte with
  | false =>
    rw [Bool.false_and, Bool.and_false]
    exact (hQuoted value.toList).symm
  | true =>
    cases hEmpty : value.isEmpty with
    | true =>
      obtain rfl := String.isEmpty_iff.1 hEmpty
      decide
    | false => rfl

theorem simpleCommand_quotedWords (first : String) (rest : List String) :
  simpleCommand ([' '].intercalate (((first :: rest).map quotedWord).map Word.raw)) =
    some ⟨[], (first :: rest).map String.toList⟩ ↔ isShellPrefix first = false := by
  have hTokens := @tokens_intercalate ((first :: rest).map quotedWord)
    (List.forall_mem_map.2 fun value _ => written_quotedWord value)
    (List.forall_mem_map.2 fun value _ => raw_quotedWord_ne_nil value)
  have hLiteral : ((first :: rest).map quotedWord).all Word.isLiteral = true := by
    rw [List.all_eq_true]
    exact List.forall_mem_map.2 fun value _ => isLiteral_quotedWord value
  have hTexts : ((first :: rest).map quotedWord).map Word.text =
      (first :: rest).map String.toList := by
    rw [List.map_map]
    exact List.map_congr_left fun value _ => text_quotedWord value
  rw [simpleCommand, hTokens, Option.bind_some, wordsOf_map, isShellPrefix_eq]
  change (if (quotedWord first).raw ∈ reservedWords then none
    else if ((first :: rest).map quotedWord).all Word.isLiteral then _ else none) = _ ↔ _
  by_cases hReserved : (quotedWord first).raw ∈ reservedWords
  · rw [if_pos hReserved, decide_eq_true hReserved]
    constructor <;> intro hAbsurd <;> cases hAbsurd
  rw [if_neg hReserved, if_pos hLiteral, decide_eq_false hReserved, Bool.false_or, ← hTexts,
    List.map_cons]
  cases hName : isAssignment (quotedWord first).raw with
  | true =>
    rw [@List.takeWhile_cons_of_pos _ Word.assigns _ _ hName]
    constructor <;> intro hAbsurd <;> cases hAbsurd
  | false =>
    have hNot : ¬ isAssignment (quotedWord first).raw = true := by
      rw [hName]
      exact Bool.false_ne_true
    rw [@List.takeWhile_cons_of_neg _ Word.assigns _ _ hNot,
      @List.dropWhile_cons_of_neg _ Word.assigns _ _ hNot]
    exact iff_of_true rfl rfl

theorem shellCommandFromArgv_toList {first : String} {rest : List String} :
  ∃ line, shellCommandFromArgv (first :: rest) = some line ∧
    line.toList = [' '].intercalate (((first :: rest).map quotedWord).map Word.raw) := by
  refine ⟨_, rfl, ?_⟩
  rw [String.toList_intercalate, List.map_map, List.map_map]
  have hEach : (first :: rest).map (String.toList ∘ shellQuote) =
      (first :: rest).map (Word.raw ∘ quotedWord) :=
    List.map_congr_left fun value _ => shellQuote_toList value
  rw [hEach]
  rfl

/-- A shell reads back the arguments, each as one word of one simple command that expands nothing,
just when the first is not taken for a reserved word or an assignment. -/
theorem shellCommandFromArgv_words_iff (first : String) (rest : List String) :
  ∃ line, shellCommandFromArgv (first :: rest) = some line ∧
    (simpleCommand line.toList = some ⟨[], (first :: rest).map String.toList⟩ ↔
      isShellPrefix first = false) := by
  obtain ⟨line, hLine, hList⟩ := @shellCommandFromArgv_toList first rest
  refine ⟨line, hLine, ?_⟩
  rw [hList]
  exact simpleCommand_quotedWords first rest

/-- An argument with `=` that comes first is written as it is, and so is an assignment. -/
theorem not_shellCommandFromArgv_words : ¬ ∀ (first : String) (rest : List String),
  ∃ line, shellCommandFromArgv (first :: rest) = some line ∧
    simpleCommand line.toList = some ⟨[], (first :: rest).map String.toList⟩ := by
  intro hAll
  obtain ⟨line, hLine, hWords⟩ := hAll "PATH=." ["claude"]
  cases hLine
  revert hWords
  decide

end App
