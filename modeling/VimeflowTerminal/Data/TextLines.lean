import VimeflowTerminal.Data.TextSlice

/-! A text is cut behind its line feeds. The content of a line is what stands
before its end, which is a line feed alone or behind a carriage return. The
offset of a line is the sum of the lengths before it only where no line ends in
both. -/

namespace TextLines

open TextSlice

/-- The lines of a text, each with its end. -/
def inclusive : List Char → List (List Char)
  | [] => []
  | ch :: rest =>
    if ch = '\n' then [ch] :: inclusive rest
    else
      match inclusive rest with
      | [] => [[ch]]
      | line :: others => (ch :: line) :: others

/-- A line without its end. -/
def content (line : List Char) : List Char :=
  match line.reverse with
  | '\n' :: '\r' :: rest => rest.reverse
  | '\n' :: rest => rest.reverse
  | _ => line

def lines (text : List Char) : List (List Char) := (inclusive text).map content

/-- Some lines of the text in a row, the last one with its end or without. -/
def IsRun (text run : List Char) : Prop :=
  ∃ start count, run = (((inclusive text).drop start).take count).flatten ∨
    ∃ line, (inclusive text)[start + count]? = some line ∧
      run = (((inclusive text).drop start).take count).flatten ++ content line

/-- No line ends in a carriage return and a line feed. -/
def LfEnds (text : List Char) : Prop := ∀ line ∈ inclusive text, ¬ ['\r', '\n'] <:+ line

instance (text : List Char) : Decidable (LfEnds text) :=
  inferInstanceAs (Decidable (∀ line ∈ inclusive text, ¬ ['\r', '\n'] <:+ line))

@[simp] theorem inclusive_nil : inclusive [] = [] := rfl

theorem flatten_inclusive (text : List Char) : (inclusive text).flatten = text := by
  induction text with
  | nil => rfl
  | cons ch rest ih =>
    rw [inclusive]
    split
    · rw [List.flatten_cons, ih]
      rfl
    split
    case h_1 hNone =>
      rw [hNone] at ih
      rw [← ih]
      rfl
    case h_2 line others hSome =>
      rw [hSome, List.flatten_cons] at ih
      rw [List.flatten_cons, List.cons_append, ih]

variable {text line body : List Char}

/-- A line ends at its first line feed; the last one may have none. -/
theorem inclusive_eq_cons {others : List (List Char)} (hLines : inclusive text = line :: others) :
  (∃ body, line = body ++ ['\n'] ∧ '\n' ∉ body) ∨ (others = [] ∧ '\n' ∉ line ∧ line ≠ []) := by
  induction text generalizing line others with
  | nil => cases hLines
  | cons ch rest ih =>
    rw [inclusive] at hLines
    split at hLines
    case isTrue hEnd =>
      obtain ⟨rfl, rfl⟩ := List.cons.inj hLines
      exact Or.inl ⟨[], by rw [hEnd]; rfl, by simp⟩
    case isFalse hOther =>
      have hHere : '\n' ≠ ch := Ne.symm hOther
      split at hLines
      case h_1 hNone =>
        obtain ⟨rfl, rfl⟩ := List.cons.inj hLines
        exact Or.inr ⟨rfl, by simp [hHere], by simp⟩
      case h_2 first others' hSome =>
        obtain ⟨rfl, rfl⟩ := List.cons.inj hLines
        rcases ih hSome with ⟨body, rfl, hBody⟩ | ⟨hLast, hFirst, -⟩
        · exact Or.inl ⟨ch :: body, rfl, by simp [hHere, hBody]⟩
        · exact Or.inr ⟨hLast, by simp [hHere, hFirst], by simp⟩

theorem inclusive_line_append (hBody : '\n' ∉ body) (rest : List Char) :
  inclusive (body ++ '\n' :: rest) = (body ++ ['\n']) :: inclusive rest := by
  induction body with
  | nil => rfl
  | cons ch body ih =>
    rw [List.mem_cons, not_or] at hBody
    rw [List.cons_append, inclusive, if_neg (Ne.symm hBody.1), ih hBody.2]
    rfl

theorem inclusive_last (hLine : '\n' ∉ line) (hSome : line ≠ []) : inclusive line = [line] := by
  induction line with
  | nil => exact absurd rfl hSome
  | cons ch rest ih =>
    rw [List.mem_cons, not_or] at hLine
    rw [inclusive, if_neg (Ne.symm hLine.1)]
    cases rest with
    | nil => rfl
    | cons next rest => rw [ih hLine.2 (by simp)]

theorem inclusive_rest {others : List (List Char)} (hLines : inclusive text = line :: others) :
  inclusive others.flatten = others := by
  have hText := flatten_inclusive text
  rw [hLines, List.flatten_cons] at hText
  rcases inclusive_eq_cons hLines with ⟨body, rfl, hBody⟩ | ⟨rfl, -, -⟩
  · rw [← hText, List.append_assoc, List.singleton_append, inclusive_line_append hBody] at hLines
    exact (List.cons.inj hLines).2
  · rfl

/-- The first lines of a text are the lines of the text they make. -/
theorem inclusive_flatten_take (text : List Char) (count : Nat) :
  inclusive ((inclusive text).take count).flatten = (inclusive text).take count := by
  induction count generalizing text with
  | zero => rfl
  | succ count ih =>
    cases hLines : inclusive text with
    | nil => rfl
    | cons line others =>
      have hRest := ih others.flatten
      rw [inclusive_rest hLines] at hRest
      rw [List.take_succ_cons, List.flatten_cons]
      rcases inclusive_eq_cons hLines with ⟨body, rfl, hBody⟩ | ⟨rfl, hLine, hSome⟩
      · rw [List.append_assoc, List.singleton_append, inclusive_line_append hBody, hRest]
      · rw [List.take_nil, List.flatten_nil, List.append_nil, inclusive_last hLine hSome]

theorem content_of_lf (hLf : ¬ ['\r', '\n'] <:+ body ++ ['\n']) :
  content (body ++ ['\n']) = body := by
  unfold content
  rw [List.reverse_append]
  show (match '\n' :: body.reverse with
    | '\n' :: '\r' :: rest => rest.reverse
    | '\n' :: rest => rest.reverse
    | _ => body ++ ['\n']) = body
  split
  case h_1 rest hEnd =>
    obtain hBody : body.reverse = '\r' :: rest := (List.cons.inj hEnd).2
    refine absurd ⟨rest.reverse, ?_⟩ hLf
    rw [← List.reverse_reverse body, hBody, List.reverse_cons, List.append_assoc]
    rfl
  case h_2 rest _ hEnd =>
    rw [← (List.cons.inj hEnd).2, List.reverse_reverse]
  case h_3 hNone =>
    exact absurd rfl (hNone _)

theorem content_of_no_feed (hLine : '\n' ∉ line) : content line = line := by
  have hReverse : '\n' ∉ line.reverse := fun hMem => hLine (List.mem_reverse.1 hMem)
  unfold content
  split
  case h_1 hEnd => exact absurd (by rw [hEnd]; simp) hReverse
  case h_2 hEnd => exact absurd (by rw [hEnd]; simp) hReverse
  case h_3 => rfl

theorem byteLength_content (hLf : ¬ ['\r', '\n'] <:+ line) (hBody : line = body ++ ['\n']) :
  byteLength (content line) + 1 = byteLength line := by
  subst hBody
  rw [content_of_lf hLf, byteLength_append]
  rfl

/-- Without carriage returns at the ends, the lengths of the lines give their offsets. -/
theorem offset_eq (hText : LfEnds text) (index : Nat) :
  min (((lines text).take index).map fun line => byteLength line + 1).sum (byteLength text) =
    byteLength ((inclusive text).take index).flatten := by
  induction index generalizing text with
  | zero => exact Nat.min_eq_left (Nat.zero_le _)
  | succ index ih =>
    cases hLines : inclusive text with
    | nil =>
      rw [lines, hLines]
      exact Nat.min_eq_left (Nat.zero_le _)
    | cons line others =>
      have hOthers : inclusive others.flatten = others := inclusive_rest hLines
      have hRest := @ih others.flatten fun other hMem =>
        hText other (by rw [hLines]; rw [hOthers] at hMem; exact List.mem_cons_of_mem _ hMem)
      have hWhole : byteLength text = byteLength line + byteLength others.flatten := by
        rw [← byteLength_append, ← List.flatten_cons, ← hLines, flatten_inclusive]
      rw [lines, hOthers] at hRest
      rw [lines, hLines, List.map_cons, List.take_succ_cons, List.map_cons, List.sum_cons,
        List.take_succ_cons, List.flatten_cons, byteLength_append, hWhole, ← hRest]
      rcases inclusive_eq_cons hLines with ⟨body, hBody, -⟩ | ⟨rfl, hNone, -⟩
      · have hLength := byteLength_content (hText line (by rw [hLines]; simp)) hBody
        omega
      · rw [content_of_no_feed hNone]
        simp

end TextLines
