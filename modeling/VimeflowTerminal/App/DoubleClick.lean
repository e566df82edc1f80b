import VimeflowTerminal.App.TextCells
import VimeflowTerminal.Data.Mealy

/-! What a double click selects contains the column of the click, and the address
that a click opens is the one a double click selects. -/

namespace App

open Mealy TextSlice

variable {width : Char → Nat} {row : List Char} {cells : List TextCell} {col clickedIdx : Nat}

/-- The column behind a character. -/
def colBehind (width : Char → Nat) (nextCol : Nat) (ch : Char) : Nat :=
  if 0 < width ch then saturatingAdd16 nextCol (width ch) else nextCol

/-- The column behind some characters of a line. -/
def colAfter (width : Char → Nat) (nextCol : Nat) (line : List Char) : Nat :=
  line.foldl (colBehind width) nextCol

theorem getElem?_textCellsFrom (nextCol i : Nat) :
  (textCellsFrom width nextCol row)[i]? = row[i]?.map fun ch =>
    let before := colAfter width nextCol (row.take i)
    ⟨ch, if width ch = 0 then before - 1 else before, colBehind width before ch - 1⟩ := by
  induction row generalizing nextCol i with
  | nil => rfl
  | cons ch rest ih =>
    cases i with
    | zero => rfl
    | succ i => exact ih (colBehind width nextCol ch) i

theorem getElem?_textCells (i : Nat) :
  (textCells width row)[i]? = row[i]?.map fun ch =>
    let before := colAfter width 0 (row.take i)
    ⟨ch, if width ch = 0 then before - 1 else before, colBehind width before ch - 1⟩ :=
  getElem?_textCellsFrom 0 i

theorem length_textCells : (textCells width row).length = row.length := by
  unfold textCells
  generalize 0 = nextCol
  induction row generalizing nextCol with
  | nil => rfl
  | cons ch rest ih => exact congrArg Nat.succ (ih (colBehind width nextCol ch))

theorem map_ch_textCells : (textCells width row).map TextCell.ch = row := by
  unfold textCells
  generalize 0 = nextCol
  induction row generalizing nextCol with
  | nil => rfl
  | cons ch rest ih => exact congrArg (List.cons ch) (ih (colBehind width nextCol ch))

theorem colAfter_append (nextCol : Nat) (first second : List Char) :
  colAfter width nextCol (first ++ second) =
    colAfter width (colAfter width nextCol first) second :=
  List.foldl_append

theorem colAfter_take_succ {i : Nat} {ch : Char} (hAt : row[i]? = some ch) :
  colAfter width 0 (row.take (i + 1)) = colBehind width (colAfter width 0 (row.take i)) ch := by
  rw [List.take_add_one, hAt, colAfter_append]
  rfl

theorem colAfter_le (line : List Char) : colAfter width 0 line ≤ 65535 := by
  induction line using List.reverseRecOn with
  | nil => exact Nat.zero_le _
  | append_singleton line ch ih =>
    rw [colAfter_append]
    show colBehind width _ ch ≤ _
    rw [colBehind]
    split
    · exact Nat.min_le_right _ _
    · exact ih

theorem le_colBehind {nextCol : Nat} (hCol : nextCol ≤ 65535) (ch : Char) :
  nextCol ≤ colBehind width nextCol ch := by
  unfold colBehind saturatingAdd16
  split
  · omega
  · exact Nat.le_refl _

theorem colAfter_take_mono {i j : Nat} (hLe : i ≤ j) :
  colAfter width 0 (row.take i) ≤ colAfter width 0 (row.take j) := by
  induction hLe with
  | refl => exact Nat.le_refl _
  | @step j hLe ih =>
    refine Nat.le_trans ih ?_
    cases hAt : row[j]? with
    | none =>
      have hLength := List.getElem?_eq_none_iff.1 hAt
      refine Nat.le_of_eq (congrArg (colAfter width 0) ?_)
      rw [List.take_of_length_le hLength, List.take_of_length_le (Nat.le_succ_of_le hLength)]
    | some ch =>
      rw [colAfter_take_succ hAt]
      exact le_colBehind (colAfter_le _) ch

/-- The cells before a column leave no gap. -/
theorem covered_of_lt {i c : Nat} (hLength : i ≤ row.length)
  (hCol : c < colAfter width 0 (row.take i)) :
  ∃ j < i, ∃ cell, (textCells width row)[j]? = some cell ∧ cell.startCol ≤ c ∧
    c ≤ cell.endCol := by
  induction i with
  | zero => cases hCol
  | succ i ih =>
    by_cases hBefore : c < colAfter width 0 (row.take i)
    · obtain ⟨j, hj, hCell⟩ := ih (Nat.le_of_succ_le hLength) hBefore
      exact ⟨j, Nat.lt_succ_of_lt hj, hCell⟩
    obtain ⟨ch, hAt⟩ : ∃ ch, row[i]? = some ch := ⟨_, List.getElem?_eq_getElem hLength⟩
    rw [colAfter_take_succ hAt] at hCol
    have hSome : width ch ≠ 0 := by
      intro hNone
      rw [colBehind, if_neg (by omega)] at hCol
      exact hBefore hCol
    refine ⟨i, Nat.lt_succ_self i, _, by rw [getElem?_textCells, hAt]; rfl, ?_, ?_⟩
    · dsimp only
      rw [if_neg hSome]
      exact Nat.not_lt.1 hBefore
    · exact Nat.le_sub_one_of_lt hCol

/-- The clicked cell is the first that reaches the column. -/
theorem clicked_spec (hClicked : cellIndexAtColumn (textCells width row) col = some clickedIdx) :
  clickedIdx < row.length ∧ colAfter width 0 (row.take clickedIdx) ≤ col ∧
    ∃ cell, (textCells width row)[clickedIdx]? = some cell ∧ col ≤ cell.endCol := by
  obtain ⟨hLt, hAt, hFirst⟩ := List.findIdx?_eq_some_iff_getElem.1 hClicked
  rw [Bool.and_eq_true, decide_eq_true_eq, decide_eq_true_eq] at hAt
  have hLength : clickedIdx < row.length := by rwa [length_textCells] at hLt
  refine ⟨hLength, ?_, _, List.getElem?_eq_getElem hLt, hAt.2⟩
  by_contra hBefore
  obtain ⟨j, hj, cell, hCell, hStart, hEnd⟩ :=
    covered_of_lt (Nat.le_of_lt hLength) (Nat.not_le.1 hBefore)
  obtain ⟨hJ, hGet⟩ := List.getElem?_eq_some_iff.1 hCell
  refine hFirst j hj ?_
  rw [hGet, Bool.and_eq_true, decide_eq_true_eq, decide_eq_true_eq]
  exact ⟨hStart, hEnd⟩

variable {span : CellSpan} {start last : Nat}

/-- A span around the clicked cell has columns around the clicked one. -/
theorem columns_of_contains
  (hClicked : cellIndexAtColumn (textCells width row) col = some clickedIdx)
  (hContains : span.contains clickedIdx) (hEnd : span.end < (textCells width row).length) :
  ∃ bounds, span.columns (textCells width row) = some bounds ∧
    bounds.1 ≤ col ∧ col ≤ bounds.2 := by
  obtain ⟨hLength, hBefore, clicked, hCell, hCol⟩ := clicked_spec hClicked
  rw [CellSpan.contains, Bool.and_eq_true, decide_eq_true_eq, decide_eq_true_eq] at hContains
  rw [length_textCells] at hEnd
  obtain ⟨first, hFirst⟩ : ∃ first, row[span.start]? = some first :=
    ⟨_, List.getElem?_eq_getElem (by omega)⟩
  obtain ⟨last, hLast⟩ : ∃ last, row[span.end]? = some last :=
    ⟨_, List.getElem?_eq_getElem hEnd⟩
  obtain ⟨ch, hCh⟩ : ∃ ch, row[clickedIdx]? = some ch := ⟨_, List.getElem?_eq_getElem hLength⟩
  rw [getElem?_textCells, hCh] at hCell
  cases hCell
  have hStart := @colAfter_take_mono width row _ _ hContains.1
  have hStop := @colAfter_take_mono width row _ _ (Nat.succ_le_succ hContains.2)
  rw [colAfter_take_succ hCh, colAfter_take_succ hLast] at hStop
  refine ⟨_, by rw [CellSpan.columns, getElem?_textCells, hFirst, getElem?_textCells, hLast]; rfl,
    ?_, ?_⟩
  · dsimp only
    split
    · omega
    · omega
  · dsimp only at hCol ⊢
    omega

/-- A span of cells around the clicked one. -/
def CellSpan.Around (cells : List TextCell) (clickedIdx : Nat) (span : CellSpan) : Prop :=
  span.contains clickedIdx ∧ span.end < cells.length

theorem urlEnd_lt (hStart : start < cells.length) : urlEnd cells start < cells.length := by
  fun_induction urlEnd cells start with
  | case1 last hNext => exact hStart
  | case2 last cell hNext hBlank => exact hStart
  | case3 last cell hNext hBlank ih => exact ih (List.getElem?_eq_some_iff.1 hNext).1

theorem trimUrlEnd_spec (hTrim : trimUrlEnd cells start last = some span) :
  span.start = start ∧ start ≤ span.end ∧ span.end ≤ last := by
  induction last with
  | zero =>
    rw [trimUrlEnd] at hTrim
    split at hTrim
    · cases hTrim
    split at hTrim
    case isTrue hLe =>
      cases hTrim
      exact ⟨rfl, hLe, Nat.le_refl _⟩
    case isFalse => cases hTrim
  | succ last ih =>
    rw [trimUrlEnd] at hTrim
    split at hTrim
    · obtain ⟨hStart, hLe, hEnd⟩ := ih hTrim
      exact ⟨hStart, hLe, Nat.le_succ_of_le hEnd⟩
    split at hTrim
    case isTrue hLe =>
      cases hTrim
      exact ⟨rfl, hLe, Nat.le_refl _⟩
    case isFalse => cases hTrim

theorem le_start_of_mem_urlSpansFrom (hMem : span ∈ urlSpansFrom cells start) :
  start ≤ span.start := by
  fun_induction urlSpansFrom cells start with
  | case1 start hLt hUrl ih =>
    rcases List.mem_append.1 hMem with hHere | hLater
    · exact Nat.le_of_eq (trimUrlEnd_spec (Option.mem_toList.1 hHere)).1.symm
    have hLe := le_urlEnd cells start
    have hStart := ih hLater
    omega
  | case2 start hLt hUrl ih => exact Nat.le_of_succ_le (ih hMem)
  | case3 start hEnd => cases hMem

/-- The addresses of a line and the one around a cell are found alike. -/
theorem find?_urlSpansFrom (start : Nat) :
  (urlSpansFrom cells start).find? (fun span => span.contains clickedIdx) =
    urlSpanAtColumnFrom cells clickedIdx start := by
  fun_induction urlSpanAtColumnFrom cells clickedIdx start with
  | case1 start hLt hUrl hInside =>
    have hLater : (urlSpansFrom cells (urlEnd cells start + 1)).find?
        (fun span => span.contains clickedIdx) = none := by
      rw [List.find?_eq_none]
      intro span hMem
      have hStart := le_start_of_mem_urlSpansFrom hMem
      simp only [CellSpan.contains, Bool.and_eq_true, decide_eq_true_eq, not_and]
      omega
    rw [urlSpansFrom, if_pos hLt, if_pos hUrl, List.find?_append, hLater, Option.or_none]
    cases trimUrlEdges cells ⟨start, urlEnd cells start⟩ with
    | none => rfl
    | some span => simp [Option.filter]
  | case2 start hLt hUrl hOutside ih =>
    have hHere : (trimUrlEdges cells ⟨start, urlEnd cells start⟩).toList.find?
        (fun span => span.contains clickedIdx) = none := by
      rw [List.find?_eq_none]
      intro span hMem
      obtain ⟨hStart, -, hEnd⟩ := trimUrlEnd_spec (Option.mem_toList.1 hMem)
      simp only [CellSpan.contains, Bool.and_eq_true, decide_eq_true_eq, not_and]
      dsimp only at hStart hEnd
      omega
    rw [urlSpansFrom, if_pos hLt, if_pos hUrl, List.find?_append, hHere, Option.none_or, ih]
  | case3 start hLt hUrl ih => rw [urlSpansFrom, if_pos hLt, if_neg hUrl, ih]
  | case4 start hEnd =>
    rw [urlSpansFrom, if_neg hEnd]
    rfl

theorem around_of_urlSpanFrom (hSpan : urlSpanAtColumnFrom cells clickedIdx start = some span) :
  span.Around cells clickedIdx ∧ startsUrl cells span.start = true ∧
    trimUrlEdges cells ⟨span.start, urlEnd cells span.start⟩ = some span := by
  fun_induction urlSpanAtColumnFrom cells clickedIdx start with
  | case1 start hLt hUrl hInside =>
    obtain ⟨hTrim, hContains⟩ := Option.filter_eq_some_iff.1 hSpan
    obtain ⟨hStart, -, hEnd⟩ := trimUrlEnd_spec hTrim
    rw [hStart]
    exact ⟨⟨hContains, Nat.lt_of_le_of_lt hEnd (urlEnd_lt hLt)⟩, hUrl, hTrim⟩
  | case2 start hLt hUrl hOutside ih => exact ih hSpan
  | case3 start hLt hUrl ih => exact ih hSpan
  | case4 start hEnd => cases hSpan

theorem around_of_quotedSpanFrom {quote : Char} {opening : Option Nat}
  {entries : List (TextCell × Nat)} (hEntries : ∀ entry ∈ entries, entry.2 < cells.length)
  (hSpan : quotedSpanFrom cells clickedIdx quote opening entries = some span) :
  span.Around cells clickedIdx := by
  induction entries generalizing opening with
  | nil => cases hSpan
  | cons entry rest ih =>
    obtain ⟨cell, idx⟩ := entry
    have hRest := fun opening' => @ih opening' fun other hMem =>
      hEntries other (List.mem_cons_of_mem _ hMem)
    have hIdx : idx < cells.length := hEntries (cell, idx) List.mem_cons_self
    rw [quotedSpanFrom.eq_def] at hSpan
    dsimp only at hSpan
    split at hSpan
    · exact hRest _ hSpan
    split at hSpan
    · exact hRest _ hSpan
    split at hSpan
    case isTrue hInside =>
      cases hSpan
      obtain ⟨hOpen, hClose, -⟩ := hInside
      refine ⟨?_, ?_⟩
      · simp only [CellSpan.contains, Bool.and_eq_true, decide_eq_true_eq]
        omega
      · dsimp only
        omega
    case isFalse => exact hRest _ hSpan

theorem tokenEnd_lt (hStart : start < cells.length) : tokenEnd cells start < cells.length := by
  fun_induction tokenEnd cells start with
  | case1 last hNext => exact hStart
  | case2 last cell hNext hBlank => exact hStart
  | case3 last cell hNext hBlank ih => exact ih (List.getElem?_eq_some_iff.1 hNext).1

theorem skipTrailing_le (hSkip : skipTrailing cells start last = some span) : span.end ≤ last := by
  induction last with
  | zero =>
    rw [skipTrailing] at hSkip
    split at hSkip
    · cases hSkip
    split at hSkip
    · cases hSkip
      exact Nat.le_refl _
    · cases hSkip
  | succ last ih =>
    rw [skipTrailing] at hSkip
    split at hSkip
    · exact Nat.le_succ_of_le (ih hSkip)
    split at hSkip
    · cases hSkip
      exact Nat.le_refl _
    · cases hSkip

theorem trimTokenEdges_le {trimmed : CellSpan} (hTrim : trimTokenEdges cells span = some trimmed) :
  trimmed.end ≤ span.end := by
  refine Nat.le_trans (skipTrailing_le hTrim) ?_
  split
  · exact Nat.sub_le _ _
  · exact Nat.le_refl _

/-- Whatever is selected is around the clicked cell. -/
theorem around_of_wordSpan (hSpan : wordSpan cells clickedIdx = some span) :
  span.Around cells clickedIdx := by
  rcases Option.or_eq_some_iff.1 hSpan with hUrl | ⟨-, hOther⟩
  · exact (around_of_urlSpanFrom hUrl).1
  rcases Option.or_eq_some_iff.1 hOther with hQuoted | ⟨-, hToken⟩
  · obtain ⟨clicked, -, hQuotes⟩ := Option.bind_eq_some_iff.1 hQuoted
    split at hQuotes
    · cases hQuotes
    obtain ⟨quote, -, hFound⟩ := List.exists_of_findSome?_eq_some hQuotes
    refine around_of_quotedSpanFrom (fun entry hMem => ?_) hFound
    exact List.snd_lt_of_mem_zipIdx hMem
  · obtain ⟨clicked, hAt, hTrimmed⟩ := Option.bind_eq_some_iff.1 hToken
    split at hTrimmed
    · cases hTrimmed
    obtain ⟨hTrim, hContains⟩ := Option.filter_eq_some_iff.1 hTrimmed
    refine ⟨hContains, Nat.lt_of_le_of_lt (trimTokenEdges_le hTrim) ?_⟩
    exact tokenEnd_lt (List.getElem?_eq_some_iff.1 hAt).1

/-- The characters of a span. -/
def CellSpan.chars (span : CellSpan) (row : List Char) : List Char :=
  (row.take (span.end + 1)).drop span.start

/-- A slash is never trimmed off an address. -/
theorem trimUrlEnd_keeps {slash : Nat} (hLe : slash ≤ last)
  (hSlash : (cells[slash]?).map TextCell.ch = some '/')
  (hTrim : trimUrlEnd cells start last = some span) : slash ≤ span.end := by
  have hKept : shouldTrimTrailingUrlCell cells start slash = false := by
    rw [shouldTrimTrailingUrlCell, hSlash]
    rfl
  induction last with
  | zero => exact Nat.le_trans hLe (Nat.zero_le _)
  | succ last ih =>
    rw [trimUrlEnd] at hTrim
    split at hTrim
    case isTrue hMore =>
      by_cases hEq : slash = last + 1
      · subst hEq
        rw [hKept, Bool.and_false] at hMore
        cases hMore
      · exact ih (by omega) hTrim
    case isFalse =>
      split at hTrim
      · cases hTrim
        exact hLe
      · cases hTrim

theorem trimUrlEnd_isSome {slash : Nat} (hStart : start ≤ slash) (hLe : slash ≤ last)
  (hSlash : (cells[slash]?).map TextCell.ch = some '/') :
  ∃ span, trimUrlEnd cells start last = some span := by
  have hKept : shouldTrimTrailingUrlCell cells start slash = false := by
    rw [shouldTrimTrailingUrlCell, hSlash]
    rfl
  induction last with
  | zero =>
    obtain rfl : slash = 0 := by omega
    rw [trimUrlEnd, hKept, Bool.and_false, if_neg (by decide), if_pos hStart]
    exact ⟨_, rfl⟩
  | succ last ih =>
    rw [trimUrlEnd]
    split
    case isTrue hMore =>
      refine ih ?_
      by_contra hEnd
      obtain rfl : slash = last + 1 := by omega
      rw [hKept, Bool.and_false] at hMore
      cases hMore
    case isFalse =>
      rw [if_pos (by omega)]
      exact ⟨_, rfl⟩

theorem getElem?_of_startsWithChars {expected : List Char}
  (hStarts : startsWithChars cells start expected = true) {k : Nat} {ch : Char}
  (hAt : expected[k]? = some ch) : (cells[start + k]?).map TextCell.ch = some ch := by
  have hHere := List.all_eq_true.1 hStarts (ch, k) (List.mk_mem_zipIdx_iff_getElem?.2 hAt)
  obtain ⟨cell, hCell, hCh⟩ := (Option.any_eq_true _ _).1 hHere
  rw [hCell, Option.map_some, of_decide_eq_true hCh]

/-- The scan of an address goes on to its first blank. -/
theorem le_urlEnd_of_no_blank {stop : Nat}
  (hNoBlank : ∀ k, start < k → k ≤ stop → ∃ cell, cells[k]? = some cell ∧
    Detect.isWhitespace cell.ch = false) : stop ≤ urlEnd cells start ∨ stop < start := by
  fun_induction urlEnd cells start with
  | case1 last hNext =>
    by_contra hBeyond
    obtain ⟨cell, hCell, -⟩ := hNoBlank (last + 1) (Nat.lt_succ_self _) (by omega)
    rw [hNext] at hCell
    cases hCell
  | case2 last cell hNext hBlank =>
    by_contra hBeyond
    obtain ⟨other, hCell, hSome⟩ := hNoBlank (last + 1) (Nat.lt_succ_self _) (by omega)
    rw [hNext] at hCell
    cases hCell
    rw [hBlank] at hSome
    cases hSome
  | case3 last cell hNext hBlank ih =>
    have hLe := le_urlEnd cells (last + 1)
    have hRest := ih fun k hLt hStop => hNoBlank k (by omega) hStop
    omega

/-- An address is long enough for its scheme, and trimmed behind it. -/
theorem scheme_kept (scheme : List Char)
  (hStarts : startsWithChars cells start (scheme ++ ['/']) = true)
  (hNoBlank : (scheme ++ ['/']).all (fun ch => !Detect.isWhitespace ch) = true) :
  ∃ span, trimUrlEdges cells ⟨start, urlEnd cells start⟩ = some span ∧
    start + scheme.length ≤ span.end := by
  have hSlash : (cells[start + scheme.length]?).map TextCell.ch = some '/' :=
    getElem?_of_startsWithChars hStarts (by rw [List.getElem?_concat_length])
  have hLe : start + scheme.length ≤ urlEnd cells start := by
    have hScheme : ∀ k, start < k → k ≤ start + scheme.length → ∃ cell, cells[k]? = some cell ∧
        Detect.isWhitespace cell.ch = false := by
      intro k hLt hStop
      have hLength : k - start < (scheme ++ ['/']).length := by
        rw [List.length_append, List.length_singleton]
        omega
      obtain ⟨ch, hAt⟩ : ∃ ch, (scheme ++ ['/'])[k - start]? = some ch :=
        ⟨_, List.getElem?_eq_getElem hLength⟩
      have hCell := getElem?_of_startsWithChars hStarts hAt
      rw [Nat.add_sub_cancel' (Nat.le_of_lt hLt)] at hCell
      obtain ⟨cell, hCell, hCh⟩ := Option.map_eq_some_iff.1 hCell
      have hBlank := List.all_eq_true.1 hNoBlank ch (List.mem_of_getElem? hAt)
      exact ⟨cell, hCell, hCh ▸ by simpa using hBlank⟩
    have hReach := le_urlEnd_of_no_blank hScheme
    omega
  obtain ⟨span, hTrim⟩ := trimUrlEnd_isSome (Nat.le_add_right _ _) hLe hSlash
  exact ⟨span, hTrim, trimUrlEnd_keeps hLe hSlash hTrim⟩

theorem scheme_prefix_chars {scheme : List Char}
  (hStarts : startsWithChars (textCells width row) span.start scheme = true)
  (hLong : span.start + scheme.length ≤ span.end + 1) :
  scheme.isPrefixOf (span.chars row) = true := by
  refine List.isPrefixOf_iff_prefix.2 (List.prefix_iff_eq_take.2 ?_)
  refine List.ext_getElem? fun k => ?_
  by_cases hLt : k < scheme.length
  · obtain ⟨ch, hAt⟩ : ∃ ch, scheme[k]? = some ch := ⟨_, List.getElem?_eq_getElem hLt⟩
    have hCell := getElem?_of_startsWithChars hStarts hAt
    rw [← List.getElem?_map, map_ch_textCells] at hCell
    rw [hAt, List.getElem?_take_of_lt hLt, CellSpan.chars, List.getElem?_drop,
      List.getElem?_take_of_lt (by omega), hCell]
  · rw [List.getElem?_eq_none (Nat.not_lt.1 hLt), List.getElem?_take_eq_none (Nat.not_lt.1 hLt)]

/-- The text of an address around a cell is a web address. -/
theorem safeWebUrl_chars
  (hSpan : urlSpanAtColumnFrom (textCells width row) clickedIdx start = some span) :
  safeWebUrl (span.chars row) = some (span.chars row) := by
  obtain ⟨-, hUrl, hTrim⟩ := around_of_urlSpanFrom hSpan
  refine if_pos ?_
  rcases Bool.or_eq_true_iff.1 hUrl with hStarts | hStarts
  · obtain ⟨kept, hKept, hLong⟩ := scheme_kept "http:/".toList hStarts (by decide)
    rw [hTrim] at hKept
    cases hKept
    rw [scheme_prefix_chars hStarts (Nat.succ_le_succ hLong), Bool.true_or]
  · obtain ⟨kept, hKept, hLong⟩ := scheme_kept "https:/".toList hStarts (by decide)
    rw [hTrim] at hKept
    cases hKept
    rw [scheme_prefix_chars hStarts (Nat.succ_le_succ hLong), Bool.or_true]

/-- A span is cut out of the line between characters. -/
theorem slice_span (hLe : span.start ≤ span.end) :
  slice row (byteIndexForCell row span.start) (byteIndexAfterCell row span.end) =
    some (span.chars row) := by
  have hBefore : (row.take (span.end + 1)).take span.start = row.take span.start := by
    rw [List.take_take, Nat.min_eq_left (by omega)]
  have hTake := List.take_append_drop span.start (row.take (span.end + 1))
  rw [hBefore] at hTake
  have hRow : row = row.take span.start ++ span.chars row ++ row.drop (span.end + 1) := by
    rw [CellSpan.chars, hTake, List.take_append_drop]
  have hSlice := slice_append (row.take span.start) (span.chars row) (row.drop (span.end + 1))
  rw [← hRow, CellSpan.chars, hTake] at hSlice
  exact hSlice

theorem urlAtColumn_eq (width : Char → Nat) (row : List Char) (col : Nat) :
  urlAtColumn width row col = (cellIndexAtColumn (textCells width row) col).bind fun clickedIdx =>
    (urlSpanAtColumn (textCells width row) clickedIdx).map fun span => span.chars row := by
  unfold urlAtColumn
  refine Option.bind_congr fun clickedIdx _ => ?_
  rw [urlSpans, find?_urlSpansFrom, ← urlSpanAtColumn]
  cases hSpan : urlSpanAtColumn (textCells width row) clickedIdx with
  | none => rfl
  | some span =>
    obtain ⟨⟨hContains, -⟩, -, -⟩ := around_of_urlSpanFrom hSpan
    rw [CellSpan.contains, Bool.and_eq_true, decide_eq_true_eq, decide_eq_true_eq] at hContains
    rw [Option.bind_some, slice_span (Nat.le_trans hContains.1 hContains.2), Option.bind_some,
      safeWebUrl_chars hSpan]
    rfl

/-- A double click on a column selects the address of a span. -/
def SelectsUrl (width : Char → Nat) (row : List Char) (col : Nat) (span : CellSpan) : Prop :=
  ∃ clickedIdx, cellIndexAtColumn (textCells width row) col = some clickedIdx ∧
    urlSpanAtColumn (textCells width row) clickedIdx = some span

/-- A click opens an address exactly if a double click selects it; what a double click selects
has columns around the click. -/
theorem url_at_column_double_click (width : Char → Nat) (row : List Char) (col : Nat) :
  (∀ url, urlAtColumn width row col = some url ↔
    ∃ span, SelectsUrl width row col span ∧ url = span.chars row) ∧
  (∀ span, SelectsUrl width row col span →
    wordBoundsAtColumn width row col = span.columns (textCells width row)) ∧
  ∀ clickedIdx span, cellIndexAtColumn (textCells width row) col = some clickedIdx →
    wordSpan (textCells width row) clickedIdx = some span →
    span.contains clickedIdx ∧ ∃ bounds, wordBoundsAtColumn width row col = some bounds ∧
      bounds.1 ≤ col ∧ col ≤ bounds.2 := by
  refine ⟨fun url => ?_, ?_, ?_⟩
  · rw [urlAtColumn_eq]
    constructor
    · intro hUrl
      obtain ⟨clickedIdx, hClicked, hSpan⟩ := Option.bind_eq_some_iff.1 hUrl
      obtain ⟨span, hSpan, hChars⟩ := Option.map_eq_some_iff.1 hSpan
      exact ⟨span, ⟨clickedIdx, hClicked, hSpan⟩, hChars.symm⟩
    · rintro ⟨span, ⟨clickedIdx, hClicked, hSpan⟩, rfl⟩
      rw [hClicked, Option.bind_some, hSpan]
      rfl
  · rintro span ⟨clickedIdx, hClicked, hSpan⟩
    unfold wordBoundsAtColumn
    dsimp only
    rw [hClicked, Option.bind_some, wordSpan, hSpan]
    rfl
  · intro clickedIdx span hClicked hSpan
    obtain ⟨hContains, hEnd⟩ := around_of_wordSpan hSpan
    obtain ⟨bounds, hBounds, hCol⟩ := columns_of_contains hClicked hContains hEnd
    refine ⟨hContains, bounds, ?_, hCol⟩
    unfold wordBoundsAtColumn
    dsimp only
    rw [hClicked, Option.bind_some, hSpan]
    exact hBounds

/-- The dot behind an address is not part of it. -/
theorem url_at_column_double_click_trimmed :
  urlAtColumn (fun _ => 1) "a http://b.".toList 4 = some "http://b".toList ∧
  wordBoundsAtColumn (fun _ => 1) "a http://b.".toList 4 = some (2, 9) := by
  obtain ⟨hOpens, hSelects, -⟩ := url_at_column_double_click (fun _ => 1) "a http://b.".toList 4
  have hUrl : SelectsUrl (fun _ => 1) "a http://b.".toList 4 ⟨2, 9⟩ :=
    ⟨4, by decide +kernel, by decide +kernel⟩
  exact ⟨(hOpens _).2 ⟨⟨2, 9⟩, hUrl, by decide +kernel⟩, (hSelects _ hUrl).trans (by decide +kernel)⟩

end App
