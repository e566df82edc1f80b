import VimeflowTerminal.Data.Selection
import VimeflowTerminal.Terminal.HistoryRead

/-! A screen that was scrolled up is aligned with the one before it by the number
of rows that agree. Rows that repeat other rows can be taken for scrolled ones
or for a header that stays in place. -/

namespace Terminal

open Selection

/-- A shift with the numbers of agreeing and of comparable rows, if enough rows agree. -/
def shiftCandidate (previous next : List (List Char)) (shift : Nat) : Option (Nat × Nat × Nat) :=
  let (found, comparable) := alignment previous next shift
  if comparable = 0 ∨ found * 100 < comparable * minAlignmentRatioPercent then none
  else some (shift, found, comparable)

/-- More agreeing rows are better, and then more comparable ones. -/
def shiftScore (candidate : Nat × Nat × Nat) : Lex (Nat × Nat) := toLex candidate.2

def shiftCandidates (previous next : List (List Char)) : List (Nat × Nat × Nat) :=
  ((List.range previous.length).drop 1).filterMap (shiftCandidate previous next)

theorem bestUpwardShift_eq (previous next : List (List Char)) :
  bestUpwardShift previous next =
    (firstBest shiftScore (shiftCandidates previous next)).map (·.1) := by
  unfold bestUpwardShift firstBest shiftCandidates
  rw [List.foldl_filterMap]
  refine congrArg (Option.map _) (congrArg (fun step => List.foldl step none _) ?_)
  funext best shift
  unfold shiftCandidate
  dsimp only
  by_cases hRejected : (alignment previous next shift).2 = 0 ∨
      (alignment previous next shift).1 * 100 <
        (alignment previous next shift).2 * minAlignmentRatioPercent
  · rw [if_pos hRejected, if_pos hRejected]
  rw [if_neg hRejected, if_neg hRejected]
  cases best with
  | none => rfl
  | some best =>
    obtain ⟨bestShift, bestFound, bestComparable⟩ := best
    unfold keepBetter shiftScore
    simp only [Prod.Lex.toLex_lt_toLex]
    refine if_congr (or_congr_right (and_congr_left' eq_comm)) rfl rfl

theorem mem_shifts {length shift : Nat} :
  shift ∈ (List.range length).drop 1 ↔ 0 < shift ∧ shift < length := by
  cases length with
  | zero => simp
  | succ length =>
    rw [List.range_succ_eq_map, List.drop_succ_cons, List.drop_zero, List.mem_map]
    constructor
    · rintro ⟨before, hMem, rfl⟩
      exact ⟨Nat.succ_pos before, Nat.succ_lt_succ (List.mem_range.1 hMem)⟩
    · rintro ⟨hPos, hLt⟩
      exact ⟨shift - 1, List.mem_range.2 (by omega), by omega⟩

/-- How many rows of the next screen repeat the row `shift` places higher on the previous one. -/
def repeated (previous next : List (List Char)) (shift : Nat) : Nat :=
  (previous.zip (next.drop shift)).countP fun pair => pair.1 = pair.2

/-- The screen was scrolled up by `k` rows. All rows have text, and on each screen the texts are
distinct. -/
structure ScrolledUp (previous next : List (List Char)) (k : Nat) : Prop where
  size : previous.length = next.length
  pos : 0 < k
  lt : k < previous.length
  rows : previous.take (previous.length - k) = next.drop k
  previousDistinct : previous.Nodup
  nextDistinct : next.Nodup
  previousText : ∀ row ∈ previous, row ≠ []
  nextText : ∀ row ∈ next, row ≠ []

namespace ScrolledUp

variable {previous next : List (List Char)} {k : Nat} (h : ScrolledUp previous next k)

include h

theorem getElem?_next {i : Nat} (hBelow : k ≤ i) (hRow : i < next.length) :
  next[i]? = previous[i - k]? := by
  have hAt : next[i]? = (next.drop k)[i - k]? := by
    rw [List.getElem?_drop]
    congr 1
    omega
  have hSize := h.size
  rw [hAt, ← h.rows, List.getElem?_take_of_lt (by omega)]

variable {shift : Nat}

theorem new_of_repeated {i : Nat} (hShift : shift ≠ k) {text : List Char}
  (hPrevious : previous[i]? = some text) (hNext : next[i + shift]? = some text) :
  i + shift < k := by
  by_contra hBelow
  have hRow : i + shift < next.length := (List.getElem?_eq_some_iff.1 hNext).1
  rw [h.getElem?_next (by omega) hRow, ← hPrevious] at hNext
  have hIndex : i < previous.length := (List.getElem?_eq_some_iff.1 hPrevious).1
  have hSame := (List.getElem?_inj hIndex h.previousDistinct).1 hNext.symm
  omega

theorem repeated_self : repeated previous next k = previous.length - k := by
  have hPairs : ∀ pair ∈ previous.zip (next.drop k), pair.1 = pair.2 := by
    intro pair hMem
    obtain ⟨i, hAt⟩ := List.mem_iff_getElem?.1 hMem
    obtain ⟨hFirst, hSecond⟩ := List.getElem?_zip_eq_some.1 hAt
    rw [← h.rows] at hSecond
    have hLt := (List.getElem?_eq_some_iff.1 hSecond).1
    rw [List.length_take] at hLt
    rw [List.getElem?_take_of_lt (by omega)] at hSecond
    exact Option.some.inj (hFirst.symm.trans hSecond)
  have hSize := h.size
  rw [repeated, List.countP_eq_length.2 fun pair hMem => decide_eq_true (hPairs pair hMem),
    List.length_zip, List.length_drop]
  omega

theorem repeated_of_gt (hShift : k < shift) : repeated previous next shift = 0 := by
  rw [repeated, List.countP_eq_zero]
  intro pair hMem hSame
  obtain ⟨i, hAt⟩ := List.mem_iff_getElem?.1 hMem
  obtain ⟨hFirst, hSecond⟩ := List.getElem?_zip_eq_some.1 hAt
  rw [← of_decide_eq_true hSame, List.getElem?_drop, Nat.add_comm] at hSecond
  have hNew := h.new_of_repeated (Nat.ne_of_gt hShift) hFirst hSecond
  omega

/-- All pairs of rows are comparable. -/
theorem alignment_eq (shift : Nat) : alignment previous next shift =
  (repeated previous next shift, previous.length - shift) := by
  have hAll : (previous.zip (next.drop shift)).filter
      (fun pair => !pair.1.isEmpty && !pair.2.isEmpty) = previous.zip (next.drop shift) := by
    rw [List.filter_eq_self]
    intro pair hMem
    have hFirst := h.previousText _ (List.of_mem_zip hMem).1
    have hSecond := h.nextText _ (List.mem_of_mem_drop (List.of_mem_zip hMem).2)
    simp [hFirst, hSecond]
  have hSize := h.size
  unfold alignment
  dsimp only
  rw [hAll, List.length_zip, List.length_drop, ← hSize, Nat.min_eq_right (Nat.sub_le _ _)]
  rfl

theorem mem_shiftCandidates {found comparable : Nat} :
  (shift, found, comparable) ∈ shiftCandidates previous next ↔
    (0 < shift ∧ shift < previous.length) ∧ found = repeated previous next shift ∧
      comparable = previous.length - shift ∧
        ¬ found * 100 < comparable * minAlignmentRatioPercent := by
  rw [shiftCandidates, List.mem_filterMap]
  constructor
  · rintro ⟨other, hMem, hCandidate⟩
    rw [shiftCandidate, h.alignment_eq] at hCandidate
    dsimp only at hCandidate
    split at hCandidate
    case isTrue => cases hCandidate
    case isFalse hAccepted =>
      cases hCandidate
      exact ⟨mem_shifts.1 hMem, rfl, rfl, fun hFew => hAccepted (Or.inr hFew)⟩
  · rintro ⟨hShift, rfl, rfl, hAccepted⟩
    refine ⟨shift, mem_shifts.2 hShift, ?_⟩
    rw [shiftCandidate, h.alignment_eq]
    refine if_neg fun hRejected => ?_
    rcases hRejected with hNone | hFew
    · omega
    · exact hAccepted hFew

theorem shiftScores_nodup : ((shiftCandidates previous next).map shiftScore).Nodup := by
  have hShifts : ((List.range previous.length).drop 1).Nodup :=
    List.nodup_range.sublist (List.drop_sublist _ _)
  have hCandidates : (shiftCandidates previous next).Nodup := by
    refine hShifts.filterMap fun shift other candidate hLeft hRight => ?_
    rw [shiftCandidate, h.alignment_eq, Option.mem_def] at hLeft hRight
    dsimp only at hLeft hRight
    split at hLeft
    case isTrue => cases hLeft
    case isFalse =>
      split at hRight
      case isTrue => cases hRight
      case isFalse => exact congrArg Prod.fst (Option.some.inj (hLeft.trans hRight.symm))
  refine hCandidates.map_on ?_
  rintro ⟨shift, found, comparable⟩ hMem ⟨other, found', comparable'⟩ hOther hScore
  obtain ⟨⟨-, hLt⟩, hFound, hComparable, -⟩ := h.mem_shiftCandidates.1 hMem
  obtain ⟨⟨-, hLt'⟩, hFound', hComparable', -⟩ := h.mem_shiftCandidates.1 hOther
  obtain ⟨rfl, rfl⟩ := Prod.mk.inj (toLex_inj.1 hScore)
  obtain rfl : shift = other := by omega
  rfl

/-- Few rows are repeated at a smaller shift: fewer than the rows that have stayed on the screen,
or fewer than the alignment asks for. -/
def FewRepeated (previous next : List (List Char)) (k : Nat) : Prop :=
  ∀ shift, 0 < shift → shift < k → repeated previous next shift < previous.length - k ∨
    repeated previous next shift * 100 < (previous.length - shift) * minAlignmentRatioPercent

/-- The right shift is the best one exactly if few rows are repeated at the smaller ones. -/
theorem bestUpwardShift_iff :
  bestUpwardShift previous next = some k ↔ FewRepeated previous next k := by
  have hLt := h.lt
  have hSelf : (k, previous.length - k, previous.length - k) ∈ shiftCandidates previous next := by
    refine h.mem_shiftCandidates.2 ⟨⟨h.pos, h.lt⟩, h.repeated_self.symm, rfl, ?_⟩
    show ¬ _ < _ * 30
    omega
  have hBest : bestUpwardShift previous next = some k ↔
      firstBest shiftScore (shiftCandidates previous next) =
        some (k, previous.length - k, previous.length - k) := by
    rw [bestUpwardShift_eq, Option.map_eq_some_iff]
    constructor
    · rintro ⟨⟨shift, found, comparable⟩, hFound, hShift⟩
      obtain rfl : shift = k := hShift
      obtain ⟨hMem, -⟩ := (firstBest_eq_some_iff h.shiftScores_nodup).1 hFound
      obtain ⟨-, hSame, hRows, -⟩ := h.mem_shiftCandidates.1 hMem
      rw [hFound, hSame, hRows, h.repeated_self]
    · intro hFound
      exact ⟨_, hFound, rfl⟩
  rw [hBest, firstBest_eq_some_iff h.shiftScores_nodup, and_iff_right hSelf]
  constructor
  · intro hAll shift hPos hSmaller
    by_cases hFew : repeated previous next shift * 100 <
        (previous.length - shift) * minAlignmentRatioPercent
    · exact Or.inr hFew
    have hLess := hAll (shift, repeated previous next shift, previous.length - shift)
      (h.mem_shiftCandidates.2 ⟨⟨hPos, by omega⟩, rfl, rfl, hFew⟩)
      fun hSame => Nat.ne_of_lt hSmaller (congrArg Prod.fst hSame)
    rw [shiftScore, shiftScore, Prod.Lex.toLex_lt_toLex] at hLess
    dsimp only at hLess
    omega
  · rintro hFew ⟨shift, found, comparable⟩ hMem hOther
    obtain ⟨⟨hPos, hRange⟩, rfl, rfl, hAccepted⟩ := h.mem_shiftCandidates.1 hMem
    rw [shiftScore, shiftScore, Prod.Lex.toLex_lt_toLex]
    dsimp only
    rcases Nat.lt_trichotomy shift k with hSmaller | hSame | hGreater
    · rcases hFew shift hPos hSmaller with hFewer | hTooFew
      · exact Or.inl hFewer
      · exact absurd hTooFew hAccepted
    · subst hSame
      exact absurd (by rw [h.repeated_self]) hOther
    · rw [h.repeated_of_gt hGreater]
      exact Or.inl (by omega)

theorem mergeBoundary_self : mergeBoundary previous next k = some k := by
  have hLt := h.lt
  have hSize := h.size
  obtain ⟨text, hText⟩ : ∃ text, previous[0]? = some text :=
    ⟨_, List.getElem?_eq_getElem (by omega)⟩
  have hFirst : next[0 + k]? = some text := by
    rw [h.getElem?_next (by omega) (by omega), ← hText]
    congr 1
    omega
  have hSome := h.previousText text (List.mem_of_getElem? hText)
  obtain ⟨rest, hRest⟩ : ∃ rest, previous.length - k = rest + 1 :=
    ⟨previous.length - k - 1, by omega⟩
  rw [mergeBoundary, hRest, List.range_succ_eq_map, List.findSome?_cons]
  simp only [hText, hFirst, decide_true, Bool.and_true]
  simp [hSome]

/-- At a wrong shift, the boundary lies among the new rows. -/
theorem mergeBoundary_of_ne {boundary : Nat} (hShift : shift ≠ k)
  (hBoundary : mergeBoundary previous next shift = some boundary) : boundary < k := by
  obtain ⟨index, -, hIndex⟩ := List.exists_of_findSome?_eq_some hBoundary
  split at hIndex
  case h_1 text hText =>
    split at hIndex
    case isTrue hFound =>
      cases hIndex
      rw [Bool.and_eq_true, decide_eq_true_eq] at hFound
      exact h.new_of_repeated hShift hText hFound.2
    case isFalse => cases hIndex
  case h_2 => cases hIndex

end ScrolledUp

/-- The rows of the next screen above the boundary, without those that seem to stay in place. -/
def addedRows (previous : List (List Char)) (rows : List ScreenTextRow) (boundary : Nat) :
  List ScreenTextRow :=
  (((rows.take boundary).zip (rowIdentities rows)).zipIdx.filter fun entry =>
    entry.1.2.isEmpty || decide (previous[entry.2]? ≠ some entry.1.2)).map (·.1.1)

theorem length_addedRows_le (previous : List (List Char)) (rows : List ScreenTextRow)
  (boundary : Nat) : (addedRows previous rows boundary).length ≤ boundary := by
  rw [addedRows, List.length_map]
  refine Nat.le_trans (List.length_filter_le _ _) ?_
  rw [List.length_zipIdx, List.length_zip, List.length_take]
  omega

/-- No new row has the text of the row that was at its place. -/
def NoneInPlace (previous next : List (List Char)) (k : Nat) : Prop :=
  ∀ i < k, next[i]? ≠ previous[i]?

variable {k : Nat}

theorem addedRows_eq_iff {previous : List (List Char)} {rows : List ScreenTextRow}
  (h : ScrolledUp previous (rowIdentities rows) k) :
  addedRows previous rows k = rows.take k ↔ NoneInPlace previous (rowIdentities rows) k := by
  have hSize := h.size
  have hLt := h.lt
  have hLength : (rowIdentities rows).length = rows.length := List.length_map _
  have hAll : (((rows.take k).zip (rowIdentities rows)).zipIdx.map (·.1.1)) = rows.take k := by
    have hZip : (((rows.take k).zip (rowIdentities rows)).zipIdx.map (·.1.1)) =
        ((rows.take k).zip (rowIdentities rows)).map Prod.fst := by
      conv_rhs => rw [← List.zipIdx_map_fst 0 ((rows.take k).zip (rowIdentities rows))]
      rw [List.map_map]
      rfl
    rw [hZip, List.map_fst_zip]
    rw [List.length_take]
    omega
  have hKept : addedRows previous rows k = rows.take k ↔
      ∀ entry ∈ ((rows.take k).zip (rowIdentities rows)).zipIdx,
        (entry.1.2.isEmpty || decide (previous[entry.2]? ≠ some entry.1.2)) = true := by
    rw [← List.filter_eq_self]
    constructor
    · intro hSame
      have hLengths := congrArg List.length (hSame.trans hAll.symm)
      rw [addedRows, List.length_map, List.length_map] at hLengths
      exact List.filter_sublist.eq_of_length hLengths
    · intro hSame
      rw [addedRows, hSame, hAll]
  rw [hKept]
  constructor
  · intro hEach i hI hSame
    obtain ⟨text, hText⟩ : ∃ text, (rowIdentities rows)[i]? = some text :=
      ⟨_, List.getElem?_eq_getElem (by omega)⟩
    obtain ⟨row, hRow⟩ : ∃ row, (rows.take k)[i]? = some row :=
      ⟨_, List.getElem?_eq_getElem (by rw [List.length_take]; omega)⟩
    have hEntry := hEach ((row, text), i)
      (List.mk_mem_zipIdx_iff_getElem?.2 (List.getElem?_zip_eq_some.2 ⟨hRow, hText⟩))
    have hSome := h.nextText text (List.mem_of_getElem? hText)
    rw [← hSame, hText] at hEntry
    simp [hSome] at hEntry
  · rintro hNone ⟨⟨row, text⟩, i⟩ hMem
    obtain ⟨hRow, hText⟩ := List.getElem?_zip_eq_some.1 (List.mk_mem_zipIdx_iff_getElem?.1 hMem)
    have hNew := (List.getElem?_eq_some_iff.1 hRow).1
    rw [List.length_take] at hNew
    have hPlace := hNone i (by omega)
    rw [hText] at hPlace
    rw [Bool.or_eq_true]
    exact Or.inr (decide_eq_true hPlace.symm)

/-- What is put before the history. -/
theorem mergeScrolledUp_eq {history : List ScreenTextRow} {previous next : ScreenSnapshot}
  (hCols : previous.cols = next.cols)
  (h : ScrolledUp (rowIdentities previous.rows) (rowIdentities next.rows) k) :
  mergeScrolledUp history previous next =
    match (bestUpwardShift (rowIdentities previous.rows) (rowIdentities next.rows)).bind
      (mergeBoundary (rowIdentities previous.rows) (rowIdentities next.rows)) with
      | none => (history, .unaligned)
      | some boundary =>
        let added := addedRows (rowIdentities previous.rows) next.rows boundary
        if added.isEmpty then (history, .unaligned)
        else (added ++ history, .advanced added.length) := by
  have hSize := h.size
  have hLt := h.lt
  have hPos := h.pos
  have hRows : previous.rows.length = next.rows.length := by
    simpa only [rowIdentities, List.length_map] using hSize
  have hChanged : rowIdentities previous.rows ≠ rowIdentities next.rows := by
    intro hSame
    have hBelow := h.getElem?_next (Nat.le_refl k) (by omega)
    rw [← hSame, Nat.sub_self] at hBelow
    have hFirst := (List.getElem?_inj h.lt h.previousDistinct).1 hBelow
    omega
  unfold mergeScrolledUp
  rw [if_neg (by simp [hCols, hRows])]
  rw [if_neg hChanged]
  rfl

/-- The rows that the scroll brought into view are merged exactly if none of them has the text
of the row that was at its place, and few repeat the rows that are a smaller shift higher. -/
theorem mergeScrolledUp_iff {history : List ScreenTextRow} {previous next : ScreenSnapshot}
  (hCols : previous.cols = next.cols)
  (h : ScrolledUp (rowIdentities previous.rows) (rowIdentities next.rows) k) :
  mergeScrolledUp history previous next = (next.rows.take k ++ history, .advanced k) ↔
    NoneInPlace (rowIdentities previous.rows) (rowIdentities next.rows) k ∧
      ScrolledUp.FewRepeated (rowIdentities previous.rows) (rowIdentities next.rows) k := by
  have hLt := h.lt
  have hPos := h.pos
  have hRows : previous.rows.length = next.rows.length := by
    simpa only [rowIdentities, List.length_map] using h.size
  have hLength : (next.rows.take k).length = k := by
    have hPrevious : k < previous.rows.length := by
      simpa only [rowIdentities, List.length_map] using hLt
    rw [List.length_take]
    omega
  rw [← addedRows_eq_iff h, ← h.bestUpwardShift_iff, mergeScrolledUp_eq hCols h]
  constructor
  · intro hMerged
    cases hBest : bestUpwardShift (rowIdentities previous.rows) (rowIdentities next.rows) with
    | none =>
      rw [hBest] at hMerged
      cases (Prod.mk.inj hMerged).2
    | some shift =>
      rw [hBest, Option.bind_some] at hMerged
      cases hBoundary : mergeBoundary (rowIdentities previous.rows) (rowIdentities next.rows)
          shift with
      | none =>
        rw [hBoundary] at hMerged
        cases (Prod.mk.inj hMerged).2
      | some boundary =>
        rw [hBoundary] at hMerged
        dsimp only at hMerged
        split at hMerged
        case isTrue => cases (Prod.mk.inj hMerged).2
        case isFalse =>
          obtain ⟨hHistory, hCount⟩ := Prod.mk.inj hMerged
          have hAdded := List.append_cancel_right hHistory
          have hAtMost := length_addedRows_le (rowIdentities previous.rows) next.rows boundary
          rw [hAdded, hLength] at hAtMost
          have hShift : shift = k := by
            by_contra hOther
            exact Nat.not_lt.2 hAtMost (h.mergeBoundary_of_ne hOther hBoundary)
          subst hShift
          rw [h.mergeBoundary_self] at hBoundary
          cases hBoundary
          exact ⟨hAdded, rfl⟩
  · rintro ⟨hAdded, hBest⟩
    have hSome : (next.rows.take k).isEmpty = false := by
      rw [List.isEmpty_eq_false_iff]
      exact List.ne_nil_of_length_pos (by omega)
    rw [hBest, Option.bind_some, h.mergeBoundary_self]
    dsimp only
    rw [hAdded, hSome, hLength]
    rfl

/-- Without an advance, the history stays as it was. -/
theorem mergeScrolledUp_keeps (history : List ScreenTextRow) (previous next : ScreenSnapshot)
  (hNone : (mergeScrolledUp history previous next).2 = .unchanged ∨
    (mergeScrolledUp history previous next).2 = .unaligned) :
  (mergeScrolledUp history previous next).1 = history := by
  unfold mergeScrolledUp at hNone ⊢
  split
  case isTrue => rfl
  case isFalse hSize =>
    rw [if_neg hSize] at hNone
    dsimp only at hNone ⊢
    split
    case isTrue => rfl
    case isFalse hChanged =>
      rw [if_neg hChanged] at hNone
      split
      case h_1 => rfl
      case h_2 boundary hBoundary =>
        rw [hBoundary] at hNone
        dsimp only at hNone
        split
        case isTrue => rfl
        case isFalse hAdded =>
          rw [if_neg hAdded] at hNone
          rcases hNone with hNone | hNone
          · cases hNone
          · cases hNone

/-- A merge is exact if the new rows are told from those that stay in place and the scroll from
a smaller one; and it changes nothing unless it reports an advance. -/
theorem merge_scrolled_exact :
  (∀ (history : List ScreenTextRow) (previous next : ScreenSnapshot) (k : Nat),
    previous.cols = next.cols →
    ScrolledUp (rowIdentities previous.rows) (rowIdentities next.rows) k →
    (mergeScrolledUp history previous next = (next.rows.take k ++ history, .advanced k) ↔
      NoneInPlace (rowIdentities previous.rows) (rowIdentities next.rows) k ∧
        ScrolledUp.FewRepeated (rowIdentities previous.rows) (rowIdentities next.rows) k)) ∧
  ∀ (history : List ScreenTextRow) (previous next : ScreenSnapshot),
    (mergeScrolledUp history previous next).2 = .unchanged ∨
      (mergeScrolledUp history previous next).2 = .unaligned →
    (mergeScrolledUp history previous next).1 = history :=
  ⟨fun _ _ _ _ hCols h => mergeScrolledUp_iff hCols h, mergeScrolledUp_keeps⟩

/-- A row of narrow cells. -/
def narrowRow (text : List Char) : ScreenTextRow :=
  ⟨text.map fun ch => ⟨.narrow, [ch.toNat]⟩, false, false⟩

/-- A screen of narrow cells. -/
def narrowScreen (texts : List (List Char)) : ScreenSnapshot := ⟨20, texts.map narrowRow⟩

theorem merge_scrolled_exact_threeRows :
  mergeScrolledUp [] (narrowScreen [['a'], ['b'], ['c']])
    (narrowScreen [['x'], ['y'], ['a']]) =
      ([narrowRow ['x'], narrowRow ['y']], .advanced 2) :=
  (merge_scrolled_exact.1 [] (narrowScreen [['a'], ['b'], ['c']])
    (narrowScreen [['x'], ['y'], ['a']]) 2 rfl
    ⟨by decide, by decide, by decide, by decide, by decide, by decide, by decide, by decide⟩).2
    ⟨by unfold NoneInPlace; decide, by
      intro shift hPos hLt
      obtain rfl : shift = 1 := by omega
      decide⟩

/-- A new row with the text of the row at its place is left out as a header. -/
theorem not_merge_scrolled_exact :
  ¬ ∀ (history : List ScreenTextRow) (previous next : ScreenSnapshot) (k : Nat),
    previous.cols = next.cols →
    ScrolledUp (rowIdentities previous.rows) (rowIdentities next.rows) k →
    mergeScrolledUp history previous next = (next.rows.take k ++ history, .advanced k) := by
  intro hAll
  have hMerged := hAll [] (narrowScreen [['a'], ['b'], ['c']])
    (narrowScreen [['x'], ['b'], ['a']]) 2 rfl
    ⟨by decide, by decide, by decide, by decide, by decide, by decide, by decide, by decide⟩
  revert hMerged
  decide

end Terminal
