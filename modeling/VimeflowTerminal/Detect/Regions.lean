import VimeflowTerminal.Data.Text
import VimeflowTerminal.Data.TextLines
import VimeflowTerminal.Detect.Agent

/-! A detection rule looks at a part of the screen that it names: a number of
lines at the top or the bottom, or what stands around a prompt. The parts are
cut by byte offsets, and a cut inside a character stops the program. -/

namespace Detect

open Text TextSlice TextLines

structure DetectionInput where
  screen : List Char
  oscTitle : List Char
  oscProgress : List Char
  deriving DecidableEq

/-! ## Names -/

def regionCount (spec name : String) : Option Nat :=
  (stripPrefix name spec).bind fun rest => (stripPrefix "(" rest).bind fun rest =>
    (stripSuffixList [')'] rest.toList).bind fun count =>
      parseUnsigned (2 ^ 64) (String.ofList count)

def topNonEmptyLinesEngineVersion : Nat := 3

def maxTopRegionLineCount : Nat := 65535

def topRegionCount (spec : String) : Option Nat :=
  (stripPrefix "top_non_empty_lines" spec).bind fun rest => (stripPrefix "(" rest).bind fun rest =>
    (stripSuffixList [')'] rest.toList).bind fun count =>
      if count.head? = some '0' ∨ ¬ count.all Char.isDigit then none
      else (parseUnsigned (2 ^ 64) (String.ofList count)).filter (· ≤ maxTopRegionLineCount)

def regionNames : List String :=
  ["whole_recent", "after_last_prompt_marker", "before_current_prompt_marker",
    "whole_recent_without_current_prompt_marker", "current_prompt_block_marker",
    "after_current_prompt_block_marker", "prompt_box_body", "above_prompt_box",
    "last_non_empty_above_prompt_box", "after_last_horizontal_rule", "osc_title", "osc_progress"]

/-- A name that is refused is the error. -/
def validateRegionName (spec : String) : Except String Unit :=
  let trimmed := trim spec
  if trimmed ∈ regionNames ∨ (regionCount trimmed "bottom_lines").isSome ∨
      (regionCount trimmed "bottom_non_empty_lines").isSome ∨ (topRegionCount trimmed).isSome then
    .ok ()
  else .error trimmed

/-! ## Lines -/

/-- The offset of a line, as if every end took one byte. -/
def lineStartOffset (content : List Char) (lines : List (List Char)) (index : Nat) : Nat :=
  min ((lines.take index).map fun line => byteLength line + 1).sum (byteLength content)

def sliceFromLineIndex (content : List Char) (lines : List (List Char)) (index : Nat) :
  Option (List Char) :=
  sliceFrom content (min (lineStartOffset content lines index) (byteLength content))

def isBlank (line : List Char) : Bool := (trimChars line).isEmpty

def bottomLines (content : List Char) (count : Nat) : Option (List Char) :=
  let lines := lines content
  sliceFromLineIndex content lines (lines.length - count)

/-- The positions of the lines that a predicate accepts. -/
def positions (accepts : List Char → Bool) (lines : List (List Char)) : List Nat :=
  (lines.zipIdx.filter fun entry => accepts entry.1).map Prod.snd

def bottomNonEmptyLines (content : List Char) (count : Nat) : Option (List Char) :=
  let lines := lines content
  match ((positions (!isBlank ·) lines).reverse.take count).getLast? with
  | none => some []
  | some startIndex => sliceFromLineIndex content lines startIndex

def topNonEmptyLines (content : List Char) (count : Nat) : Option (List Char) :=
  let lines := lines content
  match ((positions (!isBlank ·) lines).take count).getLast? with
  | none => some []
  | some endIndex => sliceTo content (lineStartOffset content lines (endIndex + 1))

def lastNonEmptyLine (content : List Char) : List Char :=
  ((lines content).reverse.find? fun line => !isBlank line).getD []

/-! ## Prompts -/

def codexPromptLine (line : List Char) : Bool :=
  line = ['›'] || ['›', ' '].isPrefixOf line

def codexBlockMarkerLine (line : List Char) : Bool :=
  line.head?.any fun ch => ch ∈ ['•', '■', '✗', '✓']

/-- `rposition`. -/
def lastPosition (accepts : List Char → Bool) (lines : List (List Char)) : Option Nat :=
  (positions accepts lines).getLast?

def currentCodexPromptIndex (lines : List (List Char)) : Option Nat :=
  (lastPosition codexPromptLine lines).filter fun promptIndex =>
    !(lines.drop (promptIndex + 1)).any codexBlockMarkerLine

def afterLastPromptMarker (content : List Char) : Option (List Char) :=
  let lines := lines content
  match lastPosition codexPromptLine lines with
  | none => some content
  | some index => sliceFromLineIndex content lines (index + 1)

def beforeCurrentPromptMarker (content : List Char) : Option (List Char) :=
  let lines := lines content
  match currentCodexPromptIndex lines with
  | none => some content
  | some index =>
    let byteOffset := ((lines.take index).map fun line => byteLength line + 1).sum
    sliceTo content (min byteOffset (byteLength content))

def wholeRecentWithoutCurrentPromptMarker (content : List Char) : List Char :=
  if (currentCodexPromptIndex (lines content)).isSome then [] else content

def currentPromptBlockMarker (content : List Char) : Option (List Char) :=
  let lines := lines content
  (currentCodexPromptIndex lines).bind fun promptIndex =>
    (lines.take promptIndex).reverse.find? codexBlockMarkerLine

/-- The line of the last block before the prompt. -/
def currentPromptBlockIndex (lines : List (List Char)) : Option Nat :=
  (currentCodexPromptIndex lines).bind fun promptIndex =>
    lastPosition codexBlockMarkerLine (lines.take promptIndex)

def afterCurrentPromptBlockMarker (content : List Char) : Option (List Char) :=
  let lines := lines content
  match currentPromptBlockIndex lines with
  | none => some []
  | some blockIndex => sliceFromLineIndex content lines blockIndex

/-! ## Horizontal rules -/

def trimStart (text : List Char) : List Char := text.dropWhile isWhitespace

/-- What follows the dashes of a line. -/
def ruleSuffix (trimmed : List Char) (ruleChars : Nat) : Option (List Char) :=
  (sliceFrom trimmed (byteLength (trimmed.take ruleChars))).map trimStart

/-- Whether a line is a rule; there is no answer when its suffix cannot be cut. -/
def horizontalRule (line : List Char) : Option Bool :=
  let trimmed := trimChars line
  if trimmed.isEmpty then some false
  else
    let ruleChars := (trimmed.takeWhile (· = '─')).length
    if ruleChars = 0 then some false
    else (ruleSuffix trimmed ruleChars).map fun suffix => suffix.isEmpty || 3 ≤ ruleChars

def isHorizontalRule (line : List Char) : Bool := (horizontalRule line).getD false

/-- The second rule from the bottom. -/
def topBorderFrom (lines : List (List Char)) : Nat → Nat → Option Nat
  | 0, _ => none
  | index + 1, borderCount =>
    if (lines[index]?).any isHorizontalRule then
      if borderCount + 1 = 2 then some index else topBorderFrom lines index (borderCount + 1)
    else topBorderFrom lines index borderCount

def promptBoxTopBorderIndex (lines : List (List Char)) : Option Nat :=
  topBorderFrom lines lines.length 0

def promptBoxBody (content : List Char) : Option (List Char) :=
  let lines := lines content
  match promptBoxTopBorderIndex lines with
  | none => some []
  | some top =>
    let start := lineStartOffset content lines (top + 1)
    let endIndex := (((lines.drop (top + 1)).findIdx? isHorizontalRule).map
      fun relative => top + 1 + relative).getD lines.length
    let stop := lineStartOffset content lines endIndex
    slice content (min start (byteLength content)) (min stop (byteLength content))

def abovePromptBox (content : List Char) : Option (List Char) :=
  let lines := lines content
  match promptBoxTopBorderIndex lines with
  | none => some content
  | some top =>
    sliceTo content (min (lineStartOffset content lines top) (byteLength content))

/-- The offset behind the lines so far, and behind the last rule among them. -/
def ruleStep (content : List Char) (offsets : Nat × Nat) (line : List Char) : Nat × Nat :=
  let nextOffset := offsets.1 + byteLength line + 1
  (nextOffset, if isHorizontalRule line then min nextOffset (byteLength content) else offsets.2)

def afterLastHorizontalRule (content : List Char) : Option (List Char) :=
  sliceFrom content ((lines content).foldl (ruleStep content) (0, 0)).2

/-! ## The region of a rule -/

/-- The text of a region; there is none when the program stops on the way. -/
def region (input : DetectionInput) (spec : String) : Option (List Char) :=
  let trimmed := trim spec
  let content := input.screen
  match trimmed with
  | "osc_title" => some input.oscTitle
  | "osc_progress" => some input.oscProgress
  | "whole_recent" => some content
  | "after_last_prompt_marker" => afterLastPromptMarker content
  | "before_current_prompt_marker" => beforeCurrentPromptMarker content
  | "whole_recent_without_current_prompt_marker" =>
    some (wholeRecentWithoutCurrentPromptMarker content)
  | "current_prompt_block_marker" => some ((currentPromptBlockMarker content).getD [])
  | "after_current_prompt_block_marker" => afterCurrentPromptBlockMarker content
  | "prompt_box_body" => promptBoxBody content
  | "above_prompt_box" => abovePromptBox content
  | "last_non_empty_above_prompt_box" => (abovePromptBox content).map lastNonEmptyLine
  | "after_last_horizontal_rule" => afterLastHorizontalRule content
  | _ =>
    match regionCount trimmed "bottom_lines" with
    | some count => bottomLines content count
    | none =>
      match regionCount trimmed "bottom_non_empty_lines" with
      | some count => bottomNonEmptyLines content count
      | none =>
        match topRegionCount trimmed with
        | some count => topNonEmptyLines content count
        | none => some []

/-! ## Cuts between lines -/

section Runs

variable {screen run : List Char}

theorem isRun_slice (start stop : Nat) :
  IsRun screen (((inclusive screen).take stop).drop start).flatten := by
  refine ⟨start, stop - start, Or.inl ?_⟩
  rw [List.drop_take]

theorem isRun_nil : IsRun screen [] := ⟨0, 0, Or.inl rfl⟩

theorem isRun_from (start : Nat) : IsRun screen ((inclusive screen).drop start).flatten := by
  have hRun := @isRun_slice screen start (inclusive screen).length
  rwa [List.take_length] at hRun

theorem isRun_to (stop : Nat) : IsRun screen ((inclusive screen).take stop).flatten :=
  isRun_slice 0 stop

theorem isRun_screen : IsRun screen screen := by
  have hRun := @isRun_from screen 0
  rwa [List.drop_zero, flatten_inclusive] at hRun

theorem isRun_line {line : List Char} (hMem : line ∈ lines screen) : IsRun screen line := by
  obtain ⟨whole, hWhole, rfl⟩ := List.mem_map.1 hMem
  obtain ⟨i, hAt⟩ := List.mem_iff_getElem?.1 hWhole
  refine ⟨i, 0, Or.inr ⟨whole, hAt, ?_⟩⟩
  rw [List.take_zero, List.flatten_nil, List.nil_append]

theorem slices_eq (i : Nat) :
  sliceFrom screen (byteLength ((inclusive screen).take i).flatten) =
      some ((inclusive screen).drop i).flatten ∧
    sliceTo screen (byteLength ((inclusive screen).take i).flatten) =
      some ((inclusive screen).take i).flatten := by
  have hScreen : screen = ((inclusive screen).take i).flatten ++
      ((inclusive screen).drop i).flatten := by
    rw [← List.flatten_append, List.take_append_drop, flatten_inclusive]
  have hFrom := sliceFrom_append ((inclusive screen).take i).flatten
    ((inclusive screen).drop i).flatten
  have hTo := sliceTo_append ((inclusive screen).take i).flatten
    ((inclusive screen).drop i).flatten
  rw [← hScreen] at hFrom hTo
  exact ⟨hFrom, hTo⟩

theorem min_lineStartOffset (lines : List (List Char)) (i : Nat) :
  min (lineStartOffset screen lines i) (byteLength screen) = lineStartOffset screen lines i :=
  Nat.min_eq_left (Nat.min_le_right _ _)

variable (hLf : LfEnds screen)

include hLf

theorem lineStartOffset_eq (i : Nat) :
  lineStartOffset screen (lines screen) i = byteLength ((inclusive screen).take i).flatten :=
  offset_eq hLf i

theorem sliceFromLineIndex_eq (i : Nat) :
  sliceFromLineIndex screen (lines screen) i = some ((inclusive screen).drop i).flatten := by
  rw [sliceFromLineIndex, min_lineStartOffset, lineStartOffset_eq hLf, (slices_eq i).1]

theorem sliceTo_lineStartOffset (i : Nat) :
  sliceTo screen (lineStartOffset screen (lines screen) i) =
    some ((inclusive screen).take i).flatten := by
  rw [lineStartOffset_eq hLf, (slices_eq i).2]

/-- Between two line starts. -/
theorem slice_lineStartOffset {start stop : Nat} (hLe : start ≤ stop) :
  slice screen (lineStartOffset screen (lines screen) start)
      (lineStartOffset screen (lines screen) stop) =
    some (((inclusive screen).take stop).drop start).flatten := by
  have hBefore : ((inclusive screen).take stop).flatten =
      ((inclusive screen).take start).flatten ++
        (((inclusive screen).take stop).drop start).flatten := by
    have hTake := List.take_append_drop start ((inclusive screen).take stop)
    rw [List.take_take, Nat.min_eq_left hLe] at hTake
    rw [← List.flatten_append, hTake]
  have hScreen : screen = ((inclusive screen).take stop).flatten ++
      ((inclusive screen).drop stop).flatten := by
    rw [← List.flatten_append, List.take_append_drop, flatten_inclusive]
  have hSlice := slice_append ((inclusive screen).take start).flatten
    (((inclusive screen).take stop).drop start).flatten ((inclusive screen).drop stop).flatten
  rw [← hBefore, ← hScreen] at hSlice
  rw [lineStartOffset_eq hLf, lineStartOffset_eq hLf, hSlice]

end Runs

/-! ## The line behind the last rule -/

theorem positions_concat (accepts : List Char → Bool) (before : List (List Char))
  (line : List Char) : positions accepts (before ++ [line]) =
    positions accepts before ++ if accepts line then [before.length] else [] := by
  rw [positions, List.zipIdx_append, List.filter_append, List.map_append, ← positions]
  congr 1
  by_cases hLine : accepts line
  · simp [hLine]
  · simp [hLine]

/-- The loop ends with the offset behind the last rule. -/
theorem foldl_ruleStep_eq (screen : List Char) (count : Nat) :
  ((lines screen).take count).foldl (ruleStep screen) (0, 0) =
    ((((lines screen).take count).map fun line => byteLength line + 1).sum,
      lineStartOffset screen (lines screen)
        (((positions isHorizontalRule ((lines screen).take count)).getLast?.map (· + 1)).getD
          0)) := by
  induction count with
  | zero =>
    rw [lineStartOffset]
    simp [positions]
  | succ count ih =>
    cases hAt : (lines screen)[count]? with
    | none =>
      have hLength := List.getElem?_eq_none_iff.1 hAt
      rw [List.take_of_length_le hLength] at ih
      rw [List.take_of_length_le (Nat.le_succ_of_le hLength), ih]
    | some line =>
      have hLt := (List.getElem?_eq_some_iff.1 hAt).1
      have hTake : (lines screen).take (count + 1) = (lines screen).take count ++ [line] := by
        rw [List.take_add_one, hAt]
        rfl
      have hSum : (((lines screen).take (count + 1)).map fun line => byteLength line + 1).sum =
          (((lines screen).take count).map fun line => byteLength line + 1).sum +
            byteLength line + 1 := by
        rw [hTake, List.map_append, List.sum_append]
        simp [Nat.add_assoc]
      rw [hSum, hTake, List.foldl_append, ih, List.foldl_cons, List.foldl_nil, ruleStep,
        positions_concat, List.length_take, Nat.min_eq_left (Nat.le_of_lt hLt)]
      by_cases hRule : isHorizontalRule line
      · rw [if_pos hRule, if_pos hRule, List.getLast?_concat, ← hSum]
        rfl
      · rw [if_neg hRule, if_neg hRule, List.append_nil]

theorem afterLastHorizontalRule_eq (screen : List Char) :
  afterLastHorizontalRule screen = sliceFromLineIndex screen (lines screen)
    (((positions isHorizontalRule (lines screen)).getLast?.map (· + 1)).getD 0) := by
  have hLoop := foldl_ruleStep_eq screen (lines screen).length
  rw [List.take_length] at hLoop
  rw [afterLastHorizontalRule, hLoop, sliceFromLineIndex, min_lineStartOffset]

/-! ## What the regions are -/

/-- The program does not stop, and what it cuts out are lines of the screen. -/
def CutsLines (screen : List Char) (cut : Option (List Char)) : Prop :=
  ∃ run, cut = some run ∧ IsRun screen run

section Regions

variable {screen : List Char} (hLf : LfEnds screen)

include hLf

theorem cutsLines_sliceFromLineIndex (i : Nat) :
  CutsLines screen (sliceFromLineIndex screen (lines screen) i) :=
  ⟨_, sliceFromLineIndex_eq hLf i, isRun_from i⟩

theorem cutsLines_sliceTo (i : Nat) :
  CutsLines screen (sliceTo screen (lineStartOffset screen (lines screen) i)) :=
  ⟨_, sliceTo_lineStartOffset hLf i, isRun_to i⟩

theorem bottomLines_cutsLines (count : Nat) : CutsLines screen (bottomLines screen count) :=
  cutsLines_sliceFromLineIndex hLf _

theorem bottomNonEmptyLines_cutsLines (count : Nat) :
  CutsLines screen (bottomNonEmptyLines screen count) := by
  unfold bottomNonEmptyLines
  dsimp only
  split
  · exact ⟨[], rfl, isRun_nil⟩
  · exact cutsLines_sliceFromLineIndex hLf _

theorem topNonEmptyLines_cutsLines (count : Nat) :
  CutsLines screen (topNonEmptyLines screen count) := by
  unfold topNonEmptyLines
  dsimp only
  split
  · exact ⟨[], rfl, isRun_nil⟩
  · exact cutsLines_sliceTo hLf _

theorem afterLastPromptMarker_cutsLines : CutsLines screen (afterLastPromptMarker screen) := by
  unfold afterLastPromptMarker
  dsimp only
  split
  · exact ⟨screen, rfl, isRun_screen⟩
  · exact cutsLines_sliceFromLineIndex hLf _

theorem beforeCurrentPromptMarker_cutsLines :
  CutsLines screen (beforeCurrentPromptMarker screen) := by
  unfold beforeCurrentPromptMarker
  dsimp only
  split
  · exact ⟨screen, rfl, isRun_screen⟩
  · exact cutsLines_sliceTo hLf _

theorem afterCurrentPromptBlockMarker_cutsLines :
  CutsLines screen (afterCurrentPromptBlockMarker screen) := by
  unfold afterCurrentPromptBlockMarker
  dsimp only
  split
  · exact ⟨[], rfl, isRun_nil⟩
  · exact cutsLines_sliceFromLineIndex hLf _

omit hLf in
theorem topBorderFrom_lt {lines : List (List Char)} {index borderCount top : Nat}
  (hTop : topBorderFrom lines index borderCount = some top) : top < index := by
  induction index generalizing borderCount with
  | zero => cases hTop
  | succ index ih =>
    rw [topBorderFrom] at hTop
    split at hTop
    · split at hTop
      · cases hTop
        exact Nat.lt_succ_self _
      · exact Nat.lt_succ_of_lt (ih hTop)
    · exact Nat.lt_succ_of_lt (ih hTop)

theorem promptBoxBody_cutsLines : CutsLines screen (promptBoxBody screen) := by
  unfold promptBoxBody
  dsimp only
  split
  · exact ⟨[], rfl, isRun_nil⟩
  case h_2 top hTop =>
    have hLe : ∀ endIndex, top + 1 ≤ endIndex → CutsLines screen
        (slice screen (lineStartOffset screen (lines screen) (top + 1))
          (lineStartOffset screen (lines screen) endIndex)) :=
      fun endIndex hLe => ⟨_, slice_lineStartOffset hLf hLe, isRun_slice _ _⟩
    rw [min_lineStartOffset, min_lineStartOffset]
    apply hLe
    cases (List.drop (top + 1) (lines screen)).findIdx? isHorizontalRule with
    | none => exact topBorderFrom_lt hTop
    | some relative => exact Nat.le_add_right _ _

theorem abovePromptBox_eq : ∃ count,
  abovePromptBox screen = some ((inclusive screen).take count).flatten := by
  unfold abovePromptBox
  dsimp only
  split
  · refine ⟨(inclusive screen).length, ?_⟩
    rw [List.take_length, flatten_inclusive]
  · rw [min_lineStartOffset]
    exact ⟨_, sliceTo_lineStartOffset hLf _⟩

theorem abovePromptBox_cutsLines : CutsLines screen (abovePromptBox screen) := by
  obtain ⟨count, hAbove⟩ := abovePromptBox_eq hLf
  exact ⟨_, hAbove, isRun_to count⟩

/-- The last line above a prompt box is a line of the screen. -/
theorem lastNonEmptyAbovePromptBox_cutsLines :
  CutsLines screen ((abovePromptBox screen).map lastNonEmptyLine) := by
  obtain ⟨count, hAbove⟩ := abovePromptBox_eq hLf
  rw [hAbove]
  refine ⟨_, rfl, ?_⟩
  unfold lastNonEmptyLine
  cases hFind : (lines ((inclusive screen).take count).flatten).reverse.find?
      fun line => !isBlank line with
  | none => exact isRun_nil
  | some line =>
    have hMem := List.mem_reverse.1 (List.mem_of_find?_eq_some hFind)
    rw [lines, inclusive_flatten_take] at hMem
    obtain ⟨whole, hWhole, rfl⟩ := List.mem_map.1 hMem
    exact isRun_line (List.mem_map.2 ⟨whole, List.mem_of_mem_take hWhole, rfl⟩)

theorem afterLastHorizontalRule_cutsLines : CutsLines screen (afterLastHorizontalRule screen) := by
  rw [afterLastHorizontalRule_eq]
  exact cutsLines_sliceFromLineIndex hLf _

end Regions

/-- The suffix of a rule is cut behind its dashes, between two characters. -/
theorem horizontalRule_isSome (line : List Char) : (horizontalRule line).isSome := by
  unfold horizontalRule
  dsimp only
  split
  · rfl
  split
  · rfl
  have hTrimmed := sliceFrom_append
    ((trimChars line).take ((trimChars line).takeWhile (· = '─')).length)
    ((trimChars line).drop ((trimChars line).takeWhile (· = '─')).length)
  rw [List.take_append_drop] at hTrimmed
  rw [ruleSuffix, hTrimmed]
  rfl

/-- The regions that are no part of the screen. -/
def oscRegions : List String := ["osc_title", "osc_progress"]

/-- The regions that are found without an offset. -/
def uncutRegions : List String :=
  ["whole_recent", "whole_recent_without_current_prompt_marker", "current_prompt_block_marker"]

theorem uncutRegion_cutsLines (input : DetectionInput) {spec : String}
  (hSpec : trim spec ∈ uncutRegions) : CutsLines input.screen (region input spec) := by
  unfold region
  simp only [uncutRegions, List.mem_cons, List.not_mem_nil, or_false] at hSpec
  rcases hSpec with hSpec | hSpec | hSpec
  · rw [hSpec]
    exact ⟨_, rfl, isRun_screen⟩
  · rw [hSpec]
    refine ⟨_, rfl, ?_⟩
    unfold wholeRecentWithoutCurrentPromptMarker
    split
    · exact isRun_nil
    · exact isRun_screen
  · rw [hSpec]
    refine ⟨_, rfl, ?_⟩
    cases hMarker : currentPromptBlockMarker input.screen with
    | none => exact isRun_nil
    | some line =>
      obtain ⟨promptIndex, -, hFind⟩ := Option.bind_eq_some_iff.1 hMarker
      have hMem := List.mem_reverse.1 (List.mem_of_find?_eq_some hFind)
      exact isRun_line (List.mem_of_mem_take hMem)

theorem region_cutsLines (input : DetectionInput) {spec : String} (hSpec : trim spec ∉ oscRegions)
  (hLf : LfEnds input.screen) : CutsLines input.screen (region input spec) := by
  by_cases hUncut : trim spec ∈ uncutRegions
  · exact uncutRegion_cutsLines input hUncut
  simp only [oscRegions, uncutRegions, List.mem_cons, List.not_mem_nil, or_false, not_or]
    at hSpec hUncut
  unfold region
  dsimp only
  split
  case h_1 hTitle => exact absurd hTitle hSpec.1
  case h_2 hProgress => exact absurd hProgress hSpec.2
  case h_3 hWhole => exact absurd hWhole hUncut.1
  case h_4 => exact afterLastPromptMarker_cutsLines hLf
  case h_5 => exact beforeCurrentPromptMarker_cutsLines hLf
  case h_6 hWithout => exact absurd hWithout hUncut.2.1
  case h_7 hMarker => exact absurd hMarker hUncut.2.2
  case h_8 => exact afterCurrentPromptBlockMarker_cutsLines hLf
  case h_9 => exact promptBoxBody_cutsLines hLf
  case h_10 => exact abovePromptBox_cutsLines hLf
  case h_11 => exact lastNonEmptyAbovePromptBox_cutsLines hLf
  case h_12 => exact afterLastHorizontalRule_cutsLines hLf
  case h_13 =>
    split
    · exact bottomLines_cutsLines hLf _
    split
    · exact bottomNonEmptyLines_cutsLines hLf _
    split
    · exact topNonEmptyLines_cutsLines hLf _
    · exact ⟨[], rfl, isRun_nil⟩

/-- A region is a field of its own or cut out of the screen in whole lines, which needs no offset
or lines that end in a line feed alone. -/
theorem region_is_lines (input : DetectionInput) (spec : String) :
  (trim spec = "osc_title" → region input spec = some input.oscTitle) ∧
  (trim spec = "osc_progress" → region input spec = some input.oscProgress) ∧
  (trim spec ∈ uncutRegions → CutsLines input.screen (region input spec)) ∧
  (trim spec ∉ oscRegions → LfEnds input.screen →
    CutsLines input.screen (region input spec)) ∧
  ∀ line, (horizontalRule line).isSome := by
  refine ⟨fun hTitle => ?_, fun hProgress => ?_, uncutRegion_cutsLines input,
    region_cutsLines input, horizontalRule_isSome⟩
  · rw [region, hTitle]
    rfl
  · rw [region, hProgress]
    rfl

/-- The last of two lines, with its two bytes of one character. -/
theorem region_is_lines_bottom :
  CutsLines "x\né".toList (region ⟨"x\né".toList, [], []⟩ " bottom_lines(1)") :=
  (region_is_lines ⟨"x\né".toList, [], []⟩ " bottom_lines(1)").2.2.2.1 (by decide +kernel)
    (by decide +kernel)

/-- A region may be accepted and be no part of the screen. -/
theorem not_region_is_lines :
  ¬ ∀ (input : DetectionInput) (spec : String), validateRegionName spec = .ok () →
    CutsLines input.screen (region input spec) := by
  intro hAll
  obtain ⟨run, hRegion, start, count, hRun⟩ := hAll ⟨[], ['x'], []⟩ "osc_title" (by decide +kernel)
  have hTitle : region ⟨[], ['x'], []⟩ "osc_title" = some ['x'] := by decide +kernel
  rw [hTitle] at hRegion
  cases hRegion
  rcases hRun with hRun | ⟨line, hLine, -⟩
  · simp at hRun
  · simp at hLine

theorem region_crlf : region ⟨"\r\n\r\né\r\nx".toList, [], []⟩ "bottom_lines(1)" = none := by
  decide +kernel

/-! ## The offsets of the cuts -/

/-- The line behind a prompt box. -/
def promptBoxEnd (lines : List (List Char)) (top : Nat) : Nat :=
  (((lines.drop (top + 1)).findIdx? isHorizontalRule).map fun relative => top + 1 + relative).getD
    lines.length

/-- The lines at whose offsets a region is cut. -/
def regionCuts (lines : List (List Char)) (trimmed : String) : List Nat :=
  match trimmed with
  | "osc_title" | "osc_progress" | "whole_recent" => []
  | "after_last_prompt_marker" => ((lastPosition codexPromptLine lines).map (· + 1)).toList
  | "before_current_prompt_marker" => (currentCodexPromptIndex lines).toList
  | "whole_recent_without_current_prompt_marker" | "current_prompt_block_marker" => []
  | "after_current_prompt_block_marker" => (currentPromptBlockIndex lines).toList
  | "prompt_box_body" =>
    ((promptBoxTopBorderIndex lines).map fun top => [top + 1, promptBoxEnd lines top]).getD []
  | "above_prompt_box" | "last_non_empty_above_prompt_box" =>
    (promptBoxTopBorderIndex lines).toList
  | "after_last_horizontal_rule" =>
    [((positions isHorizontalRule lines).getLast?.map (· + 1)).getD 0]
  | _ =>
    match regionCount trimmed "bottom_lines" with
    | some count => [lines.length - count]
    | none =>
      match regionCount trimmed "bottom_non_empty_lines" with
      | some count => ((positions (!isBlank ·) lines).reverse.take count).getLast?.toList
      | none =>
        match topRegionCount trimmed with
        | some count =>
          (((positions (!isBlank ·) lines).take count).getLast?.map (· + 1)).toList
        | none => []

/-- The lengths of the lines, with one byte for every end, lead to places between characters. -/
def CutsBetween (screen : List Char) (spec : String) : Prop :=
  ∀ index ∈ regionCuts (lines screen) (trim spec),
    IsBoundary screen (lineStartOffset screen (lines screen) index)

theorem lineStartOffset_mono (screen : List Char) (lines : List (List Char)) {start stop : Nat}
  (hLe : start ≤ stop) : lineStartOffset screen lines start ≤ lineStartOffset screen lines stop := by
  have hTake : (lines.take stop).take start = lines.take start := by
    rw [List.take_take, Nat.min_eq_left hLe]
  have hSum : ((lines.take start).map fun line => byteLength line + 1).sum ≤
      ((lines.take stop).map fun line => byteLength line + 1).sum := by
    conv_rhs => rw [← List.take_append_drop start (lines.take stop), List.map_append,
      List.sum_append, hTake]
    exact Nat.le_add_right _ _
  unfold lineStartOffset
  omega

theorem sliceFromLineIndex_isSome_iff {screen : List Char} (index : Nat) :
  (sliceFromLineIndex screen (lines screen) index).isSome ↔
    IsBoundary screen (lineStartOffset screen (lines screen) index) := by
  rw [sliceFromLineIndex, min_lineStartOffset, sliceFrom_isSome_iff]

/-- The program stops on the way to a region exactly if a cut of it falls inside a character. -/
theorem region_isSome_iff (input : DetectionInput) (spec : String) :
  (region input spec).isSome ↔ CutsBetween input.screen spec := by
  unfold region CutsBetween regionCuts
  dsimp only
  generalize trim spec = trimmed
  split
  case h_1 => simp
  case h_2 => simp
  case h_3 => simp
  case h_4 =>
    unfold afterLastPromptMarker
    dsimp only
    cases lastPosition codexPromptLine (lines input.screen) with
    | none => simp
    | some index => simp [sliceFromLineIndex_isSome_iff]
  case h_5 =>
    unfold beforeCurrentPromptMarker
    dsimp only
    cases currentCodexPromptIndex (lines input.screen) with
    | none => simp
    | some index =>
      rw [sliceTo_isSome_iff]
      simp [lineStartOffset]
  case h_6 => simp
  case h_7 => simp
  case h_8 =>
    unfold afterCurrentPromptBlockMarker
    dsimp only
    cases currentPromptBlockIndex (lines input.screen) with
    | none => simp
    | some index => simp [sliceFromLineIndex_isSome_iff]
  case h_9 =>
    unfold promptBoxBody
    dsimp only
    cases hTop : promptBoxTopBorderIndex (lines input.screen) with
    | none => simp
    | some top =>
      have hEnd : top + 1 ≤ promptBoxEnd (lines input.screen) top := by
        unfold promptBoxEnd
        cases ((lines input.screen).drop (top + 1)).findIdx? isHorizontalRule with
        | none => exact topBorderFrom_lt hTop
        | some relative => exact Nat.le_add_right _ _
      dsimp only
      rw [min_lineStartOffset, min_lineStartOffset, ← promptBoxEnd,
        slice_isSome_iff (lineStartOffset_mono _ _ hEnd)]
      simp
  case h_10 =>
    unfold abovePromptBox
    dsimp only
    cases promptBoxTopBorderIndex (lines input.screen) with
    | none => simp
    | some top =>
      show (sliceTo _ _).isSome ↔ _
      rw [min_lineStartOffset, sliceTo_isSome_iff]
      simp
  case h_11 =>
    rw [Option.isSome_map]
    unfold abovePromptBox
    dsimp only
    cases promptBoxTopBorderIndex (lines input.screen) with
    | none => simp
    | some top =>
      show (sliceTo _ _).isSome ↔ _
      rw [min_lineStartOffset, sliceTo_isSome_iff]
      simp
  case h_12 =>
    rw [afterLastHorizontalRule_eq, sliceFromLineIndex_isSome_iff]
    simp
  case h_13 =>
    cases regionCount trimmed "bottom_lines" with
    | some count => simp [bottomLines, sliceFromLineIndex_isSome_iff]
    | none =>
      cases regionCount trimmed "bottom_non_empty_lines" with
      | some count =>
        simp only [bottomNonEmptyLines]
        cases ((positions (!isBlank ·) (lines input.screen)).reverse.take count).getLast? with
        | none => simp
        | some index => simp [sliceFromLineIndex_isSome_iff]
      | none =>
        cases topRegionCount trimmed with
        | some count =>
          simp only [topNonEmptyLines]
          cases ((positions (!isBlank ·) (lines input.screen)).take count).getLast? with
          | none => simp
          | some index => simp [sliceTo_isSome_iff]
        | none => simp

end Detect
