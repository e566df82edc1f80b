import VimeflowTerminal.Detect.Agent

/-! Comparing screens by their text, and aligning a screen with the one shown
before it was scrolled up. -/

namespace Terminal

inductive CellWide where
  | narrow
  | wide
  | spacerTail
  | spacerHead
  deriving DecidableEq

structure ScreenTextCell where
  wide : CellWide
  graphemes : List Nat
  deriving DecidableEq

structure ScreenTextRow where
  cells : List ScreenTextCell
  softWrapped : Bool
  wrapContinuation : Bool
  deriving DecidableEq

structure ScreenSnapshot where
  cols : Nat
  rows : List ScreenTextRow
  deriving DecidableEq

def kittyUnicodePlaceholder : Nat := 0x10EEEE

/-- `char::from_u32`, with the replacement character for what is no scalar value. -/
def charOfCodepoint (codepoint : Nat) : Char :=
  if codepoint.isValidChar then Char.ofNat codepoint else '\uFFFD'

def cellText (cell : ScreenTextCell) : List Char :=
  if cell.wide = .spacerTail then []
  else if cell.graphemes = [] ∨ cell.graphemes.head? = some kittyUnicodePlaceholder then [' ']
  else cell.graphemes.map charOfCodepoint

def rowText (row : ScreenTextRow) : List Char := row.cells.flatMap cellText

def trimEnd (text : List Char) : List Char := (text.reverse.dropWhile Detect.isWhitespace).reverse

def rowIdentities (rows : List ScreenTextRow) : List (List Char) :=
  rows.map fun row => trimEnd (rowText row)

def minAlignmentRatioPercent : Nat := 30

def similarViewportRatioPercent : Nat := 70

def ScreenSnapshot.similarText (screen other : ScreenSnapshot) : Bool :=
  if screen.cols ≠ other.cols ∨ screen.rows.length ≠ other.rows.length then false
  else
    let pairs := ((rowIdentities screen.rows).zip (rowIdentities other.rows)).filter fun pair =>
      !pair.1.isEmpty || !pair.2.isEmpty
    let found := pairs.countP fun pair => pair.1 = pair.2
    pairs.length = 0 || pairs.length * similarViewportRatioPercent ≤ found * 100

/-- Of how many nonempty pairs of rows the texts agree, if one screen is the other
shifted down. -/
def alignment (previous next : List (List Char)) (shift : Nat) : Nat × Nat :=
  let pairs := (previous.zip (next.drop shift)).filter fun pair =>
    !pair.1.isEmpty && !pair.2.isEmpty
  (pairs.countP fun pair => pair.1 = pair.2, pairs.length)

/-- The shift with the most agreeing rows, the earliest of the best ones. -/
def bestUpwardShift (previous next : List (List Char)) : Option Nat :=
  let improve (best : Option (Nat × Nat × Nat)) (shift : Nat) :=
    let (found, comparable) := alignment previous next shift
    if comparable = 0 ∨ found * 100 < comparable * minAlignmentRatioPercent then best
    else
      match best with
      | none => some (shift, found, comparable)
      | some (_, bestFound, bestComparable) =>
        if bestFound < found ∨ (found = bestFound ∧ bestComparable < comparable) then
          some (shift, found, comparable)
        else best
  (((List.range previous.length).drop 1).foldl improve none).map (·.1)

inductive UpwardMerge where
  | advanced (rows : Nat)
  | unchanged
  | unaligned
  deriving DecidableEq

/-- The first row of the previous screen that is found again in the shifted one. -/
def mergeBoundary (previous next : List (List Char)) (shift : Nat) : Option Nat :=
  (List.range (previous.length - shift)).findSome? fun index =>
    match previous[index]? with
    | some text =>
      if !text.isEmpty && decide (next[index + shift]? = some text) then some (index + shift)
      else none
    | none => none

/-- Put the rows that a scroll brought into view before the history. -/
def mergeScrolledUp (history : List ScreenTextRow) (previous next : ScreenSnapshot) :
  List ScreenTextRow × UpwardMerge :=
  if previous.cols ≠ next.cols ∨ previous.rows.length ≠ next.rows.length then (history, .unaligned)
  else
    let previousText := rowIdentities previous.rows
    let nextText := rowIdentities next.rows
    if previousText = nextText then (history, .unchanged)
    else
      match (bestUpwardShift previousText nextText).bind (mergeBoundary previousText nextText) with
      | none => (history, .unaligned)
      | some boundary =>
        let added := (((next.rows.take boundary).zip nextText).zipIdx.filter fun entry =>
          entry.1.2.isEmpty || decide (previousText[entry.2]? ≠ some entry.1.2)).map (·.1.1)
        if added.isEmpty then (history, .unaligned)
        else (added ++ history, .advanced added.length)

def linesToText (lines : List (List Char)) : String :=
  let text := List.intercalate ['\n'] lines
  String.ofList (if text.isEmpty then [] else text ++ ['\n'])

/-- Drop the blank lines at the end. -/
def dropBlankEnd (lines : List (List Char)) : List (List Char) :=
  (lines.reverse.dropWhile fun line => (Detect.trimChars line).isEmpty).reverse

def wrappedText (rows : List ScreenTextRow) : String :=
  linesToText (dropBlankEnd (rowIdentities rows))

/-- The lines of rows joined at soft wraps. -/
def unwrappedLines (current : List Char) : List ScreenTextRow → List (List Char)
  | [] => if current.isEmpty then [] else [current]
  | row :: rows =>
    let current := current ++ trimEnd (rowText row)
    if row.softWrapped then unwrappedLines current rows else current :: unwrappedLines [] rows

def unwrappedText (rows : List ScreenTextRow) : String :=
  linesToText (dropBlankEnd (unwrappedLines [] rows))

structure TerminalReadSnapshot where
  text : String
  truncated : Bool
  deriving DecidableEq

def snapshotText (rows : List ScreenTextRow) (lines : Nat) (unwrap truncated : Bool) :
  TerminalReadSnapshot :=
  let rows := rows.drop (rows.length - lines)
  ⟨if unwrap then unwrappedText rows else wrappedText rows, truncated⟩

end Terminal
