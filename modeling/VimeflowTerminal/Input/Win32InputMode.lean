import VimeflowTerminal.Data.Decimal
import VimeflowTerminal.Input.ByteFramer

/-! A console in that mode writes each key record as `ESC [ vk ; sc ; uc ; kd ; cs ; rc _`. The
framer takes the records out of the bytes around them. -/

namespace Input

open Search Streaming Text

def parseWin32InputModeKeyRecord (body : List UInt8) : Option WindowsKeyRecord :=
  match body.splitOn 0x3b with
  | [virtualKeyCode, virtualScanCode, unicode, keyDown, controlKeyState, repeatCount] => do
    let virtualKeyCode ← parseUnsignedBytes (2 ^ 16) virtualKeyCode
    let virtualScanCode ← parseUnsignedBytes (2 ^ 16) virtualScanCode
    let unicode ← parseUnsignedBytes (2 ^ 16) unicode
    let keyDown ← parseUnsignedBytes (2 ^ 16) keyDown
    let controlKeyState ← parseUnsignedBytes (2 ^ 32) controlKeyState
    let repeatCount ← parseUnsignedBytes (2 ^ 16) repeatCount
    some
      { keyDown := decide (keyDown ≠ 0)
        repeatCount, virtualKeyCode, virtualScanCode, unicode, controlKeyState }
  | _ => none

inductive WindowsWin32InputModeItem
  | bytes (content : List UInt8)
  | key (content : List UInt8) (record : WindowsKeyRecord)
  deriving DecidableEq

/-- The bytes an item was made of. -/
def WindowsWin32InputModeItem.content : WindowsWin32InputModeItem → List UInt8
  | .bytes content => content
  | .key content _ => content

/-- A sequence with its body between the introducer and the last byte. -/
def win32Sequence (body : List UInt8) : List UInt8 := ESC :: 0x5b :: (body ++ [0x5f])

namespace WindowsWin32InputModeFramer

def sequenceItem (body : List UInt8) : WindowsWin32InputModeItem :=
  match parseWin32InputModeKeyRecord body with
  | some record => .key (win32Sequence body) record
  | none => .bytes (win32Sequence body)

/-- `next_item` on the buffer: the item with the rest of the buffer. -/
def nextItem : List UInt8 → Option (WindowsWin32InputModeItem × List UInt8)
  | [] => none
  | [byte] => if byte = ESC then none else some (.bytes [byte], [])
  | first :: second :: rest =>
    if first = ESC ∧ second = 0x5b then
      match rest.dropWhile isDigitOrSemicolon with
      | [] => none
      | last :: later =>
        if last = 0x5f then some (sequenceItem (rest.takeWhile isDigitOrSemicolon), later)
        else some (.bytes [first], second :: rest)
    else some (.bytes [first], second :: rest)

theorem nextItem_sequence {body : List UInt8} (hBody : ∀ byte ∈ body, isDigitOrSemicolon byte = true)
  (rest : List UInt8) :
  nextItem (win32Sequence body ++ rest) = some (sequenceItem body, rest) := by
  have hBytes : win32Sequence body ++ rest = ESC :: 0x5b :: (body ++ 0x5f :: rest) := by
    simp [win32Sequence]
  have hStop : isDigitOrSemicolon 0x5f = false := by decide
  have hDrop : (body ++ 0x5f :: rest).dropWhile isDigitOrSemicolon = 0x5f :: rest := by
    rw [List.dropWhile_append_of_pos hBody, List.dropWhile_cons, hStop]
    rfl
  have hTake : (body ++ 0x5f :: rest).takeWhile isDigitOrSemicolon = body := by
    rw [List.takeWhile_append_of_pos hBody, List.takeWhile_cons, hStop]
    exact List.append_nil body
  rw [hBytes, nextItem, if_pos ⟨rfl, rfl⟩, hDrop, hTake]
  rfl

variable {buffer after : List UInt8} {item : WindowsWin32InputModeItem}

/-- An item is a whole sequence or the first byte of the buffer. -/
theorem nextItem_cases (hNext : nextItem buffer = some (item, after)) :
  (∃ body, (∀ byte ∈ body, isDigitOrSemicolon byte = true) ∧
      buffer = win32Sequence body ++ after ∧ item = sequenceItem body) ∨
    ∃ byte, buffer = byte :: after ∧ item = .bytes [byte] := by
  unfold nextItem at hNext
  split at hNext
  case h_1 => cases hNext
  case h_2 byte =>
    obtain ⟨-, hItem⟩ := Option.ite_none_left_eq_some.1 hNext
    cases hItem
    exact Or.inr ⟨byte, rfl, rfl⟩
  case h_3 first second rest =>
    split at hNext
    case isTrue hStart =>
      obtain ⟨rfl, rfl⟩ := hStart
      split at hNext
      case h_1 => cases hNext
      case h_2 last later hDrop =>
        split at hNext
        case isTrue hLast =>
          cases hNext
          refine Or.inl ⟨rest.takeWhile isDigitOrSemicolon,
            fun byte hMem => List.mem_takeWhile_imp hMem, ?_, rfl⟩
          have hWhole := List.takeWhile_append_dropWhile (p := isDigitOrSemicolon) (l := rest)
          rw [hDrop, hLast] at hWhole
          simp only [win32Sequence, List.cons_append, List.append_assoc, List.nil_append,
            hWhole]
        case isFalse =>
          cases hNext
          exact Or.inr ⟨ESC, rfl, rfl⟩
    case isFalse =>
      cases hNext
      exact Or.inr ⟨first, rfl, rfl⟩

theorem sequenceItem_content (body : List UInt8) :
  (sequenceItem body).content = win32Sequence body := by
  unfold sequenceItem
  split <;> rfl

theorem nextItem_content (hNext : nextItem buffer = some (item, after)) :
  item.content ++ after = buffer ∧ item.content ≠ [] := by
  rcases nextItem_cases hNext with ⟨body, -, rfl, rfl⟩ | ⟨byte, rfl, rfl⟩
  · rw [sequenceItem_content]
    exact ⟨rfl, List.cons_ne_nil _ _⟩
  · exact ⟨rfl, List.cons_ne_nil _ _⟩

/-- More input does not change an item. -/
theorem nextItem_append (hNext : nextItem buffer = some (item, after)) (data : List UInt8) :
  nextItem (buffer ++ data) = some (item, after ++ data) := by
  rcases nextItem_cases hNext with ⟨body, hBody, rfl, rfl⟩ | ⟨byte, rfl, rfl⟩
  · rw [List.append_assoc]
    exact nextItem_sequence hBody (after ++ data)
  cases after with
  | nil =>
    have hText : byte ≠ ESC := (Option.ite_none_left_eq_some.1 hNext).1
    cases data with
    | nil => exact hNext
    | cons second data => exact if_neg fun hStart => hText hStart.1
  | cons second rest =>
    show nextItem (byte :: second :: (rest ++ data)) = _
    rw [nextItem] at hNext ⊢
    split at hNext
    case isTrue hStart =>
      rw [if_pos hStart]
      split at hNext
      case h_1 => cases hNext
      case h_2 last later hDrop =>
        have hMore : (rest ++ data).dropWhile isDigitOrSemicolon = last :: (later ++ data) := by
          rw [List.dropWhile_append, hDrop]
          rfl
        rw [hMore]
        split at hNext
        case isTrue =>
          -- A whole sequence leaves less of the buffer than that.
          have hLater := (Prod.mk.inj (Option.some.inj hNext)).2
          have hLength := (List.dropWhile_suffix isDigitOrSemicolon (l := rest)).length_le
          rw [hDrop, hLater, List.length_cons, List.length_cons] at hLength
          omega
        case isFalse hOther => exact if_neg hOther
    case isFalse hStart => exact if_neg hStart

/-- A buffer that waits holds no end of a sequence. -/
theorem nextItem_none (hNone : nextItem buffer = none) : 0x5f ∉ buffer := by
  unfold nextItem at hNone
  split at hNone
  case h_1 => exact List.not_mem_nil
  case h_2 byte =>
    split at hNone
    case isTrue hByte =>
      rw [hByte]
      decide
    case isFalse => cases hNone
  case h_3 first second rest =>
    split at hNone
    case isTrue hStart =>
      obtain ⟨rfl, rfl⟩ := hStart
      split at hNone
      case h_1 hDrop =>
        have hAll := List.dropWhile_eq_nil_iff.1 hDrop
        intro hMem
        rcases List.mem_cons.1 hMem with hEscape | hMem
        · exact absurd hEscape (by decide)
        rcases List.mem_cons.1 hMem with hBracket | hMem
        · exact absurd hBracket (by decide)
        · exact absurd (hAll 0x5f hMem) (by decide)
      case h_2 => split at hNone <;> cases hNone
    case isFalse => cases hNone

def reader : Reader UInt8 (List UInt8) WindowsWin32InputModeItem where
  feed data buffer := buffer ++ data
  step buffer :=
    match nextItem buffer with
    | none => .wait buffer
    | some (item, after) => .next [item] after
  measure := List.length
  feed_append xs ys buffer := (List.append_assoc buffer xs ys).symm
  decreases {buffer pieces after} hStep := by
    cases hNext : nextItem buffer with
    | none => rw [hNext] at hStep; cases hStep
    | some taken =>
      obtain ⟨item, rest⟩ := taken
      rw [hNext] at hStep
      obtain ⟨-, rfl⟩ := Step.next.inj hStep
      obtain ⟨rfl, hSome⟩ := nextItem_content hNext
      have := List.length_pos_iff.2 hSome
      rw [List.length_append]
      omega

theorem reader_wait (hStep : reader.step buffer = .wait after) :
  nextItem buffer = none ∧ after = buffer := by
  unfold reader at hStep
  dsimp only at hStep
  split at hStep
  case h_1 hNone => exact ⟨hNone, (Step.wait.inj hStep).symm⟩
  case h_2 => cases hStep

theorem reader_next {pieces : List WindowsWin32InputModeItem}
  (hStep : reader.step buffer = .next pieces after) :
  ∃ item, pieces = [item] ∧ nextItem buffer = some (item, after) := by
  unfold reader at hStep
  dsimp only at hStep
  split at hStep
  case h_1 => cases hStep
  case h_2 item rest hNext =>
    obtain ⟨rfl, rfl⟩ := Step.next.inj hStep
    exact ⟨item, rfl, hNext⟩

theorem reader_step_none (hNone : nextItem buffer = none) : reader.step buffer = .wait buffer := by
  simp only [reader, hNone]

theorem reader_step_some (hNext : nextItem buffer = some (item, after)) :
  reader.step buffer = .next [item] after := by
  simp only [reader, hNext]

theorem reader_never (buffer : List UInt8) : reader.step buffer ≠ .fail := by
  unfold reader
  dsimp only
  split <;> exact fun hFail => by cases hFail

theorem stable_reader : reader.Stable fun _ => True where
  feed _ _ := trivial
  wait _ hStep := (reader_wait hStep).2
  fail _ _ hStep := absurd hStep (reader_never _)
  next {buffer pieces after} _ hStep := by
    obtain ⟨item, rfl, hNext⟩ := reader_next hStep
    exact ⟨trivial, fun data => reader_step_some (nextItem_append hNext data)⟩

/-- `push`: the items of the buffer with the bytes, and what is left of it. -/
def push (buffer bytes : List UInt8) : List WindowsWin32InputModeItem × List UInt8 :=
  (reader.push bytes buffer).getD ([], buffer ++ bytes)

theorem push_eq (buffer bytes : List UInt8) :
  reader.push bytes buffer = some (push buffer bytes) := by
  obtain ⟨done, hRun⟩ := reader.run_isSome reader_never (reader.feed bytes buffer)
  have hPush : reader.push bytes buffer = some done := hRun
  rw [push, hPush]
  rfl

/-- Push one input after the other. -/
def pushAll (buffer : List UInt8) :
  List (List UInt8) → List WindowsWin32InputModeItem × List UInt8
  | [] => ([], buffer)
  | bytes :: pushes =>
    let (first, middle) := push buffer bytes
    let (rest, last) := pushAll middle pushes
    (first ++ rest, last)

theorem push_waits (buffer bytes : List UInt8) : nextItem (push buffer bytes).2 = none := by
  have hRun := push_eq buffer bytes
  generalize push buffer bytes = done at hRun
  obtain ⟨items, last⟩ := done
  obtain ⟨before, hStep⟩ := reader.run_waits hRun
  obtain ⟨hNone, rfl⟩ := reader_wait hStep
  exact hNone

theorem push_append (buffer xs ys : List UInt8) :
  push buffer (xs ++ ys) =
    ((push buffer xs).1 ++ (push (push buffer xs).2 ys).1, (push (push buffer xs).2 ys).2) := by
  have hBoth := @Reader.Stable.push_append _ _ _ _ _ stable_reader buffer trivial xs ys
  simp only [push_eq, Option.bind_some, Option.map_some, Option.some.injEq] at hBoth
  exact hBoth

theorem push_nil (hWaits : nextItem buffer = none) : push buffer [] = ([], buffer) := by
  have hFed : reader.feed [] buffer = buffer := List.append_nil buffer
  have hStep : reader.step (reader.feed [] buffer) = .wait buffer := by
    rw [hFed]
    exact reader_step_none hWaits
  have hRun := reader.run_eq (reader.feed [] buffer)
  rw [hStep] at hRun
  have hPush := push_eq buffer []
  rw [Reader.push, hRun] at hPush
  exact (Option.some.inj hPush).symm

theorem pushAll_eq_push {buffer : List UInt8} (hWaits : nextItem buffer = none)
  (pushes : List (List UInt8)) : pushAll buffer pushes = push buffer pushes.flatten := by
  induction pushes generalizing buffer with
  | nil => exact (push_nil hWaits).symm
  | cons bytes pushes ih =>
    rw [List.flatten_cons, push_append, ← ih (push_waits buffer bytes)]
    rfl

theorem push_content (buffer bytes : List UInt8) :
  (push buffer bytes).1.flatMap WindowsWin32InputModeItem.content ++ (push buffer bytes).2 =
    buffer ++ bytes := by
  have hStep : ∀ {state after : List UInt8} {pieces : List WindowsWin32InputModeItem}, True →
      reader.step state = .next pieces after →
      pieces.flatMap WindowsWin32InputModeItem.content ++ id after = id state := by
    intro state after pieces _ hStep
    obtain ⟨item, rfl, hNext⟩ := reader_next hStep
    rw [List.flatMap_singleton]
    exact (nextItem_content hNext).1
  exact stable_reader.run_content rfl (fun _ _ => List.flatMap_append) hStep trivial
    (push_eq buffer bytes)

end WindowsWin32InputModeFramer

/-- Six decimal fields. -/
structure KeyFields where
  virtualKeyCode : Digits
  virtualScanCode : Digits
  unicode : Digits
  keyDown : Digits
  controlKeyState : Digits
  repeatCount : Digits

namespace KeyFields

def all (fields : KeyFields) : List Digits :=
  [fields.virtualKeyCode, fields.virtualScanCode, fields.unicode, fields.keyDown,
    fields.controlKeyState, fields.repeatCount]

def body (fields : KeyFields) : List UInt8 := [0x3b].intercalate (fields.all.map Digits.bytes)

/-- Each field has a number. -/
def Decimal (fields : KeyFields) : Prop := ∀ digits ∈ fields.all, digits.chars ≠ []

/-- Each number fits its field of a key record. -/
structure Fits (fields : KeyFields) : Prop where
  virtualKeyCode : fields.virtualKeyCode.value < 2 ^ 16
  virtualScanCode : fields.virtualScanCode.value < 2 ^ 16
  unicode : fields.unicode.value < 2 ^ 16
  keyDown : fields.keyDown.value < 2 ^ 16
  controlKeyState : fields.controlKeyState.value < 2 ^ 32
  repeatCount : fields.repeatCount.value < 2 ^ 16

def record (fields : KeyFields) : WindowsKeyRecord where
  keyDown := decide (fields.keyDown.value ≠ 0)
  repeatCount := fields.repeatCount.value
  virtualKeyCode := fields.virtualKeyCode.value
  virtualScanCode := fields.virtualScanCode.value
  unicode := fields.unicode.value
  controlKeyState := fields.controlKeyState.value

theorem isDigitOrSemicolon_body (fields : KeyFields) :
  ∀ byte ∈ fields.body, isDigitOrSemicolon byte = true := by
  intro byte hMem
  rcases mem_intercalate hMem with rfl | ⟨part, hPart, hMem⟩
  · rfl
  obtain ⟨digits, -, rfl⟩ := List.mem_map.1 hPart
  obtain ⟨hLow, hHigh⟩ := digits.bounds byte hMem
  rw [isDigitOrSemicolon, decide_eq_true hLow, decide_eq_true hHigh]
  rfl

theorem splitOn_body (fields : KeyFields) :
  fields.body.splitOn 0x3b = fields.all.map Digits.bytes := by
  refine List.splitOn_intercalate _ (fun part hPart hMem => ?_) (List.cons_ne_nil _ _)
  obtain ⟨digits, -, rfl⟩ := List.mem_map.1 hPart
  exact absurd (digits.bounds _ hMem).2 (by decide)

theorem parse_body (fields : KeyFields) (record : WindowsKeyRecord) :
  parseWin32InputModeKeyRecord fields.body = some record ↔
    fields.Decimal ∧ fields.Fits ∧ record = fields.record := by
  unfold parseWin32InputModeKeyRecord
  rw [splitOn_body]
  simp only [all, List.map_cons, List.map_nil, Option.bind_eq_bind, Option.bind_eq_some_iff,
    parseUnsignedBytes_eq_some_iff (Nat.two_pow_pos 16),
    parseUnsignedBytes_eq_some_iff (Nat.two_pow_pos 32), Option.some.injEq]
  constructor
  · rintro ⟨_, ⟨hVk, hVkFits, rfl⟩, _, ⟨hScan, hScanFits, rfl⟩, _, ⟨hUnicode, hUnicodeFits, rfl⟩,
      _, ⟨hDown, hDownFits, rfl⟩, _, ⟨hControl, hControlFits, rfl⟩, _, ⟨hCount, hCountFits, rfl⟩,
      rfl⟩
    refine ⟨?_, ⟨hVkFits, hScanFits, hUnicodeFits, hDownFits, hControlFits, hCountFits⟩, rfl⟩
    simp [Decimal, all, hVk, hScan, hUnicode, hDown, hControl, hCount]
  · rintro ⟨hDecimal, hFits, rfl⟩
    have hSome : ∀ digits ∈ fields.all, digits.chars ≠ [] := hDecimal
    simp only [all, List.forall_mem_cons] at hSome
    obtain ⟨hVk, hScan, hUnicode, hDown, hControl, hCount, -⟩ := hSome
    exact ⟨_, ⟨hVk, hFits.virtualKeyCode, rfl⟩, _, ⟨hScan, hFits.virtualScanCode, rfl⟩, _,
      ⟨hUnicode, hFits.unicode, rfl⟩, _, ⟨hDown, hFits.keyDown, rfl⟩, _,
      ⟨hControl, hFits.controlKeyState, rfl⟩, _, ⟨hCount, hFits.repeatCount, rfl⟩, rfl⟩

end KeyFields

/-- A body of digits and separators that is read has six fields. -/
theorem exists_keyFields {body : List UInt8} {record : WindowsKeyRecord}
  (hBody : ∀ byte ∈ body, isDigitOrSemicolon byte = true)
  (hParse : parseWin32InputModeKeyRecord body = some record) :
  ∃ fields : KeyFields, body = fields.body := by
  have hDigits : ∀ part ∈ body.splitOn 0x3b, ∃ digits : Digits, digits.bytes = part := by
    intro part hPart
    refine exists_digits fun byte hMem => ?_
    obtain ⟨hIn, hOther⟩ := mem_splitOn hPart hMem
    have hByte := hBody byte hIn
    rw [isDigitOrSemicolon, decide_eq_false hOther, Bool.or_false, Bool.and_eq_true_iff] at hByte
    exact ⟨of_decide_eq_true hByte.1, of_decide_eq_true hByte.2⟩
  have hWhole : [0x3b].intercalate (body.splitOn 0x3b) = body := List.intercalate_splitOn 0x3b
  unfold parseWin32InputModeKeyRecord at hParse
  split at hParse
  case h_1 vk scan unicode down control count hSplit =>
    rw [hSplit] at hDigits hWhole
    simp only [List.forall_mem_cons] at hDigits
    obtain ⟨⟨vk, rfl⟩, ⟨scan, rfl⟩, ⟨unicode, rfl⟩, ⟨down, rfl⟩, ⟨control, rfl⟩, ⟨count, rfl⟩, -⟩ :=
      hDigits
    exact ⟨⟨vk, scan, unicode, down, control, count⟩, hWhole.symm⟩
  case h_2 => cases hParse

namespace WindowsWin32InputModeFramer

open WindowsWin32InputModeItem

/-- A key item, with the number of bytes before it. -/
def KeyAt (items : List WindowsWin32InputModeItem) (i : Nat) (bytes : List UInt8)
  (record : WindowsKeyRecord) : Prop :=
  ∃ before after, items = before ++ .key bytes record :: after ∧ (before.flatMap content).length = i

/-- The sequence of such fields stands in the stream. -/
def RecordAt (Wanted : KeyFields → Prop) (stream : List UInt8) (i : Nat) (bytes : List UInt8)
  (record : WindowsKeyRecord) : Prop :=
  ∃ fields : KeyFields, Wanted fields ∧ record = fields.record ∧
    bytes = win32Sequence fields.body ∧ bytes <+: stream.drop i

/-- The fields of a key record. -/
def Wellformed (fields : KeyFields) : Prop := fields.Decimal ∧ fields.Fits

variable {buffer : List UInt8} {i : Nat}

/-- At the front of a buffer a record is the next item. -/
theorem recordAt_zero_iff {bytes : List UInt8} {record : WindowsKeyRecord} :
  RecordAt Wellformed buffer 0 bytes record ↔
    ∃ after, nextItem buffer = some (.key bytes record, after) := by
  constructor
  · rintro ⟨fields, ⟨hDecimal, hFits⟩, rfl, rfl, ⟨after, hBuffer⟩⟩
    have hParse := (fields.parse_body _).2 ⟨hDecimal, hFits, rfl⟩
    refine ⟨after, ?_⟩
    rw [List.drop_zero] at hBuffer
    rw [← hBuffer, nextItem_sequence fields.isDigitOrSemicolon_body, sequenceItem, hParse]
  · rintro ⟨after, hNext⟩
    rcases nextItem_cases hNext with ⟨body, hBody, rfl, hItem⟩ | ⟨byte, -, hItem⟩
    · unfold sequenceItem at hItem
      split at hItem
      case h_1 found hParse =>
        obtain ⟨rfl, rfl⟩ := WindowsWin32InputModeItem.key.inj hItem
        obtain ⟨fields, rfl⟩ := exists_keyFields hBody hParse
        obtain ⟨hDecimal, hFits, hRecord⟩ := (fields.parse_body _).1 hParse
        exact ⟨fields, ⟨hDecimal, hFits⟩, hRecord, rfl, List.prefix_append _ _⟩
      case h_2 => cases hItem
    · cases hItem

theorem keyAt_cons (item : WindowsWin32InputModeItem) (items : List WindowsWin32InputModeItem)
  (i : Nat) (bytes : List UInt8) (record : WindowsKeyRecord) :
  KeyAt (item :: items) i bytes record ↔
    i = 0 ∧ item = .key bytes record ∨
      item.content.length ≤ i ∧ KeyAt items (i - item.content.length) bytes record := by
  constructor
  · rintro ⟨before, after, hItems, rfl⟩
    cases before with
    | nil => exact Or.inl ⟨rfl, (List.cons.inj hItems).1⟩
    | cons first before =>
      obtain ⟨rfl, rfl⟩ := List.cons.inj hItems
      rw [List.flatMap_cons, List.length_append]
      refine Or.inr ⟨Nat.le_add_right _ _, before, after, rfl, ?_⟩
      omega
  · rintro (⟨rfl, rfl⟩ | ⟨hBehind, before, after, rfl, hLength⟩)
    · exact ⟨[], items, rfl, rfl⟩
    · refine ⟨item :: before, after, rfl, ?_⟩
      rw [List.flatMap_cons, List.length_append]
      omega

variable {Wanted : KeyFields → Prop} {stream bytes : List UInt8} {record : WindowsKeyRecord}

theorem escape_of_recordAt (hRecord : RecordAt Wanted stream i bytes record) :
  stream[i]? = some ESC := by
  obtain ⟨fields, -, -, rfl, ⟨rest, hStream⟩⟩ := hRecord
  rw [← List.head?_drop, ← hStream]
  rfl

theorem tail_win32Sequence {body : List UInt8}
  (hBody : ∀ byte ∈ body, isDigitOrSemicolon byte = true) : ESC ∉ (win32Sequence body).tail := by
  intro hMem
  rcases List.mem_cons.1 hMem with hBracket | hMem
  · exact absurd hBracket (by decide)
  rcases List.mem_append.1 hMem with hIn | hLast
  · exact absurd (hBody ESC hIn) (by decide)
  · exact absurd (List.mem_singleton.1 hLast) (by decide)

theorem not_escape_inside {piece rest : List UInt8} (hPiece : ESC ∉ piece.tail) (hAfter : 0 < i)
  (hEscape : (piece ++ rest)[i]? = some ESC) : piece.length ≤ i := by
  by_contra hInside
  rw [List.getElem?_append_left (by omega)] at hEscape
  refine hPiece (List.mem_of_getElem? (i := i - 1) ?_)
  rw [List.getElem?_tail, Nat.sub_add_cancel hAfter]
  exact hEscape

theorem recordAt_disjoint {j : Nat} {other : List UInt8} {otherRecord : WindowsKeyRecord}
  (hFirst : RecordAt Wanted stream i bytes record)
  (hSecond : RecordAt Wanted stream j other otherRecord) (hBefore : i < j) :
  i + bytes.length ≤ j := by
  have hEscape := escape_of_recordAt hSecond
  obtain ⟨fields, -, -, rfl, ⟨rest, hStream⟩⟩ := hFirst
  have hAt : (stream.drop i)[j - i]? = some ESC := by
    rw [List.getElem?_drop, Nat.add_sub_cancel' hBefore.le]
    exact hEscape
  rw [← hStream] at hAt
  have := not_escape_inside (tail_win32Sequence fields.isDigitOrSemicolon_body) (by omega) hAt
  omega

/-- Taking an item off moves the records behind it to the front. -/
theorem recordAt_next {after : List UInt8} {item : WindowsWin32InputModeItem}
  (hNext : nextItem buffer = some (item, after)) (i : Nat) :
  RecordAt Wellformed buffer i bytes record ↔
    i = 0 ∧ item = .key bytes record ∨
      item.content.length ≤ i ∧
        RecordAt Wellformed after (i - item.content.length) bytes record := by
  obtain ⟨hContent, hSome⟩ := nextItem_content hNext
  have hLength := List.length_pos_iff.2 hSome
  by_cases hFront : i = 0
  case pos =>
    subst hFront
    rw [recordAt_zero_iff, hNext]
    constructor
    · rintro ⟨rest, hSame⟩
      exact Or.inl ⟨rfl, (Prod.mk.inj (Option.some.inj hSame)).1⟩
    · rintro (⟨-, rfl⟩ | ⟨hBehind, -⟩)
      · exact ⟨after, rfl⟩
      · omega
  case neg =>
    have hTail : ESC ∉ item.content.tail := by
      rcases nextItem_cases hNext with ⟨body, hBody, -, rfl⟩ | ⟨byte, -, rfl⟩
      · rw [sequenceItem_content]
        exact tail_win32Sequence hBody
      · exact List.not_mem_nil
    have hDrop : item.content.length ≤ i →
        buffer.drop i = after.drop (i - item.content.length) := by
      intro hBehind
      rw [← hContent, List.drop_append, List.drop_eq_nil_of_le hBehind, List.nil_append]
    constructor
    · intro hRecord
      have hEscape := escape_of_recordAt hRecord
      rw [← hContent] at hEscape
      have hBehind := not_escape_inside hTail (by omega) hEscape
      obtain ⟨fields, hWanted, hValue, hBytes, hPrefix⟩ := hRecord
      rw [hDrop hBehind] at hPrefix
      exact Or.inr ⟨hBehind, fields, hWanted, hValue, hBytes, hPrefix⟩
    · rintro (⟨hZero, -⟩ | ⟨hBehind, fields, hWanted, hValue, hBytes, hPrefix⟩)
      · exact absurd hZero hFront
      · rw [← hDrop hBehind] at hPrefix
        exact ⟨fields, hWanted, hValue, hBytes, hPrefix⟩

/-- A run gives the key items of the records in its buffer. -/
theorem keyAt_run_iff {last : List UInt8} {items : List WindowsWin32InputModeItem}
  (hRun : reader.run buffer = some (items, last)) (i : Nat) :
  KeyAt items i bytes record ↔ RecordAt Wellformed buffer i bytes record := by
  induction buffer using Reader.run_induction reader generalizing items last i with
  | hStep buffer ih =>
    rw [reader.run_eq] at hRun
    cases hNext : nextItem buffer with
    | none =>
      rw [reader_step_none hNext] at hRun
      cases hRun
      refine iff_of_false ?_ ?_
      · rintro ⟨before, after, hItems, -⟩
        cases before <;> cases hItems
      rintro ⟨fields, -, -, rfl, hPrefix⟩
      have hEnd : 0x5f ∈ win32Sequence fields.body := by simp [win32Sequence]
      exact nextItem_none hNext (List.mem_of_mem_drop (hPrefix.subset hEnd))
    | some taken =>
      obtain ⟨item, after⟩ := taken
      have hStep := reader_step_some hNext
      rw [hStep] at hRun
      obtain ⟨⟨rest, last'⟩, hRest, hSame⟩ := Option.map_eq_some_iff.1 hRun
      obtain ⟨rfl, -⟩ := Prod.mk.inj hSame
      rw [List.singleton_append, keyAt_cons, recordAt_next hNext i]
      exact or_congr_right (and_congr_right fun _ => ih [item] after hStep hRest _)

/-- What becomes of the pushes depends on their bytes alone, no byte is lost, moved or doubled,
and the key items are the sequences of the wanted fields, none of which is inside another. -/
structure Frames (Wanted : KeyFields → Prop) (pushes : List (List UInt8)) : Prop where
  whole : pushAll [] pushes = push [] pushes.flatten
  lossless : (pushAll [] pushes).1.flatMap content ++ (pushAll [] pushes).2 = pushes.flatten
  keys : ∀ i bytes record, KeyAt (pushAll [] pushes).1 i bytes record ↔
    RecordAt Wanted pushes.flatten i bytes record
  apart : ∀ i j bytes other record otherRecord, RecordAt Wanted pushes.flatten i bytes record →
    RecordAt Wanted pushes.flatten j other otherRecord → i < j → i + bytes.length ≤ j

/-- The framer takes exactly the records out whose numbers fit. -/
theorem frames_wellformed (pushes : List (List UInt8)) : Frames Wellformed pushes := by
  have hWhole := @pushAll_eq_push [] rfl pushes
  refine ⟨hWhole, ?_, fun i bytes record => ?_, fun _ _ _ _ _ _ => recordAt_disjoint⟩
  · rw [hWhole, push_content]
    rfl
  · rw [hWhole]
    exact keyAt_run_iff (push_eq [] pushes.flatten) i

def wideFields : KeyFields :=
  let zero := Digits.ofNat 0
  ⟨Digits.ofNat 70000, zero, zero, zero, zero, zero⟩

/-- A number that does not fit makes six decimal fields no key. -/
theorem not_frames_decimal : ¬ ∀ pushes, Frames KeyFields.Decimal pushes := by
  intro hAll
  have hFrames := hAll [win32Sequence wideFields.body]
  have hDecimal : ∀ digits ∈ wideFields.all, digits.chars ≠ [] := by decide +kernel
  have hRecord : RecordAt KeyFields.Decimal [win32Sequence wideFields.body].flatten 0
      (win32Sequence wideFields.body) wideFields.record :=
    ⟨wideFields, hDecimal, rfl, rfl, by simp⟩
  obtain ⟨before, after, hItems, -⟩ := (hFrames.keys _ _ _).2 hRecord
  have hRun : (pushAll [] [win32Sequence wideFields.body]).1 =
      [.bytes (win32Sequence wideFields.body)] := by decide +kernel
  rw [hRun] at hItems
  have hMem : WindowsWin32InputModeItem.key (win32Sequence wideFields.body) wideFields.record ∈
      [WindowsWin32InputModeItem.bytes (win32Sequence wideFields.body)] := by
    rw [hItems]
    exact List.mem_append_right _ List.mem_cons_self
  cases List.mem_singleton.1 hMem

end WindowsWin32InputModeFramer

end Input
