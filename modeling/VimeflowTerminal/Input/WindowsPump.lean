import VimeflowTerminal.Input.ChunkEvents
import VimeflowTerminal.Input.WindowsVti

/-! What the pump makes of typed characters and of the bytes of a paste, whichever way they come. -/

namespace Input

open Search Streaming Utf8 RawInputByteFramer

variable {isUppercase : Char → Bool}

variable {ch : Char}

theorem stripPrefixList_control {start : List Char} {rest : List Char}
  (hStart : start.head? = some '\x1b') (hControl : isControl ch = false) :
  Text.stripPrefixList start (ch :: rest) = none := by
  refine if_neg fun hPrefix => ?_
  have hSome : start ≠ [] := by
    rintro rfl
    cases hStart
  obtain ⟨first, start, rfl⟩ := List.exists_cons_of_ne_nil hSome
  obtain rfl : first = '\x1b' := Option.some.inj hStart
  obtain rfl : '\x1b' = ch := (List.cons_prefix_cons.1 hPrefix).1
  cases hControl

theorem lookup_none {β : Type} {pairs : List (List Char × β)} {text : List Char}
  (good : List Char → Bool) (hGood : pairs.all (fun pair => good pair.1) = true)
  (hText : good text = false) : pairs.lookup text = none := by
  rw [List.lookup_eq_none_iff]
  intro pair hMem
  refine bne_iff_ne.2 ?_
  rintro rfl
  rw [List.all_eq_true.1 hGood pair hMem] at hText
  cases hText

theorem isControl_iff (ch : Char) :
  isControl ch = false ↔ 32 ≤ ch.toNat ∧ (ch.toNat < 127 ∨ 160 ≤ ch.toNat) := by
  rw [isControl, Bool.or_eq_false_iff, Bool.and_eq_false_iff]
  simp only [decide_eq_false_iff_not]
  omega

/-- A character that is no control character is a key of its own. -/
theorem parseTerminalKeySequence_char (hControl : isControl ch = false) :
  parseTerminalKeySequence [ch] =
    some (TerminalKey.new (.char ch) { KeyModifiers.empty with shift := ch.isUpper }) := by
  have hRange := (isControl_iff ch).1 hControl
  have hKitty : parseKittyKeySequence [ch] = none := by
    rw [parseKittyKeySequence, stripPrefixList_control (by decide) hControl]
    rfl
  have hModify : parseModifyOtherKeysSequence [ch] = none := by
    rw [parseModifyOtherKeysSequence, stripPrefixList_control (by decide) hControl]
    rfl
  have hXterm : parseXtermModifiedSpecialSequence [ch] = none := by
    rw [parseXtermModifiedSpecialSequence, stripPrefixList_control (by decide) hControl]
    rfl
  have hSpecial : legacySpecialKeys.lookup [ch] = none :=
    lookup_none (fun text => decide (text.length ≠ 1)) (by decide) rfl
  have hLegacy : legacyControlKeys.lookup [ch] = none :=
    lookup_none (fun text => text.all isControl) (by decide) (by simp [hControl])
  have hCtrl : parseLegacyCtrlChar ch = none := by
    unfold parseLegacyCtrlChar
    rw [if_neg (by omega), if_neg (by omega)]
    split
    any_goals omega
    rfl
  have hEscape : ch ≠ '\x1b' := by
    rintro rfl
    cases hControl
  have hCharacter : parseLegacyCharacter [ch] =
      some (TerminalKey.new (.char ch) { KeyModifiers.empty with shift := ch.isUpper }) := by
    unfold parseLegacyCharacter
    split
    case h_1 hText => cases hText
    case h_2 hText => exact absurd (List.cons.inj hText).1 hEscape
    case h_3 found hText =>
      obtain rfl := List.singleton_inj.1 hText
      rw [hCtrl]
      rfl
    case h_4 hOther => exact absurd rfl (hOther ch)
  rw [parseTerminalKeySequence, hKitty, hModify, parseLegacyKeySequence, parseLegacySpecialSequence,
    hSpecial]
  simp only [hXterm, hLegacy, hCharacter, Option.none_or]

theorem not_mem_escape (hControl : isControl ch = false) : ESC ∉ String.utf8EncodeChar ch := by
  intro hMem
  obtain ⟨first, rest, hBytes, -, hRest⟩ := eq_cons_utf8EncodeChar ch
  rw [hBytes] at hMem
  rcases List.mem_cons.1 hMem with hFirst | hLater
  · rw [← hFirst] at hBytes
    have hAlone := utf8EncodeChar_of_ascii hBytes (by decide)
    have hSame : String.utf8EncodeChar '\x1b' <+: String.utf8EncodeChar ch := by
      rw [hBytes, utf8EncodeChar_escape, hAlone]
    obtain rfl := prefix_unique hSame
    cases hControl
  · exact hRest ESC hLater (by decide)

/-- The key event of a typed character. -/
def typedKey (isUppercase : Char → Bool) (ch : Char) : TerminalKey :=
  let key := TerminalKey.new (.char ch) { KeyModifiers.empty with shift := ch.isUpper }
  (key.withTextCommit isUppercase).withVtBytes (String.utf8EncodeChar ch)

theorem typedKey_code (ch : Char) : (typedKey isUppercase ch).code = .char ch := by
  simp only [typedKey, TerminalKey.withTextCommit, TerminalKey.new, TerminalKey.withVtBytes]
  split <;> rfl

theorem typedKey_kind (ch : Char) : (typedKey isUppercase ch).kind = .press := by
  simp only [typedKey, TerminalKey.withTextCommit, TerminalKey.new, TerminalKey.withVtBytes]
  split <;> rfl

theorem extractOneEvent_typed (hControl : isControl ch = false) :
  extractOneEvent isUppercase (String.utf8EncodeChar ch) =
    .found (.key (typedKey isUppercase ch), (String.utf8EncodeChar ch).length) := by
  have hHead : (String.utf8EncodeChar ch).head? ≠ some ESC := fun hHead =>
    not_mem_escape hControl (List.mem_of_head? hHead)
  have hPaste := not_prefix_of_head? hHead (show bracketedPasteStart.head? = some ESC by decide)
  have hDecode : decode (String.utf8EncodeChar ch) = some [ch] := by
    have hOne := decode_encode [ch]
    rw [encode_cons, encode_nil, List.append_nil] at hOne
    exact hOne
  have hEvent : eventOfBytes isUppercase (String.utf8EncodeChar ch) =
      .found (.key (typedKey isUppercase ch)) := by
    rw [eventOfBytes, if_neg hPaste, hDecode]
    show (if (String.utf8EncodeChar ch).head? = some ESC then _ else _) = _
    rw [if_neg hHead, characterEvent, parseTerminalKeySequence_char hControl]
    rfl
  rw [extractOneEvent, firstEventLen, if_neg hPaste, if_neg hHead,
    firstCompleteUtf8CharLen_utf8EncodeChar]
  show Parsed.bind (eventOfBytes isUppercase (List.take _ (String.utf8EncodeChar ch))) _ = _
  rw [List.take_length, hEvent]
  rfl

/-- The framer has the start of a paste and these bytes of it. -/
structure RawInputByteFramer.InPaste (framer : RawInputByteFramer) (bytes : List UInt8) : Prop
  extends framer.Framing where
  buffer : framer.buffer = bracketedPasteStart ++ bytes
  isOpen : ESC ∉ bytes

namespace RawInputByteFramer

variable {framer : RawInputByteFramer}

theorem Fresh.drained (hFresh : framer.Fresh) : framer.Drained isUppercase :=
  drained_empty hFresh.buffer (Or.inr (by rw [hFresh.discardUntil]; exact nofun))

/-- Well-formed input is taken off at once. -/
theorem Fresh.push (hFresh : framer.Fresh) {chunks : List (List UInt8)}
  (hChunks : WellFormedInput isUppercase framer.splitCoalescedEscape chunks) :
  ∃ after : RawInputByteFramer,
    framer.push isUppercase chunks.flatten = some (chunks, after) ∧ after.Fresh := by
  let fed := extend chunks.flatten framer
  have hFed : fed.Framing := ⟨hFresh.discardUntil, hFresh.loneEscape⟩
  have hBuffer : fed.buffer = chunks.flatten ++ [] := by
    show framer.buffer ++ chunks.flatten = _
    rw [hFresh.buffer, List.append_nil]
    rfl
  obtain ⟨after, hAfter, hEmpty, -, hRun⟩ := @run_wellFormed _ _ fed _ hChunks hFed hBuffer
  have hFreshAfter : after.Fresh := ⟨hAfter, hEmpty⟩
  have hWait : (reader isUppercase).step after = .wait after :=
    drainStep_of_drained hFreshAfter.drained
  refine ⟨after, ?_, hFreshAfter⟩
  rw [RawInputByteFramer.push, Reader.push]
  refine hRun.trans ?_
  rw [Reader.run_eq, hWait]
  simp

theorem Fresh.flushTimeout (hFresh : framer.Fresh) :
  framer.flushTimeout isUppercase = some ([], framer) := by
  rw [flushTimeout_of_drained hFresh.drained, expire, hFresh.discardUntil]
  rw [expirePending, if_pos hFresh.buffer]

theorem findSubsequence_none {needle text : List UInt8} {first : UInt8}
  (hFirst : needle.head? = some first) (hText : first ∉ text) :
  findSubsequence needle text = none := by
  refine Option.eq_none_iff_forall_ne_some.2 fun index hFound => hText ?_
  obtain ⟨before, behind, rfl, -⟩ := findSubsequence_spec hFound
  exact List.mem_append_right _ (List.mem_append_left _ (List.mem_of_head? hFirst))

variable {framer : RawInputByteFramer} {bytes : List UInt8}

section

variable (hPaste : framer.InPaste bytes)
include hPaste

theorem InPaste.noEnd :
  findSubsequence bracketedPasteEnd framer.buffer = none := by
  rw [hPaste.buffer, findSubsequence_skip_start, findSubsequence_none (by decide) hPaste.isOpen]
  rfl

theorem InPaste.starts : bracketedPasteStart <+: framer.buffer := by
  rw [hPaste.buffer]
  exact List.prefix_append _ _

theorem InPaste.drained : framer.Drained isUppercase where
  loneEscape hLone := by
    rw [hPaste.loneEscape] at hLone
    cases hLone
  discard _ family hFamily := by
    rw [hPaste.discardUntil] at hFamily
    cases hFamily
  pending _ _ := by
    refine ⟨fun hSplit => ?_, ?_⟩
    · have hBoth := hSplit.2
      rw [hPaste.buffer] at hBoth
      have hStart := (prefix_append_iff
        (show (ascii "\x1b\x1b").length ≤ bracketedPasteStart.length by decide) _).1 hBoth
      exact absurd hStart (by decide)
    · rw [extractOneEvent, firstEventLen, if_pos hPaste.starts, hPaste.noEnd]
      rfl

theorem InPaste.extend {data : List UInt8} (hData : ESC ∉ data) :
  (framer.extend data).InPaste (bytes ++ data) where
  discardUntil := hPaste.discardUntil
  loneEscape := hPaste.loneEscape
  buffer := by
    show framer.buffer ++ data = _
    rw [hPaste.buffer, List.append_assoc]
  isOpen hMem := (List.mem_append.1 hMem).elim hPaste.isOpen hData

end

theorem push_of_drained {data : List UInt8} (hDrained : (extend data framer).Drained isUppercase) :
  framer.push isUppercase data = some ([], extend data framer) := by
  have hWait : (reader isUppercase).step (extend data framer) = .wait (extend data framer) :=
    drainStep_of_drained hDrained
  show (reader isUppercase).run (extend data framer) = _
  rw [Reader.run_eq, hWait]

theorem InPaste.flushTimeout (hPaste : framer.InPaste bytes) :
  framer.flushTimeout isUppercase = some ([], framer) := by
  have hNotEmpty : framer.buffer ≠ [] := by
    rw [hPaste.buffer]
    exact List.append_ne_nil_of_left_ne_nil (by decide) _
  have hNotMouse : startsWithIncompleteSgrMouseSequence framer.buffer = false := by
    have hNot : ¬ ascii "\x1b[<" <+: framer.buffer := by
      rw [hPaste.buffer, prefix_append_iff (by decide)]
      decide
    rw [startsWithIncompleteSgrMouseSequence, decide_eq_false hNot, Bool.false_and]
  rw [flushTimeout_of_drained hPaste.drained, expire, hPaste.discardUntil]
  rw [expirePending, if_neg hNotEmpty, hPaste.loneEscape, hNotMouse]
  rw [if_neg (by simp), if_neg (by simp), if_pos ⟨hPaste.starts, hPaste.noEnd⟩]

theorem InPaste.pending (hPaste : framer.InPaste bytes) :
  framer.hasPendingBracketedPaste = true := by
  rw [hasPendingBracketedPaste, hPaste.noEnd, decide_eq_true hPaste.starts]
  rfl

theorem Fresh.pending (hFresh : framer.Fresh) : framer.hasPendingBracketedPaste = false := by
  rw [hasPendingBracketedPaste, hFresh.buffer]
  decide

end RawInputByteFramer

namespace WindowsInputPump

/-- The pump waits for nothing and is in no paste. -/
structure Quiet (pump : WindowsInputPump) : Prop where
  framer : pump.framer.Fresh
  fromBytes : pump.pasteFromWin32KeyRecords = false

/-- The pump is in a paste that did not come from win32 records. -/
structure InPaste (pump : WindowsInputPump) (bytes : List UInt8) : Prop where
  framer : pump.framer.InPaste bytes
  fromBytes : pump.pasteFromWin32KeyRecords = false

theorem processAll_append (pump : WindowsInputPump) (first second : List PlatformInputItem) :
  pump.processAll isUppercase (first ++ second) =
    (pump.processAll isUppercase first).bind fun (early, middle) =>
      (middle.processAll isUppercase second).map fun (late, after) => (early ++ late, after) := by
  induction first generalizing pump with
  | nil => simp [processAll]
  | cons item first ih =>
    rw [List.cons_append, processAll, processAll]
    cases pump.process isUppercase item with
    | none => rfl
    | some done =>
      obtain ⟨events, middle⟩ := done
      simp only [ih, Option.bind_eq_bind, Option.bind_some]
      cases middle.processAll isUppercase first with
      | none => rfl
      | some rest =>
        obtain ⟨late, last⟩ := rest
        simp only [Option.bind_some, Option.map_eq_bind]
        cases last.processAll isUppercase second <;> simp

variable {pump : WindowsInputPump} {chunks : List (List UInt8)} {events : List RawInputEvent}

theorem processAll_both {middle after : WindowsInputPump} {first second : List PlatformInputItem}
  {early late : List ClientInputEvent}
  (hFirst : pump.processAll isUppercase first = some (early, middle))
  (hSecond : middle.processAll isUppercase second = some (late, after)) :
  pump.processAll isUppercase (first ++ second) = some (early ++ late, after) := by
  rw [processAll_append, hFirst]
  simp only [Option.bind_some, hSecond, Option.map_some]

theorem processAll_semantic
  (hEach : ∀ event, pump.process isUppercase (.semantic event) = some ([event], pump))
  (events : List ClientInputEvent) :
  pump.processAll isUppercase (events.map .semantic) = some (events, pump) := by
  induction events with
  | nil => rfl
  | cons event events ih =>
    rw [List.map_cons, processAll, hEach]
    simp only [Option.bind_eq_bind, Option.bind_some, ih, List.singleton_append]

theorem processChunks_eq (hBytes : pump.pasteFromWin32KeyRecords = false)
  {framer : RawInputByteFramer} (hEvents : eventsFromChunks isUppercase chunks = some events) :
  pump.processChunks isUppercase (some (chunks, framer)) =
    some (events.filterMap windowsClientInputEventFromRaw, ⟨framer, false⟩) := by
  rw [processChunks]
  simp only [Option.bind_eq_bind, Option.bind_some, hEvents, processRawEvents, hBytes, ite_self]

theorem processChunks_nil (hBytes : pump.pasteFromWin32KeyRecords = false)
  (framer : RawInputByteFramer) :
  pump.processChunks isUppercase (some ([], framer)) = some ([], ⟨framer, false⟩) := by
  have hNone : eventsFromChunks isUppercase [] = some [] := rfl
  exact processChunks_eq hBytes hNone

theorem eventsFromChunks_split {first second : List (List UInt8)}
  (hEvents : eventsFromChunks isUppercase (first ++ second) = some events) :
  ∃ early late, eventsFromChunks isUppercase first = some early ∧
    eventsFromChunks isUppercase second = some late ∧ events = early ++ late := by
  induction first generalizing events with
  | nil => exact ⟨[], events, rfl, hEvents, rfl⟩
  | cons chunk first ih =>
    rw [List.cons_append, eventsFromChunks] at hEvents
    rw [eventsFromChunks]
    split at hEvents
    case h_1 => cases hEvents
    case h_2 => exact ih hEvents
    case h_3 event _ =>
      obtain ⟨rest, hRest, rfl⟩ := Option.map_eq_some_iff.1 hEvents
      obtain ⟨early, late, hFirst, hSecond, rfl⟩ := ih hRest
      exact ⟨event :: early, late, by rw [hFirst]; rfl, hSecond, rfl⟩

/-- Pieces of bytes give the events of their chunks. -/
theorem processAll_pieces (hBytes : pump.pasteFromWin32KeyRecords = false)
  {pieces : List (List UInt8)} {after : RawInputByteFramer}
  (hPushed : pump.framer.pushAll isUppercase pieces = some (chunks, after))
  (hEvents : eventsFromChunks isUppercase chunks = some events) :
  pump.processAll isUppercase (pieces.map .bytes) =
    some (events.filterMap windowsClientInputEventFromRaw, ⟨after, false⟩) := by
  induction pieces generalizing pump chunks events with
  | nil =>
    cases hPushed
    cases hEvents
    rw [← hBytes]
    rfl
  | cons piece pieces ih =>
    rw [pushAll] at hPushed
    obtain ⟨⟨first, middle⟩, hFirst, hRest⟩ := Option.bind_eq_some_iff.1 hPushed
    obtain ⟨⟨rest, last⟩, hLater, hSame⟩ := Option.map_eq_some_iff.1 hRest
    cases hSame
    obtain ⟨early, late, hEarly, hLate, rfl⟩ := eventsFromChunks_split hEvents
    have hHere : pump.process isUppercase (.bytes piece) =
        some (early.filterMap windowsClientInputEventFromRaw, ⟨middle, false⟩) := by
      rw [process, pushBytes, hFirst]
      exact processChunks_eq hBytes hEarly
    have hBehind := @ih ⟨middle, false⟩ rest late rfl hLater hLate
    rw [List.map_cons, processAll, hHere]
    simp only [Option.bind_eq_bind, Option.bind_some, hBehind, List.filterMap_append]

theorem Quiet.pieces (hQuiet : pump.Quiet) {pieces : List (List UInt8)}
  (hChunks : WellFormedInput isUppercase pump.framer.splitCoalescedEscape chunks)
  (hPieces : pieces.flatten = chunks.flatten)
  (hEvents : eventsFromChunks isUppercase chunks = some events) :
  ∃ after : WindowsInputPump, pump.processAll isUppercase (pieces.map .bytes) =
    some (events.filterMap windowsClientInputEventFromRaw, after) ∧ after.Quiet := by
  obtain ⟨after, hPush, hAfter⟩ := hQuiet.framer.push hChunks
  have hPushed := @pushAll_eq_push isUppercase pieces _
    hQuiet.framer.toFraming hQuiet.framer.drained
  rw [hPieces, hPush] at hPushed
  exact ⟨⟨after, false⟩, processAll_pieces hQuiet.fromBytes hPushed hEvents, hAfter, rfl⟩

theorem chunkEvent_of_extract {chunk : List UInt8} {event : RawInputEvent} {len : Nat}
  (hEvent : extractOneEvent isUppercase chunk = .found (event, len)) :
  eventsFromChunks isUppercase [chunk] = some [event] := by
  have hNotEscape : chunk ≠ [ESC] := by
    rintro rfl
    cases hEvent
  rw [eventsFromChunks, chunkEvent, if_neg hNotEscape, hEvent]
  rfl

theorem Quiet.event {pump : WindowsInputPump} (hQuiet : pump.Quiet)
  {pieces : List (List UInt8)} {chunk : List UInt8} {event : RawInputEvent}
  (hWhole : ¬ ascii "\x1b\x1b" <+: chunk)
  (hEvent : extractOneEvent isUppercase chunk = .found (event, chunk.length))
  (hPieces : pieces.flatten = chunk) :
  ∃ after : WindowsInputPump, pump.processAll isUppercase (pieces.map .bytes) =
    some ([event].filterMap windowsClientInputEventFromRaw, after) ∧ after.Quiet := by
  have hChunks : WellFormedInput isUppercase pump.framer.splitCoalescedEscape [chunk] :=
    .event (fun hSplit => hWhole hSplit.2) hEvent .nil
  exact hQuiet.pieces hChunks (hPieces.trans (List.flatten_singleton).symm)
    (chunkEvent_of_extract hEvent)

/-- A typed character is a key event, however its bytes come. -/
theorem Quiet.typed (hQuiet : pump.Quiet) {ch : Char} (hControl : isControl ch = false)
  {pieces : List (List UInt8)} (hPieces : pieces.flatten = String.utf8EncodeChar ch) :
  ∃ modifiers count text source after, pump.processAll isUppercase (pieces.map .bytes) =
    some ([.key (.char ch) modifiers .press count text source], after) ∧ after.Quiet := by
  have hWhole : ¬ ascii "\x1b\x1b" <+: String.utf8EncodeChar ch := fun hPrefix =>
    not_mem_escape hControl (hPrefix.subset (by decide))
  obtain ⟨after, hRun, hAfter⟩ := hQuiet.event hWhole (extractOneEvent_typed hControl) hPieces
  have hEvent : ∃ modifiers count text source, windowsClientInputEventFromRaw
      (.key (typedKey isUppercase ch)) =
        some (.key (.char ch) modifiers .press count text source) := by
    rw [windowsClientInputEventFromRaw, typedKey_code, typedKey_kind]
    exact ⟨_, _, _, _, rfl⟩
  obtain ⟨modifiers, count, text, source, hEvent⟩ := hEvent
  rw [List.filterMap_cons_some hEvent, List.filterMap_nil] at hRun
  exact ⟨_, _, _, _, after, hRun, hAfter⟩

variable {pump : WindowsInputPump} {bytes : List UInt8}

section

variable (hPaste : pump.InPaste bytes)
include hPaste

theorem InPaste.push {data : List UInt8} (hData : ESC ∉ data) :
  ∃ after : WindowsInputPump, pump.pushBytes isUppercase data = some ([], after) ∧
    after.InPaste (bytes ++ data) := by
  have hFed := hPaste.framer.extend hData
  refine ⟨⟨_, false⟩, ?_, hFed, rfl⟩
  rw [pushBytes, push_of_drained hFed.drained]
  exact processChunks_nil hPaste.fromBytes _

theorem InPaste.pieces {pieces : List (List UInt8)}
  (hPieces : ESC ∉ pieces.flatten) :
  ∃ after : WindowsInputPump,
    pump.processAll isUppercase (pieces.map .bytes) = some ([], after) ∧
    after.InPaste (bytes ++ pieces.flatten) := by
  have hFed := hPaste.framer.extend hPieces
  have hPushed := @pushAll_eq_push isUppercase pieces _
    hPaste.framer.toFraming hPaste.framer.drained
  rw [push_of_drained hFed.drained] at hPushed
  have hNone : eventsFromChunks isUppercase [] = some [] := rfl
  exact ⟨⟨_, false⟩, processAll_pieces hPaste.fromBytes hPushed hNone, hFed, rfl⟩

theorem InPaste.key {data : List UInt8} (hData : ESC ∉ data)
  (events : List ClientInputEvent) :
  ∃ after : WindowsInputPump,
    pump.process isUppercase (.pasteAwareKey data data events) = some ([], after) ∧
    after.InPaste (bytes ++ data) := by
  rw [process, hPaste.framer.pending, if_pos rfl, ite_self]
  exact hPaste.push hData

theorem InPaste.semantic (event : ClientInputEvent) :
  pump.process isUppercase (.semantic event) = some ([event], pump) := by
  have hIdle : pump.idle isUppercase = some ([], pump) := by
    rw [WindowsInputPump.idle, hPaste.framer.flushTimeout, processChunks_nil hPaste.fromBytes,
      ← hPaste.fromBytes]
  rw [process, hIdle]
  rfl

end

/-- The start of a paste. -/
theorem Quiet.start (hQuiet : pump.Quiet) {pieces : List (List UInt8)}
  (hPieces : pieces.flatten = bracketedPasteStart) :
  ∃ after : WindowsInputPump,
    pump.processAll isUppercase (pieces.map .bytes) = some ([], after) ∧ after.InPaste [] := by
  have hFed : (pump.framer.extend bracketedPasteStart).InPaste [] :=
    { discardUntil := hQuiet.framer.discardUntil
      loneEscape := hQuiet.framer.loneEscape
      buffer := by
        show pump.framer.buffer ++ bracketedPasteStart = _
        rw [hQuiet.framer.buffer, List.append_nil]
        rfl
      isOpen := List.not_mem_nil }
  have hPushed := @pushAll_eq_push isUppercase pieces _
    hQuiet.framer.toFraming hQuiet.framer.drained
  rw [hPieces, push_of_drained hFed.drained] at hPushed
  have hNone : eventsFromChunks isUppercase [] = some [] := rfl
  exact ⟨⟨_, false⟩, processAll_pieces hQuiet.fromBytes hPushed hNone, hFed, rfl⟩

/-- The end of a paste of text. -/
theorem InPaste.finish {text : List Char} (hPaste : pump.InPaste (encode text))
  {pieces : List (List UInt8)} (hPieces : pieces.flatten = bracketedPasteEnd) :
  ∃ after : WindowsInputPump,
    pump.processAll isUppercase (pieces.map .bytes) = some ([.paste text], after) ∧
    after.Quiet := by
  -- With the end behind it the whole paste is the first event of a quiet pump.
  let whole := bracketedPasteStart ++ (encode text ++ bracketedPasteEnd)
  let before : WindowsInputPump := ⟨{ pump.framer with buffer := [] }, false⟩
  have hBefore : before.framer.Fresh :=
    ⟨⟨hPaste.framer.discardUntil, hPaste.framer.loneEscape⟩, rfl⟩
  have hEvent : extractOneEvent isUppercase whole = .found (.paste text, whole.length) := by
    have hNoEnd : ¬ bracketedPasteEnd <:+: encode text := fun hInfix =>
      hPaste.framer.isOpen (hInfix.subset (by decide))
    have hFound := @extractOneEvent_paste isUppercase _ _
      (findSubsequence_bracketedPasteEnd hNoEnd [])
    rw [List.append_nil, decode_encode] at hFound
    rw [hFound, List.append_assoc]
  have hWhole : ¬ ascii "\x1b\x1b" <+: whole := by
    rw [prefix_append_iff (by decide)]
    decide
  have hChunks : WellFormedInput isUppercase before.framer.splitCoalescedEscape [whole] :=
    .event (fun hSplit => hWhole hSplit.2) hEvent .nil
  obtain ⟨after, hPush, hAfter⟩ := hBefore.push hChunks
  have hSame : pump.framer.push isUppercase bracketedPasteEnd = some ([whole], after) := by
    have hFed : pump.framer.extend bracketedPasteEnd = before.framer.extend [whole].flatten := by
      rw [extend, hPaste.framer.buffer]
      simp [before, whole, extend]
    rw [← hPush]
    exact congrArg (reader isUppercase).run hFed
  have hPushed := @pushAll_eq_push isUppercase pieces _
    hPaste.framer.toFraming hPaste.framer.drained
  rw [hPieces, hSame] at hPushed
  exact ⟨⟨after, false⟩, processAll_pieces hPaste.fromBytes hPushed (chunkEvent_of_extract hEvent),
    hAfter, rfl⟩

theorem Quiet.idle (hQuiet : pump.Quiet) : pump.idle isUppercase = some ([], pump) := by
  rw [WindowsInputPump.idle, hQuiet.framer.flushTimeout, processChunks_nil hQuiet.fromBytes,
    ← hQuiet.fromBytes]

theorem Quiet.semantic (hQuiet : pump.Quiet) (event : ClientInputEvent) :
  pump.process isUppercase (.semantic event) = some ([event], pump) := by
  rw [process, hQuiet.idle]
  rfl

theorem Quiet.key (hQuiet : pump.Quiet) (data win32Data : List UInt8)
  (events : List ClientInputEvent) :
  pump.process isUppercase (.pasteAwareKey data win32Data events) = some (events, pump) := by
  rw [process, hQuiet.framer.pending, if_neg Bool.false_ne_true, hQuiet.idle]
  rfl

end WindowsInputPump

end Input
