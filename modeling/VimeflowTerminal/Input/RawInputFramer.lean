import VimeflowTerminal.Input.ByteFramer

/-! What is still in the buffer when no input has come for a while, and the events
of the chunks that the framer hands on. -/

namespace Input

open Search Streaming

def HOST_CELL_SIZE_QUERY_REPLIES : Nat := 1

def isDigit (byte : UInt8) : Bool := 0x30 ≤ byte && byte ≤ 0x39

def startsWithIncompleteSgrMouseSequence (buffer : List UInt8) : Bool :=
  decide (ascii "\x1b[<" <+: buffer) && (buffer.drop 3).all isDigitOrSemicolon

/-- The family of a control string whose end is not there. -/
def incompleteControlString (buffer : List UInt8) : Option ControlStringFamily :=
  match controlStringFamily buffer with
  | none => none
  | some family =>
    match controlStringTerminatorForFamily buffer family with
    | some _ => none
    | none => some family

def startsWithIncompleteDefaultColorResponse (buffer : List UInt8) : Bool :=
  decide (incompleteControlString buffer = some .osc) &&
    (decide (ascii "\x1b]10;" <+: buffer) || decide (ascii "\x1b]11;" <+: buffer))

def startsWithIncompleteHostColorSchemeReport (buffer : List UInt8) : Bool :=
  decide (ascii "\x1b[?" <+: buffer) &&
    (decide (buffer <+: ascii "\x1b[?997;1n") || decide (buffer <+: ascii "\x1b[?997;2n")) &&
    decide (buffer.length < (ascii "\x1b[?997;1n").length)

def startsWithIncompleteHostCellSizeReport (buffer : List UInt8) : Bool :=
  if ascii "\x1b[" <+: buffer then
    let body := buffer.drop 2
    if body = [] ∨ body.getLast? = some 0x74 then false
    else
      let params := body.splitOn 0x3b
      let height := params[1]?
      let width := params[2]?
      params[0]? = some [0x36] && params[3]?.isNone && height.all (·.all isDigit) &&
        width.all (·.all isDigit) && !(height = some [] && width.isSome)
  else false

/-- The bytes that may come second in a character. -/
def isSecondUtf8Byte (first second : UInt8) : Bool :=
  if first = 0xe0 then 0xa0 ≤ second && second ≤ 0xbf
  else if first = 0xed then 0x80 ≤ second && second ≤ 0x9f
  else if first = 0xf0 then 0x90 ≤ second && second ≤ 0xbf
  else if first = 0xf4 then 0x80 ≤ second && second ≤ 0x8f
  else 0x80 ≤ second && second ≤ 0xbf

/-- An error of `str::from_utf8` at the front, at which the input ends too early. -/
def startsWithIncompleteUtf8Char : List UInt8 → Bool
  | [first] => 0xc2 ≤ first && first ≤ 0xf4
  | [first, second] => 0xe0 ≤ first && first ≤ 0xf4 && isSecondUtf8Byte first second
  | [first, second, third] =>
    0xf0 ≤ first && first ≤ 0xf4 && isSecondUtf8Byte first second &&
      (0x80 ≤ third && third ≤ 0xbf)
  | _ => false

/-- The bytes of a colour, a number or a separator in a reply. -/
def isOscTailByte (byte : UInt8) : Bool :=
  isDigit byte || (ascii ";:/#?._-+rgbRGB\x1b").contains byte

def plausibleControlStringTail (family : ControlStringFamily) (buffer : List UInt8) : Bool :=
  match family with
  | .osc => buffer.all isOscTailByte
  | .stTerminated => buffer.getLast? = some ESC
  | .hostReplyCsi => false
  | .orphanedSgrMouseTail => buffer.all fun byte => isDigitOrSemicolon byte || isMouseFinal byte

/-- Whether the buffer is the text of a key. -/
def isKeyText (buffer : List UInt8) : Bool :=
  ((Utf8.decode buffer).bind parseTerminalKeySequence).isSome

namespace RawInputByteFramer

def hostCellSizeQuerySent (framer : RawInputByteFramer) : RawInputByteFramer :=
  { framer with
    hostCellSizeRepliesAwaited := HOST_CELL_SIZE_QUERY_REPLIES
    heldPendingHostReplyEsc := false }

def awaitingHostReply (framer : RawInputByteFramer) : Bool :=
  0 < framer.hostColorRepliesAwaited || 0 < framer.hostCellSizeRepliesAwaited

def enableHostColorSchemeChangeTracking (framer : RawInputByteFramer) : RawInputByteFramer :=
  { framer with hostColorSchemeChangeTracking := true }

def clear (framer : RawInputByteFramer) : RawInputByteFramer := { framer with buffer := [] }

/-- Drop what is there and what comes of the same control string. -/
def startDiscard (framer : RawInputByteFramer) (family : ControlStringFamily) :
  RawInputByteFramer :=
  { framer.clear with discardUntil := some family, discardedTailBytes := 0 }

/-- The tail of a mouse report is in the buffer, without its end. -/
def discardMouseTail (framer : RawInputByteFramer) : RawInputByteFramer :=
  { framer.clear with
    discardedTailBytes := framer.buffer.length
    discardUntil :=
      if framer.buffer.length ≤ MAX_DISCARDED_CONTROL_TAIL_BYTES then some .orphanedSgrMouseTail
      else none }

/-- `discard_or_buffer_orphaned_sgr_mouse_tail`. -/
def discardOrBufferOrphanedSgrMouseTail (framer : RawInputByteFramer) : RawInputByteFramer :=
  match discardCompleteOrphanedSgrMouseTail framer.buffer with
  | some buffer => { framer with buffer }
  | none => framer.discardMouseTail

/-- A timeout while a tail is discarded. -/
def expireDiscard (framer : RawInputByteFramer) (family : ControlStringFamily) :
  RawInputByteFramer :=
  match family with
  | .hostReplyCsi => framer
  | .orphanedSgrMouseTail => framer.endDiscard.clear
  | family =>
    let discardedTailBytes := framer.discardedTailBytes + framer.buffer.length
    if plausibleControlStringTail family framer.buffer ∧
        discardedTailBytes ≤ MAX_DISCARDED_CONTROL_TAIL_BYTES then
      -- The first half of a terminator stays.
      let buffer := if framer.buffer.getLast? = some ESC then [ESC] else []
      { framer with buffer, discardedTailBytes }
    else framer.endDiscard.clear

def forgetCellSizeReply (framer : RawInputByteFramer) : RawInputByteFramer :=
  { framer with hostCellSizeRepliesAwaited := 0, heldPendingHostReplyEsc := false }

/-- The last rules for a timeout: escapes, keys and incomplete characters. -/
def expireKey (framer : RawInputByteFramer) : List (List UInt8) × RawInputByteFramer :=
  if framer.buffer = [ESC] then
    if framer.awaitingHostReply ∧ ¬ framer.heldPendingHostReplyEsc then
      ([], { framer with heldPendingHostReplyEsc := true })
    else
      ([[ESC]], { framer.forgetCellSizeReply.clear with
        hostColorRepliesAwaited := 0, loneEscapeRecentlyFlushed := true })
  else if isKeyText framer.buffer then ([framer.buffer], framer.clear)
  else if startsWithIncompleteUtf8Char framer.buffer ∨
      framer.buffer.head? = some ESC ∧ startsWithIncompleteUtf8Char framer.buffer.tail then
    ([], framer)
  else ([], { framer.clear with loneEscapeRecentlyFlushed := false })

/-- The rules for replies of the host that are not complete. -/
def expireReply (framer : RawInputByteFramer) : List (List UInt8) × RawInputByteFramer :=
  if 0 < framer.hostCellSizeRepliesAwaited ∧
      startsWithIncompleteHostCellSizeReport framer.buffer then
    ([], framer.forgetCellSizeReply.startDiscard .hostReplyCsi)
  else if startsWithIncompleteHostColorSchemeReport framer.buffer then
    ([], framer.startDiscard .hostReplyCsi)
  else
    match incompleteControlString framer.buffer with
    | some family => ([], framer.startDiscard family)
    | none => framer.expireKey

/-- A timeout while nothing is discarded. -/
def expirePending (framer : RawInputByteFramer) : List (List UInt8) × RawInputByteFramer :=
  if framer.buffer = [] then ([], framer)
  else if framer.loneEscapeRecentlyFlushed ∧ ascii "[<" <+: framer.buffer then
    ([], { framer.discardOrBufferOrphanedSgrMouseTail with loneEscapeRecentlyFlushed := false })
  else if startsWithIncompleteSgrMouseSequence framer.buffer then ([], framer.discardMouseTail)
  else if bracketedPasteStart <+: framer.buffer ∧
      findSubsequence bracketedPasteEnd framer.buffer = none then
    ([], framer)
  else if startsWithIncompleteDefaultColorResponse framer.buffer then ([], framer)
  else if 0 < framer.hostCellSizeRepliesAwaited ∧ framer.buffer = ascii "\x1b[" then
    if framer.heldPendingHostReplyEsc then framer.forgetCellSizeReply.expireReply
    else ([], { framer with heldPendingHostReplyEsc := true })
  else framer.expireReply

/-- What a timeout does once the loop has taken off all it can. -/
def expire (framer : RawInputByteFramer) : List (List UInt8) × RawInputByteFramer :=
  match framer.discardUntil with
  | some family => ([], framer.expireDiscard family)
  | none => framer.expirePending

def drainAvailableChunks (isUppercase : Char → Bool) (framer : RawInputByteFramer) :
  Option (List (List UInt8) × RawInputByteFramer) :=
  (reader isUppercase).run framer

def flushTimeout (isUppercase : Char → Bool) (framer : RawInputByteFramer) :
  Option (List (List UInt8) × RawInputByteFramer) :=
  (framer.drainAvailableChunks isUppercase).map fun (chunks, drained) =>
    (chunks ++ drained.expire.1, drained.expire.2)

/-- What a framer is asked for. -/
inductive Op where
  | push (data : List UInt8)
  | flushTimeout
  | hostColorQuerySent
  | hostCellSizeQuerySent
  | enableHostColorSchemeChangeTracking

/-- The chunks of one call and the framer after it. -/
def apply (isUppercase : Char → Bool) (framer : RawInputByteFramer) :
  Op → Option (List (List UInt8) × RawInputByteFramer)
  | .push data => framer.push isUppercase data
  | .flushTimeout => framer.flushTimeout isUppercase
  | .hostColorQuerySent => some ([], framer.hostColorQuerySent)
  | .hostCellSizeQuerySent => some ([], framer.hostCellSizeQuerySent)
  | .enableHostColorSchemeChangeTracking => some ([], framer.enableHostColorSchemeChangeTracking)

/-- The chunks of all calls together. -/
def applyAll (isUppercase : Char → Bool) (framer : RawInputByteFramer) :
  List Op → Option (List (List UInt8) × RawInputByteFramer)
  | [] => some ([], framer)
  | op :: ops =>
    (framer.apply isUppercase op).bind fun (first, middle) =>
      (applyAll isUppercase middle ops).map fun (rest, last) => (first ++ rest, last)

/-- The states a framer gets into. -/
inductive Reachable (isUppercase : Char → Bool) : RawInputByteFramer → Prop
  | start (preserve : Bool) : Reachable isUppercase (withHostInputPolicy preserve)
  | apply {framer after : RawInputByteFramer} {op : Op} {chunks : List (List UInt8)}
      (hReachable : Reachable isUppercase framer)
      (hApply : framer.apply isUppercase op = some (chunks, after)) : Reachable isUppercase after

end RawInputByteFramer

/-- What `events_from_chunks` makes of one chunk. -/
def chunkEvent (isUppercase : Char → Bool) (chunk : List UInt8) : Parsed RawInputEvent :=
  if chunk = [ESC] then .found (.key ((TerminalKey.new .esc .empty).withVtBytes chunk))
  else do
    let (event, _) ← extractOneEvent isUppercase chunk
    pure event

/-- `events_from_chunks`, without a result when a chunk makes it panic. -/
def eventsFromChunks (isUppercase : Char → Bool) : List (List UInt8) → Option (List RawInputEvent)
  | [] => some []
  | chunk :: chunks =>
    match chunkEvent isUppercase chunk with
    | .panicked => none
    | .nothing => eventsFromChunks isUppercase chunks
    | .found event => (eventsFromChunks isUppercase chunks).map (event :: ·)

end Input
