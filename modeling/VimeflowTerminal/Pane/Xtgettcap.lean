import VimeflowTerminal.Pane.CursorShape

/-! A tracker of the requests for terminfo capabilities in pane output. It reads bytes: the 7-bit
introducers and terminators of strings as well as the 8-bit ones. -/

namespace Pane

open Mealy

inductive XtgettcapTrackerState where
  | ground
  | escape
  | dcsIntro
  | dcsIntroPlus
  | dcsBody
  | dcsEscape
  | ignoreOsc
  | ignoreOscEscape
  | ignoreString
  | ignoreStringEscape
  | oversizedDcs
  | oversizedDcsEscape
  deriving DecidableEq

structure XtgettcapResponse where
  endOffset : Nat
  bytes : List UInt8
  deriving DecidableEq

def isAsciiHexdigit (byte : UInt8) : Bool :=
  isAsciiDigit byte || (0x41 ≤ byte && byte ≤ 0x46) || (0x61 ≤ byte && byte ≤ 0x66)

def toAsciiUppercase (byte : UInt8) : UInt8 :=
  if 0x61 ≤ byte && byte ≤ 0x7a then byte - 0x20 else byte

/-- The capabilities that the pane supports; some of them have no value. -/
def xtgettcapValue (capHex : List UInt8) : Option (Option (List UInt8)) :=
  if capHex = ascii "5463" then some none
  else if capHex = ascii "524742" then some (some (ascii "8"))
  else if capHex = ascii "73657472676266" then
    some (some (ascii "\\E[38:2:%p1%d:%p2%d:%p3%dm"))
  else if capHex = ascii "73657472676262" then
    some (some (ascii "\\E[48:2:%p1%d:%p2%d:%p3%dm"))
  else if capHex = ascii "4D73" then some (some (ascii "\\E]52;%p1%s;%p2%s\\007"))
  else if capHex = ascii "5375" then some none
  else if capHex = ascii "536D756C78" then some (some (ascii "\\E[4:%p1%dm"))
  else if capHex = ascii "536574756C63" then
    some (some (ascii
      "\\E[58:2::%p1%\x7b65536\x7d%/%d:%p1%\x7b256\x7d%/%\x7b255\x7d%&%d:%p1%\x7b255\x7d%&%d%;m"))
  else none

def upperHexDigit (value : UInt8) : UInt8 := if value < 10 then 0x30 + value else 0x37 + value

def appendUpperHex (bytes : List UInt8) : List UInt8 :=
  bytes.flatMap fun (byte : UInt8) => [upperHexDigit (byte >>> 4), upperHexDigit (byte &&& 0x0f)]

def buildXtgettcapResponse (capHex : List UInt8) (value : Option (List UInt8)) : List UInt8 :=
  ascii "\x1bP1+r" ++ capHex ++ (value.elim [] fun bytes => 0x3d :: appendUpperHex bytes) ++
    [ESC, BACKSLASH]

def xtgettcapResponse (capHex : List UInt8) : Option (List UInt8) :=
  if capHex.isEmpty || capHex.length % 2 != 0 then none
  else if capHex.all isAsciiHexdigit then
    let normalizedCapHex := capHex.map toAsciiUppercase
    (xtgettcapValue normalizedCapHex).map (buildXtgettcapResponse normalizedCapHex)
  else none

/-- The responses to a request, one for each supported capability it names. -/
def capabilityResponses (body : List UInt8) : List (List UInt8) :=
  (body.splitOn 0x3b).filterMap xtgettcapResponse

/-- The 8-bit terminator of a string. -/
def ST8 : UInt8 := 0x9c

/-- What the tracker keeps of an unfinished string. -/
structure XtgettcapQuery where
  state : XtgettcapTrackerState := .ground
  body : List UInt8 := []
  deriving DecidableEq

namespace XtgettcapQuery

/-- The transition for a byte, and the request it ends. -/
def transition (query : XtgettcapQuery) (byte : UInt8) : XtgettcapQuery × Option (List UInt8) :=
  match query.state with
  | .ground =>
    if byte = ESC then ({ query with state := .escape }, none)
    else if byte = 0x90 then ({ state := .dcsIntro, body := [] }, none)
    else if byte = 0x9d then ({ query with state := .ignoreOsc }, none)
    else if byte = 0x98 ∨ byte = 0x9e ∨ byte = 0x9f then
      ({ query with state := .ignoreString }, none)
    else (query, none)
  | .escape =>
    if byte = 0x50 then ({ state := .dcsIntro, body := [] }, none)
    else if byte = OSC_INTRO then ({ state := .ignoreOsc, body := [] }, none)
    else if byte = 0x5f ∨ byte = 0x5e ∨ byte = 0x58 then ({ state := .ignoreString, body := [] }, none)
    else if byte = ESC then ({ query with state := .escape }, none)
    else ({ query with state := .ground }, none)
  | .dcsIntro =>
    if byte = 0x2b then ({ query with state := .dcsIntroPlus }, none)
    else if byte = ESC then ({ query with state := .ignoreStringEscape }, none)
    else if byte = ST8 then ({ query with state := .ground }, none)
    else ({ query with state := .ignoreString }, none)
  | .dcsIntroPlus =>
    if byte = 0x71 then ({ query with state := .dcsBody }, none)
    else if byte = ESC then ({ query with state := .ignoreStringEscape }, none)
    else if byte = ST8 then ({ query with state := .ground }, none)
    else ({ query with state := .ignoreString }, none)
  | .dcsBody =>
    if byte = ESC then ({ query with state := .dcsEscape }, none)
    else if byte = ST8 then ({ state := .ground, body := [] }, some query.body)
    else ({ query with body := query.body ++ [byte] }, none)
  | .dcsEscape =>
    if byte = BACKSLASH then ({ state := .ground, body := [] }, some query.body)
    else if byte ≠ ESC then ({ state := .ignoreString, body := [] }, none)
    else (query, none)
  | .ignoreOsc =>
    if byte = ESC then ({ query with state := .ignoreOscEscape }, none)
    else if byte = BEL ∨ byte = ST8 then ({ query with state := .ground }, none)
    else (query, none)
  | .ignoreOscEscape =>
    if byte = BACKSLASH then ({ query with state := .ground }, none)
    else if byte ≠ ESC then ({ query with state := .ignoreOsc }, none)
    else (query, none)
  | .ignoreString =>
    if byte = ESC then ({ query with state := .ignoreStringEscape }, none)
    else if byte = ST8 then ({ query with state := .ground }, none)
    else (query, none)
  | .ignoreStringEscape =>
    if byte = BACKSLASH then ({ query with state := .ground }, none)
    else if byte ≠ ESC then ({ query with state := .ignoreString }, none)
    else (query, none)
  | .oversizedDcs =>
    if byte = ESC then ({ query with state := .oversizedDcsEscape }, none)
    else if byte = ST8 then ({ query with state := .ground }, none)
    else (query, none)
  | .oversizedDcsEscape =>
    if byte = BACKSLASH then ({ query with state := .ground }, none)
    else if byte ≠ ESC then ({ query with state := .oversizedDcs }, none)
    else (query, none)

/-- The bytes of a request that the tracker keeps. -/
def MAX_BODY_BYTES : Nat := 1024

/-- A byte with the check for requests that have become too long. -/
def step (query : XtgettcapQuery) (byte : UInt8) : XtgettcapQuery × Option (List UInt8) :=
  let (query, ended) := query.transition byte
  if MAX_BODY_BYTES < query.body.length then ({ state := .oversizedDcs, body := [] }, ended)
  else (query, ended)

end XtgettcapQuery

structure XtgettcapQueryTracker where
  query : XtgettcapQuery := {}
  pending : List XtgettcapResponse := []

/-- The responses to a request that ends at an offset. -/
def finalize (endOffset : Nat) (body : List UInt8) : List XtgettcapResponse :=
  (capabilityResponses body).map fun bytes => { endOffset, bytes }

namespace XtgettcapQueryTracker

/-- The loop of `observe` from an index of the read on. -/
def observeFrom (tracker : XtgettcapQueryTracker) (index : Nat) :
  List UInt8 → XtgettcapQueryTracker
  | [] => tracker
  | byte :: rest =>
    let (query, ended) := tracker.query.step byte
    let responses := ended.elim [] (finalize (index + 1))
    observeFrom { query, pending := tracker.pending ++ responses } (index + 1) rest

def observe (tracker : XtgettcapQueryTracker) (bytes : List UInt8) : XtgettcapQueryTracker :=
  tracker.observeFrom 0 bytes

def drainPending (tracker : XtgettcapQueryTracker) :
  XtgettcapQueryTracker × List XtgettcapResponse :=
  ({ tracker with pending := [] }, tracker.pending)

/-- The responses drained after each of the reads, with the offsets of the whole stream, of which
the first read begins at `start`. -/
def respond (tracker : XtgettcapQueryTracker) (start : Nat) :
  List (List UInt8) → List XtgettcapResponse
  | [] => []
  | bytes :: reads =>
    let (drained, responses) := (tracker.observe bytes).drainPending
    (responses.map fun response => { response with endOffset := start + response.endOffset }) ++
      drained.respond (start + bytes.length) reads

/-- The responses of a read are those to the requests that end in it. -/
theorem observeFrom_eq (tracker : XtgettcapQueryTracker) (index : Nat) (bytes : List UInt8) :
  tracker.observeFrom index bytes =
    { query := after XtgettcapQuery.step tracker.query bytes
      pending := tracker.pending ++
        (marksFrom index (outputs XtgettcapQuery.step tracker.query bytes)).flatMap
          fun (endOffset, body) => finalize endOffset body } := by
  induction bytes generalizing tracker index with
  | nil => simp [observeFrom, after, outputs, marksFrom]
  | cons byte rest ih =>
    simp only [observeFrom, ih, outputs, after, List.foldl_cons]
    cases hEnded : (tracker.query.step byte).2 with
    | none => simp [marksFrom, next]
    | some body => simp [marksFrom, next]

/-- However a stream is cut into reads, the responses are those to the requests that end in the
stream. -/
theorem respond_eq (query : XtgettcapQuery) (start : Nat) (reads : List (List UInt8)) :
  respond { query } start reads =
    (marksFrom start (outputs XtgettcapQuery.step query reads.flatten)).flatMap
      fun (endOffset, body) => finalize endOffset body := by
  induction reads generalizing query start with
  | nil => rfl
  | cons bytes reads ih =>
    have hShift : ∀ (index : Nat) (ended : List (Option (List UInt8))),
        ((marksFrom index ended).flatMap fun (endOffset, body) => finalize endOffset body).map
            (fun response => { response with endOffset := start + response.endOffset }) =
          (marksFrom (start + index) ended).flatMap
            fun (endOffset, body) => finalize endOffset body := by
      intro index ended
      rw [marksFrom_add, List.flatMap_map, List.map_flatMap]
      simp [finalize, Function.comp_def]
    rw [List.flatten_cons, outputs_append, marksFrom_append, List.flatMap_append, length_outputs,
      respond, observe, observeFrom_eq]
    simp only [drainPending, List.nil_append]
    rw [hShift, Nat.add_zero, ih]

end XtgettcapQueryTracker

end Pane
