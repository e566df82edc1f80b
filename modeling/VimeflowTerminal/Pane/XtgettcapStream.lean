import VimeflowTerminal.Pane.Xtgettcap

/-! Pane output as text, escape sequences and control strings, and the XTGETTCAP requests among the
strings. Requests are answered where no character of the text has a byte that introduces a
string, and no string one that ends it. -/

namespace Pane

open Mealy

/-! ## Items -/

inductive StringKind where
  | osc
  | dcs
  | apc
  | pm
  | sos
  deriving DecidableEq

namespace StringKind

/-- The byte that introduces a string after an escape. -/
def intro7 : StringKind → UInt8
  | osc => OSC_INTRO
  | dcs => 0x50
  | apc => 0x5f
  | pm => 0x5e
  | sos => 0x58

/-- The byte that introduces a string by itself. -/
def intro8 : StringKind → UInt8
  | osc => 0x9d
  | dcs => 0x90
  | apc => 0x9f
  | pm => 0x9e
  | sos => 0x98

end StringKind

inductive StringEnd where
  | st
  | st8
  | bel
  deriving DecidableEq

def StringEnd.bytes : StringEnd → List UInt8
  | st => [ESC, BACKSLASH]
  | st8 => [ST8]
  | bel => [BEL]

/-- No `\` follows an escape, and no `BEL` is in an OSC string. -/
def Unended (kind : StringKind) (escaped : Bool) : List UInt8 → Prop
  | [] => True
  | byte :: rest =>
    (kind = .osc → byte ≠ BEL) ∧ (escaped = true → byte ≠ BACKSLASH) ∧
      Unended kind (byte == ESC) rest

/-- An escape before the terminator is passed over: only where that is `ST`, and not in a DCS
string, in which it would have been read as the end of a request. -/
def EscapePassed (kind : StringKind) (terminator : StringEnd) : Prop :=
  terminator = .st ∧ kind ≠ .dcs

/-- Unended, and a last escape is passed over. -/
def Enclosed (kind : StringKind) (terminator : StringEnd) (escaped : Bool) : List UInt8 → Prop
  | [] => escaped = true → EscapePassed kind terminator
  | byte :: rest =>
    (kind = .osc → byte ≠ BEL) ∧ (escaped = true → byte ≠ BACKSLASH) ∧
      Enclosed kind terminator (byte == ESC) rest

theorem Unended.enclosed {kind : StringKind} {terminator : StringEnd} {escaped : Bool}
  {content : List UInt8} (hUnended : Unended kind escaped content)
  (hLast : content.getLast?.or (if escaped then some ESC else none) = some ESC →
    EscapePassed kind terminator) : Enclosed kind terminator escaped content := by
  induction content generalizing escaped with
  | nil =>
    rintro rfl
    exact hLast rfl
  | cons byte rest ih =>
    obtain ⟨hBel, hBackslash, hRest⟩ := hUnended
    refine ⟨hBel, hBackslash, ih hRest fun hEnd => hLast ?_⟩
    cases rest with
    | nil => simpa using hEnd
    | cons next rest => simpa using hEnd

theorem stripPrefix_eq_some_iff {start bytes rest : List UInt8} :
  stripPrefix start bytes = some rest ↔ bytes = start ++ rest := by
  rw [stripPrefix]
  constructor
  · intro hStrip
    split at hStrip
    next hPrefix =>
      cases hStrip
      exact (List.prefix_iff_eq_append.1 (List.isPrefixOf_iff_prefix.1 hPrefix)).symm
    next => cases hStrip
  · rintro rfl
    rw [if_pos (List.isPrefixOf_iff_prefix.2 (List.prefix_append _ _)), List.drop_left]

/-- A complete control string. -/
structure ControlString where
  kind : StringKind
  /-- The introducer is one byte. -/
  eightBit : Bool
  content : List UInt8
  terminator : StringEnd
  unended : Unended kind false content
  terminates : terminator = .bel → kind = .osc

namespace ControlString

def introducer (string : ControlString) : List UInt8 :=
  if string.eightBit then [string.kind.intro8] else [ESC, string.kind.intro7]

def bytes (string : ControlString) : List UInt8 :=
  string.introducer ++ (string.content ++ string.terminator.bytes)

/-- The body of an XTGETTCAP request. -/
def request (string : ControlString) : Option (List UInt8) :=
  if string.kind = .dcs then
    (stripPrefix (ascii "+q") string.content).filter fun body => ESC ∉ body
  else none

/-- No byte of the content is the 8-bit terminator, and a last escape is passed over. -/
structure Clean (string : ControlString) : Prop where
  st8 : ST8 ∉ string.content
  escape : string.content.getLast? = some ESC → EscapePassed string.kind string.terminator

theorem Clean.enclosed {string : ControlString} (hClean : string.Clean) :
  Enclosed string.kind string.terminator false string.content :=
  string.unended.enclosed fun hLast => hClean.escape (by simpa using hLast)

theorem request_eq_some_iff {string : ControlString} {body : List UInt8} :
  string.request = some body ↔
    string.kind = .dcs ∧ string.content = 0x2b :: 0x71 :: body ∧ ESC ∉ body := by
  rw [request]
  split
  next hKind =>
    rw [Option.filter_eq_some_iff, stripPrefix_eq_some_iff, decide_eq_true_eq]
    constructor
    · rintro ⟨hContent, hEsc⟩
      exact ⟨hKind, hContent, hEsc⟩
    · rintro ⟨-, hContent, hEsc⟩
      exact ⟨hContent, hEsc⟩
  next hKind =>
    constructor
    · intro hNone
      cases hNone
    · rintro ⟨hDcs, -⟩
      exact absurd hDcs hKind

end ControlString

def isIntermediate (byte : UInt8) : Bool := 0x20 ≤ byte && byte ≤ 0x2f

/-- A byte that ends an escape sequence. -/
def isEscapeFinal (byte : UInt8) : Bool := 0x30 ≤ byte && byte ≤ 0x7e

/-- A byte that begins something longer after an escape. -/
def isEscapeIntro (byte : UInt8) : Bool :=
  byte == CSI_INTRO || byte == OSC_INTRO || isIgnoredStringIntro byte

/-- The 8-bit introducer of a control sequence. -/
def CSI8 : UInt8 := 0x9b

inductive StreamItem where
  | text (ch : Char) (hText : ESC ∉ String.utf8EncodeChar ch)
  | escape (intermediates : List UInt8) (final : UInt8)
      (hIntermediates : ∀ byte ∈ intermediates, isIntermediate byte = true)
      (hFinal : isEscapeFinal final = true)
      (hIntro : intermediates = [] → isEscapeIntro final = false)
  | csi (eightBit : Bool) (body : List UInt8) (final : UInt8)
      (hBody : ∀ byte ∈ body, isCsiBody byte = true) (hFinal : isCsiFinal final = true)
  | string (control : ControlString)

namespace StreamItem

def bytes : StreamItem → List UInt8
  | text ch _ => String.utf8EncodeChar ch
  | escape intermediates final _ _ _ => ESC :: (intermediates ++ [final])
  | csi eightBit body final _ _ =>
    (if eightBit then [CSI8] else [ESC, CSI_INTRO]) ++ (body ++ [final])
  | string control => control.bytes

def request : StreamItem → Option (List UInt8)
  | string control => control.request
  | _ => none

/-- No byte of a character introduces a string, none of a content ends it, and an escape at its
end is passed over. -/
def Unambiguous : StreamItem → Prop
  | text ch _ => ∀ kind : StringKind, kind.intro8 ∉ String.utf8EncodeChar ch
  | string control => control.Clean
  | _ => True

end StreamItem

def streamBytes (stream : List StreamItem) : List UInt8 := stream.flatMap StreamItem.bytes

/-- The responses to the requests of a stream that begins at `start`, as far as a request is to
be answered. -/
def requestResponses (answered : List UInt8 → Bool) (start : Nat) :
  List StreamItem → List XtgettcapResponse
  | [] => []
  | item :: rest =>
    let endOffset := start + item.bytes.length
    (item.request.filter answered).toList.flatMap (finalize endOffset) ++
      requestResponses answered endOffset rest

/-- A request that the tracker keeps. -/
def keepsRequest (body : List UInt8) : Bool := body.length ≤ XtgettcapQuery.MAX_BODY_BYTES

/-! ## Strings that are passed over -/

namespace XtgettcapQuery

/-- While a string of a kind lasts, the tracker stays in a state or the one after an escape. -/
structure PassesOver (kind : StringKind) (state escapeState : XtgettcapTrackerState) : Prop where
  byte : ∀ byte, byte ≠ ESC → byte ≠ ST8 → (kind = .osc → byte ≠ BEL) →
    step { state } byte = ({ state }, none)
  esc : step { state } ESC = ({ state := escapeState }, none)
  st8 : step { state } ST8 = ({}, none)
  bel : kind = .osc → step { state } BEL = ({}, none)
  escaped : ∀ byte, byte ≠ ESC → byte ≠ BACKSLASH →
    step { state := escapeState } byte = ({ state }, none)
  escapedEsc : step { state := escapeState } ESC = ({ state := escapeState }, none)
  backslash : step { state := escapeState } BACKSLASH = ({}, none)

theorem passesOver_osc : PassesOver .osc .ignoreOsc .ignoreOscEscape where
  byte byte hEsc hSt8 hBel := by simp [step, transition, hEsc, hSt8, hBel rfl]
  esc := by decide
  st8 := by decide
  bel _ := by decide
  escaped byte hEsc hBackslash := by simp [step, transition, hEsc, hBackslash]
  escapedEsc := by decide
  backslash := by decide

theorem passesOver_string {kind : StringKind} (hKind : kind ≠ .osc) :
  PassesOver kind .ignoreString .ignoreStringEscape where
  byte byte hEsc hSt8 _ := by simp [step, transition, hEsc, hSt8]
  esc := by decide
  st8 := by decide
  bel hOsc := absurd hOsc hKind
  escaped byte hEsc hBackslash := by simp [step, transition, hEsc, hBackslash]
  escapedEsc := by decide
  backslash := by decide

theorem passesOver_oversized : PassesOver .dcs .oversizedDcs .oversizedDcsEscape where
  byte byte hEsc hSt8 _ := by simp [step, transition, hEsc, hSt8]
  esc := by decide
  st8 := by decide
  bel hOsc := by cases hOsc
  escaped byte hEsc hBackslash := by simp [step, transition, hEsc, hBackslash]
  escapedEsc := by decide
  backslash := by decide

variable {kind : StringKind} {state escapeState : XtgettcapTrackerState} {terminator : StringEnd}

theorem PassesOver.ends (passes : PassesOver kind state escapeState)
  (hTerminates : terminator = .bel → kind = .osc) :
  Silent step { state } terminator.bytes {} := by
  cases terminator with
  | st => exact .succ passes.esc (.single passes.backslash)
  | st8 => exact .single passes.st8
  | bel => exact .single (passes.bel (hTerminates rfl))

variable {content read body : List UInt8} {byte : UInt8} {string : ControlString}

/-- The rest of a string is passed over. -/
theorem PassesOver.closes (passes : PassesOver kind state escapeState) {escaped : Bool}
  (hEnclosed : Enclosed kind terminator escaped content) (hSt8 : ST8 ∉ content)
  (hTerminates : terminator = .bel → kind = .osc) :
  Silent step { state := if escaped then escapeState else state } (content ++ terminator.bytes) {} := by
  induction content generalizing escaped with
  | nil =>
    cases escaped with
    | false => exact passes.ends hTerminates
    | true =>
      obtain ⟨rfl, -⟩ := hEnclosed rfl
      exact .succ passes.escapedEsc (.single passes.backslash)
  | cons byte rest ih =>
    obtain ⟨hBel, hBackslash, hRest⟩ := hEnclosed
    obtain ⟨hByte, hSt8Rest⟩ := List.ne_and_not_mem_of_not_mem_cons hSt8
    refine .succ ?_ (ih hRest hSt8Rest)
    by_cases hEsc : byte = ESC
    · subst hEsc
      cases escaped with
      | false => exact passes.esc
      | true => exact passes.escapedEsc
    · rw [beq_false_of_ne hEsc]
      cases escaped with
      | false => exact passes.byte byte hEsc (Ne.symm hByte) hBel
      | true => exact passes.escaped byte hEsc (hBackslash rfl)

/-! ## Device control strings -/

/-- Before the body of a request has begun, another byte than the expected one makes the string
one that is passed over. -/
theorem closes_of_intro {state : XtgettcapTrackerState} {expected : UInt8}
  (hStep : ∀ byte, byte ≠ expected → byte ≠ ST8 → step { state } byte =
    ({ state := if byte == ESC then .ignoreStringEscape else .ignoreString }, none))
  (hSt8 : step { state } ST8 = ({}, none)) (hExpected : expected ≠ ESC)
  (hEnclosed : Enclosed .dcs terminator false content) (hClean : ST8 ∉ content)
  (hHead : content.head? ≠ some expected)
  (hTerminates : terminator = .bel → StringKind.dcs = .osc) :
  Silent step { state } (content ++ terminator.bytes) {} := by
  have hString := @passesOver_string .dcs (by decide)
  cases content with
  | nil =>
    cases terminator with
    | st =>
      refine .succ (hStep ESC (Ne.symm hExpected) (by decide)) ?_
      exact .single hString.backslash
    | st8 => exact .single hSt8
    | bel => cases hTerminates rfl
  | cons byte rest =>
    obtain ⟨hByte, hRest⟩ := List.ne_and_not_mem_of_not_mem_cons hClean
    have hOther : byte ≠ expected := fun hEq => hHead (by rw [hEq]; rfl)
    exact .succ (hStep byte hOther (Ne.symm hByte)) (hString.closes hEnclosed.2.2 hRest hTerminates)

theorem closes_dcsEscape (hRead : read.length ≤ MAX_BODY_BYTES)
  (hEnclosed : Enclosed .dcs terminator true content) (hClean : ST8 ∉ content)
  (hTerminates : terminator = .bel → StringKind.dcs = .osc) :
  Silent step { state := .dcsEscape, body := read } (content ++ terminator.bytes) {} := by
  induction content with
  | nil => exact absurd rfl (hEnclosed rfl).2
  | cons byte rest ih =>
    obtain ⟨-, hBackslash, hRest⟩ := hEnclosed
    obtain ⟨-, hSt8Rest⟩ := List.ne_and_not_mem_of_not_mem_cons hClean
    by_cases hEsc : byte = ESC
    · subst hEsc
      refine .succ ?_ (ih hRest hSt8Rest)
      simp [step, transition, ESC, BACKSLASH, hRead]
    · rw [beq_false_of_ne hEsc] at hRest
      have hString := @passesOver_string .dcs (by decide)
      refine .succ ?_ (hString.closes hRest hSt8Rest hTerminates)
      simp [step, transition, hEsc, hBackslash rfl]

theorem step_dcsBody {read : List UInt8} {byte : UInt8} (hEsc : byte ≠ ESC) (hSt8 : byte ≠ ST8) :
  step { state := .dcsBody, body := read } byte =
    (if MAX_BODY_BYTES < read.length + 1 then { state := .oversizedDcs }
      else { state := .dcsBody, body := read ++ [byte] }, none) := by
  simp only [step, transition, if_neg hEsc, if_neg hSt8, List.length_append, List.length_singleton]
  split <;> rfl

/-- A body with an escape, or one that becomes too long, is passed over. -/
theorem closes_dcsBody (hRead : read.length ≤ MAX_BODY_BYTES)
  (hEnclosed : Enclosed .dcs terminator false body)
  (hClean : ST8 ∉ body) (hDropped : ESC ∈ body ∨ MAX_BODY_BYTES < read.length + body.length)
  (hTerminates : terminator = .bel → StringKind.dcs = .osc) :
  Silent step { state := .dcsBody, body := read } (body ++ terminator.bytes) {} := by
  induction body generalizing read with
  | nil =>
    rcases hDropped with hMem | hLong
    · cases hMem
    · exact absurd hRead (Nat.not_le_of_lt hLong)
  | cons byte rest ih =>
    obtain ⟨-, -, hRest⟩ := hEnclosed
    obtain ⟨hByte, hSt8Rest⟩ := List.ne_and_not_mem_of_not_mem_cons hClean
    by_cases hEsc : byte = ESC
    · subst hEsc
      refine .succ ?_ (closes_dcsEscape hRead hRest hSt8Rest hTerminates)
      simp [step, transition, hRead]
    · have hStep := @step_dcsBody read byte hEsc (Ne.symm hByte)
      rw [beq_false_of_ne hEsc] at hRest
      by_cases hLong : MAX_BODY_BYTES < read.length + 1
      · rw [if_pos hLong] at hStep
        exact .succ hStep (passesOver_oversized.closes hRest hSt8Rest hTerminates)
      rw [if_neg hLong] at hStep
      refine .succ hStep (ih ?_ hRest hSt8Rest ?_)
      · rw [List.length_append, List.length_singleton]
        omega
      rcases hDropped with hMem | hTooLong
      · exact Or.inl ((List.mem_cons.1 hMem).resolve_left (Ne.symm hEsc))
      refine Or.inr ?_
      rw [List.length_append, List.length_singleton]
      rw [List.length_cons] at hTooLong
      omega

/-- A body of a request that is kept. -/
theorem silent_dcsBody (hEsc : ESC ∉ body) (hClean : ST8 ∉ body)
  (hShort : read.length + body.length ≤ MAX_BODY_BYTES) :
  Silent step { state := .dcsBody, body := read } body
    { state := .dcsBody, body := read ++ body } := by
  induction body generalizing read with
  | nil =>
    rw [List.append_nil]
    exact .zero _
  | cons byte rest ih =>
    obtain ⟨hByteEsc, hRestEsc⟩ := List.ne_and_not_mem_of_not_mem_cons hEsc
    obtain ⟨hByte, hRestSt8⟩ := List.ne_and_not_mem_of_not_mem_cons hClean
    rw [List.length_cons] at hShort
    have hStep := @step_dcsBody read byte (Ne.symm hByteEsc) (Ne.symm hByte)
    rw [if_neg (by omega)] at hStep
    have hRest := @ih (read ++ [byte]) hRestEsc hRestSt8 (by
      rw [List.length_append, List.length_singleton]
      omega)
    rw [List.append_assoc, List.singleton_append] at hRest
    exact .succ hStep hRest

/-- The terminator of a request ends it. -/
theorem yields_dcsBody (hShort : read.length ≤ MAX_BODY_BYTES)
  (hTerminates : terminator = .bel → StringKind.dcs = .osc) {query : XtgettcapQuery}
  {before : List UInt8} (silent : Silent step query before { state := .dcsBody, body := read }) :
  Yields step query (before ++ terminator.bytes) {} (some read) := by
  cases terminator with
  | st =>
    have hEscape : step { state := .dcsBody, body := read } ESC =
        ({ state := .dcsEscape, body := read }, none) := by
      simp [step, transition, hShort]
    have hEnd : step { state := .dcsEscape, body := read } BACKSLASH = ({}, some read) := by
      simp [step, transition]
    have hYields := (silent.trans (.single hEscape)).yields_last hEnd
    rw [List.append_assoc] at hYields
    exact hYields
  | st8 =>
    refine silent.yields_last ?_
    simp [step, transition, ST8, ESC]
  | bel => cases hTerminates rfl

/-! ## Items -/

/-- A byte that the tracker passes over outside of strings. -/
def passedInGround (byte : UInt8) : Bool :=
  byte != ESC && byte != 0x90 && byte != 0x98 && byte != 0x9d && byte != 0x9e && byte != 0x9f

theorem step_ground (hPassed : passedInGround byte = true) : step {} byte = ({}, none) := by
  simp only [passedInGround, Bool.and_eq_true, bne_iff_ne] at hPassed
  simp [step, transition, hPassed]

theorem silent_ground {bytes : List UInt8} (hPassed : ∀ byte ∈ bytes, passedInGround byte = true) :
  Silent step {} bytes {} :=
  .of_forall fun byte hMem => step_ground (hPassed byte hMem)

theorem passedInGround_of_sequence : ∀ byte : UInt8,
  isIntermediate byte = true ∨ isEscapeFinal byte = true ∨ isCsiBody byte = true ∨
    isCsiFinal byte = true → passedInGround byte = true :=
  Utf8.forall_byte (by decide +kernel)

theorem step_escape : ∀ byte : UInt8, isIntermediate byte = true ∨
  isEscapeFinal byte = true ∧ isEscapeIntro byte = false ∨ byte = CSI_INTRO →
    step { state := .escape } byte = ({}, none) :=
  Utf8.forall_byte (by decide +kernel)

theorem step_escape_start : step {} ESC = ({ state := .escape }, none) := by
  decide

/-- The state in which the content of a string is read. -/
def contentState : StringKind → XtgettcapTrackerState
  | .osc => .ignoreOsc
  | .dcs => .dcsIntro
  | _ => .ignoreString

theorem silent_introducer (string : ControlString) :
  Silent step {} string.introducer { state := contentState string.kind } := by
  have hIntro : ∀ kind : StringKind, step {} kind.intro8 = ({ state := contentState kind }, none) ∧
      step { state := .escape } kind.intro7 = ({ state := contentState kind }, none) := by
    intro kind
    cases kind <;> decide
  rw [ControlString.introducer]
  split
  · exact .single (hIntro _).1
  · exact .succ step_escape_start (.single (hIntro _).2)

theorem step_dcsIntro (hByte : byte ≠ 0x2b) (hSt8 : byte ≠ ST8) :
  step { state := .dcsIntro } byte =
    ({ state := if byte == ESC then .ignoreStringEscape else .ignoreString }, none) := by
  simp only [step, transition, if_neg hByte, if_neg hSt8, beq_iff_eq]
  split <;> rfl

theorem step_dcsIntroPlus (hByte : byte ≠ 0x71) (hSt8 : byte ≠ ST8) :
  step { state := .dcsIntroPlus } byte =
    ({ state := if byte == ESC then .ignoreStringEscape else .ignoreString }, none) := by
  simp only [step, transition, if_neg hByte, if_neg hSt8, beq_iff_eq]
  split <;> rfl

/-- A device control string without a request that is kept is passed over. -/
theorem closes_dcs (hEnclosed : Enclosed .dcs terminator false content) (hClean : ST8 ∉ content)
  (hTerminates : terminator = .bel → StringKind.dcs = .osc)
  (hDropped : ∀ body, content = 0x2b :: 0x71 :: body →
    ESC ∈ body ∨ MAX_BODY_BYTES < body.length) :
  Silent step { state := .dcsIntro } (content ++ terminator.bytes) {} := by
  by_cases hFirst : content.head? = some 0x2b
  · obtain ⟨rest, rfl⟩ := List.head?_eq_some_iff.1 hFirst
    obtain ⟨-, hCleanRest⟩ := List.ne_and_not_mem_of_not_mem_cons hClean
    have hEnclosedRest : Enclosed .dcs terminator false rest := hEnclosed.2.2
    refine .succ (t := { state := .dcsIntroPlus }) (by decide) ?_
    by_cases hSecond : rest.head? = some 0x71
    · obtain ⟨body, rfl⟩ := List.head?_eq_some_iff.1 hSecond
      obtain ⟨-, hCleanBody⟩ := List.ne_and_not_mem_of_not_mem_cons hCleanRest
      refine .succ (t := { state := .dcsBody }) (by decide) ?_
      refine closes_dcsBody (Nat.zero_le _) hEnclosedRest.2.2 hCleanBody ?_ hTerminates
      rw [List.length_nil, Nat.zero_add]
      exact hDropped body rfl
    · exact closes_of_intro (fun _ => step_dcsIntroPlus) (by decide) (by decide) hEnclosedRest
        hCleanRest hSecond hTerminates
  · exact closes_of_intro (fun _ => step_dcsIntro) (by decide) (by decide) hEnclosed hClean hFirst
      hTerminates

theorem exists_passesOver {kind : StringKind} (hKind : kind ≠ .dcs) :
  ∃ escapeState, PassesOver kind (contentState kind) escapeState := by
  cases kind with
  | osc => exact ⟨_, passesOver_osc⟩
  | dcs => exact absurd rfl hKind
  | apc => exact ⟨_, passesOver_string (by decide)⟩
  | pm => exact ⟨_, passesOver_string (by decide)⟩
  | sos => exact ⟨_, passesOver_string (by decide)⟩

/-- A request that is kept ends with its terminator. -/
theorem yields_request (hRequest : string.request = some body)
  (hShort : body.length ≤ MAX_BODY_BYTES) (hClean : ST8 ∉ string.content) :
  Yields step {} string.bytes {} (some body) := by
  have hIntro := silent_introducer string
  have hTerminates := string.terminates
  obtain ⟨hKind, hContent, hEsc⟩ := ControlString.request_eq_some_iff.1 hRequest
  rw [hKind] at hIntro hTerminates
  have hBody : Silent step { state := contentState .dcs } string.content
      { state := .dcsBody, body } := by
    rw [hContent] at hClean ⊢
    have hCleanBody : ST8 ∉ body := fun hMem => hClean (by simp [hMem])
    refine .succ (t := { state := .dcsIntroPlus }) (by decide) ?_
    refine .succ (t := { state := .dcsBody }) (by decide) ?_
    exact silent_dcsBody hEsc hCleanBody (by simpa using hShort)
  have hYields := yields_dcsBody hShort hTerminates (hIntro.trans hBody)
  rw [List.append_assoc] at hYields
  exact hYields

/-- Every other string is passed over. -/
theorem silent_string (hRequest : string.request.filter keepsRequest = none)
  (hClean : string.Clean) : Silent step {} string.bytes {} := by
  refine (silent_introducer string).trans ?_
  have hEnclosed := hClean.enclosed
  have hTerminates := string.terminates
  by_cases hKind : string.kind = .dcs
  · rw [hKind] at hEnclosed hTerminates ⊢
    refine closes_dcs hEnclosed hClean.st8 hTerminates fun body hContent => ?_
    by_cases hEsc : ESC ∈ body
    · exact Or.inl hEsc
    rw [ControlString.request_eq_some_iff.2 ⟨hKind, hContent, hEsc⟩] at hRequest
    refine Or.inr (Nat.lt_of_not_le fun hShort => ?_)
    have hKept : keepsRequest body = true := decide_eq_true hShort
    rw [Option.filter_some, if_pos hKept] at hRequest
    cases hRequest
  · obtain ⟨escapeState, passes⟩ := exists_passesOver hKind
    exact passes.closes hEnclosed hClean.st8 hTerminates

theorem yields_string (hClean : string.Clean) :
  Yields step {} string.bytes {} (string.request.filter keepsRequest) := by
  cases hRequest : string.request.filter keepsRequest with
  | none => exact (silent_string hRequest hClean).yields
  | some body =>
    obtain ⟨hSome, hShort⟩ := Option.filter_eq_some_iff.1 hRequest
    exact yields_request hSome (of_decide_eq_true hShort) hClean.st8

theorem silent_text {ch : Char} (hEsc : ESC ∉ String.utf8EncodeChar ch)
  (hClean : ∀ kind : StringKind, kind.intro8 ∉ String.utf8EncodeChar ch) :
  Silent step {} (String.utf8EncodeChar ch) {} := by
  refine silent_ground fun byte hMem => ?_
  have hIntro : ∀ kind : StringKind, byte ≠ kind.intro8 := by
    rintro kind rfl
    exact hClean kind hMem
  have hNotEsc : byte ≠ ESC := by
    rintro rfl
    exact hEsc hMem
  simp only [passedInGround, Bool.and_eq_true, bne_iff_ne]
  exact ⟨⟨⟨⟨⟨hNotEsc, hIntro .dcs⟩, hIntro .sos⟩, hIntro .osc⟩, hIntro .pm⟩, hIntro .apc⟩

theorem silent_escape {intermediates : List UInt8} {final : UInt8}
  (hIntermediates : ∀ byte ∈ intermediates, isIntermediate byte = true)
  (hFinal : isEscapeFinal final = true)
  (hIntro : intermediates = [] → isEscapeIntro final = false) :
  Silent step {} (ESC :: (intermediates ++ [final])) {} := by
  refine .succ step_escape_start ?_
  have hLast := passedInGround_of_sequence final (Or.inr (Or.inl hFinal))
  cases intermediates with
  | nil => exact .single (step_escape final (Or.inr (Or.inl ⟨hFinal, hIntro rfl⟩)))
  | cons first rest =>
    have hFirst := hIntermediates first List.mem_cons_self
    refine .succ (step_escape first (Or.inl hFirst)) (silent_ground fun byte hMem => ?_)
    rcases List.mem_append.1 hMem with hRest | hEnd
    · have hByte := hIntermediates byte (List.mem_cons_of_mem _ hRest)
      exact passedInGround_of_sequence byte (Or.inl hByte)
    · rw [List.mem_singleton.1 hEnd]
      exact hLast

theorem silent_csi {eightBit : Bool} {final : UInt8}
  (hBody : ∀ byte ∈ body, isCsiBody byte = true) (hFinal : isCsiFinal final = true) :
  Silent step {} ((if eightBit then [CSI8] else [ESC, CSI_INTRO]) ++ (body ++ [final])) {} := by
  refine Silent.trans (t := {}) ?_ (silent_ground fun byte hMem => ?_)
  · cases eightBit with
    | true => exact .single (by decide)
    | false => exact .succ step_escape_start (.single (by decide))
  · apply passedInGround_of_sequence
    rcases List.mem_append.1 hMem with hInBody | hEnd
    · exact Or.inr (Or.inr (Or.inl (hBody byte hInBody)))
    · rw [List.mem_singleton.1 hEnd]
      exact Or.inr (Or.inr (Or.inr hFinal))

theorem yields_item {item : StreamItem} (hClean : item.Unambiguous) :
  Yields step {} item.bytes {} (item.request.filter keepsRequest) := by
  cases item with
  | text ch hText => exact (silent_text hText hClean).yields
  | escape intermediates final hIntermediates hFinal hIntro =>
    exact (silent_escape hIntermediates hFinal hIntro).yields
  | csi eightBit body final hBody hFinal => exact (silent_csi hBody hFinal).yields
  | string control => exact yields_string hClean

theorem requests_stream {stream : List StreamItem} (hClean : ∀ item ∈ stream, item.Unambiguous)
  (start : Nat) :
  ((marksFrom start (outputs step {} (streamBytes stream))).flatMap
      fun (endOffset, body) => finalize endOffset body) =
    requestResponses keepsRequest start stream := by
  induction stream generalizing start with
  | nil => rfl
  | cons item rest ih =>
    have hItem := yields_item (hClean item List.mem_cons_self)
    have hRest := ih (fun later hMem => hClean later (List.mem_cons_of_mem _ hMem))
      (start + item.bytes.length)
    rw [requestResponses, ← hRest, streamBytes, List.flatMap_cons, outputs_append, hItem.after_eq,
      marksFrom_append, length_outputs, List.flatMap_append, hItem.marksFrom_eq, List.flatMap_map]
    rfl

end XtgettcapQuery

/-! ## Single requests -/

theorem unended_of_not_mem {kind : StringKind} {content : List UInt8} (hEsc : ESC ∉ content)
  (hBel : BEL ∉ content) : Unended kind false content := by
  induction content with
  | nil => trivial
  | cons byte rest ih =>
    obtain ⟨hByteEsc, hRestEsc⟩ := List.ne_and_not_mem_of_not_mem_cons hEsc
    obtain ⟨hByteBel, hRestBel⟩ := List.ne_and_not_mem_of_not_mem_cons hBel
    refine ⟨fun _ => Ne.symm hByteBel, fun hEscaped => absurd hEscaped Bool.false_ne_true, ?_⟩
    rw [beq_false_of_ne (Ne.symm hByteEsc)]
    exact ih hRestEsc hRestBel

/-- The request with a body. -/
def requestString (body : List UInt8) (hEsc : ESC ∉ body) (hBel : BEL ∉ body) : ControlString where
  kind := .dcs
  eightBit := false
  content := ascii "+q" ++ body
  terminator := .st
  unended := by
    apply unended_of_not_mem
    · rw [List.mem_append]
      exact not_or.2 ⟨by decide, hEsc⟩
    · rw [List.mem_append]
      exact not_or.2 ⟨by decide, hBel⟩
  terminates := by
    intro hBelEnd
    cases hBelEnd

def trueColorRequest : StreamItem :=
  .string (requestString (ascii "5463") (by decide) (by decide))

/-! ## The requests of a stream -/

open XtgettcapQueryTracker

/-- The responses to a stream, cut into reads in any way, are those to all of its requests. -/
def Answered (stream : List StreamItem) : Prop :=
  ∀ reads, reads.flatten = streamBytes stream →
    respond {} 0 reads = requestResponses (fun _ => true) 0 stream

/-- Where no character is taken for an introducer of a string, no byte of a content for a
terminator and none of a terminator for a part of the content, each request that is kept is
answered where it ends, however the stream is cut into reads, and nothing else is. -/
theorem respond_stream {stream : List StreamItem} (hClean : ∀ item ∈ stream, item.Unambiguous)
  {reads : List (List UInt8)} (hCut : reads.flatten = streamBytes stream) :
  respond {} 0 reads = requestResponses keepsRequest 0 stream := by
  rw [respond_eq, hCut, XtgettcapQuery.requests_stream hClean]

/-- A title that holds the beginning of a request. -/
def titleString : StreamItem :=
  .string {
    kind := .osc
    eightBit := true
    content := ascii "\x1bP+q5463"
    terminator := .st8
    unended := by simp [ascii, Unended, ESC, BEL, BACKSLASH]
    terminates := fun _ => rfl }

/-- A request in two reads, after text and a title. -/
theorem respond_stream_title :
  respond {} 0 [[0xc3, 0xa9, 0x9d] ++ ascii "\x1bP+q5463", ST8 :: ascii "\x1bP+q54",
      ascii "63\x1b\\"] =
    requestResponses keepsRequest 0
      [.text 'é' (by decide +kernel), titleString, trueColorRequest] := by
  refine respond_stream ?_ (by decide +kernel)
  intro item hMem
  simp only [List.mem_cons, List.not_mem_nil, or_false] at hMem
  obtain rfl | rfl | rfl := hMem
  · intro kind
    cases kind <;> decide +kernel
  · exact ⟨by decide +kernel, fun hLast => absurd hLast (by decide +kernel)⟩
  · exact ⟨by decide +kernel, fun hLast => absurd hLast (by decide +kernel)⟩

example : requestResponses keepsRequest 0 [titleString, trueColorRequest] =
    [⟨20, ascii "\x1bP1+r5463\x1b\\"⟩] := by
  decide +kernel

/-! ## Requests that are lost -/

/-- A request of the true colour capability, with other names up to more than 1024 bytes. -/
def longBody : List UInt8 := ascii "5463;" ++ List.replicate 1020 0x41

def longRequest : StreamItem :=
  .string (requestString longBody (by decide +kernel) (by decide +kernel))

/-- Its second byte is the 8-bit introducer of an APC string. -/
def sharpS : StreamItem := .text 'ß' (by decide +kernel)

/-- A title that ends in an escape before its terminator. -/
def escapedTitle : StreamItem :=
  .string {
    kind := .osc
    eightBit := false
    content := ascii "2;b\x1b"
    terminator := .bel
    unended := by simp [ascii, Unended, ESC, BEL]
    terminates := fun _ => rfl }

/-- A request that is too long is lost, and one that comes after a character with such a byte or
after such a title. -/
theorem not_answered : ¬ Answered [longRequest] ∧ ¬ Answered [sharpS, trueColorRequest] ∧
  ¬ Answered [escapedTitle, trueColorRequest] := by
  refine ⟨?_, ?_, ?_⟩
  · intro hAnswered
    have hClean : ∀ item ∈ [longRequest], item.Unambiguous := by
      intro item hMem
      obtain rfl := List.mem_singleton.1 hMem
      exact ⟨by decide +kernel, fun hLast => absurd hLast (by decide +kernel)⟩
    have hSent := hAnswered [streamBytes [longRequest]] (List.append_nil _)
    rw [respond_eq, List.flatten_singleton, XtgettcapQuery.requests_stream hClean] at hSent
    have hCounts := congrArg List.length hSent
    revert hCounts
    decide +kernel
  · intro hAnswered
    have hSent := hAnswered [streamBytes [sharpS, trueColorRequest]] (List.append_nil _)
    revert hSent
    decide +kernel
  · intro hAnswered
    have hSent := hAnswered [streamBytes [escapedTitle, trueColorRequest]] (List.append_nil _)
    revert hSent
    decide +kernel

end Pane
