import Mathlib.Data.List.ReduceOption
import VimeflowTerminal.Data.Mealy

/-! What a child writes passes three recognisers of OSC strings side by side: one sees whether a
default colour is set, one collects the colour events with their offsets, one collects the
bodies of all OSC strings for the other consumers. -/

namespace Pane

def ESC : UInt8 := 0x1b

def BEL : UInt8 := 0x07

/-- `\`, which ends a string after an escape. -/
def BACKSLASH : UInt8 := 0x5c

/-- `]`, which begins an OSC string after an escape. -/
def OSC_INTRO : UInt8 := 0x5d

/-- The bytes of a text that is ASCII. -/
def ascii (text : String) : List UInt8 := text.toList.map fun ch => UInt8.ofNat ch.toNat

inductive DefaultColorQuery where
  | foreground
  | background
  | cursor
  deriving DecidableEq

inductive DefaultColorEvent where
  | query (color : DefaultColorQuery)
  | set (color : DefaultColorQuery)
  | reset (color : DefaultColorQuery)
  | paletteQuery (index : UInt8)
  deriving DecidableEq

structure DefaultColorTrackedEvent where
  endOffset : Nat
  event : DefaultColorEvent
  deriving DecidableEq

def stripPrefix (start bytes : List UInt8) : Option (List UInt8) :=
  if start.isPrefixOf bytes then some (bytes.drop start.length) else none

def stripSuffix (ending bytes : List UInt8) : Option (List UInt8) :=
  if ending.isSuffixOf bytes then some (bytes.take (bytes.length - ending.length)) else none

def isAsciiDigit (byte : UInt8) : Bool := 0x30 ≤ byte && byte ≤ 0x39

def parsePaletteColorQuery (body : List UInt8) : Option DefaultColorEvent := do
  let rest ← stripPrefix (ascii "4;") body
  let index ← stripSuffix (ascii ";?") rest
  if index.isEmpty || decide (index.length > 3) || !index.all isAsciiDigit then none
  else
    let value := index.foldl (fun value digit => value * 10 + (digit.toNat - 0x30)) 0
    if value < 256 then some (.paletteQuery (UInt8.ofNat value)) else none

def defaultColorQueryOf : Nat → Option DefaultColorQuery
  | 10 => some .foreground
  | 11 => some .background
  | 12 => some .cursor
  | _ => none

/-- The values after the first separator are for the colour named and the ones after it. -/
def parseDefaultColorSetEvents (body : List UInt8) : List DefaultColorEvent :=
  match body.findIdx? (· == 0x3b) with
  | none => []
  | some separator =>
    let start :=
      if body.take separator = ascii "10" then some 10
      else if body.take separator = ascii "11" then some 11
      else if body.take separator = ascii "12" then some 12
      else none
    match start with
    | none => []
    | some start =>
      let values := ((body.drop (separator + 1)).splitOn 0x3b).filter fun value => !value.isEmpty
      values.zipIdx.filterMap fun (value, offset) =>
        if value = ascii "?" then none
        else (defaultColorQueryOf (start + offset)).map .set

def parseDefaultColorEvents (body : List UInt8) : List DefaultColorEvent :=
  let single :=
    if body = ascii "10;?" then some (.query .foreground)
    else if body = ascii "11;?" then some (.query .background)
    else if body = ascii "12;?" then some (.query .cursor)
    else if body = ascii "110" ∨ body = ascii "110;" then some (.reset .foreground)
    else if body = ascii "111" ∨ body = ascii "111;" then some (.reset .background)
    else parsePaletteColorQuery body
  match single with
  | some event => [event]
  | none => parseDefaultColorSetEvents body

def isDefaultColorSetOsc (body : List UInt8) : Bool :=
  (parseDefaultColorEvents body).any fun event =>
    match event with
    | .set _ => true
    | _ => false

inductive DefaultColorOscTrackerState where
  | ground
  | escape
  | oscBody
  | oscEscape
  | ignoreString
  | ignoreStringEscape
  | oversizedOsc
  | oversizedOscEscape
  deriving DecidableEq

def isIgnoredStringIntro (byte : UInt8) : Bool :=
  byte == 0x50 || byte == 0x5f || byte == 0x5e || byte == 0x58

/-- What both colour trackers keep of an unfinished string. -/
structure DefaultColorOsc where
  state : DefaultColorOscTrackerState := .ground
  body : List UInt8 := []
  deriving DecidableEq

/-- The transition for a byte, and the body it ends. -/
def DefaultColorOsc.transition (osc : DefaultColorOsc) (byte : UInt8) :
  DefaultColorOsc × Option (List UInt8) :=
  match osc.state with
  | .ground => if byte = ESC then ({ osc with state := .escape }, none) else (osc, none)
  | .escape =>
    if byte = OSC_INTRO then ({ state := .oscBody, body := [] }, none)
    else if isIgnoredStringIntro byte then ({ state := .ignoreString, body := [] }, none)
    else if byte = ESC then ({ osc with state := .escape }, none)
    else ({ osc with state := .ground }, none)
  | .oscBody =>
    if byte = BEL then ({ state := .ground, body := [] }, some osc.body)
    else if byte = ESC then ({ osc with state := .oscEscape }, none)
    else ({ osc with body := osc.body ++ [byte] }, none)
  | .oscEscape =>
    if byte = BACKSLASH then ({ state := .ground, body := [] }, some osc.body)
    else ({ state := .oscBody, body := osc.body ++ [ESC, byte] }, none)
  | .ignoreString =>
    if byte = ESC then ({ osc with state := .ignoreStringEscape }, none) else (osc, none)
  | .ignoreStringEscape =>
    if byte = BACKSLASH then ({ osc with state := .ground }, none)
    else if byte ≠ ESC then ({ osc with state := .ignoreString }, none)
    else (osc, none)
  | .oversizedOsc =>
    if byte = ESC then ({ osc with state := .oversizedOscEscape }, none)
    else if byte = BEL then ({ osc with state := .ground }, none)
    else (osc, none)
  | .oversizedOscEscape =>
    if byte = BACKSLASH then ({ osc with state := .ground }, none)
    else if byte ≠ ESC then ({ osc with state := .oversizedOsc }, none)
    else (osc, none)

/-- The bytes of a body that the colour trackers keep. -/
def DEFAULT_COLOR_BODY_BYTES : Nat := 1024

/-- A byte with the check for bodies that have become too long. -/
def DefaultColorOsc.step (osc : DefaultColorOsc) (byte : UInt8) :
  DefaultColorOsc × Option (List UInt8) :=
  let (osc, ended) := osc.transition byte
  if DEFAULT_COLOR_BODY_BYTES < osc.body.length then ({ state := .oversizedOsc, body := [] }, ended)
  else (osc, ended)

structure DefaultColorOscTracker where
  osc : DefaultColorOsc := {}

/-- Whether a default colour is set by a string that ends in these bytes. -/
def DefaultColorOscTracker.observe (tracker : DefaultColorOscTracker) (bytes : List UInt8) :
  DefaultColorOscTracker × Bool :=
  bytes.foldl (fun (tracker, sawDefaultColorSet) byte =>
    let (osc, ended) := tracker.osc.step byte
    ({ osc }, sawDefaultColorSet || ended.any isDefaultColorSetOsc)) (tracker, false)

structure DefaultColorEventTracker where
  osc : DefaultColorOsc := {}
  pending : List DefaultColorTrackedEvent := []

def trackedEvents (endOffset : Nat) (body : List UInt8) : List DefaultColorTrackedEvent :=
  (parseDefaultColorEvents body).map fun event => { endOffset, event }

/-- The loop of `observe` from an index of the read on. -/
def DefaultColorEventTracker.observeFrom (tracker : DefaultColorEventTracker) (index : Nat) :
  List UInt8 → DefaultColorEventTracker
  | [] => tracker
  | byte :: rest =>
    let (osc, ended) := tracker.osc.step byte
    let events := ended.elim [] (trackedEvents (index + 1))
    observeFrom { osc, pending := tracker.pending ++ events } (index + 1) rest

def DefaultColorEventTracker.observe (tracker : DefaultColorEventTracker) (bytes : List UInt8) :
  DefaultColorEventTracker :=
  tracker.observeFrom 0 bytes

inductive OscStreamState where
  | ground
  | escape
  | body
  | bodyEscape
  | ignoringString
  | ignoringStringEscape
  | discarding
  | discardingEscape
  deriving DecidableEq

structure OscStreamCollector where
  state : OscStreamState := .ground
  body : List UInt8 := []
  deriving DecidableEq

namespace OscStreamCollector

def MAX_BODY_BYTES : Nat := 4096

def push (collector : OscStreamCollector) (byte : UInt8) : OscStreamCollector :=
  let body := collector.body ++ [byte]
  if MAX_BODY_BYTES < body.length then { state := .discarding, body := [] }
  else { state := .body, body }

/-- The body is handed to the receiver. -/
def finish (collector : OscStreamCollector) : OscStreamCollector × Option (List UInt8) :=
  ({ state := .ground, body := [] }, some collector.body)

def step (collector : OscStreamCollector) (byte : UInt8) :
  OscStreamCollector × Option (List UInt8) :=
  match collector.state with
  | .ground => if byte = ESC then ({ collector with state := .escape }, none) else (collector, none)
  | .escape =>
    if byte = OSC_INTRO then ({ state := .body, body := [] }, none)
    else if byte = ESC then ({ collector with state := .escape }, none)
    else if isIgnoredStringIntro byte then ({ collector with state := .ignoringString }, none)
    else ({ collector with state := .ground }, none)
  | .body =>
    if byte = BEL then collector.finish
    else if byte = ESC then ({ collector with state := .bodyEscape }, none)
    else (collector.push byte, none)
  | .bodyEscape =>
    if byte = BACKSLASH then collector.finish
    else if byte = BEL then
      let pushed := collector.push ESC
      if pushed.state = .body then pushed.finish else ({ pushed with state := .ground }, none)
    else if byte = ESC then
      let pushed := collector.push ESC
      let state :=
        match pushed.state with
        | .body => .bodyEscape
        | .discarding => .discardingEscape
        | state => state
      ({ pushed with state }, none)
    else
      let pushed := collector.push ESC
      if pushed.state = .body then (pushed.push byte, none) else (pushed, none)
  | .ignoringString =>
    if byte = ESC then ({ collector with state := .ignoringStringEscape }, none)
    else (collector, none)
  | .ignoringStringEscape =>
    if byte = BACKSLASH then ({ collector with state := .ground }, none)
    else if byte ≠ ESC then ({ collector with state := .ignoringString }, none)
    else (collector, none)
  | .discarding =>
    if byte = BEL then ({ collector with state := .ground }, none)
    else if byte = ESC then ({ collector with state := .discardingEscape }, none)
    else (collector, none)
  | .discardingEscape =>
    if byte = BACKSLASH then ({ collector with state := .ground }, none)
    else if byte ≠ ESC then ({ collector with state := .discarding }, none)
    else (collector, none)

/-- The bodies received from a read, in their order. -/
def observe (collector : OscStreamCollector) (bytes : List UInt8) :
  OscStreamCollector × List (List UInt8) :=
  bytes.foldl (fun (collector, received) byte =>
    let (collector, ended) := collector.step byte
    (collector, received ++ ended.toList)) (collector, [])

end OscStreamCollector

open Mealy

/-- The events of a read are those of the bodies that end in it, at the places where they end. -/
theorem DefaultColorEventTracker.observeFrom_eq (tracker : DefaultColorEventTracker) (index : Nat)
  (bytes : List UInt8) :
  tracker.observeFrom index bytes =
    { osc := after DefaultColorOsc.step tracker.osc bytes
      pending := tracker.pending ++
        (marksFrom index (outputs DefaultColorOsc.step tracker.osc bytes)).flatMap
          fun (endOffset, body) => trackedEvents endOffset body } := by
  induction bytes generalizing tracker index with
  | nil => simp [observeFrom, after, outputs, marksFrom]
  | cons byte rest ih =>
    simp only [observeFrom, ih, outputs, after, List.foldl_cons]
    cases hEnded : (tracker.osc.step byte).2 with
    | none => simp [marksFrom, next]
    | some body => simp [marksFrom, next]

theorem DefaultColorOscTracker.observe_eq (tracker : DefaultColorOscTracker) (bytes : List UInt8) :
  tracker.observe bytes =
    ({ osc := after DefaultColorOsc.step tracker.osc bytes },
      (outputs DefaultColorOsc.step tracker.osc bytes).any fun ended =>
        ended.any isDefaultColorSetOsc) := by
  suffices hFold : ∀ saw, bytes.foldl (fun (tracker, sawDefaultColorSet) byte =>
      (({ osc := (DefaultColorOsc.step tracker.osc byte).1 } : DefaultColorOscTracker),
        sawDefaultColorSet || (DefaultColorOsc.step tracker.osc byte).2.any isDefaultColorSetOsc))
      (tracker, saw) =
      ({ osc := after DefaultColorOsc.step tracker.osc bytes },
        saw || (outputs DefaultColorOsc.step tracker.osc bytes).any fun ended =>
          ended.any isDefaultColorSetOsc) by
    have hObserve := hFold false
    rw [Bool.false_or] at hObserve
    exact hObserve
  induction bytes generalizing tracker with
  | nil => simp [after, outputs]
  | cons byte rest ih =>
    intro saw
    rw [List.foldl_cons, ih]
    simp [after, outputs, next, Bool.or_assoc]

theorem OscStreamCollector.observe_eq (collector : OscStreamCollector) (bytes : List UInt8) :
  collector.observe bytes =
    (after OscStreamCollector.step collector bytes,
      (outputs OscStreamCollector.step collector bytes).reduceOption) := by
  suffices hFold : ∀ received, bytes.foldl (fun (collector, received) byte =>
      ((OscStreamCollector.step collector byte).1,
        received ++ (OscStreamCollector.step collector byte).2.toList)) (collector, received) =
      (after OscStreamCollector.step collector bytes,
        received ++ (outputs OscStreamCollector.step collector bytes).reduceOption) by
    have hObserve := hFold []
    rw [List.nil_append] at hObserve
    exact hObserve
  induction bytes generalizing collector with
  | nil => simp [after, outputs]
  | cons byte rest ih =>
    intro received
    rw [List.foldl_cons, ih, outputs]
    cases hEnded : (OscStreamCollector.step collector byte).2 with
    | none => simp [after, next]
    | some body => simp [after, next]

end Pane
