import VimeflowTerminal.Data.Utf8
import VimeflowTerminal.Input.Key

/-! The bytes that a program in a pane gets for a key, by the keyboard protocol it
has asked for. -/

namespace Input

def KITTY_FLAG_REPORT_EVENT_TYPES : UInt16 := 2

def KITTY_FLAG_REPORT_ALTERNATE_KEYS : UInt16 := 4

def KITTY_FLAG_REPORT_ALL_KEYS : UInt16 := 8

def KITTY_FLAG_REPORT_ASSOCIATED_TEXT : UInt16 := 16

def hasFlag (flags flag : UInt16) : Bool := flags &&& flag ≠ 0

namespace KeyboardProtocol

def reportsEventTypes : KeyboardProtocol → Bool
  | .legacy => false
  | .kitty flags => hasFlag flags KITTY_FLAG_REPORT_EVENT_TYPES

def reportsAllKeys : KeyboardProtocol → Bool
  | .legacy => false
  | .kitty flags => hasFlag flags KITTY_FLAG_REPORT_ALL_KEYS

end KeyboardProtocol

/-- `write!(sequence, "{number}")`. -/
def decimal (number : Nat) : List Char := Nat.toDigits 10 number

def xtermModifier (mods : KeyModifiers) : Nat :=
  1 + mods.shift.toNat + 2 * mods.alt.toNat + 4 * mods.control.toNat

/-- The modifiers of xterm and three more. -/
def kittyModifier (mods : KeyModifiers) : Nat :=
  xtermModifier mods + 8 * mods.super.toNat + 16 * mods.hyper.toNat + 32 * mods.meta.toNat

def isShiftedAsciiPunctuation (ch : Char) : Bool :=
  "!@#$%^&*()_+\x7b\x7d|:\"<>?~".toList.contains ch

def shiftedTextChar (key : TerminalKey) (ch : Char) : Option Char :=
  match key.shiftedCodepoint.bind fun codepoint => charFromU32 codepoint.toNat with
  | some shifted => some shifted
  | none =>
    if ch.isUpper then some ch
    else if ch.isLower then some ch.toUpper
    else if isShiftedAsciiPunctuation ch then some ch
    else none

def textCharForKey (key : TerminalKey) : Option Char :=
  if key.kind = .release then none
  else
    match key.code with
    | .char ch =>
      if key.modifiers.isEmpty then some ch
      else if key.modifiers = KeyModifiers.SHIFT then shiftedTextChar key ch
      else none
    | _ => none

def textCodepointForKey (key : TerminalKey) : Option Nat :=
  match textCharForKey key with
  | some ch => if Utf8.isControl ch then none else some ch.toNat
  | none => none

def encodeTextInput (key : TerminalKey) : Option (List UInt8) :=
  (textCharForKey key).map String.utf8EncodeChar

def canonicalKittyChar (ch : Char) (mods : KeyModifiers) : Char :=
  if mods.shift && ch.isUpper then ch.toLower else ch

def alternateShiftedCodepoint (key : TerminalKey) (flags : UInt16) : Option UInt32 :=
  if !hasFlag flags KITTY_FLAG_REPORT_ALTERNATE_KEYS then none
  else
    match key.shiftedCodepoint with
    | some shifted => some shifted
    | none =>
      match key.code with
      | .char ch => if key.modifiers.shift && ch.isUpper then some ch.val else none
      | _ => none

def kittyEventSuffix (key : TerminalKey) (flags : UInt16) : Option Nat :=
  if !hasFlag flags KITTY_FLAG_REPORT_EVENT_TYPES then none
  else
    match key.kind with
    | .press => some 1
    | .repeat => some 2
    | .release => some 3

/-- The keys with a well-established xterm form, which is preferred to CSI u. -/
def hasLegacyForm : KeyCode → Bool
  | .up | .down | .left | .right | .home | .«end» | .pageUp | .pageDown | .insert | .delete
  | .f _ => true
  | _ => false

/-- The number of a key in the CSI u form, with the alternate one. -/
def csiUCodepoint (key : TerminalKey) (flags : UInt16) : Option (Nat × Option UInt32) :=
  match key.code with
  | .char ch =>
    some ((canonicalKittyChar ch key.modifiers).toNat, alternateShiftedCodepoint key flags)
  | .enter => some (13, none)
  | .tab => some (9, none)
  | .backspace => some (127, none)
  | .esc => some (27, none)
  | .left => some (57417, none)
  | .right => some (57418, none)
  | .up => some (57419, none)
  | .down => some (57420, none)
  | .pageUp => some (57421, none)
  | .pageDown => some (57422, none)
  | .home => some (57423, none)
  | .«end» => some (57424, none)
  | .insert => some (57425, none)
  | .delete => some (57426, none)
  | _ => none

/-- A field of a sequence that may be left out. -/
def optionalField (separator : Char) : Option Nat → List Char
  | some number => separator :: decimal number
  | none => []

/-- Whether the CSI u form is left to the older encodings. -/
def prefersLegacy (key : TerminalKey) (flags : UInt16) : Bool :=
  let eventSuffix := kittyEventSuffix key flags
  let reportAllKeys := hasFlag flags KITTY_FLAG_REPORT_ALL_KEYS
  !reportAllKeys && key.modifiers.isEmpty && [.enter, .tab, .backspace].contains key.code ||
    key.modifiers.isEmpty && eventSuffix.isNone && !reportAllKeys ||
    hasLegacyForm key.code && eventSuffix.isNone && !reportAllKeys

/-- The form `CSI code:shifted ; modifier:event ; text u`. -/
def tryEncodeCsiU (key : TerminalKey) (flags : UInt16) : Option (List Char) :=
  if prefersLegacy key flags then none
  else
    (csiUCodepoint key flags).map fun (codepoint, alternateShifted) =>
      let text :=
        if hasFlag flags KITTY_FLAG_REPORT_ASSOCIATED_TEXT then textCodepointForKey key else none
      "\x1b[".toList ++
        (decimal codepoint ++ optionalField ':' (alternateShifted.map UInt32.toNat) ++
          ';' :: (decimal (kittyModifier key.modifiers) ++
            optionalField ':' (kittyEventSuffix key flags)) ++
          optionalField ';' text) ++ ['u']

/-- `CSI 1 ; modifier letter`. -/
def letterSequence (modifier : Nat) (letter : Char) : List Char :=
  "\x1b[1;".toList ++ decimal modifier ++ [letter]

/-- `CSI number ; modifier ~`. -/
def tildeSequence (number modifier : Nat) : List Char :=
  "\x1b[".toList ++ decimal number ++ ';' :: decimal modifier ++ ['~']

def encodeModifiedSpecial (code : KeyCode) (mods : KeyModifiers) : Option (List Char) :=
  let modifier := xtermModifier mods
  if modifier ≤ 1 then none
  else
    match code with
    | .up => some (letterSequence modifier 'A')
    | .down => some (letterSequence modifier 'B')
    | .right => some (letterSequence modifier 'C')
    | .left => some (letterSequence modifier 'D')
    | .home => some (letterSequence modifier 'H')
    | .«end» => some (letterSequence modifier 'F')
    | .insert => some (tildeSequence 2 modifier)
    | .delete => some (tildeSequence 3 modifier)
    | .pageUp => some (tildeSequence 5 modifier)
    | .pageDown => some (tildeSequence 6 modifier)
    | .f 1 => some (letterSequence modifier 'P')
    | .f 2 => some (letterSequence modifier 'Q')
    | .f 3 => some (letterSequence modifier 'R')
    | .f 4 => some (letterSequence modifier 'S')
    | .f 5 => some (tildeSequence 15 modifier)
    | .f 6 => some (tildeSequence 17 modifier)
    | .f 7 => some (tildeSequence 18 modifier)
    | .f 8 => some (tildeSequence 19 modifier)
    | .f 9 => some (tildeSequence 20 modifier)
    | .f 10 => some (tildeSequence 21 modifier)
    | .f 11 => some (tildeSequence 23 modifier)
    | .f 12 => some (tildeSequence 24 modifier)
    | _ => none

def encodeFKey (n : UInt8) : List UInt8 :=
  match n with
  | 1 => [27, 79, 80]
  | 2 => [27, 79, 81]
  | 3 => [27, 79, 82]
  | 4 => [27, 79, 83]
  | 5 => [27, 91, 49, 53, 126]
  | 6 => [27, 91, 49, 55, 126]
  | 7 => [27, 91, 49, 56, 126]
  | 8 => [27, 91, 49, 57, 126]
  | 9 => [27, 91, 50, 48, 126]
  | 10 => [27, 91, 50, 49, 126]
  | 11 => [27, 91, 50, 51, 126]
  | 12 => [27, 91, 50, 52, 126]
  | _ => []

/-- The control character of a key held with control. -/
def controlByte (ch : Char) : UInt8 :=
  let upper := ch.toUpper
  if upper.isUpper then UInt8.ofNat (upper.toNat - 64)
  else
    match upper with
    | ' ' | '@' | '2' => 0
    | '[' | '3' => 27
    | '\\' | '4' => 28
    | ']' | '5' => 29
    | '^' | '6' => 30
    | '_' | '/' | '7' | '-' => 31
    | _ => UInt8.ofNat ch.toNat

def encodeLegacyInner (key : TerminalKey) : List UInt8 :=
  match key.code with
  | .char ch =>
    if key.modifiers.control then [controlByte ch]
    else
      String.utf8EncodeChar
        (if key.modifiers = KeyModifiers.SHIFT then (shiftedTextChar key ch).getD ch else ch)
  | .enter => [13]
  | .backspace => [127]
  | .tab => [9]
  | .backTab => [27, 91, 90]
  | .esc => [27]
  | .left => [27, 91, 68]
  | .right => [27, 91, 67]
  | .up => [27, 91, 65]
  | .down => [27, 91, 66]
  | .home => [27, 91, 72]
  | .«end» => [27, 91, 70]
  | .pageUp => [27, 91, 53, 126]
  | .pageDown => [27, 91, 54, 126]
  | .delete => [27, 91, 51, 126]
  | .insert => [27, 91, 50, 126]
  | .f n => encodeFKey n
  | _ => []

def encodeLegacy (key : TerminalKey) : List UInt8 :=
  let mods := key.modifiers
  match if mods.isEmpty then none else encodeModifiedSpecial key.code mods with
  | some sequence => Utf8.encode sequence
  | none =>
    if mods.alt then 27 :: encodeLegacyInner (key.withModifiers { mods with alt := false })
    else encodeLegacyInner key

def tryEncodeKitty (key : TerminalKey) : KeyboardProtocol → Option (List UInt8)
  | .legacy => none
  | .kitty flags => (tryEncodeCsiU key flags).map Utf8.encode

/-- What is left when neither committed text nor the protocol's own form comes
first. -/
def encodeRest (key : TerminalKey) (protocol : KeyboardProtocol) (kittyFirst : Bool) :
  List UInt8 :=
  match encodeTextInput key with
  | some bytes => bytes
  | none =>
    match if kittyFirst then none else tryEncodeKitty key protocol with
    | some bytes => bytes
    | none =>
      if key.kind = .release && protocol.reportsEventTypes then [] else encodeLegacy key

def encodeTerminalKey (key : TerminalKey) (protocol : KeyboardProtocol) : List UInt8 :=
  match if key.kind = .release then none else key.generatedText with
  | some text => Utf8.encode text.toList
  | none =>
    -- Without event types a release would double the keystroke.
    if key.kind = .release && !protocol.reportsEventTypes then []
    else
      let kittyFirst :=
        protocol.reportsAllKeys || key.kind = .release && protocol.reportsEventTypes
      match if kittyFirst then tryEncodeKitty key protocol else none with
      | some bytes => bytes
      | none => encodeRest key protocol kittyFirst

end Input
