import Mathlib.Algebra.GroupWithZero.Nat
import Mathlib.Data.List.Basic

/-! Keys with their modifiers, as they come from a host terminal and are encoded
for a program in a pane. -/

namespace Input

/-- `char::from_u32`. -/
def charFromU32 (codepoint : Nat) : Option Char :=
  if h : codepoint.isValidChar then some (Char.ofNatAux codepoint h) else none

inductive MediaKeyCode where
  | play
  | pause
  | playPause
  | reverse
  | stop
  | fastForward
  | rewind
  | trackNext
  | trackPrevious
  | record
  | lowerVolume
  | raiseVolume
  | muteVolume
  deriving DecidableEq

inductive ModifierKeyCode where
  | leftShift
  | leftControl
  | leftAlt
  | leftSuper
  | leftHyper
  | leftMeta
  | rightShift
  | rightControl
  | rightAlt
  | rightSuper
  | rightHyper
  | rightMeta
  | isoLevel3Shift
  | isoLevel5Shift
  deriving DecidableEq

inductive KeyCode where
  | backspace
  | enter
  | left
  | right
  | up
  | down
  | home
  | «end»
  | pageUp
  | pageDown
  | tab
  | backTab
  | delete
  | insert
  | f (n : UInt8)
  | char (ch : Char)
  | null
  | esc
  | capsLock
  | scrollLock
  | numLock
  | printScreen
  | pause
  | menu
  | keypadBegin
  | media (code : MediaKeyCode)
  | modifier (code : ModifierKeyCode)
  deriving DecidableEq

/-- A set of modifiers. -/
structure KeyModifiers where
  shift : Bool
  control : Bool
  alt : Bool
  super : Bool
  hyper : Bool
  «meta» : Bool
  deriving DecidableEq

namespace KeyModifiers

def empty : KeyModifiers := ⟨false, false, false, false, false, false⟩

def isEmpty (mods : KeyModifiers) : Bool := mods = empty

def bits (mods : KeyModifiers) : UInt8 :=
  (if mods.shift then 1 else 0) + (if mods.control then 2 else 0) + (if mods.alt then 4 else 0) +
    (if mods.super then 8 else 0) + (if mods.hyper then 16 else 0) + (if mods.meta then 32 else 0)

/-- `from_bits_truncate`: bits that name no modifier are left out. -/
def fromBitsTruncate (bits : UInt8) : KeyModifiers :=
  let has := fun i => bits.toNat.testBit i
  ⟨has 0, has 1, has 2, has 3, has 4, has 5⟩

theorem fromBitsTruncate_bits : ∀ mods : KeyModifiers, fromBitsTruncate mods.bits = mods := by
  rintro ⟨shift, control, alt, super, hyper, «meta»⟩
  revert shift control alt super hyper «meta»
  decide

def SHIFT : KeyModifiers := { empty with shift := true }

def ALT : KeyModifiers := { empty with alt := true }

def CONTROL : KeyModifiers := { empty with control := true }

end KeyModifiers

inductive KeyEventKind where
  | press
  | «repeat»
  | release
  deriving DecidableEq

/-- The place of a key on the keyboard, from a console record. -/
structure PhysicalKeyId where
  raw : UInt32
  deriving DecidableEq

structure WindowsKeyRecord where
  keyDown : Bool
  repeatCount : Nat
  virtualKeyCode : Nat
  virtualScanCode : Nat
  unicode : Nat
  controlKeyState : Nat
  deriving DecidableEq

/-- The scan code, with a bit for the keys that an enhanced keyboard has twice. -/
def WindowsKeyRecord.physicalKeyId (record : WindowsKeyRecord) : Option PhysicalKeyId :=
  if record.virtualScanCode ≠ 0 then
    some ⟨UInt32.ofNat (record.virtualScanCode |||
      if record.controlKeyState.testBit 8 then 2 ^ 16 else 0)⟩
  else none

inductive KeySource where
  | synthesized
  | vt (bytes : List UInt8)
  | windowsConsole (record : WindowsKeyRecord) (physicalKey : Option PhysicalKeyId)
  deriving DecidableEq

structure TerminalKey where
  code : KeyCode
  modifiers : KeyModifiers
  kind : KeyEventKind
  repeatCount : UInt16
  shiftedCodepoint : Option UInt32
  generatedText : Option String
  source : KeySource
  deriving DecidableEq

namespace TerminalKey

def new (code : KeyCode) (modifiers : KeyModifiers) : TerminalKey where
  code
  modifiers
  kind := .press
  repeatCount := 1
  shiftedCodepoint := none
  generatedText := none
  source := .synthesized

def withKind (key : TerminalKey) (kind : KeyEventKind) : TerminalKey :=
  let key := if kind = .release then { key with repeatCount := 1, generatedText := none } else key
  { key with kind }

def withRepeatCount (key : TerminalKey) (repeatCount : UInt16) : TerminalKey :=
  { key with repeatCount := if key.kind = .release then 1 else max repeatCount 1 }

def withModifiers (key : TerminalKey) (modifiers : KeyModifiers) : TerminalKey :=
  { key with modifiers }

def withShiftedCodepoint (key : TerminalKey) (codepoint : UInt32) : TerminalKey :=
  { key with shiftedCodepoint := some codepoint }

def withGeneratedText (key : TerminalKey) (text : Option String) : TerminalKey :=
  { key with generatedText := if key.kind = .release then none else text }

def withVtBytes (key : TerminalKey) (bytes : List UInt8) : TerminalKey :=
  { key with source := .vt bytes }

def withWindowsRecord (key : TerminalKey) (record : WindowsKeyRecord) : TerminalKey :=
  { key with
    repeatCount := if key.kind = .release then 1 else max (UInt16.ofNat record.repeatCount) 1
    source := .windowsConsole record record.physicalKeyId }

/-- A key that only produces text carries the text. What an upper-case character
is, is a Unicode property. -/
def withTextCommit (isUppercase : Char → Bool) (key : TerminalKey) : TerminalKey :=
  match key.code with
  | .char ch =>
    let textOnly :=
      key.modifiers.isEmpty || isUppercase ch && decide (key.modifiers = KeyModifiers.SHIFT)
    if textOnly && decide (key.kind = .press) then
      { key with generatedText := some (String.singleton ch) }
    else key
  | _ => key

end TerminalKey

/-- The keyboard protocol a program has asked for. -/
inductive KeyboardProtocol where
  | legacy
  | kitty (flags : UInt16)
  deriving DecidableEq

end Input
