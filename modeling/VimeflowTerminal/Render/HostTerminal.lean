import VimeflowTerminal.Data.GlyphRow
import VimeflowTerminal.Render.BlitEncoder
import Mathlib.Data.List.TakeDrop

/-! A terminal that reads what the encoder writes: control sequences character by
character, and the symbols of cells as glyphs. The grid has no edges, since
frames fit the terminal and automatic wrapping is off. What a style looks like
is left to the terminal. -/

namespace Render

open GlyphRow

inductive Sequence where
  | csi (parameters : List Char) (final : Char)
  | osc (payload : List Char)
  | other
  deriving DecidableEq

/-- Parameter and intermediate characters, all those before the final one. -/
def isParameter (ch : Char) : Bool := 0x20 ≤ ch.toNat && ch.toNat < 0x40

/-- `ESC [` up to its final character, or `ESC ]` up to `ESC \` or BEL. -/
def readSequence (sequence : String) : Sequence :=
  match sequence.toList with
  | '\x1b' :: '[' :: rest =>
    match rest.span isParameter with
    | (parameters, [final]) => .csi parameters final
    | _ => .other
  | '\x1b' :: ']' :: rest =>
    match rest.span fun ch => ch != '\x1b' && ch != '\x07' with
    | (payload, ['\x1b', '\\']) => .osc payload
    | (payload, ['\x07']) => .osc payload
    | _ => .other
  | _ => .other

def readNumber (digits : List Char) : Nat := Nat.ofDigitChars 10 digits 0

/-- How a terminal renders: the rendition without any style, and the effect of
`CSI … m`. A leading `0` parameter drops the rendition set before. -/
structure Rendering (ρ : Type) where
  plain : ρ
  apply : List Char → ρ → ρ
  apply_reset : ∀ rest r, apply ('0' :: ';' :: rest) r = apply ('0' :: ';' :: rest) plain

/-- What one cell of the screen shows. -/
structure Glyph (ρ : Type) where
  symbol : String
  rendition : ρ
  link : Option String
  deriving DecidableEq

structure HostTerminal (ρ : Type) where
  screen : Nat → Nat → Cell (Glyph ρ)
  cursor : Nat × Nat
  cursorVisible : Bool
  cursorShape : Nat
  rendition : ρ
  link : Option String

namespace HostTerminal

variable {ρ : Type} (R : Rendering ρ) (symbolWidth : String → Nat)

def interpret (t : HostTerminal ρ) : Sequence → HostTerminal ρ
  | .csi parameters 'H' =>
    let (row, col) := parameters.span (· != ';')
    { t with cursor := (readNumber (col.drop 1) - 1, readNumber row - 1) }
  | .csi parameters 'J' =>
    if parameters = ['2'] then { t with screen := fun _ _ => .blank } else t
  | .csi parameters 'm' => { t with rendition := R.apply parameters t.rendition }
  | .csi parameters 'q' =>
    if parameters.getLast? = some ' ' then
      { t with cursorShape := readNumber parameters.dropLast }
    else t
  | .csi parameters 'h' =>
    if parameters = ['?', '2', '5'] then { t with cursorVisible := true } else t
  | .csi parameters 'l' =>
    if parameters = ['?', '2', '5'] then { t with cursorVisible := false } else t
  | .osc ('8' :: ';' :: ';' :: uri) =>
    { t with link := if uri = [] then none else some (String.ofList uri) }
  | _ => t

/-- Show a symbol where the cursor is, and move past it. -/
def putSymbol (t : HostTerminal ρ) (text : String) : HostTerminal ρ :=
  let (col, row) := t.cursor
  { t with
    screen := Function.update t.screen row
      (put (t.screen row) col (⟨text, t.rendition, t.link⟩, symbolWidth text == 2))
    cursor := (col + symbolWidth text, row) }

def write (t : HostTerminal ρ) : Output → HostTerminal ρ
  | .control sequence => t.interpret R (readSequence sequence)
  | .symbol text => t.putSymbol symbolWidth text
  -- images lie over the cells
  | .graphics _ => t

def run (t : HostTerminal ρ) (outputs : List Output) : HostTerminal ρ :=
  outputs.foldl (write R symbolWidth) t

end HostTerminal

/-- The rendition after the style sequence, whatever it was before. -/
def renditionOf {ρ : Type} (R : Rendering ρ) (sgr : String) : ρ :=
  match readSequence sgr with
  | .csi parameters 'm' => R.apply parameters R.plain
  | _ => R.plain

theorem span_of_stop {p : Char → Bool} {before rest : List Char} {stop : Char}
  (hBefore : ∀ ch ∈ before, p ch = true) (hStop : p stop = false) :
  (before ++ stop :: rest).span p = (before, stop :: rest) := by
  rw [List.span_eq_takeWhile_dropWhile, List.takeWhile_append_of_pos hBefore,
    List.dropWhile_append_of_pos hBefore]
  simp [hStop]

theorem isParameter_of_isDigit {ch : Char} (hDigit : ch.isDigit = true) :
  isParameter ch = true := by
  have hRange : 48 ≤ ch.toNat ∧ ch.toNat ≤ 57 := by
    simpa [Char.isDigit, UInt32.le_iff_toNat_le] using hDigit
  simp only [isParameter, Bool.and_eq_true, decide_eq_true_eq]
  omega

theorem digits_isDigit (n : Nat) : ∀ ch ∈ Nat.toDigits 10 n, ch.isDigit = true :=
  fun _ hMem => Nat.isDigit_of_mem_toDigits (by omega) (by omega) hMem

theorem readNumber_digits (n : Nat) : readNumber (Nat.toDigits 10 n) = n :=
  Nat.ofDigitChars_ten_toDigits

/-- The text is made of parameter characters. -/
def ParameterText (text : String) : Prop := text.toList.all isParameter = true

instance (text : String) : Decidable (ParameterText text) := inferInstanceAs (Decidable (_ = true))

theorem ParameterText.append {left right : String} (hLeft : ParameterText left)
  (hRight : ParameterText right) : ParameterText (left ++ right) := by
  rw [ParameterText, String.toList_append, List.all_append, Bool.and_eq_true]
  exact ⟨hLeft, hRight⟩

theorem parameterText_nat (n : Nat) : ParameterText (toString n) := by
  refine List.all_eq_true.2 ?_
  intro ch hMem
  rw [show toString n = n.repr from rfl, Nat.toList_repr] at hMem
  exact isParameter_of_isDigit (digits_isDigit n ch hMem)

theorem ParameterText.intercalate {parts : List String} (hParts : ∀ part ∈ parts, ParameterText part) :
  ParameterText (String.intercalate ";" parts) := by
  induction parts with
  | nil => decide
  | cons part parts ih =>
    cases parts with
    | nil => simpa using hParts
    | cons next parts =>
      rw [String.intercalate_cons_cons]
      have hHere := (hParts part (by simp)).append (show ParameterText ";" by decide)
      exact hHere.append (ih fun other hMem => hParts other (List.mem_cons_of_mem _ hMem))

theorem readSequence_csi {parameters : List Char} {final : Char} {sequence : String}
  (hText : sequence.toList = '\x1b' :: '[' :: (parameters ++ [final]))
  (hParameters : ∀ ch ∈ parameters, isParameter ch = true) (hFinal : isParameter final = false) :
  readSequence sequence = .csi parameters final := by
  unfold readSequence
  rw [hText]
  simp only [span_of_stop hParameters hFinal]

theorem readSequence_osc {payload : List Char} {sequence : String}
  (hText : sequence.toList = '\x1b' :: ']' :: (payload ++ ['\x1b', '\\']))
  (hPayload : ∀ ch ∈ payload, (ch != '\x1b' && ch != '\x07') = true) :
  readSequence sequence = .osc payload := by
  unfold readSequence
  rw [hText]
  simp only [span_of_stop hPayload (show ('\x1b' != '\x1b' && '\x1b' != '\x07') = false by decide)]

theorem parameterText_indexed {start : String} (hStart : ParameterText start) (index : Nat) :
  ParameterText (start ++ toString index) :=
  hStart.append (parameterText_nat index)

theorem parameterText_rgb {start : String} (hStart : ParameterText start) (r g b : Nat) :
  ParameterText (start ++ toString r ++ ";" ++ toString g ++ ";" ++ toString b) := by
  have hSeparator : ParameterText ";" := by decide
  have hGreen := ((parameterText_indexed hStart r).append hSeparator).append (parameterText_nat g)
  exact (hGreen.append hSeparator).append (parameterText_nat b)

theorem parameterText_colorToSgrFg (val : UInt32) : ParameterText (colorToSgrFg val) := by
  unfold colorToSgrFg
  split
  · split <;> decide
  · exact parameterText_indexed (by decide) _
  · exact parameterText_rgb (by decide) _ _ _
  · decide

theorem parameterText_colorToSgrBg (val : UInt32) : ParameterText (colorToSgrBg val) := by
  unfold colorToSgrBg
  split
  · split <;> decide
  · exact parameterText_indexed (by decide) _
  · exact parameterText_rgb (by decide) _ _ _
  · decide

theorem parameterText_modifierToSgrParts (val : UInt16) :
  ∀ part ∈ modifierToSgrParts val, ParameterText part := by
  have hPart : ∀ (bit : UInt16) (text : String), ParameterText text →
      ∀ part ∈ (if val &&& bit != 0 then [text] else []), ParameterText part := by
    intro bit text hText part hMem
    split at hMem
    · rwa [List.mem_singleton.1 hMem]
    · cases hMem
  intro part hMem
  simp only [modifierToSgrParts, List.mem_append] at hMem
  rcases hMem with (((((((h | h) | h) | h) | h) | h) | h) | h) | h
  all_goals first
    | exact hPart _ _ (by decide) part h
    | exact hPart _ _ (by split <;> decide) part h

theorem readSequence_buildSgr (fg bg : UInt32) (modifier : UInt16) :
  ∃ rest, readSequence (buildSgr fg bg modifier) = .csi ('0' :: ';' :: rest) 'm' := by
  obtain ⟨first, parts, hParts⟩ : ∃ first parts,
      modifierToSgrParts modifier ++ [colorToSgrFg fg, colorToSgrBg bg] = first :: parts :=
    List.exists_cons_of_ne_nil (by simp)
  have hText : ParameterText (String.intercalate ";" (sgrParts fg bg modifier)) := by
    refine ParameterText.intercalate ?_
    intro part hMem
    simp only [sgrParts, List.mem_cons, List.mem_append, List.not_mem_nil, or_false] at hMem
    rcases hMem with rfl | hMem | rfl | rfl
    · decide
    · exact parameterText_modifierToSgrParts modifier part hMem
    · exact parameterText_colorToSgrFg fg
    · exact parameterText_colorToSgrBg bg
  have hZero : (String.intercalate ";" (sgrParts fg bg modifier)).toList =
      '0' :: ';' :: (String.intercalate ";" (first :: parts)).toList := by
    rw [sgrParts, hParts, String.intercalate_cons_cons]
    simp [String.toList_append]
  have hParameters : ∀ ch ∈ '0' :: ';' :: (String.intercalate ";" (first :: parts)).toList,
      isParameter ch = true := by
    rw [← hZero]
    exact List.all_eq_true.1 hText
  refine ⟨_, readSequence_csi ?_ hParameters (by decide)⟩
  rw [← hZero]
  simp [buildSgr, String.toList_append]

namespace HostTerminal

variable {ρ : Type} {R : Rendering ρ} {symbolWidth : String → Nat} {t : HostTerminal ρ}

@[simp] theorem run_nil : t.run R symbolWidth [] = t := rfl

@[simp] theorem run_cons (output : Output) (outputs : List Output) :
  t.run R symbolWidth (output :: outputs) =
    (t.write R symbolWidth output).run R symbolWidth outputs := rfl

theorem run_append (first second : List Output) :
  t.run R symbolWidth (first ++ second) =
    (t.run R symbolWidth first).run R symbolWidth second := List.foldl_append

@[simp] theorem write_beginSync : t.write R symbolWidth (.control "\x1b[?2026h") = t := rfl

@[simp] theorem write_syncOutputEnd : t.write R symbolWidth syncOutputEnd = t := rfl

@[simp] theorem write_hideCursor :
  t.write R symbolWidth (.control "\x1b[?25l") = { t with cursorVisible := false } := rfl

@[simp] theorem write_clear :
  t.write R symbolWidth (.control "\x1b[2J") = { t with screen := fun _ _ => .blank } := rfl

@[simp] theorem write_reset :
  t.write R symbolWidth (.control "\x1b[0m") =
    { t with rendition := R.apply ['0'] t.rendition } := rfl

@[simp] theorem write_closeHyperlink :
  t.write R symbolWidth (.control "\x1b]8;;\x1b\\") = { t with link := none } := rfl

@[simp] theorem write_cursorVisibility (visible : Bool) :
  t.write R symbolWidth (writeCursorVisibility visible) = { t with cursorVisible := visible } := by
  cases visible <;> rfl

@[simp] theorem write_cursorPosition (position : Nat × Nat) :
  t.write R symbolWidth (writeCursorPosition position) = { t with cursor := position } := by
  obtain ⟨col, row⟩ := position
  have hRow := digits_isDigit (row + 1)
  have hCol := digits_isDigit (col + 1)
  have hParameters : ∀ ch ∈ Nat.toDigits 10 (row + 1) ++ ';' :: Nat.toDigits 10 (col + 1),
      isParameter ch = true := by
    intro ch hMem
    rcases List.mem_append.1 hMem with hMem | hMem
    · exact isParameter_of_isDigit (hRow ch hMem)
    rcases List.mem_cons.1 hMem with rfl | hMem
    · decide
    · exact isParameter_of_isDigit (hCol ch hMem)
  have hRead : readSequence s!"\x1b[{row + 1};{col + 1}H" =
      .csi (Nat.toDigits 10 (row + 1) ++ ';' :: Nat.toDigits 10 (col + 1)) 'H' := by
    refine readSequence_csi ?_ hParameters (by decide)
    simp only [String.toList_append, ← Nat.toList_repr, List.append_assoc]
    rfl
  have hSpan : (Nat.toDigits 10 (row + 1) ++ ';' :: Nat.toDigits 10 (col + 1)).span (· != ';') =
      (Nat.toDigits 10 (row + 1), ';' :: Nat.toDigits 10 (col + 1)) := by
    refine span_of_stop ?_ (by decide)
    intro ch hMem
    have hDigit := hRow ch hMem
    rw [bne_iff_ne]
    rintro rfl
    exact absurd hDigit (by decide)
  show t.interpret R (readSequence s!"\x1b[{row + 1};{col + 1}H") = _
  rw [hRead]
  simp only [interpret, hSpan, List.drop_succ_cons, List.drop_zero, readNumber_digits]
  rfl

theorem write_cursorShape (shape : Nat) :
  t.write R symbolWidth (.control s!"\x1b[{shape} q") = { t with cursorShape := shape } := by
  have hParameters : ∀ ch ∈ Nat.toDigits 10 shape ++ [' '], isParameter ch = true := by
    intro ch hMem
    rcases List.mem_append.1 hMem with hMem | hMem
    · exact isParameter_of_isDigit (digits_isDigit shape ch hMem)
    · rw [List.mem_singleton.1 hMem]
      decide
  have hRead : readSequence s!"\x1b[{shape} q" = .csi (Nat.toDigits 10 shape ++ [' ']) 'q' := by
    refine readSequence_csi ?_ hParameters (by decide)
    simp only [String.toList_append, ← Nat.toList_repr, List.append_assoc]
    rfl
  show t.interpret R (readSequence s!"\x1b[{shape} q") = _
  rw [hRead]
  simp [interpret, readNumber_digits]

@[simp] theorem write_buildSgr (fg bg : UInt32) (modifier : UInt16) :
  t.write R symbolWidth (.control (buildSgr fg bg modifier)) =
    { t with rendition := renditionOf R (buildSgr fg bg modifier) } := by
  obtain ⟨rest, hRead⟩ := readSequence_buildSgr fg bg modifier
  show t.interpret R (readSequence (buildSgr fg bg modifier)) = _
  simp only [renditionOf, hRead, interpret]
  rw [R.apply_reset]

theorem write_openHyperlink {requested uri : String}
  (hSome : sanitizedHyperlinkUri requested = some uri) :
  t.write R symbolWidth (.control s!"\x1b]8;;{uri}\x1b\\") = { t with link := some uri } := by
  obtain ⟨hNonempty, hPlain⟩ := sanitizedHyperlinkUri_spec hSome
  have hRead : readSequence s!"\x1b]8;;{uri}\x1b\\" = .osc ('8' :: ';' :: ';' :: uri.toList) := by
    refine readSequence_osc ?_ ?_
    · simp only [String.toList_append, List.append_assoc]
      rfl
    intro ch hMem
    simp only [List.mem_cons] at hMem
    rcases hMem with rfl | rfl | rfl | hMem
    · decide
    · decide
    · decide
    · exact hPlain ch hMem
  show t.interpret R (readSequence s!"\x1b]8;;{uri}\x1b\\") = _
  rw [hRead]
  simp [interpret, hNonempty]

/-- The link in force becomes the one requested, as it is sent. -/
theorem run_writeHyperlinkIfChanged {active requested : Option String} (hActive : t.link = active) :
  t.run R symbolWidth (writeHyperlinkIfChanged active requested).2 =
    { t with link := requested.bind sanitizedHyperlinkUri } := by
  subst hActive
  unfold writeHyperlinkIfChanged
  simp only
  split
  · rename_i hSame
    rw [← hSame]
    rfl
  · cases hRequested : requested.bind sanitizedHyperlinkUri with
    | none => cases hLink : t.link <;> simp_all
    | some uri =>
      obtain ⟨text, -, hUri⟩ := Option.bind_eq_some_iff.1 hRequested
      simp only [run_append, run_cons, run_nil]
      split
      · rw [run_cons, run_nil, write_closeHyperlink, write_openHyperlink hUri]
      · rw [run_nil, write_openHyperlink hUri]

theorem writeHyperlinkIfChanged_active (active requested : Option String) :
  (writeHyperlinkIfChanged active requested).1 = requested.bind sanitizedHyperlinkUri := by
  unfold writeHyperlinkIfChanged
  simp only
  split
  · assumption
  · rfl

theorem run_closeHyperlink {active : Option String} (hActive : t.link = active) :
  t.run R symbolWidth (closeHyperlink active) = { t with link := none } := by
  subst hActive
  cases hLink : t.link with
  | none =>
    show t = { t with link := none }
    rw [← hLink]
  | some uri => rfl

end HostTerminal

end Render
