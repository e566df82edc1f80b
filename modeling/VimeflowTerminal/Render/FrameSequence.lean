import VimeflowTerminal.Render.FrameDrawing
import VimeflowTerminal.Transition.Run

/-! A terminal that is sent one frame after the other, each encoded against the one
before it. The terminal may be resized between frames of different sizes, which
leaves its screen in any state. -/

namespace Render

open GlyphRow Transition

section Sequences

variable {ρ : Type} (R : Rendering ρ) (symbolWidth : String → Nat) (repeatImeAnchor : Bool)

/-- One frame, with the screen that a resize to its size leaves behind. -/
structure FrameStep (ρ : Type) where
  frame : FrameData
  repaint : Bool
  suppressVisibleCursor : Bool
  resized : Nat → Nat → Cell (Glyph ρ)

structure FrameSession (ρ : Type) where
  encoder : BlitEncoder
  terminal : HostTerminal ρ

def resizedTerminal (session : FrameSession ρ) (step : FrameStep ρ) : HostTerminal ρ :=
  if sizeChanged step.frame session.encoder.lastFrame then
    { session.terminal with screen := step.resized }
  else session.terminal

def drawFrame (session : FrameSession ρ) (step : FrameStep ρ) : FrameSession ρ :=
  let encoded := session.encoder.encodeInner symbolWidth repeatImeAnchor step.frame step.repaint
    step.suppressVisibleCursor
  { encoder := session.encoder.commit step.frame encoded
    terminal := (resizedTerminal session step).run R symbolWidth encoded.bytes }

/-- The frames drawn in order by a new encoder. -/
def drawFrames (terminal : HostTerminal ρ) (steps : List (FrameStep ρ)) : FrameSession ρ :=
  steps.foldl (drawFrame R symbolWidth repeatImeAnchor) ⟨.new, terminal⟩

end Sequences

section Sequences

variable {ρ : Type} {R : Rendering ρ} {symbolWidth : String → Nat} {repeatImeAnchor : Bool}

/-- The terminal shows the frame that the encoder compares the next one with. -/
def InStep (R : Rendering ρ) (symbolWidth : String → Nat) (session : FrameSession ρ) : Prop :=
  ∀ frame, session.encoder.lastFrame = some frame →
    frame.WellFormed symbolWidth ∧ Shows R symbolWidth session.terminal.screen frame

variable {session : FrameSession ρ} {step : FrameStep ρ}

theorem drawFrame_blitted (hSession : InStep R symbolWidth session)
  (hFrame : step.frame.WellFormed symbolWidth)
  (hUnskipped : step.frame.Unskipped symbolWidth) :
  Blitted R symbolWidth step.frame
    (hostCursor step.frame session.encoder.lastVisibleCursor step.suppressVisibleCursor)
    session.encoder.lastCursorShape (resizedTerminal session step)
    (drawFrame R symbolWidth repeatImeAnchor session step).terminal := by
  have hPrev : Follows R symbolWidth (resizedTerminal session step) session.encoder.lastFrame
      step.frame := by
    intro old hOld
    obtain ⟨hOldFrame, hShown⟩ := hSession old hOld
    refine ⟨hOldFrame, ?_⟩
    intro hSame
    rw [resizedTerminal, hOld, hSame]
    exact hShown
  exact run_encodeInner hFrame hUnskipped hPrev step.repaint step.suppressVisibleCursor

/-- The frame that is last in the session is shown by its terminal. -/
theorem drawFrame_shows (repeatImeAnchor : Bool)
  (hSession : InStep R symbolWidth session) (hFrame : step.frame.WellFormed symbolWidth)
  (hUnskipped : step.frame.Unskipped symbolWidth) :
  Shows R symbolWidth (drawFrame R symbolWidth repeatImeAnchor session step).terminal.screen
    step.frame :=
  (drawFrame_blitted hSession hFrame hUnskipped).shows

theorem InStep.drawFrame (hSession : InStep R symbolWidth session)
  (hFrame : step.frame.WellFormed symbolWidth)
  (hUnskipped : step.frame.Unskipped symbolWidth) :
  InStep R symbolWidth (drawFrame R symbolWidth repeatImeAnchor session step) := by
  intro frame hLast
  obtain rfl : step.frame = frame := Option.some.inj hLast
  exact ⟨hFrame, drawFrame_shows _ hSession hFrame hUnskipped⟩

theorem inStep_drawFrames (terminal : HostTerminal ρ) {steps : List (FrameStep ρ)}
  (hSteps : ∀ step ∈ steps, step.frame.WellFormed symbolWidth ∧
    step.frame.Unskipped symbolWidth) :
  InStep R symbolWidth (drawFrames R symbolWidth repeatImeAnchor terminal steps) := by
  have run := (run_ofFunction_iff (drawFrame R symbolWidth repeatImeAnchor)).2
    (show drawFrames R symbolWidth repeatImeAnchor terminal steps = _ from rfl)
  refine run.preserves_of_mem hSteps ?_ ?_
  · intro frame hNone
    cases hNone
  · rintro session step next ⟨hFrame, hUnskipped⟩ hSession rfl
    exact hSession.drawFrame hFrame hUnskipped

theorem drawFrames_concat (terminal : HostTerminal ρ) (steps : List (FrameStep ρ))
  (step : FrameStep ρ) :
  drawFrames R symbolWidth repeatImeAnchor terminal (steps ++ [step]) =
    drawFrame R symbolWidth repeatImeAnchor
      (drawFrames R symbolWidth repeatImeAnchor terminal steps) step := by
  simp [drawFrames]

theorem fullRedraw_shows {frame : FrameData} (hFrame : frame.WellFormed symbolWidth)
  (hUnskipped : frame.Unskipped symbolWidth) (terminal : HostTerminal ρ) :
  Shows R symbolWidth (terminal.run R symbolWidth
    (BlitEncoder.new.encode symbolWidth repeatImeAnchor frame false).bytes).screen frame :=
  (@run_encodeInner _ _ _ _ _ _ .new hFrame hUnskipped nofun false false).shows

/-- After every frame of a sequence the terminal shows exactly the cells of that
frame, like a terminal that was sent this frame alone. -/
theorem frames_shown (R : Rendering ρ) (symbolWidth : String → Nat) (repeatImeAnchor : Bool)
  (terminal : HostTerminal ρ) (steps : List (FrameStep ρ)) (last : FrameStep ρ)
  (hSteps : ∀ step ∈ steps ++ [last], step.frame.WellFormed symbolWidth ∧
    step.frame.Unskipped symbolWidth) :
  Shows R symbolWidth
      (drawFrames R symbolWidth repeatImeAnchor terminal (steps ++ [last])).terminal.screen
      last.frame ∧
    ∀ (other : HostTerminal ρ), ∀ row < last.frame.height, ∀ col < last.frame.width,
      (drawFrames R symbolWidth repeatImeAnchor terminal (steps ++ [last])).terminal.screen
          row col =
        (other.run R symbolWidth
          (BlitEncoder.new.encode symbolWidth repeatImeAnchor last.frame false).bytes).screen
          row col := by
  obtain ⟨hFrame, hUnskipped⟩ := hSteps last (by simp)
  have hBefore : InStep R symbolWidth (drawFrames R symbolWidth repeatImeAnchor terminal steps) :=
    inStep_drawFrames terminal fun step hMem => hSteps step (List.mem_append_left _ hMem)
  have hShown := drawFrame_shows repeatImeAnchor hBefore hFrame hUnskipped
  rw [drawFrames_concat]
  refine ⟨hShown, ?_⟩
  intro other row hRow col hCol
  rw [hShown row hRow col hCol, fullRedraw_shows hFrame hUnskipped other row hRow col hCol]

/-- A terminal that keeps the text of the style parameters in force. -/
def styleText : Rendering (List Char) where
  plain := []
  apply
    | '0' :: ';' :: rest, _ => rest
    | ['0'], _ => []
    | parameters, rendition => rendition ++ ';' :: parameters
  apply_reset _ _ := rfl

def blankTerminal : HostTerminal (List Char) where
  screen _ _ := .blank
  cursor := (0, 0)
  cursorVisible := true
  cursorShape := 0
  rendition := []
  link := none

def sampleWidth (text : String) : Nat := if text = "語" then 2 else 1

def sampleCell (symbol : String) (skip : Bool) : CellData := ⟨symbol, 0, 0, 0, skip, none⟩

def sampleStep (cells : List CellData) (cursor : Option CursorState) : FrameStep (List Char) where
  frame := ⟨cells, cells.length, 1, cursor, [], []⟩
  repaint := false
  suppressVisibleCursor := false
  resized _ _ := .blank

def narrowStep : FrameStep (List Char) :=
  sampleStep [sampleCell "a" false, sampleCell "b" false] (some ⟨1, 0, true, 2⟩)

def wideStep : FrameStep (List Char) :=
  sampleStep [sampleCell "語" false, sampleCell " " false] none

theorem drawable_narrow :
  narrowStep.frame.WellFormed sampleWidth ∧ narrowStep.frame.Unskipped sampleWidth :=
  ⟨⟨by decide, by decide⟩, by unfold FrameData.Unskipped; decide⟩

theorem drawable_wide :
  wideStep.frame.WellFormed sampleWidth ∧ wideStep.frame.Unskipped sampleWidth :=
  ⟨⟨by decide, by decide⟩, by unfold FrameData.Unskipped; decide⟩

theorem frames_shown_wideReplaced :
  Shows styleText sampleWidth (drawFrames styleText sampleWidth true blankTerminal
      ([narrowStep, wideStep] ++ [narrowStep])).terminal.screen narrowStep.frame := by
  refine (frames_shown styleText sampleWidth true blankTerminal [narrowStep, wideStep] narrowStep
    ?_).1
  intro step hMem
  simp only [List.cons_append, List.nil_append, List.mem_cons, List.not_mem_nil, or_false] at hMem
  rcases hMem with rfl | rfl | rfl
  · exact drawable_narrow
  · exact drawable_wide
  · exact drawable_narrow

def skippedStep : FrameStep (List Char) :=
  sampleStep [sampleCell "c" true, sampleCell "b" false] none

/-- A cell marked as skipped is not drawn: the terminal goes on showing what stood
there before, which neither is the cell of the frame nor what the frame alone
would leave. -/
theorem skipped_cell_not_shown :
  narrowStep.frame.WellFormed sampleWidth ∧ skippedStep.frame.WellFormed sampleWidth ∧
    ¬ Shows styleText sampleWidth
      (drawFrames styleText sampleWidth true blankTerminal
        ([narrowStep] ++ [skippedStep])).terminal.screen skippedStep.frame ∧
    (drawFrames styleText sampleWidth true blankTerminal
        ([narrowStep] ++ [skippedStep])).terminal.screen 0 0 ≠
      (blankTerminal.run styleText sampleWidth
        (BlitEncoder.new.encode sampleWidth true skippedStep.frame false).bytes).screen 0 0 := by
  obtain ⟨glyph, hGlyph, hSymbol⟩ : ∃ glyph, (drawFrames styleText sampleWidth true blankTerminal
      ([narrowStep] ++ [skippedStep])).terminal.screen 0 0 = .narrow glyph ∧ glyph.symbol = "a" :=
    ⟨_, rfl, rfl⟩
  have hBlank : (blankTerminal.run styleText sampleWidth
      (BlitEncoder.new.encode sampleWidth true skippedStep.frame false).bytes).screen 0 0 =
        .blank := rfl
  refine ⟨⟨by decide, by decide⟩, ⟨by decide, by decide⟩, ?_, ?_⟩
  · intro hShows
    have hCell := hShows 0 (by decide) 0 (by decide)
    rw [hGlyph] at hCell
    obtain rfl := Cell.narrow.inj hCell
    exact absurd hSymbol (by decide)
  · rw [hGlyph, hBlank]
    nofun

/-- Where the last frame with a visible cursor has it. -/
def lastVisible (steps : List (FrameStep ρ)) : Option (Nat × Nat) :=
  steps.reverse.findSome? fun step => step.frame.cursor.bind fun cursor =>
    if cursor.visible then some (clampCursorPosition step.frame cursor.x cursor.y) else none

/-- The cursor is the one of the last frame. Without one it is hidden, where it was
last visible as far as the frame reaches there. -/
structure CursorShown (steps : List (FrameStep ρ)) (last : FrameStep ρ) (t : HostTerminal ρ) :
  Prop where
  given : ∀ cursor, last.frame.cursor = some cursor →
    t.cursor = clampCursorPosition last.frame cursor.x cursor.y ∧
      t.cursorShape = normalizeCursorShape cursor.shape ∧
      t.cursorVisible = (cursor.visible && !last.suppressVisibleCursor)
  absent : last.frame.cursor = none →
    t.cursorVisible = false ∧ t.cursorShape = 0 ∧
      t.cursor = match lastVisible steps with
        | some (x, y) => clampCursorPosition last.frame x y
        | none => defaultHiddenCursorPosition last.frame

theorem resolveHostCursorState_lastVisible (steps : List (FrameStep ρ)) (step : FrameStep ρ) :
  (resolveHostCursorState step.frame (lastVisible steps)).2 = lastVisible (steps ++ [step]) := by
  simp only [lastVisible, List.reverse_append, List.reverse_singleton, List.singleton_append,
    List.findSome?_cons, resolveHostCursorState]
  cases step.frame.cursor with
  | none => rfl
  | some cursor => cases hVisible : cursor.visible <;> simp [hVisible]

/-- What the encoder remembers of the cursor is so. -/
structure Remembers (R : Rendering ρ) (symbolWidth : String → Nat) (steps : List (FrameStep ρ))
  (session : FrameSession ρ) : Prop where
  inStep : InStep R symbolWidth session
  visible : session.encoder.lastVisibleCursor = lastVisible steps
  shape : session.terminal.cursorShape = session.encoder.lastCursorShape

theorem Remembers.drawFrame {steps : List (FrameStep ρ)}
  (h : Remembers R symbolWidth steps session)
  (hFrame : step.frame.WellFormed symbolWidth) (hUnskipped : step.frame.Unskipped symbolWidth) :
  Remembers R symbolWidth (steps ++ [step]) (drawFrame R symbolWidth repeatImeAnchor session step) ∧
    CursorShown steps step (drawFrame R symbolWidth repeatImeAnchor session step).terminal := by
  have hBlitted := @drawFrame_blitted _ _ _ repeatImeAnchor _ _ h.inStep hFrame hUnskipped
  have hResized : (resizedTerminal session step).cursorShape = session.encoder.lastCursorShape := by
    rw [← h.shape, resizedTerminal]
    split <;> rfl
  have hShape : (Render.drawFrame R symbolWidth repeatImeAnchor session step).terminal.cursorShape =
      (hostCursor step.frame (lastVisible steps) step.suppressVisibleCursor).shape := by
    rw [hBlitted.shape, hResized, h.visible]
    split
    · rfl
    next hSame => exact (not_not.1 hSame).symm
  have hPosition := hBlitted.position
  have hVisible := hBlitted.visible
  rw [h.visible] at hPosition hVisible
  refine ⟨⟨h.inStep.drawFrame hFrame hUnskipped, ?_, ?_⟩, ?_, ?_⟩
  · rw [← resolveHostCursorState_lastVisible, ← h.visible]
    rfl
  · rw [hShape, ← h.visible]
    rfl
  · intro cursor hCursor
    rw [hPosition, hShape, hVisible]
    simp only [hostCursor, resolveHostCursorState, hCursor]
    cases cursor.visible <;> exact ⟨rfl, rfl, rfl⟩
  · intro hNone
    rw [hPosition, hShape, hVisible]
    simp only [hostCursor, resolveHostCursorState, hNone]
    cases lastVisible steps <;> simp

/-- After every frame of a sequence the terminal has the cursor of that frame,
although its shape is only sent when it has changed. -/
theorem cursor_shown (R : Rendering ρ) (symbolWidth : String → Nat) (repeatImeAnchor : Bool)
  (terminal : HostTerminal ρ) (steps : List (FrameStep ρ)) (last : FrameStep ρ)
  (hShape : terminal.cursorShape = 0)
  (hSteps : ∀ step ∈ steps ++ [last], step.frame.WellFormed symbolWidth ∧
    step.frame.Unskipped symbolWidth) :
  CursorShown steps last
    (drawFrames R symbolWidth repeatImeAnchor terminal (steps ++ [last])).terminal := by
  have hRemembers : Remembers R symbolWidth steps
      (drawFrames R symbolWidth repeatImeAnchor terminal steps) := by
    have hBefore := fun step hMem => hSteps step (List.mem_append_left [last] hMem)
    clear hSteps
    induction steps using List.reverseRecOn with
    | nil => exact ⟨nofun, rfl, hShape⟩
    | append_singleton steps step ih =>
      obtain ⟨hFrame, hUnskipped⟩ := hBefore step (by simp)
      rw [drawFrames_concat]
      exact ((ih fun other hMem => hBefore other (List.mem_append_left _ hMem)).drawFrame hFrame
        hUnskipped).1
  obtain ⟨hFrame, hUnskipped⟩ := hSteps last (by simp)
  rw [drawFrames_concat]
  exact (hRemembers.drawFrame hFrame hUnskipped).2

theorem cursor_shown_wideReplaced : CursorShown [narrowStep] wideStep
    (drawFrames styleText sampleWidth true blankTerminal
      ([narrowStep] ++ [wideStep])).terminal := by
  refine cursor_shown styleText sampleWidth true blankTerminal [narrowStep] wideStep rfl ?_
  intro step hMem
  rcases List.mem_pair.1 hMem with rfl | rfl
  · exact drawable_narrow
  · exact drawable_wide

end Sequences

end Render
