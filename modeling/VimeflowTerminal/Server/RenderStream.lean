import VimeflowTerminal.Render.FrameSequence

/-! What the server keeps of a client between frames. A frame is prepared as a
message; the state moves on only once the message was handed to the writer of
the client, so that a message which is dropped leaves no trace. -/

namespace Server

open Render GlyphRow Transition

structure TerminalFrame where
  seq : Nat
  width : Nat
  height : Nat
  full : Bool
  bytes : List Output
  deriving DecidableEq

inductive ServerMessage where
  | frame (frame : FrameData)
  | terminal (frame : TerminalFrame)
  deriving DecidableEq

/-- The baseline of a client for its render encoding. -/
inductive ClientRenderState where
  | semantic (lastFrame : Option FrameData)
  | terminalAnsi (blitEncoder : BlitEncoder) (seq : Nat) (repaintPending : Bool)
  deriving DecidableEq

inductive PreparedRender where
  | semantic (message : ServerMessage)
  | terminalAnsi (message : ServerMessage) (frame : FrameData) (encoded : Option EncodedBlit)
  deriving DecidableEq

def insertGraphicsBeforeSyncEnd (encoded : List Output) (graphics : List UInt8) : List Output :=
  if graphics.isEmpty then encoded
  else
    match finalSyncOutputEnd encoded with
    | some syncEnd => encoded.take syncEnd ++ [.graphics graphics] ++ encoded.drop syncEnd
    | none => encoded ++ [.graphics graphics]

namespace ClientRenderState

def newTerminalAnsi : ClientRenderState := .terminalAnsi .new 0 false

def resetBaseline : ClientRenderState → ClientRenderState
  | .semantic _ => .semantic none
  | .terminalAnsi _ seq _ => .terminalAnsi .new seq false

def requestRepaint : ClientRenderState → ClientRenderState
  | .semantic _ => .semantic none
  | .terminalAnsi blitEncoder seq _ => .terminalAnsi blitEncoder seq true

def prepareFrame (symbolWidth : String → Nat) (repeatImeAnchor : Bool) (state : ClientRenderState)
  (frame : FrameData) : Option PreparedRender :=
  match state with
  | .semantic lastFrame =>
    if lastFrame == some frame then none else some (.semantic (.frame frame))
  | .terminalAnsi blitEncoder seq repaintPending =>
    if !repaintPending && blitEncoder.isCurrent frame then none
    else
      let encoded := blitEncoder.encode symbolWidth repeatImeAnchor frame repaintPending
      let encoded :=
        { encoded with bytes := insertGraphicsBeforeSyncEnd encoded.bytes frame.graphics }
      some (.terminalAnsi
        (.terminal ⟨seq + 1, frame.width, frame.height, encoded.full, encoded.bytes⟩)
        frame (some encoded))

def commitSentFrame (state : ClientRenderState) (prepared : PreparedRender) : ClientRenderState :=
  match state, prepared with
  | .semantic _, .semantic (.frame frame) => .semantic (some frame)
  | .terminalAnsi blitEncoder seq _, .terminalAnsi _ frame (some encoded) =>
    .terminalAnsi (blitEncoder.commit frame encoded) (seq + 1) false
  | state, _ => state

/-- The shape of the cursor that the encoder takes to be the client's. -/
def lastCursorShape : ClientRenderState → Nat
  | .semantic _ => 0
  | .terminalAnsi blitEncoder _ _ => blitEncoder.lastCursorShape

end ClientRenderState

section Link

variable {ρ : Type} (R : Rendering ρ) (symbolWidth : String → Nat) (repeatImeAnchor : Bool)

/-- The render state, the message that is prepared and not yet handed over, the
terminal of the client, and what has been delivered to it. -/
structure ClientLink (ρ : Type) where
  state : ClientRenderState
  prepared : Option PreparedRender
  client : HostTerminal ρ
  delivered : List Nat
  shown : Option FrameData

inductive ClientOp where
  | prepareFrame (frame : FrameData)
  | deliver
  | drop
  | requestRepaint
  | resetBaseline

/-- The link deals with a message that was prepared before the next is: at the
latest the next preparation drops it. -/
def clientStep (link : ClientLink ρ) : ClientOp → ClientLink ρ
  | .prepareFrame frame =>
    { link with prepared := link.state.prepareFrame symbolWidth repeatImeAnchor frame }
  | .deliver =>
    match link.prepared with
    | some (.terminalAnsi (.terminal message) frame encoded) =>
      { state := link.state.commitSentFrame (.terminalAnsi (.terminal message) frame encoded)
        prepared := none
        client := link.client.run R symbolWidth message.bytes
        delivered := link.delivered ++ [message.seq]
        shown := some frame }
    | _ => link
  | .drop => { link with prepared := none }
  | .requestRepaint => { link with state := link.state.requestRepaint }
  | .resetBaseline => { link with state := link.state.resetBaseline }

def newLink (client : HostTerminal ρ) : ClientLink ρ :=
  ⟨.newTerminalAnsi, none, client, [], none⟩

end Link

section Shown

variable {ρ : Type} (R : Rendering ρ) (symbolWidth : String → Nat)

/-- The cells of the frame are on the screen, and its cursor is where the frame has
it, visible or not. -/
structure ShowsFrame (t : HostTerminal ρ) (frame : FrameData) : Prop where
  cells : Shows R symbolWidth t.screen frame
  visible : t.cursorVisible = frame.cursor.any CursorState.visible
  position : ∀ cursor, frame.cursor = some cursor →
    t.cursor = clampCursorPosition frame cursor.x cursor.y

/-- A visible cursor has the shape that the frame gives it. -/
def ShowsShape (t : HostTerminal ρ) (frame : FrameData) : Prop :=
  ∀ cursor, frame.cursor = some cursor → cursor.visible = true →
    t.cursorShape = normalizeCursorShape cursor.shape

/-- Where the frame's visible cursor has the shape that the encoder takes to be the
client's, and so does not write, the client has it. -/
def ShapeKnown (client : HostTerminal ρ) (lastShape : Nat) (frame : FrameData) : Prop :=
  ∀ cursor, frame.cursor = some cursor → cursor.visible = true →
    normalizeCursorShape cursor.shape = lastShape → client.cursorShape = lastShape

end Shown

section Shown

variable {ρ : Type} {R : Rendering ρ} {symbolWidth : String → Nat} {frame : FrameData}
  {lastVisibleCursor : Option (Nat × Nat)} {lastShape : Nat} {before after : HostTerminal ρ}

theorem hostCursor_some {cursor : CursorState} (hCursor : frame.cursor = some cursor) :
  hostCursor frame lastVisibleCursor false =
    ⟨clampCursorPosition frame cursor.x cursor.y, cursor.visible,
      normalizeCursorShape cursor.shape⟩ := by
  simp only [hostCursor, resolveHostCursorState, hCursor]
  cases hVisible : cursor.visible <;> simp

theorem showsFrame_of_blitted
  (hBlitted : Blitted R symbolWidth frame (hostCursor frame lastVisibleCursor false) lastShape
    before after) : ShowsFrame R symbolWidth after frame := by
  refine ⟨hBlitted.shows, ?_, ?_⟩
  · rw [hBlitted.visible]
    cases hCursor : frame.cursor with
    | none => simp [hostCursor, resolveHostCursorState, hCursor]
    | some cursor => simp [hostCursor_some hCursor]
  · intro cursor hCursor
    rw [hBlitted.position, hostCursor_some hCursor]

/-- The frame's cursor gets its shape exactly if the shape that is not written is
the one the client has. -/
theorem showsShape_iff_of_blitted
  (hBlitted : Blitted R symbolWidth frame (hostCursor frame lastVisibleCursor false) lastShape
    before after) : ShowsShape after frame ↔ ShapeKnown before lastShape frame := by
  have hShape : ∀ cursor, frame.cursor = some cursor → after.cursorShape =
      if normalizeCursorShape cursor.shape ≠ lastShape then normalizeCursorShape cursor.shape
      else before.cursorShape := by
    intro cursor hCursor
    rw [hBlitted.shape, hostCursor_some hCursor]
  constructor
  · intro hShows cursor hCursor hVisible hSame
    have hAfter := hShows cursor hCursor hVisible
    rw [hShape cursor hCursor, if_neg (not_not.2 hSame)] at hAfter
    exact hAfter.trans hSame
  · intro hKnown cursor hCursor hVisible
    rw [hShape cursor hCursor]
    split
    · rfl
    rename_i hSame
    rw [not_not] at hSame
    exact (hKnown cursor hCursor hVisible hSame).trans hSame.symm

end Shown

section Runs

variable {ρ : Type} {R : Rendering ρ} {symbolWidth : String → Nat} {repeatImeAnchor : Bool}

/-- A prepared message, ready for the client as it is. -/
structure Ready (R : Rendering ρ) (symbolWidth : String → Nat) (client : HostTerminal ρ)
  (seq : Nat) (message : TerminalFrame) (frame : FrameData) (encoded : EncodedBlit) : Prop where
  seq : message.seq = seq + 1
  wellFormed : frame.WellFormed symbolWidth
  shows : ShowsFrame R symbolWidth (client.run R symbolWidth message.bytes) frame
  shape : encoded.nextLastCursorShape = 0 ∨
    (client.run R symbolWidth message.bytes).cursorShape = encoded.nextLastCursorShape

/-- The state of the server matches the terminal of the client. After a reset the
encoder takes the shape of the client's cursor to be the default one. -/
structure InSync (R : Rendering ρ) (symbolWidth : String → Nat) (link : ClientLink ρ)
  (encoder : BlitEncoder) (seq : Nat) (repaintPending : Bool) : Prop where
  state : link.state = .terminalAnsi encoder seq repaintPending
  delivered : link.delivered = List.range' 1 seq
  last : ∀ frame, encoder.lastFrame = some frame → link.shown = some frame
  shown : ∀ frame, link.shown = some frame →
    frame.WellFormed symbolWidth ∧ ShowsFrame R symbolWidth link.client frame
  shape : encoder.lastCursorShape = 0 ∨ link.client.cursorShape = encoder.lastCursorShape
  prepared : ∀ prepared, link.prepared = some prepared → ∃ message frame encoded,
    prepared = .terminalAnsi (.terminal message) frame (some encoded) ∧
      Ready R symbolWidth link.client seq message frame encoded

theorem inSync_newLink (client : HostTerminal ρ) :
  InSync R symbolWidth (newLink client) .new 0 false :=
  ⟨rfl, rfl, nofun, nofun, .inl rfl, nofun⟩

variable {link : ClientLink ρ} {encoder : BlitEncoder} {seq : Nat} {repaintPending : Bool}
  {frame : FrameData}

theorem InSync.blitted (repeatImeAnchor : Bool)
  (hSync : InSync R symbolWidth link encoder seq repaintPending)
  (hFrame : frame.WellFormed symbolWidth) (hUnskipped : frame.Unskipped symbolWidth) :
  Blitted R symbolWidth frame (hostCursor frame encoder.lastVisibleCursor false)
    encoder.lastCursorShape link.client
    (link.client.run R symbolWidth
      (encoder.encode symbolWidth repeatImeAnchor frame repaintPending).bytes) := by
  refine run_encodeInner hFrame hUnskipped ?_ repaintPending false
  intro old hOld
  obtain ⟨hOldFrame, hShows⟩ := hSync.shown old (hSync.last old hOld)
  exact ⟨hOldFrame, fun _ => hShows.cells⟩

theorem prepareFrame_spec (hGraphics : frame.graphics = []) {prepared : PreparedRender}
  (hSome : (ClientRenderState.terminalAnsi encoder seq repaintPending).prepareFrame symbolWidth
    repeatImeAnchor frame = some prepared) :
  ∃ message, message.seq = seq + 1 ∧
    message.bytes = (encoder.encode symbolWidth repeatImeAnchor frame repaintPending).bytes ∧
    prepared = .terminalAnsi (.terminal message) frame
      (some (encoder.encode symbolWidth repeatImeAnchor frame repaintPending)) := by
  simp only [ClientRenderState.prepareFrame, hGraphics, insertGraphicsBeforeSyncEnd,
    List.isEmpty_nil, if_true] at hSome
  split at hSome
  · cases hSome
  · exact ⟨_, rfl, rfl, (Option.some.inj hSome).symm⟩

theorem InSync.shown_of_none (hSync : InSync R symbolWidth link encoder seq repaintPending)
  (hNone : link.state.prepareFrame symbolWidth repeatImeAnchor frame = none) :
  link.shown = some frame := by
  rw [hSync.state] at hNone
  simp only [ClientRenderState.prepareFrame] at hNone
  split at hNone
  · rename_i hCurrent
    simp only [Bool.and_eq_true, BlitEncoder.isCurrent, beq_iff_eq] at hCurrent
    exact hSync.last frame hCurrent.2
  · cases hNone

/-- The frames that the link is asked to send. -/
def SendsWellFormed (symbolWidth : String → Nat) : ClientOp → Prop
  | .prepareFrame frame =>
    frame.WellFormed symbolWidth ∧ frame.Unskipped symbolWidth ∧ frame.graphics = []
  | _ => True

theorem InSync.prepareFrame (hSync : InSync R symbolWidth link encoder seq repaintPending)
  (hFrame : frame.WellFormed symbolWidth) (hUnskipped : frame.Unskipped symbolWidth)
  (hGraphics : frame.graphics = []) :
  InSync R symbolWidth
    (clientStep R symbolWidth repeatImeAnchor link (.prepareFrame frame)) encoder seq
    repaintPending := by
  refine ⟨hSync.state, hSync.delivered, hSync.last, hSync.shown, hSync.shape, ?_⟩
  intro prepared hPrepared
  rw [clientStep, hSync.state] at hPrepared
  obtain ⟨message, hSeq, hBytes, rfl⟩ := prepareFrame_spec hGraphics hPrepared
  have hBlitted := hSync.blitted repeatImeAnchor hFrame hUnskipped
  rw [← hBytes] at hBlitted
  refine ⟨message, frame, _, rfl, hSeq, hFrame, showsFrame_of_blitted hBlitted, ?_⟩
  show (hostCursor frame encoder.lastVisibleCursor false).shape = 0 ∨ _ =
    (hostCursor frame encoder.lastVisibleCursor false).shape
  have hAfter := hBlitted.shape
  split at hAfter
  · exact .inr hAfter
  rename_i hSame
  rw [not_not] at hSame
  rw [hSame]
  exact hSync.shape.imp id fun hShape => hAfter.trans hShape

theorem InSync.deliver (hSync : InSync R symbolWidth link encoder seq repaintPending)
  {message : TerminalFrame} {encoded : EncodedBlit}
  (hPrepared : link.prepared = some (.terminalAnsi (.terminal message) frame (some encoded)))
  (hReady : Ready R symbolWidth link.client seq message frame encoded) :
  InSync R symbolWidth (clientStep R symbolWidth repeatImeAnchor link .deliver)
    (encoder.commit frame encoded) (seq + 1) false := by
  simp only [clientStep, hPrepared]
  refine ⟨?_, ?_, ?_, ?_, hReady.shape, nofun⟩
  · rw [hSync.state]
    rfl
  · rw [hSync.delivered, hReady.seq, List.range'_1_concat, Nat.add_comm]
  · intro other hLast
    exact hLast
  · intro other hShown
    obtain rfl : frame = other := Option.some.inj hShown
    exact ⟨hReady.wellFormed, hReady.shows⟩

/-- Every operation keeps the server and the client in step. -/
theorem InSync.step {link : ClientLink ρ} {encoder : BlitEncoder} {seq : Nat}
  {repaintPending : Bool} (hSync : InSync R symbolWidth link encoder seq repaintPending)
  {op : ClientOp} (hOp : SendsWellFormed symbolWidth op) :
  ∃ encoder' seq' repaintPending', InSync R symbolWidth
    (clientStep R symbolWidth repeatImeAnchor link op) encoder' seq' repaintPending' := by
  cases op with
  | prepareFrame frame =>
    obtain ⟨hFrame, hUnskipped, hGraphics⟩ := hOp
    exact ⟨_, _, _, hSync.prepareFrame hFrame hUnskipped hGraphics⟩
  | deliver =>
    cases hPrepared : link.prepared with
    | none =>
      refine ⟨encoder, seq, repaintPending, ?_⟩
      simpa only [clientStep, hPrepared] using hSync
    | some prepared =>
      obtain ⟨message, frame, encoded, rfl, hReady⟩ := hSync.prepared prepared hPrepared
      exact ⟨_, _, _, hSync.deliver hPrepared hReady⟩
  | drop =>
    exact ⟨encoder, seq, repaintPending, hSync.state, hSync.delivered, hSync.last, hSync.shown,
      hSync.shape, nofun⟩
  | requestRepaint =>
    refine ⟨encoder, seq, true, ?_, hSync.delivered, hSync.last, hSync.shown, hSync.shape,
      hSync.prepared⟩
    simp only [clientStep, hSync.state, ClientRenderState.requestRepaint]
  | resetBaseline =>
    refine ⟨.new, seq, false, ?_, hSync.delivered, nofun, hSync.shown, .inl rfl, hSync.prepared⟩
    simp only [clientStep, hSync.state, ClientRenderState.resetBaseline]

/-- The shape of the last delivered frame's cursor is shown, and the one of the
prepared frame will be. -/
structure ShapeInSync (R : Rendering ρ) (symbolWidth : String → Nat) (link : ClientLink ρ) :
  Prop where
  shown : ∀ frame, link.shown = some frame → ShowsShape link.client frame
  prepared : ∀ message frame encoded,
    link.prepared = some (.terminalAnsi (.terminal message) frame encoded) →
      ShowsShape (link.client.run R symbolWidth message.bytes) frame

/-- The operation prepares no frame whose cursor the client would show in another
shape than the frame's. -/
def KeepsShape (link : ClientLink ρ) : ClientOp → Prop
  | .prepareFrame frame => ShapeKnown link.client link.state.lastCursorShape frame
  | _ => True

theorem ShapeInSync.step {link : ClientLink ρ} {encoder : BlitEncoder} {seq : Nat}
  {repaintPending : Bool} (hShape : ShapeInSync R symbolWidth link)
  (hSync : InSync R symbolWidth link encoder seq repaintPending) {op : ClientOp}
  (hOp : SendsWellFormed symbolWidth op) (hKeeps : KeepsShape link op) :
  ShapeInSync R symbolWidth (clientStep R symbolWidth repeatImeAnchor link op) := by
  cases op with
  | prepareFrame frame =>
    obtain ⟨hFrame, hUnskipped, hGraphics⟩ := hOp
    refine ⟨hShape.shown, ?_⟩
    intro message other encoded hPrepared
    rw [clientStep, hSync.state] at hPrepared
    obtain ⟨message', -, hBytes, hEq⟩ := prepareFrame_spec hGraphics hPrepared
    cases hEq
    have hBlitted := hSync.blitted repeatImeAnchor hFrame hUnskipped
    rw [← hBytes] at hBlitted
    refine (showsShape_iff_of_blitted hBlitted).2 ?_
    have hKnown : ShapeKnown link.client link.state.lastCursorShape frame := hKeeps
    rwa [hSync.state] at hKnown
  | deliver =>
    cases hPrepared : link.prepared with
    | none => simpa only [clientStep, hPrepared] using hShape
    | some prepared =>
      obtain ⟨message, frame, encoded, rfl, hReady⟩ := hSync.prepared prepared hPrepared
      simp only [clientStep, hPrepared]
      refine ⟨?_, nofun⟩
      intro other hShown
      obtain rfl : frame = other := Option.some.inj hShown
      exact hShape.prepared message frame (some encoded) hPrepared
  | drop => exact ⟨hShape.shown, nofun⟩
  | requestRepaint => exact ⟨hShape.shown, hShape.prepared⟩
  | resetBaseline => exact ⟨hShape.shown, hShape.prepared⟩

/-- What the client may rely on: it shows the frame delivered last, no delivery is
missing or doubled, and a frame for which nothing is prepared is on its screen. -/
structure ClientView (R : Rendering ρ) (symbolWidth : String → Nat) (repeatImeAnchor : Bool)
  (link : ClientLink ρ) : Prop where
  shows : ∀ frame, link.shown = some frame →
    ShowsFrame R symbolWidth link.client frame ∧ ShowsShape link.client frame
  consecutive : link.delivered = List.range' 1 link.delivered.length
  current : ∀ frame, link.state.prepareFrame symbolWidth repeatImeAnchor frame = none →
    link.shown = some frame

/-- What each operation of a run is asked to meet. -/
def Sends (symbolWidth : String → Nat) (link : ClientLink ρ) (op : ClientOp) : Prop :=
  SendsWellFormed symbolWidth op ∧ KeepsShape link op

/-- In every run that sends well-formed frames, and none whose cursor has the shape
that the encoder wrongly takes to be the client's, the client shows what it was
sent. -/
theorem clientView_of_run (R : Rendering ρ) (symbolWidth : String → Nat) (repeatImeAnchor : Bool)
  (client : HostTerminal ρ) {ops : List ClientOp} {link : ClientLink ρ}
  (run : Run (restrict (ofFunction (clientStep R symbolWidth repeatImeAnchor))
    (Sends symbolWidth)) (newLink client) ops link) :
  ClientView R symbolWidth repeatImeAnchor link := by
  obtain ⟨⟨encoder, seq, repaintPending, hSync⟩, hShape⟩ :=
    @Run.preserves _ _ _ (fun link => (∃ encoder seq repaintPending,
      InSync R symbolWidth link encoder seq repaintPending) ∧ ShapeInSync R symbolWidth link)
      _ _ _ run ⟨⟨_, _, _, inSync_newLink client⟩, nofun, nofun⟩ <| by
        rintro u op v ⟨⟨encoder, seq, repaintPending, hSync⟩, hShape⟩ ⟨rfl, hOp, hKeeps⟩
        exact ⟨hSync.step hOp, hShape.step hSync hOp hKeeps⟩
  refine ⟨?_, ?_, ?_⟩
  · intro frame hShown
    exact ⟨(hSync.shown frame hShown).2, hShape.shown frame hShown⟩
  · rw [hSync.delivered, List.length_range']
  · intro frame hNone
    exact hSync.shown_of_none hNone

end Runs

def cursorFrame (shape : Nat) : FrameData :=
  ⟨[sampleCell "a" false], 1, 1, some ⟨0, 0, true, shape⟩, [], []⟩

theorem cursorFrame_sends (shape : Nat) :
  SendsWellFormed sampleWidth (.prepareFrame (cursorFrame shape)) := by
  have hFrame : (cursorFrame 0).WellFormed sampleWidth ∧ (cursorFrame 0).Unskipped sampleWidth :=
    ⟨⟨by decide, by decide⟩, by unfold FrameData.Unskipped; decide⟩
  exact ⟨⟨hFrame.1.length_cells, hFrame.1.symbols⟩, hFrame.2, rfl⟩

def resetOps (shape : Nat) : List ClientOp :=
  [.prepareFrame (cursorFrame 5), .deliver, .resetBaseline, .prepareFrame (cursorFrame shape),
    .requestRepaint, .deliver]

def afterReset (shape : Nat) : ClientLink (List Char) :=
  (resetOps shape).foldl (clientStep styleText sampleWidth true) (newLink blankTerminal)

theorem clientView_afterReset : ClientView styleText sampleWidth true (afterReset 2) := by
  refine clientView_of_run styleText sampleWidth true blankTerminal (run_of_allowedAlong ?_)
  refine ⟨⟨cursorFrame_sends 5, ?_⟩, ⟨trivial, trivial⟩, ⟨trivial, trivial⟩,
    ⟨cursorFrame_sends 2, ?_⟩, ⟨trivial, trivial⟩, ⟨trivial, trivial⟩, trivial⟩
  · rintro cursor ⟨⟩ - hSame
    exact absurd hSame (by decide)
  · rintro cursor ⟨⟩ - hSame
    exact absurd hSame (by decide)

/-- The encoder that a reset starts takes the default shape to be the client's and
does not write it. -/
theorem staleShape_afterReset :
  (∀ op ∈ resetOps 0, SendsWellFormed sampleWidth op) ∧
    (afterReset 0).shown = some (cursorFrame 0) ∧
    (afterReset 0).client.cursorShape = 5 ∧
    ¬ ClientView styleText sampleWidth true (afterReset 0) := by
  have hShown : (afterReset 0).shown = some (cursorFrame 0) := rfl
  have hShape : (afterReset 0).client.cursorShape = 5 := rfl
  refine ⟨?_, hShown, hShape, ?_⟩
  · simp only [resetOps, List.mem_cons, List.not_mem_nil, or_false, forall_eq_or_imp, forall_eq]
    exact ⟨cursorFrame_sends 5, trivial, trivial, cursorFrame_sends 0, trivial, trivial⟩
  intro hView
  have hDefault := (hView.shows _ hShown).2 _ rfl rfl
  rw [hShape] at hDefault
  exact absurd hDefault (by decide)

end Server
