import VimeflowTerminal.Data.FinMap

/-! The lines of a file are handled one after the other, and a line may include another file, whose
lines come next. A file that is being walked through is not entered again, so that a walk through
finitely many files ends. -/

/-- A walk. The state of a file starts anew in each file, the result is handed on. A line that
cannot be handled stops everything. -/
structure IncludeWalk (P F L S A : Type) where
  canonical : P → P
  files : FinMap P F
  lines : F → List L
  start : S
  /-- What a line does, from the files that are being walked through, the path of its file and the
  result at its beginning: the state of the file, the result and a file to include. -/
  step : List P → P → A → S → A → L → Option (S × A × Option P)
  finished : A → Bool

namespace IncludeWalk

variable {P F L S A : Type} [DecidableEq P] (w : IncludeWalk P F L S A)

/-- The files that can still be entered. -/
def unvisited (stack : List P) : Nat := (w.files.keys.filter (· ∉ stack)).length

variable {file : F}

theorem unvisited_cons_lt {stack : List P} {path : P} (hNew : path ∉ stack)
  (hFile : w.files.lookup path = some file) :
  w.unvisited (path :: stack) < w.unvisited stack := by
  have hKey : path ∈ w.files.keys := AList.mem_keys.1 (AList.lookup_isSome.1 (by rw [hFile]; rfl))
  have hFewer : w.files.keys.filter (· ∉ path :: stack) =
      (w.files.keys.filter (· ∉ stack)).filter (· ≠ path) := by
    rw [List.filter_filter]
    apply List.filter_congr
    intro other _
    simp [List.mem_cons, not_or]
  unfold unvisited
  rw [hFewer]
  apply List.length_filter_lt_length_iff_exists.2
  exact ⟨path, List.mem_filter.2 ⟨hKey, decide_eq_true hNew⟩, by simp⟩

mutual

/-- The walk through a file. One that cannot be read, or is being walked through, is left out. -/
def walkFile (stack : List P) (path : P) (result : A) : Option A :=
  if _hNew : w.canonical path ∈ stack then some result
  else
    match _hFile : w.files.lookup (w.canonical path) with
    | none => some result
    | some file =>
      walkLines (w.canonical path :: stack) (w.canonical path) result w.start result
        (w.lines file)
termination_by (w.unvisited stack, 0)
decreasing_by
  exact Prod.Lex.left _ _ (w.unvisited_cons_lt _hNew _hFile)

/-- The walk through the lines of a file. -/
def walkLines (stack : List P) (path : P) (entry : A) (state : S) (result : A) :
  List L → Option A
  | [] => some result
  | line :: lines => do
    let (state, result, target) ← w.step stack path entry state result line
    let result ← match target with
      | none => some result
      | some target => walkFile stack target result
    if w.finished result then some result else walkLines stack path entry state result lines
termination_by lines => (w.unvisited stack, lines.length + 1)

end

variable {w} {stack : List P} {path : P} {result : A}

theorem walkFile_visiting (hVisiting : w.canonical path ∈ stack) :
  w.walkFile stack path result = some result := by
  rw [walkFile, dif_pos hVisiting]

theorem walkFile_unread (hNew : w.canonical path ∉ stack)
  (hUnread : w.files.lookup (w.canonical path) = none) :
  w.walkFile stack path result = some result := by
  rw [walkFile, dif_neg hNew]
  split
  next => rfl
  next file hRead =>
    rw [hUnread] at hRead
    cases hRead

theorem walkFile_read (hNew : w.canonical path ∉ stack)
  (hRead : w.files.lookup (w.canonical path) = some file) :
  w.walkFile stack path result =
    w.walkLines (w.canonical path :: stack) (w.canonical path) result w.start result
      (w.lines file) := by
  rw [walkFile, dif_neg hNew]
  split
  next hUnread =>
    rw [hRead] at hUnread
    cases hUnread
  next file' hRead' =>
    rw [hRead] at hRead'
    rw [Option.some.inj hRead']

/-- The line can be handled, and it includes only files of which `Reached` holds. -/
def Handled (Reached : P → Prop) (outcome : Option (S × A × Option P)) : Prop :=
  ∃ state result target, outcome = some (state, result, target) ∧ ∀ next ∈ target, Reached next

omit [DecidableEq P] in
theorem Handled.mono {Reached Other : P → Prop} {outcome : Option (S × A × Option P)}
  (hHandled : Handled Reached outcome) (hImp : ∀ next, Reached next → Other next) :
  Handled Other outcome := by
  obtain ⟨state, result, target, hOutcome, hTarget⟩ := hHandled
  exact ⟨state, result, target, hOutcome, fun next hNext => hImp next (hTarget next hNext)⟩

/-- A walk has a result if all lines of the files that it can reach are handled. -/
theorem walkFile_isSome {Reached : P → Prop}
  (hStep : ∀ path file, Reached path → w.files.lookup path = some file →
    ∀ line ∈ w.lines file, ∀ stack entry state result,
      Handled (fun next => Reached (w.canonical next)) (w.step stack path entry state result line))
  (stack : List P) (path : P) (result : A) (hPath : Reached (w.canonical path)) :
  (w.walkFile stack path result).isSome := by
  refine walkFile.induct w
    (fun stack path result => Reached (w.canonical path) → (w.walkFile stack path result).isSome)
    (fun stack path entry state result lines =>
      (∀ line ∈ lines, ∀ state result, Handled (fun next => Reached (w.canonical next))
        (w.step stack path entry state result line)) →
        (w.walkLines stack path entry state result lines).isSome) ?_ ?_ ?_ ?_ ?_ stack path result
    hPath
  · intro stack path result hVisiting _
    rw [walkFile_visiting hVisiting]
    rfl
  · intro stack path result hNew hUnread _
    rw [walkFile_unread hNew hUnread]
    rfl
  · intro stack path result hNew file hRead ih hPath
    rw [walkFile_read hNew hRead]
    exact ih fun line hLine state result => hStep _ _ hPath hRead line hLine _ _ state result
  · intro stack path entry state result _
    rw [walkLines]
    rfl
  · intro stack path entry state result line lines ihLines ihFile hLines
    obtain ⟨hLine, hRest⟩ := List.forall_mem_cons.1 hLines
    obtain ⟨state', result', target, hHandled, hTarget⟩ := hLine state result
    -- The lines that come next, with what the included file has left.
    have hNext : ∀ last, ((if w.finished last then some last
        else w.walkLines stack path entry state' last lines) : Option A).isSome := by
      intro last
      split
      · rfl
      · exact ihLines state' last hRest
    rw [walkLines, hHandled, Option.bind_eq_bind, Option.bind_some]
    cases target with
    | none => exact hNext result'
    | some target =>
      obtain ⟨last, hLast⟩ := Option.isSome_iff_exists.1 (ihFile result' target (hTarget target rfl))
      dsimp only
      rw [hLast]
      exact hNext last

/-- A line that can never be handled stops the walk through its lines. -/
theorem walkLines_none (hUnfinished : ∀ result, w.finished result = false) {line : L}
  (hNone : ∀ stack entry state result, w.step stack path entry state result line = none)
  {lines : List L} (hMem : line ∈ lines) (entry : A) (state : S) :
  w.walkLines stack path entry state result lines = none := by
  induction lines generalizing state result with
  | nil => exact absurd hMem List.not_mem_nil
  | cons first lines ih =>
    rw [walkLines]
    rcases List.mem_cons.1 hMem with rfl | hRest
    · rw [hNone]
      rfl
    cases w.step stack path entry state result first with
    | none => rfl
    | some handled =>
      obtain ⟨state', result', target⟩ := handled
      have hNext : ∀ last, ((if w.finished last then some last
          else w.walkLines stack path entry state' last lines) : Option A) = none := by
        intro last
        rw [hUnfinished]
        exact ih hRest state'
      rw [Option.bind_eq_bind, Option.bind_some]
      cases target with
      | none => exact hNext result'
      | some target =>
        dsimp only
        cases w.walkFile stack target result' with
        | none => rfl
        | some last => exact hNext last

theorem walkFile_none (hUnfinished : ∀ result, w.finished result = false) {line : L}
  (hRead : w.files.lookup (w.canonical path) = some file) (hMem : line ∈ w.lines file)
  (hNone : ∀ path stack entry state result, w.step stack path entry state result line = none) :
  w.walkFile [] path result = none := by
  rw [walkFile_read List.not_mem_nil hRead]
  exact walkLines_none hUnfinished (hNone _) hMem _ _

end IncludeWalk
