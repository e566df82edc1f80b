import Mathlib.Data.List.TakeWhile
import VimeflowTerminal.Data.DigitAccumulator
import VimeflowTerminal.Data.Utf8
import VimeflowTerminal.Pane.OscTrackers

/-! A tracker of DECSCUSR sequences in pane output. It adds the digits of a parameter in 16 bits. -/

namespace Pane

open DigitAccumulator

/-- `[`, which begins a control sequence after an escape. -/
def CSI_INTRO : UInt8 := 0x5b

/-- A parameter or intermediate byte of a control sequence. -/
def isCsiBody (byte : UInt8) : Bool := 0x20 ≤ byte && byte ≤ 0x3f

/-- A byte that ends a control sequence. -/
def isCsiFinal (byte : UInt8) : Bool := 0x40 ≤ byte && byte ≤ 0x7e

def digitValue (byte : UInt8) : Nat := byte.toNat - 0x30

def U16_MAX : Nat := 2 ^ 16 - 1

inductive DecscusrParseState where
  | ground
  | escape
  | csi (firstParam : Option Nat) (collectingFirstParam hasSpaceIntermediate : Bool)
  deriving DecidableEq

structure DecscusrTracker where
  state : DecscusrParseState := .ground
  cursorShapeOverridden : Bool := false
  deriving DecidableEq

namespace DecscusrTracker

/-- The shape after a style: those above 6 are no styles. -/
def restyle (overridden : Bool) (param : Nat) : Bool :=
  if param ≤ 6 then decide (param ≠ 0) else overridden

/-- The transition for a byte; none if the addition of a digit overflows. -/
def observeByte (tracker : DecscusrTracker) (byte : UInt8) : Option DecscusrTracker :=
  match tracker.state with
  | .ground => some (if byte = ESC then { tracker with state := .escape } else tracker)
  | .escape =>
    some { tracker with
      state :=
        if byte = CSI_INTRO then .csi none true false
        else if byte = ESC then .escape
        else .ground }
  | .csi firstParam collecting space =>
    if byte = ESC then some { tracker with state := .escape }
    else if isAsciiDigit byte && collecting then
      (push U16_MAX (firstParam.getD 0) (digitValue byte)).map fun param =>
        { tracker with state := .csi (some param) collecting space }
    else if byte = 0x3b ∨ byte = 0x3a then
      some { tracker with state := .csi firstParam false space }
    else if byte = 0x20 then some { tracker with state := .csi firstParam false true }
    else if isCsiFinal byte then
      some
        { state := .ground
          cursorShapeOverridden :=
            if byte = 0x71 && space then
              restyle tracker.cursorShapeOverridden (firstParam.getD 0)
            else tracker.cursorShapeOverridden }
    else if !isCsiBody byte then some { tracker with state := .ground }
    else some tracker

def observe (tracker : DecscusrTracker) (bytes : List UInt8) : Option DecscusrTracker :=
  bytes.foldlM observeByte tracker

/-- Observe reads one after the other. -/
def observeAll (tracker : DecscusrTracker) (reads : List (List UInt8)) : Option DecscusrTracker :=
  reads.foldlM observe tracker

end DecscusrTracker

/-- What follows each escape of a stream, up to the next one. -/
def afterEscapes : List UInt8 → List (List UInt8)
  | [] => []
  | byte :: rest =>
    if byte = ESC then rest.takeWhile (· ≠ ESC) :: afterEscapes rest else afterEscapes rest

/-- The parameter and intermediate bytes of a control sequence, which may not be complete. -/
def csiBody (text : List UInt8) : List UInt8 :=
  match text with
  | [] => []
  | byte :: rest => if byte = CSI_INTRO then rest.takeWhile isCsiBody else []

/-- The byte that ends a control sequence. -/
def csiFinal (text : List UInt8) : Option UInt8 :=
  match text with
  | [] => none
  | byte :: rest =>
    if byte = CSI_INTRO then (rest.dropWhile isCsiBody).head?.filter isCsiFinal else none

/-- The digits before the first separator or space. -/
def firstParamDigits (body : List UInt8) : List Nat :=
  ((body.takeWhile fun byte => byte ≠ 0x3b && byte ≠ 0x3a && byte ≠ 0x20).filter
    isAsciiDigit).map digitValue

/-- The first parameter of a control sequence, 0 if there is none. -/
def firstParam (text : List UInt8) : Nat := value (firstParamDigits (csiBody text))

/-- Whether the tracker takes a text for a style: a sequence that ends in `q`, has a space
somewhere and a first parameter of at most 6. -/
def restyles (text : List UInt8) : Bool :=
  csiFinal text = some 0x71 ∧ 0x20 ∈ csiBody text ∧ firstParam text ≤ 6

/-- The `n` of a text that begins with a complete sequence `CSI n SP q`: an opening bracket,
digits (0 if there are none), a space and `q`, with nothing else among them. -/
def cursorStyle (text : List UInt8) : Option Nat :=
  match text with
  | [] => none
  | byte :: rest =>
    if byte = CSI_INTRO ∧ ascii " q" <+: rest.dropWhile isAsciiDigit then
      some (value ((rest.takeWhile isAsciiDigit).map digitValue))
    else none

/-- Whether the last style from 0 to 6 of a stream is not 0. -/
def lastStyleOverrides (stream : List UInt8) : Bool :=
  (((afterEscapes stream).filterMap cursorStyle).filter (· ≤ 6)).getLast?.any (· ≠ 0)

/-- The last sequence that is taken for a style is a style, or asks for what the last style does. -/
def LastStyleTaken (stream : List UInt8) : Prop :=
  ∀ text, ((afterEscapes stream).filter restyles).getLast? = some text → cursorStyle text = none →
    (firstParam text ≠ 0 ↔ lastStyleOverrides stream = true)

theorem digit_in_body : ∀ byte : UInt8, isAsciiDigit byte = true → isCsiBody byte = true ∧
  byte ≠ 0x3b ∧ byte ≠ 0x3a ∧ byte ≠ 0x20 ∧ digitValue byte ≤ 9 :=
  Utf8.forall_byte (by decide +kernel)

theorem body_not_final : ∀ byte : UInt8, isCsiBody byte = true → isCsiFinal byte = false :=
  Utf8.forall_byte (by decide +kernel)

theorem separator_in_body : isCsiBody 0x3b = true ∧ isCsiBody 0x3a = true ∧ isCsiBody 0x20 = true := by
  decide

theorem firstParamDigits_le (body : List UInt8) : ∀ digit ∈ firstParamDigits body, digit ≤ 9 := by
  intro digit hMem
  obtain ⟨byte, hByte, rfl⟩ := List.mem_map.1 hMem
  exact (digit_in_body byte (List.mem_filter.1 hByte).2).2.2.2.2

variable {byte : UInt8}

theorem firstParamDigits_digit (body : List UInt8) (hDigit : isAsciiDigit byte = true) :
  firstParamDigits (byte :: body) = digitValue byte :: firstParamDigits body := by
  obtain ⟨-, hSemicolon, hColon, hSpace, -⟩ := digit_in_body byte hDigit
  simp [firstParamDigits, hSemicolon, hColon, hSpace, hDigit]

theorem firstParamDigits_stop (body : List UInt8)
  (hStop : byte = 0x3b ∨ byte = 0x3a ∨ byte = 0x20) : firstParamDigits (byte :: body) = [] := by
  obtain rfl | rfl | rfl := hStop
  · rfl
  · rfl
  · rfl

theorem firstParamDigits_other (body : List UInt8) (hDigit : isAsciiDigit byte = false)
  (hSemicolon : byte ≠ 0x3b) (hColon : byte ≠ 0x3a) (hSpace : byte ≠ 0x20) :
  firstParamDigits (byte :: body) = firstParamDigits body := by
  simp [firstParamDigits, hSemicolon, hColon, hSpace, hDigit]

namespace DecscusrTracker

theorem observe_cons (tracker : DecscusrTracker) (byte : UInt8) (rest : List UInt8) :
  tracker.observe (byte :: rest) =
    (tracker.observeByte byte).bind fun after => after.observe rest := by
  rw [observe, List.foldlM_cons]
  rfl

theorem observe_append (tracker : DecscusrTracker) (first second : List UInt8) :
  tracker.observe (first ++ second) =
    (tracker.observe first).bind fun after => after.observe second := by
  rw [observe, List.foldlM_append]
  rfl

theorem observeAll_eq (tracker : DecscusrTracker) (reads : List (List UInt8)) :
  tracker.observeAll reads = tracker.observe reads.flatten := by
  induction reads generalizing tracker with
  | nil => rfl
  | cons read reads ih =>
    rw [List.flatten_cons, observe_append, observeAll, List.foldlM_cons]
    exact bind_congr fun after => ih after

variable {overridden : Bool} {text : List UInt8}

theorem observe_ground (hText : ESC ∉ text) :
  observe ⟨.ground, overridden⟩ text = some ⟨.ground, overridden⟩ := by
  induction text with
  | nil => rfl
  | cons byte text ih =>
    rw [List.mem_cons, not_or] at hText
    obtain ⟨hByte, hRest⟩ := hText
    rw [observe_cons, observeByte]
    rw [if_neg (Ne.symm hByte), Option.bind_some, ih hRest]

/-- What the bytes of a control sequence that are left do. -/
theorem observe_csi (hText : ESC ∉ text) (param : Option Nat) (collecting space : Bool) :
  (observe ⟨.csi param collecting space, overridden⟩ text).map cursorShapeOverridden =
    (collect U16_MAX (param.getD 0)
      (if collecting then firstParamDigits (text.takeWhile isCsiBody) else [])).map fun param =>
        if (text.dropWhile isCsiBody).head?.filter isCsiFinal = some 0x71 ∧
            (space = true ∨ 0x20 ∈ text.takeWhile isCsiBody) then restyle overridden param
        else overridden := by
  induction text generalizing param collecting space with
  | nil => cases collecting <;> rfl
  | cons byte text ih =>
    rw [List.mem_cons, not_or] at hText
    obtain ⟨hByte, hRest⟩ := hText
    rw [observe_cons, observeByte]
    dsimp only
    rw [if_neg (Ne.symm hByte)]
    cases hBody : isCsiBody byte with
    | true =>
      rw [List.takeWhile_cons_of_pos hBody, List.dropWhile_cons_of_pos hBody]
      cases hDigit : isAsciiDigit byte with
      | true =>
        obtain ⟨-, hSemicolon, hColon, hSpace, -⟩ := digit_in_body byte hDigit
        simp only [List.mem_cons, Ne.symm hSpace, false_or]
        cases collecting with
        | true =>
          rw [Bool.true_and, if_pos rfl, if_pos rfl, firstParamDigits_digit _ hDigit, collect,
            List.foldlM_cons]
          cases push U16_MAX (param.getD 0) (digitValue byte) with
          | none => rfl
          | some after => exact ih hRest (some after) true space
        | false =>
          rw [if_neg (by simp), if_neg (by simp [hSemicolon, hColon]), if_neg hSpace,
            body_not_final byte hBody, if_neg (by simp), if_neg (by simp)]
          exact ih hRest param false space
      | false =>
        rw [Bool.false_and, if_neg (by simp)]
        by_cases hSeparator : byte = 0x3b ∨ byte = 0x3a
        · have hSpace : byte ≠ 0x20 := by
            rintro rfl
            revert hSeparator
            decide
          have hStop : byte = 0x3b ∨ byte = 0x3a ∨ byte = 0x20 :=
            hSeparator.imp_right .inl
          simp only [List.mem_cons, Ne.symm hSpace, false_or]
          rw [if_pos hSeparator, firstParamDigits_stop _ hStop, ite_self]
          exact ih hRest param false space
        · rw [if_neg hSeparator]
          obtain ⟨hSemicolon, hColon⟩ := not_or.1 hSeparator
          by_cases hSpace : byte = 0x20
          · rw [if_pos hSpace, firstParamDigits_stop _ (.inr (.inr hSpace)), ite_self,
              Option.bind_some, ih hRest param false true, hSpace]
            simp only [List.mem_cons, true_or, or_true]
            rfl
          · simp only [List.mem_cons, Ne.symm hSpace, false_or]
            rw [if_neg hSpace, body_not_final byte hBody, if_neg (by simp), if_neg (by simp),
              firstParamDigits_other _ hDigit hSemicolon hColon hSpace]
            exact ih hRest param collecting space
    | false =>
      rw [List.takeWhile_cons_of_neg (by simp [hBody]),
        List.dropWhile_cons_of_neg (by simp [hBody]), List.head?_cons]
      have hDigit : isAsciiDigit byte = false := by
        refine Bool.eq_false_iff.2 fun hDigit => ?_
        rw [(digit_in_body byte hDigit).1] at hBody
        cases hBody
      have hOther : ¬ (byte = 0x3b ∨ byte = 0x3a) ∧ byte ≠ 0x20 := by
        obtain ⟨hSemicolon, hColon, hSpace⟩ := separator_in_body
        refine ⟨?_, ?_⟩
        · rintro (rfl | rfl)
          · rw [hSemicolon] at hBody
            cases hBody
          · rw [hColon] at hBody
            cases hBody
        · rintro rfl
          rw [hSpace] at hBody
          cases hBody
      rw [hDigit, Bool.false_and, if_neg (by simp), if_neg hOther.1, if_neg hOther.2]
      have hNone : (if collecting = true then firstParamDigits [] else []) = [] := ite_self _
      rw [hNone]
      cases hFinal : isCsiFinal byte with
      | true =>
        have hSome : (some byte).filter isCsiFinal = some byte := by simp [Option.filter, hFinal]
        rw [if_pos rfl, Option.bind_some, observe_ground hRest, hSome]
        simp [collect]
      | false =>
        have hNone : (some byte).filter isCsiFinal = none := by simp [Option.filter, hFinal]
        rw [if_neg (by simp), if_pos (by simp), Option.bind_some, observe_ground hRest, hNone]
        simp [collect]

/-- What the bytes between an escape and the next one do. -/
theorem observe_afterEscape {overridden : Bool} {text : List UInt8} (hText : ESC ∉ text) :
  (observe ⟨.escape, overridden⟩ text).map cursorShapeOverridden =
    (collect U16_MAX 0 (firstParamDigits (csiBody text))).map fun param =>
      if csiFinal text = some 0x71 ∧ 0x20 ∈ csiBody text then restyle overridden param
      else overridden := by
  cases text with
  | nil => rfl
  | cons byte text =>
    rw [List.mem_cons, not_or] at hText
    obtain ⟨hByte, hRest⟩ := hText
    rw [observe_cons, observeByte]
    rw [Option.bind_some]
    by_cases hIntro : byte = CSI_INTRO
    · rw [if_pos hIntro, observe_csi hRest none true false, csiBody, csiFinal, if_pos hIntro,
        if_pos hIntro, if_pos rfl]
      simp only [Bool.false_eq_true, false_or]
      rfl
    · rw [if_neg hIntro, if_neg (Ne.symm hByte), observe_ground hRest, csiBody, csiFinal,
        if_neg hIntro, if_neg hIntro]
      rfl

/-- What the bytes after an escape do to the shape; none if an addition overflows. -/
def restyleText (overridden : Bool) (text : List UInt8) : Option Bool :=
  (collect U16_MAX 0 (firstParamDigits (csiBody text))).map fun param =>
    if csiFinal text = some 0x71 ∧ 0x20 ∈ csiBody text then restyle overridden param
    else overridden

theorem observe_escape (tracker : DecscusrTracker) (rest : List UInt8) :
  tracker.observe (ESC :: rest) = observe ⟨.escape, tracker.cursorShapeOverridden⟩ rest := by
  rw [observe_cons, observeByte]
  cases tracker.state with
  | ground => rfl
  | escape => rfl
  | csi param collecting space => rfl

theorem afterEscapes_append (hText : ESC ∉ text) (rest : List UInt8) :
  afterEscapes (text ++ rest) = afterEscapes rest := by
  induction text with
  | nil => rfl
  | cons byte text ih =>
    rw [List.mem_cons, not_or] at hText
    obtain ⟨hByte, hText⟩ := hText
    rw [List.cons_append, afterEscapes, if_neg (Ne.symm hByte), ih hText]

theorem split_at_escape (bytes : List UInt8) :
  ∃ text rest, bytes = text ++ rest ∧ bytes.takeWhile (· ≠ ESC) = text ∧ ESC ∉ text ∧
    (rest = [] ∨ ∃ later, rest = ESC :: later) := by
  refine ⟨_, _, List.takeWhile_append_dropWhile.symm, rfl, fun hMem => ?_, ?_⟩
  · simpa using List.mem_takeWhile_imp hMem
  cases hRest : bytes.dropWhile (· ≠ ESC) with
  | nil => exact .inl rfl
  | cons byte later =>
    have hHead := List.head?_dropWhile_not (· ≠ ESC) bytes
    rw [hRest] at hHead
    exact .inr ⟨later, congrArg (· :: later) (by simpa using hHead)⟩

/-- A stream is read escape by escape. -/
theorem observe_stream (stream : List UInt8) (overridden : Bool) :
  (observe ⟨.ground, overridden⟩ stream).map cursorShapeOverridden =
    (afterEscapes stream).foldlM restyleText overridden := by
  induction hLength : stream.length using Nat.strongRecOn generalizing stream overridden with
  | _ length ih =>
    cases stream with
    | nil => rfl
    | cons byte rest =>
      rw [List.length_cons] at hLength
      by_cases hByte : byte = ESC
      · subst hByte
        obtain ⟨text, more, rfl, hText, hNoEscape, hMore⟩ := split_at_escape rest
        have hFirst := @observe_afterEscape overridden text hNoEscape
        rw [observe_escape, afterEscapes, if_pos rfl, List.foldlM_cons, hText,
          afterEscapes_append hNoEscape, observe_append, restyleText, ← hFirst]
        cases observe ⟨.escape, overridden⟩ text with
        | none => rfl
        | some after =>
          rw [Option.bind_some, Option.map_some]
          obtain rfl | ⟨later, rfl⟩ := hMore
          · rfl
          · have hLater := ih (ESC :: later).length (by
              rw [← hLength, List.length_append]
              omega) (ESC :: later) after.cursorShapeOverridden rfl
            rw [observe_escape] at hLater ⊢
            exact hLater
      · rw [observe_cons, observeByte]
        rw [if_neg hByte, Option.bind_some, afterEscapes, if_neg hByte]
        exact ih rest.length (by omega) rest overridden rfl

/-- The shape after texts, of the shape before them. -/
def styleAfter (overridden : Bool) (texts : List (List UInt8)) : Bool :=
  ((texts.filter restyles).getLast?.map fun text => decide (firstParam text ≠ 0)).getD overridden

theorem restyleText_of_fits (hFits : Fits U16_MAX (firstParam text)) (overridden : Bool) :
  restyleText overridden text = some (styleAfter overridden [text]) := by
  have hCollect := (collect_value (firstParamDigits_le (csiBody text))).1 hFits
  rw [restyleText, hCollect, Option.map_some, styleAfter]
  change some (if _ then restyle overridden (min U16_MAX (firstParam text)) else _) = _
  by_cases hSmall : firstParam text ≤ 6
  · have hMin : min U16_MAX (firstParam text) = firstParam text := by
      rw [U16_MAX]
      omega
    by_cases hStyle : csiFinal text = some 0x71 ∧ 0x20 ∈ csiBody text
    · simp [restyles, restyle, hStyle, hSmall, hMin]
    · simp [restyles, hStyle, hSmall]
  · have hSame : ¬ min U16_MAX (firstParam text) ≤ 6 := by
      rw [U16_MAX]
      omega
    simp [restyles, restyle, hSmall, hSame]

theorem restyleText_of_not_fits (hOut : ¬ Fits U16_MAX (firstParam text)) (overridden : Bool) :
  restyleText overridden text = none := by
  rw [restyleText, (collect_value (firstParamDigits_le (csiBody text))).2 hOut, Option.map_none]

theorem styleAfter_cons (overridden : Bool) (text : List UInt8) (texts : List (List UInt8)) :
  styleAfter overridden (text :: texts) = styleAfter (styleAfter overridden [text]) texts := by
  rw [styleAfter, ← List.singleton_append, List.filter_append, List.getLast?_append, styleAfter,
    styleAfter]
  cases (texts.filter restyles).getLast? with
  | none => rfl
  | some style => rfl

theorem foldlM_restyleText {texts : List (List UInt8)}
  (hFits : ∀ text ∈ texts, Fits U16_MAX (firstParam text)) (overridden : Bool) :
  texts.foldlM restyleText overridden = some (styleAfter overridden texts) := by
  induction texts generalizing overridden with
  | nil => rfl
  | cons text texts ih =>
    rw [List.foldlM_cons, restyleText_of_fits (hFits text List.mem_cons_self),
      styleAfter_cons overridden text texts]
    exact ih (fun other hMem => hFits other (List.mem_cons_of_mem text hMem)) _

theorem foldlM_restyleText_isSome {texts : List (List UInt8)} {last : Bool}
  (hRun : texts.foldlM restyleText overridden = some last) :
  ∀ text ∈ texts, Fits U16_MAX (firstParam text) := by
  induction texts generalizing overridden with
  | nil => exact fun _ hMem => absurd hMem List.not_mem_nil
  | cons text texts ih =>
    have hFits : Fits U16_MAX (firstParam text) := by
      by_contra hOut
      rw [List.foldlM_cons, restyleText_of_not_fits hOut] at hRun
      cases hRun
    rw [List.foldlM_cons, restyleText_of_fits hFits] at hRun
    intro other hMem
    rcases List.mem_cons.1 hMem with rfl | hMem
    · exact hFits
    · exact ih hRun other hMem

/-- A style is read as one, with its number. -/
theorem cursorStyle_taken {style : Nat} (hStyle : cursorStyle text = some style) :
  restyles text = decide (style ≤ 6) ∧ firstParam text = style := by
  cases text with
  | nil => cases hStyle
  | cons byte rest =>
    rw [cursorStyle, Option.ite_none_right_eq_some] at hStyle
    obtain ⟨⟨rfl, later, hLater⟩, hStyle⟩ := hStyle
    have hDigits : ∀ byte ∈ rest.takeWhile isAsciiDigit, isAsciiDigit byte = true :=
      fun _ hMem => List.mem_takeWhile_imp hMem
    have hBody : ∀ byte ∈ rest.takeWhile isAsciiDigit, isCsiBody byte = true :=
      fun byte hMem => (digit_in_body byte (hDigits byte hMem)).1
    have hRest : rest = rest.takeWhile isAsciiDigit ++ (ascii " q" ++ later) := by
      rw [hLater, List.takeWhile_append_dropWhile]
    generalize rest.takeWhile isAsciiDigit = digits at hDigits hBody hRest hStyle
    have hText : csiBody (CSI_INTRO :: rest) = digits ++ [0x20] := by
      rw [csiBody, if_pos rfl, hRest, List.takeWhile_append_of_pos hBody]
      rfl
    have hFinal : csiFinal (CSI_INTRO :: rest) = some 0x71 := by
      rw [csiFinal, if_pos rfl, hRest, List.dropWhile_append_of_pos hBody]
      rfl
    have hNumber : firstParamDigits (digits ++ [0x20]) = digits.map digitValue := by
      clear hRest hText hStyle hBody
      induction digits with
      | nil => rfl
      | cons digit digits ih =>
        rw [List.cons_append, firstParamDigits_digit _ (hDigits digit List.mem_cons_self),
          ih fun other hMem => hDigits other (List.mem_cons_of_mem digit hMem), List.map_cons]
    have hFirst : firstParam (CSI_INTRO :: rest) = style := by
      rw [firstParam, hText, hNumber, Option.some.inj hStyle]
    refine ⟨?_, hFirst⟩
    rw [restyles, hFinal, hText, hFirst]
    simp

/-- The tracker and the last style agree exactly if the last sequence taken for one agrees. -/
theorem styleAfter_eq_iff (stream : List UInt8) :
  styleAfter false (afterEscapes stream) = lastStyleOverrides stream ↔ LastStyleTaken stream := by
  have hStyles : ((afterEscapes stream).filterMap cursorStyle).filter (· ≤ 6) =
      ((afterEscapes stream).filter restyles).filterMap cursorStyle := by
    rw [List.filter_filterMap, List.filterMap_filter]
    refine List.filterMap_congr fun text _ => ?_
    cases hStyle : cursorStyle text with
    | none => rw [ite_self, Option.filter_none]
    | some style => rw [(cursorStyle_taken hStyle).1, Option.filter_some]
  rw [styleAfter, LastStyleTaken]
  cases hLast : ((afterEscapes stream).filter restyles).getLast? with
  | none =>
    have hNone : lastStyleOverrides stream = false := by
      rw [lastStyleOverrides, hStyles, List.getLast?_eq_none_iff.1 hLast]
      rfl
    simp [hNone]
  | some text =>
    obtain ⟨before, hBefore⟩ := List.getLast?_eq_some_iff.1 hLast
    simp only [Option.map_some, Option.getD_some, Option.some.injEq, forall_eq']
    cases hStyle : cursorStyle text with
    | none => cases lastStyleOverrides stream <;> simp
    | some style =>
      have hSame : lastStyleOverrides stream = decide (style ≠ 0) := by
        rw [lastStyleOverrides, hStyles, hBefore, List.filterMap_append, List.filterMap_cons_some hStyle,
          List.filterMap_nil, List.getLast?_concat]
        rfl
      simp [hSame, (cursorStyle_taken hStyle).2]

end DecscusrTracker

/-- Observing reads overflows nowhere, and afterwards the shape is overridden exactly if the
last style in them is not 0. -/
def TracksShape (reads : List (List UInt8)) : Prop :=
  ∃ tracker, DecscusrTracker.observeAll {} reads = some tracker ∧
    tracker.cursorShapeOverridden = lastStyleOverrides reads.flatten

/-- The shape is tracked exactly in the streams in which every first parameter, also of a
sequence that is not complete, is at most 65535 or such a number followed by zeros, and the last
sequence taken for a style does not say otherwise than the last style. -/
theorem tracksShape_iff (reads : List (List UInt8)) :
  TracksShape reads ↔
    (∀ text ∈ afterEscapes reads.flatten, Fits U16_MAX (firstParam text)) ∧
      LastStyleTaken reads.flatten := by
  have hStream := DecscusrTracker.observe_stream reads.flatten false
  have hAgree := DecscusrTracker.styleAfter_eq_iff reads.flatten
  constructor
  · rintro ⟨tracker, hRun, hShape⟩
    rw [DecscusrTracker.observeAll_eq] at hRun
    rw [show DecscusrTracker.observe ⟨.ground, false⟩ reads.flatten = some tracker from hRun] at hStream
    have hFits := DecscusrTracker.foldlM_restyleText_isSome hStream.symm
    rw [DecscusrTracker.foldlM_restyleText hFits, Option.map_some, Option.some.injEq] at hStream
    exact ⟨hFits, hAgree.1 (hStream.symm.trans hShape)⟩
  · rintro ⟨hFits, hTaken⟩
    rw [DecscusrTracker.foldlM_restyleText hFits] at hStream
    obtain ⟨tracker, hRun, hShape⟩ := Option.map_eq_some_iff.1 hStream
    exact ⟨tracker, (DecscusrTracker.observeAll_eq _ _).trans hRun, hShape.trans (hAgree.2 hTaken)⟩

/-- Adding the last digit of 65536 overflows, and `?5` before the space and `q` is a style for
the tracker only. -/
theorem not_tracksShape : ¬ TracksShape [ESC :: CSI_INTRO :: ascii "65536 q"] ∧
  ¬ TracksShape [ESC :: CSI_INTRO :: ascii "?5 q"] := by
  constructor
  · rintro ⟨tracker, hRun, -⟩
    have hNone : DecscusrTracker.observeAll {} [ESC :: CSI_INTRO :: ascii "65536 q"] = none := by
      decide +kernel
    rw [hNone] at hRun
    cases hRun
  · rintro ⟨tracker, hRun, hShape⟩
    have hSome : DecscusrTracker.observeAll {} [ESC :: CSI_INTRO :: ascii "?5 q"] =
        some ⟨.ground, true⟩ := by
      decide +kernel
    have hStyle : lastStyleOverrides [ESC :: CSI_INTRO :: ascii "?5 q"].flatten = false := by
      decide +kernel
    rw [hSome, Option.some.injEq] at hRun
    rw [hStyle, ← hRun] at hShape
    cases hShape

end Pane
