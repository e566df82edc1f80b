import VimeflowTerminal.Terminal.MetadataLifetime
import VimeflowTerminal.App.MetadataExpiry

/-! What a terminal shows changes by reports, by changes of its agent and by the passing of time.
What was announced last is what is shown, as long as no expiry is overdue and nothing else happens
between a deadline and the pass that enforces it. -/

namespace Terminal

open Detect AgentResume Transition Deadlines AgentMetadata FinMap

/-! ## Presentations of entries -/

def AgentMetadata.unmarked (metadata : AgentMetadata) : AgentMetadata :=
  { metadata with expiryEventPending := false }

namespace TerminalState

/-- What the entries show together. -/
def presentationOf (entries : List AgentMetadata) : EffectivePresentation where
  title := (maxByKey titleReportedAt
    (entries.filter fun metadata => metadata.title.isSome)).bind title
  displayAgent := (maxByKey displayAgentReportedAt
    (entries.filter fun metadata => metadata.displayAgent.isSome)).bind displayAgent
  stateLabels :=
    let labels := entries.flatMap fun metadata =>
      collect metadata.stateLabels fun state label =>
        (metadata.stateLabelReportedAt.lookup state).map fun reportedAt =>
          (reportedAt, state, label)
    ofPairs ((labels.insertionSort fun left right => left.1 ≤ right.1).map Prod.snd)

theorem effective_eq (s : TerminalState) (now : Instant) (enforceTtl : Bool) :
  s.effectivePresentationForStateAtWithTtl now enforceTtl =
    presentationOf (s.validAgentMetadata now enforceTtl) := rfl

theorem maxByKey_unmarked (key : AgentMetadata → Option Instant)
  (hKey : ∀ metadata, key (unmarked metadata) = key metadata)
  (entries : List AgentMetadata) :
  maxByKey key (entries.map unmarked) =
    (maxByKey key entries).map unmarked := by
  rw [maxByKey, List.foldl_map]
  refine @List.foldl_hom _ _ _ (Option.map unmarked) _ _ entries none fun best metadata => ?_
  cases best with
  | none => rfl
  | some other =>
    simp only [Option.map_some, hKey]
    split <;> rfl

/-- The marks of what is owed are not shown. -/
theorem presentationOf_unmarked (entries : List AgentMetadata) :
  presentationOf (entries.map unmarked) = presentationOf entries := by
  have hField : ∀ (key : AgentMetadata → Option Instant) (value : AgentMetadata → Option String),
      (∀ metadata, key (unmarked metadata) = key metadata) →
      (∀ metadata, value (unmarked metadata) = value metadata) →
      (maxByKey key ((entries.map unmarked).filter fun metadata =>
          (value metadata).isSome)).bind value =
        (maxByKey key (entries.filter fun metadata => (value metadata).isSome)).bind value := by
    intro key value hKey hValue
    rw [List.filter_map, maxByKey_unmarked key hKey]
    simp only [Function.comp_def, hValue, Option.bind_map]
  unfold presentationOf
  rw [hField _ title (fun _ => rfl) fun _ => rfl,
    hField _ displayAgent (fun _ => rfl) fun _ => rfl, List.flatMap_map]
  rfl

variable {s t : TerminalState} {metadata : AgentMetadata} {source : String}
  {report : AgentMetadataReport}

theorem effective_congr {now time : Instant} {enforce enforceTtl : Bool}
  (hSame : (s.validAgentMetadata now enforce).map unmarked =
    (t.validAgentMetadata time enforceTtl).map unmarked) :
  s.effectivePresentationForStateAtWithTtl now enforce =
    t.effectivePresentationForStateAtWithTtl time enforceTtl := by
  rw [effective_eq, effective_eq, ← presentationOf_unmarked, hSame, presentationOf_unmarked]

theorem SameDerivation.matchesGuards (same : SameDerivation s t) (metadata : AgentMetadata) :
  t.agentMetadataMatchesGuards metadata = s.agentMetadataMatchesGuards metadata := by
  unfold agentMetadataMatchesGuards metadataGuardsMatch
  rw [same.effectiveAgentLabel, same.hookAuthority]

theorem SameDerivation.isValid (same : SameDerivation s t) (metadata : AgentMetadata)
  (now : Instant) (enforceTtl : Bool) :
  t.agentMetadataIsValid metadata now enforceTtl =
    s.agentMetadataIsValid metadata now enforceTtl := by
  unfold agentMetadataIsValid
  rw [same.matchesGuards]

theorem SameShown.effective {s t : TerminalState} (same : SameShown s t) (now : Instant)
  (enforceTtl : Bool) : t.effectivePresentationForStateAtWithTtl now enforceTtl =
    s.effectivePresentationForStateAtWithTtl now enforceTtl := by
  rw [effective_eq, effective_eq]
  unfold validAgentMetadata
  simp only [same.isValid, same.agentMetadata]

/-- The marks of the metadata differ at most. -/
structure SameMarkedShown (s t : TerminalState) : Prop extends SameDerivation s t where
  marked : ∃ f : String → AgentMetadata → AgentMetadata,
    t.agentMetadata = mapValues s.agentMetadata f ∧
      ∀ source metadata, ∃ flag, f source metadata = { metadata with expiryEventPending := flag }

theorem SameMarkedShown.effective (same : SameMarkedShown s t) (now : Instant) (enforceTtl : Bool) :
  t.effectivePresentationForStateAtWithTtl now enforceTtl =
    s.effectivePresentationForStateAtWithTtl now enforceTtl := by
  obtain ⟨f, hMarked, hFlag⟩ := same.marked
  have hValid : ∀ e : Sigma fun _ : String => AgentMetadata,
      t.agentMetadataIsValid (f e.1 e.2) now enforceTtl =
        s.agentMetadataIsValid e.2 now enforceTtl := by
    intro e
    obtain ⟨flag, hEq⟩ := hFlag e.1 e.2
    rw [same.isValid, hEq]
    rfl
  have hShown : ∀ e : Sigma fun _ : String => AgentMetadata,
      unmarked (f e.1 e.2) = unmarked e.2 := by
    intro e
    obtain ⟨flag, hEq⟩ := hFlag e.1 e.2
    rw [hEq]
    rfl
  apply effective_congr
  unfold validAgentMetadata values
  rw [hMarked]
  unfold mapValues
  simp only [List.filter_map, List.map_map, Function.comp_def, hValid, hShown]

/-- Taking marks off, and recomputing the state, changes the marks only. -/
theorem sameMarkedShown_clear (s : TerminalState) :
  SameMarkedShown s s.clearExpiryPendingForHiddenMetadata := by
  refine ⟨⟨rfl, rfl, rfl, rfl, rfl, rfl⟩, fun _ metadata =>
    if metadata.expiryEventPending && !s.agentMetadataIsVisibleIgnoringTtl metadata then
      { metadata with expiryEventPending := false }
    else metadata, rfl, ?_⟩
  intro source metadata
  dsimp only
  split
  · exact ⟨false, rfl⟩
  · exact ⟨metadata.expiryEventPending, rfl⟩

theorem recompute_agentMetadata (s : TerminalState) (previous : Previous) (now : Instant) :
  (s.recomputeEffectiveState previous now).1.agentMetadata =
    s.clearExpiryPendingForHiddenMetadata.agentMetadata := by
  unfold recomputeEffectiveState
  dsimp only
  split <;> rfl

theorem sameMarkedShown_recompute (s : TerminalState) (previous : Previous) (now : Instant) :
  SameMarkedShown s (s.recomputeEffectiveState previous now).1 := by
  refine ⟨s.sameDerivation_recompute previous now, ?_⟩
  rw [recompute_agentMetadata]
  exact (s.sameMarkedShown_clear).marked

theorem shown_of_recompute (s : TerminalState) (previous : Previous) (now : Instant)
  (shown : EffectivePresentation) (hShown : shown.Same previous.presentation) :
  (((s.recomputeEffectiveState previous now).2.map (·.presentation)).getD shown).Same
    (s.effectivePresentationForStateAtWithTtl now true) := by
  unfold recomputeEffectiveState
  dsimp only
  split
  · next hSame =>
      obtain ⟨hTitle, hAgent, hLabels⟩ := hSame.2.2
      exact ⟨hShown.1.trans hTitle, hShown.2.1.trans hAgent, hShown.2.2.trans hLabels⟩
  · exact ⟨rfl, rfl, SameEntries.refl _⟩

/-! ## Deadlines -/

variable {s t : TerminalState} {clock now : Instant}

theorem expired_of_le (hExpired : agentMetadataIsExpired metadata clock) (hClock : clock ≤ now) :
  agentMetadataIsExpired metadata now = true := by
  obtain ⟨deadline, hExpiry, hDue⟩ := due_iff.1 hExpired
  exact due_iff.2 ⟨deadline, hExpiry, hDue.trans hClock⟩

/-- What has not expired, or is marked, does not expire before the next deadline. -/
theorem not_expired_of_later (hLater : Later now (s.nextAgentMetadataExpiry clock))
  (hLookup : s.agentMetadata.lookup source = some metadata)
  (hMatches : s.agentMetadataMatchesGuards metadata = true)
  (hAhead : agentMetadataIsExpired metadata clock = false ∨
    metadata.expiryEventPending = true) : agentMetadataIsExpired metadata now = false := by
  unfold agentMetadataIsExpired at hAhead ⊢
  cases hExpiry : agentMetadataExpiry metadata with
  | none => rfl
  | some deadline =>
    have hMatching : metadata ∈
        (values s.agentMetadata).filter s.agentMetadataMatchesGuards :=
      List.mem_filter.2 ⟨mem_values.2 ⟨source, hLookup⟩, hMatches⟩
    unfold nextAgentMetadataExpiry at hLater
    rw [later_min?] at hLater
    have hDeadline := hLater deadline (List.mem_filter.2
      ⟨List.mem_filterMap.2 ⟨metadata, hMatching, hExpiry⟩, ?_⟩)
    · rw [Option.any_some, decide_eq_false_iff_not, not_le]
      exact hDeadline
    · rw [Bool.or_eq_true, decide_eq_true_eq, List.any_eq_true]
      rw [hExpiry, Option.any_some, decide_eq_false_iff_not, not_le] at hAhead
      apply hAhead.imp_right
      intro hMarked
      refine ⟨metadata, hMatching, ?_⟩
      rw [hMarked, hExpiry]
      exact beq_self_eq_true _

/-- Nothing that is shown expires before the next deadline. -/
theorem effective_of_later (hClock : clock ≤ now)
  (hLater : Later now (s.nextAgentMetadataExpiry clock)) :
  s.effectivePresentationForStateAtWithTtl now true =
    s.effectivePresentationForStateAtWithTtl clock true := by
  rw [effective_eq, effective_eq]
  congr 1
  apply List.filter_congr
  intro metadata hMem
  obtain ⟨source, hLookup⟩ := mem_values.1 hMem
  unfold agentMetadataIsValid
  cases hMatches : s.agentMetadataMatchesGuards metadata with
  | false => rw [Bool.and_false, Bool.and_false]
  | true =>
    cases hExpired : agentMetadataIsExpired metadata clock with
    | false => rw [not_expired_of_later hLater hLookup hMatches (Or.inl hExpired)]
    | true =>
      rw [expired_of_le hExpired hClock]

/-! ## What holds after every operation -/

/-- Nothing that is marked has expired, and only what matches the agent is marked. -/
structure Settled (s : TerminalState) (clock : Instant) : Prop where
  ahead : ¬ s.MetadataOverdue clock
  matching : ∀ source metadata, s.agentMetadata.lookup source = some metadata →
    metadata.expiryEventPending = true → s.agentMetadataMatchesGuards metadata = true

/-- What is still marked was marked, and matches the agent. -/
theorem lookup_clearExpiryPending (s : TerminalState)
  (hLookup : s.clearExpiryPendingForHiddenMetadata.agentMetadata.lookup source = some metadata)
  (hMarked : metadata.expiryEventPending = true) :
  s.agentMetadata.lookup source = some metadata ∧
    s.agentMetadataMatchesGuards metadata = true := by
  unfold clearExpiryPendingForHiddenMetadata at hLookup
  rw [lookup_mapValues] at hLookup
  obtain ⟨earlier, hEarlier, rfl⟩ := Option.map_eq_some_iff.1 hLookup
  split at hMarked
  · cases hMarked
  next hShown =>
    rw [if_neg hShown]
    refine ⟨hEarlier, ?_⟩
    rw [hMarked, Bool.true_and, Bool.not_eq_true', Bool.not_eq_false] at hShown
    exact (Bool.and_eq_true_iff.1 hShown).2

theorem matching_recompute (s : TerminalState) (previous : Previous) :
  ∀ source metadata,
    (s.recomputeEffectiveState previous now).1.agentMetadata.lookup source = some metadata →
    metadata.expiryEventPending = true →
      s.agentMetadata.lookup source = some metadata ∧
        (s.recomputeEffectiveState previous now).1.agentMetadataMatchesGuards metadata =
          true := by
  intro source metadata hLookup hMarked
  rw [recompute_agentMetadata] at hLookup
  rw [(s.sameDerivation_recompute previous now).matchesGuards]
  exact s.lookup_clearExpiryPending hLookup hMarked

/-- A change of the agent before the next deadline. -/
theorem Settled.concluded {announced : Option EffectiveStateChange} (settled : s.Settled clock)
  (hLater : Later now (s.nextAgentMetadataExpiry clock))
  (concluded : Concluded s now t announced) : t.Settled now := by
  have hOld : ∀ source metadata, s.agentMetadata.lookup source = some metadata →
      metadata.expiryEventPending = true → agentMetadataIsExpired metadata now = false := by
    intro source metadata hLookup hMarked
    exact not_expired_of_later hLater hLookup (settled.matching source metadata hLookup hMarked)
      (Or.inr hMarked)
  cases concluded with
  | untouched same =>
    constructor
    case ahead =>
      rintro ⟨source, metadata, hLookup, -, hMarked, hDue⟩
      rw [same.agentMetadata] at hLookup
      exact Bool.eq_false_iff.1 (hOld source metadata hLookup hMarked) hDue
    case matching =>
      intro source metadata hLookup hMarked
      rw [same.agentMetadata] at hLookup
      rw [same.matchesGuards]
      exact settled.matching source metadata hLookup hMarked
  | recomputed same keep kept =>
    constructor
    case ahead =>
      rintro ⟨source, metadata, hLookup, -, hMarked, hDue⟩
      obtain ⟨hBefore, -⟩ := matching_recompute _ _ source metadata hLookup hMarked
      rw [kept] at hBefore
      exact Bool.eq_false_iff.1
        (hOld source metadata (mem_retain.1 hBefore).1 hMarked) hDue
    case matching =>
      intro source metadata hLookup hMarked
      exact (matching_recompute _ _ source metadata hLookup hMarked).2

/-- It announces what is shown afterwards, unless that was shown before. -/
theorem shown_of_concluded {announced : Option EffectiveStateChange}
  (concluded : Concluded s now t announced) {shown : EffectivePresentation}
  (hShown : shown.Same (s.effectivePresentationForStateAtWithTtl now true)) :
  ((announced.map (·.presentation)).getD shown).Same
    (t.effectivePresentationForStateAtWithTtl now true) := by
  cases concluded with
  | untouched same =>
    rw [same.effective]
    exact hShown
  | @recomputed before u same keep kept =>
    rw [(u.sameMarkedShown_recompute _ now).effective]
    apply shown_of_recompute
    show shown.Same (before.effectivePresentationForStateAtWithTtl now true)
    rw [same.effective]
    exact hShown

/-! ## Expiry -/

/-- Dropping entries that are not shown, or have expired, does not change what is shown. -/
theorem effective_of_retain {keep : String → AgentMetadata → Bool} {enforce enforceTtl : Bool}
  {time : Instant} (same : SameDerivation s t)
  (kept : t.agentMetadata = retain s.agentMetadata keep)
  (hKeep : ∀ source metadata, s.agentMetadata.lookup source = some metadata →
    s.agentMetadataMatchesGuards metadata = true →
      (!(enforce && agentMetadataIsExpired metadata now) && keep source metadata) =
        !(enforceTtl && agentMetadataIsExpired metadata time)) :
  t.effectivePresentationForStateAtWithTtl now enforce =
    s.effectivePresentationForStateAtWithTtl time enforceTtl := by
  rw [effective_eq, effective_eq]
  congr 1
  unfold validAgentMetadata values
  rw [kept]
  unfold retain
  rw [List.filter_map, List.filter_map, List.filter_filter]
  congr 1
  apply List.filter_congr
  intro e hMem
  have hAt := hKeep e.1 e.2 (mem_entries_iff.1 hMem)
  rw [Function.comp_apply, Function.comp_apply, same.isValid]
  unfold agentMetadataIsValid
  cases hMatches : s.agentMetadataMatchesGuards e.2 with
  | false => simp
  | true =>
    rw [← hAt hMatches]
    cases agentMetadataHasFields e.2 <;> simp

theorem mem_expiredMetadataSources_iff {deadline : Instant}
  (hLookup : s.agentMetadata.lookup source = some metadata) :
  (source, deadline) ∈ s.expiredMetadataSources now ↔
    agentMetadataExpiry metadata = some deadline ∧ deadline ≤ now := by
  constructor
  · intro hMem
    obtain ⟨hCollected, hDue⟩ := List.mem_filter.1 hMem
    obtain ⟨key, other, hOther, hPaired⟩ := mem_collect.1 hCollected
    obtain ⟨d, hExpiry, hPair⟩ := Option.map_eq_some_iff.1 hPaired
    cases hPair
    obtain rfl := Option.some.inj (hOther.symm.trans hLookup)
    exact ⟨hExpiry, of_decide_eq_true hDue⟩
  · rintro ⟨hExpiry, hDue⟩
    exact mem_expiredMetadataSources hLookup hExpiry hDue

/-- What a pass compares with: the metadata that has expired before the deadline is gone. -/
def withoutStale (s : TerminalState) (scheduledDeadline now : Instant) : TerminalState :=
  s.removeMetadata (((s.expiredMetadataSources now).filter fun expired =>
    !decide (scheduledDeadline ≤ expired.2)).map Prod.fst)

/-- The sources that a pass drops and announces. -/
def expiringSources (s : TerminalState) (scheduledDeadline now : Instant) :
  List (String × Instant) :=
  (s.expiredMetadataSources now).filter fun expired => decide (scheduledDeadline ≤ expired.2)

theorem expireAgentMetadataAt_eq (s : TerminalState) (scheduledDeadline now : Instant) :
  s.expireAgentMetadataAt scheduledDeadline now =
    if (s.expiringSources scheduledDeadline now).isEmpty then
      (s.withoutStale scheduledDeadline now, none)
    else
      let kept := s.withoutStale scheduledDeadline now
      let previous := { kept.previous now with
        presentation := kept.effectivePresentationForStateAtIgnoringTtl kept.state now }
      let expired := kept.removeMetadata
        ((s.expiringSources scheduledDeadline now).map Prod.fst)
      ((expired.recomputeEffectiveState previous now).1,
        some {
          effectiveStateChange := (expired.recomputeEffectiveState previous now).2
          sessionRefChanged := false
          agentReleased := false }) := by
  unfold expireAgentMetadataAt
  rw [List.partition_eq_filter_filter]
  rfl

section Pass

variable {scheduledDeadline : Instant}

theorem exists_of_next (hNext : s.nextAgentMetadataExpiry clock = some scheduledDeadline) :
  ∃ source metadata, s.agentMetadata.lookup source = some metadata ∧
    agentMetadataExpiry metadata = some scheduledDeadline := by
  have hMem := (List.mem_filter.1 (List.min?_mem hNext)).1
  obtain ⟨metadata, hMatching, hExpiry⟩ := List.mem_filterMap.1 hMem
  obtain ⟨source, hLookup⟩ := mem_values.1 (List.mem_filter.1 hMatching).1
  exact ⟨source, metadata, hLookup, hExpiry⟩

/-- What a pass compares with is what was shown after the last operation. -/
theorem effective_withoutStale (settled : s.Settled clock) (hClock : clock ≤ now)
  (hNext : s.nextAgentMetadataExpiry clock = some scheduledDeadline) :
  (s.withoutStale scheduledDeadline now).effectivePresentationForStateAtWithTtl now false =
    s.effectivePresentationForStateAtWithTtl clock true := by
  have hAhead : clock < scheduledDeadline :=
    (later_nextAgentMetadataExpiry (Nat.le_refl clock)).2 settled.ahead _ hNext
  have hDerivation : SameDerivation s (s.withoutStale scheduledDeadline now) :=
    ⟨rfl, rfl, rfl, rfl, rfl, rfl⟩
  have hKept : (s.withoutStale scheduledDeadline now).agentMetadata =
      retain s.agentMetadata fun source _ =>
        decide (source ∉ ((s.expiredMetadataSources now).filter fun expired =>
          !decide (scheduledDeadline ≤ expired.2)).map Prod.fst) := rfl
  apply effective_of_retain hDerivation hKept
  intro source metadata hLookup hMatches
  rw [Bool.false_and, Bool.not_false, Bool.true_and, Bool.true_and]
  cases hExpired : agentMetadataIsExpired metadata clock with
  | true =>
    -- it expired before the last operation and is not marked
    obtain ⟨deadline, hExpiry, hDue⟩ := due_iff.1 hExpired
    rw [Bool.not_true, decide_eq_false_iff_not, not_not]
    refine List.mem_map.2 ⟨(source, deadline), List.mem_filter.2 ⟨?_, ?_⟩, rfl⟩
    · exact mem_expiredMetadataSources hLookup hExpiry (hDue.trans hClock)
    · rw [Bool.not_eq_true', decide_eq_false_iff_not, not_le]
      exact hDue.trans_lt hAhead
  | false =>
    rw [Bool.not_false, decide_eq_true_eq]
    intro hStale
    obtain ⟨⟨other, deadline⟩, hMem, rfl⟩ := List.mem_map.1 hStale
    obtain ⟨hSource, hEarly⟩ := List.mem_filter.1 hMem
    obtain ⟨hExpiry, -⟩ := (mem_expiredMetadataSources_iff hLookup).1 hSource
    rw [Bool.not_eq_true', decide_eq_false_iff_not, not_le] at hEarly
    -- it would have been the next deadline
    have hLater : Later deadline (s.nextAgentMetadataExpiry clock) := by
      rw [hNext, later_some]
      exact hEarly
    have hStill := not_expired_of_later hLater hLookup hMatches (Or.inl hExpired)
    exact Bool.eq_false_iff.1 hStill (due_iff.2 ⟨deadline, hExpiry, Nat.le_refl _⟩)

theorem expiringSources_of_next (hNext : s.nextAgentMetadataExpiry clock = some scheduledDeadline)
  (hDue : scheduledDeadline ≤ now) :
  ¬(s.expiringSources scheduledDeadline now).isEmpty = true := by
  obtain ⟨source, metadata, hLookup, hExpiry⟩ := exists_of_next hNext
  have hMem : (source, scheduledDeadline) ∈ s.expiringSources scheduledDeadline now :=
    List.mem_filter.2 ⟨mem_expiredMetadataSources hLookup hExpiry hDue, by simp⟩
  exact fun hEmpty => List.ne_nil_of_mem hMem (List.isEmpty_iff.1 hEmpty)

theorem shown_of_expire (settled : s.Settled clock) (hClock : clock ≤ now)
  (hNext : s.nextAgentMetadataExpiry clock = some scheduledDeadline)
  (hDue : scheduledDeadline ≤ now) {shown : EffectivePresentation}
  (hShown : shown.Same (s.effectivePresentationForStateAtWithTtl clock true)) :
  ((((s.expireAgentMetadataAt scheduledDeadline now).2.bind (·.effectiveStateChange)).map
    (·.presentation)).getD shown).Same
      ((s.expireAgentMetadataAt scheduledDeadline
        now).1.effectivePresentationForStateAtWithTtl now true) := by
  rw [expireAgentMetadataAt_eq, if_neg (expiringSources_of_next hNext hDue)]
  dsimp only [Option.bind_some]
  rw [(sameMarkedShown_recompute _ _ now).effective]
  apply shown_of_recompute
  show shown.Same ((s.withoutStale scheduledDeadline
    now).effectivePresentationForStateAtWithTtl now false)
  rw [effective_withoutStale settled hClock hNext]
  exact hShown

theorem settled_expire (hNext : s.nextAgentMetadataExpiry clock = some scheduledDeadline)
  (hDue : scheduledDeadline ≤ now) :
  (s.expireAgentMetadataAt scheduledDeadline now).1.Settled now := by
  constructor
  case ahead =>
    exact (s.metadataFresh_expireAgentMetadataAt scheduledDeadline now).not_overdue
  case matching =>
    rw [expireAgentMetadataAt_eq, if_neg (expiringSources_of_next hNext hDue)]
    intro source metadata hLookup hMarked
    exact (matching_recompute _ _ source metadata hLookup hMarked).2

end Pass

/-! ## Reports -/

theorem erase_eq_retain (m : FinMap String AgentMetadata) (key : String) :
  m.erase key = retain m fun other _ => decide (other ≠ key) := by
  have hEntries : ∀ {l : List (Sigma fun _ : String => AgentMetadata)}, l.NodupKeys →
      List.kerase key l = l.filter fun e => decide (e.1 ≠ key) := by
    intro l hNodup
    induction l with
    | nil => rfl
    | cons e l ih =>
      obtain ⟨hFresh, hRest⟩ := List.nodupKeys_cons.1 hNodup
      by_cases hKey : key = e.1
      · rw [List.kerase_cons_eq hKey, List.filter_cons_of_neg (by simp [hKey]), eq_comm,
          List.filter_eq_self]
        intro other hMem
        rw [decide_eq_true_eq, hKey]
        rintro hSame
        exact hFresh (hSame ▸ List.mem_keys_of_mem hMem)
      · rw [List.kerase_cons_ne hKey, ih hRest,
          List.filter_cons_of_pos (by simpa using Ne.symm hKey)]
  exact AList.ext (hEntries m.nodupKeys)

/-- The time to live of a report ends after the report, and in time. -/
def AgentMetadataReport.Lasting (report : AgentMetadataReport) (now : Instant) : Prop :=
  ∀ ttl ∈ report.ttl, 0 < ttl ∧ now + ttl < instantLimit

theorem agentMetadataIsExpired_congr {other : AgentMetadata}
  (hStamp : (metadata.reportedAt, metadata.ttl) = (other.reportedAt, other.ttl)) (now : Instant) :
  agentMetadataIsExpired metadata now = agentMetadataIsExpired other now := by
  obtain ⟨hTime, hTtl⟩ := Prod.mk.inj hStamp
  unfold agentMetadataIsExpired agentMetadataExpiry
  rw [hTime, hTtl]

theorem not_expired_of_lasting (hLasting : AgentMetadataReport.Lasting report now)
  (hStamp : (metadata.reportedAt, metadata.ttl) = (now, report.ttl)) :
  agentMetadataIsExpired metadata now = false := by
  obtain ⟨hTime, hTtl⟩ := Prod.mk.inj hStamp
  unfold agentMetadataIsExpired agentMetadataExpiry
  rw [hTime, hTtl]
  cases hReport : report.ttl with
  | none => rfl
  | some ttl =>
    obtain ⟨hPositive, hLimit⟩ := hLasting ttl hReport
    rw [Option.map_some, Option.any_some, Instant.checkedAdd, if_pos hLimit, Option.getD_some,
      decide_eq_false_iff_not, not_le]
    exact Nat.lt_add_of_pos_right hPositive

/-- What a report stores has not expired. -/
theorem not_expired_of_store (hLasting : AgentMetadataReport.Lasting report now)
  (hKept : ∀ metadata, s.agentMetadata.lookup report.source = some metadata →
    agentMetadataIsExpired metadata now = false)
  (hLookup : (s.storeMetadata report now).agentMetadata.lookup report.source =
    some metadata) : agentMetadataIsExpired metadata now = false := by
  rw [storeMetadata, AList.lookup_insert, Option.some.injEq] at hLookup
  subst hLookup
  split
  · cases hOld : s.agentMetadata.lookup report.source with
    | none =>
      rw [Option.getD_none]
      apply not_expired_of_lasting hLasting
      rw [patchMetadata_stamp]
      split <;> rfl
    | some earlier =>
      rw [Option.getD_some]
      have hStamp := patchMetadata_stamp earlier report now
      split at hStamp
      · exact not_expired_of_lasting hLasting hStamp
      · rw [agentMetadataIsExpired_congr hStamp]
        exact hKept earlier hOld
  · exact not_expired_of_lasting hLasting rfl

/-- An expired entry of the source is dropped without a change of what is shown. -/
theorem effective_dropExpiredMetadata (s : TerminalState) (source : String) (now : Instant) :
  (s.dropExpiredMetadata source now).effectivePresentationForStateAtWithTtl now true =
    s.effectivePresentationForStateAtWithTtl now true := by
  unfold dropExpiredMetadata
  split
  · next hExpired =>
      have hDerivation : SameDerivation s
          { s with agentMetadata := s.agentMetadata.erase source } := ⟨rfl, rfl, rfl, rfl, rfl, rfl⟩
      apply effective_of_retain hDerivation (erase_eq_retain s.agentMetadata source)
      intro other metadata hLookup _
      rw [Bool.true_and]
      cases hGone : agentMetadataIsExpired metadata now with
      | true => rfl
      | false =>
        rw [Bool.not_false, Bool.true_and, decide_eq_true_eq]
        rintro rfl
        rw [hLookup, Option.any_some, hGone] at hExpired
        cases hExpired
  · rfl

theorem lookup_dropExpiredMetadata {key : String}
  (hLookup : (s.dropExpiredMetadata source now).agentMetadata.lookup key = some metadata) :
  s.agentMetadata.lookup key = some metadata ∧
    (key = source → agentMetadataIsExpired metadata now = false) := by
  unfold dropExpiredMetadata at hLookup
  split at hLookup
  · have hErased : (s.agentMetadata.erase source).lookup key = some metadata := hLookup
    by_cases hKey : key = source
    · rw [hKey, AList.lookup_erase] at hErased
      cases hErased
    · rw [AList.lookup_erase_ne hKey] at hErased
      exact ⟨hErased, fun hSame => absurd hSame hKey⟩
  · next hFresh =>
      refine ⟨hLookup, ?_⟩
      rintro rfl
      rw [hLookup, Option.any_some] at hFresh
      exact Bool.eq_false_iff.2 hFresh

/-- The entry is stored under its source and marked, over what has not expired. -/
def reported (s : TerminalState) (report : AgentMetadataReport) (now : Instant) : TerminalState :=
  ((s.dropExpiredMetadata report.source now).storeMetadata report now).armMetadataExpiry report

/-- A report is turned away, or the state is recomputed with what it stores. -/
inductive ReportOutcome (s : TerminalState) (report : AgentMetadataReport) (now : Instant) :
  TerminalState × Option TerminalStateMutation → Prop where
  | rejected {t : TerminalState} (same : SameShown s t) : ReportOutcome s report now (t, none)
  | stored {sequenced t : TerminalState} {mutation : TerminalStateMutation}
      (same : SameShown s sequenced)
      (cleared : t = ((sequenced.reported report now).recomputeEffectiveState
          ((sequenced.dropExpiredMetadata report.source now).previous now) now).1 ∨
        t = ((sequenced.reported report now).recomputeEffectiveState
          ((sequenced.dropExpiredMetadata report.source now).previous now)
            now).1.clearExpiryPendingForHiddenMetadata)
      (announced : mutation.effectiveStateChange =
        ((sequenced.reported report now).recomputeEffectiveState
          ((sequenced.dropExpiredMetadata report.source now).previous now) now).2) :
      ReportOutcome s report now (t, some mutation)

theorem sameShown_acceptMetadataReport (s : TerminalState) (source : String) (seq : Option Nat)
  (includesTokens : Bool) (agent : Option Agent) :
  SameShown s (s.acceptMetadataReport source seq includesTokens agent).1 := by
  unfold acceptMetadataReport
  cases seq with
  | none => exact .refl s
  | some seq =>
    dsimp only
    split
    · exact .refl s
    split
    · exact .refl s
    · exact ⟨⟨rfl, rfl, rfl, rfl, rfl, rfl⟩, rfl, rfl⟩

theorem setAgentMetadata_outcome (s : TerminalState) (report : AgentMetadataReport)
  (now : Instant) : ReportOutcome s report now (s.setAgentMetadata report now) := by
  unfold setAgentMetadata
  split
  · exact .rejected (.refl s)
  have hSame := s.sameShown_acceptMetadataReport report.source report.seq false
    (metadataReportAgent report.source report.agentLabel report.appliesToSource)
  generalize s.acceptMetadataReport report.source report.seq false
    (metadataReportAgent report.source report.agentLabel report.appliesToSource) = accepted
    at hSame ⊢
  obtain ⟨sequenced, passed⟩ := accepted
  match passed with
  | none => exact .rejected hSame
  | some false => exact .rejected hSame
  | some true =>
    apply ReportOutcome.stored hSame
    · split
      · exact Or.inr rfl
      · exact Or.inl rfl
    · rfl

/-- What a report leaves marked has not expired. -/
theorem not_expired_of_reported (hLasting : AgentMetadataReport.Lasting report now)
  (hOld : ∀ source metadata, s.agentMetadata.lookup source = some metadata →
    metadata.expiryEventPending = true → agentMetadataIsExpired metadata now = false)
  (hLookup : (s.reported report now).agentMetadata.lookup source = some metadata)
  (hMarked : metadata.expiryEventPending = true) :
  agentMetadataIsExpired metadata now = false := by
  unfold reported armMetadataExpiry at hLookup
  rw [lookup_mapValues] at hLookup
  obtain ⟨earlier, hEarlier, rfl⟩ := Option.map_eq_some_iff.1 hLookup
  by_cases hSource : source = report.source
  · have hFresh : agentMetadataIsExpired earlier now = false := by
      rw [hSource] at hEarlier
      apply not_expired_of_store hLasting ?_ hEarlier
      intro kept hKept
      exact (lookup_dropExpiredMetadata hKept).2 rfl
    split
    · exact hFresh
    · exact hFresh
  · rw [if_neg fun h => hSource h.1] at hMarked ⊢
    rw [storeMetadata, AList.lookup_insert_ne hSource] at hEarlier
    exact hOld source earlier (lookup_dropExpiredMetadata hEarlier).1 hMarked

theorem settled_of_report (settled : s.Settled clock)
  (hLater : Later now (s.nextAgentMetadataExpiry clock))
  (hLasting : AgentMetadataReport.Lasting report now) :
  (s.setAgentMetadata report now).1.Settled now := by
  have hOutcome := s.setAgentMetadata_outcome report now
  generalize s.setAgentMetadata report now = result at hOutcome
  cases hOutcome with
  | rejected same => exact settled.concluded hLater (.untouched same)
  | @stored sequenced t mutation same cleared announced =>
    have hOld : ∀ source metadata, sequenced.agentMetadata.lookup source = some metadata →
        metadata.expiryEventPending = true → agentMetadataIsExpired metadata now = false := by
      intro source metadata hLookup hMarked
      rw [same.agentMetadata] at hLookup
      exact not_expired_of_later hLater hLookup
        (settled.matching source metadata hLookup hMarked) (Or.inr hMarked)
    have hMarks : ∀ source metadata, t.agentMetadata.lookup source = some metadata →
        metadata.expiryEventPending = true →
          agentMetadataIsExpired metadata now = false ∧
            t.agentMetadataMatchesGuards metadata = true := by
      intro source metadata hLookup hMarked
      rcases cleared with rfl | rfl
      · obtain ⟨hStored, hMatches⟩ := matching_recompute _ _ source metadata hLookup hMarked
        exact ⟨not_expired_of_reported hLasting hOld hStored hMarked, hMatches⟩
      obtain ⟨hBefore, -⟩ := lookup_clearExpiryPending _ hLookup hMarked
      obtain ⟨hStored, hMatches⟩ := matching_recompute _ _ source metadata hBefore hMarked
      exact ⟨not_expired_of_reported hLasting hOld hStored hMarked, hMatches⟩
    constructor
    case ahead =>
      rintro ⟨source, metadata, hLookup, -, hMarked, hDue⟩
      exact Bool.eq_false_iff.1 (hMarks source metadata hLookup hMarked).1 hDue
    case matching =>
      intro source metadata hLookup hMarked
      exact (hMarks source metadata hLookup hMarked).2

theorem shown_of_report (report : AgentMetadataReport) {shown : EffectivePresentation}
  (hShown : shown.Same (s.effectivePresentationForStateAtWithTtl now true)) :
  ((((s.setAgentMetadata report now).2.bind (·.effectiveStateChange)).map
    (·.presentation)).getD shown).Same
      ((s.setAgentMetadata report now).1.effectivePresentationForStateAtWithTtl now true) := by
  have hOutcome := s.setAgentMetadata_outcome report now
  generalize s.setAgentMetadata report now = result at hOutcome
  cases hOutcome with
  | rejected same =>
    rw [same.effective]
    exact hShown
  | @stored sequenced t mutation same cleared announced =>
    have hEffective : t.effectivePresentationForStateAtWithTtl now true =
        (sequenced.reported report now).effectivePresentationForStateAtWithTtl now true := by
      have hRecomputed := ((sequenced.reported report now).sameMarkedShown_recompute
        ((sequenced.dropExpiredMetadata report.source now).previous now) now).effective now true
      rcases cleared with rfl | rfl
      · exact hRecomputed
      · rw [(sameMarkedShown_clear _).effective]
        exact hRecomputed
    rw [hEffective, Option.bind_some, announced]
    apply shown_of_recompute
    show shown.Same ((sequenced.dropExpiredMetadata report.source
      now).effectivePresentationForStateAtWithTtl now true)
    rw [effective_dropExpiredMetadata, same.effective]
    exact hShown

end TerminalState

/-! ## Runs -/

open TerminalState

/-- A terminal, when its last operation was, and the presentation that was announced last. -/
structure Watched where
  state : TerminalState
  clock : Instant
  shown : EffectivePresentation

namespace Watched

def new : Watched := ⟨TerminalState.new, 0, ⟨none, none, ∅⟩⟩

variable (w : Watched)

/-- The deadline that was pending after the last operation. -/
def due : Option Instant := w.state.nextAgentMetadataExpiry w.clock

/-- The clock does not go back, and a pass does not come before its deadline. The terminal is not
made anew. -/
def Possible (op : TerminalOp) (now : Instant) : Prop :=
  w.clock ≤ now ∧ (∀ time ∈ TerminalOp.time op, time = now) ∧
    match op with
    | .respawn => False
    | .expireMetadata scheduledDeadline _ =>
      w.due = some scheduledDeadline ∧ scheduledDeadline ≤ now
    | _ => True

def after (op : TerminalOp) (now : Instant) : Watched where
  state := w.state.step op
  clock := now
  shown := ((w.state.announcement op).map (·.presentation)).getD w.shown

/-- An operation and its time. -/
def Step (w : Watched) (label : TerminalOp × Instant) (w' : Watched) : Prop :=
  w.Possible label.1 label.2 ∧ w' = w.after label.1 label.2

/-- What was announced last is what is shown, whenever no deadline is pending. -/
def Told : Prop :=
  ∀ now, w.clock ≤ now → Later now w.due →
    w.shown.Same (w.state.effectivePresentationForStateAt w.state.state now)

/-- An operation other than a pass comes before the deadline that is pending, and the time to live
of a report ends after the report. -/
def InTime (label : TerminalOp × Instant) : Prop :=
  match label.1 with
  | .expireMetadata .. => True
  | .metadata report _ => Later label.2 w.due ∧ AgentMetadataReport.Lasting report label.2
  | _ => Later label.2 w.due

structure Sound : Prop where
  settled : w.state.Settled w.clock
  shown : w.shown.Same (w.state.effectivePresentationForStateAtWithTtl w.clock true)

variable {w}

theorem sound_new : new.Sound where
  settled := by
    have hNone : ∀ source, new.state.agentMetadata.lookup source = none :=
      fun source => AList.lookup_empty source
    constructor
    · rintro ⟨source, metadata, hLookup, -⟩
      rw [hNone] at hLookup
      cases hLookup
    · intro source metadata hLookup
      rw [hNone] at hLookup
      cases hLookup
  shown := ⟨rfl, rfl, SameEntries.refl _⟩

theorem Sound.told (sound : w.Sound) : w.Told := by
  intro now hClock hLater
  show w.shown.Same (w.state.effectivePresentationForStateAtWithTtl now true)
  rw [effective_of_later hClock hLater]
  exact sound.shown

theorem Sound.step {w' : Watched} {label : TerminalOp × Instant} (sound : w.Sound)
  (hStep : Step w label w') (hInTime : w.InTime label) : w'.Sound := by
  obtain ⟨op, now⟩ := label
  obtain ⟨⟨hClock, hTime, hPossible⟩, rfl⟩ := hStep
  have hBefore : Later now w.due →
      w.shown.Same (w.state.effectivePresentationForStateAtWithTtl now true) := by
    intro hLater
    rw [effective_of_later hClock hLater]
    exact sound.shown
  have hPlain : TerminalOp.isPlain op = true → Later now w.due → (w.after op now).Sound := by
    intro hPlain hLater
    have hConcluded := w.state.concluded_plain hPlain fun time hSome => hTime time hSome
    exact ⟨sound.settled.concluded hLater hConcluded,
      shown_of_concluded hConcluded (hBefore hLater)⟩
  cases op with
  | respawn => exact hPossible.elim
  | expireMetadata scheduledDeadline time =>
    obtain rfl : time = now := hTime time rfl
    obtain ⟨hNext, hDue⟩ := hPossible
    exact ⟨settled_expire hNext hDue,
      shown_of_expire sound.settled hClock hNext hDue sound.shown⟩
  | metadata report time =>
    obtain rfl : time = now := hTime time rfl
    obtain ⟨hLater, hLasting⟩ := hInTime
    exact ⟨settled_of_report sound.settled hLater hLasting,
      shown_of_report report (hBefore hLater)⟩
  | _ => exact hPlain rfl hInTime

/-- What was announced last is what is shown in every run in which nothing but a pass comes after
a deadline. -/
theorem told_of_inTime {ops : List (TerminalOp × Instant)}
  (run : Run (restrict Step InTime) new ops w) : w.Told := by
  have sound : w.Sound := run.preserves sound_new fun _ _ _ sound hStep =>
    sound.step hStep.1 hStep.2
  exact sound.told

/-- The title of the sample expires and the pass announces it. -/
theorem told_of_inTime_sample :
  ((new.after (.metadata titleForTen 0) 0).after (.expireMetadata 10000000 10000000)
    10000000).Told := by
  have hFirst : restrict Step InTime new (.metadata titleForTen 0, 0) _ :=
    ⟨⟨⟨Nat.le_refl 0, fun time hTime => (Option.some.inj hTime).symm, trivial⟩, rfl⟩,
      later_none, fun ttl hTtl => by cases hTtl; decide⟩
  have hSecond : restrict Step InTime (new.after (.metadata titleForTen 0) 0)
      (.expireMetadata 10000000 10000000, 10000000) _ :=
    ⟨⟨⟨by decide, fun time hTime => (Option.some.inj hTime).symm, by decide, by decide⟩, rfl⟩,
      trivial⟩
  exact told_of_inTime ((Run.single hFirst).trans (Run.single hSecond))

/-- The source clears its title when the time has come, before the pass does. -/
def clearedTitle : AgentMetadataReport :=
  { titleForTen with title := none, clearTitle := true, ttl := none }

/-- The expired title is dropped without a word, and nothing is pending any more. -/
theorem not_told_clearedTitle :
  ¬ ∀ (ops : List (TerminalOp × Instant)) (w : Watched), Run Step new ops w → w.Told := by
  intro hAll
  have hFirst : Step new (.metadata titleForTen 0, 0) _ :=
    ⟨⟨Nat.le_refl 0, fun time hTime => (Option.some.inj hTime).symm, trivial⟩, rfl⟩
  have hSecond : Step (new.after (.metadata titleForTen 0) 0)
      (.metadata clearedTitle 10000000, 10000000) _ :=
    ⟨⟨by decide, fun time hTime => (Option.some.inj hTime).symm, trivial⟩, rfl⟩
  have hTold := hAll _ _ ((Run.single hFirst).trans (Run.single hSecond)) 10000000 (by decide)
    (not_due_iff.1 (by decide))
  exact absurd hTold.1 (by decide)

end Watched

end Terminal
