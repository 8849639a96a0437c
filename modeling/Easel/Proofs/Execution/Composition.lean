import Easel.Proofs.Execution.Accounting

/-!
Batches one after the other. What is carried out does not depend on what was reported before it, so two batches do what one batch
of all their actions does, and its report is made of theirs.
-/

namespace Easel

namespace Report

/-- The report with every position moved on by `n`. -/
def shift (r : Report) (n : Int) : Report where
  attempted := r.attempted
  succeeded := r.succeeded.map (n + ·)
  failed := r.failed.map (n + ·)
  unknown := r.unknown.map (n + ·)
  diagnostics := r.diagnostics.map fun d => { d with index := d.index.map (n + ·) }

def append (r s : Report) : Report where
  attempted := r.attempted + s.attempted
  succeeded := r.succeeded ++ s.succeeded
  failed := r.failed ++ s.failed
  unknown := r.unknown ++ s.unknown
  diagnostics := r.diagnostics ++ s.diagnostics

/-- What is reported of two batches, the positions of the second counted on from those of the first. -/
def followedBy (r s : Report) : Report :=
  r.append (s.shift r.attempted)

theorem followedBy_empty (r : Report) : r.followedBy {} = r := by
  simp [followedBy, append, shift]

end Report

namespace Execution

variable {options : ExecutionOptions} {a : Action} {actions : List Action} {h h' : Host} {r s : Report}

/-- An action is recorded at its position in the second batch, which is counted on from the first. -/
theorem record_followedBy (r s : Report) (outcome : Outcome) (events : List Event) :
    record (r.followedBy s) outcome events = r.followedBy (record s outcome events) := by
  cases outcome <;> simp [record, Report.followedBy, Report.append, Report.shift, Int.add_assoc]

theorem step_followedBy (options : ExecutionOptions) (r s : Report) (a : Action) :
    step options (r.followedBy s) a = r.followedBy <$> step options s a := by
  simp only [step, map_bind, map_pure, record_followedBy]

theorem foldlM_followedBy (options : ExecutionOptions) (r s : Report) (actions : List Action) :
    actions.foldlM (step options) (r.followedBy s) = r.followedBy <$> actions.foldlM (step options) s := by
  induction actions generalizing s with
  | nil => simp
  | cons a rest ih => simp only [List.foldlM_cons, step_followedBy, bind_map_left, ih, map_bind]

theorem runActions_append (options : ExecutionOptions) (first second : List Action) :
    runActions options (first ++ second) = do
      let r ← runActions options first
      let s ← runActions options second
      return r.followedBy s := by
  have hrest (r : Report) : second.foldlM (step options) r = r.followedBy <$> runActions options second := by
    rw [runActions, ← foldlM_followedBy, Report.followedBy_empty]
  rw [runActions, List.foldlM_append]
  refine bind_congr fun r => ?_
  rw [hrest, map_eq_pure_bind]

theorem execute_silent (focusCreated : Bool) (actions : List Action) :
    execute { focusCreated, notifySummary := false } actions =
      runActions { focusCreated, notifySummary := false } actions := by
  simp [execute]

/-- The equation holds of the programs, so it holds whatever calls fail. -/
theorem execute_append (focusCreated : Bool) (first second : List Action) :
    execute { focusCreated, notifySummary := false } (first ++ second) = do
      let r ← execute { focusCreated, notifySummary := false } first
      let s ← execute { focusCreated, notifySummary := false } second
      return r.followedBy s := by
  simp only [execute_silent, runActions_append]

theorem execute_silent_quiet (focusCreated : Bool) (actions : List Action) (hq : Quiet h) :
    ∃ r h', (execute { focusCreated, notifySummary := false } actions).run h = (.ok r, h') ∧
      r.attempted = actions.length ∧ Quiet h' := by
  obtain ⟨endings, h', hr, hq', hl, -⟩ := runActions_quiet { focusCreated, notifySummary := false } actions hq
  rw [execute_silent]
  exact ⟨tally endings, h', hr, by rw [tally_attempted, hl], hq'⟩

/-- Two batches leave the same host as one of all their actions, and its report is the first one with the second one behind it,
all positions in the second moved on by the number of actions in the first. -/
theorem batches_compose (focusCreated : Bool) (first second : List (Json ⊕ Action)) (h : Host) (hq : Quiet h) :
    let options : ExecutionOptions := { focusCreated, notifySummary := false }
    ∃ r h₁ s h₂, (execute options (first.map coerce)).run h = (.ok r, h₁) ∧
      (execute options (second.map coerce)).run h₁ = (.ok s, h₂) ∧
      (execute options ((first ++ second).map coerce)).run h = (.ok (r.append (s.shift first.length)), h₂) := by
  intro options
  obtain ⟨r, h₁, hr, hl, hq₁⟩ := execute_silent_quiet focusCreated (first.map coerce) hq
  obtain ⟨s, h₂, hs, -⟩ := execute_silent_quiet focusCreated (second.map coerce) hq₁
  refine ⟨r, h₁, s, h₂, hr, hs, ?_⟩
  rw [List.length_map] at hl
  rw [List.map_append, execute_append, run_bind_eq, hr]
  dsimp only
  rw [run_bind_eq, hs, ← hl]
  rfl

/-- A frame that is brought into view and something unknown, then a layer inside it and one that is not there. -/
theorem batches_compose_across_frame :
    let options : ExecutionOptions := { focusCreated := true, notifySummary := false }
    let first : List (Json ⊕ Action) := [.inr ⟨"create_frame", [("name", .str "card")], .null⟩, .inl (.bool true)]
    let second : List (Json ⊕ Action) := [.inr ⟨"create_text", [("parentId", .str "card")], .null⟩, .inr ⟨"move", [], .str "sun"⟩]
    Quiet {} ∧ ∃ r h₁ s h₂, (execute options (first.map coerce)).run {} = (.ok r, h₁) ∧
      (execute options (second.map coerce)).run h₁ = (.ok s, h₂) ∧
      (execute options ((first ++ second).map coerce)).run {} = (.ok (r.append (s.shift 2)), h₂) :=
  ⟨fun _ => rfl, batches_compose true _ _ {} fun _ => rfl⟩

end Execution
end Easel
