import Easel.Proofs.Assistant
import Mathlib.Data.List.Basic

/-!
What a compiler notes about a batch and what comes of the batch. The check is the same before an action is carried out as when it
was compiled, so the notes about an action are just what it is refused for, whatever the document.
-/

namespace Easel

/-- What is noted about the action at a position, without the position. -/
def Batch.noted (b : Batch) (i : Nat) : List String :=
  b.warnings.filterMap fun w => ((s!"action {i}: ").toList.isPrefixOf? w.toList).map String.ofList

namespace Compiler

variable {limit : Int} {transcript : Json} {m : Model} {batch : Batch} {i j : Nat} {x y : List Char}

theorem warnings_of_compile (hb : ((compile limit transcript).run m).1 = .ok batch) :
    batch.warnings = warnings batch.actions := by
  rw [Assistant.compile_run] at hb
  split at hb
  · cases hb
  split at hb
  · cases hb
  unfold batchOf at hb
  split at hb
  · cases hb
    rfl
  · cases hb
  · cases hb

/-- A numeral ends at the colon behind it. -/
theorem digits_colon_inj (h : Nat.toDigits 10 i ++ ':' :: x = Nat.toDigits 10 j ++ ':' :: y) : i = j ∧ x = y := by
  have hread (n : Nat) (z : List Char) : (Nat.toDigits 10 n ++ ':' :: z).takeWhile Char.isDigit = Nat.toDigits 10 n := by
    rw [List.takeWhile_append_of_pos fun c hc => Nat.isDigit_of_mem_toDigits (by decide) (by decide) hc]
    simp
  have hdigits : Nat.toDigits 10 i = Nat.toDigits 10 j := by rw [← hread i x, h, hread]
  have hij : i = j := by simpa using congrArg (fun ds => Nat.ofDigitChars 10 ds 0) hdigits
  subst hij
  exact ⟨rfl, List.cons_injective (List.append_cancel_left h)⟩

theorem toList_note (i : Nat) (s : String) :
    (s!"action {i}: {s}").toList = "action ".toList ++ (Nat.toDigits 10 i ++ ':' :: ' ' :: s.toList) := by
  show ("action " ++ Nat.repr i ++ ": " ++ s).toList = _
  simp [Nat.repr]

/-- The position that a note begins with is that of its action. -/
theorem isPrefixOf?_note (i j : Nat) (s : String) :
    ((s!"action {i}: ").toList.isPrefixOf? (s!"action {j}: {s}").toList).map String.ofList = if i = j then some s else none := by
  have hlabel : (s!"action {i}: ").toList = "action ".toList ++ (Nat.toDigits 10 i ++ ':' :: [' ']) := by
    show ("action " ++ Nat.repr i ++ ": ").toList = _
    simp [Nat.repr]
  rw [hlabel, toList_note]
  split
  · rename_i hij
    subst hij
    have hrest : ("action ".toList ++ (Nat.toDigits 10 i ++ ':' :: [' '])) ++ s.toList =
        "action ".toList ++ (Nat.toDigits 10 i ++ ':' :: ' ' :: s.toList) := by
      rw [List.append_assoc, List.append_assoc]
      rfl
    rw [List.isPrefixOf?_eq_some_iff_append_eq.2 hrest, Option.map_some, String.ofList_toList]
  · rename_i hij
    rw [Option.map_eq_none_iff, Option.eq_none_iff_forall_ne_some]
    intro z hz
    rw [List.isPrefixOf?_eq_some_iff_append_eq, List.append_assoc, List.append_cancel_left_eq, List.append_assoc] at hz
    exact hij (digits_colon_inj hz).1

theorem flatMap_zipIdx (g : Action → List String) (actions : List Action) (i k : Nat) :
    (actions.zipIdx k).flatMap (fun p => if i + k = p.2 then g p.1 else []) = actions[i]?.elim [] g := by
  induction actions generalizing i k with
  | nil => rfl
  | cons a rest ih =>
    rw [List.zipIdx_cons, List.flatMap_cons]
    cases i with
    | zero =>
      have hrest : (rest.zipIdx (k + 1)).flatMap (fun p => if 0 + k = p.2 then g p.1 else []) = [] := by
        refine List.flatMap_eq_nil_iff.2 fun p hp => if_neg ?_
        have := (List.mem_zipIdx hp).1
        omega
      rw [hrest]
      simp
    | succ i =>
      have hk (p : Action × Nat) : (i + 1 + k = p.2) = (i + (k + 1) = p.2) := by rw [Nat.add_right_comm, Nat.add_assoc]
      simp only [hk, ih]
      simp

theorem noted_warnings {actions : List Action} (hw : batch.warnings = warnings actions) (i : Nat) :
    batch.noted i = actions[i]?.elim [] fun a => a.objections.map Objection.message := by
  have hone (p : Action × Nat) : (p.1.objections.map fun o => s!"action {p.2}: {o.message}").filterMap (fun w =>
      ((s!"action {i}: ").toList.isPrefixOf? w.toList).map String.ofList) =
        if i + 0 = p.2 then p.1.objections.map Objection.message else [] := by
    rw [List.filterMap_map]
    simp only [Function.comp_def, isPrefixOf?_note]
    split <;> simp_all
  -- Of the notes about one action either all begin with the position that is looked for, or none does.
  rw [Batch.noted, hw, warnings, List.filterMap_flatMap]
  simp only [hone]
  exact flatMap_zipIdx (fun a => a.objections.map Objection.message) actions i 0

end Compiler

namespace Execution

open Compiler

variable {options : ExecutionOptions} {batch : Batch} {a : Action} {e : Event} {h : Host}

/-- The codes of the events about what does not pass the check. -/
def objectionCodes : List String := ["UNKNOWN_OPERATION", "INVALID_ACTION"]

theorem not_objection_of_isRemark (he : e.isRemark) : e.code ∉ objectionCodes := by
  cases e <;> first | exact he.elim | simp [Event.code, objectionCodes]

theorem not_objection_of_blamesTarget (he : e.blamesTarget) : e.code ∉ objectionCodes := by
  cases e <;> first | exact he.elim | simp [Event.code, objectionCodes]

theorem objections_of_unknown (hop : Op.ofName? a.op = none) : a.objections = [.unknownOp (.str a.op)] := by
  simp [Action.objections, Validation.check, Validation.opOf?, Json.string?, hop]

/-- What is carried out is spoken of in remarks, blamed on its target or laid to the host. -/
theorem codes_of_handle (op : Op) (options : ExecutionOptions) (a : Action) (h : Host) :
    let result := (handle op (taskOf options a)).run ⟨h, []⟩
    ∀ e ∈ result.2.events ++ (outcomeOf a result.1).event?.toList, e.code ∉ objectionCodes := by
  intro result e he
  have hp := handle_plain op (taskOf options a)
  rcases List.mem_append.1 he with he | he
  · exact not_objection_of_isRemark (hp.remarks (r := ⟨h, []⟩) (by simp) e he)
  rcases hr : result.1 with (e' | error) | _ <;> rw [hr] at he
  · have hblames := hp.blamesTarget_of_refused hr
    cases e' <;> first | exact hblames.elim | exact List.mem_singleton.1 he ▸ not_objection_of_blamesTarget hblames
  · obtain rfl := List.mem_singleton.1 he
    simp [Event.code, objectionCodes]
  · cases he

/-- How the check of an action decides on what comes of it: it is unknown, or invalid, and leaves the host as it was, or it
passes and is spoken of with other codes. -/
theorem perform_checked (options : ExecutionOptions) (a : Action) (h : Host) :
    (a.objections = [.unknownOp (.str a.op)] ∧
        perform options a h = (.unknown (.unknownOperation (.str a.op)), [.unknownOperation (.str a.op)], h)) ∨
      (a.objections ≠ [] ∧ perform options a h =
        (.failed (.invalidAction a.op a.objections), [.invalidAction a.op a.objections], h)) ∨
      a.objections = [] ∧ (perform options a h).1.tag ≠ .unknown ∧
        ∀ e ∈ (perform options a h).2.1, e.code ∉ objectionCodes := by
  obtain ⟨hop, he⟩ | ⟨hop, ho, -⟩ | ⟨op, hop, ho, he⟩ := apply_cases options a
  · exact .inl ⟨objections_of_unknown hop, by rw [perform_eq, he]; rfl⟩
  · exact .inr (.inl ⟨ho, perform_refused options h hop ho⟩)
  · refine .inr (.inr ⟨ho, ?_, ?_⟩)
    · obtain ⟨hnone, -⟩ | ⟨-, hs | ⟨e, hf, -⟩⟩ := perform_cases options a h
      · rw [hnone] at hop
        cases hop
      · rw [hs]
        decide
      · rw [hf]
        exact fun h => by cases h
    · rw [perform_eq, he]
      exact codes_of_handle op options a h

/-- What a report says of the check of its actions is what was noted about them. -/
structure Foretold (options : ExecutionOptions) (batch : Batch) (h : Host) (report : Report) : Prop where
  unknown : ∀ i : Nat, (i : Int) ∈ report.unknown →
    ∃ d, about report i = [d] ∧ d.code = "UNKNOWN_OPERATION" ∧ batch.noted i = [d.message]
  invalid : ∀ i : Nat, ∀ d ∈ about report i, d.code = "INVALID_ACTION" →
    about report i = [d] ∧ d.event.details.lookup "errors" = some (Json.strings (batch.noted i))
  otherwise : ∀ i : Nat, (i : Int) ∉ report.unknown → (∀ d ∈ about report i, d.code ≠ "INVALID_ACTION") →
    batch.noted i = []
  /-- What something is noted about is not carried out. -/
  spared : ∀ i (hi : i < batch.actions.length), batch.noted i ≠ [] → (i : Int) ∉ report.succeeded ∧
    (perform options batch.actions[i] (hostAt options batch.actions h i)).2.2 = hostAt options batch.actions h i
  passed : ∀ i : Nat, batch.noted i = [] →
    (i : Int) ∉ report.unknown ∧ ∀ d ∈ about report i, d.code ∉ objectionCodes

/-- Behind the last action a report says nothing. -/
theorem tally_beyond {endings : Endings} {i : Nat} (hi : endings.length ≤ i) :
    about (tally endings) i = [] ∧ ∀ tag, (i : Int) ∉ counted (tally endings) tag := by
  have hnone : endings[i]? = none := List.getElem?_eq_none hi
  refine ⟨by rw [about_tally, hnone]; rfl, fun tag hmem => ?_⟩
  obtain ⟨k, e, hk, -, hik⟩ := (mem_counted_tally endings tag i).1 hmem
  obtain rfl : i = k := by exact_mod_cast hik
  rw [hnone] at hk
  cases hk

/-- What a report and the notes say of one position: the action there is unknown, is invalid, or passes the check. -/
inductive Noted (report : Report) (notes : List String) (i : Nat) (spared : Prop) : Prop
  | unknown (op : Json) (hu : (i : Int) ∈ report.unknown) (hs : (i : Int) ∉ report.succeeded)
    (ha : about report i = [⟨some i, .unknownOperation op⟩]) (hn : notes = [(Event.unknownOperation op).message]) (h : spared)
  | invalid (op : String) (objections : List Objection) (ho : objections ≠ []) (hu : (i : Int) ∉ report.unknown)
    (hs : (i : Int) ∉ report.succeeded) (ha : about report i = [⟨some i, .invalidAction op objections⟩])
    (hn : notes = objections.map Objection.message) (h : spared)
  | passed (hu : (i : Int) ∉ report.unknown) (ha : ∀ d ∈ about report i, d.code ∉ objectionCodes) (hn : notes = [])

theorem noted_tally (hw : batch.warnings = warnings batch.actions) {endings : Endings}
    (he : ∀ i (hi : i < batch.actions.length), endings[i]? =
      some ((perform options batch.actions[i] (hostAt options batch.actions h i)).1,
        (perform options batch.actions[i] (hostAt options batch.actions h i)).2.1))
    {i : Nat} (hi : i < batch.actions.length) : Noted (tally endings) (batch.noted i) i
      ((perform options batch.actions[i] (hostAt options batch.actions h i)).2.2 = hostAt options batch.actions h i) := by
  have hnoted : batch.noted i = batch.actions[i].objections.map Objection.message := by
    rw [noted_warnings hw, List.getElem?_eq_getElem hi]
    rfl
  have habout : about (tally endings) i =
      (perform options batch.actions[i] (hostAt options batch.actions h i)).2.1.map (Diagnostic.mk (some (i : Int))) := by
    rw [about_tally, he i hi]
    rfl
  have hcounted (tag : Tag) := mem_counted_iff he tag hi
  obtain ⟨ho, hp⟩ | ⟨ho, hp⟩ | ⟨ho, ht, hc⟩ := perform_checked options batch.actions[i] (hostAt options batch.actions h i)
  · simp only [hp] at habout hcounted ⊢
    refine .unknown _ ((hcounted .unknown).2 rfl) (fun hs => ?_) habout (by rw [hnoted, ho]; rfl) trivial
    cases (hcounted .succeeded).1 hs
  · simp only [hp] at habout hcounted ⊢
    refine .invalid _ _ ho (fun hu => ?_) (fun hs => ?_) habout hnoted trivial
    · cases (hcounted .unknown).1 hu
    · cases (hcounted .succeeded).1 hs
  · refine .passed (fun hu => ht ((hcounted .unknown).1 hu)) (fun d hd => ?_) (by rw [hnoted, ho]; rfl)
    rw [habout] at hd
    obtain ⟨e, he, rfl⟩ := List.mem_map.1 hd
    exact hc e he

theorem foretold_tally (hw : batch.warnings = warnings batch.actions) {endings : Endings}
    (hl : endings.length = batch.actions.length)
    (he : ∀ i (hi : i < batch.actions.length), endings[i]? =
      some ((perform options batch.actions[i] (hostAt options batch.actions h i)).1,
        (perform options batch.actions[i] (hostAt options batch.actions h i)).2.1)) :
    Foretold options batch h (tally endings) := by
  have hnoted (i : Nat) : ∃ spared, Noted (tally endings) (batch.noted i) i spared := by
    by_cases hi : i < batch.actions.length
    · exact ⟨_, noted_tally hw he hi⟩
    · obtain ⟨ha, hc⟩ := tally_beyond (by omega : endings.length ≤ i)
      refine ⟨True, .passed (hc .unknown) (by simp [ha]) ?_⟩
      rw [noted_warnings hw, List.getElem?_eq_none (by omega)]
      rfl
  refine ⟨fun i hu => ?_, fun i d hd hc => ?_, fun i hu hd => ?_, fun i hi hn => ?_, fun i hn => ?_⟩
  · obtain ⟨_, ⟨op, -, -, ha, hn, -⟩ | ⟨_, _, -, hu', -⟩ | ⟨hu', -⟩⟩ := hnoted i
    · exact ⟨_, ha, rfl, hn⟩
    · exact absurd hu hu'
    · exact absurd hu hu'
  · obtain ⟨_, ⟨op, -, -, ha, -⟩ | ⟨op, objections, -, -, -, ha, hn, -⟩ | ⟨-, ha, -⟩⟩ := hnoted i
    · rw [ha, List.mem_singleton] at hd
      subst hd
      simp [Diagnostic.code, Event.code] at hc
    · rw [ha, List.mem_singleton] at hd
      subst hd
      exact ⟨ha, by simp [Event.details, hn, List.lookup_cons]⟩
    · exact absurd (by simp [hc, objectionCodes]) (ha d hd)
  · obtain ⟨_, ⟨_, hu', -⟩ | ⟨op, objections, -, -, -, ha, -⟩ | ⟨-, -, hn⟩⟩ := hnoted i
    · exact absurd hu' hu
    · exact absurd rfl (hd ⟨some i, .invalidAction op objections⟩ (by simp [ha]))
    · exact hn
  · obtain ⟨_, -, hs, -, -, h⟩ | ⟨_, _, -, -, hs, -, -, h⟩ | ⟨-, -, hn'⟩ := noted_tally hw he hi
    · exact ⟨hs, h⟩
    · exact ⟨hs, h⟩
    · exact absurd hn' hn
  · obtain ⟨_, ⟨_, -, -, -, hn', -⟩ | ⟨_, objections, ho, -, -, -, hn', -⟩ | ⟨hu, ha, -⟩⟩ := hnoted i
    · rw [hn] at hn'
      cases hn'
    · rw [hn] at hn'
      exact absurd (List.map_eq_nil_iff.1 hn'.symm) ho
    · exact ⟨hu, ha⟩

/-- What is noted about the actions of a batch when it is compiled is what they are refused for when it is carried out,
whatever the document. -/
theorem warnings_foretell {limit : Int} {transcript : Json} {m : Model}
    (hb : ((compile limit transcript).run m).1 = .ok batch) (options : ExecutionOptions) (h : Host) (hq : Quiet h) :
    ∃ report h', (execute options batch.actions).run h = (.ok report, h') ∧ Foretold options batch h report := by
  obtain ⟨endings, h₁, hr, hq₁, hl, he⟩ := runActions_quiet options batch.actions hq
  obtain ⟨h₂, hx⟩ := execute_quiet options batch.actions hr hq₁
  exact ⟨_, h₂, hx, foretold_tally (warnings_of_compile hb) hl he⟩

/-- Of two actions that are noted and a circle, only the circle is drawn. -/
theorem warnings_foretell_of_reply :
    let m : Model := { source := .script [.ok
      "\x7b\"actions\":[\x7b\"op\":\"set_opacity\",\"target\":true\x7d,\x7b\"op\":\"fly\"\x7d,\x7b\"op\":\"create_circle\"\x7d]\x7d"] }
    ∃ batch report h', ((compile 1000 (.str "draw")).run m).1 = .ok batch ∧ Quiet {} ∧
      batch.warnings = ["action 0: 'target' must be a string", "action 0: set_opacity requires 'opacity'",
        "action 1: Unknown action: fly"] ∧
      (execute {} batch.actions).run {} = (.ok report, h') ∧ Foretold {} batch {} report := by
  intro m
  have hw : ((compile 1000 (.str "draw")).run m).1.toOption.map (·.warnings) =
      some ["action 0: 'target' must be a string", "action 0: set_opacity requires 'opacity'",
        "action 1: Unknown action: fly"] := by decide +kernel
  rcases hb : ((compile 1000 (.str "draw")).run m).1 with e | batch <;> rw [hb] at hw
  · cases hw
  · have hq : Quiet {} := fun _ => rfl
    obtain ⟨report, h', hx, hf⟩ := warnings_foretell hb {} {} hq
    exact ⟨batch, report, h', rfl, hq, Option.some.inj hw, hx, hf⟩

end Execution
end Easel
