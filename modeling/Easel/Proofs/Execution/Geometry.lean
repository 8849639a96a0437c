import Easel.Proofs.Execution.Safety
import Easel.Proofs.Number

/-!
What sides and opacities layers can have. The check compares numbers with the bounds they have to keep, and a NaN is neither
below nor above a bound; so a layer is in range unless a NaN was given to it.
-/

namespace Easel

/-- Opacity is a share, and no side is below zero. -/
structure Look.InRange (l : Look) : Prop where
  opacity : 0 ≤ l.opacity ∧ l.opacity ≤ 1
  sides : ∀ s, l.size = some s → 0 ≤ s.width ∧ 0 ≤ s.height

/-- The numbers that become sides of layers, and opacities. -/
def Op.sides (op : Op) : List String := op.spec.nonNegative

def Op.opacities : Op → List String
  | .setOpacity => ["opacity"]
  | _ => []

namespace Execution

open Document

variable {options : ExecutionOptions} {a : Action} {op : Op} {h : Host} {actions : List Action} {name : String}
  {n side : Number}

/-- An action that passes the check has a NaN under one of the names. -/
def GivesNaN (names : Op → List String) (actions : List Action) : Prop :=
  ∃ a ∈ actions, ∃ op, opOf? a = some op ∧ ∃ name ∈ names op, ∃ n, a.args.value name = .num n ∧ n.IsNaN

/-- The number is in range, or it is a NaN that one of the actions gave. -/
def Sides (actions : List Action) (n : Number) : Prop :=
  0 ≤ n ∨ n.IsNaN ∧ GivesNaN Op.sides actions

def Opacity (actions : List Action) (n : Number) : Prop :=
  0 ≤ n ∧ n ≤ 1 ∨ n.IsNaN ∧ GivesNaN Op.opacities actions

/-! ### Arguments -/

theorem side_of_number? (ha : opOf? a = some op) (hmem : a ∈ actions) (hname : name ∈ op.sides)
    (hn : (taskOf options a).number? name = some n) : Sides actions n := by
  have hv : a.args.value name = .num n := value_of_number? hn
  -- The check asks for no more than this, and it holds of a NaN as well.
  have hs : ¬n < 0 := by
    have hs := (passes_of_opOf? ha).signs name hname
    rw [Validation.checkSign, hv] at hs
    intro hlt
    simp [hlt] at hs
  by_cases hnan : n.IsNaN
  · exact .inr ⟨hnan, a, hmem, op, ha, name, hname, n, hv, hnan⟩
  · exact .inl (Number.le_of_not_lt hnan (by simp [Number.IsNaN, Number.value?_zero]) hs)

theorem side_of_number (ha : opOf? a = some op) (hmem : a ∈ actions) (hname : name ∈ op.sides) (hside : 0 ≤ side) :
    Sides actions ((taskOf options a).number name side) := by
  unfold Task.number
  cases hn : (taskOf options a).number? name with
  | none => exact .inl hside
  | some n => exact side_of_number? ha hmem hname hn

theorem Sides.double (hn : Sides actions n) : Sides actions (n * 2) :=
  hn.imp Number.zero_le_double fun ⟨hnan, hgiven⟩ => ⟨Number.isNaN_double hnan, hgiven⟩

theorem opacity_of_number? (ha : opOf? a = some .setOpacity) (hmem : a ∈ actions)
    (hn : (taskOf options a).number? "opacity" = some n) : Opacity actions n := by
  have hv : a.args.value "opacity" = .num n := value_of_number? hn
  obtain hnull | ⟨n', hn', hmin, hmax⟩ :=
    Validation.number_of_checkField rfl ((passes_of_opOf? ha).fields _ List.mem_cons_self)
  · rw [hv] at hnull
    cases hnull
  obtain rfl : n = n' := by simpa [hv] using hn'
  by_cases hnan : n.IsNaN
  · exact .inr ⟨hnan, a, hmem, .setOpacity, ha, "opacity", List.mem_cons_self, n, hv, hnan⟩
  · have hzero := Number.le_of_not_lt hnan (by simp [Number.IsNaN, Number.value?_float_zero, Number.value?_zero]) (hmin _ rfl)
    have hone := Number.le_of_not_lt (by simp [Number.IsNaN, Number.value?_float_one, Number.value?_one]) hnan (hmax _ rfl)
    exact .inl ⟨Number.float_zero_le_iff.1 hzero, Number.le_float_one_iff.1 hone⟩

/-! ### Looks -/

/-- A look is in range as far as no action gave it a NaN. -/
structure Bounded (actions : List Action) (l : Look) : Prop where
  bare : Bare l
  opacity : Opacity actions l.opacity
  sides : ∀ s, l.size = some s → Sides actions s.width ∧ Sides actions s.height

theorem bounded_initial (k : Kind) : Bounded actions (Look.initial k) where
  bare := by cases k <;> rfl
  opacity := .inl (by cases k <;> decide +kernel)
  sides := by
    have hplain : Sides actions (.float 100.0) := .inl (by decide +kernel)
    have hflat : Sides actions (.float 0.0) := .inl (by decide +kernel)
    intro s hs
    cases k with
    | group => cases hs
    | line => cases hs; exact ⟨hplain, hflat⟩
    | rectangle | ellipse | polygon | star | text | frame => cases hs; exact ⟨hplain, hplain⟩

theorem Bounded.of_eq {l l' : Look} (hl : Bounded actions l) (hb : Bare l') (ho : l'.opacity = l.opacity)
    (hs : l'.size = l.size) : Bounded actions l' where
  bare := hb
  opacity := ho ▸ hl.opacity
  sides s := hs ▸ hl.sides s

theorem Bounded.resizeTo {l : Look} (hl : Bounded actions l) {width height : Option Number}
    (hb : Bare (l.resizeTo width height)) (hw : ∀ n, width = some n → Sides actions n)
    (hh : ∀ n, height = some n → Sides actions n) : Bounded actions (l.resizeTo width height) where
  bare := hb
  opacity := hl.opacity
  sides s hs := by
    obtain ⟨old, ho, rfl⟩ := Option.map_eq_some_iff.1 hs
    obtain ⟨hwidth, hheight⟩ := hl.sides old ho
    refine ⟨?_, ?_⟩
    · cases width with
      | none => exact hwidth
      | some n => exact hw n rfl
    · cases height with
      | none => exact hheight
      | some n => exact hh n rfl

theorem suits_bounded (ha : opOf? a = some op) (hmem : a ∈ actions) : Suits (taskOf options a) op (Bounded actions) where
  initial := bounded_initial
  change f hf l hl := by
    have hb : Bare (f l) := (suits_bare _ op).change f hf l hl.bare
    cases hf with
    | rename | place | moveTo | turn | fill | outline | weight | corner | caption => exact hl.of_eq hb rfl rfl
    | fade =>
      refine ⟨hb, ?_, hl.sides⟩
      show Opacity actions (Option.getD _ _)
      cases hn : (taskOf options a).number? "opacity" with
      | none => exact hl.opacity
      | some n => exact opacity_of_number? ha hmem hn
    | box _ side hop hs =>
      have hside : 0 ≤ side := by rcases hs with rfl | rfl <;> decide
      have hnames : op.sides = ["width", "height"] := hop.2
      refine hl.resizeTo hb (fun n hn => ?_) fun n hn => ?_
      · cases hn
        exact side_of_number ha hmem (by simp [hnames]) hside
      · cases hn
        exact side_of_number ha hmem (by simp [hnames]) hside
    | circle =>
      have hdiameter : Sides actions ((taskOf options a).number "radius" defaultRadius * 2) :=
        .double (side_of_number ha hmem (by decide) (by decide))
      exact hl.resizeTo hb (fun n hn => by cases hn; exact hdiameter) fun n hn => by cases hn; exact hdiameter
    | line =>
      refine hl.resizeTo hb (fun n hn => ?_) fun n hn => ?_
      · cases hn
        exact side_of_number ha hmem (by decide) (by decide)
      · cases hn
        exact .inl (by decide)
    | resizeTo =>
      exact hl.resizeTo hb (fun n hn => side_of_number? ha hmem (by decide) hn) fun n hn =>
        side_of_number? ha hmem (by decide) hn

theorem Sides.zero_le_iff (hn : Sides actions n) : 0 ≤ n ↔ ¬n.IsNaN := by
  refine ⟨fun h => (Number.not_isNaN_of_le h).2, fun h => hn.resolve_right fun hr => h hr.1⟩

theorem Bounded.inRange_iff {l : Look} (hl : Bounded actions l) :
    l.InRange ↔ ¬l.opacity.IsNaN ∧ ∀ s, l.size = some s → ¬s.width.IsNaN ∧ ¬s.height.IsNaN := by
  constructor
  · rintro ⟨ho, hs⟩
    exact ⟨(Number.not_isNaN_of_le ho.1).2, fun s h => ⟨(Number.not_isNaN_of_le (hs s h).1).2,
      (Number.not_isNaN_of_le (hs s h).2).2⟩⟩
  · rintro ⟨ho, hs⟩
    refine ⟨hl.opacity.resolve_right fun h => ho h.1, fun s h => ?_⟩
    obtain ⟨hw, hh⟩ := hl.sides s h
    exact ⟨hw.zero_le_iff.2 (hs s h).1, hh.zero_le_iff.2 (hs s h).2⟩

/-- A look is in range exactly if none of its numbers is a NaN, and a NaN is one that an action gave. -/
structure Ranged (actions : List Action) (l : Look) : Prop where
  bare : Bare l
  inRange_iff : l.InRange ↔ ¬l.opacity.IsNaN ∧ ∀ s, l.size = some s → ¬s.width.IsNaN ∧ ¬s.height.IsNaN
  opacity : l.opacity.IsNaN → GivesNaN Op.opacities actions
  sides : ∀ s, l.size = some s → s.width.IsNaN ∨ s.height.IsNaN → GivesNaN Op.sides actions

theorem Bounded.ranged {l : Look} (hl : Bounded actions l) : Ranged actions l where
  bare := hl.bare
  inRange_iff := hl.inRange_iff
  opacity hnan := (hl.opacity.resolve_left fun h => (Number.not_isNaN_of_le h.1).2 hnan).2
  sides s hs hnan := by
    have hgiven {n : Number} (hn : Sides actions n) (hnan : n.IsNaN) : GivesNaN Op.sides actions :=
      (hn.resolve_left fun h => (Number.not_isNaN_of_le h).2 hnan).2
    obtain ⟨hw, hh⟩ := hl.sides s hs
    exact hnan.elim (hgiven hw) (hgiven hh)

/-- However many batches were carried out on a host that began blank, and whatever calls failed, all layers are in range if no
action gave a NaN; and a layer is out of range for a NaN that an action gave it, and for nothing else. -/
theorem in_range_unless_nan (hb : Blank h) (batches : Batches) :
    (¬GivesNaN Op.opacities batches.actions → ¬GivesNaN Op.sides batches.actions →
        ∀ l ∈ (afterBatches batches h).document.looks, l.InRange) ∧
      ∀ l ∈ (afterBatches batches h).document.looks, Ranged batches.actions l := by
  have hr : Reaches (fun _ a => a ∈ batches.actions) h (afterBatches batches h) :=
    afterBatches_reaches (fun _ _ ha => ha) h
  have hdrawn : (afterBatches batches h).document.Drawn (Bounded batches.actions) := by
    refine hr.drawn_of (fun _ options a op hmem ha => suits_bounded ha hmem) ?_
    obtain ⟨pageName, fontsFail, hdoc⟩ := hb
    rw [hdoc]
    exact fun l hl => by cases hl
  refine ⟨fun ho hs l hl => ?_, fun l hl => (hdrawn l hl).ranged⟩
  have hl := (hdrawn l hl).ranged
  exact hl.inRange_iff.2 ⟨fun hnan => ho (hl.opacity hnan), fun s h => ⟨fun hnan => hs (hl.sides s h (.inl hnan)),
    fun hnan => hs (hl.sides s h (.inr hnan))⟩⟩

/-- A circle whose radius is a NaN passes the check, and so does a NaN for its opacity. -/
theorem out_of_range_by_nan :
    let nan : Json := .num (.float Binary64.nan)
    let batches : Batches := [({}, [.inr ⟨"create_circle", [("radius", nan)], .null⟩]),
      ({}, [.inr ⟨"set_opacity", [("opacity", nan)], .str "1:1"⟩])]
    Blank {} ∧ (∀ l ∈ (afterBatches batches {}).document.looks, Ranged batches.actions l) ∧
      ∃ l ∈ (afterBatches batches {}).document.looks, l.opacity.IsNaN ∧
        (∃ s, l.size = some s ∧ s.width.IsNaN ∧ s.height.IsNaN) ∧ ¬l.InRange := by
  intro nan batches
  have hb : Blank {} := ⟨"Page 1", false, rfl⟩
  have hranged := (in_range_unless_nan hb batches).2
  have hdrawn : ((afterBatches batches {}).document.looks.any fun l =>
      decide l.opacity.IsNaN && l.size.any fun s => decide s.width.IsNaN && decide s.height.IsNaN) = true := by decide +kernel
  obtain ⟨l, hmem, hl⟩ := List.any_eq_true.1 hdrawn
  obtain ⟨ho, s, hs, hw, hh⟩ : l.opacity.IsNaN ∧ ∃ s, l.size = some s ∧ s.width.IsNaN ∧ s.height.IsNaN := by
    simpa [Option.any_eq_true] using hl
  exact ⟨hb, hranged, l, hmem, ho, ⟨s, hs, hw, hh⟩, fun hin => ((hranged l hmem).inRange_iff.1 hin).1 ho⟩

end Execution
end Easel
