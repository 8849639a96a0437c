import Easel.Validation
import Mathlib.Tactic.Common

/-!
What is known of an action that passes the check: its target is a text if there is one, nothing required is missing, and every
declared field that is not null has a value of its type within the limits.
-/

namespace Easel

namespace Validation

variable {op : Op} {args : Fields} {target : Json} {f : FieldSpec} {v : Json} {name : String}

/-- Nothing is objected to. -/
structure Passes (op : Op) (args : Fields) (target : Json) : Prop where
  target : target.isNull = true ∨ target.isString = true
  required : ∀ name ∈ op.spec.required, (args.value name).isNull = false
  fields : ∀ f ∈ op.spec.fields, checkField f (args.value f.name) = []
  signs : ∀ name ∈ op.spec.nonNegative, checkSign args name = []

theorem check_eq_nil_iff {name : String} (hop : Op.ofName? name = some op) :
    check (.str name) (.obj args) target = [] ↔ Passes op args target := by
  have hknown : opOf? (.str name) = some op := hop
  have htarget : check.checkTarget target = [] ↔ target.isNull = true ∨ target.isString = true := by
    rw [check.checkTarget, ← Bool.or_eq_true]
    split <;> simp_all
  have hrequired : (op.spec.required.flatMap fun name =>
      if (args.value name).isNull then [Objection.missing op.spec.name name] else []) = [] ↔
        ∀ name ∈ op.spec.required, (args.value name).isNull = false := by
    rw [List.flatMap_eq_nil_iff]
    refine forall₂_congr fun name _ => ?_
    cases (args.value name).isNull <;> simp
  simp only [check, hknown, checkArgs, List.append_eq_nil_iff, htarget, hrequired, List.flatMap_eq_nil_iff]
  exact ⟨fun ⟨ht, ⟨hr, hf⟩, hn⟩ => ⟨ht, hr, hf, hn⟩, fun h => ⟨h.target, ⟨h.required, h.fields⟩, h.signs⟩⟩

theorem text_of_checkField (ht : f.type = .string) (h : checkField f v = []) : v.isNull = true ∨ v.isString = true := by
  obtain ⟨name, type, minimum, maximum⟩ := f
  obtain rfl : type = .string := ht
  cases v <;> simp_all [checkField, Json.isNull, Json.isString]

theorem number_of_checkField (ht : f.type.isNumeric = true) (h : checkField f v = []) :
    v.isNull = true ∨ ∃ n, v = .num n ∧ (∀ bound, f.minimum = some bound → ¬n < bound) ∧
      ∀ bound, f.maximum = some bound → ¬bound < n := by
  obtain ⟨name, type, minimum, maximum⟩ := f
  cases v with
  | null => exact .inl rfl
  | num n =>
    refine .inr ⟨n, rfl, ?_⟩
    cases type <;> cases minimum <;> cases maximum <;> simp_all [checkField, FieldType.isNumeric, Json.isNull]
  | bool | str | arr | obj => cases type <;> simp_all [checkField, FieldType.isNumeric, Json.isNull]

end Validation

namespace Action

variable {a : Action} {op : Op}

theorem objections_eq_nil_iff (hop : Op.ofName? a.op = some op) :
    a.objections = [] ↔ Validation.Passes op a.args a.target :=
  Validation.check_eq_nil_iff hop

end Action

end Easel
