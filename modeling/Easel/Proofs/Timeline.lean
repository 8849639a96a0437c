import Mathlib.Data.List.Basic
import Mathlib.Order.Basic

/-!
What happened at which time, the last thing first.
-/

namespace Easel

abbrev Timeline (τ κ : Type) := List (τ × κ)

namespace Timeline

variable {τ κ : Type} [Preorder τ] {now later : τ} {e : κ} {past past' : Timeline τ κ}

/-- The clock never goes back, and it is `now`. -/
def Timely (past : Timeline τ κ) (now : τ) : Prop := (now :: past.map (·.1)).Pairwise (· ≥ ·)

theorem Timely.le (h : Timely ((now, e) :: past) later) : now ≤ later :=
  (List.pairwise_cons.mp h).1 now List.mem_cons_self

theorem Timely.before (h : Timely ((now, e) :: past) later) : past.Timely now :=
  (List.pairwise_cons.mp h).2

theorem Timely.sublist (h : past.Timely later) (hs : past'.Sublist past) : past'.Timely later :=
  List.Pairwise.sublist ((hs.map _).cons_cons _) h

theorem Timely.descending (h : past.Timely later) : (past.map (·.1)).Pairwise (· ≥ ·) :=
  (List.pairwise_cons.mp h).2

end Timeline

end Easel
