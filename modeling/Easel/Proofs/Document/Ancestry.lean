import Easel.Proofs.Document.Edits
import Mathlib.Data.List.NodupEquivFin
import Mathlib.Data.Fintype.Card

/-!
Where layers hang: the way up from a layer, what is under what, and the walks down. A document whose children and parents agree
is a tree under the page, whatever else hangs together off the page, and a walk from any layer that hangs nowhere ends.
-/

namespace Easel.Document

variable {d d' : Document} {n m a b c : Node} {id x : Nat} {j k : Nat}

/-- What a node hangs on. -/
def up (d : Document) : Node → Option Node
  | .page => none
  | .layer id => d.parentOf id

def climb (d : Document) : Nat → Node → Option Node
  | 0, n => some n
  | k + 1, n => (d.up n).bind (d.climb k)

theorem climb_add : d.climb (j + k) n = (d.climb j n).bind (d.climb k) := by
  induction j generalizing n with
  | zero => rw [Nat.zero_add]; rfl
  | succ j ih =>
    rw [Nat.succ_add, climb, climb]
    cases d.up n with
    | none => rfl
    | some m => exact ih

theorem climb_succ (h : d.climb k n = some m) : d.climb (k + 1) n = d.up m := by
  rw [climb_add, h]
  show (d.up m).bind some = _
  cases d.up m <;> rfl

theorem climb_page (h : d.climb k .page = some n) : k = 0 ∧ n = .page := by
  cases k with
  | zero => cases h; exact ⟨rfl, rfl⟩
  | succ k => cases h

/-- At `a`, or hung on something under it. -/
def Under (d : Document) (n a : Node) : Prop := ∃ k, d.climb k n = some a

/-- A layer that is found from the page. -/
def OnPage (d : Document) (id : LayerId) : Prop := d.Under (.layer id) .page

namespace Under

theorem refl : d.Under n n := ⟨0, rfl⟩

theorem step (h : d.up n = some m) : d.Under m a → d.Under n a := by
  rintro ⟨k, hk⟩
  exact ⟨k + 1, by rw [climb, h]; exact hk⟩

theorem trans (h : d.Under n m) (h' : d.Under m a) : d.Under n a := by
  obtain ⟨j, hj⟩ := h
  obtain ⟨k, hk⟩ := h'
  exact ⟨j + k, by rw [climb_add, hj]; exact hk⟩

theorem eq_or_up (h : d.Under n a) : n = a ∨ ∃ m, d.up n = some m ∧ d.Under m a := by
  obtain ⟨k, hk⟩ := h
  cases k with
  | zero => cases hk; exact .inl rfl
  | succ k =>
    rw [climb] at hk
    obtain ⟨m, hm, hk⟩ := Option.bind_eq_some_iff.1 hk
    exact .inr ⟨m, hm, k, hk⟩

/-- Facts about all that is under `a`, proved from `a` downwards. -/
theorem induction {motive : Node → Prop} (h : d.Under n a) (here : motive a)
    (below : ∀ n m, d.up n = some m → d.Under m a → motive m → motive n) : motive n := by
  obtain ⟨k, hk⟩ := h
  induction k generalizing n with
  | zero => cases hk; exact here
  | succ k ih =>
    rw [climb] at hk
    obtain ⟨m, hm, hk⟩ := Option.bind_eq_some_iff.1 hk
    exact below n m hm ⟨k, hk⟩ (ih hk)

/-- There is one way up. -/
theorem total (h : d.Under n a) (h' : d.Under n b) : d.Under a b ∨ d.Under b a := by
  obtain ⟨j, hj⟩ := h
  obtain ⟨k, hk⟩ := h'
  rcases Nat.le_total j k with hle | hle
  · obtain ⟨i, rfl⟩ := Nat.exists_eq_add_of_le hle
    rw [climb_add, hj] at hk
    exact .inl ⟨i, hk⟩
  · obtain ⟨i, rfl⟩ := Nat.exists_eq_add_of_le hle
    rw [climb_add, hk] at hj
    exact .inr ⟨i, hj⟩

theorem page (h : d.Under .page a) : a = .page := by
  obtain ⟨k, hk⟩ := h
  exact (climb_page hk).2

/-- Whatever is above a node that is on the page is on the page, too. -/
theorem onPage (h : d.Under n (.layer id)) (hp : d.Under n .page) : d.OnPage id :=
  (total h hp).resolve_right fun hn => by cases hn.page

end Under

/-- Nothing hangs, by whatever way, on itself. -/
def Acyclic (d : Document) (n : Node) : Prop := ∀ k, d.climb (k + 1) n ≠ some n

theorem acyclic_of_up_eq_none (h : d.up n = none) : d.Acyclic n := by
  intro k hk
  rw [climb, h] at hk
  cases hk

/-- A way up to the page meets no layer twice, for it would never leave the round. -/
theorem acyclic_of_under_page (h : d.Under n .page) : d.Acyclic n := by
  obtain ⟨k, hk⟩ := h
  intro j hj
  have hround : d.climb (j + 1 + k) n = some .page := by rw [climb_add, hj]; exact hk
  rw [Nat.add_comm, climb_add, hk] at hround
  exact absurd (climb_page hround).1 (Nat.succ_ne_zero j)

theorem climb_unique (ha : d.Acyclic a) (hj : d.climb j n = some a) (hk : d.climb k n = some a) : j = k := by
  rcases Nat.lt_trichotomy j k with h | h | h
  · obtain ⟨i, rfl⟩ := Nat.exists_eq_add_of_lt h
    rw [Nat.add_assoc, climb_add, hj] at hk
    exact absurd hk (ha i)
  · exact h
  · obtain ⟨i, rfl⟩ := Nat.exists_eq_add_of_lt h
    rw [Nat.add_assoc, climb_add, hk] at hj
    exact absurd hj (ha i)

end Easel.Document
