/-!
Values kept under keys, in the order in which the keys first came.
-/

namespace Easel

abbrev Keyed (α : Type) := List (String × α)

namespace Keyed

/-- A key that is already there keeps its place. -/
def put (entries : Keyed α) (key : String) (v : α) : Keyed α :=
  match entries with
  | [] => [(key, v)]
  | (k, w) :: rest => if k = key then (k, v) :: rest else (k, w) :: put rest key v

def erase (entries : Keyed α) (key : String) : Keyed α :=
  entries.filter (·.1 ≠ key)

theorem lookup_put (entries : Keyed α) (key : String) (v : α) (k : String) :
    (put entries key v).lookup k = if k = key then some v else entries.lookup k := by
  induction entries with
  | nil => by_cases h : k = key <;> simp [put, h, List.lookup_cons, beq_false_of_ne]
  | cons e rest ih =>
    obtain ⟨j, w⟩ := e
    by_cases hj : j = key
    · by_cases hk : k = key <;> simp_all [put, List.lookup_cons, beq_false_of_ne]
    · by_cases hk : k = j
      · subst hk; simp [put, hj]
      · simp [put, hj, List.lookup_cons, beq_false_of_ne hk, ih]

theorem lookup_erase (entries : Keyed α) (key k : String) :
    (erase entries key).lookup k = if k = key then none else entries.lookup k := by
  induction entries with
  | nil => simp [erase]
  | cons e rest ih =>
    obtain ⟨j, w⟩ := e
    rw [erase] at ih ⊢
    rw [List.filter_cons]
    by_cases hj : j = key
    · rw [if_neg (by simp [hj]), ih]
      by_cases hk : k = key
      · simp [hk]
      · simp [hk, hj, List.lookup_cons, beq_false_of_ne]
    · rw [if_pos (by simp [hj]), List.lookup_cons, List.lookup_cons, ih]
      by_cases hk : k = j
      · simp [hk, hj]
      · simp [beq_false_of_ne hk]

/-- No key stands for two values. -/
def Distinct (entries : Keyed α) : Prop := (entries.map (·.1)).Nodup

theorem Distinct.nil : Distinct ([] : Keyed α) := List.nodup_nil

theorem mem_keys_put (entries : Keyed α) (key : String) (v : α) (k : String) :
    k ∈ (put entries key v).map (·.1) ↔ k = key ∨ k ∈ entries.map (·.1) := by
  induction entries with
  | nil => simp [put]
  | cons e rest ih =>
    obtain ⟨j, w⟩ := e
    by_cases hj : j = key
    · simp [put, hj]
    · rw [put, if_neg hj, List.map_cons, List.mem_cons, ih, List.map_cons, List.mem_cons]
      exact or_left_comm

theorem Distinct.put {entries : Keyed α} (h : entries.Distinct) (key : String) (v : α) : (entries.put key v).Distinct := by
  induction entries with
  | nil => simp [Distinct, Keyed.put]
  | cons e rest ih =>
    obtain ⟨j, w⟩ := e
    have hr := List.nodup_cons.mp h
    by_cases hj : j = key
    · simpa [Distinct, Keyed.put, hj] using h
    · have hp := ih hr.2
      rw [Keyed.put, if_neg hj]
      refine List.nodup_cons.mpr ⟨fun hm => ?_, hp⟩
      rcases (mem_keys_put rest key v j).mp hm with he | hm
      · exact hj he
      · exact hr.1 hm

theorem Distinct.filter {entries : Keyed α} (h : entries.Distinct) (keep : String × α → Bool) :
    Distinct (entries.filter keep) :=
  h.sublist (List.filter_sublist.map _)

theorem lookup_eq_some_iff {entries : Keyed α} (h : entries.Distinct) {key : String} {v : α} :
    entries.lookup key = some v ↔ (key, v) ∈ entries := by
  induction entries with
  | nil => simp
  | cons e rest ih =>
    obtain ⟨j, w⟩ := e
    have hr := List.nodup_cons.mp h
    by_cases hk : key = j
    · subst hk
      have hno : (key, v) ∉ rest := fun hm => hr.1 (List.mem_map.mpr ⟨_, hm, rfl⟩)
      simp [hno, eq_comm]
    · rw [List.lookup_cons, beq_false_of_ne hk, ih hr.2]
      simp [hk]

theorem lookup_filter {entries : Keyed α} (h : entries.Distinct) (keep : α → Bool) (key : String) :
    (entries.filter fun e => keep e.2).lookup key = (entries.lookup key).filter keep := by
  apply Option.ext
  intro v
  rw [lookup_eq_some_iff (h.filter _), Option.filter_eq_some_iff, lookup_eq_some_iff h, List.mem_filter]

theorem lookup_map (entries : Keyed α) (f : α → β) (key : String) :
    List.lookup key (entries.map fun (k, v) => (k, f v)) = (entries.lookup key).map f := by
  induction entries with
  | nil => rfl
  | cons e rest ih =>
    obtain ⟨j, w⟩ := e
    by_cases hk : key = j
    · simp [hk]
    · simp [List.lookup_cons, beq_false_of_ne hk, ih]

end Keyed

end Easel
