/-!
Programs that change a state and may fail. A program leads from states with `P` to states with `Q` if it gives an answer, and
to states with `E` if it fails; what it has done before it fails counts. Two runs of a program go parallel if they give one answer
and keep their states related.
-/

namespace Easel

variable {ε σ α β : Type}

theorem run_bind_eq (m : ExceptT ε (StateM σ) α) (k : α → ExceptT ε (StateM σ) β) (s : σ) :
    (m >>= k).run s =
      match m.run s with
      | (.ok a, s') => (k a).run s'
      | (.error e, s') => (.error e, s') := by
  rw [ExceptT.run_bind]
  rcases h : m.run s with ⟨e | a, s'⟩
  · simp only [bind, StateT.bind, h]
    rfl
  · simp only [bind, StateT.bind, h]

theorem run_bind_ok {m : ExceptT ε (StateM σ) α} {k : α → ExceptT ε (StateM σ) β} {s s' : σ} {a : α}
    (h : m.run s = (.ok a, s')) : (m >>= k).run s = (k a).run s' := by
  rw [run_bind_eq, h]

def Leads (P : σ → Prop) (m : ExceptT ε (StateM σ) α) (Q : α → σ → Prop) (E : ε → σ → Prop) : Prop :=
  ∀ s, P s →
    match m.run s with
    | (.ok a, s') => Q a s'
    | (.error e, s') => E e s'

namespace Leads

variable {P P' : σ → Prop} {Q Q' : α → σ → Prop} {E E' : ε → σ → Prop} {m : ExceptT ε (StateM σ) α}

theorem pure {a : α} (h : ∀ s, P s → Q a s) : Leads P (Pure.pure a : ExceptT ε (StateM σ) α) Q E := h

theorem throw {e : ε} (h : ∀ s, P s → E e s) : Leads P (throw e : ExceptT ε (StateM σ) α) Q E := h

theorem bind {k : α → ExceptT ε (StateM σ) β} {R : β → σ → Prop} (hm : Leads P m Q E)
    (hk : ∀ a, Leads (Q a) (k a) R E) : Leads P (m >>= k) R E := by
  intro s hs
  have h := hm s hs
  rw [run_bind_eq]
  rcases hr : m.run s with ⟨e | a, s'⟩ <;> rw [hr] at h
  · exact h
  · exact hk a s' h

theorem mono (hm : Leads P' m Q' E') (hP : ∀ s, P s → P' s) (hQ : ∀ a s, Q' a s → Q a s)
    (hE : ∀ e s, E' e s → E e s) : Leads P m Q E := by
  intro s hs
  have h := hm s (hP s hs)
  rcases hr : m.run s with ⟨e | a, s'⟩ <;> rw [hr] at h
  · exact hE e s' h
  · exact hQ a s' h

/-- Two programs that begin alike and go on alike from wherever that leads are alike. -/
theorem bind_congr {k k' : α → ExceptT ε (StateM σ) β} (hm : Leads P m Q E) (hk : ∀ a s, Q a s → (k a).run s = (k' a).run s)
    {s : σ} (hs : P s) : (m >>= k).run s = (m >>= k').run s := by
  have h := hm s hs
  rw [run_bind_eq, run_bind_eq]
  rcases hr : m.run s with ⟨e | a, s'⟩
  · rfl
  · rw [hr] at h
    exact hk a s' h

/-- The rule for loops: `I` says what holds after the first items. -/
theorem forM {f : β → ExceptT ε (StateM σ) PUnit} (I : List β → σ → Prop) :
    ∀ items, (∀ item rest, Leads (I (item :: rest)) (f item) (fun _ => I rest) E) →
      Leads (I items) (items.forM f) (fun _ => I []) E
  | [], _ => Leads.pure fun _ h => h
  | item :: rest, h => (h item rest).bind fun _ => Leads.forM I rest h

theorem mapM {f : β → ExceptT ε (StateM σ) α} (I : List α → σ → Prop)
    (h : ∀ done item, Leads (I done) (f item) (fun a => I (done ++ [a])) E) (items : List β) :
    Leads (I []) (items.mapM f) (fun as s => I as s ∧ as.length = items.length) E := by
  suffices hs : ∀ (items : List β) done,
      Leads (I done) (items.mapM f) (fun as s => I (done ++ as) s ∧ as.length = items.length) E by
    simpa using hs items []
  intro items
  induction items with
  | nil => exact fun done => Leads.pure fun s hs => by simpa using hs
  | cons item rest ih =>
    intro done
    rw [List.mapM_cons]
    refine (h done item).bind fun a => (ih (done ++ [a])).bind fun as => Leads.pure fun s hs => ?_
    simpa using hs

end Leads

variable {T : σ → σ → Prop}

/-- From states that go with each other the program gives one answer and comes to states that go with each other. -/
def Parallel (T : σ → σ → Prop) (m : ExceptT ε (StateM σ) α) : Prop :=
  ∀ s t, T s t → (m.run t).1 = (m.run s).1 ∧ T (m.run s).2 (m.run t).2

namespace Parallel

theorem pure (a : α) : Parallel T (Pure.pure a : ExceptT ε (StateM σ) α) := fun _ _ h => ⟨rfl, h⟩

theorem throw (e : ε) : Parallel T (throw e : ExceptT ε (StateM σ) α) := fun _ _ h => ⟨rfl, h⟩

theorem bind {m : ExceptT ε (StateM σ) α} {k : α → ExceptT ε (StateM σ) β} (hm : Parallel T m) (hk : ∀ a, Parallel T (k a)) :
    Parallel T (m >>= k) := by
  intro s t h
  obtain ⟨ha, h'⟩ := hm s t h
  rw [run_bind_eq, run_bind_eq]
  rcases hs : m.run s with ⟨e | a, s'⟩ <;> rcases ht : m.run t with ⟨e' | a', t'⟩ <;> rw [hs, ht] at ha h' <;> cases ha
  · exact ⟨rfl, h'⟩
  · exact hk a s' t' h'

theorem forM {f : β → ExceptT ε (StateM σ) PUnit} (h : ∀ b, Parallel T (f b)) : ∀ items : List β, Parallel T (items.forM f)
  | [] => .pure _
  | b :: rest => .bind (h b) fun _ => .forM h rest

theorem mapM {f : β → ExceptT ε (StateM σ) α} (h : ∀ b, Parallel T (f b)) : ∀ items : List β, Parallel T (items.mapM f)
  | [] => .pure _
  | b :: rest => by
    rw [List.mapM_cons]
    exact .bind (h b) fun _ => .bind (.mapM h rest) fun _ => .pure _

end Parallel
end Easel
