import Easel.Compiler
import Easel.Proofs.Reply.Blocks
import Easel.Proofs.Reply.Numerals

/-!
The replies that are lists of actions, and the lists. What the document of a reply is depends on whether the reply is one as it
stands; what it offers depends on the document alone, and all others are faults of form that come with the whole reply.
-/

namespace Easel.Reply

open Json

variable {raw : String} {v : Json} {vs : List Json} {fields : Fields} {found : List Fields} {n : Nat}

/-- The document of a reply: the reply itself, unless it is null or none at all, and what stands in its block otherwise. -/
def Holds (raw : String) (v : Json) : Prop :=
  (Json.read raw = .ok v ∧ v ≠ .null) ∨ ((∀ w, Json.read raw = .ok w → w = .null) ∧ Json.read (unfence raw) = .ok v)

/-- The forms a document with actions can have. -/
inductive Offers : Json → List Fields → Prop
  | list {fields : Fields} {found : List Fields} : fields.lookup "actions" = some (.arr (found.map .obj)) →
    Offers (.obj fields) found
  | single {fields : Fields} {name op : String} : fields.lookup "actions" = none → name = "op" ∨ name = "action" →
    fields.lookup name = some (.str op) → Offers (.obj fields) [fields]
  | wrapped {fields inner : Fields} : fields.lookup "actions" = none → (∀ op, fields.lookup "op" ≠ some (.str op)) →
    fields.lookup "action" = some (.obj inner) → Offers (.obj fields) [inner]

/-- Neither the reply nor the block that is read in its place is refused for a whole number of too many digits. -/
def WithinLimit (raw : String) : Prop :=
  ∀ n, Json.read raw ≠ .error (.tooLong n) ∧
    ((∀ w, Json.read raw = .ok w → w = .null) → Json.read (unfence raw) ≠ .error (.tooLong n))

/-! ### What a document offers -/

theorem objects_eq_ok_iff (index : Nat) : objects index vs = .ok found ↔ vs = found.map .obj := by
  refine ⟨fun h => ?_, fun h => h ▸ objects_map_obj index found⟩
  induction vs generalizing index found with
  | nil =>
    cases h
    rfl
  | cons v vs ih =>
    cases v with
    | obj fields =>
      obtain ⟨rest, hrest, h⟩ := ok_of_bind h
      cases h
      rw [ih _ hrest, List.map_cons]
    | _ => cases h

theorem isString_value_iff {name : String} : (Fields.value fields name).isString ↔ ∃ s, fields.lookup name = some (.str s) := by
  unfold Fields.value
  rcases fields.lookup name with _ | v
  · exact ⟨nofun, nofun⟩
  · cases v <;> simp [Json.isString]

/-- Only null can stand for a field that is not there. -/
theorem lookup_of_value {name : String} {inner : Fields} (h : Fields.value fields name = .obj inner) :
    fields.lookup name = some (.obj inner) := by
  unfold Fields.value at h
  cases hl : fields.lookup name with
  | none =>
    rw [hl] at h
    cases h
  | some v =>
    rw [hl] at h
    exact congrArg some h

theorem items_single {name op : String} (ha : fields.lookup "actions" = none) (hn : name = "op" ∨ name = "action")
    (hs : fields.lookup name = some (.str op)) : items (.obj fields) = .ok [.obj fields] := by
  have hname : (Fields.value fields name).isString := isString_value_iff.2 ⟨op, hs⟩
  have hop : (Fields.value fields "op").isString || (Fields.value fields "action").isString := by
    rcases hn with rfl | rfl <;> simp [hname]
  simp only [items, ha, hop, if_true]

theorem items_wrapped {inner : Fields} (ha : fields.lookup "actions" = none) (hop : ∀ op, fields.lookup "op" ≠ some (.str op))
    (hi : fields.lookup "action" = some (.obj inner)) : items (.obj fields) = .ok [.obj inner] := by
  have hvalue : Fields.value fields "action" = .obj inner := by rw [Fields.value, hi]; rfl
  have hno : ((Fields.value fields "op").isString || (Json.obj inner).isString) = false := by
    rw [Bool.or_eq_false_iff, Bool.eq_false_iff]
    refine ⟨fun h => ?_, rfl⟩
    obtain ⟨op, ho⟩ := isString_value_iff.1 h
    exact hop op ho
  simp only [items, ha, hvalue, hno, Bool.false_eq_true, if_false]

/-- The documents that offer actions, and what they offer. -/
theorem offered_iff : (items v).bind (objects 0) = .ok found ↔ Offers v found := by
  constructor
  · intro h
    obtain ⟨vs, hvs, hobjects⟩ := ok_of_bind h
    obtain rfl := (objects_eq_ok_iff 0).1 hobjects
    unfold items at hvs
    split at hvs
    · rename_i fields
      split at hvs
      · rename_i ha
        cases hvs
        exact .list ha
      · cases hvs
      · rename_i ha
        split at hvs
        · rename_i hop
          obtain ⟨inner, rfl, hinner⟩ := List.map_eq_singleton_iff.1 (Except.ok.inj hvs).symm
          cases hinner
          rcases Bool.or_eq_true_iff.1 hop with hop | hop
          · obtain ⟨op, hop⟩ := isString_value_iff.1 hop
            exact .single ha (.inl rfl) hop
          · obtain ⟨op, hop⟩ := isString_value_iff.1 hop
            exact .single ha (.inr rfl) hop
        · rename_i hop
          have hno (op : String) : fields.lookup "op" ≠ some (.str op) := fun h =>
            hop (Bool.or_eq_true_iff.2 (.inl (isString_value_iff.2 ⟨op, h⟩)))
          split at hvs
          · rename_i hi
            obtain ⟨inner', rfl, hinner⟩ := List.map_eq_singleton_iff.1 (Except.ok.inj hvs).symm
            cases hinner
            exact .wrapped ha hno (lookup_of_value hi)
          · cases hvs
    · cases hvs
  · rintro (ha | ⟨ha, hn, hs⟩ | ⟨ha, hop, hi⟩)
    · rw [items, ha]
      exact objects_map_obj 0 found
    · rw [items_single ha hn hs]
      rfl
    · rw [items_wrapped ha hop hi]
      rfl

/-! ### What a reply holds -/

theorem readFenced_eq_ok_iff_read : readFenced raw = .ok v ↔ Json.read (unfence raw) = .ok v := by
  unfold readFenced
  split <;> simp_all

theorem readFenced_eq_tooLong_iff : readFenced raw = .error (.numeralTooLong n) ↔ Json.read (unfence raw) = .error (.tooLong n) := by
  unfold readFenced
  split <;> simp_all

theorem read_eq_ok_iff_holds (h : WithinLimit raw) : read raw = .ok v ↔ Holds raw v := by
  unfold read Holds
  split
  · rename_i hr
    rw [readFenced_eq_ok_iff_read, hr]
    refine ⟨fun hv => .inr ⟨fun w hw => (Except.ok.inj hw).symm, hv⟩, ?_⟩
    rintro (⟨hv, hne⟩ | ⟨-, hv⟩)
    · exact absurd (Except.ok.inj hv).symm hne
    · exact hv
  · rename_i w hw hr
    rw [hr]
    refine ⟨fun hv => ?_, ?_⟩
    · cases hv
      exact .inl ⟨rfl, hw⟩
    · rintro (⟨hv, -⟩ | ⟨hnull, -⟩)
      · cases hv
        rfl
      · exact absurd (hnull w rfl) hw
  · rename_i n hr
    exact absurd hr (h n).1
  · rename_i e he hr
    rw [readFenced_eq_ok_iff_read, hr]
    exact ⟨fun hv => .inr ⟨nofun, hv⟩, fun hv => (hv.resolve_left fun hv => nomatch hv.1).2⟩

/-- Beyond the limit the reading ends with that, and only there. -/
theorem withinLimit_iff : WithinLimit raw ↔ ∀ n, actions raw ≠ .error (.numeralTooLong n) := by
  simp only [Ne, actions_eq_numeralTooLong]
  unfold WithinLimit read
  split
  · rename_i hr
    simp only [readFenced_eq_tooLong_iff, hr]
    exact ⟨fun h n => (h n).2 fun w hw => (Except.ok.inj hw).symm, fun h n => ⟨nofun, fun _ => h n⟩⟩
  · rename_i w hw hr
    rw [hr]
    exact ⟨fun _ _ => nofun, fun _ n => ⟨nofun, fun h => absurd (h w rfl) hw⟩⟩
  · rename_i m hr
    rw [hr]
    exact ⟨fun h => absurd rfl (h m).1, fun h => absurd rfl (h m)⟩
  · rename_i e he hr
    simp only [readFenced_eq_tooLong_iff, hr]
    exact ⟨fun h n => (h n).2 nofun, fun h n => ⟨fun hm => he n (Except.error.inj hm), fun _ => h n⟩⟩

/-- Taking a reply out of its block leaves one that is null as it is. -/
theorem read_of_null (h : Json.read raw = .ok .null) : Json.read (unfence raw) = .ok .null := by
  obtain ⟨before, c, after, hraw, hbefore, hafter, hc⟩ := readText_eq_ok_iff.1 (read_eq_ok_iff.1 h)
  obtain rfl : c = ['n', 'u', 'l', 'l'] := by
    cases hc with
    | word hw => simpa [words] using hw
  have htrim : Text.trim raw.toList = ['n', 'u', 'l', 'l'] := by
    rw [hraw]
    exact Text.trim_around (fun x hx => isBlank_of_isSpace (hbefore x hx)) (fun x hx => isBlank_of_isSpace (hafter x hx)) rfl
      (t := ['n', 'u', 'l']) rfl (by decide) (by decide)
  have hblock : unfence raw = "null" := by
    rw [unfence, unfenceChars, htrim]
    rfl
  rw [hblock]
  exact read_eq_ok_iff.2 (readText_eq_ok_iff.2 ⟨[], _, [], rfl, .nil, .nil, hc⟩)

/-- A reply that is a document is never taken for a block. -/
theorem read_of_document (h : Json.read raw = .ok v) : read raw = .ok v := by
  cases v with
  | null =>
    rw [read, h]
    exact readFenced_eq_ok_iff_read.2 (read_of_null h)
  | _ => rw [read, h]

theorem actions_eq_ok_iff : actions raw = .ok found ↔ ∃ v, read raw = .ok v ∧ Offers v found := by
  unfold actions
  cases read raw with
  | error e => exact ⟨nofun, fun ⟨_, h, _⟩ => nomatch h⟩
  | ok v =>
    have hmap : ((items v).bind (objects 0)).mapError Error.shape = .ok found ↔ Offers v found := by
      rw [← offered_iff]
      cases (items v).bind (objects 0) <;> simp [Except.mapError]
    refine hmap.trans ⟨fun h => ⟨v, rfl, h⟩, ?_⟩
    rintro ⟨w, hw, h⟩
    cases hw
    exact h

/-- The replies that are lists of actions are those whose document has one of the forms; every other one is a fault of form and
comes with the whole reply. -/
theorem actions_forms (h : WithinLimit raw) :
    (∀ found, actions raw = .ok found ↔ ∃ v, Holds raw v ∧ Offers v found) ∧
      ((¬∃ v found, Holds raw v ∧ Offers v found) → ∃ fault, actions raw = .error (.shape fault) ∧
        ∀ transcript, Compiler.batchOf transcript raw = .error (.command (.reply fault raw))) ∧
      ∀ v, Json.read raw = .ok v → read raw = .ok v := by
  have hforms (found : List Fields) : actions raw = .ok found ↔ ∃ v, Holds raw v ∧ Offers v found := by
    rw [actions_eq_ok_iff]
    exact exists_congr fun v => and_congr_left' (read_eq_ok_iff_holds h)
  refine ⟨hforms, fun hno => ?_, fun v => read_of_document⟩
  cases ha : actions raw with
  | ok found =>
    obtain ⟨v, hv⟩ := (hforms found).1 ha
    exact absurd ⟨v, found, hv⟩ hno
  | error e =>
    cases e with
    | shape fault => exact ⟨fault, rfl, fun transcript => by rw [Compiler.batchOf, ha]⟩
    | numeralTooLong n => exact absurd ha (withinLimit_iff.1 h n)

theorem lone_action_read : WithinLimit "\x7b\"action\":\"undo\"\x7d" ∧
    actions "\x7b\"action\":\"undo\"\x7d" = .ok [[("action", .str "undo")]] := by
  have undo : Spells (.value (.str "undo")) _ := .of_plain (by decide)
  have action : Spells (.value (.obj [("action", .str "undo")])) _ := .object .nil (.lastField (.of_plain (by decide)) undo .nil)
  have hread : Json.read "\x7b\"action\":\"undo\"\x7d" = .ok (.obj [("action", .str "undo")]) :=
    read_eq_ok_iff.2 (readText_eq_ok_iff.2 ⟨[], _, [], rfl, .nil, .nil, action⟩)
  have hlimit : WithinLimit "\x7b\"action\":\"undo\"\x7d" := fun n => by
    rw [hread]
    exact ⟨nofun, fun h => nomatch h _ rfl⟩
  have hoffers : Offers (.obj [("action", .str "undo")]) [[("action", .str "undo")]] :=
    .single rfl (.inr rfl) (rfl : _ = some (Json.str "undo"))
  exact ⟨hlimit, ((actions_forms hlimit).1 _).2 ⟨_, .inl ⟨hread, nofun⟩, hoffers⟩⟩

end Easel.Reply
