import Easel.Proofs.Json.Leaves

/-!
Which texts are JSON documents, said without the reader: a grammar of the values. What the reader accepts is a value as the
grammar spells it, with white space around it, and it reads that value.
-/

namespace Easel.Json

variable {s t c rest : List Char} {fuel n : Nat} {x : Char} {v : Json} {xs : List Json} {before after : Fields}

/-- The values with a name, as they are written. -/
def words : List (List Char × Json) :=
  [(['n', 'u', 'l', 'l'], .null), (['t', 'r', 'u', 'e'], .bool true), (['f', 'a', 'l', 's', 'e'], .bool false),
    (['N', 'a', 'N'], .num (.float Binary64.nan)),
    (['I', 'n', 'f', 'i', 'n', 'i', 't', 'y'], .num (.float (Binary64.infinity false))),
    (['-', 'I', 'n', 'f', 'i', 'n', 'i', 't', 'y'], .num (.float (Binary64.infinity true)))]

/-- White space between the marks of a text. -/
def Spaces (s : List Char) : Prop :=
  ∀ c ∈ s, isSpace c

/-- A name in its quotes, and the colon behind it. -/
inductive Named (name : String) : List Char → Prop
  | mk {b cs s t : List Char} : name = String.ofList cs → Quoted b cs → Spaces s → Spaces t →
    Named name ('\x22' :: (b ++ '\x22' :: (s ++ ':' :: t)))

/-- What a text can spell: a value, the members of a list up to its bracket, or the fields of an object up to its brace, with
the fields that stand before them. -/
inductive Part
  | value (v : Json)
  | items (xs : List Json)
  | fields (before after : Fields)

inductive Spells : Part → List Char → Prop
  | word {w : List Char} {v : Json} : (w, v) ∈ words → Spells (.value v) w
  | numeral {c : List Char} {k : Number} : readNumber c = .ok (k, []) → Spells (.value (.num k)) c
  | string {b cs : List Char} : Quoted b cs → Spells (.value (.str (String.ofList cs))) ('\x22' :: (b ++ ['\x22']))
  | noItems {s : List Char} : Spaces s → Spells (.value (.arr [])) ('[' :: (s ++ [']']))
  | list {s c : List Char} {xs : List Json} : Spaces s → Spells (.items xs) c → Spells (.value (.arr xs)) ('[' :: (s ++ c))
  | noFields {s : List Char} : Spaces s → Spells (.value (.obj [])) ('\x7b' :: (s ++ ['\x7d']))
  | object {s c : List Char} {fields : Fields} : Spaces s → Spells (.fields [] fields) c →
    Spells (.value (.obj fields)) ('\x7b' :: (s ++ c))
  | lastItem {c s : List Char} {v : Json} : Spells (.value v) c → Spaces s → Spells (.items [v]) (c ++ (s ++ [']']))
  | item {c s t d : List Char} {v : Json} {xs : List Json} : Spells (.value v) c → Spaces s → Spaces t → Spells (.items xs) d →
    Spells (.items (v :: xs)) (c ++ (s ++ ',' :: (t ++ d)))
  | lastField {a c s : List Char} {name : String} {v : Json} {before : Fields} : Named name a → Spells (.value v) c → Spaces s →
    Spells (.fields before (before.put name v)) (a ++ (c ++ (s ++ ['\x7d'])))
  | field {a c s t d : List Char} {name : String} {v : Json} {before after : Fields} : Named name a → Spells (.value v) c →
    Spaces s → Spaces t → Spells (.fields (before.put name v) after) d →
    Spells (.fields before after) (a ++ (c ++ (s ++ ',' :: (t ++ d))))

/-! ### Plain texts -/

theorem Spaces.nil : Spaces [] := fun _ h => absurd h List.not_mem_nil

theorem Named.of_plain {name : String} (h : name.toList.all isPlain) :
    Named name ('\x22' :: (name.toList ++ ['\x22', ':'])) :=
  .mk String.ofList_toList.symm (.of_plain h) .nil .nil

theorem Spells.of_plain {text : String} (h : text.toList.all isPlain) :
    Spells (.value (.str text)) ('\x22' :: (text.toList ++ ['\x22'])) := by
  have hs := Spells.string (Quoted.of_plain h)
  rwa [String.ofList_toList] at hs

/-! ### White space -/

theorem skipSpace_append (hs : Spaces s) : skipSpace (s ++ t) = skipSpace t := List.dropWhile_append_of_pos hs

theorem skipSpace_cons (hx : isSpace x = false) : skipSpace (x :: t) = x :: t :=
  List.dropWhile_cons_of_neg (by simpa using hx)

/-- Before the first character that is none stands white space. -/
theorem eq_of_skipSpace (h : skipSpace t = rest) : ∃ s, Spaces s ∧ t = s ++ rest :=
  ⟨t.takeWhile isSpace, fun _ hc => List.mem_takeWhile_imp hc, by rw [← h]; exact (List.takeWhile_append_dropWhile ..).symm⟩

theorem not_isNumeralChar_of_isSpace (h : isSpace x) : isNumeralChar x = false := by
  simp only [isSpace, Bool.or_eq_true, decide_eq_true_eq] at h
  rcases h with ((rfl | rfl) | rfl) | rfl <;> decide

theorem delimited_append (hs : Spaces s) (ht : Delimited t) : Delimited (s ++ t) := by
  cases s with
  | nil => exact ht
  | cons x s => exact delimited_cons.2 (not_isNumeralChar_of_isSpace (hs x List.mem_cons_self))

/-- A text ends, or goes on with a mark, behind white space: no numeral goes on into it. -/
theorem delimited_of_skipSpace (h : skipSpace t = rest) (hr : Delimited rest) : Delimited t := by
  obtain ⟨s, hs, rfl⟩ := eq_of_skipSpace h
  exact delimited_append hs hr

/-! ### What is spelled is read -/

/-- The characters that a value begins with. -/
def Opens (x : Char) : Prop :=
  isSpace x = false ∧ x ≠ ']' ∧ x ≠ '\x7d'

theorem opens_of_isDigit (h : isDigit x) : Opens x := by
  refine ⟨Bool.eq_false_iff.2 fun hs => ?_, ?_, ?_⟩
  · have hn := not_isNumeralChar_of_isSpace hs
    rw [isNumeralChar_of_isDigit h] at hn
    cases hn
  · rintro rfl
    cases h
  · rintro rfl
    cases h

theorem Spells.opens {part : Part} (h : Spells part c) : ∃ x more, c = x :: more ∧ Opens x := by
  induction h with
  | word hw =>
    simp only [words, List.mem_cons, Prod.mk.injEq, List.not_mem_nil, or_false] at hw
    rcases hw with ⟨rfl, -⟩ | ⟨rfl, -⟩ | ⟨rfl, -⟩ | ⟨rfl, -⟩ | ⟨rfl, -⟩ | ⟨rfl, -⟩ <;>
      exact ⟨_, _, rfl, by decide, by decide, by decide⟩
  | numeral hk =>
    obtain ⟨d, more, hd, rfl | rfl⟩ := start_of_readNumber hk
    · exact ⟨d, more, rfl, opens_of_isDigit hd⟩
    · exact ⟨'-', _, rfl, by decide, by decide, by decide⟩
  | string | noItems | list | noFields | object => exact ⟨_, _, rfl, by decide, by decide, by decide⟩
  | lastItem _ _ ih =>
    obtain ⟨x, more, rfl, hx⟩ := ih
    exact ⟨x, _, rfl, hx⟩
  | item _ _ _ _ ih _ =>
    obtain ⟨x, more, rfl, hx⟩ := ih
    exact ⟨x, _, rfl, hx⟩
  | lastField ha | field ha =>
    obtain @⟨b, cs, s, t, -, -, -, -⟩ := ha
    exact ⟨_, _, rfl, by decide, by decide, by decide⟩

theorem Spells.skipSpace_eq {part : Part} (h : Spells part c) : skipSpace (c ++ t) = c ++ t := by
  obtain ⟨x, more, rfl, hx, -⟩ := h.opens
  exact skipSpace_cons hx

theorem readValue_numeral {d : Char} (hd : isDigit d) (hs : s = d :: t ∨ s = '-' :: d :: t) :
    readValue (fuel + 1) s = readNumber s >>= fun r => pure (.num r.1, r.2) := by
  unfold readValue
  split
  case h_10 => rfl
  all_goals
    rcases hs with hs | hs <;> cases hs <;> cases hd

theorem readValue_string {b cs : List Char} (h : Quoted b cs) :
    readValue (fuel + 1) ('\x22' :: (b ++ '\x22' :: rest)) = .ok (.str (String.ofList cs), rest) := by
  have hb : b.length < (b ++ '\x22' :: rest).length.succ := by
    rw [List.length_append]
    omega
  simp only [readValue, h.read hb]
  rfl

/-- What reading a part of a text means: a value leaves any text that it does not go on into, and the members of a list or an
object leave any text at all. Two steps a character are enough. -/
def Part.Reads : Part → List Char → Prop
  | .value v, c => ∀ fuel rest, 2 * c.length ≤ fuel → Delimited rest → readValue fuel (c ++ rest) = .ok (v, rest)
  | .items xs, c => ∀ fuel rest, 2 * c.length + 1 ≤ fuel → readItems fuel (c ++ rest) = .ok (xs, rest)
  | .fields before after, c => ∀ fuel rest, 2 * c.length + 1 ≤ fuel → readFields fuel before (c ++ rest) = .ok (after, rest)

theorem reads_word {w : List Char} (hw : (w, v) ∈ words) : readValue (fuel + 1) (w ++ rest) = .ok (v, rest) := by
  simp only [words, List.mem_cons, Prod.mk.injEq, List.not_mem_nil, or_false] at hw
  rcases hw with ⟨rfl, rfl⟩ | ⟨rfl, rfl⟩ | ⟨rfl, rfl⟩ | ⟨rfl, rfl⟩ | ⟨rfl, rfl⟩ | ⟨rfl, rfl⟩ <;> rfl

theorem readItems_cons (hv : readValue fuel s = .ok (v, t)) :
    readItems (fuel + 1) s = match Json.skipSpace t with
      | ']' :: rest => .ok ([v], rest)
      | ',' :: rest => readItems fuel (Json.skipSpace rest) >>= fun r => pure (v :: r.1, r.2)
      | rest => .error (.fault .expectedComma rest) := by
  rw [readItems, hv]
  rfl

theorem readFields_cons {name : String} {a : List Char} (ha : Named name a) (hc : Json.skipSpace c = c)
    (hv : readValue fuel c = .ok (v, t)) :
    readFields (fuel + 1) before (a ++ c) = match Json.skipSpace t with
      | '\x7d' :: rest => .ok (before.put name v, rest)
      | ',' :: rest => readFields fuel (before.put name v) (Json.skipSpace rest)
      | rest => .error (.fault .expectedComma rest) := by
  obtain @⟨b, cs, s, t', rfl, hb, hs, ht⟩ := ha
  have hname : readString ('\x22' :: (b ++ '\x22' :: (s ++ ':' :: (t' ++ c)))) (b ++ '\x22' :: (s ++ ':' :: (t' ++ c))).length.succ
      (b ++ '\x22' :: (s ++ ':' :: (t' ++ c))) = .ok (cs, s ++ ':' :: (t' ++ c)) :=
    hb.read (by rw [List.length_append]; omega)
  have hcolon : Json.skipSpace (s ++ ':' :: (t' ++ c)) = ':' :: (t' ++ c) :=
    (skipSpace_append hs).trans (skipSpace_cons (by decide))
  have hvalue : Json.skipSpace (t' ++ c) = c := (skipSpace_append ht).trans hc
  simp only [List.cons_append, List.append_assoc, readFields]
  rw [hname]
  simp only [bind, Except.bind, hcolon, hvalue, hv]
  rfl

theorem fuel_pos (h : 2 * (x :: c).length ≤ fuel) : ∃ f, fuel = f + 1 ∧ 2 * c.length + 1 ≤ f :=
  ⟨fuel - 1, by rw [List.length_cons] at h; omega⟩

/-- Behind a member of a list or an object the text goes on with a mark. -/
theorem Part.Reads.before_mark (hc : Part.Reads (.value v) c) (hs : Spaces s) (hx : isNumeralChar x = false) (hf : 2 * c.length ≤ fuel) :
    readValue fuel (c ++ (s ++ x :: t)) = .ok (v, s ++ x :: t) :=
  hc fuel _ hf (delimited_append hs (delimited_cons.2 hx))

theorem skipSpace_mark (hs : Spaces s) (hx : isSpace x = false) : skipSpace (s ++ x :: t) = x :: t :=
  (skipSpace_append hs).trans (skipSpace_cons hx)

theorem Spells.reads {part : Part} (h : Spells part c) : part.Reads c := by
  induction h with
  | word hw =>
    intro fuel rest hf _
    obtain ⟨x, more, rfl, -⟩ := (Spells.word hw).opens
    obtain ⟨fuel, rfl, -⟩ := fuel_pos hf
    exact reads_word hw
  | numeral hk =>
    intro fuel rest hf hrest
    obtain ⟨x, more, rfl, -⟩ := (Spells.numeral hk).opens
    obtain ⟨fuel, rfl, -⟩ := fuel_pos hf
    obtain ⟨d, more', hd, hc⟩ := start_of_readNumber hk
    rw [readValue_numeral (t := more' ++ rest) hd (by rcases hc with hc | hc <;> simp [hc]), readNumber_append_of_ok hk hrest]
    rfl
  | string hb =>
    intro fuel rest hf _
    obtain ⟨fuel, rfl, -⟩ := fuel_pos hf
    rw [List.cons_append, List.append_assoc]
    exact readValue_string hb
  | noItems hs =>
    intro fuel rest hf _
    obtain ⟨fuel, rfl, -⟩ := fuel_pos hf
    simp only [List.cons_append, List.append_assoc, List.nil_append, readValue, skipSpace_mark hs (by decide : isSpace ']' = false)]
  | noFields hs =>
    intro fuel rest hf _
    obtain ⟨fuel, rfl, -⟩ := fuel_pos hf
    simp only [List.cons_append, List.append_assoc, List.nil_append, readValue, skipSpace_mark hs (by decide : isSpace '\x7d' = false)]
  | @list s c xs hs hc ih =>
    intro fuel rest hf _
    obtain ⟨fuel, rfl, hf'⟩ := fuel_pos hf
    obtain ⟨x, more, hx, -, hb, -⟩ := hc.opens
    have hitems := ih fuel rest (by simp only [List.length_append] at hf'; omega)
    have hskip : Json.skipSpace (s ++ (c ++ rest)) = c ++ rest := (skipSpace_append hs).trans hc.skipSpace_eq
    rw [List.cons_append, List.append_assoc, readValue, hskip]
    split
    · rename_i h
      exact absurd (List.cons.inj (hx ▸ h)).1 hb
    · rw [hitems]
      rfl
  | @object s c fields hs hc ih =>
    intro fuel rest hf _
    obtain ⟨fuel, rfl, hf'⟩ := fuel_pos hf
    obtain ⟨x, more, hx, -, -, hb⟩ := hc.opens
    have hfields := ih fuel rest (by simp only [List.length_append] at hf'; omega)
    have hskip : Json.skipSpace (s ++ (c ++ rest)) = c ++ rest := (skipSpace_append hs).trans hc.skipSpace_eq
    rw [List.cons_append, List.append_assoc, readValue, hskip]
    split
    · rename_i h
      exact absurd (List.cons.inj (hx ▸ h)).1 hb
    · rw [hfields]
      rfl
  | @lastItem c s v hc hs ih =>
    intro fuel rest hf
    obtain ⟨fuel, rfl⟩ := Nat.exists_eq_add_one.2 (Nat.zero_lt_of_lt hf)
    have hv : readValue fuel (c ++ (s ++ ']' :: rest)) = _ :=
      ih.before_mark hs (by decide) (by simp only [List.length_append] at hf; omega)
    simp only [List.append_assoc, List.cons_append, List.nil_append, readItems_cons hv, skipSpace_mark hs (by decide : isSpace ']' = false)]
  | @item c s t d v xs hc hs ht hd ih ihs =>
    intro fuel rest hf
    obtain ⟨fuel, rfl⟩ := Nat.exists_eq_add_one.2 (Nat.zero_lt_of_lt hf)
    simp only [List.length_append, List.length_cons] at hf
    have hv : readValue fuel (c ++ (s ++ ',' :: (t ++ (d ++ rest)))) = _ := ih.before_mark hs (by decide) (by omega)
    have hskip : Json.skipSpace (t ++ (d ++ rest)) = d ++ rest := (skipSpace_append ht).trans hd.skipSpace_eq
    simp only [List.append_assoc, List.cons_append, readItems_cons hv, skipSpace_mark hs (by decide : isSpace ',' = false), hskip,
      ihs fuel rest (by omega)]
    rfl
  | @lastField a c s name v before ha hc hs ih =>
    intro fuel rest hf
    obtain ⟨fuel, rfl⟩ := Nat.exists_eq_add_one.2 (Nat.zero_lt_of_lt hf)
    have hv : readValue fuel (c ++ (s ++ '\x7d' :: rest)) = _ :=
      ih.before_mark hs (by decide) (by simp only [List.length_append] at hf; omega)
    simp only [List.append_assoc, List.cons_append, List.nil_append, readFields_cons ha hc.skipSpace_eq hv,
      skipSpace_mark hs (by decide : isSpace '\x7d' = false)]
  | @field a c s t d name v before after ha hc hs ht hd ih ihs =>
    intro fuel rest hf
    obtain ⟨fuel, rfl⟩ := Nat.exists_eq_add_one.2 (Nat.zero_lt_of_lt hf)
    simp only [List.length_append, List.length_cons] at hf
    have hv : readValue fuel (c ++ (s ++ ',' :: (t ++ (d ++ rest)))) = _ := ih.before_mark hs (by decide) (by omega)
    have hskip : Json.skipSpace (t ++ (d ++ rest)) = d ++ rest := (skipSpace_append ht).trans hd.skipSpace_eq
    simp only [List.append_assoc, List.cons_append, readFields_cons ha hc.skipSpace_eq hv,
      skipSpace_mark hs (by decide : isSpace ',' = false), hskip, ihs fuel rest (by omega)]

/-! ### What is read is spelled -/

/-- The readers with this much fuel accept nothing but what the grammar spells. A numeral is a value only if the text does not go
on with one where the reader stopped. -/
structure Recognizes (fuel : Nat) : Prop where
  value {s : List Char} {v : Json} {rest : List Char} : readValue fuel s = .ok (v, rest) → Delimited rest →
    ∃ c, s = c ++ rest ∧ Spells (.value v) c
  items {s : List Char} {xs : List Json} {rest : List Char} : readItems fuel s = .ok (xs, rest) →
    ∃ c, s = c ++ rest ∧ Spells (.items xs) c
  fields {s : List Char} {before after : Fields} {rest : List Char} : readFields fuel before s = .ok (after, rest) →
    ∃ c, s = c ++ rest ∧ Spells (.fields before after) c

theorem Recognizes.value_succ (ih : Recognizes fuel) (h : readValue (fuel + 1) s = .ok (v, rest)) (hrest : Delimited rest) :
    ∃ c, s = c ++ rest ∧ Spells (.value v) c := by
  unfold readValue at h
  split at h
  · obtain ⟨⟨cs, more⟩, hr, h⟩ := ok_of_bind h
    cases h
    obtain ⟨b, rfl, hb⟩ := quoted_of_readString hr
    exact ⟨_, by simp, .string hb⟩
  · split at h
    · rename_i hr
      cases h
      obtain ⟨s, hs, rfl⟩ := eq_of_skipSpace hr
      exact ⟨_, by simp, .noFields hs⟩
    · obtain ⟨⟨fields, more⟩, hr, h⟩ := ok_of_bind h
      cases h
      obtain ⟨c, hc, hspells⟩ := ih.fields hr
      obtain ⟨s, hs, rfl⟩ := eq_of_skipSpace hc
      exact ⟨_, by simp, .object hs hspells⟩
  · split at h
    · rename_i hr
      cases h
      obtain ⟨s, hs, rfl⟩ := eq_of_skipSpace hr
      exact ⟨_, by simp, .noItems hs⟩
    · obtain ⟨⟨xs, more⟩, hr, h⟩ := ok_of_bind h
      cases h
      obtain ⟨c, hc, hspells⟩ := ih.items hr
      obtain ⟨s, hs, rfl⟩ := eq_of_skipSpace hc
      exact ⟨_, by simp, .list hs hspells⟩
  · cases h
    exact ⟨['n', 'u', 'l', 'l'], rfl, .word (by simp [words])⟩
  · cases h
    exact ⟨['t', 'r', 'u', 'e'], rfl, .word (by simp [words])⟩
  · cases h
    exact ⟨['f', 'a', 'l', 's', 'e'], rfl, .word (by simp [words])⟩
  · cases h
    exact ⟨['N', 'a', 'N'], rfl, .word (by simp [words])⟩
  · cases h
    exact ⟨['I', 'n', 'f', 'i', 'n', 'i', 't', 'y'], rfl, .word (by simp [words])⟩
  · cases h
    exact ⟨['-', 'I', 'n', 'f', 'i', 'n', 'i', 't', 'y'], rfl, .word (by simp [words])⟩
  · obtain ⟨⟨k, more⟩, hr, h⟩ := ok_of_bind h
    cases h
    obtain ⟨c, rfl, -⟩ := spends_readNumber hr
    exact ⟨c, rfl, .numeral (readNumber_of_append hr hrest)⟩

theorem Recognizes.items_succ (ih : Recognizes fuel) (h : readItems (fuel + 1) s = .ok (xs, rest)) :
    ∃ c, s = c ++ rest ∧ Spells (.items xs) c := by
  unfold readItems at h
  obtain ⟨⟨v, more⟩, hv, hmore⟩ := ok_of_bind h
  dsimp only at hmore
  split at hmore
  · rename_i hmark
    cases hmore
    obtain ⟨c, rfl, hc⟩ := ih.value hv (delimited_of_skipSpace hmark (delimited_cons.2 (by decide)))
    obtain ⟨s, hs, rfl⟩ := eq_of_skipSpace hmark
    exact ⟨_, by simp, .lastItem hc hs⟩
  · rename_i hmark
    obtain ⟨⟨xs, more'⟩, hr, hlast⟩ := ok_of_bind hmore
    cases hlast
    obtain ⟨c, rfl, hc⟩ := ih.value hv (delimited_of_skipSpace hmark (delimited_cons.2 (by decide)))
    obtain ⟨s, hs, rfl⟩ := eq_of_skipSpace hmark
    obtain ⟨d, hd, hxs⟩ := ih.items hr
    obtain ⟨t, ht, rfl⟩ := eq_of_skipSpace hd
    exact ⟨_, by simp, .item hc hs ht hxs⟩
  · cases hmore

theorem Recognizes.fields_succ (ih : Recognizes fuel) (h : readFields (fuel + 1) before s = .ok (after, rest)) :
    ∃ c, s = c ++ rest ∧ Spells (.fields before after) c := by
  unfold readFields at h
  split at h
  · obtain ⟨⟨name, more⟩, hname, hafter⟩ := ok_of_bind h
    dsimp only at hafter
    split at hafter
    · rename_i hcolon
      obtain ⟨⟨v, more'⟩, hv, hmore⟩ := ok_of_bind hafter
      obtain ⟨b, rfl, hb⟩ := quoted_of_readString hname
      obtain ⟨s, hs, rfl⟩ := eq_of_skipSpace hcolon
      dsimp only at hmore
      split at hmore
      · rename_i hmark
        cases hmore
        obtain ⟨c, hc, hspells⟩ := ih.value hv (delimited_of_skipSpace hmark (delimited_cons.2 (by decide)))
        obtain ⟨t, ht, rfl⟩ := eq_of_skipSpace hc
        obtain ⟨s', hs', rfl⟩ := eq_of_skipSpace hmark
        exact ⟨_, by simp, .lastField ⟨rfl, hb, hs, ht⟩ hspells hs'⟩
      · rename_i hmark
        obtain ⟨c, hc, hspells⟩ := ih.value hv (delimited_of_skipSpace hmark (delimited_cons.2 (by decide)))
        obtain ⟨t, ht, rfl⟩ := eq_of_skipSpace hc
        obtain ⟨s', hs', rfl⟩ := eq_of_skipSpace hmark
        obtain ⟨d, hd, hfields⟩ := ih.fields hmore
        obtain ⟨t', ht', rfl⟩ := eq_of_skipSpace hd
        exact ⟨_, by simp, .field ⟨rfl, hb, hs, ht⟩ hspells hs' ht' hfields⟩
      · cases hmore
    · cases hafter
  · cases h

theorem recognizes (fuel : Nat) : Recognizes fuel := by
  induction fuel with
  | zero => exact ⟨nofun, nofun, nofun⟩
  | succ fuel ih => exact ⟨ih.value_succ, ih.items_succ, ih.fields_succ⟩

/-- The texts that are a JSON document, and the value of each. -/
theorem readText_eq_ok_iff : readText s = .ok v ↔
    ∃ before c after, s = before ++ (c ++ after) ∧ Spaces before ∧ Spaces after ∧ Spells (.value v) c := by
  constructor
  · intro h
    unfold readText at h
    obtain ⟨⟨v', rest⟩, hv, h⟩ := ok_of_bind h
    dsimp only at h
    split at h
    · rename_i hend
      cases h
      obtain ⟨c, hc, hspells⟩ := (recognizes _).value hv (delimited_of_skipSpace hend delimited_nil)
      obtain ⟨after, hafter, rfl⟩ := eq_of_skipSpace hend
      obtain ⟨before, hbefore, rfl⟩ := eq_of_skipSpace hc
      exact ⟨before, c, after, by simp, hbefore, hafter, hspells⟩
    · cases h
  · rintro ⟨before, c, after, rfl, hbefore, hafter, hc⟩
    have hstart : skipSpace (before ++ (c ++ after)) = c ++ after := (skipSpace_append hbefore).trans hc.skipSpace_eq
    have hend : skipSpace after = [] := by
      rw [← List.append_nil after, skipSpace_append hafter]
      rfl
    have hv := hc.reads (2 * (before ++ (c ++ after)).length + 2) after (by simp only [List.length_append]; omega)
      (delimited_of_skipSpace hend delimited_nil)
    unfold readText
    rw [hstart, hv]
    simp [bind, Except.bind, hend, pure, Except.pure]

/-! ### The braces of an object -/

theorem Spells.fields_end (h : Spells (.fields before after) c) : ∃ q, c = q ++ ['\x7d'] := by
  generalize hp : Part.fields before after = part at h
  induction h generalizing before with
  | @lastField a c s => exact ⟨a ++ (c ++ s), by simp⟩
  | @field a c s t d _ _ _ _ _ _ _ _ _ _ ih =>
    cases hp
    obtain ⟨q, rfl⟩ := ih rfl
    exact ⟨a ++ (c ++ (s ++ ',' :: (t ++ q))), by simp⟩
  | _ => cases hp

theorem Spells.braces (h : Spells (.value (.obj after)) c) : (∃ p, c = '\x7b' :: p) ∧ ∃ q, c = q ++ ['\x7d'] := by
  cases h with
  | word hw => simp [words] at hw
  | @noFields s => exact ⟨⟨_, rfl⟩, '\x7b' :: s, by simp⟩
  | @object s _ _ hs hfields =>
    obtain ⟨q, rfl⟩ := hfields.fields_end
    exact ⟨⟨_, rfl⟩, '\x7b' :: (s ++ q), by simp⟩

end Easel.Json
