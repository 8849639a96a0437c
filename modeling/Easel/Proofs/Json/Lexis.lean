import Easel.Proofs.Json.Spelling

/-!
Where the strings of a text begin and end, seen one character at a time. Every JSON document ends outside of its strings, so no
text that breaks off inside of one is a document; and a text that can be taken to begin on either side of a quote has neither
escapes nor most of the letters in it.
-/

namespace Easel.Json

variable {s t b c : List Char} {x : Char} {m m' : Mode} {v : Json} {before after : Fields}

/-- Whether the next character stands in a string, and there behind a backslash. -/
inductive Mode
  | outside
  | inside
  | escaped
  deriving DecidableEq

/-- The letters of the words that are values. -/
def isWordLetter (c : Char) : Bool :=
  words.any fun w => w.1.contains c

/-- A character that may stand outside of the strings of a document. -/
def isMark (c : Char) : Bool :=
  isSpace c || isNumeralChar c || isWordLetter c || ['[', ']', '\x7b', '\x7d', ':', ','].contains c

def Mode.next : Mode → Char → Option Mode
  | .outside, c => if c = '\x22' then some .inside else if isMark c then some .outside else none
  | .inside, c => if c = '\x22' then some .outside else if c = '\\' then some .escaped else some .inside
  | .escaped, _ => some .inside

/-- Reading the text goes from one mode to the other. -/
def Scans (m : Mode) (s : List Char) (m' : Mode) : Prop :=
  s.foldlM Mode.next m = some m'

namespace Scans

theorem nil : Scans m [] m := rfl

theorem cons_iff : Scans m (x :: s) m' ↔ ∃ k, m.next x = some k ∧ Scans k s m' := by
  simp only [Scans, List.foldlM_cons, Option.bind_eq_bind, Option.bind_eq_some_iff]

theorem append_iff : Scans m (s ++ t) m' ↔ ∃ k, Scans m s k ∧ Scans k t m' := by
  simp only [Scans, List.foldlM_append, Option.bind_eq_bind, Option.bind_eq_some_iff]

theorem cons {k : Mode} (hx : m.next x = some k) (h : Scans k s m') : Scans m (x :: s) m' := cons_iff.2 ⟨k, hx, h⟩

theorem append {k : Mode} (h : Scans m s k) (h' : Scans k t m') : Scans m (s ++ t) m' := append_iff.2 ⟨k, h, h'⟩

theorem unique {k : Mode} (h : Scans m s m') (h' : Scans m s k) : m' = k := Option.some.inj (h.symm.trans h')

theorem of_marks (h : ∀ c ∈ s, isMark c) (hq : ∀ c ∈ s, c ≠ '\x22') : Scans .outside s .outside := by
  induction s with
  | nil => exact .nil
  | cons x s ih =>
    obtain ⟨hx, hs⟩ := List.forall_mem_cons.1 h
    obtain ⟨hxq, hsq⟩ := List.forall_mem_cons.1 hq
    exact .cons (by simp [Mode.next, hx, hxq]) (ih hs hsq)

theorem of_plain (h : ∀ c ∈ s, c ≠ '\x22' ∧ c ≠ '\\') : Scans .inside s .inside := by
  induction s with
  | nil => exact .nil
  | cons x s ih =>
    obtain ⟨⟨hq, hb⟩, hs⟩ := List.forall_mem_cons.1 h
    exact .cons (by simp [Mode.next, hq, hb]) (ih hs)

end Scans

theorem isMark_of_isSpace (h : isSpace x) : isMark x ∧ x ≠ '\x22' :=
  ⟨by simp [isMark, h], by rintro rfl; cases h⟩

theorem isMark_of_isNumeralChar (h : isNumeralChar x) : isMark x ∧ x ≠ '\x22' :=
  ⟨by simp [isMark, h], by rintro rfl; cases h⟩

theorem Spaces.scans (h : Spaces s) : Scans .outside s .outside :=
  .of_marks (fun c hc => (isMark_of_isSpace (h c hc)).1) fun c hc => (isMark_of_isSpace (h c hc)).2

theorem plain_of_hexValue? {n : Nat} (h : Text.hexValue? x = some n) : x ≠ '\x22' ∧ x ≠ '\\' := by
  constructor <;> rintro rfl <;> cases h

/-- The digits of an escape are plain characters. -/
theorem scans_unit {n : Nat} (h : unit? s = some n) : Scans .inside s .inside := by
  unfold unit? at h
  split at h
  · obtain ⟨_, ha, h⟩ := Option.bind_eq_some_iff.1 h
    obtain ⟨_, hb, h⟩ := Option.bind_eq_some_iff.1 h
    obtain ⟨_, hc, h⟩ := Option.bind_eq_some_iff.1 h
    obtain ⟨_, hd, -⟩ := Option.bind_eq_some_iff.1 h
    exact .of_plain (by simp [plain_of_hexValue? ha, plain_of_hexValue? hb, plain_of_hexValue? hc, plain_of_hexValue? hd])
  · cases h

theorem Quoted.scans {cs : List Char} (h : Quoted b cs) : Scans .inside b .inside := by
  induction h with
  | nil => exact .nil
  | plain hq hb _ _ ih => exact .cons (by simp [Mode.next, hq, hb]) ih
  | simple _ _ ih => exact .cons rfl (.cons rfl ih)
  | unit hd _ _ ih => exact .cons rfl (.cons rfl ((scans_unit hd).append ih))
  | pair hd _ hd' _ _ ih => exact .cons rfl (.cons rfl ((scans_unit hd).append (.cons rfl (.cons rfl ((scans_unit hd').append ih)))))

theorem Named.scans {name : String} (h : Named name c) : Scans .outside c .outside := by
  obtain ⟨-, hb, hs, ht⟩ := h
  exact .cons rfl (hb.scans.append (.cons rfl (hs.scans.append (.cons rfl ht.scans))))

/-- Whatever a text spells, it ends outside of its strings. -/
theorem Spells.scans {part : Part} (h : Spells part c) : Scans .outside c .outside := by
  induction h with
  | word hw =>
    simp only [words, List.mem_cons, Prod.mk.injEq, List.not_mem_nil, or_false] at hw
    rcases hw with ⟨rfl, -⟩ | ⟨rfl, -⟩ | ⟨rfl, -⟩ | ⟨rfl, -⟩ | ⟨rfl, -⟩ | ⟨rfl, -⟩ <;> rfl
  | numeral hk =>
    have hn := isNumeralChar_of_readNumber hk
    exact .of_marks (fun c hc => (isMark_of_isNumeralChar (hn c hc)).1) fun c hc => (isMark_of_isNumeralChar (hn c hc)).2
  | string hb => exact .cons rfl (hb.scans.append (.cons rfl .nil))
  | noItems hs | noFields hs => exact .cons rfl (hs.scans.append (.cons rfl .nil))
  | list hs _ ih | object hs _ ih => exact .cons rfl (hs.scans.append ih)
  | lastItem _ hs ih => exact ih.append (hs.scans.append (.cons rfl .nil))
  | item _ hs ht _ ih ihs => exact ih.append (hs.scans.append (.cons rfl (ht.scans.append ihs)))
  | lastField ha _ hs ih => exact ha.scans.append (ih.append (hs.scans.append (.cons rfl .nil)))
  | field ha _ hs ht _ ih ihs => exact ha.scans.append (ih.append (hs.scans.append (.cons rfl (ht.scans.append ihs))))

theorem scans_of_readText (h : readText s = .ok v) : Scans .outside s .outside := by
  obtain ⟨before, c, after, rfl, hbefore, hafter, hc⟩ := readText_eq_ok_iff.1 h
  exact hbefore.scans.append (hc.scans.append hafter.scans)

/-- The mark of the byte order stands in strings only, so it needs no care of its own. -/
theorem read_eq_ok_iff {text : String} : read text = .ok v ↔ readText text.toList = .ok v := by
  have hdecoded : readDecoded text = .ok v ↔ readText text.toList = .ok v := by
    unfold readDecoded
    cases readText text.toList <;> simp [Except.mapError]
  unfold read
  split
  · rename_i hmark
    refine ⟨nofun, fun h => ?_⟩
    obtain ⟨s, hs⟩ := List.head?_eq_some_iff.1 hmark
    have hl := scans_of_readText h
    rw [hs] at hl
    obtain ⟨k, hk, -⟩ := Scans.cons_iff.1 hl
    exact absurd hk (by decide +revert)
  · exact hdecoded

/-- A text that can begin on either side of a quote has only quotes in it, and what stands outside of strings. -/
theorem isMark_of_scans_both (h : Scans .outside s m) (h' : Scans .inside s m') : ∀ c ∈ s, c = '\x22' ∨ isMark c := by
  induction s generalizing m m' with
  | nil => nofun
  | cons x s ih =>
    obtain ⟨k, hk, hs⟩ := Scans.cons_iff.1 h
    obtain ⟨k', hk', hs'⟩ := Scans.cons_iff.1 h'
    by_cases hq : x = '\x22'
    · -- On both sides the other one begins.
      subst hq
      cases hk
      cases hk'
      exact List.forall_mem_cons.2 ⟨.inl rfl, ih hs' hs⟩
    · simp only [Mode.next, if_neg hq] at hk hk'
      split at hk
      · rename_i hx
        have hb : x ≠ '\\' := by
          rintro rfl
          exact absurd hx (by decide)
        rw [if_neg hb] at hk'
        cases hk
        cases hk'
        exact List.forall_mem_cons.2 ⟨.inr hx, ih hs hs'⟩
      · cases hk

/-! ### Names without escapes -/

theorem Quoted.eq_of_no_escape {cs : List Char} (h : Quoted b cs) (hb : '\\' ∉ b) : b = cs := by
  induction h with
  | nil => rfl
  | plain _ _ _ _ ih => rw [ih fun h => hb (List.mem_cons_of_mem _ h)]
  | simple | unit | pair => exact absurd List.mem_cons_self hb

theorem Named.inside {name : String} (h : Named name c) (hb : '\\' ∉ c) : ∀ x ∈ name.toList, x ∈ c := by
  obtain @⟨b, cs, s, t, rfl, hq, -, -⟩ := h
  rw [String.toList_ofList, ← hq.eq_of_no_escape fun h => hb (by simp [h])]
  intro x hx
  simp [hx]

/-- In a text without escapes the names of the fields stand as they are. -/
theorem Spells.names_inside (h : Spells (.fields before after) c) (hb : '\\' ∉ c) :
    ∀ k ∈ after.map (·.1), k ∈ before.map (·.1) ∨ ∀ x ∈ k.toList, x ∈ c := by
  generalize hp : Part.fields before after = part at h
  induction h generalizing before with
  | lastField ha =>
    cases hp
    intro k hk
    rcases (Keyed.mem_keys_put ..).1 hk with rfl | hk
    · exact .inr fun x hx => List.mem_append_left _ (ha.inside (fun h => hb (List.mem_append_left _ h)) x hx)
    · exact .inl hk
  | @field a c s t d name v _ _ ha _ _ _ _ _ ih =>
    cases hp
    have hd : '\\' ∉ d := fun h => hb (by simp [h])
    intro k hk
    rcases ih hd rfl k hk with hk | hk
    · rcases (Keyed.mem_keys_put ..).1 hk with rfl | hk
      · exact .inr fun x hx => List.mem_append_left _ (ha.inside (fun h => hb (List.mem_append_left _ h)) x hx)
      · exact .inl hk
    · exact .inr fun x hx => by simp [hk x hx]
  | _ => cases hp

/-- A document that can begin on either side of a quote has no field whose name has a letter that no value has. -/
theorem not_named_of_scans_inside {fields : Fields} {k : String} (h : readText s = .ok (.obj fields)) (hs : Scans .inside s m)
    (hk : x ∈ k.toList) (hx : isMark x = false) (hq : x ≠ '\x22') : fields.lookup k = none := by
  obtain ⟨before, c, after, rfl, -, -, hc⟩ := readText_eq_ok_iff.1 h
  have hmarks := isMark_of_scans_both (scans_of_readText h) hs
  have hno (y : Char) (hy : isMark y = false) (hyq : y ≠ '\x22') : y ∉ c := fun hmem => by
    rcases hmarks y (by simp [hmem]) with he | hm
    · exact hyq he
    · rw [hy] at hm
      cases hm
  have hnames : k ∉ fields.map (·.1) := by
    cases hc with
    | word hw => simp [words] at hw
    | noFields => simp
    | object hs hfields =>
      intro hmem
      rcases hfields.names_inside (fun h => hno '\\' (by decide) (by decide) (by simp [h])) k hmem with hnil | hin
      · simp at hnil
      · exact hno x hx hq (by simp [hin x hk])
  exact List.lookup_eq_none_iff.2 fun p hp => by
    simp only [bne_iff_ne, ne_eq]
    rintro rfl
    exact hnames (List.mem_map_of_mem hp)

end Easel.Json
