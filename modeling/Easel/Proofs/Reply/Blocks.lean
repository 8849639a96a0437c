import Easel.Reply
import Easel.Proofs.Json.Lexis
import Easel.Proofs.Text

/-!
A document in a code block. The block ends at the first fence, so it has the whole document in it exactly if no fence stands in
the strings of the document; with one there the reply is refused.
-/

namespace Easel.Reply

open Json

variable {marked : Bool} {d raw : String} {s t p q : List Char} {opening : List Char} {fields : Fields} {found : List Fields}
  {v : Json}

/-- A reply that is one code block with the document in it. -/
def inBlock (marked : Bool) (d : String) : String :=
  (if marked then "```json\n" else "```\n") ++ d ++ "\n```"

def fenceOf (marked : Bool) : List Char :=
  if marked then jsonFence else fence

theorem fence_eq : fence = ['\x60', '\x60', '\x60'] := rfl

theorem jsonFence_eq : jsonFence = fence ++ ['j', 's', 'o', 'n'] := rfl

theorem toList_inBlock (marked : Bool) (d : String) :
    (inBlock marked d).toList = fenceOf marked ++ '\n' :: (d.toList ++ '\n' :: fence) := by
  rw [inBlock, String.toList_append, String.toList_append, List.append_assoc]
  cases marked <;> rfl

theorem inBlock_start (marked : Bool) (d : String) : ∃ s, (inBlock marked d).toList = '\x60' :: s := by
  rw [toList_inBlock]
  cases marked <;> exact ⟨_, rfl⟩

/-! ### The reply itself is no document -/

theorem readText_fenced (s : List Char) : readText ('\x60' :: s) = .error (.fault .expectedValue ('\x60' :: s)) := by
  have hskip : skipSpace ('\x60' :: s) = '\x60' :: s := skipSpace_cons (by decide)
  rw [readText, hskip]
  rfl

theorem read_fenced (h : raw.toList = '\x60' :: s) : read raw = readFenced raw := by
  have hbom : raw.toList.head? ≠ some '\uFEFF' := by
    rw [h, List.head?_cons]
    decide
  have hraw : ∃ cause line column position, Json.read raw = .error (.malformed cause line column position) := by
    rw [Json.read, if_neg hbom, readDecoded, h, readText_fenced]
    exact ⟨_, _, _, _, rfl⟩
  obtain ⟨_, _, _, _, hraw⟩ := hraw
  rw [read, hraw]

theorem readFenced_eq_ok_iff : readFenced raw = .ok v ↔ readText (unfenceChars raw.toList) = .ok v := by
  rw [← String.toList_ofList (l := unfenceChars raw.toList), ← read_eq_ok_iff]
  change _ ↔ Json.read (unfence raw) = .ok v
  unfold readFenced
  split <;> simp_all

theorem actions_of_unread (h : raw.toList = '\x60' :: s) (hblock : ∀ v, readText (unfenceChars raw.toList) ≠ .ok v) :
    ∃ e, actions raw = .error e := by
  unfold actions
  cases hr : read raw with
  | error e => exact ⟨e, rfl⟩
  | ok v =>
    rw [read_fenced h] at hr
    exact absurd (readFenced_eq_ok_iff.1 hr) (hblock v)

/-! ### The block -/

theorem block?_eq {before after inside : List Char} (ho : Text.cut? opening s = some (before, after))
    (hf : Text.cut? fence after = some (inside, t)) (hi : inside ≠ []) : block? opening s = some (Text.trim inside) := by
  simp [block?, ho, hf, hi]

theorem trim_inBlock (marked : Bool) (d : String) : Text.trim (inBlock marked d).toList = (inBlock marked d).toList := by
  obtain ⟨s, hs⟩ := inBlock_start marked d
  have hend : (inBlock marked d).toList = fenceOf marked ++ '\n' :: (d.toList ++ ['\n', '\x60', '\x60']) ++ ['\x60'] := by
    rw [toList_inBlock, fence_eq]
    simp
  exact Text.trim_of_ends hs hend (by decide) (by decide)

theorem fence_divides : fence ≠ [] ∧ '\n' ∉ fence := by decide

theorem jsonFence_divides : jsonFence ≠ [] ∧ '\n' ∉ jsonFence := by decide

/-- What stands in the block is searched for the fence that ends it. -/
theorem cut?_closing (t : List Char) : Text.cut? fence ('\n' :: (t ++ '\n' :: fence)) =
    match Text.cut? fence t with
    | some (p, q) => some ('\n' :: p, q ++ '\n' :: fence)
    | none => some ('\n' :: (t ++ ['\n']), []) := by
  have hend : Text.cut? fence fence = some ([], []) := rfl
  have hstart := Text.cut?_divided (s := []) (t := t ++ '\n' :: fence) fence_divides.1 fence_divides.2
  rw [List.nil_append] at hstart
  rw [hstart, Text.cut?_divided fence_divides.1 fence_divides.2, hend]
  cases Text.cut? fence t <;> simp [Text.cut?, fence_eq]

theorem cut?_opening (marked : Bool) (d : String) :
    Text.cut? (fenceOf marked) (inBlock marked d).toList = some ([], '\n' :: (d.toList ++ '\n' :: fence)) := by
  rw [toList_inBlock]
  exact Text.cut?_self (by cases marked <;> decide)

/-- The opening of a block without the mark is taken for one with it if the document has such a one in it. -/
theorem cut?_jsonFence (d : String) : Text.cut? jsonFence (inBlock false d).toList =
    (Text.cut? jsonFence d.toList).map fun (b, a) => (fence ++ '\n' :: b, a ++ '\n' :: fence) := by
  have hopen : Text.cut? jsonFence fence = none := rfl
  rw [toList_inBlock, fenceOf, if_neg (by decide), Text.cut?_divided jsonFence_divides.1 jsonFence_divides.2, hopen,
    Text.cut?_divided jsonFence_divides.1 jsonFence_divides.2, hopen]
  cases Text.cut? jsonFence d.toList <;> rfl

/-- The block is the one around the document, unless a marked one begins in a document that has no mark around it. -/
theorem unfenceChars_inBlock (marked : Bool) (h : marked = true ∨ Text.cut? jsonFence d.toList = none) :
    unfenceChars (inBlock marked d).toList =
      match Text.cut? fence d.toList with
      | some (p, _) => Text.trim ('\n' :: p)
      | none => Text.trim ('\n' :: (d.toList ++ ['\n'])) := by
  have hopening : (if Text.occurs jsonFence (inBlock marked d).toList then jsonFence else fence) = fenceOf marked := by
    cases marked with
    | true =>
      have hmarked : Text.cut? jsonFence (inBlock true d).toList = some _ := cut?_opening true d
      rw [Text.occurs, hmarked]
      rfl
    | false =>
      have hnone : Text.cut? jsonFence d.toList = none := by simpa using h
      rw [Text.occurs, cut?_jsonFence, hnone]
      rfl
  rw [unfenceChars, trim_inBlock, hopening]
  cases hf : Text.cut? fence d.toList with
  | some r =>
    obtain ⟨p, q⟩ := r
    have hclosing := cut?_closing d.toList
    rw [hf] at hclosing
    rw [block?_eq (cut?_opening marked d) hclosing (List.cons_ne_nil _ _)]
    rfl
  | none =>
    have hclosing := cut?_closing d.toList
    rw [hf] at hclosing
    rw [block?_eq (cut?_opening marked d) hclosing (List.cons_ne_nil _ _)]
    rfl

/-! ### A document without a fence -/

theorem isBlank_of_isSpace {c : Char} (h : isSpace c) : Text.isBlank c := by
  simp only [isSpace, Bool.or_eq_true, decide_eq_true_eq] at h
  rcases h with ((rfl | rfl) | rfl) | rfl <;> decide

/-- White space around an object does not change it. -/
theorem readText_trim (h : readText t = .ok (.obj fields)) : readText (Text.trim ('\n' :: (t ++ ['\n']))) = .ok (.obj fields) := by
  obtain ⟨before, c, after, rfl, hbefore, hafter, hc⟩ := readText_eq_ok_iff.1 h
  obtain ⟨⟨p, hp⟩, q, hq⟩ := hc.braces
  have hl : ∀ x ∈ '\n' :: before, Text.isBlank x :=
    List.forall_mem_cons.2 ⟨by decide, fun x hx => isBlank_of_isSpace (hbefore x hx)⟩
  have hr : ∀ x ∈ after ++ ['\n'], Text.isBlank x :=
    List.forall_mem_append.2 ⟨fun x hx => isBlank_of_isSpace (hafter x hx), List.forall_mem_singleton.2 (by decide)⟩
  have htrim := Text.trim_around hl hr hp hq (by decide) (by decide)
  rw [List.cons_append, ← List.append_assoc c after] at htrim
  rw [List.append_assoc, htrim]
  exact readText_eq_ok_iff.2 ⟨[], c, [], by simp, nofun, nofun, hc⟩

/-! ### A document with a fence -/

/-- A fence stands in a string, so what is before it breaks off inside of one. -/
theorem breaks_off {a b : List Char} (h : readText t = .ok v) (hc : t = b ++ (fence ++ a)) : ∃ m, m ≠ .outside ∧ Scans .outside b m := by
  have hl := scans_of_readText h
  rw [hc] at hl
  obtain ⟨m, hb, hrest⟩ := Scans.append_iff.1 hl
  refine ⟨m, ?_, hb⟩
  rintro rfl
  obtain ⟨k, hk, -⟩ := Scans.cons_iff.1 hrest
  exact absurd hk (by decide +revert)

theorem outside_of_blank {m : Mode} (hs : ∀ c ∈ s, Text.isBlank c) (h : Scans .outside s m) : m = .outside := by
  induction s with
  | nil => exact h.unique .nil
  | cons x s ih =>
    obtain ⟨hx, hs⟩ := List.forall_mem_cons.1 hs
    obtain ⟨k, hk, h⟩ := Scans.cons_iff.1 h
    have hq : x ≠ '\x22' := by
      rintro rfl
      exact absurd hx (by decide)
    simp only [Mode.next, if_neg hq] at hk
    split at hk
    · cases hk
      exact ih hs h
    · cases hk

theorem inside_of_blank (hs : ∀ c ∈ s, Text.isBlank c) : Scans .inside s .inside := by
  refine .of_plain fun c hc => ⟨?_, ?_⟩ <;> rintro rfl <;> exact absurd (hs _ hc) (by decide)

theorem breaks_off_trim {m : Mode} (h : Scans .outside s m) (hm : m ≠ .outside) :
    ∃ m', m' ≠ .outside ∧ Scans .outside (Text.trim s) m' := by
  obtain ⟨l, r, hs, hl, hr⟩ := Text.trim_split s
  rw [hs] at h
  obtain ⟨k, hk, h⟩ := Scans.append_iff.1 h
  obtain rfl := outside_of_blank hl hk
  obtain ⟨m', htrim, h⟩ := Scans.append_iff.1 h
  refine ⟨m', ?_, htrim⟩
  rintro rfl
  exact hm (outside_of_blank hr h)

theorem scans_inside_trim {m : Mode} (h : Scans .inside s m) : ∃ m', Scans .inside (Text.trim s) m' := by
  obtain ⟨l, r, hs, hl, -⟩ := Text.trim_split s
  rw [hs] at h
  obtain ⟨k, hk, h⟩ := Scans.append_iff.1 h
  obtain rfl := (inside_of_blank hl).unique hk
  obtain ⟨m', htrim, -⟩ := Scans.append_iff.1 h
  exact ⟨m', htrim⟩

/-- A text that breaks off in a string is refused. -/
theorem unread_of_breaks_off {m : Mode} (h : Scans .outside s m) (hm : m ≠ .outside) (v : Json) : readText (Text.trim s) ≠ .ok v := by
  obtain ⟨m', hm', htrim⟩ := breaks_off_trim h hm
  exact fun hv => hm' (htrim.unique (scans_of_readText hv))

/-- A text that begins in a string offers no actions, even if it is a document when read from there on. -/
theorem no_actions_of_inside {m : Mode} (h : Scans .inside s m) (hv : readText (Text.trim s) = .ok v) :
    ∃ fault, items v = .error fault := by
  obtain ⟨m', htrim⟩ := scans_inside_trim h
  cases v with
  | obj fields =>
    have hno (k : String) (hk : 'o' ∈ k.toList) : fields.lookup k = none :=
      not_named_of_scans_inside hv htrim hk (by decide) (by decide)
    have hvalue (k : String) (hk : 'o' ∈ k.toList) : Fields.value fields k = .null := by rw [Fields.value, hno k hk]; rfl
    refine ⟨.noActions, ?_⟩
    rw [items, hno "actions" (by decide), hvalue "op" (by decide), hvalue "action" (by decide)]
    rfl
  | _ => exact ⟨.notObject, rfl⟩

theorem actions_of_read (hr : read raw = .ok v) : actions raw = ((items v).bind (objects 0)).mapError .shape := by
  rw [actions, hr]
  rfl

/-- Behind the mark that stands in a string of a document that string goes on. -/
theorem inside_of_cut {a b : List Char} (h : readText t = .ok v) (hc : Text.cut? jsonFence t = some (b, a)) :
    Scans .inside a .outside := by
  have ht := Text.cut?_eq_some hc
  rw [List.append_assoc] at ht
  obtain ⟨m, hm, hb⟩ := breaks_off h (a := ['j', 's', 'o', 'n'] ++ a) ht
  have hmark : Scans m jsonFence .inside := by
    cases m with
    | outside => exact absurd rfl hm
    | inside | escaped => rfl
  have hl := scans_of_readText h
  rw [ht] at hl
  obtain ⟨k, hk, hrest⟩ := Scans.append_iff.1 hl
  obtain rfl := hb.unique hk
  obtain ⟨k, hk, ha⟩ := Scans.append_iff.1 hrest
  rwa [hmark.unique hk]

/-- A marked block that begins in a string of the document ends in it or with it, and offers no actions. -/
theorem actions_of_marked_inside {a b : List Char} (h : readText d.toList = .ok v) (hc : Text.cut? jsonFence d.toList = some (b, a)) :
    ∃ e, actions (inBlock false d) = .error e := by
  obtain ⟨s, hs⟩ := inBlock_start false d
  have ha := inside_of_cut h hc
  obtain ⟨inside, rest, m, hclose, hinside⟩ : ∃ inside rest m, Text.cut? fence (a ++ '\n' :: fence) = some (inside, rest) ∧
      Scans .inside inside m := by
    rw [Text.cut?_divided fence_divides.1 fence_divides.2]
    cases hf : Text.cut? fence a with
    | some r =>
      obtain ⟨p, q⟩ := r
      rw [Text.cut?_eq_some hf, List.append_assoc] at ha
      obtain ⟨m, hp, -⟩ := Scans.append_iff.1 ha
      exact ⟨p, _, m, rfl, hp⟩
    | none => exact ⟨a ++ ['\n'], [], .outside, rfl, ha.append rfl⟩
  have hopen := cut?_jsonFence d
  rw [hc, Option.map_some] at hopen
  have hoccurs : Text.occurs jsonFence (inBlock false d).toList = true := by
    rw [Text.occurs, hopen]
    rfl
  have hblock : unfenceChars (inBlock false d).toList =
      if inside = [] then (inBlock false d).toList else Text.trim inside := by
    rw [unfenceChars, trim_inBlock, hoccurs, if_pos rfl]
    split
    · rename_i hnil
      simp [block?, hopen, hclose, hnil]
    · rename_i hne
      rw [block?_eq hopen hclose hne]
      rfl
  by_cases hne : inside = []
  · -- With nothing in it the block is passed over, and the reply is read once more.
    refine actions_of_unread hs fun v => ?_
    rw [hblock, if_pos hne, hs, readText_fenced]
    simp
  · rw [if_neg hne] at hblock
    cases hv : readText (Text.trim inside) with
    | error e => exact actions_of_unread hs fun v => by simp [hblock, hv]
    | ok w =>
      obtain ⟨fault, hfault⟩ := no_actions_of_inside hinside hv
      have hread : read (inBlock false d) = .ok w := by rwa [read_fenced hs, readFenced_eq_ok_iff, hblock]
      exact ⟨.shape fault, by rw [actions_of_read hread, hfault]; rfl⟩

/-- A fence in the document ends the block in one of its strings. -/
theorem actions_of_fence (h : readText d.toList = .ok v) (hf : Text.occurs fence d.toList) :
    ∃ e, actions (inBlock marked d) = .error e := by
  by_cases hmark : marked = true ∨ Text.cut? jsonFence d.toList = none
  · obtain ⟨⟨p, q⟩, hc⟩ := Option.isSome_iff_exists.1 hf
    have hd := Text.cut?_eq_some hc
    rw [List.append_assoc] at hd
    obtain ⟨m, hm, hp⟩ := breaks_off h hd
    obtain ⟨s, hs⟩ := inBlock_start marked d
    have hblock := unfenceChars_inBlock marked hmark
    rw [hc] at hblock
    refine actions_of_unread hs fun v => ?_
    rw [hblock]
    exact unread_of_breaks_off (Scans.cons rfl hp) hm v
  · rw [not_or, Bool.not_eq_true] at hmark
    obtain ⟨rfl, hc⟩ := hmark
    obtain ⟨⟨b, a⟩, hc⟩ := Option.ne_none_iff_exists'.1 hc
    exact actions_of_marked_inside h hc

theorem actions_of_no_fence (h : readText d.toList = .ok (.obj fields)) (hf : Text.occurs fence d.toList = false) :
    actions (inBlock marked d) = ((items (.obj fields)).bind (objects 0)).mapError .shape := by
  have hnone : Text.cut? fence d.toList = none := by simpa [Text.occurs] using hf
  have hjson : Text.cut? jsonFence d.toList = none := by
    by_contra hne
    obtain ⟨⟨b, a⟩, hc⟩ := Option.ne_none_iff_exists'.1 hne
    rw [Text.cut?_eq_some hc, jsonFence_eq] at hnone
    exact Text.cut?_ne_none_of_infix ⟨b, ['j', 's', 'o', 'n'] ++ a, by simp⟩ hnone
  obtain ⟨s, hs⟩ := inBlock_start marked d
  have hblock := unfenceChars_inBlock marked (.inr hjson)
  rw [hnone] at hblock
  refine actions_of_read ?_
  rw [read_fenced hs, readFenced_eq_ok_iff, hblock]
  exact readText_trim h

theorem objects_map_obj (index : Nat) (found : List Fields) : objects index (found.map .obj) = .ok found := by
  induction found generalizing index with
  | nil => rfl
  | cons fields found ih =>
    rw [List.map_cons, objects, ih]
    rfl

/-- The one document with a list of actions: read as it stands, and read in a block, marked or not, exactly if there is no fence
in its strings. -/
theorem actions_inBlock (hd : Json.read d = .ok (.obj fields)) (ha : fields.lookup "actions" = some (.arr (found.map .obj))) :
    actions d = .ok found ∧ if Text.occurs fence d.toList then ∃ e, actions (inBlock marked d) = .error e
      else actions (inBlock marked d) = .ok found := by
  have hoffered : ((items (.obj fields)).bind (objects 0)).mapError Error.shape = .ok found := by
    rw [items, ha]
    simp [Except.bind, objects_map_obj, Except.mapError]
  have htext := read_eq_ok_iff.1 hd
  refine ⟨?_, ?_⟩
  · have hread : read d = .ok (.obj fields) := by rw [read, hd]
    rw [actions_of_read hread, hoffered]
  · split
    · rename_i hf
      exact actions_of_fence htext hf
    · rename_i hf
      rw [actions_of_no_fence htext (Bool.eq_false_iff.2 hf), hoffered]

/-- A fence in the text of a layer: the document is read as it stands and lost in a block. -/
theorem fence_in_text : actions "\x7b\"actions\":[\x7b\"op\":\"create_text\",\"args\":\x7b\"text\":\"a ``` b\"\x7d\x7d]\x7d" =
      .ok [[("op", .str "create_text"), ("args", .obj [("text", .str "a ``` b")])]] ∧
    ∃ e, actions (inBlock true "\x7b\"actions\":[\x7b\"op\":\"create_text\",\"args\":\x7b\"text\":\"a ``` b\"\x7d\x7d]\x7d") =
      .error e := by
  have text : Spells (.value (.str "a ``` b")) _ := .of_plain (by decide)
  have args : Spells (.value (.obj [("text", .str "a ``` b")])) _ := .object .nil (.lastField (.of_plain (by decide)) text .nil)
  have op : Spells (.value (.str "create_text")) _ := .of_plain (by decide)
  have opName : Named "op" _ := .of_plain (by decide)
  have argsName : Named "args" _ := .of_plain (by decide)
  have action : Spells (.value (.obj [("op", .str "create_text"), ("args", .obj [("text", .str "a ``` b")])])) _ :=
    .object .nil (.field opName op .nil .nil (.lastField argsName args .nil))
  have whole : Spells (.value (.obj [("actions", .arr ([[("op", .str "create_text"),
      ("args", .obj [("text", .str "a ``` b")])]].map .obj))])) _ :=
    .object .nil (.lastField (.of_plain (by decide)) (.list .nil (.lastItem action .nil)) .nil)
  exact actions_inBlock (read_eq_ok_iff.2 (readText_eq_ok_iff.2 ⟨[], _, [], rfl, .nil, .nil, whole⟩)) rfl

end Easel.Reply
