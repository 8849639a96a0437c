import Easel.Model
import Easel.Proofs.Prompt
import Mathlib.Data.List.Chain
import Mathlib.Data.List.DropRight

/-!
Scenarios. Whatever a transcript says, its scenario is made of the words of its lower case and of single underscores between them. It is
the name of a file in the directory of the replies and of nothing else, and transcripts with the same words ask for the same file.
-/

namespace Easel

namespace Text

variable {p : Char → Bool} {s t gap word rest : List Char} {ws vs : List (List Char)} {c mark : Char}

/-! ### Words -/

/-- The longest runs of letters in a text, from left to right. -/
inductive Runs (isLetter : Char → Bool) : List Char → List (List Char) → Prop
  | nil {gap : List Char} : (∀ c ∈ gap, isLetter c = false) → Runs isLetter gap []
  | cons {gap word rest : List Char} {words : List (List Char)} :
    (∀ c ∈ gap, isLetter c = false) → word ≠ [] → (∀ c ∈ word, isLetter c = true) →
      (∀ c, rest.head? = some c → isLetter c = false) → Runs isLetter rest words →
      Runs isLetter (gap ++ (word ++ rest)) (word :: words)

theorem pieces_ne_nil (p : Char → Bool) (s : List Char) : pieces p s ≠ [] := by
  fun_cases pieces p s <;> simp

theorem pieces_cons_mark (hc : p c = true) (s : List Char) : pieces p (c :: s) = [] :: pieces p s := by
  rw [pieces, if_pos hc]

theorem pieces_cons_other (hc : p c = false) (s : List Char) : pieces p (c :: s) = (pieces p s).modifyHead (c :: ·) := by
  obtain ⟨w, ws, hs⟩ := List.exists_cons_of_ne_nil (pieces_ne_nil p s)
  rw [pieces, if_neg (by simp [hc]), hs]
  rfl

theorem pieces_append_mark (hc : p c = true) (s t : List Char) : pieces p (s ++ c :: t) = pieces p s ++ pieces p t := by
  induction s with
  | nil => exact pieces_cons_mark hc t
  | cons x s ih =>
    cases hx : p x with
    | true => rw [List.cons_append, pieces_cons_mark hx, pieces_cons_mark hx, ih, List.cons_append]
    | false =>
      obtain ⟨w, ws, hs⟩ := List.exists_cons_of_ne_nil (pieces_ne_nil p s)
      rw [List.cons_append, pieces_cons_other hx, pieces_cons_other hx, ih, hs]
      rfl

theorem pieces_of_no_mark (hs : ∀ c ∈ s, p c = false) : pieces p s = [s] := by
  induction s with
  | nil => rfl
  | cons c s ih =>
    rw [pieces_cons_other (hs c List.mem_cons_self), ih fun x hx => hs x (List.mem_cons_of_mem _ hx)]
    rfl

/-- A character between the words divides a text. -/
theorem words_append (hc : p c = false) (s t : List Char) : words p (s ++ c :: t) = words p s ++ words p t := by
  rw [words, pieces_append_mark (by simp [hc]), List.filter_append, words, words]

theorem words_of_letters (hw : word ≠ []) (h : ∀ c ∈ word, p c = true) : words p word = [word] := by
  rw [words, pieces_of_no_mark fun c hc => by simp [h c hc]]
  simpa using hw

theorem words_gap (hg : ∀ c ∈ gap, p c = false) (s : List Char) : words p (gap ++ s) = words p s := by
  induction gap with
  | nil => rfl
  | cons c gap ih =>
    have hrest := ih fun x hx => hg x (List.mem_cons_of_mem _ hx)
    have hdivide := words_append (hg c List.mem_cons_self) [] (gap ++ s)
    rw [List.cons_append, ← hrest]
    exact hdivide

theorem words_of_runs (h : Runs p s ws) : ws = words p s := by
  induction h with
  | nil hg =>
    have hnone := words_gap hg []
    rw [List.append_nil] at hnone
    exact hnone.symm
  | @cons gap word rest ws hg hw hletters hend _ ih =>
    rw [words_gap hg, ih]
    cases rest with
    | nil => rw [List.append_nil, words_of_letters hw hletters]; rfl
    | cons c rest =>
      have hc := hend c rfl
      have hgap : ∀ x ∈ [c], p x = false := by simpa using hc
      have hrest := words_gap hgap rest
      rw [words_append hc, words_of_letters hw hletters, ← hrest]
      rfl

/-- A text may begin with a word. -/
theorem Runs.begin (hw : word ≠ []) (hletters : ∀ c ∈ word, p c = true) (hend : ∀ c, rest.head? = some c → p c = false)
    (h : Runs p rest ws) : Runs p (word ++ rest) (word :: ws) := by
  have hgap : ∀ c ∈ ([] : List Char), p c = false := by simp
  exact .cons hgap hw hletters hend h

theorem Runs.skip (hc : p c = false) (h : Runs p s ws) : Runs p (c :: s) ws := by
  have hfirst {gap : List Char} (hg : ∀ x ∈ gap, p x = false) : ∀ x ∈ c :: gap, p x = false := by simpa [hc] using hg
  cases h with
  | nil hg => exact .nil (hfirst hg)
  | cons hg hw hletters hend hrest => exact .cons (hfirst hg) hw hletters hend hrest

/-- A letter before a text is a word by itself, or else it makes the first word longer. -/
theorem Runs.letter (hc : p c = true) (h : Runs p s ws) : ∃ vs, Runs p (c :: s) vs := by
  have alone (hs : ∀ x, s.head? = some x → p x = false) : Runs p (c :: s) ([c] :: ws) :=
    .begin (List.cons_ne_nil c []) (by simpa using hc) hs h
  cases h with
  | nil hg => exact ⟨_, alone fun x hx => hg x (List.mem_of_mem_head? hx)⟩
  | @cons gap word rest ws hg hw hletters hend hrest =>
    cases gap with
    | nil => exact ⟨_, .begin (List.cons_ne_nil c word) (by simpa [hc] using hletters) hend hrest⟩
    | cons x gap =>
      refine ⟨_, alone fun y hy => ?_⟩
      obtain rfl : x = y := by simpa using hy
      exact hg x List.mem_cons_self

theorem exists_runs (p : Char → Bool) (s : List Char) : ∃ ws, Runs p s ws := by
  induction s with
  | nil => exact ⟨[], .nil (by simp)⟩
  | cons c s ih =>
    obtain ⟨ws, h⟩ := ih
    cases hc : p c with
    | true => exact h.letter hc
    | false => exact ⟨ws, h.skip hc⟩

theorem runs_iff : Runs p s ws ↔ ws = words p s := by
  constructor
  · exact words_of_runs
  · intro h
    obtain ⟨vs, hs⟩ := exists_runs p s
    rw [h, ← words_of_runs hs]
    exact hs

theorem runs_intercalate (hmark : p mark = false) (h : ∀ w ∈ ws, w ≠ [] ∧ ∀ c ∈ w, p c = true) :
    Runs p ([mark].intercalate ws) ws := by
  induction ws with
  | nil => exact .nil (by simp)
  | cons w ws ih =>
    obtain ⟨hw, hletters⟩ := h w List.mem_cons_self
    have hrest := ih fun v hv => h v (List.mem_cons_of_mem _ hv)
    cases ws with
    | nil =>
      have hone : Runs p (w ++ []) [w] := .begin hw hletters (by simp) hrest
      simpa using hone
    | cons v ws =>
      have hend (c : Char) (hc : (mark :: [mark].intercalate (v :: ws)).head? = some c) : p c = false := by
        obtain rfl : mark = c := by simpa using hc
        exact hmark
      have hfirst := Runs.begin hw hletters hend (hrest.skip hmark)
      rw [List.intercalate_cons_cons, List.append_assoc]
      exact hfirst

theorem Runs.letters (h : Runs p s ws) : ∀ w ∈ ws, w ≠ [] ∧ ∀ c ∈ w, p c = true := by
  induction h with
  | nil => simp
  | cons _ hw hletters _ _ ih =>
    intro v hv
    rcases List.mem_cons.1 hv with rfl | hv
    · exact ⟨hw, hletters⟩
    · exact ih v hv

/-! ### What stands between words -/

/-- Each longest run of other characters becomes one mark. -/
def squeezed (isLetter : Char → Bool) (mark : Char) : List Char → List Char
  | [] => []
  | c :: rest =>
    if isLetter c then c :: squeezed isLetter mark rest
    else if rest.head?.any (!isLetter ·) then squeezed isLetter mark rest
    else mark :: squeezed isLetter mark rest

/-- The text without the marks at its ends. -/
def stripped (mark : Char) (s : List Char) : List Char :=
  (s.dropWhile (· = mark)).rdropWhile (· = mark)

theorem squeezed_letters (h : ∀ c ∈ word, p c = true) (s : List Char) :
    squeezed p mark (word ++ s) = word ++ squeezed p mark s := by
  induction word with
  | nil => rfl
  | cons c word ih =>
    rw [List.cons_append, squeezed, if_pos (h c List.mem_cons_self), ih fun x hx => h x (List.mem_cons_of_mem _ hx)]
    rfl

theorem squeezed_gap (hgap : gap ≠ []) (hg : ∀ c ∈ gap, p c = false) (hs : ∀ c, s.head? = some c → p c = true) :
    squeezed p mark (gap ++ s) = mark :: squeezed p mark s := by
  induction gap with
  | nil => exact absurd rfl hgap
  | cons c gap ih =>
    have hc : ¬p c = true := by simp [hg c List.mem_cons_self]
    rw [List.cons_append, squeezed, if_neg hc]
    cases gap with
    | nil =>
      have hlast : ¬s.head?.any (!p ·) = true := by
        cases s with
        | nil => simp
        | cons x s => simp [hs x rfl]
      rw [List.nil_append, if_neg hlast]
    | cons x gap =>
      have hx : p x = false := hg x (by simp)
      rw [List.cons_append, List.head?_cons, Option.any_some, hx]
      exact ih (by simp) fun y hy => hg y (List.mem_cons_of_mem _ hy)

theorem stripped_around {l r : List Char} (hl : ∀ c ∈ l, c = mark) (hr : ∀ c ∈ r, c = mark)
    (hhead : s.head? ≠ some mark) (hlast : s.getLast? ≠ some mark) : stripped mark (l ++ (s ++ r)) = s := by
  have hright {t : List Char} : (t ++ r).rdropWhile (· = mark) = t.rdropWhile (· = mark) := by
    have hrev : ∀ c ∈ r.reverse, decide (c = mark) = true := fun c hc => by simpa using hr c (List.mem_reverse.1 hc)
    rw [List.rdropWhile, List.reverse_append, List.dropWhile_append_of_pos hrev, List.rdropWhile]
  have hself : s.rdropWhile (· = mark) = s := by
    refine List.rdropWhile_eq_self_iff.2 fun hs he => hlast ?_
    rw [List.getLast?_eq_some_getLast hs, of_decide_eq_true he]
  rw [stripped, List.dropWhile_append_of_pos fun c hc => by simpa using hl c hc]
  cases s with
  | nil =>
    have hnone : r.dropWhile (· = mark) = [] := List.dropWhile_eq_nil_iff.2 fun c hc => by simpa using hr c hc
    rw [List.nil_append, hnone]
    rfl
  | cons c s =>
    have hc : c ≠ mark := fun he => hhead (by simp [he])
    have hfirst : (c :: (s ++ r)).dropWhile (· = mark) = c :: (s ++ r) := List.dropWhile_cons_of_neg (by simpa using hc)
    rw [List.cons_append, hfirst, ← List.cons_append, hright, hself]

variable (mark) in
/-- Squeezing leaves one mark between two words. At the ends of a text a mark is left where there is something else than letters. -/
theorem squeezed_of_runs (h : Runs p s ws) : ∃ l r, squeezed p mark s = l ++ ([mark].intercalate ws ++ r) ∧
    (∀ c ∈ l, c = mark) ∧ (∀ c ∈ r, c = mark) ∧ (ws ≠ [] → (∀ c, s.head? = some c → p c = false) → l = [mark]) := by
  induction h with
  | @nil gap hg =>
    cases gap with
    | nil => exact ⟨[], [], rfl, by simp, by simp, by simp⟩
    | cons c gap =>
      have hone : squeezed p mark (c :: gap ++ []) = [mark] := squeezed_gap (List.cons_ne_nil c gap) hg (by simp)
      rw [List.append_nil] at hone
      exact ⟨[], [mark], hone, by simp, by simp, by simp⟩
  | @cons gap word rest ws hg hw hletters hend hrest ih =>
    obtain ⟨l, r, hs, hl, hr, hlead⟩ := ih
    have hword : squeezed p mark (word ++ rest) = word ++ squeezed p mark rest := squeezed_letters hletters rest
    -- What is behind the word: the other words after one mark, or nothing but marks.
    have hbehind : ∃ r', word ++ squeezed p mark rest = [mark].intercalate (word :: ws) ++ r' ∧ ∀ c ∈ r', c = mark := by
      rw [hs]
      cases ws with
      | nil => exact ⟨l ++ r, by simp, fun c hc => (List.mem_append.1 hc).elim (hl c) (hr c)⟩
      | cons v ws =>
        rw [hlead (by simp) hend]
        exact ⟨r, by simp, hr⟩
    obtain ⟨r', hbehind, hr'⟩ := hbehind
    obtain ⟨x, word, rfl⟩ := List.exists_cons_of_ne_nil hw
    have hx : p x = true := hletters x List.mem_cons_self
    cases gap with
    | nil =>
      refine ⟨[], r', by rw [List.nil_append, hword, hbehind, List.nil_append], by simp, hr', fun _ hhead => ?_⟩
      have hno := hhead x rfl
      rw [hx] at hno
      cases hno
    | cons c gap =>
      refine ⟨[mark], r', ?_, by simp, hr', fun _ _ => rfl⟩
      rw [squeezed_gap (by simp) hg (by simpa using hx), hword, hbehind]
      rfl

end Text

namespace Golden

open Text

variable {s t : List Char} {ws : List (List Char)} {c : Char}

/-! ### Scenarios -/

/-- Words with single underscores between them. -/
structure Plain (s : List Char) : Prop where
  chars : ∀ c ∈ s, isWordChar c = true ∨ c = '_'
  head : s.head? ≠ some '_'
  last : s.getLast? ≠ some '_'
  /-- No two underscores stand side by side. -/
  single : s.IsChain fun a b => a ≠ '_' ∨ b ≠ '_'

theorem underscore_ne (hc : isWordChar c = true) : c ≠ '_' := by
  rintro rfl
  exact absurd hc (by decide)

theorem plain_word (hletters : ∀ c ∈ s, isWordChar c = true) : Plain s where
  chars c hc := .inl (hletters c hc)
  head he := underscore_ne (hletters _ (List.mem_of_mem_head? he)) rfl
  last he := underscore_ne (hletters _ (List.mem_of_getLast? he)) rfl
  single := (List.pairwise_of_forall_mem_list fun a ha _ _ => .inl (underscore_ne (hletters a ha))).isChain

theorem Plain.join (hs : Plain s) (hne : s ≠ []) (ht : Plain t) (hne' : t ≠ []) : Plain (s ++ '_' :: t) where
  chars c hc := by
    rcases List.mem_append.1 hc with hc | hc
    · exact hs.chars c hc
    · rcases List.mem_cons.1 hc with rfl | hc
      · exact .inr rfl
      · exact ht.chars c hc
  head := by rw [List.head?_append_of_ne_nil _ hne]; exact hs.head
  last := by
    rw [List.getLast?_append_of_ne_nil _ (List.cons_ne_nil _ _), List.getLast?_cons_of_ne_nil hne']
    exact ht.last
  single := by
    -- An underscore stands at neither end of what is joined.
    have hafter : ('_' :: t).IsChain fun a b => a ≠ '_' ∨ b ≠ '_' := by
      obtain ⟨x, t, rfl⟩ := List.exists_cons_of_ne_nil hne'
      refine .cons_cons (.inr ?_) ht.single
      rintro rfl
      exact ht.head rfl
    refine List.isChain_append.2 ⟨hs.single, hafter, fun a ha b _ => .inl ?_⟩
    rintro rfl
    exact hs.last ha

theorem plain_intercalate (h : ∀ w ∈ ws, w ≠ [] ∧ ∀ c ∈ w, isWordChar c = true) : Plain (['_'].intercalate ws) := by
  induction ws with
  | nil => exact plain_word (by simp)
  | cons w ws ih =>
    obtain ⟨hw, hletters⟩ := h w List.mem_cons_self
    have hrest := ih fun v hv => h v (List.mem_cons_of_mem _ hv)
    cases ws with
    | nil =>
      rw [List.intercalate_singleton]
      exact plain_word hletters
    | cons v ws =>
      have hv : v ≠ [] := (h v (by simp)).1
      have hne : ['_'].intercalate (v :: ws) ≠ [] := by
        cases ws with
        | nil => simpa using hv
        | cons => simp [hv]
      rw [List.intercalate_cons_cons, List.append_assoc]
      exact (plain_word hletters).join hw hrest hne

theorem toNat_plain (h : isWordChar c = true ∨ c = '_') :
    48 ≤ c.toNat ∧ c.toNat ≤ 57 ∨ c.toNat = 95 ∨ 97 ≤ c.toNat ∧ c.toNat ≤ 122 := by
  rcases h with h | rfl
  · simp only [isWordChar, Bool.or_eq_true, Bool.and_eq_true, decide_eq_true_eq, Char.le_def, UInt32.le_iff_toNat_le] at h
    have hnat : c.val.toNat = c.toNat := rfl
    have ha : ('a' : Char).val.toNat = 97 := rfl
    have hz : ('z' : Char).val.toNat = 122 := rfl
    have h0 : ('0' : Char).val.toNat = 48 := rfl
    have h9 : ('9' : Char).val.toNat = 57 := rfl
    omega
  · exact .inr (.inl rfl)

theorem lowerChar_plain (h : isWordChar c = true ∨ c = '_') : lowerChar c = c := by
  have hc := toNat_plain h
  have hascii : isAscii c = true := by
    rw [isAscii, decide_eq_true_eq]
    omega
  have hcapital : ¬(c.val ≥ 'A'.val ∧ c.val ≤ 'Z'.val) := by
    rintro ⟨hA, hZ⟩
    have hA : 65 ≤ c.toNat := UInt32.le_iff_toNat_le.1 hA
    have hZ : c.toNat ≤ 90 := UInt32.le_iff_toNat_le.1 hZ
    omega
  rw [lowerChar, if_pos hascii]
  exact dif_neg hcapital

/-- What a scenario is made of is in lower case already. -/
theorem lower_plain (h : ∀ c ∈ s, isWordChar c = true ∨ c = '_') : lower s = s := by
  suffices hfrom : ∀ before, lowerFrom before s = s from hfrom []
  induction s with
  | nil => exact fun _ => rfl
  | cons c s ih =>
    intro before
    have hc := h c List.mem_cons_self
    have hsigma : c ≠ capitalSigma := by rintro rfl; exact absurd hc (by decide)
    have hdotted : c ≠ 'İ' := by rintro rfl; exact absurd hc (by decide)
    rw [lowerFrom, if_neg hsigma, if_neg hdotted, lowerChar_plain hc, ih fun x hx => h x (List.mem_cons_of_mem _ hx)]
    rfl

/-! ### Where the file stands -/

theorem fileChars_eq (scenario : String) : fileChars scenario = scenario.toList ++ ['.', 'j', 's', 'o', 'n'] := by
  rw [fileChars, String.toList_append]
  rfl

theorem Plain.not_mem (h : Plain s) (hc : isWordChar c = false) (hc' : c ≠ '_') : c ∉ s := fun hmem => by
  rcases h.chars c hmem with hletter | rfl
  · rw [hc] at hletter
    cases hletter
  · exact hc' rfl

theorem not_mem_fileChars {scenario : String} (h : Plain scenario.toList) (hc : isWordChar c = false) (hc' : c ≠ '_') (hdot : c ≠ '.') :
    c ∉ fileChars scenario := by
  rw [fileChars_eq]
  intro hmem
  rcases List.mem_append.1 hmem with hmem | hmem
  · exact h.not_mem hc hc' hmem
  · have hletters : (['j', 's', 'o', 'n'].all isWordChar) = true := by decide
    rcases List.mem_cons.1 hmem with he | hmem
    · exact hdot he
    · rw [List.all_eq_true.1 hletters c hmem] at hc
      cases hc

theorem rootOf_eq_none (h : '/' ∉ s) : rootOf s = none := by
  fun_cases rootOf s <;> simp_all

/-- A plain name with the ending of a file is a path of one name, from the directory at hand. -/
theorem pathNames_fileChars {scenario : String} (h : Plain scenario.toList) :
    pathNames (fileChars scenario) = [scenario ++ ".json"] ∧ rootOf (fileChars scenario) = none := by
  have hslash : '/' ∉ fileChars scenario := not_mem_fileChars h (by decide) (by decide) (by decide)
  constructor
  · have hone : pieces (· = '/') (fileChars scenario) = [fileChars scenario] :=
      pieces_of_no_mark fun c hc => by simpa using fun he : c = '/' => hslash (he ▸ hc)
    have hlong : 5 ≤ (scenario ++ ".json").length := by
      rw [String.length_append]
      exact Nat.le_add_left 5 _
    have hempty : scenario ++ ".json" ≠ "" := fun he => by rw [he] at hlong; exact absurd hlong (by decide)
    have hdot : scenario ++ ".json" ≠ "." := fun he => by rw [he] at hlong; exact absurd hlong (by decide)
    rw [pathNames, hone, fileChars, List.map_singleton, String.ofList_toList]
    simp [hempty, hdot]
  · exact rootOf_eq_none hslash

/-- Whatever the directory, the file of that name in it is looked for and no other, if the name and the path are not too long. -/
theorem find_plain (d : Directory) {scenario : String} (h : Plain scenario.toList) : d.find (fileChars scenario) =
    if pathLimit < d.bytes + 1 + (scenario ++ ".json").utf8ByteSize ∨ nameLimit < (scenario ++ ".json").utf8ByteSize then .tooLong
    else d.file d.way (scenario ++ ".json") := by
  obtain ⟨hnames, hroot⟩ := pathNames_fileChars h
  have hnul : (fileChars scenario).contains '\x00' = false := by
    have hmem := not_mem_fileChars h (c := '\x00') (by decide) (by decide) (by decide)
    simpa using hmem
  have hbytes : d.pathBytes (fileChars scenario) = d.bytes + 1 + (scenario ++ ".json").utf8ByteSize := by
    rw [Directory.pathBytes, hroot, hnames, String.intercalate_singleton]
  have hfollow : d.follow 0 d.way [scenario ++ ".json"] =
      if nameLimit < (scenario ++ ".json").utf8ByteSize then .tooLong else d.file d.way (scenario ++ ".json") := by
    rw [Directory.follow]
    rfl
  rw [Directory.find, hnul, hbytes, hroot, hnames, hfollow]
  generalize scenario ++ ".json" = name
  by_cases hlong : pathLimit < d.bytes + 1 + name.utf8ByteSize <;> simp [hlong]

theorem scenarioOf_toList (t : String) : (scenarioOf t).toList = ['_'].intercalate (words isWordChar (lower t.toList)) := by
  rw [scenarioOf, String.toList_ofList, scenarioChars]

theorem scenarioOf_congr {t u : String} (h : words isWordChar (lower u.toList) = words isWordChar (lower t.toList)) :
    scenarioOf u = scenarioOf t := by
  rw [scenarioOf, scenarioChars, h]
  rfl

theorem complete_ofTranscript (m : Model) (d : Directory) (t : String) :
    ((Model.complete (Prompt.ofTranscript t)).run { m with source := .golden d }).1 =
      (reply d (scenarioOf t)).mapError fun e => .fault (.golden e) := by
  have hanswer (prompt : String) : ((Model.complete prompt).run { m with source := .golden d }).1 = Model.goldenReply d prompt := rfl
  rw [hanswer, Model.goldenReply, Prompt.transcript_ofTranscript]

/-- A scenario is the longest runs of letters and digits in the lower case of the transcript, with single underscores between them, and is
its own scenario. The reply is looked for under this name in the directory of the replies and nowhere else, so transcripts with the same
words have the same reply. -/
theorem scenario_canonical (t : String) :
    (∀ ws, Runs isWordChar (lower t.toList) ws ↔ ws = words isWordChar (lower t.toList)) ∧
    (scenarioOf t).toList = ['_'].intercalate (words isWordChar (lower t.toList)) ∧
    (scenarioOf t).toList = stripped '_' (squeezed isWordChar '_' (lower t.toList)) ∧
    Plain (scenarioOf t).toList ∧
    scenarioOf (scenarioOf t) = scenarioOf t ∧
    (∀ d : Directory, d.find (fileChars (scenarioOf t)) =
      if pathLimit < d.bytes + 1 + (scenarioOf t ++ ".json").utf8ByteSize ∨ nameLimit < (scenarioOf t ++ ".json").utf8ByteSize then
        .tooLong
      else d.file d.way (scenarioOf t ++ ".json")) ∧
    (∀ (m : Model) (d : Directory), ((Model.complete (Prompt.ofTranscript t)).run { m with source := .golden d }).1 =
      (reply d (scenarioOf t)).mapError fun e => .fault (.golden e)) ∧
    ∀ u : String, words isWordChar (lower u.toList) = words isWordChar (lower t.toList) → ∀ (m : Model) (d : Directory),
      ((Model.complete (Prompt.ofTranscript u)).run { m with source := .golden d }).1 =
        ((Model.complete (Prompt.ofTranscript t)).run { m with source := .golden d }).1 := by
  have hruns : Runs isWordChar (lower t.toList) (words isWordChar (lower t.toList)) := runs_iff.2 rfl
  have hplain : Plain (scenarioOf t).toList := by
    rw [scenarioOf_toList]
    exact plain_intercalate hruns.letters
  refine ⟨fun ws => runs_iff, scenarioOf_toList t, ?_, hplain, ?_, fun d => find_plain d hplain,
    fun m d => complete_ofTranscript m d t, fun u hu m d => ?_⟩
  · obtain ⟨l, r, hs, hl, hr, -⟩ := squeezed_of_runs '_' hruns
    rw [hs, ← scenarioOf_toList, stripped_around hl hr hplain.head hplain.last]
  · have hagain : words isWordChar (scenarioOf t).toList = words isWordChar (lower t.toList) := by
      rw [scenarioOf_toList]
      exact (words_of_runs (runs_intercalate (by decide) hruns.letters)).symm
    refine scenarioOf_congr ?_
    rw [lower_plain hplain.chars, hagain]
  · rw [complete_ofTranscript, complete_ofTranscript, scenarioOf_congr hu]

/-- Capitals, marks and even the sign of the kelvin make no difference. -/
theorem loud_command_same :
    words isWordChar (lower "MA\u212AE -- a Red rectangle!".toList) = words isWordChar (lower "make a red rectangle".toList) ∧
    ∀ (m : Model) (d : Directory),
      ((Model.complete (Prompt.ofTranscript "MA\u212AE -- a Red rectangle!")).run { m with source := .golden d }).1 =
        ((Model.complete (Prompt.ofTranscript "make a red rectangle")).run { m with source := .golden d }).1 := by
  have hwords : words isWordChar (lower "MA\u212AE -- a Red rectangle!".toList) =
      words isWordChar (lower "make a red rectangle".toList) := by decide +kernel
  obtain ⟨-, -, -, -, -, -, -, hsame⟩ := scenario_canonical "make a red rectangle"
  exact ⟨hwords, hsame _ hwords⟩

end Golden

end Easel
