import Easel.Proofs.Document.Outline
import Easel.Proofs.Execution.Safety

/-!
Outlines of what batches leave. Whatever layers are called and whatever they say, there is one line for each layer on the page, in the
order of the page. An outline fails only for a whole number beyond the largest binary64 number, which an action gave as a place or a size.
-/

namespace Easel

open Document

/-- The name of the page is laid down for good. -/
theorem Host.stepwise_pageName : Host.Stepwise fun h h' => h'.document.pageName = h.document.pageName where
  refl _ := rfl
  trans h h' := h'.trans h
  enter _ := rfl
  create _ _ := rfl
  edit {f} hf h := by
    have hname {d d' : Document} (hb : d'.beside = d.beside) : d'.pageName = d.pageName := by
      have hpage := congrArg (fun d₀ : Document => d₀.pageName) hb
      exact hpage
    cases hf with
    | look => exact hname beside_update
    | append | insert => exact hname beside_attach
    | remove => exact hname beside_remove
    | removeLive id =>
      dsimp only
      split
      · rfl
      · exact hname beside_remove
    | gather => exact hname beside_gather
    | dissolve => exact hname beside_dissolve
    | select | zoom | notify | putData => rfl
    | addFont family style =>
      dsimp only [addFont]
      split <;> rfl

/-- The numbers that say where a layer is, and of what size. -/
def Op.measures (op : Op) : List String :=
  (op.spec.fields.map (·.name)).filter (["x", "y", "width", "height", "radius"].contains ·)

namespace Execution

variable {options : ExecutionOptions} {a : Action} {op : Op} {h : Host} {actions : List Action} {name : String} {n side : Number}

/-- The measure of a layer that an argument makes. -/
def measure (name : String) (n : Number) : Number := if name = "radius" then n * 2 else n

/-- An action that passes the check makes a measure that is too large to be told. -/
def GivesHuge (actions : List Action) : Prop :=
  ∃ a ∈ actions, ∃ op, opOf? a = some op ∧ ∃ name ∈ op.measures, ∃ n, a.args.value name = .num n ∧ (measure name n).TooLarge

/-- The number can be told, or one of the actions gave one that cannot. -/
def Modest (actions : List Action) (n : Number) : Prop := n.TooLarge → GivesHuge actions

theorem modest_int {v : Int} (hv : v.natAbs < Binary64.midpoint) : Modest actions (.int v) :=
  fun hlarge => absurd hlarge (Nat.not_le.2 hv)

theorem modest_float {x : Float} : Modest actions (.float x) := fun hlarge => hlarge.elim

theorem Modest.getD {given : Option Number} (hn : Modest actions n) (hgiven : ∀ m, given = some m → Modest actions m) :
    Modest actions (given.getD n) := by
  cases given with
  | none => exact hn
  | some m => exact hgiven m rfl

theorem modest_of_number? (ha : opOf? a = some op) (hmem : a ∈ actions) (hname : name ∈ op.measures)
    (hn : (taskOf options a).number? name = some n) : Modest actions (measure name n) :=
  fun hlarge => ⟨a, hmem, op, ha, name, hname, n, value_of_number? hn, hlarge⟩

theorem mem_measures {f : FieldSpec} (hf : f ∈ op.spec.fields) (hname : ["x", "y", "width", "height", "radius"].contains f.name) :
    f.name ∈ op.measures :=
  List.mem_filter.2 ⟨List.mem_map_of_mem hf, hname⟩

theorem modest_of_number (ha : opOf? a = some op) (hmem : a ∈ actions) (hname : name ∈ op.measures)
    (hside : Modest actions (measure name side)) : Modest actions (measure name ((taskOf options a).number name side)) := by
  unfold Task.number
  cases hn : (taskOf options a).number? name with
  | none => exact hside
  | some n => exact modest_of_number? ha hmem hname hn

/-! ### Looks -/

/-- A look can be told as far as no action gave it a number that cannot. -/
structure Tellable (actions : List Action) (l : Look) : Prop where
  plain : l.Plain
  x : Modest actions l.x
  y : Modest actions l.y
  sides : ∀ s, l.size = some s → Modest actions s.width ∧ Modest actions s.height

theorem tellable_initial (k : Kind) : Tellable actions (Look.initial k) where
  plain := by
    refine ⟨by cases k <;> rfl, fun colors hcolors c hc => ?_⟩
    cases k <;> cases hcolors <;> cases hc
  x := by cases k <;> exact modest_float
  y := by cases k <;> exact modest_float
  sides s hs := by cases k <;> cases hs <;> exact ⟨modest_float, modest_float⟩

theorem Tellable.of_eq {l l' : Look} (hl : Tellable actions l) (hb : Bare l') (hx : l'.x = l.x) (hy : l'.y = l.y)
    (hs : l'.size = l.size) (hf : l'.fills = l.fills) : Tellable actions l' where
  plain := ⟨hb, hf ▸ hl.plain.fills⟩
  x := hx ▸ hl.x
  y := hy ▸ hl.y
  sides s := hs ▸ hl.sides s

theorem Tellable.moveTo {l : Look} (hl : Tellable actions l) {x y : Option Number} (hb : Bare (l.moveTo x y))
    (hx : Modest actions (x.getD l.x)) (hy : Modest actions (y.getD l.y)) : Tellable actions (l.moveTo x y) where
  plain := ⟨hb, hl.plain.fills⟩
  x := hx
  y := hy
  sides := hl.sides

theorem Tellable.resizeTo {l : Look} (hl : Tellable actions l) {width height : Option Number} (hb : Bare (l.resizeTo width height))
    (hsides : ∀ s, l.size = some s → Modest actions (width.getD s.width) ∧ Modest actions (height.getD s.height)) :
    Tellable actions (l.resizeTo width height) where
  plain := ⟨hb, hl.plain.fills⟩
  x := hl.x
  y := hl.y
  sides s hs := by
    obtain ⟨old, ho, rfl⟩ := Option.map_eq_some_iff.1 hs
    exact hsides old ho

theorem Tellable.fill {l : Look} (hl : Tellable actions l) {c : Rgb} (hb : Bare (l.fill c)) (hc : c.Readable) :
    Tellable actions (l.fill c) where
  plain := by
    refine ⟨hb, fun colors hcolors c' hc' => ?_⟩
    obtain ⟨old, -, rfl⟩ := Option.map_eq_some_iff.1 hcolors
    rw [List.mem_singleton.1 hc']
    exact hc
  x := hl.x
  y := hl.y
  sides := hl.sides

theorem suits_tellable (ha : opOf? a = some op) (hmem : a ∈ actions) : Suits (taskOf options a) op (Tellable actions) where
  initial := tellable_initial
  change f hf l hl := by
    have hb : Bare (f l) := (suits_bare _ op).change f hf l hl.plain.bare
    cases hf with
    | rename | turn | outline | weight | corner | caption | fade => exact hl.of_eq hb rfl rfl rfl rfl
    | fill _ c hc => exact hl.fill hb hc
    | place _ hop =>
      have hx : Modest actions (measure "x" ((taskOf options a).number "x" defaultX)) :=
        modest_of_number ha hmem (mem_measures hop.1 rfl) (modest_int (by decide +kernel))
      have hy : Modest actions (measure "y" ((taskOf options a).number "y" defaultY)) :=
        modest_of_number ha hmem (mem_measures hop.2 rfl) (modest_int (by decide +kernel))
      exact hl.moveTo hb hx hy
    | moveTo =>
      apply hl.moveTo hb
      · exact hl.x.getD fun n hn => modest_of_number? ha hmem (by decide) hn
      · exact hl.y.getD fun n hn => modest_of_number? ha hmem (by decide) hn
    | box _ side hop hs =>
      have hside : Modest actions side := by rcases hs with rfl | rfl <;> exact modest_int (by decide +kernel)
      have hwidth : Op.widthField ∈ op.spec.fields := hop.1 (by simp [Op.boxFields])
      have hheight : Op.heightField ∈ op.spec.fields := hop.1 (by simp [Op.boxFields])
      have hw : Modest actions (measure "width" ((taskOf options a).number "width" side)) :=
        modest_of_number ha hmem (mem_measures hwidth rfl) hside
      have hh : Modest actions (measure "height" ((taskOf options a).number "height" side)) :=
        modest_of_number ha hmem (mem_measures hheight rfl) hside
      exact hl.resizeTo hb fun _ _ => ⟨hw, hh⟩
    | circle =>
      have hdiameter : Modest actions (measure "radius" ((taskOf options a).number "radius" defaultRadius)) :=
        modest_of_number ha hmem (by decide) (modest_int (by decide +kernel))
      exact hl.resizeTo hb fun _ _ => ⟨hdiameter, hdiameter⟩
    | line =>
      have hw : Modest actions (measure "width" ((taskOf options a).number "width" defaultSide)) :=
        modest_of_number ha hmem (by decide) (modest_int (by decide +kernel))
      exact hl.resizeTo hb fun _ _ => ⟨hw, modest_int (by decide +kernel)⟩
    | resizeTo =>
      apply hl.resizeTo hb
      intro s hs
      obtain ⟨hw, hh⟩ := hl.sides s hs
      constructor
      · exact hw.getD fun n hn => modest_of_number? ha hmem (by decide) hn
      · exact hh.getD fun n hn => modest_of_number? ha hmem (by decide) hn

/-- A layer that cannot be told has a number that an action gave. -/
theorem givesHuge_of_oversized {d : Document} (hd : d.Drawn (Tellable actions)) {id : LayerId} (hid : d.Oversized id) :
    GivesHuge actions := by
  obtain ⟨l, hl, hlarge⟩ := hid
  have htell : Tellable actions l.look := hd l.look (List.mem_map_of_mem (List.mem_of_getElem? hl))
  obtain hx | hy | ⟨s, hs, hw | hh⟩ := hlarge
  · exact htell.x hx
  · exact htell.y hy
  · exact (htell.sides s hs).1 hw
  · exact (htell.sides s hs).2 hh

/-- However many batches were carried out on a host that began blank, and whatever calls failed, the page can be outlined if no action
gave a number that is too large; and an outline fails for a layer with such a number, and for nothing else. An outline has the name of the
page and then one line for each layer, in the order in which the layers are listed. -/
theorem outline_unless_huge (hb : Blank h) (hn : '\n' ∉ h.document.pageName.toList) (batches : Batches) :
    let d := (afterBatches batches h).document
    (¬GivesHuge batches.actions → ∃ text, d.outline = .ok text) ∧
      (∀ fault, d.outline = .error fault ↔ fault = .number .tooLarge ∧ ∃ id ∈ d.all, d.Oversized id) ∧
      ∀ text, d.outline = .ok text → ∃ lines,
        text.toList.splitOn '\n' = h.document.pageName.toList :: lines.map String.toList ∧ List.Forall₂ d.Describes d.all lines := by
  intro d
  have hr : Reaches (fun _ a => a ∈ batches.actions) h (afterBatches batches h) := afterBatches_reaches (fun _ _ ha => ha) h
  have hdrawn : d.Drawn (Tellable batches.actions) :=
    hr.drawn_of (fun _ options a op hmem ha => suits_tellable ha hmem) hb.drawn
  have hname : d.pageName = h.document.pageName := hr.rel Host.stepwise_pageName
  rw [← hname] at hn ⊢
  obtain ⟨hlarge, herror⟩ | ⟨hsmall, text, hok, lines, hsplit, hlines⟩ :=
    told_outline (hr.sound (blank_sound hb)).linked (fun l hl => (hdrawn l hl).plain) hn
  · rw [herror]
    have hgives : GivesHuge batches.actions := by
      obtain ⟨id, -, hid⟩ := hlarge
      exact givesHuge_of_oversized hdrawn hid
    refine ⟨fun hno => absurd hgives hno, fun fault => ?_, nofun⟩
    constructor
    · rintro ⟨⟩
      exact ⟨rfl, hlarge⟩
    · rintro ⟨rfl, -⟩
      rfl
  · rw [hok]
    refine ⟨fun _ => ⟨text, rfl⟩, fun fault => iff_of_false nofun fun hfault => hsmall hfault.2, ?_⟩
    rintro _ ⟨⟩
    exact ⟨lines, hsplit, hlines⟩

/-- A name with a line end takes one line, and a rectangle that is put too far off cannot be told. -/
theorem huge_not_told :
    let rectangle (x : Int) : Batches :=
      [({}, [.inr ⟨"create_rectangle", [("name", .str "a\nb"), ("x", .num (.int x))], .null⟩])]
    let near := (afterBatches (rectangle 7) {}).document
    let far := (afterBatches (rectangle (10 ^ 400)) {}).document
    Blank {} ∧ '\n' ∉ ({} : Host).document.pageName.toList ∧
      (∃ text line, near.outline = .ok text ∧ text.toList.splitOn '\n' = ["Page 1".toList, line.toList] ∧ near.Describes 0 line) ∧
      far.outline = .error (.number .tooLarge) := by
  intro rectangle near far
  have hb : Blank {} := ⟨"Page 1", false, rfl⟩
  have hn : '\n' ∉ ({} : Host).document.pageName.toList := by decide
  have hnear := outline_unless_huge hb hn (rectangle 7)
  have hmodest : ¬GivesHuge (rectangle 7).actions := by
    rintro ⟨a, ha, op, hop, name, hname, n, hv, hlarge⟩
    obtain rfl := List.mem_singleton.1 ha
    obtain rfl : op = .createRectangle := Option.some.inj (hop.symm.trans rfl)
    have hnames : Op.measures .createRectangle = ["x", "y", "width", "height"] := by decide
    rw [hnames] at hname
    fin_cases hname <;> cases hv
    exact absurd hlarge (by decide +kernel)
  have hall : near.all = [0] := by decide +kernel
  obtain ⟨text, htext⟩ := hnear.1 hmodest
  obtain ⟨lines, hsplit, hlines⟩ := hnear.2.2 text htext
  refine ⟨hb, hn, ?_, ?_⟩
  · have hlines : List.Forall₂ near.Describes [0] lines := hall ▸ hlines
    cases hlines with
    | cons hline hrest =>
      cases hrest
      exact ⟨text, _, htext, hsplit, hline⟩
  · have hfar : (far.layer? 0).any fun l => decide l.look.x.TooLarge := by decide +kernel
    obtain ⟨l, hl, hx⟩ := Option.any_eq_true _ _ |>.1 hfar
    have hmem : 0 ∈ far.all := by decide +kernel
    exact ((outline_unless_huge hb hn (rectangle (10 ^ 400))).2.1 _).2 ⟨rfl, 0, hmem, l, hl, .inl (of_decide_eq_true hx)⟩

end Execution

end Easel
