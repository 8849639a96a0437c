import Easel.Document.Outline
import Easel.Proofs.Color
import Easel.Proofs.Document.Walks
import Easel.Proofs.Json.Leaves
import Easel.Proofs.Number.Brief

/-!
Outlines of pages. The layers on a page are told in the order in which they are listed, each on a line of its own whatever its name and
its text hold, and indented by its depth. The only thing that cannot be told is a number that is too large.
-/

namespace Easel

variable {s : List Char} {l : Layer} {d : Document} {id : Nat} {ids : List Nat} {n depth levels : Nat}

/-! ### Texts on one line -/

namespace Text

theorem newline_not_mem_hex (width n : Nat) : '\n' ∉ hex width n := by
  induction width generalizing n with
  | zero => exact List.not_mem_nil
  | succ width ih =>
    rw [hex, List.mem_append, List.mem_singleton]
    rintro (h | h)
    · exact ih _ h
    · exact absurd (h ▸ Json.printable_hexDigit n) (by decide)

theorem quoteMark_eq (s : List Char) : quoteMark s = '\x22' ∨ quoteMark s = '\x27' := by
  unfold quoteMark
  split
  · exact .inl rfl
  · exact .inr rfl

theorem newline_not_mem_escapeIn {quote : Char} (hq : quote ≠ '\n') (c : Char) : '\n' ∉ escapeIn quote c := by
  unfold escapeIn
  split
  · rename_i hc
    rintro h
    obtain rfl : '\n' = c := by simpa using h
    simp [hq.symm] at hc
  · split_ifs with _ hline _ _
    all_goals simp [newline_not_mem_hex]
    exact Ne.symm hline

theorem newline_not_mem_quote (s : List Char) : '\n' ∉ quote s := by
  have hmark : quoteMark s ≠ '\n' := by rcases quoteMark_eq s with h | h <;> rw [h] <;> decide
  rw [quote, List.mem_append, List.mem_cons, List.mem_flatMap, List.mem_singleton]
  rintro ((h | ⟨c, -, h⟩) | h)
  · exact hmark h.symm
  · exact newline_not_mem_escapeIn hmark c h
  · exact hmark h.symm

end Text

theorem newline_not_mem_quoted (s : String) : '\n' ∉ (quoted s).toList := by
  rw [quoted, String.toList_ofList]
  exact Text.newline_not_mem_quote s.toList

theorem newline_not_mem_idText (id : LayerId) : '\n' ∉ (LayerId.text id).toList := by
  have hdigits : '\n' ∉ Nat.toDigits 10 (id + 1) := Decimal.newline_not_mem_digitsOf (id + 1)
  have htext : (LayerId.text id).toList = "1:".toList ++ Nat.toDigits 10 (id + 1) := by
    simp only [LayerId.text, String.toList_append, ToString.toString, Nat.toList_repr]
  rw [htext, List.mem_append]
  exact not_or.2 ⟨by decide, hdigits⟩

/-! ### Lines -/

/-- A number of the look is too large to be told. -/
def Look.TooLarge (l : Look) : Prop :=
  l.x.TooLarge ∨ l.y.TooLarge ∨ ∃ s, l.size = some s ∧ (s.width.TooLarge ∨ s.height.TooLarge)

/-- Nothing stands in the place of an attribute, and the colours are such as can be read. -/
structure Look.Plain (l : Look) : Prop where
  bare : l.extras = []
  fills : ∀ colors, l.fills = some colors → ∀ c ∈ colors, c.Readable

namespace Outline

variable {α β : Type} {large large' : Prop} {result : Except Fault α} {k : α → Except Fault β} {P : α → Prop} {Q : β → Prop}

/-- Something is too large to be told, or else what is told is as `P` says. -/
def Told (large : Prop) (P : α → Prop) (result : Except Fault α) : Prop :=
  large ∧ result = .error (.number .tooLarge) ∨ ¬large ∧ ∃ a, result = .ok a ∧ P a

/-- No line ends inside the text. -/
abbrev OneLine (text : String) : Prop := '\n' ∉ text.toList

namespace Told

theorem pure {a : α} (h : P a) : Told False P (Pure.pure a) := .inr ⟨id, a, rfl, h⟩

theorem bind (h : Told large P result) (hk : ∀ a, P a → Told large' Q (k a)) : Told (large ∨ large') Q (result >>= k) := by
  obtain ⟨hlarge, rfl⟩ | ⟨hsmall, a, rfl, ha⟩ := h
  · exact .inl ⟨.inl hlarge, rfl⟩
  · have hbind : (Except.ok a >>= k) = k a := rfl
    rw [hbind]
    obtain ⟨hlarge', hr⟩ | ⟨hsmall', hr⟩ := hk a ha
    · exact .inl ⟨.inr hlarge', hr⟩
    · exact .inr ⟨not_or.2 ⟨hsmall, hsmall'⟩, hr⟩

theorem congr (h : Told large P result) (hiff : large' ↔ large) : Told large' P result := by
  rwa [Told, hiff]

theorem map {f : α → β} (h : Told large P result) (hf : ∀ a, P a → result = .ok a → Q (f a)) :
    Told large Q (do return f (← result)) := by
  obtain ⟨hlarge, rfl⟩ | ⟨hsmall, a, rfl, ha⟩ := h
  · exact .inl ⟨hlarge, rfl⟩
  · exact .inr ⟨hsmall, f a, rfl, hf a ha rfl⟩

theorem brief (n : Number) : Told n.TooLarge OneLine (brief (.num n)) := by
  have hbrief : Outline.brief (.num n) = n.brief.mapError .number := rfl
  rw [hbrief]
  obtain ⟨hlarge, h⟩ | ⟨hsmall, text, h, hline⟩ := n.brief_cases
  · exact .inl ⟨hlarge, by rw [h]; rfl⟩
  · exact .inr ⟨hsmall, text, by rw [h]; rfl, hline⟩

end Told

/-- The parts of a line that not every layer has. -/
def sizeText (l : Look) : Except Fault String :=
  match l.size with
  | none => pure ""
  | some s => do
    let width ← brief (.num s.width)
    let height ← brief (.num s.height)
    return " " ++ width ++ "x" ++ height

def fillText (l : Look) : Except Fault String :=
  match l.fills with
  | some (c :: _) => do return " fill " ++ (← c.hex.mapError .number)
  | _ => pure ""

def captionText (l : Look) : String :=
  match l.caption with
  | some t => if (Json.str t.characters).isGiven then " text " ++ quoted t.characters else ""
  | none => ""

theorem told_sizeText (l : Look) :
    Told (∃ s, l.size = some s ∧ (s.width.TooLarge ∨ s.height.TooLarge)) OneLine (sizeText l) := by
  unfold sizeText
  cases l.size with
  | none => exact (Told.pure (by decide)).congr (by simp)
  | some s =>
    have hsides : Told (s.width.TooLarge ∨ s.height.TooLarge) OneLine (do
        let width ← brief (.num s.width)
        let height ← brief (.num s.height)
        return " " ++ width ++ "x" ++ height) :=
      .bind (.brief s.width) fun width hw => (Told.brief s.height).map fun height hh _ => by
        simp [OneLine, String.toList_append, hw, hh]
    exact hsides.congr (by simp)

theorem told_fillText {l : Look} (hp : l.Plain) : Told False OneLine (fillText l) := by
  unfold fillText
  split
  · rename_i c colors hfills
    obtain ⟨text, htext, hline⟩ := (hp.fills _ hfills c List.mem_cons_self).hex
    rw [htext]
    exact .pure (by simp [OneLine, String.toList_append, hline])
  · exact .pure (by decide)

theorem newline_not_mem_captionText (l : Look) : '\n' ∉ (captionText l).toList := by
  unfold captionText
  split
  · split
    · simp [String.toList_append, newline_not_mem_quoted]
    · decide
  · decide

end Outline

namespace Layer

open Outline

/-- What every line begins with. -/
def heading (l : Layer) (id : LayerId) (depth : Nat) : String :=
  String.ofList (List.replicate (2 * depth) ' ') ++ (l.kind.name ++ " " ++ LayerId.text id ++ " " ++ quoted l.look.name)

theorem newline_not_mem_heading (l : Layer) (id : LayerId) (depth : Nat) : '\n' ∉ (l.heading id depth).toList := by
  have hkind : '\n' ∉ l.kind.name.toList := by cases l.kind <;> decide
  simp [heading, String.toList_append, hkind, newline_not_mem_idText, newline_not_mem_quoted]

theorem line_eq (hb : l.look.extras = []) (id : LayerId) (depth : Nat) : l.line id depth = (do
    let x ← brief (.num l.look.x)
    let y ← brief (.num l.look.y)
    let size ← sizeText l.look
    let fill ← fillText l.look
    return l.heading id depth ++ " at (" ++ x ++ ", " ++ y ++ ")" ++ size ++ fill ++ captionText l.look) := by
  have hown (name : String) (own : Json) : l.look.valueOf name own = own := by rw [Look.valueOf, hb]; rfl
  have hshown (s : String) : toString s = s := rfl
  unfold line sizeText fillText captionText heading
  simp only [hown, Json.quoted, hshown]
  -- With each part known to be there or not, both sides put the same texts together.
  cases l.look.size <;> rcases l.look.fills with _ | _ | ⟨c, colors⟩ <;> cases l.look.caption <;> simp [String.append_assoc]

theorem told_line (hp : l.look.Plain) (id : LayerId) (depth : Nat) : Told l.look.TooLarge OneLine (l.line id depth) := by
  rw [line_eq hp.bare]
  have hparts {x y size fill : String} (hx : OneLine x) (hy : OneLine y) (hs : OneLine size) (hf : OneLine fill) :
      OneLine (l.heading id depth ++ " at (" ++ x ++ ", " ++ y ++ ")" ++ size ++ fill ++ captionText l.look) := by
    simp [OneLine, String.toList_append, newline_not_mem_heading, newline_not_mem_captionText, hx, hy, hs, hf]
  have hline : Told (l.look.x.TooLarge ∨ l.look.y.TooLarge ∨
      (∃ s, l.look.size = some s ∧ (s.width.TooLarge ∨ s.height.TooLarge)) ∨ False) OneLine _ :=
    .bind (.brief l.look.x) fun x hx => .bind (.brief l.look.y) fun y hy => .bind (told_sizeText l.look) fun size hs =>
      (told_fillText hp).map fun fill hf _ => hparts hx hy hs hf
  exact hline.congr (by simp [Look.TooLarge])

theorem heading_of_line (hb : l.look.extras = []) {text : String} (h : l.line id depth = .ok text) :
    (l.heading id depth).toList <+: text.toList := by
  rw [line_eq hb] at h
  obtain ⟨x, -, h⟩ := Json.ok_of_bind h
  obtain ⟨y, -, h⟩ := Json.ok_of_bind h
  obtain ⟨size, -, h⟩ := Json.ok_of_bind h
  obtain ⟨fill, -, h⟩ := Json.ok_of_bind h
  cases h
  simp [String.toList_append]

end Layer

/-! ### Pages -/

namespace Document

/-- The line of a layer, which its place in the tree indents. -/
structure Describes (d : Document) (id : LayerId) (line : String) : Prop where
  single : '\n' ∉ line.toList
  told : ∃ l depth, d.layer? id = some l ∧ d.climb depth (.layer id) = some .page ∧ l.line id depth = .ok line ∧
    (l.heading id depth).toList <+: line.toList

/-- The layer cannot be told. -/
def Oversized (d : Document) (id : LayerId) : Prop := ∃ l, d.layer? id = some l ∧ l.look.TooLarge

/-- Some of the layers cannot be told, or else there is a line for each of them, in their order. -/
def Tells (d : Document) (ids : List LayerId) (result : Except Outline.Fault (List String)) : Prop :=
  Outline.Told (∃ id ∈ ids, d.Oversized id) (List.Forall₂ d.Describes ids) result

namespace Tells

variable {result rest : Except Outline.Fault (List String)} {ids' : List LayerId}

theorem nil : d.Tells [] (.ok []) := .inr ⟨by simp, [], rfl, .nil⟩

theorem append (h : d.Tells ids result) (h' : d.Tells ids' rest) :
    d.Tells (ids ++ ids') (do return (← result) ++ (← rest)) := by
  have hall : Outline.Told ((∃ id ∈ ids, d.Oversized id) ∨ ∃ id ∈ ids', d.Oversized id)
      (List.Forall₂ d.Describes (ids ++ ids')) (do return (← result) ++ (← rest)) :=
    Outline.Told.bind h fun lines hlines => Outline.Told.map h' fun lines' hlines' _ => List.rel_append hlines hlines'
  exact hall.congr (by simp [or_and_right, exists_or])

theorem flatMap {walk : LayerId → List LayerId} {f : LayerId → Except Outline.Fault (List String)}
    (h : ∀ id ∈ ids, d.Tells (walk id) (f id)) : d.Tells (ids.flatMap walk) (do return (← ids.mapM f).flatten) := by
  induction ids with
  | nil => exact .nil
  | cons id ids ih =>
    have hrest := ih fun x hx => h x (List.mem_cons_of_mem _ hx)
    have hcons := (h id List.mem_cons_self).append hrest
    rw [List.flatMap_cons, List.mapM_cons]
    simpa using hcons

theorem single (hl : d.layer? id = some l) (hp : l.look.Plain) (h : d.climb depth (.layer id) = some .page) :
    d.Tells [id] (do return [← l.line id depth]) := by
  have hdescribes (line : String) (hline : Outline.OneLine line) (he : l.line id depth = .ok line) : d.Describes id line :=
    ⟨hline, l, depth, hl, h, he, l.heading_of_line hp.bare he⟩
  have hone := (l.told_line hp id depth).map fun line hline he => List.Forall₂.cons (hdescribes line hline he) .nil
  exact hone.congr (by simp [Oversized, hl])

end Tells

theorem layer?_of_climb (h : d.climb depth (.layer id) = some .page) : ∃ l, d.layer? id = some l := by
  cases depth with
  | zero => cases h
  | succ depth =>
    obtain ⟨p, hp, -⟩ := Option.bind_eq_some_iff.1 h
    exact ⟨_, List.getElem?_eq_getElem (lt_of_parentOf hp)⟩

/-- A layer comes before what is in it, and the lines of what is in it are indented further. -/
theorem tells_outlineTo (hl : d.Linked) (hp : ∀ look ∈ d.looks, look.Plain) (h : d.climb depth (.layer id) = some .page) :
    d.Tells (d.walkTo levels id) (d.outlineTo levels depth id) := by
  induction levels generalizing depth id with
  | zero => exact .nil
  | succ levels ih =>
    obtain ⟨l, hlayer⟩ := layer?_of_climb h
    have hlook : l.look.Plain := hp _ (List.mem_map_of_mem (List.mem_of_getElem? hlayer))
    have hbelow : ∀ child ∈ d.childrenOf (.layer id), d.Tells (d.walkTo levels child) (d.outlineTo levels (depth + 1) child) := by
      intro child hchild
      apply ih
      have hparent : d.up (.layer child) = some (.layer id) := hl.mem_iff.1 hchild
      rw [climb, hparent]
      exact h
    have hall := (Tells.single hlayer hlook h).append (.flatMap hbelow)
    have hwalk : d.walkTo (levels + 1) id = [id] ++ (d.childrenOf (.layer id)).flatMap (d.walkTo levels) := rfl
    rw [hwalk, outlineTo, hlayer]
    simpa using hall

theorem tells_all (hl : d.Linked) (hp : ∀ look ∈ d.looks, look.Plain) :
    d.Tells d.all (do return (← d.pageChildren.mapM (d.outlineTo d.layers.length 1)).flatten) := by
  apply Tells.flatMap
  intro id hid
  have hparent : d.up (.layer id) = some .page := (hl.mem_iff (c := .page)).1 hid
  apply tells_outlineTo hl hp
  rw [climb, hparent]
  rfl

theorem splitOn_lines {name : String} {lines : List String} (hn : '\n' ∉ name.toList) (hlines : ∀ line ∈ lines, '\n' ∉ line.toList) :
    ("\n".intercalate (name :: lines)).toList.splitOn '\n' = name.toList :: lines.map String.toList := by
  rw [String.toList_intercalate]
  apply List.splitOn_intercalate
  · intro line hline
    rw [List.map_cons, List.mem_cons, List.mem_map] at hline
    obtain rfl | ⟨line, hmem, rfl⟩ := hline
    · exact hn
    · exact hlines line hmem
  · exact List.cons_ne_nil _ _

/-- The outline of a page cannot be told for a layer that cannot, or else it is the name of the page and then one line for each layer. -/
theorem told_outline (hl : d.Linked) (hp : ∀ look ∈ d.looks, look.Plain) (hn : '\n' ∉ d.pageName.toList) :
    Outline.Told (∃ id ∈ d.all, d.Oversized id)
      (fun text => ∃ lines, text.toList.splitOn '\n' = d.pageName.toList :: lines.map String.toList ∧
        List.Forall₂ d.Describes d.all lines) d.outline := by
  have houtline : d.outline = (do
      let lines ← (do return (← d.pageChildren.mapM (d.outlineTo d.layers.length 1)).flatten)
      return "\n".intercalate (d.pageName :: lines)) := by simp [outline]
  have hsplit (lines : List String) (hlines : List.Forall₂ d.Describes d.all lines) :
      ("\n".intercalate (d.pageName :: lines)).toList.splitOn '\n' = d.pageName.toList :: lines.map String.toList := by
    have hpaired : List.Forall₂ (fun line id => '\n' ∉ line.toList ∧ d.Describes id line) lines d.all :=
      hlines.flip.imp fun _ _ hdescribes => ⟨hdescribes.single, hdescribes⟩
    exact splitOn_lines hn ((List.forall₂_and_left lines d.all).1 hpaired).1
  rw [houtline]
  exact Outline.Told.map (tells_all hl hp) fun lines hlines _ => ⟨lines, hsplit lines hlines, hlines⟩

end Document

end Easel
