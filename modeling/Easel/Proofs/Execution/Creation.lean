import Easel.Proofs.Execution.Attaching
import Easel.Proofs.Execution.Listing

/-!
What creating actions make: layers that look as the arguments say, and where these say nothing as the operation or the kind has it,
one in each of the parents.
-/

namespace Easel.Execution

open Document Host

variable {d d' : Document} {h : Host} {a : Action} {options : ExecutionOptions} {op : Op} {look : Look} {t : Task} {k : Kind}
  {side : Number} {P : Document → Prop} {Q : Unit → Document → Prop}

/-! ### Looks from arguments -/

section Looks

variable (args : Fields)

def numberOr (name : String) (fallback : Number) : Number :=
  (args.value name).number?.getD fallback

def textOr (name fallback : String) : String :=
  (Lookup.wanted? (args.value name)).getD fallback

/-- The colour that is given, if one is; black if it cannot be read. -/
def paints : List Rgb :=
  if (args.value "color").isNull then [] else [(Rgb.ofJson? (args.value "color")).getD Rgb.black]

def placed (k : Kind) : Look :=
  { Look.initial k with
    x := numberOr args "x" defaultX
    y := numberOr args "y" defaultY }

/-- A layer of its kind, at its place and with its name. -/
def labelled (k : Kind) : Look :=
  { placed args k with name := textOr args "name" (Look.initial k).name }

/-- A layer without corners has no use for their radius. -/
def boxed (k : Kind) (side : Number) : Look :=
  { labelled args k with
    size := some ⟨numberOr args "width" side, numberOr args "height" side⟩
    fills := some (paints args)
    cornerRadius := (Look.initial k).cornerRadius.map (numberOr args "borderRadius") }

def circle : Look :=
  { labelled args .ellipse with
    size := some ⟨numberOr args "radius" defaultRadius * 2, numberOr args "radius" defaultRadius * 2⟩
    fills := some (paints args) }

def line : Look :=
  { labelled args .line with
    size := some ⟨numberOr args "width" defaultSide, 0⟩
    stroke := some ⟨paints args, numberOr args "strokeWeight" Look.plainStroke.weight⟩ }

/-- Without its font a text keeps its size. -/
def written (fontsFail : Bool) : Look :=
  { labelled args .text with
    fills := some (paints args)
    caption := some
      { characters := textOr args "text" defaultText
        fontSize := numberOr args "fontSize" (.float 12.0)
        autoResize := if fontsFail then "NONE" else fittingText } }

/-- What an operation makes, if it makes anything. -/
def made? (op : Op) (fontsFail : Bool) : Option Look :=
  match op with
  | .createRectangle => some (boxed args .rectangle defaultSide)
  | .createCircle => some (circle args)
  | .createEllipse => some (boxed args .ellipse defaultSide)
  | .createLine => some (line args)
  | .createPolygon => some (boxed args .polygon defaultSide)
  | .createStar => some (boxed args .star defaultSide)
  | .createText => some (written args fontsFail)
  | .createFrame => some (boxed args .frame defaultFrameSide)
  | _ => none

end Looks

section

variable {name text fallback : String} {number other : Number}

theorem numberOr_some (h : t.number? name = some number) : numberOr t.args name other = number := by
  have h : (t.args.value name).number? = some number := h
  rw [numberOr, h, Option.getD_some]

theorem numberOr_none (h : t.number? name = none) : numberOr t.args name other = other := by
  have h : (t.args.value name).number? = none := h
  rw [numberOr, h, Option.getD_none]

theorem textOr_eq : textOr t.args name fallback = (t.text? name).getD fallback := rfl

end

theorem paints_of_not_hasColor (hc : ¬t.hasColor = true) : paints t.args = [] := by
  have hnull : (t.args.value "color").isNull = true := by simpa [Task.hasColor] using hc
  rw [paints, if_pos hnull]

theorem initial_extras : (Look.initial k).extras = [] := by cases k <;> rfl

theorem placed_extras : (placed t.args k).extras = [] := initial_extras

/-! ### The steps that give a new layer its look -/

/-- A text in a box that is not fitted to it. -/
abbrev worded (args : Fields) (fontSize : Number) : Look :=
  { placed args .text with caption := some ⟨textOr args "text" defaultText, fontSize, "NONE"⟩ }

namespace Completes

theorem adjust_copied (f : Look → Look) : Completes (d.Copied look 1) (Execution.adjust d.layers.length f) fun _ => d.Copied (f look) 1 :=
  .call (.edit fun _ h => h.updateLook f)

/-- A new layer has nothing beside its attributes, so a changed look is a look with other attributes. -/
theorem adjust_to {look' : Look} {f : Look → Look} (hf : f look = look') :
    Completes (d.Copied look 1) (Execution.adjust d.layers.length f) fun _ => d.Copied look' 1 :=
  hf ▸ adjust_copied f

theorem lookOf_copied : Completes (d.Copied look 1) (Execution.lookOf d.layers.length) fun l d' => d.Copied look 1 d' ∧ l = look :=
  lookOf.mono (fun _ h => h) fun l d' h => ⟨h.1, by
    have hlayer : d'.layer? d.layers.length = some { look } := h.1.layer?_copy Nat.one_pos
    rw [h.2, hlayer]
    rfl⟩

theorem color_copied (hc : t.hasColor) : Completes P t.color fun c d => P d ∧ paints t.args = [c] := by
  have hgiven : (t.args.value "color").isNull = false := by simpa [Task.hasColor] using hc
  unfold Task.color paints
  rw [hgiven]
  dsimp only
  split
  · rename_i c hcolor
    rw [hcolor]
    exact .pure fun _ h => ⟨h, rfl⟩
  · rename_i hcolor
    rw [hcolor]
    exact .bind .emit fun _ => .pure fun _ h => ⟨h, rfl⟩

theorem place_copied : Completes (d.Copied (Look.initial k) 1) (place t d.layers.length) fun _ => d.Copied (placed t.args k) 1 := by
  refine adjust_to ?_
  rw [Look.moveTo, Look.forget, placed, initial_extras]
  rfl

section Steps

variable (hx : look.extras = [])

include hx

theorem resize_copied (hsize : look.size.isSome) (width height : Number) :
    Completes (d.Copied look 1) (Execution.adjust d.layers.length (·.resize width height)) fun _ =>
      d.Copied { look with size := some ⟨width, height⟩ } 1 := by
  obtain ⟨size, hsize⟩ := Option.isSome_iff_exists.1 hsize
  refine adjust_to ?_
  rw [Look.resize, Look.resizeTo, Look.forget, hx, hsize]
  rfl

theorem applyName_copied : Completes (d.Copied look 1) (applyName t d.layers.length) fun _ =>
    d.Copied { look with name := textOr t.args "name" look.name } 1 := by
  unfold applyName
  rw [textOr_eq]
  cases t.text? "name" with
  | none => exact .pure fun _ h => h
  | some name =>
    refine adjust_to ?_
    rw [Look.rename, Look.forget, hx]
    rfl

theorem applyFill_copied (hf : look.fills = some []) : Completes (d.Copied look 1) (applyFill t d.layers.length) fun _ =>
    d.Copied { look with fills := some (paints t.args) } 1 := by
  refine .bind lookOf_copied fun l => .intro ?_
  rintro d' ⟨h, rfl⟩
  have hfit : canFill l = true := by rw [canFill, hf]; rfl
  rw [hfit, Bool.and_true]
  split
  · rename_i hc
    refine .bind (color_copied hc) fun c => .intro ?_
    rintro d₁ ⟨rfl, hp⟩
    refine (adjust_to ?_).mono (fun _ he => he ▸ h) fun _ _ h => h
    rw [Look.fill, Look.forget, hx, hp, hf]
    rfl
  · rename_i hc
    refine .pure fun _ he => ?_
    rw [he, paints_of_not_hasColor hc, ← hf]
    exact h

end Steps

theorem applyCorner_copied : Completes (d.Copied look 1) (applyCorner t d.layers.length) fun _ =>
    d.Copied { look with cornerRadius := look.cornerRadius.map (numberOr t.args "borderRadius") } 1 := by
  unfold applyCorner
  cases hr : t.number? "borderRadius" with
  | none =>
    rw [show numberOr t.args "borderRadius" = id from funext fun _ => numberOr_none hr, Option.map_id]
    exact .pure fun _ h => h
  | some r =>
    rw [show numberOr t.args "borderRadius" = fun _ => r from funext fun _ => numberOr_some hr]
    exact adjust_to rfl

/-! ### The creators -/

theorem createKind_copied {rest : LayerId → Handler Unit} (h : Completes (d.Copied (Look.initial k) 1) (rest d.layers.length) Q) :
    Completes (fun d' => d' = d) ((liftM (Host.createKind k) : Handler LayerId) >>= rest) Q := by
  have hcreate : Completes (fun d' => d' = d) (liftM (Host.createKind k)) fun id d' =>
      d.Copied (Look.initial k) 1 d' ∧ id = d.layers.length := by
    refine .call (.create ?_)
    rintro d' rfl
    exact ⟨.first, rfl⟩
  refine .bind hcreate fun id => .intro ?_
  rintro d' ⟨hd, rfl⟩
  exact h.mono (fun _ he => he ▸ hd) fun _ _ h => h

theorem setCharacters_copied : Completes (d.Copied (placed t.args .text) 1)
    (adjust d.layers.length fun l => { l with caption := l.caption.map ({ · with characters := (t.text? "text").getD defaultText }) })
    fun _ => d.Copied (worded t.args (.float 12.0)) 1 :=
  adjust_to rfl

theorem setFontSize_copied (fontSize : Number) : Completes (d.Copied (worded t.args (.float 12.0)) 1)
    (adjust d.layers.length fun l => { l with caption := l.caption.map ({ · with fontSize }) })
    fun _ => d.Copied (worded t.args fontSize) 1 :=
  adjust_to rfl

theorem loadFont_none (hq : h.faults = Faults.none) (family style : String) : (Host.loadFont family style).run h =
    if h.document.fontsFail then (.error (.fontUnavailable family style), { h with calls := h.calls + 1 })
    else (.ok (), { h with document := h.document.addFont family style, calls := h.calls + 1 }) := by
  unfold Host.loadFont
  rw [run_bind_eq, enter_none hq]
  dsimp only
  rw [run_bind_eq, view_run]
  dsimp only
  split <;> rfl

/-- Where no call fails, whether a font can be loaded is up to the document. -/
theorem loadFont_copied (hq : h.faults = Faults.none) (hc : d.Copied look 1 h.document) (hf : h.document.fontsFail = d.fontsFail)
    (family style : String) : ∃ loaded h', (Host.loadFont family style).run h = (loaded, h') ∧ Fair h' ∧
      d.Copied look 1 h'.document ∧ loaded.isOk = !d.fontsFail := by
  rw [loadFont_none hq, ← hf]
  cases h.document.fontsFail with
  | true => exact ⟨_, _, rfl, fair_of_none hq, hc, rfl⟩
  | false =>
    refine ⟨_, _, rfl, fair_of_none hq, ?_, rfl⟩
    show d.Copied look 1 (h.document.addFont family style)
    unfold addFont
    split
    · exact hc
    · exact ⟨hc.layers, hc.page⟩

section Creators

variable (hs : d.Sound)

include hs

theorem createBox_attached (hk : (Look.initial k).fills = some []) (hsize : (Look.initial k).size.isSome) :
    Completes (fun d' => d' = d) (createBox t k side) fun _ => Attached d (d.parentsOf t.args) (boxed t.args k side) := by
  -- Each step starts from the look that the one before it leaves.
  have hx : (placed t.args k).extras = [] := placed_extras
  refine createKind_copied (.bind place_copied fun _ => .bind (resize_copied hx hsize _ _) fun _ => ?_)
  refine .bind (applyFill_copied (by exact hx) (by exact hk)) fun _ => .bind applyCorner_copied fun _ => ?_
  exact .bind (applyName_copied (by exact hx)) fun _ => finish_attached hs

theorem createCircle_attached :
    Completes (fun d' => d' = d) (createCircle t) fun _ => Attached d (d.parentsOf t.args) (circle t.args) :=
  createKind_copied <| .bind place_copied fun _ => .bind (resize_copied rfl rfl _ _) fun _ =>
    .bind (applyFill_copied rfl rfl) fun _ => .bind (applyName_copied rfl) fun _ => finish_attached hs

theorem createLine_attached :
    Completes (fun d' => d' = d) (createLine t) fun _ => Attached d (d.parentsOf t.args) (line t.args) := by
  refine createKind_copied (.bind place_copied fun _ => .bind (resize_copied rfl rfl _ _) fun _ => ?_)
  have hnamed : Completes (d.Copied { placed t.args .line with
      size := some ⟨numberOr t.args "width" defaultSide, 0⟩
      stroke := some ⟨paints t.args, numberOr t.args "strokeWeight" Look.plainStroke.weight⟩ } 1)
      (do applyName t d.layers.length; finish t d.layers.length) fun _ => Attached d (d.parentsOf t.args) (line t.args) :=
    .bind (applyName_copied rfl) fun _ => finish_attached hs
  dsimp only
  split
  · rename_i hc
    refine .bind (color_copied hc) fun c => .intro ?_
    rintro d' ⟨h, hp⟩
    refine .bind ((adjust_to ?_).mono (fun _ he => he ▸ h) fun _ _ h => h) fun _ => hnamed
    rw [hp]
    rfl
  · rename_i hc
    rw [paints_of_not_hasColor hc] at hnamed
    cases hw : t.number? "strokeWeight" with
    | none =>
      rw [numberOr_none hw] at hnamed
      exact hnamed
    | some weight =>
      rw [numberOr_some hw] at hnamed
      exact .bind (adjust_to rfl) fun _ => hnamed

theorem written_attached {loaded : Except HostError Unit} (hok : loaded.isOk = !d.fontsFail) :
    Completes (d.Copied (worded t.args (numberOr t.args "fontSize" (.float 12.0))) 1)
      (do
        applyFill t d.layers.length
        applyName t d.layers.length
        if loaded.isOk then
          adjust d.layers.length fun l => { l with caption := l.caption.map ({ · with autoResize := fittingText }) }
        finish t d.layers.length)
      fun _ => Attached d (d.parentsOf t.args) (written t.args d.fontsFail) := by
  refine .bind (applyFill_copied rfl rfl) fun _ => .bind (applyName_copied rfl) fun _ => ?_
  rw [hok]
  have hfinish {look : Look} : Completes (d.Copied look 1) (finish t d.layers.length) fun _ => Attached d (d.parentsOf t.args) look :=
    finish_attached hs
  generalize d.fontsFail = fails
  cases fails with
  | true => exact hfinish
  | false => exact .bind (adjust_to rfl) fun _ => hfinish

theorem createText_attached (hq : h.faults = Faults.none) (hd : h.document = d) :
    Leads (fun r => r = ⟨h, []⟩) (createText t)
      (fun _ r => Fair r.host ∧ Attached d (d.parentsOf t.args) (written t.args d.fontsFail) r.host.document) fun _ _ => False := by
  rintro _ rfl
  subst hd
  obtain ⟨h₁, hcreate, hq₁, hc₁, hf₁⟩ : ∃ h₁ : Host, (liftM (Host.createKind .text) : Handler LayerId).run ⟨h, []⟩ =
      (.ok h.document.layers.length, ⟨h₁, []⟩) ∧ h₁.faults = Faults.none ∧
      h.document.Copied (Look.initial .text) 1 h₁.document ∧ h₁.document.fontsFail = h.document.fontsFail :=
    ⟨{ h with document := (h.document.create (Look.initial .text)).2, calls := h.calls + 1 },
      Handler.call_ok (by rw [createKind, create_run, enter_none hq]), hq, .first, rfl⟩
  obtain ⟨h₂, hplace, hq₂, hc₂, hf₂⟩ : ∃ h₂ : Host, (place t h.document.layers.length).run ⟨h₁, []⟩ = (.ok (), ⟨h₂, []⟩) ∧
      h₂.faults = Faults.none ∧ h.document.Copied (placed t.args .text) 1 h₂.document ∧
      h₂.document.fontsFail = h.document.fontsFail :=
    ⟨_, Handler.call_ok (edit_run _ _), hq₁, hc₁.updateLook (·.moveTo (t.number "x" defaultX) (t.number "y" defaultY)), hf₁⟩
  obtain ⟨loaded, h₃, hload, hfair, hc₃, hok⟩ := loadFont_copied hq₂ hc₂ hf₂ defaultFontFamily defaultFontStyle
  unfold createText
  rw [run_bind_ok hcreate, run_bind_ok hplace, run_bind_ok (Handler.attempt_run _ _)]
  dsimp only
  rw [hload]
  have hnamed := written_attached (t := t) hs hok
  cases hsize : t.number? "fontSize" with
  | none =>
    rw [numberOr_none hsize] at hnamed
    have htext := Completes.bind setCharacters_copied fun _ => hnamed
    cases loaded with
    | ok => exact htext ⟨h₃, []⟩ ⟨hfair, hc₃⟩
    | error e => exact (Completes.bind .emit fun _ => htext) ⟨h₃, []⟩ ⟨hfair, hc₃⟩
  | some size =>
    rw [numberOr_some hsize] at hnamed
    have htext := Completes.bind setCharacters_copied fun _ => Completes.bind (setFontSize_copied size) fun _ => hnamed
    cases loaded with
    | ok => exact htext ⟨h₃, []⟩ ⟨hfair, hc₃⟩
    | error e => exact (Completes.bind .emit fun _ => htext) ⟨h₃, []⟩ ⟨hfair, hc₃⟩

end Creators

end Completes

/-! ### Creating actions -/

theorem handle_attached (hs : h.document.Sound) (hq : h.faults = Faults.none) (hc : op.spec.category = .create) (t : Task) :
    ∃ look, made? t.args op h.document.fontsFail = some look ∧
      Leads (fun r => r = ⟨h, []⟩) (handle op t)
        (fun _ r => Fair r.host ∧ Attached h.document (h.document.parentsOf t.args) look r.host.document) fun _ _ => False := by
  have hleads {m : Handler Unit} {look : Look}
      (hm : Completes (fun d => d = h.document) m fun _ => Attached h.document (h.document.parentsOf t.args) look) :
      Leads (fun r => r = ⟨h, []⟩) m
        (fun _ r => Fair r.host ∧ Attached h.document (h.document.parentsOf t.args) look r.host.document) fun _ _ => False := by
    rintro _ rfl
    exact hm ⟨h, []⟩ ⟨fair_of_none hq, rfl⟩
  cases op with
  | createRectangle | createEllipse | createPolygon | createStar | createFrame =>
    exact ⟨_, rfl, hleads (.createBox_attached hs rfl rfl)⟩
  | createCircle => exact ⟨_, rfl, hleads (.createCircle_attached hs)⟩
  | createLine => exact ⟨_, rfl, hleads (.createLine_attached hs)⟩
  | createText => exact ⟨_, rfl, Completes.createText_attached hs hq rfl⟩
  | _ => cases hc

/-- One new layer for each parent that is found, or one on the page, as the arguments say, and nothing else moves. -/
theorem creation_hangs_copies (hr : Reachable h) (hq : h.faults = Faults.none) (ha : opOf? a = some op)
    (hc : op.spec.category = .create) (options : ExecutionOptions) :
    (perform options a h).1 = .succeeded ∧ ∃ look, made? a.args op h.document.fontsFail = some look ∧
      h.document.Creates (perform options a h).2.2.document (h.document.parentsOf a.args) look := by
  have hs : h.document.Sound := hr.sound
  obtain ⟨look, hlook, hm⟩ := handle_attached hs hq hc (taskOf options a)
  have hsound : (perform options a h).2.2.document.Sound := (perform_sound options a hs).1
  have hrun := hm ⟨h, []⟩ rfl
  rw [perform_eq, apply_of_opOf? ha] at hsound ⊢
  rcases he : (handle op (taskOf options a)).run ⟨h, []⟩ with ⟨e | u, r⟩ <;> rw [he] at hrun hsound
  · exact hrun.elim
  · obtain ⟨-, d₁, h₁, h'⟩ := hrun
    refine ⟨rfl, look, hlook, creates h₁ h' hs.linked hsound.linked (fun p hp => ?_) (nodup_parentsOf hs.linked _)⟩
    exact (mem_all hs.linked).1 (mem_parentsOf hp)

/-- A frame, and a rectangle whose name begins with that of the frame. -/
def shelf : Host :=
  ((runActions {} [⟨"create_frame", [("name", .str "a")], .null⟩, ⟨"create_rectangle", [("name", .str "ab")], .null⟩]).run {}).2

theorem parentsOf_shelf : shelf.document.parentsOf [("parentId", .str "a"), ("radius", .num 0)] = [0, 1] := by
  have hw : Lookup.wanted? (Fields.value [("parentId", .str "a"), ("radius", .num 0)] "parentId") = some "a" := by decide +kernel
  have hall : shelf.document.all = [0, 1] := by decide +kernel
  have hid : shelf.document.all.find? (LayerId.text · = "a") = none := by decide +kernel
  have hpair (le : Nat → Nat → Bool) (h : le 0 1 = true) : [0, 1].mergeSort le = [0, 1] := by simp [List.mergeSort, h]
  rw [parentsOf, hw]
  dsimp only
  rw [referred, hid, hall]
  dsimp only
  unfold Lookup.ranked
  dsimp only
  rw [show List.filter _ [0, 1] = [0, 1] by decide +kernel, hpair _ (by decide +kernel)]

/-- A circle without extent, of which one copy is in the frame and one, for the rectangle, on the page. -/
theorem shelf_filled : (perform {} ⟨"create_circle", [("parentId", .str "a"), ("radius", .num 0)], .null⟩ shelf).1 = .succeeded ∧
    (perform {} ⟨"create_circle", [("parentId", .str "a"), ("radius", .num 0)], .null⟩ shelf).2.2.document.childrenOf (.layer 0) = [2] ∧
    (perform {} ⟨"create_circle", [("parentId", .str "a"), ("radius", .num 0)], .null⟩ shelf).2.2.document.pageChildren = [0, 1, 3] := by
  have hr : Reaches (fun _ _ => True) {} shelf := runActions_reaches {} _ {}
  have hq : shelf.faults = Faults.none := hr.rel Host.stepwise_faults
  have ha : opOf? ⟨"create_circle", [("parentId", .str "a"), ("radius", .num 0)], .null⟩ = some .createCircle := by decide +kernel
  obtain ⟨hok, look, hlook, hcreates⟩ := creation_hangs_copies ⟨{}, ⟨"Page 1", false, rfl⟩, hr⟩ hq ha rfl {}
  rw [show shelf.document.parentsOf _ = [0, 1] from parentsOf_shelf] at hcreates
  have hinside := hcreates.inside 0 (by decide) (by decide +kernel)
  exact ⟨hok, hinside.trans (by decide +kernel), hcreates.page.trans (by decide +kernel)⟩

end Easel.Execution
