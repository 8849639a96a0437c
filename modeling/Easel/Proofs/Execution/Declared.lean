import Easel.Proofs.Document.Edits
import Easel.Proofs.Execution.Accounting

/-!
Which arguments count. An action is checked and carried out by the fields that are declared for its operation, whatever else its
arguments hold. One operation is an exception: a line has no height, but is refused if it is given one below zero.
-/

namespace Easel

namespace Op

def fieldNames (op : Op) : List String := op.spec.fields.map (·.name)

end Op

/-- The same values under all of the names. A null is as good as nothing. -/
def Fields.Agree (names : List String) (args args' : Fields) : Prop := ∀ name ∈ names, args'.value name = args.value name

/-! ### The check -/

namespace Validation

variable {op : Op} {args args' : Fields} {name : String}

def IsNegative (v : Json) : Prop := ∃ n, v = .num n ∧ n < 0

theorem checkSign_of_negative (h : IsNegative (args.value name)) : checkSign args name = [.negative name] := by
  obtain ⟨n, hv, hn⟩ := h
  rw [checkSign, hv]
  exact if_pos hn

theorem checkSign_of_not_negative (h : ¬IsNegative (args.value name)) : checkSign args name = [] := by
  unfold checkSign
  split
  · rename_i n hv
    exact if_neg fun hn => h ⟨n, hv, hn⟩
  · rfl

theorem checkSign_eq_iff :
    checkSign args' name = checkSign args name ↔ (IsNegative (args'.value name) ↔ IsNegative (args.value name)) := by
  by_cases h' : IsNegative (args'.value name) <;> by_cases h : IsNegative (args.value name) <;>
    simp [checkSign_of_negative, checkSign_of_not_negative, h, h']

/-- Numbers below zero are looked for in declared fields, but also in the height of a line. -/
theorem nonNegative_declared (op : Op) :
    op.spec.nonNegative = if op = .createLine then ["width", "height"] else op.spec.nonNegative.filter (· ∈ op.fieldNames) := by
  cases op <;> rfl

theorem required_declared (op : Op) : ∀ name ∈ op.spec.required, name ∈ op.fieldNames := by
  cases op <;> decide

/-- The check of the declared fields alone. -/
def checkDeclared (op : Op) (args : Fields) : List Objection :=
  op.spec.required.flatMap (fun name => if (args.value name).isNull then [.missing op.spec.name name] else []) ++
    op.spec.fields.flatMap (fun f => checkField f (args.value f.name)) ++
      (op.spec.nonNegative.filter (· ∈ op.fieldNames)).flatMap (checkSign args)

theorem checkArgs_eq (op : Op) (args : Fields) :
    checkArgs op.spec args = checkDeclared op args ++ if op = .createLine then checkSign args "height" else [] := by
  unfold checkArgs checkDeclared
  by_cases hop : op = .createLine
  · subst hop
    have hdeclared : Op.createLine.spec.nonNegative.filter (· ∈ Op.createLine.fieldNames) = ["width"] := by decide
    have hsigns : Op.createLine.spec.nonNegative = ["width", "height"] := rfl
    rw [hdeclared, hsigns, if_pos rfl]
    simp only [List.flatMap_cons, List.flatMap_nil, List.append_nil, List.append_assoc]
  · have hsigns := nonNegative_declared op
    rw [if_neg hop] at hsigns
    rw [if_neg hop, List.append_nil, ← hsigns]

theorem checkDeclared_congr (h : args.Agree op.fieldNames args') : checkDeclared op args' = checkDeclared op args := by
  unfold checkDeclared
  congr 1
  · congr 1
    · exact List.flatMap_congr fun name hn => by rw [h name (required_declared op name hn)]
    · exact List.flatMap_congr fun f hf => by rw [h f.name (List.mem_map_of_mem hf)]
  · refine List.flatMap_congr fun name hn => ?_
    rw [checkSign, h name (of_decide_eq_true (List.mem_filter.1 hn).2), checkSign]

theorem objections_eq (op : Op) (args : Fields) (target : Json) :
    (⟨op.name, args, target⟩ : Action).objections =
      check.checkTarget target ++ checkDeclared op args ++ if op = .createLine then checkSign args "height" else [] := by
  have hknown : opOf? (.str op.name) = some op := by cases op <;> decide
  rw [List.append_assoc, ← checkArgs_eq, Action.objections, check, hknown]

end Validation

namespace Execution

open Handler

/-! ### The handlers -/

/-- Two tasks of one operation with the same values under all of the names. -/
structure Task.Alike (names : List String) (t u : Task) : Prop where
  op : u.op = t.op
  target : u.target = t.target
  options : u.options = t.options
  args : t.args.Agree names u.args

namespace Task.Alike

variable {names : List String} {t u : Task} {name : String} (h : t.Alike names u)

include h

theorem number? (hn : name ∈ names) : u.number? name = t.number? name := by
  rw [Task.number?, h.args name hn, Task.number?]

theorem number (hn : name ∈ names) (fallback : Number) : u.number name fallback = t.number name fallback := by
  rw [Task.number, h.number? hn, Task.number]

theorem text? (hn : name ∈ names) : u.text? name = t.text? name := by
  rw [Task.text?, h.args name hn, Task.text?]

theorem color (hn : "color" ∈ names) : u.color = t.color := by
  rw [Task.color, h.args _ hn, Task.color]

theorem hasColor (hn : "color" ∈ names) : u.hasColor = t.hasColor := by
  rw [Task.hasColor, h.args _ hn, Task.hasColor]

theorem requireTarget : requireTarget u = requireTarget t := by
  rw [Execution.requireTarget, h.op, h.target, Execution.requireTarget]

theorem requireTrait (trait : Look → Bool) (id : LayerId) : requireTrait u trait id = requireTrait t trait id := by
  rw [Execution.requireTrait, h.op, Execution.requireTrait]

theorem subjects (trait : Look → Bool) : subjects u trait = subjects t trait := by
  rw [Execution.subjects, h.target, h.op, h.requireTarget, funext (h.requireTrait trait), Execution.subjects]

theorem place (hx : "x" ∈ names) (hy : "y" ∈ names) (id : LayerId) : place u id = place t id := by
  rw [Execution.place, h.number hx, h.number hy, Execution.place]

theorem applyName (hn : "name" ∈ names) (id : LayerId) : applyName u id = applyName t id := by
  rw [Execution.applyName, h.text? hn, Execution.applyName]

theorem applyFill (hn : "color" ∈ names) (id : LayerId) : applyFill u id = applyFill t id := by
  rw [Execution.applyFill, h.hasColor hn, h.color hn, Execution.applyFill]

theorem applyCorner (hn : "borderRadius" ∈ names) (id : LayerId) : applyCorner u id = applyCorner t id := by
  rw [Execution.applyCorner, h.number? hn, Execution.applyCorner]

theorem finish (hn : "parentId" ∈ names) (id : LayerId) : finish u id = finish t id := by
  rw [Execution.finish, attach, h.text? hn, h.options, Execution.finish, attach]

end Task.Alike

section Corners

variable {t : Task} {id : LayerId} {k : Kind} {f : Look → Look}

/-- The layer has no corners to round. -/
def Cornerless (id : LayerId) (r : Run) : Prop := ∀ l, r.host.document.layer? id = some l → l.look.cornerRadius = none

theorem updateLook_cornerless {r : Run} (hr : Cornerless id r) (hf : ∀ l, l.cornerRadius = none → f l = l) :
    r.host.document.updateLook id f = r.host.document := by
  refine congrArg (fun layers => { r.host.document with layers }) (List.ext_getElem? fun i => ?_)
  refine (Document.layer?_update r.host.document id i _).trans ?_
  cases hl : r.host.document.layer? i with
  | none => exact hl.symm
  | some l =>
    refine Eq.trans (congrArg some ?_) hl.symm
    by_cases hi : i = id
    · subst hi
      exact (if_pos rfl).trans (by rw [hf _ (hr l hl)])
    · exact if_neg hi

theorem applyCorner_cornerless {r : Run} (hr : Cornerless id r) : (applyCorner t id).run r = (.ok (), r) := by
  unfold applyCorner
  split
  · rfl
  · refine (call_ok (Host.edit_run _ r.host)).trans ?_
    rw [updateLook_cornerless hr fun l hl => by rw [hl, Option.map_none, ← hl]]

/-- What a program does to a new layer before its corners are rounded. -/
def Smooth (id : LayerId) (m : Handler Unit) : Prop := Leads (Cornerless id) m (fun _ => Cornerless id) fun _ _ => True

theorem createKind_cornerless (hk : (Look.initial k).cornerRadius = none) :
    Leads (fun _ => True) (liftM (Host.createKind k) : Handler LayerId) Cornerless fun _ _ => True := by
  intro r _
  rw [call_run, Host.createKind, Host.create_run, Host.enter_run]
  cases r.host.faults r.host.calls .createNode with
  | some message => trivial
  | none =>
    intro l hl
    rw [Document.layer?_create, if_pos rfl] at hl
    cases hl
    exact hk

theorem adjust_smooth (hf : ∀ l, l.cornerRadius = none → (f l).cornerRadius = none) : Smooth id (adjust id f) := by
  intro r hr
  have hrun : (adjust id f).run r = _ := call_ok (Host.edit_run _ r.host)
  rw [hrun]
  intro l hl
  rw [Document.updateLook, Document.layer?_update] at hl
  obtain ⟨l, h, rfl⟩ := Option.map_eq_some_iff.1 hl
  rw [if_pos rfl]
  exact hf _ (hr l h)

theorem color_smooth : Leads (Cornerless id) t.color (fun _ => Cornerless id) fun _ _ => True := by
  unfold Task.color
  dsimp only
  split
  · exact .pure fun _ h => h
  · exact fun _ h => h

theorem applyFill_smooth : Smooth id (applyFill t id) := by
  unfold applyFill
  have hlook : Leads (Cornerless id) (lookOf id) (fun _ => Cornerless id) fun _ _ => True := fun _ h => h
  refine .bind hlook fun look => ?_
  split
  · exact .bind color_smooth fun c => adjust_smooth fun _ h => h
  · exact .pure fun _ h => h

/-- A box of a kind without corners is drawn as if no radius had been asked for. -/
theorem createBox_cornerless (hk : (Look.initial k).cornerRadius = none) (side : Number) :
    createBox t k side = (do
      let id ← Host.createKind k
      place t id
      adjust id (·.resize (t.number "width" side) (t.number "height" side))
      applyFill t id
      applyName t id
      finish t id) := by
  unfold createBox
  refine ExceptT.ext (funext fun r => ?_)
  refine Leads.bind_congr (createKind_cornerless hk) (fun id r hr => ?_) (s := r) trivial
  have hplace : Smooth id (place t id) := adjust_smooth fun _ h => h
  have hresize : Smooth id (adjust id (·.resize (t.number "width" side) (t.number "height" side))) := adjust_smooth fun _ h => h
  refine hplace.bind_congr (fun _ r hr => ?_) hr
  refine hresize.bind_congr (fun _ r hr => ?_) hr
  refine applyFill_smooth.bind_congr (fun _ r hr => ?_) hr
  exact run_bind_ok (applyCorner_cornerless hr)

end Corners

namespace Task.Alike

variable {t u : Task}

theorem createBox {names : List String} (h : t.Alike names u) (hbox : Op.boxFields.map (·.name) ⊆ names)
    (hcorner : "borderRadius" ∈ names) (hn : "name" ∈ names) (hp : "parentId" ∈ names) (k : Kind) (side : Number) :
    createBox u k side = createBox t k side := by
  simp only [Execution.createBox, h.place (hbox (by decide)) (hbox (by decide)), h.number (hbox (by decide : "width" ∈ _)),
    h.number (hbox (by decide : "height" ∈ _)), h.applyFill (hbox (by decide)), h.applyCorner hcorner, h.applyName hn, h.finish hp]

/-- An ellipse, a polygon or a star declares no radius; the program that draws boxes reads one all the same. -/
theorem createBare {names : List String} (h : t.Alike names u) (hbox : Op.boxFields.map (·.name) ⊆ names)
    (hn : "name" ∈ names) (hp : "parentId" ∈ names) {k : Kind} (hk : (Look.initial k).cornerRadius = none) (side : Number) :
    Execution.createBox u k side = Execution.createBox t k side := by
  simp only [createBox_cornerless hk, h.place (hbox (by decide)) (hbox (by decide)), h.number (hbox (by decide : "width" ∈ _)),
    h.number (hbox (by decide : "height" ∈ _)), h.applyFill (hbox (by decide)), h.applyName hn, h.finish hp]

theorem createCircle (h : t.Alike Op.createCircle.fieldNames u) : createCircle u = createCircle t := by
  simp only [Execution.createCircle, h.place (by decide) (by decide), h.number (by decide : "radius" ∈ _),
    h.applyFill (by decide), h.applyName (by decide), h.finish (by decide)]

theorem createLine (h : t.Alike Op.createLine.fieldNames u) : createLine u = createLine t := by
  simp only [Execution.createLine, h.place (by decide) (by decide), h.number (by decide : "width" ∈ _),
    h.number? (by decide : "strokeWeight" ∈ _), h.hasColor (by decide), h.color (by decide), h.applyName (by decide),
    h.finish (by decide)]

theorem createText (h : t.Alike Op.createText.fieldNames u) : createText u = createText t := by
  simp only [Execution.createText, h.place (by decide) (by decide), h.text? (by decide : "text" ∈ _),
    h.number? (by decide : "fontSize" ∈ _), h.applyFill (by decide), h.applyName (by decide), h.finish (by decide)]

theorem setFill (h : t.Alike Op.setFill.fieldNames u) : setFill u = setFill t := by
  simp only [Execution.setFill, h.subjects, h.color (by decide)]

theorem setStroke (h : t.Alike Op.setStroke.fieldNames u) : setStroke u = setStroke t := by
  simp only [Execution.setStroke, h.subjects, h.color (by decide), h.number? (by decide : "strokeWeight" ∈ _)]

end Task.Alike

variable {op : Op} {t u : Task}

theorem handle_congr (h : t.Alike op.fieldNames u) : handle op u = handle op t := by
  cases op with
  | createRectangle | createFrame => exact h.createBox (by decide) (by decide) (by decide) (by decide) _ _
  | createEllipse | createPolygon | createStar => exact h.createBare (by decide) (by decide) (by decide) rfl _
  | createCircle => exact h.createCircle
  | createLine => exact h.createLine
  | createText => exact h.createText
  | setFill => exact h.setFill
  | setStroke => exact h.setStroke
  | setOpacity => simp only [handle, setOpacity, h.subjects, h.number? (by decide : "opacity" ∈ _)]
  | move => simp only [handle, move, h.requireTarget, h.number? (by decide : "x" ∈ _), h.number? (by decide : "y" ∈ _)]
  | resize =>
    simp only [handle, resize, h.requireTarget, h.requireTrait, h.number? (by decide : "width" ∈ _),
      h.number? (by decide : "height" ∈ _)]
  | rotate => simp only [handle, rotate, h.requireTarget, h.number? (by decide : "rotation" ∈ _)]
  | select => simp only [handle, select, h.target, h.args "name" (by decide)]
  | findByName => simp only [handle, findByName, h.text? (by decide : "name" ∈ _)]
  | bringToFront => simp only [handle, bringToFront, h.requireTarget]
  | sendToBack => simp only [handle, sendToBack, h.requireTarget]
  | delete => simp only [handle, delete, h.requireTarget]
  | group => simp only [handle, groupSelection, h.applyName (by decide)]
  | zoomToSelection => simp only [handle, zoomToSelection, h.op]
  | selectAll | deselect | selectLast | deleteSelection | ungroup | zoomToFit => rfl

variable {options : ExecutionOptions} {a a' : Action}

theorem apply_congr (hop : Op.ofName? a.op = some op) (ho : a'.op = a.op) (ht : a'.target = a.target)
    (h : a.args.Agree op.fieldNames a'.args) (hobjections : a'.objections = a.objections) :
    apply options a' = apply options a := by
  have hhandle := handle_congr (t := taskOf options a) (u := ⟨a.op, a'.args, a'.target, options⟩) ⟨rfl, ht, rfl, h⟩
  simp only [apply, ho, hop, hobjections]
  split
  · exact hhandle
  · rfl

theorem execute_congr (h : apply options a' = apply options a) (ho : a'.op = a.op) (before after : List Action) :
    execute options (before ++ a' :: after) = execute options (before ++ a :: after) := by
  have houtcome : outcomeOf a' = outcomeOf a := by
    funext result
    unfold outcomeOf
    rw [ho]
  have hperform : perform options a' = perform options a := by
    unfold perform
    rw [h, houtcome]
  have hstep (report : Report) : step options report a' = step options report a := by
    unfold step
    rw [hperform]
  rw [execute, execute, runActions, runActions, List.foldlM_append, List.foldlM_append]
  simp only [List.foldlM_cons, hstep]

open Validation in
/-- What is not declared for the operation never counts, but for one thing: the height of a line, which is looked at only to refuse
the line. -/
theorem same_unless_line_height (op : Op) (target : Json) {args args' : Fields} (h : args.Agree op.fieldNames args') :
    let a : Action := ⟨op.name, args, target⟩
    let a' : Action := ⟨op.name, args', target⟩
    (a'.objections = a.objections ↔
        (op = .createLine → (IsNegative (args'.value "height") ↔ IsNegative (args.value "height")))) ∧
      (a'.objections = a.objections → ∀ options before after,
        execute options (before ++ a' :: after) = execute options (before ++ a :: after)) ∧
      (op = .createLine → IsNegative (args'.value "height") → ¬IsNegative (args.value "height") →
        a'.objections = a.objections ++ [.negative "height"] ∧
          ∀ options, apply options a' = Handler.refuse (.invalidAction op.name (a.objections ++ [.negative "height"]))) := by
  intro a a'
  have ha : a.objections = _ := objections_eq op args target
  have ha' : a'.objections = _ := objections_eq op args' target
  rw [checkDeclared_congr h] at ha'
  have hop : Op.ofName? op.name = some op := by cases op <;> decide
  refine ⟨?_, fun hsame options before after => ?_, ?_⟩
  · rw [ha, ha', List.append_cancel_left_eq]
    by_cases hline : op = .createLine
    · simp only [hline, if_true, true_implies, checkSign_eq_iff]
    · simp only [hline, if_false, false_implies]
  · have happly : apply options a' = apply options a := apply_congr hop rfl rfl h hsame
    exact execute_congr happly rfl before after
  · rintro rfl hneg hpos
    have hmore : a'.objections = a.objections ++ [.negative "height"] := by
      rw [ha, ha', checkSign_of_negative hneg, checkSign_of_not_negative hpos]
      simp
    refine ⟨hmore, fun options => ?_⟩
    obtain ⟨hunknown, -⟩ | ⟨-, -, he⟩ | ⟨-, -, hnil, -⟩ := apply_cases options a'
    · rw [hop] at hunknown
      cases hunknown
    · rw [he, hmore]
    · rw [hmore] at hnil
      simp at hnil

open Validation in
theorem refused_for_height :
    let plain : Action := ⟨"create_line", [], .null⟩
    let high : Action := ⟨"create_line", [("height", .num (.int (-5)))], .null⟩
    plain.args.Agree Op.createLine.fieldNames high.args ∧ plain.objections = [] ∧ high.objections = [.negative "height"] := by
  intro plain high
  have hagree : plain.args.Agree Op.createLine.fieldNames high.args := by
    simp [Fields.Agree, Op.fieldNames, Op.spec, Op.xField, Op.yField, Op.widthField, Op.colorField, Op.weightField, Op.nameField,
      Op.parentField, plain, high, Fields.value, List.lookup_cons]
  have hplain : ¬IsNegative (plain.args.value "height") := by
    rintro ⟨n, hn, -⟩
    cases hn
  have hhigh : IsNegative (high.args.value "height") := ⟨.int (-5), rfl, by decide⟩
  exact ⟨hagree, rfl, ((same_unless_line_height .createLine .null hagree).2.2 rfl hhigh hplain).1⟩

end Execution
end Easel
