import Easel.Execution
import Easel.Proofs.Program

/-!
How the parts of handlers run, one equation each.
-/

namespace Easel

namespace Host

theorem view_run (h : Host) : view.run h = (.ok h.document, h) := rfl

theorem edit_run (f : Document → Document) (h : Host) :
    (edit f).run h = (.ok (), { h with document := f h.document }) := rfl

theorem enter_run (call : HostCall) (h : Host) :
    (enter call).run h =
      ((match h.faults h.calls call with
        | some message => .error (.failed message)
        | none => .ok ()), { h with calls := h.calls + 1 }) := by
  unfold enter
  rw [run_bind_eq]
  show (match h.faults h.calls call with | some message => _ | none => _ : HostM Unit).run _ = _
  split <;> rfl

theorem create_run (look : Look) (h : Host) :
    (create look).run h =
      match (enter .createNode).run h with
      | (.ok _, h) => (.ok h.document.layers.length, { h with document := (h.document.create look).2 })
      | (.error e, h) => (.error e, h) := by
  unfold create
  rw [run_bind_eq]
  rcases (enter .createNode).run h with ⟨_ | _, h⟩ <;> rfl

end Host

namespace Handler

theorem attempt_run (m : HostM α) (r : Run) :
    (attempt m).run r = (.ok (m.run r.host).1, { r with host := (m.run r.host).2 }) := rfl

theorem call_run (m : HostM α) (r : Run) :
    (liftM m : Handler α).run r =
      ((match (m.run r.host).1 with
        | .ok a => .ok a
        | .error e => .error (.failed e)), { r with host := (m.run r.host).2 }) := by
  show (attempt m >>= fun result => match result with
    | .ok a => pure a
    | .error e => throw (.failed e) : Handler α).run r = _
  rw [run_bind_eq, attempt_run]
  dsimp only
  split <;> rfl

theorem call_ok {m : HostM α} {r : Run} {a : α} {h : Host} (hm : m.run r.host = (.ok a, h)) :
    (liftM m : Handler α).run r = (.ok a, { r with host := h }) := by
  rw [call_run, hm]

end Handler

end Easel
