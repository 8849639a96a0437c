import Easel.Assistant
import Easel.Proofs.Execution.Accounting
import Easel.Proofs.Reply.Numerals

/-!
What becomes of a transcript, whatever a language model makes of it. An error of the compiler reaches the user as one
notification, and the document stays as it is. There is one way out: a reply with a whole number of too many digits in it ends
the handling of the transcript.
-/

namespace Easel

namespace Assistant

open Compiler Execution

variable {d : Desk} {options : ExecutionOptions} {transcript : Json}

/-- The model gives a reply of any text, or an error of its service. -/
def Answers (m : Model) : Prop := ∀ prompt fault, (m.source.answer prompt).1 ≠ .error (.fault fault)

/-- The reply to a transcript, if it is fit to be sent and the service gives one. -/
def reply? (d : Desk) (transcript : Json) : Option String :=
  match checkTranscript d.limit transcript with
  | .ok text => (d.model.source.answer (Prompt.ofTranscript text)).1.toOption
  | .error _ => none

def compiled (d : Desk) (transcript : Json) : Except CompileError Batch :=
  ((Compiler.compile d.limit transcript).run d.model).1

theorem batchOf_eq_numeralTooLong {text reply : String} {n : Nat} :
    batchOf text reply = .error (.numeralTooLong n) ↔ Reply.read reply = .error (.numeralTooLong n) := by
  rw [← Reply.actions_eq_numeralTooLong]
  unfold batchOf
  split <;> simp_all

theorem batchOf_cases (text reply : String) :
    (∃ batch, batchOf text reply = .ok batch) ∨ (∃ e, batchOf text reply = .error (.command e)) ∨
      ∃ n, batchOf text reply = .error (.numeralTooLong n) := by
  unfold batchOf
  split
  · exact .inl ⟨_, rfl⟩
  · exact .inr (.inl ⟨_, rfl⟩)
  · exact .inr (.inr ⟨_, rfl⟩)

theorem compile_run (limit : Int) (transcript : Json) (m : Model) :
    ((Compiler.compile limit transcript).run m).1 =
      match checkTranscript limit transcript with
      | .error fault => .error (.command (.transcript fault))
      | .ok text =>
        match (m.source.answer (Prompt.ofTranscript text)).1 with
        | .error e => .error (errorOf m.serviceName e)
        | .ok reply => batchOf text reply := by
  unfold Compiler.compile
  cases checkTranscript limit transcript with
  | error fault => rfl
  | ok text =>
    dsimp only
    simp only [StateT.run_bind, StateT.run_get, pure_bind]
    have ha : ((Model.complete (Prompt.ofTranscript text)).run m).1 = (m.source.answer (Prompt.ofTranscript text)).1 := rfl
    rw [← ha]
    rcases (Model.complete (Prompt.ofTranscript text)).run m with ⟨e | reply, m'⟩ <;> rfl

theorem compile_model (limit : Int) (transcript : Json) (m : Model) :
    ((Compiler.compile limit transcript).run m).2 =
      match checkTranscript limit transcript with
      | .error _ => m
      | .ok text => { m with
          source := (m.source.answer (Prompt.ofTranscript text)).2, prompts := m.prompts ++ [Prompt.ofTranscript text] } := by
  unfold Compiler.compile
  cases checkTranscript limit transcript with
  | error fault => rfl
  | ok text =>
    dsimp only
    simp only [StateT.run_bind, StateT.run_get, pure_bind]
    have hm : ((Model.complete (Prompt.ofTranscript text)).run m).2 = { m with
        source := (m.source.answer (Prompt.ofTranscript text)).2, prompts := m.prompts ++ [Prompt.ofTranscript text] } := rfl
    rw [← hm]
    rcases (Model.complete (Prompt.ofTranscript text)).run m with ⟨e | reply, m'⟩ <;> rfl

/-- How compiling ends: before there is a reply, or with what the reply is read as. -/
theorem compiled_cases (hm : Answers d.model) (transcript : Json) :
    (reply? d transcript = none ∧ ∃ e, compiled d transcript = .error (.command e)) ∨
      ∃ text reply, reply? d transcript = some reply ∧ compiled d transcript = batchOf text reply := by
  unfold reply? compiled
  rw [compile_run]
  cases checkTranscript d.limit transcript with
  | error fault => exact .inl ⟨rfl, _, rfl⟩
  | ok text =>
    have hfault := hm (Prompt.ofTranscript text)
    dsimp only
    rcases ha : (d.model.source.answer (Prompt.ofTranscript text)).1 with (e | fault) | reply
    · exact .inl ⟨rfl, _, rfl⟩
    · exact absurd ha (hfault fault)
    · exact .inr ⟨text, reply, rfl, rfl⟩

theorem compiled_of_reply (hm : Answers d.model) {reply : String} (h : reply? d transcript = some reply) :
    ∃ text, compiled d transcript = batchOf text reply := by
  rcases compiled_cases hm transcript with ⟨hnone, -⟩ | ⟨text, reply', hreply, hc⟩
  · rw [hnone] at h
    cases h
  · rw [hreply] at h
    cases h
    exact ⟨text, hc⟩

theorem compile_desk (transcript : Json) (d : Desk) : (compile transcript).run d =
    (.ok (compiled d transcript), { d with model := ((Compiler.compile d.limit transcript).run d.model).2 }) := rfl

theorem onHost_run {α : Type} (m : HostM α) (d : Desk) : (onHost m).run d =
    ((match (m.run d.host).1 with
      | .ok a => .ok a
      | .error e => .error (.host e)), { d with host := (m.run d.host).2 }) := by
  have hget : (get : DeskM Desk).run d = (.ok d, d) := rfl
  unfold onHost
  rw [run_bind_ok hget]
  rcases m.run d.host with ⟨e | a, h⟩ <;> rfl

theorem process_error (hq : Quiet d.host) {e : CommandError} (he : compiled d transcript = .error (.command e)) :
    ((process options transcript).run d).1 = .ok { error := some e.message } ∧
      ((process options transcript).run d).2.host = { d.host with
        document := d.host.document.notify (errorMessage e), calls := d.host.calls + 1 } := by
  unfold process processBy
  rw [run_bind_eq, compile_desk, he]
  dsimp only
  rw [run_bind_eq, onHost_run, notify_run hq]
  exact ⟨rfl, rfl⟩

theorem process_ok (hq : Quiet d.host) {batch : Batch} (hb : compiled d transcript = .ok batch) :
    ∃ outcome, ((process options transcript).run d).1 = .ok outcome := by
  unfold process processBy
  rw [run_bind_eq, compile_desk, hb]
  dsimp only
  split
  · rw [run_bind_eq, onHost_run, notify_run hq]
    exact ⟨_, rfl⟩
  · obtain ⟨endings, h₁, hr, hq₁, -⟩ := runActions_quiet options batch.actions hq
    obtain ⟨h₂, hx⟩ := execute_quiet options batch.actions hr hq₁
    rw [run_bind_eq, execute, onHost_run, hx]
    exact ⟨_, rfl⟩

theorem process_numeralTooLong {n : Nat} (hc : compiled d transcript = .error (.numeralTooLong n)) :
    ((process options transcript).run d).1 = .error (.compile (.numeralTooLong n)) ∧
      ((process options transcript).run d).2.host = d.host := by
  unfold process processBy
  rw [run_bind_eq, compile_desk, hc]
  exact ⟨rfl, rfl⟩

/-- How the handling of a transcript ends. -/
structure Contained (options : ExecutionOptions) (transcript : Json) (d : Desk) : Prop where
  /-- It fails for a whole number of too many digits in the reply, and for nothing else. -/
  fails : ∀ f, ((process options transcript).run d).1 = .error f ↔ ∃ reply n, reply? d transcript = some reply ∧
    Reply.read reply = .error (.numeralTooLong n) ∧ f = .compile (.numeralTooLong n)
  untouched : ∀ f, ((process options transcript).run d).1 = .error f → ((process options transcript).run d).2.host = d.host
  /-- What else can go wrong in compiling is told to the user, and nothing else changes. -/
  told : ∀ e, compiled d transcript = .error (.command e) →
    ((process options transcript).run d).1 = .ok { error := some e.message } ∧
      ((process options transcript).run d).2.host = { d.host with
        document := d.host.document.notify ("Error processing voice command: " ++ e.message), calls := d.host.calls + 1 }
  /-- A reply that is refused goes with its fault. -/
  refused : ∀ reply fault, reply? d transcript = some reply → Reply.actions reply = .error (.shape fault) →
    compiled d transcript = .error (.command (.reply fault reply))
  numeral : ∀ reply n, Reply.read reply = .error (.numeralTooLong n) → Json.HasLongNumeral n reply.toList

theorem fails_iff (hq : Quiet d.host) (hm : Answers d.model) (f : Failure) :
    ((process options transcript).run d).1 = .error f ↔ ∃ reply n, reply? d transcript = some reply ∧
      Reply.read reply = .error (.numeralTooLong n) ∧ f = .compile (.numeralTooLong n) := by
  constructor
  · intro hf
    have hcommand (e : CommandError) : compiled d transcript ≠ .error (.command e) := by
      intro he
      rw [(process_error hq he).1] at hf
      cases hf
    rcases compiled_cases hm transcript with ⟨-, e, he⟩ | ⟨text, reply, hreply, hc⟩
    · exact absurd he (hcommand e)
    rcases batchOf_cases text reply with ⟨batch, hb⟩ | ⟨e, hb⟩ | ⟨n, hb⟩
    · obtain ⟨outcome, ho⟩ : ∃ outcome, ((process options transcript).run d).1 = .ok outcome := process_ok hq (hc.trans hb)
      rw [ho] at hf
      cases hf
    · exact absurd (hc.trans hb) (hcommand e)
    · rw [(process_numeralTooLong (hc.trans hb)).1] at hf
      cases hf
      exact ⟨reply, n, hreply, batchOf_eq_numeralTooLong.mp hb, rfl⟩
  · rintro ⟨reply, n, hreply, hread, rfl⟩
    obtain ⟨text, hc⟩ := compiled_of_reply hm hreply
    exact (process_numeralTooLong (hc.trans (batchOf_eq_numeralTooLong.mpr hread))).1

/-- A transcript is handled whatever the model replies, unless the reply has a numeral of more than 4300 digits in it. -/
theorem process_contained (hq : Quiet d.host) (hm : Answers d.model) (options : ExecutionOptions) (transcript : Json) :
    Contained options transcript d := by
  refine ⟨fails_iff hq hm, fun f hf => ?_, fun e he => process_error hq he, fun reply fault hreply hf => ?_,
    fun reply n h => Reply.hasLongNumeral_of_read h⟩
  · obtain ⟨reply, n, hreply, hread, -⟩ := (fails_iff hq hm f).mp hf
    obtain ⟨text, hc⟩ := compiled_of_reply hm hreply
    exact (process_numeralTooLong (hc.trans (batchOf_eq_numeralTooLong.mpr hread))).2
  · obtain ⟨text, hc⟩ := compiled_of_reply hm hreply
    rw [hc, batchOf, hf]

/-- A reply of 4301 digits and nothing else. -/
theorem uncontained_numeral :
    let reply := String.ofList (List.replicate 4301 '1')
    let d : Desk := ⟨{}, { source := .script [.ok reply] }, 1000⟩
    Quiet d.host ∧ Answers d.model ∧ Contained {} (.str "draw") d ∧
      ((process {} (.str "draw")).run d).1 = .error (.compile (.numeralTooLong 4301)) := by
  intro reply d
  have hread : Reply.read reply = .error (.numeralTooLong 4301) := Reply.read_ones (by decide)
  -- Of the reply nothing but this counts, and it is too long to be looked at.
  clear_value reply
  have hq : Quiet d.host := fun _ => rfl
  have hm : Answers d.model := fun _ _ h => by cases h
  have hc := process_contained hq hm {} (.str "draw")
  exact ⟨hq, hm, hc, (hc.fails _).mpr ⟨reply, 4301, rfl, hread, rfl⟩⟩

end Assistant
end Easel
