import Easel.Proofs.Assistant
import Easel.Proofs.Prompt

/-!
One call for a transcript. The model is asked once for a transcript that is fit to be sent, and not at all for another one. What its
service reports instead of a reply comes back with the most specific message there is and the status that the service gave; what nobody
provided for comes back as it is.
-/

namespace Easel

/-- What stands at the end of a path of keys, and null where there is nothing. -/
def Json.reach : List String → Json → Json
  | [], v => v
  | key :: path, .obj fields => reach path (Fields.value fields key)
  | _ :: _, _ => .null

namespace Compiler

variable {limit : Int} {transcript body : Json} {m : Model} {said text generic service : String} {e : CommandError}

/-- The transcript is a text, not blank, and not longer than the limit. -/
def Sendable (limit : Int) (transcript : Json) (said : String) : Prop :=
  transcript = .str said ∧ (∃ c ∈ said.toList, Text.isBlank c = false) ∧ said.length ≤ limit

/-- The message in the error that a service reports, or else the one beside it, or else a text of our own. -/
def messageOf (body : Json) (generic : String) : String :=
  (([["error", "message"], ["message"]].map (Json.reach · body)).find? Json.isGiven).elim generic Json.display

/-- What compiling comes to, by the answer to its one call. -/
inductive Outcome (service text : String) : Except ModelError String → Except CompileError Batch → Prop
  | limited (said : String) (body : Json) : Outcome service text (.error (.service (.rateLimited said body)))
      (.error (.command (.service
        { message := messageOf body s!"{service} rate limit exceeded", service, status := some 429, rateLimited := true })))
  | status (said : String) (code : Int) (body : Json) : Outcome service text (.error (.service (.status said code body)))
      (.error (.command (.service
        { message := messageOf body s!"{service} request failed with status {code}", service, status := some code,
          rateLimited := false })))
  | unreachable (said : String) : Outcome service text (.error (.service (.unreachable said)))
      (.error (.command (.service
        { message := s!"Could not reach {service}: {said}", service, status := none, rateLimited := false })))
  | fault (f : ModelFault) : Outcome service text (.error (.fault f)) (.error (.model f))
  | answered (reply : String) : Outcome service text (.ok reply) (batchOf text reply)

theorem serviceMessage?_getD (body : Json) (generic : String) : (serviceMessage? body).getD generic = messageOf body generic := by
  cases body with
  | obj fields =>
    have hbeside : Json.reach ["message"] (.obj fields) = Fields.value fields "message" := rfl
    -- What the error says counts only if it is an object itself.
    have hinner : ((Fields.value fields "error").fields?.bind fun inner => given? (inner.value "message")) =
        given? (Json.reach ["error", "message"] (.obj fields)) := by
      rw [Json.reach]
      cases Fields.value fields "error" <;> rfl
    rw [serviceMessage?, hinner, messageOf, List.map_cons, List.map_singleton, hbeside]
    unfold given?
    cases hi : (Json.reach ["error", "message"] (.obj fields)).isGiven <;>
      cases ho : (Fields.value fields "message").isGiven <;> simp [hi, ho]
  | _ => rfl

example : messageOf (.obj [("error", .obj [("message", .str "")]), ("message", .str "slow down")]) "busy" = "slow down" := by
  decide +kernel

theorem checkTranscript_ok_iff : checkTranscript limit transcript = .ok text ↔
    ∃ said, Sendable limit transcript said ∧ text = trimmed said := by
  cases transcript with
  | str said =>
    have hblank : Text.isBlankText said.toList = true ↔ ¬∃ c ∈ said.toList, Text.isBlank c = false := by
      simp [Text.isBlankText]
    simp only [checkTranscript, Sendable, Json.str.injEq]
    split
    · rename_i hb
      exact iff_of_false nofun fun ⟨_, ⟨he, hc, _⟩, _⟩ => hblank.1 hb (he ▸ hc)
    · rename_i hb
      split
      · rename_i hlong
        exact iff_of_false nofun fun ⟨_, ⟨he, _, hlimit⟩, _⟩ => absurd (he ▸ hlimit) (Int.not_le.2 hlong)
      · rename_i hshort
        have hc : ∃ c ∈ said.toList, Text.isBlank c = false := not_not.1 fun hno => hb (hblank.2 hno)
        constructor
        · intro h
          exact ⟨said, ⟨rfl, hc, Int.not_lt.1 hshort⟩, (Except.ok.inj h).symm⟩
        · rintro ⟨said', ⟨rfl, -, -⟩, rfl⟩
          rfl
  | _ =>
    refine iff_of_false nofun ?_
    rintro ⟨said, ⟨he, -⟩, -⟩
    cases he

theorem outcome_of_error (service text : String) (e : ModelError) : Outcome service text (.error e) (.error (errorOf service e)) := by
  cases e with
  | fault f => exact .fault f
  | service e =>
    cases e with
    | rateLimited said body =>
      have hf : serviceFault service (.rateLimited said body) =
          { message := messageOf body s!"{service} rate limit exceeded", service, status := some 429, rateLimited := true } := by
        rw [← serviceMessage?_getD]
        rfl
      rw [errorOf, hf]
      exact .limited said body
    | status said code body =>
      have hf : serviceFault service (.status said code body) =
          { message := messageOf body s!"{service} request failed with status {code}", service, status := some code,
            rateLimited := false } := by
        rw [← serviceMessage?_getD]
        rfl
      rw [errorOf, hf]
      exact .status said code body
    | unreachable said => exact .unreachable said

/-- Errors in a reply are no errors of a transcript or of a service. -/
theorem Outcome.reply_or_service {answer : Except ModelError String} (h : Outcome service text answer (.error (.command e))) :
    (∃ fault, e = .service fault) ∨ ∃ fault reply, e = .reply fault reply := by
  generalize hr : (Except.error (.command e) : Except CompileError Batch) = result at h
  cases h with
  | limited | status | unreachable => cases hr; exact .inl ⟨_, rfl⟩
  | fault => cases hr
  | answered reply =>
    refine .inr ?_
    unfold batchOf at hr
    split at hr <;> cases hr
    exact ⟨_, _, rfl⟩

/-- What compiling a transcript asks of the model, and what comes of it. -/
structure Reported (limit : Int) (transcript : Json) (m : Model) : Prop where
  /-- A transcript that is not fit to be sent is refused without a call. -/
  refused : (∀ said, ¬Sendable limit transcript said) →
    ∃ fault, (compile limit transcript).run m = (.error (.command (.transcript fault)), m)
  /-- The one call is for the transcript without the white space around it. -/
  called : ∀ said, Sendable limit transcript said →
    ∃ prompt, prompt = Prompt.ofTranscript (trimmed said) ∧ Prompt.transcript prompt = .ok (trimmed said) ∧
      ((compile limit transcript).run m).2 = { m with source := (m.source.answer prompt).2, prompts := m.prompts ++ [prompt] } ∧
      ((compile limit transcript).run m).2.calls = m.calls + 1 ∧
      Outcome m.serviceName (trimmed said) (m.source.answer prompt).1 ((compile limit transcript).run m).1
  /-- The status that the user is answered with tells whose error it is. -/
  statuses : ∀ e, ((compile limit transcript).run m).1 = .error (.command e) →
    (e.status = 400 ↔ ∀ said, ¬Sendable limit transcript said) ∧
    (e.status = 429 ↔ ∃ fault, e = .service fault ∧ fault.rateLimited = true) ∧
    (e.status ≠ 400 → e.status ≠ 429 → e.status = 502)

theorem compile_refused (h : ∀ said, ¬Sendable limit transcript said) (m : Model) :
    ∃ fault, (compile limit transcript).run m = (.error (.command (.transcript fault)), m) := by
  cases hc : checkTranscript limit transcript with
  | error fault =>
    refine ⟨fault, Prod.ext ?_ ?_⟩
    · rw [Assistant.compile_run, hc]
    · rw [Assistant.compile_model, hc]
  | ok text =>
    obtain ⟨said, hs, -⟩ := checkTranscript_ok_iff.1 hc
    exact absurd hs (h said)

theorem compile_sent (h : Sendable limit transcript said) (m : Model) :
    ((compile limit transcript).run m).2 = { m with
      source := (m.source.answer (Prompt.ofTranscript (trimmed said))).2,
      prompts := m.prompts ++ [Prompt.ofTranscript (trimmed said)] } ∧
    Outcome m.serviceName (trimmed said) (m.source.answer (Prompt.ofTranscript (trimmed said))).1
      ((compile limit transcript).run m).1 := by
  have hc : checkTranscript limit transcript = .ok (trimmed said) := checkTranscript_ok_iff.2 ⟨said, h, rfl⟩
  constructor
  · rw [Assistant.compile_model, hc]
  · rw [Assistant.compile_run, hc]
    dsimp only
    cases (m.source.answer (Prompt.ofTranscript (trimmed said))).1 with
    | error e => exact outcome_of_error _ _ e
    | ok reply => exact .answered reply

theorem status_service (fault : ServiceFault) :
    (CommandError.service fault).status = if fault.rateLimited then 429 else 502 := rfl

/-- However a transcript, a limit and a model are, there is one call or none, and its failures are reported as they are. -/
theorem compile_reported (limit : Int) (transcript : Json) (m : Model) : Reported limit transcript m where
  refused h := compile_refused h m
  called said h := by
    obtain ⟨hm, ho⟩ := compile_sent h m
    refine ⟨_, rfl, Prompt.transcript_ofTranscript _, hm, ?_, ho⟩
    rw [hm, Model.calls, List.length_append]
    rfl
  statuses e he := by
    by_cases h : ∃ said, Sendable limit transcript said
    · obtain ⟨said, h⟩ := h
      have ho := (compile_sent h m).2
      rw [he] at ho
      have hsent : ¬∀ said, ¬Sendable limit transcript said := fun hno => hno said h
      obtain ⟨fault, rfl⟩ | ⟨fault, reply, rfl⟩ := ho.reply_or_service
      · rw [status_service]
        cases hl : fault.rateLimited <;> simp [hsent, hl]
      · simp [CommandError.status, hsent]
    · have hno : ∀ said, ¬Sendable limit transcript said := not_exists.1 h
      obtain ⟨fault, hr⟩ := compile_refused hno m
      rw [hr] at he
      cases he
      simp [CommandError.status, hno]

end Compiler

end Easel
