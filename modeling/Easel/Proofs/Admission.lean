import Easel.Proofs.Drain
import Easel.Proofs.Service.History

/-!
Transcripts are looked at twice: when they are posted, and when they are compiled after the channel is drained. What is let in at
first is not turned away later, so a posted transcript costs exactly one call of the model.
-/

namespace Easel

namespace Text

variable {s : List Char}

theorem trim_ne_nil (h : isBlankText s = false) : trim s ≠ [] := by
  intro htrim
  have hall : isBlankText (trimLeft s) = true := by
    rw [trim, trimRight, List.reverse_eq_nil_iff, List.dropWhile_eq_nil_iff] at htrim
    exact List.all_eq_true.2 fun c hc => htrim c (List.mem_reverse.2 hc)
  have hnil : trimLeft s = [] := (List.dropWhile_idempotent isBlank s).symm.trans (trimLeft_eq_nil_iff.2 hall)
  rw [trimLeft_eq_nil_iff, h] at hnil
  cases hnil

end Text

theorem TranscriptFault.message_head (fault : TranscriptFault) : fault.message.toList.head? = some 'T' := by
  cases fault <;> decide

/-- No reply is refused in the words in which transcripts are. -/
theorem Reply.Fault.message_ne (f : Reply.Fault) (fault : TranscriptFault) : f.message ≠ fault.message := by
  intro h
  have hhead : f.message.toList.head? = some 'T' := by rw [h, fault.message_head]
  have hprefix (front back : String) (c : Char) (hf : front.toList.head? = some c) : (front ++ back).toList.head? = some c := by
    rw [String.toList_append, List.head?_append, hf]
    rfl
  cases f with
  | notJson error =>
    have hm : Reply.Fault.message (.notJson error) = "Model reply is not valid JSON: " ++ error.message := rfl
    rw [hm, hprefix _ _ 'M' (by decide)] at hhead
    exact absurd hhead (by decide)
  | actionNotObject index =>
    have hm : Reply.Fault.message (.actionNotObject index) = "Action " ++ toString index ++ " is not an object" := rfl
    rw [hm, String.append_assoc, hprefix _ _ 'A' (by decide)] at hhead
    exact absurd hhead (by decide)
  | notObject | actionsNotList | noActions => exact absurd hhead (by decide)

namespace Assistant

open Compiler Execution

variable {d : Desk} {transcript : Json} {text said : String} {outcome : Outcome}

theorem checkTranscript_ok {limit : Int} (hblank : Text.isBlankText said.toList = false) (hlength : ¬limit < said.length) :
    checkTranscript limit (.str said) = .ok (trimmed said) ∧ trimmed said ≠ "" := by
  refine ⟨by simp [checkTranscript, hblank, hlength], fun h => Text.trim_ne_nil hblank ?_⟩
  have htrim := congrArg String.toList h
  rwa [trimmed, String.toList_ofList] at htrim

/-- The model is called when the transcript is compiled, and not again. -/
theorem process_model (transcript : Json) (d : Desk) :
    ((process {} transcript).run d).2.model = ((Compiler.compile d.limit transcript).run d.model).2 := by
  have hkeeps {α : Type} (m : HostM α) : Keeps (·.model = ((Compiler.compile d.limit transcript).run d.model).2) (onHost m) := by
    intro d' hd
    rw [onHost_run]
    rcases m.run d'.host with ⟨_ | _, h⟩ <;> exact hd
  have hcompile : Leads (· = d) (compile transcript)
      (fun _ d' => d'.model = ((Compiler.compile d.limit transcript).run d.model).2)
      fun _ d' => d'.model = ((Compiler.compile d.limit transcript).run d.model).2 := by
    rintro d' rfl
    rfl
  have hrun := process_leads hcompile (fun _ => hkeeps _) (fun _ => hkeeps _) d rfl
  rcases hr : (process {} transcript).run d with ⟨_ | _, d'⟩ <;> rw [hr] at hrun <;> exact hrun

theorem compile_prompts (h : checkTranscript d.limit transcript = .ok text) :
    ((Compiler.compile d.limit transcript).run d.model).2.prompts = d.model.prompts ++ [Prompt.ofTranscript text] := by
  rw [compile_model, h]

/-- Errors are reported as the compiler gives them. -/
theorem process_reports {message : String} (h : ((process {} transcript).run d).1 = .ok outcome)
    (hm : outcome.error = some message) : ∃ e, compiled d transcript = .error (.command e) ∧ message = e.message := by
  unfold process processBy at h
  rw [run_bind_eq, compile_desk] at h
  dsimp only at h
  rcases hc : compiled d transcript with (e | digits | fault) | batch <;> rw [hc] at h <;> dsimp only at h
  · rw [run_bind_eq, onHost_run] at h
    rcases hr : (Host.notify (errorMessage e)).run d.host with ⟨_ | _, h'⟩ <;> rw [hr] at h <;> cases h
    exact ⟨e, rfl, (Option.some.inj hm).symm⟩
  · cases h
  · cases h
  · split at h
    · rw [run_bind_eq, onHost_run] at h
      rcases hr : (Host.notify nothingToDo).run d.host with ⟨_ | _, h'⟩ <;> rw [hr] at h <;> cases h
      cases hm
    · rw [run_bind_eq, execute, onHost_run] at h
      rcases hr : (Execution.execute {} batch.actions).run d.host with ⟨_ | _, h'⟩ <;> rw [hr] at h <;> cases h
      cases hm

/-- Once the model is called, an error is one of its service or of its reply. -/
theorem compiled_error_cases {e : CommandError} (h : checkTranscript d.limit transcript = .ok text)
    (he : compiled d transcript = .error (.command e)) :
    (∃ error, (d.model.source.answer (Prompt.ofTranscript text)).1 = .error (.service error) ∧
        e = .service (serviceFault d.model.serviceName error)) ∨ ∃ fault reply, e = .reply fault reply := by
  rw [compiled, compile_run, h] at he
  dsimp only at he
  rcases ha : (d.model.source.answer (Prompt.ofTranscript text)).1 with (error | fault) | reply <;> rw [ha] at he
  · cases he
    exact .inl ⟨error, rfl, rfl⟩
  · cases he
  · dsimp only [batchOf] at he
    split at he <;> cases he
    exact .inr ⟨_, _, rfl⟩

/-- The transcript is let in by the compiler at this desk, as `text`. -/
structure Compiles (transcript : Json) (text : String) (d : Desk) : Prop where
  checked : checkTranscript d.limit transcript = .ok text
  called : ((process {} transcript).run d).2.model.prompts = d.model.prompts ++ [Prompt.ofTranscript text]
  faultless : ∀ fault, compiled d transcript ≠ .error (.command (.transcript fault))
  /-- The words in which transcripts are refused can only come from the service of the model. -/
  reported : ∀ outcome, ((process {} transcript).run d).1 = .ok outcome → ∀ fault : TranscriptFault,
    outcome.error = some fault.message → ∃ error, (d.model.source.answer (Prompt.ofTranscript text)).1 = .error (.service error) ∧
      (serviceFault d.model.serviceName error).message = fault.message

theorem compiles_of_checked (h : checkTranscript d.limit transcript = .ok text) : Compiles transcript text d where
  checked := h
  called := by rw [process_model, compile_prompts h]
  faultless fault he := by
    obtain ⟨error, -, he⟩ | ⟨f, reply, he⟩ := compiled_error_cases h he <;> cases he
  reported outcome ho fault hf := by
    obtain ⟨e, hc, hm⟩ := process_reports ho hf
    obtain ⟨error, ha, rfl⟩ | ⟨f, reply, rfl⟩ := compiled_error_cases h hc
    · exact ⟨error, ha, hm.symm⟩
    · exact absurd hm.symm (f.message_ne fault)

end Assistant

namespace Service

open Http Assistant

variable {τ : Type} [Clock τ] [Sub τ] [LT τ] [DecidableLT τ] [LE τ] [DecidableLE τ] {s : Service τ} {now : Moment τ} {r : Request}
  {fields : Fields} {p : Posting} {said : String}

/-- A post without actions that is not refused has a transcript that is neither blank nor too long. -/
theorem transcript_of_refusal? {limit : Int} (h : refusal? limit p = none) (ha : p.actions = none) :
    ∃ said, p.transcript = some said ∧ Text.isBlankText said.toList = false ∧ ¬limit < said.length := by
  unfold refusal? at h
  split at h
  · cases h
  split at h
  · cases h
  rename_i hsome
  split at h
  · cases h
  rename_i hlength
  rw [ha, Option.isNone_none, Bool.and_true] at hsome
  cases ht : p.transcript with
  | none => exact absurd rfl (ht ▸ hsome)
  | some said =>
    rw [ht, Option.getD_some] at hsome hlength
    refine ⟨said, rfl, Bool.eq_false_iff.2 hsome, fun hlong => hlength ?_⟩
    simpa using hlong

theorem posting_of_fields (h : Posting.ofFields fields = .ok p) :
    p.transcript = (fields.value "transcript").string? ∧ p.actions = (fields.value "actions").items? := by
  unfold Posting.ofFields at h
  split at h <;> cases h
  exact ⟨rfl, rfl⟩

/-- What a post puts into the channel without actions is let in by every compiler with the same limit to which a drain later brings
it, at whatever time, from whatever channel, and whatever was handled before. -/
theorem accepted_transcript_compiles (ha : asks r = some .postCommand) (hs : ((respond now r).run s).1.status = 200)
    (hbody : readObject r = .ok fields) (hnone : fields.value "actions" = .null) :
    ∃ command said, (s.step (.request now r)).channel.queue command.plugin = s.channel.queue command.plugin ++ [command] ∧
      fields.value "transcript" = .str said ∧ command.transcript = .str said ∧ command.actions = .null ∧ trimmed said ≠ "" ∧
      ∀ later c d d₁, d.limit = Compiler.limitOf none s.settings.transcriptLimit →
        Delivers later command.plugin c d command d₁ →
          handle command = process {} command.transcript ∧ Compiles command.transcript (trimmed said) d₁ := by
  rw [respond_of_asks ha, dress_status] at hs
  obtain ⟨p, command, hp, hrefusal, hpost, -⟩ := postCommand_ok hs
  rw [hbody] at hp
  obtain ⟨ht, hactions⟩ := posting_of_fields hp
  rw [hnone] at hactions
  obtain ⟨said, hsaid, hblank, hlength⟩ := transcript_of_refusal? hrefusal hactions
  have hfield : fields.value "transcript" = .str said := by
    rw [hsaid] at ht
    cases hv : fields.value "transcript" <;> rw [hv] at ht <;> cases ht
    rfl
  have hcommand := (Channel.of_post hpost).1
  rw [hsaid, hactions] at hcommand
  have hqueue : (s.step (.request now r)).channel.queue command.plugin = s.channel.queue command.plugin ++ [command] := by
    have hstep : (s.step (.request now r)).channel = ((postCommand now r).run s).2.channel := by
      rw [step, respond_of_asks ha]
      rfl
    rw [hstep, Channel.queue_post hpost, if_pos (by rw [hcommand])]
  have hnull : command.actions = .null := by rw [hcommand]; rfl
  have hspoken : command.transcript = .str said := by rw [hcommand]; rfl
  refine ⟨command, said, hqueue, hfield, hspoken, hnull, (checkTranscript_ok hblank hlength).2, ?_⟩
  rintro later c d d₁ hlimit ⟨front, back, outcomes, -, hfront⟩
  have hlimit₁ : d₁.limit = s.settings.transcriptLimit := hfront.keeps (handle_keeps_limit _) hlimit
  refine ⟨handle_spoken hnull, compiles_of_checked ?_⟩
  rw [hspoken, hlimit₁]
  exact (checkTranscript_ok hblank hlength).1

/-- A transcript with white space around it, as long as the limit allows. -/
theorem accepted_transcript_compiles_at_limit :
    let s : Service Int := {
      settings := { transcriptLimit := 6 }, channel := { ttl := 60, connectionTtl := 5 }
      model := { source := .script [] }, limit := 6 }
    let r : Request := {
      method := "POST", path := "/api/commands", headers := [("content-type", "application/json")]
      body := "\x7b\"pluginId\":\"p\",\"transcript\":\" draw \"\x7d" }
    ((respond ⟨0, 0⟩ r).run s).1.status = 200 ∧
      ∃ command said, (s.step (.request ⟨0, 0⟩ r)).channel.queue command.plugin = [command] ∧ command.transcript = .str said ∧
        trimmed said ≠ "" ∧ ∀ d d₁, d.limit = 6 → Delivers 60 command.plugin (s.step (.request ⟨0, 0⟩ r)).channel d command d₁ →
          Compiles command.transcript (trimmed said) d₁ := by
  intro s r
  have hasks : asks r = some .postCommand := by decide +kernel
  have hs : ((respond ⟨0, 0⟩ r).run s).1.status = 200 := by decide +kernel
  have hread : (readObject r).isOk = true := by decide +kernel
  have hactions : (readObject r).toOption.all (fun fields => (fields.value "actions").isNull) = true := by decide +kernel
  obtain ⟨fields, hbody⟩ : ∃ fields, readObject r = .ok fields := by
    cases h : readObject r with
    | error f => rw [h] at hread; cases hread
    | ok fields => exact ⟨fields, rfl⟩
  rw [hbody] at hactions
  have hnone : fields.value "actions" = .null := by
    cases hv : fields.value "actions" <;> rw [Except.toOption, Option.all_some, hv] at hactions <;> first | rfl | cases hactions
  obtain ⟨command, said, hqueue, -, hspoken, -, hsolid, hcompiles⟩ :=
    accepted_transcript_compiles hasks hs hbody hnone
  exact ⟨hs, command, said, hqueue, hspoken, hsolid, fun d d₁ hd hdelivers => (hcompiles 60 _ d d₁ hd hdelivers).2⟩

end Service
end Easel
