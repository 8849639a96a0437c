import Easel.Proofs.Json.Reading
import Easel.Proofs.Text
import Easel.Reply

/-!
Replies that are refused for a whole number of too many digits. They have it in them, in the reply or in its block, and no other
fault ends the reading before it is known what the reply is.
-/

namespace Easel.Reply

variable {reply : String} {n : Nat}

theorem block_inside {opening s block : List Char} (h : block? opening s = some block) : block <:+: s := by
  simp only [block?, Option.bind_eq_bind, Option.bind_eq_some_iff, Prod.exists] at h
  obtain ⟨before, after, ho, inside, rest, hc, hb⟩ := h
  split at hb
  · cases hb
  · cases hb
    have hs := Text.cut?_eq_some ho
    have ha := Text.cut?_eq_some hc
    have hafter : after <:+: s := ⟨before ++ opening, [], by rw [hs, List.append_nil]⟩
    have hinside : inside <:+: after := ⟨[], fence ++ rest, by rw [ha]; simp⟩
    exact (Text.trim_inside inside).trans (hinside.trans hafter)

theorem unfenceChars_inside (s : List Char) : unfenceChars s <:+: s := by
  have htrim := Text.trim_inside s
  unfold unfenceChars
  dsimp only
  generalize (if Text.occurs jsonFence (Text.trim s) then jsonFence else fence) = opening
  cases hb : block? opening (Text.trim s) with
  | none => exact htrim
  | some block => exact (block_inside hb).trans htrim

/-- A reply that ends the handling of a transcript has so many digits in a row in it. -/
theorem hasLongNumeral_of_read (h : read reply = .error (.numeralTooLong n)) : Json.HasLongNumeral n reply.toList := by
  have hfenced (h : readFenced reply = .error (.numeralTooLong n)) : Json.HasLongNumeral n reply.toList := by
    unfold readFenced at h
    split at h
    · cases h
    · rename_i hr
      cases h
      have hl := Json.hasLongNumeral_of_read hr
      rw [unfence, String.toList_ofList] at hl
      exact hl.of_infix (unfenceChars_inside _)
    · cases h
  unfold read at h
  split at h
  · exact hfenced h
  · cases h
  · rename_i hr
    cases h
    exact Json.hasLongNumeral_of_read hr
  · exact hfenced h

/-- All other replies give actions or have a fault of form. -/
theorem actions_eq_numeralTooLong : actions reply = .error (.numeralTooLong n) ↔ read reply = .error (.numeralTooLong n) := by
  unfold actions
  cases read reply with
  | error e => constructor <;> intro h <;> cases h <;> rfl
  | ok v =>
    refine ⟨fun h => ?_, fun h => by cases h⟩
    change ((items v).bind (objects 0)).mapError Error.shape = _ at h
    cases hf : (items v).bind (objects 0) <;> rw [hf] at h <;> cases h

theorem read_ones (h : Text.digitLimit < n) : read (String.ofList (List.replicate n '1')) = .error (.numeralTooLong n) := by
  unfold read
  rw [Json.read_ones h]

end Easel.Reply
