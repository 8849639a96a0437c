/-!
Searching a text for a piece of it.
-/

namespace Easel.Text

/-- The text before and the text after the first occurrence of `piece`. -/
def cut? (piece : List Char) : List Char → Option (List Char × List Char)
  | [] => if piece.isEmpty then some ([], []) else none
  | c :: rest =>
    if piece.isPrefixOf (c :: rest) then some ([], (c :: rest).drop piece.length)
    else (cut? piece rest).map fun (before, after) => (c :: before, after)

def occurs (piece s : List Char) : Bool :=
  (cut? piece s).isSome

/-- The pieces between the characters that are marks; two marks side by side have an empty piece between them. -/
def pieces (isMark : Char → Bool) : List Char → List (List Char)
  | [] => [[]]
  | c :: rest =>
    if isMark c then [] :: pieces isMark rest
    else
      match pieces isMark rest with
      | [] => [[c]]
      | p :: ps => (c :: p) :: ps

/-- The longest runs of characters of a class. -/
def words (isLetter : Char → Bool) (s : List Char) : List (List Char) :=
  (pieces (!isLetter ·) s).filter (!·.isEmpty)

/-- What stands before the first mark. -/
def beforeMark (mark : Char) (s : List Char) : List Char :=
  s.takeWhile (· ≠ mark)

theorem cut?_eq_some {piece s before after : List Char} (h : cut? piece s = some (before, after)) :
    s = before ++ piece ++ after := by
  induction s generalizing before with
  | nil =>
    simp only [cut?, List.isEmpty_iff, Option.ite_none_right_eq_some, Option.some.injEq, Prod.mk.injEq] at h
    obtain ⟨hp, rfl, rfl⟩ := h
    simp [hp]
  | cons c rest ih =>
    rw [cut?] at h
    split at h
    · next hp =>
      obtain ⟨t, ht⟩ := List.isPrefixOf_iff_prefix.1 hp
      simp only [Option.some.injEq, Prod.mk.injEq] at h
      obtain ⟨rfl, rfl⟩ := h
      simp [← ht]
    · obtain ⟨⟨b, a⟩, hb, he⟩ := Option.map_eq_some_iff.1 h
      simp only [Prod.mk.injEq] at he
      obtain ⟨rfl, rfl⟩ := he
      simp [ih hb]

end Easel.Text
