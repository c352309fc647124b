/-!
# Searching a text

A text is split around the first place of a word or of a character, or around the last
place of a character.
-/

namespace Shortlink.Text

/-- What stands before and after the first occurrence of `word`. -/
def splitAtWord? (word : List Char) : List Char → Option (List Char × List Char)
  | [] => if word.isEmpty then some ([], []) else none
  | c :: rest =>
    if word.isPrefixOf (c :: rest) then some ([], (c :: rest).drop word.length)
    else (splitAtWord? word rest).map fun (before, after) => (c :: before, after)

/-- What stands before and after the first occurrence of the character `mark`. -/
def splitAtFirst? (mark : Char) : List Char → Option (List Char × List Char)
  | [] => none
  | c :: rest =>
    if c = mark then some ([], rest)
    else (splitAtFirst? mark rest).map fun (before, after) => (c :: before, after)

/-- What stands before and after the last occurrence of the character `mark`. -/
def splitAtLast? (mark : Char) : List Char → Option (List Char × List Char)
  | [] => none
  | c :: rest =>
    match splitAtLast? mark rest with
    | some (before, after) => some (c :: before, after)
    | none => if c = mark then some ([], rest) else none

/-- The pieces of a text between the occurrences of the character `mark`; always at
least one. -/
def piecesAt (mark : Char) : List Char → List (List Char)
  | [] => [[]]
  | c :: rest =>
    if c = mark then [] :: piecesAt mark rest
    else
      match piecesAt mark rest with
      | [] => [[c]]
      | piece :: pieces => (c :: piece) :: pieces

theorem splitAtFirst?_eq_some {mark : Char} {text before after : List Char}
    (h : splitAtFirst? mark text = some (before, after)) :
    text = before ++ mark :: after ∧ mark ∉ before := by
  induction text generalizing before with
  | nil => simp [splitAtFirst?] at h
  | cons c rest ih =>
    simp only [splitAtFirst?] at h
    split at h
    next hc => simp only [Option.some.injEq, Prod.mk.injEq] at h; simp [← h.1, ← h.2, hc]
    next hc =>
      cases hr : splitAtFirst? mark rest with
      | none => simp [hr] at h
      | some found =>
        simp only [hr, Option.map_some, Option.some.injEq, Prod.mk.injEq] at h
        have : rest = found.1 ++ mark :: after ∧ mark ∉ found.1 := ih (by simp [hr, ← h.2])
        refine ⟨by simp [← h.1, ← this.1], ?_⟩
        simp only [← h.1, List.mem_cons, not_or]
        exact ⟨fun e => hc e.symm, this.2⟩

theorem splitAtLast?_eq_some {mark : Char} {text before after : List Char}
    (h : splitAtLast? mark text = some (before, after)) :
    text = before ++ mark :: after ∧ mark ∉ after := by
  induction text generalizing before after with
  | nil => simp [splitAtLast?] at h
  | cons c rest ih =>
    have none_of_last : splitAtLast? mark rest = none → mark ∉ rest := by
      clear ih h
      intro h
      induction rest with
      | nil => simp
      | cons d tail ih =>
        simp only [splitAtLast?] at h
        cases ht : splitAtLast? mark tail with
        | some found => simp [ht] at h
        | none =>
          simp only [ht] at h
          split at h
          · simp at h
          · next hd => simp [ih ht, Ne.symm hd]
    simp only [splitAtLast?] at h
    cases hr : splitAtLast? mark rest with
    | some found =>
      simp only [hr, Option.some.injEq, Prod.mk.injEq] at h
      obtain ⟨rfl, rfl⟩ := h
      have := ih hr
      exact ⟨by simp [← this.1], this.2⟩
    | none =>
      simp only [hr] at h
      split at h
      next hc =>
        simp only [Option.some.injEq, Prod.mk.injEq] at h
        obtain ⟨rfl, rfl⟩ := h
        exact ⟨by simp [hc], none_of_last hr⟩
      next => simp at h

end Shortlink.Text
