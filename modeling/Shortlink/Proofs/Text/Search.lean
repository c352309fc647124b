import Mathlib.Data.List.TakeWhile
import Shortlink.Text.Search

/-!
# Where a text is split

The splits of a text that is put together from known parts: which part decides, and which parts
make no difference.
-/

namespace Shortlink.Text

/-! ## The first occurrence of a character -/

/-- What stands before the first occurrence depends on nothing behind it. -/
theorem splitAtFirst?_append (mark : Char) (front back : List Char) :
    ∃ after, splitAtFirst? mark (front ++ mark :: back) =
      some (front.takeWhile (· != mark), after) := by
  induction front with
  | nil => exact ⟨back, by simp [splitAtFirst?]⟩
  | cons c front induction =>
      by_cases same : c = mark
      · exact ⟨front ++ mark :: back, by simp [splitAtFirst?, same]⟩
      · obtain ⟨after, split⟩ := induction
        exact ⟨after, by simp [splitAtFirst?, split, same]⟩

theorem splitAtFirst?_eq_none_iff {mark : Char} {text : List Char} :
    splitAtFirst? mark text = none ↔ mark ∉ text := by
  induction text with
  | nil => simp [splitAtFirst?]
  | cons c rest induction =>
      by_cases same : c = mark
      · simp [splitAtFirst?, same]
      · simp [splitAtFirst?, same, Ne.symm same, induction]

theorem takeWhile_of_not_mem {mark : Char} {text : List Char} (absent : mark ∉ text) :
    text.takeWhile (· != mark) = text := by
  refine List.takeWhile_eq_self_iff.mpr ?_
  intro c member
  exact bne_iff_ne.mpr (ne_of_mem_of_not_mem member absent)

/-- A character outside of a class is not dropped with the leading ones of the class. -/
theorem mem_dropWhile_of_mem {inClass : Char → Bool} {c : Char} {text : List Char}
    (member : c ∈ text) (isOther : inClass c = false) : c ∈ text.dropWhile inClass := by
  rw [← List.takeWhile_append_dropWhile (p := inClass) (l := text), List.mem_append] at member
  refine member.resolve_left fun leads => ?_
  rw [List.mem_takeWhile_imp leads] at isOther
  contradiction

/-! ## The last occurrence of a character -/

theorem splitAtLast?_eq_none {mark : Char} {text : List Char} (absent : mark ∉ text) :
    splitAtLast? mark text = none := by
  induction text with
  | nil => rfl
  | cons c rest induction =>
      rw [List.mem_cons, not_or] at absent
      simp only [splitAtLast?, induction absent.2, if_neg (Ne.symm absent.1)]

/-- A text that begins with the character has a last occurrence of it. -/
theorem splitAtLast?_cons (mark : Char) (text : List Char) :
    ∃ between after, splitAtLast? mark (mark :: text) = some (between, after) := by
  rw [splitAtLast?]
  cases splitAtLast? mark text with
  | none => exact ⟨[], text, if_pos rfl⟩
  | some found => exact ⟨mark :: found.1, found.2, rfl⟩

/-- What is put in front does not change the last occurrence. -/
theorem splitAtLast?_append {mark : Char} {back before after : List Char}
    (found : splitAtLast? mark back = some (before, after)) (front : List Char) :
    splitAtLast? mark (front ++ back) = some (front ++ before, after) := by
  induction front with
  | nil => exact found
  | cons c front induction =>
      rw [List.cons_append, splitAtLast?, induction]
      rfl

/-! ## Every occurrence of a character -/

theorem piecesAt_of_not_mem {mark : Char} {text : List Char} (absent : mark ∉ text) :
    piecesAt mark text = [text] := by
  induction text with
  | nil => rfl
  | cons c rest induction =>
      rw [List.mem_cons, not_or] at absent
      simp only [piecesAt, if_neg (Ne.symm absent.1), induction absent.2]

theorem piecesAt_ne_nil (mark : Char) (text : List Char) : piecesAt mark text ≠ [] := by
  cases text with
  | nil => simp [piecesAt]
  | cons c rest =>
      rw [piecesAt]
      split
      · simp
      · split <;> simp

theorem piecesAt_append (mark : Char) (front back : List Char) :
    piecesAt mark (front ++ mark :: back) = piecesAt mark front ++ piecesAt mark back := by
  induction front with
  | nil => simp [piecesAt]
  | cons c front induction =>
      by_cases same : c = mark
      · simp [piecesAt, same, induction]
      · cases pieces : piecesAt mark front with
        | nil => exact absurd pieces (piecesAt_ne_nil mark front)
        | cons piece pieces => simp_all [piecesAt]

/-- A text with a single piece is this piece. -/
theorem eq_of_piecesAt_eq_singleton {mark : Char} {text piece : List Char}
    (single : piecesAt mark text = [piece]) : text = piece := by
  by_cases occurs : mark ∈ text
  · obtain ⟨front, back, rfl⟩ := List.append_of_mem occurs
    rw [piecesAt_append, List.append_eq_singleton_iff] at single
    rcases single with ⟨isNil, -⟩ | ⟨-, isNil⟩
    · exact absurd isNil (piecesAt_ne_nil mark front)
    · exact absurd isNil (piecesAt_ne_nil mark back)
  · rw [piecesAt_of_not_mem occurs] at single
    exact List.singleton_inj.mp single

/-! ## Texts joined by marks -/

section Joined

variable {mark : Char} {x y z x' y' z' : List Char}

/-- Where the second of two texts is free of the mark, a mark in their joined text is the one
between them or in front of it. -/
theorem exists_append_of_joined (absent : mark ∉ y) (same : x' ++ mark :: y' = x ++ mark :: y) :
    ∃ between, x' ++ between = x ∧ mark :: y' = between ++ mark :: y := by
  rcases List.append_eq_append_iff.mp same with ⟨between, isFirst, isSecond⟩ | ⟨after, -, isSecond⟩
  · exact ⟨between, isFirst.symm, isSecond⟩
  · cases after with
    | nil => exact ⟨[], by simp_all⟩
    | cons c after =>
        rw [List.cons_append, List.cons.injEq] at isSecond
        rw [isSecond.2] at absent
        exact absurd (by simp) absent

/-- Three texts that are free of the mark are the only ones that it joins to their joined text. -/
theorem eq_of_joined (noneFirst : mark ∉ x) (noneSecond : mark ∉ y) (noneThird : mark ∉ z)
    (same : x' ++ mark :: (y' ++ mark :: z') = x ++ mark :: (y ++ mark :: z)) :
    x' = x ∧ y' = y ∧ z' = z := by
  have pieces := congrArg (piecesAt mark) same
  simp only [piecesAt_append, piecesAt_of_not_mem, noneFirst, noneSecond, noneThird,
    not_false_eq_true] at pieces
  have someFirst := List.length_pos_iff.mpr (piecesAt_ne_nil mark x')
  have someSecond := List.length_pos_iff.mpr (piecesAt_ne_nil mark y')
  have someThird := List.length_pos_iff.mpr (piecesAt_ne_nil mark z')
  have lengths := congrArg List.length pieces
  simp only [List.length_append, List.length_singleton] at lengths
  obtain ⟨isFirst, others⟩ := List.append_inj pieces (by simp; omega)
  obtain ⟨isSecond, isThird⟩ := List.append_inj others (by simp; omega)
  exact ⟨eq_of_piecesAt_eq_singleton isFirst, eq_of_piecesAt_eq_singleton isSecond,
    eq_of_piecesAt_eq_singleton isThird⟩

/-- If a text can be parted at a mark in one way only, there is no other mark in it. -/
theorem not_mem_of_joined
    (single : ∀ x' y', x' ++ mark :: y' = x ++ mark :: y → x' = x) : mark ∉ x ∧ mark ∉ y := by
  constructor
  · intro member
    obtain ⟨front, back, rfl⟩ := List.append_of_mem member
    simpa using single front (back ++ mark :: y) (by simp)
  · intro member
    obtain ⟨front, back, rfl⟩ := List.append_of_mem member
    simpa using single (x ++ mark :: front) back (by simp)

end Joined

/-! ## The first occurrence of a word -/

section Word

variable {c : Char} {rest front : List Char}

/-- A word whose first character occurs in it only once does not begin in front of a place where
it stands. -/
theorem not_isPrefix_of_single (single : c ∉ rest) {d : Char}
    (absent : ¬c :: rest <:+: d :: front) (back : List Char) :
    ¬c :: rest <+: d :: (front ++ (c :: rest ++ back)) := by
  intro begins
  obtain ⟨rfl, continues⟩ := List.cons_prefix_cons.mp begins
  rcases List.prefix_or_prefix_of_prefix continues (List.prefix_append front _) with
    within | ⟨more, rfl⟩
  · exact absent (List.cons_prefix_cons.mpr ⟨rfl, within⟩).isInfix
  · have follows := (List.prefix_append_right_inj front).mp continues
    cases more with
    | nil => exact absent (by simp)
    | cons e more =>
        obtain ⟨rfl, -⟩ := List.cons_prefix_cons.mp follows
        exact single (by simp)

theorem splitAtWord?_append (single : c ∉ rest) (absent : ¬c :: rest <:+: front)
    (back : List Char) :
    splitAtWord? (c :: rest) (front ++ (c :: rest ++ back)) = some (front, back) := by
  induction front with
  | nil => simp [splitAtWord?]
  | cons d front induction =>
      have notHere := not_isPrefix_of_single single absent back
      have later : ¬c :: rest <:+: front := fun within =>
        absent (within.trans (List.suffix_cons d front).isInfix)
      rw [List.cons_append, splitAtWord?, if_neg (by simpa using notHere), induction later]
      rfl

/-- A split at a word gives the parts of the text, and the first holds no other occurrence. -/
theorem splitAtWord?_eq_some {text before after : List Char}
    (found : splitAtWord? (c :: rest) text = some (before, after)) :
    text = before ++ (c :: rest ++ after) ∧ ¬c :: rest <:+: before := by
  induction text generalizing before with
  | nil => simp [splitAtWord?] at found
  | cons d text induction =>
      rw [splitAtWord?] at found
      split at found
      next begins =>
        obtain ⟨back, split⟩ := List.isPrefixOf_iff_prefix.mp begins
        cases found
        rw [← split, List.drop_left]
        exact ⟨rfl, by simp⟩
      next notHere =>
        obtain ⟨⟨before, after⟩, found, same⟩ := Option.map_eq_some_iff.mp found
        cases same
        obtain ⟨rfl, absent⟩ := induction found
        refine ⟨rfl, ?_⟩
        rw [List.infix_cons_iff]
        rintro (begins | within)
        · refine notHere (List.isPrefixOf_iff_prefix.mpr (begins.trans ?_))
          exact List.prefix_append (d :: before) _
        · exact absent within

end Word

end Shortlink.Text
