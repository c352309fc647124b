import Shortlink.Proofs.Text.Search
import Shortlink.Web.Url

/-!
# Paths of the web

The path of a URL of the web leads from segment to segment. Backslashes part segments as slashes
do; a segment of one dot stays where it is, and one of two dots goes back by one. A dot may also be
written with a percent sign. What is left is the path that a server sees, before characters are
escaped.
-/

namespace Shortlink.Web.Url

/-- The segments that stay where they are. -/
def stays : List (List Char) := [".", "%2e", "%2E"].map String.toList

/-- The segments that go back. -/
def backs : List (List Char) :=
  ["..", ".%2e", ".%2E", "%2e.", "%2E.", "%2e%2e", "%2e%2E", "%2E%2e", "%2E%2E"].map
    String.toList

/-- Where a segment leads. -/
def step (place : List (List Char)) (segment : List Char) : List (List Char) :=
  if segment ∈ backs then place.dropLast
  else if segment ∈ stays then place
  else place ++ [segment]

/-- Where segments lead one after another. Behind a last one that stays or goes back there is an
empty segment, as there is where no segment is given. -/
def follow : List (List Char) → List (List Char) → List (List Char)
  | place, [] => place ++ [[]]
  | place, [last] => step place last ++ if last ∈ backs ++ stays then [[]] else []
  | place, segment :: rest => follow (step place segment) rest

/-- The segments in the text of a path. -/
def segmentsOf (path : List Char) : List (List Char) :=
  (Text.piecesAt '/' (path.map fun c => if isSlash c then '/' else c)).tail

/-- The path of a URL of the web as the segments that are left of it. -/
def segments (url : Url) : List (List Char) := follow [] (segmentsOf url.path)

/-! ## The last segment -/

/-- Whatever does not go forward is written with a dot or a percent sign. -/
theorem not_mem_of_plain {segment : List Char} (plain : ∀ c ∈ segment, c ≠ '.' ∧ c ≠ '%') :
    segment ∉ backs ∧ segment ∉ stays := by
  have isMarked : ∀ form ∈ backs ++ stays, ∃ c ∈ form, c = '.' ∨ c = '%' := by
    simp [backs, stays]
  rw [← not_or, ← List.mem_append]
  intro member
  obtain ⟨c, isChar, isDot | isPercent⟩ := isMarked segment member
  · exact (plain c isChar).1 isDot
  · exact (plain c isChar).2 isPercent

theorem follow_append {last : List Char} (goesOn : last ∉ backs ∧ last ∉ stays)
    (place segments : List (List Char)) :
    follow place (segments ++ [last]) = segments.foldl step place ++ [last] := by
  induction segments generalizing place with
  | nil => simp [follow, step, goesOn]
  | cons segment rest ih =>
      have later : follow place (segment :: (rest ++ [last])) =
          follow (step place segment) (rest ++ [last]) := by
        cases rest <;> rfl
      rw [List.cons_append, later, ih, List.foldl_cons]

/-- A last segment without slashes and dots is what the path ends with. -/
theorem segmentsOf_append {last : List Char} (noSlash : ∀ c ∈ last, isSlash c = false)
    (path : List Char) : segmentsOf (path ++ '/' :: last) = segmentsOf path ++ [last] := by
  have same : last.map (fun c => if isSlash c then '/' else c) = last := by
    rw [List.map_congr_left fun c member => if_neg (by simp [noSlash c member]), List.map_id']
  have absent : '/' ∉ last := fun member => absurd (noSlash '/' member) (by decide)
  rw [segmentsOf, segmentsOf, List.map_append, List.map_cons, same,
    show (if isSlash '/' then '/' else '/') = '/' from rfl, Text.piecesAt_append,
    Text.piecesAt_of_not_mem absent, List.tail_append_of_ne_nil (Text.piecesAt_ne_nil _ _)]

/-! ## The query and the fragment -/

/-- What stands from the path on is all path if it has no mark of a query or a fragment, and only
then is there neither. -/
theorem withRest_eq (scheme : List Char) (credentials : Option (List Char)) (host : Option Host)
    (port : Option Nat) {rest : List Char} (noQuery : '?' ∉ rest) (noFragment : '#' ∉ rest) :
    withRest scheme credentials host port rest =
      ⟨scheme, credentials, host, port, rest, none, none⟩ := by
  simp only [withRest, Text.splitAtFirst?_eq_none_iff.mpr noQuery,
    Text.splitAtFirst?_eq_none_iff.mpr noFragment]

theorem not_mem_of_withRest {scheme : List Char} {credentials : Option (List Char)}
    {host : Option Host} {port : Option Nat} {rest : List Char}
    (noQuery : (withRest scheme credentials host port rest).query = none)
    (noFragment : (withRest scheme credentials host port rest).fragment = none) :
    '?' ∉ rest ∧ '#' ∉ rest := by
  cases fragment : Text.splitAtFirst? '#' rest with
  | some parts => simp [withRest, fragment] at noFragment
  | none =>
      refine ⟨Text.splitAtFirst?_eq_none_iff.mp ?_, Text.splitAtFirst?_eq_none_iff.mp fragment⟩
      cases query : Text.splitAtFirst? '?' rest with
      | some parts => simp [withRest, fragment, query] at noQuery
      | none => rfl

end Shortlink.Web.Url
