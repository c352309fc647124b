import Shortlink.Link.Address

/-!
# Short URLs and their codes

The front of a short URL has three slashes in known places: two after the scheme, and the
one that ends the host. So the code can be read back from a short URL whatever the front is,
and different codes make different short URLs, also under different hosts and also where the
alphabet of the codes has a slash itself.
-/

namespace Shortlink

/-- The text after the first slash. -/
def afterSlash (text : List Char) : List Char := (text.dropWhile (· != '/')).tail

/-- The code in a short URL: the text after the third slash. -/
def codeOfShortUrl (shortUrl : String) : String :=
  .ofList (afterSlash (afterSlash (afterSlash shortUrl.toList)))

theorem afterSlash_append {front : List Char} (plain : '/' ∉ front) (rest : List Char) :
    afterSlash (front ++ '/' :: rest) = rest := by
  have passed : ∀ c ∈ front, (c != '/') = true := by
    intro c member
    rw [bne_iff_ne]
    rintro rfl
    exact plain member
  rw [afterSlash, List.dropWhile_append_of_pos passed, List.dropWhile_cons_of_neg (by simp),
    List.tail_cons]

namespace Address

/-- A text is the front of short URLs: a scheme and a host, neither with a slash. -/
def IsFront (front : String) : Prop :=
  ∃ scheme host : List Char, '/' ∉ scheme ∧ '/' ∉ host ∧
    front = .ofList (scheme ++ [':', '/', '/'] ++ host)

theorem not_mem_of_isServed {scheme : List Char} (served : isServed scheme = true) :
    '/' ∉ scheme := by
  rw [isServed, Bool.or_eq_true, beq_iff_eq, beq_iff_eq] at served
  rcases served with rfl | rfl
  · decide
  · decide

/-- What is accepted as the front of short URLs: a served scheme in lower case, and the host
without blanks around it and slashes at its end. -/
theorem parts_of_base {scheme host front : List Char} (accepted : base scheme host = .ok front) :
    let served := scheme.map Char.toLower
    let bare := Text.dropTrailing (· == '/') (Text.trim host)
    isServed served = true ∧ '/' ∉ bare ∧ front = served ++ [':', '/', '/'] ++ bare := by
  simp only [base, bind, Except.bind, pure, Except.pure, throw, throwThe,
    MonadExceptOf.throw] at accepted
  split at accepted
  · contradiction
  · rename_i served
    split at accepted
    · contradiction
    · rename_i usable
      split at accepted
      · cases accepted
        exact ⟨Decidable.not_not.mp served, fun member => usable (.inr member), rfl⟩
      · contradiction

/-- What is accepted as the front of short URLs is one. -/
theorem isFront_of_base {scheme host front : List Char} (accepted : base scheme host = .ok front) :
    IsFront (.ofList front) := by
  obtain ⟨served, plain, rfl⟩ := parts_of_base accepted
  exact ⟨_, _, not_mem_of_isServed served, plain, rfl⟩

end Address

/-- The code can be read back from a short URL. -/
theorem codeOfShortUrl_append {front : String} (isFront : Address.IsFront front)
    (code : String) : codeOfShortUrl (front ++ "/" ++ code) = code := by
  obtain ⟨scheme, host, plainScheme, plainHost, rfl⟩ := isFront
  have withoutSlash : '/' ∉ scheme ++ [':'] := by simp [plainScheme]
  have spelled : (String.ofList (scheme ++ [':', '/', '/'] ++ host) ++ "/" ++ code).toList =
      (scheme ++ [':']) ++ '/' :: ([] ++ '/' :: (host ++ '/' :: code.toList)) := by
    simp
  rw [codeOfShortUrl, spelled, afterSlash_append withoutSlash, afterSlash_append (by simp),
    afterSlash_append plainHost, String.ofList_toList]

end Shortlink
