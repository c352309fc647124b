import Shortlink.Proofs.Link.ShortUrl
import Shortlink.Proofs.Web.Authority
import Shortlink.Proofs.Web.Path

/-!
# Where short URLs lead

A short URL is an accepted host with a slash and a code behind it. It is read like the URL that was
checked when the host was accepted, up to the end of the authority, so every code gives a URL. The
host itself may go on behind its authority, since a backslash, a question mark and a number sign end
the authority as well as a slash does. It leads to the code alone exactly if what stands there leads
nowhere.
-/

namespace Shortlink.Address

open Web (Url Host)
open Web.Url (afterSlashes withoutBreaks fromPath beforePath isEdge isSlash withRest)

/-- A host as it stands in short URLs. -/
def spelled (host : List Char) : List Char := Text.dropTrailing (· == '/') (Text.trim host)

/-- What is accepted as the front of short URLs is a URL with a slash behind it. -/
theorem exists_parse_of_base {scheme host front : List Char}
    (accepted : base scheme host = .ok front) : ∃ url, Url.parse (front ++ ['/']) = .ok url := by
  simp only [base, bind, Except.bind, pure, Except.pure, throw, throwThe,
    MonadExceptOf.throw] at accepted
  split at accepted
  · contradiction
  · split at accepted
    · contradiction
    · split at accepted
      next url read =>
        cases accepted
        exact ⟨url, read⟩
      next => contradiction

/-- How a URL of a served scheme is read. -/
theorem parse_eq {scheme : List Char} (served : isServed scheme = true) (host rest : List Char) :
    Url.parse (scheme ++ [':', '/', '/'] ++ host ++ '/' :: rest) =
      afterSlashes scheme .web
        ((withoutBreaks host ++ '/' :: withoutBreaks (Text.dropTrailing isEdge rest)).dropWhile
          isSlash) := by
  rw [isServed, Bool.or_eq_true, beq_iff_eq, beq_iff_eq] at served
  rcases served with rfl | rfl
  · rw [Url.parse, List.cons_append, List.cons_append, Url.clean_append (by decide)]
    rfl
  · rw [Url.parse, List.cons_append, List.cons_append, Url.clean_append (by decide)]
    rfl

/-- All short URLs with one front are read alike up to their path. -/
theorem parse_shortUrl {scheme host front : List Char} (accepted : base scheme host = .ok front) :
    ∃ served credentials name port, isServed served = true ∧ ∀ code : List Char,
      Url.parse (front ++ '/' :: code) = .ok (withRest served credentials (some name) port
        (fromPath (spelled host) ++ '/' :: withoutBreaks (Text.dropTrailing isEdge code))) := by
  obtain ⟨url, read⟩ := exists_parse_of_base accepted
  obtain ⟨served, -, isFront⟩ := parts_of_base accepted
  change front = _ ++ [':', '/', '/'] ++ spelled host at isFront
  subst isFront
  rw [parse_eq served] at read
  have begins : (withoutBreaks (spelled host)).dropWhile isSlash ≠ [] := by
    intro isEmpty
    rw [List.dropWhile_append, isEmpty] at read
    cases read
  rw [Url.afterSlashes_dropWhile _ begins] at read
  cases isPlace : Url.readPlace (Url.splitCredentials (beforePath (spelled host))).2 with
  | error error =>
      rw [isPlace] at read
      cases read
  | ok place =>
      refine ⟨_, (Url.splitCredentials (beforePath (spelled host))).1, place.1, place.2, served,
        fun code => ?_⟩
      rw [parse_eq served, Url.afterSlashes_dropWhile _ begins, isPlace]
      rfl

/-- Short URLs are themselves URLs that may be shortened. -/
theorem short_urls_are_valid {scheme host front : List Char}
    (accepted : base scheme host = .ok front) (code : List Char) :
    validate (front ++ '/' :: code) = .ok () := by
  obtain ⟨served, credentials, name, port, isServed, read⟩ := parse_shortUrl accepted
  rw [validate, read code]
  simp [withRest, isServed]

/-- A host with credentials and a port, and a code of delimiters with a control at its end. -/
theorem short_urls_are_valid_of_delimiters :
    let host := "user:@[::1]:8080//".toList
    let front := "http://user:@[::1]:8080".toList
    let code := "@:/?# \\[\t\x00".toList
    base "Http".toList host = .ok front ∧ validate (front ++ '/' :: code) = .ok () := by
  intro host front code
  have accepted : base "Http".toList host = .ok front := rfl
  exact ⟨accepted, short_urls_are_valid accepted code⟩

/-! ## Bare origins -/

/-- A host has nothing behind its authority but segments that lead nowhere. -/
structure IsOrigin (host : List Char) : Prop where
  noQuery : '?' ∉ host
  noFragment : '#' ∉ host
  leadsNowhere : (Url.segmentsOf (fromPath host)).foldl Url.step [] = []

theorem mem_of_mem_fromPath {host : List Char} {c : Char} (member : c ∈ fromPath host) :
    c ∈ host :=
  (List.mem_filter.mp ((List.dropWhile_sublist _).subset
    ((List.dropWhile_sublist _).subset member))).1

/-- Question marks and number signs of a host stand behind its authority. -/
theorem mem_fromPath {host : List Char} {c : Char} (member : c ∈ host)
    (isMark : c = '?' ∨ c = '#') : c ∈ fromPath host := by
  have counts : (!Url.isSkipped c) = true := by rcases isMark with rfl | rfl <;> decide
  have noSlash : isSlash c = false := by rcases isMark with rfl | rfl <;> decide
  have ends : Web.Url.endsAuthority .web c = true := by rcases isMark with rfl | rfl <;> decide
  exact Text.mem_dropWhile_of_mem
    (Text.mem_dropWhile_of_mem (List.mem_filter.mpr ⟨member, counts⟩) noSlash) (by simp [ends])

/-- A host without delimiters has nothing behind its authority. -/
theorem isOrigin_of_plain {host : List Char}
    (plain : ∀ c ∈ host, c ≠ '/' ∧ c ≠ '\\' ∧ c ≠ '?' ∧ c ≠ '#') : IsOrigin host := by
  have inside : ∀ c ∈ host, Web.Url.endsAuthority .web c = false := by
    intro c member
    simp [Web.Url.endsAuthority, plain c member]
  have isEmpty : fromPath host = [] := by
    refine List.dropWhile_eq_nil_iff.mpr fun c member => ?_
    have isChar := (List.mem_filter.mp ((List.dropWhile_sublist _).subset member)).1
    simp [inside c isChar]
  refine ⟨fun member => (plain _ member).2.2.1 rfl, fun member => (plain _ member).2.2.2 rfl, ?_⟩
  rw [isEmpty]
  rfl

/-! ## Codes of letters and digits -/

theorem toNat_of_isAlphanum {c : Char} (plain : c.isAlphanum = true) : 48 ≤ c.toNat := by
  by_contra isLow
  have noneLow : ∀ n < 48, (Char.ofNat n).isAlphanum = false := by decide
  have isOther := noneLow c.toNat (by omega)
  rw [Char.ofNat_toNat, plain] at isOther
  contradiction

theorem ne_of_isAlphanum {c mark : Char} (plain : c.isAlphanum = true)
    (isOther : mark.isAlphanum = false) : c ≠ mark := by
  rintro rfl
  rw [plain] at isOther
  contradiction

/-- Letters and digits all count. -/
theorem counted_of_plain {code : List Char} (plain : ∀ c ∈ code, c.isAlphanum = true) :
    withoutBreaks (Text.dropTrailing isEdge code) = code := by
  have noEdge : code.reverse.dropWhile isEdge = code.reverse := by
    cases isReverse : code.reverse with
    | nil => rfl
    | cons last front =>
        have member : last ∈ code := List.mem_reverse.mp (isReverse ▸ List.mem_cons_self)
        have isVisible : 48 ≤ last.toNat := toNat_of_isAlphanum (plain last member)
        refine List.dropWhile_cons_of_neg ?_
        simp only [isEdge, decide_eq_true_eq]
        omega
  have noBreak : ∀ c ∈ code, (!Url.isSkipped c) = true := by
    intro c member
    have isOther {mark : Char} (isMark : mark.isAlphanum = false) : c ≠ mark :=
      ne_of_isAlphanum (plain c member) isMark
    simp [Url.isSkipped, isOther]
  rw [Text.dropTrailing, noEdge, List.reverse_reverse]
  exact List.filter_eq_self.mpr noBreak

/-- What is accepted as a host has no slash, and its short URLs are URLs. They have the code as
their path and neither query nor fragment exactly if nothing stands behind the authority of the host
but segments that lead nowhere, which is so without backslashes, question marks and number signs. -/
theorem short_urls_lead_to_codes_iff {scheme host front : List Char}
    (accepted : base scheme host = .ok front) {code : List Char}
    (plain : ∀ c ∈ code, c.isAlphanum = true) :
    front = scheme.map Char.toLower ++ [':', '/', '/'] ++ spelled host ∧ '/' ∉ spelled host ∧
      (∃ url, Url.parse (front ++ '/' :: code) = .ok url ∧
        (url.segments = [code] ∧ url.query = none ∧ url.fragment = none ↔
          IsOrigin (spelled host))) ∧
      ((∀ c ∈ spelled host, c ≠ '\\' ∧ c ≠ '?' ∧ c ≠ '#') → IsOrigin (spelled host)) := by
  obtain ⟨-, noSlash, isFront⟩ := parts_of_base accepted
  refine ⟨isFront, noSlash, ?_, fun noMark => isOrigin_of_plain fun c member =>
    ⟨ne_of_mem_of_not_mem member noSlash, noMark c member⟩⟩
  obtain ⟨served, credentials, name, port, -, read⟩ := parse_shortUrl accepted
  refine ⟨_, read code, ?_⟩
  rw [counted_of_plain plain]
  have isOther (mark : Char) (isMark : mark.isAlphanum = false) : ∀ c ∈ code, c ≠ mark :=
    fun c member => ne_of_isAlphanum (plain c member) isMark
  have goesOn : code ∉ Url.backs ∧ code ∉ Url.stays := Url.not_mem_of_plain fun c member =>
    ⟨isOther '.' (by decide) c member, isOther '%' (by decide) c member⟩
  have leads : Url.follow [] (Url.segmentsOf (fromPath (spelled host) ++ '/' :: code)) =
      (Url.segmentsOf (fromPath (spelled host))).foldl Url.step [] ++ [code] := by
    rw [Url.segmentsOf_append, Url.follow_append goesOn]
    intro c member
    simp [isSlash, isOther '/' (by decide) c member, isOther '\\' (by decide) c member]
  constructor
  · rintro ⟨isPath, noQuery, noFragment⟩
    obtain ⟨noQuery, noFragment⟩ := Url.not_mem_of_withRest noQuery noFragment
    rw [Url.segments, Url.withRest_eq _ _ _ _ noQuery noFragment, leads] at isPath
    exact ⟨fun member => noQuery (List.mem_append_left _ (mem_fromPath member (.inl rfl))),
      fun member => noFragment (List.mem_append_left _ (mem_fromPath member (.inr rfl))),
      List.append_left_eq_self.mp isPath⟩
  · intro isOrigin
    have absent {mark : Char} (outside : mark ∉ spelled host) (isMark : mark.isAlphanum = false)
        (noSlash : mark ≠ '/') : mark ∉ fromPath (spelled host) ++ '/' :: code := by
      rw [List.mem_append, List.mem_cons]
      rintro (member | rfl | member)
      · exact outside (mem_of_mem_fromPath member)
      · exact noSlash rfl
      · exact isOther mark isMark mark member rfl
    rw [Url.segments, Url.withRest_eq _ _ _ _ (absent isOrigin.noQuery (by decide) (by decide))
      (absent isOrigin.noFragment (by decide) (by decide)), leads, isOrigin.leadsNowhere]
    exact ⟨rfl, rfl, rfl⟩

/-- The blanks around a host and the slash at its end are dropped, and its port is kept. -/
theorem short_urls_lead_to_codes_iff_of_port :
    let host := " [::1]:8080/ ".toList
    let front := "https://[::1]:8080".toList
    let code := "abc1234".toList
    base "HTTPS".toList host = .ok front ∧ (∀ c ∈ code, c.isAlphanum = true) ∧
      ∃ url, Url.parse (front ++ '/' :: code) = .ok url ∧ url.segments = [code] ∧
        url.query = none ∧ url.fragment = none := by
  intro host front code
  have accepted : base "HTTPS".toList host = .ok front := rfl
  have plain : ∀ c ∈ code, c.isAlphanum = true := List.all_eq_true.mp (by decide)
  obtain ⟨-, -, ⟨url, read, leads⟩, isOrigin⟩ := short_urls_lead_to_codes_iff accepted plain
  have noMark : (spelled host).all (fun c => c != '\\' && (c != '?' && c != '#')) = true := rfl
  exact ⟨accepted, plain, url, read, leads.mpr (isOrigin (by simpa using noMark))⟩

/-- A host with a path behind a backslash is accepted, and its short URLs lead below that path. -/
theorem accepts_host_with_path :
    let host := "[::1]\\path".toList
    let front := "https://[::1]\\path".toList
    base "https".toList host = .ok front ∧ '\\' ∈ host ∧
      ∃ url, Url.parse (front ++ '/' :: "abc1234".toList) = .ok url ∧
        url.segments = ["path".toList, "abc1234".toList] :=
  ⟨rfl, by decide, _, rfl, rfl⟩

end Shortlink.Address
