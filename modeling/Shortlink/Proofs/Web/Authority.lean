import Mathlib.Data.List.TakeWhile
import Shortlink.Proofs.Text.Search
import Shortlink.Web.Url

/-!
# What stands before the path

A URL of the web is read in two parts. The authority, which ends at the first slash, backslash,
question mark or number sign, gives the credentials, the host and the port; everything from there
on is split into path, query and fragment without a look at the authority. So whatever follows an
authority, it is read alike.
-/

namespace Shortlink.Web.Url

/-! ## The port -/

/-- A port is read up to a slash, so where there is none it is read to its end. -/
theorem readPort_rest {value port : Option Nat} {text rest : List Char}
    (noSlash : ∀ c ∈ text, isSlash c = false) (read : readPort value text = .ok (port, rest)) :
    rest = [] := by
  induction text generalizing value with
  | nil =>
      cases read
      rfl
  | cons c text ih =>
      obtain ⟨noSlashHere, noSlashLater⟩ := List.forall_mem_cons.mp noSlash
      simp only [readPort, noSlashHere, Bool.false_eq_true, if_false] at read
      split at read
      · split at read
        · exact ih noSlashLater read
        · contradiction
      · contradiction

/-- A text is its host and what follows that, which begins with a colon if there is anything. -/
theorem splitHost_eq {inside : Bool} {text hostText tail : List Char}
    (split : splitHost inside text = (hostText, tail)) :
    text = hostText ++ tail ∧ (tail = [] ∨ ∃ digits, tail = ':' :: digits) := by
  induction text generalizing inside hostText with
  | nil =>
      cases split
      exact ⟨rfl, .inl rfl⟩
  | cons c text ih =>
      rw [splitHost] at split
      split at split
      next isColon =>
        obtain ⟨rfl, -⟩ := isColon
        cases split
        exact ⟨rfl, .inr ⟨text, rfl⟩⟩
      next =>
        cases split
        obtain ⟨isText, begins⟩ := ih rfl
        exact ⟨congrArg (c :: ·) isText, begins⟩

/-! ## The authority -/

/-- The credentials before the last at sign, and the place behind it. -/
def splitCredentials (authority : List Char) : Option (List Char) × List Char :=
  match Text.splitAtLast? '@' authority with
  | some (credentials, place) => (some credentials, place)
  | none => (none, authority)

/-- The port behind a host. -/
def readTail : List Char → Except UrlError (Option Nat)
  | ':' :: digits => (readPort none digits).map (·.1)
  | _ => .ok none

/-- The host and the port of a URL of the web. -/
def readPlace (place : List Char) : Except UrlError (Host × Option Nat) := do
  let (hostText, tail) := splitHost false place
  if hostText.isEmpty then throw .emptyHost
  let host ← Host.parse hostText
  let port ← readTail tail
  pure (host, port)

theorem mem_of_mem_splitCredentials {authority : List Char} {c : Char}
    (member : c ∈ (splitCredentials authority).2) : c ∈ authority := by
  rw [splitCredentials] at member
  cases split : Text.splitAtLast? '@' authority with
  | none =>
      rw [split] at member
      exact member
  | some parts =>
      rw [split] at member
      rw [(Text.splitAtLast?_eq_some split).1]
      simp only [List.mem_append, List.mem_cons]
      exact .inr (.inr member)

/-- A slash ends the authority of a URL of the web. -/
theorem isSlash_eq_false {c : Char} (inside : endsAuthority .web c = false) :
    isSlash c = false := by
  simp only [endsAuthority, Bool.or_eq_false_iff] at inside
  simpa [isSlash] using And.intro (beq_eq_false_iff_ne.mp inside.1.1.1) inside.2

/-- What follows a host is read to its end. -/
theorem readPort_eq {tail : List Char} (noSlash : ∀ c ∈ tail, isSlash c = false) :
    readPort none tail = (readTail (':' :: tail)).map fun port => (port, []) := by
  rw [readTail]
  cases read : readPort none tail with
  | error error => rfl
  | ok found =>
    obtain ⟨port, rest⟩ := found
    rw [readPort_rest noSlash read]
    rfl

/-- A URL of the web is what stands before its path, followed by what stands from there on. -/
theorem afterSlashes_append (scheme : List Char) {authority : List Char}
    (inside : ∀ c ∈ authority, endsAuthority .web c = false) {mark : Char}
    (ends : endsAuthority .web mark = true) (rest : List Char) :
    afterSlashes scheme .web (authority ++ mark :: rest) =
      (readPlace (splitCredentials authority).2).map fun (host, port) =>
        withRest scheme (splitCredentials authority).1 (some host) port (mark :: rest) := by
  have passed : ∀ c ∈ authority, (!endsAuthority .web c) = true := by simpa using inside
  have isAuthority :
      (authority ++ mark :: rest).takeWhile (fun c => !endsAuthority .web c) = authority := by
    rw [List.takeWhile_append_of_pos passed, List.takeWhile_cons_of_neg (by simp [ends]),
      List.append_nil]
  have isRest :
      (authority ++ mark :: rest).dropWhile (fun c => !endsAuthority .web c) = mark :: rest := by
    rw [List.dropWhile_append_of_pos passed, List.dropWhile_cons_of_neg (by simp [ends])]
  have noSlash : ∀ c ∈ (splitCredentials authority).2, isSlash c = false :=
    fun c member => isSlash_eq_false (inside c (mem_of_mem_splitCredentials member))
  rw [splitCredentials] at *
  cases found : Text.splitAtLast? '@' authority
  all_goals
    simp only [afterSlashes, isAuthority, isRest, found, readPlace, bind, Except.bind, pure,
      Except.pure, throw, throwThe, MonadExceptOf.throw, if_true] at noSlash ⊢
    generalize isHost : splitHost false _ = parts
    obtain ⟨hostText, tail⟩ := parts
    obtain ⟨isPlace, begins⟩ := splitHost_eq isHost
    rw [isPlace] at noSlash ⊢
    cases hostText with
    | nil => simp [Except.map]
    | cons first more =>
        cases Host.parse (first :: more) with
        | error error => simp [Except.map]
        | ok host =>
            rcases begins with rfl | ⟨digits, rfl⟩
            · simp [readTail, Except.map]
            · have noSlashLater : ∀ c ∈ digits, isSlash c = false :=
                fun c member => noSlash c (by simp [member])
              have isPort := readPort_eq noSlashLater
              cases port : readTail (':' :: digits) with
              | error error => simp [isPort, port, Except.map]
              | ok port => simp [isPort, port, Except.map]

/-! ## The text that counts -/

/-- A text without tabs and line breaks. -/
def withoutBreaks (text : List Char) : List Char := text.filter fun c => !isSkipped c

theorem dropTrailing_append {inClass : Char → Bool} {mark : Char} (stops : inClass mark = false)
    (front back : List Char) :
    Text.dropTrailing inClass (front ++ mark :: back) =
      front ++ mark :: Text.dropTrailing inClass back := by
  have split : (front ++ mark :: back).reverse = back.reverse ++ mark :: front.reverse := by simp
  rw [Text.dropTrailing, split, List.dropWhile_append, List.dropWhile_cons_of_neg (by simp [stops]),
    Text.dropTrailing]
  split
  next isEmpty => simp [List.isEmpty_iff.mp isEmpty]
  next => simp

/-- Of a text with a slash in it, the ends are cleaned one by one. -/
theorem clean_append {first : Char} (begins : isEdge first = false) (front back : List Char) :
    clean (first :: front ++ '/' :: back) =
      withoutBreaks (first :: front) ++
        '/' :: withoutBreaks (Text.dropTrailing isEdge back) := by
  have leading : Text.dropLeading isEdge (first :: front ++ '/' :: back) =
      first :: front ++ '/' :: back :=
    List.dropWhile_cons_of_neg (by simp [begins])
  rw [clean, leading, dropTrailing_append (by decide), List.filter_append]
  rfl

/-- What stands before the path in the text behind a scheme. -/
def beforePath (text : List Char) : List Char :=
  ((withoutBreaks text).dropWhile isSlash).takeWhile fun c => !endsAuthority .web c

/-- What stands from the path on in the text behind a scheme. -/
def fromPath (text : List Char) : List Char :=
  ((withoutBreaks text).dropWhile isSlash).dropWhile fun c => !endsAuthority .web c

theorem isInside_of_mem_beforePath {text : List Char} :
    ∀ c ∈ beforePath text, endsAuthority .web c = false := by
  intro c member
  simpa using List.mem_takeWhile_imp member

/-- Where a text is put in front of a slash, its path begins there or before. -/
theorem exists_fromPath_append (text rest : List Char) :
    ∃ mark more, fromPath text ++ '/' :: rest = mark :: more ∧ endsAuthority .web mark = true := by
  cases isPath : fromPath text with
  | nil => exact ⟨'/', rest, rfl, by decide⟩
  | cons mark more =>
      refine ⟨mark, more ++ '/' :: rest, rfl, ?_⟩
      have stops := List.head?_dropWhile_not (fun c => !endsAuthority .web c)
        ((withoutBreaks text).dropWhile isSlash)
      rw [fromPath] at isPath
      simpa [isPath] using stops

/-- Unless a text has nothing but slashes, it is read alike in front of every slash. -/
theorem afterSlashes_dropWhile (scheme : List Char) {text : List Char}
    (begins : (withoutBreaks text).dropWhile isSlash ≠ []) (rest : List Char) :
    afterSlashes scheme .web ((withoutBreaks text ++ '/' :: rest).dropWhile isSlash) =
      (readPlace (splitCredentials (beforePath text)).2).map fun (host, port) =>
        withRest scheme (splitCredentials (beforePath text)).1 (some host) port
          (fromPath text ++ '/' :: rest) := by
  obtain ⟨mark, more, isPath, ends⟩ := exists_fromPath_append text rest
  have parts : (withoutBreaks text ++ '/' :: rest).dropWhile isSlash =
      beforePath text ++ mark :: more := by
    rw [List.dropWhile_append, if_neg (by simpa using begins), ← isPath, ← List.append_assoc,
      beforePath, fromPath, List.takeWhile_append_dropWhile]
  rw [parts, isPath, afterSlashes_append scheme isInside_of_mem_beforePath ends]

end Shortlink.Web.Url
