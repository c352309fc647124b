import Shortlink.Proofs.Link.Code
import Shortlink.Proofs.Link.Service
import Shortlink.Proofs.Script.Conversation

/-!
# The attempts of a creation

All that a creation says to the store, however the store replies. A search draws codes until the
store says that one is free, or cannot say it. An attempt is a search and, if it has found a code,
one save of a URL with this code. A creation makes one attempt after another until one succeeds,
and five at most. The only conversations that do not end so are those in which a search has drawn
as many taken codes as it may, or breaks off because codes are so long that there is no room for
one.
-/

namespace Shortlink

namespace Creation

/-! ## What is said -/

/-- A random id and the code that is made from it. -/
structure Draw (codes : CodeSettings) where
  id : Uuid
  code : String
  made : Code.ofUuid codes id = .ok code

variable {codes : CodeSettings} {draws : Nat} {said : List Saying}

/-- A draw, and what the store says of its code. -/
def drawn (found : Except Failure Bool) (draw : Draw codes) : List Saying :=
  [⟨.newId, draw.id⟩, ⟨.codeExists draw.code, found⟩]

/-- Draws of codes that are all taken. -/
def allTaken (taken : List (Draw codes)) : List Saying := taken.flatMap (drawn (.ok true))

/-- A search that ends with its last draw, because the store does not say that its code is
taken. -/
def searched (taken : List (Draw codes)) (last : Draw codes) (found : Except Failure Bool) :
    List Saying :=
  allTaken taken ++ drawn found last

/-- How a search for a free code breaks off with so many draws at most: all codes are taken, or
no code can be made from an id. -/
inductive Broken (codes : CodeSettings) (draws : Nat) : List Saying → Abort → Prop where
  | endless (taken : List (Draw codes)) (all : taken.length = draws) :
      Broken codes draws (allTaken taken) .drawsExhausted
  | unmade (taken : List (Draw codes)) (id : Uuid) (within : taken.length < draws) {cause : Abort}
      (broken : Code.ofUuid codes id = .error cause) :
      Broken codes draws (allTaken taken ++ [⟨.newId, id⟩]) cause

/-- How a search for a free code goes with so many draws at most. -/
inductive Search (codes : CodeSettings) (draws : Nat) :
    List Saying → Except Abort (Except Failure String) → Prop where
  | free (taken : List (Draw codes)) (last : Draw codes) (within : taken.length < draws) :
      Search codes draws (searched taken last (.ok false)) (.ok (.ok last.code))
  | unanswered (taken : List (Draw codes)) (last : Draw codes) (failure : Failure)
      (within : taken.length < draws) :
      Search codes draws (searched taken last (.error failure)) (.ok (.error failure))
  | broken {said : List Saying} {cause : Abort} (breaks : Broken codes draws said cause) :
      Search codes draws said (.error cause)

/-- How an attempt to create a short URL goes: the search for a code fails, or the URL with the
code that was found free is to be stored. -/
inductive Attempt (codes : CodeSettings) (longUrl base : String) :
    List Saying → Except Failure Link → Prop where
  | unanswered (taken : List (Draw codes)) (last : Draw codes) (failure : Failure) :
      Attempt codes longUrl base (searched taken last (.error failure)) (.error failure)
  | saved (taken : List (Draw codes)) (last : Draw codes) (id eventId : Uuid)
      (created occurred : Time.Moment) (outcome : SaveOutcome) {code : String} {link : Link}
      (isFree : code = last.code)
      (isNew : link = .create id eventId created occurred longUrl code (base ++ "/" ++ code)) :
      Attempt codes longUrl base
        (searched taken last (.ok false) ++
          [⟨.newId, id⟩, ⟨.now, created⟩, ⟨.newId, eventId⟩, ⟨.now, occurred⟩,
            ⟨.addLink link, outcome⟩])
        outcome.stored

/-- What is said in an attempt, and why it has failed. -/
structure FailedAttempt where
  said : List Saying
  failure : Failure

/-! ## Searches -/

theorem Broken.prepend {cause : Abort} (draw : Draw codes)
    (breaks : Broken codes draws said cause) :
    Broken codes (draws + 1) (drawn (.ok true) draw ++ said) cause := by
  cases breaks with
  | endless taken all => exact .endless (draw :: taken) (congrArg (· + 1) all)
  | unmade taken id within broken =>
      rw [← List.append_assoc]
      exact .unmade (draw :: taken) id (Nat.succ_lt_succ within) broken

theorem Search.prepend {result : Except Abort (Except Failure String)} (draw : Draw codes)
    (search : Search codes draws said result) :
    Search codes (draws + 1) (drawn (.ok true) draw ++ said) result := by
  cases search with
  | free taken last within => exact .free (draw :: taken) last (Nat.succ_lt_succ within)
  | unanswered taken last failure within =>
      exact .unanswered (draw :: taken) last failure (Nat.succ_lt_succ within)
  | broken breaks => exact .broken (breaks.prepend draw)

theorem search_of_converses {result : Except Abort (Except Failure String)}
    (talk : (LinkService.freeCode codes draws).attempt.Converses said result) :
    Search codes draws said result := by
  induction draws generalizing said with
  | zero =>
      cases talk
      exact .broken (.endless [] rfl)
  | succ draws ih =>
      rw [LinkService.freeCode_succ] at talk
      obtain ⟨id, talk⟩ := talk
      cases made : Code.ofUuid codes id with
      | error cause =>
          simp only [made] at talk
          cases talk
          exact .broken (.unmade [] id (Nat.succ_pos draws) made)
      | ok code =>
          simp only [made] at talk
          obtain ⟨found, talk⟩ := talk
          match found, talk with
          | .ok true, talk => exact (ih talk).prepend ⟨id, code, made⟩
          | .ok false, .done _ => exact .free [] ⟨id, code, made⟩ (Nat.succ_pos draws)
          | .error failure, .done _ =>
              exact .unanswered [] ⟨id, code, made⟩ failure (Nat.succ_pos draws)

/-- That no code is made from an id is a matter of their length. -/
theorem length_of_unmade {id : Uuid} {cause : Abort}
    (broken : Code.ofUuid codes id = .error cause) :
    cause = .capacityOverflow ∧ 2 ^ 60 < codes.length := by
  cases made : Code.encode id.bits codes.alphabet codes.length with
  | error other =>
      rw [Code.ofUuid, made] at broken
      cases broken
      exact Code.encode_eq_error made
  | ok code =>
      rw [Code.ofUuid, made] at broken
      contradiction

/-! ## Attempts -/

variable {service : LinkService} {longUrl base : String}
variable {result : Except Abort (Except Failure Link)}

/-- An attempt comes to something unless its search breaks off. -/
theorem attempt_of_converses
    (talk : (service.tryCreate longUrl base).attempt.Converses said result) :
    (∃ outcome, result = .ok outcome ∧ Attempt service.codes longUrl base said outcome) ∨
    ∃ cause, result = .error cause ∧ Broken service.codes service.draws said cause := by
  rw [LinkService.tryCreate_eq] at talk
  rcases talk.parts_of_andThen with ⟨_, _, _, search, rest, rfl⟩ | ⟨_, search, rfl⟩
  · cases search_of_converses search with
    | unanswered taken last failure within =>
        cases rest
        rw [List.append_nil]
        exact .inl ⟨_, rfl, .unanswered taken last failure⟩
    | free taken last within =>
        simp only [LinkService.newLink_eq, Script.andThen_ask, Script.andThen_done] at rest
        obtain ⟨id, rest⟩ := rest
        obtain ⟨created, rest⟩ := rest
        obtain ⟨eventId, rest⟩ := rest
        obtain ⟨occurred, rest⟩ := rest
        obtain ⟨outcome, rest⟩ := rest
        cases rest
        exact .inl ⟨_, rfl, .saved taken last id eventId created occurred outcome rfl rfl⟩
  · cases search_of_converses search with
    | broken breaks => exact .inr ⟨_, rfl, breaks⟩

/-- What is said in attempts that have failed. -/
def saidIn (failed : List FailedAttempt) : List Saying := failed.flatMap FailedAttempt.said

/-- Attempts that have all failed. -/
def AllFailed (service : LinkService) (longUrl base : String) (failed : List FailedAttempt) :
    Prop :=
  ∀ attempt ∈ failed, Attempt service.codes longUrl base attempt.said (.error attempt.failure)

/-- The message of the last failure. -/
def lastMessage (before : Option String) (failed : List FailedAttempt) : Option String :=
  (failed.getLast?.map (·.failure.message)).or before

theorem lastMessage_cons (before : Option String) (attempt : FailedAttempt)
    (failed : List FailedAttempt) :
    lastMessage before (attempt :: failed) = lastMessage (some attempt.failure.message) failed := by
  rw [lastMessage, lastMessage, List.getLast?_cons]
  cases failed.getLast? with
  | none => rfl
  | some last => rfl

/-- How attempts follow each other, so many at most: until one succeeds, until none are left, or
until a search breaks off. -/
inductive Attempts (service : LinkService) (longUrl base : String) (attempts : Nat)
    (before : Option String) : List Saying → Except Abort (Except Failure Link) → Prop where
  | stored {failed : List FailedAttempt} {last : List Saying} {link : Link}
      (haveFailed : AllFailed service longUrl base failed) (within : failed.length < attempts)
      (succeeds : Attempt service.codes longUrl base last (.ok link)) :
      Attempts service longUrl base attempts before (saidIn failed ++ last) (.ok (.ok link))
  | exhausted {failed : List FailedAttempt} (haveFailed : AllFailed service longUrl base failed)
      (all : failed.length = attempts) :
      Attempts service longUrl base attempts before (saidIn failed)
        (.ok (.error (.attemptsExhausted LinkService.maxAttempts (lastMessage before failed))))
  | broken {failed : List FailedAttempt} {last : List Saying} {cause : Abort}
      (haveFailed : AllFailed service longUrl base failed) (within : failed.length < attempts)
      (breaks : Broken service.codes service.draws last cause) :
      Attempts service longUrl base attempts before (saidIn failed ++ last) (.error cause)

theorem allFailed_nil : AllFailed service longUrl base [] := by
  intro attempt member
  contradiction

theorem Attempts.prepend {attempts : Nat} {before : Option String} (attempt : FailedAttempt)
    (fails : Attempt service.codes longUrl base attempt.said (.error attempt.failure))
    (follow : Attempts service longUrl base attempts (some attempt.failure.message) said result) :
    Attempts service longUrl base (attempts + 1) before (attempt.said ++ said) result := by
  have prepended {failed : List FailedAttempt}
      (haveFailed : AllFailed service longUrl base failed) :
      AllFailed service longUrl base (attempt :: failed) :=
    List.forall_mem_cons.mpr ⟨fails, haveFailed⟩
  cases follow with
  | stored haveFailed within succeeds =>
      rw [← List.append_assoc]
      exact .stored (prepended haveFailed) (Nat.succ_lt_succ within) succeeds
  | exhausted haveFailed all =>
      rw [← lastMessage_cons before]
      exact .exhausted (prepended haveFailed) (congrArg (· + 1) all)
  | broken haveFailed within breaks =>
      rw [← List.append_assoc]
      exact .broken (prepended haveFailed) (Nat.succ_lt_succ within) breaks

theorem attempts_of_converses {attempts : Nat} {before : Option String}
    (talk : (service.createWithin longUrl base attempts before).attempt.Converses said result) :
    Attempts service longUrl base attempts before said result := by
  induction attempts generalizing before said with
  | zero =>
      cases talk
      exact .exhausted allFailed_nil rfl
  | succ attempts ih =>
      rw [LinkService.createWithin_succ] at talk
      rcases talk.parts_of_andThen with ⟨outcome, first, _, tried, rest, rfl⟩ | ⟨_, tried, rfl⟩
      · rcases attempt_of_converses tried with ⟨_, ended, attempt⟩ | ⟨_, ended, _⟩
        · cases ended
          cases outcome with
          | ok link =>
              cases rest
              rw [List.append_nil]
              exact .stored allFailed_nil (Nat.succ_pos attempts) attempt
          | error failure => exact (ih rest).prepend ⟨first, failure⟩ attempt
        · contradiction
      · rcases attempt_of_converses tried with ⟨_, ended, _⟩ | ⟨_, ended, breaks⟩
        · contradiction
        · cases ended
          exact .broken allFailed_nil (Nat.succ_pos attempts) breaks

/-- What is refused fails the validation, the URL before the scheme and the host. -/
theorem checkRequest_eq_error {request : ShortenRequest}
    (refused : (∃ error, Address.validate request.longUrl.toList = .error error) ∨
      ∃ error, Address.base request.scheme.toList request.host.toList = .error error) :
    ∃ failure, LinkService.checkRequest request = .error failure ∧ failure.kind = .validation := by
  unfold LinkService.checkRequest
  cases checkedUrl : Address.validate request.longUrl.toList with
  | error error => exact ⟨_, rfl, rfl⟩
  | ok _ =>
      cases checkedFront : Address.base request.scheme.toList request.host.toList with
      | error error => exact ⟨_, rfl, rfl⟩
      | ok front =>
          rw [checkedUrl, checkedFront] at refused
          rcases refused with ⟨_, refused⟩ | ⟨_, refused⟩
          · contradiction
          · contradiction

theorem checkRequest_eq_ok {request : ShortenRequest} {front : List Char}
    (urlAccepted : Address.validate request.longUrl.toList = .ok ())
    (frontAccepted : Address.base request.scheme.toList request.host.toList = .ok front) :
    LinkService.checkRequest request = .ok (.ofList front) := by
  rw [LinkService.checkRequest, urlAccepted, frontAccepted]

/-- A request that is refused needs no attempt. -/
theorem create_of_refused {request : ShortenRequest} {failure : Failure}
    (refused : LinkService.checkRequest request = .error failure)
    (talk : (service.create request).attempt.Converses said result) :
    said = [] ∧ result = .ok (.error failure) := by
  rw [LinkService.create_eq, refused] at talk
  cases talk
  exact ⟨rfl, rfl⟩

theorem create_of_accepted {request : ShortenRequest}
    (accepted : LinkService.checkRequest request = .ok base)
    (talk : (service.create request).attempt.Converses said result) :
    Attempts service request.longUrl base LinkService.maxAttempts none said result := by
  rw [LinkService.create_eq, accepted] at talk
  exact attempts_of_converses talk

/-- After five failures the last one is reported. -/
theorem reported_of_exhausted {failed : List FailedAttempt}
    (all : failed.length = LinkService.maxAttempts) :
    ∃ fifth, failed.getLast? = some fifth ∧
      lastMessage none failed = some fifth.failure.message := by
  have nonempty : failed ≠ [] := by
    rintro rfl
    contradiction
  refine ⟨failed.getLast nonempty, List.getLast?_eq_some_getLast nonempty, ?_⟩
  rw [lastMessage, List.getLast?_eq_some_getLast nonempty]
  rfl

end Creation

open Creation in
/-- However the store replies and whatever is drawn: a creation whose URL or whose scheme and host
are refused fails its validation without a request. Any other makes attempts, each of which ends
its search at the first code that is not said to be taken, and then stores at most one URL, whose
code has just been found free and whose short URL is made of scheme, host and this code. The
first attempt that succeeds ends the creation with its URL. After five failures it fails with
their number and the message of the last. Or else a search goes on for ever, which shows in as
many draws of taken codes as the service may make, or it breaks off at an id from which no code
can be made, as can only be where codes have more than `2 ^ 60` characters. -/
theorem creation_is_bounded (service : LinkService) (request : ShortenRequest)
    (respondent : Respondent Effect.interface) :
    let said := ((service.create request).attempt.converse respondent).1
    let result := ((service.create request).attempt.converse respondent).2
    let checkedUrl := Address.validate request.longUrl.toList
    let checkedFront := Address.base request.scheme.toList request.host.toList
    ((∃ error, checkedUrl = .error error) ∨ (∃ error, checkedFront = .error error) →
      said = [] ∧ ∃ failure, result = .ok (.error failure) ∧ failure.kind = .validation) ∧
    ∀ front, checkedUrl = .ok () → checkedFront = .ok front →
      front = request.scheme.toList.map Char.toLower ++ [':', '/', '/'] ++
        Text.dropTrailing (· == '/') (Text.trim request.host.toList) ∧
      ∃ failed, AllFailed service request.longUrl (.ofList front) failed ∧
        ((∃ last link, failed.length < 5 ∧
            Attempt service.codes request.longUrl (.ofList front) last (.ok link) ∧
            said = saidIn failed ++ last ∧ result = .ok (.ok link)) ∨
          (∃ fifth failure, failed.length = 5 ∧ failed.getLast? = some fifth ∧
            said = saidIn failed ∧ result = .ok (.error failure) ∧ failure.kind = .internal ∧
            failure.details =
              .object [("attempts", .int 5), ("last_error", .text fifth.failure.message)]) ∨
          (∃ taken : List (Draw service.codes), failed.length < 5 ∧
            taken.length = service.draws ∧ said = saidIn failed ++ allTaken taken ∧
            result = .error .drawsExhausted) ∨
          ∃ (taken : List (Draw service.codes)) (id : Uuid), failed.length < 5 ∧
            taken.length < service.draws ∧ 2 ^ 60 < service.codes.length ∧
            said = saidIn failed ++ (allTaken taken ++ [⟨.newId, id⟩]) ∧
            result = .error .capacityOverflow) := by
  intro said result checkedUrl checkedFront
  have talk : (service.create request).attempt.Converses said result :=
    Script.converses_converse _ respondent
  clear_value said result
  constructor
  · intro refused
    obtain ⟨failure, refused, kind⟩ := checkRequest_eq_error refused
    obtain ⟨silent, ended⟩ := create_of_refused refused talk
    exact ⟨silent, failure, ended, kind⟩
  · intro front urlAccepted frontAccepted
    refine ⟨(Address.parts_of_base frontAccepted).2.2, ?_⟩
    cases create_of_accepted (checkRequest_eq_ok urlAccepted frontAccepted) talk with
    | stored haveFailed within succeeds =>
        exact ⟨_, haveFailed, .inl ⟨_, _, within, succeeds, rfl, rfl⟩⟩
    | exhausted haveFailed all =>
        obtain ⟨fifth, isLast, reported⟩ := reported_of_exhausted all
        refine ⟨_, haveFailed, .inr (.inl ⟨fifth, _, all, isLast, rfl, rfl, rfl, ?_⟩)⟩
        rw [reported]
        rfl
    | broken haveFailed within breaks =>
        refine ⟨_, haveFailed, .inr (.inr ?_)⟩
        cases breaks with
        | endless taken all => exact .inl ⟨taken, within, all, rfl, rfl⟩
        | unmade taken id fewer broken =>
            obtain ⟨rfl, long⟩ := length_of_unmade broken
            exact .inr ⟨taken, id, within, fewer, long, rfl, rfl⟩

end Shortlink
