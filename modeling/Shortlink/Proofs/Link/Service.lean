import Shortlink.Link.Service
import Shortlink.Proofs.Script.Requests
import Shortlink.Proofs.Store.Identity

/-!
# The requests of the service

The operations that write, as the trees of requests that they are: what is asked for, and
how each reply is answered. What is proved of these operations starts from here, or from the
kinds of requests that they make at all.
-/

namespace Shortlink.LinkService

theorem freeCode_succ (codes : CodeSettings) (draws : Nat) :
    (freeCode codes (draws + 1)).attempt =
      .ask Effect.newId fun id =>
        match Code.ofUuid codes id with
        | .error cause => .abort cause
        | .ok code =>
          .ask (Effect.codeExists code) fun
            | .ok true => (freeCode codes draws).attempt
            | .ok false => .done (.ok code)
            | .error failure => .done (.error failure) := by
  apply Script.ask_congr
  intro id
  dsimp only [Script.andThen_done]
  cases Code.ofUuid codes id with
  | error cause => rfl
  | ok code =>
      apply Script.ask_congr
      intro reply
      match reply with
      | .ok true => rfl
      | .ok false => rfl
      | .error failure => rfl

theorem newLink_eq (longUrl code shortUrl : String) :
    newLink longUrl code shortUrl =
      .ask Effect.newId fun id => .ask Effect.now fun created =>
        .ask Effect.newId fun eventId => .ask Effect.now fun occurred =>
          .done (.create id eventId created occurred longUrl code shortUrl) := rfl

theorem tryCreate_eq (service : LinkService) (longUrl base : String) :
    (service.tryCreate longUrl base).attempt =
      service.uniqueCode.attempt.andThen fun
        | .error failure => .done (.error failure)
        | .ok code =>
          (newLink longUrl code (base ++ "/" ++ code)).andThen fun link =>
            .ask (Effect.addLink link) fun outcome => .done outcome.stored := by
  apply Script.andThen_congr
  intro result
  cases result with
  | error failure => rfl
  | ok code => rfl

theorem createWithin_succ (service : LinkService) (longUrl base : String) (attempts : Nat)
    (last : Option String) :
    (service.createWithin longUrl base (attempts + 1) last).attempt =
      (service.tryCreate longUrl base).attempt.andThen fun
        | .ok link => .done (.ok link)
        | .error failure =>
          (service.createWithin longUrl base attempts (some failure.message)).attempt := by
  apply Script.andThen_congr
  intro result
  cases result with
  | error failure => rfl
  | ok link => rfl

theorem create_eq (service : LinkService) (request : ShortenRequest) :
    (service.create request).attempt =
      match checkRequest request with
      | .error failure => .done (.error failure)
      | .ok base => (service.createWithin request.longUrl base maxAttempts none).attempt := by
  simp only [create, create.liftExcept]
  cases checkRequest request with
  | error failure => rfl
  | ok base => rfl

theorem remove_eq (code : String) :
    (remove code).attempt =
      .ask (Effect.findByCode code) fun
        | .error failure => .done (.error failure)
        | .ok none => .done (.error (.codeNotFound code))
        | .ok (some link) =>
          .ask Effect.newId fun eventId => .ask Effect.now fun occurred =>
            .ask (Effect.updateLink (link.remove eventId occurred) .deleted) fun outcome =>
              .done outcome.result := by
  apply Script.ask_congr
  intro reply
  match reply with
  | .error failure => rfl
  | .ok none => rfl
  | .ok (some link) => rfl

/-! ## The kinds of requests -/

/-- All that a creation asks for: draws, the time, whether codes are taken, and to store URLs
that announce their creation and whose short URLs are made of a front and the code. -/
def IsCreation : Effect → Prop
  | .newId | .now | .codeExists _ => True
  | .addLink link =>
    link.identity.IsFronted ∧
      ∃ eventId occurred, link.pending = [⟨eventId, occurred, .created link.identity⟩]
  | _ => False

/-- All that a removal asks for. -/
def IsRemoval : Effect → Prop
  | .findByCode _ | .newId | .now | .updateLink _ _ => True
  | _ => False

theorem isFront_of_checkRequest {request : ShortenRequest} {base : String}
    (accepted : checkRequest request = .ok base) : Address.IsFront base := by
  unfold checkRequest at accepted
  split at accepted
  · contradiction
  · split at accepted
    · contradiction
    · rename_i front isBase
      cases accepted
      exact Address.isFront_of_base isBase

theorem freeCode_asks (codes : CodeSettings) (draws : Nat) :
    (freeCode codes draws).attempt.Asks IsCreation := by
  induction draws with
  | zero => exact True.intro
  | succ draws ih =>
      rw [freeCode_succ]
      refine ⟨True.intro, fun id => ?_⟩
      dsimp only
      cases Code.ofUuid codes id with
      | error cause => exact True.intro
      | ok code =>
          refine ⟨True.intro, fun reply => ?_⟩
          match reply with
          | .ok true => exact ih
          | .ok false => exact True.intro
          | .error failure => exact True.intro

theorem tryCreate_asks (service : LinkService) (longUrl : String) {base : String}
    (isFront : Address.IsFront base) :
    (service.tryCreate longUrl base).attempt.Asks IsCreation := by
  rw [tryCreate_eq]
  apply (freeCode_asks service.codes service.draws).andThen
  intro result
  cases result with
  | error failure => exact True.intro
  | ok code =>
      simp only [newLink_eq, Script.andThen_ask, Script.andThen_done]
      refine ⟨True.intro, fun id => ⟨True.intro, fun created => ⟨True.intro, fun eventId =>
        ⟨True.intro, fun occurred => ⟨?_, fun outcome => True.intro⟩⟩⟩⟩⟩
      exact ⟨⟨base, isFront, rfl⟩, eventId, occurred, rfl⟩

theorem createWithin_asks (service : LinkService) (longUrl : String) {base : String}
    (isFront : Address.IsFront base) (attempts : Nat) (last : Option String) :
    (service.createWithin longUrl base attempts last).attempt.Asks IsCreation := by
  induction attempts generalizing last with
  | zero => exact True.intro
  | succ attempts ih =>
      rw [createWithin_succ]
      apply (tryCreate_asks service longUrl isFront).andThen
      intro result
      cases result with
      | ok link => exact True.intro
      | error failure => exact ih (some failure.message)

theorem create_asks (service : LinkService) (request : ShortenRequest) :
    (service.create request).attempt.Asks IsCreation := by
  rw [create_eq]
  cases checked : checkRequest request with
  | error failure => exact True.intro
  | ok base => exact createWithin_asks service _ (isFront_of_checkRequest checked) _ _

theorem remove_asks (code : String) : (remove code).attempt.Asks IsRemoval := by
  rw [remove_eq]
  refine ⟨True.intro, fun reply => ?_⟩
  match reply with
  | .error failure => exact True.intro
  | .ok none => exact True.intro
  | .ok (some link) =>
      exact ⟨True.intro, fun eventId => ⟨True.intro, fun occurred =>
        ⟨True.intro, fun outcome => True.intro⟩⟩⟩

end Shortlink.LinkService
