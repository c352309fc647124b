import Shortlink.Effect
import Shortlink.Proofs.Script.Requests

/-!
# Conversations

What a script says to whoever replies to it: its requests, each with the reply that it gets, and
the way in which it ends. Nothing is known of the replies, which may change from one request to
the next in any way, so what holds of all conversations holds over every store and every cache,
however they fail.
-/

namespace Shortlink

/-- A request with the reply that it has got. -/
structure Said (I : Interface) where
  request : I.Request
  reply : I.Reply request

/-- A request of the service with the reply to it. -/
abbrev Saying := Said Effect.interface

/-- Whoever replies to a script. A reply may depend on all that has been said before. -/
abbrev Respondent (I : Interface) := List (Said I) → (request : I.Request) → I.Reply request

namespace Script

variable {I : Interface} {α β : Type}

/-- What is said until a script ends, and how it ends. -/
def converse : Script I α → Respondent I → List (Said I) × Except Abort α
  | done value, _ => ([], .ok value)
  | abort cause, _ => ([], .error cause)
  | ask request next, respondent =>
    let first : Said I := ⟨request, respondent [] request⟩
    let (rest, result) := (next first.reply).converse fun earlier => respondent (first :: earlier)
    (first :: rest, result)

theorem converse_ask {request : I.Request} {reply : I.Reply request}
    (next : I.Reply request → Script I α) {respondent : Respondent I}
    (isReply : respondent [] request = reply) :
    (ask request next).converse respondent =
      let first : Said I := ⟨request, reply⟩
      let rest := (next reply).converse fun earlier => respondent (first :: earlier)
      (first :: rest.1, rest.2) := by
  subst isReply
  rfl

/-- What a script asks first is replied to before anything has been said. -/
theorem exists_converse_ask (request : I.Request) (next : I.Reply request → Script I α)
    (respondent : Respondent I) : ∃ rest,
      ((ask request next).converse respondent).1 = ⟨request, respondent [] request⟩ :: rest :=
  ⟨_, rfl⟩

theorem converse_andThen_of_ok {script : Script I α} {respondent : Respondent I} {value : α}
    (next : α → Script I β) (ends : (script.converse respondent).2 = .ok value) :
    (script.andThen next).converse respondent =
      let said := (script.converse respondent).1
      let rest := (next value).converse fun earlier => respondent (said ++ earlier)
      (said ++ rest.1, rest.2) := by
  induction script generalizing respondent with
  | done result =>
      cases ends
      rfl
  | abort cause => contradiction
  | ask request reply ih =>
      dsimp only [andThen, converse]
      rw [ih _ ends]
      rfl

theorem converse_andThen_of_error {script : Script I α} {respondent : Respondent I} {cause : Abort}
    (next : α → Script I β) (breaks : (script.converse respondent).2 = .error cause) :
    (script.andThen next).converse respondent =
      ((script.converse respondent).1, .error cause) := by
  induction script generalizing respondent with
  | done result => contradiction
  | abort other =>
      cases breaks
      rfl
  | ask request reply ih =>
      dsimp only [andThen, converse]
      rw [ih _ breaks]

/-- What follows a script and ends with its result does not change the way in which it ends. -/
theorem result_andThen {script : Script I α} {next : α → Script I α} {respondent : Respondent I}
    (ends : ∀ value respondent, ((next value).converse respondent).2 = .ok value) :
    ((script.andThen next).converse respondent).2 = (script.converse respondent).2 := by
  cases ended : (script.converse respondent).2 with
  | ok value =>
      rw [converse_andThen_of_ok next ended]
      exact ends value _
  | error cause => rw [converse_andThen_of_error next ended]

/-- A cleanup is not part of what is said in a script that ends. -/
theorem converse_onAbort_of_ok {script : Script I α} {respondent : Respondent I} {value : α}
    (cleanup : Script I Unit) (ends : (script.converse respondent).2 = .ok value) :
    (script.onAbort cleanup).converse respondent = script.converse respondent := by
  induction script generalizing respondent with
  | done result => rfl
  | abort cause => contradiction
  | ask request reply ih =>
      dsimp only [onAbort, converse]
      rw [ih _ ends]

theorem converse_onAbort_of_error {script : Script I α} {respondent : Respondent I}
    {cause : Abort} (cleanup : Script I Unit)
    (breaks : (script.converse respondent).2 = .error cause) :
    (script.onAbort cleanup).converse respondent =
      let said := (script.converse respondent).1
      let rest := (cleanup.andThen fun _ => (abort cause : Script I α)).converse
        fun earlier => respondent (said ++ earlier)
      (said ++ rest.1, rest.2) := by
  induction script generalizing respondent with
  | done result => contradiction
  | abort other =>
      cases breaks
      rfl
  | ask request reply ih =>
      dsimp only [onAbort, converse]
      rw [ih _ breaks]
      rfl

/-- With some replies, a script says this and then ends so. -/
inductive Converses : Script I α → List (Said I) → Except Abort α → Prop where
  | ask {request : I.Request} {next : I.Reply request → Script I α} (reply : I.Reply request)
      {said : List (Said I)} {result : Except Abort α} (rest : Converses (next reply) said result) :
      Converses (.ask request next) (⟨request, reply⟩ :: said) result
  | done (value : α) : Converses (.done value) [] (.ok value)
  | abort (cause : Abort) : Converses (.abort cause) [] (.error cause)

/-- Whoever replies, a script says what it can say. -/
theorem converses_converse (script : Script I α) (respondent : Respondent I) :
    script.Converses (script.converse respondent).1 (script.converse respondent).2 := by
  induction script generalizing respondent with
  | done value => exact .done value
  | abort cause => exact .abort cause
  | ask request next ih => exact .ask _ (ih _ _)

namespace Converses

variable {script : Script I α} {next : α → Script I β} {said : List (Said I)}

/-- Where a script that is followed by another one has ended, it has ended itself and the other
one has gone on, or it has broken off. -/
theorem parts_of_andThen {result : Except Abort β}
    (talk : (script.andThen next).Converses said result) :
    (∃ value first second, script.Converses first (.ok value) ∧
      (next value).Converses second result ∧ said = first ++ second) ∨
    ∃ cause, script.Converses said (.error cause) ∧ result = .error cause := by
  induction script generalizing said with
  | done value => exact .inl ⟨value, [], said, .done value, talk, rfl⟩
  | abort cause =>
      cases talk
      exact .inr ⟨cause, .abort cause, rfl⟩
  | ask request reply ih =>
      obtain ⟨answer, talk⟩ := talk
      rcases ih answer talk with
        ⟨value, first, second, begins, goesOn, rfl⟩ | ⟨cause, broken, ended⟩
      · exact .inl ⟨value, _, second, .ask answer begins, goesOn, rfl⟩
      · exact .inr ⟨cause, .ask answer broken, ended⟩

/-- With the same replies a script says the same, whatever follows. -/
theorem eq_of_append {said other after afterOther : List (Said I)}
    {result resultOther : Except Abort α} (talk : script.Converses said result)
    (talkOther : script.Converses other resultOther)
    (same : said ++ after = other ++ afterOther) :
    said = other ∧ result = resultOther ∧ after = afterOther := by
  induction talk generalizing other with
  | ask reply rest ih =>
      cases talkOther with
      | ask replyOther restOther =>
          rw [List.cons_append, List.cons_append] at same
          obtain ⟨sameFirst, sameRest⟩ := List.cons.inj same
          cases sameFirst
          obtain ⟨rfl, sameEnd⟩ := ih restOther sameRest
          exact ⟨rfl, sameEnd⟩
  | done value =>
      cases talkOther
      exact ⟨rfl, rfl, same⟩
  | abort cause =>
      cases talkOther
      exact ⟨rfl, rfl, same⟩

/-- What is said is what the script may ask for. -/
theorem asked_of_asks {allowed : I.Request → Prop} {result : Except Abort α}
    (talk : script.Converses said result) (asks : script.Asks allowed) :
    ∀ saying ∈ said, allowed saying.request := by
  induction talk with
  | ask reply rest ih => exact List.forall_mem_cons.mpr ⟨asks.1, ih (asks.2 reply)⟩
  | done value => exact fun _ member => nomatch member
  | abort cause => exact fun _ member => nomatch member

end Converses

end Script

end Shortlink
