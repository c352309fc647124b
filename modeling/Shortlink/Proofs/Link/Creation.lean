import Shortlink.Proofs.Calls.Call
import Shortlink.Proofs.Link.Service
import Shortlink.Proofs.Store.Identity

/-!
# Concurrent creation

A creation first looks whether its code is free and saves later, so another call can take
the code in between. What makes this safe is that the save looks once more, in one step with
the writing. So each call keeps the table of URLs sound whatever the others do, as long as
they keep it sound too and take no identity away.
-/

namespace Shortlink

namespace Creation

variable {ι : Type} [DecidableEq ι]

/-- An exchange adds neither a row nor a message. -/
def AddsNothing (exchange : Exchange ι Effect.interface Shared) : Prop :=
  exchange.after.store.links = exchange.before.store.links ∧
    exchange.after.store.outbox = exchange.before.store.outbox

/-- All calls keep the table of URLs sound and add identities at most, and none asks for
anything in the name of another. -/
def contract (call : ι) : Script.Contract (SharedCourse ι) where
  rely course other :=
    course.state.store.Grows other.state.store ∧ other.own call = course.own call
  guarantee course other := course.state.store.Grows other.state.store
  rely_refl _ := ⟨.refl _, rfl⟩
  rely_trans one two := ⟨one.1.trans two.1, two.2.trans one.2⟩

/-- A call has added nothing so far. -/
structure Idle (call : ι) (course : SharedCourse ι) : Prop where
  sound : course.state.store.Sound
  adds_nothing : ∀ exchange ∈ course.own call, AddsNothing exchange

/-- A URL is stored. -/
structure Stored (identity : LinkCreated) (course : SharedCourse ι) : Prop where
  sound : course.state.store.Sound
  stored : identity ∈ course.state.store.identities

/-- What a creation leaves behind: its URL if it has succeeded, and else nothing. -/
def Leaves (call : ι) : Except Abort (Except Failure Link) → SharedCourse ι → Prop
  | .ok (.ok link), course => Stored link.identity course
  | .ok (.error _), course => Idle call course
  | .error _, course => Idle call course

variable {call : ι} {course : SharedCourse ι} {α : Type}

theorem keeps_sound : (contract call).Keeps fun course => course.state.store.Sound :=
  fun sound change => (change.1 sound).1

theorem keeps_idle : (contract call).Keeps (Idle call) := by
  intro course other idle change
  refine ⟨(change.1 idle.sound).1, ?_⟩
  rw [change.2]
  exact idle.adds_nothing

theorem keeps_stored (identity : LinkCreated) :
    (contract call).Keeps (Stored identity) := by
  intro course other stored change
  have grown := change.1 stored.sound
  exact ⟨grown.1, grown.2.mem stored.stored⟩

theorem keeps_leaves (result : Except Abort (Except Failure Link)) :
    (contract call).Keeps (Leaves call result) := by
  intro course other left change
  match result, left with
  | .ok (.ok _), stored => exact keeps_stored _ stored change
  | .ok (.error _), idle => exact keeps_idle idle change
  | .error _, idle => exact keeps_idle idle change

/-- A call stays idle with an exchange that adds nothing. -/
theorem Idle.extend (idle : Idle call course) {exchange : Exchange ι Effect.interface Shared}
    (isOwn : exchange.call = call) (connected : exchange.before = course.state)
    (nothing : AddsNothing exchange) : Idle call (course.extend exchange) := by
  subst isOwn
  refine ⟨idle.sound.of_links ?_, ?_⟩
  · rw [← connected]
    exact nothing.1
  · rw [Course.own_extend_self]
    intro other member
    rcases List.mem_append.mp member with earlier | now
    · exact idle.adds_nothing other earlier
    · rw [List.mem_singleton.mp now]
      exact nothing

theorem Idle.quiet {post : Except Abort α → SharedCourse ι → Prop} {request : Effect}
    {next : request.Reply → Program α} (isQuiet : request.IsQuiet) (idle : Idle call course)
    (continues : ∀ reply course, Idle call course →
      (next reply).Assures (Shared.surroundings.recorded call) (contract call) post course) :
    Script.Assures (I := Effect.interface) (Shared.surroundings.recorded call) (contract call)
      post (.ask request next) course :=
  .quiet isQuiet keeps_idle
    (fun _ _ idle isOwn connected same =>
      ⟨.of_links (congrArg Store.links same), idle.extend isOwn connected
        ⟨by rw [same, connected], by rw [same, connected]⟩⟩) idle continues

theorem Stored.quiet {post : Except Abort α → SharedCourse ι → Prop} {request : Effect}
    {next : request.Reply → Program α} {identity : LinkCreated} (isQuiet : request.IsQuiet)
    (stored : Stored identity course)
    (continues : ∀ reply course, Stored identity course →
      (next reply).Assures (Shared.surroundings.recorded call) (contract call) post course) :
    Script.Assures (I := Effect.interface) (Shared.surroundings.recorded call) (contract call)
      post (.ask request next) course :=
  .quiet isQuiet (keeps_stored identity)
    (fun _ _ stored _ _ same =>
      ⟨.of_links (congrArg Store.links same), stored.sound.of_links (congrArg Store.links same),
        by rw [Course.extend_state, same]; exact stored.stored⟩) stored continues

/-! ## Creation -/

/-- The search for a free code adds nothing, whatever it finds. -/
theorem freeCode_assures (codes : CodeSettings) (draws : Nat) (idle : Idle call course) :
    (LinkService.freeCode codes draws).attempt.Assures (Shared.surroundings.recorded call)
      (contract call) (fun _ => Idle call) course := by
  induction draws generalizing course with
  | zero => exact idle
  | succ draws ih =>
      rw [LinkService.freeCode_succ]
      apply idle.quiet Effect.newId_isQuiet
      intro id course idle
      dsimp only
      cases Code.ofUuid codes id with
      | error cause => exact idle
      | ok code =>
          apply idle.quiet (Effect.codeExists_isQuiet _)
          intro reply course idle
          match reply with
          | .ok true => exact ih idle
          | .ok false => exact idle
          | .error failure => exact idle

/-- The save of a new URL leaves the URL or nothing. It is here that the code is looked for
again, in one step with the writing. -/
theorem add_assures {link : Link} (fronted : link.identity.IsFronted) (idle : Idle call course) :
    Script.Assures (I := Effect.interface) (Shared.surroundings.recorded call) (contract call)
      (Leaves call) (.ask (Effect.addLink link) fun outcome => .done outcome.stored) course := by
  refine .ask keeps_idle idle ?_
  intro course chance idle
  have grows : course.state.store.Grows (course.state.store.add link chance.now).2 :=
    Store.grows_add fronted chance.now
  refine ⟨grows, ?_⟩
  change Leaves call (.ok (course.state.store.add link chance.now).1.stored) _
  rcases Store.add_cases course.state.store link chance.now with
    ⟨-, failure, failed⟩ | ⟨-, -, written⟩
  · rw [failed]
    refine idle.extend rfl rfl ⟨?_, ?_⟩
    · exact congrArg (fun saved : SaveOutcome × Store => saved.2.links) failed
    · exact congrArg (fun saved : SaveOutcome × Store => saved.2.outbox) failed
  · rw [written]
    refine ⟨(grows idle.sound).1, ?_⟩
    have accepted : (course.state.store.add link chance.now).1.result = .ok () := by
      rw [written]
    change link.identity ∈ (course.state.store.add link chance.now).2.identities
    rw [(Store.identities_add_of_ok accepted).2]
    simp

/-- One attempt leaves the URL or nothing. -/
theorem tryCreate_assures (service : LinkService) (longUrl : String) {base : String}
    (isFront : Address.IsFront base) (idle : Idle call course) :
    (service.tryCreate longUrl base).attempt.Assures (Shared.surroundings.recorded call)
      (contract call) (Leaves call) course := by
  rw [LinkService.tryCreate_eq]
  apply (freeCode_assures service.codes service.draws idle).andThen
  · intro result course idle
    cases result with
    | error failure => exact idle
    | ok code =>
        simp only [LinkService.newLink_eq, Script.andThen_ask, Script.andThen_done]
        apply idle.quiet Effect.newId_isQuiet
        intro id course idle
        apply idle.quiet Effect.now_isQuiet
        intro created course idle
        apply idle.quiet Effect.newId_isQuiet
        intro eventId course idle
        apply idle.quiet Effect.now_isQuiet
        intro occurred course idle
        exact add_assures ⟨base, isFront, rfl⟩ idle
  · intro cause course idle
    exact idle

/-- Any number of attempts leave the URL or nothing. -/
theorem createWithin_assures (service : LinkService) (longUrl : String) {base : String}
    (isFront : Address.IsFront base) (attempts : Nat) (last : Option String)
    (idle : Idle call course) :
    (service.createWithin longUrl base attempts last).attempt.Assures
      (Shared.surroundings.recorded call) (contract call) (Leaves call) course := by
  induction attempts generalizing last course with
  | zero => exact idle
  | succ attempts ih =>
      rw [LinkService.createWithin_succ]
      apply (tryCreate_assures service longUrl isFront idle).andThen
      · intro result course left
        cases result with
        | ok link => exact left
        | error failure => exact ih (some failure.message) left
      · intro cause course idle
        exact idle

/-- A creation leaves its URL or nothing. -/
theorem create_assures (service : LinkService) (request : ShortenRequest)
    (idle : Idle call course) :
    (service.create request).attempt.Assures (Shared.surroundings.recorded call)
      (contract call) (Leaves call) course := by
  rw [LinkService.create_eq]
  cases checked : LinkService.checkRequest request with
  | error failure => exact idle
  | ok base =>
      exact createWithin_assures service request.longUrl
        (LinkService.isFront_of_checkRequest checked) _ _ idle

/-! ## Removal -/

/-- The save of a removed URL changes no identity. -/
theorem updateRemoved_assures {link : Link} {change : Change}
    {next : SaveOutcome → Program (Except Failure Unit)}
    (ends : ∀ outcome, ∃ result, next outcome = .done result)
    (stored : Stored link.identity course) :
    Script.Assures (I := Effect.interface) (Shared.surroundings.recorded call) (contract call)
      (fun _ _ => True) (.ask (Effect.updateLink link change) next) course := by
  refine .ask (keeps_stored _) stored ?_
  intro course chance stored
  have same := Store.identities_update stored.sound stored.stored change chance.now
  refine ⟨fun sound => ⟨sound.of_identities same, same ▸ List.prefix_rfl⟩, ?_⟩
  obtain ⟨result, ended⟩ := ends (course.state.store.update link change chance.now).1
  change Script.Assures _ _ _ (next (course.state.store.update link change chance.now).1) _
  rw [ended]
  trivial

/-- A removal changes no identity: what it stores is a row that it has found. -/
theorem remove_assures (code : String) (sound : course.state.store.Sound) :
    (LinkService.remove code).attempt.Assures (Shared.surroundings.recorded call)
      (contract call) (fun _ _ => True) course := by
  rw [LinkService.remove_eq]
  refine .ask keeps_sound sound ?_
  intro course chance sound
  have answered : (Shared.answer chance (.findByCode code) course.state).1 =
      .ok (.ok (course.state.store.findByCode code)) := rfl
  refine ⟨.of_links rfl, ?_⟩
  rw [answered]
  cases found : course.state.store.findByCode code with
  | none => exact True.intro
  | some link =>
      have stored : Stored link.identity
          (course.extend (course.exchange call (.findByCode code) chance)) :=
        ⟨sound.of_links rfl, List.mem_map_of_mem (Store.findByCode_eq_some found).1⟩
      apply stored.quiet Effect.newId_isQuiet
      intro eventId course stored
      apply stored.quiet Effect.now_isQuiet
      intro occurred course stored
      exact updateRemoved_assures (fun outcome => ⟨_, rfl⟩) stored

/-! ## All calls together -/

variable {κ : Type} [DecidableEq κ]

/-- What a creation leaves behind, by the way in which its call has ended. -/
def LeavesAtEnd (call : ι) : Except Abort Ending → SharedCourse ι → Prop
  | .ok (.created result), course => Leaves call (.ok result) course
  | .ok _, _ => True
  | .error cause, course => Leaves call (.error cause) course

theorem keeps_leavesAtEnd (result : Except Abort Ending) :
    (contract call).Keeps (LeavesAtEnd call result) := by
  intro course other left change
  match result, left with
  | .ok (.created result), left => exact keeps_leaves (.ok result) left change
  | .ok (.removed _), _ => exact True.intro
  | .ok (.dispatched _), _ => exact True.intro
  | .ok (.requeued _), _ => exact True.intro
  | .error cause, left => exact keeps_leaves (.error cause) left change

/-- Creations and removals beside each other. -/
def agreement (ι κ : Type) [DecidableEq ι] [DecidableEq κ] :
    Concurrent.Agreement (ι ⊕ κ) Shared.surroundings Ending where
  contract := contract
  post
    | .inl creation => LeavesAtEnd (.inl creation)
    | .inr _ => fun _ _ => True
  stable := by
    intro call result
    cases call with
    | inl creation => exact keeps_leavesAtEnd result
    | inr removal => exact fun _ _ => True.intro
  compatible := by
    intro call other course exchange isOwn different connected guaranteed
    refine ⟨guaranteed, Course.own_extend_of_ne course ?_⟩
    rw [isOwn]
    exact different
  undisturbed _ _ _ := ⟨.of_links rfl, rfl⟩

/-- The calls of any creations and removals. -/
def calls (services : ι → LinkService) (requests : ι → ShortenRequest) (codes : κ → String) :
    ι ⊕ κ → Program Ending
  | .inl creation => (Call.create (services creation) (requests creation)).program
  | .inr removal => (Call.remove (codes removal)).program

/-- The agreement holds at the beginning, over a store without rows. -/
theorem agreement_holds (services : ι → LinkService) (requests : ι → ShortenRequest)
    (codes : κ → String) {shared : Shared} (empty : shared.store.links = []) :
    (agreement ι κ).Holds (.start shared (calls services requests codes)) := by
  intro call
  have sound := Store.sound_of_empty empty
  cases call with
  | inl creation =>
      have idle : Idle (Sum.inl creation : ι ⊕ κ) ⟨[], shared⟩ := ⟨sound, by simp [Course.own]⟩
      apply (create_assures (services creation) (requests creation) idle).andThen
      · exact fun _ _ left => left
      · exact fun _ _ idle => idle
  | inr removal =>
      apply (remove_assures (codes removal) sound).andThen
      · exact fun _ _ _ => True.intro
      · exact fun _ _ _ => True.intro

/-- Every turn that the calls allow keeps the table sound. -/
theorem sound_of_allows {course after : SharedCourse (ι ⊕ κ)}
    (sound : course.state.store.Sound) (allowed : (agreement ι κ).Allows course after) :
    after.state.store.Sound := by
  cases allowed with
  | rest => exact sound
  | move exchange connected guaranteed => exact (guaranteed sound).1
  | disturb count => exact sound.of_links rfl

end Creation

open Creation in
/-- Concurrent creation never shares a code. Any number of creations, with any requests, code
settings and draws, run interleaved in any order with each other and with any removals over
one store that was empty, and any saves are made to fail. Then at any time the rows have
pairwise different codes and pairwise different short URLs; a creation that has succeeded has
exactly one row with its id, which has its code, long URL and short URL; and one that has
failed or broken off has added neither a row nor a message. -/
theorem concurrent_creation_never_shares_a_code {ι κ : Type} [DecidableEq ι] [DecidableEq κ]
    (services : ι → LinkService) (requests : ι → ShortenRequest) (codes : κ → String)
    (failing : Nat) (cache : Option Cache.Memory) (ticks : Nat)
    (schedule : List (Turn (ι ⊕ κ) Shared.surroundings)) :
    let reached := (Concurrent.start ⟨{ failingSaves := failing }, cache, ticks⟩
      (calls services requests codes)).play schedule
    let rows := reached.course.state.store.links
    (rows.map Link.code).Nodup ∧ (rows.map Link.shortUrl).Nodup ∧
      (∀ creation link, reached.rest (.inl creation) = .done (.created (.ok link)) →
        ∃ row, (rows.filter fun row => row.id = link.id) = [row] ∧ row.code = link.code ∧
          row.longUrl = link.longUrl ∧ row.shortUrl = link.shortUrl) ∧
      (∀ creation, (∃ failure, reached.rest (.inl creation) = .done (.created (.error failure))) ∨
          (∃ cause, reached.rest (.inl creation) = .abort cause) →
        ∀ exchange ∈ reached.course.own (.inl creation), AddsNothing exchange) := by
  intro reached rows
  have holds : (agreement ι κ).Holds reached :=
    (agreement_holds services requests codes rfl).play schedule
  have sound : reached.course.state.store.Sound :=
    (agreement_holds services requests codes rfl).keeps sound_of_allows
      (Store.sound_of_empty rfl) schedule
  refine ⟨sound.rowCodes, sound.shortUrls, ?_, ?_⟩
  · intro creation link ended
    have stored : Stored link.identity reached.course := holds.post_of_done ended
    obtain ⟨row, only, same⟩ := sound.exists_unique stored.stored
    refine ⟨row, only, congrArg LinkCreated.code same, congrArg LinkCreated.longUrl same,
      congrArg LinkCreated.shortUrl same⟩
  · rintro creation (⟨failure, ended⟩ | ⟨cause, brokenOff⟩)
    · have idle : Idle (.inl creation) reached.course := holds.post_of_done ended
      exact idle.adds_nothing
    · have idle : Idle (.inl creation) reached.course := holds.post_of_abort brokenOff
      exact idle.adds_nothing

end Shortlink
