import Shortlink.Proofs.Cache.Operations
import Shortlink.Proofs.Calls.Sequence
import Shortlink.Proofs.Script.Bounded

/-!
# Readings that overtake an eviction

Readings, creations, removals, requeues and dispatch runs beside each other. Once the message
of a removal is processed, the code does not resolve any more, unless a call that had found the
URL before its eviction has cached it since.
-/

namespace Shortlink

/-- How an operation has ended. -/
inductive Operation.Outcome where
  | created (result : Except Failure Link)
  | resolved (result : Except Failure String)
  | listed (result : Except Failure (List LinkView))
  | removed (result : Except Failure Unit)
  | dispatched (result : Except Failure DispatchReport)
  | requeued (result : Except Failure Bool)
  | waited

/-- What an operation does beside others. Time passes by chance then, so that nothing has to be
done to wait. -/
def Operation.program : Operation → Program Outcome
  | create service request => (service.create request).attempt.andThen fun result =>
    pure (.created result)
  | resolve service code => (service.resolve code).attempt.andThen fun result =>
    pure (.resolved result)
  | list service page size => (service.list page size).attempt.andThen fun result =>
    pure (.listed result)
  | remove code => (LinkService.remove code).attempt.andThen fun result => pure (.removed result)
  | dispatch settings => (Dispatcher.standard settings).runOnce.attempt.andThen fun result =>
    pure (.dispatched result)
  | requeue id => (ask (.requeue id)).andThen fun result => pure (.requeued result)
  | wait _ => pure .waited

/-- A resolution looks into the cache, looks into the store, and caches what it has found. -/
theorem Operation.resolve_within (service : LinkService) (code : String) :
    (Operation.resolve service code).program.Within 3 := by
  have within : (service.resolve code).attempt.Within 3 := by
    rw [LinkService.resolve, Cache.getOrLoad_eq]
    intro cached
    dsimp only
    cases Cache.seen .string cached with
    | some longUrl => exact True.intro
    | none =>
        simp only [Coherence.loadOriginal_eq, Script.andThen_ask]
        rintro (failure | _ | link)
        · exact True.intro
        · exact True.intro
        · simp only [Script.andThen_done, Cache.keep_eq]
          cases Cache.Codec.string.encode? link.longUrl with
          | none => exact True.intro
          | some text => exact fun _ => True.intro
  exact within.andThen_done Outcome.resolved

namespace Overtaking

open Cache (Codec codeKey)

variable {ι : Type} {call : ι} {course : SharedCourse ι}

/-! ## Readings that begin after an eviction -/

/-- A removed code has been evicted from the cache, as part of this history at least. -/
structure Gone (code : String) (evicting : List (Exchange ι Effect.interface Shared))
    (course : SharedCourse ι) : Prop where
  evicted : ∃ eviction ∈ evicting, Evicts code eviction
  grown : evicting <+: course.history

/-- The code is not found, or it resolves to a URL that was cached by calls that have overtaken all
these evictions of it. -/
def Final (code : String) (evicting : List (Exchange ι Effect.interface Shared))
    (answer : Except Failure String) (course : SharedCourse ι) : Prop :=
  answer = .error (.codeNotFound code) ∨
    ∃ longUrl, answer = .ok longUrl ∧
      ∀ eviction ∈ evicting, Evicts code eviction → Overtakes code longUrl eviction course.history

variable {code : String} {evicting : List (Exchange ι Effect.interface Shared)}

theorem lasting_gone (code : String) (evicting : List (Exchange ι Effect.interface Shared)) :
    Lasting fun course => Gone code evicting course :=
  fun _ _ _ later gone => ⟨gone.evicted, gone.grown.trans later.history⟩

theorem lasting_final (code : String) (evicting : List (Exchange ι Effect.interface Shared))
    (answer : Except Failure String) : Lasting fun course => Final code evicting answer course := by
  rintro course other orderly later (missed | ⟨longUrl, isAnswer, overtaken⟩)
  · exact .inl missed
  · refine .inr ⟨longUrl, isAnswer, ?_⟩
    exact fun eviction member evicts => (overtaken eviction member evicts).mono later.history

/-- A removed code that has been evicted is not found in the store. -/
theorem Orderly.find_of_gone (orderly : Orderly course) (gone : Gone code evicting course) :
    course.state.store.findByCode code = none := by
  obtain ⟨⟨eviction, member, evicts⟩, grown⟩ := gone
  have announces := orderly.recorded.gone eviction (grown.subset member) code evicts
  exact orderly.recorded.announced.findByCode_eq_none announces

/-- What stands in the cache of a code has been cached by calls that have overtaken all its
evictions. -/
theorem Orderly.overtaken_of_held (orderly : Orderly course) {entry : Cache.Entry}
    (held : (codeKey code, entry) ∈ course.state.entries) {longUrl : String}
    (read : Codec.string.decode? entry.value = some longUrl) :
    ∀ eviction ∈ course.history, Evicts code eviction →
      Overtakes code longUrl eviction course.history := by
  intro eviction member evicts
  obtain ⟨cached, encoded, overtakes⟩ := orderly.accounted code entry held eviction member evicts
  have decoded := Codec.faithful_string cached entry.value encoded
  rw [decoded] at read
  cases read
  exact overtakes

/-- Over a store without rows, messages and marks, and any cache. -/
theorem orderly_start {shared : Shared} (links : shared.store.links = [])
    (outbox : shared.store.outbox = []) (markers : shared.store.markers = []) :
    Orderly (⟨[], shared⟩ : SharedCourse ι) := by
  refine ⟨recorded_start links outbox markers, ?_⟩
  intro code entry member eviction isEviction
  contradiction

/-- A message of a removal is processed only after an eviction. -/
theorem Orderly.gone_of_processed (orderly : Orderly course) {message : Message}
    (member : message ∈ course.state.store.outbox) (isProcessed : message.isProcessed = true)
    {event : Event} (decoded : message.decode = .ok event) {id : Uuid}
    (isRemoval : event.payload = .removed ⟨id, code⟩) : Gone code course.history course := by
  obtain ⟨carried, -, carries⟩ := orderly.recorded.tracks.exists_event member
  have same : carried = event := by
    rw [carries.decode] at decoded
    exact Except.ok.inj decoded
  subst same
  have settled := orderly.recorded.tracks.processed message member isProcessed carried carries
  exact ⟨orderly.recorded.evicted carried settled _ isRemoval, List.prefix_rfl⟩

/-- The promise of one reader among others. -/
def Promise (reader : ι) (code : String)
    (evicting : List (Exchange ι Effect.interface Shared)) (call : ι)
    (result : Except Abort Operation.Outcome) (course : SharedCourse ι) : Prop :=
  call = reader → ∃ answer, result = .ok (.resolved answer) ∧ Final code evicting answer course

theorem lasting_promise (reader : ι) (code : String)
    (evicting : List (Exchange ι Effect.interface Shared)) (call : ι)
    (result : Except Abort Operation.Outcome) :
    Lasting (Promise reader code evicting call result) := by
  intro course other orderly later promise isReader
  obtain ⟨answer, isAnswer, final⟩ := promise isReader
  exact ⟨answer, isAnswer, lasting_final code evicting answer course other orderly later final⟩

variable [DecidableEq ι]

/-- A reading that begins after evictions takes what it finds in the cache from calls that have
overtaken them. -/
theorem late_resolve_ensures (service : LinkService) (orderly : Orderly course)
    (gone : Gone code evicting course) :
    Ensures call (service.resolve code).attempt
      (fun result course => ∃ answer, result = .ok answer ∧ Final code evicting answer course)
      course := by
  rw [LinkService.resolve, Cache.getOrLoad_eq]
  have lasting := lasting_gone code evicting
  refine lasting.look True.intro orderly gone ?_
  intro course chance reply orderly gone replied later
  obtain ⟨found, answered, isHeld⟩ := Shared.answer_cacheGet chance (codeKey code) course.state
  rw [answered] at replied
  cases replied
  cases read : Cache.seen .string (.ok found) with
  | some longUrl =>
      refine ⟨.ok longUrl, rfl, .inr ⟨longUrl, rfl, ?_⟩⟩
      intro eviction member evicts
      cases found with
      | none => contradiction
      | some text =>
          obtain ⟨entry, held, rfl⟩ := isHeld text rfl
          have overtaken := orderly.overtaken_of_held held read
          exact (overtaken eviction (gone.grown.subset member) evicts).mono later.history
  | none =>
      simp only [Coherence.loadOriginal_eq, Script.andThen_ask]
      refine lasting.look True.intro later.orderly (lasting _ _ orderly later gone) ?_
      intro course chance reply orderly gone replied later
      have isReply : reply = .ok none := by
        rw [← orderly.find_of_gone gone]
        exact (Except.ok.inj replied).symm
      rw [isReply]
      exact ⟨_, rfl, .inl rfl⟩

/-! ## All operations together -/

/-- Every operation keeps the course orderly. -/
theorem program_ensures (operation : Operation) (orderly : Orderly course) :
    Ensures call operation.program (fun _ => Orderly) course := by
  have ends : Ensures call operation.program (fun _ _ => True) course := by
    cases operation with
    | create service request =>
        exact (create_ensures service request orderly).andThen (fun _ _ _ => True.intro)
          fun _ _ _ => True.intro
    | resolve service code =>
        exact (resolve_ensures service code orderly).andThen (fun _ _ _ => True.intro)
          fun _ _ _ => True.intro
    | list service page size =>
        exact (list_ensures service page size orderly).andThen (fun _ _ _ => True.intro)
          fun _ _ _ => True.intro
    | remove code =>
        exact (remove_ensures code orderly).andThen (fun _ _ _ => True.intro)
          fun _ _ _ => True.intro
    | dispatch settings =>
        exact (dispatch_ensures settings orderly).andThen (fun _ _ _ => True.intro)
          fun _ _ _ => True.intro
    | requeue id =>
        exact lasting_true.plain (by exact True.intro) orderly True.intro
          fun _ _ _ _ => True.intro
    | wait duration => exact True.intro
  exact (lasting_true.frame ends orderly True.intro).imp fun _ _ ended => ended.2.1

/-- Operations beside each other, each with a promise about its end. -/
def agreement {promise : ι → Except Abort Operation.Outcome → SharedCourse ι → Prop}
    (lasts : ∀ call result, Lasting (promise call result)) :
    Concurrent.Agreement ι Shared.surroundings Operation.Outcome :=
  .keeping Progress.refl Progress.trans
    (fun call result course => Orderly course ∧ promise call result course)
    (fun call result => (lasts call result).keeps) progress_failSaves

/-- Without any promise the agreement holds at the beginning. -/
theorem agreement_holds (operations : ι → Operation) {shared : Shared}
    (orderly : Orderly (⟨[], shared⟩ : SharedCourse ι)) :
    (agreement fun _ _ => lasting_true).Holds
      (.start shared fun call => (operations call).program) := by
  intro call
  exact (program_ensures (operations call) orderly).imp fun _ _ orderly => ⟨orderly, True.intro⟩

/-- A reader that begins after evictions of a code can promise what it comes to. -/
theorem agreement_holds_late
    {calls : Concurrent ι Effect.interface Shared Operation.Outcome}
    (holds : (agreement fun _ _ => lasting_true).Holds calls) (orderly : Orderly calls.course)
    (gone : Gone code evicting calls.course) {reader : ι} {service : LinkService}
    (begins : calls.rest reader = (Operation.resolve service code).program) :
    (agreement (lasting_promise reader code evicting)).Holds calls := by
  intro call
  by_cases isReader : call = reader
  · subst isReader
    rw [begins]
    have late : Ensures call (service.resolve code).attempt (fun result course =>
        ∃ answer, result = .ok answer ∧ Final code evicting answer course) calls.course :=
      late_resolve_ensures service orderly gone
    apply (lasting_true.frame late orderly True.intro).andThen
    · rintro result course ⟨⟨answer, isAnswer, final⟩, orderly, -⟩
      cases isAnswer
      exact ⟨orderly, fun _ => ⟨result, rfl, final⟩⟩
    · rintro cause course ⟨⟨answer, isAnswer, final⟩, -⟩
      contradiction
  · exact (holds call).imp fun _ _ ended => ⟨ended.1, fun same => absurd same isReader⟩

end Overtaking

open Overtaking in
/-- A removed code stays evicted unless a reading overtakes the eviction. Any operations run
interleaved in any order over one store that was empty and one cache, and any saves are made to
fail. Once a message that a code is removed has been processed, the cached URL of the code has
been evicted; and every resolution of the code that begins then, whatever else goes on, ends after
three turns of its own at most, with the failure that there is no such URL, or with a URL that was
cached after every one of those evictions by a call that had found it before. -/
theorem removed_codes_stay_evicted_unless_overtaken {ι : Type} [DecidableEq ι]
    (operations : ι → Operation) (failing : Nat) (cache : Option Cache.Memory) (ticks : Nat)
    (schedule more : List (Turn ι Shared.surroundings)) (reader : ι) (service : LinkService)
    (code : String) :
    let reached := (Concurrent.start ⟨{ failingSaves := failing }, cache, ticks⟩
      fun call => (operations call).program).play schedule
    let later := reached.play more
    (∃ message ∈ reached.course.state.store.outbox, message.isProcessed = true ∧
      ∃ event id, message.decode = .ok event ∧ event.payload = .removed ⟨id, code⟩) →
    reached.rest reader = (Operation.resolve service code).program →
    (∃ eviction ∈ reached.course.history, Evicts code eviction) ∧
      (3 ≤ more.countP (fun turn => turn.caller? = some reader) → (later.rest reader).IsOver) ∧
      ((later.rest reader).IsOver →
        later.rest reader = .done (.resolved (.error (.codeNotFound code))) ∨
        ∃ longUrl, later.rest reader = .done (.resolved (.ok longUrl)) ∧
          ∀ eviction ∈ reached.course.history, Evicts code eviction →
            Overtakes code longUrl eviction later.course.history) := by
  rintro reached later ⟨message, member, isProcessed, event, id, decoded, isRemoval⟩ begins
  have started : Orderly (⟨[], ⟨{ failingSaves := failing }, cache, ticks⟩⟩ : SharedCourse ι) :=
    orderly_start rfl rfl rfl
  have holds := agreement_holds operations started
  have orderly : Orderly reached.course :=
    (Concurrent.Agreement.Holds.related Progress.refl Progress.trans holds schedule started).orderly
  have gone := orderly.gone_of_processed member isProcessed decoded isRemoval
  have promised : (agreement (lasting_promise reader code reached.course.history)).Holds later :=
    (agreement_holds_late (holds.play schedule) orderly gone begins).play more
  have within : (reached.rest reader).Within 3 := by
    rw [begins]
    exact Operation.resolve_within service code
  refine ⟨gone.evicted, Concurrent.isOver_play within, fun finished => ?_⟩
  cases ended : later.rest reader with
  | ask request next =>
      rw [ended] at finished
      contradiction
  | abort cause =>
      obtain ⟨answer, isAnswer, -⟩ := (promised.post_of_abort ended).2 rfl
      contradiction
  | done outcome =>
      obtain ⟨answer, isAnswer, final⟩ := (promised.post_of_done ended).2 rfl
      cases isAnswer
      rcases final with rfl | ⟨longUrl, rfl, overtaken⟩
      · exact .inl rfl
      · exact .inr ⟨longUrl, rfl, overtaken⟩

open Overtaking in
/-- A URL is created, removed and evicted, and then a reader begins who has three turns. -/
theorem removed_codes_stay_evicted_unless_overtaken_of_one :
    let now : Time.Moment := ⟨⟨2026, 1, 2, by decide, by decide, by decide⟩, 3, 4, 5, 6,
      by decide, by decide, by decide, by decide⟩
    let service : LinkService := ⟨.standard, none, 1⟩
    let code := "AAAAAAB"
    let event : Event := ⟨⟨4⟩, now, .removed ⟨⟨2⟩, code⟩⟩
    let operations : Fin 4 → Operation
      | 0 => .create service ⟨"http://[::1]/", "http", "[::1]"⟩
      | 1 => .remove code
      | 2 => .dispatch .standard
      | 3 => .resolve service code
    let turn (call : Fin 4) (id : BitVec 128) : Turn (Fin 4) Shared.surroundings :=
      .move call (⟨0, now, ⟨id⟩, false, ⟨0, .ok ()⟩⟩ : Chance)
    let schedule := [1, 0, 2, 0, 3, 0, 0].map (turn 0) ++ [0, 4, 0, 0].map (turn 1) ++
      (List.replicate 15 0).map (turn 2)
    let more := [turn 3 0, turn 3 0, turn 3 0]
    let reached := (Concurrent.start ⟨{ failingSaves := 0 }, some (.empty 60), 0⟩
      fun call => (operations call).program).play schedule
    let later := reached.play more
    (Message.ofEvent event).markProcessed now none ∈ reached.course.state.store.outbox ∧
    reached.rest 3 = (Operation.resolve service code).program ∧
    (∃ eviction ∈ reached.course.history, Evicts code eviction) ∧
      (later.rest 3 = .done (.resolved (.error (.codeNotFound code))) ∨
        ∃ longUrl, later.rest 3 = .done (.resolved (.ok longUrl)) ∧
          ∀ eviction ∈ reached.course.history, Evicts code eviction →
            Overtakes code longUrl eviction later.course.history) := by
  intro now service code event operations turn schedule more
  have isDone : (Message.ofEvent event).markProcessed now none ∈
      ((Concurrent.start ⟨{ failingSaves := 0 }, some (.empty 60), 0⟩
        fun call => (operations call).program).play schedule).course.state.store.outbox := by
    decide +kernel
  have begins : ((Concurrent.start ⟨{ failingSaves := 0 }, some (.empty 60), 0⟩
      fun call => (operations call).program).play schedule).rest 3 =
        (Operation.resolve service code).program := by
    apply Concurrent.rest_play_of_idle
    decide +kernel
  have carries : ((Message.ofEvent event).markProcessed now none).Carries event := rfl
  have enough : 3 ≤ more.countP (fun turn => turn.caller? = some 3) := by decide
  obtain ⟨evicted, ends, comes⟩ := removed_codes_stay_evicted_unless_overtaken operations 0
    (some (.empty 60)) 0 schedule more 3 service code
    ⟨_, isDone, rfl, event, ⟨2⟩, carries.decode, rfl⟩ begins
  have ended := (comes ∘ ends) enough
  exact ⟨isDone, begins, evicted, ended⟩

/-- Whether a resolution has come to a URL can be decided. -/
instance (script : Program Operation.Outcome) (longUrl : String) :
    Decidable (script = .done (.resolved (.ok longUrl))) :=
  match script with
  | .done (.resolved (.ok other)) =>
    if same : other = longUrl then isTrue (by rw [same]) else isFalse (by simpa using same)
  | .done (.resolved (.error _)) | .done (.created _) | .done (.listed _) | .done (.removed _)
  | .done (.dispatched _) | .done (.requeued _) | .done .waited | .abort _ | .ask _ _ =>
    isFalse nofun

/-- A code that is announced to be removed, and evicted, and resolves again: a reader that found the
URL before has cached it once more. -/
theorem removed_code_resolves_when_overtaken :
    let now : Time.Moment := ⟨⟨2026, 1, 2, by decide, by decide, by decide⟩, 3, 4, 5, 6,
      by decide, by decide, by decide, by decide⟩
    let link : Link := ⟨⟨1⟩, "http://[::1]/", "abc", "http://[::1]/abc", .begun now, []⟩
    let operations : Fin 4 → Operation
      | 0 | 3 => .resolve ⟨.standard, none, 1⟩ link.code
      | 1 => .remove link.code
      | 2 => .dispatch .standard
    let turn (call : Fin 4) : Turn (Fin 4) Shared.surroundings :=
      .move call (⟨0, now, ⟨2⟩, false, ⟨0, .ok ()⟩⟩ : Chance)
    let schedule := [0, 0, 1, 1, 1, 1, 2, 2, 2, 2, 2, 2, 2, 2, 2, 2, 0].map turn
    let reached := (Concurrent.start ⟨{ links := [link] }, some (.empty 60), 0⟩
      fun call => (operations call).program).play schedule
    let later := reached.play [turn 3]
    reached.rest 3 = (operations 3).program ∧
      reached.course.state.store.outbox.map
          (fun message => (message.eventType, message.isProcessed, message.error)) =
        [("ShortenedUrlRemoved", true, none)] ∧
      later.rest 3 = .done (.resolved (.ok link.longUrl)) := by
  constructor
  · apply Concurrent.rest_play_of_idle
    decide +kernel
  · decide +kernel

end Shortlink
