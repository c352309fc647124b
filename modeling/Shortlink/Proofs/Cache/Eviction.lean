import Shortlink.Cache.Redis
import Shortlink.Proofs.Calls.Shared
import Shortlink.Proofs.Link.Event
import Shortlink.Proofs.Outbox.Invalidation
import Shortlink.Proofs.Script.Alone

/-!
# Evictions that are reported

The removal of a URL is handled when its resolved entry and all listing pages are dropped. With
the cache in Redis the two differ: a removal by key that fails is taken for one that has nothing
to remove, and a removal by stem that fails is reported. So a removal that is reported to be
handled has been asked for, entry and pages, and the server has acknowledged that of the pages.
-/

namespace Shortlink

namespace Eviction

open Cache Cache.Redis

/-! ## The server -/

/-- The answer where a server replies to commands as chance has it. Everything beside it is
answered over the state that calls share. -/
def answer (chance : Chance × Reply) (request : Request) (shared : Shared) :
    Except Abort request.Answer × Shared :=
  match request with
  | .beside request => Shared.answer chance.1 request shared
  | .connect _ => shared.query (.ok ())
  | .command _ => shared.query chance.2
  | .transaction _ => shared.query chance.2

/-- The surroundings of a service that keeps its cache in Redis. -/
def surroundings : Surroundings Request.interface Shared where
  Chance := Chance × Reply
  answer := answer
  Disturbance := Empty
  disturb := nofun

/-- The course of a service that keeps its cache in Redis. -/
abbrev RedisCourse := Course Unit Request.interface Shared

/-- What an exchange has asked of the server, and the reply to it. -/
def served? : Exchange Unit Request.interface Shared → Option (Request × Reply)
  | ⟨_, .command words, .ok reply, _, _⟩ => some (.command words, reply)
  | ⟨_, .transaction commands, .ok reply, _, _⟩ => some (.transaction commands, reply)
  | _ => none

/-- All that has been asked of the server, with the replies. -/
def served (history : List (Exchange Unit Request.interface Shared)) : List (Request × Reply) :=
  history.filterMap served?

/-- The end of a program with its cache in Redis that nothing interrupts, and the course to
it. -/
def perform {α : Type} (ttl : Nat) (chances : Nat → Chance × Reply) (shared : Shared)
    (program : Program α) : Except Abort α × RedisCourse :=
  (surroundings.recorded ()).perform chances (withRedis ttl program) ⟨[], shared⟩

/-- What a program assures where nothing interrupts it holds at its end. -/
theorem perform_meets {α : Type} {ttl : Nat} {shared : Shared} {program : Program α}
    {post : Except Abort α → RedisCourse → Prop}
    (assured : (withRedis ttl program).Assures (surroundings.recorded ()) (.alone _) post
      ⟨[], shared⟩) (chances : Nat → Chance × Reply) :
    post (perform ttl chances shared program).1 (perform ttl chances shared program).2 :=
  assured.perform chances

/-! ## Evictions -/

/-- What an eviction asks of the server, with the replies: to remove the resolved entry, to list
the keys of all pages and, if there are any, to remove them. -/
def exchanges (code : String) (entry listing : Reply) (pages : List String) (outcome : Reply) :
    List (Request × Reply) :=
  (.transaction (removeCommands [codeKey code]), entry) ::
    (.command (rangeCommand listStem), listing) ::
      if pages.isEmpty then [] else [(.transaction (removeCommands pages), outcome)]

/-- The server has been asked for an eviction and has acknowledged that the pages that it had
listed are removed. -/
def Evicted (code : String) (history : List (Exchange Unit Request.interface Shared)) : Prop :=
  ∃ entry listing pages outcome, listing.texts = .ok pages ∧
    (pages.isEmpty = false → outcome.allAcknowledged = .ok ()) ∧
    exchanges code entry listing pages outcome <:+: served history

variable {code : String} {marker : Marker} {before : Shared} {course : RedisCourse} {α β : Type}
  {ttl : Nat} {event : Event} {linkId : Uuid}

theorem served_extend (course : RedisCourse)
    (exchange : Exchange Unit Request.interface Shared) :
    served (course.extend exchange).history = served course.history ++ (served? exchange).toList :=
  course.filterMap_extend served? exchange

/-- The last exchanges with the server are those of an eviction. -/
theorem evicted_of_served {front : List (Request × Reply)} {entry listing outcome : Reply}
    {pages : List String} (isListing : listing.texts = .ok pages)
    (acknowledged : pages.isEmpty = false → outcome.allAcknowledged = .ok ())
    (ends : served course.history = front ++ exchanges code entry listing pages outcome) :
    Evicted code course.history := by
  refine ⟨entry, listing, pages, outcome, isListing, acknowledged, ?_⟩
  rw [ends]
  exact (List.suffix_append _ _).isInfix

theorem Evicted.extend (evicted : Evicted code course.history)
    (exchange : Exchange Unit Request.interface Shared) :
    Evicted code (course.extend exchange).history := by
  obtain ⟨entry, listing, pages, outcome, isListing, acknowledged, stands⟩ := evicted
  refine ⟨entry, listing, pages, outcome, isListing, acknowledged, stands.trans ?_⟩
  rw [served_extend]
  exact (List.prefix_append _ _).isInfix

/-- The removal has been handled, if not before then by an eviction. -/
def Handled (code : String) (marker : Marker) (before : Shared) (course : RedisCourse) : Prop :=
  marker ∈ before.store.markers ∨ Evicted code course.history

/-- What is promised of the end of a delivery holds at every later point too. -/
theorem Handled.extend (handled : Handled code marker before course)
    (exchange : Exchange Unit Request.interface Shared) :
    Handled code marker before (course.extend exchange) :=
  handled.imp_right fun evicted => evicted.extend exchange

/-- A mark has been written only after an eviction. -/
structure Honest (code : String) (marker : Marker) (before : Shared) (course : RedisCourse) :
    Prop where
  heeded : ∀ earlier exchange, earlier ++ [exchange] <+: course.history →
    exchange.request = .beside (.markConsumed marker) → Evicted code earlier
  marked : marker ∈ course.state.store.markers → Handled code marker before course

theorem honest_start (code : String) (marker : Marker) (before : Shared) :
    Honest code marker before ⟨[], before⟩ := by
  refine ⟨?_, .inl⟩
  intro earlier exchange isPrefix
  simp at isPrefix

theorem Honest.extend (honest : Honest code marker before course)
    {exchange : Exchange Unit Request.interface Shared}
    (marks : exchange.request = .beside (.markConsumed marker) → Evicted code course.history)
    (markers : marker ∈ exchange.after.store.markers →
      marker ∈ course.state.store.markers ∨ Evicted code course.history) :
    Honest code marker before (course.extend exchange) := by
  constructor
  · intro earlier other isPrefix isMark
    rw [Course.extend_history, List.prefix_concat_iff] at isPrefix
    rcases isPrefix with same | isEarlier
    · obtain ⟨rfl, last⟩ := List.append_inj' same rfl
      cases last
      exact marks isMark
    · exact honest.heeded earlier other isEarlier isMark
  · intro isMarked
    rcases markers isMarked with wasMarked | evicted
    · exact (honest.marked wasMarked).extend exchange
    · exact .inr (evicted.extend exchange)

/-- An exchange that has nothing to do with the mark. -/
theorem Honest.inert (honest : Honest code marker before course)
    {exchange : Exchange Unit Request.interface Shared}
    (other : exchange.request ≠ .beside (.markConsumed marker))
    (same : exchange.after.store = course.state.store) :
    Honest code marker before (course.extend exchange) := by
  apply honest.extend
  · exact fun isMark => absurd isMark other
  · rw [same]
    exact .inl

/-! ## The scripts over a server -/

theorem withRedis_andThen (program : Program α) (next : α → Program β) :
    withRedis ttl (program.andThen next) =
      (withRedis ttl program).andThen fun value => withRedis ttl (next value) :=
  Script.interpret_andThen (I := Effect.interface) (serve ttl) program next

theorem removeAll_eq (stem : String) :
    removeAll stem =
      .ask (Request.command (rangeCommand stem)) fun listing =>
        match listing.texts with
        | .error reason => .done (.error (.operation ("ZRANGEBYLEX failed: " ++ reason)))
        | .ok [] => .done (.ok 0)
        | .ok (page :: pages) =>
          .ask (Request.transaction (removeCommands (page :: pages))) fun outcome =>
            .done (match outcome.allAcknowledged with
              | .ok _ => .ok (page :: pages).length
              | .error reason => .error
                (.operation ("Failed to remove keys under " ++ stem ++ ": " ++ reason))) := by
  apply Script.ask_congr
  intro listing
  dsimp only [Script.andThen]
  match Reply.texts listing with
  | .error reason => rfl
  | .ok [] => rfl
  | .ok (page :: pages) =>
      apply Script.ask_congr
      intro outcome
      dsimp only [Script.andThen]
      cases Reply.allAcknowledged outcome with
      | ok _ => rfl
      | error reason => rfl

theorem withRedis_drop (isRemoved : event.payload = .removed ⟨linkId, code⟩) :
    withRedis ttl (Invalidation.drop event) =
      .ask (Request.transaction (removeCommands [codeKey code])) fun _ =>
        (removeAll listStem).andThen fun
          | .ok _ => .done (.ok ())
          | .error error => .done (.error (.invalidation error.message)) := by
  rw [Invalidation.drop, isRemoved, Invalidation.dropPages_eq]
  apply Script.ask_congr
  intro entry
  apply Script.andThen_congr (removeAll listStem)
  intro result
  cases result with
  | ok count => rfl
  | error error => rfl

theorem withRedis_deliver {subscription : Subscription}
    (isMarker : subscription.marker event = marker)
    (isHandler : (subscription.handler event).attempt = Invalidation.drop event) :
    withRedis ttl (subscription.deliver event).attempt =
      .ask (Request.beside (.isConsumed marker)) fun
        | .ok true => .done (.ok ())
        | .ok false => (withRedis ttl (Invalidation.drop event)).andThen fun
          | .ok _ => .ask (Request.beside (.markConsumed marker)) fun
            | .ok _ => .done (.ok ())
            | .error failure => .done (if failure.isConflict then .ok () else .error failure)
          | .error failure => .done (.error failure)
        | .error failure => .done (.error failure) := by
  rw [Subscription.deliver_eq, Subscription.mark_eq, isMarker, isHandler]
  apply Script.ask_congr
  intro reply
  match reply with
  | .ok true => rfl
  | .ok false =>
      apply (withRedis_andThen _ _).trans
      apply Script.andThen_congr
      intro result
      cases result with
      | ok _ =>
          apply Script.ask_congr
          intro reply
          cases reply with
          | ok _ => rfl
          | error failure => rfl
      | error failure => rfl
  | .error failure => rfl

/-! ## Reports -/

/-- A part of a delivery is honest, and if its result says that it is done then what is promised
of that holds at its end. -/
def Reports (code : String) (marker : Marker) (before : Shared) (promised : RedisCourse → Prop)
    (isDone : α → Prop) (result : Except Abort α) (course : RedisCourse) : Prop :=
  Honest code marker before course ∧ ∀ value, result = .ok value → isDone value → promised course

variable {promised : RedisCourse → Prop}

theorem Honest.reports (honest : Honest code marker before course) {isDone : α → Prop} {value : α}
    (holds : isDone value → promised course) :
    Reports code marker before promised isDone (.ok value) course := by
  refine ⟨honest, ?_⟩
  intro other same isTrue
  cases same
  exact holds isTrue

theorem Honest.reports_of_abort (honest : Honest code marker before course) (isDone : α → Prop)
    (cause : Abort) : Reports code marker before promised isDone (.error cause) course :=
  ⟨honest, fun _ same => nomatch same⟩

/-- The rule of composition for parts of a delivery. -/
theorem andThen_assures {script : RedisProgram α} {next : α → RedisProgram β}
    {isDone : α → Prop} {promised' : RedisCourse → Prop} {isDone' : β → Prop}
    (first : script.Assures (surroundings.recorded ()) (.alone _)
      (Reports code marker before promised isDone) course)
    (second : ∀ value course, Honest code marker before course →
      (isDone value → promised course) →
      (next value).Assures (surroundings.recorded ()) (.alone _)
        (Reports code marker before promised' isDone') course) :
    (script.andThen next).Assures (surroundings.recorded ()) (.alone _)
      (Reports code marker before promised' isDone') course := by
  apply first.andThen
  · exact fun value course reported => second value course reported.1 (reported.2 value rfl)
  · exact fun cause course reported => reported.1.reports_of_abort _ cause

/-- The removal of all pages reports that it is done only if it is, where the removal of the
resolved entry is the last that the server has been asked for before. -/
theorem removeAll_assures {front : List (Request × Reply)} {entry : Reply}
    (honest : Honest code marker before course)
    (begun : served course.history =
      front ++ [(.transaction (removeCommands [codeKey code]), entry)]) :
    (removeAll listStem).Assures (surroundings.recorded ()) (.alone _)
      (Reports code marker before (Evicted code ·.history)
        fun result => ∃ count, result = .ok count) course := by
  rw [removeAll_eq]
  apply Script.Assures.step_of_ok
  rintro ⟨chance, listing⟩
  refine ⟨listing, _, rfl, ?_⟩
  let listed := course.extend
    ⟨(), .command (rangeCommand listStem), .ok listing, course.state, course.state⟩
  have honestListed : Honest code marker before listed :=
    honest.inert (fun isMark => nomatch isMark) rfl
  have servedListed : served listed.history = front ++
      [(.transaction (removeCommands [codeKey code]), entry)] ++
        [(.command (rangeCommand listStem), listing)] := by
    rw [served_extend, begun]
    rfl
  match isListing : Reply.texts listing with
  | .error reason =>
      apply honestListed.reports
      rintro ⟨count, isDone⟩
      contradiction
  | .ok [] =>
      have ends : served listed.history = front ++ exchanges code entry listing [] entry := by
        rw [servedListed, List.append_assoc]
        rfl
      exact honestListed.reports fun _ => evicted_of_served isListing (by simp) ends
  | .ok (page :: pages) =>
      apply Script.Assures.step_of_ok
      rintro ⟨chance, outcome⟩
      refine ⟨outcome, _, rfl, ?_⟩
      let removed := listed.extend ⟨(), .transaction (removeCommands (page :: pages)),
        .ok outcome, course.state, course.state⟩
      have honestRemoved : Honest code marker before removed :=
        honestListed.inert (fun isMark => nomatch isMark) rfl
      apply honestRemoved.reports
      rintro ⟨count, isDone⟩
      have ends : served removed.history =
          front ++ exchanges code entry listing (page :: pages) outcome := by
        rw [served_extend, servedListed, List.append_assoc, List.append_assoc]
        rfl
      cases acknowledged : outcome.allAcknowledged with
      | ok _ => exact evicted_of_served isListing (fun _ => acknowledged) ends
      | error reason =>
          rw [acknowledged] at isDone
          contradiction

variable (isRemoved : event.payload = .removed ⟨linkId, code⟩)
include isRemoved

/-- The handler reports that the eviction is done only if it is. -/
theorem drop_assures (honest : Honest code marker before course) :
    (withRedis ttl (Invalidation.drop event)).Assures (surroundings.recorded ()) (.alone _)
      (Reports code marker before (Evicted code ·.history) (· = .ok ())) course := by
  rw [withRedis_drop isRemoved]
  apply Script.Assures.step_of_ok
  rintro ⟨chance, entry⟩
  refine ⟨entry, _, rfl, ?_⟩
  have asked : Honest code marker before (course.extend
      ⟨(), .transaction (removeCommands [codeKey code]), .ok entry, course.state, course.state⟩) :=
    honest.inert (fun isMark => nomatch isMark) rfl
  apply andThen_assures (removeAll_assures asked (served_extend course _))
  intro result course honest reports
  cases result with
  | ok count => exact honest.reports fun _ => reports ⟨count, rfl⟩
  | error error => exact honest.reports fun isDone => nomatch isDone

/-- A consumer reports that it has handled the removal only if that is so. -/
theorem deliver_assures {subscription : Subscription}
    (isMarker : subscription.marker event = marker)
    (isHandler : (subscription.handler event).attempt = Invalidation.drop event)
    (honest : Honest code marker before course) :
    (withRedis ttl (subscription.deliver event).attempt).Assures (surroundings.recorded ())
      (.alone _) (Reports code marker before (Handled code marker before) (· = .ok ())) course := by
  rw [withRedis_deliver isMarker isHandler]
  apply Script.Assures.step_of_ok
  rintro ⟨chance, reply⟩
  refine ⟨.ok (course.state.store.isConsumed marker), _, rfl, ?_⟩
  have asked : Honest code marker before (course.extend ⟨(), .beside (.isConsumed marker),
      .ok (.ok (course.state.store.isConsumed marker)), course.state,
      course.state.later chance.elapsed⟩) :=
    honest.inert (fun isMark => nomatch isMark) rfl
  cases consumed : course.state.store.isConsumed marker with
  | true =>
      have isMarked := course.state.store.isConsumed_iff.mp consumed
      exact asked.reports fun _ => (honest.marked isMarked).extend _
  | false =>
      apply andThen_assures (drop_assures isRemoved asked)
      intro result course honest reports
      cases result with
      | error failure => exact honest.reports fun isDone => nomatch isDone
      | ok _ =>
          have evicted := reports rfl
          apply Script.Assures.step_of_ok
          rintro ⟨chance, reply⟩
          refine ⟨.ok (), _, rfl, ?_⟩
          apply (honest.extend (fun _ => evicted) fun _ => .inr evicted).reports
          exact fun _ => .inr (evicted.extend _)

theorem publish_assures (honest : Honest code event.marker before course) :
    (withRedis ttl (Bus.standard.publish event).attempt).Assures (surroundings.recorded ())
      (.alone _) (Reports code event.marker before (Handled code event.marker before)
        (· = .ok ())) course := by
  obtain ⟨subscription, subscribers, isMarker, isHandler⟩ := Bus.subscribers_standard event
  rw [Bus.publish_eq, subscribers, Bus.deliverAll_cons, Script.andThen_assoc, withRedis_andThen]
  apply andThen_assures (deliver_assures isRemoved isMarker isHandler honest)
  intro result course honest reports
  cases result with
  | ok _ => exact honest.reports fun _ => reports rfl
  | error failure => exact honest.reports fun isDone => nomatch isDone

omit isRemoved in
theorem pause_assures (honest : Honest code marker before course) (step n : Nat) :
    (withRedis ttl (Dispatcher.pause step n)).Assures (surroundings.recorded ()) (.alone _)
      (Reports code marker before (fun _ => True) fun _ => True) course := by
  unfold Dispatcher.pause
  cases Backoff.pause? step n with
  | error cause => exact honest.reports_of_abort _ cause
  | ok duration =>
      apply Script.Assures.step_of_ok
      rintro ⟨chance, reply⟩
      have asked : Honest code marker before (course.extend ⟨(), .beside (.sleep duration),
          .ok (), course.state, course.state.later chance.elapsed⟩) :=
        honest.inert (fun isMark => nomatch isMark) rfl
      exact ⟨(), _, rfl, asked.reports id⟩

/-- Every attempt of a delivery assures what the first does. -/
theorem retry_assures (step left made : Nat) (honest : Honest code event.marker before course) :
    (withRedis ttl (Dispatcher.retry Bus.standard step event left made).attempt).Assures
      (surroundings.recorded ()) (.alone _) (Reports code event.marker before
        (Handled code event.marker before) (· = .ok ())) course := by
  induction left generalizing made course with
  | zero => exact publish_assures isRemoved honest
  | succ left ih =>
      rw [Dispatcher.retry_succ, withRedis_andThen]
      apply andThen_assures (publish_assures isRemoved honest)
      intro result course honest reports
      cases result with
      | ok _ => exact honest.reports fun _ => reports rfl
      | error failure =>
          simp only [withRedis_andThen]
          apply andThen_assures (pause_assures honest step (made + 1))
          exact fun _ course honest _ => ih (made + 1) honest

theorem deliver_message_assures (settings : DispatchSettings) {message : Message}
    (decoded : message.decode = .ok event) (honest : Honest code event.marker before course) :
    (withRedis ttl ((Dispatcher.standard settings).deliver message)).Assures
      (surroundings.recorded ()) (.alone _) (Reports code event.marker before
        (Handled code event.marker before) (· = .delivered)) course := by
  rw [Dispatcher.deliver_eq, decoded]
  simp only [withRedis_andThen]
  apply andThen_assures (retry_assures isRemoved settings.retryStep _ 0 honest)
  intro result course honest reports
  cases result with
  | ok _ => exact honest.reports fun _ => reports rfl
  | error failure => exact honest.reports fun isDone => nomatch isDone

theorem handler_reports (ttl : Nat) (chances : Nat → Chance × Reply) (shared : Shared) :
    let handled := perform ttl chances shared (Invalidation.onRemoved event).attempt
    handled.1 = .ok (.ok ()) → Evicted code handled.2.history := by
  have reported : Reports code event.marker shared (Evicted code ·.history) (· = .ok ())
      (perform ttl chances shared (Invalidation.onRemoved event).attempt).1
      (perform ttl chances shared (Invalidation.onRemoved event).attempt).2 := by
    apply perform_meets
    rw [Invalidation.onRemoved_eq isRemoved]
    exact drop_assures isRemoved (honest_start code event.marker shared)
  exact fun isDone => reported.2 _ isDone rfl

theorem delivery_reports (ttl : Nat) (settings : DispatchSettings) {message : Message}
    (decoded : message.decode = .ok event) (chances : Nat → Chance × Reply) (shared : Shared) :
    let delivery := perform ttl chances shared (Dispatcher.deliver ⟨settings, .standard⟩ message)
    (∀ earlier exchange, earlier ++ [exchange] <+: delivery.2.history →
        exchange.request = .beside (.markConsumed event.marker) → Evicted code earlier) ∧
      (delivery.1 = .ok .delivered → event.marker ∈ shared.store.markers ∨
        Evicted code delivery.2.history) := by
  have reported : Reports code event.marker shared (Handled code event.marker shared)
      (· = .delivered)
      (perform ttl chances shared (Dispatcher.deliver ⟨settings, .standard⟩ message)).1
      (perform ttl chances shared (Dispatcher.deliver ⟨settings, .standard⟩ message)).2 := by
    apply perform_meets
    exact deliver_message_assures isRemoved settings decoded
      (honest_start code event.marker shared)
  exact ⟨reported.1.heeded, fun isDone => reported.2 _ isDone rfl⟩

end Eviction

open Eviction in
/-- Whatever a Redis server replies: if the handler of removals reports that it is done, then the
server has been asked to remove the resolved entry, and has acknowledged that all pages that it
listed after that are removed. The removal is marked only after that, and its message counts as
delivered only if it is marked from before or that has been done. The reply to the removal of the
resolved entry does not matter: a failure of it is taken for an entry that is not there. -/
theorem removal_is_handled_only_by_eviction (ttl : Nat) (settings : DispatchSettings)
    (id : Uuid) (occurred : Time.Moment) (linkId : Uuid) (code : String) (shared : Shared)
    (chances : Nat → Chance × Cache.Redis.Reply) :
    let event : Event := ⟨id, occurred, .removed ⟨linkId, code⟩⟩
    let marker : Marker := ⟨id, Invalidation.removedConsumer⟩
    let handled := perform ttl chances shared (Invalidation.onRemoved event).attempt
    let delivery := perform ttl chances shared
      (Dispatcher.deliver ⟨settings, .standard⟩ (.ofEvent event))
    (handled.1 = .ok (.ok ()) → Evicted code handled.2.history) ∧
      (∀ earlier exchange, earlier ++ [exchange] <+: delivery.2.history →
        exchange.request = .beside (.markConsumed marker) → Evicted code earlier) ∧
      (delivery.1 = .ok .delivered →
        marker ∈ shared.store.markers ∨ Evicted code delivery.2.history) := by
  have isRemoved : (Event.mk id occurred (.removed ⟨linkId, code⟩)).payload =
    .removed ⟨linkId, code⟩ := rfl
  exact ⟨handler_reports isRemoved ttl chances shared,
    delivery_reports isRemoved ttl settings (Message.decode_ofEvent _) chances shared⟩

open Eviction Cache.Redis Time in
/-- A removal whose handler reports that it is done, and which is marked, although the server has
not acknowledged that the resolved entry is removed. -/
theorem marks_removal_despite_failed_entry :
    let now : Moment := ⟨⟨2026, 1, 2, by decide, by decide, by decide⟩, 3, 4, 5, 6,
      by decide, by decide, by decide, by decide⟩
    let event : Event := ⟨⟨1⟩, now, .removed ⟨⟨2⟩, "abc"⟩⟩
    let chances (replies : List Reply) (n : Nat) : Chance × Reply :=
      (⟨0, now, ⟨0⟩, false, ⟨0, .ok ()⟩⟩, replies.getD n .nothing)
    let handled := perform 60 (chances [.error "OOM", .list []]) ⟨{}, none, 0⟩
      (Invalidation.onRemoved event).attempt
    let published := perform 60 (chances [.nothing, .error "OOM", .list []]) ⟨{}, none, 0⟩
      (Bus.standard.publish event).attempt
    handled.1 = .ok (.ok ()) ∧ published.1 = .ok (.ok ()) ∧
      published.2.state.store.markers = [⟨⟨1⟩, Invalidation.removedConsumer⟩] ∧
      ¬∃ reply, (.transaction (removeCommands [Cache.codeKey "abc"]), reply) ∈
          served handled.2.history ++ served published.2.history ∧
        reply.allAcknowledged = .ok () := by
  intro now event chances
  refine ⟨rfl, rfl, rfl, ?_⟩
  rintro ⟨reply, member, acknowledged⟩
  -- The server is asked for the same eviction twice.
  have asked : _ ∈ exchanges "abc" (.error "OOM") (.list []) [] .nothing ++
    exchanges "abc" (.error "OOM") (.list []) [] .nothing := member
  have failed : reply = .error "OOM" := by simpa [exchanges] using asked
  rw [failed] at acknowledged
  contradiction

end Shortlink
