import Mathlib.SetTheory.Cardinal.Finite
import Shortlink.Proofs.Calls.Call
import Shortlink.Proofs.Link.Service
import Shortlink.Proofs.Store.Records

/-!
# Concurrent removal

A removal looks for an active URL and later saves that it is removed. The save does not look
again, so of removals of one URL all those succeed that have looked before the first save, and
each of them announces that the URL is removed. All that look later do not find it any more.
-/

namespace Shortlink

/-- The request is to save a URL. -/
def Effect.isSave : Effect → Bool
  | .addLink _ | .updateLink _ _ => true
  | _ => false

namespace Removal

open Time (Moment)

variable {ι : Type}

/-- The calls that have saved, once for each save. -/
def savers (course : SharedCourse ι) : List ι :=
  (course.history.filter fun exchange => exchange.request.isSave).map Exchange.call

/-- The call has looked for the code before any call has saved. -/
def LooksFirst (code : String) (call : ι) (course : SharedCourse ι) : Prop :=
  ∃ earlier exchange, earlier ++ [exchange] <+: course.history ∧
    exchange.call = call ∧ exchange.request = .findByCode code ∧
    ∀ other ∈ earlier, other.request.isSave = false

variable {course after : SharedCourse ι} {exchange : Exchange ι Effect.interface Shared} {call : ι}
  {code : String}

theorem savers_extend (isSave : exchange.request.isSave = true) :
    savers (course.extend exchange) = savers course ++ [exchange.call] := by
  simp [savers, isSave]

theorem savers_extend_of_not (isNone : exchange.request.isSave = false) :
    savers (course.extend exchange) = savers course := by
  simp [savers, isNone]

theorem savers_eq_nil_iff :
    savers course = [] ↔ ∀ exchange ∈ course.history, exchange.request.isSave = false := by
  simp [savers]

theorem count_savers [DecidableEq ι] (course : SharedCourse ι) (call : ι) :
    (savers course).count call =
      (course.own call).countP fun exchange => exchange.request.isSave := by
  rw [savers, Course.own, List.count, List.countP_map, List.countP_filter, List.countP_filter]
  apply List.countP_congr
  simp [and_comm]

theorem not_looksFirst_of_own [DecidableEq ι] (nothing : course.own call = []) :
    ¬LooksFirst code call course := by
  rintro ⟨earlier, exchange, stands, isOwn, -, -⟩
  have member : exchange ∈ course.history := stands.subset (by simp)
  have isListed : exchange ∈ course.own call := by simp [Course.own, member, isOwn]
  simp [nothing] at isListed

theorem LooksFirst.mono (looks : LooksFirst code call course)
    (grown : course.history <+: after.history) : LooksFirst code call after := by
  obtain ⟨earlier, exchange, stands, rest⟩ := looks
  exact ⟨earlier, exchange, stands.trans grown, rest⟩

theorem looksFirst_extend (unsaved : savers course = [])
    (isLook : exchange.request = .findByCode code) :
    LooksFirst code exchange.call (course.extend exchange) :=
  ⟨course.history, exchange, List.prefix_rfl, rfl, isLook, savers_eq_nil_iff.mp unsaved⟩

/-- After a save it is too late to look first. -/
theorem looksFirst_of_saved (saved : savers course ≠ [])
    (grown : course.history <+: after.history) (looks : LooksFirst code call after) :
    LooksFirst code call course := by
  obtain ⟨earlier, exchange, stands, isOwn, isLook, unsaved⟩ := looks
  refine ⟨earlier, exchange, ?_, isOwn, isLook, unsaved⟩
  rcases List.prefix_or_prefix_of_prefix stands grown with before | whole
  · exact before
  · exfalso
    apply saved
    rw [savers_eq_nil_iff]
    intro other member
    rcases List.mem_append.mp (whole.subset member) with isEarlier | isLast
    · exact unsaved other isEarlier
    · rw [List.mem_singleton.mp isLast, isLook]
      rfl

/-! ## The table -/

/-- The URL is active in a store where no two rows share an id or a code, nothing of it is pending
there, and no save is made to fail. -/
structure Removable (link : Link) (store : Store) : Prop where
  unfailing : store.failingSaves = 0
  ids : (store.links.map Link.id).Nodup
  codes : (store.links.map Link.code).Nodup
  stored : link ∈ store.links
  active : link.isActive = true
  unpending : link.pending = []

/-- What removals of a URL have made of a store: no identity has changed, the URL is found as long
as nobody has saved, and each save has announced that it is removed. -/
structure Removing (link : Link) (before : Store) (course : SharedCourse ι) : Prop where
  identities : course.state.store.identities = before.identities
  unfailing : course.state.store.failingSaves = 0
  untouched : savers course = [] → course.state.store.links = before.links
  gone : savers course ≠ [] →
    ∀ row ∈ course.state.store.links, row.code = link.code → row.isActive = false
  announced : ∃ events : List Event, events.length = (savers course).length ∧
    course.state.store.outbox = before.outbox ++ events.map Message.ofEvent ∧
    ∀ event ∈ events, event.payload = .removed ⟨link.id, link.code⟩

variable {link : Link} {before : Store}

theorem Removable.found (removable : Removable link before) :
    before.findByCode link.code = some link := by
  cases found : before.findByCode link.code with
  | none =>
      have absent := List.find?_eq_none.mp found link removable.stored
      simp [removable.active] at absent
  | some row =>
      have isRow := Store.findByCode_eq_some found
      rw [List.inj_on_of_nodup_map removable.codes isRow.1 removable.stored isRow.2.1]

theorem removing_start (removable : Removable link before) (cache : Option Cache.Memory)
    (ticks : Nat) : Removing link before (⟨[], ⟨before, cache, ticks⟩⟩ : SharedCourse ι) := by
  refine ⟨rfl, removable.unfailing, fun _ => rfl, fun saved => absurd rfl saved, [], rfl, ?_, ?_⟩
  · simp
  · simp

theorem Removing.find_of_unsaved (removing : Removing link before course)
    (removable : Removable link before) (unsaved : savers course = []) :
    course.state.store.findByCode link.code = some link := by
  rw [← removable.found, Store.findByCode, removing.untouched unsaved, Store.findByCode]

theorem Removing.find_of_saved (removing : Removing link before course)
    (saved : savers course ≠ []) : course.state.store.findByCode link.code = none := by
  apply List.find?_eq_none.mpr
  intro row isRow
  by_cases isSame : row.code = link.code
  · simp [removing.gone saved row isRow isSame]
  · simp [isSame]

/-- A request that saves nothing and leaves the store alone. -/
theorem Removing.extend (removing : Removing link before course)
    (isNone : exchange.request.isSave = false)
    (same : exchange.after.store = course.state.store) :
    Removing link before (course.extend exchange) := by
  rcases removing with ⟨identities, unfailing, untouched, gone, announced⟩
  have unsaved : savers (course.extend exchange) = savers course := savers_extend_of_not isNone
  rw [← same] at identities unfailing untouched gone announced
  rw [← unsaved] at untouched gone announced
  exact ⟨identities, unfailing, untouched, gone, announced⟩

/-- The save of a removal succeeds, whoever has saved before it. -/
theorem Removable.update (removable : Removable link before) {store after : Store}
    (identities : store.identities = before.identities) (unfailing : store.failingSaves = 0)
    (eventId : Uuid) (occurred now : Moment) {outcome : SaveOutcome}
    (saved : store.update (link.remove eventId occurred) .deleted now = (outcome, after)) :
    outcome.result = .ok () ∧ after.identities = before.identities ∧ after.failingSaves = 0 ∧
      (∀ row ∈ after.links, row.code = link.code → row.isActive = false) ∧
      after.outbox = store.outbox ++ [link.removal eventId occurred].map Message.ofEvent := by
  have ids : (store.links.map Link.id).Nodup := by
    rw [← Store.map_linkId_identities, identities, Store.map_linkId_identities]
    exact removable.ids
  have stored : (link.remove eventId occurred).identity ∈ store.identities := by
    have isStored : link.identity ∈ before.identities := List.mem_map_of_mem removable.stored
    rw [identities]
    exact isStored
  have same : after.identities = before.identities := by
    rw [← identities, ← Store.identities_update_of_ids ids stored .deleted now, saved]
  obtain ⟨old, isOld, sameIdentity⟩ := List.mem_map.mp stored
  have isStored : ∃ old ∈ store.links, old.id = link.id :=
    ⟨old, isOld, congrArg LinkCreated.linkId sameIdentity⟩
  rcases store.update_cases (link.remove eventId occurred) .deleted now with
    ⟨impossible, -⟩ | ⟨-, -, written⟩
  · exact absurd ⟨unfailing, isStored⟩ impossible
  · rw [saved] at written
    cases written
    refine ⟨rfl, same, unfailing, ?_, ?_⟩
    · -- The codes still differ, so the row that was written is the only one with the code.
      intro row isRow sameCode
      have codes := removable.codes
      rw [← Store.map_code_identities, ← same, Store.map_code_identities] at codes
      let removed := Store.writtenRow (link.remove eventId occurred) .deleted now
      have isRemoved : removed ∈
          Store.replaceFirst (·.id == removed.id) (fun _ => removed) store.links :=
        Store.row_mem_replaceFirst isStored
      rw [List.inj_on_of_nodup_map codes isRow isRemoved sameCode]
      rfl
    · rw [Link.captureEvents, Link.remove, removable.unpending]
      rfl

/-- One more save. -/
theorem Removing.save (removing : Removing link before course)
    (removable : Removable link before) (eventId : Uuid) (occurred : Moment) {now : Moment}
    {outcome : SaveOutcome}
    (saved : course.state.store.update (link.remove eventId occurred) .deleted now =
      (outcome, exchange.after.store))
    (isSave : exchange.request.isSave = true) :
    outcome.result = .ok () ∧ Removing link before (course.extend exchange) := by
  obtain ⟨events, counted, outbox, announce⟩ := removing.announced
  obtain ⟨succeeded, identities, unfailing, gone, message⟩ :=
    removable.update removing.identities removing.unfailing eventId occurred now saved
  have savers : savers (course.extend exchange) = savers course ++ [exchange.call] :=
    savers_extend isSave
  refine ⟨succeeded, identities, unfailing, ?_, fun _ => gone,
    events ++ [link.removal eventId occurred], ?_, ?_, ?_⟩
  · intro unsaved
    simp [savers] at unsaved
  · simp [savers, counted]
  · rw [Course.extend_state, message, outbox, List.append_assoc, List.map_append]
  · rw [List.forall_mem_append]
    exact ⟨announce, by simp [Link.removal]⟩

/-- Removals keep what they have made of the store, and nobody takes an exchange back. -/
abbrev Continues (link : Link) (before : Store) : SharedCourse ι → SharedCourse ι → Prop :=
  Advances (Removing link before) Course.history

theorem Removing.continues (removing : Removing link before (course.extend exchange)) :
    Continues link before course (course.extend exchange) :=
  fun _ => ⟨removing, List.prefix_append _ _⟩

/-! ## A removal -/

variable [DecidableEq ι] {saves : Nat} {α : Type}

/-- The contract of one of several removals. -/
abbrev contract (link : Link) (before : Store) (call : ι) : Script.Contract (SharedCourse ι) :=
  .keeping (Advances.refl (Removing link before) Course.history) Advances.trans call

/-- A removal that has not begun. -/
structure Waiting (link : Link) (before : Store) (call : ι) (course : SharedCourse ι) : Prop where
  removing : Removing link before course
  nothing : course.own call = []

/-- A removal that has looked before any save, and how often it has saved. -/
structure Ahead (link : Link) (before : Store) (saves : Nat) (call : ι) (course : SharedCourse ι) :
    Prop where
  removing : Removing link before course
  looks : LooksFirst link.code call course
  saves : (savers course).count call = saves

/-- A removal that has looked too late, and has saved nothing. -/
structure Behind (link : Link) (before : Store) (call : ι) (course : SharedCourse ι) : Prop where
  removing : Removing link before course
  late : ¬LooksFirst link.code call course
  saved : savers course ≠ []
  saves : (savers course).count call = 0

/-- A removal ends with success if it has looked before any save, and else with the failure that
there is no such URL. -/
def Ends (link : Link) (before : Store) (call : ι) (result : Except Abort Ending)
    (course : SharedCourse ι) : Prop :=
  (result = .ok (.removed (.ok ())) ∧ Ahead link before 1 call course) ∨
    (result = .ok (.removed (.error (.codeNotFound link.code))) ∧ Behind link before call course)

theorem Ahead.mem_savers (ahead : Ahead link before 1 call course) : call ∈ savers course := by
  apply List.count_pos_iff.mp
  rw [ahead.saves]
  exact Nat.one_pos

theorem Behind.not_mem_savers (behind : Behind link before call course) :
    call ∉ savers course :=
  List.count_eq_zero.mp behind.saves

theorem count_savers_of_own (same : after.own call = course.own call) :
    (savers after).count call = (savers course).count call := by
  rw [count_savers, count_savers, same]

theorem keeps_waiting : (contract link before call).Keeps (Waiting link before call) := by
  intro course after waiting change
  exact ⟨(change.1 waiting.removing).1, change.2.trans waiting.nothing⟩

theorem keeps_ahead : (contract link before call).Keeps (Ahead link before saves call) := by
  intro course after ahead change
  have continued := change.1 ahead.removing
  exact ⟨continued.1, ahead.looks.mono continued.2,
    (count_savers_of_own change.2).trans ahead.saves⟩

theorem keeps_behind : (contract link before call).Keeps (Behind link before call) := by
  intro course after behind change
  have continued := change.1 behind.removing
  refine ⟨continued.1, ?_, ?_, (count_savers_of_own change.2).trans behind.saves⟩
  · exact fun looks => behind.late (looksFirst_of_saved behind.saved continued.2 looks)
  · intro unsaved
    apply behind.saved
    rw [savers_eq_nil_iff] at unsaved ⊢
    exact fun exchange member => unsaved exchange (continued.2.subset member)

theorem keeps_ends (result : Except Abort Ending) :
    (contract link before call).Keeps (Ends link before call result) := by
  intro course after ends change
  rcases ends with ⟨succeeds, ahead⟩ | ⟨fails, behind⟩
  · exact .inl ⟨succeeds, keeps_ahead ahead change⟩
  · exact .inr ⟨fails, keeps_behind behind change⟩

theorem Ahead.quiet {post : Except Abort α → SharedCourse ι → Prop} {request : Effect}
    {next : request.Reply → Program α} (isQuiet : request.IsQuiet)
    (isNone : request.isSave = false) (ahead : Ahead link before saves call course)
    (continues : ∀ reply course, Ahead link before saves call course →
      (next reply).Assures (Shared.surroundings.recorded call) (contract link before call) post
        course) :
    Script.Assures (I := Effect.interface) (Shared.surroundings.recorded call)
      (contract link before call) post (.ask request next) course := by
  refine .ask keeps_ahead ahead ?_
  intro course chance ahead
  obtain ⟨reply, answered⟩ := isQuiet chance course.state
  have same : (course.exchange call request chance).after.store = course.state.store := by
    rw [Course.exchange, answered]
    rfl
  have extended : Ahead link before saves call
      (course.extend (course.exchange call request chance)) := by
    refine ⟨ahead.removing.extend isNone same, ahead.looks.mono (List.prefix_append _ _), ?_⟩
    rw [savers_extend_of_not isNone]
    exact ahead.saves
  rw [answered]
  exact ⟨extended.removing.continues, continues reply _ extended⟩

/-- The save of a removal that has looked before any save. -/
theorem save_assures (removable : Removable link before) (eventId : Uuid) (occurred : Moment)
    (ahead : Ahead link before 0 call course) :
    Script.Assures (I := Effect.interface) (Shared.surroundings.recorded call)
      (contract link before call) (fun result => Ends link before call (result.map .removed))
      (.ask (Effect.updateLink (link.remove eventId occurred) .deleted) fun outcome =>
        .done outcome.result) course := by
  refine .ask keeps_ahead ahead ?_
  intro course chance ahead
  let request := Effect.updateLink (link.remove eventId occurred) .deleted
  let exchange := course.exchange call request chance
  have saved : course.state.store.update (link.remove eventId occurred) .deleted chance.now =
      ((course.state.store.update (link.remove eventId occurred) .deleted chance.now).1,
        exchange.after.store) := rfl
  have isSave : exchange.request.isSave = true := rfl
  obtain ⟨succeeded, removing⟩ := ahead.removing.save removable eventId occurred saved isSave
  have extended : Ahead link before 1 call (course.extend exchange) := by
    refine ⟨removing, ahead.looks.mono (List.prefix_append _ _), ?_⟩
    rw [savers_extend isSave, List.count_append, ahead.saves]
    simp [exchange, Course.exchange]
  refine ⟨removing.continues, .inl ⟨?_, extended⟩⟩
  exact congrArg (fun result => Except.ok (Ending.removed result)) succeeded

/-- A removal succeeds if it looks before any save, and else does not find the URL. -/
theorem remove_assures (removable : Removable link before)
    (waiting : Waiting link before call course) :
    (LinkService.remove link.code).attempt.Assures (Shared.surroundings.recorded call)
      (contract link before call) (fun result => Ends link before call (result.map .removed))
      course := by
  rw [LinkService.remove_eq]
  refine .ask keeps_waiting waiting ?_
  intro course chance waiting
  let exchange := course.exchange call (.findByCode link.code) chance
  have removing : Removing link before (course.extend exchange) := waiting.removing.extend rfl rfl
  have never : (savers course).count call = 0 := by
    rw [count_savers, waiting.nothing]
    rfl
  have saves : (savers (course.extend exchange)).count call = 0 := by
    rw [savers_extend_of_not rfl, never]
  have answered : (Shared.answer chance (.findByCode link.code) course.state).1 =
      .ok (.ok (course.state.store.findByCode link.code)) := rfl
  refine ⟨removing.continues, ?_⟩
  rw [answered]
  by_cases unsaved : savers course = []
  · rw [waiting.removing.find_of_unsaved removable unsaved]
    have ahead : Ahead link before 0 call (course.extend exchange) :=
      ⟨removing, looksFirst_extend unsaved rfl, saves⟩
    apply ahead.quiet Effect.newId_isQuiet rfl
    intro eventId course ahead
    apply ahead.quiet Effect.now_isQuiet rfl
    intro occurred course ahead
    exact save_assures removable eventId occurred ahead
  · rw [waiting.removing.find_of_saved unsaved]
    refine .inr ⟨rfl, removing, ?_, ?_, saves⟩
    · intro looks
      have looked := looksFirst_of_saved unsaved (List.prefix_append _ _) looks
      exact not_looksFirst_of_own waiting.nothing looked
    · rw [savers_extend_of_not rfl]
      exact unsaved

/-! ## All removals together -/

/-- Removals of one URL beside each other. -/
def agreement (ι : Type) [DecidableEq ι] (link : Link) (before : Store) :
    Concurrent.Agreement ι Shared.surroundings.undisturbed Ending :=
  .keeping (Advances.refl (Removing link before) Course.history) Advances.trans (Ends link before)
    (fun _ result => keeps_ends result) fun _ disturbance => nomatch disturbance

theorem agreement_holds (removable : Removable link before) (cache : Option Cache.Memory)
    (ticks : Nat) :
    (agreement ι link before).Holds
      (.start ⟨before, cache, ticks⟩ fun _ => (Call.remove link.code).program) := by
  intro call
  have waiting : Waiting link before call ⟨[], ⟨before, cache, ticks⟩⟩ :=
    ⟨removing_start removable cache ticks, rfl⟩
  apply Script.Assures.undisturbed
  apply (remove_assures removable waiting).andThen
  · exact fun _ _ ends => ends
  · exact fun _ _ ends => ends

/-- How a call has ended that is over. -/
theorem ends_of_over {calls : Concurrent ι Effect.interface Shared Ending}
    (holds : (agreement ι link before).Holds calls) {call : ι}
    (finished : (calls.rest call).IsOver) :
    (calls.rest call = .done (.removed (.ok ())) ∧ Ahead link before 1 call calls.course) ∨
      (calls.rest call = .done (.removed (.error (.codeNotFound link.code))) ∧
        Behind link before call calls.course) := by
  cases ended : calls.rest call with
  | ask request next =>
      rw [ended] at finished
      contradiction
  | abort cause =>
      rcases holds.post_of_abort ended with ⟨impossible, -⟩ | ⟨impossible, -⟩
      · contradiction
      · contradiction
  | done ending =>
      rcases holds.post_of_done ended with ⟨succeeds, ahead⟩ | ⟨fails, behind⟩
      · cases succeeds
        exact .inl ⟨rfl, ahead⟩
      · cases fails
        exact .inr ⟨rfl, behind⟩

/-- Where each removal is ahead and has saved once or is behind, none has saved twice. -/
theorem nodup_savers
    (sides : ∀ call, Ahead link before 1 call course ∨ Behind link before call course) :
    (savers course).Nodup := by
  rw [List.nodup_iff_count_le_one]
  intro call
  rcases sides call with ahead | behind
  · exact ahead.saves.le
  · exact behind.saves.le.trans (Nat.zero_le 1)

/-- The removals that have saved are those that have succeeded. -/
theorem savers_succeed {script : Program Ending}
    (ends : (script = .done (.removed (.ok ())) ∧ Ahead link before 1 call course) ∨
      (script = .done (.removed (.error (.codeNotFound link.code))) ∧
        Behind link before call course)) :
    call ∈ savers course ↔ script = .done (.removed (.ok ())) := by
  rcases ends with ⟨succeeds, ahead⟩ | ⟨fails, behind⟩
  · exact ⟨fun _ => succeeds, fun _ => ahead.mem_savers⟩
  · refine ⟨fun member => absurd member behind.not_mem_savers, fun succeeds => ?_⟩
    rw [fails] at succeeds
    cases succeeds

theorem length_savers
    (sides : ∀ call, Ahead link before 1 call course ∨ Behind link before call course)
    {condition : ι → Prop} (isSaver : ∀ call, call ∈ savers course ↔ condition call) :
    (savers course).length = Nat.card {call // condition call} := by
  rw [Nat.subtype_card (savers course).toFinset (by simpa using isSaver),
    List.toFinset_card_of_nodup (nodup_savers sides)]

/-- Where each removal is ahead or behind, one is ahead. -/
theorem exists_ahead [Nonempty ι]
    (sides : ∀ call, Ahead link before 1 call course ∨ Behind link before call course) :
    ∃ call, Ahead link before 1 call course := by
  rcases sides (Classical.arbitrary ι) with ahead | behind
  · exact ⟨_, ahead⟩
  · obtain ⟨call, member⟩ := List.exists_mem_of_ne_nil _ behind.saved
    rcases sides call with ahead | behind
    · exact ⟨call, ahead⟩
    · exact absurd member behind.not_mem_savers

end Removal

open Removal in
/-- Removals of one URL succeed if they look for it before any of them saves. Any number of them,
at least one, run interleaved in any order over one store, and no save is made to fail. Once all
have come to their end, those that have looked before any save have succeeded, and there is at
least one; all others have ended with the failure that there is no such URL; and for each that
has succeeded the outbox has got exactly one message more, that this URL is removed. -/
theorem removals_succeed_if_they_look_first {ι : Type} [DecidableEq ι] [Nonempty ι] {link : Link}
    {store : Store} (removable : Removable link store) (cache : Option Cache.Memory) (ticks : Nat)
    (schedule : List (Turn ι Shared.surroundings.undisturbed)) :
    let reached := (Concurrent.start ⟨store, cache, ticks⟩
      fun _ => (Call.remove link.code).program).play schedule
    (∀ call, (reached.rest call).IsOver) →
      (∀ call, LooksFirst link.code call reached.course →
        reached.rest call = .done (.removed (.ok ()))) ∧
      (∀ call, ¬LooksFirst link.code call reached.course →
        reached.rest call = .done (.removed (.error (.codeNotFound link.code)))) ∧
      (∃ call, LooksFirst link.code call reached.course) ∧
      ∃ events : List Event,
        reached.course.state.store.outbox = store.outbox ++ events.map Message.ofEvent ∧
          events.length = Nat.card {call // reached.rest call = .done (.removed (.ok ()))} ∧
          ∀ event ∈ events, event.payload = .removed ⟨link.id, link.code⟩ := by
  intro reached finished
  have holds : (agreement ι link store).Holds reached :=
    (agreement_holds removable cache ticks).play schedule
  have ends := fun call => ends_of_over holds (finished call)
  have sides := fun call => (ends call).imp And.right And.right
  obtain ⟨first, ahead⟩ := exists_ahead sides
  obtain ⟨events, length, outbox, announce⟩ := ahead.removing.announced
  refine ⟨?_, ?_, ⟨first, ahead.looks⟩, events, outbox, ?_, announce⟩
  · intro call looks
    rcases ends call with ⟨succeeds, -⟩ | ⟨-, behind⟩
    · exact succeeds
    · exact absurd looks behind.late
  · intro call late
    rcases ends call with ⟨-, ahead⟩ | ⟨fails, -⟩
    · exact absurd ahead.looks late
    · exact fails
  · exact length.trans (length_savers sides fun call => savers_succeed (ends call))

open Removal in
/-- Two removals of one URL that are over. -/
theorem removals_succeed_if_they_look_first_of_two :
    let now : Time.Moment := ⟨⟨2026, 1, 2, by decide, by decide, by decide⟩, 3, 4, 5, 6,
      by decide, by decide, by decide, by decide⟩
    let link : Link := ⟨⟨1⟩, "http://[::1]/", "abc", "http://[::1]/abc", .begun now, []⟩
    let store : Store := { links := [link] }
    let turn (call : Bool) : Turn Bool Shared.surroundings.undisturbed :=
      .move call (⟨0, now, ⟨2⟩, false, ⟨0, .ok ()⟩⟩ : Chance)
    let reached := (Concurrent.start ⟨store, none, 0⟩
      fun _ => (Call.remove link.code).program).play ([true, true, true, true, false].map turn)
    Removable link store ∧ (∀ call, (reached.rest call).IsOver) ∧
      ∃ call, LooksFirst link.code call reached.course := by
  intro now link store turn
  have removable : Removable link store := by
    refine ⟨rfl, ?_, ?_, ?_, rfl, rfl⟩
    · simp [store]
    · simp [store]
    · simp [store]
  have finished : ∀ call, (((Concurrent.start ⟨store, none, 0⟩
      fun _ => (Call.remove link.code).program).play
        ([true, true, true, true, false].map turn)).rest call).IsOver := by
    intro call
    cases call with
    | true => exact True.intro
    | false => exact True.intro
  exact ⟨removable, finished,
    (removals_succeed_if_they_look_first removable none 0 _ finished).2.2.1⟩

/-- Two removals of one URL that both succeed, and both announce that it is removed. -/
theorem removal_succeeds_twice :
    let now : Time.Moment := ⟨⟨2026, 1, 2, by decide, by decide, by decide⟩, 3, 4, 5, 6,
      by decide, by decide, by decide, by decide⟩
    let link : Link := ⟨⟨1⟩, "http://[::1]/", "abc", "http://[::1]/abc", .begun now, []⟩
    let turn (call : Bool) : Turn Bool Shared.surroundings.undisturbed :=
      .move call (⟨0, now, ⟨2⟩, false, ⟨0, .ok ()⟩⟩ : Chance)
    let schedule := [true, false, true, false, true, false, true, false].map turn
    let reached := (Concurrent.start ⟨{ links := [link] }, none, 0⟩
      fun _ => (Call.remove link.code).program).play schedule
    link.isActive = true ∧ (∀ call, reached.rest call = .done (.removed (.ok ()))) ∧
      reached.course.state.store.outbox.map Message.eventType =
        ["ShortenedUrlRemoved", "ShortenedUrlRemoved"] := by
  intro now link turn schedule
  refine ⟨rfl, ?_, by decide +kernel⟩
  intro call
  cases call with
  | true => rfl
  | false => rfl

end Shortlink
