import Shortlink.Proofs.Calls.Call
import Shortlink.Proofs.Script.Requests
import Shortlink.Proofs.Store.Tables

/-!
# The lease and the marks

A consumer is asked whether it has handled an event before its handler runs, and is marked
only afterwards, so two deliveries of one event at the same time could both run it. The lease
keeps this from happening: while a run holds it, no other run asks consumers or writes marks.
Between its requests a holder has all its successes marked, except one at most, which is the
next that it marks.
-/

namespace Shortlink

namespace Consumption

variable {ι : Type} [DecidableEq ι]

/-! ## What the history tells -/

/-- Whether an exchange gets the lease (`true`) or gives it back (`false`). -/
def leaseChange : Exchange ι Effect.interface Shared → Option Bool
  | ⟨_, .tryLease, .ok (.ok (some _)), _, _⟩ => some true
  | ⟨_, .releaseLease _, _, _, _⟩ => some false
  | ⟨_, .dropLease _, _, _, _⟩ => some false
  | _ => none

/-- A call is between getting the lease and giving it back. -/
def holds (call : ι) (course : SharedCourse ι) : Bool :=
  ((course.own call).filterMap leaseChange).getLastD false

/-- The event and the consumer of a handler that has ended well with an exchange. -/
def success? : Exchange ι Effect.interface Shared → Option Marker
  | ⟨_, .consult consumer event, .ok ⟨_, .ok ()⟩, _, _⟩ => some ⟨event.id, consumer⟩
  | _ => none

/-- The events and consumers of all handlers that have ended well, as often as they have. -/
def successes (course : SharedCourse ι) : List Marker := course.history.filterMap success?

theorem holds_extend_self (course : SharedCourse ι)
    (exchange : Exchange ι Effect.interface Shared) :
    holds exchange.call (course.extend exchange) =
      (leaseChange exchange).getD (holds exchange.call course) := by
  rw [holds, Course.own_extend_self, List.filterMap_append]
  cases change : leaseChange exchange with
  | none => simp [change, holds]
  | some isHeld => simp [change]

theorem holds_extend_of_ne (course : SharedCourse ι)
    {exchange : Exchange ι Effect.interface Shared} {call : ι} (other : exchange.call ≠ call) :
    holds call (course.extend exchange) = holds call course := by
  rw [holds, Course.own_extend_of_ne course other, holds]

theorem holds_extend_of_none (course : SharedCourse ι)
    {exchange : Exchange ι Effect.interface Shared} (same : leaseChange exchange = none)
    (call : ι) : holds call (course.extend exchange) = holds call course := by
  by_cases isOwn : exchange.call = call
  · subst isOwn
    rw [holds_extend_self, same]
    rfl
  · exact holds_extend_of_ne course isOwn

omit [DecidableEq ι] in
theorem successes_extend (course : SharedCourse ι)
    (exchange : Exchange ι Effect.interface Shared) :
    successes (course.extend exchange) = successes course ++ (success? exchange).toList :=
  course.filterMap_extend success? exchange

/-! ## The invariant -/

/-- The lease is held by one call at most, no handler has ended well twice for the same event
and consumer, and the marks are those of handlers that have ended well: all of these while
nobody holds the lease. -/
structure Serialised (course : SharedCourse ι) : Prop where
  leased : course.state.store.isLeased = true ↔ ∃ call, holds call course = true
  alone : ∀ call other, holds call course = true → holds other course = true → call = other
  once : (successes course).Nodup
  marked : ∀ marker ∈ course.state.store.markers, marker ∈ successes course
  settled : course.state.store.isLeased = false →
    ∀ marker ∈ successes course, marker ∈ course.state.store.markers

/-- Who does not hold the lease leaves successes and marks alone. -/
def contract (call : ι) : Script.Contract (SharedCourse ι) where
  rely course other := Serialised course →
    Serialised other ∧ holds call other = holds call course ∧
      (holds call course = true → successes other = successes course ∧
        other.state.store.markers = course.state.store.markers)
  guarantee course other := Serialised course →
    Serialised other ∧
      (holds call course = false → successes other = successes course ∧
        other.state.store.markers = course.state.store.markers)
  rely_refl _ := fun serialised => ⟨serialised, rfl, fun _ => ⟨rfl, rfl⟩⟩
  rely_trans one two := by
    intro serialised
    obtain ⟨between, sameHolder, untouched⟩ := one serialised
    obtain ⟨last, stillHolder, stillUntouched⟩ := two between
    refine ⟨last, stillHolder.trans sameHolder, fun isHeld => ?_⟩
    obtain ⟨successes, markers⟩ := untouched isHeld
    obtain ⟨moreSuccesses, moreMarkers⟩ := stillUntouched (sameHolder.trans isHeld)
    exact ⟨moreSuccesses.trans successes, moreMarkers.trans markers⟩

variable {call : ι} {course : SharedCourse ι} {α β : Type}

/-- A call holds the lease, and its successes are marked except those listed. -/
structure Holding (call : ι) (unmarked : List Marker) (course : SharedCourse ι) : Prop where
  serialised : Serialised course
  isHeld : holds call course = true
  settled : ∀ marker ∈ successes course,
    marker ∈ course.state.store.markers ∨ marker ∈ unmarked
  earned : ∀ marker ∈ unmarked, marker ∈ successes course

theorem keeps_serialised : (contract call).Keeps Serialised :=
  fun serialised change => (change serialised).1

theorem keeps_holding (unmarked : List Marker) :
    (contract call).Keeps (Holding call unmarked) := by
  intro course other holding change
  obtain ⟨serialised, sameHolder, untouched⟩ := change holding.serialised
  obtain ⟨successes, markers⟩ := untouched holding.isHeld
  refine ⟨serialised, sameHolder.trans holding.isHeld, ?_, ?_⟩
  · rw [successes, markers]
    exact holding.settled
  · rw [successes]
    exact holding.earned

/-! ## Requests that have nothing to do with it -/

/-- An exchange that changes neither the lease nor the marks and ends no handler well. -/
structure Inert (exchange : Exchange ι Effect.interface Shared) : Prop where
  lease : leaseChange exchange = none
  success : success? exchange = none
  isLeased : exchange.after.store.isLeased = exchange.before.store.isLeased
  markers : exchange.after.store.markers = exchange.before.store.markers

omit [DecidableEq ι] in
theorem Inert.successes {exchange : Exchange ι Effect.interface Shared}
    (inert : Inert exchange) (course : SharedCourse ι) :
    successes (course.extend exchange) = Consumption.successes course := by
  rw [successes_extend, inert.success, Option.toList_none, List.append_nil]

theorem Serialised.inert (serialised : Serialised course)
    {exchange : Exchange ι Effect.interface Shared} (inert : Inert exchange)
    (connected : exchange.before = course.state) : Serialised (course.extend exchange) := by
  have sameHolders := holds_extend_of_none course inert.lease
  have sameSuccesses := inert.successes course
  have isLeased : (course.extend exchange).state.store.isLeased =
      course.state.store.isLeased := by rw [← connected]; exact inert.isLeased
  have markers : (course.extend exchange).state.store.markers =
      course.state.store.markers := by rw [← connected]; exact inert.markers
  constructor
  · simpa only [isLeased, sameHolders] using serialised.leased
  · simpa only [sameHolders] using serialised.alone
  · simpa only [sameSuccesses] using serialised.once
  · simpa only [markers, sameSuccesses] using serialised.marked
  · simpa only [isLeased, markers, sameSuccesses] using serialised.settled

/-- A request that has nothing to do with the lease, with marks or with handlers. -/
def IsInert : Effect → Prop
  | .tryLease | .releaseLease _ | .dropLease _ | .markConsumed _ | .consult _ _ => False
  | _ => True

omit [DecidableEq ι] in
theorem inert_exchange {request : Effect} (inert : IsInert request) (call : ι)
    (chance : Chance) (course : SharedCourse ι) :
    Inert (course.exchange call request chance) := by
  cases request with
  | tryLease | releaseLease | dropLease | markConsumed | consult => exact inert.elim
  | addLink link =>
      refine ⟨rfl, rfl, ?_, ?_⟩
      · exact (Store.add_frame course.state.store link chance.now).1
      · exact (Store.add_frame course.state.store link chance.now).2
  | updateLink link change =>
      refine ⟨rfl, rfl, ?_, ?_⟩
      · exact (Store.update_frame course.state.store link change chance.now).1
      · exact (Store.update_frame course.state.store link change chance.now).2
  | requeue id =>
      refine ⟨rfl, rfl, ?_, ?_⟩
      · exact (Store.requeue_frame course.state.store id).1
      · exact (Store.requeue_frame course.state.store id).2
  | cacheGet | cacheSet | cacheRemove | cacheRemoveAll =>
      refine ⟨rfl, rfl, ?_, ?_⟩
      · exact congrArg Store.isLeased (Shared.onCache_store _ _ _)
      · exact congrArg Store.markers (Shared.onCache_store _ _ _)
  | _ => exact ⟨rfl, rfl, rfl, rfl⟩

/-- A program with none of the requests in question keeps the invariant. -/
theorem assures_of_asks {program : Program α} (asks : Script.Asks IsInert program)
    (serialised : Serialised course) :
    program.Assures (Shared.surroundings.recorded call) (contract call)
      (fun _ => Serialised) course := by
  refine asks.assures keeps_serialised ?_ serialised
  intro request inert chance course serialised
  have exchanged := inert_exchange inert call chance course
  have extended := serialised.inert exchanged rfl
  refine ⟨fun _ => ⟨extended, fun _ => ⟨?_, exchanged.markers⟩⟩, extended⟩
  exact exchanged.successes course

/-! ## A run that holds the lease -/

/-- What the holder of the lease does is within its contract if it keeps the invariant. -/
theorem Holding.guarantee {unmarked : List Marker} (holding : Holding call unmarked course)
    {other : SharedCourse ι} (serialised : Serialised other) :
    (contract call).guarantee course other := by
  refine fun _ => ⟨serialised, fun isFree => ?_⟩
  rw [holding.isHeld] at isFree
  contradiction

theorem Holding.inert {unmarked : List Marker} (holding : Holding call unmarked course)
    {exchange : Exchange ι Effect.interface Shared} (inert : Inert exchange)
    (connected : exchange.before = course.state) :
    Holding call unmarked (course.extend exchange) := by
  have markers : (course.extend exchange).state.store.markers =
      course.state.store.markers := by rw [← connected]; exact inert.markers
  constructor
  · exact holding.serialised.inert inert connected
  · rw [holds_extend_of_none course inert.lease]
    exact holding.isHeld
  · rw [inert.successes, markers]
    exact holding.settled
  · rw [inert.successes]
    exact holding.earned

/-- With a handler that ends well, the holder has one success more, which is not marked. -/
theorem Holding.success (holding : Holding call [] course)
    {exchange : Exchange ι Effect.interface Shared} {marker : Marker}
    (isNew : marker ∉ course.state.store.markers) (lease : leaseChange exchange = none)
    (ended : success? exchange = some marker)
    (untouched : exchange.after.store = course.state.store) :
    Holding call [marker] (course.extend exchange) := by
  have sameHolders := holds_extend_of_none course lease
  have grown : successes (course.extend exchange) = successes course ++ [marker] := by
    rw [successes_extend, ended, Option.toList_some]
  have store : (course.extend exchange).state.store = course.state.store := untouched
  have settled : ∀ other ∈ successes course, other ∈ course.state.store.markers := by
    simpa using holding.settled
  have isLeased : course.state.store.isLeased = true :=
    holding.serialised.leased.mpr ⟨call, holding.isHeld⟩
  refine ⟨⟨?_, ?_, ?_, ?_, ?_⟩, ?_, ?_, ?_⟩
  · simpa only [store, sameHolders] using holding.serialised.leased
  · simpa only [sameHolders] using holding.serialised.alone
  · rw [grown]
    refine holding.serialised.once.append (List.nodup_singleton marker) ?_
    rw [List.disjoint_singleton]
    exact fun earlier => isNew (settled marker earlier)
  · rw [grown, store]
    intro other isMarked
    exact List.mem_append_left _ (holding.serialised.marked other isMarked)
  · rw [store, isLeased]
    exact fun isFree => nomatch isFree
  · rw [sameHolders]
    exact holding.isHeld
  · rw [grown, store]
    intro other member
    rcases List.mem_append.mp member with earlier | now
    · exact .inl (settled other earlier)
    · exact .inr now
  · rw [grown]
    exact fun other member => List.mem_append_right _ member

/-- After the mark the holder has all its successes marked. -/
theorem Holding.mark {marker : Marker} (holding : Holding call [marker] course)
    {exchange : Exchange ι Effect.interface Shared} (lease : leaseChange exchange = none)
    (ended : success? exchange = none)
    (marked : exchange.after.store = course.state.store.markConsumed marker) :
    Holding call [] (course.extend exchange) := by
  have sameHolders := holds_extend_of_none course lease
  have same : successes (course.extend exchange) = successes course := by
    rw [successes_extend, ended, Option.toList_none, List.append_nil]
  have store : (course.extend exchange).state.store =
    course.state.store.markConsumed marker := marked
  have isLeased : course.state.store.isLeased = true :=
    holding.serialised.leased.mpr ⟨call, holding.isHeld⟩
  refine ⟨⟨?_, ?_, ?_, ?_, ?_⟩, ?_, ?_, ?_⟩
  · simpa only [store, sameHolders, Store.markConsumed_isLeased] using
      holding.serialised.leased
  · simpa only [sameHolders] using holding.serialised.alone
  · rw [same]
    exact holding.serialised.once
  · rw [same, store]
    intro other isMarked
    rcases (Store.mem_markConsumed _).mp isMarked with earlier | rfl
    · exact holding.serialised.marked other earlier
    · exact holding.earned other (by simp)
  · rw [store, Store.markConsumed_isLeased, isLeased]
    exact fun isFree => nomatch isFree
  · rw [sameHolders]
    exact holding.isHeld
  · rw [same, store]
    intro other member
    rw [Store.mem_markConsumed]
    simpa [or_assoc] using holding.settled other member
  · simp

/-! ## The lease -/

/-- Whoever gets the lease finds all successes marked. -/
theorem Serialised.lease (serialised : Serialised course)
    {exchange : Exchange ι Effect.interface Shared}
    (isFree : course.state.store.isLeased = false) (isOwn : exchange.call = call)
    (lease : leaseChange exchange = some true) (ended : success? exchange = none)
    (taken : exchange.after.store = { course.state.store with isLeased := true }) :
    Holding call [] (course.extend exchange) := by
  subst isOwn
  have nobody : ∀ call, holds call course = false := by
    intro call
    by_contra isHeld
    rw [Bool.not_eq_false] at isHeld
    have leased := serialised.leased.mpr ⟨call, isHeld⟩
    rw [isFree] at leased
    contradiction
  have isHeld : holds exchange.call (course.extend exchange) = true := by
    rw [holds_extend_self, lease]
    rfl
  have isOwn : ∀ call, holds call (course.extend exchange) = true → exchange.call = call := by
    intro call isHeld
    by_contra other
    rw [holds_extend_of_ne course other, nobody call] at isHeld
    contradiction
  have same : successes (course.extend exchange) = successes course := by
    rw [successes_extend, ended, Option.toList_none, List.append_nil]
  have store : (course.extend exchange).state.store =
    { course.state.store with isLeased := true } := taken
  refine ⟨⟨?_, ?_, ?_, ?_, ?_⟩, isHeld, ?_, by simp⟩
  · rw [store]
    exact ⟨fun _ => ⟨exchange.call, isHeld⟩, fun _ => rfl⟩
  · exact fun call other one two => (isOwn call one).symm.trans (isOwn other two)
  · rw [same]
    exact serialised.once
  · rw [same, store]
    exact serialised.marked
  · rw [store]
    exact fun isFree => nomatch isFree
  · rw [same, store]
    exact fun marker member => .inl (serialised.settled isFree marker member)

/-- Whoever gives the lease back leaves all successes marked. -/
theorem Holding.release (holding : Holding call [] course)
    {exchange : Exchange ι Effect.interface Shared} (isOwn : exchange.call = call)
    (lease : leaseChange exchange = some false) (ended : success? exchange = none)
    (released : exchange.after.store = course.state.store.release) :
    Serialised (course.extend exchange) := by
  subst isOwn
  have nobody : ∀ call, holds call (course.extend exchange) = false := by
    intro call
    by_cases isOwn : exchange.call = call
    · subst isOwn
      rw [holds_extend_self, lease]
      rfl
    · rw [holds_extend_of_ne course isOwn]
      by_contra isHeld
      rw [Bool.not_eq_false] at isHeld
      exact isOwn (holding.serialised.alone _ _ holding.isHeld isHeld)
  have same : successes (course.extend exchange) = successes course := by
    rw [successes_extend, ended, Option.toList_none, List.append_nil]
  have store : (course.extend exchange).state.store = course.state.store.release := released
  refine ⟨?_, ?_, ?_, ?_, ?_⟩
  · rw [store]
    simp [Store.release, nobody]
  · simp [nobody]
  · rw [same]
    exact holding.serialised.once
  · rw [same, store]
    exact holding.serialised.marked
  · rw [same, store]
    intro _ marker member
    change marker ∈ course.state.store.markers
    simpa using holding.settled marker member

end Consumption

end Shortlink
