import Shortlink.Proofs.Cache.Coherence
import Shortlink.Proofs.Calls.Sequence

/-!
# Answers are true

What the service answers through its cache is what the store would answer, as far as the
events that concern the answer are settled.
-/

namespace Shortlink

namespace Coherence

open Cache Outbox

variable {events : List Event} {shared after : Shared} {ttl : Option Nat}

/-! ## Single readings -/

/-- A cached URL is that of a row with the code. -/
theorem exists_row_of_held (coherent : Agrees events shared) {code longUrl : String}
    {entry : Entry} (held : (codeKey code, entry) ∈ shared.entries)
    (read : Codec.string.decode? entry.value = some longUrl) :
    ∃ row ∈ shared.store.links, row.code = code ∧ row.longUrl = longUrl := by
  obtain ⟨identity, stored, isCode, written⟩ := coherent.fresh.codes code entry held
  rw [Codec.faithful_string identity.longUrl entry.value written] at read
  obtain ⟨row, isRow, rfl⟩ := List.mem_map.mp stored
  exact ⟨row, isRow, isCode, Option.some.inj read⟩

theorem original_of_active (coherent : Agrees events shared) {row : Link}
    (isRow : row ∈ shared.store.links) (isActive : row.isActive = true) :
    original shared.store row.code = .ok row.longUrl := by
  cases found : shared.store.findByCode row.code with
  | none =>
      have missed := List.find?_eq_none.mp found row isRow
      simp [isActive] at missed
  | some link =>
      obtain ⟨isFound, sameCode, -⟩ := Store.findByCode_eq_some found
      rw [original, found, coherent.records.sound.eq_of_code isFound isRow sameCode]

theorem original_of_inactive (coherent : Agrees events shared) {row : Link}
    (isRow : row ∈ shared.store.links) (isInactive : row.isActive = false) :
    original shared.store row.code = .error (.codeNotFound row.code) := by
  cases found : shared.store.findByCode row.code with
  | none => rw [original, found]
  | some link =>
      obtain ⟨isFound, sameCode, isActive⟩ := Store.findByCode_eq_some found
      rw [← coherent.records.sound.eq_of_code isFound isRow sameCode, isActive] at isInactive
      contradiction

/-- How a resolution ends, and what it leaves. -/
abbrev Resolution (code : String) (ttl : Option Nat) (shared : Shared) :
    Except Abort (Except Failure String) → Shared → Prop :=
  Reading .string (codeKey code) ttl (.ok (original shared.store code)) shared

theorem exists_row_of_resolved (coherent : Agrees events shared) {code longUrl : String}
    {result : Except Abort (Except Failure String)}
    (reading : Resolution code ttl shared result after) (resolved : result = .ok (.ok longUrl)) :
    ∃ row ∈ shared.store.links, row.code = code ∧ row.longUrl = longUrl := by
  cases reading with
  | hit held read same =>
      cases resolved
      exact exists_row_of_held coherent held read
  | unloaded nothing same => exact absurd resolved (nothing longUrl)
  | kept isLoaded store entries =>
      cases resolved
      obtain ⟨link, found, rfl⟩ := exists_of_original (Except.ok.inj isLoaded)
      obtain ⟨isRow, isCode, -⟩ := Store.findByCode_eq_some found
      exact ⟨link, isRow, isCode, rfl⟩
  | unkept isLoaded cannotKeep store entries => contradiction

theorem resolved_of_active (coherent : Agrees events shared) {row : Link}
    (isRow : row ∈ shared.store.links) (isActive : row.isActive = true)
    {result : Except Abort (Except Failure String)}
    (reading : Resolution row.code ttl shared result after) (canKeep : after.CanKeep ttl) :
    result = .ok (.ok row.longUrl) := by
  have isOriginal := original_of_active coherent isRow isActive
  cases reading with
  | hit held read same =>
      obtain ⟨other, isOther, sameCode, rfl⟩ := exists_row_of_held coherent held read
      rw [coherent.records.sound.eq_of_code isOther isRow sameCode]
  | unloaded nothing same => exact absurd (congrArg Except.ok isOriginal) (nothing row.longUrl)
  | kept isLoaded store entries =>
      rw [← isLoaded, isOriginal]
  | unkept isLoaded cannotKeep store entries => exact absurd canKeep cannotKeep

theorem unresolved_of_settled (coherent : Agrees events shared) {row : Link}
    (isRow : row ∈ shared.store.links) (isInactive : row.isActive = false) {event : Event}
    (settled : Settled events shared.store.markers event)
    (isRemoved : event.payload = .removed ⟨row.id, row.code⟩)
    {result : Except Abort (Except Failure String)}
    (reading : Resolution row.code ttl shared result after) :
    result = .ok (.error (.codeNotFound row.code)) := by
  have isOriginal := original_of_inactive coherent isRow isInactive
  cases reading with
  | hit held read same =>
      exact absurd held (coherent.fresh.evicted event settled _ isRemoved _)
  | unloaded nothing same => rw [isOriginal]
  | kept isLoaded store entries =>
      rw [isOriginal] at isLoaded
      cases isLoaded
  | unkept isLoaded cannotKeep store entries =>
      rw [isOriginal] at isLoaded
      cases isLoaded

theorem listed_of_settled (coherent : Agrees events shared)
    (settled : ∀ event ∈ events, Settled events shared.store.markers event) {page size : Int}
    (fits : (page - 1) * size ≤ Number.maxSigned64)
    {result : Except Abort (Except Failure (List LinkView))}
    (reading : Reading LinkView.codec.list (pageKey page size) ttl
      (loadedPage shared.store page size) shared result after) (canKeep : after.CanKeep ttl) :
    result = .ok (.ok (shared.store.page page size)) := by
  have loaded : loadedPage shared.store page size = .ok (.ok (shared.store.page page size)) :=
    if_pos fits
  cases reading with
  | hit held read same =>
      have written := coherent.fresh.pages settled page size _ held
      rw [LinkView.faithful_list _ _ written] at read
      rw [Option.some.inj read]
  | unloaded nothing same => exact absurd loaded (nothing _)
  | kept isLoaded store entries => rw [← isLoaded, loaded]
  | unkept isLoaded cannotKeep store entries => exact absurd canKeep cannotKeep

/-! ## Sequences of operations -/

theorem settled_of_processed (coherent : Agrees events shared) {message : Message}
    (member : message ∈ shared.store.outbox) (isProcessed : message.isProcessed = true)
    {event : Event} (decoded : message.decode = .ok event) :
    Settled events shared.store.markers event := by
  obtain ⟨carried, -, carries⟩ := coherent.tracks.exists_event member
  have same : carried = event := by
    rw [carries.decode] at decoded
    exact Except.ok.inj decoded
  rw [← same]
  exact coherent.tracks.processed message member isProcessed carried carries

theorem all_settled_of_processed (coherent : Agrees events shared)
    (processed : ∀ message ∈ shared.store.outbox, message.isProcessed = true) :
    ∀ event ∈ events, Settled events shared.store.markers event := by
  intro event raised
  have image : Message.ofEvent event ∈ events.map Message.ofEvent := List.mem_map_of_mem raised
  rw [← coherent.tracks.carried] at image
  obtain ⟨message, member, carries⟩ := List.mem_map.mp image
  exact coherent.tracks.processed message member (processed message member) event carries

/-- Each operation keeps the shared state in agreement. -/
theorem perform_coheres (operation : Operation) (chances : Chances) (shared : Shared)
    (coheres : Coheres shared) : Coheres (operation.perform chances shared) := by
  cases operation with
  | create service request => exact (create_coheres service request coheres).perform chances
  | resolve service code => exact (resolve_coheres service code coheres).perform chances
  | list service page size => exact (list_coheres service page size coheres).perform chances
  | remove code => exact (remove_coheres code coheres).perform chances
  | dispatch settings => exact (dispatch_coheres settings coheres).perform chances
  | requeue id => exact (requeue_coheres id coheres).perform chances
  | wait duration => exact coheres

end Coherence

open Coherence

/-- Where nothing is stored and nothing is cached. -/
def Shared.begun (ttl ticks : Nat) : Shared := ⟨{}, some (.empty ttl), ticks⟩

/-- Over a store and a cache that begin empty, after any operations one after another: every
URL that a code resolves to is that of a row with the code; the code of an active row resolves
to its URL; the code of an inactive row does not resolve once a message of its removal is
processed; and once all messages are processed, a listing is what the store lists. -/
theorem answers_agree_with_the_store (ttl ticks : Nat) (operations : List (Operation × Chances))
    (service : LinkService) (chances : Chances) :
    let shared := Operation.performAll (.begun ttl ticks) operations
    let resolution (code : String) := shared.perform chances (service.resolve code).attempt
    let listing (page size : Int) := shared.perform chances (service.list page size).attempt
    (∀ code longUrl, (resolution code).1 = .ok (.ok longUrl) →
      ∃ row ∈ shared.store.links, row.code = code ∧ row.longUrl = longUrl) ∧
    (∀ row ∈ shared.store.links, row.isActive = true →
      (resolution row.code).2.CanKeep service.cacheTtl →
      (resolution row.code).1 = .ok (.ok row.longUrl)) ∧
    (∀ row ∈ shared.store.links, row.isActive = false →
      (∃ message ∈ shared.store.outbox, message.isProcessed = true ∧ ∃ event,
        message.decode = .ok event ∧ event.payload = .removed ⟨row.id, row.code⟩) →
      (resolution row.code).1 = .ok (.error (.codeNotFound row.code))) ∧
    ((∀ message ∈ shared.store.outbox, message.isProcessed = true) →
      ∀ page size, 1 ≤ page → 1 ≤ size → size ≤ LinkService.maxPageSize →
        (page - 1) * size ≤ Number.maxSigned64 →
        (listing page size).2.CanKeep service.cacheTtl →
        (listing page size).1 = .ok (.ok (shared.store.page page size))) := by
  intro shared resolution listing
  have begins : Coheres (.begun ttl ticks) := ⟨[], Cache.coherent_empty⟩
  have coheres : Coheres shared := Operation.performAll_keeps perform_coheres begins operations
  obtain ⟨events, coherent⟩ := coheres
  have resolves (code : String) := (resolve_reads service code shared).perform chances
  refine ⟨?_, ?_, ?_, ?_⟩
  · intro code longUrl resolved
    exact exists_row_of_resolved coherent (resolves code) resolved
  · intro row isRow isActive canKeep
    exact resolved_of_active coherent isRow isActive (resolves row.code) canKeep
  · rintro row isRow isInactive ⟨message, member, isProcessed, event, decoded, isRemoved⟩
    have settled := settled_of_processed coherent member isProcessed decoded
    exact unresolved_of_settled coherent isRow isInactive settled isRemoved (resolves row.code)
  · intro processed page size first some few fits canKeep
    have settled := all_settled_of_processed coherent processed
    have reading := (list_reads service first some few shared).perform chances
    exact listed_of_settled coherent settled fits reading canKeep

end Shortlink
