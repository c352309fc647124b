import Shortlink.Proofs.Cache.Codec
import Shortlink.Proofs.Cache.Coherence
import Shortlink.Proofs.Cache.Eviction
import Shortlink.Proofs.Cache.Through
import Shortlink.Proofs.Script.Conversation

/-!
# The cache is transparent

Whatever the cache replies to a reading, the value that is read is either one that a cached text
stands for or what the load comes to, which runs then and only then. A load that has come to a
value is followed by one write of a text that stands for this value, and how the write goes does
not matter. So a server that fails at every command is as good as no cache at all.
-/

namespace Shortlink

namespace Transparency

open Cache Cache.Redis

variable {α : Type} {codec : Codec α} {key : String} {ttl : Option Nat} {load : Action α}

/-! ## Readings -/

/-- However the cache and the load are replied to, a reading goes as the load does, unless the
cache gives a text that stands for a value. -/
def Transparent (codec : Codec α) : Prop :=
  ∀ (key : String) (ttl : Option Nat) (load : Action α) (respondent : Respondent Effect.interface),
    let reading := (getOrLoad codec key ttl load).attempt.converse respondent
    let found := respondent [] (.cacheGet key)
    let got : Saying := ⟨.cacheGet key, found⟩
    let loading := load.attempt.converse fun earlier => respondent (got :: earlier)
    (∀ text value, found = .ok (some text) → codec.decode? text = some value →
      reading = ([got], .ok (.ok value))) ∧
    ((∀ text, found = .ok (some text) → codec.decode? text = none) →
      reading.2 = loading.2 ∧
      ((∀ value, loading.2 ≠ .ok (.ok value)) → reading.1 = got :: loading.1) ∧
      ∀ value, loading.2 = .ok (.ok value) →
        let text := (codec.toJson value).compact
        codec.decode? text = some value ∧
          ∃ reply, reading.1 = got :: loading.1 ++ [⟨.cacheSet key text ttl, reply⟩])

/-- What follows a load. -/
def keeping (codec : Codec α) (key : String) (ttl : Option Nat) :
    Except Failure α → Program (Except Failure α)
  | .error failure => .done (.error failure)
  | .ok value => (keep codec key ttl value).andThen fun _ => .done (.ok value)

theorem getOrLoad_eq_keeping (codec : Codec α) (key : String) (ttl : Option Nat)
    (load : Action α) :
    (getOrLoad codec key ttl load).attempt =
      .ask (Effect.cacheGet key) fun found =>
        match seen codec found with
        | some value => .done (.ok value)
        | none => load.attempt.andThen (keeping codec key ttl) := by
  rw [getOrLoad_eq]
  apply Script.ask_congr
  intro found
  cases seen codec found with
  | some value => rfl
  | none =>
      apply Script.andThen_congr
      intro result
      cases result with
      | ok value => rfl
      | error failure => rfl

theorem seen_eq_none {found : Except CacheError (Option String)}
    (unread : ∀ text, found = .ok (some text) → codec.decode? text = none) :
    seen codec found = none := by
  match found with
  | .ok (some text) => exact unread text rfl
  | .ok none => rfl
  | .error _ => rfl

theorem keeping_eq_of_storable (isStorable : codec.isStorable = true) (value : α) :
    keeping codec key ttl (.ok value) =
      .ask (Effect.cacheSet key (codec.toJson value).compact ttl) fun _ => .done (.ok value) := by
  rw [keeping, keep_eq, Codec.encode?, if_pos isStorable]
  rfl

theorem result_keeping (result : Except Failure α) (respondent : Respondent Effect.interface) :
    ((keeping codec key ttl result).converse respondent).2 = .ok result := by
  cases result with
  | error failure => rfl
  | ok value =>
      rw [keeping, keep_eq]
      cases codec.encode? value with
      | none => rfl
      | some text => rfl

/-- A codec whose values can all be written and read back makes readings transparent. -/
theorem transparent_of_faithful (faithful : codec.Faithful) (isStorable : codec.isStorable = true) :
    Transparent codec := by
  intro key ttl load respondent reading found got loading
  have asked : reading =
      let next : Program (Except Failure α) := match seen codec found with
        | some value => .done (.ok value)
        | none => load.attempt.andThen (keeping codec key ttl)
      let rest := next.converse fun earlier => respondent (got :: earlier)
      (got :: rest.1, rest.2) :=
    (congrArg (Script.converse · respondent) (getOrLoad_eq_keeping codec key ttl load)).trans
      (Script.converse_ask _ rfl)
  constructor
  · intro text value isFound isRead
    have isSeen : seen codec found = some value := by rw [isFound, seen, isRead]
    rw [asked, isSeen]
    rfl
  · intro unread
    rw [asked, seen_eq_none unread]
    dsimp only
    refine ⟨Script.result_andThen result_keeping, ?_, ?_⟩
    · intro nothing
      cases ended : loading.2 with
      | error cause => rw [Script.converse_andThen_of_error _ ended]
      | ok result =>
          cases result with
          | ok value => exact absurd ended (nothing value)
          | error failure =>
              rw [Script.converse_andThen_of_ok _ ended]
              exact congrArg (got :: ·) (List.append_nil _)
    · intro value ended
      have written : codec.encode? value = some (codec.toJson value).compact := if_pos isStorable
      refine ⟨faithful value _ written, ?_⟩
      rw [Script.converse_andThen_of_ok _ ended, keeping_eq_of_storable isStorable]
      exact ⟨_, rfl⟩

/-! ## Failing servers -/

/-- Whether a request is about the cache. -/
def isCaching : Effect → Bool
  | .cacheGet _ => true
  | .cacheSet _ _ _ => true
  | .cacheRemove _ => true
  | .cacheRemoveAll _ => true
  | .cacheHealthy => true
  | _ => false

/-- Whoever replies to a service without a cache, where all other requests are replied to by a
store. -/
def uncached (store : Respondent Effect.interface) : Respondent Effect.interface
  | _, .cacheGet _ => .ok none
  | _, .cacheSet _ _ _ => .ok ()
  | _, .cacheRemove _ => .ok ()
  | _, .cacheRemoveAll _ => .ok 0
  | _, .cacheHealthy => true
  | earlier, request => store (earlier.filter (!isCaching ·.request)) request

/-- What has been said beside the server. -/
def beside? : Said Request.interface → Option Saying
  | ⟨.beside request, reply⟩ => some ⟨request, reply⟩
  | _ => none

/-- Whoever replies to a service whose server fails at all it is asked, for whatever reasons, where
all other requests are replied to by a store. -/
def failing (store : Respondent Effect.interface)
    (reasons : List (Said Request.interface) → Request → String) : Respondent Request.interface
  | earlier, .beside request => store (earlier.filterMap beside?) request
  | earlier, .connect url => .error (reasons earlier (.connect url))
  | earlier, .command words => .error (reasons earlier (.command words))
  | earlier, .transaction commands => .error (reasons earlier (.transaction commands))

variable {defaultTtl : Nat} {store : Respondent Effect.interface}
  {reasons : List (Said Request.interface) → Request → String}

theorem serve_eq_beside {request : Effect} (other : isCaching request = false) :
    serve defaultTtl request = .ask (Request.beside request) .done := by
  cases request <;> first | rfl | contradiction

theorem uncached_eq_store {request : Effect} (other : isCaching request = false)
    (earlier : List Saying) :
    uncached store earlier request = store (earlier.filter (!isCaching ·.request)) request := by
  cases request <;> first | rfl | contradiction

/-- A program that does not use the cache comes to the same, whether there is a server that fails
or no cache. -/
theorem result_withRedis {program : Program α} (asks : program.Asks (isCaching · = false))
    {served : List (Said Request.interface)} {earlier : List Saying}
    (same : served.filterMap beside? = earlier.filter (!isCaching ·.request)) :
    ((withRedis defaultTtl program).converse fun later =>
        failing store reasons (served ++ later)).2 =
      (program.converse fun later => uncached store (earlier ++ later)).2 := by
  -- The two histories differ in what is said about the cache, which the store is not told.
  induction program generalizing served earlier with
  | done value => rfl
  | abort cause => rfl
  | ask request next ih =>
      obtain ⟨other, asks⟩ := asks
      have goesOn : withRedis defaultTtl (.ask request next) =
          .ask (Request.beside request) fun reply => withRedis defaultTtl (next reply) := by
        refine (congrArg (Script.andThen · _) (serve_eq_beside other)).trans rfl
      rw [goesOn]
      dsimp only [Script.converse, failing]
      rw [List.append_nil, List.append_nil, uncached_eq_store other, same]
      let reply : request.Reply := store (earlier.filter (!isCaching ·.request)) request
      have extended :
          (served ++ [(⟨.beside request, reply⟩ : Said Request.interface)]).filterMap beside? =
            (earlier ++ [(⟨request, reply⟩ : Saying)]).filter (!isCaching ·.request) := by
        simp [same, beside?, other]
      have goesOnAlike := ih reply (asks reply) extended
      simp only [List.append_assoc] at goesOnAlike
      exact goesOnAlike

theorem result_withRedis_keeping (result : Except Failure α)
    (respondent : Respondent Request.interface) :
    ((withRedis defaultTtl (keeping codec key ttl result)).converse respondent).2 = .ok result := by
  cases result with
  | error failure => rfl
  | ok value =>
      rw [keeping, keep_eq]
      cases codec.encode? value with
      | none => rfl
      | some text => rfl

/-- A reading comes to the same, whether there is a server that fails or no cache. -/
theorem result_getOrLoad (asks : load.attempt.Asks (isCaching · = false)) :
    ((withRedis defaultTtl (getOrLoad codec key ttl load).attempt).converse
        (failing store reasons)).2 =
      ((getOrLoad codec key ttl load).attempt.converse (uncached store)).2 := by
  have failed : ((withRedis defaultTtl (getOrLoad codec key ttl load).attempt).converse
      (failing store reasons)).2 =
        ((withRedis defaultTtl (load.attempt.andThen (keeping codec key ttl))).converse
          fun later => failing store reasons
            ([⟨.command ["GET", key], .error (reasons [] (.command ["GET", key]))⟩] ++ later)).2 := by
    rw [getOrLoad_eq_keeping]
    rfl
  have missed : ((getOrLoad codec key ttl load).attempt.converse (uncached store)).2 =
      ((load.attempt.andThen (keeping codec key ttl)).converse
        fun later => uncached store ([⟨.cacheGet key, .ok none⟩] ++ later)).2 := by
    rw [getOrLoad_eq_keeping]
    rfl
  rw [failed, missed, Eviction.withRedis_andThen, Script.result_andThen result_withRedis_keeping,
    Script.result_andThen result_keeping]
  exact result_withRedis asks rfl

theorem asks_loadOriginal (code : String) :
    (LinkService.loadOriginal code).attempt.Asks (isCaching · = false) := by
  rw [Coherence.loadOriginal_eq]
  refine ⟨rfl, ?_⟩
  intro reply
  match reply with
  | .ok (some link) => exact True.intro
  | .ok none => exact True.intro
  | .error failure => exact True.intro

theorem asks_loadPage (page size : Int) :
    (LinkService.loadPage page size).attempt.Asks (isCaching · = false) := by
  rw [Coherence.loadPage_eq]
  split
  · refine ⟨rfl, ?_⟩
    intro reply
    cases reply with
    | ok links => exact True.intro
    | error failure => exact True.intro
  · exact True.intro

theorem result_list (service : LinkService) (page size : Int) :
    ((withRedis defaultTtl (service.list page size).attempt).converse (failing store reasons)).2 =
      ((service.list page size).attempt.converse (uncached store)).2 := by
  unfold LinkService.list
  split
  · rfl
  · exact result_getOrLoad (asks_loadPage page size)

end Transparency

open Cache Transparency in
/-- Readings are transparent for both types of values that are cached. And over a server that fails
at all it is asked, a resolution and a listing come to what they come to without a cache, whatever
the store replies. -/
theorem cache_is_transparent :
    Transparent Codec.string ∧ Transparent LinkView.codec.list ∧
    ∀ (service : LinkService) (defaultTtl : Nat) (store : Respondent Effect.interface)
      (reasons : List (Said Redis.Request.interface) → Redis.Request → String),
      (∀ code, ((Redis.withRedis defaultTtl (service.resolve code).attempt).converse
          (failing store reasons)).2 =
        ((service.resolve code).attempt.converse (uncached store)).2) ∧
      ∀ page size, ((Redis.withRedis defaultTtl (service.list page size).attempt).converse
          (failing store reasons)).2 =
        ((service.list page size).attempt.converse (uncached store)).2 := by
  refine ⟨transparent_of_faithful Codec.faithful_string rfl,
    transparent_of_faithful LinkView.faithful_list rfl, ?_⟩
  intro service defaultTtl store reasons
  exact ⟨fun code => result_getOrLoad (asks_loadOriginal code), result_list service⟩

end Shortlink
