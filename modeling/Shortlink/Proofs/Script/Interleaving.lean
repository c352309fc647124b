import Mathlib.Logic.Function.Basic
import Shortlink.Proofs.Script.Assurance

/-!
# Interleaved calls

Any number of scripts that run at the same time over one state. In each turn one of them
makes its next request, or the state changes by itself; a list of turns is a schedule. All
requests are written down, so that it can be said of a state what has led to it.

The main result composes assurances: where no call does what another one relies on not to
happen, what each call assures by itself holds under every schedule.
-/

namespace Shortlink

variable {ι σ α : Type} {I : Interface}

/-- A request of a call with its reply, and the state on both sides of it. -/
structure Exchange (ι : Type) (I : Interface) (σ : Type) where
  call : ι
  request : I.Request
  reply : Except Abort (I.Reply request)
  before : σ
  after : σ

/-- The state, and the exchanges that have led to it. -/
structure Course (ι : Type) (I : Interface) (σ : Type) where
  history : List (Exchange ι I σ) := []
  state : σ

namespace Course

/-- The exchanges of one call. -/
def own [DecidableEq ι] (course : Course ι I σ) (call : ι) : List (Exchange ι I σ) :=
  course.history.filter (·.call = call)

/-- The course after one more exchange. -/
def extend (course : Course ι I σ) (exchange : Exchange ι I σ) : Course ι I σ :=
  ⟨course.history ++ [exchange], exchange.after⟩

@[simp] theorem extend_history (course : Course ι I σ) (exchange : Exchange ι I σ) :
    (course.extend exchange).history = course.history ++ [exchange] := rfl

@[simp] theorem extend_state (course : Course ι I σ) (exchange : Exchange ι I σ) :
    (course.extend exchange).state = exchange.after := rfl

theorem own_extend_self [DecidableEq ι] (course : Course ι I σ) (exchange : Exchange ι I σ) :
    (course.extend exchange).own exchange.call = course.own exchange.call ++ [exchange] := by
  simp [own]

theorem own_extend_of_ne [DecidableEq ι] (course : Course ι I σ) {exchange : Exchange ι I σ}
    {call : ι} (other : exchange.call ≠ call) :
    (course.extend exchange).own call = course.own call := by
  simp [own, other]

theorem filterMap_extend {β : Type} (pick : Exchange ι I σ → Option β) (course : Course ι I σ)
    (exchange : Exchange ι I σ) :
    (course.extend exchange).history.filterMap pick =
      course.history.filterMap pick ++ (pick exchange).toList := by
  rw [extend_history, List.filterMap_append]
  cases picked : pick exchange with
  | none => simp [picked]
  | some value => simp [picked]

end Course

/-- The surroundings of a call, with all that happens written down. -/
def Surroundings.recorded (surroundings : Surroundings I σ) (call : ι) :
    Surroundings I (Course ι I σ) where
  Chance := surroundings.Chance
  answer chance request course :=
    let (reply, state) := surroundings.answer chance request course.state
    (reply, course.extend ⟨call, request, reply, course.state, state⟩)
  Disturbance := surroundings.Disturbance
  disturb disturbance course :=
    { course with state := surroundings.disturb disturbance course.state }

/-- Surroundings in which the state does not change by itself. -/
def Surroundings.undisturbed (surroundings : Surroundings I σ) : Surroundings I σ :=
  { surroundings with Disturbance := Empty, disturb := nofun }

/-- A call assures the same where the state does not change by itself. -/
theorem Script.Assures.undisturbed {surroundings : Surroundings I σ} {call : ι}
    {contract : Contract (Course ι I σ)} {post : Except Abort α → Course ι I σ → Prop}
    {script : Script I α} {course : Course ι I σ}
    (assured : script.Assures (surroundings.recorded call) contract post course) :
    script.Assures (surroundings.undisturbed.recorded call) contract post course := by
  induction script generalizing course with
  | done value => exact assured
  | abort cause => exact assured
  | ask request next ih =>
      intro before change chance
      have step := assured before change chance
      have same : (surroundings.undisturbed.recorded call).answer chance request before =
          (surroundings.recorded call).answer chance request before := rfl
      rw [same]
      refine ⟨step.1, ?_⟩
      revert step
      cases ((surroundings.recorded call).answer chance request before).1 with
      | ok reply => exact fun step => ih reply step.2
      | error cause => exact fun step => step.2

/-- What happens next: a call makes its next request, or the state changes by itself. -/
inductive Turn (ι : Type) (surroundings : Surroundings I σ) where
  | move (call : ι) (chance : surroundings.Chance)
  | disturb (disturbance : surroundings.Disturbance)

/-- The call whose turn it is, if it is one's. -/
def Turn.caller? {surroundings : Surroundings I σ} : Turn ι surroundings → Option ι
  | move call _ => some call
  | disturb _ => none

/-- A script that makes no more requests. -/
def Script.IsOver : Script I α → Prop
  | ask _ _ => False
  | _ => True

instance (script : Script I α) : Decidable script.IsOver :=
  match script with
  | .done _ => isTrue True.intro
  | .abort _ => isTrue True.intro
  | .ask _ _ => isFalse id

/-- Calls that run at the same time: the course so far, and what is left of each. -/
structure Concurrent (ι : Type) (I : Interface) (σ α : Type) where
  course : Course ι I σ
  rest : ι → Script I α

namespace Concurrent

variable [DecidableEq ι] {surroundings : Surroundings I σ}

/-- Calls that have not begun. -/
def start (state : σ) (calls : ι → Script I α) : Concurrent ι I σ α := ⟨⟨[], state⟩, calls⟩

/-- The calls after one more turn. A call that has come to its end stays there. -/
def take (calls : Concurrent ι I σ α) : Turn ι surroundings → Concurrent ι I σ α
  | .disturb disturbance =>
    { calls with course :=
        { calls.course with state := surroundings.disturb disturbance calls.course.state } }
  | .move call chance =>
    match calls.rest call with
    | .done _ | .abort _ => calls
    | .ask request next =>
      match (surroundings.recorded call).answer chance request calls.course with
      | (.ok reply, course) => ⟨course, Function.update calls.rest call (next reply)⟩
      | (.error cause, course) => ⟨course, Function.update calls.rest call (.abort cause)⟩

/-- The calls after a schedule. -/
def play (calls : Concurrent ι I σ α) (turns : List (Turn ι surroundings)) :
    Concurrent ι I σ α :=
  turns.foldl take calls

/-- A call without a turn stays where it is. -/
theorem rest_play_of_idle {calls : Concurrent ι I σ α} {call : ι}
    {turns : List (Turn ι surroundings)} (idle : ∀ turn ∈ turns, turn.caller? ≠ some call) :
    (calls.play turns).rest call = calls.rest call := by
  induction turns generalizing calls with
  | nil => rfl
  | cons turn turns ih =>
      rw [List.forall_mem_cons] at idle
      refine (ih idle.2).trans ?_
      cases turn with
      | disturb disturbance => rfl
      | move other chance =>
          have isOther : call ≠ other := by
            rintro rfl
            exact idle.1 rfl
          simp only [take]
          split
          · rfl
          · rfl
          · split
            · exact Function.update_of_ne isOther _ _
            · exact Function.update_of_ne isOther _ _

/-- What the calls of a system promise each other: a contract and a condition on the end for
each, such that nobody breaks what another one relies on. -/
structure Agreement (ι : Type) [DecidableEq ι] (surroundings : Surroundings I σ) (α : Type) where
  contract : ι → Script.Contract (Course ι I σ)
  post : ι → Except Abort α → Course ι I σ → Prop
  stable : ∀ call result, (contract call).Keeps (post call result)
  compatible : ∀ {call other course exchange}, exchange.call = call → call ≠ other →
    exchange.before = course.state →
    (contract call).guarantee course (course.extend exchange) →
    (contract other).rely course (course.extend exchange)
  undisturbed : ∀ call course disturbance, (contract call).rely course
    { course with state := surroundings.disturb disturbance course.state }

namespace Agreement

/-- Each call assures what it promises. -/
def Holds (agreement : Agreement ι surroundings α) (calls : Concurrent ι I σ α) : Prop :=
  ∀ call, (calls.rest call).Assures (surroundings.recorded call) (agreement.contract call)
    (agreement.post call) calls.course

/-- One turn is within what the calls guarantee. -/
inductive Allows (agreement : Agreement ι surroundings α) (course : Course ι I σ) :
    Course ι I σ → Prop where
  | rest : agreement.Allows course course
  | move (exchange : Exchange ι I σ) (connected : exchange.before = course.state)
      (guaranteed : (agreement.contract exchange.call).guarantee course
        (course.extend exchange)) :
      agreement.Allows course (course.extend exchange)
  | disturb (disturbance : surroundings.Disturbance) :
      agreement.Allows course
        { course with state := surroundings.disturb disturbance course.state }

variable {agreement : Agreement ι surroundings α} {calls : Concurrent ι I σ α}

/-- A call that has come to its end has brought about what it promised. -/
theorem Holds.post_of_done (holds : agreement.Holds calls) {call : ι} {value : α}
    (ended : calls.rest call = .done value) :
    agreement.post call (.ok value) calls.course := by
  have assured := holds call
  rw [ended] at assured
  exact assured

theorem Holds.post_of_abort (holds : agreement.Holds calls) {call : ι} {cause : Abort}
    (ended : calls.rest call = .abort cause) :
    agreement.post call (.error cause) calls.course := by
  have assured := holds call
  rw [ended] at assured
  exact assured

/-- A request of one call leaves the assurances of all standing. -/
theorem Holds.move (holds : agreement.Holds calls) {call : ι} {script : Script I α}
    {exchange : Exchange ι I σ} (isOwn : exchange.call = call)
    (connected : exchange.before = calls.course.state)
    (guaranteed : (agreement.contract call).guarantee calls.course
      (calls.course.extend exchange))
    (assured : script.Assures (surroundings.recorded call) (agreement.contract call)
      (agreement.post call) (calls.course.extend exchange)) :
    agreement.Holds ⟨calls.course.extend exchange, Function.update calls.rest call script⟩ := by
  intro other
  by_cases same : other = call
  · subst other
    simpa using assured
  · simp only [ne_eq, same, not_false_eq_true, Function.update_of_ne]
    exact (holds other).mono_rely (agreement.stable other)
      (agreement.compatible isOwn (Ne.symm same) connected guaranteed)

theorem Holds.take (holds : agreement.Holds calls) (turn : Turn ι surroundings) :
    agreement.Holds (calls.take turn) ∧
      agreement.Allows calls.course (calls.take turn).course := by
  cases turn with
  | disturb disturbance =>
      refine ⟨?_, .disturb disturbance⟩
      intro call
      exact (holds call).mono_rely (agreement.stable call)
        (agreement.undisturbed call calls.course disturbance)
  | move call chance =>
      have assured := holds call
      cases script : calls.rest call with
      | done value => simpa only [Concurrent.take, script] using ⟨holds, .rest⟩
      | abort cause => simpa only [Concurrent.take, script] using ⟨holds, .rest⟩
      | ask request next =>
          rw [script] at assured
          have step := assured calls.course ((agreement.contract call).rely_refl _) chance
          rcases outcome : surroundings.answer chance request calls.course.state with
            ⟨reply, state⟩
          have recorded : (surroundings.recorded call).answer chance request calls.course =
              (reply, calls.course.extend ⟨call, request, reply, calls.course.state, state⟩) := by
            simp only [Surroundings.recorded, outcome]
          simp only [Concurrent.take, script]
          rw [recorded] at step ⊢
          cases reply with
          | ok reply => exact ⟨holds.move rfl rfl step.1 step.2, .move _ rfl step.1⟩
          | error cause => exact ⟨holds.move rfl rfl step.1 step.2, .move _ rfl step.1⟩

/-- What each call assures by itself holds under every schedule. -/
theorem Holds.play (holds : agreement.Holds calls) (turns : List (Turn ι surroundings)) :
    agreement.Holds (calls.play turns) := by
  induction turns generalizing calls with
  | nil => exact holds
  | cons turn turns ih => exact ih (holds.take turn).1

/-- What every allowed turn keeps is kept by every schedule. -/
theorem Holds.keeps (holds : agreement.Holds calls) {condition : Course ι I σ → Prop}
    (turn : ∀ {course after}, condition course → agreement.Allows course after → condition after)
    (begins : condition calls.course) (turns : List (Turn ι surroundings)) :
    condition (calls.play turns).course := by
  induction turns generalizing calls with
  | nil => exact begins
  | cons next turns ih =>
      exact ih (holds.take next).1 (turn begins (holds.take next).2)

end Agreement

end Concurrent

/-! ## Calls that keep a relation -/

/-- A change keeps a condition, and where this holds a log grows at its end at most. -/
def Advances {β : Type} (condition : σ → Prop) (log : σ → List β) (before after : σ) : Prop :=
  condition before → condition after ∧ log before <+: log after

section advances

variable {β : Type} {condition : σ → Prop} {log : σ → List β}

theorem Advances.refl (condition : σ → Prop) (log : σ → List β) (state : σ) :
    Advances condition log state state :=
  fun holds => ⟨holds, List.prefix_rfl⟩

theorem Advances.trans {first second third : σ} (one : Advances condition log first second)
    (two : Advances condition log second third) : Advances condition log first third := by
  intro holds
  have between := one holds
  have last := two between.1
  exact ⟨last.1, between.2.trans last.2⟩

end advances

section keeping

variable [DecidableEq ι] {surroundings : Surroundings I σ}
  {relation : Course ι I σ → Course ι I σ → Prop}
  (refl : ∀ course, relation course course)
  (trans : ∀ {first second third}, relation first second → relation second third →
    relation first third)

/-- The contract of a call among calls that all keep a relation between the course before and
after, and of which none asks for anything in the name of another. -/
def Script.Contract.keeping (call : ι) : Contract (Course ι I σ) where
  rely course other := relation course other ∧ other.own call = course.own call
  guarantee := relation
  rely_refl course := ⟨refl course, rfl⟩
  rely_trans one two := ⟨trans one.1 two.1, two.2.trans one.2⟩

namespace Concurrent.Agreement

/-- The agreement of such calls. -/
def keeping (post : ι → Except Abort α → Course ι I σ → Prop)
    (stable : ∀ call result, (Script.Contract.keeping refl trans call).Keeps (post call result))
    (undisturbed : ∀ course disturbance, relation course
      { course with state := surroundings.disturb disturbance course.state }) :
    Agreement ι surroundings α where
  contract := Script.Contract.keeping refl trans
  post := post
  stable := stable
  compatible := by
    intro call other course exchange isOwn different connected guaranteed
    refine ⟨guaranteed, Course.own_extend_of_ne course ?_⟩
    rw [isOwn]
    exact different
  undisturbed call course disturbance := ⟨undisturbed course disturbance, rfl⟩

variable {post : ι → Except Abort α → Course ι I σ → Prop}
  {stable : ∀ call result, (Script.Contract.keeping refl trans call).Keeps (post call result)}
  {undisturbed : ∀ course disturbance, relation course
    { course with state := surroundings.disturb disturbance course.state }}

theorem related_of_allows {course after : Course ι I σ}
    (allowed : (keeping refl trans post stable undisturbed).Allows course after) :
    relation course after := by
  cases allowed with
  | rest => exact refl course
  | move exchange connected guaranteed => exact guaranteed
  | disturb disturbance => exact undisturbed course disturbance

/-- Such calls keep the relation over every schedule. -/
theorem Holds.related {calls : Concurrent ι I σ α}
    (holds : (keeping refl trans post stable undisturbed).Holds calls)
    (turns : List (Turn ι surroundings)) : relation calls.course (calls.play turns).course :=
  holds.keeps (fun before allowed => trans before (related_of_allows refl trans allowed))
    (refl calls.course) turns

end Concurrent.Agreement

end keeping

end Shortlink
