import Shortlink.Worker.Host

/-!
# A shift of the job host

The runs of a host's jobs on a clock that only moves by waiting. Each job is scripted: a run
takes its time, and the end of a certain run stops the whole host. A host that is stopped
starts no more runs but lets those in progress end.
-/

namespace Shortlink.Rehearsal

open Time (Moment)

/-- A job that follows a script. -/
structure Routine where
  /-- Which of the registered entries it is. -/
  place : Nat
  /-- How many milliseconds a run takes. -/
  duration : Nat
  /-- The number of runs after which the host is stopped. -/
  quota : Nat

/-- What a job is doing, and until when on the clock of the shift, in nanoseconds. -/
inductive Activity where
  | waiting (wake : Nat)
  | running (finish : Nat)
  | ended
  deriving DecidableEq, Repr

/-- A job in a shift. -/
structure Task where
  scheduled : ScheduledJob Routine
  activity : Activity
  /-- The moment of the schedule for which it waits, or which it waited for last. -/
  latest : Moment
  /-- Whether the host was stopped at the start of each run, the latest first. -/
  starts : List Bool := []

namespace Task

/-- The nanoseconds from one moment to a later one. -/
def nanosBetween (first last : Moment) : Nat :=
  ((last.unixSeconds - first.unixSeconds) * 1000000000 + (last.nanos : Int) - first.nanos).toNat

/-- The job waits for the next moment of its schedule, unless there is none or the host is
stopped. The calendar stands still at `today`; `time` is the clock of the shift. -/
def await (today : Moment) (isStopped : Bool) (time : Nat) (task : Task) : Task :=
  match task.scheduled.nextRun? task.latest today with
  | none => { task with activity := .ended }
  | some next =>
    if isStopped then { task with activity := .ended }
    else { task with activity := .waiting (time + nanosBetween today next), latest := next }

/-- A job before its first run. -/
def begin (today : Moment) (isStopped : Bool) (scheduled : ScheduledJob Routine) : Task :=
  await today isStopped 0 ⟨scheduled, .ended, today, []⟩

/-- Until when the job is busy with what it does. -/
def due? (task : Task) : Option Nat :=
  match task.activity with
  | .waiting wake => some wake
  | .running finish => some finish
  | .ended => none

/-- A job that waits gives up when the host is stopped. -/
def giveUp (task : Task) : Task :=
  match task.activity with
  | .waiting _ => { task with activity := .ended }
  | _ => task

/-- The job has ended. -/
def hasEnded (task : Task) : Bool := task.activity == .ended

end Task

/-- The jobs of a host at work. -/
structure Shift where
  tasks : List Task
  isStopped : Bool

namespace Shift

/-- The start of a shift, of a host that may be stopped already. -/
def start (host : JobHost Routine) (today : Moment) (isStopped : Bool) : Shift :=
  ⟨host.jobs.map (Task.begin today isStopped), isStopped⟩

/-- The task that is due first, with its place and its time; the first of several. -/
def nextDue? (shift : Shift) : Option (Nat × Task × Nat) :=
  shift.tasks.zipIdx.foldl
    (fun found (task, place) =>
      match task.due?, found with
      | none, _ => found
      | some time, none => some (place, task, time)
      | some time, some (_, _, earliest) =>
        if time < earliest then some (place, task, time) else found)
    none

/-- Goes on with the task that is due first. -/
def step? (today : Moment) (shift : Shift) : Option Shift := do
  let (place, task, time) ← shift.nextDue?
  let routine := task.scheduled.job
  match task.activity with
  | .ended => none
  | .waiting _ =>
    let task :=
      { task with
        activity := .running (time + routine.duration * 1000000)
        starts := shift.isStopped :: task.starts }
    some { shift with tasks := shift.tasks.set place task }
  | .running _ =>
    let isStopped := shift.isStopped || routine.quota ≤ task.starts.length
    let tasks := shift.tasks.set place (task.await today isStopped time)
    some ⟨if isStopped then tasks.map Task.giveUp else tasks, isStopped⟩

/-- Goes on for at most so many steps. -/
def work (today : Moment) : Nat → Shift → Shift
  | 0, shift => shift
  | steps + 1, shift =>
    match shift.step? today with
    | some next => work today steps next
    | none => shift

/-- A bound of the number of steps: a task starts and ends no more runs than its quota
before it stops the host, and one run more if the quota is none. -/
def stepBound (host : JobHost Routine) : Nat :=
  host.jobs.foldl (fun bound scheduled => bound + 2 * max 1 scheduled.job.quota) 0

/-- The shift of a host from its start to its end. -/
def complete (host : JobHost Routine) (today : Moment) (isStopped : Bool) : Shift :=
  (start host today isStopped).work today (stepBound host)

/-- The starts of the runs of the entry at a place, each with whether the host was then
stopped, in order. -/
def runsOf (shift : Shift) (place : Nat) : List Bool :=
  match shift.tasks.find? fun task => task.scheduled.job.place == place with
  | some task => task.starts.reverse
  | none => []

end Shift

end Shortlink.Rehearsal
