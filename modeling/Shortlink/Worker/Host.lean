import Shortlink.Cron.Schedule
import Shortlink.Failure
import Shortlink.Worker.Job

/-!
# The job host

The jobs that run at the moments of their schedules. A job that is disabled is left out, and
its schedule is then not even read.
-/

namespace Shortlink

open Time (Moment)

/-- A job with its schedule. -/
structure ScheduledJob (α : Type) where
  job : α
  schedule : Cron.Schedule

/-- The jobs that run at the moments of their schedules, in the order of registration. -/
structure JobHost (α : Type) where
  jobs : List (ScheduledJob α)

namespace ScheduledJob

variable {α : Type}

/-- When the job runs next, if it ever does: the first moment of its schedule after now and
after its latest run. -/
def nextRun? (scheduled : ScheduledJob α) (latest now : Moment) : Option Moment :=
  scheduled.schedule.after? (latest.later now)

end ScheduledJob

namespace JobHost

variable {α : Type}

/-- The host without jobs. -/
def empty : JobHost α := ⟨[]⟩

/-- The number of jobs. -/
def size (host : JobHost α) : Nat := host.jobs.length

/-- Adds a job under its settings. -/
def register (host : JobHost α) (settings : JobSettings) (job : α) :
    Except Failure (JobHost α) :=
  if settings.enabled then
    match Cron.Schedule.parse? settings.schedule with
    | some schedule => .ok ⟨host.jobs ++ [⟨job, schedule⟩]⟩
    | none => .error (.unusableSchedule settings.name settings.schedule
        Cron.Schedule.unreadable)
  else .ok host

end JobHost

end Shortlink
