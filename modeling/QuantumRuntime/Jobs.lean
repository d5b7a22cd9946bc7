import QuantumRuntime.Failure.Backend

/-
  This file defines the submission of programs as jobs, and a
  desk that accepts every job and reports it as completed at
  once.

  Key definitions include:
    * `JobStatus`
    * `Job`
    * `JobDesk`
    * `JobDesk.freshName`
    * `JobDesk.submit`
    * `JobDesk.find`
    * `JobDesk.status`
-/

namespace QuantumRuntime

------------------------------------------------------------
-- Jobs
------------------------------------------------------------

/- How far a job has come. -/
inductive JobStatus where
  | queued
  | running
  | completed
  | failed (reason : String)
deriving DecidableEq, Repr

namespace JobStatus

/- A job that will not change any more. -/
def IsTerminal : JobStatus → Prop
  | completed => True
  | failed _ => True
  | _ => False

instance
    (status : JobStatus) :
    Decidable status.IsTerminal := by
  cases status <;> unfold IsTerminal <;> infer_instance

end JobStatus

/- A submitted program and how far it has come. -/
structure Job where
  id : String
  entryPoint : String
  programSize : Nat
  status : JobStatus
deriving DecidableEq, Repr

------------------------------------------------------------
-- The desk
------------------------------------------------------------

/-
  The accepted jobs in the order of their submission, and the
  names that are known outside, which no job may be given.
-/
structure JobDesk where
  known : List String
  jobs : List Job

namespace JobDesk

/- The desk that has accepted nothing. -/
def opened
    (known : List String) : JobDesk :=
  { known := known
    jobs := [] }

------------------------------------------------------------
-- Names of jobs
------------------------------------------------------------

/-
  The name with a number: thirty-six characters in five groups,
  of which the last is the number in base sixteen.
-/
def nameAt
    (number : Nat) : String :=
  let digits := Nat.toDigits 16 number
  "00000000-0000-4000-8000-" ++
    String.ofList (List.replicate (12 - digits.length) '0' ++ digits)

/-
  The first number whose name is not taken, searched for from a
  start in at most some steps.
-/
def freshNumber
    (taken : List String) : Nat → Nat → Nat
  | 0, start => start
  | steps + 1, start =>
      if nameAt start ∈ taken then
        freshNumber taken steps (start + 1)
      else
        start

/- The names that the next job may not be given. -/
def taken
    (desk : JobDesk) : List String :=
  desk.known ++ desk.jobs.map Job.id

/- The name of the next job. -/
def freshName
    (desk : JobDesk) : String :=
  nameAt
    (freshNumber desk.taken desk.taken.length desk.jobs.length)

------------------------------------------------------------
-- Submission and enquiry
------------------------------------------------------------

/-
  Submit a program that starts at an entry point. The entry
  point must have a name. The answer is the name of the job.
-/
def submit
    (program : String)
    (entryPoint : String)
    (desk : JobDesk) : Except BackendError (String × JobDesk) :=
  if entryPoint = "" then
    .error (.submissionFailed "entry point name is empty")
  else
    let job : Job :=
      { id := desk.freshName
        entryPoint := entryPoint
        programSize := program.utf8ByteSize
        status := .completed }
    .ok (job.id, { desk with jobs := desk.jobs ++ [job] })

/- The record of a job. -/
def find
    (desk : JobDesk)
    (id : String) : Except BackendError Job :=
  match desk.jobs.find? fun job => job.id = id with
  | some job => .ok job
  | none => .error (.jobNotFound id)

/- How far a job has come. -/
def status
    (desk : JobDesk)
    (id : String) : Except BackendError JobStatus := do
  let job ← desk.find id
  .ok job.status

end JobDesk

end QuantumRuntime
