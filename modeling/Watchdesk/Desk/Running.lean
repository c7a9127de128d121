import Watchdesk.Desk.Basic

/-!
# Running jobs

How a desk starts jobs and follows them. A start that is refused because another job runs leaves
everything as it is.
-/

namespace Watchdesk.Desk

/-- How a job is started. -/
inductive Starter where
  /-- It was started elsewhere, or that failed. -/
  | done (result : Except Fault Unit)
  /-- A request starts it, whatever the reply says. -/
  | request (request : Request)
  /-- The trigger of a kind of job starts it. -/
  | kind (kind : JobKind)
deriving Inhabited

/-- Tell the caller that the start of a job is over. -/
def tellStarted (d : Desk) (caller : Caller) : Desk :=
  match caller with
  | .operator _ => d.tell (.started caller true)
  | .page _ => d.tell (.answered caller (.ofView d.runner.view))

/-- Tell the caller that another job runs. -/
def tellRefused (d : Desk) (caller : Caller) : Desk :=
  match caller with
  | .operator _ => d.tell (.started caller false)
  | .page _ => d.tell (.answered caller .runnerBusy)

/-- The start of a run has settled. -/
def settleStart (d : Desk) (epoch : Nat) (caller : Caller) (result : Except Fault Unit) : Desk :=
  let (runner, orders) := d.runner.started d.settings.runner epoch result
  ({ d with runner }.order .question orders).tellStarted caller

/-- Start a job, unless one runs. -/
def run (d : Desk) (caller : Caller) (jobId message : String) (starter : Starter) : Desk :=
  match d.runner.begin jobId message with
  | none => d.tellRefused caller
  | some (runner, orders) =>
    let d := { d with runner }.order .question orders
    match starter with
    | .done result => d.settleStart runner.epoch caller result
    | .request request => d.call request (.start runner.epoch caller true)
    | .kind kind =>
      d.call (d.settings.backend.trigger kind) (.start runner.epoch caller false)

/-- Start a kind of job, unless one runs. -/
def runKind (d : Desk) (caller : Caller) (kind : JobKind) : Desk :=
  d.run caller kind.jobId kind.startMessage (.kind kind)

/-- Give up the job that runs. -/
def reset (d : Desk) : Desk :=
  let (runner, orders) := d.runner.reset
  { d with runner }.order .question orders

/-- Ask for the state of the runner's job. -/
def question (d : Desk) (epoch : Nat) : Desk :=
  match d.runner.fire epoch with
  | none => d
  | some runner => { d with runner }.call (.get d.settings.backend.jobUrl) (.question epoch)

/-- A question for the state of the runner's job has settled. -/
def settleQuestion (d : Desk) (epoch : Nat) (result : Except Fault String) : Desk :=
  let outcome := readBody JobState.decoder result
  let (runner, orders) := d.runner.answered d.settings.runner epoch outcome
  let settled := { d with runner }.order .question orders
  if d.hooked && d.runner.succeeds epoch outcome then settled.tell (.succeeded runner.view)
  else settled

end Watchdesk.Desk
