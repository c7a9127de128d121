import Watchdesk.Runner

/-!
# A runner at work

A runner gives orders and does not wait for answers. A chase is a runner together with what
carries its orders out: an agenda of its own, the starts of jobs and the questions for their state
that have not settled, and a record of what the runner ever asked and whose success it told. A
request goes by the epoch of its run: a run has one start, and asks its next question after the
one before has settled.

What may happen to a chase is an event, and every list of events is a run; an event for which
nothing is there (an answer nobody waits for, a timer that is not due) does nothing. The runner of
a desk is always where such a run ends (`Desk.live_followed`).
-/

namespace Watchdesk

/-- A runner at work. -/
structure Chase where
  runner : Runner := {}
  agenda : Agenda Nat := {}
  /-- The starts that have not settled, by the epochs of their runs. -/
  starts : List Nat := []
  /-- The questions that have not settled, by the epochs of their runs. -/
  questions : List Nat := []
  /-- The questions that were ever asked, by the epochs of their runs. -/
  asked : List Nat := []
  /-- The views with which success was told. -/
  told : List RunnerView := []
deriving Repr, Inhabited

namespace Chase

/-- What may happen to a chase. -/
inductive Event where
  /-- Somebody wants a job run. -/
  | begin (jobId message : String)
  /-- Somebody has the runner give up. -/
  | reset
  /-- The start of a run settles. -/
  | started (epoch : Nat) (result : Except Fault Unit)
  /-- A question of a run settles. -/
  | answered (epoch : Nat) (outcome : Except Fault JobState)
  /-- Time passes. -/
  | pass (span : Nat)
  /-- The timer that is due fires. -/
  | fire

/-- A runner after an operation, and the operation's orders. -/
def follow (c : Chase) (change : Runner × List (Order Nat)) : Chase :=
  { c with runner := change.1, agenda := c.agenda.obeyAll change.2 }

/-- Begin a run, unless one is under way. -/
def begin (c : Chase) (jobId message : String) : Chase :=
  match c.runner.begin jobId message with
  | none => c
  | some change => { c with starts := c.starts ++ [change.1.epoch] }.follow change

/-- Settle the start of a run. -/
def started (c : Chase) (settings : RunnerSettings) (epoch : Nat)
    (result : Except Fault Unit) : Chase :=
  if epoch ∈ c.starts then
    { c with starts := c.starts.erase epoch }.follow (c.runner.started settings epoch result)
  else c

/-- Settle a question of a run. A success is told with the view that it leaves. -/
def answered (c : Chase) (settings : RunnerSettings) (epoch : Nat)
    (outcome : Except Fault JobState) : Chase :=
  if epoch ∈ c.questions then
    let change := c.runner.answered settings epoch outcome
    let told := if c.runner.succeeds epoch outcome then [change.1.view] else []
    { c with
      questions := c.questions.erase epoch
      told := c.told ++ told }.follow change
  else c

/-- Fire the timer that is due: its run asks a question, unless it is over. -/
def fire (c : Chase) : Chase :=
  match c.agenda.takeDue c.agenda.now with
  | none => c
  | some (alarm, agenda) =>
    match c.runner.fire alarm.key with
    | none => { c with agenda }
    | some runner =>
      { c with
        runner
        agenda
        questions := c.questions ++ [alarm.key]
        asked := c.asked ++ [alarm.key] }

/-- What becomes of a chase. -/
def step (settings : RunnerSettings) (c : Chase) : Event → Chase
  | .begin jobId message => c.begin jobId message
  | .reset => c.follow c.runner.reset
  | .started epoch result => c.started settings epoch result
  | .answered epoch outcome => c.answered settings epoch outcome
  | .pass span => { c with agenda := { c.agenda with now := c.agenda.now + span } }
  | .fire => c.fire

/-- What becomes of a chase in a run. -/
def run (settings : RunnerSettings) (c : Chase) (events : List Event) : Chase :=
  events.foldl (step settings) c

@[simp] theorem run_nil (settings : RunnerSettings) (c : Chase) : run settings c [] = c := rfl

@[simp] theorem run_cons (settings : RunnerSettings) (c : Chase) (event : Event)
    (events : List Event) :
    run settings c (event :: events) = run settings (c.step settings event) events := rfl

theorem run_append (settings : RunnerSettings) (c : Chase) (first second : List Event) :
    run settings c (first ++ second) = run settings (run settings c first) second :=
  List.foldl_append

end Chase

end Watchdesk
