import Watchdesk.Desk.Exporting
import Watchdesk.Desk.Running
import Watchdesk.Desk.Watching

/-!
# What happens to a desk

The three things that a desk waits for: an answer to a call, the time of work on the agenda, and
the end of the pause before a call is sent again.
-/

namespace Watchdesk.Desk

/-- Do with a result what a task says. -/
def settle (d : Desk) (task : Task) (result : Except Fault String) : Desk :=
  match task with
  | .poll feed caller => d.settlePoll feed caller result
  | .start epoch caller anyReply =>
    let outcome := if anyReply then result.map fun _ => ()
      else (readBody TriggerReply.decoder result).map fun _ => ()
    d.settleStart epoch caller outcome
  | .question epoch => d.settleQuestion epoch result
  | .probe order => d.settleProbe order result
  | .batch order run => d.settleBatch order run result

/-- Send the request of a call again. -/
def resend (d : Desk) (call : Call) : Desk :=
  let again := { call with attempts := call.attempts + 1 }
  { d with
    calls := d.calls.map fun c => if c.ticket = call.ticket then again else c
    outbox := d.outbox ++ [.send call.ticket call.request] }

/-- Let a call pause before its request is sent again. Without a pause it is sent at once. -/
def pause (d : Desk) (call : Call) (span : Nat) : Desk :=
  if span = 0 then d.resend call
  else { d with pauses := Agenda.place ⟨call.ticket, d.now + span⟩ d.pauses }

/-- The answer to a trigger: any reply is a result if it does not matter what the reply says. -/
def triggerResult (task : Task) (answer : Except Fault Reply) : Except Fault String :=
  match task with
  | .start _ _ true => answer.map Reply.body
  | _ => Retry.triggered answer

/-- The answer to a call has come. -/
def answer (d : Desk) (ticket : Nat) (answer : Except Fault Reply) : Desk :=
  match d.calls.find? fun c => c.ticket == ticket with
  | none => d
  | some call =>
    match call.request with
    | .post _ _ => (d.forget ticket).settle call.task (triggerResult call.task answer)
    | .get _ =>
      match Retry.judge d.settings.backend call.attempts answer with
      | .settled result => (d.forget ticket).settle call.task result
      | .again span => d.pause call span

/-- The pause of a call is over. -/
def resume (d : Desk) (ticket : Nat) : Desk :=
  match d.calls.find? fun c => c.ticket == ticket with
  | none => d
  | some call => d.resend call

/-- The time of work on the agenda has come. -/
def ring (d : Desk) (duty : Duty) : Desk :=
  match duty with
  | .poll feed number => (d.withStore feed ((d.store feed).fire number)).poll feed none
  | .question epoch => d.question epoch
  | .removal notice => (d.dismiss notice).2

end Watchdesk.Desk
