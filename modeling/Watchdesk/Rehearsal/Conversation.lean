import Watchdesk.Backend.Pursuit
import Watchdesk.Rehearsal.Script

/-!
# Conversations with a scripted backend

Requests that are sent one after another, each settled before the next one. Only pauses take time.
-/

namespace Watchdesk.Rehearsal

/-- A request that was sent, and when. -/
structure Sent where
  time : Nat
  request : Request
deriving Repr, Inhabited

/-- A conversation: how requests are repeated, what is answered, and the time. -/
structure Conversation where
  settings : BackendSettings
  script : Script
  now : Nat := 0

/-- What a request came to: what was sent, and the body of the reply or a fault. -/
structure Exchange where
  sent : List Sent := []
  result : Except Fault String

namespace Conversation

/-- Send a request until it is settled. -/
def send (c : Conversation) (request : Request) : Exchange × Conversation :=
  let line := Line.ofRequest request
  let answers := fun n => (c.script.cue line n).answer.to request
  match request with
  | .post _ _ =>
    ({ sent := [⟨c.now, request⟩], result := Retry.triggered (answers 0) },
      { c with script := c.script.drop line 1 })
  | .get _ =>
    let p := Retry.pursue c.settings answers (fun _ => 0) 0 c.now
    ({ sent := p.asked.map fun t => ⟨t, request⟩, result := p.result },
      { c with script := c.script.drop line p.asked.length, now := p.settledAt })

/-- Ask for a part of a list; nothing is sent if it has no address. -/
def list (c : Conversation) (q : ListQuery) : Exchange × Conversation :=
  match c.settings.listUrl q with
  | .ok url => c.send (.get url)
  | .error fault => ({ result := .error fault }, c)

end Conversation

end Watchdesk.Rehearsal
