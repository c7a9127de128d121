import Watchdesk.Proofs.Backend.Retrying
import Watchdesk.Proofs.Export.Clerk

/-!
# Failures that pass

A question that fails for the moment is asked again. As long as no question fails more often than
the settings allow, an export does not notice: it makes the moves that it makes without the
failures, and only its questions are sent more often.
-/

namespace Watchdesk

namespace Export

/-- What is heard of a failure that passes: the failure, and the end of the pause after it, unless
the question is sent again at once. -/
def passing (settings : BackendSettings) (closed : Bool) (failure : Except Fault Reply) :
    List Hearing :=
  ⟨closed, .answered failure⟩ ::
    if settings.retryDelay = 0 then [] else [⟨closed, .rested⟩]

/-- In the second list, failures that pass come before the replies of the first one: before each
reply no more than a question is asked again. -/
inductive Delayed (settings : BackendSettings) : List Hearing → List Hearing → Prop where
  | nil : Delayed settings [] []
  | reply {left right : List Hearing} {failures : List (Except Fault Reply)} {reply : Reply}
      (closed : Bool) (final : reply.isTransient = false)
      (few : failures.length ≤ settings.retries) (pass : ∀ failure ∈ failures, Retry.passes failure)
      (later : Delayed settings left right) :
      Delayed settings (⟨closed, .answered (.ok reply)⟩ :: left)
        (failures.flatMap (passing settings closed) ++ ⟨closed, .answered (.ok reply)⟩ :: right)
  | saved {left right : List Hearing} (closed : Bool) (saved : Except Fault String)
      (later : Delayed settings left right) :
      Delayed settings (⟨closed, .saved saved⟩ :: left) (⟨closed, .saved saved⟩ :: right)

end Export

open Export

namespace Clerk

variable {settings : Settings} {order : ExportOrder} {c e : Clerk} {quest : Quest}
  {attempts : Nat} {failures : List (Except Fault Reply)}

/-- A clerk that waits for no answer hears none, and has no pauses. -/
theorem hear_of_deaf (deaf : ∀ quest attempts, c.wait ≠ some (.answer quest attempts))
    {hearing : Hearing} (other : ∀ saved, hearing.word ≠ .saved saved) :
    c.hear settings order hearing = c := by
  cases waits : c.wait with
  | none => exact hear_of_returned waits hearing
  | some wait =>
    cases wait with
    | answer quest attempts => exact absurd waits (deaf quest attempts)
    | file artifact rows total =>
      obtain ⟨closed, word⟩ := hearing
      cases word with
      | answered answer => exact hear_of_no_deed waits rfl
      | rested => exact hear_of_no_deed waits rfl
      | saved saved => exact absurd rfl (other saved)

theorem hear_failures_of_deaf (deaf : ∀ quest attempts, c.wait ≠ some (.answer quest attempts))
    (failures : List (Except Fault Reply)) (closed : Bool) :
    (failures.flatMap (passing settings.backend closed)).foldl (hear settings order) c = c := by
  have heard : ∀ hearing ∈ failures.flatMap (passing settings.backend closed),
      ∀ saved, hearing.word ≠ .saved saved := by
    intro hearing member saved
    obtain ⟨failure, -, own⟩ := List.mem_flatMap.mp member
    unfold passing at own
    rcases List.mem_cons.mp own with rfl | paused
    · simp
    · split at paused
      · cases paused
      · cases List.mem_singleton.mp paused
        simp
  generalize failures.flatMap (passing settings.backend closed) = hearings at heard
  induction hearings with
  | nil => rfl
  | cons hearing hearings ih =>
    obtain ⟨first, others⟩ := List.forall_mem_cons.mp heard
    rw [List.foldl_cons, hear_of_deaf deaf first]
    exact ih others

/-- A failure that passes costs an attempt, and nothing else. -/
theorem hear_passing (settings : Settings) (order : ExportOrder)
    (waits : c.wait = some (.answer quest attempts))
    (few : attempts < settings.backend.retries) {failure : Except Fault Reply}
    (passes : Retry.passes failure) (closed : Bool) :
    let e := (passing settings.backend closed failure).foldl (hear settings order) c
    e.wait = some (.answer quest (attempts + 1)) ∧ e.moves = c.moves := by
  have repeated : (c.perform .repeats).wait = some (.answer quest (attempts + 1)) := by
    unfold perform Deed.wait
    rw [waits]
    rfl
  have unmoved : (c.perform .repeats).moves = c.moves := by
    rw [moves_perform]
    exact List.append_nil _
  have judged := Retry.judge_of_passes passes few
  unfold passing
  split
  · next instant =>
    have done : (Wait.answer quest attempts).deed settings order ⟨closed, .answered failure⟩ =
        some .repeats := by
      rw [Wait.deed_of_again settings order quest closed judged, instant, Nat.zero_mul]
      rfl
    dsimp only [List.foldl_cons, List.foldl_nil]
    rw [hear_of_deed waits done]
    exact ⟨repeated, unmoved⟩
  · next slow =>
    have idle : (Wait.answer quest attempts).deed settings order ⟨closed, .answered failure⟩ =
        none := by
      rw [Wait.deed_of_again settings order quest closed judged]
      exact if_neg (Retry.sleepFor_ne_zero slow attempts)
    dsimp only [List.foldl_cons, List.foldl_nil]
    rw [hear_of_no_deed waits idle, hear_of_deed waits rfl]
    exact ⟨repeated, unmoved⟩

theorem hear_failures (settings : Settings) (order : ExportOrder)
    (waits : c.wait = some (.answer quest attempts))
    (few : attempts + failures.length ≤ settings.backend.retries)
    (pass : ∀ failure ∈ failures, Retry.passes failure) (closed : Bool) :
    let e := (failures.flatMap (passing settings.backend closed)).foldl (hear settings order) c
    e.wait = some (.answer quest (attempts + failures.length)) ∧ e.moves = c.moves := by
  induction failures generalizing c attempts with
  | nil => exact ⟨waits, rfl⟩
  | cons failure failures ih =>
    rw [List.length_cons] at few
    obtain ⟨first, others⟩ := List.forall_mem_cons.mp pass
    obtain ⟨waiting, unmoved⟩ := hear_passing settings order waits (by omega) first closed
    have rest := ih waiting (by omega) others
    rw [List.flatMap_cons, List.foldl_append]
    refine ⟨?_, rest.2.trans unmoved⟩
    rw [rest.1, List.length_cons, Nat.add_assoc, Nat.add_comm 1]

/-- Two clerks that have made the same moves and wait for the same thing, for the first time. -/
structure Abreast (c e : Clerk) : Prop where
  moves : e.moves = c.moves
  wait : e.wait = c.wait
  fresh : ∀ quest attempts, c.wait = some (.answer quest attempts) → attempts = 0

theorem Abreast.of_move (same : e.moves = c.moves) (move : Move) :
    Abreast (c.perform (.moves move)) (e.perform (.moves move)) where
  moves := by
    rw [moves_perform, moves_perform, same]
  wait := rfl
  fresh := by
    intro quest attempts waits
    have waiting : move.next.wait = some (.answer quest attempts) := waits
    cases next : move.next <;> rw [next] at waiting <;> cases waiting
    rfl

/-- A reply that is final is taken alike, however often its question was sent. -/
theorem Abreast.reply (abreast : Abreast c e) {reply : Reply} (final : reply.isTransient = false)
    (few : failures.length ≤ settings.backend.retries)
    (pass : ∀ failure ∈ failures, Retry.passes failure) (closed : Bool) :
    Abreast (c.hear settings order ⟨closed, .answered (.ok reply)⟩)
      (((failures.flatMap (passing settings.backend closed)).foldl (hear settings order) e).hear
        settings order ⟨closed, .answered (.ok reply)⟩) := by
  -- A clerk that waits for no answer hears neither the failures nor the reply.
  by_cases asks : ∃ quest attempts, c.wait = some (.answer quest attempts)
  · obtain ⟨quest, attempts, waits⟩ := asks
    have first := abreast.fresh quest attempts waits
    subst first
    have also := abreast.wait.trans waits
    obtain ⟨waiting, unmoved⟩ := hear_failures settings order also (by omega) pass closed
    have settled : Retry.passes (.ok reply) = false := final
    have done (attempts : Nat) :=
      Wait.deed_of_settled settings order quest closed (Retry.judge_of_final settled attempts)
    rw [hear_of_deed waits (done 0), hear_of_deed waiting (done _)]
    exact .of_move (unmoved.trans abreast.moves) _
  · have deaf : ∀ quest attempts, c.wait ≠ some (.answer quest attempts) := by
      intro quest attempts waits
      exact asks ⟨quest, attempts, waits⟩
    have also : ∀ quest attempts, e.wait ≠ some (.answer quest attempts) := by
      rw [abreast.wait]
      exact deaf
    rw [hear_failures_of_deaf also, hear_of_deaf deaf (by simp), hear_of_deaf also (by simp)]
    exact abreast

theorem Abreast.saved (abreast : Abreast c e) (closed : Bool) (saved : Except Fault String) :
    Abreast (c.hear settings order ⟨closed, .saved saved⟩)
      (e.hear settings order ⟨closed, .saved saved⟩) := by
  cases waits : c.wait with
  | none =>
    rw [hear_of_returned waits, hear_of_returned (abreast.wait.trans waits)]
    exact abreast
  | some wait =>
    have also := abreast.wait.trans waits
    cases wait with
    | answer quest attempts =>
      rw [hear_of_no_deed waits rfl, hear_of_no_deed also rfl]
      exact abreast
    | file artifact rows total =>
      rw [hear_of_deed waits rfl, hear_of_deed also rfl]
      exact .of_move abreast.moves _

theorem Abreast.delayed (abreast : Abreast c e) {left right : List Hearing}
    (delayed : Delayed settings.backend left right) :
    Abreast (left.foldl (hear settings order) c) (right.foldl (hear settings order) e) := by
  induction delayed generalizing c e with
  | nil => exact abreast
  | reply closed final few pass later ih =>
    rw [List.foldl_append]
    exact ih (abreast.reply final few pass closed)
  | saved closed saved later ih => exact ih (abreast.saved closed saved)

/-- An export does not notice failures that pass. -/
theorem attend_delayed {left right : List Hearing}
    (delayed : Delayed settings.backend left right) :
    Abreast (attend settings order left) (attend settings order right) :=
  (Abreast.of_move rfl _).delayed delayed

end Clerk

end Watchdesk
