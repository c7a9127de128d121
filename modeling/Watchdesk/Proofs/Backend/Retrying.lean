import Watchdesk.Backend.Pursuit
import Mathlib.Order.Nat
import Mathlib.Tactic.Ring

/-!
# Questions that are asked again

Whether an answer settles a question depends on the answer and on how often the question was asked
before. An answer that may pass has the question asked again as long as the settings allow; any
other answer is the last one, and so is the one that comes when the question was asked often enough.
The last answer alone decides what the question comes to.
-/

namespace Watchdesk.Retry

/-- The same question may get a better answer later. -/
def passes : Except Fault Reply → Bool
  | .error _ => true
  | .ok reply => reply.isTransient

variable {settings : BackendSettings} {attempts : Nat} {answer : Except Fault Reply}

theorem not_isSuccess_of_isTransient {reply : Reply} (transient : reply.isTransient) :
    reply.isSuccess = false := by
  simp only [Reply.isTransient, Bool.or_eq_true, beq_iff_eq, Bool.and_eq_true,
    decide_eq_true_eq] at transient
  simp only [Reply.isSuccess, Bool.and_eq_false_iff, decide_eq_false_iff_not]
  omega

theorem judge_of_passes (passing : passes answer) (few : attempts < settings.retries) :
    judge settings attempts answer = .again (sleepFor (settings.retryDelay * (attempts + 1))) := by
  have again (fault : Fault) : judge.retry settings attempts fault =
      .again (sleepFor (settings.retryDelay * (attempts + 1))) :=
    if_neg (Nat.not_le.mpr few)
  cases answer with
  | error fault => exact again fault
  | ok reply =>
    have failed := not_isSuccess_of_isTransient passing
    have transient : reply.isTransient = true := passing
    unfold judge
    dsimp only
    rw [failed, transient]
    exact again reply.fault

/-- Pauses that are set up take time. -/
theorem sleepFor_ne_zero (slow : settings.retryDelay ≠ 0) (attempts : Nat) :
    sleepFor (settings.retryDelay * (attempts + 1)) ≠ 0 := by
  have positive : 0 < settings.retryDelay * (attempts + 1) :=
    Nat.mul_pos (Nat.pos_of_ne_zero slow) (Nat.succ_pos attempts)
  unfold sleepFor longestSleep
  omega

/-- What an answer that is final comes to does not depend on the attempts before it. -/
theorem judge_of_final (final : passes answer = false) (attempts : Nat) :
    judge settings attempts answer = .settled (triggered answer) := by
  cases answer with
  | error fault => cases final
  | ok reply =>
    have lasting : reply.isTransient = false := final
    cases success : reply.isSuccess <;> simp [judge, triggered, success, lasting]

/-- When a question was asked often enough, any answer is final. -/
theorem judge_of_spent (spent : settings.retries ≤ attempts) (answer : Except Fault Reply) :
    judge settings attempts answer = .settled (triggered answer) := by
  cases passing : passes answer with
  | false => exact judge_of_final passing attempts
  | true =>
    have given (fault : Fault) : judge.retry settings attempts fault = .settled (.error fault) :=
      if_pos spent
    cases answer with
    | error fault => exact given fault
    | ok reply =>
      have failed := not_isSuccess_of_isTransient passing
      have transient : reply.isTransient = true := passing
      simp [judge, triggered, failed, transient, given]

theorem judge_of_success {reply : Reply} (success : reply.isSuccess = true) (attempts : Nat) :
    judge settings attempts (.ok reply) = .settled (.ok reply.body) := by
  unfold judge
  dsimp only
  rw [if_pos success]

/-- A question is only settled by a body if a reply succeeds. -/
theorem success_of_judge {body : String}
    (settled : judge settings attempts answer = .settled (.ok body)) :
    ∃ reply, answer = .ok reply ∧ reply.isSuccess = true ∧ reply.body = body := by
  have refused (fault : Fault) :
      judge.retry settings attempts fault ≠ .settled (.ok body) := by
    unfold judge.retry
    split <;> simp
  unfold judge at settled
  cases answer with
  | error fault => exact absurd settled (refused fault)
  | ok reply =>
    dsimp only at settled
    split_ifs at settled with success transient
    · cases settled
      exact ⟨reply, rfl, success, rfl⟩
    · exact absurd settled (refused reply.fault)
    · cases settled

variable {α : Type} (d : Decoder α)

theorem readBody_eq_ok_iff {body : String} {value : α} :
    readBody d (.ok body) = .ok value ↔ d.read body = .ok value := by
  unfold readBody
  dsimp only
  cases d.read body <;> simp

/-- An answer that is final settles a question by the value in its body, by the lack of one, or by a
refusal. -/
theorem readBody_of_final (final : passes answer = false) : ∃ reply, answer = .ok reply ∧
    let result := readBody d (triggered answer)
    (reply.isSuccess = false → result = .error reply.fault) ∧
      (reply.isSuccess → ∀ value, d.read reply.body = .ok value → result = .ok value) ∧
      (reply.isSuccess → ∀ fault, d.read reply.body = .error fault →
        result = .error .unreadable) := by
  cases answer with
  | error fault => cases final
  | ok reply =>
    refine ⟨reply, rfl, ?_, ?_, ?_⟩
    · intro refused
      simp [triggered, refused, readBody]
    · intro success value read
      simp [triggered, success, readBody, read]
    · intro success fault read
      simp [triggered, success, readBody, read]

/-- An answer that may pass settles a question, if it has to, by its own fault. -/
theorem readBody_of_passes (passing : passes answer) :
    let result := readBody d (triggered answer)
    (∀ fault, answer = .error fault → result = .error fault) ∧
      (∀ reply, answer = .ok reply → result = .error reply.fault) := by
  constructor
  · rintro fault rfl
    rfl
  · rintro reply rfl
    have failed := not_isSuccess_of_isTransient passing
    simp [triggered, failed, readBody]

/-! ## One question, however it is answered -/

variable {answers : Nat → Except Fault Reply} {latency : Nat → Nat} {now span : Nat}

theorem pursue_of_settled {result : Except Fault String}
    (settled : judge settings attempts (answers attempts) = .settled result) :
    pursue settings answers latency attempts now =
      { asked := [now], settledAt := now + latency attempts, result } := by
  rw [pursue]
  split
  · next given =>
    cases settled.symm.trans given
    rfl
  · next again => cases settled.symm.trans again

theorem pursue_of_again (again : judge settings attempts (answers attempts) = .again span) :
    pursue settings answers latency attempts now =
      let rest := pursue settings answers latency (attempts + 1) (now + latency attempts + span)
      { rest with asked := now :: rest.asked } := by
  rw [pursue]
  split
  · next given => cases again.symm.trans given
  · next paused =>
    cases again.symm.trans paused
    rfl

/-- When a question is asked for the time after so many others, if it comes to that: the pause
begins when the answer before it has come. -/
def moment (settings : BackendSettings) (latency : Nat → Nat) (now : Nat) : Nat → Nat
  | 0 => now
  | count + 1 =>
    moment settings latency now count + latency count +
      sleepFor (settings.retryDelay * (count + 1))

/-- A question is asked until the first answer that is final, or as often as the settings allow. -/
theorem pursue_of_last {count : Nat} (now : Nat) (latency : Nat → Nat)
    (few : attempts + count ≤ settings.retries)
    (passing : ∀ i, attempts ≤ i → i < attempts + count → passes (answers i))
    (last : settings.retries ≤ attempts + count ∨ passes (answers (attempts + count)) = false) :
    pursue settings answers latency attempts (moment settings latency now attempts) =
      { asked := (List.range' attempts (count + 1)).map (moment settings latency now)
        settledAt := moment settings latency now (attempts + count) + latency (attempts + count)
        result := triggered (answers (attempts + count)) } := by
  induction count generalizing attempts with
  | zero =>
    refine pursue_of_settled ?_
    rcases last with spent | final
    · exact judge_of_spent spent _
    · exact judge_of_final final _
  | succ count ih =>
    have shifted : attempts + (count + 1) = attempts + 1 + count := by omega
    rw [shifted] at few passing last ⊢
    have first := passing attempts (Nat.le_refl _) (by omega)
    have again : judge settings attempts (answers attempts) = _ :=
      judge_of_passes first (by omega)
    have rest := ih few (fun i after before => passing i (by omega) before) last
    rw [pursue_of_again again]
    exact congrArg
      (fun p : Pursuit => { p with asked := moment settings latency now attempts :: p.asked }) rest

/-- Every question has a last answer: the first that is final, or the one after which it is not
asked again. -/
theorem exists_last (settings : BackendSettings) (answers : Nat → Except Fault Reply) :
    ∃ count ≤ settings.retries, (∀ i < count, passes (answers i)) ∧
      (settings.retries ≤ count ∨ passes (answers count) = false) := by
  by_cases settles : ∃ count, passes (answers count) = false
  · let first := Nat.find settles
    refine ⟨min first settings.retries, Nat.min_le_right _ _, ?_, ?_⟩
    · intro i before
      have sooner : i < first := by omega
      simpa using Nat.find_min settles sooner
    · rcases Nat.le_total settings.retries first with spent | few
      · left
        omega
      · right
        rw [Nat.min_eq_left few]
        exact Nat.find_spec settles
  · refine ⟨settings.retries, Nat.le_refl _, ?_, Or.inl (Nat.le_refl _)⟩
    intro i _
    by_contra final
    exact settles ⟨i, by simpa using final⟩

/-- The pauses of a question whose answers come at once add up. -/
theorem moment_of_immediate (immediate : ∀ i, latency i = 0) {count : Nat}
    (short : settings.retryDelay * count ≤ longestSleep) :
    moment settings latency now count =
      now + settings.retryDelay * (count * (count + 1) / 2) := by
  induction count with
  | zero => simp [moment]
  | succ count ih =>
    have shorter : settings.retryDelay * count ≤ longestSleep :=
      Nat.le_trans (Nat.mul_le_mul_left _ (Nat.le_succ count)) short
    have next : (count + 1) * (count + 1 + 1) / 2 = count * (count + 1) / 2 + (count + 1) := by
      have split : (count + 1) * (count + 1 + 1) = count * (count + 1) + (count + 1) * 2 := by
        ring
      rw [split, Nat.add_mul_div_right _ _ (by decide)]
    calc
      moment settings latency now (count + 1)
      _ = now + settings.retryDelay * (count * (count + 1) / 2) + 0 +
          settings.retryDelay * (count + 1) := by
        rw [moment, ih shorter, immediate, sleepFor, Nat.min_eq_left short]
      _ = now + settings.retryDelay * (count * (count + 1) / 2 + (count + 1)) := by ring
      _ = _ := by rw [next]

theorem pursue_of_first {count : Nat} (now : Nat) (latency : Nat → Nat)
    (few : count ≤ settings.retries) (passing : ∀ i < count, passes (answers i))
    (last : settings.retries ≤ count ∨ passes (answers count) = false) :
    pursue settings answers latency 0 now =
      { asked := (List.range (count + 1)).map (moment settings latency now)
        settledAt := moment settings latency now count + latency count
        result := triggered (answers count) } := by
  rw [← Nat.zero_add count] at few passing last
  have whole := pursue_of_last now latency few (fun i _ before => passing i before) last
  rwa [Nat.zero_add, ← List.range_eq_range'] at whole

/-- A question is asked until the first answer that is final, which alone decides what it comes to:
the value in the body of the reply if there is one, a fault of its own if the body cannot be read,
and the fault of the reply if that refuses. A question without such an answer is asked once more
than it may be repeated, and its last answer says why it failed. The first time is now; each time
after it comes when the answer before it has come and a pause is over, which is as long as the
settings say, times the number of times the question was asked, but never longer than a clock can
sleep. The question is settled when its last answer comes. So if all answers come at once, the
pauses add up. -/
theorem pursue_settles (settings : BackendSettings) (d : Decoder α)
    (answers : Nat → Except Fault Reply) (latency : Nat → Nat) (now : Nat) :
    let p := pursue settings answers latency 0 now
    let result := readBody d p.result
    let sent := p.asked.length
    (∀ k ≤ settings.retries, passes (answers k) = false → (∀ i < k, passes (answers i)) →
        sent = k + 1 ∧ ∃ reply, answers k = .ok reply ∧
          (reply.isSuccess = false → result = .error reply.fault) ∧
          (reply.isSuccess → ∀ value, d.read reply.body = .ok value → result = .ok value) ∧
          (reply.isSuccess → ∀ fault, d.read reply.body = .error fault →
            result = .error .unreadable)) ∧
      ((∀ i ≤ settings.retries, passes (answers i)) →
        sent = settings.retries + 1 ∧
          (∀ fault, answers settings.retries = .error fault → result = .error fault) ∧
          (∀ reply, answers settings.retries = .ok reply → result = .error reply.fault)) ∧
      p.asked.head? = some now ∧
      (∀ i one next, p.asked[i]? = some one → p.asked[i + 1]? = some next →
        next = one + latency i + min (settings.retryDelay * (i + 1)) longestSleep) ∧
      (∀ last, p.asked.getLast? = some last → p.settledAt = last + latency (sent - 1)) ∧
      ((∀ i, latency i = 0) → settings.retryDelay * (sent - 1) ≤ longestSleep →
        p.settledAt = now + settings.retryDelay * (sent * (sent - 1) / 2)) := by
  intro p result sent
  have whole {count : Nat} := @pursue_of_first settings answers count now latency
  obtain ⟨count, few, passing, last⟩ := exists_last settings answers
  have times (i time : Nat) (asked : p.asked[i]? = some time) :
      time = moment settings latency now i := by
    rw [show p = _ from whole few passing last, List.getElem?_map] at asked
    obtain ⟨j, found, rfl⟩ := Option.map_eq_some_iff.mp asked
    obtain ⟨-, rfl⟩ := List.getElem?_eq_some_iff.mp found
    simp
  have sendings : sent = count + 1 := by simp [sent, p, whole few passing last]
  have ending : p.settledAt = moment settings latency now count + latency count := by
    simp [p, whole few passing last]
  refine ⟨?_, ?_, ?_, ?_, ?_, ?_⟩
  · intro k few final passing
    have same : p = _ := whole few passing (Or.inr final)
    refine ⟨by simp [sent, same], ?_⟩
    have outcome : result = readBody d (triggered (answers k)) := by simp only [result, same]
    rw [outcome]
    exact readBody_of_final d final
  · intro passing
    have earlier (i : Nat) (before : i < settings.retries) := passing i (Nat.le_of_lt before)
    have same : p = _ := whole (Nat.le_refl _) earlier (Or.inl (Nat.le_refl _))
    have outcome : result = readBody d (triggered (answers settings.retries)) := by
      simp only [result, same]
    refine ⟨by simp [sent, same], ?_⟩
    rw [outcome]
    exact readBody_of_passes d (passing _ (Nat.le_refl _))
  · simp [p, whole few passing last, List.range_succ_eq_map, moment]
  · intro i one next first second
    rw [times i one first, times (i + 1) next second]
    rfl
  · intro final asked
    rw [List.getLast?_eq_getElem?] at asked
    rw [ending, times _ final asked]
    simp [show p.asked.length = count + 1 from sendings, sendings]
  · intro immediate short
    rw [sendings, Nat.add_sub_cancel] at short ⊢
    rw [ending, moment_of_immediate immediate short, immediate, Nat.mul_comm (count + 1)]
    rfl

end Watchdesk.Retry
