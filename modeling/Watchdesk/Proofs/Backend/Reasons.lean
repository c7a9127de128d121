import Watchdesk.Proofs.Backend.Retrying

/-!
# The reasons of refusals

A reply that refuses may offer several reasons, and the best one that has any words should be told:
the text that the reply is, the member `detail`, the member `message`. A detail without words keeps
a message from being heard. That is the only reason that is lost, and there is always something to
tell.
-/

namespace Watchdesk.Reply

/-! ## One JSON value -/

/-- The words of a member: a text itself, and the JSON text of any other value but `null`. -/
def wording : Json → Option String
  | .null => none
  | .string s => some s
  | value => some value.compact

/-- The reasons that a JSON value offers, the best one first. -/
def offers (payload : Json) : List String :=
  payload.asString?.toList ++ ((payload.get? "detail").bind wording).toList ++
    ((payload.get? "message").bind Json.asString?).toList

/-- The best reason that has any words. -/
def best? (payload : Json) : Option String := (offers payload).find? (· ≠ "")

/-- A message with words behind a detail that is a text without any. -/
structure Mutes (payload : Json) (message : String) : Prop where
  empty : (payload.get? "detail").bind Json.asString? = some ""
  offered : (payload.get? "message").bind Json.asString? = some message
  audible : message ≠ ""

variable {payload : Json} {message : String}

theorem wording_eq_empty_iff (detail : Json) :
    wording detail = some "" ↔ detail.asString? = some "" := by
  cases detail <;> simp [wording, Json.asString?, Json.compact_ne_empty]

/-- A value that is no text tells the words of its detail, even if there are none. -/
theorem reason_of_detail (bare : payload.asString? = none) {words : String}
    (worded : (payload.get? "detail").bind wording = some words) : reason payload = words := by
  obtain ⟨detail, found, own⟩ := Option.bind_eq_some_iff.mp worded
  cases payload with
  | string s => cases bare
  | object members =>
    cases detail with
    | null => cases own
    | _ =>
      cases own
      simp [reason, found]
  | _ => cases found

/-- A value that is no text, and whose detail has no wording, tells its message. -/
theorem reason_of_message (bare : payload.asString? = none)
    (wordless : (payload.get? "detail").bind wording = none) :
    reason payload = ((payload.get? "message").bind Json.asString?).getD "" := by
  cases payload with
  | string s => cases bare
  | object members =>
    have nothing : (Json.object members).get? "detail" = none ∨
        (Json.object members).get? "detail" = some .null := by
      rcases found : (Json.object members).get? "detail" with - | detail
      · exact .inl rfl
      · rw [found] at wordless
        cases detail with
        | null => exact .inr rfl
        | _ => cases wordless
    rcases offered : (Json.object members).get? "message" with - | message
    · rcases nothing with found | found <;> simp [reason, found, offered]
    · rcases nothing with found | found <;> cases message <;>
        simp [reason, found, offered, Json.asString?]
  | _ => rfl

/-- A message behind a detail without words is lost. -/
theorem Mutes.lost (mutes : Mutes payload message) :
    reason payload = "" ∧ best? payload = some message := by
  obtain ⟨empty, offered, audible⟩ := mutes
  obtain ⟨detail, found, text⟩ := Option.bind_eq_some_iff.mp empty
  have worded : (payload.get? "detail").bind wording = some "" := by
    rw [found]
    exact (wording_eq_empty_iff detail).mpr text
  have bare : payload.asString? = none := by
    cases payload with
    | string s => cases found
    | _ => rfl
  refine ⟨reason_of_detail bare worded, ?_⟩
  simp [best?, offers, bare, worded, offered, audible]

/-- Any other reason is told if it is the best one. -/
theorem best?_of_heard (heard : ∀ message, ¬ Mutes payload message) :
    best? payload = if reason payload = "" then none else some (reason payload) := by
  rcases bare : payload.asString? with - | s
  · rcases worded : (payload.get? "detail").bind wording with - | words
    · rw [reason_of_message bare worded]
      rcases offered : (payload.get? "message").bind Json.asString? with - | message
      · simp [best?, offers, bare, worded, offered]
      · by_cases empty : message = "" <;> simp [best?, offers, bare, worded, offered, empty]
    · rw [reason_of_detail bare worded]
      by_cases audible : words = ""
      · subst audible
        obtain ⟨detail, found, empty⟩ := Option.bind_eq_some_iff.mp worded
        have silent : (payload.get? "detail").bind Json.asString? = some "" := by
          rw [found]
          exact (wording_eq_empty_iff detail).mp empty
        rcases offered : (payload.get? "message").bind Json.asString? with - | message
        · simp [best?, offers, bare, worded, offered]
        · have empty : message = "" := by
            by_contra audible
            exact heard message ⟨silent, offered, audible⟩
          simp [best?, offers, bare, worded, offered, empty]
      · simp [best?, offers, bare, worded, audible]
  · cases payload with
    | string text =>
      by_cases empty : text = "" <;>
        simp [best?, offers, reason, Json.asString?, Json.get?, empty]
    | _ => cases bare

/-! ## Replies -/

/-- The value in the body, if it is a JSON text. -/
def payload? (r : Reply) : Option Json := (Json.parse r.body).toOption

/-- The best reason of a reply, or what is said of a reply that gives none. -/
def bestReason (r : Reply) : String := (r.payload?.bind best?).getD r.bareReason

theorem bareReason_ne_empty (r : Reply) : r.bareReason ≠ "" := by
  unfold bareReason
  intro empty
  have none := congrArg String.toList empty
  rw [String.toList_append] at none
  exact absurd (List.append_eq_nil_iff.mp none).2 (by decide)

theorem detail_eq (r : Reply) : r.detail = (r.payload?.bind fun payload =>
    if reason payload = "" then none else some (reason payload)).getD r.bareReason := by
  unfold detail payload?
  cases parsed : Json.parse r.body with
  | error fault => rfl
  | ok payload => by_cases empty : reason payload = "" <;> simp [Except.toOption, empty]

/-- Whatever the body of a reply that refuses, the fault has the status of the reply and some words:
those of its best reason, if no detail without words stands before a message. A message behind such
a detail is lost. The same fault is what a trigger comes to that gets the reply, and a question
whose last answer is the reply. -/
theorem refusal_reason (r : Reply) (refused : r.isSuccess = false) :
    ∃ detail, r.fault = .refused (some r.status) detail ∧ detail ≠ "" ∧
      ((∀ payload message, r.payload? = some payload → ¬ Mutes payload message) →
        detail = r.bestReason) ∧
      (∀ payload message, r.payload? = some payload → Mutes payload message →
        detail = r.bareReason ∧ r.bestReason = message) ∧
      Retry.triggered (.ok r) = .error r.fault ∧
      ∀ settings answers latency now,
        let p := Retry.pursue settings answers latency 0 now
        answers (p.asked.length - 1) = .ok r → p.result = .error r.fault := by
  have triggered : Retry.triggered (.ok r) = .error r.fault := by simp [Retry.triggered, refused]
  refine ⟨r.detail, rfl, ?_, ?_, ?_, triggered, ?_⟩
  · rw [detail_eq]
    rcases r.payload? with - | payload
    · exact r.bareReason_ne_empty
    · by_cases empty : reason payload = "" <;> simp [empty, r.bareReason_ne_empty]
  · intro heard
    rw [detail_eq, bestReason]
    rcases found : r.payload? with - | payload
    · rfl
    · have best := best?_of_heard fun message => heard payload message found
      simp only [Option.bind_some, best]
  · intro payload message found mutes
    obtain ⟨lost, best⟩ := mutes.lost
    rw [detail_eq, bestReason]
    simp [found, lost, best]
  · intro settings answers latency now p last
    obtain ⟨count, few, passing, final⟩ := Retry.exists_last settings answers
    have whole : p = _ := Retry.pursue_of_first now latency few passing final
    have sent : p.asked.length - 1 = count := by simp [whole]
    rw [sent] at last
    rw [whole, last]
    exact triggered

/-- A detail of another kind than text is told before a message. -/
theorem refusal_reason_of_locations :
    let r : Reply :=
      ⟨422, "\x7b\"message\": \"late\", \"detail\": \x7b\"loc\": [\"date\"]\x7d\x7d"⟩
    r.isSuccess = false ∧ r.fault = .refused (some 422) "\x7b\"loc\":[\"date\"]\x7d" := by
  intro r
  have refused : r.isSuccess = false := by decide
  have worded : (r.payload?.bind (·.get? "detail")).bind Json.asString? = none := by decide +kernel
  have best : r.bestReason = "\x7b\"loc\":[\"date\"]\x7d" := by decide +kernel
  obtain ⟨detail, told, -, heard, -⟩ := refusal_reason r refused
  have own : detail = r.bestReason := by
    apply heard
    intro payload message found mutes
    have silent := mutes.empty
    rw [found, Option.bind_some] at worded
    cases worded.symm.trans silent
  refine ⟨refused, ?_⟩
  rw [told, own, best]

/-- A reply whose message is lost. -/
theorem refusal_without_message :
    let r : Reply := ⟨502, "\x7b\"detail\": \"\", \"message\": \"proxy down\"\x7d"⟩
    r.isSuccess = false ∧ r.bestReason = "proxy down" ∧
      r.fault = .refused (some 502) "Request failed (502)" := by
  decide +kernel

end Watchdesk.Reply
