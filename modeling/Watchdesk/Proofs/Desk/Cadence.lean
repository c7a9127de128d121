import Watchdesk.Proofs.Desk.Pulse
import Mathlib.Data.List.Chain

/-!
# How often a store is polled

While a store is observed and nobody polls it, its fetches follow one another: each begins when the
pause after the one before is over, however long that one took and whoever joined and left
meanwhile. The pause after a fetch of the job depends on the last state that was reported, also
when the fetch itself failed. With settings that make sense, all pauses take some time, so that
there are no more fetches than the time that passes allows.
-/

namespace Watchdesk

/-- A fetch begins, or it settles and a pause follows. -/
inductive Beat where
  | begins (time : Nat)
  | settles (time pause : Nat)
deriving DecidableEq, Repr

namespace Beat

/-- The time of a beat. -/
def time : Beat → Nat
  | .begins time | .settles time _ => time

/-- A fetch begins. -/
def isBegin : Beat → Bool
  | .begins _ => true
  | .settles _ _ => false

/-- What comes after a beat: a fetch that has begun settles, and after one that has settled the
next one begins as soon as the pause is over. -/
def Next : Beat → Beat → Prop
  | .begins time, .settles later _ => time ≤ later
  | .settles time pause, .begins later => later = time + pause
  | .begins _, .begins _ | .settles _ _, .settles _ _ => False

/-- A pause that follows takes some time. -/
def Rests : Beat → Prop
  | .begins _ => True
  | .settles _ pause => 0 < pause

/-- From one beat to the next there is time for the beginnings of fetches. -/
theorem time_of_next {first second : Beat} (next : first.Next second) (rests : first.Rests) :
    first.time + second.isBegin.toNat ≤ second.time := by
  cases first with
  | begins time =>
    cases second with
    | begins later => cases next
    | settles later pause => exact next
  | settles time pause =>
    cases second with
    | begins later =>
      have due : later = time + pause := next
      have some : 0 < pause := rests
      show time + 1 ≤ later
      omega
    | settles later pause => cases next

/-- Between the first beat and the last there is time for all fetches that begin. -/
theorem count_begins {first : Beat} {beats : List Beat} (chain : (first :: beats).IsChain Next)
    (rests : ∀ beat ∈ first :: beats, beat.Rests) :
    first.time + beats.countP isBegin ≤ ((first :: beats).getLast (List.cons_ne_nil _ _)).time := by
  induction beats generalizing first with
  | nil => exact Nat.le_refl _
  | cons second beats ih =>
    obtain ⟨next, chain⟩ := List.isChain_cons_cons.mp chain
    have gap := time_of_next next (rests first List.mem_cons_self)
    have later := ih chain fun beat member => rests beat (List.mem_cons_of_mem _ member)
    rw [List.getLast_cons_cons, List.countP_cons]
    cases begun : second.isBegin with
    | false =>
      rw [begun] at gap
      simp only [Bool.toNat_false] at gap
      simp only [Bool.false_eq_true, if_false]
      omega
    | true =>
      rw [begun] at gap
      simp only [Bool.toNat_true] at gap
      simp only [if_true]
      omega

end Beat

namespace Desk

variable {settings : Settings} {feed : Feed} {d e : Desk}

/-! ## The beats of a store -/

/-- What the fetches for a store do at an event, when a state of the job was the last one that was
reported until then. -/
def beatsIn (d : Desk) (feed : Feed) (reported : Option JobState) (event : Event) : List Beat :=
  let e := d.step event
  ((d.fetches feed).filter (· ∉ e.fetches feed)).map
      (fun _ => .settles d.now (feed.pause d.settings.polling reported)) ++
    ((e.fetches feed).filter (· ∉ d.fetches feed)).map fun _ => .begins d.now

/-- What the fetches for a store do in the course of a desk's life, after some states of the job
were reported. -/
def beats (d : Desk) (feed : Feed) (jobs : List JobState) : List Event → List Beat
  | [] => []
  | event :: events =>
    let heard := jobs ++ d.replies [event]
    d.beatsIn feed heard.getLast? event ++ (d.step event).beats feed heard events

/-- Somebody observes a store all the time, nobody polls it without waiting for its time, and no
poll that has become due is kept waiting. -/
def Watched (d : Desk) (feed : Feed) : List Event → Prop
  | [] => (d.store feed).observers ≠ []
  | event :: events =>
    (d.store feed).observers ≠ [] ∧ event.asks ≠ some feed ∧ d.Punctual feed event ∧
      (d.step event).Watched feed events

instance decidablePunctual (d : Desk) (feed : Feed) (event : Event) :
    Decidable (d.Punctual feed event) :=
  match event with
  | .pass _ => List.decidableBAll _ _
  | .subscribe _ _ | .unsubscribe _ _ | .watch _ _ _ | .unwatch _ | .poll _ _ | .run _ _ _ _
  | .reset | .notify _ | .dismiss _ | .guestObserves _ | .requestExport _ | .serve _ _ | .shutDown
  | .visit _ _ | .ring | .resume | .answer _ _ | .settleSaving _ _ | .handOut | .hear =>
    isTrue trivial

instance decidableWatched (d : Desk) (feed : Feed) (events : List Event) :
    Decidable (d.Watched feed events) :=
  match events with
  | [] => inferInstanceAs (Decidable (_ ≠ _))
  | event :: events =>
    have := decidableWatched (d.step event) feed events
    inferInstanceAs (Decidable (_ ∧ _ ∧ _ ∧ _))

theorem Watched.present {events : List Event} (watched : d.Watched feed events) :
    (d.store feed).observers ≠ [] := by
  cases events with
  | nil => exact watched
  | cons event events => exact watched.1

/-- Where a store is after its last beat: a fetch is under way, or the next poll is on the
agenda and its time is not over. -/
def Paced (d : Desk) (feed : Feed) : Option Beat → Prop
  | none => True
  | some (.begins time) => d.fetches feed ≠ [] ∧ time ≤ d.now
  | some (.settles time pause) =>
    d.fetches feed = [] ∧ d.now ≤ time + pause ∧
      ∃ number, d.timers feed = [⟨number, time + pause⟩]

/-- An event brings a beat, which is the next one, or none. -/
theorem Paced.step {reported : Option JobState} {event : Event} {last : Option Beat}
    (paced : d.Paced feed last)
    (pulse : Pulse feed (feed.pause d.settings.polling reported) d (d.step event)) :
    d.beatsIn feed reported event = [] ∧ (d.step event).Paced feed last ∨
      ∃ beat, d.beatsIn feed reported event = [beat] ∧ beat.time = d.now ∧
        (∀ before ∈ last, before.Next beat) ∧ (d.step event).Paced feed (some beat) := by
  unfold beatsIn
  dsimp only
  cases pulse with
  | none fetches waits now punctual =>
    left
    rw [fetches]
    refine ⟨by simp, ?_⟩
    cases last with
    | none => trivial
    | some beat =>
      cases beat with
      | begins time => exact ⟨fetches ▸ paced.1, Nat.le_trans paced.2 now⟩
      | settles time pause =>
        obtain ⟨idle, early, number, armed⟩ := paced
        refine ⟨fetches.trans idle, ?_, number, (waits idle).trans armed⟩
        rcases punctual ⟨number, time + pause⟩ (by simp [armed]) with same | before
        · exact same ▸ early
        · exact before
  | begins now come idle fetches =>
    right
    obtain ⟨ticket, one⟩ := fetches
    rw [idle, one]
    refine ⟨.begins d.now, by simp, rfl, ?_, by simp [one], Nat.le_of_eq now.symm⟩
    rintro beat before
    obtain ⟨alarm, armed, due⟩ := come
    subst before
    cases beat with
    | begins time => exact absurd idle paced.1
    | settles time pause =>
      obtain ⟨-, early, number, waits⟩ := paced
      rw [armed] at waits
      cases waits
      exact Nat.le_antisymm early due
  | settles now fetches idle waits =>
    right
    obtain ⟨ticket, one⟩ := fetches
    obtain ⟨number, armed⟩ := waits
    rw [idle, one]
    refine ⟨.settles d.now (feed.pause d.settings.polling reported), by simp, rfl, ?_, idle, ?_,
      number, armed⟩
    · rintro beat before
      subst before
      cases beat with
      | begins time => exact paced.2
      | settles time pause =>
        have none := paced.1
        rw [one] at none
        cases none
    · rw [now]
      exact Nat.le_add_right _ _

/-! ## A stretch of a desk's life -/

/-- The beats of a store between two desks follow a last beat, and one another, in time. -/
structure Cadence (feed : Feed) (d e : Desk) (last : Option Beat) (beats : List Beat) : Prop where
  chain : (last.toList ++ beats).IsChain Beat.Next
  paced : e.Paced feed (beats.getLast?.or last)
  now : d.now ≤ e.now
  times : ∀ beat ∈ beats, d.now ≤ beat.time ∧ beat.time ≤ e.now

theorem Cadence.nil {last : Option Beat} (paced : d.Paced feed last) :
    Cadence feed d d last [] where
  chain := by cases last <;> simp
  paced := paced
  now := Nat.le_refl _
  times := nofun

/-- Nothing happens before. -/
theorem Cadence.later {last : Option Beat} {beats : List Beat} (now : d.now ≤ e.now)
    (rest : Cadence feed e f last beats) : Cadence feed d f last beats where
  chain := rest.chain
  paced := rest.paced
  now := Nat.le_trans now rest.now
  times := fun beat member =>
    ⟨Nat.le_trans now (rest.times beat member).1, (rest.times beat member).2⟩

/-- One more beat comes before. -/
theorem Cadence.cons {last : Option Beat} {beat : Beat} {beats : List Beat} (now : d.now ≤ e.now)
    (time : beat.time = d.now) (next : ∀ before ∈ last, before.Next beat)
    (rest : Cadence feed e f (some beat) beats) : Cadence feed d f last (beat :: beats) where
  chain := by
    cases last with
    | none => exact rest.chain
    | some before => exact List.isChain_cons_cons.mpr ⟨next before rfl, rest.chain⟩
  paced := by
    have whole := rest.paced
    rw [List.getLast?_cons]
    cases final : beats.getLast? with
    | none =>
      rw [final] at whole
      exact whole
    | some other =>
      rw [final] at whole
      exact whole
  now := Nat.le_trans now rest.now
  times := by
    intro other member
    rcases List.mem_cons.mp member with rfl | member
    · exact ⟨Nat.le_of_eq time.symm, time ▸ Nat.le_trans now rest.now⟩
    · exact ⟨Nat.le_trans now (rest.times other member).1, (rest.times other member).2⟩

theorem Pulse.now_le {pause : Nat} (pulse : Pulse feed pause d e) : d.now ≤ e.now := by
  cases pulse with
  | none fetches waits now punctual => exact now
  | begins now come idle fetches => exact Nat.le_of_eq now.symm
  | settles now fetches idle waits => exact Nat.le_of_eq now.symm

/-- While a store is watched its beats keep to their cadence, whatever came before. -/
theorem Orderly.cadence (orderly : Orderly settings d)
    (poised : ∀ events, Poised feed (d.live events)) {jobs : List JobState}
    (known : d.jobs.snapshot.job = jobs.getLast?) {events : List Event}
    (watched : d.Watched feed events) {last : Option Beat} (paced : d.Paced feed last) :
    Cadence feed d (d.live events) last (d.beats feed jobs events) := by
  induction events generalizing d jobs last with
  | nil => exact .nil paced
  | cons event events ih =>
    obtain ⟨present, unasked, punctual, watched⟩ := watched
    have next : (d.step event).jobs.snapshot.job = (jobs ++ d.replies [event]).getLast? :=
      orderly.live_known known [event]
    have pulse := orderly.step_pulse (poised []) present watched.present unasked punctual
    rw [next, ← orderly.settings] at pulse
    have rest {final : Option Beat} (paced : (d.step event).Paced feed final) :=
      ih (orderly.moves (step_moves d event)) (fun more => poised (event :: more)) next watched
        paced
    rw [live_cons, beats]
    rcases paced.step pulse with ⟨none, paced⟩ | ⟨beat, one, time, follows, paced⟩
    · rw [none, List.nil_append]
      exact (rest paced).later pulse.now_le
    · rw [one, List.singleton_append]
      exact (rest paced).cons pulse.now_le time follows

/-! ## Settings that make sense -/

theorem Orderly.beats_rest (orderly : Orderly settings d) (sensible : settings.complaint = none)
    (jobs : List JobState) (events : List Event) :
    ∀ beat ∈ d.beats feed jobs events, beat.Rests := by
  induction events generalizing d jobs with
  | nil => nofun
  | cons event events ih =>
    intro beat member
    rcases List.mem_append.mp member with now | later
    · rcases List.mem_append.mp now with settled | begun
      · obtain ⟨ticket, -, rfl⟩ := List.mem_map.mp settled
        show 0 < feed.pause d.settings.polling _
        rw [orderly.settings]
        exact Feed.pause_pos sensible feed _
      · obtain ⟨ticket, -, rfl⟩ := List.mem_map.mp begun
        trivial
    · exact ih (orderly.moves (step_moves d event)) _ beat later

/-- There are no more fetches than the time that passes allows. -/
theorem Cadence.count_begins {beats : List Beat} (cadence : Cadence feed d e none beats)
    (rests : ∀ beat ∈ beats, beat.Rests) : beats.countP Beat.isBegin ≤ e.now - d.now + 1 := by
  cases beats with
  | nil => exact Nat.zero_le _
  | cons first beats =>
    have counted := Beat.count_begins cadence.chain rests
    have early := (cadence.times first List.mem_cons_self).1
    have late := (cadence.times _ (List.getLast_mem (List.cons_ne_nil first beats))).2
    have most : (first :: beats).countP Beat.isBegin ≤ beats.countP Beat.isBegin + 1 := by
      rw [List.countP_cons]
      split <;> omega
    omega

/-- In any stretch of a desk's life in which a store is observed throughout and nobody polls it, on
a clock that keeps no poll waiting, and whoever joins and leaves meanwhile: the fetches for the
store follow one another one at a time, and each begins exactly when the pause after the one before
is over. If a fetch was the last to settle, its pause is not over yet, and the next poll is on the
agenda, once. The pause is that after the last state of the job that was reported, also if that was
before the stretch. If the settings make sense, every pause takes some time, and there are no more
fetches than the time that passes allows. -/
theorem live_cadence (settings : Settings) (hooked : Bool) (feed : Feed)
    (earlier stretch : List Event)
    (watched : ((ofSettings settings hooked).live earlier).Watched feed stretch) :
    let d := (ofSettings settings hooked).live earlier
    let e := d.live stretch
    let beats := d.beats feed ((ofSettings settings hooked).replies earlier) stretch
    beats.IsChain Beat.Next ∧
    (∀ time pause, beats.getLast? = some (.settles time pause) →
      e.now ≤ time + pause ∧ ∃ number, e.timers feed = [⟨number, time + pause⟩]) ∧
    (settings.complaint = none →
      (∀ time pause, .settles time pause ∈ beats → 0 < pause) ∧
      beats.countP Beat.isBegin ≤ e.now - d.now + 1) := by
  intro d e beats
  have orderly : Orderly settings d := (ofSettings_orderly settings hooked).moves (live_moves _ _)
  have poised (events : List Event) : Poised feed (d.live events) := by
    rw [← live_append]
    exact live_poised settings hooked feed (earlier ++ events)
  have unknown : (ofSettings settings hooked).jobs.snapshot.job = [].getLast? := rfl
  have known := (ofSettings_orderly settings hooked).live_known unknown earlier
  have cadence : Cadence feed d e none beats := orderly.cadence poised known watched trivial
  refine ⟨cadence.chain, ?_, ?_⟩
  · intro time pause final
    have paced := cadence.paced
    rw [final] at paced
    exact paced.2
  · intro sensible
    have rests : ∀ beat ∈ beats, beat.Rests := orderly.beats_rest sensible _ stretch
    exact ⟨fun time pause member => rests _ member, cadence.count_begins rests⟩

/-- The job is running while a poll of it fails and the first of two observers goes, and it is
polled no later for that. -/
theorem live_cadence_of_outage :
    let d := (ofSettings {} false).live [.subscribe .job .announcer]
    let stretch := [.ring,
      .answer 1 (.ok ⟨200, "\x7b\"status\":\"running\",\"job_id\":\"j\"\x7d"⟩),
      .pass 1500, .subscribe .job .keeper, .pass 500, .ring, .unsubscribe .job 0, .pass 300,
      .answer 2 (.ok ⟨404, ""⟩), .pass 2000, .ring]
    d.Watched .job stretch ∧
    d.beats .job [] stretch = [.begins 0, .settles 0 2000, .begins 2000, .settles 2300 2000,
      .begins 4300] ∧
    (d.beats .job [] stretch).IsChain Beat.Next := by
  intro d stretch
  have watched : d.Watched .job stretch := by decide +kernel
  have beats : d.beats .job [] stretch = [.begins 0, .settles 0 2000, .begins 2000,
      .settles 2300 2000, .begins 4300] := by decide +kernel
  have cadence := live_cadence {} false .job [.subscribe .job .announcer] stretch watched
  exact ⟨watched, beats, cadence.1⟩

end Desk

end Watchdesk
