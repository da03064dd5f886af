import Antiphon.Proofs.Session.Accounts

/-!
# Reservations

The counter of pending requests is a word and would wrap without a sign. `outstanding` counts
the same thing along the history with numbers, and gives up when a completion finds nothing to
take off. The two agree in every state that a run leads to, so the word never wraps.

A task that was dropped stops counting. Its requests learn that the connection was closed, and
nobody returns their reservations: the counter stays for ever where it was
(`reservation_kept_of_dropped`).
-/

namespace Antiphon

/-- A task that is dropped, or was dropped before, leaves the counters alone. -/
theorem Ledger.Next.tally_of_dropped {ledger after : Ledger} {accepting : Bool}
    (moved : ledger.Next accepting after) (gone : after.task = .dropped) :
    after.tally = ledger.tally := by
  cases moved with
  | accepted frame text framed room taking => exact absurd gone taking.2
  | taken ticket frame rest sent running => cases running.symm.trans gone
  | fed octets frames codec running =>
    have task : (frames.foldl receive (ledger.read octets codec)).task = ledger.task :=
      (orders_receives _ frames).2.2.2
    cases (task.trans running).symm.trans gone
  | started | begun | closing | overrun | finished => cases gone
  | same | askedToClose | abandoned | dropped => rfl

namespace Session

/-- Requests that were accepted and not completed, counted event by event, latest first; `none`
once a completion takes off more than there is. -/
def outstanding : List Event → Option Nat
  | [] => some 0
  | .accepted _ _ :: earlier => (outstanding earlier).map (· + 1)
  | .completed _ _ :: earlier =>
    (outstanding earlier).bind fun count => if 0 < count then some (count - 1) else none
  | _ :: earlier => outstanding earlier

/-- Events without new requests, whose completions are covered by what was outstanding. -/
theorem outstanding_append {later earlier : List Event} {left count : Nat}
    (noRequest : later.filterMap Event.request? = [])
    (completed : (later.filterMap Event.completion?).length = count)
    (covered : outstanding earlier = some (left + count)) :
    outstanding (later ++ earlier) = some left := by
  induction later generalizing left count with
  | nil =>
    subst completed
    exact covered
  | cons event rest inductionHypothesis =>
    cases event with
    | accepted ticket frame => simp [Event.request?] at noRequest
    | completed ticket outcome =>
      have fewer : outstanding earlier =
          some (left + 1 + (rest.filterMap Event.completion?).length) := by
        rw [covered, ← completed]
        simp only [List.filterMap_cons, Event.completion?, List.length_cons, Option.some.injEq]
        omega
      have before := inductionHypothesis noRequest rfl fewer
      simp [outstanding, before]
    | _ => exact inductionHypothesis noRequest completed covered

variable {settings : Settings} {origin session : Session} {past : List (Session × Move)}

/-- A move keeps the count of what is outstanding at the number of requests that are left. -/
theorem outstanding_of_becomes {before after : Session} {accepting : Bool}
    (sound : before.ledger.Sound) (becomes : Becomes before accepting after)
    (counted : outstanding before.history = some before.ledger.left.length) :
    outstanding after.history = some after.ledger.left.length := by
  have next := next_of_sound sound becomes
  have requests := next.requests_eq
  cases accepting with
  | true =>
    cases becomes with
    | accepted frame text framed room taking =>
      rw [ledger_accept, Ledger.left_accept, List.length_append]
      change (outstanding before.history).map (· + 1) = _
      rw [counted]
      rfl
  | false =>
    obtain ⟨later, grown⟩ := becomes.suffix
    have noRequest : later.filterMap Event.request? = [] := by
      have same : gather Event.request? after.history = gather Event.request? before.history :=
        requests
      rw [← grown, gather_append, List.append_right_eq_self] at same
      simpa [gather] using same
    have completed : after.completions.length =
        before.completions.length + (later.filterMap Event.completion?).length := by
      simp [completions, ← grown, gather]
    have total : after.completions.length + after.ledger.left.length = after.requests.length :=
      (sound.next next).length_add
    have earlier : before.completions.length + before.ledger.left.length =
        before.requests.length := sound.length_add
    have same : after.requests.length = before.requests.length := congrArg List.length requests
    rw [← grown]
    apply outstanding_append noRequest rfl
    rw [counted]
    congr 1
    omega

/-- Along a run no completion ever takes off more than there is. -/
theorem Run.outstanding_eq (run : Run origin past session) (sound : origin.ledger.Sound)
    (counted : outstanding origin.history = some origin.ledger.left.length) :
    outstanding session.history = some session.ledger.left.length := by
  have both := run.preserves
    (fun session => session.ledger.Sound ∧
      outstanding session.history = some session.ledger.left.length)
    ⟨sound, counted⟩
    fun becomes held =>
      ⟨held.1.next (next_of_sound held.1 becomes), outstanding_of_becomes held.1 becomes held.2⟩
  exact both.2

/-- While the published state is connected, a message that can be framed is refused for want of
room if and only if the limit is reached. -/
theorem send_full_iff {text : Except Json.Fault Octets} {frame : Octets}
    (connected : session.lifecycle = .connected)
    (framed : frameMessage text session.settings.maxPayload = .ok frame)
    (within : session.tally.pending.toNat ≤ session.settings.maxInFlight.toNat) :
    (∃ limit, (session.send text).1 = .error (.tooManyInFlight limit)) ↔
      session.tally.pending = session.settings.maxInFlight := by
  rw [send, if_pos connected, framed]
  simp only [sendFrame_eq]
  by_cases room : session.tally.pending < session.settings.maxInFlight
  · have unequal : session.tally.pending ≠ session.settings.maxInFlight := by
      intro equal
      rw [equal] at room
      exact absurd room (UInt64.lt_irrefl _)
    by_cases taking : session.takesCommands <;> simp [room, taking, unequal]
  · have reached : session.settings.maxInFlight.toNat ≤ session.tally.pending.toNat :=
      Nat.le_of_not_lt fun below => room (UInt64.lt_iff_toNat_lt.mpr below)
    have equal : session.tally.pending = session.settings.maxInFlight :=
      UInt64.toNat_inj.mp (Nat.le_antisymm within reached)
    simp [equal]

/-- A reservation that is given back at once was there to be given back. -/
theorem one_le_of_reserve {tally reserved : Tally} {limit : UInt64}
    (room : tally.reserve limit = some reserved) : 1 ≤ reserved.pending.toNat := by
  unfold Tally.reserve at room
  split at room
  · next below =>
    cases room
    have fits : tally.pending.toNat < limit.toNat := UInt64.lt_iff_toNat_lt.mp below
    have bound : limit.toNat < 2 ^ 64 := limit.toNat_lt
    simp only [UInt64.toNat_add, UInt64.reduceToNat]
    omega
  · cases room

/-- Nothing is pending once the task has ended, whatever is tried afterwards. -/
theorem pending_of_ended (sound : session.ledger.Sound) (ended : session.task = .ended)
    {more : List (Session × Move)} {later : Session} (run : Run session more later) :
    later.tally.pending = 0 := by
  have ended : later.ledger.task = .ended :=
    run.preserves_ledger (fun ledger => ledger.task = .ended) sound ended
      fun _ next ended => next.ended ended
  have kept := run.sound sound
  have number : later.tally.pending.toNat = later.ledger.left.length :=
    kept.counted.1 (by simp [ended])
  rw [kept.spent (.inl ended)] at number
  exact UInt64.toNat_inj.mp number

/-- The counter of pending requests agrees with everything else that tells how many there are. -/
structure Reserved (past : List (Session × Move)) (session : Session) : Prop where
  /-- It is the number of commands that were not taken and of requests that wait, -/
  placed : session.tally.pending.toNat =
    (untaken session.commands).length + session.pending.waiting.length
  /-- and that of the sends that returned less that of the completions. -/
  accepted : session.tally.pending.toNat + session.completions.length = sendsAccepted past
  /-- No completion has taken off more than there was. -/
  covered : outstanding session.history = some session.tally.pending.toNat

/-- As long as the task is there the counter is exact. -/
theorem Run.reserved (run : Run origin past session) (opened : Opened settings origin)
    (present : session.task ≠ .dropped) : Reserved past session := by
  have start := sound_of_opened opened
  have sound := run.sound start
  have fresh : outstanding origin.history = some origin.ledger.left.length ∧
      origin.requests.length = 0 := by
    obtain ⟨outlet, task, _, rfl⟩ := opened
    exact ⟨rfl, rfl⟩
  have number : session.tally.pending.toNat = session.ledger.left.length :=
    sound.counted.1 present
  have parts : session.ledger.left.length =
      session.pending.waiting.length + (untaken session.commands).length :=
    List.length_append
  have total : session.completions.length + session.ledger.left.length =
      session.requests.length := sound.length_add
  have sends := run.length_requests start
  rw [fresh.2] at sends
  refine ⟨by omega, by omega, ?_⟩
  rw [number]
  exact run.outstanding_eq start fresh.1

/-- Nothing moves the counters of a task that was dropped. -/
theorem Run.tally_of_dropped (run : Run origin past session) (sound : origin.ledger.Sound)
    (gone : origin.task = .dropped) : session.tally = origin.tally := by
  have kept := run.preserves_ledger
    (fun ledger => ledger.task = .dropped ∧ ledger.tally = origin.tally) sound ⟨gone, rfl⟩
    fun _ next held =>
      have still := next.dropped_of_dropped held.1
      ⟨still, (next.tally_of_dropped still).trans held.2⟩
  exact kept.2

/-- A task that was dropped was dropped at one point of the run, and the counters are what they
were there. -/
theorem Run.kept_of_dropped (run : Run origin past session) (opened : Opened settings origin)
    (gone : session.task = .dropped) :
    ∃ before leaving move later, past = before ++ (leaving, move) :: later ∧
      leaving.task ≠ .dropped ∧ (∀ stage ∈ later, stage.1.task = .dropped) ∧
      session.tally = leaving.tally := by
  have fresh : ¬ origin.task = .dropped := by
    obtain ⟨outlet, task, early, rfl⟩ := opened
    rcases early with rfl | rfl <;> simp [new]
  obtain ⟨before, leaving, move, next, later, rfl, earlier, made, onward, present, left, after⟩ :=
    run.exists_turn (fun state => state.task = .dropped) fresh gone
  have sound := earlier.sound (sound_of_opened opened)
  have moved := next_of_sound sound (becomes_of_make made)
  have same : next.tally = leaving.tally := moved.tally_of_dropped left
  exact ⟨before, leaving, move, later, rfl, present, after,
    (onward.tally_of_dropped (sound.next moved) left).trans same⟩

/-- The counter of pending requests is exact in every state of every run, whatever callers, the
peer and the stream do, as long as the task is there: it agrees with the places of the requests and
with what callers have seen of them (`Reserved`). A task that is dropped leaves the counter as it
was at this point. In any case the counter keeps to the limit and never wraps; a send is refused for
want of room if and only if the limit is reached; and nothing is pending from the moment at which
the end is published. -/
theorem reservations_exact (opened : Opened settings origin) (run : Run origin past session) :
    session.tally.pending ≤ settings.maxInFlight ∧
      (session.task ≠ .dropped → Reserved past session) ∧
      (session.task = .dropped → ∃ before leaving move later,
        past = before ++ (leaving, move) :: later ∧ leaving.task ≠ .dropped ∧
          (∀ stage ∈ later, stage.1.task = .dropped) ∧ Reserved before leaving ∧
          session.tally.pending = leaving.tally.pending) ∧
      (∀ reserved, session.tally.reserve settings.maxInFlight = some reserved →
        1 ≤ reserved.pending.toNat) ∧
      (∀ text frame, session.lifecycle = .connected →
        frameMessage text settings.maxPayload = .ok frame →
        ((∃ limit, (session.send text).1 = .error (.tooManyInFlight limit)) ↔
          session.tally.pending = settings.maxInFlight)) ∧
      (.closed ∈ session.states →
        ∀ more later, Run session more later → later.tally.pending = 0) := by
  have sound := run.sound (sound_of_opened opened)
  have chosen : session.settings = settings := Reachable.settings_eq ⟨origin, past, opened, run⟩
  have within : session.tally.pending.toNat ≤ session.settings.maxInFlight.toNat :=
    sound.counted.2
  refine ⟨?_, run.reserved opened, fun gone => ?_, fun _ room => one_le_of_reserve room, ?_, ?_⟩
  · rw [← chosen]
    exact UInt64.le_iff_toNat_le.mpr within
  · obtain ⟨before, leaving, move, later, rfl, present, after, kept⟩ :=
      run.kept_of_dropped opened gone
    exact ⟨before, leaving, move, later, rfl, present, after, run.divide.1.reserved opened present,
      congrArg Tally.pending kept⟩
  · intro text frame connected framed
    rw [← chosen] at framed ⊢
    exact send_full_iff connected framed within
  · intro published more later after
    exact pending_of_ended sound (sound.told published) after

/-- A link with room for one request, after one send. -/
theorem reservations_exact_of_one_send :
    ∃ origin past session,
      Opened (Settings.default.withMaxInFlight 1) origin ∧ Run origin past session ∧
        session.tally.pending.toNat + session.completions.length = 1 ∧
        sendsAccepted past = 1 ∧
        ∃ limit, (session.send (.ok [0x7b, 0x7d])).1 = .error (.tooManyInFlight limit) := by
  let origin : Session := .new (Settings.default.withMaxInFlight 1) .unlimited .ready
  have opened : Opened (Settings.default.withMaxInFlight 1) origin := ⟨_, _, .inr rfl, rfl⟩
  have run := Run.step (.stay : Run origin [] origin)
    (rfl : origin.make? (.send (.ok [0x7b, 0x7d])) = some _)
  obtain ⟨_, counted, _, _, full, _⟩ := reservations_exact opened run
  refine ⟨origin, _, _, opened, run, ?_, rfl, (full _ _ rfl rfl).mpr rfl⟩
  exact (counted (by decide)).accepted

/-- A task that is dropped keeps the reservation of a request that is over. The request was taken,
it is completed, nothing waits, and one request is counted as pending. -/
theorem reservation_kept_of_dropped :
    ∃ origin past session, Opened Settings.default origin ∧ Run origin past session ∧
      sendsAccepted past = 1 ∧ session.completions.length = 1 ∧
      (untaken session.commands).length + session.pending.waiting.length = 0 ∧
      session.tally.pending = 1 := by
  let origin : Session := .new Settings.default .unlimited .ready
  let moves : List Move := [.send (.ok [0x31]), .begin, .takeCommand, .doom, .drop]
  have shown : (origin.play? moves).map (fun run =>
      (sendsAccepted run.1, run.2.completions.length,
        (untaken run.2.commands).length + run.2.pending.waiting.length, run.2.tally.pending)) =
      some (1, 1, 0, 1) := by
    decide +kernel
  obtain ⟨⟨past, session⟩, played, seen⟩ := Option.map_eq_some_iff.mp shown
  simp only [Prod.mk.injEq] at seen
  obtain ⟨_, run⟩ := play?_eq_some_iff.mp played
  exact ⟨origin, past, session, ⟨_, _, .inr rfl, rfl⟩, run, seen⟩

end Session

end Antiphon
