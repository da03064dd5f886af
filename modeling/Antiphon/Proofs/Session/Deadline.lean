import Antiphon.Proofs.Session.Aftermath
import Antiphon.Proofs.Session.Cancellation
import Antiphon.Proofs.Session.Closing
import Antiphon.Proofs.Session.SlowPeer
import Antiphon.Session.Schedule

/-!
# Closing takes no longer than it may

A task that was asked to end waits for its writer, and it waits for nothing else. When nobody can
move any more, it still waits only if the writer is there and the time that its settings give it is
not over, however the stream behaves. Until then every request that waits goes on waiting, and
nothing is read; from then on the session is closed, and these requests know it.

Somebody has to wait. A task that is dropped while it waits leaves the session closing for ever
(`closing_for_ever_of_dropped`).
-/

namespace Antiphon

/-- A duration in nanoseconds. -/
def Duration.total (duration : Duration) : Nat :=
  duration.seconds * 1000000000 + duration.nanoseconds

/-- No ticket that is left has an outcome. -/
theorem PendingQueue.InLine.outcome?_of_mem {completions : List (Ticket × Outcome)}
    {left : List Ticket} {queue : PendingQueue} (line : InLine completions left queue)
    {ticket : Ticket} (member : ticket ∈ left) : queue.outcome? ticket = none := by
  rw [line.settled, Option.map_eq_none_iff]
  cases found : completions[ticket]? with
  | none => rfl
  | some completion =>
    have same : completion.1 = ticket := line.getElem?_completions found
    have before : ticket ∈ completions.map Prod.fst :=
      List.mem_map.mpr ⟨completion, List.mem_of_getElem? found, same⟩
    exact absurd rfl ((List.nodup_append.mp line.nodup).2.2 ticket before ticket member)

namespace Session

variable {settings : Settings} {origin session leaving next : Session}
  {past before later : List (Session × Move)} {move : Move} {departure : Departure}

/-- Milliseconds that are fewer than those of a duration are shorter than it. -/
theorem lt_milliseconds_iff (elapsed : Nat) (duration : Duration) :
    elapsed < milliseconds duration ↔ elapsed * 1000000 < duration.total := by
  unfold milliseconds Duration.total
  omega

/-- A session that is published as closing has been made so by a departure. -/
theorem Run.departure_of_closing (opened : Opened settings origin) (run : Run origin past session)
    (told : .closing ∈ session.states) :
    ∃ before leaving move later departure, past = before ++ (leaving, move) :: later ∧
      leaving.departure? move = some departure ∧ departure.publishes = .closing := by
  have fresh : .closing ∉ origin.states := by
    obtain ⟨outlet, task, _, rfl⟩ := opened
    simp [states, new, gather, Event.published?]
  obtain ⟨before, leaving, move, next, later, rfl, earlier, made, _, unpublished, published, _⟩ :=
    run.exists_turn (fun state => .closing ∈ state.states) fresh told
  have reachable : Reachable settings leaving := ⟨origin, before, opened, earlier⟩
  obtain ⟨_, departure, reasoned, closing⟩ := reachable.departs_of_told unpublished made published
  exact ⟨before, leaving, move, later, departure, rfl, reasoned, closing⟩

/-- A departure that publishes closing leads to a task that waits for its writer, which it has not
stopped, and has read nothing. -/
theorem Run.exists_waiting (opened : Opened settings origin)
    (run : Run origin (before ++ (leaving, move) :: later) session)
    (reasoned : leaving.departure? move = some departure)
    (published : departure.publishes = .closing) :
    ∃ next, leaving.make? move = some next ∧ Run next later session ∧ next.ledger.Sound ∧
      next.task = .closing (leaving.clock + milliseconds leaving.settings.closeTimeout) ∧
      next.writer.phase ≠ .aborted ∧ next.chunks = leaving.chunks ∧
      next.inlet = leaving.inlet := by
  obtain ⟨earlier, next, made, onward⟩ := run.divide
  have reachable : Reachable settings leaving := ⟨origin, before, opened, earlier⟩
  have sound : next.ledger.Sound :=
    reachable.sound.next (next_of_sound reachable.sound (becomes_of_make made))
  have unstopped := reachable.unstopped (by rw [running_of_departure? reasoned]; rfl)
  refine ⟨next, made, onward, sound, ?_⟩
  cases leaves_of_departure? reasoned made with
  | closing _ rest =>
    obtain ⟨_, same⟩ := ledger_beginClosing leaving rest
    exact ⟨rfl, unstopped, congrArg Ledger.chunks same, rfl⟩
  | ending => cases published
  | failing _ _ _ failed => cases departure <;> first | exact absurd rfl failed | cases published

/-- As long as the task waits, it waits for the same time, and its writer is not stopped. -/
theorem Run.waits (run : Run origin past session) {deadline : Nat}
    (waiting : origin.task = .closing deadline) (unstopped : origin.writer.phase ≠ .aborted)
    {other : Nat} (still : session.task = .closing other) :
    other = deadline ∧ session.writer.phase ≠ .aborted := by
  have held := run.preserves
    (fun session => session.task.isServing = false ∧
      ∀ point, session.task = .closing point →
        point = deadline ∧ session.writer.phase ≠ .aborted)
    ⟨by rw [waiting]; rfl, fun point same => ⟨?_, unstopped⟩⟩ (by
      rintro before after accepting becomes ⟨left, kept⟩
      have outside := becomes.outside left
      refine ⟨outside.left left, fun point still => ?_⟩
      obtain ⟨there, unstopped⟩ := outside.waits still
      exact ⟨(kept point there).1, unstopped (kept point there).2⟩)
  · exact held.2 other still
  · exact Task.closing.inj (same.symm.trans waiting)

/-- When nobody can move, a task waits for a writer that has not ended, until a time that has not
come. -/
theorem waits_of_isSettled (settled : session.isSettled = true) {deadline : Nat}
    (waiting : session.task = .closing deadline) :
    session.clock < deadline ∧ ∀ failure, session.writer.phase ≠ .ended failure := by
  simp only [isSettled, isAble, moveTask?, Bool.and_eq_true, Bool.not_eq_true',
    Option.isNone_iff_eq_none, Option.isSome_eq_false_iff, Option.orElse_eq_orElse,
    Option.orElse_eq_or, Option.or_eq_none_iff] at settled
  obtain ⟨⟨⟨_, _, _, _, _, asleep⟩, _⟩, early⟩ := settled
  constructor
  · simp only [timeOut?, waiting] at early
    split at early
    · cases early
    · next point => exact Nat.lt_of_not_le point
  · intro failure gone
    simp [finishClosing?, waiting, gone] at asleep

/-- How a session stands whose task has left its loop, in the state of the first session, to wait
for the writer, when nobody can move any more. -/
structure Awaits (leaving session : Session) : Prop where
  /-- It is published as closing if the writer is there and the time is not over, and only then. -/
  bounded : session.lifecycle = .closing ↔ session.writer.isAlive = true ∧
    (session.clock - leaving.clock) * 1000000 < leaving.settings.closeTimeout.total
  /-- As long as it is, the requests that waited go on waiting, and none is completed; -/
  pending : session.lifecycle = .closing →
    session.pending.waiting = leaving.pending.waiting ∧
      session.completions = leaving.completions ∧
      ∀ ticket ∈ leaving.ledger.left, session.pending.outcome? ticket = none
  /-- nothing that arrives is read. -/
  unread : session.chunks = leaving.chunks ∧ leaving.inlet <+: session.inlet
  /-- Otherwise it is closed, and the requests that waited know it. -/
  closed : session.lifecycle ≠ .closing → session.lifecycle = .closed ∧
    ∀ ticket ∈ leaving.pending.waiting,
      session.pending.outcome? ticket = some (.error .connectionClosed)

section Departed

variable (opened : Opened settings origin)
  (run : Run origin (before ++ (leaving, move) :: later) session)
  (reasoned : leaving.departure? move = some departure)
  (published : departure.publishes = .closing)

include opened run reasoned published

/-- A task that has left its loop to wait for its writer reads nothing that arrives. -/
theorem unread_of_departure? :
    session.chunks = leaving.chunks ∧ leaving.inlet <+: session.inlet := by
  obtain ⟨next, _, onward, sound, waiting, _, chunks, inlet⟩ :=
    run.exists_waiting opened reasoned published
  have read := onward.unread sound (by rw [waiting]; rfl)
  rwa [chunks, inlet] at read

/-- A task that still waits when nobody can move has a reason to. -/
theorem awaits_of_closing (settled : session.isSettled = true) {deadline : Nat}
    (task : session.task = .closing deadline) : Awaits leaving session := by
  have reachable : Reachable settings session := ⟨origin, _, opened, run⟩
  have left : Reachable settings leaving := ⟨origin, before, opened, run.divide.1⟩
  obtain ⟨next, made, onward, _, waiting, unstopped, _⟩ :=
    run.exists_waiting opened reasoned published
  have closing : session.lifecycle = .closing := by
    have agrees : session.task.Agrees session.lifecycle := reachable.sound.phased
    rw [task] at agrees
    exact agrees
  obtain ⟨rfl, unstopped⟩ := onward.waits waiting unstopped task
  obtain ⟨early, unended⟩ := waits_of_isSettled settled task
  obtain ⟨_, completed, waits⟩ := (run.since_of_departure opened reasoned).1.waiting _ task
  have completed : session.completions = leaving.completions := completed
  constructor
  · have alive : session.writer.isAlive = true := by
      cases phase : session.writer.phase with
      | idle | writing | shuttingDown => rw [Writer.isAlive, phase]
      | ended failure => exact absurd phase (unended failure)
      | aborted => exact absurd phase unstopped
    -- That the clock never goes back matters to a task that is given no time at all.
    have forward : leaving.clock ≤ session.clock := (Run.cons made onward).clock_le
    have time : session.clock - leaving.clock <
        milliseconds leaving.settings.closeTimeout := by omega
    exact ⟨fun _ => ⟨alive, (lt_milliseconds_iff _ _).mp time⟩, fun _ => closing⟩
  · refine fun _ => ⟨waits, completed, fun ticket member => ?_⟩
    have outcome : leaving.pending.outcome? ticket = none :=
      left.sound.lined.outcome?_of_mem member
    have known : session.pending.outcome? ticket = (session.completions[ticket]?).map Prod.snd :=
      reachable.sound.lined.settled ticket
    have known' : leaving.pending.outcome? ticket = (leaving.completions[ticket]?).map Prod.snd :=
      left.sound.lined.settled ticket
    rw [known, completed, ← known', outcome]
  · exact unread_of_departure? opened run reasoned published
  · exact fun other => absurd closing other

/-- A task that has ended has told those that waited, and has left no writer behind. -/
theorem awaits_of_ended (task : session.task = .ended) : Awaits leaving session := by
  have reachable : Reachable settings session := ⟨origin, _, opened, run⟩
  obtain ⟨next, _, onward, _, waiting, _⟩ := run.exists_waiting opened reasoned published
  have closed : session.lifecycle = .closed := by
    have agrees : session.task.Agrees session.lifecycle := reachable.sound.phased
    rw [task] at agrees
    exact agrees
  have gone : session.writer.isAlive = false :=
    onward.gone_of_ended (by rw [waiting]; rfl) (by simp [waiting]) task
  have concluded := concluded_of_since opened run reasoned
    (run.since_of_departure opened reasoned).1 task
  have reason : departure.reason = .connectionClosed := by
    cases departure <;> first | rfl | cases published
  constructor
  · simp [closed, gone]
  · simp [closed]
  · exact unread_of_departure? opened run reasoned published
  · intro _
    refine ⟨closed, fun ticket member => ?_⟩
    rw [concluded.waited ticket member, reason]

end Departed

/-- A session is closing as long as its writer is there and its time is not over, and no longer.
Take any run, over a stream that does whatever it likes, to a session that was published as closing,
in which nobody can move. If the task was not dropped, then it has left its loop at some point to
wait for the writer, and since that point things stand as `Awaits` says. -/
theorem closing_bounded (opened : Opened settings origin) (run : Run origin past session)
    (told : .closing ∈ session.states) (settled : session.isSettled = true)
    (present : session.task ≠ .dropped) :
    ∃ before leaving move later departure, past = before ++ (leaving, move) :: later ∧
      leaving.departure? move = some departure ∧ departure.publishes = .closing ∧
      Awaits leaving session := by
  obtain ⟨before, leaving, move, later, departure, rfl, reasoned, published⟩ :=
    run.departure_of_closing opened told
  refine ⟨before, leaving, move, later, departure, rfl, reasoned, published, ?_⟩
  have left : session.task.isServing = false := (run.since_of_departure opened reasoned).1.left
  cases task : session.task with
  | held | ready | running => simp [task, Task.isServing] at left
  | dropped => exact absurd task present
  | closing deadline => exact awaits_of_closing opened run reasoned published settled task
  | ended => exact awaits_of_ended opened run reasoned published task

/-- A request is written, its answer arrives, and the flush that would complete the batch never
ends. A millisecond before the end of the five seconds nothing of this has changed. -/
theorem closing_bounded_over_hanging_flush :
    ∃ origin past session, Opened Settings.default origin ∧ Run origin past session ∧
      session.isSettled = true ∧ session.writer.isAlive = true ∧ session.clock = 4999 ∧
      session.acceptedOctets = [0, 0, 0, 2, 0x7b, 0x7d] ∧ session.lifecycle = .closing ∧
      session.pending.outcome? 0 = none ∧ session.chunks = [] := by
  let origin : Session := .new Settings.default .unlimited .ready
  let moves : List Move :=
    [.begin, .changeOutlet fun outlet => { outlet with flushHangs := true },
      .send (.ok [0x7b, 0x7d]), .takeCommand, .write, .write, .requestClose, .takeCommand,
      .deliver (.chunk [0, 0, 0, 1, 0x31]), .advance 4999]
  have shown : (origin.play? moves).map (fun run =>
      (run.2.isSettled, run.2.writer.isAlive, run.2.clock, run.2.acceptedOctets,
        decide (.closing ∈ run.2.states ∧ run.2.task ≠ .dropped),
        run.1.all fun stage => (stage.1.departure? stage.2).isNone ||
          decide ((stage.1.clock, stage.1.pending.waiting, stage.1.chunks,
            stage.1.settings.closeTimeout.total) = (0, [0], [], 5000000000)))) =
      some (true, true, 4999, [0, 0, 0, 2, 0x7b, 0x7d], true, true) := by
    decide +kernel
  obtain ⟨⟨past, session⟩, played, seen⟩ := Option.map_eq_some_iff.mp shown
  simp only [Prod.mk.injEq, decide_eq_true_eq] at seen
  obtain ⟨settled, alive, clock, written, ⟨told, present⟩, places⟩ := seen
  obtain ⟨_, run⟩ := play?_eq_some_iff.mp played
  have opened : Opened Settings.default origin := ⟨_, _, .inr rfl, rfl⟩
  obtain ⟨_, leaving, move, _, _, rfl, reasoned, _, awaits⟩ :=
    closing_bounded opened run told settled present
  have place := List.all_eq_true.mp places (leaving, move) (by simp)
  obtain ⟨start, waits, unread, limit⟩ : leaving.clock = 0 ∧ leaving.pending.waiting = [0] ∧
      leaving.chunks = [] ∧ leaving.settings.closeTimeout.total = 5000000000 := by
    simpa [reasoned] using place
  have closing : session.lifecycle = .closing :=
    awaits.bounded.mpr ⟨alive, by rw [clock, start, limit]; decide⟩
  exact ⟨origin, _, session, opened, run, settled, alive, clock, written, closing,
    (awaits.pending closing).2.2 0 (by simp [Ledger.left, ledger, waits]),
    awaits.unread.1.trans unread⟩

/-- The same without anybody to wait. The task of a session that is closing is dropped, the writer
ends and time passes, and the session is closing still. -/
theorem closing_for_ever_of_dropped :
    ∃ origin past session before leaving later, Opened Settings.default origin ∧
      Run origin past session ∧ past = before ++ (leaving, .takeCommand) :: later ∧
      leaving.departure? .takeCommand = some .asked ∧ session.isSettled = true ∧
      session.lifecycle = .closing ∧ session.writer.isAlive = false ∧
      Settings.default.closeTimeout.total ≤ (session.clock - leaving.clock) * 1000000 := by
  let origin : Session := .new Settings.default .unlimited .ready
  let moves : List Move :=
    [.begin, .requestClose, .takeCommand, .doom, .drop, .write, .write, .advance 6000]
  have shown : (origin.play? moves).map (fun run =>
      (run.2.isSettled, run.2.lifecycle, run.2.writer.isAlive, run.2.clock,
        run.1[2]?.any fun stage =>
          decide (stage.1.departure? stage.2 = some .asked ∧ stage.1.clock = 0))) =
      some (true, .closing, false, 6000, true) := by
    decide +kernel
  obtain ⟨⟨past, session⟩, played, seen⟩ := Option.map_eq_some_iff.mp shown
  simp only [Prod.mk.injEq] at seen
  obtain ⟨settled, closing, dead, clock, seen⟩ := seen
  obtain ⟨made, run⟩ := play?_eq_some_iff.mp played
  obtain ⟨leaving, divided, seen⟩ := exists_stage (congrArg (·[2]?) made) seen
  obtain ⟨reasoned, start⟩ := of_decide_eq_true seen
  exact ⟨origin, past, session, _, leaving, _, ⟨_, _, .inr rfl, rfl⟩, run, divided, reasoned,
    settled, closing, dead, by rw [clock, start]; decide⟩

end Session

end Antiphon
