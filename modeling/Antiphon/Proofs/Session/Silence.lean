import Antiphon.Proofs.Outbound.Transcript
import Antiphon.Proofs.Session.Aftermath

/-!
# Nothing is called after the end

Once a session is closed the stream is not called any more, whatever the writer has left. There is
one exception. A peer that closes its side leaves a writer behind that nobody hands anything to and
nobody stops. `Completes` tells which calls such a writer makes: for each of its batches it offers
what is left of it until nothing is, and flushes; then it shuts the stream down; and the first
failure is the end of it.
-/

namespace Antiphon

namespace Writer

/-- The batches that an idle writer forms of its inbox, one after the other, if nobody fills it. -/
def batches (inbox : List Octets) : List (List Octets) :=
  if inbox = [] then []
  else Batch.slicesAfter 0 (inbox.take maxBatch) :: batches (inbox.drop maxBatch)
termination_by inbox.length
decreasing_by
  have filled : inbox.length ≠ 0 := by simpa [List.length_eq_zero_iff]
  simp only [List.length_drop, maxBatch]
  omega

/-- What a writer has left to write, batch by batch; none if it is gone. -/
def agenda? (writer : Writer) : Option (List (List Octets)) :=
  match writer.phase with
  | .idle => some (batches writer.inbox)
  | .writing batch => some (batch.slices :: batches writer.inbox)
  | .shuttingDown => some []
  | .ended _ | .aborted => none

/-- The calls of a writer that completes an agenda by itself, and what is left of the agenda. It is
over, and there is none, behind a call that failed and behind the shutdown. -/
inductive Completes (agenda : Option (List (List Octets))) :
    List Call → Option (List (List Octets)) → Prop
  | nothing : Completes agenda [] agenda
  /-- All that is left of the first batch is offered, and some of it accepted. -/
  | wrote {calls : List Call} {slices : List Octets} {rest : List (List Octets)} (count : Nat)
      (earlier : Completes agenda calls (some (slices :: rest))) (left : slices ≠ [])
      (within : count + 1 ≤ slices.flatten.length) :
      Completes agenda (calls ++ [.write slices (.accepted (count + 1))])
        (some (Batch.slicesAfter (count + 1) slices :: rest))
  | unwritten {calls : List Call} {slices : List Octets} {rest : List (List Octets)}
      (answer : WriteAnswer) (error : LinkError)
      (earlier : Completes agenda calls (some (slices :: rest))) (left : slices ≠ [])
      (failed : (Call.write slices answer).failure? = some error) :
      Completes agenda (calls ++ [.write slices answer]) none
  /-- Nothing is left of the first batch. -/
  | flushed {calls : List Call} {rest : List (List Octets)}
      (earlier : Completes agenda calls (some ([] :: rest))) :
      Completes agenda (calls ++ [.flush none]) (some rest)
  | unflushed {calls : List Call} {rest : List (List Octets)} (fault : IoFault)
      (earlier : Completes agenda calls (some ([] :: rest))) :
      Completes agenda (calls ++ [.flush (some fault)]) none
  /-- Nothing is left at all. -/
  | shutDown {calls : List Call} (fault : Option IoFault)
      (earlier : Completes agenda calls (some [])) :
      Completes agenda (calls ++ [.shutdown fault]) none

variable {writer after : Writer} {outlet next : Outlet} {events : List Event}
  {agenda : Option (List (List Octets))} {calls : List Call}

/-- The batches are the inbox, cut into pieces. -/
theorem flatten_batches (inbox : List Octets) :
    (batches inbox).flatten.flatten = inbox.flatten := by
  induction inbox using batches.induct with
  | case1 =>
    rw [batches, if_pos rfl]
    rfl
  | case2 inbox filled inductionHypothesis =>
    rw [batches, if_neg filled, List.flatten_cons, List.flatten_append, inductionHypothesis,
      Batch.flatten_slicesAfter, List.drop_zero, ← List.flatten_append, List.take_append_drop]

/-- The agenda of a writer is what it holds. -/
theorem flatten_agenda {left : List (List Octets)} (there : writer.agenda? = some left)
    (emptied : writer.phase = .shuttingDown → writer.inbox = []) :
    left.flatten.flatten = writer.remaining := by
  unfold agenda? at there
  unfold remaining
  split at there <;> simp only [Option.some.injEq, reduceCtorEq] at there
  · next idle => rw [← there, idle, flatten_batches]
  · next batch busy =>
    rw [← there, busy, List.flatten_cons, List.flatten_append, flatten_batches,
      Batch.flatten_slices]
  · next ending => rw [← there, ending, emptied ending]; rfl

/-- An idle writer has the batches of its inbox to write. -/
theorem agenda?_of_idle (idle : writer.phase = .idle) :
    writer.agenda? = some (batches writer.inbox) := by
  rw [agenda?, idle]

/-- A writer in the middle of a batch has this batch to write, and those of its inbox. -/
theorem agenda?_of_writing {batch : Batch} (busy : writer.phase = .writing batch) :
    writer.agenda? = some (batch.slices :: batches writer.inbox) := by
  rw [agenda?, busy]

/-- A move of a writer that nobody hands anything to is one of its agenda. That it forms a batch, or
begins to shut down, makes no difference to what is left. -/
theorem Completes.step (completes : Completes agenda calls writer.agenda?)
    (moved : writer.step outlet = some (after, next, events)) :
    Completes agenda (calls ++ events.filterMap Event.call?) after.agenda? := by
  cases stride_of_step moved with
  | gathered idle filled =>
    rw [agenda?_of_idle idle, batches, if_neg filled] at completes
    rw [List.filterMap_nil, List.append_nil]
    exact completes
  | retired idle empty starved =>
    rw [agenda?_of_idle idle, batches, if_pos empty] at completes
    rw [List.filterMap_nil, List.append_nil]
    exact completes
  | advanced batch count _ busy left answered =>
    rw [agenda?_of_writing busy] at completes
    have onward := Completes.wrote count completes left (Outlet.count_le_of_write answered)
    rw [Batch.slices, ← Batch.slicesAfter_add] at onward
    exact onward
  | broken batch answer failure _ busy left answered failed =>
    rw [agenda?_of_writing busy] at completes
    exact .unwritten answer failure completes left (failure_of_after failed _)
  | completed batch _ busy used answered =>
    rw [agenda?_of_writing busy, used] at completes
    exact .flushed completes
  | unflushed batch fault _ busy used answered =>
    rw [agenda?_of_writing busy, used] at completes
    exact .unflushed fault completes
  | ended fault _ ending answered =>
    rw [agenda?, ending] at completes
    exact .shutDown fault completes

/-- Without an agenda nothing is called. -/
theorem Completes.of_none {left : Option (List (List Octets))}
    (completes : Completes none calls left) : calls = [] ∧ left = none := by
  induction completes with
  | nothing => exact ⟨rfl, rfl⟩
  | wrote _ _ _ _ inductionHypothesis | unwritten _ _ _ _ _ inductionHypothesis
  | flushed _ inductionHypothesis | unflushed _ _ inductionHypothesis
  | shutDown _ _ inductionHypothesis => cases inductionHypothesis.2

/-- A writer has an agenda if and only if it is there. -/
theorem agenda?_eq_none_iff : writer.agenda? = none ↔ writer.isAlive = false := by
  unfold agenda? isAlive
  cases writer.phase <;> simp

end Writer

namespace Session

variable {settings : Settings} {origin session last : Session}
  {past later : List (Session × Move)}

/-- Once the task has ended nobody calls the stream but the writer, which completes its agenda, and
nobody stops it. -/
theorem Run.completes (run : Run origin past session) (sound : origin.ledger.Sound)
    (ended : origin.task = .ended) :
    (origin.writer.phase ≠ .aborted → session.writer.phase ≠ .aborted) ∧
      ∃ more, session.calls = origin.calls ++ more ∧
        Writer.Completes origin.writer.agenda? more session.writer.agenda? := by
  induction run with
  | stay => exact ⟨id, [], (List.append_nil _).symm, .nothing⟩
  | @step past before next move earlier made inductionHypothesis =>
    obtain ⟨unstopped, more, grown, completes⟩ := inductionHypothesis
    have finished : before.task = .ended := (earlier.states_of_closed sound ended).2
    cases (becomes_of_make made).outside (by rw [finished]; rfl) with
    | aside task writer calls =>
      rw [writer, calls]
      exact ⟨unstopped, more, grown, completes⟩
    | wrote outlet events task moved calls =>
      refine ⟨fun _ => phase_ne_aborted_of_step moved, more ++ events.filterMap Event.call?, ?_,
        completes.step moved⟩
      rw [calls, grown, List.append_assoc]
    | flushed _ _ waiting | timedOut _ waiting | dropped _ waiting =>
      exact absurd (finished.symm.trans waiting) (by simp)

/-- The agenda of a writer is what it was handed and the stream has not accepted. -/
theorem Reachable.flatten_agenda (reachable : Reachable settings session)
    {agenda : List (List Octets)} (there : session.writer.agenda? = some agenda) :
    session.acceptedOctets ++ agenda.flatten.flatten = session.handed.flatten := by
  have alive : session.writer.isAlive = true := by
    by_contra dead
    rw [Writer.agenda?_eq_none_iff.mpr (by simpa using dead)] at there
    cases there
  rw [Writer.flatten_agenda there reachable.orderly.emptied, acceptedOctets_eq]
  exact reachable.carried.whole alive

/-- A peer that closes its side finds a writer that was not stopped, and leaves it so. -/
theorem Reachable.unstopped_of_byPeer (reachable : Reachable settings session) {move : Move}
    {next : Session} (reasoned : session.departure? move = some .byPeer)
    (made : session.make? move = some next) :
    next.writer.phase ≠ .aborted ∧ next.task = .ended := by
  have running := running_of_departure? reasoned
  have unstopped := reachable.unstopped (by rw [running]; rfl)
  cases leaves_of_departure? reasoned made with
  | closing _ _ asked => simp at asked
  | failing _ _ _ failed => exact absurd rfl failed
  | ending inlet =>
    have starved := congrArg Dispatch.writer
      (dispatch_endByPeer { session with inlet := inlet })
    constructor
    · exact fun stopped => unstopped ((congrArg Writer.phase starved).symm.trans stopped)
    · rw [endByPeer, finish_eq]
      rfl

/-- Nothing reaches the stream after the end. Take any run to a closed session, and any run that
goes on from there. The task has left its loop once, for one reason. If it was asked to close, was
left by its last handle, or failed in reading or writing, then no write call, no flush and no
shutdown is made any more, whatever was left unwritten. If it was left by the peer, all calls are
those of the writer that completes what it was handed: it goes on where the stream has stopped to
accept, and is not stopped itself. -/
theorem silent_after_closed (opened : Opened settings origin) (run : Run origin past session)
    (closed : session.lifecycle = .closed) (onward : Run session later last) :
    ∃ departure, departures past = [departure] ∧
      (departure ≠ .byPeer → last.calls = session.calls ∧ last.writer.isAlive = false) ∧
      (departure = .byPeer → last.writer.phase ≠ .aborted ∧
        (∀ agenda, session.writer.agenda? = some agenda →
          session.acceptedOctets ++ agenda.flatten.flatten = session.handed.flatten) ∧
        ∃ more, last.calls = session.calls ++ more ∧
          Writer.Completes session.writer.agenda? more last.writer.agenda?) := by
  have reachable : Reachable settings session := ⟨origin, past, opened, run⟩
  have ended := reachable.ended_of_closed closed
  obtain ⟨unstopped, more, grown, completes⟩ := onward.completes reachable.sound ended
  obtain ⟨before, leaving, move, afterwards, departure, rfl, reasoned, once, _⟩ :=
    (run.departs opened).2 (by rw [ended]; rfl) (by simp [ended])
  obtain ⟨earlier, next, made, rest⟩ := run.divide
  have leaves := leaves_of_departure? reasoned made
  refine ⟨departure, once, ?_, ?_⟩
  · intro ours
    have gone := rest.gone_of_ended leaves.left (leaves.gone ours) ended
    rw [Writer.agenda?_eq_none_iff.mpr gone] at completes
    obtain ⟨rfl, nothing⟩ := completes.of_none
    exact ⟨grown.trans (List.append_nil _), Writer.agenda?_eq_none_iff.mp nothing⟩
  · rintro rfl
    have left : Reachable settings leaving := ⟨origin, before, opened, earlier⟩
    obtain ⟨there, finished⟩ := left.unstopped_of_byPeer reasoned made
    have sound : next.ledger.Sound :=
      left.sound.next (next_of_sound left.sound (becomes_of_make made))
    exact ⟨unstopped ((rest.completes sound finished).1 there),
      fun _ => reachable.flatten_agenda, more, grown, completes⟩

/-- A request is half written when the peer closes its side; when the window opens again, the writer
writes the other half, flushes and shuts the stream down. Asked to close, a session whose time is up
leaves the other half unwritten. -/
theorem silent_after_closed_of_half_a_frame :
    (∃ origin past session later last, Opened Settings.default origin ∧ Run origin past session ∧
      session.lifecycle = .closed ∧ Run session later last ∧ departures past = [.byPeer] ∧
      last.calls = session.calls ++
        [.write [[0, 2, 0x7b, 0x7d]] (.accepted 4), .flush none, .shutdown none] ∧
      last.writer.phase ≠ .aborted) ∧
    ∃ origin past session later last, Opened Settings.default origin ∧ Run origin past session ∧
      session.lifecycle = .closed ∧ Run session later last ∧ departures past = [.asked] ∧
      session.acceptedOctets = [0, 0] ∧ session.handed.flatten = [0, 0, 0, 2, 0x7b, 0x7d] ∧
      last.calls = session.calls := by
  let origin : Session := .new Settings.default .unlimited .ready
  have opened : Opened Settings.default origin := ⟨_, _, .inr rfl, rfl⟩
  let halfway : List Move :=
    [.begin, .changeOutlet fun outlet => { outlet with window := some 2 },
      .send (.ok [0x7b, 0x7d]), .takeCommand, .write, .write]
  let reopened : Move := .changeOutlet fun outlet => { outlet with window := none }
  constructor
  · let moves : List Move := halfway ++ [.deliver .finish, .read]
    have shown : (origin.play? moves).bind (fun run =>
        (run.2.play? [reopened, .write, .write, .write, .write]).map fun more =>
          (run.2.lifecycle, departures run.1, more.2.calls.drop run.2.calls.length,
            decide (run.2.calls <+: more.2.calls))) =
        some (.closed, [.byPeer],
          [.write [[0, 2, 0x7b, 0x7d]] (.accepted 4), .flush none, .shutdown none], true) := by
      decide +kernel
    obtain ⟨⟨past, session⟩, played, onward⟩ := Option.bind_eq_some_iff.mp shown
    obtain ⟨⟨later, last⟩, played', seen⟩ := Option.map_eq_some_iff.mp onward
    simp only [Prod.mk.injEq, decide_eq_true_eq] at seen
    obtain ⟨closed, left, calls, more, grown⟩ := seen
    obtain ⟨_, run⟩ := play?_eq_some_iff.mp played
    obtain ⟨_, run'⟩ := play?_eq_some_iff.mp played'
    obtain ⟨departure, once, _, byPeer⟩ := silent_after_closed opened run closed run'
    obtain rfl : departure = .byPeer := List.singleton_inj.mp (once.symm.trans left)
    refine ⟨origin, past, session, later, last, opened, run, closed, run', left, ?_,
      (byPeer rfl).1⟩
    rw [← grown, List.drop_left] at calls
    rw [← grown, calls]
  · let moves : List Move := halfway ++ [.requestClose, .takeCommand, .advance 5000, .timeOut]
    have shown : (origin.play? moves).bind (fun run =>
        (run.2.play? [reopened, .advance 1]).map fun _ =>
          (run.2.lifecycle, departures run.1, run.2.acceptedOctets, run.2.handed.flatten)) =
        some (.closed, [.asked], [0, 0], [0, 0, 0, 2, 0x7b, 0x7d]) := by
      decide +kernel
    obtain ⟨⟨past, session⟩, played, onward⟩ := Option.bind_eq_some_iff.mp shown
    obtain ⟨⟨later, last⟩, played', seen⟩ := Option.map_eq_some_iff.mp onward
    simp only [Prod.mk.injEq] at seen
    obtain ⟨closed, left, accepted, handed⟩ := seen
    obtain ⟨_, run⟩ := play?_eq_some_iff.mp played
    obtain ⟨_, run'⟩ := play?_eq_some_iff.mp played'
    obtain ⟨departure, once, ours, _⟩ := silent_after_closed opened run closed run'
    obtain rfl : departure = .asked := List.singleton_inj.mp (once.symm.trans left)
    exact ⟨origin, past, session, later, last, opened, run, closed, run', left, accepted, handed,
      (ours (by simp)).1⟩

end Session

end Antiphon
