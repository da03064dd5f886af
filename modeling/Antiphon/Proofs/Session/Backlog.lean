import Antiphon.Proofs.Outbound.Slices
import Antiphon.Proofs.Session.Correlation
import Antiphon.Proofs.Session.Outflow

/-!
# How much waits to be written

The limit on requests in flight is not a limit on what waits to be written. A reservation is given
back when a response comes, and whether the request has been written by then is not asked. A peer
that answers before it can have read a request thereby makes room for another one behind it.

What holds against every peer is that the backlog exceeds the limit by no more than the requests
that were answered too early (`Session.written` counts those that were written). There are none of
these if the peer keeps to the order, so then the limit does bound the backlog.

The writer's part is that what it has left is what a walk over the frames that it was handed has
left after as many octets as the stream has accepted (`Dispatch.Metered`). The session's part is
that requests without a response keep to the limit, also after its end (`Ledger.Capped`).
-/

namespace Antiphon

namespace Writer

/-- What a writer has left of its frames: of its batch, then of its inbox. A writer that is gone has
let go of them. -/
def unsent (writer : Writer) : List Octets :=
  match writer.phase with
  | .writing batch => batch.slices ++ writer.inbox
  | .idle | .shuttingDown => writer.inbox
  | .ended _ | .aborted => []

/-- A writer that is gone has nothing left to write. -/
theorem unsent_of_gone {writer : Writer} (gone : writer.isAlive = false) : writer.unsent = [] := by
  unfold isAlive at gone
  split at gone <;> simp_all [unsent]

/-- A frame that is handed over is left as a whole. -/
theorem unsent_of_hand {writer after : Writer} {frame : Octets}
    (given : writer.hand frame = some after) :
    after.isAlive ∧ after.unsent = writer.unsent ++ [frame] := by
  obtain ⟨alive, rfl⟩ := hand_eq given
  cases held : writer.phase <;> simp_all [unsent, isAlive]

/-- A move of the writer uses up as many octets of what it has left as the stream accepts. -/
theorem Stride.unsent_eq {writer next : Writer} {outlet other : Outlet} {events : List Event}
    (stride : writer.Stride outlet next other events) (alive : next.isAlive)
    (filled : ∀ slice ∈ writer.unsent, slice ≠ []) :
    Batch.slicesAfter (acceptedBy events).length writer.unsent = next.unsent := by
  have waiting (inbox : ∀ frame ∈ writer.inbox, frame ∈ writer.unsent) :
      Batch.slicesAfter 0 writer.inbox = writer.inbox :=
    Batch.slicesAfter_zero fun frame member => filled frame (inbox frame member)
  cases stride with
  | gathered idle _ =>
    have inbox : writer.unsent = writer.inbox := by simp [unsent, idle]
    have behind : Batch.slicesAfter 0 (writer.inbox.drop maxBatch) =
        writer.inbox.drop maxBatch :=
      Batch.slicesAfter_zero fun frame member => filled frame (inbox ▸ List.mem_of_mem_drop member)
    have divided := Batch.slicesAfter_append 0 (writer.inbox.take maxBatch)
      (writer.inbox.drop maxBatch)
    rw [List.take_append_drop, Nat.zero_sub, behind] at divided
    rw [inbox]
    exact divided
  | retired idle empty starved => simp [unsent, idle, empty, Batch.slicesAfter]
  | advanced batch count _ busy left answered =>
    have left : writer.unsent = batch.slices ++ writer.inbox := by simp [unsent, busy]
    have offered := Outlet.count_le_of_write answered
    have part : (acceptedBy [.wrote batch.slices (.accepted (count + 1))]).length =
        count + 1 := by
      rw [acceptedBy, List.filterMap_cons, Event.call?, List.filterMap_nil,
        List.flatMap_singleton, Call.accepted, List.length_take, Nat.min_eq_left offered]
    have behind := waiting fun frame member => left ▸ List.mem_append_right _ member
    rw [part, left, Batch.slicesAfter_append, Nat.sub_eq_zero_of_le offered, behind, Batch.slices,
      ← Batch.slicesAfter_add]
    rfl
  | completed batch _ busy used answered =>
    have left : writer.unsent = writer.inbox := by simp [unsent, busy, used]
    rw [left]
    exact waiting fun frame member => left ▸ member
  | broken | unflushed | ended => cases alive

end Writer

namespace Dispatch

/-- While the writer is there, it has left of its frames what the stream has not accepted. -/
def Metered (dispatch : Dispatch) : Prop :=
  dispatch.writer.isAlive →
    Batch.slicesAfter dispatch.accepted.length dispatch.handed = dispatch.writer.unsent

variable {dispatch after : Dispatch}

/-- Every move of the writing half keeps what is left and what was accepted together. -/
theorem Metered.next (metered : dispatch.Metered) (carried : dispatch.Carried)
    (filled : ∀ request ∈ after.taken, request.2 ≠ []) (moved : dispatch.Next after) :
    after.Metered := by
  cases moved with
  | same | outletChanged | starved | lost => exact metered
  | aborted =>
    exact fun alive => absurd ((isAlive_abort dispatch.writer).symm.trans alive) (by decide)
  | stopped =>
    exact fun alive => absurd ((isAlive_abort dispatch.writer.starve).symm.trans alive) (by decide)
  | handed ticket frame writer given =>
    obtain ⟨alive, _⟩ := Writer.hand_eq given
    obtain ⟨_, left⟩ := Writer.unsent_of_hand given
    intro _
    have whole : Batch.slicesAfter 0 [frame] = [frame] := by
      apply Batch.slicesAfter_zero
      simpa using filled (ticket, frame) (by simp)
    have all : dispatch.accepted.length ≤ dispatch.handed.flatten.length :=
      carried.written.length_le
    change Batch.slicesAfter dispatch.accepted.length (dispatch.handed ++ [frame]) = _
    rw [Batch.slicesAfter_append, Nat.sub_eq_zero_of_le all, whole, metered alive, left]
  | wrote writer outlet events moved =>
    intro still
    have stride := Writer.stride_of_step moved
    have left := metered stride.isAlive
    rw [accepted_wrote, List.length_append, Batch.slicesAfter_add, left]
    apply stride.unsent_eq still
    rw [← left]
    exact fun slice offered => Batch.ne_nil_of_mem_slicesAfter offered

end Dispatch

namespace Ledger

open Session (untaken)

variable {ledger after : Ledger} {accepting : Bool}

/-- Requests that have no response keep to the limit. -/
def Capped (ledger : Ledger) : Prop :=
  (untaken ledger.commands).length +
      (ledger.pairing.taken.length - ledger.pairing.matched.length) ≤
    ledger.settings.maxInFlight.toNat

/-- As long as the task is there these requests are those that are counted. -/
theorem capped_of_live (sound : ledger.Sound) (paired : ledger.Paired)
    (live : ledger.task ≠ .ended ∧ ledger.task ≠ .dropped) : ledger.Capped := by
  obtain ⟨_, waiting⟩ := paired.serving live
  have counted := sound.counted.1 live.2
  rw [left, List.length_append, waiting, List.length_drop] at counted
  have within := sound.counted.2
  rw [counted] at within
  rw [Capped, Nat.add_comm]
  exact within

/-- The end empties the commands and leaves the pairing as it was. -/
theorem Capped.next (capped : ledger.Capped) (sound : after.Sound) (paired : after.Paired)
    (moved : ledger.Next accepting after) : after.Capped := by
  by_cases live : after.task ≠ .ended ∧ after.task ≠ .dropped
  · exact capped_of_live sound paired live
  · cases moved with
    | same | abandoned => exact capped
    | accepted frame text framed room taking => exact absurd taking live
    | askedToClose taking => exact absurd taking live
    | fed octets frames codec running =>
      rw [(orders_receives _ frames).2.2.2] at live
      exact absurd (by simp [read, running]) live
    | overrun | finished | dropped =>
      exact Nat.le_trans (Nat.add_le_add_right (Nat.zero_le _) _) capped
    | taken ticket frame rest sent running => exact absurd (by simp [take, running]) live
    | started | begun | closing => simp at live

end Ledger

namespace Session

/-- Requests that a send accepted and that are still to be written, wholly or in part. -/
def unwritten (session : Session) : Nat :=
  (untaken session.commands).length + session.writer.unsent.length

/-- How many of the requests that the task took the stream has accepted to their last octet. -/
def written (session : Session) : Nat :=
  Batch.whole session.acceptedOctets.length (session.taken.map Prod.snd)

variable {settings : Settings} {origin session : Session} {past : List (Session × Move)}

/-- Requests that were taken have frames of some length. -/
theorem Reachable.filled (reachable : Reachable settings session) :
    ∀ request ∈ session.taken, request.2 ≠ [] := by
  intro request member
  have asked : request ∈ session.ledger.requests := reachable.ordered.2.subset member
  exact List.ne_nil_of_length_pos (reachable.framed request asked)

/-- Wherever a run leads, the writer has left what the stream has not accepted. -/
theorem Reachable.metered (reachable : Reachable settings session) : session.dispatch.Metered := by
  apply reachable.kept fun session => session.dispatch.Metered
  · rintro _ ⟨outlet, task, _, rfl⟩ _
    rfl
  · intro before after accepting reached grown becomes metered
    exact metered.next reached.carried grown.filled
      (dispatch_next (connected_of_running reached.sound) becomes)

/-- Requests without a response keep to the limit in every state that a run leads to. -/
theorem Reachable.capped (reachable : Reachable settings session) : session.ledger.Capped := by
  apply reachable.kept fun session => session.ledger.Capped
  · rintro _ ⟨outlet, task, _, rfl⟩
    exact Nat.zero_le _
  · intro before after accepting reached grown becomes capped
    exact capped.next grown.sound grown.paired.1 (next_of_sound reached.sound becomes)

/-- While the writer is there, a request that was taken is written or left. -/
theorem Reachable.written_add_unsent (reachable : Reachable settings session)
    (alive : session.writer.isAlive) :
    session.written + session.writer.unsent.length = session.taken.length := by
  have relayed : session.handed = session.taken.map Prod.snd := reachable.carried.relayed alive
  have left : Batch.slicesAfter session.acceptedOctets.length (session.taken.map Prod.snd) =
      session.writer.unsent := by
    rw [acceptedOctets_eq, ← relayed]
    exact reachable.metered alive
  have filled : ∀ frame ∈ session.taken.map Prod.snd, frame ≠ [] := by
    simpa using fun frame ticket member => reachable.filled (ticket, frame) member
  rw [written, ← left, Batch.whole_add_length _ filled, List.length_map]

/-- Against any peer the backlog exceeds the limit by no more than the requests that were answered
before they were written. -/
theorem Reachable.unwritten_le (reachable : Reachable settings session) :
    session.unwritten ≤
      settings.maxInFlight.toNat + (session.pairing.matched.length - session.written) := by
  have capped : (untaken session.commands).length +
      (session.pairing.taken.length - session.pairing.matched.length) ≤
        session.settings.maxInFlight.toNat := reachable.capped
  have taken : session.pairing.taken = session.taken.map Prod.fst := reachable.paired.1.taken
  rw [reachable.settings_eq, taken, List.length_map] at capped
  rw [unwritten]
  cases alive : session.writer.isAlive with
  | true =>
    have parts := reachable.written_add_unsent alive
    omega
  | false =>
    rw [Writer.unsent_of_gone alive, List.length_nil]
    omega

/-- Against a peer that keeps to the order, the stream has the whole of every request that was
answered. -/
theorem Run.matched_le_written (run : Run origin past session) (opened : Opened settings origin)
    (inOrder : ∀ stage ∈ past, stage.1.PeerInOrder) :
    session.pairing.matched.length ≤ session.written := by
  have reachable : Reachable settings session := ⟨origin, past, opened, run⟩
  obtain ⟨allowed, aligned⟩ := run.inStep opened inOrder
  rw [reachable.matched_eq aligned]
  cases run with
  | stay =>
    obtain ⟨outlet, task, _, rfl⟩ := opened
    exact Nat.zero_le _
  | @step past before next move earlier made =>
    have reached : Reachable settings before := ⟨origin, past, opened, earlier⟩
    have becomes := becomes_of_make made
    obtain ⟨later, taken⟩ : before.taken <+: session.taken := becomes.gather_prefix Event.taken?
    obtain ⟨more, calls⟩ : before.calls <+: session.calls := becomes.gather_prefix Event.call?
    have accepted : before.acceptedOctets.length ≤ session.acceptedOctets.length := by
      rw [acceptedOctets_eq, acceptedOctets_eq, ← calls, List.flatMap_append, List.length_append]
      exact Nat.le_add_right _ _
    apply Nat.le_of_not_lt
    intro fewer
    obtain ⟨inside, whole⟩ :=
      whole_of_received reached reachable becomes (inOrder (before, move) (by simp)) allowed fewer
    have written : session.written < session.written := by
      apply (Batch.lt_whole_iff _ _ _).mpr
      rw [← List.map_take, ← taken, List.take_append_of_le_length inside, List.length_map,
        List.length_append]
      exact ⟨by omega, Nat.le_trans whole accepted⟩
    exact Nat.lt_irrefl _ written

/-- The limit on requests in flight bounds the backlog up to the requests that were answered before
they were written: in every state of every run, whatever the peer and the stream do, the backlog
exceeds the limit by no more than these. Against a peer that keeps to the order there are none, and
the backlog is within the limit. -/
theorem backlog_bounded (opened : Opened settings origin) (run : Run origin past session) :
    session.unwritten ≤
        settings.maxInFlight.toNat + (session.pairing.matched.length - session.written) ∧
      ((∀ stage ∈ past, stage.1.PeerInOrder) →
        session.unwritten ≤ settings.maxInFlight.toNat) := by
  have reachable : Reachable settings session := ⟨origin, past, opened, run⟩
  refine ⟨reachable.unwritten_le, fun inOrder => ?_⟩
  have early := run.matched_le_written opened inOrder
  have bound := reachable.unwritten_le
  rw [Nat.sub_eq_zero_of_le early, Nat.add_zero] at bound
  exact bound

/-- A link with room for one request, whose stream takes a part of the request and no response
comes. -/
theorem backlog_bounded_of_stalled_write :
    ∃ origin past session, Opened (Settings.default.withMaxInFlight 1) origin ∧
      Run origin past session ∧ (∀ stage ∈ past, stage.1.PeerInOrder) ∧
      session.acceptedOctets = [0, 0, 0, 1] ∧ session.unwritten = 1 ∧ session.unwritten ≤ 1 := by
  let origin : Session :=
    .new (Settings.default.withMaxInFlight 1) { Outlet.unlimited with window := some 4 } .ready
  let moves : List Move := [.send (.ok [0x31]), .begin, .takeCommand, .write, .write]
  have shown : (origin.play? moves).map (fun run =>
      (run.1.all fun stage => decide stage.1.PeerInOrder, run.2.acceptedOctets,
        run.2.unwritten)) = some (true, [0, 0, 0, 1], 1) := by decide +kernel
  obtain ⟨⟨past, session⟩, played, seen⟩ := Option.map_eq_some_iff.mp shown
  obtain ⟨orderly, accepted, backlog⟩ : (past.all fun stage => decide stage.1.PeerInOrder) = true ∧
      session.acceptedOctets = _ ∧ session.unwritten = _ := by simpa using seen
  obtain ⟨_, run⟩ := play?_eq_some_iff.mp played
  have opened : Opened (Settings.default.withMaxInFlight 1) origin := ⟨_, _, .inr rfl, rfl⟩
  have inOrder : ∀ stage ∈ past, stage.1.PeerInOrder := by simpa using orderly
  exact ⟨origin, past, session, opened, run, inOrder, accepted, backlog,
    (backlog_bounded opened run).2 inOrder⟩

/-- A peer that answers a request of which the stream has taken nothing makes room for another. -/
theorem backlog_above_limit_of_early_response :
    ∃ session, Reachable (Settings.default.withMaxInFlight 1) session ∧
      session.settings.maxInFlight.toNat = 1 ∧ session.acceptedOctets = [] ∧
      session.unwritten = 2 := by
  let origin : Session :=
    .new (Settings.default.withMaxInFlight 1) { Outlet.unlimited with window := some 0 } .ready
  let moves : List Move :=
    [.send (.ok [0x31]), .begin, .takeCommand, .write, .deliver (.chunk [0, 0, 0, 1, 0x31]), .read,
      .send (.ok [0x32])]
  have shown : (origin.play? moves).map (fun run =>
      (run.2.settings.maxInFlight.toNat, run.2.acceptedOctets, run.2.unwritten)) =
      some (1, [], 2) := by decide +kernel
  obtain ⟨⟨past, session⟩, played, seen⟩ := Option.map_eq_some_iff.mp shown
  obtain ⟨limit, accepted, backlog⟩ : session.settings.maxInFlight.toNat = _ ∧
      session.acceptedOctets = _ ∧ session.unwritten = _ := by simpa using seen
  obtain ⟨_, run⟩ := play?_eq_some_iff.mp played
  exact ⟨session, ⟨origin, past, ⟨_, _, .inr rfl, rfl⟩, run⟩, limit, accepted, backlog⟩

/-! ## A peer that answers too early -/

/-- A session with room for one request that is at rest, except that its writer may hold frames. -/
structure Resting (session : Session) : Prop where
  settings : session.settings = Settings.default.withMaxInFlight 1
  connected : session.lifecycle = .connected
  running : session.task = .running
  held : 0 < session.handles
  unreserved : session.tally.pending = 0
  answered : session.pending.waiting = []
  idle : session.commands = []
  aligned : session.codec = .holding session.settings.maxPayload []
  empty : session.inlet = []
  alive : session.writer.isAlive

/-- A send into a session with room for it is accepted. -/
theorem make?_send {text : Except Json.Fault Octets} {frame : Octets} (held : 0 < session.handles)
    (connected : session.lifecycle = .connected) (taking : session.takesCommands)
    (room : session.tally.pending < session.settings.maxInFlight)
    (framed : frameMessage text session.settings.maxPayload = .ok frame) :
    session.make? (.send text) = some (session.accept frame) := by
  simp [make?, byHandle, held, send, connected, framed, sendFrame_eq, room, taking]

/-- The session after its only command, a request, was taken and the frame handed over. -/
def relay (session : Session) (ticket : Ticket) (frame : Octets) (writer : Writer) : Session :=
  { session with
    commands := []
    pending := session.pending.push ticket
    writer := writer
    tally := { session.tally with sent := session.tally.sent + 1 } }.record
      [.queued ticket frame true]

/-- A request that is the only command is taken, and its frame handed over. -/
theorem make?_takeCommand {ticket : Ticket} {frame : Octets} {writer : Writer}
    (running : session.task = .running) (connected : session.lifecycle = .connected)
    (only : session.commands = [.send ticket frame])
    (given : session.writer.hand frame = some writer) :
    session.make? .takeCommand = some (session.relay ticket frame writer) := by
  simp [make?, takeCommand?, running, only, onSend, connected, given, relay]

/-- A chunk that is all that has arrived is read, and its frames are received. -/
theorem make?_read {octets : Octets} {codec : Codec} {frames : List Frame}
    (running : session.task = .running) (only : session.inlet = [.chunk octets])
    (fits : octets.length ≤ session.settings.readCapacity)
    (fed : session.codec.feed octets = (.ok frames, codec)) :
    session.make? .read = some (frames.foldl receive (session.afterRead [] octets codec)) := by
  have available : session.inlet.read session.settings.readCapacity =
      some (.chunk octets, []) := by
    rw [only, Inlet.read, List.splitAt_eq, List.take_of_length_le fits,
      List.drop_eq_nil_of_le fits]
  simp [make?, read?, running, available, onData, fed, afterRead]

/-- The session after a frame that is JSON answered the only request that waited. -/
theorem receive_of_only {ticket : Ticket} {response : Frame} {value : Json}
    (only : session.pending.waiting = [ticket])
    (legible : Codec.decode Json response = .ok value) :
    ∃ history, session.receive response =
      { session with
        pending := ({ session.pending with waiting := [] } : PendingQueue).settle ticket (.ok value)
        tally := Tally.release { session.tally with received := session.tally.received + 1 } 1
        history := history } := by
  have noted : session.note response =
      { session with
        tally := { session.tally with received := session.tally.received + 1 } }.record
          [.received response] := by simp [note, legible]
  have waits : (session.note response).pending.waiting = [ticket] := by
    rw [noted]
    exact only
  rw [receive_eq, legible, answer_of_waiting _ _ _ waits, noted]
  exact ⟨_, rfl⟩

/-- One request there and one response back, and the writer has one frame more to write. -/
theorem Resting.grow (resting : session.Resting) :
    ∃ past next, Run session past next ∧ next.Resting ∧
      next.unwritten = session.unwritten + 1 := by
  obtain ⟨settings, connected, running, held, unreserved, answered, idle, aligned, empty, alive⟩ :=
    resting
  let message : Frame := ⟨[0x31]⟩
  let ticket := session.pending.issue.1
  obtain ⟨writer, given⟩ : ∃ writer, session.writer.hand message.octets = some writer := by
    simp [Writer.hand, alive]
  obtain ⟨still, left⟩ := Writer.unsent_of_hand given
  obtain ⟨value, legible⟩ : ∃ value, Codec.decode Json message = .ok value := ⟨_, rfl⟩
  have room : session.tally.pending < session.settings.maxInFlight := by
    rw [unreserved, settings]
    decide
  have framed : frameMessage (.ok [0x31]) session.settings.maxPayload = .ok message.octets := by
    rw [settings]
    rfl
  have fits : message.octets.length ≤ session.settings.readCapacity := by
    rw [settings]
    decide
  have allowed : message.size ≤ session.settings.maxPayload.toNat := by
    rw [settings]
    decide
  have fed : session.codec.feed message.octets = (.ok [message], session.codec) := by
    rw [aligned]
    exact Codec.feed_octets allowed
  let sent := session.accept message.octets
  let taken := sent.relay ticket message.octets writer
  let arrived := taken.deliver (.chunk message.octets)
  have first : session.make? (.send (.ok [0x31])) = some sent :=
    make?_send held connected (by simp [takesCommands, running]) room framed
  have second : sent.make? .takeCommand = some taken :=
    make?_takeCommand running connected
      (congrArg (· ++ [Command.send ticket message.octets]) idle) given
  have third : taken.make? (.deliver (.chunk message.octets)) = some arrived := rfl
  have only : arrived.inlet = [.chunk message.octets] :=
    congrArg (· ++ [Arrival.chunk message.octets]) empty
  have fourth : arrived.make? .read =
      some ([message].foldl receive (arrived.afterRead [] message.octets session.codec)) :=
    make?_read running only fits fed
  have waits : (arrived.afterRead [] message.octets session.codec).pending.waiting = [ticket] :=
    congrArg (· ++ [ticket]) answered
  obtain ⟨history, done⟩ := receive_of_only waits legible
  rw [List.foldl_cons, List.foldl_nil, done] at fourth
  have run := Run.step (.step (.step (.step .stay first) second) third) fourth
  refine ⟨_, _, run, ⟨settings, connected, running, held, ?_, rfl, rfl, aligned, rfl, still⟩, ?_⟩
  · change session.tally.pending + 1 - 1 = 0
    rw [unreserved]
    rfl
  · change 0 + writer.unsent.length =
      (untaken session.commands).length + session.writer.unsent.length + 1
    rw [left, idle, List.length_append, untaken_nil, List.length_nil]
    rfl

/-- Even if there is room for a single request, no number bounds the backlog. -/
theorem backlog_unbounded (bound : Nat) :
    ∃ session, Reachable (Settings.default.withMaxInFlight 1) session ∧
      session.unwritten = bound := by
  have rising : ∃ session, Reachable (Settings.default.withMaxInFlight 1) session ∧
      session.Resting ∧ session.unwritten = bound := by
    induction bound with
    | zero =>
      let origin : Session := .new (Settings.default.withMaxInFlight 1) .unlimited .ready
      have begun : origin.make? .begin = some { origin with task := .running } := rfl
      exact ⟨_, ⟨origin, _, ⟨_, _, .inr rfl, rfl⟩, .step .stay begun⟩,
        ⟨rfl, rfl, rfl, by decide, rfl, rfl, rfl, rfl, rfl, rfl⟩, rfl⟩
    | succ bound inductionHypothesis =>
      obtain ⟨session, ⟨origin, past, opened, run⟩, resting, backlog⟩ := inductionHypothesis
      obtain ⟨more, next, later, rests, grown⟩ := resting.grow
      exact ⟨next, ⟨origin, past ++ more, opened, run.trans later⟩, rests, by rw [grown, backlog]⟩
  obtain ⟨session, reachable, _, backlog⟩ := rising
  exact ⟨session, reachable, backlog⟩

end Session

end Antiphon
