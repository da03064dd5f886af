import Antiphon.Proofs.Session.Pairing

/-!
# Reads and requests in any order

A task that has something to read and a command to take does either first. What it has come to is
decided by what it has read and by which requests it has taken, each in their own order, and not by
how it went to and fro between the two, as long as every frame finds a request waiting.

Two orders are not compared step by step. `Served` says what a session comes to that has served
given chunks and given requests: the frames in the chunks have answered, one after the other, the
requests that waited before and then those that were taken. A request that is taken goes to the end
of that line, so it makes no difference to a frame that finds somebody in front of it. To a frame
that finds nobody it makes all the difference, which is why there must be none.
-/

namespace Antiphon

/-- What a task serves: a chunk that it has read, or a request that it has taken. -/
inductive Service
  | chunk (octets : Octets)
  | request (ticket : Ticket) (frame : Octets)

namespace Service

/-- The chunk that is served, if one is. -/
def chunk? : Service → Option Octets
  | .chunk octets => some octets
  | .request _ _ => none

/-- The request that is served, if one is. -/
def request? : Service → Option (Ticket × Octets)
  | .chunk _ => none
  | .request ticket frame => some (ticket, frame)

end Service

/-- The frame that found nobody waiting. -/
def Event.stray? : Event → Option Frame
  | .unsolicited frame _ => some frame
  | _ => none

/-- The counters after some frames have answered requests, and other requests were taken. -/
def Tally.served (tally : Tally) (frames : List Frame) (requests : Nat) : Tally where
  pending := tally.pending - frames.length.toUInt64
  sent := tally.sent + requests.toUInt64
  received := tally.received + frames.length.toUInt64
  undecodable := tally.undecodable + (frames.countP fun frame => !Ledger.legible frame).toUInt64
  unsolicited := tally.unsolicited

/-- Serving in two parts is serving the one and then the other. -/
theorem Tally.served_served (tally : Tally) (front back : List Frame) (first second : Nat) :
    (tally.served front first).served back second =
      tally.served (front ++ back) (first + second) := by
  simp [served]
  grind

namespace Session

/-- Frames that found nobody waiting. -/
def strays (session : Session) : List Frame := gather Event.stray? session.history

/-- The session when it has served a chunk or a request. There is none if the chunk completes a
length above the limit, or a frame that finds nobody waiting. -/
def serve? (session : Session) : Service → Option Session
  | .chunk octets =>
    match session.onData octets with
    | (.ok (), next) => if next.strays = session.strays then some next else none
    | (.error _, _) => none
  | .request ticket frame => some (session.onSend ticket frame)

/-- Serves one after the other. -/
def serveAll? (session : Session) : List Service → Option Session
  | [] => some session
  | service :: rest => (session.serve? service).bind fun next => next.serveAll? rest

/-- Requests in line for an answer, those that wait first, and the frames that came for them. -/
def answering (session : Session) (requests : List (Ticket × Octets)) (frames : List Frame) :
    Pairing :=
  ⟨session.pending.waiting ++ requests.map Prod.fst, frames, []⟩

/-- What a session has come to that has served frames, in the chunks that it has read, and requests.
-/
structure Served (start : Session) (frames : List Frame) (requests : List (Ticket × Octets))
    (session : Session) : Prop where
  /-- There was a request for every frame. -/
  enough : frames.length ≤ (start.answering requests frames).taken.length
  slots : session.pending.waiting = (start.answering requests frames).taken.drop frames.length
  replies : session.pending.replies =
    (start.pending.settleAll (start.answering requests frames).answers).replies
  completions : session.completions =
    start.completions ++ (start.answering requests frames).answers
  /-- The writer was handed the frames of the requests. -/
  handed : session.handed = start.handed ++ requests.map Prod.snd
  writer : session.writer = { start.writer with
    inbox := start.writer.inbox ++ requests.map Prod.snd
    unwritten := start.writer.unwritten + requests.length.toUInt64 }
  tally : session.tally = start.tally.served frames requests.length
  connected : session.lifecycle = start.lifecycle

/-- A chunk that is served brings frames, of which none is a stray. -/
theorem fed_of_serve? {session next : Session} {octets : Octets}
    (served : session.serve? (.chunk octets) = some next) :
    ∃ frames codec, session.codec.feed octets = (.ok frames, codec) ∧
      next = frames.foldl receive (session.afterRead session.inlet octets codec) ∧
      next.strays = session.strays := by
  rcases extracted : session.codec.feed octets with ⟨error | frames, codec⟩
  · simp [serve?, onData, extracted] at served
  · simp only [serve?, onData, extracted] at served
    split at served
    · next noStray =>
      obtain rfl := Option.some.inj served
      exact ⟨frames, codec, rfl, rfl, noStray⟩
    · cases served

/-- What is gathered of a record grows at its end. -/
theorem gather_record {α : Type} (session : Session) (events : List Event)
    (pick : Event → Option α) :
    gather pick (session.record events).history =
      gather pick session.history ++ events.filterMap pick := by
  rw [history_record, gather_append, gather_reverse]

section Steps

variable (session : Session)

/-- A frame that finds nobody waiting is a stray. -/
theorem strays_receive_of_nobody (frame : Frame) (nobody : session.pending.waiting = []) :
    (session.receive frame).strays = session.strays ++ [frame] := by
  have noted : (session.note frame).pending = session.pending ∧
      (session.note frame).strays = session.strays := by
    unfold note
    split <;> simp [strays, gather, record, Event.stray?]
  rw [receive_eq, answer_of_nobody, ← noted.2]
  · simp [strays, record, gather, Event.stray?]
  · rw [noted.1]
    exact nobody

/-- A frame that finds somebody waiting answers the first in line, and nothing else comes of it. -/
theorem receive_of_waiting (frame : Frame) {ticket : Ticket} {rest : List Ticket}
    (first : session.pending.waiting = ticket :: rest) :
    ∃ events, session.receive frame =
        { session with
          pending := ({ session.pending with waiting := rest } : PendingQueue).settle ticket
            (Codec.decode Json frame)
          tally := session.tally.served [frame] 0 }.record events ∧
      events.filterMap Event.completion? = [(ticket, Codec.decode Json frame)] ∧
      events.filterMap Event.handed? = [] ∧ events.filterMap Event.stray? = [] := by
  have noted : (session.note frame).pending = session.pending := by
    unfold note
    split <;> rfl
  have answered (outcome : Outcome) :
      (session.answeredEvents ticket outcome).filterMap Event.completion? = [(ticket, outcome)] ∧
        (session.answeredEvents ticket outcome).filterMap Event.handed? = [] ∧
        (session.answeredEvents ticket outcome).filterMap Event.stray? = [] := by
    unfold answeredEvents
    split <;> exact ⟨rfl, rfl, rfl⟩
  rw [receive_eq, answer_of_waiting _ _ _ ((congrArg _ noted).trans first), noted]
  cases read : Codec.decode Json frame with
  | ok value =>
    have legible : Ledger.legible frame = true := by
      rw [Ledger.legible, read]
      rfl
    refine ⟨.received frame :: session.answeredEvents ticket (.ok value), ?_, answered _⟩
    simp [note, read, record, Tally.served, Tally.release, legible, answeredEvents]
  | error error =>
    have illegible : Ledger.legible frame = false := by
      rw [Ledger.legible, read]
      rfl
    refine ⟨.received frame :: .undecodable frame error ::
      session.answeredEvents ticket (.error error), ?_, answered _⟩
    simp [note, read, record, Tally.served, Tally.release, illegible, answeredEvents]

/-- A request that is taken goes to the end of the line, and its frame to the writer. -/
theorem onSend_of_alive (connected : session.lifecycle = .connected)
    (alive : session.writer.isAlive = true) (ticket : Ticket) (frame : Octets) :
    session.onSend ticket frame =
      { session with
        pending := session.pending.push ticket
        writer := { session.writer with
          inbox := session.writer.inbox ++ [frame]
          unwritten := session.writer.unwritten + 1 }
        tally := session.tally.served [] 1 }.record [.queued ticket frame true] := by
  simp [onSend, connected, Writer.hand, alive, Tally.served]

end Steps

namespace Served

variable {start session last : Session} {requests : List (Ticket × Octets)} {frames : List Frame}

/-- A session that has served nothing is what it was. -/
theorem nothing (session : Session) : Served session [] [] session where
  enough := Nat.zero_le _
  slots := by simp [answering]
  replies := by simp [answering, Pairing.answers]
  completions := by simp [answering, Pairing.answers]
  handed := by simp
  writer := by simp
  tally := by simp [Tally.served]
  connected := rfl

/-- A request that is taken is the last in line. -/
theorem request (served : Served start frames requests session)
    (connected : start.lifecycle = .connected) (alive : start.writer.isAlive = true)
    (ticket : Ticket) (frame : Octets) :
    Served start frames (requests ++ [(ticket, frame)]) (session.onSend ticket frame) := by
  have longer : start.answering (requests ++ [(ticket, frame)]) frames =
      (start.answering requests frames).take ticket := by
    simp [answering, Pairing.take]
  have same : ((start.answering requests frames).take ticket).answers =
      (start.answering requests frames).answers := Pairing.answers_take served.enough ticket
  have there : session.writer.isAlive = true := by
    rw [served.writer]
    exact alive
  rw [onSend_of_alive session (served.connected.trans connected) there]
  refine ⟨?_, ?_, ?_, ?_, ?_, ?_, ?_, served.connected⟩
  · rw [longer]
    exact Nat.le_trans served.enough (by simp [Pairing.take])
  · rw [longer, Pairing.take, List.drop_append_of_le_length served.enough, ← served.slots]
    rfl
  · rw [longer, same]
    exact served.replies
  · rw [longer, same, ← served.completions]
    exact (gather_record _ _ _).trans (List.append_nil _)
  · rw [List.map_append, ← List.append_assoc, ← served.handed]
    exact gather_record _ _ _
  · simp [record, served.writer, UInt64.add_assoc]
  · change session.tally.served [] 1 = _
    rw [served.tally, Tally.served_served, List.append_nil, List.length_append]
    rfl

/-- A frame that finds somebody waiting answers the next in line. -/
theorem receive (served : Served start frames requests session) (frame : Frame)
    (somebody : session.pending.waiting ≠ []) :
    Served start (frames ++ [frame]) requests (session.receive frame) := by
  obtain ⟨ticket, rest, first⟩ := List.exists_cons_of_ne_nil somebody
  have next : (start.answering requests frames).taken.drop
      (start.answering requests frames).matched.length = ticket :: rest :=
    served.slots.symm.trans first
  obtain ⟨met, answered, behind⟩ := Pairing.meet_of_waiting frame next
  rw [met] at answered
  obtain ⟨events, result, completed, notHanded, _⟩ := receive_of_waiting session frame first
  rw [result]
  have answers : (start.answering requests (frames ++ [frame])).answers =
      (start.answering requests frames).answers ++ [(ticket, Codec.decode Json frame)] := answered
  refine ⟨?_, ?_, ?_, ?_, ?_, served.writer, ?_, served.connected⟩
  · have total := congrArg List.length (served.slots.symm.trans first)
    rw [List.length_drop, List.length_cons] at total
    rw [List.length_append, List.length_singleton]
    change frames.length + 1 ≤ (start.answering requests frames).taken.length
    omega
  · rw [List.length_append, List.length_singleton]
    exact behind.symm
  · rw [answers, PendingQueue.settleAll_append]
    simp [record, PendingQueue.settle, served.replies]
  · rw [answers, ← List.append_assoc, ← served.completions, ← completed]
    exact gather_record _ _ _
  · rw [← served.handed, ← List.append_nil session.handed, ← notHanded]
    exact gather_record _ _ _
  · change session.tally.served [frame] 0 = _
    rw [served.tally, Tally.served_served]
    rfl

/-- So do several frames, if none of them is a stray. -/
theorem receives (served : Served start frames requests session) (more : List Frame)
    (noStray : (more.foldl Session.receive session).strays = session.strays) :
    Served start (frames ++ more) requests (more.foldl Session.receive session) := by
  induction more generalizing frames session with
  | nil => simpa using served
  | cons frame rest inductionHypothesis =>
    have onward : (session.receive frame).strays <+: session.strays := by
      rw [← noStray]
      obtain ⟨later, grown⟩ :=
        suffix_receives (List.suffix_refl (session.receive frame).history) rest
      rw [List.foldl_cons, strays, strays, ← grown, gather_append]
      exact List.prefix_append _ _
    have somebody : session.pending.waiting ≠ [] := by
      intro nobody
      have fewer := onward.length_le
      rw [strays_receive_of_nobody session frame nobody, List.length_append] at fewer
      exact absurd fewer (Nat.not_succ_le_self _)
    have same : (session.receive frame).strays = session.strays := by
      obtain ⟨ticket, behind, first⟩ := List.exists_cons_of_ne_nil somebody
      obtain ⟨events, result, _, _, quiet⟩ := receive_of_waiting session frame first
      rw [result, ← List.append_nil session.strays, ← quiet]
      exact gather_record _ _ _
    have whole := inductionHypothesis (served.receive frame somebody) (noStray.trans same.symm)
    rwa [List.append_assoc] at whole

/-- Whatever has been served so far, what is served next is served on top of it. -/
theorem serveAll (served : Served start frames requests session)
    (connected : start.lifecycle = .connected) (alive : start.writer.isAlive = true)
    {services : List Service} (onward : session.serveAll? services = some last) :
    ∃ more, session.codec.feedAll (services.filterMap Service.chunk?) = (more, last.codec) ∧
      Served start (frames ++ more) (requests ++ services.filterMap Service.request?) last := by
  induction services generalizing session frames requests with
  | nil =>
    obtain rfl : session = last := Option.some.inj onward
    exact ⟨[], rfl, by simpa using served⟩
  | cons service rest inductionHypothesis =>
    obtain ⟨next, first, others⟩ := Option.bind_eq_some_iff.mp onward
    cases service with
    | request ticket frame =>
      obtain rfl : session.onSend ticket frame = next := Option.some.inj first
      have grown := served.request connected alive ticket frame
      obtain ⟨more, fed, whole⟩ := inductionHypothesis grown others
      have codec : (session.onSend ticket frame).codec = session.codec := by
        have there : session.writer.isAlive = true := by
          rw [served.writer]
          exact alive
        rw [onSend_of_alive session (served.connected.trans connected) there]
        rfl
      rw [codec] at fed
      exact ⟨more, fed, by simpa [Service.request?] using whole⟩
    | chunk octets =>
      obtain ⟨found, codec, extracted, rfl, noStray⟩ := fed_of_serve? first
      -- The read itself is no event that counts.
      have silent {α : Type} {pick : Event → Option α} (quiet : pick (.read octets) = none) :
          gather pick (session.afterRead session.inlet octets codec).history =
            gather pick session.history := by
        rw [afterRead, gather_record, List.filterMap_cons_none quiet]
        exact List.append_nil _
      have read : Served start frames requests (session.afterRead session.inlet octets codec) :=
        ⟨served.enough, served.slots, served.replies, (silent rfl).trans served.completions,
          (silent rfl).trans served.handed, served.writer, served.tally, served.connected⟩
      have unchanged := noStray.trans (silent rfl : _ = session.strays).symm
      obtain ⟨more, fed, whole⟩ := inductionHypothesis (read.receives found unchanged) others
      obtain ⟨_, _, _, result⟩ :=
        exists_receives_eq (session.afterRead session.inlet octets codec) found
      have codec : (found.foldl Session.receive
          (session.afterRead session.inlet octets codec)).codec = codec := by
        rw [result]
        rfl
      rw [codec] at fed
      refine ⟨found ++ more, ?_, by rwa [← List.append_assoc]⟩
      simp only [List.filterMap_cons, Service.chunk?, Codec.feedAll, extracted, fed]

/-- What was served decides what the session has come to. -/
theorem eq_of_served {other : Session} (served : Served start frames requests session)
    (served' : Served start frames requests other) :
    session.pending = other.pending ∧ session.completions = other.completions ∧
      session.handed = other.handed ∧ session.writer = other.writer ∧
      session.tally = other.tally := by
  refine ⟨?_, ?_, ?_, ?_, ?_⟩
  · have replies := served.replies.trans served'.replies.symm
    have slots := served.slots.trans served'.slots.symm
    cases pending : session.pending
    cases pending' : other.pending
    rw [pending, pending'] at replies slots
    obtain rfl : _ = _ := replies
    obtain rfl : _ = _ := slots
    rfl
  · rw [served.completions, served'.completions]
  · rw [served.handed, served'.handed]
  · rw [served.writer, served'.writer]
  · rw [served.tally, served'.tally]

end Served

variable {session one other : Session} {services services' : List Service}

/-- The order in which a task serves does not matter. Take a connected session whose writer is
there, chunks to read, and requests to take. In whatever two orders the task goes about them, each
in its own order, as long as no chunk completes a length above the limit and no frame finds nobody
waiting, it comes to the same: the same octets are held for the next frame, the same requests wait
in the same line and the same outcomes were given, the writer was handed the same frames in the same
order, and the counters are the same. What it comes to is what `Served` says, for the frames that
the chunks complete. -/
theorem served_in_any_order (connected : session.lifecycle = .connected)
    (alive : session.writer.isAlive = true)
    (served : session.serveAll? services = some one)
    (served' : session.serveAll? services' = some other)
    (chunks : services.filterMap Service.chunk? = services'.filterMap Service.chunk?)
    (requests : services.filterMap Service.request? = services'.filterMap Service.request?) :
    one.codec = other.codec ∧ one.pending = other.pending ∧
      one.completions = other.completions ∧ one.handed = other.handed ∧
      one.writer = other.writer ∧ one.tally = other.tally ∧
      ∃ frames, session.codec.feedAll (services.filterMap Service.chunk?) = (frames, one.codec) ∧
        Served session frames (services.filterMap Service.request?) one := by
  obtain ⟨frames, fed, first⟩ := (Served.nothing session).serveAll connected alive served
  obtain ⟨frames', fed', second⟩ := (Served.nothing session).serveAll connected alive served'
  rw [← chunks] at fed'
  rw [← requests] at second
  obtain ⟨rfl, codec⟩ := Prod.mk.inj (fed.symm.trans fed')
  obtain ⟨pending, completions, handed, writer, tally⟩ := first.eq_of_served second
  exact ⟨codec, pending, completions, handed, writer, tally, frames, fed, first⟩

/-- One request waits, another one is taken, and two frames come in two reads, the second one of
which is no JSON. The request can be taken before the reads or between them. It cannot be taken
behind them, where the second frame has found nobody. -/
theorem served_in_any_order_of_two_frames :
    ∃ session one other, Reachable Settings.default session ∧
      session.lifecycle = .connected ∧ session.writer.isAlive = true ∧
      let first : Service := .chunk [0, 0, 0, 1, 0x31, 0, 0]
      let second : Service := .chunk [0, 1, 0x7b]
      let request : Service := .request 1 [0, 0, 0, 1, 0x30]
      session.serveAll? [first, request, second] = some one ∧
      session.serveAll? [request, first, second] = some other ∧
      (session.serveAll? [first, second, request]).isNone ∧
      one.completions.map Prod.fst = [0, 1] ∧
      one.pending = other.pending ∧ one.handed = other.handed ∧ one.tally = other.tally := by
  let origin : Session := .new Settings.default .unlimited .ready
  let moves : List Move := [.send (.ok [0x7b, 0x7d]), .begin, .takeCommand]
  let first : Service := .chunk [0, 0, 0, 1, 0x31, 0, 0]
  let second : Service := .chunk [0, 1, 0x7b]
  let request : Service := .request 1 [0, 0, 0, 1, 0x30]
  have shown : (origin.play? moves).map (fun run =>
      (run.2.lifecycle, run.2.writer.isAlive,
        (run.2.serveAll? [first, request, second]).map fun one => one.completions.map Prod.fst,
        (run.2.serveAll? [request, first, second]).isSome,
        (run.2.serveAll? [first, second, request]).isNone)) =
      some (.connected, true, some [0, 1], true, true) := by
    decide +kernel
  obtain ⟨⟨past, session⟩, played, seen⟩ := Option.map_eq_some_iff.mp shown
  simp only [Prod.mk.injEq] at seen
  obtain ⟨connected, alive, between, before, behind⟩ := seen
  obtain ⟨_, run⟩ := play?_eq_some_iff.mp played
  obtain ⟨one, served, tickets⟩ := Option.map_eq_some_iff.mp between
  obtain ⟨other, served'⟩ := Option.isSome_iff_exists.mp before
  obtain ⟨_, pending, _, handed, _, tally, _⟩ :=
    served_in_any_order connected alive served served' rfl rfl
  exact ⟨session, one, other, ⟨origin, past, ⟨_, _, .inr rfl, rfl⟩, run⟩, connected, alive, served,
    served', behind, tickets, pending, handed, tally⟩

end Session

end Antiphon
