import Antiphon.Proofs.Session.Correlation

/-!
# Deliveries of a stream

A delivery hands a session a stream in some chunks, read at some moments and with some capacity,
while the writer, the outlet and the clock go on as they like. Nothing else happens meanwhile: no
command is taken, and the stream neither ends nor fails.

What a read answers is decided by all that was read so far (`Ledger.feed_eq`). As long as the task
is there, no length above the limit was among it, since the read that meets one ends the session
(`Reachable.allowed`).
-/

namespace Antiphon

namespace Ledger

/-- No length above the limit has been read. -/
def Allowed (ledger : Ledger) : Prop :=
  Frame.fatal? ledger.settings.maxPayload ledger.chunks.flatten = none

variable {ledger after : Ledger} {accepting : Bool}

/-- What a feed answers is decided by all that was read, and by nothing else. -/
theorem feed_eq (fed : ledger.Fed) (allowed : ledger.Allowed) (octets : Octets) :
    (ledger.codec.feed octets).1 =
      match Frame.fatal? ledger.settings.maxPayload (ledger.chunks.flatten ++ octets) with
      | some oversized => .error (.ofIncoming oversized)
      | none => .ok (Frame.cut ledger.settings.maxPayload
          ((Frame.cut ledger.settings.maxPayload ledger.chunks.flatten).2 ++ octets)).1 := by
  have held := Codec.feedAll_eq allowed
  rw [fed] at held
  have codec : ledger.codec = Codec.holding ledger.settings.maxPayload
      (Frame.cut ledger.settings.maxPayload ledger.chunks.flatten).2 := congrArg Prod.snd held
  rw [codec, Codec.feed_holding, Reassembly.verdict, Frame.fatal?_tail_append]
  cases Frame.fatal? _ (_ ++ octets) <;> rfl

/-- A feed that succeeds has met no length above the limit. -/
theorem allowed_of_feed {octets : Octets} {frames : List Frame} {codec : Codec}
    (fed : ledger.Fed) (allowed : ledger.Allowed)
    (extracted : ledger.codec.feed octets = (.ok frames, codec)) :
    Frame.fatal? ledger.settings.maxPayload (ledger.chunks.flatten ++ octets) = none := by
  have answer := feed_eq fed allowed octets
  rw [extracted] at answer
  split at answer
  · cases answer
  · next none => exact none

/-- A feed that fails has met a length above the limit, and its failure names it. -/
theorem violation_of_feed {octets : Octets} {error : LinkError} {codec : Codec}
    (fed : ledger.Fed) (allowed : ledger.Allowed)
    (refused : ledger.codec.feed octets = (.error error, codec)) :
    ∃ oversized, error = .ofIncoming oversized ∧
      Frame.fatal? ledger.settings.maxPayload (ledger.chunks.flatten ++ octets) =
        some oversized := by
  have answer := feed_eq fed allowed octets
  rw [refused] at answer
  split at answer
  · next oversized violated =>
    cases answer
    exact ⟨oversized, rfl, violated⟩
  · cases answer

/-- A length above the limit ends the session that reads it. -/
theorem allowed_next (moved : ledger.Next accepting after) (fed : ledger.Fed)
    (allowed : ledger.task ≠ .ended → ledger.Allowed) (ongoing : after.task ≠ .ended) :
    after.Allowed := by
  cases moved with
  | same | abandoned => exact allowed ongoing
  | accepted frame text framed room taking => exact allowed taking.1
  | askedToClose taking => exact allowed taking.1
  | started held => exact allowed (by simp [held])
  | begun ready => exact allowed (by simp [ready])
  | taken ticket frame rest sent running first => exact allowed (by simp [running])
  | closing rest deadline running first => exact allowed (by simp [running])
  | fed octets frames codec running extracted =>
    have now := allowed_of_feed fed (allowed (by simp [running])) extracted
    rw [Allowed, settings_receives, (received_receives _ frames).2.1]
    simpa [read] using now
  | overrun | finished => exact absurd rfl ongoing
  | dropped live => exact allowed live.1

end Ledger

/-- Nothing but chunks has arrived. -/
def Inlet.Chunked (inlet : Inlet) : Prop := ∀ arrival ∈ inlet, ∃ octets, arrival = .chunk octets

namespace Inlet.Chunked

variable {inlet after : Inlet}

/-- A chunk that arrives behind chunks can be read behind them. -/
theorem deliver (chunked : inlet.Chunked) (octets : Octets) :
    (inlet.deliver (.chunk octets)).Chunked ∧
      (inlet.deliver (.chunk octets)).readable = inlet.readable ++ octets := by
  cases octets with
  | nil => exact ⟨chunked, (List.append_nil _).symm⟩
  | cons octet rest =>
    constructor
    · intro arrival member
      rcases List.mem_append.mp member with before | new
      · exact chunked arrival before
      · exact ⟨octet :: rest, List.mem_singleton.mp new⟩
    · change Inlet.readable (inlet ++ [.chunk (octet :: rest)]) = _
      induction inlet with
      | nil => simp [readable]
      | cons arrival later inductionHypothesis =>
        obtain ⟨front, rfl⟩ := chunked arrival List.mem_cons_self
        have behind : Inlet.Chunked later := fun arrival member =>
          chunked arrival (List.mem_cons_of_mem _ member)
        rw [List.cons_append, readable, readable, inductionHypothesis behind, List.append_assoc]

/-- A read gives a part of the first chunk and leaves the rest. -/
theorem read (chunked : inlet.Chunked) {capacity : Nat} {arrival : Arrival}
    (available : inlet.read capacity = some (arrival, after)) :
    after.Chunked ∧ ∃ octets, arrival = .chunk octets := by
  cases inlet with
  | nil => cases available
  | cons first rest =>
    obtain ⟨chunk, rfl⟩ := chunked first List.mem_cons_self
    have behind : Inlet.Chunked rest := fun arrival member =>
      chunked arrival (List.mem_cons_of_mem _ member)
    simp only [Inlet.read] at available
    split at available
    · cases available
      exact ⟨behind, _, rfl⟩
    · cases available
      refine ⟨?_, _, rfl⟩
      intro arrival member
      rcases List.mem_cons.mp member with rfl | later
      · exact ⟨_, rfl⟩
      · exact behind arrival later

end Inlet.Chunked

/-- A read takes octets, or the last of a chunk. -/
theorem Inlet.lt_of_read {inlet after : Inlet} {capacity : Nat} {octets : Octets}
    (room : 1 ≤ capacity) (available : inlet.read capacity = some (.chunk octets, after)) :
    after.readable.length + after.length < inlet.readable.length + inlet.length := by
  have total := congrArg List.length (readable_of_read available)
  rw [List.length_append] at total
  cases inlet with
  | nil => cases available
  | cons first rest =>
    cases first with
    | finish | fault => cases available
    | chunk chunk =>
      simp only [Inlet.read] at available
      split at available
      · cases available
        rw [total, List.length_cons]
        omega
      · next front back unfinished divided =>
        cases available
        rw [List.splitAt_eq, Prod.mk.injEq] at divided
        have some : 0 < octets.length := by
          obtain ⟨rfl, rfl⟩ := divided
          have more : (chunk.drop capacity).length ≠ 0 := fun none =>
            unfinished (List.eq_nil_of_length_eq_zero none)
          rw [List.length_drop] at more
          rw [List.length_take]
          omega
        rw [total, List.length_cons, List.length_cons]
        omega

namespace Session

/-- Until a session ends it has met no length above the limit. -/
theorem Reachable.allowed {settings : Settings} {session : Session}
    (reachable : Reachable settings session) (ongoing : session.task ≠ .ended) :
    session.ledger.Allowed := by
  obtain ⟨origin, past, opened, run⟩ := reachable
  have both := run.preserves_ledger
    (fun ledger => ledger.Fed ∧ (ledger.task ≠ .ended → ledger.Allowed)) (sound_of_opened opened) ?_
    fun _ next kept => ⟨kept.1.next next, Ledger.allowed_next next kept.1 kept.2⟩
  · exact both.2 ongoing
  · obtain ⟨outlet, task, _, rfl⟩ := opened
    exact ⟨rfl, fun _ => Frame.fatal?_nil _⟩

/-- A stream delivered from one state to another: chunks arrive and are read, and meanwhile the
writer, the outlet and the clock go on as they like. -/
inductive Delivery (start : Session) : Octets → Session → Prop
  | begin : Delivery start [] start
  | deliver {stream : Octets} {session : Session} (delivery : Delivery start stream session)
      (octets : Octets) : Delivery start (stream ++ octets) (session.deliver (.chunk octets))
  | read {stream : Octets} {session next : Session} (delivery : Delivery start stream session)
      (made : session.read? = some next) : Delivery start stream next
  | write {stream : Octets} {session next : Session} (delivery : Delivery start stream session)
      (made : session.moveWriter? = some next) : Delivery start stream next
  | changeOutlet {stream : Octets} {session : Session} (delivery : Delivery start stream session)
      (change : Outlet → Outlet) : Delivery start stream (session.changeOutlet change)
  | advance {stream : Octets} {session : Session} (delivery : Delivery start stream session)
      (milliseconds : Nat) : Delivery start stream (session.advance milliseconds)

/-- A delivery after which nothing more can be read. -/
def Delivered (start : Session) (stream : Octets) (last : Session) : Prop :=
  Delivery start stream last ∧ last.read? = none

variable {settings : Settings} {start session last : Session} {stream : Octets}

/-- A delivery is a run. -/
theorem Delivery.run (delivery : Delivery start stream last) : ∃ past, Run start past last := by
  have go {session next : Session} (move : Move) (before : ∃ past, Run start past session)
      (made : session.make? move = some next) : ∃ past, Run start past next := by
    obtain ⟨past, run⟩ := before
    exact ⟨_, run.step made⟩
  induction delivery with
  | begin => exact ⟨[], .stay⟩
  | deliver _ octets before => exact go (.deliver (.chunk octets)) before rfl
  | read _ made before => exact go .read before made
  | write _ made before => exact go .write before made
  | changeOutlet _ change before => exact go (.changeOutlet change) before rfl
  | advance _ milliseconds before => exact go (.advance milliseconds) before rfl

/-- A delivery leads from a reachable state to reachable states. -/
theorem Delivery.reachable (delivery : Delivery start stream last)
    (reachable : Reachable settings start) : Reachable settings last := by
  obtain ⟨more, later⟩ := delivery.run
  obtain ⟨origin, past, opened, run⟩ := reachable
  exact ⟨origin, past ++ more, opened, run.trans later⟩

/-- Chunks can arrive at any time. -/
theorem Delivery.chunks (delivery : Delivery start stream session) (chunks : List Octets) :
    ∃ last, Delivery start (stream ++ chunks.flatten) last := by
  induction chunks generalizing session stream with
  | nil =>
    rw [List.flatten_nil, List.append_nil]
    exact ⟨session, delivery⟩
  | cons chunk rest inductionHypothesis =>
    rw [List.flatten_cons, ← List.append_assoc]
    exact inductionHypothesis (delivery.deliver chunk)

/-- Frames do not change what has arrived. -/
theorem inlet_receives (session : Session) (frames : List Frame) :
    (frames.foldl receive session).inlet = session.inlet := by
  induction frames generalizing session with
  | nil => rfl
  | cons frame rest inductionHypothesis =>
    rw [List.foldl_cons, inductionHypothesis, receive_eq, answer]
    have noted : (session.note frame).inlet = session.inlet := by
      unfold note
      split <;> rfl
    split <;> exact noted

/-- A read that finds a chunk either serves requests or ends the session. -/
theorem read_of_chunked {session next : Session} (chunked : session.inlet.Chunked)
    (made : session.read? = some next) :
    ∃ octets inlet, session.inlet.read session.settings.readCapacity = some (.chunk octets, inlet) ∧
      inlet.Chunked ∧
      ((∃ frames codec, session.codec.feed octets = (.ok frames, codec) ∧
          next = frames.foldl receive (session.afterRead inlet octets codec)) ∨
        ∃ error codec, session.codec.feed octets = (.error error, codec) ∧
          next = (session.afterRead inlet octets codec).endByFailure error) := by
  unfold read? at made
  split at made
  · next arrival inlet running available =>
    obtain ⟨behind, octets, rfl⟩ := chunked.read available
    refine ⟨octets, inlet, available, behind, ?_⟩
    cases extracted : session.codec.feed octets with
    | mk result codec =>
      cases result with
      | error error =>
        simp only [onData, extracted] at made
        cases made
        exact .inr ⟨error, codec, rfl, rfl⟩
      | ok frames =>
        simp only [onData, extracted] at made
        cases made
        exact .inl ⟨frames, codec, rfl, rfl⟩
  · cases made

/-- A session that is running can read whatever has arrived. -/
theorem inlet_eq_nil_of_read? {session : Session} (running : session.task = .running)
    (exhausted : session.read? = none) (chunked : session.inlet.Chunked) : session.inlet = [] := by
  cases arrived : session.inlet with
  | nil => rfl
  | cons first rest =>
    obtain ⟨chunk, rfl⟩ := chunked first (arrived ▸ List.mem_cons_self)
    exfalso
    cases found : session.inlet.read session.settings.readCapacity with
    | none =>
      rw [arrived, Inlet.read] at found
      split at found <;> cases found
    | some reading =>
      obtain ⟨arrival, inlet⟩ := reading
      obtain ⟨_, octets, rfl⟩ := chunked.read found
      simp only [read?, running, found] at exhausted
      split at exhausted <;> cases exhausted

end Session

end Antiphon
