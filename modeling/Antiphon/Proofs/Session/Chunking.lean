import Antiphon.Proofs.Session.Delivery

/-!
# How much the chunks of a stream matter

Two deliveries of one stream to one state agree on everything that callers can see as long as no
length is above the limit. A length above the limit makes the chunks matter. The read that
completes it gives up the frames that were completed in the same read, so requests whose responses
have arrived in full are failed with the others. How many frames survive is the one thing that a
delivery decides.

The proof does not compare two deliveries step by step. Each is compared with the frames that the
joined stream is cut into: `Ledger.Going` and `Ledger.Broken` say what every delivery has come to.
-/

namespace Antiphon

namespace Ledger

/-- A ledger with other settings and another account of what was read. -/
def recast (ledger : Ledger) (settings : Settings) (chunks : List Octets) (codec : Codec) :
    Ledger :=
  { ledger with settings := settings, chunks := chunks, codec := codec }

/-- Of two recasts the last one counts. -/
@[simp] theorem recast_recast (ledger : Ledger) (settings settings' : Settings)
    (chunks chunks' : List Octets) (codec codec' : Codec) :
    (ledger.recast settings chunks codec).recast settings' chunks' codec' =
      ledger.recast settings' chunks' codec' := rfl

/-- A received frame asks neither for the settings nor for what was read. -/
theorem receive_recast (ledger : Ledger) (settings : Settings) (chunks : List Octets)
    (codec : Codec) (frame : Frame) :
    (ledger.recast settings chunks codec).receive frame =
      (ledger.receive frame).recast settings chunks codec := by
  cases first : ledger.pending.waiting with
  | nil => simp [receive, recast, note, first]
  | cons ticket rest => simp [receive, recast, note, complete, first]

/-- Frames are received alike under any settings, and however they were read. -/
theorem receives_recast (ledger : Ledger) (settings : Settings) (chunks : List Octets)
    (codec : Codec) (frames : List Frame) :
    frames.foldl receive (ledger.recast settings chunks codec) =
      (frames.foldl receive ledger).recast settings chunks codec := by
  induction frames generalizing ledger with
  | nil => rfl
  | cons frame rest inductionHypothesis =>
    rw [List.foldl_cons, receive_recast, inductionHypothesis]
    rfl

/-- What requests come to when they have been served with frames, and then a length above the limit
is met or is not. -/
def served (start : Ledger) (fatal : Option Oversized) (frames : List Frame) : Ledger :=
  match fatal with
  | none => frames.foldl receive start
  | some oversized =>
    (frames.foldl receive start).finish (.connection (LinkError.ofIncoming oversized).message)

/-- A delivery that has met no length above the limit: the requests have been served with some
frames, and what was read and what can be read is what has been delivered. -/
structure Going (start : Ledger) (stream : Octets) (ledger : Ledger) (inlet : Inlet) : Prop where
  running : ledger.task = .running
  scored : ∃ frames,
    ledger = (start.served none frames).recast ledger.settings ledger.chunks ledger.codec
  joined : ledger.chunks.flatten ++ inlet.readable = start.chunks.flatten ++ stream
  chunked : inlet.Chunked

/-- A delivery that has met one: the last read completed it and ended the session. -/
structure Broken (start : Ledger) (stream : Octets) (ledger : Ledger) : Prop where
  ended : ledger.task = .ended
  scored : ∃ frames oversized,
    Frame.fatal? ledger.settings.maxPayload ledger.chunks.flatten = some oversized ∧
    ledger = (start.served (some oversized) frames).recast
      ledger.settings ledger.chunks ledger.codec
  joined : ledger.chunks.flatten <+: start.chunks.flatten ++ stream
  last : ∃ front fatal, ledger.chunks = front ++ [fatal] ∧
    Frame.fatal? ledger.settings.maxPayload front.flatten = none

/-- Requests are served alike under any settings, and however the frames were read. -/
theorem served_recast (start : Ledger) (fatal : Option Oversized) (frames : List Frame)
    (settings : Settings) (chunks : List Octets) (codec : Codec) :
    (start.recast settings chunks codec).served fatal frames =
      (start.served fatal frames).recast settings chunks codec := by
  cases fatal with
  | none => exact receives_recast start settings chunks codec frames
  | some oversized =>
    simp only [served, receives_recast]
    rfl

/-- The frames that requests were served with have been received. -/
theorem received_served (start : Ledger) (fatal : Option Oversized) (frames : List Frame) :
    (start.served fatal frames).received = start.received ++ frames := by
  cases fatal with
  | none => exact (received_receives start frames).1
  | some oversized => exact (received_receives start frames).1

/-- Nothing that arrives later mends a delivery that has met a length above the limit. -/
theorem Broken.deliver {start ledger : Ledger} {stream : Octets}
    (broken : Broken start stream ledger) (octets : Octets) :
    Broken start (stream ++ octets) ledger := by
  refine ⟨broken.ended, broken.scored, ?_, broken.last⟩
  rw [← List.append_assoc]
  exact broken.joined.trans (List.prefix_append _ _)

end Ledger

namespace Session

/-- Two sessions in which callers cannot see a difference. -/
structure Agree (one other : Session) : Prop where
  completions : one.completions = other.completions
  outcomes : ∀ ticket, one.pending.outcome? ticket = other.pending.outcome? ticket
  received : one.tally.received = other.tally.received
  undecodable : one.tally.undecodable = other.tally.undecodable
  unsolicited : one.tally.unsolicited = other.tally.unsolicited
  lifecycle : one.lifecycle = other.lifecycle

/-- The frames of what was read that reach the requests: those that were complete before the read
that met a length above the limit, or all of them if no read did. -/
def survivors (limit : UInt32) (chunks : List Octets) : List Frame :=
  match Frame.fatal? limit chunks.flatten with
  | none => (Frame.cut limit chunks.flatten).1
  | some _ => (Frame.cut limit chunks.dropLast.flatten).1

variable {settings : Settings} {start session last : Session} {stream : Octets}

/-- One more read. -/
theorem going_read {session next : Session} {start : Ledger}
    (reachable : Reachable settings session)
    (going : start.Going stream session.ledger session.inlet) (made : session.read? = some next) :
    start.Going stream next.ledger next.inlet ∨ start.Broken stream next.ledger := by
  obtain ⟨frames, scored⟩ := going.scored
  have fed : session.ledger.Fed := reachable.fed
  have running : session.task = .running := going.running
  have allowed := reachable.allowed (by simp [running])
  have joined := going.joined
  obtain ⟨octets, inlet, available, behind, served | ended⟩ :=
    read_of_chunked going.chunked made
  · left
    obtain ⟨more, codec, extracted, rfl⟩ := served
    have result : (more.foldl receive (session.afterRead inlet octets codec)).ledger =
        (start.served none (frames ++ more)).recast session.settings
          (session.chunks ++ [octets]) codec := by
      rw [ledger_receives, ledger_afterRead, Ledger.served, List.foldl_append,
        ← Ledger.receives_recast]
      exact congrArg (fun ledger => more.foldl Ledger.receive (ledger.read octets codec)) scored
    have task : ((frames ++ more).foldl Ledger.receive start).task = .running := by
      rw [(Ledger.orders_receives start _).2.2.2, ← (Ledger.orders_receives start frames).2.2.2]
      exact (congrArg Ledger.task scored).symm.trans running
    have left : (more.foldl receive (session.afterRead inlet octets codec)).inlet = inlet :=
      inlet_receives _ more
    rw [result, left]
    refine ⟨task, ⟨_, rfl⟩, ?_, behind⟩
    rw [← joined, Inlet.readable_of_read available]
    change (session.chunks ++ [octets]).flatten ++ inlet.readable = session.chunks.flatten ++ _
    simp
  · right
    obtain ⟨error, codec, refused, rfl⟩ := ended
    obtain ⟨oversized, rfl, violated⟩ := Ledger.violation_of_feed fed allowed refused
    have result : ((session.afterRead inlet octets codec).endByFailure
        (.ofIncoming oversized)).ledger =
          (start.served (some oversized) frames).recast session.settings
            (session.chunks ++ [octets]) codec := by
      rw [ledger_endByFailure, ledger_afterRead]
      exact congrArg (fun ledger => (ledger.read octets codec).finish
        (.connection (LinkError.ofIncoming oversized).message)) scored
    have flat : (session.chunks ++ [octets]).flatten = session.chunks.flatten ++ octets := by simp
    rw [result]
    refine ⟨rfl, ⟨frames, oversized, ?_, rfl⟩, ?_, session.chunks, octets, rfl, allowed⟩
    · change Frame.fatal? session.settings.maxPayload (session.chunks ++ [octets]).flatten = _
      rw [flat]
      exact violated
    · change (session.chunks ++ [octets]).flatten <+: _
      refine ⟨inlet.readable, ?_⟩
      rw [← joined, Inlet.readable_of_read available, flat, List.append_assoc]
      rfl

/-- Wherever a delivery has got to, it is going on or was broken off by a length above the limit. -/
theorem Delivery.going_or_broken (delivery : Delivery start stream last)
    (reachable : Reachable settings start) (running : start.task = .running)
    (unread : start.inlet = []) :
    start.ledger.Going stream last.ledger last.inlet ∨
      start.ledger.Broken stream last.ledger := by
  induction delivery with
  | begin =>
    refine .inl ⟨running, ⟨[], rfl⟩, ?_, ?_⟩
    · rw [unread]
      rfl
    · rw [unread]
      intro arrival member
      cases member
  | @deliver stream session delivery octets before =>
    rcases before with going | broken
    · obtain ⟨chunked, readable⟩ := going.chunked.deliver octets
      refine .inl ⟨going.running, going.scored, ?_, chunked⟩
      rw [← List.append_assoc, ← going.joined, List.append_assoc, ← readable]
      rfl
    · exact .inr (broken.deliver octets)
  | @read stream session next delivery made before =>
    rcases before with going | broken
    · exact going_read (delivery.reachable reachable) going made
    · have ended : session.task = .ended := broken.ended
      simp [read?, ended] at made
  | @write stream session next delivery made before =>
    obtain ⟨_, writer, outlet, events, moved, rfl⟩ := written_of_moveWriter? made
    have same := ledger_record_of_isQuiet { session with writer := writer, outlet := outlet }
      (isQuiet_of_writer_step moved)
    rw [same]
    exact before
  | changeOutlet _ _ before => exact before
  | advance _ _ before => exact before

/-- A delivery that met no length above the limit has served the requests with all frames. -/
theorem Delivered.received_of_going (delivered : Delivered start stream last)
    (reachable : Reachable settings last)
    (going : start.ledger.Going stream last.ledger last.inlet) :
    start.octetsRead ++ stream = last.octetsRead ∧
      Frame.fatal? settings.maxPayload last.octetsRead = none ∧
      last.received = (Frame.cut settings.maxPayload last.octetsRead).1 := by
  have running : last.task = .running := going.running
  have limit : last.settings.maxPayload = settings.maxPayload :=
    congrArg Settings.maxPayload reachable.settings_eq
  have allowed := reachable.allowed (by simp [running])
  have joined : last.octetsRead ++ last.inlet.readable = start.octetsRead ++ stream := going.joined
  have empty : last.inlet = [] := inlet_eq_nil_of_read? running delivered.2 going.chunked
  have received := reachable.received_eq allowed
  rw [empty] at joined
  refine ⟨joined.symm.trans (List.append_nil _), ?_, ?_⟩
  · rw [← limit]
    exact allowed
  · rw [← limit]
    exact received

/-- A delivery that was broken off has served them with the frames of the reads before the last. -/
theorem received_of_broken (reachable : Reachable settings last)
    (broken : start.ledger.Broken stream last.ledger) :
    ∃ front fatal back oversized frames, last.chunks = front ++ [fatal] ∧
      start.octetsRead ++ stream = last.octetsRead ++ back ∧
      Frame.fatal? settings.maxPayload last.octetsRead = some oversized ∧
      last.received = (Frame.cut settings.maxPayload front.flatten).1 ∧
      last.ledger = (start.ledger.served (some oversized) frames).recast
        last.settings last.chunks last.codec := by
  have limit : last.ledger.settings.maxPayload = settings.maxPayload :=
    congrArg Settings.maxPayload reachable.settings_eq
  obtain ⟨frames, oversized, violated, scored⟩ := broken.scored
  obtain ⟨front, fatal, chunks, allowed⟩ := broken.last
  obtain ⟨back, joined⟩ := broken.joined
  rw [limit] at violated allowed
  refine ⟨front, fatal, back, oversized, frames, chunks, joined.symm, violated, ?_, scored⟩
  have fed : (Codec.new settings.maxPayload).feedAll last.ledger.chunks =
      (last.received, last.codec) := limit ▸ reachable.fed
  rw [chunks] at fed violated
  rw [List.flatten_concat] at violated
  rw [← Codec.feedAll_eq_of_fatal? allowed violated, fed]

/-- What a delivery comes to is decided by the state in which it began, the stream, and the frames
that survived. -/
theorem Delivered.ledger_eq (delivered : Delivered start stream last)
    (reachable : Reachable settings start) (running : start.task = .running)
    (unread : start.inlet = []) :
    last.received = survivors settings.maxPayload last.chunks ∧
      last.received <+: (Frame.cut settings.maxPayload (start.octetsRead ++ stream)).1 ∧
      (Frame.fatal? settings.maxPayload (start.octetsRead ++ stream) = none →
        last.received = (Frame.cut settings.maxPayload (start.octetsRead ++ stream)).1) ∧
      ∃ frames, last.received = start.received ++ frames ∧
        last.ledger = (start.ledger.served
          (Frame.fatal? settings.maxPayload (start.octetsRead ++ stream)) frames).recast
            last.settings last.chunks last.codec := by
  have reached := delivered.1.reachable reachable
  rcases delivered.1.going_or_broken reachable running unread with going | broken
  · obtain ⟨frames, scored⟩ := going.scored
    obtain ⟨whole, allowed, received⟩ := delivered.received_of_going reached going
    rw [whole, allowed]
    refine ⟨?_, ?_, fun _ => received, frames, ?_, scored⟩
    · rw [octetsRead] at allowed
      rw [received, survivors, allowed]
      rfl
    · exact ⟨[], by rw [received, List.append_nil]⟩
    · have same := congrArg Ledger.received scored
      exact same.trans (Ledger.received_receives _ frames).1
  · obtain ⟨front, fatal, back, oversized, frames, chunks, whole, violated, received, scored⟩ :=
      received_of_broken reached broken
    rw [whole, Frame.cut_append_of_fatal? violated, Frame.fatal?_append violated]
    refine ⟨?_, ?_, fun none => (by cases none), frames, ?_, scored⟩
    · rw [octetsRead] at violated
      rw [received, survivors, violated, chunks, List.dropLast_concat]
    · rw [received, octetsRead, chunks, List.flatten_concat]
      exact Frame.cut_prefix _ _ _
    · have same := congrArg Ledger.received scored
      exact same.trans (Ledger.received_served start.ledger (some oversized) frames)

/-- Any chunks can be delivered: reading them comes to an end, since each read takes octets or the
last of a chunk. -/
theorem exists_delivered (reachable : Reachable settings start) (running : start.task = .running)
    (unread : start.inlet = []) (chunks : List Octets) :
    ∃ last, Delivered start chunks.flatten last := by
  obtain ⟨session, delivery⟩ := Delivery.chunks .begin chunks
  rw [List.nil_append] at delivery
  induction left : session.inlet.readable.length + session.inlet.length
    using Nat.strongRecOn generalizing session with
  | ind left inductionHypothesis =>
    cases made : session.read? with
    | none => exact ⟨session, delivery, made⟩
    | some next =>
      subst left
      rcases delivery.going_or_broken reachable running unread with going | broken
      · obtain ⟨octets, inlet, available, _, served | ended⟩ :=
          read_of_chunked going.chunked made
        · obtain ⟨frames, codec, _, rfl⟩ := served
          have less := Inlet.lt_of_read (Nat.le_max_left 1 _) available
          refine inductionHypothesis _ ?_ _ (delivery.read made) rfl
          rw [inlet_receives]
          exact less
        · obtain ⟨error, codec, _, rfl⟩ := ended
          exact ⟨_, delivery.read made, rfl⟩
      · have ended : session.task = .ended := broken.ended
        simp [read?, ended] at made

/-- Requests that were served alike look alike. -/
theorem agree_of_recast {one other : Session} {ledger : Ledger} {settings settings' : Settings}
    {chunks chunks' : List Octets} {codec codec' : Codec}
    (same : one.ledger = ledger.recast settings chunks codec)
    (same' : other.ledger = ledger.recast settings' chunks' codec') : Agree one other := by
  have tally : one.tally = other.tally :=
    (congrArg Ledger.tally same).trans (congrArg Ledger.tally same').symm
  have pending : one.pending = other.pending :=
    (congrArg Ledger.pending same).trans (congrArg Ledger.pending same').symm
  have completions : one.completions = other.completions :=
    (congrArg Ledger.completions same).trans (congrArg Ledger.completions same').symm
  have lifecycle : one.lifecycle = other.lifecycle :=
    (congrArg Ledger.lifecycle same).trans (congrArg Ledger.lifecycle same').symm
  exact ⟨completions, fun ticket => by rw [pending], by rw [tally], by rw [tally], by rw [tally],
    lifecycle⟩

/-- Sessions that have received equally many frames of one stream have received the same, as long
as the count does not wrap. -/
theorem received_eq_of_count {settings' : Settings} {one other : Session} {frames : List Frame}
    (reachable : Reachable settings one) (reachable' : Reachable settings' other)
    (begun : one.received <+: frames) (begun' : other.received <+: frames)
    (short : frames.length < UInt64.size) (counted : one.tally.received = other.tally.received) :
    one.received = other.received := by
  have count : one.tally.received = one.received.length.toUInt64 :=
    reachable.paired.2.received
  have count' : other.tally.received = other.received.length.toUInt64 :=
    reachable'.paired.2.received
  have bound := begun.length_le
  have bound' := begun'.length_le
  have equal : one.received.length = other.received.length := by
    rw [count, count'] at counted
    have values : one.received.length % UInt64.size = other.received.length % UInt64.size :=
      congrArg UInt64.toNat counted
    rwa [Nat.mod_eq_of_lt (Nat.lt_of_le_of_lt bound short),
      Nat.mod_eq_of_lt (Nat.lt_of_le_of_lt bound' short)] at values
  rw [List.prefix_iff_eq_take.mp begun, List.prefix_iff_eq_take.mp begun', equal]

/-- When the deliveries of one stream agree. The requests of a session are the same at both starts,
and only the size of the read buffer may differ. If no length is above the limit, the deliveries
agree, and all frames are received. If one is, they agree if and only if the same frames survive. -/
theorem deliveries_agree_iff {size : UInt64} {start start' one other : Session} {stream : Octets}
    (reachable : Reachable settings start)
    (reachable' : Reachable (settings.withReadBuffer size) start')
    (alike : start'.ledger = { start.ledger with settings := settings.withReadBuffer size })
    (running : start.task = .running) (unread : start.inlet = []) (unread' : start'.inlet = [])
    (delivered : Delivered start stream one) (delivered' : Delivered start' stream other) :
    (Frame.fatal? settings.maxPayload (start.octetsRead ++ stream) = none →
      Agree one other ∧
        one.received = (Frame.cut settings.maxPayload (start.octetsRead ++ stream)).1) ∧
    (one.received = survivors settings.maxPayload one.chunks ∧
      other.received = survivors settings.maxPayload other.chunks) ∧
    (survivors settings.maxPayload one.chunks = survivors settings.maxPayload other.chunks →
      Agree one other) ∧
    ((start.octetsRead ++ stream).length < UInt64.size → Agree one other →
      survivors settings.maxPayload one.chunks = survivors settings.maxPayload other.chunks) := by
  have running' : start'.task = .running := (congrArg Ledger.task alike).trans running
  have octets : start'.octetsRead = start.octetsRead :=
    congrArg (fun ledger => ledger.chunks.flatten) alike
  obtain ⟨survived, begun, all, frames, received, served⟩ :=
    delivered.ledger_eq reachable running unread
  obtain ⟨survived', begun', all', frames', received', served'⟩ :=
    delivered'.ledger_eq reachable' running' unread'
  rw [octets] at begun' all' served'
  have recast : start'.ledger =
    start.ledger.recast (settings.withReadBuffer size) start.chunks start.codec := alike
  rw [recast, Ledger.served_recast, Ledger.recast_recast] at served'
  have agree (same : one.received = other.received) : Agree one other := by
    have before : start'.received = start.received := congrArg Ledger.received alike
    rw [received, received', before] at same
    rw [List.append_cancel_left same] at served
    exact agree_of_recast served served'
  refine ⟨?_, ⟨survived, survived'⟩, ?_, ?_⟩
  · intro allowed
    have same : one.received = other.received := (all allowed).trans (all' allowed).symm
    exact ⟨agree same, all allowed⟩
  · intro same
    exact agree (survived.trans (same.trans survived'.symm))
  · intro short seen
    have same := received_eq_of_count (delivered.1.reachable reachable)
      (delivered'.1.reachable reachable') begun begun'
      (Nat.lt_of_le_of_lt (Frame.length_cut_le _ _) short) seen.received
    exact survived.symm.trans (same.trans survived')

/-- A session that has taken one request and waits for its response. -/
def afterOneRequest (settings : Settings) : Session :=
  { (new settings .unlimited .ready).accept (Frame.octets ⟨[0x7b, 0x7d]⟩) with
    task := .running
    commands := [] }.onSend 0 (Frame.octets ⟨[0x7b, 0x7d]⟩)

/-- The session that waits for its response can be reached. -/
theorem reachable_afterOneRequest (size : UInt64) :
    Reachable (Settings.default.withReadBuffer size)
      (afterOneRequest (Settings.default.withReadBuffer size)) := by
  let origin : Session := .new (Settings.default.withReadBuffer size) .unlimited .ready
  have played : ∃ past, origin.play? [.send (.ok [0x7b, 0x7d]), .begin, .takeCommand] =
    some (past, afterOneRequest (Settings.default.withReadBuffer size)) := ⟨_, rfl⟩
  obtain ⟨past, played⟩ := played
  exact ⟨origin, past, ⟨_, _, .inr rfl, rfl⟩, (play?_eq_some_iff.mp played).2⟩

/-- One response in two chunks or in one, read with much room or octet by octet. -/
theorem deliveries_agree_iff_of_two_chunks :
    ∃ one other,
      Delivered (afterOneRequest Settings.default) [0, 0, 0, 1, 0x31] one ∧
      Delivered (afterOneRequest (Settings.default.withReadBuffer 0)) [0, 0, 0, 1, 0x31] other ∧
      Agree one other ∧ one.received = [⟨[0x31]⟩] := by
  have reachable : Reachable Settings.default (afterOneRequest Settings.default) :=
    reachable_afterOneRequest 65536
  have reachable' := reachable_afterOneRequest 0
  obtain ⟨one, delivered⟩ := exists_delivered reachable rfl rfl [[0, 0], [0, 1, 0x31]]
  obtain ⟨other, delivered'⟩ := exists_delivered reachable' rfl rfl [[0, 0, 0, 1, 0x31]]
  have cut : Frame.cut Settings.default.maxPayload [0, 0, 0, 1, 0x31] = ([⟨[0x31]⟩], []) := by
    decide +kernel
  have compared := deliveries_agree_iff reachable reachable' rfl rfl rfl rfl delivered delivered'
  obtain ⟨agree, received⟩ := compared.1 (by decide +kernel)
  exact ⟨one, other, delivered, delivered', agree, received.trans (congrArg Prod.fst cut)⟩

/-- A response and, behind it, a length above the limit. Read together they fail the request that
the response belongs to; read one after the other they complete it first. -/
theorem deliveries_disagree_on_length_behind_response :
    ∃ one other, Reachable Settings.default (afterOneRequest Settings.default) ∧
      Delivered (afterOneRequest Settings.default)
        [0, 0, 0, 1, 0x31, 0xff, 0xff, 0xff, 0xff] one ∧
      Delivered (afterOneRequest Settings.default)
        [0, 0, 0, 1, 0x31, 0xff, 0xff, 0xff, 0xff] other ∧
      one.received = [] ∧ (one.pending.outcome? 0).map Except.isOk = some false ∧
      other.received = [⟨[0x31]⟩] ∧ (other.pending.outcome? 0).map Except.isOk = some true ∧
      ¬ Agree one other := by
  let start := afterOneRequest Settings.default
  let frame : Octets := [0, 0, 0, 1, 0x31]
  let length : Octets := [0xff, 0xff, 0xff, 0xff]
  let look (session : Session) :=
    (session.received, (session.pending.outcome? 0).map Except.isOk, session.tally.received,
      session.task)
  have together : (start.deliver (.chunk (frame ++ length))).read?.map look =
    some ([], some false, 0, .ended) := by decide +kernel
  have apart : ((start.deliver (.chunk frame)).read?.bind fun answered =>
    (answered.deliver (.chunk length)).read?.map look) =
      some ([⟨[0x31]⟩], some true, 1, .ended) := by decide +kernel
  obtain ⟨one, made, seen⟩ := Option.map_eq_some_iff.mp together
  obtain ⟨answered, first, last⟩ := Option.bind_eq_some_iff.mp apart
  obtain ⟨other, second, seen'⟩ := Option.map_eq_some_iff.mp last
  simp only [look, Prod.mk.injEq] at seen seen'
  obtain ⟨received, failed, none, ended⟩ := seen
  obtain ⟨received', completed, counted, ended'⟩ := seen'
  refine ⟨one, other, reachable_afterOneRequest 65536, ⟨.read (.deliver .begin _) made, ?_⟩,
    ⟨.read (.deliver (.read (.deliver .begin _) first) _) second, ?_⟩, received, failed, received',
    completed, ?_⟩
  · simp [read?, ended]
  · simp [read?, ended']
  · intro agree
    have same := agree.received
    rw [none, counted] at same
    cases same

end Session

end Antiphon
