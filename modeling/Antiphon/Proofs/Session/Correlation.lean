import Antiphon.Proofs.Session.Dispatch
import Antiphon.Proofs.Session.Pairing

/-!
# Correlation with an orderly peer

The link has no request numbers, so a response finds its request only because of the order. What
the peer has to do for that is little (`Session.PeerInOrder`): keep to the limit, and finish its
j-th response only after the stream has taken the whole of the j-th request.

The session does its part by giving a request its place before the writer gets its frame. Hence
as many requests have a place as there are frames in the stream, the peer cannot be ahead of the
queue, and no frame is a stray. The argument meets all the parts of a session: `Dispatch.Carried`
counts what was written, `Ledger.Ordered` what was taken, and `Ledger.Paired` what was matched.
-/

namespace Antiphon

/-- What can be read before the next end or fault. -/
def Inlet.readable : Inlet → Octets
  | .chunk octets :: rest => octets ++ Inlet.readable rest
  | _ => []

/-- A read takes the first octets of what can be read. -/
theorem Inlet.readable_of_read {inlet after : Inlet} {capacity : Nat} {octets : Octets}
    (available : inlet.read capacity = some (.chunk octets, after)) :
    inlet.readable = octets ++ after.readable := by
  unfold read at available
  split at available
  · cases available
  · next chunk rest =>
    rw [List.splitAt_eq] at available
    have whole : chunk = chunk.take capacity ++ chunk.drop capacity :=
      (List.take_append_drop _ _).symm
    split at available
    · next front divided =>
      cases available
      rw [Prod.mk.injEq] at divided
      obtain ⟨rfl, none⟩ := divided
      rw [none, List.append_nil] at whole
      rw [readable, ← whole]
    · next front back _ divided =>
      cases available
      rw [Prod.mk.injEq] at divided
      obtain ⟨rfl, rfl⟩ := divided
      rw [readable, readable, ← List.append_assoc, ← whole]
  · cases available
  · cases available

namespace Ledger

variable {ledger after : Ledger} {accepting : Bool}

/-- Frames that come while enough requests wait are no strays. -/
theorem strays_receives (paired : ledger.Paired)
    (live : ledger.task ≠ .ended ∧ ledger.task ≠ .dropped) {frames : List Frame}
    (enough : ledger.pairing.matched.length + frames.length ≤ ledger.pairing.taken.length) :
    (frames.foldl receive ledger).pairing.strays = ledger.pairing.strays := by
  induction frames generalizing ledger with
  | nil => rfl
  | cons frame rest inductionHypothesis =>
    rw [List.length_cons] at enough
    have waits : ledger.pairing.matched.length < ledger.pairing.taken.length := by omega
    have met : (ledger.receive frame).pairing =
        { ledger.pairing with matched := ledger.pairing.matched ++ [frame] } := by
      have same : (ledger.receive frame).pairing = ledger.pairing.meet frame := by
        unfold receive
        split <;> rfl
      rw [same, Session.Pairing.meet, if_pos waits]
    have ongoing : (ledger.receive frame).task ≠ .ended ∧
        (ledger.receive frame).task ≠ .dropped := by
      rw [Sound.task_receive]
      exact live
    rw [List.foldl_cons, inductionHypothesis (paired.receive live frame) ongoing, met]
    rw [met]
    simp only [List.length_append, List.length_singleton]
    omega

/-- A move that cuts no more frames out than there are requests for makes no strays. -/
theorem Next.strays_eq (moved : ledger.Next accepting after) (paired : ledger.Paired)
    (enough : ledger.pairing.matched.length + (after.received.length - ledger.received.length) ≤
      ledger.pairing.taken.length) :
    after.pairing.strays = ledger.pairing.strays := by
  cases moved with
  | fed octets frames codec running extracted =>
    have read : (ledger.read octets codec).Paired :=
      ⟨paired.taken, paired.started, paired.serving, paired.settled⟩
    have live : ledger.task ≠ .ended ∧ ledger.task ≠ .dropped := by simp [running]
    rw [(received_receives _ frames).1, List.length_append] at enough
    apply strays_receives read live
    change ledger.pairing.matched.length + frames.length ≤ ledger.pairing.taken.length
    have received : (ledger.read octets codec).received = ledger.received := rfl
    rw [received] at enough
    omega
  | _ => rfl

/-- Accepted frames are never empty: they begin with their length. -/
def Framed (ledger : Ledger) : Prop := ∀ request ∈ ledger.requests, 0 < request.2.length

/-- A frame that a message is put into has some length. -/
theorem length_frameMessage {text : Except Json.Fault Octets} {limit : UInt32} {frame : Octets}
    (framed : frameMessage text limit = .ok frame) : 0 < frame.length := by
  obtain ⟨payload, _, _, rfl⟩ := frameMessage_eq_ok_iff.mp framed
  rw [Frame.length_octets]
  omega

/-- Every move keeps accepted frames from being empty. -/
theorem Framed.next (framed : ledger.Framed) (moved : ledger.Next accepting after) :
    after.Framed := by
  have grown := moved.requests_eq
  cases moved with
  | accepted frame text written room taking =>
    intro request member
    rcases List.mem_append.mp member with before | new
    · exact framed request before
    · rw [List.mem_singleton.mp new]
      exact length_frameMessage written
  | _ =>
    rw [Framed, grown]
    exact framed

end Ledger

namespace Session

/-- The inbound stream as far as it has arrived, read or not. -/
def arrived (session : Session) : Octets := session.octetsRead ++ session.inlet.readable

/-- The peer has kept to the order: no length is above the limit, and for every response that has
arrived as a whole the stream has accepted as many octets as the requests have up to the one in
the same place. -/
def PeerInOrder (session : Session) : Prop :=
  Frame.fatal? session.settings.maxPayload session.arrived = none ∧
    ∀ place, place < (Frame.cut session.settings.maxPayload session.arrived).1.length →
      place < session.requests.length ∧
        ((session.requests.take (place + 1)).map Prod.snd).flatten.length ≤
          session.acceptedOctets.length

/-- Whether the peer has kept to the order can be decided. -/
instance (session : Session) : Decidable session.PeerInOrder :=
  inferInstanceAs (Decidable (_ ∧ ∀ place, place < _ → _))

/-- What a move reads had arrived before. -/
theorem Becomes.octetsRead {before after : Session} {accepting : Bool}
    (sound : before.ledger.Sound) (becomes : Becomes before accepting after) :
    ∃ rest, before.arrived = after.octetsRead ++ rest := by
  have unread {after : Session} {ledger : Ledger} (result : after.ledger = ledger)
      (same : ledger.chunks = before.ledger.chunks) :
      ∃ rest, before.arrived = after.octetsRead ++ rest := by
    have chunks : after.chunks = before.chunks := (congrArg Ledger.chunks result).trans same
    exact ⟨before.inlet.readable, by rw [arrived, Session.octetsRead, Session.octetsRead, chunks]⟩
  have reading {after : Session} {ledger : Ledger} {octets : Octets} {inlet : Inlet}
      (available : before.inlet.read before.settings.readCapacity = some (.chunk octets, inlet))
      (result : after.ledger = ledger) (more : ledger.chunks = before.ledger.chunks ++ [octets]) :
      ∃ rest, before.arrived = after.octetsRead ++ rest := by
    have chunks : after.chunks = before.chunks ++ [octets] :=
      (congrArg Ledger.chunks result).trans more
    refine ⟨inlet.readable, ?_⟩
    rw [arrived, Inlet.readable_of_read available, Session.octetsRead, Session.octetsRead, chunks]
    simp
  cases becomes with
  | same | askedToClose | abandoned | handled | delivered | outletChanged | advanced | doomed
  | started | begun => exact unread rfl rfl
  | accepted frame => exact unread (ledger_accept before frame) rfl
  | taken ticket frame rest running first =>
    obtain ⟨sent, result⟩ :=
      ledger_onSend before (connected_of_running sound running) ticket frame rest
    exact unread result rfl
  | closing rest =>
    obtain ⟨deadline, result⟩ := ledger_beginClosing before rest
    exact unread result rfl
  | fed octets inlet frames codec running available extracted =>
    apply reading available (ledger_receives _ frames)
    rw [(Ledger.received_receives _ frames).2.1, ledger_afterRead]
    rfl
  | overrun octets inlet error codec running available refused =>
    apply reading available (ledger_endByFailure _ error)
    rw [ledger_afterRead]
    rfl
  | leftByPeer => exact unread (ledger_endByPeer _) rfl
  | readFailed => exact unread (ledger_endByFailure _ _) rfl
  | writerLost => exact unread (ledger_endByFailure _ _) rfl
  | flushed => exact unread (ledger_flushed before _ _) rfl
  | timedOut => exact unread (ledger_timedOut before _ _) rfl
  | droppedBeforeTurn =>
    apply unread (ledger_abortWriter _)
    rw [ledger_drop]
    rfl
  | dropped => exact unread (ledger_drop before) rfl
  | wrote writer outlet events begun moved =>
    exact unread (ledger_record_of_isQuiet _ (isQuiet_of_writer_step moved)) rfl

variable {settings : Settings} {origin session : Session} {past : List (Session × Move)}

/-- Accepted frames are not empty in any state that a run leads to. -/
theorem Reachable.framed (reachable : Reachable settings session) : session.ledger.Framed := by
  obtain ⟨origin, past, opened, run⟩ := reachable
  refine run.preserves_ledger Ledger.Framed (sound_of_opened opened) ?_
    fun _ next framed => framed.next next
  obtain ⟨outlet, task, _, rfl⟩ := opened
  intro request member
  cases member

/-- Tickets count the requests. -/
theorem Reachable.ticket_eq (reachable : Reachable settings session) {place : Nat}
    {ticket : Ticket} {frame : Octets} (asked : session.requests[place]? = some (ticket, frame)) :
    ticket = place := by
  have issued : session.requests.map Prod.fst = List.range session.pending.replies.length :=
    reachable.sound.issued
  have named := congrArg (fun tickets => tickets[place]?) issued
  simp only [List.getElem?_map, asked, Option.map_some] at named
  obtain ⟨_, same⟩ := List.getElem?_eq_some_iff.mp named.symm
  rw [List.getElem_range] at same
  exact same.symm

/-- A request whose octets the stream has accepted has been taken. -/
theorem Reachable.place_lt (reachable : Reachable settings session) {place : Nat}
    (asked : place < session.requests.length)
    (written : ((session.requests.take (place + 1)).map Prod.snd).flatten.length ≤
      session.acceptedOctets.length) : place < session.taken.length := by
  have carried := reachable.carried
  have accepted : session.acceptedOctets.length ≤ session.handed.flatten.length := by
    rw [acceptedOctets_eq]
    exact carried.written.length_le
  have relayed : session.handed <+: session.requests.map Prod.snd :=
    carried.handed.trans (reachable.ordered.2.map Prod.snd)
  have fewer : session.handed.length ≤ (session.taken.map Prod.snd).length :=
    carried.handed.length_le
  rw [List.length_map] at fewer
  apply Nat.lt_of_not_le
  intro beyond
  have short : session.handed.length ≤ place := by omega
  have within : session.handed.flatten.length ≤
      ((session.requests.take place).map Prod.snd).flatten.length := by
    have front : session.handed <+: (session.requests.map Prod.snd).take place := by
      rw [List.prefix_iff_eq_take.mp relayed]
      exact List.take_prefix_take_left short
    obtain ⟨rest, whole⟩ := front
    rw [List.map_take, ← whole, List.flatten_append, List.length_append]
    exact Nat.le_add_right _ _
  have grown : ((session.requests.take (place + 1)).map Prod.snd).flatten.length =
      ((session.requests.take place).map Prod.snd).flatten.length +
        (session.requests[place]).2.length := by
    rw [List.take_add_one, List.getElem?_eq_getElem asked, List.map_append, List.flatten_append,
      List.length_append]
    simp
  have filled : 0 < (session.requests[place]).2.length :=
    reachable.framed _ (List.getElem_mem asked)
  omega

/-- Nothing that was read is above the limit, and no frame is a stray. -/
def InStep (session : Session) : Prop :=
  Frame.fatal? session.settings.maxPayload session.octetsRead = none ∧
    session.pairing.strays = []

/-- Without a length above the limit the frames are those that the stream is cut into. -/
theorem Reachable.received_eq (reachable : Reachable settings session)
    (allowed : Frame.fatal? session.settings.maxPayload session.octetsRead = none) :
    session.received = (Frame.cut session.settings.maxPayload session.octetsRead).1 := by
  have fed := reachable.fed
  rw [Codec.feedAll_eq allowed] at fed
  exact (congrArg Prod.fst fed).symm

/-- Without strays every frame is matched. -/
theorem Reachable.matched_eq (reachable : Reachable settings session)
    (aligned : session.pairing.strays = []) : session.pairing.matched = session.received := by
  have kept := reachable.paired.2
  have strays : session.ledger.pairing.strays = [] := aligned
  have total := kept.all.length_eq
  rw [strays, List.append_nil] at total
  exact kept.matched.eq_of_length total

/-- A peer that has kept to the order so far has the whole of every request that it has answered,
also after one more move. -/
theorem whole_of_received {before after : Session} {accepting : Bool}
    (reachable : Reachable settings before) (reached : Reachable settings after)
    (becomes : Becomes before accepting after) (inOrder : before.PeerInOrder)
    (allowed : Frame.fatal? after.settings.maxPayload after.octetsRead = none) {place : Nat}
    (came : place < after.received.length) :
    place < before.taken.length ∧
      ((before.taken.take (place + 1)).map Prod.snd).flatten.length ≤
        before.acceptedOctets.length := by
  have same : after.settings = before.settings :=
    reached.settings_eq.trans reachable.settings_eq.symm
  obtain ⟨rest, arrived⟩ := becomes.octetsRead reachable.sound
  have longest : after.received.length ≤
      (Frame.cut before.settings.maxPayload before.arrived).1.length := by
    rw [reached.received_eq allowed, same, arrived]
    exact (Frame.cut_prefix _ _ _).length_le
  obtain ⟨asked, written⟩ := inOrder.2 place (Nat.lt_of_lt_of_le came longest)
  have inside := reachable.place_lt asked written
  obtain ⟨later, whole⟩ : before.taken <+: before.requests := reachable.ordered.2
  refine ⟨inside, ?_⟩
  rw [← whole, List.take_append_of_le_length inside] at written
  exact written

/-- One move against a peer that has kept to the order so far. -/
theorem inStep_of_becomes {before after : Session} {accepting : Bool}
    (reachable : Reachable settings before) (reached : Reachable settings after)
    (becomes : Becomes before accepting after) (inOrder : before.PeerInOrder)
    (inStep : before.InStep) : after.InStep := by
  obtain ⟨allowed, aligned⟩ := inStep
  have same : after.settings = before.settings :=
    reached.settings_eq.trans reachable.settings_eq.symm
  have allowedAfter : Frame.fatal? after.settings.maxPayload after.octetsRead = none := by
    obtain ⟨rest, arrived⟩ := becomes.octetsRead reachable.sound
    have unbroken := inOrder.1
    rw [arrived] at unbroken
    rw [same]
    exact Frame.fatal?_eq_none_of_append unbroken
  -- The last frame that this move can bring has a request that was taken.
  have places : after.received.length ≤ before.taken.length := by
    apply Nat.le_of_not_lt
    intro more
    obtain ⟨inside, _⟩ := whole_of_received reachable reached becomes inOrder allowedAfter more
    exact absurd inside (Nat.lt_irrefl _)
  have paired := reachable.paired.1
  have matched : before.ledger.pairing.matched.length = before.received.length :=
    congrArg List.length (reachable.matched_eq aligned)
  have started := paired.started
  have number : before.ledger.pairing.taken.length = before.taken.length := by
    rw [paired.taken, List.length_map]
    rfl
  refine ⟨allowedAfter, ?_⟩
  have next := next_of_sound reachable.sound becomes
  have kept : after.ledger.pairing.strays = before.ledger.pairing.strays := by
    apply next.strays_eq paired
    change before.ledger.pairing.matched.length + (after.received.length - before.received.length) ≤
      before.ledger.pairing.taken.length
    omega
  exact kept.trans aligned

/-- Against a peer that keeps to the order, every step of a run is in step. -/
theorem Run.inStep (run : Run origin past session) (opened : Opened settings origin)
    (inOrder : ∀ stage ∈ past, stage.1.PeerInOrder) : session.InStep := by
  induction run with
  | stay =>
    obtain ⟨outlet, task, _, rfl⟩ := opened
    exact ⟨Frame.fatal?_nil _, rfl⟩
  | @step past before next move earlier made inductionHypothesis =>
    have reachable : Reachable settings before := ⟨origin, past, opened, earlier⟩
    have reached : Reachable settings next := ⟨origin, _, opened, .step earlier made⟩
    refine inStep_of_becomes reachable reached (becomes_of_make made) ?_ (inductionHypothesis ?_)
    · exact inOrder (before, move) (by simp)
    · intro stage member
      exact inOrder stage (List.mem_append_left _ member)

/-- Against a peer that keeps to the order, in every run and under every interleaving, no response
is taken for unsolicited, and a request is completed with the response in its own place if that was
read, or else, if at all, with the end of the connection. What the stream has accepted begins the
requests, one after the other, so that counting octets tells which of them it has whole. -/
theorem correlated_with_orderly_peer (opened : Opened settings origin)
    (run : Run origin past session) (inOrder : ∀ stage ∈ past, stage.1.PeerInOrder) :
    session.tally.unsolicited = 0 ∧
      session.acceptedOctets <+: (session.requests.map Prod.snd).flatten ∧
      ∀ (place : Nat) (ticket : Ticket) (frame : Octets),
        session.requests[place]? = some (ticket, frame) →
          match (Frame.cut settings.maxPayload session.octetsRead).1[place]? with
          | some response =>
            session.pending.outcome? ticket =
              some ((decodeAs Json response.payload).mapError (.decode response.payload))
          | none =>
            ∀ outcome, session.pending.outcome? ticket = some outcome →
              ∃ error, outcome = .error error ∧ error.isEnd := by
  have reachable : Reachable settings session := ⟨origin, past, opened, run⟩
  obtain ⟨allowed, aligned⟩ := run.inStep opened inOrder
  obtain ⟨paired, sorted⟩ := reachable.paired
  have matched : session.pairing.matched =
      (Frame.cut settings.maxPayload session.octetsRead).1 := by
    rw [← reachable.settings_eq, ← reachable.received_eq allowed]
    exact reachable.matched_eq aligned
  refine ⟨?_, ?_, ?_⟩
  · have counted : session.tally.unsolicited = session.pairing.strays.length.toUInt64 :=
      sorted.unsolicited
    rw [counted, aligned]
    rfl
  · have carried := reachable.carried
    have relayed : session.handed <+: session.requests.map Prod.snd :=
      carried.handed.trans (reachable.ordered.2.map Prod.snd)
    obtain ⟨rest, whole⟩ := relayed
    rw [acceptedOctets_eq, ← whole, List.flatten_append]
    exact carried.written.trans (List.prefix_append _ _)
  · intro place ticket frame asked
    split
    · next response came =>
      rw [← matched] at came
      have inside : place < session.taken.length := by
        have short := (List.getElem?_eq_some_iff.mp came).1
        have started : session.pairing.matched.length ≤ session.pairing.taken.length :=
          paired.started
        have taken : session.pairing.taken = session.taken.map Prod.fst := paired.taken
        rw [taken, List.length_map] at started
        omega
      have here : session.taken[place]? = some (ticket, frame) := by
        obtain ⟨rest, whole⟩ : session.taken <+: session.requests := reachable.ordered.2
        rw [← whole, List.getElem?_append_left inside] at asked
        exact asked
      have named : session.pairing.taken[place]? = some ticket := by
        have taken : session.pairing.taken = session.taken.map Prod.fst := paired.taken
        rw [taken, List.getElem?_map, here]
        rfl
      exact (reachable.completion_of_matched named came).2
    · next unread =>
      intro outcome settled
      rw [← matched] at unread
      have numbered := reachable.ticket_eq asked
      have found : (session.completions[ticket]?).map Prod.snd = some outcome :=
        (reachable.sound.lined.settled ticket).symm.trans settled
      obtain ⟨completion, there, rfl⟩ := Option.map_eq_some_iff.mp found
      have later : (session.completions.drop session.pairing.matched.length)[ticket -
          session.pairing.matched.length]? = some completion := by
        have behind : session.pairing.matched.length ≤ ticket := by
          rw [numbered]
          exact List.getElem?_eq_none_iff.mp unread
        rw [List.getElem?_drop, Nat.add_sub_cancel' behind]
        exact there
      exact reachable.endsWith_of_unmatched completion (List.mem_of_getElem? later)

/-- Two requests. The stream takes the first and a part of the second, and the response to the
first arrives with a part of its own successor. -/
theorem correlated_with_orderly_peer_of_partial_write :
    ∃ origin past session, Opened Settings.default origin ∧ Run origin past session ∧
      (∀ stage ∈ past, stage.1.PeerInOrder) ∧ session.tally.unsolicited = 0 ∧
      session.pending.outcome? 0 = some ((decodeAs Json [0x31]).mapError (.decode [0x31])) ∧
      ∀ outcome, session.pending.outcome? 1 = some outcome →
        ∃ error, outcome = .error error ∧ error.isEnd := by
  let origin : Session := .new Settings.default { Outlet.unlimited with window := some 9 } .ready
  let moves : List Move :=
    [.send (.ok [0x7b, 0x7d]), .send (.ok [0x5b, 0x5d]), .begin, .takeCommand, .takeCommand,
      .write, .write, .deliver (.chunk [0, 0, 0, 1, 0x31, 0, 0]), .read]
  have shown : (origin.play? moves).map (fun run =>
      (run.1.all fun stage => decide stage.1.PeerInOrder, run.2.requests, run.2.octetsRead)) =
      some (true, [(0, [0, 0, 0, 2, 0x7b, 0x7d]), (1, [0, 0, 0, 2, 0x5b, 0x5d])],
        [0, 0, 0, 1, 0x31, 0, 0]) := by decide +kernel
  obtain ⟨⟨past, session⟩, played, seen⟩ := Option.map_eq_some_iff.mp shown
  obtain ⟨orderly, requests, read⟩ : (past.all fun stage => decide stage.1.PeerInOrder) = true ∧
      session.requests = _ ∧ session.octetsRead = _ := by simpa using seen
  obtain ⟨_, run⟩ := play?_eq_some_iff.mp played
  have opened : Opened Settings.default origin := ⟨_, _, .inr rfl, rfl⟩
  have inOrder : ∀ stage ∈ past, stage.1.PeerInOrder := by simpa using orderly
  obtain ⟨none, _, correlated⟩ := correlated_with_orderly_peer opened run inOrder
  have cut : (Frame.cut Settings.default.maxPayload [0, 0, 0, 1, 0x31, 0, 0]).1 =
      [⟨[0x31]⟩] := by decide +kernel
  rw [read, cut] at correlated
  refine ⟨origin, past, session, opened, run, inOrder, none, ?_, ?_⟩
  · exact correlated 0 0 _ (by rw [requests]; rfl)
  · exact correlated 1 1 _ (by rw [requests]; rfl)

end Session

end Antiphon
