import Antiphon.Proofs.Frame.Feeding
import Antiphon.Proofs.Session.Accounts

/-!
# First come, first served

`Session.pairing` says which frame belongs to which request. Here it is what the session does:
the k-th request taken is completed with what the k-th frame that was matched is read as. A
frame that finds no request is counted and moves no later pairing, and a payload that is no JSON
uses up its request as any other does.

The invariant is `Ledger.Paired`. It is kept frame by frame, since a single read can bring
several frames, and it still says what was completed with a response after the session is over.
-/

namespace Antiphon

/-- Failures with which the end of a connection completes requests. -/
def LinkError.isEnd : LinkError → Bool
  | .connectionClosed | .connection _ | .notConnected => true
  | _ => false

namespace Session.Pairing

variable {pairing : Pairing}

/-- What matched requests are completed with: what their frames are read as. -/
def answers (pairing : Pairing) : List (Ticket × Outcome) :=
  List.zipWith (fun ticket frame => (ticket, Codec.decode Json frame)) pairing.taken pairing.matched

/-- Requests without a frame do not count. -/
theorem answers_eq_take (pairing : Pairing) :
    pairing.answers =
      List.zipWith (fun ticket frame => (ticket, Codec.decode Json frame))
        (pairing.taken.take pairing.matched.length) pairing.matched := by
  obtain ⟨taken, matched, strays⟩ := pairing
  induction matched generalizing taken with
  | nil => simp [answers]
  | cons frame later inductionHypothesis =>
    cases taken with
    | nil => simp [answers]
    | cons ticket rest =>
      simpa [answers] using inductionHypothesis rest

/-- A request that has a frame is answered with what this is read as. -/
theorem getElem?_answers {place : Nat} {ticket : Ticket} {frame : Frame}
    (asked : pairing.taken[place]? = some ticket) (came : pairing.matched[place]? = some frame) :
    pairing.answers[place]? = some (ticket, Codec.decode Json frame) := by
  simp [answers, List.getElem?_zipWith, asked, came]

/-- The requests that are answered are the first that were taken. -/
theorem map_fst_answers (started : pairing.matched.length ≤ pairing.taken.length) :
    pairing.answers.map Prod.fst = pairing.taken.take pairing.matched.length := by
  rw [answers_eq_take, ← List.map_uncurry_zip_eq_zipWith, List.map_map]
  exact List.map_fst_zip (by simp [started])

/-- A request that is taken later does not change what the earlier ones are answered with. -/
theorem answers_take (started : pairing.matched.length ≤ pairing.taken.length) (ticket : Ticket) :
    (pairing.take ticket).answers = pairing.answers := by
  rw [answers_eq_take, answers_eq_take pairing]
  simp [take, List.take_append_of_le_length started]

/-- A frame that finds every request answered is a stray. -/
theorem meet_of_nobody (frame : Frame)
    (nobody : pairing.taken.drop pairing.matched.length = []) :
    pairing.meet frame = { pairing with strays := pairing.strays ++ [frame] } := by
  have all : ¬ pairing.matched.length < pairing.taken.length :=
    Nat.not_lt.mpr (List.drop_eq_nil_iff.mp nobody)
  simp [meet, all]

/-- Any other frame belongs to the first request that has none. -/
theorem meet_of_waiting (frame : Frame) {ticket : Ticket} {rest : List Ticket}
    (first : pairing.taken.drop pairing.matched.length = ticket :: rest) :
    pairing.meet frame = { pairing with matched := pairing.matched ++ [frame] } ∧
      (pairing.meet frame).answers = pairing.answers ++ [(ticket, Codec.decode Json frame)] ∧
      pairing.taken.drop (pairing.matched.length + 1) = rest := by
  have some : pairing.matched.length < pairing.taken.length := by
    have total := congrArg List.length first
    simp only [List.length_drop, List.length_cons] at total
    omega
  have met : pairing.meet frame = { pairing with matched := pairing.matched ++ [frame] } := by
    simp [meet, some]
  have here : pairing.taken[pairing.matched.length]? = .some ticket := by
    rw [← List.head?_drop, first]
    rfl
  have one : pairing.taken.take (pairing.matched.length + 1) =
      pairing.taken.take pairing.matched.length ++ [ticket] := by
    rw [List.take_add_one, here]
    rfl
  refine ⟨met, ?_, ?_⟩
  · rw [met, answers_eq_take, answers_eq_take pairing]
    simp only [List.length_append, List.length_singleton, one]
    rw [List.zipWith_append (by simp [Nat.le_of_lt some])]
    rfl
  · rw [← List.drop_drop, first]
    rfl

end Session.Pairing

/-- A completion that a response had no part in. -/
def Session.endsWith (completion : Ticket × Outcome) : Prop :=
  ∃ error, completion.2 = .error error ∧ error.isEnd

namespace Ledger

open Session (untaken)

/-- Requests are completed as the pairing says, and by nothing but their frames until the task is
over. -/
structure Paired (ledger : Ledger) : Prop where
  taken : ledger.pairing.taken = ledger.taken.map Prod.fst
  started : ledger.pairing.matched.length ≤ ledger.pairing.taken.length
  serving : ledger.task ≠ .ended ∧ ledger.task ≠ .dropped →
    ledger.completions = ledger.pairing.answers ∧
      ledger.pending.waiting = ledger.pairing.taken.drop ledger.pairing.matched.length
  settled : ∃ rest, ledger.completions = ledger.pairing.answers ++ rest ∧
    ∀ completion ∈ rest, Session.endsWith completion

/-- Every frame is matched or a stray, in the order in which it came, and is counted as such. -/
structure Sorted (ledger : Ledger) : Prop where
  matched : ledger.pairing.matched.Sublist ledger.received
  strays : ledger.pairing.strays.Sublist ledger.received
  all : (ledger.pairing.matched ++ ledger.pairing.strays).Perm ledger.received
  received : ledger.tally.received = ledger.received.length.toUInt64
  undecodable : ledger.tally.undecodable =
    (ledger.received.countP fun frame => !legible frame).toUInt64
  unsolicited : ledger.tally.unsolicited = ledger.pairing.strays.length.toUInt64

/-- The frames are those of the feeds that succeeded. -/
def Fed (ledger : Ledger) : Prop :=
  (Codec.new ledger.settings.maxPayload).feedAll ledger.chunks = (ledger.received, ledger.codec)

variable {ledger after : Ledger} {accepting : Bool}

namespace Paired

/-- One frame. Matched or stray, it keeps requests and frames aligned. -/
theorem receive (paired : ledger.Paired) (live : ledger.task ≠ .ended ∧ ledger.task ≠ .dropped)
    (frame : Frame) : (ledger.receive frame).Paired := by
  obtain ⟨completed, waiting⟩ := paired.serving live
  unfold Ledger.receive
  split
  · next nobody =>
    have stray := Session.Pairing.meet_of_nobody frame (waiting.symm.trans nobody)
    simp only [note, stray]
    exact ⟨paired.taken, paired.started, paired.serving, paired.settled⟩
  · next ticket rest first =>
    obtain ⟨met, answered, behind⟩ :=
      Session.Pairing.meet_of_waiting frame (waiting.symm.trans first)
    have started : ledger.pairing.matched.length < ledger.pairing.taken.length := by
      have total := congrArg List.length (waiting.symm.trans first)
      simp only [List.length_drop, List.length_cons] at total
      omega
    rw [met] at answered
    simp only [note, met, complete]
    refine ⟨paired.taken, ?_, fun _ => ⟨?_, ?_⟩, [], ?_, by simp⟩
    · rw [List.length_append]
      exact started
    · rw [completed, answered]
    · simpa using behind.symm
    · rw [completed, answered, List.append_nil]

/-- A request that is taken keeps requests and frames aligned. -/
theorem take (paired : ledger.Paired) (live : ledger.task ≠ .ended ∧ ledger.task ≠ .dropped)
    (ticket : Ticket) (frame : Octets) (rest : List Command) (sent : UInt64) :
    (ledger.take ticket frame rest sent).Paired := by
  obtain ⟨completed, waiting⟩ := paired.serving live
  have same := Session.Pairing.answers_take paired.started ticket
  refine ⟨?_, ?_, fun _ => ⟨?_, ?_⟩, [], ?_, by simp⟩
  · simp [Ledger.take, Session.Pairing.take, paired.taken]
  · simpa [Ledger.take, Session.Pairing.take] using Nat.le_succ_of_le paired.started
  · exact completed.trans same.symm
  · simp [Ledger.take, Session.Pairing.take, PendingQueue.push, waiting,
      List.drop_append_of_le_length paired.started]
  · rw [List.append_nil]
    exact completed.trans same.symm

/-- Frames keep requests and frames aligned. -/
theorem receives (paired : ledger.Paired) (live : ledger.task ≠ .ended ∧ ledger.task ≠ .dropped)
    (frames : List Frame) : (frames.foldl Ledger.receive ledger).Paired := by
  induction frames generalizing ledger with
  | nil => exact paired
  | cons frame rest inductionHypothesis =>
    apply inductionHypothesis (paired.receive live frame)
    rw [Sound.task_receive]
    exact live

/-- The end leaves everything as it was paired, and completes what is left in its own way. -/
theorem finish (paired : ledger.Paired) (live : ledger.task ≠ .ended ∧ ledger.task ≠ .dropped)
    {reason : LinkError} (ending : reason.isEnd) : (ledger.finish reason).Paired := by
  obtain ⟨completed, _⟩ := paired.serving live
  refine ⟨paired.taken, paired.started, fun present => absurd rfl present.1, _,
    congrArg (· ++ _) completed, ?_⟩
  intro completion member
  rcases List.mem_append.mp member with waited | asked
  · obtain ⟨ticket, _, rfl⟩ := List.mem_map.mp waited
    exact ⟨reason, rfl, ending⟩
  · obtain ⟨ticket, _, rfl⟩ := List.mem_map.mp asked
    exact ⟨.notConnected, rfl, rfl⟩

/-- Dropping the task keeps what was completed with a response. -/
theorem drop (paired : ledger.Paired) (live : ledger.task ≠ .ended ∧ ledger.task ≠ .dropped) :
    ledger.drop.Paired := by
  obtain ⟨completed, _⟩ := paired.serving live
  refine ⟨paired.taken, paired.started, fun present => absurd rfl present.2, _,
    congrArg (· ++ _) completed, ?_⟩
  intro completion member
  obtain ⟨ticket, _, rfl⟩ := List.mem_map.mp member
  exact ⟨.connectionClosed, rfl, rfl⟩

/-- Every move keeps requests and frames aligned. -/
theorem next (paired : ledger.Paired) (moved : ledger.Next accepting after) : after.Paired := by
  cases moved with
  | same => exact paired
  | accepted | askedToClose | abandoned =>
    exact ⟨paired.taken, paired.started, paired.serving, paired.settled⟩
  | started held =>
    exact ⟨paired.taken, paired.started, fun _ => paired.serving (by simp [held]), paired.settled⟩
  | begun ready =>
    exact ⟨paired.taken, paired.started, fun _ => paired.serving (by simp [ready]), paired.settled⟩
  | closing rest deadline running first =>
    exact ⟨paired.taken, paired.started, fun _ => paired.serving (by simp [running]),
      paired.settled⟩
  | taken ticket frame rest sent running first =>
    exact paired.take (by simp [running]) ticket frame rest sent
  | fed octets frames codec running extracted =>
    have read : (ledger.read octets codec).Paired :=
      ⟨paired.taken, paired.started, paired.serving, paired.settled⟩
    refine read.receives ?_ frames
    change ledger.task ≠ .ended ∧ ledger.task ≠ .dropped
    simp [running]
  | overrun octets error codec running refused =>
    have read : (ledger.read octets codec).Paired :=
      ⟨paired.taken, paired.started, paired.serving, paired.settled⟩
    refine read.finish ?_ rfl
    change ledger.task ≠ .ended ∧ ledger.task ≠ .dropped
    simp [running]
  | finished reason reasoned live =>
    refine paired.finish ?_ ?_
    · rcases live with running | ⟨deadline, closing⟩ <;> simp_all
    · rcases reasoned with rfl | ⟨text, rfl⟩ <;> rfl
  | dropped live => exact paired.drop live

end Paired

namespace Sorted

/-- A counter of a list goes up with it. -/
theorem toUInt64_succ (count : Nat) : (count + 1).toUInt64 = count.toUInt64 + 1 :=
  UInt64.ofNat_add count 1

/-- One frame is one more of its kind. -/
theorem receive (sorted : ledger.Sorted) (paired : ledger.Paired)
    (live : ledger.task ≠ .ended ∧ ledger.task ≠ .dropped) (frame : Frame) :
    (ledger.receive frame).Sorted := by
  obtain ⟨_, waiting⟩ := paired.serving live
  have received : ledger.tally.received + 1 = (ledger.received ++ [frame]).length.toUInt64 := by
    rw [List.length_append, List.length_singleton, toUInt64_succ, sorted.received]
  have undecodable : (ledger.tally.undecodable + if legible frame then 0 else 1) =
      ((ledger.received ++ [frame]).countP fun frame => !legible frame).toUInt64 := by
    rw [List.countP_append, List.countP_singleton, sorted.undecodable]
    cases legible frame
    · exact (toUInt64_succ _).symm
    · exact UInt64.add_zero _
  unfold Ledger.receive
  split
  · next nobody =>
    have stray := Session.Pairing.meet_of_nobody frame (waiting.symm.trans nobody)
    simp only [note, stray]
    refine ⟨sorted.matched.trans (List.sublist_append_left _ _),
      sorted.strays.append (List.Sublist.refl _), ?_, received, undecodable, ?_⟩
    · rw [← List.append_assoc]
      exact sorted.all.append_right _
    · rw [List.length_append, List.length_singleton, toUInt64_succ, sorted.unsolicited]
  · next ticket rest first =>
    obtain ⟨met, _⟩ := Session.Pairing.meet_of_waiting frame (waiting.symm.trans first)
    simp only [note, met, complete]
    refine ⟨sorted.matched.append (List.Sublist.refl _),
      sorted.strays.trans (List.sublist_append_left _ _), ?_, received, undecodable,
      sorted.unsolicited⟩
    refine List.Perm.trans ?_ (sorted.all.append_right [frame])
    rw [List.append_assoc, List.append_assoc]
    exact List.perm_append_comm.append_left _

/-- Frames are sorted and counted one by one. -/
theorem receives (sorted : ledger.Sorted) (paired : ledger.Paired)
    (live : ledger.task ≠ .ended ∧ ledger.task ≠ .dropped) (frames : List Frame) :
    (frames.foldl Ledger.receive ledger).Sorted := by
  induction frames generalizing ledger with
  | nil => exact sorted
  | cons frame rest inductionHypothesis =>
    apply inductionHypothesis (sorted.receive paired live frame) (paired.receive live frame)
    rw [Sound.task_receive]
    exact live

/-- No other move has to do with frames. -/
theorem next (sorted : ledger.Sorted) (paired : ledger.Paired)
    (moved : ledger.Next accepting after) : after.Sorted := by
  obtain ⟨matched, strays, all, received, undecodable, unsolicited⟩ := sorted
  cases moved with
  | fed octets frames codec running extracted =>
    have readPaired : (ledger.read octets codec).Paired :=
      ⟨paired.taken, paired.started, paired.serving, paired.settled⟩
    have readSorted : (ledger.read octets codec).Sorted :=
      ⟨matched, strays, all, received, undecodable, unsolicited⟩
    refine readSorted.receives readPaired ?_ frames
    change ledger.task ≠ .ended ∧ ledger.task ≠ .dropped
    simp [running]
  | _ => exact ⟨matched, strays, all, received, undecodable, unsolicited⟩

end Sorted

/-- Frames are received in order, and nothing is read meanwhile. -/
theorem received_receives (ledger : Ledger) (frames : List Frame) :
    (frames.foldl receive ledger).received = ledger.received ++ frames ∧
      (frames.foldl receive ledger).chunks = ledger.chunks ∧
      (frames.foldl receive ledger).codec = ledger.codec := by
  induction frames generalizing ledger with
  | nil => simp
  | cons frame rest inductionHypothesis =>
    obtain ⟨received, chunks, codec⟩ := inductionHypothesis (ledger.receive frame)
    rw [List.foldl_cons, received, chunks, codec]
    unfold receive
    split <;> simp [note, complete]

/-- A read feeds the codec once, and nothing else does. -/
theorem Fed.next (fed : ledger.Fed) (moved : ledger.Next accepting after) : after.Fed := by
  cases moved with
  | fed octets frames codec running extracted =>
    obtain ⟨received, chunks, last⟩ :=
      received_receives (ledger.read octets codec) frames
    rw [Fed, received, chunks, last, settings_receives]
    simp only [read]
    rw [Codec.feedAll_append, fed]
    simp [Codec.feedAll, extracted]
  | overrun octets error codec running refused =>
    simp only [Fed, finish, complete, read]
    rw [Codec.feedAll_append, fed]
    simp [Codec.feedAll, refused]
  | _ => exact fed

end Ledger

namespace Session

variable {settings : Settings} {origin session : Session} {past : List (Session × Move)}

/-- Requests and frames stay aligned and counted along a run. -/
theorem Run.paired (run : Run origin past session) (sound : origin.ledger.Sound)
    (paired : origin.ledger.Paired) (sorted : origin.ledger.Sorted) :
    session.ledger.Paired ∧ session.ledger.Sorted :=
  run.preserves_ledger (fun ledger => ledger.Paired ∧ ledger.Sorted) sound ⟨paired, sorted⟩
    fun _ next kept => ⟨kept.1.next next, kept.2.next kept.1 next⟩

/-- The frames of a run are those of the feeds that succeeded. -/
theorem Run.fed (run : Run origin past session) (sound : origin.ledger.Sound)
    (fed : origin.ledger.Fed) : session.ledger.Fed :=
  run.preserves_ledger Ledger.Fed sound fed fun _ next fed => fed.next next

/-- Wherever a run leads, requests and frames are aligned. -/
theorem Reachable.paired (reachable : Reachable settings session) :
    session.ledger.Paired ∧ session.ledger.Sorted := by
  obtain ⟨origin, past, opened, run⟩ := reachable
  have sound := sound_of_opened opened
  obtain ⟨outlet, task, _, rfl⟩ := opened
  refine run.paired sound ⟨rfl, Nat.le_refl _, fun _ => ⟨rfl, rfl⟩, [], rfl, by simp⟩ ?_
  exact ⟨List.Sublist.refl _, List.Sublist.refl _, List.Perm.refl _, rfl, rfl, rfl⟩

/-- The frames of a session are those that its codec cuts out of what was read. -/
theorem Reachable.fed (reachable : Reachable settings session) :
    (Codec.new session.settings.maxPayload).feedAll session.chunks =
      (session.received, session.codec) := by
  obtain ⟨origin, past, opened, run⟩ := reachable
  apply run.fed (sound_of_opened opened)
  obtain ⟨outlet, task, _, rfl⟩ := opened
  rfl

/-- What first come, first served means for a session. The requests in the order in which they
were taken, the frames that were matched and the strays are those of `Session.pairing`: a frame is
a stray if every request taken before it has been matched, which is to say that none waits. -/
structure ServedInOrder (settings : Settings) (session : Session) : Prop where
  /-- The frames are those of the feeds that succeeded, in the order of the stream. -/
  fed : (Codec.new settings.maxPayload).feedAll session.chunks = (session.received, session.codec)
  /-- A frame is matched or a stray, and neither changes the order. -/
  sorted : session.pairing.matched.Sublist session.received ∧
    session.pairing.strays.Sublist session.received ∧
    (session.pairing.matched ++ session.pairing.strays).Perm session.received
  /-- No request is taken twice. -/
  once : session.pairing.taken.Nodup
  /-- Every matched frame has its request. -/
  enough : session.pairing.matched.length ≤ session.pairing.taken.length
  /-- The k-th matched frame completes the k-th request, with the value that its payload is, or
  else with a failure that carries the payload. -/
  answered : ∀ (place : Nat) (ticket : Ticket) (frame : Frame),
    session.pairing.taken[place]? = some ticket →
    session.pairing.matched[place]? = some frame →
      session.completions[place]? =
          some (ticket, (decodeAs Json frame.payload).mapError (.decode frame.payload)) ∧
        session.pending.outcome? ticket =
          some ((decodeAs Json frame.payload).mapError (.decode frame.payload))
  /-- Until the task is over no other request is completed; they wait, in order. -/
  serving : session.task ≠ .ended → session.task ≠ .dropped →
    session.completions.map Prod.fst =
        session.pairing.taken.take session.pairing.matched.length ∧
      session.pending.waiting = session.pairing.taken.drop session.pairing.matched.length
  /-- Afterwards the others are completed without a response. -/
  ended : ∀ completion ∈ session.completions.drop session.pairing.matched.length,
    endsWith completion
  /-- A frame that completes a request counts as received, a stray as unsolicited as well, and one
  that is no JSON as undecodable as well. -/
  counted : session.tally.received =
      session.pairing.matched.length.toUInt64 + session.tally.unsolicited ∧
    session.tally.unsolicited = session.pairing.strays.length.toUInt64 ∧
    session.tally.undecodable = (session.received.countP fun frame =>
      !(decodeAs Json frame.payload).isOk).toUInt64

/-- Renaming failures makes no difference to success. -/
theorem isOk_mapError {ε δ α : Type} (change : ε → δ) (result : Except ε α) :
    (result.mapError change).isOk = result.isOk := by cases result <;> rfl

/-- A matched frame completes its request with what its payload is read as. -/
theorem Reachable.completion_of_matched (reachable : Reachable settings session) {place : Nat}
    {ticket : Ticket} {frame : Frame} (asked : session.pairing.taken[place]? = some ticket)
    (came : session.pairing.matched[place]? = some frame) :
    session.completions[place]? = some (ticket, Codec.decode Json frame) ∧
      session.pending.outcome? ticket = some (Codec.decode Json frame) := by
  obtain ⟨rest, completed, _⟩ := reachable.paired.1.settled
  have whole : session.completions = session.pairing.answers ++ rest := completed
  have answer := Pairing.getElem?_answers asked came
  have inside : place < session.pairing.answers.length := (List.getElem?_eq_some_iff.mp answer).1
  have found : session.completions[place]? = some (ticket, Codec.decode Json frame) := by
    rw [whole, List.getElem?_append_left inside, answer]
  exact ⟨found, reachable.outcome_of_completed _ (List.mem_of_getElem? found)⟩

/-- Completions beyond the matched frames are those of the end. -/
theorem Reachable.endsWith_of_unmatched (reachable : Reachable settings session) :
    ∀ completion ∈ session.completions.drop session.pairing.matched.length,
      endsWith completion := by
  have paired := reachable.paired.1
  obtain ⟨rest, completed, ends⟩ := paired.settled
  have whole : session.completions = session.pairing.answers ++ rest := completed
  have started : session.pairing.matched.length ≤ session.pairing.taken.length := paired.started
  have answers : session.pairing.answers.length = session.pairing.matched.length := by
    have total := congrArg List.length (Pairing.map_fst_answers started)
    simpa [started] using total
  rw [whole, ← answers, List.drop_left]
  exact ends

/-- A reachable session's tickets are taken in the order of their numbers. -/
theorem Reachable.taken_prefix (reachable : Reachable settings session) :
    session.taken.map Prod.fst <+: List.range session.pending.replies.length := by
  have issued : session.requests.map Prod.fst = List.range session.pending.replies.length :=
    reachable.sound.issued
  rw [← issued]
  exact reachable.ordered.2.map Prod.fst

/-- Every run against any peer, whatever it sends and in whatever chunks, serves requests in the
order in which they were taken. -/
theorem served_in_order (reachable : Reachable settings session) :
    ServedInOrder settings session := by
  obtain ⟨paired, sorted⟩ := reachable.paired
  have taken : session.pairing.taken = session.taken.map Prod.fst := paired.taken
  have started : session.pairing.matched.length ≤ session.pairing.taken.length := paired.started
  refine ⟨?_, ⟨sorted.matched, sorted.strays, sorted.all⟩, ?_, started, ?_, ?_, ?_, ?_⟩
  · rw [← reachable.settings_eq]
    exact reachable.fed
  · rw [taken]
    exact reachable.taken_prefix.sublist.nodup List.nodup_range
  · intro place ticket frame asked came
    exact reachable.completion_of_matched asked came
  · intro ongoing present
    obtain ⟨all, waiting⟩ := paired.serving ⟨ongoing, present⟩
    refine ⟨?_, waiting⟩
    have whole : session.completions = session.pairing.answers := all
    rw [whole, Pairing.map_fst_answers started]
  · exact reachable.endsWith_of_unmatched
  · have total := sorted.all.length_eq
    rw [List.length_append] at total
    have received : session.tally.received = session.received.length.toUInt64 := sorted.received
    have unsolicited : session.tally.unsolicited = session.pairing.strays.length.toUInt64 :=
      sorted.unsolicited
    refine ⟨?_, unsolicited, ?_⟩
    · rw [received, unsolicited]
      exact (congrArg Nat.toUInt64 total.symm).trans (UInt64.ofNat_add _ _)
    · apply sorted.undecodable.trans
      simp only [Ledger.legible, Codec.decode, decodePayload, isOk_mapError]
      rfl

/-- Two requests, of which the first gets a payload that is no JSON, and a stray behind them. -/
theorem served_in_order_of_three_frames :
    ∃ session, Reachable Settings.default session ∧
      session.pairing = ⟨[0, 1], [⟨[0x2d]⟩, ⟨[0x31]⟩], [⟨[0x32]⟩]⟩ ∧
      session.completions.map Prod.fst = [0, 1] ∧
      session.pending.outcome? 0 = some ((decodeAs Json [0x2d]).mapError (.decode [0x2d])) ∧
      session.pending.outcome? 1 = some ((decodeAs Json [0x31]).mapError (.decode [0x31])) ∧
      session.tally.received = 2 + session.tally.unsolicited := by
  let origin : Session := .new Settings.default .unlimited .ready
  let moves : List Move :=
    [.send (.ok [0x7b, 0x7d]), .send (.ok [0x7b, 0x7d]), .begin, .takeCommand, .takeCommand,
      .deliver (.chunk [0, 0, 0, 1, 0x2d, 0, 0, 0, 1, 0x31, 0, 0, 0, 1, 0x32]), .read]
  have shown : (origin.play? moves).map (fun run => (run.2.pairing, run.2.task)) =
      some (⟨[0, 1], [⟨[0x2d]⟩, ⟨[0x31]⟩], [⟨[0x32]⟩]⟩, .running) := by decide +kernel
  obtain ⟨⟨past, session⟩, played, seen⟩ := Option.map_eq_some_iff.mp shown
  obtain ⟨paired, running⟩ : session.pairing = _ ∧ session.task = .running := Prod.mk.inj seen
  obtain ⟨_, run⟩ := play?_eq_some_iff.mp played
  have reachable : Reachable Settings.default session :=
    ⟨origin, past, ⟨_, _, .inr rfl, rfl⟩, run⟩
  have served := served_in_order reachable
  refine ⟨session, reachable, paired, ?_, ?_, ?_, ?_⟩
  · rw [(served.serving (by simp [running]) (by simp [running])).1, paired]
    rfl
  · exact (served.answered 0 0 ⟨[0x2d]⟩ (by rw [paired]; rfl) (by rw [paired]; rfl)).2
  · exact (served.answered 1 1 ⟨[0x31]⟩ (by rw [paired]; rfl) (by rw [paired]; rfl)).2
  · rw [served.counted.1, paired]
    rfl

end Session

end Antiphon
