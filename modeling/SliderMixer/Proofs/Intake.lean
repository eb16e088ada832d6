import SliderMixer.Link.LineReader
import SliderMixer.Proofs.Pieces
import SliderMixer.Proofs.Run

/-! # Taking in a stream

The board writes whenever it likes, the reader reads what is there, and somebody takes the lines
one by one.

* `BoardTurn`: what happens at the other end of the wire.
* `LineReader.Step`: the steps of a reader on its stream.
* `Intake`: a reader with what its stream was given and what was taken from it, and `due`: what is
  to be taken in the end.
* `sound_turn`: every item is read, ready or taken; `forwards_pieces`: so all are taken in order.
-/

namespace SliderMixer

/-! ## At the board -/

inductive BoardTurn where
  | refuse (reason : String)
  | connect (s : Stream)
  | write (stream : Nat) (bytes : List UInt8)
  | close (stream : Nat)
  | fail (stream : Nat) (reason : String)
  deriving DecidableEq

namespace Board

def turn (b : Board) : BoardTurn → Board
  | .refuse reason => b.pushRefusal reason
  | .connect s => (b.pushStream s).2
  | .write n bytes => b.write n bytes
  | .close n => b.close n
  | .fail n reason => b.changeStream n fun s => s.fail reason

/-- The bytes that a stream is given; after its end it takes none. -/
def gives (b : Board) (stream : Nat) : BoardTurn → List UInt8
  | .write n bytes =>
    if n = stream ∧ ((b.streams[n]?).any fun s => s.ending.isNone) = true then bytes else []
  | .refuse _ | .connect _ | .close _ | .fail .. => []

variable {b : Board} {stream : Nat} {s : Stream}

theorem getElem?_changeStream (h : b.streams[stream]? = some s) (n : Nat) (f : Stream → Stream) :
    (b.changeStream n f).streams[stream]? = some (if n = stream then f s else s) := by
  simp only [changeStream, List.getElem?_modify, h]
  split <;> rfl

/-- A stream gets the bytes that it is given, and once it has ended it stays as it is. -/
theorem stream_turn (h : b.streams[stream]? = some s) (turn : BoardTurn) :
    ∃ s', (b.turn turn).streams[stream]? = some s' ∧
      s'.waiting = s.waiting ++ b.gives stream turn ∧
      ∀ e, s.ending = some e → s'.ending = some e ∧ b.gives stream turn = [] := by
  cases turn with
  | refuse reason => exact ⟨s, h, by simp [gives], fun e he => ⟨he, rfl⟩⟩
  | connect t =>
    have hstream : stream < b.streams.length := (List.getElem?_eq_some_iff.mp h).1
    refine ⟨s, ?_, by simp [gives], fun e he => ⟨he, rfl⟩⟩
    simp [turn, pushStream, List.getElem?_append_left hstream, h]
  | write n bytes =>
    refine ⟨_, getElem?_changeStream h n _, ?_⟩
    by_cases hn : n = stream
    · subst hn
      cases hending : s.ending <;> simp [gives, h, Stream.write, hending]
    · simp [gives, hn]
  | close n =>
    refine ⟨_, getElem?_changeStream h n _, ?_⟩
    by_cases hn : n = stream
    · refine ⟨by simp [gives, hn, Stream.close], fun e he => ?_⟩
      simp [gives, hn, Stream.close, he]
    · simp [gives, hn]
  | fail n reason =>
    refine ⟨_, getElem?_changeStream h n _, ?_⟩
    by_cases hn : n = stream
    · refine ⟨by simp [gives, hn, Stream.fail], fun e he => ?_⟩
      simp [gives, hn, Stream.fail, he]
    · simp [gives, hn]

theorem read_eq (h : b.streams[stream]? = some s) :
    b.read stream = (s.read.1, { b with streams := b.streams.set stream s.read.2 }) := by
  simp [read, h]

theorem getElem?_set_self (h : b.streams[stream]? = some s) (t : Stream) :
    (b.streams.set stream t)[stream]? = some t := by
  have hstream : stream < b.streams.length := (List.getElem?_eq_some_iff.mp h).1
  simp [hstream]

end Board

/-! ## Steps of the reader -/

namespace LineReader

/-- The items with which a stream ends. -/
def last (r : LineReader) : StreamEnd → List LineItem
  | .closed => r.splitter.finish.map .line
  | .failed reason => [.failure (.readFailed reason)]

theorem length_last_le (r : LineReader) (e : StreamEnd) : (r.last e).length ≤ 1 := by
  cases e with
  | closed => simpa [last] using r.splitter.length_finish_le
  | failed reason => exact Nat.le_refl 1

inductive Step (r : LineReader) (s : Stream) : LineReader → Stream → Prop where
  | passes {item : LineItem} {rest : List LineItem} (ready : r.ready = item :: rest)
      (room : r.lines.hasRoom = true) :
      Step r s { r with ready := rest, lines := (r.lines.offer item).2 } s
  | reads (ready : r.ready = []) (unfinished : r.finished = false) (waiting : s.waiting ≠ []) :
      Step r s
        { r with
          splitter := (r.splitter.feed s.waiting).2
          ready := (r.splitter.feed s.waiting).1.map .line }
        { s with waiting := [] }
  | ends {e : StreamEnd} (ready : r.ready = []) (unfinished : r.finished = false)
      (waiting : s.waiting = []) (ending : s.ending = some e) :
      Step r s { r with splitter := {}, ready := r.last e, finished := true } s
  | closes (ready : r.ready = []) (finished : r.finished = true)
      (unclosed : r.lines.senderGone = false) :
      Step r s { r with lines := r.lines.dropSender } s

variable {r r' : LineReader} {s : Stream} {b b' : Board}

theorem step_of_step? (h : b.streams[r.stream]? = some s) (hstep : r.step? b = some (r', b')) :
    ∃ s', Step r s r' s' ∧ b'.streams[r.stream]? = some s' := by
  unfold step? at hstep
  split at hstep
  · next item rest hready =>
    split at hstep <;> cases hstep
    next hroom => exact ⟨s, .passes hready hroom, h⟩
  · next hready =>
    split at hstep
    · cases hstep
    next hgone =>
    split at hstep
    · next hfinished =>
      cases hstep
      exact ⟨s, .closes hready hfinished (Bool.eq_false_iff.mpr hgone), h⟩
    · next hfinished =>
      have hfinished : r.finished = false := Bool.eq_false_iff.mpr hfinished
      simp only [Board.read_eq h, Option.map_eq_some_iff, Prod.mk.injEq] at hstep
      obtain ⟨r', htake, rfl, rfl⟩ := hstep
      rcases s with ⟨_ | ⟨byte, waiting⟩, _ | (_ | reason)⟩ <;> cases htake
      · rw [hready]
        exact ⟨_, .ends (e := .closed) hready hfinished rfl rfl, Board.getElem?_set_self h _⟩
      · rw [hready]
        exact ⟨_, .ends (e := .failed reason) hready hfinished rfl rfl, Board.getElem?_set_self h _⟩
      all_goals
        rw [hready]
        exact ⟨_, .reads hready hfinished (List.cons_ne_nil _ _), Board.getElem?_set_self h _⟩

/-- A reader that cannot go on has no room for what is ready, or has nothing to do. -/
theorem waits_of_step?_eq_none (h : b.streams[r.stream]? = some s) (hstep : r.step? b = none) :
    r.ready ≠ [] ∧ r.lines.hasRoom = false ∨
    r.ready = [] ∧ (r.lines.senderGone = true ∨
      r.finished = false ∧ s.waiting = [] ∧ s.ending = none) := by
  unfold step? at hstep
  split at hstep
  · next item rest hready =>
    split at hstep
    · cases hstep
    next hroom => exact .inl ⟨by simp [hready], Bool.eq_false_iff.mpr hroom⟩
  · next hready =>
    refine .inr ⟨hready, ?_⟩
    split at hstep
    · next hgone => exact .inl hgone
    split at hstep
    · cases hstep
    next hfinished =>
    simp only [Board.read_eq h, Option.map_eq_none_iff] at hstep
    rcases s with ⟨_ | ⟨byte, waiting⟩, _ | (_ | reason)⟩ <;> cases hstep
    exact .inr ⟨Bool.eq_false_iff.mpr hfinished, rfl, rfl⟩

end LineReader

/-! ## Taking in -/

inductive IntakeTurn where
  | board (turn : BoardTurn)
  | read
  | receive
  deriving DecidableEq

/-- A reader, with all that its stream was given and all that was taken from it. -/
structure Intake where
  reader : LineReader
  board : Board
  sent : List UInt8
  received : List LineItem := []

namespace Intake

def start (board : Board) (stream : Nat) (sent : List UInt8) : Intake :=
  { reader := { stream }, board, sent }

def turn? (i : Intake) : IntakeTurn → Option Intake
  | .board turn => some { i with
      board := i.board.turn turn
      sent := i.sent ++ i.board.gives i.reader.stream turn }
  | .read => (i.reader.step? i.board).map fun (reader, board) => { i with reader, board }
  | .receive =>
    match i.reader.lines.receive with
    | (.item item, lines) =>
      some { i with reader := { i.reader with lines }, received := i.received ++ [item] }
    | (.waiting, _) | (.ended, _) => none

/-- How the stream has ended, if it has. -/
def ending (i : Intake) : Option StreamEnd := (i.board.streams[i.reader.stream]?).bind (·.ending)

/-- What there is to be taken of a stream.  While it goes on, its last piece may still grow, and
    where it fails, that piece is lost. -/
def due (sent : List UInt8) : Option StreamEnd → List LineItem
  | none =>
    (LineSplitter.linesOf ((LineSplitter.pieces sent).filter LineSplitter.isComplete)).map .line
  | some .closed => (LineSplitter.linesOf (LineSplitter.pieces sent)).map .line
  | some (.failed reason) =>
    (LineSplitter.linesOf ((LineSplitter.pieces sent).filter LineSplitter.isComplete)).map .line ++
      [.failure (.readFailed reason)]

/-- What was read so far: taken, passed on, or ready to be passed on. -/
def passed (i : Intake) : List LineItem := i.received ++ i.reader.lines.items ++ i.reader.ready

/-- The reader has read `taken` from its stream `s`, and has passed on all that comes of it. -/
structure Reading (i : Intake) (s : Stream) (taken : List UInt8) : Prop where
  stream : i.board.streams[i.reader.stream]? = some s
  sent : i.sent = taken ++ s.waiting
  heard : i.reader.lines.receiverGone = false
  room : 0 < i.reader.lines.capacity
  going : i.reader.finished = false → i.passed = due taken none ∧
    i.reader.splitter = (({} : LineSplitter).feed taken).2 ∧ i.reader.lines.senderGone = false
  finished : i.reader.finished = true → s.waiting = [] ∧
    ∃ e, s.ending = some e ∧ i.passed = due i.sent (some e)
  closed : i.reader.lines.senderGone = true → i.reader.ready = []

def Sound (i : Intake) : Prop := ∃ s taken, i.Reading s taken

/-! ## What is due -/

theorem due_none (bytes : List UInt8) :
    due bytes none = ((({} : LineSplitter).feed bytes).1).map .line := by
  rw [LineSplitter.lines_feed]
  rfl

theorem due_append (front back : List UInt8) :
    due (front ++ back) none =
      due front none ++ (((({} : LineSplitter).feed front).2.feed back).1).map .line := by
  simp only [due_none, LineSplitter.feed_append, List.map_append]

/-- At the end of the stream the reader adds what is still due. -/
theorem due_some {r : LineReader} {bytes : List UInt8}
    (h : r.splitter = (({} : LineSplitter).feed bytes).2) (e : StreamEnd) :
    due bytes (some e) = due bytes none ++ r.last e := by
  cases e with
  | closed =>
    simp only [due, LineReader.last, h, ← LineSplitter.lines_finish, ← LineSplitter.lines_feed,
      List.map_append]
  | failed reason => rfl

theorem due_none_isPrefix (bytes : List UInt8) (ending : Option StreamEnd) :
    due bytes none <+: due bytes ending := by
  cases ending with
  | none => exact List.prefix_refl _
  | some e =>
    let r : LineReader := { stream := 0, splitter := (({} : LineSplitter).feed bytes).2 }
    exact ⟨r.last e, (due_some (r := r) rfl e).symm⟩

/-! ## What a turn does -/

variable {i j : Intake} {s : Stream} {taken : List UInt8}

theorem Reading.board (h : i.Reading s taken) (turn : BoardTurn) :
    Sound { i with
      board := i.board.turn turn
      sent := i.sent ++ i.board.gives i.reader.stream turn } := by
  obtain ⟨s', hstream, hwaiting, hended⟩ := Board.stream_turn h.stream turn
  refine ⟨s', taken, hstream, ?_, h.heard, h.room, h.going, fun hfinished => ?_, h.closed⟩
  · rw [h.sent, hwaiting, List.append_assoc]
  · -- the stream has ended, so it takes nothing more
    obtain ⟨hnone, e, hending, hpassed⟩ := h.finished hfinished
    obtain ⟨hending', hgives⟩ := hended e hending
    refine ⟨by rw [hwaiting, hnone, hgives, List.append_nil], e, hending', ?_⟩
    simpa [hgives, passed] using hpassed

theorem Reading.read (h : i.Reading s taken) {r : LineReader} {s' : Stream} {b : Board}
    (hstep : i.reader.Step s r s') (hstream : b.streams[r.stream]? = some s') :
    Sound { i with reader := r, board := b } := by
  cases hstep with
  | @passes item rest hready hroom =>
    have hlines : (i.reader.lines.offer item).2 =
        { i.reader.lines with items := i.reader.lines.items ++ [item] } := by
      simp [Mailbox.offer, h.heard, hroom]
    have hpassed : passed { i with
        reader := { i.reader with ready := rest, lines := (i.reader.lines.offer item).2 }
        board := b } = i.passed := by
      simp [passed, hlines, hready]
    have hopen : i.reader.lines.senderGone ≠ true := fun hgone => by simp [h.closed hgone] at hready
    refine ⟨s, taken, hstream, h.sent, ?_, ?_, ?_, ?_, ?_⟩
    · simp [hlines, h.heard]
    · simp [hlines, h.room]
    · intro hfinished
      rw [hpassed]
      obtain ⟨hdue, hsplitter, hgone⟩ := h.going hfinished
      exact ⟨hdue, hsplitter, by simp [hlines, hgone]⟩
    · intro hfinished
      rw [hpassed]
      exact h.finished hfinished
    · intro hgone
      rw [hlines] at hgone
      exact absurd hgone hopen
  | reads hready hfinished hwaiting =>
    obtain ⟨hdue, hsplitter, hgone⟩ := h.going hfinished
    refine ⟨_, taken ++ s.waiting, hstream, ?_, h.heard, h.room, fun _ => ⟨?_, ?_, hgone⟩, ?_, ?_⟩
    · rw [h.sent, List.append_nil]
    · have hpassed : i.passed = i.received ++ i.reader.lines.items := by simp [passed, hready]
      rw [due_append, ← hdue, hpassed, ← hsplitter]
      rfl
    · rw [LineSplitter.feed_append, ← hsplitter]
    · intro hfinished'
      simp [hfinished] at hfinished'
    · intro hgone'
      simp [hgone] at hgone'
  | @ends e hready hfinished hwaiting hending =>
    obtain ⟨hdue, hsplitter, hgone⟩ := h.going hfinished
    have hsent : i.sent = taken := by rw [h.sent, hwaiting, List.append_nil]
    refine ⟨s, taken, hstream, h.sent, h.heard, h.room, ?_, fun _ => ⟨hwaiting, e, hending, ?_⟩, ?_⟩
    · intro hfinished'
      simp at hfinished'
    · have hpassed : i.passed = i.received ++ i.reader.lines.items := by simp [passed, hready]
      rw [hsent, due_some hsplitter, ← hdue, hpassed]
      rfl
    · intro hgone'
      simp [hgone] at hgone'
  | closes hready hfinished hunclosed =>
    refine ⟨s, taken, hstream, h.sent, h.heard, h.room, ?_, h.finished, fun _ => hready⟩
    intro hfinished'
    simp [hfinished] at hfinished'

theorem receive_eq_some (h : i.turn? .receive = some j) :
    ∃ item rest, i.reader.lines.items = item :: rest ∧ j = { i with
      reader := { i.reader with lines := { i.reader.lines with items := rest } }
      received := i.received ++ [item] } := by
  unfold turn? at h
  cases hitems : i.reader.lines.items with
  | nil => cases hgone : i.reader.lines.senderGone <;> simp [Mailbox.receive, hitems, hgone] at h
  | cons item rest =>
    simp only [Mailbox.receive, hitems, Option.some.injEq] at h
    exact ⟨item, rest, rfl, h.symm⟩

theorem Reading.receive (h : i.Reading s taken) {item : LineItem} {rest : List LineItem}
    (hitems : i.reader.lines.items = item :: rest) :
    Sound { i with
      reader := { i.reader with lines := { i.reader.lines with items := rest } }
      received := i.received ++ [item] } := by
  have hpassed : passed { i with
      reader := { i.reader with lines := { i.reader.lines with items := rest } }
      received := i.received ++ [item] } = i.passed := by
    simp [passed, hitems]
  refine ⟨s, taken, h.stream, h.sent, h.heard, h.room, fun hfinished => ?_,
    fun hfinished => ?_, h.closed⟩
  · rw [hpassed]
    exact h.going hfinished
  · rw [hpassed]
    exact h.finished hfinished

theorem sound_board (h : i.Sound) (turn : BoardTurn) :
    Sound { i with
      board := i.board.turn turn
      sent := i.sent ++ i.board.gives i.reader.stream turn } := by
  obtain ⟨s, taken, h⟩ := h
  exact h.board turn

theorem sound_read (h : i.Sound) {r : LineReader} {b : Board}
    (hread : i.reader.step? i.board = some (r, b)) : Sound { i with reader := r, board := b } := by
  obtain ⟨s, taken, h⟩ := h
  obtain ⟨s', hstep, hstream⟩ := LineReader.step_of_step? h.stream hread
  have hsame : r.stream = i.reader.stream := by cases hstep <;> rfl
  exact h.read hstep (hsame ▸ hstream)

theorem sound_receive (h : i.Sound) {item : LineItem} {rest : List LineItem}
    (hitems : i.reader.lines.items = item :: rest) :
    Sound { i with
      reader := { i.reader with lines := { i.reader.lines with items := rest } }
      received := i.received ++ [item] } := by
  obtain ⟨s, taken, h⟩ := h
  exact h.receive hitems

theorem sound_turn (h : i.Sound) {turn : IntakeTurn} (hturn : i.turn? turn = some j) :
    j.Sound := by
  cases turn with
  | board t =>
    cases hturn
    exact sound_board h t
  | read =>
    simp only [turn?, Option.map_eq_some_iff] at hturn
    obtain ⟨⟨r, b⟩, hread, rfl⟩ := hturn
    exact sound_read h hread
  | receive =>
    obtain ⟨item, rest, hitems, rfl⟩ := receive_eq_some hturn
    exact sound_receive h hitems

theorem Sound.start {board : Board} {stream : Nat} (h : board.streams[stream]? = some s) :
    (start board stream s.waiting).Sound := by
  refine ⟨s, [], h, rfl, rfl, (by decide : 0 < lineBuffer), fun _ => ⟨rfl, rfl, rfl⟩, ?_, ?_⟩ <;>
    (intro hfalse; cases hfalse)

/-! ## Coming to an end -/

theorem Reading.ending_eq (h : i.Reading s taken) : i.ending = s.ending := by
  simp [ending, h.stream]

/-- All that was read is due. -/
theorem Reading.passed_isPrefix (h : i.Reading s taken) : i.passed <+: due i.sent i.ending := by
  rw [h.ending_eq]
  cases hfinished : i.reader.finished with
  | true =>
    obtain ⟨-, e, hending, hpassed⟩ := h.finished hfinished
    exact ⟨[], by rw [List.append_nil, hending, hpassed]⟩
  | false =>
    rw [(h.going hfinished).1]
    refine List.IsPrefix.trans ?_ (due_none_isPrefix i.sent s.ending)
    rw [h.sent, due_append]
    exact List.prefix_append _ _

theorem received_isPrefix (h : i.Sound) : i.received <+: due i.sent i.ending := by
  obtain ⟨s, taken, h⟩ := h
  refine List.IsPrefix.trans ?_ h.passed_isPrefix
  rw [passed, List.append_assoc]
  exact List.prefix_append _ _

/-- The reader has closed only after all was passed on. -/
theorem Reading.passed_of_closed (h : i.Reading s taken)
    (hgone : i.reader.lines.senderGone = true) :
    ∃ e, i.ending = some e ∧ i.passed = due i.sent (some e) := by
  rw [h.ending_eq]
  cases hfinished : i.reader.finished with
  | true => exact (h.finished hfinished).2
  | false => simp [(h.going hfinished).2.2] at hgone

theorem received_of_ended (h : i.Sound) (hended : i.reader.lines.receive.1 = .ended) :
    ∃ e, i.ending = some e ∧ i.received = due i.sent (some e) := by
  obtain ⟨s, taken, h⟩ := h
  cases hitems : i.reader.lines.items with
  | cons item rest => simp [Mailbox.receive, hitems] at hended
  | nil =>
    have hgone : i.reader.lines.senderGone = true := by
      simpa [Mailbox.receive, hitems] using hended
    obtain ⟨e, hending, hpassed⟩ := h.passed_of_closed hgone
    refine ⟨e, hending, ?_⟩
    simpa [passed, hitems, h.closed hgone] using hpassed

/-- Where neither the reader nor who takes the lines can go on, all that is due was taken. -/
theorem received_of_stuck (h : i.Sound) (hread : i.turn? .read = none)
    (hreceive : i.turn? .receive = none) :
    i.received = due i.sent i.ending ∧
      i.reader.lines.receive.1 = if i.ending.isSome then .ended else .waiting := by
  have hitems : i.reader.lines.items = [] := by
    cases hitems : i.reader.lines.items with
    | nil => rfl
    | cons item rest => simp [turn?, Mailbox.receive, hitems] at hreceive
  by_cases hgone : i.reader.lines.senderGone = true
  · have hended : i.reader.lines.receive.1 = .ended := by simp [Mailbox.receive, hitems, hgone]
    obtain ⟨e, hending, hreceived⟩ := received_of_ended h hended
    rw [hending, hended]
    exact ⟨hreceived, rfl⟩
  · obtain ⟨s, taken, h⟩ := h
    simp only [turn?, Option.map_eq_none_iff] at hread
    rcases LineReader.waits_of_step?_eq_none h.stream hread with
      ⟨-, hfull⟩ | ⟨hready, hclosed | ⟨hfinished, hwaiting, hnone⟩⟩
    · -- what was passed on is taken, so there is room
      simp [Mailbox.hasRoom, hitems, h.room] at hfull
    · exact absurd hclosed hgone
    · have hreceived : i.received = due i.sent none := by
        rw [h.sent, hwaiting, List.append_nil, ← (h.going hfinished).1]
        simp [passed, hitems, hready]
      rw [h.ending_eq, hnone]
      exact ⟨hreceived, by simp [Mailbox.receive, hitems, hgone]⟩

/-! ## Going on -/

/-- The bytes that are still to be read. -/
def unread (i : Intake) : Nat :=
  ((i.board.streams[i.reader.stream]?).map (·.waiting.length)).getD 0

/-- A bound on the turns to come while the board does nothing: every item is passed on and taken,
    and every byte makes one item at most. -/
def work (i : Intake) : Nat :=
  3 * i.unread + 3 * (!i.reader.finished).toNat + 2 * i.reader.ready.length +
    i.reader.lines.items.length + (!i.reader.lines.senderGone).toNat

theorem Reading.unread_eq (h : i.Reading s taken) : i.unread = s.waiting.length := by
  simp [unread, h.stream]

theorem work_read (h : i.Reading s taken) {r : LineReader} {s' : Stream} {b : Board}
    (hstep : i.reader.Step s r s') (hstream : b.streams[r.stream]? = some s') :
    work { i with reader := r, board := b } < i.work := by
  have hunread : unread { i with reader := r, board := b } = s'.waiting.length := by
    simp [unread, hstream]
  simp only [work, hunread, h.unread_eq]
  cases hstep with
  | @passes item rest hready hroom =>
    simp [Mailbox.offer, h.heard, hroom, hready]
    omega
  | reads hready hfinished hwaiting =>
    have hlines := LineSplitter.length_feed_le i.reader.splitter s.waiting
    have hpos : 0 < s.waiting.length := List.length_pos_iff.mpr hwaiting
    simp only [List.length_nil, List.length_map, hready]
    omega
  | @ends e hready hfinished hwaiting hending =>
    have hlast := i.reader.length_last_le e
    simp only [hready, hfinished, List.length_nil, Bool.not_false, Bool.not_true, Bool.toNat_true,
      Bool.toNat_false]
    omega
  | closes hready hfinished hunclosed =>
    simp [Mailbox.dropSender, hunclosed]

/-- Without the board, the reader and who takes the lines are soon done. -/
theorem work_turn (h : i.Sound) {turn : IntakeTurn} (hkind : turn = .read ∨ turn = .receive)
    (hturn : i.turn? turn = some j) : j.work < i.work := by
  obtain ⟨s, taken, h⟩ := h
  rcases hkind with rfl | rfl
  · simp only [turn?, Option.map_eq_some_iff] at hturn
    obtain ⟨⟨r, b⟩, hstep, rfl⟩ := hturn
    obtain ⟨s', hstep, hstream⟩ := LineReader.step_of_step? h.stream hstep
    have hsame : r.stream = i.reader.stream := by cases hstep <;> rfl
    exact work_read h hstep (hsame ▸ hstream)
  · obtain ⟨item, rest, hitems, rfl⟩ := receive_eq_some hturn
    simp [work, unread, hitems]

theorem length_le_work (h : i.Sound) {turns : List IntakeTurn}
    (hkind : ∀ turn ∈ turns, turn = .read ∨ turn = .receive)
    (hrun : Run.after? turn? i turns = some j) : turns.length ≤ i.work := by
  induction turns generalizing i with
  | nil => exact Nat.zero_le _
  | cons turn rest ih =>
    simp only [Run.after?_cons, Option.bind_eq_some_iff] at hrun
    obtain ⟨k, hturn, hrun⟩ := hrun
    obtain ⟨hfirst, hrest⟩ := List.forall_mem_cons.mp hkind
    have hlength := ih (sound_turn h hturn) hrest hrun
    exact Nat.lt_of_le_of_lt hlength (work_turn h hfirst hturn)

/-- However the board writes, and whoever goes on when: what was taken are the lines of the pieces
    of the stream, as many as come first.  All of them were taken when the reader has closed, and
    where neither the reader nor the receiver can go on; after finitely many steps they cannot,
    unless the board does something. -/
theorem forwards_pieces {board : Board} {stream : Nat} (h : board.streams[stream]? = some s)
    {turns : List IntakeTurn}
    (hrun : Run.after? turn? (start board stream s.waiting) turns = some i) :
    i.received <+: due i.sent i.ending ∧
    (i.reader.lines.receive.1 = .ended →
      ∃ e, i.ending = some e ∧ i.received = due i.sent (some e)) ∧
    (i.turn? .read = none → i.turn? .receive = none →
      i.received = due i.sent i.ending ∧
        i.reader.lines.receive.1 = if i.ending.isSome then .ended else .waiting) ∧
    ∀ more j, (∀ turn ∈ more, turn = .read ∨ turn = .receive) →
      Run.after? turn? i more = some j → more.length ≤ i.work := by
  have hsound : i.Sound := Run.invariant (Sound.start h) (fun _ _ _ hi => sound_turn hi) hrun
  exact ⟨received_isPrefix hsound, received_of_ended hsound, received_of_stuck hsound,
    fun more j hkind hmore => length_le_work hsound hkind hmore⟩

/-- A line is cut in two, newlines stand at the limit and one behind it, and the wire breaks within
    a line: two lines and the failure are taken. -/
theorem forwards_pieces_of_broken :
    let digits (n : Nat) : List UInt8 := List.replicate n 55
    let turns : List IntakeTurn :=
      [.board (.write 0 [53, 49]), .read, .board (.write 0 (50 :: 10 :: digits 500)), .read,
        .board (.write 0 (digits 11 ++ 10 :: digits 512 ++ [10, 56])), .board (.fail 0 "unplugged"),
        .read, .receive, .read, .read, .read, .read, .receive, .receive, .read]
    ∃ i ∈ Run.after? turn? (start { streams := [{}] } 0 []) turns,
      i.sent.length = 1030 ∧ i.received.length = 3 ∧ i.received.head? = some (.line "512\n") ∧
      i.received.getLast? = some (.failure (.readFailed "unplugged")) ∧
      ∃ e, i.ending = some e ∧ i.received = due i.sent (some e) := by
  intro digits turns
  have hrun : ∃ i ∈ Run.after? turn? (start { streams := [{}] } 0 []) turns,
      i.sent.length = 1030 ∧ i.received.length = 3 ∧ i.received.head? = some (.line "512\n") ∧
      i.received.getLast? = some (.failure (.readFailed "unplugged")) ∧
      i.reader.lines.receive.1 = .ended := by decide +kernel
  obtain ⟨i, hi, hlength, hcount, hfirst, hlast, hended⟩ := hrun
  have hstream : ({ streams := [{}] } : Board).streams[0]? = some ({} : Stream) := rfl
  have hall := forwards_pieces hstream hi
  exact ⟨i, hi, hlength, hcount, hfirst, hlast, hall.2.1 hended⟩

end Intake

end SliderMixer
