import SliderMixer.Proofs.DamagedText
import SliderMixer.Proofs.EventStream
import SliderMixer.Proofs.LinkSteps

/-! # Torn and garbled lines

What comes over the wire may be cut off or damaged anywhere.  Only whole lines whose bytes are those
of a frame make a slider move.

* `WireFrame`: the bytes of a frame; `frame?_eq_some_iff`: nothing else comes as one.
* `framesOf_isPrefix`: where a stream breaks off, its frames are the first of the whole one.
* `connectionMoves`: the moves that the frames of a stream make.
* `Listening`: the link on an open connection, and `heard_turn`: what it has made of its stream.
* `moves_of_frames`: whatever happens around it, it makes the moves of the frames and no others.
-/

namespace SliderMixer

open LineSplitter (pieces kept isComplete linesOf newline)

/-! ## Pieces of the stream -/

/-- The bytes are a line with the values of a frame.  All characters of a frame are ASCII, so each is
    a byte. -/
def WireFrame (maxReading : Nat) (piece : List UInt8) (values : List Nat) : Prop :=
  piece.length ≤ lineLimit ∧
    ∃ text, Frame.Reads maxReading text (.ok values) ∧ piece = text.map Char.toUInt8

namespace Frame

/-- A frame is made of ASCII characters and ends with a line feed. -/
theorem ascii_of_reads {maxReading : Nat} {text : List Char} {values : List Nat}
    (h : Reads maxReading text (.ok values)) :
    (∀ c ∈ text, c.toNat < 0x80) ∧ text.getLast? = some '\n' := by
  cases h with
  | @frame first rest terminator hvalues hrange =>
    have hdigits (group : List Char) (hgroup : group ∈ first :: rest) :
        ∀ c ∈ group, c.toNat < 0x80 := by
      intro c hc
      have hdigit := (isValue_iff.mp (hvalues group hgroup)).2.2 c hc
      exact Nat.lt_of_le_of_lt (Char.isDigit_iff_toNat.mp hdigit).2 (by decide)
    have hterminator : (∀ c ∈ terminator.text, c.toNat < 0x80) ∧
        terminator.text.getLast? = some '\n' := by
      cases terminator <;> simp [Terminator.text]
    constructor
    · intro c hc
      simp only [render_eq, List.mem_append, List.mem_flatMap, List.mem_cons] at hc
      rcases hc with (hc | ⟨group, hgroup, rfl | hc⟩) | hc
      · exact hdigits first List.mem_cons_self c hc
      · decide
      · exact hdigits group (List.mem_cons_of_mem first hgroup) c hc
      · exact hterminator.1 c hc
    · rw [render_eq, List.getLast?_append, hterminator.2]
      rfl

theorem isComplete_of_reads {maxReading : Nat} {text : List Char} {values : List Nat}
    (h : Reads maxReading text (.ok values)) : isComplete (text.map Char.toUInt8) = true := by
  rw [isComplete, List.getLast?_map, (ascii_of_reads h).2]
  rfl

end Frame

/-- The values of a piece that comes to the decoder as a frame. -/
def frame? (maxReading : Nat) (piece : List UInt8) : Option (List Nat) :=
  if kept piece then Frame.parse? (Utf8.decodeLossy piece) maxReading else none

/-- What comes as a frame was sent as one: the text of a frame is read from its own bytes only. -/
theorem frame?_eq_some_iff {maxReading : Nat} {piece : List UInt8} {values : List Nat} :
    frame? maxReading piece = some values ↔ WireFrame maxReading piece values := by
  simp only [frame?, Option.ite_none_right_eq_some, Frame.parse?_eq_some_iff]
  constructor
  · rintro ⟨hkept, hparse⟩
    have hreads := Frame.reads_parse maxReading (Utf8.decodeLossy piece).toList
    rw [hparse] at hreads
    have hpiece := (Utf8.decodeLossy_eq_iff (Frame.ascii_of_reads hreads).1).mp rfl
    have hcomplete : isComplete piece = true := by
      rw [hpiece]
      exact Frame.isComplete_of_reads hreads
    exact ⟨(LineSplitter.kept_iff hcomplete).mp hkept, _, hreads, hpiece⟩
  · rintro ⟨hshort, text, hreads, rfl⟩
    refine ⟨(LineSplitter.kept_iff (Frame.isComplete_of_reads hreads)).mpr hshort, ?_⟩
    rw [(Utf8.decodeLossy_eq_iff (Frame.ascii_of_reads hreads).1).mpr rfl]
    exact Frame.parse_of_reads hreads

/-- A piece that has not ended is no frame. -/
theorem frame?_of_not_mem (maxReading : Nat) {rest : List UInt8} (h : newline ∉ rest) :
    frame? maxReading rest = none := by
  refine Option.eq_none_iff_forall_ne_some.mpr fun values hframe => ?_
  obtain ⟨-, text, hreads, rfl⟩ := frame?_eq_some_iff.mp hframe
  have hlast := (Frame.ascii_of_reads hreads).2
  exact h (List.mem_map.mpr ⟨'\n', List.mem_of_getLast? hlast, rfl⟩)

/-! ## Streams that break off -/

/-- The frames of a stream. -/
def framesOf (maxReading : Nat) (bytes : List UInt8) : List (List Nat) :=
  (pieces bytes).filterMap (frame? maxReading)

theorem framesOf_rest (maxReading : Nat) {rest : List UInt8} (h : newline ∉ rest) :
    framesOf maxReading rest = [] := by
  by_cases hrest : rest = []
  · rw [hrest]
    rfl
  · rw [framesOf, LineSplitter.pieces_rest h hrest,
      List.filterMap_cons_none (frame?_of_not_mem maxReading h), List.filterMap_nil]

/-- Only complete pieces count. -/
theorem framesOf_complete (maxReading : Nat) (bytes : List UInt8) :
    ((pieces bytes).filter isComplete).filterMap (frame? maxReading) =
      framesOf maxReading bytes := by
  induction bytes using LineSplitter.line_induction with
  | rest rest h =>
    rw [framesOf_rest maxReading h]
    by_cases hrest : rest = []
    · rw [hrest]
      rfl
    · simp [LineSplitter.pieces_rest h hrest, LineSplitter.isComplete_rest h]
  | line body later h ih =>
    rw [framesOf, LineSplitter.pieces_line h,
      List.filter_cons_of_pos (LineSplitter.isComplete_line body)]
    simp only [List.filterMap_cons, ih, framesOf]

theorem framesOf_isPrefix (maxReading : Nat) (front back : List UInt8) :
    framesOf maxReading front <+: framesOf maxReading (front ++ back) := by
  induction front using LineSplitter.line_induction with
  | rest rest h =>
    rw [framesOf_rest maxReading h]
    exact List.nil_prefix
  | line body later h ih =>
    rw [List.append_assoc, List.cons_append]
    simp only [framesOf, LineSplitter.pieces_line h, List.filterMap_cons]
    split
    · exact ih
    · exact List.cons_prefix_cons.mpr ⟨rfl, ih⟩

namespace Decoder

def takeAll (d : Decoder) : List (List Nat) → List Move × Decoder
  | [] => ([], d)
  | values :: rest =>
    let (moves, d) := d.take values
    let (later, d) := d.takeAll rest
    (moves ++ later, d)

theorem takeAll_isPrefix (d : Decoder) {front all : List (List Nat)} (h : front <+: all) :
    (d.takeAll front).1 <+: (d.takeAll all).1 := by
  induction front generalizing d all with
  | nil => exact List.nil_prefix
  | cons values rest ih =>
    obtain ⟨later, rfl⟩ := h
    exact (List.prefix_append_right_inj _).mpr (ih _ (List.prefix_append _ _))

/-- The lines that are no frames do nothing. -/
theorem decodeAll_linesOf (d : Decoder) (ps : List (List UInt8)) :
    d.decodeAll (linesOf ps) =
      d.takeAll (ps.filterMap (frame? d.settings.thresholds.maxReading)) := by
  induction ps generalizing d with
  | nil => rfl
  | cons piece rest ih =>
    rw [LineSplitter.linesOf_cons, List.filterMap_cons, frame?]
    by_cases hkept : kept piece = true
    · rw [if_pos hkept, if_pos hkept, List.singleton_append, Frame.parse?]
      cases hparse : Frame.parse (Utf8.decodeLossy piece).toList
          d.settings.thresholds.maxReading with
      | error e =>
        simp only [decodeAll, decode_of_error hparse, ih, List.nil_append]
        rfl
      | ok values =>
        have hsettings : (d.take values).2.settings = d.settings := rfl
        simp only [decodeAll, decode_of_ok hparse, ih, hsettings]
        rfl
    · rw [if_neg hkept, if_neg hkept, List.nil_append, ih]

end Decoder

/-- The moves of a connection over which these bytes come, with a decoder that is new or reset. -/
def connectionMoves (settings : DecoderSettings) (bytes : List UInt8) : List Move :=
  ((Decoder.new settings).takeAll (framesOf settings.thresholds.maxReading bytes)).1

theorem connectionMoves_isPrefix (settings : DecoderSettings) {front bytes : List UInt8}
    (h : front <+: bytes) : connectionMoves settings front <+: connectionMoves settings bytes := by
  obtain ⟨back, rfl⟩ := h
  exact Decoder.takeAll_isPrefix _ (framesOf_isPrefix _ front back)

/-! ## Texts -/

def LineItem.text? : LineItem → Option String
  | .line text => some text
  | .failure _ => none

theorem texts_lines (lines : List String) :
    (lines.map LineItem.line).filterMap LineItem.text? = lines := by
  simp [List.filterMap_map, Function.comp_def, LineItem.text?]

namespace Intake

/-- However the stream ends, its frames make the moves. -/
theorem moves_of_due (settings : DecoderSettings) (sent : List UInt8)
    (ending : Option StreamEnd) :
    ((Decoder.new settings).decodeAll ((due sent ending).filterMap LineItem.text?)).1 =
      connectionMoves settings sent := by
  have hall : ((Decoder.new settings).decodeAll (linesOf (pieces sent))).1 =
      connectionMoves settings sent := by
    rw [Decoder.decodeAll_linesOf]
    rfl
  have hcomplete :
      ((Decoder.new settings).decodeAll (linesOf ((pieces sent).filter isComplete))).1 =
        connectionMoves settings sent := by
    rw [Decoder.decodeAll_linesOf, framesOf_complete]
    rfl
  match ending with
  | none => rw [due, texts_lines, hcomplete]
  | some .closed => rw [due, texts_lines, hall]
  | some (.failed reason) =>
    have htexts : (due sent (some (.failed reason))).filterMap LineItem.text? =
        linesOf ((pieces sent).filter isComplete) := by
      rw [due, List.filterMap_append, texts_lines]
      exact List.append_nil _
    rw [htexts, hcomplete]

/-- A failure comes after all lines. -/
theorem texts_of_failure {items : List LineItem} {e : LinkError} {sent : List UInt8}
    {ending : Option StreamEnd} (h : items ++ [.failure e] <+: due sent ending) :
    items.filterMap LineItem.text? = (due sent ending).filterMap LineItem.text? := by
  have hlines (lines : List String) : ¬ items ++ [.failure e] <+: lines.map LineItem.line := by
    intro hprefix
    have hmem := hprefix.subset (List.mem_append_right items List.mem_cons_self)
    obtain ⟨line, -, hfalse⟩ := List.mem_map.mp hmem
    cases hfalse
  match ending with
  | none => exact absurd h (hlines _)
  | some .closed => exact absurd h (hlines _)
  | some (.failed reason) =>
    rcases List.prefix_concat_iff.mp h with heq | hprefix
    · rw [due, ← heq, List.filterMap_append]
      exact (List.append_nil _).symm
    · exact absurd hprefix (hlines _)

end Intake

/-! ## Connections -/

/-- The link on an open connection, with all that was sent over it and the moves so far. -/
structure Listening where
  link : Link
  sent : List UInt8
  moves : List Move := []

namespace Listening

/-- The link opens the port and finds a stream. -/
def start (l : Link) (c : Connection) (s : Stream) : Listening :=
  { link := l.openPort c, sent := s.waiting }

/-- The bytes that the turn sends over the connection. -/
def sends (x : Listening) : LinkTurn → List UInt8
  | .board turn => (x.link.reader.map fun r => x.link.board.gives r.stream turn).getD []
  | _ => []

def turn? (x : Listening) (turn : LinkTurn) : Option Listening :=
  (x.link.turn? turn).map fun link =>
    { link, sent := x.sent ++ x.sends turn, moves := x.moves ++ x.link.decoded turn }

/-- The turn is made on the open connection, and no settings are looked at. -/
def Quiet (x : Listening) (turn : LinkTurn) : Prop :=
  x.link.isConnected = true ∧ x.link.observes? turn = none

instance (x : Listening) (turn : LinkTurn) : Decidable (x.Quiet turn) :=
  inferInstanceAs (Decidable (x.link.isConnected = true ∧ x.link.observes? turn = none))

/-- The moves are those of the lines taken so far, which the reader has passed on in order. -/
def Tuned (settings : DecoderSettings) (x : Listening) : Prop :=
  ∃ r lines, x.link.reader = some r ∧
    Intake.Sound
      { reader := r, board := x.link.board, sent := x.sent, received := lines.map .line } ∧
    (Decoder.new settings).decodeAll lines = (x.moves, x.link.decoder)

variable {settings : DecoderSettings} {x y : Listening} {turn : LinkTurn}

theorem Tuned.start {l : Link} {c : Connection} {stream : Nat} {board : Board} {s : Stream}
    (hport : l.board.openPort c = (.ok stream, board)) (hs : board.streams[stream]? = some s) :
    Tuned l.decoder.settings (start l c s) := by
  refine ⟨{ stream }, [], by simp [Listening.start, Link.openPort, hport], ?_, ?_⟩
  · have hsound := Intake.Sound.start hs
    simpa [Listening.start, Link.openPort, hport, Intake.start] using hsound
  · simp [Listening.start, Link.openPort, hport, Decoder.decodeAll, Decoder.new, Decoder.reset]

/-- The reader, the board and the decoder stay as they are. -/
theorem Tuned.keep (h : x.Tuned settings) {l : Link} (hreader : l.reader = x.link.reader)
    (hboard : l.board = x.link.board) (hdecoder : l.decoder = x.link.decoder) :
    Tuned settings { link := l, sent := x.sent, moves := x.moves } := by
  obtain ⟨r, lines, hr, hsound, hmoves⟩ := h
  exact ⟨r, lines, hreader.trans hr, by rw [hboard]; exact hsound, by rw [hdecoder]; exact hmoves⟩

theorem Tuned.board (h : x.Tuned settings) (t : BoardTurn) :
    Tuned settings { link := { x.link with board := x.link.board.turn t }
                     sent := x.sent ++ x.sends (.board t), moves := x.moves } := by
  obtain ⟨r, lines, hr, hsound, hmoves⟩ := h
  refine ⟨r, lines, hr, ?_, hmoves⟩
  simp only [sends, hr, Option.map_some, Option.getD_some]
  exact Intake.sound_board hsound t

theorem Tuned.read (h : x.Tuned settings) {r r' : LineReader} {board : Board}
    (hr : x.link.reader = some r) (hread : r.step? x.link.board = some (r', board)) :
    Tuned settings { x with link := { x.link with reader := some r', board } } := by
  obtain ⟨r, lines, hr', hsound, hmoves⟩ := h
  cases hr.symm.trans hr'
  refine ⟨r', lines, rfl, ?_, hmoves⟩
  exact Intake.sound_read hsound hread

theorem Tuned.decode (h : x.Tuned settings) {r : LineReader} {text : String}
    {rest : List LineItem} (hr : x.link.reader = some r)
    (hitems : r.lines.items = .line text :: rest) {l : Link}
    (hreader : l.reader = some { r with lines := { r.lines with items := rest } })
    (hboard : l.board = x.link.board) (hdecoder : l.decoder = (x.link.decoder.decode text).2) :
    Tuned settings { x with link := l, moves := x.moves ++ (x.link.decoder.decode text).1 } := by
  obtain ⟨r, lines, hr', hsound, hmoves⟩ := h
  cases hr.symm.trans hr'
  refine ⟨_, lines ++ [text], hreader, ?_, ?_⟩
  · rw [hboard, List.map_append]
    exact Intake.sound_receive hsound hitems
  · rw [Decoder.decodeAll_append, hmoves, hdecoder]
    simp [Decoder.decodeAll]

theorem Tuned.moves_isPrefix (h : x.Tuned settings) :
    x.moves <+: connectionMoves settings x.sent := by
  obtain ⟨r, lines, -, hsound, hmoves⟩ := h
  obtain ⟨later, hlater⟩ := List.IsPrefix.filterMap LineItem.text? (Intake.received_isPrefix hsound)
  rw [texts_lines] at hlater
  rw [← Intake.moves_of_due, ← hlater, Decoder.decodeAll_append, hmoves]
  exact List.prefix_append _ _

/-- A connection is lost only after all its lines were taken. -/
theorem Tuned.moves_of_lost (h : x.Tuned settings) {r : LineReader}
    (hr : x.link.reader = some r)
    (lost : (∃ e rest, r.lines.items = .failure e :: rest) ∨ r.lines.receive.1 = .ended) :
    x.moves = connectionMoves settings x.sent := by
  obtain ⟨r, lines, hr', hsound, hmoves⟩ := h
  cases hr.symm.trans hr'
  have hall : ∃ ending, (Intake.due x.sent ending).filterMap LineItem.text? = lines := by
    rcases lost with ⟨e, rest, hitems⟩ | hended
    · have hreceived := Intake.received_isPrefix (Intake.sound_receive hsound hitems)
      exact ⟨_, by rw [← Intake.texts_of_failure hreceived, texts_lines]⟩
    · obtain ⟨e, -, hreceived⟩ := Intake.received_of_ended hsound hended
      exact ⟨some e, by rw [← hreceived, texts_lines]⟩
  obtain ⟨ending, hall⟩ := hall
  rw [← Intake.moves_of_due settings x.sent ending, hall, hmoves]

/-! ## Steps on a connection -/

/-- What has become of the stream so far. -/
structure Heard (settings : DecoderSettings) (x : Listening) : Prop where
  tuned : x.link.isConnected = true → x.Tuned settings
  first : x.moves <+: connectionMoves settings x.sent
  all : ∀ resumeAt, x.link.phase = .pausing resumeAt → x.moves = connectionMoves settings x.sent

theorem Tuned.heard (h : x.Tuned settings) (hconnected : x.link.isConnected = true) :
    x.Heard settings :=
  ⟨fun _ => h, h.moves_isPrefix, fun resumeAt hphase => by
    simp [Link.isConnected, hphase] at hconnected⟩

theorem heard_step (h : x.Tuned settings) (hconnected : x.link.isConnected = true)
    {choice : LinkChoice} (hsame : x.link.observes? (.step choice) = none) {l : Link}
    (hstep : x.link.Step choice l) :
    Heard settings
      { link := l, sent := x.sent, moves := x.moves ++ x.link.decoded (.step choice) } := by
  have hnone (hline : x.link.line? (.step choice) = none) :
      x.moves ++ x.link.decoded (.step choice) = x.moves := by
    rw [Link.decoded_of_none hline, List.append_nil]
  cases hstep with
  -- there is no connection yet, or settings are looked at
  | observes hphase | fails hphase _ | opens hphase _ | resumes hphase _ =>
    simp [Link.isConnected, hphase] at hconnected
  | stops _ hphase =>
    obtain ⟨c, hphase⟩ | ⟨resumeAt, hphase⟩ := hphase <;>
      simp [Link.isConnected, hphase] at hconnected
  | adopts hphase hnews _ | reconnects hphase hnews _ =>
    simp [Link.observes?, hphase, hnews] at hsame
  | @decodes c r text rest hphase hreader hitems =>
    rw [Link.decoded_of_line (Link.line?_of_items hphase hreader hitems)]
    refine Tuned.heard ?_ rfl
    exact h.decode hreader hitems rfl rfl rfl
  | @loses c r hphase hreader hlost =>
    rw [hnone (Link.line?_of_lost hreader hlost)]
    exact ⟨fun hfalse => by simp [Link.isConnected, Link.lose] at hfalse, h.moves_isPrefix,
      fun _ _ => h.moves_of_lost hreader hlost⟩
  | delivered hphase | served hphase _ | offers hphase _ _ =>
    rw [hnone (by simp [Link.line?, hphase])]
    refine Tuned.heard ?_ rfl
    exact h.keep rfl rfl rfl
  | leaves hsignal hphase =>
    rw [hnone rfl]
    exact ⟨fun hfalse => by simp [Link.isConnected, Link.finish] at hfalse, h.moves_isPrefix,
      fun _ hpausing => by simp [Link.finish] at hpausing⟩
  | settles hphase _ _ _ =>
    rw [hnone rfl]
    refine Tuned.heard ?_ hconnected
    exact h.keep rfl rfl rfl
  | reads hreader hread =>
    rw [hnone rfl]
    exact (h.read hreader hread).heard hconnected

theorem heard_turn (h : x.Heard settings) (hquiet : x.Quiet turn)
    (hturn : x.turn? turn = some y) : y.Heard settings := by
  obtain ⟨hconnected, hsame⟩ := hquiet
  have htuned := h.tuned hconnected
  obtain ⟨l, hlink, rfl⟩ := Option.map_eq_some_iff.mp hturn
  cases turn with
  | step choice =>
    have hsent : x.sent ++ x.sends (.step choice) = x.sent := List.append_nil _
    rw [hsent]
    exact heard_step htuned hconnected hsame (Link.step_of_step? hlink)
  | board t =>
    cases hlink
    rw [Link.decoded_of_none rfl, List.append_nil]
    exact (htuned.board t).heard hconnected
  | publish _ | close | stop | subscribers _ | clock _ =>
    cases hlink
    simp only [sends, Link.decoded, Link.line?, Option.map_none, Option.getD_none, List.append_nil]
    refine Tuned.heard ?_ hconnected
    exact htuned.keep rfl rfl rfl

/-- However the bytes come and whatever happens around the link, an open connection makes the moves
    of the frames among the pieces that were sent: the first of them at any time, and all of them
    once the connection is lost.  Only the bytes of a frame are one, and a stream that breaks off
    makes the first moves of the whole one. -/
theorem moves_of_frames {l : Link} {c : Connection} {stream : Nat} {board : Board} {s : Stream}
    (hport : l.board.openPort c = (.ok stream, board)) (hs : board.streams[stream]? = some s)
    {turns : List LinkTurn} (hquiet : Run.Along turn? Quiet (start l c s) turns)
    (hrun : Run.after? turn? (start l c s) turns = some x) :
    (x.moves <+: connectionMoves l.decoder.settings x.sent ∧
      ∀ resumeAt, x.link.phase = .pausing resumeAt →
        x.moves = connectionMoves l.decoder.settings x.sent) ∧
    (∀ piece values, frame? l.decoder.settings.thresholds.maxReading piece = some values ↔
      WireFrame l.decoder.settings.thresholds.maxReading piece values) ∧
    ∀ front bytes, front <+: bytes →
      connectionMoves l.decoder.settings front <+: connectionMoves l.decoder.settings bytes := by
  have hconnected : (start l c s).link.isConnected = true := by
    simp [start, Link.openPort, hport, Link.isConnected]
  have hheard : x.Heard l.decoder.settings :=
    Run.invariant_of_step ((Tuned.start hport hs).heard hconnected)
      (fun _ _ _ hx hquiet hturn => heard_turn hx hquiet hturn) hquiet hrun
  exact ⟨⟨hheard.first, hheard.all⟩, fun _ _ => frame?_eq_some_iff,
    fun _ _ hprefix => connectionMoves_isPrefix _ hprefix⟩

/-- A frame, a frame with a damaged byte before it, and the begin of a frame. -/
theorem moves_of_frames_damaged :
    let l : Link :=
      { settings := { value := {} }, board := { script := [.stream 0], streams := [{}] }
        phase := .opening {}, decoder := .new {} }
    let turns : List LinkTurn :=
      [.board (.write 0 [49, 124, 50, 10, 255, 51, 124, 52]), .step .read, .step .read,
        .step .proceed, .board (.write 0 [10, 53]), .board (.close 0), .step .proceed,
        .step .read, .step .read, .step .read, .step .read, .step .read,
        .step .proceed, .step .proceed, .step .proceed, .step .proceed, .step .proceed,
        .step .proceed, .step .proceed]
    ∃ x ∈ Run.after? turn? (start l {} {}) turns,
      x.sent = [49, 124, 50, 10, 255, 51, 124, 52, 10, 53] ∧ x.moves.map (·.slider) = [0, 1] ∧
      x.moves = connectionMoves {} x.sent := by
  intro l turns
  have hrun : ∃ x ∈ Run.after? turn? (start l {} {}) turns,
      x.link.phase = .pausing 2000 ∧
      x.sent = [49, 124, 50, 10, 255, 51, 124, 52, 10, 53] ∧
      x.moves.map (·.slider) = [0, 1] := by decide +kernel
  have hquiet : Run.Along turn? Quiet (start l {} {}) turns := by decide +kernel
  obtain ⟨x, hx, hphase, hsent, hsliders⟩ := hrun
  have hport : l.board.openPort {} = (.ok 0, { streams := [{}], opened := [{}] }) := rfl
  have hall := moves_of_frames hport rfl hquiet hx
  exact ⟨x, hx, hsent, hsliders, hall.1.2 2000 hphase⟩

end Listening

end SliderMixer
