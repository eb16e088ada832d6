import SliderMixer.Proofs.LinkSteps
import SliderMixer.Proofs.Readings

/-! # Settings in force

New settings may come at any time, and so may a new connection.  Whatever the order, a line is
decoded under the settings that the link looked at last, and over the connection they name.

* `LinkLog`: the link with the settings it has looked at and the connections it has opened.
* `InForce`: how these fit together, and `inForce_turn`: every turn keeps it so.
* `decodes_in_force`: what that means for the next line.
-/

namespace SliderMixer

/-- The values of the frame that the turn takes in. -/
def Link.frame? (l : Link) (turn : LinkTurn) : Option (List Nat) :=
  (l.line? turn).bind fun text => Frame.parse? text l.decoder.settings.thresholds.maxReading

/-- The connection that the link has open or is about to open. -/
def Link.connection? (l : Link) : Option Connection :=
  match l.phase with
  | .opening c | .reading c | .delivering c _ _ => some c
  | .observing | .pausing _ | .ended => none

structure LinkLog where
  link : Link
  /-- The settings looked at, oldest first. -/
  observed : List LinkSettings := []
  /-- The connections opened, oldest first. -/
  opened : List Connection := []
  /-- The frames since the link last looked at settings or opened a connection. -/
  frames : List (List Nat) := []

namespace LinkLog

/-- Notes what the turn did, that led to `link`. -/
def next (x : LinkLog) (turn : LinkTurn) (link : Link) : LinkLog :=
  { link
    observed := x.observed ++ (x.link.observes? turn).toList
    opened := x.opened ++ (x.link.opens? turn).toList
    frames :=
      if (x.link.observes? turn).isSome || (x.link.opens? turn).isSome then []
      else x.frames ++ (x.link.frame? turn).toList }

def turn? (x : LinkLog) (turn : LinkTurn) : Option LinkLog :=
  (x.link.turn? turn).map (x.next turn)

/-- The settings last looked at are those of the decoder and of the connection, and all that the
    decoder knows is from this connection and these settings. -/
structure InForce (x : LinkLog) : Prop where
  agreed : ∀ c ∈ x.link.connection?, ∃ s, x.observed.getLast? = some s ∧
    s.connection = c ∧ x.link.decoder.settings = s.decoder
  opened : x.link.isConnected = true → x.opened.getLast? = x.link.connection?
  settled : x.link.isConnected = true → x.link.decoder.Settled
  fresh : x.link.isConnected = true → x.frames = [] → x.link.decoder.sliders = []

variable {x y : LinkLog} {turn : LinkTurn}

/-! ## Steps -/

/-- Nothing is in force without a connection. -/
theorem inForce_of_none (h : x.link.connection? = none) : x.InForce := by
  have hconnected : x.link.isConnected = false := by
    cases hphase : x.link.phase <;> simp [Link.connection?, hphase] at h <;>
      simp [Link.isConnected, hphase]
  exact ⟨by simp [h], by simp [hconnected], by simp [hconnected], by simp [hconnected]⟩

/-- Neither the connection nor the decoder changes. -/
theorem InForce.keep (h : x.InForce) {l : Link} (hphase : l.connection? = x.link.connection?)
    (hconnected : l.isConnected = x.link.isConnected) (hdecoder : l.decoder = x.link.decoder) :
    InForce { x with link := l } := by
  refine ⟨?_, ?_, ?_, ?_⟩
  · rw [hphase, hdecoder]
    exact h.agreed
  · rw [hphase, hconnected]
    exact h.opened
  · rw [hconnected, hdecoder]
    exact h.settled
  · rw [hconnected, hdecoder]
    exact h.fresh

theorem InForce.decode (h : x.InForce) {c : Connection} (hphase : x.link.phase = .reading c)
    (text : String) {l : Link} {moves : List Move} (hl : l.phase = .delivering c moves 0)
    (hdecoder : l.decoder = (x.link.decoder.decode text).2) :
    InForce { x with
      link := l
      frames := x.frames ++
        (Frame.parse? text x.link.decoder.settings.thresholds.maxReading).toList } := by
  have hopen : x.link.isConnected = true := by simp [Link.isConnected, hphase]
  have hsame : l.connection? = x.link.connection? := by simp [Link.connection?, hl, hphase]
  have hconnected : l.isConnected = x.link.isConnected := by simp [Link.isConnected, hl, hphase]
  cases hparse : Frame.parse text.toList x.link.decoder.settings.thresholds.maxReading with
  | error e =>
    -- the line does nothing, and does not count as the first frame
    rw [Decoder.decode_of_error hparse] at hdecoder
    simpa [Frame.parse?, hparse, Except.toOption] using h.keep hsame hconnected hdecoder
  | ok values =>
    rw [Decoder.decode_of_ok hparse] at hdecoder
    refine ⟨?_, ?_, fun _ => ?_, fun _ hnone => ?_⟩
    · rw [hsame, hdecoder, Decoder.settings_take]
      exact h.agreed
    · rw [hsame, hconnected]
      exact h.opened
    · rw [hdecoder]
      exact (h.settled hopen).take
    · simp [Frame.parse?, hparse, Except.toOption] at hnone

/-- A decoder that was just reset knows nothing. -/
theorem inForce_of_reset {l : Link} {c : Connection} {s : LinkSettings}
    {observed : List LinkSettings} {opened : List Connection} (hphase : l.phase = .reading c)
    (hobserved : observed.getLast? = some s) (hopened : opened.getLast? = some c)
    (hconnection : s.connection = c) (hsettings : l.decoder.settings = s.decoder)
    (hsliders : l.decoder.sliders = []) :
    InForce { link := l, observed, opened } := by
  have hsame : l.connection? = some c := by simp [Link.connection?, hphase]
  refine ⟨fun c' hc' => ?_, fun _ => hopened.trans hsame.symm,
    fun _ => Decoder.settled_of_sliders_eq_nil hsliders, fun _ _ => hsliders⟩
  cases hsame.symm.trans hc'
  exact ⟨s, hobserved, hconnection, hsettings⟩

theorem next_of_none {l : Link} (hobserves : x.link.observes? turn = none)
    (hopens : x.link.opens? turn = none) (hline : x.link.line? turn = none) :
    x.next turn l = { x with link := l } := by
  simp [next, hobserves, hopens, Link.frame?, hline]

theorem inForce_step (h : x.InForce) {choice : LinkChoice} {l : Link}
    (hstep : x.link.Step choice l) : (x.next (.step choice) l).InForce := by
  cases hstep with
  | observes hphase =>
    refine ⟨?_, ?_, ?_, ?_⟩
    · simp [next, Link.observe, Link.connection?, Link.observes?, hphase, Decoder.setSettings]
    all_goals
      intro hconnected
      simp [next, Link.observe, Link.isConnected] at hconnected
  | fails | resumes | loses | stops | leaves | reconnects => exact inForce_of_none rfl
  | @opens c stream board hphase hport =>
    -- no settings were looked at since the link chose this port
    obtain ⟨s, hobserved, hconnection, hsettings⟩ := h.agreed c (by simp [Link.connection?, hphase])
    have hnext (l : Link) : x.next (.step .proceed) l =
        { link := l, observed := x.observed, opened := x.opened ++ [c] } := by
      simp [next, Link.observes?, Link.opens?, hphase, hport]
    rw [hnext]
    exact inForce_of_reset rfl hobserved List.getLast?_concat hconnection hsettings rfl
  | @decodes c r text rest hphase hreader hitems =>
    have hline := Link.line?_of_items hphase hreader hitems
    have hnext (l : Link) : x.next (.step .proceed) l =
        { x with
          link := l
          frames := x.frames ++
            (Frame.parse? text x.link.decoder.settings.thresholds.maxReading).toList } := by
      simp [next, Link.observes?, Link.opens?, hphase, Link.frame?, hline]
    rw [hnext]
    exact h.decode hphase text rfl rfl
  | delivered hphase | served hphase _ | offers hphase _ _ =>
    rw [next_of_none (by simp [Link.observes?, hphase]) (by simp [Link.opens?, hphase])
      (by simp [Link.line?, hphase])]
    refine h.keep ?_ ?_ rfl <;> simp [Link.connection?, Link.isConnected, hphase]
  | @adopts c hphase hnews hsame =>
    have hnext (l : Link) : x.next (.step .notice) l =
        { link := l, observed := x.observed ++ [x.link.settings.value], opened := x.opened } := by
      simp [next, Link.observes?, Link.opens?, hphase, hnews]
    rw [hnext]
    -- the new settings name the connection that is open
    have hopened : x.opened.getLast? = some c := by
      rw [h.opened (by simp [Link.isConnected, hphase])]
      simp [Link.connection?, hphase]
    exact inForce_of_reset hphase List.getLast?_concat hopened hsame rfl rfl
  | settles hphase hnews hclosed hunsettled =>
    rw [next_of_none (by simp [Link.observes?, hphase, hnews]) rfl rfl]
    exact h.keep rfl rfl rfl
  | reads hreader hread =>
    rw [next_of_none rfl rfl rfl]
    exact h.keep rfl rfl rfl

theorem inForce_turn (h : x.InForce) (hturn : x.turn? turn = some y) : y.InForce := by
  obtain ⟨l, hlink, rfl⟩ := Option.map_eq_some_iff.mp hturn
  cases turn with
  | step choice => exact inForce_step h (Link.step_of_step? hlink)
  | publish _ | close | stop | board _ | subscribers _ | clock _ =>
    cases hlink
    rw [next_of_none rfl rfl rfl]
    exact h.keep rfl rfl rfl

/-! ## Lines -/

def start (settings : LinkSettings) (board : Board) (timing : LinkTiming) (subscribers : Nat) :
    LinkLog :=
  { link := .new settings board timing subscribers }

/-- After any turns: when a line is decoded, the decoder has the settings that the link looked at
    last, the connection last opened is the one of these settings and is the one that is read, and
    before and after the line all that the decoder knows are readings with their volumes under these
    settings.  If the line is the first frame since a connection was opened and since settings were
    looked at, every value of it makes a move. -/
theorem decodes_in_force {settings : LinkSettings} {board : Board} {timing : LinkTiming}
    {subscribers : Nat} {turns : List LinkTurn}
    (hrun : Run.after? turn? (start settings board timing subscribers) turns = some x)
    {text : String} (hline : x.link.line? turn = some text) :
    ∃ s y, x.turn? turn = some y ∧ y.link.decoder = (x.link.decoder.decode text).2 ∧
      x.observed.getLast? = some s ∧ x.opened.getLast? = some s.connection ∧
      x.link.phase = .reading s.connection ∧ x.link.decoder.settings = s.decoder ∧
      y.link.decoder.settings = s.decoder ∧
      x.link.decoder.Settled ∧ y.link.decoder.Settled ∧
      ∀ values, x.link.frame? turn = some values → x.frames = [] →
        (x.link.decoded turn).map (·.slider) = List.range values.length := by
  have h : x.InForce :=
    Run.invariant (inForce_of_none rfl) (fun _ _ _ hx hturn => inForce_turn hx hturn) hrun
  obtain ⟨rfl, c, r, rest, hphase, hreader, hitems⟩ := Link.line?_eq_some hline
  have hconnection : x.link.connection? = some c := by simp [Link.connection?, hphase]
  have hconnected : x.link.isConnected = true := by simp [Link.isConnected, hphase]
  obtain ⟨s, hobserved, rfl, hsettings⟩ := h.agreed c hconnection
  have hturn : x.link.turn? (.step .proceed) = some { x.link with
      decoder := (x.link.decoder.decode text).2
      reader := some { r with lines := { r.lines with items := rest } }
      phase := .delivering s.connection (x.link.decoder.decode text).1 0 } := by
    simp [Link.turn?, Link.step?, Link.proceed?, hphase, Link.takeLine?, hreader,
      Mailbox.receive, hitems]
  have hnext : x.turn? (.step .proceed) = some (x.next (.step .proceed) _) :=
    Option.map_eq_some_iff.mpr ⟨_, hturn, rfl⟩
  refine ⟨s, _, hnext, rfl, hobserved, (h.opened hconnected).trans hconnection, hphase, hsettings,
    ?_, h.settled hconnected, (inForce_turn h hnext).settled rfl, fun values hframe hfirst => ?_⟩
  · exact (Decoder.settings_decode _ _).trans hsettings
  · simp only [Link.frame?, hline, Option.bind_some, Frame.parse?_eq_some_iff] at hframe
    have hnone : x.link.decoder.sliders = [] := h.fresh hconnected hfirst
    have hcount : values.length ≠ x.link.decoder.sliderCount := by
      simpa [Decoder.sliderCount, hnone] using Frame.ne_nil_of_parse hframe
    rw [Link.decoded_of_line hline, Decoder.decode_of_ok hframe]
    exact Observed.sliders_take_of_new_count (o := { decoder := x.link.decoder }) hcount

/-- While a frame is given out, settings with another port come, and then some with the first port
    again and another direction; the link looks at the latter only, and the connection stays. -/
theorem decodes_in_force_coalesced :
    let board : Board := { script := [.stream 0], streams := [{}] }
    let there : LinkSettings := { connection := { port := "there" } }
    let turned : LinkSettings := { decoder := { invert := true } }
    let turns : List LinkTurn :=
      [.step .proceed, .step .proceed, .board (.write 0 [53, 10, 55, 10]), .step .read, .step .read,
        .step .read, .step .proceed, .publish there, .publish turned, .step .proceed,
        .step .proceed, .step .notice]
    ∃ x ∈ Run.after? turn? (start {} board {} 0) turns,
      x.link.line? (.step .proceed) = some "7\n" ∧ x.opened = [{}] ∧
      x.observed = [{}, turned] ∧ x.link.decoder.settings.invert = true ∧
      (x.link.decoded (.step .proceed)).map (·.slider) = [0] := by
  intro board there turned turns
  have hrun : ∃ x ∈ Run.after? turn? (start {} board {} 0) turns,
      x.link.line? (.step .proceed) = some "7\n" ∧ x.opened = [{}] ∧ x.observed = [{}, turned] ∧
      x.link.frame? (.step .proceed) = some [7] ∧ x.frames = [] := by decide +kernel
  obtain ⟨x, hx, hline, hopened, hobserved, hframe, hfirst⟩ := hrun
  obtain ⟨s, y, -, -, hlast, -, -, hsettings, -, -, -, hmoves⟩ := decodes_in_force hx hline
  obtain rfl : turned = s := by simpa [hobserved] using hlast
  exact ⟨x, hx, hline, hopened, hobserved, by rw [hsettings], hmoves [7] hframe hfirst⟩

end LinkLog

end SliderMixer
