import SliderMixer.Link
import SliderMixer.Proofs.Intake

/-! # Steps of the link

* `Link.Step`: every step that the link can take, with the state in which it is taken.
* `LinkTurn`: the steps of the link and all that happens around it, in any order.
* `line?`, `observes?` and `opens?`: what a turn decodes, looks at, and opens.
-/

namespace SliderMixer

namespace Link

/-! ## Single steps -/

inductive Step (l : Link) : LinkChoice → Link → Prop where
  | observes (phase : l.phase = .observing) : Step l .proceed l.observe
  | fails {c : Connection} {e : LinkError} {board : Board} (phase : l.phase = .opening c)
      (port : l.board.openPort c = (.error e, board)) :
      Step l .proceed { l with board, phase := .pausing (l.now + l.timing.retry) }
  | opens {c : Connection} {stream : Nat} {board : Board} (phase : l.phase = .opening c)
      (port : l.board.openPort c = (.ok stream, board)) :
      Step l .proceed { (l.publish (.connected c.port)) with
        board
        decoder := l.decoder.reset
        reader := some { stream }
        phase := .reading c }
  | resumes {resumeAt : Nat} (phase : l.phase = .pausing resumeAt) (due : resumeAt ≤ l.now) :
      Step l .proceed { l with phase := .observing }
  | decodes {c : Connection} {r : LineReader} {text : String} {rest : List LineItem}
      (phase : l.phase = .reading c) (reader : l.reader = some r)
      (items : r.lines.items = .line text :: rest) :
      Step l .proceed { l with
        decoder := (l.decoder.decode text).2
        reader := some { r with lines := { r.lines with items := rest } }
        phase := .delivering c (l.decoder.decode text).1 0 }
  | loses {c : Connection} {r : LineReader} (phase : l.phase = .reading c)
      (reader : l.reader = some r)
      (lost : (∃ e rest, r.lines.items = .failure e :: rest) ∨ r.lines.receive.1 = .ended) :
      Step l .proceed l.lose
  | delivered {c : Connection} {served : Nat} (phase : l.phase = .delivering c [] served) :
      Step l .proceed { l with phase := .reading c }
  | served {c : Connection} {move : Move} {rest : List Move} {served : Nat}
      (phase : l.phase = .delivering c (move :: rest) served)
      (all : l.subscribers[served]? = none) :
      Step l .proceed { l with phase := .delivering c rest 0 }
  | offers {c : Connection} {move : Move} {rest : List Move} {served : Nat} {m : Mailbox Move}
      (phase : l.phase = .delivering c (move :: rest) served)
      (next : l.subscribers[served]? = some m)
      (free : m.receiverGone = true ∨ m.hasRoom = true) :
      Step l .proceed { l with
        subscribers := l.subscribers.set served (m.offer move).2
        phase := .delivering c (move :: rest) (served + 1) }
  | stops (signal : l.stop = true)
      (phase : (∃ c, l.phase = .opening c) ∨ ∃ resumeAt, l.phase = .pausing resumeAt) :
      Step l .stop l.finish
  | leaves {c : Connection} (signal : l.stop = true) (phase : l.phase = .reading c) :
      Step l .stop l.leave.finish
  | adopts {c : Connection} (phase : l.phase = .reading c) (news : l.settings.news l.seen = true)
      (same : l.settings.value.connection = c) :
      Step l .notice { l with
        decoder := (l.decoder.setSettings l.settings.value.decoder).reset
        seen := l.settings.version }
  | reconnects {c : Connection} (phase : l.phase = .reading c)
      (news : l.settings.news l.seen = true) (other : l.settings.value.connection ≠ c) :
      Step l .notice { ({ l with
        decoder := (l.decoder.setSettings l.settings.value.decoder).reset
        seen := l.settings.version } : Link).leave with phase := .observing }
  | settles {c : Connection} (phase : l.phase = .reading c)
      (news : l.settings.news l.seen = false) (closed : l.settings.closed = true)
      (unsettled : l.settled = false) : Step l .notice { l with settled := true }
  | reads {r r' : LineReader} {board : Board} (reader : l.reader = some r)
      (read : r.step? l.board = some (r', board)) :
      Step l .read { l with reader := some r', board }

variable {l l' : Link}

theorem step_of_openPort {c : Connection} (hphase : l.phase = .opening c) :
    l.Step .proceed (l.openPort c) := by
  unfold openPort
  rcases hport : l.board.openPort c with ⟨e | stream, board⟩
  · exact .fails hphase hport
  · exact .opens hphase hport

theorem step_of_takeLine? {c : Connection} (hphase : l.phase = .reading c)
    (h : l.takeLine? c = some l') : l.Step .proceed l' := by
  unfold takeLine? at h
  split at h
  · cases h
  next r hreader =>
  cases hitems : r.lines.items with
  | nil =>
    cases hgone : r.lines.senderGone
    · simp [Mailbox.receive, hitems, hgone] at h
    · have hended : r.lines.receive.1 = .ended := by simp [Mailbox.receive, hitems, hgone]
      simp only [Mailbox.receive, hitems, hgone, if_true, Option.some.injEq] at h
      exact h ▸ .loses hphase hreader (.inr hended)
  | cons item rest =>
    simp only [Mailbox.receive, hitems] at h
    cases item with
    | line text =>
      simp only [Option.some.injEq] at h
      exact h ▸ .decodes hphase hreader hitems
    | failure e =>
      simp only [Option.some.injEq] at h
      exact h ▸ .loses hphase hreader (.inl ⟨e, rest, hitems⟩)

theorem step_of_deliver? {c : Connection} {moves : List Move} {n : Nat}
    (hphase : l.phase = .delivering c moves n) (h : l.deliver? c moves n = some l') :
    l.Step .proceed l' := by
  unfold deliver? at h
  split at h
  · simp only [Option.some.injEq] at h
    exact h ▸ .delivered hphase
  next move rest =>
  split at h
  · next hall =>
    simp only [Option.some.injEq] at h
    exact h ▸ .served hphase hall
  next m hnext =>
  split at h
  · next hfree =>
    simp only [Option.some.injEq] at h
    exact h ▸ .offers hphase hnext ((Bool.or_eq_true _ _).mp hfree)
  · cases h

theorem step_of_notice? (h : l.notice? = some l') : l.Step .notice l' := by
  unfold notice? at h
  split at h <;> try cases h
  next c hphase =>
  split at h
  · next hnews =>
    simp only [Option.some.injEq] at h
    split at h
    · next hsame => exact h ▸ .adopts hphase hnews hsame
    · next hother => exact h ▸ .reconnects hphase hnews hother
  next hnews =>
  split at h
  · next hclosed =>
    simp only [Bool.and_eq_true, Bool.not_eq_true'] at hclosed
    simp only [Option.some.injEq] at h
    exact h ▸ .settles hphase (Bool.eq_false_iff.mpr hnews) hclosed.1 hclosed.2
  · cases h

theorem step_of_step? {choice : LinkChoice} (h : l.step? choice = some l') : l.Step choice l' := by
  cases choice with
  | stop =>
    simp only [step?, Option.ite_none_right_eq_some] at h
    obtain ⟨hsignal, h⟩ := h
    unfold stop? at h
    split at h <;> cases h
    · next c hphase => exact .stops hsignal (.inl ⟨c, hphase⟩)
    · next resumeAt hphase => exact .stops hsignal (.inr ⟨resumeAt, hphase⟩)
    · next c hphase => exact .leaves hsignal hphase
  | notice => exact step_of_notice? h
  | proceed =>
    simp only [step?, proceed?] at h
    split at h
    · next hphase =>
      cases h
      exact .observes hphase
    · next c hphase =>
      cases h
      exact step_of_openPort hphase
    · next resumeAt hphase =>
      simp only [Option.ite_none_right_eq_some, Option.some.injEq] at h
      obtain ⟨hdue, rfl⟩ := h
      exact .resumes hphase hdue
    · next c hphase => exact step_of_takeLine? hphase h
    · next c moves n hphase => exact step_of_deliver? hphase h
    · cases h
  | read =>
    simp only [step?, read?] at h
    split at h
    · cases h
    next r hreader =>
    obtain ⟨⟨r', board⟩, hread, rfl⟩ := Option.map_eq_some_iff.mp h
    exact .reads hreader hread

theorem step?_of_step {choice : LinkChoice} (h : l.Step choice l') : l.step? choice = some l' := by
  cases h with
  | observes hphase => simp [step?, proceed?, hphase]
  | fails hphase hport | opens hphase hport => simp [step?, proceed?, hphase, openPort, hport]
  | resumes hphase hdue => simp [step?, proceed?, hphase, hdue]
  | decodes hphase hreader hitems =>
    simp [step?, proceed?, hphase, takeLine?, hreader, Mailbox.receive, hitems]
  | @loses c r hphase hreader hlost =>
    simp only [step?, proceed?, hphase, takeLine?, hreader]
    obtain ⟨e, rest, hitems⟩ | hended := hlost
    · simp [Mailbox.receive, hitems]
    · rw [show r.lines.receive = (.ended, r.lines.receive.2) from Prod.ext hended rfl]
  | delivered hphase => simp [step?, proceed?, hphase, deliver?]
  | served hphase hall => simp [step?, proceed?, hphase, deliver?, hall]
  | offers hphase hnext hfree => simp [step?, proceed?, hphase, deliver?, hnext, hfree]
  | stops hsignal hphase =>
    obtain ⟨c, hphase⟩ | ⟨resumeAt, hphase⟩ := hphase <;> simp [step?, hsignal, stop?, hphase]
  | leaves hsignal hphase => simp [step?, hsignal, stop?, hphase]
  | adopts hphase hnews hsame => simp [step?, notice?, hphase, hnews, hsame]
  | reconnects hphase hnews hother => simp [step?, notice?, hphase, hnews, hother]
  | settles hphase hnews hclosed hunsettled =>
    simp [step?, notice?, hphase, hnews, hclosed, hunsettled]
  | reads hreader hread => simp [step?, read?, hreader, hread]

theorem settings_step {choice : LinkChoice} (h : l.Step choice l') : l'.settings = l.settings := by
  cases h <;> rfl

theorem Step.stop {choice : LinkChoice} (h : l.Step choice l') : l'.stop = l.stop := by
  cases h <;> rfl

/-- There is no second subscriber. -/
theorem only_subscriber {m m' : Mailbox Move} {served : Nat} (hm : l.subscribers = [m])
    (hserved : l.subscribers[served]? = some m') : served = 0 ∧ m' = m := by
  cases served with
  | zero => exact ⟨rfl, by simpa [hm, eq_comm] using hserved⟩
  | succ n => simp [hm] at hserved

end Link

/-! ## Turns -/

/-- What can happen next. -/
inductive LinkTurn where
  | step (choice : LinkChoice)
  | publish (settings : LinkSettings)
  /-- No settings will come any more. -/
  | close
  | stop
  | board (turn : BoardTurn)
  /-- The subscribers do what they like with their mailboxes. -/
  | subscribers (mailboxes : List (Mailbox Move))
  | clock (now : Nat)
  deriving DecidableEq

namespace Link

variable {l : Link}

def turn? (l : Link) : LinkTurn → Option Link
  | .step choice => l.step? choice
  | .publish settings => some { l with settings := l.settings.send settings }
  | .close => some { l with settings := l.settings.close }
  | .stop => some { l with stop := true }
  | .board turn => some { l with board := l.board.turn turn }
  | .subscribers mailboxes => some { l with subscribers := mailboxes }
  | .clock now => some { l with now }

/-- Lines can come from the port. -/
def isConnected (l : Link) : Bool :=
  match l.phase with
  | .reading _ | .delivering .. => true
  | .observing | .opening _ | .pausing _ | .ended => false

/-- The line that the turn decodes. -/
def line? (l : Link) : LinkTurn → Option String
  | .step .proceed =>
    match l.phase, l.reader with
    | .reading _, some r =>
      match r.lines.items with
      | .line text :: _ => some text
      | .failure _ :: _ | [] => none
    | _, _ => none
  | _ => none

/-- The moves that the turn finds in its line. -/
def decoded (l : Link) (turn : LinkTurn) : List Move :=
  ((l.line? turn).map fun text => (l.decoder.decode text).1).getD []

theorem decoded_of_line {turn : LinkTurn} {text : String} (h : l.line? turn = some text) :
    l.decoded turn = (l.decoder.decode text).1 := by
  simp [decoded, h]

theorem decoded_of_none {turn : LinkTurn} (h : l.line? turn = none) : l.decoded turn = [] := by
  simp [decoded, h]

theorem line?_eq_some {turn : LinkTurn} {text : String} (h : l.line? turn = some text) :
    turn = .step .proceed ∧ ∃ c r rest, l.phase = .reading c ∧ l.reader = some r ∧
      r.lines.items = .line text :: rest := by
  unfold line? at h
  split at h
  · split at h
    · next c r hphase hreader =>
      split at h
      · next line rest hitems =>
        cases h
        exact ⟨rfl, c, r, rest, hphase, hreader, hitems⟩
      all_goals cases h
    · cases h
  · cases h

theorem line?_of_items {c : Connection} {r : LineReader} {text : String} {rest : List LineItem}
    (hphase : l.phase = .reading c) (hreader : l.reader = some r)
    (hitems : r.lines.items = .line text :: rest) : l.line? (.step .proceed) = some text := by
  simp [line?, hphase, hreader, hitems]

/-- Where the connection gets lost, there is no line. -/
theorem line?_of_lost {turn : LinkTurn} {r : LineReader} (hreader : l.reader = some r)
    (hlost : (∃ e rest, r.lines.items = .failure e :: rest) ∨ r.lines.receive.1 = .ended) :
    l.line? turn = none := by
  refine Option.eq_none_iff_forall_ne_some.mpr fun text hline => ?_
  obtain ⟨-, c, r', rest, -, hreader', hitems⟩ := line?_eq_some hline
  cases hreader.symm.trans hreader'
  rcases hlost with ⟨e, rest', hitems'⟩ | hended
  · simp [hitems] at hitems'
  · simp [Mailbox.receive, hitems] at hended

/-- The settings that the turn makes the link look at. -/
def observes? (l : Link) : LinkTurn → Option LinkSettings
  | .step .proceed =>
    match l.phase with
    | .observing => some l.settings.value
    | .opening _ | .pausing _ | .reading _ | .delivering .. | .ended => none
  | .step .notice =>
    match l.phase with
    | .reading _ => if l.settings.news l.seen then some l.settings.value else none
    | .observing | .opening _ | .pausing _ | .delivering .. | .ended => none
  | _ => none

theorem observes?_eq_some {turn : LinkTurn} {s : LinkSettings} (h : l.observes? turn = some s) :
    s = l.settings.value := by
  unfold observes? at h
  split at h
  · split at h <;> cases h
    rfl
  · split at h
    · simp only [Option.ite_none_right_eq_some, Option.some.injEq] at h
      exact h.2.symm
    all_goals cases h
  · cases h

/-- The connection that the turn opens. -/
def opens? (l : Link) : LinkTurn → Option Connection
  | .step .proceed =>
    match l.phase with
    | .opening c =>
      match (l.board.openPort c).1 with
      | .ok _ => some c
      | .error _ => none
    | .observing | .pausing _ | .reading _ | .delivering .. | .ended => none
  | _ => none

end Link

end SliderMixer
