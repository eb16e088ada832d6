import SliderMixer.Proofs.LinkSteps
import SliderMixer.Proofs.Run

/-! # States of the connection

The link tells when it has a connection and when it has none any more.  However the attempts to open
the port go, and however a connection comes to its end, what it tells alternates.

* `LinkEvent` is what is noted about the link, and `LinkDiary` the link with all that was noted.
* `Contact.after?`: which event may follow in which state of a connection; `Link.noted_step`: the
  events of every step do.
* `Contact.Told`: what such events tell; `told_of_run` and what follows it: where they stand.
* `LinkDiary.states_alternate`: so it is in every run of the link.
-/

namespace SliderMixer

/-! ## Events -/

inductive LinkEvent where
  /-- An attempt to open the port succeeded. -/
  | opened (c : Connection)
  /-- An attempt to open the port failed. -/
  | refused (c : Connection)
  | decoded (text : String)
  | told (s : LinkState)
  deriving DecidableEq

def LinkEvent.told? : LinkEvent → Option LinkState
  | told s => some s
  | opened _ | refused _ | decoded _ => none

namespace Link

/-- The connection that the turn tries in vain to open. -/
def refuses? (l : Link) : LinkTurn → Option Connection
  | .step .proceed =>
    match l.phase with
    | .opening c =>
      match (l.board.openPort c).1 with
      | .ok _ => none
      | .error _ => some c
    | .observing | .pausing _ | .reading _ | .delivering .. | .ended => none
  | _ => none

/-- What is noted of a turn that leads to `l'`. -/
def noted (l : Link) (turn : LinkTurn) (l' : Link) : List LinkEvent :=
  (l.opens? turn).toList.map .opened ++ (l.refuses? turn).toList.map .refused ++
    (l.line? turn).toList.map .decoded ++ (l'.states.drop l.states.length).map .told

end Link

/-! ## Order of the events -/

/-- How far a connection has come. -/
inductive Contact where
  | apart
  /-- The port is open, and this has not been told. -/
  | opened (c : Connection)
  | told
  deriving DecidableEq

def Contact.after? : Contact → LinkEvent → Option Contact
  | apart, .opened c => some (opened c)
  | apart, .refused _ => some apart
  | opened c, .told (.connected port) => if port = c.port then some told else none
  | told, .decoded _ => some told
  | told, .told .disconnected => some apart
  | _, _ => none

inductive Contact.Follows : Contact → LinkEvent → Contact → Prop where
  | opened (c : Connection) : Follows .apart (.opened c) (.opened c)
  | refused (c : Connection) : Follows .apart (.refused c) .apart
  | joined (c : Connection) : Follows (.opened c) (.told (.connected c.port)) .told
  | decoded (text : String) : Follows .told (.decoded text) .told
  | parted : Follows .told (.told .disconnected) .apart

theorem Contact.follows_of_after? {u v : Contact} {e : LinkEvent} (h : u.after? e = some v) :
    u.Follows e v := by
  unfold after? at h
  split at h
  · cases h
    exact .opened _
  · cases h
    exact .refused _
  · simp only [Option.ite_none_right_eq_some, Option.some.injEq] at h
    obtain ⟨rfl, rfl⟩ := h
    exact .joined _
  · cases h
    exact .decoded _
  · cases h
    exact .parted
  · cases h

namespace Link

def contact (l : Link) : Contact := if l.isConnected then .told else .apart

theorem contact_ne_opened (l : Link) (c : Connection) : l.contact ≠ .opened c := by
  unfold contact
  split <;> simp

theorem contact_of_hasEnded {l : Link} (h : l.hasEnded = true) : l.contact = .apart := by
  have hphase : l.phase = .ended := by simpa [hasEnded] using h
  simp [contact, isConnected, hphase]

variable {l l' : Link}

/-- Nothing is told where nothing is noted. -/
theorem noted_of_none {turn : LinkTurn} (hopens : l.opens? turn = none)
    (hrefuses : l.refuses? turn = none) (hline : l.line? turn = none)
    (hstates : l'.states = l.states) (hcontact : l'.contact = l.contact) :
    l.states <+: l'.states ∧
      Run.after? Contact.after? l.contact (l.noted turn l') = some l'.contact := by
  simp [noted, hopens, hrefuses, hline, hstates, hcontact]

theorem noted_step {choice : LinkChoice} (h : l.Step choice l') :
    l.states <+: l'.states ∧
      Run.after? Contact.after? l.contact (l.noted (.step choice) l') = some l'.contact := by
  cases h with
  | observes hphase | resumes hphase _ | delivered hphase | served hphase _ | offers hphase _ _ =>
    apply noted_of_none <;>
      simp [observe, opens?, refuses?, line?, contact, isConnected, hphase]
  | fails hphase hport =>
    simp [noted, opens?, refuses?, line?, contact, isConnected, hphase, hport, Contact.after?]
  | opens hphase hport =>
    simp [noted, opens?, refuses?, line?, contact, isConnected, hphase, hport, publish,
      Contact.after?]
  | decodes hphase hreader hitems =>
    simp [noted, opens?, refuses?, line?, contact, isConnected, hphase, hreader, hitems,
      Contact.after?]
  | loses hphase hreader hlost =>
    simp [noted, opens?, refuses?, line?_of_lost hreader hlost, contact, isConnected, hphase, lose,
      leave, publish, Contact.after?]
  | stops hsignal hphase =>
    obtain ⟨c, hphase⟩ | ⟨resumeAt, hphase⟩ := hphase <;> apply noted_of_none <;>
      simp [opens?, refuses?, line?, contact, isConnected, hphase, finish]
  | leaves hsignal hphase | reconnects hphase _ _ =>
    simp [noted, opens?, refuses?, line?, contact, isConnected, hphase, finish, leave, publish,
      Contact.after?]
  | adopts _ _ _ | settles _ _ _ _ | reads _ _ => exact noted_of_none rfl rfl rfl rfl rfl

theorem noted_turn {turn : LinkTurn} (h : l.turn? turn = some l') :
    l.states <+: l'.states ∧
      Run.after? Contact.after? l.contact (l.noted turn l') = some l'.contact := by
  cases turn with
  | step choice => exact noted_step (step_of_step? h)
  | _ =>
    cases h
    exact noted_of_none rfl rfl rfl rfl rfl

end Link

/-! ## What is told -/

namespace Contact

/-- What has been told by now. -/
structure Told (contact : Contact) (states : List LinkState) : Prop where
  alternates : ∀ k s, states[k]? = some s → (s = .disconnected ↔ k % 2 = 1)
  last : contact = told ↔ states.length % 2 = 1
  balance : states.countP (· != .disconnected) =
    states.count .disconnected + if contact = told then 1 else 0

variable {contact contact' : Contact} {events : List LinkEvent}

theorem told_start : Told apart [] := ⟨by simp, by simp, rfl⟩

theorem Told.append {states : List LinkState} {s : LinkState} (h : contact.Told states)
    (hs : s = .disconnected ↔ contact = told) (hnext : contact' = told ↔ contact ≠ told) :
    contact'.Told (states ++ [s]) where
  alternates := by
    intro k t ht
    rw [List.getElem?_append] at ht
    split at ht
    · exact h.alternates k t ht
    · simp only [List.getElem?_singleton, Option.ite_none_right_eq_some, Option.some.injEq] at ht
      obtain ⟨hk, rfl⟩ := ht
      have hk : k = states.length := by omega
      rw [hs, h.last, hk]
  last := by
    rw [hnext, Ne, h.last, List.length_append, List.length_singleton]
    omega
  balance := by
    have hbalance := h.balance
    by_cases hcontact : contact = told
    · have hs := hs.mpr hcontact
      simp_all
    · have hs := mt hs.mp hcontact
      simp_all

theorem Told.keep {states : List LinkState} (h : contact.Told states)
    (hsame : contact' = told ↔ contact = told) : contact'.Told states where
  alternates := h.alternates
  last := hsame.trans h.last
  balance := by simp [h.balance, hsame]

theorem Told.last_connected {states : List LinkState} (h : Told told states) :
    ∃ port, states.getLast? = some (.connected port) := by
  have hlength : states.length % 2 = 1 := h.last.mp rfl
  obtain ⟨s, hs⟩ : ∃ s, states.getLast? = some s := by
    cases hlast : states.getLast? with
    | some s => exact ⟨s, rfl⟩
    | none => simp [List.getLast?_eq_none_iff.mp hlast] at hlength
  have hk := h.alternates _ s (List.getLast?_eq_getElem? ▸ hs)
  cases s with
  | connected port => exact ⟨port, hs⟩
  | disconnected =>
    have hk := hk.mp rfl
    omega

/-- What is noted makes what is told. -/
theorem told_of_run (run : Run.after? after? apart events = some contact) :
    contact.Told (events.filterMap LinkEvent.told?) := by
  refine Run.invariant_of_history (Q := fun _ _ => True)
    (P := fun events contact => contact.Told (events.filterMap LinkEvent.told?)) told_start ?_
    (Run.along_of_forall (fun _ _ => trivial) _ _) run
  intro front u e v _ h _ hstep
  rw [List.filterMap_append]
  cases follows_of_after? hstep with
  | opened _ | refused _ | decoded _ =>
    rw [List.filterMap_cons_none rfl, List.filterMap_nil, List.append_nil]
    exact h.keep (by simp)
  | joined _ | parted => exact h.append (by simp) (by simp)

/-- The port was opened just before. -/
theorem opened_last {c : Connection}
    (run : Run.after? after? apart events = some (opened c)) :
    events.getLast? = some (.opened c) := by
  refine Run.invariant_of_history (Q := fun _ _ => True)
    (P := fun events contact => ∀ c, contact = opened c → events.getLast? = some (.opened c))
    (by simp) ?_ (Run.along_of_forall (fun _ _ => trivial) _ _) run c rfl
  intro front u e v _ _ _ hstep
  cases follows_of_after? hstep <;> simp

/-- After a connection was told, the next that is told is its end. -/
theorem next_told (run : Run.after? after? told events = some contact) :
    contact = told ∧ events.filterMap LinkEvent.told? = [] ∨
      (events.filterMap LinkEvent.told?).head? = some .disconnected := by
  induction events with
  | nil =>
    cases run
    exact .inl ⟨rfl, rfl⟩
  | cons e rest ih =>
    simp only [Run.after?_cons, Option.bind_eq_some_iff] at run
    obtain ⟨u, hstep, run⟩ := run
    cases follows_of_after? hstep with
    | decoded text =>
      rw [List.filterMap_cons_none rfl]
      exact ih run
    | parted => exact .inr rfl

theorem split {e : LinkEvent} {front back : List LinkEvent}
    (run : Run.after? after? apart (front ++ e :: back) = some contact) :
    ∃ u v, Run.after? after? apart front = some u ∧ u.Follows e v ∧
      Run.after? after? v back = some contact := by
  obtain ⟨u, hfront, hback⟩ := Run.after?_append_eq_some_iff.mp run
  simp only [Run.after?_cons, Option.bind_eq_some_iff] at hback
  obtain ⟨v, hstep, hback⟩ := hback
  exact ⟨u, v, hfront, follows_of_after? hstep, hback⟩

end Contact

/-! ## Runs -/

/-- The link with all that was noted, oldest first. -/
structure LinkDiary where
  link : Link
  events : List LinkEvent := []

namespace LinkDiary

variable {x y : LinkDiary} {turn : LinkTurn}

def turn? (x : LinkDiary) (turn : LinkTurn) : Option LinkDiary :=
  (x.link.turn? turn).map fun link => { link, events := x.events ++ x.link.noted turn link }

def start (settings : LinkSettings) (board : Board) (timing : LinkTiming) (subscribers : Nat) :
    LinkDiary :=
  { link := .new settings board timing subscribers }

structure Kept (x : LinkDiary) : Prop where
  states : x.events.filterMap LinkEvent.told? = x.link.states
  contact : Run.after? Contact.after? .apart x.events = some x.link.contact

theorem kept_turn (h : x.Kept) (hturn : x.turn? turn = some y) : y.Kept := by
  obtain ⟨l, hlink, rfl⟩ := Option.map_eq_some_iff.mp hturn
  obtain ⟨⟨told, htold⟩, hcontact⟩ := Link.noted_turn hlink
  refine ⟨?_, Run.after?_append_eq_some_iff.mpr ⟨_, h.contact, hcontact⟩⟩
  have hnoted : (x.link.noted turn l).filterMap LinkEvent.told? = told := by
    simp [Link.noted, ← htold, List.filterMap_append, List.filterMap_map, Function.comp_def,
      LinkEvent.told?]
  rw [List.filterMap_append, h.states, hnoted, htold]

/-- In every run of the link, however its attempts and its connections end: it tells `connected` and
    `disconnected` in turn, beginning with `connected`; it tells `connected` at once when the port
    was opened, with that port, and never else; a failed attempt tells nothing; every line is
    decoded after a `connected` and before the `disconnected` that follows it; and when the link has
    ended, it has told both equally often. -/
theorem states_alternate {settings : LinkSettings} {board : Board} {timing : LinkTiming}
    {subscribers : Nat} {turns : List LinkTurn}
    (hrun : Run.after? turn? (start settings board timing subscribers) turns = some x) :
    x.events.filterMap LinkEvent.told? = x.link.states ∧
    (∀ k s, x.link.states[k]? = some s → (s = .disconnected ↔ k % 2 = 1)) ∧
    (∀ front port back, x.events = front ++ .told (.connected port) :: back →
      ∃ c, front.getLast? = some (.opened c) ∧ port = c.port) ∧
    (∀ front c back, x.events = front ++ .opened c :: back →
      back.head? = some (.told (.connected c.port))) ∧
    (∀ front c back, x.events = front ++ .refused c :: back → ∀ s, back.head? ≠ some (.told s)) ∧
    (∀ front text back, x.events = front ++ .decoded text :: back →
      (∃ port, (front.filterMap LinkEvent.told?).getLast? = some (.connected port)) ∧
      ((back.filterMap LinkEvent.told?).head? = some .disconnected ∨
        x.link.hasEnded = false ∧ back.filterMap LinkEvent.told? = [])) ∧
    (x.link.hasEnded = true →
      x.link.states.countP (· != .disconnected) = x.link.states.count .disconnected) := by
  have h : x.Kept := Run.invariant ⟨rfl, rfl⟩ (fun _ _ _ hx hturn => kept_turn hx hturn) hrun
  have htold := Contact.told_of_run h.contact
  rw [h.states] at htold
  refine ⟨h.states, htold.alternates, ?_, ?_, ?_, ?_, fun hend => ?_⟩
  · intro front port back hevents
    obtain ⟨u, v, hfront, hfollows, -⟩ := Contact.split (hevents ▸ h.contact)
    cases hfollows with
    | joined c => exact ⟨c, Contact.opened_last hfront, rfl⟩
  · intro front c back hevents
    obtain ⟨u, v, -, hfollows, hback⟩ := Contact.split (hevents ▸ h.contact)
    cases hfollows with
    | opened _ =>
      cases back with
      -- no turn ends between the opening and its telling
      | nil => exact absurd (Option.some.inj hback).symm (Link.contact_ne_opened _ c)
      | cons e rest =>
        obtain ⟨w, hw, -⟩ := Option.bind_eq_some_iff.mp (Run.after?_cons _ _ _ _ ▸ hback)
        cases Contact.follows_of_after? hw
        rfl
  · intro front c back hevents s hhead
    obtain ⟨u, v, -, hfollows, hback⟩ := Contact.split (hevents ▸ h.contact)
    obtain ⟨rest, rfl⟩ := List.head?_eq_some_iff.mp hhead
    obtain ⟨w, hw, -⟩ := Option.bind_eq_some_iff.mp (Run.after?_cons _ _ _ _ ▸ hback)
    cases hfollows with
    | refused _ => cases Contact.follows_of_after? hw
  · intro front text back hevents
    obtain ⟨u, v, hfront, hfollows, hback⟩ := Contact.split (hevents ▸ h.contact)
    cases hfollows with
    | decoded _ =>
      refine ⟨(Contact.told_of_run hfront).last_connected, ?_⟩
      obtain ⟨hcontact, hnone⟩ | hhead := Contact.next_told hback
      · refine .inr ⟨?_, hnone⟩
        rw [← Bool.not_eq_true]
        intro hend
        simp [Link.contact_of_hasEnded hend] at hcontact
      · exact .inl hhead
  · simpa [Link.contact_of_hasEnded hend] using htold.balance

/-- The first attempt fails, the first connection is left for another port while it is in use, and
    the second one is open when the link is stopped. -/
theorem states_alternate_reconnected :
    let board : Board := { script := [.refused "busy", .stream 0, .stream 1], streams := [{}, {}] }
    let there : LinkSettings := { connection := { port := "there" } }
    let turns : List LinkTurn :=
      [.step .proceed, .step .proceed, .clock 2000, .step .proceed, .step .proceed, .step .proceed,
        .board (.write 0 [53, 10]), .step .read, .step .read, .step .proceed, .step .proceed,
        .step .proceed, .publish there, .step .notice, .step .proceed, .step .proceed, .stop,
        .step .stop]
    ∃ x ∈ Run.after? turn? (start {} board {} 0) turns,
      x.events = [.refused {}, .opened {}, .told (.connected "/dev/ttyUSB0"), .decoded "5\n",
        .told .disconnected, .opened there.connection, .told (.connected "there"),
        .told .disconnected] ∧
      x.link.states.countP (· != .disconnected) = x.link.states.count .disconnected := by
  intro board there turns
  have hrun : ∃ x ∈ Run.after? turn? (start {} board {} 0) turns,
      x.link.hasEnded = true ∧
      x.events = [.refused {}, .opened {}, .told (.connected "/dev/ttyUSB0"), .decoded "5\n",
        .told .disconnected, .opened there.connection, .told (.connected "there"),
        .told .disconnected] := by decide +kernel
  obtain ⟨x, hx, hended, hevents⟩ := hrun
  obtain ⟨-, -, -, -, -, -, hbalance⟩ := states_alternate hx
  exact ⟨x, hx, hevents, hbalance hended⟩

end LinkDiary

end SliderMixer
