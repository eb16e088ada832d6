import Mathlib.Data.List.Basic
import SliderMixer.Focus

/-! # Remembered answers

The last answer to either question about the foreground window is used again for a while.  The desktop
may answer what it likes, or fail, and may take its time.

* `FocusReply`: what came of a question; `Focus.replies`: of one question after the other.
* `Focus.Remembers`: a cache holds the latest answer of the desktop to either question; `remembers_reply`.
* `Focus.Agrees`: two caches hold the same for one of the questions; `agrees_reply`, `agrees_other`.
* `Focus.remembers_recent`: what is asked of the desktop and what is answered, question by question.
-/

namespace SliderMixer

/-! ## Questions and replies -/

/-- A question about the foreground window. -/
structure FocusQuestion where
  fullscreen : Bool
  asked : Nat
  /-- When the desktop has its answer, if the question comes to it. -/
  answered : Nat
  deriving DecidableEq

/-- What the desktop answers, which may depend on how often it was asked before. -/
abbrev Desktop := Nat → FocusQuestion → FocusAnswer

/-- The questions come one after the other. -/
structure FocusQuestion.Timed (questions : List FocusQuestion) : Prop where
  lasts : ∀ q ∈ questions, q.asked ≤ q.answered
  ordered : questions.Pairwise fun p q => p.answered ≤ q.asked

/-- A question, and what came of it. -/
structure FocusReply where
  question : FocusQuestion
  answer : FocusAnswer
  before : Focus
  after : Focus

namespace FocusReply

/-- The question came to the desktop. -/
def passedOn (r : FocusReply) : Bool := r.before.queries < r.after.queries

/-- The answer of the desktop to the plain question or to the other one, unless it failed. -/
def success? (fullscreen : Bool) (r : FocusReply) : Option FocusMemory :=
  match r.answer with
  | .ok names =>
    if r.passedOn ∧ r.question.fullscreen = fullscreen then
      some { time := r.question.answered, names }
    else none
  | .error _ => none

/-- The latest answer of the desktop that was no failure. -/
def latest? (fullscreen : Bool) (replies : List FocusReply) : Option FocusMemory :=
  (replies.filterMap (success? fullscreen)).getLast?

/-- What can be seen of a reply from outside. -/
def shown (r : FocusReply) : FocusQuestion × Bool × FocusAnswer := (r.question, r.passedOn, r.answer)

end FocusReply

namespace Focus

def reply (desktop : Desktop) (f : Focus) (q : FocusQuestion) : FocusReply :=
  let asked := { f with answers := fun fullscreen => desktop f.queries { q with fullscreen } }
  let (answer, after) := asked.askUntil q.asked q.answered q.fullscreen
  { question := q, answer, before := f, after }

def replies (desktop : Desktop) (f : Focus) : List FocusQuestion → List FocusReply
  | [] => []
  | q :: rest => f.reply desktop q :: replies desktop (f.reply desktop q).after rest

variable {desktop : Desktop} {f g : Focus} {c d : FocusCache}

theorem question_reply (desktop : Desktop) (f : Focus) (q : FocusQuestion) :
    (f.reply desktop q).question = q := rfl

theorem map_question_replies (desktop : Desktop) (f : Focus) (questions : List FocusQuestion) :
    (f.replies desktop questions).map (·.question) = questions := by
  induction questions generalizing f with
  | nil => rfl
  | cons q rest ih => rw [replies, List.map_cons, ih, question_reply]

/-- A question is answered from the cache, or it comes to the desktop. -/
theorem reply_cases (hcache : f.cache = some c) (desktop : Desktop) (q : FocusQuestion) :
    (∃ names, c.recent? q.asked q.fullscreen = some names ∧
      (f.reply desktop q).passedOn = false ∧ (f.reply desktop q).answer = .ok names ∧
      (f.reply desktop q).after.cache = some c ∧ (f.reply desktop q).after.queries = f.queries) ∨
    (c.recent? q.asked q.fullscreen = none ∧
      (f.reply desktop q).passedOn = true ∧ (f.reply desktop q).answer = desktop f.queries q ∧
      (f.reply desktop q).after.cache =
        some (c.record q.answered q.fullscreen (desktop f.queries q)) ∧
      (f.reply desktop q).after.queries = f.queries + 1) := by
  cases hrecent : c.recent? q.asked q.fullscreen with
  | some names =>
    exact .inl ⟨names, rfl, by simp [reply, askUntil, hcache, hrecent, FocusReply.passedOn]⟩
  | none =>
    exact .inr ⟨rfl, by simp [reply, askUntil, hcache, hrecent, query, FocusReply.passedOn]⟩

/-! ## What the cache holds -/

end Focus

namespace FocusCache

variable {c : FocusCache}

theorem recent?_eq_none {now : Nat} {fullscreen : Bool} :
    c.recent? now fullscreen = none ↔ ∀ m ∈ c.slot fullscreen, c.cooldown ≤ now - m.time := by
  cases hslot : c.slot fullscreen <;> simp [recent?, hslot]

theorem recent?_eq_some {now : Nat} {fullscreen : Bool} {names : List String}
    (h : c.recent? now fullscreen = some names) :
    ∃ m, c.slot fullscreen = some m ∧ m.names = names := by
  simp only [recent?, Option.bind_eq_some_iff, Option.ite_none_right_eq_some,
    Option.some.injEq] at h
  obtain ⟨m, hslot, -, hnames⟩ := h
  exact ⟨m, hslot, hnames⟩

theorem slot_record (c : FocusCache) (time : Nat) (asked fullscreen : Bool) (answer : FocusAnswer) :
    (c.record time asked answer).slot fullscreen =
      match answer with
      | .ok names => if asked = fullscreen then some { time, names } else c.slot fullscreen
      | .error _ => c.slot fullscreen := by
  cases answer with
  | error e => rfl
  | ok names => cases asked <;> cases fullscreen <;> rfl

theorem cooldown_record (c : FocusCache) (time : Nat) (asked : Bool) (answer : FocusAnswer) :
    (c.record time asked answer).cooldown = c.cooldown := by
  cases answer with
  | error e => rfl
  | ok names => cases asked <;> rfl

end FocusCache

namespace FocusReply

theorem time_of_success? {fullscreen : Bool} {r : FocusReply} {m : FocusMemory}
    (h : r.success? fullscreen = some m) : m.time = r.question.answered := by
  unfold success? at h
  split at h
  · simp only [Option.ite_none_right_eq_some, Option.some.injEq] at h
    rw [← h.2]
  · cases h

theorem latest?_snoc (fullscreen : Bool) (replies : List FocusReply) (r : FocusReply) :
    latest? fullscreen (replies ++ [r]) =
      (r.success? fullscreen).or (latest? fullscreen replies) := by
  rw [latest?, List.filterMap_append, List.getLast?_append, latest?]
  cases h : r.success? fullscreen <;> simp [h]

end FocusReply

namespace Focus

variable {desktop : Desktop} {f g : Focus} {c d : FocusCache} {cooldown : Nat}

/-- After these replies, the cache holds for either question the latest answer of the desktop. -/
structure Remembers (cooldown : Nat) (past : List FocusReply) (f : Focus) (c : FocusCache) :
    Prop where
  cache : f.cache = some c
  cooldown : c.cooldown = cooldown
  slot : ∀ fullscreen, c.slot fullscreen = FocusReply.latest? fullscreen past
  queries : f.queries = past.countP (·.passedOn)

theorem remembers_reply {past : List FocusReply} (h : Remembers cooldown past f c)
    (desktop : Desktop) (q : FocusQuestion) :
    ∃ d, Remembers cooldown (past ++ [f.reply desktop q]) (f.reply desktop q).after d := by
  obtain ⟨names, -, hpassed, hanswer, hcache, hqueries⟩ | ⟨-, hpassed, hanswer, hcache, hqueries⟩ :=
    reply_cases h.cache desktop q
  · refine ⟨c, hcache, h.cooldown, fun fullscreen => ?_, by simp [hqueries, h.queries, hpassed]⟩
    have hnone : (f.reply desktop q).success? fullscreen = none := by
      simp [FocusReply.success?, hanswer, hpassed]
    rw [FocusReply.latest?_snoc, hnone, Option.none_or, h.slot]
  · refine ⟨_, hcache, (c.cooldown_record _ _ _).trans h.cooldown, fun fullscreen => ?_,
      by simp [hqueries, h.queries, hpassed]⟩
    rw [FocusReply.latest?_snoc, FocusCache.slot_record]
    cases hgiven : desktop f.queries q with
    | error e => simp [FocusReply.success?, hanswer, hgiven, h.slot]
    | ok names =>
      by_cases hsame : q.fullscreen = fullscreen <;>
        simp [FocusReply.success?, hanswer, hgiven, hpassed, question_reply, hsame, h.slot]

/-- So it is before every reply. -/
theorem remembers_before {past front back : List FocusReply} {r : FocusReply}
    {questions : List FocusQuestion} (h : Remembers cooldown past f c)
    (hreplies : f.replies desktop questions = front ++ r :: back) :
    ∃ d, Remembers cooldown (past ++ front) r.before d ∧ r = r.before.reply desktop r.question := by
  induction front generalizing past f c questions with
  | nil =>
    cases questions with
    | nil => cases hreplies
    | cons q rest =>
      obtain ⟨rfl, -⟩ := List.cons.inj hreplies
      rw [List.append_nil]
      exact ⟨c, h, rfl⟩
  | cons s front ih =>
    cases questions with
    | nil => cases hreplies
    | cons q rest =>
      obtain ⟨rfl, hrest⟩ := List.cons.inj hreplies
      obtain ⟨d, hd⟩ := remembers_reply h desktop q
      simpa using ih hd hrest

/-! ## One question without the other -/

/-- Both caches hold the same for one of the questions. -/
structure Agrees (fullscreen : Bool) (f g : Focus) (c d : FocusCache) : Prop where
  left : f.cache = some c
  right : g.cache = some d
  cooldown : d.cooldown = c.cooldown
  slot : d.slot fullscreen = c.slot fullscreen

variable {fullscreen : Bool}

theorem Agrees.recent? (h : Agrees fullscreen f g c d) (now : Nat) :
    d.recent? now fullscreen = c.recent? now fullscreen := by
  rw [FocusCache.recent?, FocusCache.recent?, h.slot, h.cooldown]

/-- The other question leaves the cache as it is for this one. -/
theorem agrees_other {q : FocusQuestion} (h : Agrees fullscreen f g c d)
    (hother : q.fullscreen ≠ fullscreen) (desktop : Desktop) :
    ∃ c', Agrees fullscreen (f.reply desktop q).after g c' d := by
  obtain ⟨names, -, -, -, hcache, -⟩ | ⟨-, -, -, hcache, -⟩ := reply_cases h.left desktop q
  · exact ⟨c, hcache, h.right, h.cooldown, h.slot⟩
  · refine ⟨_, hcache, h.right, h.cooldown.trans (c.cooldown_record _ _ _).symm, ?_⟩
    rw [FocusCache.slot_record, h.slot]
    cases desktop f.queries q with
    | error e => rfl
    | ok names => exact (if_neg hother).symm

/-- The question itself is answered alike, from both caches or by the desktop. -/
theorem agrees_reply {q : FocusQuestion} (h : Agrees fullscreen f g c d)
    (hsame : q.fullscreen = fullscreen) (steady : ∀ m n q, desktop m q = desktop n q) :
    (g.reply desktop q).shown = (f.reply desktop q).shown ∧
      ∃ c' d', Agrees fullscreen (f.reply desktop q).after (g.reply desktop q).after c' d' := by
  subst hsame
  have hrecent := h.recent? q.asked
  obtain ⟨names, hfound, hpassed, hanswer, hcache, -⟩ | ⟨hfound, hpassed, hanswer, hcache, -⟩ :=
    reply_cases h.left desktop q
  all_goals
    obtain ⟨names', hfound', hpassed', hanswer', hcache', -⟩ |
      ⟨hfound', hpassed', hanswer', hcache', -⟩ := reply_cases h.right desktop q
  · obtain rfl : names' = names := by simpa [hfound, hfound'] using hrecent
    exact ⟨by simp [FocusReply.shown, question_reply, hpassed, hpassed', hanswer, hanswer'],
      c, d, hcache, hcache', h.cooldown, h.slot⟩
  · simp [hfound, hfound'] at hrecent
  · simp [hfound, hfound'] at hrecent
  · have hgiven := steady g.queries f.queries q
    refine ⟨by simp [FocusReply.shown, question_reply, hpassed, hpassed', hanswer, hanswer', hgiven],
      _, _, hcache, hcache', ?_, ?_⟩
    · rw [FocusCache.cooldown_record, FocusCache.cooldown_record, h.cooldown]
    · rw [FocusCache.slot_record, FocusCache.slot_record, hgiven, h.slot]

theorem agrees_replies (h : Agrees fullscreen f g c d) (steady : ∀ m n q, desktop m q = desktop n q)
    (questions : List FocusQuestion) :
    (g.replies desktop (questions.filter (·.fullscreen == fullscreen))).map FocusReply.shown =
      ((f.replies desktop questions).filter (·.question.fullscreen == fullscreen)).map
        FocusReply.shown := by
  induction questions generalizing f g c d with
  | nil => rfl
  | cons q rest ih =>
    by_cases hsame : q.fullscreen = fullscreen
    · obtain ⟨hshown, c', d', hagrees⟩ := agrees_reply h hsame steady
      simp [replies, question_reply, hsame, hshown, ih hagrees]
    · obtain ⟨c', hagrees⟩ := agrees_other h hsame desktop
      simp [replies, question_reply, hsame, ih hagrees]

/-! ## Question by question -/

/-- Earlier answers of the desktop are older than the latest. -/
theorem le_latest {front : List FocusReply} {m latest : FocusMemory}
    (ordered : front.Pairwise fun p r => p.question.answered ≤ r.question.answered)
    (hm : m ∈ front.filterMap (FocusReply.success? fullscreen))
    (hlatest : FocusReply.latest? fullscreen front = some latest) : m.time ≤ latest.time := by
  have htimes : (front.filterMap (FocusReply.success? fullscreen)).Pairwise (·.time ≤ ·.time) := by
    refine ordered.filterMap _ fun r s hle m hr m' hs => ?_
    rw [FocusReply.time_of_success? hr, FocusReply.time_of_success? hs]
    exact hle
  obtain ⟨earlier, hsplit⟩ := List.getLast?_eq_some_iff.mp hlatest
  rw [hsplit] at hm htimes
  rcases List.mem_append.mp hm with hm | hm
  · exact (List.pairwise_append.mp htimes).2.2 m hm latest (List.mem_singleton_self _)
  · exact Nat.le_of_eq (congrArg _ (List.mem_singleton.mp hm))

/-- If the latest answer of the desktop is too old, so are all before it. -/
theorem latest_old_iff {front : List FocusReply} {now : Nat}
    (ordered : front.Pairwise fun p r => p.question.answered ≤ r.question.answered)
    (past : ∀ p ∈ front, p.question.answered ≤ now) :
    (∀ m ∈ FocusReply.latest? fullscreen front, cooldown ≤ now - m.time) ↔
      ∀ m ∈ front.filterMap (FocusReply.success? fullscreen), m.time + cooldown ≤ now := by
  constructor
  · intro hlatest m hm
    obtain ⟨latest, hsome⟩ : ∃ latest, FocusReply.latest? fullscreen front = some latest :=
      ⟨_, List.getLast?_eq_some_getLast (List.ne_nil_of_mem hm)⟩
    have hold := hlatest latest hsome
    have hle := le_latest ordered hm hsome
    obtain ⟨p, hp, hsuccess⟩ := List.mem_filterMap.mp (List.mem_of_getLast? hsome)
    have hpast := past p hp
    rw [← FocusReply.time_of_success? hsuccess] at hpast
    omega
  · intro hall m hm
    have hm := hall m (List.mem_of_getLast? hm)
    omega

/-- Whatever is asked in whatever order, and however the desktop answers: a question comes to the
    desktop exactly if each of its earlier answers to the same question, failures apart, is at least as
    old as the cooldown.  If it does not, the latest of these answers is given again, else the desktop's
    own, be it a failure.  A failure changes nothing that is remembered, and what is remembered for
    either question is the latest answer of the desktop that was no failure.  If the desktop does not
    care how often it was asked, all questions of one kind come to it or not, and are answered, as if
    those of the other kind had not been asked. -/
theorem remembers_recent {questions : List FocusQuestion} (cooldown : Nat) (desktop : Desktop)
    (timed : FocusQuestion.Timed questions) :
    let focus : Focus := { cache := some { cooldown } }
    let replies := focus.replies desktop questions
    replies.map (·.question) = questions ∧
    (∀ front r back, replies = front ++ r :: back →
      (r.passedOn = true ↔ ∀ m ∈ front.filterMap (FocusReply.success? r.question.fullscreen),
        m.time + cooldown ≤ r.question.asked) ∧
      (r.passedOn = false → ∃ m, FocusReply.latest? r.question.fullscreen front = some m ∧
        r.answer = .ok m.names) ∧
      (r.passedOn = true → r.answer = desktop (front.countP (·.passedOn)) r.question) ∧
      (∀ e, r.answer = .error e → r.after.cache = r.before.cache) ∧
      ∃ c, r.after.cache = some c ∧
        ∀ fullscreen, c.slot fullscreen = FocusReply.latest? fullscreen (front ++ [r])) ∧
    ((∀ m n q, desktop m q = desktop n q) → ∀ fullscreen,
      (focus.replies desktop (questions.filter (·.fullscreen == fullscreen))).map FocusReply.shown =
        (replies.filter (·.question.fullscreen == fullscreen)).map FocusReply.shown) := by
  intro focus replies
  have hquestions : replies.map (·.question) = questions := map_question_replies desktop focus questions
  refine ⟨hquestions, fun front r back hreplies => ?_, fun steady fullscreen =>
    agrees_replies ⟨rfl, rfl, rfl, rfl⟩ steady questions⟩
  have hstart : Remembers cooldown [] focus { cooldown } :=
    ⟨rfl, rfl, fun fullscreen => by cases fullscreen <;> rfl, rfl⟩
  obtain ⟨c, hremembers, hr⟩ := remembers_before hstart hreplies
  rw [List.nil_append] at hremembers
  obtain ⟨d, hafter⟩ := remembers_reply hremembers desktop r.question
  rw [← hr] at hafter
  -- the questions before this one were answered in the order in which they came
  have hordered : (front ++ r :: back).Pairwise fun p r => p.question.answered ≤ r.question.asked := by
    have htimed := timed.ordered
    rw [← hquestions, hreplies] at htimed
    exact List.pairwise_map.mp htimed
  have hlasts : ∀ p ∈ front, p.question.asked ≤ p.question.answered := fun p hp =>
    timed.lasts p.question (by simp [← hquestions, hreplies, List.mem_map_of_mem hp])
  have hfront : front.Pairwise fun p r => p.question.answered ≤ r.question.answered :=
    (List.pairwise_append.mp hordered).1.imp_of_mem fun _ hs hle => Nat.le_trans hle (hlasts _ hs)
  have hpast : ∀ p ∈ front, p.question.answered ≤ r.question.asked := fun p hp =>
    (List.pairwise_append.mp hordered).2.2 p hp r List.mem_cons_self
  have hold : c.recent? r.question.asked r.question.fullscreen = none ↔
      ∀ m ∈ front.filterMap (FocusReply.success? r.question.fullscreen),
        m.time + cooldown ≤ r.question.asked := by
    rw [FocusCache.recent?_eq_none, hremembers.slot, hremembers.cooldown, latest_old_iff hfront hpast]
  rw [← hold]
  have hcases := reply_cases hremembers.cache desktop r.question
  rw [← hr] at hcases
  obtain ⟨names, hfound, hpassed, hanswer, hcache, -⟩ | ⟨hnone, hpassed, hanswer, hcache, -⟩ := hcases
  · obtain ⟨m, hslot, hnames⟩ := FocusCache.recent?_eq_some hfound
    refine ⟨by simp [hpassed, hfound], fun _ => ⟨m, (hremembers.slot _).symm.trans hslot, ?_⟩,
      by simp [hpassed], by simp [hanswer], d, hafter.cache, hafter.slot⟩
    rw [hanswer, hnames]
  · rw [hremembers.queries] at hanswer hcache
    refine ⟨by simp [hpassed, hnone], by simp [hpassed], fun _ => hanswer, fun e he => ?_,
      d, hafter.cache, hafter.slot⟩
    rw [hcache, ← hanswer, he, hremembers.cache]
    rfl

/-- The desktop answers the first question after a while, and fails at a full screen.  The answer is used
    until its cooldown is over, counted from when it was given; then it is not given again although the
    desktop fails. -/
theorem remembers_recent_until_failure :
    let questions : List FocusQuestion :=
      [⟨false, 0, 20⟩, ⟨true, 100, 110⟩, ⟨false, 369, 400⟩, ⟨true, 400, 405⟩, ⟨false, 410, 450⟩,
        ⟨false, 500, 520⟩]
    let desktop : Desktop := fun _ q =>
      if q.fullscreen then .error .unsupported
      else if q.asked = 410 then .error (.query "no window")
      else .ok [if q.asked = 0 then "first.exe" else "other.exe"]
    let focus : Focus := { cache := some { cooldown := 350 } }
    let replies := focus.replies desktop questions
    let failed : FocusAnswer := .error .unsupported
    FocusQuestion.Timed questions ∧
    replies.map (·.passedOn) = [true, true, false, true, true, true] ∧
    (∃ r, replies[2]? = some r ∧ r.answer = .ok ["first.exe"]) ∧
    (∃ r, replies[4]? = some r ∧ r.after.cache = r.before.cache ∧
      r.answer = .error (.query "no window")) ∧
    (focus.replies desktop (questions.filter (·.fullscreen == true))).map FocusReply.shown =
      [(⟨true, 100, 110⟩, true, failed), (⟨true, 400, 405⟩, true, failed)] := by
  intro questions desktop focus replies failed
  have timed : FocusQuestion.Timed questions := ⟨by decide, by decide⟩
  obtain ⟨-, hreplies, hsteady⟩ := remembers_recent 350 desktop timed
  refine ⟨timed, rfl, ?_, ?_, ?_⟩
  · obtain ⟨-, hcached, -⟩ := hreplies (replies.take 2) _ (replies.drop 3) rfl
    obtain ⟨m, hlatest, hanswer⟩ := hcached rfl
    cases hlatest
    exact ⟨_, rfl, hanswer⟩
  · obtain ⟨-, -, hpassed, hfailed, -⟩ := hreplies (replies.take 4) _ (replies.drop 5) rfl
    exact ⟨_, rfl, hfailed (.query "no window") (hpassed rfl), hpassed rfl⟩
  · rw [hsteady (fun _ _ _ => rfl)]
    rfl

end Focus

end SliderMixer
