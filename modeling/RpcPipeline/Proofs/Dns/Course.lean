import RpcPipeline.Proofs.Dns.Refresher

/-!
# `RpcPipeline.Proofs.Dns.Course`: a refresher while the settings are replaced

A `Course` is a refresher together with the settings that it watches, the time and a record
of the rounds that came to their end. Between any two steps of the refresher anything may
happen: the settings are replaced, the names lead somewhere else, time passes, and the
refresher is told to stop.

* `Course.Works`, `work_works`: what one step of the refresher is.
* `Course.Heeds`: what the refresher has seen of the settings at each point of a round.
* `Heeds.step`, `Heeds.run`: this holds all along.
* `Course.run_completes`: a refresher that nothing stops completes any number of rounds.
* `Course.run_misses_nothing`: a refresher that waits has used the present settings, or has
  news that wake it.
-/

set_option autoImplicit false

namespace RpcPipeline

/-- A round of look-ups that came to its end. -/
structure DnsRound (α : Type) where
  /-- The settings that the round has read. -/
  settings : Cell (ClientConfig α)
  /-- The names that were looked up and what came back, in order. -/
  lookups : List (String × Lookup)
  /-- What the round came to. -/
  snapshot : DnsSnapshot
  /-- The cache at the end of the round. -/
  cache : DnsCache
  /-- What is published from the end of the round on. -/
  published : Cell DnsSnapshot

/-- A refresher, the settings that it watches, the time, and what it has done so far. -/
structure Course (α : Type) where
  refresher : Refresher α
  settings : Cell (ClientConfig α)
  now : Instant
  /-- The version of the settings that the round under way has read. -/
  read : Nat
  /-- What the round under way has looked up, the latest first. -/
  looked : List (String × Lookup)
  /-- The rounds that came to their end, the latest first. -/
  rounds : List (DnsRound α)

namespace Course

variable {α : Type}

/-- Something that happens to a refresher or around it. -/
inductive Move (α : Type) where
  | update (config : ClientConfig α)
  /-- From now on look-ups come back with something else. -/
  | answer (resolver : Resolver)
  | advance (span : Nanos)
  | cancel
  /-- Nobody reads any more what is published. -/
  | leave
  /-- The refresher takes a step, if it can. -/
  | work

/-- Writes down what a step of the refresher to `r` is about. -/
def note (c : Course α) (r : Refresher α) : Course α :=
  match c.refresher.phase, r.phase with
  | .marked _, .resolving .. => { c with read := c.settings.version, looked := [] }
  | .resolving _ _ (name :: _) _, .resolving .. =>
    { c with looked := (name, (c.refresher.resolver.resolve name).1) :: c.looked }
  | .resolving _ used [] found, .waiting .. =>
    { c with
      rounds :=
        ⟨⟨used, c.read⟩, c.looked.reverse, .ofList found.reverse, r.cache, r.published⟩ ::
          c.rounds }
  | _, _ => c

/-- Lets the refresher take a step. -/
def work (c : Course α) : Course α :=
  match c.refresher.step c.now c.settings with
  | none => c
  | some (r, _) => { c.note r with refresher := r }

/-- One move. -/
def step (c : Course α) : Move α → Course α
  | .update config => { c with settings := c.settings.update config }
  | .answer resolver => { c with refresher := { c.refresher with resolver := resolver } }
  | .advance span => { c with now := c.now + span }
  | .cancel => { c with refresher := c.refresher.cancel }
  | .leave => { c with refresher := { c.refresher with observed := false } }
  | .work => c.work

/-- Moves one after the other. -/
def run (c : Course α) (moves : List (Move α)) : Course α := moves.foldl step c

/-- A refresher that is about to start, with any settings. -/
def start (resolver : Resolver) (settings : Cell (ClientConfig α)) (now : Instant) : Course α :=
  ⟨.new resolver, settings, now, 0, [], []⟩

theorem run_append (c : Course α) (moves more : List (Move α)) :
    c.run (moves ++ more) = (c.run moves).run more := List.foldl_append

/-- A refresher that goes on to something else. -/
def goTo (c : Course α) (phase : RefreshPhase α) : Course α :=
  { c with refresher := { c.refresher with phase := phase } }

/-! ### What a step of the refresher is -/

/-- A refresher that has read the settings. -/
def begin (c : Course α) (watch : Watch) : Course α :=
  let names := Refresher.hostnames c.settings.value
  { c.goTo (.resolving watch c.settings.value names []) with
    read := c.settings.version, looked := [] }

/-- A refresher after a look-up of `name`, the first of the names that were left. -/
def lookUp (c : Course α) (watch : Watch) (used : ClientConfig α) (name : String)
    (left : List String) (found : List (String × List Address)) : Course α :=
  let (addresses, r, _) := c.refresher.lookUp c.now name
  { c with
    refresher := { r with phase := .resolving watch used left ((name, addresses) :: found) }
    looked := (name, (c.refresher.resolver.resolve name).1) :: c.looked }

/-- The round under way at its end, when it has found `found`, the latest first. -/
def ended (c : Course α) (used : ClientConfig α) (found : List (String × List Address)) :
    DnsRound α :=
  let cache := c.refresher.cache.retain (Refresher.hostnames used)
  let snapshot := DnsSnapshot.ofList found.reverse
  { settings := ⟨used, c.read⟩, lookups := c.looked.reverse, snapshot := snapshot, cache := cache,
    published := ({ c.refresher with cache := cache }.publish snapshot).published }

/-- A refresher that has ended a round. -/
def finish (c : Course α) (watch : Watch) (used : ClientConfig α)
    (found : List (String × List Address)) : Course α :=
  let cache := c.refresher.cache.retain (Refresher.hostnames used)
  let r := { c.refresher with cache := cache }.publish (.ofList found.reverse)
  let alarm := Alarm.after c.now used.dns.refreshInterval
  { c with
    refresher := { r with phase := .waiting alarm watch }
    rounds := c.ended used found :: c.rounds }

/-- What a step of the refresher of `c` is. -/
inductive Works (c : Course α) : Course α → Prop
  /-- The refresher has stopped, or waits on. -/
  | rests : Works c c
  | stops : c.refresher.cancelled = true ∨ c.refresher.observed = false →
      Works c (c.goTo .stopped)
  | wakes (alarm : Alarm) (watch : Watch) : c.refresher.phase = .waiting alarm watch →
      Works c (c.goTo .starting)
  | marks : c.refresher.phase = .starting → Works c (c.goTo (.marked (.start c.settings)))
  | reads (watch : Watch) : c.refresher.phase = .marked watch →
      Works c (c.begin watch)
  | looks (watch : Watch) (used : ClientConfig α) (name : String) (left : List String)
      (found : List (String × List Address)) :
      c.refresher.phase = .resolving watch used (name :: left) found →
      Works c (c.lookUp watch used name left found)
  | ends (watch : Watch) (used : ClientConfig α) (found : List (String × List Address)) :
      c.refresher.phase = .resolving watch used [] found → Works c (c.finish watch used found)

variable {c c' : Course α}

/-- That a refresher stops is not the end of a round, nor any part of one. -/
theorem note_stopped {r : Refresher α} (h : r.phase = .stopped) : c.note r = c := by
  unfold note
  rw [h]
  rcases c.refresher.phase with _ | _ | ⟨_, _, _ | _, _⟩ | _ | _ <;> rfl

/-- A refresher that was told to stop does so, whatever it is about to do. -/
theorem work_stops (hcancel : c.refresher.cancelled = true) (hstop : c.refresher.phase ≠ .stopped) :
    c.work = c.goTo .stopped := by
  have hstep : c.refresher.step c.now c.settings =
      some ({ c.refresher with phase := .stopped }, []) := by
    unfold Refresher.step
    split
    · next h => exact absurd h hstop
    · exact if_pos (by rw [hcancel, Bool.true_or])
    all_goals exact if_pos hcancel
  simp only [work, hstep, note_stopped, goTo]

/-- As long as nobody tells it to stop, a refresher that does not wait goes on. -/
theorem work_proceeds (hcancel : c.refresher.cancelled = false)
    (hwait : ∀ alarm watch, c.refresher.phase ≠ .waiting alarm watch)
    (hstop : c.refresher.phase ≠ .stopped) :
    c.work = { c.note (c.refresher.proceed c.now c.settings).1 with
      refresher := (c.refresher.proceed c.now c.settings).1 } := by
  have hgo : ¬ c.refresher.cancelled = true := by rw [hcancel]; exact Bool.false_ne_true
  have hstep : c.refresher.step c.now c.settings =
      some (c.refresher.proceed c.now c.settings) := by
    unfold Refresher.step
    split
    · next h => exact absurd h hstop
    · next alarm watch h => exact absurd h (hwait alarm watch)
    all_goals exact if_neg hgo
  unfold work
  rw [hstep]

theorem work_marks (hcancel : c.refresher.cancelled = false)
    (h : c.refresher.phase = .starting) : c.work = c.goTo (.marked (.start c.settings)) := by
  rw [work_proceeds hcancel (by simp [h]) (by simp [h])]
  simp [Refresher.proceed, note, h, goTo]

theorem work_reads (hcancel : c.refresher.cancelled = false) {watch : Watch}
    (h : c.refresher.phase = .marked watch) : c.work = c.begin watch := by
  rw [work_proceeds hcancel (by simp [h]) (by simp [h])]
  simp [Refresher.proceed, note, h, begin, goTo]

theorem work_looks (hcancel : c.refresher.cancelled = false) {watch : Watch}
    {used : ClientConfig α} {name : String} {left : List String}
    {found : List (String × List Address)}
    (h : c.refresher.phase = .resolving watch used (name :: left) found) :
    c.work = c.lookUp watch used name left found := by
  rw [work_proceeds hcancel (by simp [h]) (by simp [h])]
  simp [Refresher.proceed, note, h, lookUp]

theorem work_ends (hcancel : c.refresher.cancelled = false) {watch : Watch}
    {used : ClientConfig α} {found : List (String × List Address)}
    (h : c.refresher.phase = .resolving watch used [] found) :
    c.work = c.finish watch used found := by
  rw [work_proceeds hcancel (by simp [h]) (by simp [h])]
  simp [Refresher.proceed, note, h, finish, ended]

/-- News end a wait at any time, unless the refresher has to stop. -/
theorem work_wakes (hcancel : c.refresher.cancelled = false)
    (hobserved : c.refresher.observed = true) {alarm : Alarm} {watch : Watch}
    (h : c.refresher.phase = .waiting alarm watch)
    (hnews : (alarm.isDue c.now || watch.changed c.settings) = true) :
    c.work = c.goTo .starting := by
  have hstep : c.refresher.step c.now c.settings =
      some ({ c.refresher with phase := .starting }, []) := by
    simp [Refresher.step, h, hcancel, hobserved, Bool.or_eq_true_iff.mp hnews]
  simp [work, hstep, note, h, goTo]

/-- A step of the refresher is one of those that `Works` lists. -/
theorem work_works (c : Course α) : c.Works c.work := by
  cases hcancel : c.refresher.cancelled with
  | true =>
    by_cases hstop : c.refresher.phase = .stopped
    · have hrests : c.work = c := by simp [work, Refresher.step, hstop]
      rw [hrests]
      exact .rests
    · rw [work_stops hcancel hstop]
      exact .stops (.inl hcancel)
  | false =>
    cases hphase : c.refresher.phase with
    | starting => exact work_marks hcancel hphase ▸ .marks hphase
    | marked watch => exact work_reads hcancel hphase ▸ .reads watch hphase
    | resolving watch used left found =>
      cases left with
      | nil => exact work_ends hcancel hphase ▸ .ends watch used found hphase
      | cons name left =>
        exact work_looks hcancel hphase ▸ .looks watch used name left found hphase
    | stopped =>
      have hrests : c.work = c := by simp [work, Refresher.step, hphase]
      rw [hrests]
      exact .rests
    | waiting alarm watch =>
      cases hobserved : c.refresher.observed with
      | false =>
        have hstops : c.work = c.goTo .stopped := by
          simp [work, Refresher.step, hphase, hobserved, note, goTo]
        rw [hstops]
        exact .stops (.inr hobserved)
      | true =>
        cases hnews : alarm.isDue c.now || watch.changed c.settings with
        | true =>
          exact work_wakes hcancel hobserved hphase hnews ▸ .wakes alarm watch hphase
        | false =>
          have hrests : c.work = c := by
            simp [work, Refresher.step, hphase, hcancel, hobserved, Bool.or_eq_false_iff.mp hnews]
          rw [hrests]
          exact .rests

/-! ### What the refresher has seen of the settings -/

/-- A refresher marks the settings as seen before it reads them. So what it has read is no
older than what it has seen, and whatever has come in its place since is news. -/
structure Heeds (c : Course α) : Prop where
  marked : ∀ watch, c.refresher.phase = .marked watch → watch.seen ≤ c.settings.version
  resolving : ∀ watch used left found, c.refresher.phase = .resolving watch used left found →
    watch.seen ≤ c.read ∧ (⟨used, c.read⟩ : Cell (ClientConfig α)).Later c.settings
  waiting : ∀ alarm watch, c.refresher.phase = .waiting alarm watch →
    ∃ last earlier, c.rounds = last :: earlier ∧ c.refresher.published.value = last.snapshot ∧
      watch.seen ≤ last.settings.version ∧ last.settings.Later c.settings

/-- Nothing needs to be known of the settings while the refresher holds no round. -/
theorem Heeds.of_idle (h : c.refresher.phase = .starting ∨ c.refresher.phase = .stopped) :
    c.Heeds where
  marked watch hphase := by simp [hphase] at h
  resolving watch used left found hphase := by simp [hphase] at h
  waiting alarm watch hphase := by simp [hphase] at h

theorem start_heeds (resolver : Resolver) (settings : Cell (ClientConfig α)) (now : Instant) :
    (start resolver settings now).Heeds := .of_idle (.inl rfl)

/-- What happens around the refresher may replace the settings, and does not hide that. -/
theorem Heeds.beside (h : c.Heeds) (hphase : c'.refresher.phase = c.refresher.phase)
    (hpublished : c'.refresher.published = c.refresher.published) (hread : c'.read = c.read)
    (hrounds : c'.rounds = c.rounds) (hlater : c.settings.Later c'.settings) : c'.Heeds where
  marked watch hmarked := by
    have hseen := h.marked watch (hphase ▸ hmarked)
    rcases hlater with heq | hlt
    · rw [heq]
      exact hseen
    · omega
  resolving watch used left found hresolving := by
    obtain ⟨hseen, hused⟩ := h.resolving watch used left found (hphase ▸ hresolving)
    rw [hread]
    exact ⟨hseen, hused.trans hlater⟩
  waiting alarm watch hwaiting := by
    obtain ⟨last, earlier, hlast, hshown, hseen, hused⟩ :=
      h.waiting alarm watch (hphase ▸ hwaiting)
    rw [hrounds, hpublished]
    exact ⟨last, earlier, hlast, hshown, hseen, hused.trans hlater⟩

/-- What is read was not replaced since it was marked as seen, or was and is read as it is
now: in both cases the mark is no later. -/
theorem Heeds.begin (h : c.Heeds) {watch : Watch} (hphase : c.refresher.phase = .marked watch) :
    (c.begin watch).Heeds where
  marked w hw := by cases hw
  resolving w used left found hw := by
    cases hw
    exact ⟨h.marked watch hphase, .refl c.settings⟩
  waiting alarm w hw := by cases hw

theorem Heeds.lookUp (h : c.Heeds) {watch : Watch} {used : ClientConfig α} {name : String}
    {left : List String} {found : List (String × List Address)}
    (hphase : c.refresher.phase = .resolving watch used (name :: left) found) :
    (c.lookUp watch used name left found).Heeds where
  marked w hw := by cases hw
  resolving w u l f hw := by
    cases hw
    exact h.resolving watch used (name :: left) found hphase
  waiting alarm w hw := by cases hw

theorem Heeds.finish (h : c.Heeds) {watch : Watch} {used : ClientConfig α}
    {found : List (String × List Address)}
    (hphase : c.refresher.phase = .resolving watch used [] found) :
    (c.finish watch used found).Heeds where
  marked w hw := by cases hw
  resolving w u l f hw := by cases hw
  waiting alarm w hw := by
    cases hw
    exact ⟨_, _, rfl, Refresher.publish_value _ _, h.resolving watch used [] found hphase⟩

theorem Heeds.work (h : c.Heeds) : c.work.Heeds := by
  generalize hc' : c.work = c'
  have hworks : c.Works c' := hc' ▸ c.work_works
  cases hworks with
  | rests => exact h
  | stops => exact .of_idle (.inr rfl)
  | wakes => exact .of_idle (.inl rfl)
  | marks =>
    refine ⟨fun watch hw => ?_, fun _ _ _ _ hw => (by cases hw), fun _ _ hw => (by cases hw)⟩
    cases hw
    exact Nat.le_refl c.settings.version
  | reads watch hphase => exact h.begin hphase
  | looks watch used name left found hphase => exact h.lookUp hphase
  | ends watch used found hphase => exact h.finish hphase

theorem Heeds.step (h : c.Heeds) (m : Move α) : (c.step m).Heeds := by
  cases m with
  | update config => exact h.beside rfl rfl rfl rfl (.inr (Nat.lt_succ_self c.settings.version))
  | answer resolver => exact h.beside rfl rfl rfl rfl (.refl c.settings)
  | advance span => exact h.beside rfl rfl rfl rfl (.refl c.settings)
  | cancel => exact h.beside rfl rfl rfl rfl (.refl c.settings)
  | leave => exact h.beside rfl rfl rfl rfl (.refl c.settings)
  | work => exact h.work

theorem Heeds.run (h : c.Heeds) (moves : List (Move α)) : (c.run moves).Heeds := by
  induction moves generalizing c with
  | nil => exact h
  | cons m moves ih => exact ih (h.step m)

/-- Who has marked a cell as seen before it was read finds any later replacement. -/
theorem changed_of_later {τ : Type} {watch : Watch} {used settings : Cell τ}
    (hseen : watch.seen ≤ used.version) (hlater : used.Later settings) (hne : used ≠ settings) :
    watch.changed settings = true := by
  rcases hlater with heq | hlt
  · exact absurd heq.symm hne
  · exact decide_eq_true (by omega)

/-! ### A round comes to its end -/

theorem run_replicate_succ (h : c.step .work = c') (n : Nat) :
    c.run (.replicate (n + 1) .work) = c'.run (.replicate n .work) := by
  rw [List.replicate_succ, ← h]
  rfl

/-- Names are looked up one after the other until none is left. -/
theorem run_looks {watch : Watch} {used : ClientConfig α} {left : List String}
    {found : List (String × List Address)} (hcancel : c.refresher.cancelled = false)
    (hphase : c.refresher.phase = .resolving watch used left found) :
    ∃ c' found', c.run (.replicate left.length .work) = c' ∧
      c'.refresher.phase = .resolving watch used [] found' ∧
      c'.refresher.cancelled = false ∧ c'.read = c.read ∧ c'.rounds = c.rounds := by
  induction left generalizing c found with
  | nil => exact ⟨c, found, rfl, hphase, hcancel, rfl, rfl⟩
  | cons name left ih =>
    have hstep : c.step .work = c.lookUp watch used name left found := work_looks hcancel hphase
    obtain ⟨c', found', hrun, hend, hcancel', hread, hrounds⟩ :=
      ih (c := c.lookUp watch used name left found) hcancel rfl
    exact ⟨c', found', (run_replicate_succ hstep _).trans hrun, hend, hcancel', hread, hrounds⟩

/-- When no name is left, the round comes to its end. -/
theorem run_ends {watch : Watch} {used : ClientConfig α} {left : List String}
    {found : List (String × List Address)} (hcancel : c.refresher.cancelled = false)
    (hphase : c.refresher.phase = .resolving watch used left found) :
    ∃ c' next, c.run (.replicate (left.length + 1) .work) = c' ∧
      c'.rounds = next :: c.rounds ∧ next.settings = ⟨used, c.read⟩ ∧
      c'.refresher.published.value = next.snapshot := by
  obtain ⟨ending, found', hlooks, hend, hcancel', hread, hrounds⟩ := run_looks hcancel hphase
  have hfinish : ending.step .work = ending.finish watch used found' := work_ends hcancel' hend
  refine ⟨ending.finish watch used found', _, ?_, congrArg (_ :: ·) hrounds,
    congrArg (Cell.mk used) hread, Refresher.publish_value _ _⟩
  rw [List.replicate_succ', run_append, hlooks]
  exact hfinish

/-- A refresher that has marked the settings holds a round with the present ones, if it is left
alone. -/
theorem run_reads {watch : Watch} (hcancel : c.refresher.cancelled = false)
    (hphase : c.refresher.phase = .marked watch) :
    ∃ c' next, c.run (.replicate ((Refresher.hostnames c.settings.value).length + 2) .work) = c' ∧
      c'.rounds = next :: c.rounds ∧ next.settings = c.settings ∧
      c'.refresher.published.value = next.snapshot := by
  have hread : c.step .work = c.begin watch := work_reads hcancel hphase
  obtain ⟨c', next, hrun, hends⟩ := run_ends (c := c.begin watch) hcancel rfl
  exact ⟨c', next, (run_replicate_succ hread _).trans hrun, hends⟩

/-- So does one that is about to start. -/
theorem run_resolves (hcancel : c.refresher.cancelled = false)
    (hphase : c.refresher.phase = .starting) :
    ∃ c' next, c.run (.replicate ((Refresher.hostnames c.settings.value).length + 3) .work) = c' ∧
      c'.rounds = next :: c.rounds ∧ next.settings = c.settings ∧
      c'.refresher.published.value = next.snapshot := by
  let marked := c.goTo (.marked (.start c.settings))
  have hmark : c.step .work = marked := work_marks hcancel hphase
  obtain ⟨c', next, hrun, hends⟩ := run_reads (c := marked) hcancel rfl
  exact ⟨c', next, (run_replicate_succ hmark _).trans hrun, hends⟩

/-! ### There is always another round -/

/-- After such a move the refresher may go on: it was not told to stop, and whoever reads what it
publishes still does. -/
def Move.letsGoOn : Move α → Bool
  | .cancel | .leave => false
  | .update _ | .answer _ | .advance _ | .work => true

/-- A refresher that has no reason to stop. -/
structure Active (c : Course α) : Prop where
  cancelled : c.refresher.cancelled = false
  observed : c.refresher.observed = true
  running : c.refresher.phase ≠ .stopped

theorem start_active (resolver : Resolver) (settings : Cell (ClientConfig α)) (now : Instant) :
    (start resolver settings now).Active := ⟨rfl, rfl, nofun⟩

theorem Active.work (h : c.Active) : c.work.Active := by
  generalize hc' : c.work = c'
  have hworks : c.Works c' := hc' ▸ c.work_works
  cases hworks with
  | rests => exact h
  | stops hcause =>
    rcases hcause with hcancel | hunread
    · rw [h.cancelled] at hcancel
      cases hcancel
    · rw [h.observed] at hunread
      cases hunread
  | wakes => exact ⟨h.cancelled, h.observed, nofun⟩
  | marks => exact ⟨h.cancelled, h.observed, nofun⟩
  | reads => exact ⟨h.cancelled, h.observed, nofun⟩
  | looks => exact ⟨h.cancelled, h.observed, nofun⟩
  | ends =>
    exact ⟨(Refresher.publish_cancelled _ _).trans h.cancelled,
      (Refresher.publish_observed _ _).trans h.observed, nofun⟩

theorem Active.step (h : c.Active) {m : Move α} (hm : m.letsGoOn = true) : (c.step m).Active := by
  cases m with
  | update config => exact ⟨h.cancelled, h.observed, h.running⟩
  | answer resolver => exact ⟨h.cancelled, h.observed, h.running⟩
  | advance span => exact ⟨h.cancelled, h.observed, h.running⟩
  | cancel => cases hm
  | leave => cases hm
  | work => exact h.work

theorem Active.run (h : c.Active) {moves : List (Move α)}
    (hmoves : ∀ m ∈ moves, m.letsGoOn = true) : (c.run moves).Active := by
  induction moves generalizing c with
  | nil => exact h
  | cons m moves ih =>
    obtain ⟨hm, hmoves⟩ := List.forall_mem_cons.mp hmoves
    exact ih (h.step hm) hmoves

/-- The time until the refresher has to do something again. -/
def rest (c : Course α) : Nanos := c.refresher.alarm?.elim 0 fun a => a.rings - c.now

/-- A refresher that has no reason to stop ends a round more, once it is time for that. -/
theorem Active.completes (h : c.Active) :
    ∃ steps c' next, c.run (.advance c.rest :: .replicate steps .work) = c' ∧
      c'.rounds = next :: c.rounds ∧ c'.refresher.published.value = next.snapshot := by
  let due := c.step (.advance c.rest)
  -- Whatever phase it is in, the rest of the round is one of those above.
  suffices hround : ∃ steps c' next, due.run (.replicate steps .work) = c' ∧
      c'.rounds = next :: c.rounds ∧ c'.refresher.published.value = next.snapshot from hround
  cases hphase : c.refresher.phase with
  | starting =>
    obtain ⟨c', next, hrun, hrounds, -, hshown⟩ := run_resolves (c := due) h.cancelled hphase
    exact ⟨_, c', next, hrun, hrounds, hshown⟩
  | marked watch =>
    obtain ⟨c', next, hrun, hrounds, -, hshown⟩ := run_reads (c := due) h.cancelled hphase
    exact ⟨_, c', next, hrun, hrounds, hshown⟩
  | resolving watch used left found =>
    obtain ⟨c', next, hrun, hrounds, -, hshown⟩ := run_ends (c := due) h.cancelled hphase
    exact ⟨_, c', next, hrun, hrounds, hshown⟩
  | waiting alarm watch =>
    have hrest : c.rest = alarm.rings - c.now := by
      simp only [rest, Refresher.alarm?, hphase, Option.elim_some]
    have hring : alarm.isDue due.now = true := by
      refine decide_eq_true ?_
      show alarm.rings ≤ c.now + c.rest
      rw [hrest]
      exact Nat.sub_le_iff_le_add'.mp (Nat.le_refl _)
    have hwake : due.step .work = due.goTo .starting :=
      work_wakes h.cancelled h.observed hphase (by rw [hring, Bool.true_or])
    obtain ⟨c', next, hrun, hrounds, -, hshown⟩ :=
      run_resolves (c := due.goTo .starting) h.cancelled rfl
    exact ⟨_, c', next, (run_replicate_succ hwake _).trans hrun, hrounds, hshown⟩
  | stopped => exact absurd hphase h.running

/-- Whatever has happened, and whatever round it is in: a refresher that was not told to stop, and
that somebody reads, completes any number of rounds more if it is left alone for long enough. -/
theorem run_completes (resolver : Resolver) (settings : Cell (ClientConfig α)) (now : Instant)
    (moves : List (Move α)) (hmoves : ∀ m ∈ moves, m.letsGoOn = true) (n : Nat) :
    let c := (start resolver settings now).run moves
    ∃ more : List (Move α), (∀ m ∈ more, m = .work ∨ ∃ span, m = .advance span) ∧
      (c.run more).rounds.length = c.rounds.length + n := by
  intro c
  have h : c.Active := (start_active resolver settings now).run hmoves
  clear_value c
  induction n generalizing c with
  | zero => exact ⟨[], fun m hm => absurd hm List.not_mem_nil, rfl⟩
  | succ n ih =>
    obtain ⟨steps, c', next, hrun, hrounds, -⟩ := h.completes
    have halone : ∀ m ∈ Move.advance c.rest :: List.replicate steps (Move.work : Move α),
        m = .work ∨ ∃ span, m = .advance span := by
      intro m hm
      rcases List.mem_cons.mp hm with rfl | hm
      · exact .inr ⟨_, rfl⟩
      · exact .inl (List.eq_of_mem_replicate hm)
    have hactive : c'.Active := by
      rw [← hrun]
      refine h.run fun m hm => ?_
      rcases halone m hm with rfl | ⟨span, rfl⟩ <;> rfl
    obtain ⟨more, hmore, hlength⟩ := ih c' hactive
    refine ⟨(Move.advance c.rest :: List.replicate steps .work) ++ more, ?_, ?_⟩
    · exact fun m hm => (List.mem_append.mp hm).elim (halone m) (hmore m)
    · rw [run_append, hrun, hlength, hrounds, List.length_cons]
      omega

/-! ### No replacement is missed -/

/-- What is promised about the settings while they are replaced. -/
structure MissesNothing (c : Course α) : Prop where
  /-- A refresher that waits without news has used the present settings in its last round,
  and what is published came of that round. -/
  settled : ∀ alarm watch, c.refresher.phase = .waiting alarm watch →
    watch.changed c.settings = false →
    ∃ last earlier, c.rounds = last :: earlier ∧ last.settings = c.settings ∧
      c.refresher.published.value = last.snapshot
  /-- Settings that were replaced after the round under way has read them are news. -/
  pending : ∀ watch used left found, c.refresher.phase = .resolving watch used left found →
    (⟨used, c.read⟩ : Cell (ClientConfig α)) ≠ c.settings → watch.changed c.settings = true
  /-- Settings that the last round did not use are news. -/
  overdue : ∀ alarm watch, c.refresher.phase = .waiting alarm watch →
    (∀ last ∈ c.rounds.head?, last.settings ≠ c.settings) → watch.changed c.settings = true
  /-- News end the wait at any time, and the next round uses the present settings. -/
  woken : ∀ alarm watch, c.refresher.phase = .waiting alarm watch →
    watch.changed c.settings = true →
    c.refresher.cancelled = false → c.refresher.observed = true →
    (∀ now, c.refresher.step now c.settings =
      some ({ c.refresher with phase := .starting }, [])) ∧
    ∃ c' next,
      c.run (.replicate ((Refresher.hostnames c.settings.value).length + 4) .work) = c' ∧
      c'.rounds = next :: c.rounds ∧ next.settings = c.settings ∧
      c'.refresher.published.value = next.snapshot

/-- Settings may be replaced at any point of any round, and as often as one likes: the
refresher uses the latest ones in the end, and does not wait for the time of its next round
to do so. -/
theorem run_misses_nothing (resolver : Resolver) (settings : Cell (ClientConfig α))
    (now : Instant) (moves : List (Move α)) :
    ((start resolver settings now).run moves).MissesNothing := by
  have h : ((start resolver settings now).run moves).Heeds :=
    (start_heeds resolver settings now).run moves
  generalize (start resolver settings now).run moves = c at h ⊢
  refine ⟨fun alarm watch hphase hquiet => ?_, fun watch used left found hphase hne => ?_,
    fun alarm watch hphase hne => ?_, fun alarm watch hphase hnews hcancel hobserved => ?_⟩
  · obtain ⟨last, earlier, hlast, hshown, hseen, hlater⟩ := h.waiting alarm watch hphase
    refine ⟨last, earlier, hlast, Classical.byContradiction fun hne => ?_, hshown⟩
    rw [changed_of_later hseen hlater hne] at hquiet
    cases hquiet
  · obtain ⟨hseen, hlater⟩ := h.resolving watch used left found hphase
    exact changed_of_later hseen hlater hne
  · obtain ⟨last, earlier, hlast, -, hseen, hlater⟩ := h.waiting alarm watch hphase
    exact changed_of_later hseen hlater (hne last (by rw [hlast]; rfl))
  · have hwakes : c.step .work = c.goTo .starting :=
      work_wakes hcancel hobserved hphase (by rw [hnews, Bool.or_true])
    obtain ⟨c', next, hrun, hrounds, hsettings, hshown⟩ :=
      run_resolves (c := c.goTo .starting) hcancel rfl
    refine ⟨fun time => ?_, c', next, (run_replicate_succ hwakes _).trans hrun, hrounds,
      hsettings, hshown⟩
    simp [Refresher.step, hphase, hcancel, hobserved, hnews]

end Course

end RpcPipeline
