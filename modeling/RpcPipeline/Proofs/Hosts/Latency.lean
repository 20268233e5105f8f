import RpcPipeline.Proofs.Hosts.Permits

/-!
# `RpcPipeline.Proofs.Hosts.Latency`: the least latency of a window

A limiter judges a success by the least latency of the window in which the success ends. It
keeps no latencies for that, only the least one and the time at which the window opened.

Here all successes of a run are kept, and the windows are cut out of them afterwards: the
first one opens when the limiter is created, and a success that ends more than a minute after
a window opened opens the next one. Where a call was started plays no part in this. One that
was started windows ago counts with its whole latency in the window in which it ends.

* `Permits.Sample`: a success.
* `Permits.opened`, `Permits.least`: the window after some successes, and the least latency
  in it.
* `Permits.successes`: the successes of a run.
* `Permits.Gauges`: the limiter has the window and the least latency of the successes so far,
  the next success moves the limit as its latency says, and nothing else concerns the window.
* `Permits.run_gauges`: this holds after every run, over exact numbers, as long as times fit
  into 64 bits.
-/

set_option autoImplicit false

namespace RpcPipeline

namespace Permits

/-! ### The windows of a history -/

/-- A success: when the call ended, and how long it had taken. -/
structure Sample where
  ended : Instant
  latency : Nanos
  deriving DecidableEq, Repr

/-- When the window opened that some successes, the latest first, have led to. -/
def opened (created : Instant) : List Sample → Instant
  | [] => created
  | s :: earlier =>
    if opened created earlier + Nanos.seconds 60 < s.ended then s.ended else opened created earlier

/-- The least latency of the successes since the window opened. -/
def least (created : Instant) (past : List Sample) : Option Nanos :=
  ((past.filter fun s => opened created past ≤ s.ended).map Sample.latency).min?

variable {created now : Instant} {past : List Sample} {s : Sample}

theorem opened_cons_next (h : opened created past + Nanos.seconds 60 < s.ended) :
    opened created (s :: past) = s.ended :=
  if_pos h

theorem opened_cons_same (h : ¬ opened created past + Nanos.seconds 60 < s.ended) :
    opened created (s :: past) = opened created past :=
  if_neg h

/-- No success has ended more than a minute after the window opened. -/
theorem ended_le (hs : s ∈ past) : s.ended ≤ opened created past + Nanos.seconds 60 := by
  induction past with
  | nil => cases hs
  | cons latest earlier ih =>
    by_cases hnext : opened created earlier + Nanos.seconds 60 < latest.ended
    · rw [opened_cons_next hnext]
      rcases List.mem_cons.mp hs with rfl | hs
      · exact Nat.le_add_right s.ended _
      · have := ih hs
        lia
    · rw [opened_cons_same hnext]
      rcases List.mem_cons.mp hs with rfl | hs
      · lia
      · exact ih hs

/-- A success that opens a window is alone in it: all others ended before. -/
theorem least_cons_next (h : opened created past + Nanos.seconds 60 < s.ended) :
    least created (s :: past) = some s.latency := by
  have hothers : (past.filter fun e => s.ended ≤ e.ended) = [] := by
    rw [List.filter_eq_nil_iff]
    intro e he
    have hended : e.ended ≤ opened created past + Nanos.seconds 60 := ended_le he
    simp only [decide_eq_true_eq]
    lia
  unfold least
  rw [opened_cons_next h, List.filter_cons_of_pos (by simp), hothers]
  rfl

/-- A success that opens no window joins those of the present one. -/
theorem least_cons_same (h : ¬ opened created past + Nanos.seconds 60 < s.ended)
    (hlate : opened created past ≤ s.ended) :
    least created (s :: past) = some ((least created past).elim s.latency (min s.latency)) := by
  unfold least
  rw [opened_cons_same h, List.filter_cons_of_pos (by simpa using hlate), List.map_cons,
    List.min?_cons]

/-- The least latency is that of a success since the window opened. -/
theorem exists_of_least {shortest : Nanos} (h : least created past = some shortest) :
    ∃ s ∈ past, opened created past ≤ s.ended ∧ s.latency = shortest := by
  obtain ⟨s, hs, hlatency⟩ := List.mem_map.mp (List.min?_mem h)
  obtain ⟨hmem, hrecent⟩ := List.mem_filter.mp hs
  exact ⟨s, hmem, of_decide_eq_true hrecent, hlatency⟩

/-- And it is no longer than that of any success since then. -/
theorem exists_least (hs : s ∈ past) (hrecent : opened created past ≤ s.ended) :
    ∃ shortest ≤ s.latency, least created past = some shortest := by
  have hmem : s.latency ∈ (past.filter fun e => opened created past ≤ e.ended).map Sample.latency :=
    List.mem_map_of_mem (List.mem_filter.mpr ⟨hs, decide_eq_true hrecent⟩)
  exact ⟨_, List.min?_get_le_of_mem hmem, (Option.some_get _).symm⟩

/-- The window is never one that opens later. -/
theorem opened_cons_le (hpast : opened created past ≤ now) (hs : s.ended ≤ now) :
    opened created (s :: past) ≤ now := by
  unfold opened
  split
  · exact hs
  · exact hpast

end Permits

/-! ### What a limiter notes -/

namespace Limiter

variable {α : Type} {l : Limiter α} {now : Instant} {latency : Nanos}

/-- Two limiters have the same window, with the same least latency in it. -/
structure SameWindow (l l' : Limiter α) : Prop where
  created : l'.created = l.created
  windowStart : l'.windowStart = l.windowStart
  minLatency : l'.minLatency = l.minLatency

theorem SameWindow.refl (l : Limiter α) : SameWindow l l := ⟨rfl, rfl, rfl⟩

theorem SameWindow.minLatency? {l l' : Limiter α} (h : SameWindow l l') :
    l'.minLatency? = l.minLatency? := by
  unfold Limiter.minLatency?
  rw [h.minLatency]

theorem acquire_sameWindow [Scalar α] (l : Limiter α) : SameWindow l l.acquire.2.1 := by
  unfold acquire
  split <;> exact ⟨rfl, rfl, rfl⟩

/-- Only a success is noted. -/
theorem learn_sameWindow [Scalar α] (l : Limiter α) (now : Instant) {outcome : Outcome}
    (latency : Nanos) (h : outcome ≠ .success) :
    SameWindow l (l.learn now outcome latency).1 := by
  cases outcome with
  | success => exact absurd rfl h
  | overloaded => exact ⟨rfl, rfl, rfl⟩
  | hostFailure => exact ⟨rfl, rfl, rfl⟩
  | serverError => exact ⟨rfl, rfl, rfl⟩
  | ignored => exact ⟨rfl, rfl, rfl⟩

/-- What a success does to the limit has no part in what is noted of it. -/
theorem learn_success_sameWindow [Scalar α] (l : Limiter α) (now : Instant) (latency : Nanos) :
    SameWindow (l.observe now latency).2 (l.learn now .success latency).1 := by
  unfold learn
  dsimp only
  split <;> exact ⟨rfl, rfl, rfl⟩

/-- A success moves the limit if it took no longer than the least latency, stretched. -/
theorem learn_success_limit [Scalar α] (l : Limiter α) (now : Instant) (latency : Nanos) :
    (l.learn now .success latency).1.limit =
      if Scalar.stretch (l.observe now latency).1 l.config.latencyTolerance < latency then l.limit
      else Scalar.smaller (l.limit + 1 / l.limit) l.config.maxLimit := by
  obtain ⟨hconfig, hlimit, -⟩ := l.observe_keeps now latency
  unfold learn
  dsimp only
  rw [hconfig]
  split
  · exact hlimit
  · rw [hlimit]

/-- While times fit into 64 bits, the sample is the latency itself. -/
theorem observe_eq (hlatency : latency < 2 ^ 64) (helapsed : now - l.created < 2 ^ 64) :
    l.observe now latency =
      if Nanos.seconds 60 < now - l.created - l.windowStart then
        (latency, { l with windowStart := now - l.created, minLatency := latency })
      else (min l.minLatency latency, { l with minLatency := min l.minLatency latency }) := by
  have hsample : latency < UInt64.size := hlatency
  have hnow : min (now - l.created) (UInt64.size - 1) = now - l.created :=
    Nat.min_eq_left (Nat.le_sub_one_of_lt helapsed)
  unfold observe
  dsimp only
  rw [if_pos hsample, hnow]
  rfl

/-- The least latency that is noted is the one that is passed on. -/
theorem observe_minLatency (hlatency : latency < 2 ^ 64) (helapsed : now - l.created < 2 ^ 64) :
    (l.observe now latency).2.minLatency = (l.observe now latency).1 := by
  rw [observe_eq hlatency helapsed]
  split <;> rfl

theorem observe_created (l : Limiter α) (now : Instant) (latency : Nanos) :
    (l.observe now latency).2.created = l.created := by
  unfold observe
  dsimp only
  split <;> rfl

/-- The least latency that a success is judged by is not longer than its own. -/
theorem observe_fst_le (hlatency : latency < 2 ^ 64) (helapsed : now - l.created < 2 ^ 64) :
    (l.observe now latency).1 ≤ latency := by
  rw [observe_eq hlatency helapsed]
  split
  · exact le_rfl
  · exact Nat.min_le_right ..

/-- What the limiter of a run has noted of the successes so far. -/
structure Notes (past : List Permits.Sample) (now : Instant) (l : Limiter α) : Prop where
  window : l.created + l.windowStart = Permits.opened l.created past
  least : l.minLatency = (Permits.least l.created past).getD noLatency
  opened_le : Permits.opened l.created past ≤ now

/-- The limiter tells the least latency of the window, unless that is the number which stands
for none. -/
theorem Notes.minLatency? {past : List Permits.Sample} (h : l.Notes past now) :
    l.minLatency? = (Permits.least l.created past).filter (· ≠ noLatency) := by
  unfold Limiter.minLatency?
  rw [h.least]
  cases Permits.least l.created past with
  | none => rfl
  | some shortest =>
    rw [Option.getD_some, Option.filter_some]
    simp only [decide_eq_true_eq, ite_not]

theorem Notes.of_sameWindow {past : List Permits.Sample} {now' : Instant} {l' : Limiter α}
    (h : l.Notes past now) (hsame : SameWindow l l') (hnow : now ≤ now') :
    l'.Notes past now' where
  window := by
    rw [hsame.created, hsame.windowStart]
    exact h.window
  least := by
    rw [hsame.minLatency, hsame.created]
    exact h.least
  opened_le := by
    rw [hsame.created]
    exact h.opened_le.trans hnow

/-- One success more. -/
theorem Notes.observe {past : List Permits.Sample} (h : l.Notes past now)
    (hlatency : latency < 2 ^ 64) (helapsed : now - l.created < 2 ^ 64) :
    (l.observe now latency).2.Notes (⟨now, latency⟩ :: past) now := by
  have hwindow := h.window
  have hopened := h.opened_le
  by_cases hnext : Nanos.seconds 60 < now - l.created - l.windowStart
  · have hlate : Permits.opened l.created past + Nanos.seconds 60 < now := by lia
    rw [observe_eq hlatency helapsed, if_pos hnext]
    refine ⟨?_, ?_, ?_⟩
    · show l.created + (now - l.created) = Permits.opened l.created (⟨now, latency⟩ :: past)
      rw [Permits.opened_cons_next hlate]
      show l.created + (now - l.created) = now
      lia
    · show latency = (Permits.least l.created (⟨now, latency⟩ :: past)).getD noLatency
      rw [Permits.least_cons_next hlate]
      rfl
    · exact Permits.opened_cons_le hopened le_rfl
  · have hearly : ¬ Permits.opened l.created past + Nanos.seconds 60 < now := by lia
    rw [observe_eq hlatency helapsed, if_neg hnext]
    refine ⟨?_, ?_, ?_⟩
    · exact hwindow.trans (Permits.opened_cons_same hearly).symm
    · show min l.minLatency latency =
        (Permits.least l.created (⟨now, latency⟩ :: past)).getD noLatency
      rw [Permits.least_cons_same hearly hopened, h.least, Option.getD_some]
      cases Permits.least l.created past with
      | none =>
        -- Nothing was noted yet, and what stands for that is not below any latency.
        exact Nat.min_eq_right (Nat.le_of_lt_succ hlatency)
      | some shortest => exact Nat.min_comm ..
    · exact Permits.opened_cons_le hopened le_rfl

end Limiter

/-! ### What a run brings -/

namespace Permits

section

variable {α : Type}

/-- The success that a move is, if it is one: the end of a call that holds a slot. -/
def success? (x : Permits α) : Move α → Option Sample
  | .complete n .success =>
    match x.claimed[n]? with
    | some (some started) => some ⟨x.now, x.now - started⟩
    | _ => none
  | _ => none

/-- The move that a success is. -/
theorem exists_of_success? {x : Permits α} {m : Move α} {s : Sample}
    (h : x.success? m = some s) :
    ∃ n started, m = .complete n .success ∧ x.claimed[n]? = some (some started) ∧
      s = ⟨x.now, x.now - started⟩ := by
  unfold success? at h
  split at h
  · next n =>
    split at h
    · next started hslot => exact ⟨n, started, rfl, hslot, (Option.some.inj h).symm⟩
    · cases h
  · cases h

variable [Scalar α]

/-- The successes of a run, the latest first, after those that were there before. -/
def successes (x : Permits α) (past : List Sample) : List (Move α) → List Sample
  | [] => past
  | m :: moves => successes (x.step m) ((x.success? m).toList ++ past) moves

/-- The limiter was created before every slot of it was claimed, no success took longer than
there was time, the latest one has ended in the present window, and the limiter has noted the
successes so far. -/
structure Noted (created : Instant) (past : List Sample) (x : Permits α) : Prop where
  since : x.limiter.created = created
  claimed : ∀ started, some started ∈ x.claimed → created ≤ started
  created_le : created ≤ x.now
  latency_le : ∀ s ∈ past, s.latency ≤ x.now - created
  recent : ∀ s ∈ past.head?, opened created past ≤ s.ended
  notes : x.limiter.Notes past x.now

variable {created : Instant} {past : List Sample} {x : Permits α} {m : Move α}

/-- A move that is no success leaves the window as it is. -/
theorem step_sameWindow (h : x.success? m = none) :
    Limiter.SameWindow x.limiter (x.step m).limiter := by
  cases m with
  | acquire => exact x.limiter.acquire_sameWindow
  | complete n outcome =>
    unfold step
    dsimp only
    split
    · next started hslot =>
      have houtcome : outcome ≠ .success := by
        rintro rfl
        simp [success?, hslot] at h
      have hlearn := x.limiter.learn_sameWindow x.now (x.now - started) houtcome
      exact ⟨hlearn.created, hlearn.windowStart, hlearn.minLatency⟩
    · exact .refl _
  | drop n =>
    unfold step
    dsimp only
    split
    · exact ⟨rfl, rfl, rfl⟩
    · exact .refl _
  | configure config => exact ⟨rfl, rfl, rfl⟩
  | advance span => exact ⟨rfl, rfl, rfl⟩

theorem step_success {n : Nat} {started : Instant} (hslot : x.claimed[n]? = some (some started)) :
    x.step (.complete n .success) =
      { x with
        limiter := (x.limiter.complete x.now started .success).1
        claimed := x.claimed.set n none } := by
  unfold step
  dsimp only
  rw [hslot]

/-- A success is noted. -/
theorem step_success_sameWindow {n : Nat} {started : Instant}
    (hslot : x.claimed[n]? = some (some started)) :
    Limiter.SameWindow (x.limiter.observe x.now (x.now - started)).2
      (x.step (.complete n .success)).limiter := by
  rw [step_success hslot]
  have hlearn := x.limiter.learn_success_sameWindow x.now (x.now - started)
  exact ⟨hlearn.created, hlearn.windowStart, hlearn.minLatency⟩

theorem now_le_step (x : Permits α) (m : Move α) : x.now ≤ (x.step m).now := by
  cases m with
  | advance span => exact Nat.le_add_right x.now span
  | acquire => exact le_rfl
  | configure config => exact le_rfl
  | complete n outcome =>
    unfold step
    dsimp only
    split <;> exact le_rfl
  | drop n =>
    unfold step
    dsimp only
    split <;> exact le_rfl

/-- The clock is never set back. -/
theorem now_le_run (x : Permits α) (moves : List (Move α)) : x.now ≤ (x.run moves).now := by
  induction moves generalizing x with
  | nil => exact le_rfl
  | cons m moves ih => exact (x.now_le_step m).trans (ih (x.step m))

/-- A slot that is held after a move was held before, or it has just been claimed. -/
theorem claimed_step {started : Instant} (h : some started ∈ (x.step m).claimed) :
    some started ∈ x.claimed ∨ started = x.now := by
  -- A slot that was given back is not held.
  have hset : ∀ n, some started ∈ x.claimed.set n none → some started ∈ x.claimed := by
    intro n hn
    rcases List.mem_or_eq_of_mem_set hn with hn | hn
    · exact hn
    · cases hn
  cases m with
  | acquire =>
    unfold step at h
    dsimp only at h
    split at h
    · simpa using h
    · exact .inl h
  | complete n outcome =>
    unfold step at h
    dsimp only at h
    split at h
    · exact .inl (hset n h)
    · exact .inl h
  | drop n =>
    unfold step at h
    dsimp only at h
    split at h
    · exact .inl (hset n h)
    · exact .inl h
  | configure config => exact .inl h
  | advance span => exact .inl h

omit [Scalar α] in
/-- A success takes no longer than there was time: no slot was claimed before the limiter was
created. -/
theorem Noted.success_latency_le (h : Noted created past x) {n : Nat} {started : Instant}
    (hslot : x.claimed[n]? = some (some started)) : x.now - started ≤ x.now - created :=
  Nat.sub_le_sub_left (h.claimed started (List.mem_of_getElem? hslot)) x.now

/-- While times fit into 64 bits, a limiter notes the successes that there are. -/
theorem Noted.step (h : Noted created past x) (helapsed : x.now - created < 2 ^ 64)
    (m : Move α) : Noted created ((x.success? m).toList ++ past) (x.step m) := by
  have hclaimed : ∀ started, some started ∈ (x.step m).claimed → created ≤ started := by
    intro started hstarted
    rcases claimed_step hstarted with hheld | rfl
    · exact h.claimed started hheld
    · exact h.created_le
  have hnow : created ≤ (x.step m).now := h.created_le.trans (x.now_le_step m)
  have hlater : x.now - created ≤ (x.step m).now - created :=
    Nat.sub_le_sub_right (x.now_le_step m) created
  have hpast : ∀ s ∈ past, s.latency ≤ (x.step m).now - created := fun s hs =>
    (h.latency_le s hs).trans hlater
  cases hs : x.success? m with
  | none =>
    have hsame := step_sameWindow hs
    exact ⟨hsame.created.trans h.since, hclaimed, hnow, hpast, h.recent,
      h.notes.of_sameWindow hsame (x.now_le_step m)⟩
  | some s =>
    obtain ⟨n, started, rfl, hslot, rfl⟩ := exists_of_success? hs
    have hlatency := h.success_latency_le hslot
    have hnoted := h.notes.observe (hlatency.trans_lt helapsed) (h.since ▸ helapsed)
    have hsame := step_success_sameWindow hslot
    have hopened : opened created (⟨x.now, x.now - started⟩ :: past) ≤ x.now :=
      opened_cons_le (h.since ▸ h.notes.opened_le) le_rfl
    refine ⟨?_, hclaimed, hnow, ?_, ?_, hnoted.of_sameWindow hsame (x.now_le_step _)⟩
    · exact hsame.created.trans ((x.limiter.observe_created ..).trans h.since)
    · exact List.forall_mem_cons.mpr ⟨hlatency.trans hlater, hpast⟩
    · rintro s ⟨⟩
      exact hopened

/-- A limiter notes the successes of a whole run. -/
theorem Noted.run (h : Noted created past x) {moves : List (Move α)}
    (helapsed : (x.run moves).now - created < 2 ^ 64) :
    Noted created (x.successes past moves) (x.run moves) := by
  -- Every move adds to what there was, so the induction is for all pasts at once.
  induction moves generalizing x past with
  | nil => exact h
  | cons m moves ih =>
    have hnow : x.now ≤ ((x.step m).run moves).now :=
      (x.now_le_step m).trans ((x.step m).now_le_run moves)
    have hx : x.now - created < 2 ^ 64 := (Nat.sub_le_sub_right hnow created).trans_lt helapsed
    exact ih (h.step hx m) helapsed

omit [Scalar α] in
theorem start_noted (host : String) (config : LimitConfig α) (now : Instant) :
    Noted now [] (start host config now) where
  since := rfl
  claimed _ hstarted := by cases hstarted
  created_le := le_rfl
  latency_le _ hs := by cases hs
  recent _ hs := by cases hs
  notes := ⟨rfl, rfl, le_rfl⟩

omit [Scalar α] in
/-- What the limiter tells of the successes so far. -/
theorem Noted.minLatency?_eq (h : Noted created past x) :
    x.limiter.minLatency? = (least created past).filter (· ≠ Limiter.noLatency) :=
  h.since ▸ h.notes.minLatency?

omit [Scalar α] in
/-- Before the very last moment that fits into 64 bits, that is the least latency itself. -/
theorem Noted.minLatency?_eq_least (h : Noted created past x)
    (helapsed : x.now - created < Limiter.noLatency) :
    x.limiter.minLatency? = least created past := by
  rw [h.minLatency?_eq]
  cases hleast : least created past with
  | none => rfl
  | some shortest =>
    obtain ⟨s, hs, -, hlatency⟩ := exists_of_least hleast
    have hlt : shortest < Limiter.noLatency := hlatency ▸ (h.latency_le s hs).trans_lt helapsed
    exact Option.filter_some_pos (decide_eq_true hlt.ne)

end

/-! ### Every run -/

/-- What a limiter of exact numbers that was created at `created` makes of the successes so
far, and of whatever comes next. -/
structure Gauges (created : Instant) (past : List Sample) (x : Permits Rat) : Prop where
  window : created + x.limiter.windowStart = opened created past
  least : x.limiter.minLatency? = least created past
  /-- A success is judged by the least latency of its window, in which it counts itself. -/
  success : ∀ m s, x.success? m = some s → ∃ shortest,
    Permits.least created (s :: past) = some shortest ∧
      (x.step m).limiter.minLatency? = some shortest ∧
      (x.step m).limiter.limit =
        if (s.latency : Rat) ≤ x.limiter.config.latencyTolerance * shortest then
          min (x.limiter.limit + 1 / x.limiter.limit) x.limiter.config.maxLimit
        else x.limiter.limit
  other : ∀ m, x.success? m = none →
    (x.step m).limiter.minLatency? = x.limiter.minLatency? ∧
      (x.step m).limiter.windowStart = x.limiter.windowStart

variable {created : Instant} {past : List Sample} {x : Permits Rat}

/-- A success is never quicker than the least latency that it is judged by. -/
theorem Noted.gauges (h : Noted created past x) (helapsed : x.now - created < Limiter.noLatency) :
    Gauges created past x where
  window := by
    rw [← h.since]
    exact h.notes.window
  least := h.minLatency?_eq_least helapsed
  success m s hs := by
    obtain ⟨n, started, rfl, hslot, rfl⟩ := exists_of_success? hs
    have hfits : x.now - created < 2 ^ 64 := helapsed.trans (by decide)
    have hlatency := (h.success_latency_le hslot).trans_lt hfits
    have hl : x.now - x.limiter.created < 2 ^ 64 := h.since ▸ hfits
    have hnoted := h.step hfits (.complete n .success)
    have hle := Limiter.observe_fst_le hlatency hl
    have hsame := step_success_sameWindow hslot
    have hsome : (x.step (.complete n .success)).limiter.minLatency? =
        some (x.limiter.observe x.now (x.now - started)).1 := by
      have hlt := (hle.trans (h.success_latency_le hslot)).trans_lt helapsed
      unfold Limiter.minLatency?
      rw [hsame.minLatency, Limiter.observe_minLatency hlatency hl]
      exact if_neg hlt.ne
    rw [hs] at hnoted
    refine ⟨_, ?_, hsome, ?_⟩
    · rw [← hsome]
      have hnow : (x.step (.complete n .success)).now = x.now := by rw [step_success hslot]
      exact (hnoted.minLatency?_eq_least (hnow ▸ helapsed)).symm
    · rw [step_success hslot]
      show (x.limiter.learn x.now .success (x.now - started)).1.limit = _
      rw [Limiter.learn_success_limit, Scalar.smaller_eq_min, mul_comm, ← ite_not]
      simp only [Scalar.stretch_lt_iff hle, not_lt]
  other m hm := ⟨(step_sameWindow hm).minLatency?, (step_sameWindow hm).windowStart⟩

/-- Let slots of a new limiter be claimed and given back by calls with whatever outcomes, and
let time pass and settings be replaced, in any order, as long as the time since the limiter
was created fits into 64 bits. Then the limiter has the window that the successes so far have
led to and the least latency of those in it. If the next thing that happens is a success,
this holds with it as well, and it raises the limit by the inverse of the limit, up to the
maximum, if it took no longer than the tolerance allows, and otherwise leaves the limit as it
is. Nothing else that can happen concerns the window or the least latency. -/
theorem run_gauges (host : String) (config : LimitConfig Rat) (now : Instant)
    {moves : List (Move Rat)}
    (helapsed : ((start host config now).run moves).now - now < 2 ^ 64 - 1) :
    Gauges now ((start host config now).successes [] moves)
      ((start host config now).run moves) :=
  ((start_noted host config now).run (helapsed.trans (by decide))).gauges helapsed

/-- A slow call is under way while two quick ones succeed, the second one when the window has
been open for exactly a minute. The slow one ends a nanosecond later. -/
def straddling : List (Move Rat) :=
  [.acquire, .acquire, .advance 1000, .complete 1 .success, .acquire, .advance 59999999000,
    .complete 2 .success, .advance 1, .complete 0 .success]

/-- The slow call opens the second window, and its latency is the only one in it. -/
theorem run_gauges_straddling :
    Gauges 5 [⟨60000000006, 60000000001⟩, ⟨60000000005, 59999999000⟩, ⟨1005, 1000⟩]
        ((start "h" wide 5).run straddling) ∧
      ((start "h" wide 5).run (straddling.take 8)).limiter.minLatency? = some 1000 ∧
      ((start "h" wide 5).run straddling).limiter.minLatency? = some 60000000001 := by
  have hsuccesses : (start "h" wide 5).successes [] straddling =
      [⟨60000000006, 60000000001⟩, ⟨60000000005, 59999999000⟩, ⟨1005, 1000⟩] := by
    decide +kernel
  rw [← hsuccesses]
  exact ⟨run_gauges "h" wide 5 (by decide +kernel), by decide +kernel, by decide +kernel⟩

end Permits

end RpcPipeline
