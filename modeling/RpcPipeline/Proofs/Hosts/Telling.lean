import RpcPipeline.Proofs.Hosts.Latency

/-!
# `RpcPipeline.Proofs.Hosts.Telling`: the least latency that a limiter tells

A limiter keeps the least latency of its window in 64 bits, and the largest number of 64 bits
stands for there being none. A latency that is too long for 64 bits is noted as the number
below. A latency that is exactly the largest number is noted as it is, and so it stands for
none: a success that took so long is not told, whether it opens a window or joins one.

No other latency is lost. A clock of 64 bits lets a call take that long only if it was started
when the limiter was created and ends at the last moment of the clock.

* `Permits.Tells`: what is told after a success, for all latencies.
* `Permits.run_tells`: this holds after every run, as long as times fit into 64 bits.
* `Permits.success_untold`: successes after which nothing is told.
-/

set_option autoImplicit false

namespace RpcPipeline.Permits

variable {α : Type} {created : Instant} {s : Sample} {earlier : List Sample} {x : Permits α}

/-- What a limiter that was created at `created` tells after some successes, of which `s` is the
latest. -/
structure Tells (created : Instant) (s : Sample) (earlier : List Sample) (x : Permits α) :
    Prop where
  /-- After a success there is a least latency, and it is not longer than that of the success. -/
  told : s.latency ≠ 2 ^ 64 - 1 → ∃ shortest ≤ s.latency, x.limiter.minLatency? = some shortest
  /-- There is none only if every success of the window took as long as 64 bits can say. -/
  untold : x.limiter.minLatency? = none ↔
    ∀ e ∈ s :: earlier, opened created (s :: earlier) ≤ e.ended → e.latency = 2 ^ 64 - 1
  least : ∀ shortest, x.limiter.minLatency? = some shortest →
    Permits.least created (s :: earlier) = some shortest

/-- The latest success has ended in the present window, and no latency is beyond 64 bits. -/
theorem Noted.tells (h : Noted created (s :: earlier) x) (helapsed : x.now - created < 2 ^ 64) :
    Tells created s earlier x := by
  have htold : x.limiter.minLatency? = (least created (s :: earlier)).filter (· ≠ 2 ^ 64 - 1) :=
    h.minLatency?_eq
  have hrecent : opened created (s :: earlier) ≤ s.ended := h.recent s rfl
  have hle : ∀ e ∈ s :: earlier, e.latency ≤ 2 ^ 64 - 1 := fun e he =>
    (h.latency_le e he).trans (Nat.le_sub_one_of_lt helapsed)
  refine ⟨fun hshort => ?_, ?_, fun shortest hshortest => ?_⟩
  · obtain ⟨shortest, hsle, hleast⟩ := exists_least List.mem_cons_self hrecent
    have hlt : shortest < 2 ^ 64 - 1 :=
      hsle.trans_lt (lt_of_le_of_ne (hle s List.mem_cons_self) hshort)
    refine ⟨shortest, hsle, ?_⟩
    rw [htold, hleast]
    exact Option.filter_some_pos (decide_eq_true hlt.ne)
  · -- No latency is above the largest number, so the least one is that only if all of them are.
    rw [htold, Option.filter_eq_none_iff]
    constructor
    · intro hnone e he hended
      obtain ⟨shortest, hele, hleast⟩ := exists_least he hended
      have hlongest : shortest = 2 ^ 64 - 1 := by simpa using hnone shortest hleast
      rw [hlongest] at hele
      exact le_antisymm (hle e he) hele
    · intro hall shortest hleast
      obtain ⟨e, he, hended, rfl⟩ := exists_of_least hleast
      simpa using hall e he hended
  · exact (Option.filter_eq_some_iff.mp (htold ▸ hshortest)).1

variable [Scalar α]

/-- Let slots of a new limiter be claimed and given back by calls with whatever outcomes, and
let time pass and settings be replaced, in any order, until 64 bits of nanoseconds are full at
the latest. Once there was a success, the limiter tells a least latency, which is not longer
than that of the latest success, with one exception: if every success of the window took
exactly `2 ^ 64 - 1` nanoseconds, it tells none. -/
theorem run_tells (host : String) (config : LimitConfig α) (now : Instant)
    {moves : List (Move α)} (helapsed : ((start host config now).run moves).now - now < 2 ^ 64)
    (hsuccesses : (start host config now).successes [] moves = s :: earlier) :
    Tells now s earlier ((start host config now).run moves) := by
  have hnoted := (start_noted host config now).run helapsed
  rw [hsuccesses] at hnoted
  exact hnoted.tells helapsed

/-- Two calls are under way for as long as 64 bits can say, the second one a little shorter. -/
def lifelong : List (Move Rat) :=
  [.acquire, .advance 1000, .acquire, .advance (2 ^ 64 - 1001), .complete 0 .success,
    .complete 1 .success]

/-- The first of them is not told when it ends. The second one ends in the same window, and it
is told. -/
theorem run_tells_lifelong :
    Tells 5 ⟨2 ^ 64 + 4, 2 ^ 64 - 1⟩ [] ((start "h" wide 5).run (lifelong.take 5)) ∧
      Tells 5 ⟨2 ^ 64 + 4, 2 ^ 64 - 1001⟩ [⟨2 ^ 64 + 4, 2 ^ 64 - 1⟩]
        ((start "h" wide 5).run lifelong) ∧
      ((start "h" wide 5).run lifelong).limiter.minLatency? = some (2 ^ 64 - 1001) :=
  ⟨run_tells "h" wide 5 (by decide +kernel) (by decide +kernel),
    run_tells "h" wide 5 (by decide +kernel) (by decide +kernel), by decide +kernel⟩

/-- A success that took all the time that 64 bits can say opens a window, and another one joins
it. Neither of them is told. -/
theorem success_untold :
    let moves : List (Move Rat) :=
      [.acquire, .acquire, .advance (2 ^ 64 - 1), .complete 0 .success, .complete 1 .success]
    let opening := (start "h" wide 0).run (moves.take 4)
    let joining := (start "h" wide 0).run moves
    (start "h" wide 0).successes [] (moves.take 4) = [⟨2 ^ 64 - 1, 2 ^ 64 - 1⟩] ∧
      opening.limiter.minLatency? = none ∧
      (start "h" wide 0).successes [] moves =
        [⟨2 ^ 64 - 1, 2 ^ 64 - 1⟩, ⟨2 ^ 64 - 1, 2 ^ 64 - 1⟩] ∧
      joining.limiter.minLatency? = none := by
  decide +kernel

end RpcPipeline.Permits
