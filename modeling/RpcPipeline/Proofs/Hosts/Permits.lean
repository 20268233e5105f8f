import RpcPipeline.Proofs.Hosts.Limits
import RpcPipeline.Proofs.Number.Exact

/-!
# `RpcPipeline.Proofs.Hosts.Permits`: the slots of a limiter

A slot of a limiter is held from the moment it was claimed until the call that holds it has
ended or was dropped. In between anything may happen in any order: other slots are claimed
and given back, time passes, and the settings are replaced by others, under which the limit
may shrink below the number of slots that are held already. No slot is taken away then.

A `Permits` is a limiter together with the slots that were claimed through it. `Permits.step`
does one thing to it and `Permits.run` does several.

* `Permits.Sound`: the limiter counts the slots that are held, and its limit is within the
  bounds of the latest settings.
* `Sound.step`, `Sound.run`: this holds all along.
* `Permits.run_upholds`: what follows for every run over exact numbers.
-/

set_option autoImplicit false

namespace RpcPipeline

/-- A limiter, the time, and for each slot that was claimed the moment at which this was
done, as long as the slot is held. -/
structure Permits (α : Type) where
  limiter : Limiter α
  now : Instant
  claimed : List (Option Instant)

namespace Permits

variable {α : Type}

/-- Something that happens to a limiter or to a slot of it. -/
inductive Move (α : Type) where
  | acquire
  /-- The call that holds a slot has ended. -/
  | complete (slot : Nat) (outcome : Outcome)
  /-- The call that holds a slot is dropped. -/
  | drop (slot : Nat)
  | configure (config : LimitConfig α)
  | advance (span : Nanos)

/-- The settings that a move brings. -/
def Move.config? : Move α → Option (LimitConfig α)
  | .configure config => some config
  | _ => none

/-- The settings after some moves: the latest ones. -/
def latest (config : LimitConfig α) (moves : List (Move α)) : LimitConfig α :=
  (moves.filterMap Move.config?).getLastD config

/-- The number of slots that are held. -/
def held (x : Permits α) : Nat := x.claimed.countP Option.isSome

variable [Scalar α]

/-- The settings that a move brings are valid, if it brings any. -/
def Move.Valid (m : Move α) : Prop := ∀ config, m.config? = some config → config.validate = .ok ()

/-- One move. A slot that is not held any more cannot be given back again. -/
def step (x : Permits α) : Move α → Permits α
  | .acquire =>
    { x with
      limiter := x.limiter.acquire.2.1
      claimed := if x.limiter.acquire.1 then x.claimed ++ [some x.now] else x.claimed }
  | .complete n outcome =>
    match x.claimed[n]? with
    | some (some started) =>
      { x with
        limiter := (x.limiter.complete x.now started outcome).1
        claimed := x.claimed.set n none }
    | _ => x
  | .drop n =>
    match x.claimed[n]? with
    | some (some _) =>
      { x with limiter := x.limiter.release.1, claimed := x.claimed.set n none }
    | _ => x
  | .configure config => { x with limiter := (x.limiter.configure config).1 }
  | .advance span => { x with now := x.now + span }

/-- Moves one after the other. -/
def run (x : Permits α) (moves : List (Move α)) : Permits α := moves.foldl step x

/-- A new limiter, of which no slot was claimed yet. -/
def start (host : String) (config : LimitConfig α) (now : Instant) : Permits α :=
  ⟨.new host config now, now, []⟩

/-! ### What holds between moves -/

/-- The limiter counts the slots that are held, has the settings `config`, and its limit is
within their bounds. -/
structure Sound (config : LimitConfig α) (x : Permits α) : Prop where
  inFlight : x.limiter.inFlight = x.held
  bounded : x.limiter.Bounded
  config : x.limiter.config = config

variable {config : LimitConfig α} {x : Permits α}

omit [Scalar α] in
/-- Giving back a slot that is held leaves one less. -/
theorem held_set {claimed : List (Option Instant)} {n : Nat} {started : Instant}
    (h : claimed[n]? = some (some started)) :
    (claimed.set n none).countP Option.isSome = claimed.countP Option.isSome - 1 := by
  obtain ⟨hn, hget⟩ := List.getElem?_eq_some_iff.mp h
  rw [List.countP_set hn, hget]
  rfl

theorem Sound.acquire (h : x.Sound config) : (x.step .acquire).Sound config := by
  obtain ⟨hconfig, -⟩ := x.limiter.acquire_keeps
  refine ⟨?_, Limiter.acquire_bounded h.bounded, hconfig.trans h.config⟩
  show x.limiter.acquire.2.1.inFlight =
    (if x.limiter.acquire.1 then x.claimed ++ [some x.now] else x.claimed).countP Option.isSome
  unfold Limiter.acquire
  split
  · -- The slot that was claimed is counted on both sides.
    rw [if_pos rfl, List.countP_append]
    exact congrArg (· + 1) h.inFlight
  · rw [if_neg Bool.false_ne_true]
    exact h.inFlight

variable [Scalar.Ordered α]

theorem Sound.complete (h : x.Sound config) (n : Nat) (outcome : Outcome) :
    (x.step (.complete n outcome)).Sound config := by
  unfold step
  dsimp only
  split
  · next started hslot =>
    refine ⟨?_, h.bounded.complete x.now started outcome, ?_⟩
    · show (x.limiter.complete x.now started outcome).1.inFlight =
        (x.claimed.set n none).countP Option.isSome
      rw [Limiter.complete_inFlight, held_set hslot, h.inFlight]
      rfl
    · exact (x.limiter.learn_config x.now outcome (x.now - started)).trans h.config
  · exact h

omit [Scalar.Ordered α] in
theorem Sound.drop (h : x.Sound config) (n : Nat) : (x.step (.drop n)).Sound config := by
  unfold step
  dsimp only
  split
  · next started hslot =>
    refine ⟨?_, Limiter.release_bounded h.bounded, h.config⟩
    show x.limiter.inFlight - 1 = (x.claimed.set n none).countP Option.isSome
    rw [held_set hslot, h.inFlight]
    rfl
  · exact h

/-- One move keeps the count and the bounds, and the settings are those it brings. -/
theorem Sound.step (h : x.Sound config) {m : Move α} (hm : m.Valid) :
    (x.step m).Sound (m.config?.getD config) := by
  cases m with
  | acquire => exact h.acquire
  | complete n outcome => exact h.complete n outcome
  | drop n => exact h.drop n
  | configure config' =>
    have hsane := LimitConfig.sane_of_validate (hm config' rfl)
    exact ⟨h.inFlight, h.bounded.configure hsane, rfl⟩
  | advance span => exact ⟨h.inFlight, h.bounded, h.config⟩

omit [Scalar α] [Scalar.Ordered α] in
theorem latest_cons (config : LimitConfig α) (m : Move α) (moves : List (Move α)) :
    latest config (m :: moves) = latest (m.config?.getD config) moves := by
  unfold latest
  cases hm : m.config? with
  | none => rw [List.filterMap_cons_none hm, Option.getD_none]
  | some c => rw [List.filterMap_cons_some hm, List.getLastD_cons, Option.getD_some]

theorem Sound.run (h : x.Sound config) {moves : List (Move α)} (hm : ∀ m ∈ moves, m.Valid) :
    (x.run moves).Sound (latest config moves) := by
  -- Moves may bring other settings, so the induction is for all of them at once.
  induction moves generalizing x config with
  | nil => exact h
  | cons m moves ih =>
    rw [latest_cons]
    exact ih (h.step (hm m List.mem_cons_self)) fun m' hm' => hm m' (List.mem_cons_of_mem _ hm')

omit [Scalar.Ordered α] in
theorem start_sound (hconfig : config.Sane) (host : String) (now : Instant) :
    (start host config now).Sound config :=
  ⟨rfl, Limiter.new_bounded hconfig host now, rfl⟩

/-! ### How the limit moves -/

omit [Scalar.Ordered α] in
/-- The end of a call moves the limit as its outcome says, if the call held a slot. -/
theorem limit_complete (x : Permits α) (n : Nat) (outcome : Outcome) :
    (x.step (.complete n outcome)).limiter.limit = x.limiter.limit ∨
      Limiter.Adjusts x.limiter.config x.limiter.limit outcome
        (x.step (.complete n outcome)).limiter.limit := by
  unfold Permits.step
  dsimp only
  split
  · next started _ =>
    exact .inr (x.limiter.learn_adjusts x.now outcome (x.now - started)).1
  · exact .inl rfl

theorem Sound.success_le (h : x.Sound config) (n : Nat) :
    x.limiter.limit ≤ (x.step (.complete n .success)).limiter.limit := by
  rcases x.limit_complete n .success with hsame | hadjusts
  · rw [hsame]
    exact h.bounded.defined
  · exact hadjusts.success_le h.bounded

theorem Sound.trouble_le (h : x.Sound config) (n : Nat) {outcome : Outcome}
    (houtcome : outcome = .overloaded ∨ outcome = .hostFailure) :
    (x.step (.complete n outcome)).limiter.limit ≤ x.limiter.limit := by
  rcases x.limit_complete n outcome with hsame | hadjusts
  · rw [hsame]
    exact h.bounded.defined
  · exact hadjusts.trouble_le h.bounded houtcome

omit [Scalar.Ordered α] in
/-- An outcome that says nothing about how much the host can take leaves the limit alone. -/
theorem limit_complete_neutral (x : Permits α) (n : Nat) {outcome : Outcome}
    (houtcome : outcome = .serverError ∨ outcome = .ignored) :
    (x.step (.complete n outcome)).limiter.limit = x.limiter.limit := by
  rcases x.limit_complete n outcome with hsame | hadjusts
  · exact hsame
  · generalize (x.step (.complete n outcome)).limiter.limit = limit at hadjusts
    -- The only rules for these two outcomes keep the limit.
    rcases houtcome with rfl | rfl <;> cases hadjusts <;> rfl

omit [Scalar.Ordered α] in
theorem limit_drop (x : Permits α) (n : Nat) :
    (x.step (.drop n)).limiter.limit = x.limiter.limit := by
  unfold Permits.step
  dsimp only
  split <;> rfl

omit [Scalar.Ordered α] in
/-- A refusal changes nothing at all. -/
theorem step_refused (h : x.limiter.acquire.1 = false) : x.step .acquire = x := by
  have hsame : x.limiter.acquire.2.1 = x.limiter := by
    unfold Limiter.acquire at h ⊢
    split at h
    · cases h
    · next hfull => rw [if_neg hfull]
  unfold Permits.step
  dsimp only
  rw [h, hsame]
  rfl

omit [Scalar.Ordered α] in
theorem acquire_eq_hasCapacity (l : Limiter α) : l.acquire.1 = l.hasCapacity := by
  unfold Limiter.acquire
  split
  · next hfree => exact hfree.symm
  · next hfull => exact (Bool.not_eq_true _ ▸ hfull : l.hasCapacity = false).symm

end Permits

/-! ### Every run -/

namespace Permits

/-- What a limiter of exact numbers owes to those who claim its slots. -/
structure Upholds (config : LimitConfig Rat) (x : Permits Rat) : Prop where
  inFlight : x.limiter.inFlight = x.held
  /-- A slot can be claimed exactly if there is capacity, and then it is held from now on. -/
  admits : x.limiter.acquire.1 = x.limiter.hasCapacity
  hasCapacity : x.limiter.hasCapacity = true ↔ x.limiter.inFlight < max 1 ⌊x.limiter.limit⌋₊
  granted : x.limiter.hasCapacity = true → (x.step .acquire).claimed = x.claimed ++ [some x.now]
  refused : x.limiter.hasCapacity = false → x.step .acquire = x
  settings : x.limiter.config = config
  bounds : config.minLimit ≤ x.limiter.limit ∧ x.limiter.limit ≤ config.maxLimit
  success : ∀ n, x.limiter.limit ≤ (x.step (.complete n .success)).limiter.limit
  overloaded : ∀ n, (x.step (.complete n .overloaded)).limiter.limit ≤ x.limiter.limit
  hostFailure : ∀ n, (x.step (.complete n .hostFailure)).limiter.limit ≤ x.limiter.limit
  serverError : ∀ n, (x.step (.complete n .serverError)).limiter.limit = x.limiter.limit
  ignored : ∀ n, (x.step (.complete n .ignored)).limiter.limit = x.limiter.limit
  drop : ∀ n, (x.step (.drop n)).limiter.limit = x.limiter.limit
  acquire : (x.step .acquire).limiter.limit = x.limiter.limit

theorem slots_eq (l : Limiter Rat) : l.slots = max 1 ⌊l.limit⌋₊ :=
  congrArg (max 1) (Int.floor_toNat l.limit)

theorem Sound.upholds {config : LimitConfig Rat} {x : Permits Rat} (h : x.Sound config) :
    x.Upholds config where
  inFlight := h.inFlight
  admits := acquire_eq_hasCapacity x.limiter
  hasCapacity := by
    rw [← slots_eq]
    exact decide_eq_true_iff
  granted hfree := by
    rw [← acquire_eq_hasCapacity] at hfree
    exact if_pos hfree
  refused hfull := by
    rw [← acquire_eq_hasCapacity] at hfull
    exact step_refused hfull
  settings := h.config
  bounds := by
    rw [← h.config]
    exact ⟨h.bounded.le_limit, h.bounded.limit_le⟩
  success n := h.success_le n
  overloaded n := h.trouble_le n (.inl rfl)
  hostFailure n := h.trouble_le n (.inr rfl)
  serverError n := x.limit_complete_neutral n (.inl rfl)
  ignored n := x.limit_complete_neutral n (.inr rfl)
  drop n := x.limit_drop n
  acquire := x.limiter.acquire_keeps.2

/-- Let a limiter start with valid settings. After any slots were claimed and given back, by
calls that have ended or were dropped, any time has passed and the settings were replaced by
any other valid ones, in any order: the limiter counts exactly the slots that are held, lets
another one be claimed exactly if that count is below the limit, changes nothing by a
refusal, and its limit is within the bounds of the latest settings. From there a success does
not lower the limit, an overload or a failure does not raise it, and nothing else that
happens to slots moves it. -/
theorem run_upholds {config : LimitConfig Rat} (hconfig : config.validate = .ok ())
    (host : String) (now : Instant) {moves : List (Move Rat)} (hmoves : ∀ m ∈ moves, m.Valid) :
    ((start host config now).run moves).Upholds (latest config moves) := by
  have hstart := start_sound (LimitConfig.sane_of_validate hconfig) host now
  exact (hstart.run hmoves).upholds

/-- Settings that leave room for three calls. -/
def wide : LimitConfig Rat :=
  { LimitConfig.standard with initialLimit := 3, maxLimit := 3 }

/-- Settings that leave room for one call. -/
def narrow : LimitConfig Rat :=
  { LimitConfig.standard with initialLimit := 1, maxLimit := 3 / 2 }

/-- Two slots are claimed. Then the limit shrinks below that, and a third one is refused. -/
def squeezed : List (Move Rat) :=
  [.acquire, .acquire, .advance 5, .configure narrow, .acquire, .complete 0 .overloaded]

theorem run_upholds_squeezed :
    ((start "h" wide 0).run squeezed).Upholds narrow ∧
      ((start "h" wide 0).run squeezed).limiter.limit = 27 / 20 ∧
      ((start "h" wide 0).run squeezed).limiter.inFlight = 1 := by
  have hmoves : ∀ m ∈ squeezed, m.Valid := by
    intro m hm config hconfig
    simp only [squeezed, List.mem_cons, List.not_mem_nil, or_false] at hm
    rcases hm with rfl | rfl | rfl | rfl | rfl | rfl <;> cases hconfig
    exact LimitConfig.validate_eq_ok.mpr (by decide +kernel)
  have hwide : wide.validate = .ok () := LimitConfig.validate_eq_ok.mpr (by decide +kernel)
  exact ⟨run_upholds hwide "h" 0 hmoves, by decide +kernel, by decide +kernel⟩

end Permits

end RpcPipeline
