import RpcPipeline.Proofs.Queue.Fairness
import RpcPipeline.Proofs.Table

/-!
# `RpcPipeline.Proofs.Queue.Service`: the turns of a pass

The order in which calls have their turns can be read off the lanes before a pass begins:
`Lanes.order` takes one call after the other, and sends each lane to the back once its head
has had its turn. In front of a delegate that never calls back into the queue, a pass only
goes along that list.

* `Lanes.order`, `Lanes.after`: who is next, and how the lanes stand after some turns.
* `Delegate.serve`: turns along a list of calls, up to the first refusal.
* `offerAll_behind`: the loop of a pass makes these turns, and leaves the queue as they leave it
  (`Queue.served`).
-/

set_option autoImplicit false

open scoped List

namespace RpcPipeline

variable {κ σ : Type}

namespace Lanes

variable {f : Fairness} {ls rest : Lanes} {w : Waiter}

/-! ### The order of service -/

/-- The calls that have the next turns, up to a number. -/
def ahead : Nat → Lanes → List Waiter
  | 0, _ => []
  | n + 1, ls =>
    match ls.pop with
    | some (w, rest) => w :: ahead n rest
    | none => []

/-- All calls, in the order of their turns. -/
def order (ls : Lanes) : List Waiter := ls.ahead ls.count

/-- The next call is taken and put back, as a fairness has it. -/
def putBack (f : Fairness) (ls : Lanes) : Lanes :=
  match ls.pop with
  | some (w, rest) => rest.restore f w
  | none => ls

/-- The lanes once a number of calls have had their turns and left. -/
def after : Nat → Lanes → Lanes
  | 0, ls => ls
  | n + 1, ls =>
    match ls.pop with
    | some (_, rest) => after n rest
    | none => ls

theorem count_of_pop (hp : ls.pop = some (w, rest)) : ls.count = rest.count + 1 :=
  (waiters_of_pop hp).length_eq

theorem order_of_pop (hp : ls.pop = some (w, rest)) : ls.order = w :: rest.order := by
  rw [order, count_of_pop hp, ahead, hp]
  rfl

theorem putBack_of_pop (hp : ls.pop = some (w, rest)) : ls.putBack f = rest.restore f w := by
  rw [putBack, hp]

theorem after_of_pop (hp : ls.pop = some (w, rest)) (n : Nat) :
    ls.after (n + 1) = rest.after n := by
  rw [after, hp]

/-- Without an empty lane, nobody is next only if there is no lane. -/
theorem eq_nil_of_pop (h : ls.Occupied) (hp : ls.pop = none) : ls = [] := by
  by_contra hne
  obtain ⟨w, rest, hsome⟩ := exists_pop h hne
  rw [hp] at hsome
  cases hsome

/-- Everything that is true of no lanes, and of lanes if it is true once the next call has
left, is true. -/
theorem pop_induction {P : Lanes → Prop} (nil : P [])
    (next : ∀ (ls rest : Lanes) (w : Waiter), ls.pop = some (w, rest) → P rest → P ls)
    (ls : Lanes) (h : ls.Occupied) : P ls := by
  -- Each turn takes one call away, so the induction is on their number.
  induction hn : ls.count generalizing ls with
  | zero => rwa [eq_nil_of_count h hn]
  | succ n ih =>
    cases hp : ls.pop with
    | none => rwa [eq_nil_of_pop h hp]
    | some turn =>
      obtain ⟨w, rest⟩ := turn
      have hcount := count_of_pop hp
      exact next ls rest w hp (ih rest (occupied_of_pop h hp) (by omega))

/-- Everybody has a turn, and nobody has two. -/
theorem order_perm (h : ls.Occupied) : ls.order ~ ls.waiters := by
  refine pop_induction (P := fun ls => ls.order ~ ls.waiters) (.refl _) ?_ ls h
  intro ls rest w hp ih
  rw [order_of_pop hp]
  exact (ih.cons w).trans (waiters_of_pop hp).symm

/-- What survives a turn survives any number of them. -/
theorem after_keeps {P : Lanes → Prop}
    (hpop : ∀ {ls rest : Lanes} {w : Waiter}, ls.pop = some (w, rest) → P ls → P rest) (h : P ls)
    (n : Nat) : P (ls.after n) := by
  induction n generalizing ls with
  | zero => exact h
  | succ n ih =>
    cases hp : ls.pop with
    | none =>
      rw [after, hp]
      exact h
    | some next =>
      rw [after_of_pop hp]
      exact ih (hpop hp h)

theorem occupied_after (h : ls.Occupied) (n : Nat) : (ls.after n).Occupied :=
  after_keeps (fun hp h => occupied_of_pop h hp) h n

/-- As many calls are gone as have had turns. -/
theorem count_after (h : ls.Occupied) (n : Nat) : (ls.after n).count = ls.count - n := by
  refine pop_induction (P := fun ls => ∀ n, (ls.after n).count = ls.count - n) ?_ ?_ ls h n
  · intro n
    cases n <;> simp [after, pop, count]
  · intro ls rest w hp ih n
    cases n with
    | zero => rfl
    | succ n =>
      rw [after_of_pop hp, ih, count_of_pop hp]
      omega

/-- Who has had a turn is gone, and the others have theirs in the same order. -/
theorem order_after (h : ls.Occupied) (n : Nat) : (ls.after n).order = ls.order.drop n := by
  refine pop_induction (P := fun ls => ∀ n, (ls.after n).order = ls.order.drop n) ?_ ?_ ls h n
  · intro n
    cases n <;> rfl
  · intro ls rest w hp ih n
    cases n with
    | zero => rfl
    | succ n => rw [after_of_pop hp, order_of_pop hp, List.drop_succ_cons, ih]

end Lanes

/-! ### Turns -/

/-- What becomes of a call when its turn comes. -/
inductive Turn (κ : Type) where
  /-- Nobody waits for it any more. It leaves and is not offered. -/
  | passedOver
  /-- It is offered and taken. -/
  | taken (call : κ)
  /-- It is offered and refused. -/
  | refused

namespace Turn

/-- Whether the call is refused. -/
def isRefused : Turn κ → Bool
  | .refused => true
  | .passedOver | .taken _ => false

/-- Whether the call is taken. -/
def isTaken : Turn κ → Bool
  | .taken _ => true
  | .passedOver | .refused => false

/-- Whether the call is offered. -/
def isOffer : Turn κ → Bool
  | .passedOver => false
  | .taken _ | .refused => true

/-- The slots once a call has had its turn. -/
def fill (slots : Table Nat (Slot κ)) (id : Nat) : Turn κ → Table Nat (Slot κ)
  | .taken call => slots.insert id (.filled call)
  | .passedOver | .refused => slots

/-- The slots of those who have no call taken stay as they are. -/
theorem get?_foldl_fill_of_ne {turns : List (Waiter × Turn κ)} {id : Nat}
    (h : ∀ w call, (w, .taken call) ∈ turns → w.id ≠ id) (slots : Table Nat (Slot κ)) :
    (turns.foldl (fun slots t => t.2.fill slots t.1.id) slots).get? id = slots.get? id := by
  induction turns generalizing slots with
  | nil => rfl
  | cons t turns ih =>
    obtain ⟨w, turn⟩ := t
    rw [List.foldl_cons, ih fun v call hv => h v call (List.mem_cons_of_mem _ hv)]
    cases turn with
    | passedOver => rfl
    | refused => rfl
    | taken call =>
      have hne : w.id ≠ id := h w call List.mem_cons_self
      show (slots.insert w.id (.filled call)).get? id = slots.get? id
      rw [Table.get?_insert, if_neg (Ne.symm hne)]

/-- A call that is taken is found in the slot of its caller. -/
theorem get?_foldl_fill {turns : List (Waiter × Turn κ)} {w : Waiter} {call : κ}
    (hnodup : (turns.map fun t => t.1.id).Nodup) (h : (w, .taken call) ∈ turns)
    (slots : Table Nat (Slot κ)) :
    (turns.foldl (fun slots t => t.2.fill slots t.1.id) slots).get? w.id =
      some (.filled call) := by
  induction turns generalizing slots with
  | nil => cases h
  | cons t turns ih =>
    obtain ⟨hfirst, hrest⟩ := List.nodup_cons.mp hnodup
    rw [List.foldl_cons]
    rcases List.mem_cons.mp h with rfl | h
    · -- Nobody else has this slot, so nothing happens to it later.
      have hothers : ∀ v call', (v, Turn.taken call') ∈ turns → v.id ≠ w.id :=
        fun v call' hv heq => hfirst (List.mem_map.mpr ⟨_, hv, heq⟩)
      rw [get?_foldl_fill_of_ne hothers]
      show (slots.insert w.id (.filled call)).get? w.id = _
      rw [Table.get?_insert, if_pos rfl]
    · exact ih hrest h _

end Turn

/-- The lanes after some turns under a fairness. Every call but a refused one has left, and the
refused one is put back. -/
def Lanes.left (f : Fairness) (turns : List (Waiter × Turn κ)) (ls : Lanes) : Lanes :=
  let left := ls.after (turns.countP fun t => !t.2.isRefused)
  if turns.any fun t => t.2.isRefused then left.putBack f else left

namespace Lanes

variable {f : Fairness} {ls rest : Lanes} {w : Waiter} {turns : List (Waiter × Turn κ)}

/-- A call that is not refused leaves. -/
theorem left_cons (hp : ls.pop = some (w, rest)) {t : Turn κ} (ht : t.isRefused = false)
    (turns : List (Waiter × Turn κ)) : ls.left f ((w, t) :: turns) = rest.left f turns := by
  simp only [left, List.countP_cons, List.any_cons, ht, Bool.not_false, if_true, Bool.false_or,
    after_of_pop hp]

theorem left_refused (hp : ls.pop = some (w, rest)) :
    ls.left f [(w, (.refused : Turn κ))] = rest.restore f w :=
  putBack_of_pop hp

/-- Where nobody is refused, as many calls have left as have had turns. -/
theorem left_of_taken (h : ∀ t ∈ turns, t.2.isRefused = false) :
    ls.left f turns = ls.after turns.length := by
  have hcount : (turns.countP fun t => !t.2.isRefused) = turns.length :=
    List.countP_eq_length.mpr fun t ht => by rw [h t ht]; rfl
  have hany : (turns.any fun t => t.2.isRefused) = false :=
    List.any_eq_false.mpr fun t ht => by rw [h t ht]; exact Bool.false_ne_true
  unfold left
  dsimp only
  rw [hcount, hany, if_neg Bool.false_ne_true]

/-- Where somebody is refused in the end, that call is put back once the others have left. -/
theorem left_concat (h : ∀ t ∈ turns, t.2.isRefused = false) (w : Waiter) :
    ls.left f (turns ++ [(w, .refused)]) = (ls.after turns.length).putBack f := by
  have hothers : (turns.countP fun t => !t.2.isRefused) = turns.length :=
    List.countP_eq_length.mpr fun t ht => by rw [h t ht]; rfl
  have hlast : (Turn.refused : Turn κ).isRefused = true := rfl
  simp only [left, List.countP_append, hothers, List.countP_singleton, List.any_append,
    List.any_cons, hlast, Bool.not_true, Bool.false_eq_true, if_false, Nat.add_zero, Bool.true_or,
    Bool.or_true, if_true]

end Lanes

namespace Delegate

/-- A delegate behind a queue. -/
def behind (d : Delegate κ σ) : Backend κ σ where
  offer e r q s := ((d.offer e r s).1, q, (d.offer e r s).2)
  poll := d.poll
  drop := d.drop
  settings := d.settings
  now := d.now
  report := d.report
  callbacks _ := 0

/-- Calls have their turns one after the other, until one is refused or none is left. Those
for which nobody waits are passed over. -/
def serve (d : Delegate κ σ) (deserted : Nat → Bool) :
    List Waiter → σ → List (Waiter × Turn κ) × σ
  | [], s => ([], s)
  | w :: ws, s =>
    if deserted w.id then
      ((w, .passedOver) :: (d.serve deserted ws s).1, (d.serve deserted ws s).2)
    else
      match d.offer w.endpoint w.request s with
      | (some call, s) => ((w, .taken call) :: (d.serve deserted ws s).1, (d.serve deserted ws s).2)
      | (none, s) => ([(w, .refused)], s)

section

variable (d : Delegate κ σ) (deserted : Nat → Bool)

/-- Nobody is served out of turn. -/
theorem serve_inOrder (ws : List Waiter) (s : σ) :
    (d.serve deserted ws s).1.map Prod.fst <+: ws := by
  induction ws generalizing s with
  | nil => exact List.prefix_refl _
  | cons w ws ih =>
    rw [serve]
    split
    · exact List.prefix_cons_inj w |>.mpr (ih s)
    · split
      · next call s' _ => exact List.prefix_cons_inj w |>.mpr (ih s')
      · exact ⟨ws, rfl⟩

/-- The turns go on until a call is refused or none is left. -/
theorem serve_stops (ws : List Waiter) (s : σ) :
    (∃ w turns, (d.serve deserted ws s).1 = turns ++ [(w, .refused)]) ∨
      (d.serve deserted ws s).1.map Prod.fst = ws := by
  induction ws generalizing s with
  | nil => exact .inr rfl
  | cons w ws ih =>
    -- A turn that ends without a refusal goes in front of those that follow.
    have hcons : ∀ (turn : Turn κ) (s' : σ),
        (∃ v turns, (w, turn) :: (d.serve deserted ws s').1 = turns ++ [(v, .refused)]) ∨
          ((w, turn) :: (d.serve deserted ws s').1).map Prod.fst = w :: ws := by
      intro turn s'
      rcases ih s' with ⟨v, turns, heq⟩ | heq
      · exact .inl ⟨v, (w, turn) :: turns, by rw [heq, List.cons_append]⟩
      · exact .inr (by rw [List.map_cons, heq])
    rw [serve]
    split
    · exact hcons _ _
    · split
      · exact hcons _ _
      · exact .inl ⟨w, [], rfl⟩

/-- A refusal ends the turns. -/
theorem serve_refused (ws : List Waiter) (s : σ) :
    ∀ t ∈ (d.serve deserted ws s).1.dropLast, t.2.isRefused = false := by
  induction ws generalizing s with
  | nil => simp [serve]
  | cons w ws ih =>
    have hcons : ∀ (turn : Turn κ) (s' : σ), turn.isRefused = false →
        ∀ t ∈ ((w, turn) :: (d.serve deserted ws s').1).dropLast, t.2.isRefused = false := by
      intro turn s' hturn t ht
      cases hserved : (d.serve deserted ws s').1 with
      | nil => rw [hserved] at ht; cases ht
      | cons u turns =>
        rw [hserved, List.dropLast_cons_of_ne_nil (List.cons_ne_nil u turns)] at ht
        rcases List.mem_cons.mp ht with rfl | ht
        · exact hturn
        · exact ih s' t (hserved ▸ ht)
    rw [serve]
    split
    · exact hcons _ _ rfl
    · split
      · exact hcons _ _ rfl
      · exact fun t ht => nomatch ht

/-- A call is offered exactly if somebody waits for it. -/
theorem serve_isOffer (ws : List Waiter) (s : σ) :
    ∀ t ∈ (d.serve deserted ws s).1, t.2.isOffer = !deserted t.1.id := by
  induction ws generalizing s with
  | nil => simp [serve]
  | cons w ws ih =>
    rw [serve]
    split
    · next hgone =>
      intro t ht
      rcases List.mem_cons.mp ht with rfl | ht
      · simp [Turn.isOffer, hgone]
      · exact ih s t ht
    · next hthere =>
      split
      · next call s' _ =>
        intro t ht
        rcases List.mem_cons.mp ht with rfl | ht
        · simpa [Turn.isOffer] using hthere
        · exact ih s' t ht
      · intro t ht
        rw [List.mem_singleton.mp ht]
        simpa [Turn.isOffer] using hthere

end

end Delegate

namespace Queue

variable {d : Delegate κ σ} {f : Fairness} {q : Queue κ} {s : σ}

/-! ### The loop of a pass -/

/-- The queue after some turns under a fairness. Every call but a refused one has left the lanes,
and those that were taken are in the slots of their callers. -/
def served (f : Fairness) (q : Queue κ) (turns : List (Waiter × Turn κ)) : Queue κ :=
  { q with
    lanes := q.lanes.left f turns
    len := q.len - turns.countP fun t => !t.2.isRefused
    inFlight := q.inFlight + turns.countP fun t => t.2.isTaken
    slots := turns.foldl (fun slots t => t.2.fill slots t.1.id) q.slots }

/-- A call for which nobody waits leaves. -/
theorem served_passedOver {w : Waiter} {rest : Lanes} (hp : q.lanes.pop = some (w, rest))
    (turns : List (Waiter × Turn κ)) :
    q.served f ((w, .passedOver) :: turns) =
      { q with lanes := rest, len := q.len - 1 }.served f turns := by
  have hleft := Lanes.left_cons (f := f) hp (t := .passedOver) rfl turns
  simp only [served, hleft, List.countP_cons, Turn.isRefused, Turn.isTaken, Bool.not_false, if_true,
    Bool.false_eq_true, if_false, Nat.add_zero, List.foldl_cons, Turn.fill, Nat.sub_sub,
    Nat.add_comm 1]

/-- A call that is taken leaves. -/
theorem served_taken {w : Waiter} {rest : Lanes} (hp : q.lanes.pop = some (w, rest)) (call : κ)
    (turns : List (Waiter × Turn κ)) :
    q.served f ((w, .taken call) :: turns) = (q.dispatched rest w.id call).served f turns := by
  have hleft := Lanes.left_cons (f := f) hp (t := .taken call) rfl turns
  simp only [served, hleft, dispatched, List.countP_cons, Turn.isRefused, Turn.isTaken,
    Bool.not_false, if_true, List.foldl_cons, Turn.fill, Nat.sub_sub, Nat.add_comm 1,
    Nat.add_assoc]

/-- A call that is refused is put back, and nothing else happens. -/
theorem served_refused {w : Waiter} {rest : Lanes} (hp : q.lanes.pop = some (w, rest)) :
    q.served f [(w, .refused)] = { q with lanes := rest.restore f w } := by
  simp only [served, Lanes.left_refused hp]
  rfl

/-- Giving up a call for which nobody waits changes nothing. -/
theorem abandon_of_deserted {id : Nat} (h : q.isDeserted id = true) : q.abandon id = q := by
  have hnone : q.slots.get? id = none := by simpa [isDeserted] using h
  unfold abandon
  rw [Table.modify_of_none hnone]

/-- Whoever has a call waits as before. -/
theorem isDeserted_dispatched {id : Nat} (rest : Lanes) (call : κ) (h : q.isDeserted id = false) :
    (q.dispatched rest id call).isDeserted = q.isDeserted := by
  funext id'
  show ((q.slots.insert id (.filled call)).get? id').isNone = q.isDeserted id'
  rw [Table.get?_insert]
  by_cases hid : id' = id
  · rw [if_pos hid, hid, h]
    rfl
  · rw [if_neg hid]
    rfl

section

variable {b : Backend κ σ} {q₁ : Queue κ} {s₁ : σ} {w : Waiter} {rest : Lanes}

theorem offerAll_of_none (b : Backend κ σ) (f : Fairness) (fuel : Nat) (s : σ)
    (hp : q.lanes.pop = none) : offerAll b f fuel q s = (false, q, s) := by
  cases fuel with
  | zero => rfl
  | succ fuel => simp only [offerAll, WaitingRoom.pop, hp, Option.map_none]

/-- A call that nobody waits for, or that a closed queue still has, leaves without being
offered. -/
theorem offerAll_of_gone (b : Backend κ σ) (f : Fairness) (fuel : Nat) (s : σ)
    (hp : q.lanes.pop = some (w, rest)) (hgone : (q.isDeserted w.id || q.closed) = true) :
    offerAll b f (fuel + 1) q s =
      offerAll b f fuel ({ q with lanes := rest, len := q.len - 1 }.abandon w.id) s := by
  simp only [offerAll, WaitingRoom.pop, hp, Option.map_some]
  exact if_pos hgone

theorem offerAll_of_refused (f : Fairness) (fuel : Nat) (hp : q.lanes.pop = some (w, rest))
    (hthere : (q.isDeserted w.id || q.closed) = false)
    (hoffer : b.offer w.endpoint w.request { q with lanes := rest } s = (none, q₁, s₁)) :
    offerAll b f (fuel + 1) q s =
      if q₁.closed then (false, q₁.settle.abandon w.id, s₁)
      else (true, { q₁ with lanes := q₁.lanes.restore f w }, s₁) := by
  have hthere' : ({ q with lanes := rest }.isDeserted w.id || q.closed) = false := hthere
  simp only [offerAll, WaitingRoom.pop, WaitingRoom.restore, hp, Option.map_some, hthere',
    Bool.false_eq_true, if_false, hoffer]

theorem offerAll_of_taken {call : κ} (f : Fairness) (fuel : Nat)
    (hp : q.lanes.pop = some (w, rest)) (hthere : (q.isDeserted w.id || q.closed) = false)
    (hoffer : b.offer w.endpoint w.request { q with lanes := rest } s = (some call, q₁, s₁)) :
    offerAll b f (fuel + 1) q s =
      offerAll b f fuel
        (hand b w.id call { q₁.settle with inFlight := q₁.inFlight + 1 } s₁).1
        (hand b w.id call { q₁.settle with inFlight := q₁.inFlight + 1 } s₁).2 := by
  have hthere' : ({ q with lanes := rest }.isDeserted w.id || q.closed) = false := hthere
  simp only [offerAll, WaitingRoom.pop, hp, Option.map_some, hthere', Bool.false_eq_true, if_false,
    hoffer]

/-- Whoever waits gets the call that was taken. -/
theorem hand_of_waiting {id : Nat} (b : Backend κ σ) (call : κ) (s : σ)
    (hthere : q.isDeserted id = false) :
    hand b id call { q.settle with inFlight := q.inFlight + 1 } s =
      (q.dispatched q.lanes id call, s) := by
  unfold hand
  refine (if_neg ?_).trans rfl
  show ¬ q.isDeserted id = true
  rw [hthere]
  exact Bool.false_ne_true

end

/-- With a bound beyond the number of waiting calls, the loop of a pass goes along the
order of service. -/
theorem offerAll_behind (d : Delegate κ σ) (f : Fairness) :
    ∀ (fuel : Nat) (q : Queue κ) (s : σ), q.closed = false → q.lanes.Occupied →
      q.lanes.count < fuel →
        offerAll d.behind f fuel q s =
          ((d.serve q.isDeserted q.lanes.order s).1.any (·.2.isRefused),
            q.served f (d.serve q.isDeserted q.lanes.order s).1,
            (d.serve q.isDeserted q.lanes.order s).2) := by
  intro fuel
  induction fuel with
  | zero => intro q s _ _ hfuel; omega
  | succ fuel ih =>
    intro q s hopen hocc hfuel
    cases hp : q.lanes.pop with
    | none =>
      have horder : q.lanes.order = [] := by rw [Lanes.eq_nil_of_pop hocc hp]; rfl
      rw [horder, offerAll_of_none _ _ _ _ hp]
      rfl
    | some next =>
      obtain ⟨w, rest⟩ := next
      have hcount := Lanes.count_of_pop hp
      have hocc' := Lanes.occupied_of_pop hocc hp
      rw [Lanes.order_of_pop hp, Delegate.serve]
      cases hgone : q.isDeserted w.id with
      | true =>
        have hgone' : ({ q with lanes := rest, len := q.len - 1 } : Queue κ).isDeserted w.id =
            true := hgone
        rw [offerAll_of_gone _ _ _ _ hp (by rw [hgone, Bool.true_or]), abandon_of_deserted hgone',
          ih { q with lanes := rest, len := q.len - 1 } s hopen hocc'
            (show rest.count < fuel by omega), if_pos rfl, served_passedOver hp]
        rfl
      | false =>
        have hthere : (q.isDeserted w.id || q.closed) = false := by
          rw [hgone, hopen]
          rfl
        rw [if_neg (by simp)]
        rcases hoffer : d.offer w.endpoint w.request s with ⟨answer, s'⟩
        have hbehind : d.behind.offer w.endpoint w.request { q with lanes := rest } s =
            (answer, { q with lanes := rest }, s') := by
          simp only [Delegate.behind, hoffer]
        cases answer with
        | none =>
          rw [offerAll_of_refused f fuel hp hthere hbehind, if_neg (by simp [hopen])]
          show (true, { q with lanes := rest.restore f w }, s') =
            (_, q.served f [(w, .refused)], s')
          rw [served_refused hp]
          rfl
        | some call =>
          have hthere' : ({ q with lanes := rest } : Queue κ).isDeserted w.id = false := hgone
          have hrest : dispatched { q with lanes := rest } rest w.id call =
              q.dispatched rest w.id call := rfl
          rw [offerAll_of_taken f fuel hp hthere hbehind, hand_of_waiting _ _ _ hthere', hrest,
            ih (q.dispatched rest w.id call) s' hopen hocc' (show rest.count < fuel by omega),
            isDeserted_dispatched rest call hgone, served_taken hp]
          rfl

end Queue

end RpcPipeline
