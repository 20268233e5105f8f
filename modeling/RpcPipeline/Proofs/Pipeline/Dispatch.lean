import RpcPipeline.Proofs.Retry.Attempts
import RpcPipeline.Proofs.Selection.Sound

/-!
# `RpcPipeline.Proofs.Pipeline.Dispatch`: what a call keeps of a pipeline

The calls of a pipeline make their attempts through its queue. `Pipeline.Follows` relates
the state of a pipeline in the midst of an operation to its state at the beginning: what
the queue keeps of the hosts behind it (`Queue.Goes`), that lanes, slots and counters
agree with the attempts that are under way, and that the queue is there exactly as long
as anybody holds it.

* `dispatcher_keeps`: every operation of the dispatcher keeps that.
* `execute_follows`, `poll_follows`, `drop_follows`: so do the operations of a call.
* `fire_follows`, `close_follows`, `cancel_follows`: and the other ones.
-/

set_option autoImplicit false

namespace RpcPipeline

variable {α : Type} [Scalar α]

namespace Pipeline

/-- What an operation may rely on, and has to keep: `p₀` is the pipeline at its beginning,
`n` counts those who hold the queue, and `live` lists the attempts under way. -/
structure Follows (R : Request → Prop) (before : List (String × String)) (p₀ : Pipeline α)
    (n : Nat) (live : List (QueuedCall (SelectedCall α))) (p : Pipeline α) : Prop where
  queue : p.queue.Sound live
  idle : p.queue.running = false
  goes : Queue.Goes R (Selection.Keeps before p₀.selection) (Selection.Exhausted R)
    p₀.queue p₀.selection p.queue p.selection
  holders : p.holders = n
  alive : p.queue.alive = true ↔ 0 < n
  gone : p.gone = p₀.gone
  published : p.refresher.map Refresher.published = p₀.refresher.map Refresher.published

variable {R : Request → Prop} {before : List (String × String)} {p₀ p : Pipeline α} {n : Nat}
  {live live' : List (QueuedCall (SelectedCall α))} {c : QueuedCall (SelectedCall α)}

/-- At the beginning there is nothing to keep but what holds already. -/
theorem Follows.refl (hqueue : p.queue.Sound live) (hidle : p.queue.running = false)
    (hasks : p.queue.Asks R) (hsound : p.selection.Sound before)
    (halive : p.queue.alive = true ↔ 0 < p.holders) :
    Follows R before p p.holders live p where
  queue := hqueue
  idle := hidle
  goes := ⟨⟨hsound, .refl _⟩, hasks, .refl _ _⟩
  holders := rfl
  alive := halive
  gone := rfl
  published := rfl

theorem Follows.perm (h : Follows R before p₀ n live p) (hlive : live.Perm live') :
    Follows R before p₀ n live' p :=
  { h with queue := h.queue.perm hlive }

/-- An operation of the queue. -/
theorem Follows.onQueue (h : Follows R before p₀ n live p) {q : Queue (SelectedCall α)}
    {s : Selection α} (hqueue : q.Sound live' ∧ q.running = false)
    (hends : q.alive = p.queue.alive)
    (hgoes : Queue.Goes R (Selection.Keeps before p₀.selection) (Selection.Exhausted R)
      p.queue p.selection q s) :
    Follows R before p₀ n live' { p with queue := q, selection := s } where
  queue := hqueue.1
  idle := hqueue.2
  goes := ⟨hgoes.inv, hgoes.asks, h.goes.steady.trans hgoes.steady⟩
  holders := h.holders
  alive := by
    show q.alive = true ↔ 0 < n
    rw [hends]
    exact h.alive
  gone := h.gone
  published := h.published

/-- What happens to the hosts without the queue. -/
theorem Follows.onSelection (h : Follows R before p₀ n live p) {s : Selection α}
    (hfits : p.selection.Fits → s.Fits) (hrests : p.selection.fleet.Rests s.fleet)
    (hfull : p.selection.Exhausted R → s.Exhausted R) :
    Follows R before p₀ n live { p with selection := s } where
  queue := h.queue
  idle := h.idle
  goes := by
    refine ⟨h.goes.inv.rests hfits hrests, h.goes.asks, ?_⟩
    exact h.goes.steady.trans (.of_rounds rfl fun hsettled hlen => hfull (hsettled hlen))
  holders := h.holders
  alive := h.alive
  gone := h.gone
  published := h.published

theorem Follows.emit (h : Follows R before p₀ n live p) {events : List (Event α)}
    (hsilent : Silent events) : Follows R before p₀ n live (p.emit events) :=
  h.onSelection id (p.selection.fleet.emit_rests hsilent) fun hfull => hfull.emit events

/-- The hosts' side may change in any way. -/
theorem Follows.network (h : Follows R before p₀ n live p) (change : Network → Network) :
    Follows R before p₀ n live (p.onOutside (·.onNetwork change)) :=
  h.onSelection id (p.selection.fleet.network_rests change)
    fun hfull hr hb => ⟨(hfull hr hb).seen, (hfull hr hb).hosts⟩

omit [Scalar α] in
theorem silent_of_isRetry {event : Event α} (h : event.isRetry = true) : Silent [event] := by
  intro e he
  rw [List.mem_singleton.mp he]
  cases event <;> first | rfl | cases h

/-- Polling an attempt concerns its queue and what lies behind. -/
theorem Follows.poll (h : Follows R before p₀ n (c :: live) p)
    {result : Option HostResult} {c' : QueuedCall (SelectedCall α)} {p' : Pipeline α}
    (heq : dispatcher.poll c p = (result, c', p')) :
    Follows R before p₀ n (if result.isSome then live else c' :: live) p' := by
  have hpolls := Queue.poll_polls Selection.backend_quiet h.queue h.idle p.selection
  rcases hpoll : Queue.poll Selection.backend c p.queue p.selection with ⟨result₁, c₁, q₁, s₁⟩
  have heq' : dispatcher.poll c p = (result₁, c₁, { p with queue := q₁, selection := s₁ }) := by
    simp only [dispatcher, Pipeline.onQueue, hpoll]
  rw [heq] at heq'
  cases heq'
  rw [hpoll] at hpolls
  exact h.onQueue (hpolls.sound h.queue h.idle) hpolls.ends.2
    (hpolls.goes (Selection.backend_obeys ..) h.queue h.goes.asks h.goes.inv)

omit [Scalar α] in
/-- Without holders there is no queue. -/
theorem release_eq (p : Pipeline α) :
    p.release = { p with holders := p.holders - 1,
                         queue := if p.holders - 1 = 0 then p.queue.die else p.queue } := rfl

theorem Follows.release (h : Follows R before p₀ (n + 1) live p) :
    Follows R before p₀ n live p.release := by
  have hholders : p.holders - 1 = n := by
    rw [h.holders]
    rfl
  rw [release_eq, hholders]
  split
  · next hzero =>
    -- The last holder goes, and the queue with it.
    subst hzero
    have hdie : Queue.Goes R (Selection.Keeps before p₀.selection) (Selection.Exhausted R)
        p.queue p.selection p.queue.die p.selection := Queue.die_goes h.goes.inv
    have hflags : p.queue.die.running = false ∧ p.queue.die.alive = false := by
      rw [Queue.die_eq]
      exact ⟨h.idle, rfl⟩
    exact
      { queue := Queue.die_sound h.queue
        idle := hflags.1
        goes := ⟨hdie.inv, hdie.asks, h.goes.steady.trans hdie.steady⟩
        holders := rfl
        alive := by
          show p.queue.die.alive = true ↔ _
          simp [hflags.2]
        gone := h.gone
        published := h.published }
  · next hpos =>
    refine ⟨h.queue, h.idle, h.goes, rfl, ?_, h.gone, h.published⟩
    exact h.alive.trans ⟨fun _ => Nat.pos_of_ne_zero hpos, fun _ => Nat.succ_pos n⟩

theorem dispatcher_keeps (R : Request → Prop) (before : List (String × String))
    (p₀ : Pipeline α) : Dispatcher.Keeps dispatcher R (Follows R before p₀) where
  submit {n live p} e r hr h := by
    -- The call that makes the attempt holds the queue, so the queue is there.
    have halive : p.queue.alive = true := h.alive.mpr (Nat.succ_pos n)
    have hsubmits := Queue.submit_submits Selection.backend_quiet h.queue h.idle halive e r
      p.selection
    exact h.onQueue (hsubmits.sound h.queue h.idle halive) hsubmits.ends.2
      (hsubmits.goes (Selection.backend_obeys ..) h.queue halive h.goes.asks hr h.goes.inv)
  pending h heq := h.poll heq
  ended h heq := h.poll heq
  drop {n live p a} h := by
    have hdrops := Queue.drop_drops Selection.backend_quiet h.queue h.idle p.selection
    exact h.onQueue (hdrops.sound h.queue h.idle) hdrops.ends.2
      (hdrops.goes (Selection.backend_obeys ..) h.queue h.goes.asks h.goes.inv)
  emit event hevent h := h.emit (silent_of_isRetry hevent)
  close r h := h.network (·.close r)
  draw f h := ⟨h.queue, h.idle, h.goes, h.holders, h.alive, h.gone, h.published⟩
  hold {n live p} h := by
    refine ⟨h.queue, h.idle, h.goes, congrArg (· + 1) h.holders, ?_, h.gone, h.published⟩
    exact h.alive.trans ⟨fun _ => Nat.succ_pos _, fun _ => Nat.succ_pos _⟩
  release h := h.release

/-! ### Operations -/

theorem execute_follows (h : Follows R before p₀ (n + 1) live p) (e : Endpoint) {r : Request}
    (hr : R r) :
    Follows R before p₀ (n + 2) ((p.execute e r).1.call.attempts ++ live) (p.execute e r).2 :=
  RetryingCall.start_keeps (dispatcher_keeps R before p₀) e hr h

theorem drop_follows {c : PipelineCall α}
    (h : Follows R before p₀ (n + 1) (c.call.attempts ++ live) p) :
    Follows R before p₀ n live (p.drop c) :=
  RetryingCall.drop_keeps (dispatcher_keeps R before p₀) h

theorem poll_follows {c : PipelineCall α} (hr : R c.call.request)
    (h : Follows R before p₀ (n + 1) (c.call.attempts ++ live) p) :
    (∀ result c' p', p.poll c = (some result, c', p') → Follows R before p₀ n live p') ∧
    ∀ c' p', p.poll c = (none, c', p') →
      Follows R before p₀ (n + 1) (c'.call.attempts ++ live) p' ∧
        c'.call.request = c.call.request := by
  obtain ⟨hended, hpending⟩ :=
    RetryingCall.poll_keeps (dispatcher_keeps R before p₀) hr h
  rcases hpoll : c.call.poll dispatcher p with ⟨_ | result, call, p₁⟩
  · have heq : p.poll c = (none, { c with call := call }, p₁) := by rw [poll, hpoll]
    refine ⟨fun result c' p' heq' => ?_, fun c' p' heq' => ?_⟩
    · rw [heq] at heq'
      cases heq'
    · rw [heq] at heq'
      cases heq'
      exact hpending call p₁ hpoll
  · have heq : p.poll c = (some result, { c with call := call },
        p₁.emit [.request c.label (p₁.outside.now - c.started) (isSuccess result)]) := by
      rw [poll, hpoll]
    refine ⟨fun result' c' p' heq' => ?_, fun c' p' heq' => ?_⟩
    · rw [heq] at heq'
      cases heq'
      exact (hended result call p₁ hpoll).emit (by simp [Silent, Event.call?])
    · rw [heq] at heq'
      cases heq'

theorem fire_follows (h : Follows R before p₀ n live p) :
    Follows R before p₀ n live p.tendQueue := by
  have hfires := Queue.fire_fires Selection.backend_quiet h.queue h.idle p.selection
  exact h.onQueue (hfires.sound h.queue h.idle) hfires.ends.2
    (hfires.goes (Selection.backend_obeys ..) h.queue h.goes.asks h.goes.inv)

theorem cancel_follows (h : Follows R before p₀ n live p) :
    Follows R before p₀ n live (p.onRefresher Refresher.cancel) := by
  refine ⟨h.queue, h.idle, h.goes, h.holders, h.alive, h.gone, ?_⟩
  rw [← h.published]
  show (p.refresher.map Refresher.cancel).map Refresher.published = _
  rw [Option.map_map]
  rfl

theorem close_follows (h : Follows R before p₀ n live p) :
    Follows R before p₀ n live p.close := by
  have hcancel := cancel_follows h
  have hflags := Queue.close_flags Selection.backend p.queue p.selection
  exact hcancel.onQueue ⟨Queue.close_sound h.queue _ _, hflags.1.trans h.idle⟩ hflags.2
    (Queue.close_goes (Selection.backend_obeys ..) h.goes.asks h.goes.inv)

end Pipeline

end RpcPipeline
