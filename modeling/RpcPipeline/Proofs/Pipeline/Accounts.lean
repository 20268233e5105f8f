import RpcPipeline.Proofs.Pipeline.Traffic
import RpcPipeline.Proofs.Selection.Custody

/-!
# `RpcPipeline.Proofs.Pipeline.Accounts`: accounts that last

Accounts relate the calls that were taken and have not ended to the hosts that have taken them.
If they stand whatever a queue does to its hosts (`Backend.Tracks`), and whatever else happens
to the hosts in between (`Selection.Lasts`), then they stand in every run of a pipeline, as
long as they stand at its beginning. Nothing here depends on what the accounts say.

* `Pipeline.Accounts`: the accounts stand, for the attempts that callers hold.
* `dispatcher_accounts`: what retry does to the queue keeps them.
* `Traffic.run_accounted`: every run keeps them.
-/

set_option autoImplicit false

namespace RpcPipeline

variable {α : Type}

namespace Pipeline

/-- The accounts stand for the attempts `live` that have neither ended nor been dropped, and
`n` hold the queue. -/
structure Accounts (A : List (SelectedCall α) → Selection α → Prop) (n : Nat)
    (live : List (QueuedCall (SelectedCall α))) (p : Pipeline α) : Prop where
  queue : p.queue.Sound live
  idle : p.queue.running = false
  holders : p.holders = n
  alive : p.queue.alive = true ↔ 0 < n
  stand : A (Queue.taken p.queue.slots live) p.selection

variable [Scalar α] {A : List (SelectedCall α) → Selection α → Prop} {p p' : Pipeline α} {n : Nat}
  {live live' : List (QueuedCall (SelectedCall α))}

/-! ### Retry and the queue -/

theorem Accounts.perm (hA : Selection.Lasts A) (h : p.Accounts A n live)
    (hlive : live.Perm live') : p.Accounts A n live' where
  queue := h.queue.perm hlive
  idle := h.idle
  holders := h.holders
  alive := h.alive
  stand := hA.tracks.perm h.stand (hlive.filterMap _)

omit [Scalar α] in
theorem Accounts.self (h : p.Accounts A n live) : p.Accounts A p.holders live :=
  h.holders.symm ▸ h

omit [Scalar α] in
/-- An operation of the queue. -/
theorem Accounts.onQueue (h : p.Accounts A n live) {q : Queue (SelectedCall α)}
    {s : Selection α} (hqueue : q.Sound live' ∧ q.running = false)
    (hends : q.alive = p.queue.alive) (hstand : A (Queue.taken q.slots live') s) :
    { p with queue := q, selection := s }.Accounts A n live' where
  queue := hqueue.1
  idle := hqueue.2
  holders := h.holders
  alive := by
    show q.alive = true ↔ 0 < n
    rw [hends]
    exact h.alive
  stand := hstand

/-- The hosts' side and the time may change in any way, and anything may be reported. -/
theorem Accounts.onOutside (hA : Selection.Lasts A) (h : p.Accounts A n live)
    (change : Outside α → Outside α) : (p.onOutside change).Accounts A n live :=
  ⟨h.queue, h.idle, h.holders, h.alive, hA.outside change h.stand⟩

omit [Scalar α] in
/-- If the last holder goes, the queue goes with it. What was taken stays taken. -/
theorem Accounts.release (h : p.Accounts A (n + 1) live) : p.release.Accounts A n live := by
  have hholders : p.holders - 1 = n := by
    rw [h.holders]
    rfl
  rw [release_eq, hholders]
  split
  · next hzero =>
    -- The queue dies with its last holder.
    subst hzero
    have hflags : p.queue.die.running = false ∧ p.queue.die.alive = false := by
      rw [Queue.die_eq]
      exact ⟨h.idle, rfl⟩
    refine ⟨Queue.die_sound h.queue, hflags.1, rfl, ?_, Queue.die_tracks h.queue h.stand⟩
    show p.queue.die.alive = true ↔ _
    simp [hflags.2]
  · next hpos =>
    refine ⟨h.queue, h.idle, rfl, ?_, h.stand⟩
    exact h.alive.trans ⟨fun _ => Nat.pos_of_ne_zero hpos, fun _ => Nat.succ_pos n⟩

theorem Accounts.poll (hA : Selection.Lasts A) {c c' : QueuedCall (SelectedCall α)}
    {result : Option HostResult} (h : p.Accounts A n (c :: live))
    (heq : dispatcher.poll c p = (result, c', p')) :
    p'.Accounts A n (if result.isSome then live else c' :: live) := by
  have hpolls := Queue.poll_polls Selection.backend_quiet h.queue h.idle p.selection
  rcases hpoll : Queue.poll Selection.backend c p.queue p.selection with ⟨result₁, c₁, q₁, s₁⟩
  have heq' : dispatcher.poll c p = (result₁, c₁, { p with queue := q₁, selection := s₁ }) := by
    simp only [dispatcher, Pipeline.onQueue, hpoll]
  rw [heq] at heq'
  cases heq'
  rw [hpoll] at hpolls
  exact h.onQueue (hpolls.sound h.queue h.idle) hpolls.ends.2
    (hpolls.tracks hA.tracks h.queue h.stand)

/-- What retry does to the queue keeps the accounts, between any two attempts and within each
of them. -/
theorem dispatcher_accounts (hA : Selection.Lasts A) :
    Dispatcher.Keeps dispatcher (fun _ => True)
      fun n live (p : Pipeline α) => p.Accounts A n live where
  submit {n live p} e r _ h := by
    have halive : p.queue.alive = true := h.alive.mpr (Nat.succ_pos n)
    have hsubmits := Queue.submit_submits Selection.backend_quiet h.queue h.idle halive e r
      p.selection
    exact h.onQueue (hsubmits.sound h.queue h.idle halive) hsubmits.ends.2
      (hsubmits.tracks hA.tracks h.queue halive h.stand)
  pending h heq := h.poll hA heq
  ended h heq := h.poll hA heq
  drop {n live p a} h := by
    have hdrops := Queue.drop_drops Selection.backend_quiet h.queue h.idle p.selection
    exact h.onQueue (hdrops.sound h.queue h.idle) hdrops.ends.2
      (hdrops.tracks hA.tracks h.queue h.stand)
  emit event _ h := h.onOutside hA (·.emit [event])
  close r h := h.onOutside hA (·.close r)
  draw f h := ⟨h.queue, h.idle, h.holders, h.alive, h.stand⟩
  hold {n live p} h := by
    refine ⟨h.queue, h.idle, congrArg (· + 1) h.holders, ?_, h.stand⟩
    exact h.alive.trans ⟨fun _ => Nat.succ_pos _, fun _ => Nat.succ_pos _⟩
  release h := h.release

/-! ### Operations -/

theorem execute_accounts (hA : Selection.Lasts A) (h : p.Accounts A (n + 1) live) (e : Endpoint)
    (r : Request) :
    (p.execute e r).2.Accounts A (n + 2) ((p.execute e r).1.call.attempts ++ live) :=
  RetryingCall.start_keeps (dispatcher_accounts hA) e trivial h

theorem drop_accounts (hA : Selection.Lasts A) {c : PipelineCall α}
    (h : p.Accounts A (n + 1) (c.call.attempts ++ live)) : (p.drop c).Accounts A n live :=
  RetryingCall.drop_keeps (dispatcher_accounts hA) h

theorem poll_accounts (hA : Selection.Lasts A) {c : PipelineCall α}
    (h : p.Accounts A (n + 1) (c.call.attempts ++ live)) :
    (∀ result c' p', p.poll c = (some result, c', p') → p'.Accounts A n live) ∧
    ∀ c' p', p.poll c = (none, c', p') → p'.Accounts A (n + 1) (c'.call.attempts ++ live) := by
  obtain ⟨hended, hpending⟩ := RetryingCall.poll_keeps (dispatcher_accounts hA) trivial h
  unfold poll
  rcases hpoll : c.call.poll dispatcher p with ⟨_ | result, call, p₁⟩
  · refine ⟨fun result c' p' heq => (by cases heq), fun c' p' heq => ?_⟩
    cases heq
    exact (hpending call p₁ hpoll).1
  · refine ⟨fun result' c' p' heq => ?_, fun c' p' heq => (by cases heq)⟩
    cases heq
    exact (hended result call p₁ hpoll).onOutside hA _

theorem fire_accounts (hA : Selection.Lasts A) (h : p.Accounts A n live) :
    p.tendQueue.Accounts A n live := by
  have hfires := Queue.fire_fires Selection.backend_quiet h.queue h.idle p.selection
  exact h.onQueue (hfires.sound h.queue h.idle) hfires.ends.2
    (hfires.tracks hA.tracks h.queue h.stand)

omit [Scalar α] in
theorem cancel_accounts (h : p.Accounts A n live) :
    (p.onRefresher Refresher.cancel).Accounts A n live :=
  ⟨h.queue, h.idle, h.holders, h.alive, h.stand⟩

omit [Scalar α] in
theorem letGo_accounts (h : p.Accounts A (n + 1) live) (hgone : p.gone = false) :
    p.letGo.Accounts A n live := by
  have hend := cancel_accounts h.release
  rw [letGo, if_neg (by simp [hgone])]
  exact ⟨hend.queue, hend.idle, hend.holders, hend.alive, hend.stand⟩

theorem close_accounts (hA : Selection.Lasts A) (h : p.Accounts A n live) :
    p.close.Accounts A n live := by
  have hflags := Queue.close_flags Selection.backend p.queue p.selection
  exact (cancel_accounts h).onQueue ⟨Queue.close_sound h.queue _ _, hflags.1.trans h.idle⟩
    hflags.2 (Queue.close_tracks hA.tracks h.queue h.stand)

end Pipeline

namespace Traffic

open Pipeline

variable {A : List (SelectedCall α) → Selection α → Prop} {R : Request → Prop}
  {before : List (String × String)} {x : Traffic α}

/-! ### Moves -/

/-- The accounts stand for the attempts that callers hold. -/
def Accounted (A : List (SelectedCall α) → Selection α → Prop) (x : Traffic α) : Prop :=
  x.pipeline.Accounts A x.pipeline.holders (held x.calls)

variable [Scalar α]

/-- An operation that begins with accounts that stand ends with accounts that stand. -/
theorem Accounted.of (hA : Selection.Lasts A) {x' : Traffic α} {n : Nat}
    {live : List (QueuedCall (SelectedCall α))} (h : x'.pipeline.Accounts A n live)
    (hlive : live.Perm (held x'.calls)) : x'.Accounted A :=
  (h.perm hA hlive).self

omit [Scalar α] in
/-- What leaves the queue and the callers alone and keeps the accounts. -/
theorem Accounted.apart (h : x.Accounted A) {x' : Traffic α} (hcalls : x'.calls = x.calls)
    (hqueue : x'.pipeline.queue = x.pipeline.queue)
    (hholders : x'.pipeline.holders = x.pipeline.holders)
    (hstand : ∀ l, A l x.pipeline.selection → A l x'.pipeline.selection) : x'.Accounted A := by
  unfold Accounted
  rw [hcalls, hholders]
  exact
    { queue := hqueue ▸ h.queue
      idle := hqueue ▸ h.idle
      holders := hholders
      alive := hqueue ▸ h.alive
      stand := hqueue ▸ hstand _ h.stand }

/-- A pipeline that was not let go holds the queue. -/
theorem Accounted.present (h : x.Accounted A) (hs : x.Sound R before)
    (hgone : x.pipeline.gone = false) :
    ∃ n, x.pipeline.Accounts A (n + 1) (held x.calls) := by
  have hholders := hs.holders
  rw [hgone] at hholders
  exact ⟨_, hholders.symm ▸ h.self⟩

/-- A caller that holds a call is one of those who hold the queue. -/
theorem Accounted.split (hA : Selection.Lasts A) (h : x.Accounted A) (hs : x.Sound R before)
    {rest : List (QueuedCall (SelectedCall α))} {count : Nat} {c : PipelineCall α}
    (hlive : (held x.calls).Perm (c.call.attempts ++ rest))
    (hcount : x.calls.countP Option.isSome = count + 1) :
    ∃ n, x.pipeline.Accounts A (n + 1) (c.call.attempts ++ rest) := by
  have hholders := hs.holders
  rw [hcount, Nat.add_right_comm] at hholders
  exact ⟨_, hholders ▸ h.perm hA hlive⟩

theorem Accounted.execute (hA : Selection.Lasts A) (h : x.Accounted A) (hs : x.Sound R before)
    (e : Endpoint) (r : Request) : (x.step (.execute e r)).Accounted A := by
  unfold step act
  dsimp only
  cases hgone : x.pipeline.gone with
  | true => exact h
  | false =>
    rw [if_neg Bool.false_ne_true]
    obtain ⟨n, hstart⟩ := h.present hs hgone
    refine .of hA (execute_accounts hA hstart e r) ?_
    simp only [held, List.flatMap_append, List.flatMap_singleton, Option.map_some,
      Option.getD_some]
    exact List.perm_append_comm

theorem Accounted.poll (hA : Selection.Lasts A) (h : x.Accounted A) (hs : x.Sound R before)
    (n : Nat) : (x.step (.poll n)).Accounted A := by
  unfold step act
  dsimp only
  rcases hc : x.calls[n]? with _ | _ | c
  · exact h
  · exact h
  · obtain ⟨rest, count, hlive, hcount, hkept, hdone, -⟩ := held_split hc
    obtain ⟨m, hstart⟩ := h.split hA hs hlive hcount
    obtain ⟨hended, hpending⟩ := poll_accounts hA hstart
    dsimp only
    rcases hpoll : x.pipeline.poll c with ⟨_ | result, c', p'⟩
    · exact .of hA (hpending c' p' hpoll) (hkept c').1
    · exact .of hA (hended result c' p' hpoll) hdone

theorem Accounted.drop (hA : Selection.Lasts A) (h : x.Accounted A) (hs : x.Sound R before)
    (n : Nat) : (x.step (.drop n)).Accounted A := by
  unfold step act
  dsimp only
  rcases hc : x.calls[n]? with _ | _ | c
  · exact h
  · exact h
  · obtain ⟨rest, count, hlive, hcount, -, hdone, -⟩ := held_split hc
    obtain ⟨m, hstart⟩ := h.split hA hs hlive hcount
    exact .of hA (drop_accounts hA hstart) hdone

theorem Accounted.letGo (hA : Selection.Lasts A) (h : x.Accounted A) (hs : x.Sound R before) :
    (x.step .letGo).Accounted A := by
  cases hgone : x.pipeline.gone with
  | true =>
    have hsame : x.pipeline.letGo = x.pipeline := by rw [Pipeline.letGo, if_pos hgone]
    unfold step act
    dsimp only
    rw [hsame]
    exact h
  | false =>
    obtain ⟨n, hstart⟩ := h.present hs hgone
    exact .of hA (letGo_accounts hstart hgone) (.refl _)

/-- The fleet sees what a refresher has published since. -/
theorem Accounted.heed (hA : Selection.Lasts A) (h : x.Accounted A) (hs : x.Sound R before)
    {r r' : Refresher α} {events : List (Event α)} (hrefresher : x.pipeline.refresher = some r)
    (hruns : r.Runs r' events) {calm : Bool} :
    Accounted A ⟨(x.pipeline.heed r').emit events, x.calls, calm⟩ :=
  h.apart rfl rfl rfl fun _ hstand =>
    hA.outside (·.emit events) (hA.publish hstand (hs.published r hrefresher) hruns.later)

theorem Accounted.wake (hA : Selection.Lasts A) (h : x.Accounted A) (hs : x.Sound R before) :
    (x.step .wake).Accounted A := by
  unfold step act
  dsimp only
  unfold Pipeline.tendNames
  cases hrefresher : x.pipeline.refresher with
  | none => exact h
  | some r => exact h.heed hA hs hrefresher (r.wake_runs x.pipeline.outside.now x.pipeline.config)

theorem Accounted.publish (hA : Selection.Lasts A) (h : x.Accounted A) (hs : x.Sound R before)
    (snapshot : DnsSnapshot) : (x.step (.publish snapshot)).Accounted A := by
  unfold step act
  dsimp only
  unfold Pipeline.publish
  cases hrefresher : x.pipeline.refresher with
  | none => exact h
  | some r =>
    have hruns : r.Runs (r.publish snapshot) [] := ⟨r.publish_later snapshot, silent_nil⟩
    exact h.heed hA hs hrefresher hruns

theorem Accounted.step (hA : Selection.Lasts A) (h : x.Accounted A) (hs : x.Sound R before)
    (m : Move α) : (x.step m).Accounted A := by
  cases m with
  | execute e r => exact h.execute hA hs e r
  | poll n => exact h.poll hA hs n
  | drop n => exact h.drop hA hs n
  | close => exact .of hA (close_accounts hA h) (.refl _)
  | letGo => exact h.letGo hA hs
  | fire => exact .of hA (fire_accounts hA h) (.refl _)
  | wake => exact h.wake hA hs
  | publish snapshot => exact h.publish hA hs snapshot
  | look => exact h.apart rfl rfl rfl fun _ hstand => hA.look hstand
  | advance span =>
    exact h.apart rfl rfl rfl fun _ hstand =>
      hA.outside (fun o => { o with now := o.now + span }) hstand
  | update config => exact h.apart rfl rfl rfl fun _ hstand => hA.update config hstand
  | exclude id reason =>
    let f := x.pipeline.selection.fleet
    let changes := f.blacklist.exclude f.outside.now id reason
    exact h.apart rfl rfl rfl fun _ hstand =>
      hA.outside (·.emit changes.2.2) (hA.blacklist changes.2.1 hstand)
  | amend change => exact h.apart rfl rfl rfl fun _ hstand => hA.blacklist _ hstand
  | network change =>
    exact h.apart rfl rfl rfl fun _ hstand => hA.outside (·.onNetwork change) hstand

/-! ### Every run -/

theorem run_accounted (hA : Selection.Lasts A) (h : x.Accounted A)
    (hs : x.Sound (fun _ => True) before) (moves : List (Move α)) :
    (x.run moves).Accounted A ∧ (x.run moves).Sound (fun _ => True) before := by
  induction moves generalizing x with
  | nil => exact ⟨h, hs⟩
  | cons m moves ih =>
    -- The invariant of the run has to come along, since each step of the accounts needs it.
    have hany : m.Asks fun _ => True := by cases m <;> trivial
    exact ih (h.step hA hs m) (hs.step hany).sound

/-- A pipeline through which no call was made yet has nothing to account for but its hosts. -/
theorem start_accounted {outside : Outside α} {config : ClientConfig α}
    {resolver : Option Resolver} {timed : Bool} {entropy : RandomStream} {p : Pipeline α}
    (hnew : Pipeline.new outside config resolver timed entropy = .ok p) (h : A [] p.selection) :
    (start p).Accounted A := by
  have hsound := start_sound (R := fun _ => True) hnew
  exact ⟨hsound.queue, hsound.idle, rfl, hsound.alive, h⟩

end Traffic

end RpcPipeline
