import RpcPipeline.Proofs.Queue.Service

/-!
# `RpcPipeline.Proofs.Queue.Acts`: everything that can be done with a queue

Whoever holds a queue or one of its calls may do with it what `Queue.Act` lists, in any
order and also while a pass is on its way: what lies behind the queue may call back into it
when it is asked. `Backend.Intrudes` says that this is all that a backend does to the queue.
It has the queue in its hands whenever it is asked, but it uses it by acts only, and what
lies behind the queue during those acts is again a backend of this kind. Such a backend may
call back from a call back, to any depth, but not for ever.

A property of queues that holds no matter what happens has to survive every single move of
which the operations consist, among them those of a pass, which for a while has a call in
its hand that stands in no lane. `Queue.Robust` lists these moves.

* `offerAll_keeps`, `trigger_keeps`, `submit_keeps`, …: one lemma for each operation.
* `run_keeps`: runs keep what is robust.
* `Backend.Intrudes.keeps`: so does a backend that calls back.
-/

set_option autoImplicit false

namespace RpcPipeline

variable {κ σ : Type}

namespace Queue

/-- What can be done with a queue and what lies behind it. -/
inductive Act (κ σ : Type) where
  /-- A new call. -/
  | submit (e : Endpoint) (r : Request)
  /-- A call is polled. -/
  | poll (c : QueuedCall κ)
  /-- A call is dropped. -/
  | drop (c : QueuedCall κ)
  /-- It may be time for a timer. -/
  | fire
  | close
  /-- Nobody holds the queue any more. -/
  | letGo
  /-- What lies behind the queue changes, its settings included. -/
  | change (f : σ → σ)

/-- Only certain changes happen to what lies behind the queue. -/
def Act.Within (V : σ → σ → Prop) : Act κ σ → Prop
  | .change f => ∀ s, V s (f s)
  | _ => True

/-- One act. -/
def act (b : Backend κ σ) : Act κ σ → Queue κ × σ → Queue κ × σ
  | .submit e r, (q, s) => (submit b e r q s).2
  | .poll c, (q, s) => (poll b c q s).2.2
  | .drop c, (q, s) => drop b c q s
  | .fire, (q, s) => fire b q s
  | .close, (q, s) => close b q s
  | .letGo, (q, s) => (q.die, s)
  | .change f, (q, s) => (q, f s)

/-- Acts one after the other. -/
def run (b : Backend κ σ) (acts : List (Act κ σ)) (x : Queue κ × σ) : Queue κ × σ :=
  acts.foldl (fun x a => act b a x) x

end Queue

namespace Backend

/-- The number of calls that may wait. -/
def capacity (b : Backend κ σ) (s : σ) : Nat := (b.settings s).capacity.toNat

/-- What a backend does apart from offers are changes of a certain kind. -/
structure Changes (b : Backend κ σ) (V : σ → σ → Prop) : Prop where
  poll : ∀ c s, V s (b.poll c s).2.2
  drop : ∀ c s, V s (b.drop c s)
  report : ∀ n s, V s (b.report n s)

/-- What a backend does to the queue when it is asked, it does by acts, and it changes its
own state in certain ways only. This is asked of it where `G` holds; elsewhere it may do
anything. -/
inductive Intrudes (G : Queue κ → σ → Prop) (V : σ → σ → Prop) : Backend κ σ → Prop where
  /-- It leaves the queue alone. -/
  | quiet {b : Backend κ σ} (hchanges : b.Changes V) (hquiet : b.Quiet)
      (hoffer : ∀ e r q s, V s (b.offer e r q s).2.2) : Intrudes G V b
  /-- It acts, with some backend behind the queue that has the same settings. -/
  | acting {b : Backend κ σ} (hchanges : b.Changes V)
      (inner : Endpoint → Request → Queue κ → σ → Backend κ σ)
      (hinner : ∀ e r q s, Intrudes G V (inner e r q s))
      (hsettings : ∀ e r q s, (inner e r q s).settings = b.settings)
      (acts : Endpoint → Request → Queue κ → σ → List (Queue.Act κ σ))
      (hacts : ∀ e r q s, ∀ a ∈ acts e r q s, a.Within V)
      (hoffer : ∀ e r q s, G q s →
        (b.offer e r q s).2 = Queue.run (inner e r q s) (acts e r q s) (q, s)) : Intrudes G V b

/-- A backend keeps `I` when it is used, whatever a pass has in its hand. -/
structure Keeps (b : Backend κ σ) (I : List Nat → Queue κ → σ → Prop) : Prop where
  offer : ∀ hand e r q s, I hand q s → I hand (b.offer e r q s).2.1 (b.offer e r q s).2.2
  poll : ∀ hand c q s, I hand q s → I hand q (b.poll c s).2.2
  drop : ∀ hand c q s, I hand q s → I hand q (b.drop c s)
  report : ∀ hand n q s, I hand q s → I hand q (b.report n s)

end Backend

namespace Queue

/-- The queue once a call has joined it, before the pass that follows. -/
def joined (q : Queue κ) (f : Fairness) (e : Endpoint) (r : Request) : Queue κ :=
  enqueue { q with nextId := q.nextId + 1 } f q.nextId e r

/-- A property that survives each move of which the operations on a queue consist. Its first
argument has the calls that a pass has in its hand. A call joins the queue only if there is
room for it, according to `capacity`. -/
structure Robust (capacity : σ → Nat) (I : List Nat → Queue κ → σ → Prop) : Prop where
  /-- Slots, flags, timers and the calls under way do not matter. -/
  same : ∀ {hand q q' s}, I hand q s → q'.lanes = q.lanes → q'.len = q.len →
    q'.nextId = q.nextId → q'.closed = q.closed → q'.alive = q.alive → I hand q' s
  /-- A pass takes the next call. -/
  pop : ∀ {hand q s w rest}, I hand q s → q.lanes.pop = some (w, rest) →
    I (w.id :: hand) { q with lanes := rest } s
  /-- The call in the hand of a pass leaves. -/
  settle : ∀ {hand q s id}, I (id :: hand) q s → I hand q.settle s
  /-- The call in the hand of a pass goes back. -/
  restore : ∀ {hand q s} {w : Waiter} (f : Fairness), I (w.id :: hand) q s →
    I hand { q with lanes := q.lanes.restore f w } s
  /-- A call is turned away. -/
  skip : ∀ {hand q s}, I hand q s → I hand { q with nextId := q.nextId + 1 } s
  /-- A call joins the queue. -/
  enqueue : ∀ {hand q s} (f : Fairness) (e : Endpoint) (r : Request), I hand q s →
    q.len < capacity s → I hand (q.joined f e r) s
  /-- A call leaves before its turn. -/
  remove : ∀ {hand q s id}, I hand q s → id ∈ q.lanes.ids →
    I hand { q with lanes := q.lanes.remove id, len := q.len - 1 } s
  /-- The queue closes. -/
  close : ∀ {hand q s}, I hand q s → I hand { q with closed := true }.abandonAll s
  /-- The queue is let go. -/
  die : ∀ {hand q s}, I hand q s → I hand q.die s

variable {b : Backend κ σ} {capacity : σ → Nat} {I : List Nat → Queue κ → σ → Prop}
  {hand : List Nat} {q : Queue κ} {s : σ}

/-! ### Passes -/

/-- Giving up a call changes its slot only. -/
theorem Robust.abandon (hI : Robust capacity I) (h : I hand q s) (id : Nat) :
    I hand (q.abandon id) s :=
  hI.same h rfl rfl rfl rfl rfl

/-- The slot, the counter of the calls under way and a flag change when a call is handed
over. -/
theorem hand_keeps (hI : Robust capacity I) (hb : b.Keeps I) (h : I hand q s) (id : Nat)
    (call : κ) : I hand (Queue.hand b id call q s).1 (Queue.hand b id call q s).2 := by
  unfold Queue.hand
  split
  · have hflags : I hand { q with inFlight := q.inFlight - 1, rerun := true } s :=
      hI.same h rfl rfl rfl rfl rfl
    exact hb.drop hand call _ s hflags
  · exact hI.same h rfl rfl rfl rfl rfl

theorem offerAll_keeps (hI : Robust capacity I) (hb : b.Keeps I) (f : Fairness) (fuel : Nat) :
    ∀ (q : Queue κ) (s : σ), I hand q s →
      I hand (offerAll b f fuel q s).2.1 (offerAll b f fuel q s).2.2 := by
  induction fuel with
  | zero => exact fun q s h => h
  | succ fuel ih =>
    intro q s h
    cases hp : q.lanes.pop with
    | none =>
      rw [offerAll_of_none b f _ s hp]
      exact h
    | some next =>
      obtain ⟨w, rest⟩ := next
      have htaken := hI.pop h hp
      cases hgone : (q.isDeserted w.id || q.closed) with
      | true =>
        rw [offerAll_of_gone b f fuel s hp hgone]
        exact ih _ s (hI.abandon (hI.settle htaken) w.id)
      | false =>
        have hoffered := hb.offer _ w.endpoint w.request _ s htaken
        rcases hoffer : b.offer w.endpoint w.request { q with lanes := rest } s with
          ⟨answer, q₁, s₁⟩
        rw [hoffer] at hoffered
        cases answer with
        | none =>
          rw [offerAll_of_refused f fuel hp hgone hoffer]
          split
          · -- The queue was closed during the offer, so the call does not go back.
            exact hI.abandon (hI.settle hoffered) w.id
          · exact hI.restore f hoffered
        | some call =>
          have hleft : I hand { q₁.settle with inFlight := q₁.inFlight + 1 } s₁ :=
            hI.same (hI.settle hoffered) rfl rfl rfl rfl rfl
          rw [offerAll_of_taken f fuel hp hgone hoffer]
          exact ih _ _ (hand_keeps hI hb hleft w.id call)

/-- Setting a timer changes the timers only. -/
theorem Robust.arm (hI : Robust capacity I) (h : I hand q s) (now : Instant) (delay : Nanos) :
    I hand (q.arm now delay) s := by
  rw [arm_eq]
  exact hI.same h rfl rfl rfl rfl rfl

theorem pass_keeps (hI : Robust capacity I) (hb : b.Keeps I) (h : I hand q s) :
    I hand (pass b q s).1 (pass b q s).2 := by
  have hround : I hand { q with rounds := q.rounds + 1 } s := hI.same h rfl rfl rfl rfl rfl
  have hloop := offerAll_keeps hI hb (b.settings s).fairness
    (q.lanes.count + b.callbacks s + 1) { q with rounds := q.rounds + 1 } s hround
  rcases hoffers : offerAll b (b.settings s).fairness (q.lanes.count + b.callbacks s + 1)
    { q with rounds := q.rounds + 1 } s with ⟨stalled, mid, s₁⟩
  rw [hoffers] at hloop
  have hreport := hb.report hand mid.len mid s₁ hloop
  rw [pass_eq b hoffers]
  show I hand (if _ then _ else _) (b.report mid.len s₁)
  split
  · exact hI.arm hreport _ _
  · exact hreport

theorem passes_keeps (hI : Robust capacity I) (hb : b.Keeps I) (fuel : Nat) :
    ∀ (q : Queue κ) (s : σ), I hand q s →
      I hand (passes b fuel q s).1 (passes b fuel q s).2 := by
  induction fuel with
  | zero => exact fun q s h => hI.same h rfl rfl rfl rfl rfl
  | succ fuel ih =>
    intro q s h
    rw [passes]
    split
    · have hasked : I hand { q with rerun := false } s := hI.same h rfl rfl rfl rfl rfl
      exact ih _ _ (pass_keeps hI hb hasked)
    · exact hI.same h rfl rfl rfl rfl rfl

theorem trigger_keeps (hI : Robust capacity I) (hb : b.Keeps I) (h : I hand q s) :
    I hand (trigger b q s).1 (trigger b q s).2 := by
  simp only [trigger]
  split
  · -- A pass is under way already and is only asked to go round once more.
    exact hI.same h rfl rfl rfl rfl rfl
  · exact passes_keeps hI hb _ _ s (hI.same h rfl rfl rfl rfl rfl)

/-! ### A new call -/

/-- The attempt to have a new call taken at once, which is made only while nothing waits. -/
def attempt (b : Backend κ σ) (e : Endpoint) (r : Request) (q : Queue κ) (s : σ) :
    Option κ × Queue κ × σ :=
  if q.len = 0 then b.offer e r q s else (none, q, s)

/-- What becomes of a new call at an open queue. What lies behind the queue may change it
during the attempt, so everything else is a matter of the queue after the attempt. -/
inductive Joins (b : Backend κ σ) (e : Endpoint) (r : Request) (q : Queue κ) (s : σ) :
    QueuedCall κ → Queue κ → σ → Prop where
  | taken {call : κ} {q₁ : Queue κ} {s₁ : σ} (hattempt : attempt b e r q s = (some call, q₁, s₁)) :
      Joins b e r q s (.running call) { q₁ with inFlight := q₁.inFlight + 1 } s₁
  | full {q₁ : Queue κ} {s₁ : σ} (hattempt : attempt b e r q s = (none, q₁, s₁))
      (hfull : b.capacity s₁ ≤ q₁.len) :
      Joins b e r q s (.refused (.queueFull (b.capacity s₁))) { q₁ with nextId := q₁.nextId + 1 }
        s₁
  | queued {q₁ : Queue κ} {s₁ : σ} (hattempt : attempt b e r q s = (none, q₁, s₁))
      (hroom : q₁.len < b.capacity s₁) :
      Joins b e r q s (.waiting q₁.nextId)
        (trigger b (q₁.joined (b.settings s₁).fairness e r) (b.report (q₁.len + 1) s₁)).1
        (trigger b (q₁.joined (b.settings s₁).fairness e r) (b.report (q₁.len + 1) s₁)).2

theorem submit_joins (hopen : q.closed = false) (b : Backend κ σ) (e : Endpoint) (r : Request)
    (s : σ) : ∃ c q' s', submit b e r q s = (c, q', s') ∧ Joins b e r q s c q' s' := by
  rcases hattempt : attempt b e r q s with ⟨answer, q₁, s₁⟩
  have htried := hattempt
  unfold attempt at htried
  unfold submit
  rw [if_neg (by simp [hopen]), htried]
  cases answer with
  | some call => exact ⟨_, _, _, rfl, .taken hattempt⟩
  | none =>
    simp only
    split
    · next hfull => exact ⟨_, _, _, rfl, .full hattempt hfull⟩
    · next hroom => exact ⟨_, _, _, rfl, .queued hattempt (Nat.lt_of_not_le hroom)⟩

theorem attempt_keeps (hb : b.Keeps I) (h : I hand q s) (e : Endpoint) (r : Request) :
    I hand (attempt b e r q s).2.1 (attempt b e r q s).2.2 := by
  unfold attempt
  split
  · exact hb.offer hand e r q s h
  · exact h

theorem submit_keeps (hI : Robust b.capacity I) (hb : b.Keeps I) (h : I hand q s)
    (e : Endpoint) (r : Request) :
    I hand (submit b e r q s).2.1 (submit b e r q s).2.2 := by
  cases hclosed : q.closed with
  | true =>
    unfold submit
    rwa [if_pos hclosed]
  | false =>
    have hattempted := attempt_keeps hb h e r
    obtain ⟨c, q', s', hsubmit, hjoins⟩ := submit_joins hclosed b e r s
    rw [hsubmit]
    cases hjoins with
    | taken hattempt =>
      rw [hattempt] at hattempted
      exact hI.same hattempted rfl rfl rfl rfl rfl
    | full hattempt =>
      rw [hattempt] at hattempted
      exact hI.skip hattempted
    | queued hattempt hroom =>
      rw [hattempt] at hattempted
      exact trigger_keeps hI hb (hb.report hand _ _ _ (hI.enqueue _ e r hattempted hroom))

/-! ### The other acts -/

theorem leave_keeps (hI : Robust capacity I) (hb : b.Keeps I) (h : I hand q s) :
    I hand (leave b q s).1 (leave b q s).2 := by
  unfold leave
  split
  · exact trigger_keeps hI hb (hI.same h rfl rfl rfl rfl rfl)
  · exact h

theorem pollTaken_keeps (hI : Robust capacity I) (hb : b.Keeps I) (h : I hand q s) (call : κ) :
    I hand (pollTaken b call q s).2.2.1 (pollTaken b call q s).2.2.2 := by
  have hpolled := hb.poll hand call q s h
  unfold pollTaken
  rcases hpoll : b.poll call s with ⟨result, call', s'⟩
  rw [hpoll] at hpolled
  cases result with
  | none => exact hpolled
  | some result => exact leave_keeps hI hb hpolled

theorem poll_keeps (hI : Robust capacity I) (hb : b.Keeps I) (h : I hand q s)
    (c : QueuedCall κ) : I hand (poll b c q s).2.2.1 (poll b c q s).2.2.2 := by
  cases c with
  | refused e => exact h
  | running call => exact pollTaken_keeps hI hb h call
  | waiting id =>
    have herase : I hand { q with slots := q.slots.erase id } s :=
      hI.same h rfl rfl rfl rfl rfl
    unfold poll
    cases hslot : q.slots.get? id with
    | none => simpa only [hslot] using herase
    | some slot =>
      cases slot with
      | empty => simpa only [hslot] using h
      | filled call => simpa only [hslot] using pollTaken_keeps hI hb herase call
      | abandoned => simpa only [hslot] using herase

/-- A call that waits leaves its lane when it is dropped. -/
theorem withdraw_keeps (hI : Robust capacity I) (hb : b.Keeps I) (h : I hand q s) (id : Nat) :
    I hand (withdraw b id q s).1 (withdraw b id q s).2 := by
  rw [withdraw_eq]
  split
  · next hhas => exact hb.report hand _ _ s (hI.remove h (Lanes.has_iff.mp hhas))
  · exact h

theorem drop_keeps (hI : Robust capacity I) (hb : b.Keeps I) (h : I hand q s)
    (c : QueuedCall κ) : I hand (drop b c q s).1 (drop b c q s).2 := by
  cases c with
  | refused e => exact h
  | running call => exact leave_keeps hI hb (hb.drop hand call q s h)
  | waiting id =>
    have hwithdrawn := withdraw_keeps hI hb h id
    unfold drop
    simp only
    generalize withdraw b id q s = x at hwithdrawn ⊢
    obtain ⟨q₁, s₁⟩ := x
    have herase : I hand { q₁ with slots := q₁.slots.erase id } s₁ :=
      hI.same hwithdrawn rfl rfl rfl rfl rfl
    simp only
    split
    · next call _ => exact leave_keeps hI hb (hb.drop hand call _ s₁ herase)
    · exact herase

theorem close_keeps (hI : Robust capacity I) (hb : b.Keeps I) (h : I hand q s) :
    I hand (close b q s).1 (close b q s).2 := by
  unfold close
  split
  · exact h
  · exact hb.report hand 0 _ s (hI.close h)

theorem fire_keeps (hI : Robust capacity I) (hb : b.Keeps I) (h : I hand q s) :
    I hand (fire b q s).1 (fire b q s).2 := by
  have hring : I hand (q.ring (b.now s)) s := hI.same h rfl rfl rfl rfl rfl
  unfold fire
  split
  · simp only
    split
    · exact hring
    · exact trigger_keeps hI hb hring
  · exact h

/-! ### Runs -/

/-- An act keeps what is robust. -/
theorem act_keeps {V : σ → σ → Prop} (hI : Robust b.capacity I) (hb : b.Keeps I)
    (hV : ∀ hand q s s', V s s' → I hand q s → I hand q s') {a : Act κ σ} (ha : a.Within V)
    (x : Queue κ × σ) (h : I hand x.1 x.2) : I hand (act b a x).1 (act b a x).2 := by
  cases a with
  | submit e r => exact submit_keeps hI hb h e r
  | poll c => exact poll_keeps hI hb h c
  | drop c => exact drop_keeps hI hb h c
  | fire => exact fire_keeps hI hb h
  | close => exact close_keeps hI hb h
  | letGo => exact hI.die h
  | change f => exact hV _ _ _ _ (ha x.2) h

theorem run_keeps {V : σ → σ → Prop} (hI : Robust b.capacity I) (hb : b.Keeps I)
    (hV : ∀ hand q s s', V s s' → I hand q s → I hand q s') {acts : List (Act κ σ)}
    (ha : ∀ a ∈ acts, a.Within V) (x : Queue κ × σ) (h : I hand x.1 x.2) :
    I hand (run b acts x).1 (run b acts x).2 := by
  induction acts generalizing x with
  | nil => exact h
  | cons a acts ih =>
    exact ih (fun a' ha' => ha a' (List.mem_cons_of_mem a ha')) _
      (act_keeps hI hb hV (ha a List.mem_cons_self) x h)

end Queue

/-- A backend that calls back keeps what is robust, provided that its own changes do, and
that it only has to do as it should as long as this holds. -/
theorem Backend.Intrudes.keeps {b : Backend κ σ} {G : Queue κ → σ → Prop} {V : σ → σ → Prop}
    {I : List Nat → Queue κ → σ → Prop} (hb : b.Intrudes G V)
    (hI : Queue.Robust b.capacity I) (hG : ∀ hand q s, I hand q s → G q s)
    (hV : ∀ hand q s s', V s s' → I hand q s → I hand q s') : b.Keeps I := by
  -- The induction is on the depth of the calls back.
  induction hb with
  | @quiet b hchanges hquiet hoffer =>
    refine ⟨fun hand e r q s h => ?_, fun hand c q s => hV hand q _ _ (hchanges.poll c s),
      fun hand c q s => hV hand q _ _ (hchanges.drop c s),
      fun hand n q s => hV hand q _ _ (hchanges.report n s)⟩
    rw [hquiet e r q s]
    exact hV hand q _ _ (hoffer e r q s) h
  | @acting b hchanges inner _ hsettings acts hacts hoffer ih =>
    refine ⟨fun hand e r q s h => ?_, fun hand c q s => hV hand q _ _ (hchanges.poll c s),
      fun hand c q s => hV hand q _ _ (hchanges.drop c s),
      fun hand n q s => hV hand q _ _ (hchanges.report n s)⟩
    have hcapacity : (inner e r q s).capacity = b.capacity := by
      funext s'
      rw [capacity, capacity, hsettings]
    have hinner : Queue.Robust (inner e r q s).capacity I := by rwa [hcapacity]
    rw [hoffer e r q s (hG hand q s h)]
    exact Queue.run_keeps hinner (ih e r q s hinner) hV (hacts e r q s) (q, s) h

end RpcPipeline
