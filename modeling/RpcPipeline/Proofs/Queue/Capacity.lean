import RpcPipeline.Proofs.Queue.Acts

/-!
# `RpcPipeline.Proofs.Queue.Capacity`: how many calls may wait

A queue keeps a counter beside its lanes, and whether there is room for a new call is a
matter of this counter. That the counter is right is `Queue.Counted`: as long as the queue is
open it has the number of calls that stand in a lane or are in the hand of a pass. No act
disturbs that, not even one that comes from behind the queue in the middle of a pass
(`counted_robust`).

Where no capacity is ever above a ceiling that never sinks, the counter does not pass the
ceiling (`ceiling_robust`). The capacity itself is such a ceiling if it is never lowered, and
the capacity at one moment is such a ceiling for as long as it is not raised.

* `run_keepsToCapacity`: a new call is turned away exactly if it is not taken at once and
  there is no room (`Queue.KeepsToCapacity`), and in every state of every run the counter is
  right and stays within a capacity that is never lowered.
-/

set_option autoImplicit false

open scoped List

namespace RpcPipeline

variable {κ σ : Type}

namespace Queue

variable {b : Backend κ σ} {hand : List Nat} {q : Queue κ} {s : σ}

/-! ### The counter -/

/-- While the queue is open, it counts the calls in its lanes and those in the hand of a
pass. These all have different numbers. -/
structure Counted (hand : List Nat) (q : Queue κ) : Prop where
  nodup : (hand ++ q.lanes.ids).Nodup
  below : ∀ id ∈ hand ++ q.lanes.ids, id < q.nextId
  len_eq : q.closed = false → q.alive = true → q.len = hand.length + q.lanes.count

theorem counted_new (timed : Bool) : Counted [] (new timed : Queue κ) :=
  ⟨List.nodup_nil, (fun _ h => nomatch h), fun _ _ => rfl⟩

/-- The same calls may be split up between hand and lanes in another way. -/
theorem Counted.of_perm {hand' : List Nat} {q' : Queue κ} (h : Counted hand q)
    (hperm : hand' ++ q'.lanes.ids ~ hand ++ q.lanes.ids) (hnext : q'.nextId = q.nextId)
    (hlen : q'.len = q.len) (hclosed : q'.closed = q.closed) (halive : q'.alive = q.alive) :
    Counted hand' q' := by
  refine ⟨hperm.nodup_iff.mpr h.nodup, fun id hid => ?_, fun hc ha => ?_⟩
  · rw [hnext]
    exact h.below id (hperm.mem_iff.mp hid)
  · have hlength := hperm.length_eq
    rw [List.length_append, List.length_append, Lanes.length_ids, Lanes.length_ids] at hlength
    have heq := h.len_eq (hclosed ▸ hc) (halive ▸ ha)
    omega

/-- Some calls may leave, if the counter follows or the queue is not open any more. -/
theorem Counted.of_sublist {hand' : List Nat} {q' : Queue κ} (h : Counted hand q)
    (hsub : hand' ++ q'.lanes.ids <+ hand ++ q.lanes.ids) (hnext : q'.nextId = q.nextId)
    (hlen : q'.closed = false → q'.alive = true → q'.len = hand'.length + q'.lanes.count) :
    Counted hand' q' := by
  refine ⟨h.nodup.sublist hsub, fun id hid => ?_, hlen⟩
  rw [hnext]
  exact h.below id (hsub.subset hid)

theorem Counted.settle {id : Nat} (h : Counted (id :: hand) q) : Counted hand q.settle := by
  refine h.of_sublist (List.sublist_cons_self ..) rfl fun hc ha => ?_
  have heq := h.len_eq hc ha
  rw [List.length_cons] at heq
  show q.len - 1 = hand.length + q.lanes.count
  omega

/-- A call joins the queue with a number that is new. -/
theorem Counted.joined (h : Counted hand q) (f : Fairness) (e : Endpoint) (r : Request) :
    Counted hand (q.joined f e r) := by
  have hids := Lanes.ids_push f ⟨q.nextId, e, r⟩ q.lanes
  have hperm : hand ++ (q.lanes.push f ⟨q.nextId, e, r⟩).ids ~
      q.nextId :: (hand ++ q.lanes.ids) :=
    (hids.append_left hand).trans List.perm_middle
  have hnew : q.nextId ∉ hand ++ q.lanes.ids := fun hid => Nat.lt_irrefl _ (h.below _ hid)
  refine ⟨hperm.nodup_iff.mpr (List.nodup_cons.mpr ⟨hnew, h.nodup⟩), fun id hid => ?_,
    fun hc ha => ?_⟩
  · show id < q.nextId + 1
    rcases List.mem_cons.mp (hperm.mem_iff.mp hid) with rfl | hid
    · omega
    · have hlt := h.below id hid
      omega
  · show q.len + 1 = hand.length + (q.lanes.push f ⟨q.nextId, e, r⟩).count
    have heq := h.len_eq hc ha
    have hlength := hids.length_eq
    rw [Lanes.length_ids, List.length_cons, Lanes.length_ids] at hlength
    omega

theorem Counted.remove {id : Nat} (h : Counted hand q) (hid : id ∈ q.lanes.ids) :
    Counted hand { q with lanes := q.lanes.remove id, len := q.len - 1 } := by
  -- What is in the hand of a pass stays there.
  have hsub : (q.lanes.remove id).ids <+ q.lanes.ids := by
    rw [Lanes.ids_remove]
    exact List.filter_sublist
  refine h.of_sublist (hsub.append_left hand) rfl fun hc ha => ?_
  have hcount := Lanes.count_remove (List.nodup_append.mp h.nodup).2.1 hid
  have heq := h.len_eq hc ha
  show q.len - 1 = hand.length + (q.lanes.remove id).count
  omega

/-- What waits is given up, by a queue that is not open any more. -/
theorem Counted.abandonAll {q' : Queue κ} (h : Counted hand q) (hlanes : q'.lanes = [])
    (hnext : q'.nextId = q.nextId) (hshut : q'.closed = true ∨ q'.alive = false) :
    Counted hand q' := by
  refine h.of_sublist ?_ hnext fun hc ha => ?_
  · rw [hlanes]
    exact (List.nil_sublist _).append_left hand
  · rcases hshut with hshut | hshut
    · rw [hc] at hshut
      cases hshut
    · rw [ha] at hshut
      cases hshut

/-- Nothing disturbs the counter. -/
theorem counted_robust (capacity : σ → Nat) :
    Robust capacity fun hand (q : Queue κ) _ => Counted hand q where
  same := by
    intro hand q q' s h hlanes hlen hnext hclosed halive
    refine h.of_perm ?_ hnext hlen hclosed halive
    rw [hlanes]
  pop := by
    intro hand q s w rest h hp
    refine h.of_perm ?_ rfl rfl rfl rfl
    show w.id :: (hand ++ rest.ids) ~ hand ++ q.lanes.ids
    exact (((Lanes.ids_of_pop hp).append_left hand).trans List.perm_middle).symm
  settle := fun h => h.settle
  restore := by
    intro hand q s w f h
    refine h.of_perm ?_ rfl rfl rfl rfl
    exact ((Lanes.ids_restore f w q.lanes).append_left hand).trans List.perm_middle
  skip := by
    intro hand q s h
    exact ⟨h.nodup, fun id hid => Nat.lt_succ_of_lt (h.below id hid), h.len_eq⟩
  enqueue := fun f e r h _ => h.joined f e r
  remove := fun h hid => h.remove hid
  close := by
    intro hand q s h
    refine h.abandonAll rfl ?_ (.inl ?_)
    · rw [abandonAll_eq]
    · rw [abandonAll_eq]
  die := by
    intro hand q s h
    refine h.abandonAll rfl ?_ (.inr rfl)
    show q.abandonAll.nextId = q.nextId
    rw [abandonAll_eq]

/-- The counter is right whatever happens to a queue. What lies behind it may rely on that
whenever it is asked, apart from calls that are in the hand of a pass at that moment. -/
theorem run_counted (hb : b.Intrudes (fun q _ => ∃ hand, Counted hand q) fun _ _ => True)
    (timed : Bool) (s : σ) (acts : List (Act κ σ)) : Counted [] (run b acts (new timed, s)).1 := by
  have hI := counted_robust (κ := κ) b.capacity
  have hkeeps := hb.keeps hI (fun hand _ _ h => ⟨hand, h⟩) fun _ _ _ _ _ h => h
  -- Between two acts no pass has a call in its hand.
  exact run_keeps (V := fun _ _ => True) hI hkeeps (fun _ _ _ _ _ h => h)
    (fun a _ => by cases a <;> simp [Act.Within]) _ (counted_new timed)

/-! ### The ceiling -/

/-- Nothing lifts the counter above a ceiling that no capacity is above. -/
theorem ceiling_robust {capacity : σ → Nat} (ceiling : σ → Nat) :
    Robust capacity fun _ (q : Queue κ) s => q.len ≤ ceiling s ∧ capacity s ≤ ceiling s where
  same := by
    intro hand q q' s h _ hlen _ _ _
    rwa [hlen]
  pop := fun h _ => h
  settle := fun h => ⟨Nat.le_trans (Nat.sub_le _ 1) h.1, h.2⟩
  restore := fun _ h => h
  skip := fun h => h
  enqueue := fun _ _ _ h hroom => ⟨Nat.le_trans (Nat.succ_le_of_lt hroom) h.2, h.2⟩
  remove := fun h _ => ⟨Nat.le_trans (Nat.sub_le _ 1) h.1, h.2⟩
  close := fun h => ⟨Nat.zero_le _, h.2⟩
  die := fun h => ⟨Nat.zero_le _, h.2⟩

/-- A pass does not make the counter greater, in front of a backend that leaves the queue
alone. -/
theorem trigger_len_le (hb : b.Quiet) (q : Queue κ) (s : σ) :
    (trigger b q s).1.len ≤ q.len := by
  -- No call joins the queue, so it does not matter how much room there is.
  have hI : Robust (fun _ : σ => 0) fun _ (q' : Queue κ) _ => q'.len ≤ q.len :=
    { same := fun h _ hlen _ _ _ => hlen ▸ h
      pop := fun h _ => h
      settle := fun h => Nat.le_trans (Nat.sub_le _ 1) h
      restore := fun _ h => h
      skip := fun h => h
      enqueue := fun _ _ _ _ hroom => absurd hroom (Nat.not_lt_zero _)
      remove := fun h _ => Nat.le_trans (Nat.sub_le _ 1) h
      close := fun _ => Nat.zero_le _
      die := fun _ => Nat.zero_le _ }
  have hkeeps : b.Keeps fun _ (q' : Queue κ) _ => q'.len ≤ q.len :=
    ⟨fun hand e r q' s' h => by rwa [hb e r q' s'], fun _ _ _ _ h => h, fun _ _ _ _ h => h,
      fun _ _ _ _ h => h⟩
  exact @trigger_keeps _ _ b _ _ [] q s hI hkeeps (Nat.le_refl q.len)

/-! ### What is promised -/

/-- What an open queue promises about its capacity, in one state. An attempt to have a call taken
at once comes first (`Queue.attempt`), and what lies behind the queue may change during it,
so the room is a matter of the state after the attempt. -/
structure KeepsToCapacity (b : Backend κ σ) (q : Queue κ) (s : σ) : Prop where
  /-- A call is turned away exactly if it is not taken at once and there is no room for it.
  The error tells the capacity. -/
  full_iff : ∀ (e : Endpoint) (r : Request) (n : Nat),
    (submit b e r q s).1 = .refused (.queueFull n) ↔
      (attempt b e r q s).1 = none ∧
        b.capacity (attempt b e r q s).2.2 ≤ (attempt b e r q s).2.1.len ∧
        n = b.capacity (attempt b e r q s).2.2
  /-- Turning a call away uses up a number and changes nothing else. -/
  unharmed : ∀ (e : Endpoint) (r : Request) (n : Nat),
    (submit b e r q s).1 = .refused (.queueFull n) →
      (submit b e r q s).2 =
        ({ (attempt b e r q s).2.1 with nextId := (attempt b e r q s).2.1.nextId + 1 },
          (attempt b e r q s).2.2)
  /-- There was room for a call that waits. -/
  room : ∀ (e : Endpoint) (r : Request) (id : Nat), (submit b e r q s).1 = .waiting id →
    (attempt b e r q s).2.1.len + 1 ≤ b.capacity (attempt b e r q s).2.2
  /-- Nor are there too many calls after the pass that follows, if what lies behind the queue
  leaves the queue alone, or does not raise the capacity meanwhile. -/
  len_le : ∀ (e : Endpoint) (r : Request) (id : Nat), (submit b e r q s).1 = .waiting id →
    (b.Quiet ∨
      b.Intrudes (fun _ _ => True) fun s s' => b.capacity s' ≤ b.capacity s) →
      (submit b e r q s).2.1.len ≤ b.capacity (attempt b e r q s).2.2

/-- After the pass that follows when a call joins the queue, there are not too many calls. -/
theorem joined_len_le {q₁ : Queue κ} (hlen : q₁.len ≤ b.capacity s)
    (hb : b.Quiet ∨ b.Intrudes (fun _ _ => True) fun s s' => b.capacity s' ≤ b.capacity s)
    (n : Nat) :
    (trigger b q₁ (b.report n s)).1.len ≤ b.capacity s := by
  rcases hb with hquiet | hintrudes
  · exact Nat.le_trans (trigger_len_le hquiet _ _) hlen
  · -- From now on the capacity is at most what it is at this moment.
    have hI : Robust b.capacity fun _ (q : Queue κ) s' =>
        q.len ≤ b.capacity s ∧ b.capacity s' ≤ b.capacity s := ceiling_robust fun _ => _
    have hkeeps := hintrudes.keeps hI (fun _ _ _ _ => trivial)
      fun _ _ _ _ hV h => ⟨h.1, Nat.le_trans hV h.2⟩
    have hnow := hkeeps.report [] n q₁ s ⟨hlen, Nat.le_refl _⟩
    exact (@trigger_keeps _ _ b _ _ [] _ _ hI hkeeps hnow).1

/-- These promises are kept in every state, also in the middle of a pass. -/
theorem keepsToCapacity (hopen : q.closed = false) (b : Backend κ σ) (s : σ) :
    KeepsToCapacity b q s := by
  refine ⟨fun e r n => ?_, fun e r n hfull => ?_, fun e r id hwaiting => ?_,
    fun e r id hwaiting hb => ?_⟩
  · obtain ⟨c, q', s', hsubmit, hjoins⟩ := submit_joins hopen b e r s
    rw [hsubmit]
    cases hjoins with
    | taken hattempt => simp [hattempt]
    | full hattempt hfull => simp [hattempt, hfull, eq_comm]
    | queued hattempt hroom => simp [hattempt, Nat.not_le_of_lt hroom]
  · obtain ⟨c, q', s', hsubmit, hjoins⟩ := submit_joins hopen b e r s
    rw [hsubmit] at hfull ⊢
    cases hjoins with
    | taken => cases hfull
    | full hattempt => rw [hattempt]
    | queued => cases hfull
  · obtain ⟨c, q', s', hsubmit, hjoins⟩ := submit_joins hopen b e r s
    rw [hsubmit] at hwaiting
    cases hjoins with
    | taken => cases hwaiting
    | full => cases hwaiting
    | queued hattempt hroom =>
      rw [hattempt]
      exact hroom
  · obtain ⟨c, q', s', hsubmit, hjoins⟩ := submit_joins hopen b e r s
    rw [hsubmit] at hwaiting ⊢
    cases hjoins with
    | taken => cases hwaiting
    | full => cases hwaiting
    | queued hattempt hroom =>
      rw [hattempt]
      refine joined_len_le ?_ hb _
      exact hroom

/-- An open queue turns away exactly those new calls that are not taken at once and for which
there is no room, whoever makes them and when. In every state of every run, its counter has
the number of calls in its lanes, and as long as the capacity is never lowered, no more calls
wait than it allows. What lies behind the queue may rely on both whenever it is asked, apart
from calls that are in the hand of a pass at that moment, which count as well. -/
theorem run_keepsToCapacity {b : Backend κ σ}
    (hb : b.Intrudes (fun q _ => ∃ hand, Counted hand q) fun _ _ => True) (timed : Bool) (s : σ)
    (acts : List (Act κ σ)) :
    let x := run b acts (new timed, s)
    (∀ (q : Queue κ) (s : σ), q.closed = false → KeepsToCapacity b q s) ∧
      (x.1.closed = false → x.1.alive = true → x.1.len = x.1.lanes.count) ∧
      (b.Intrudes (fun q s => q.len ≤ b.capacity s) (fun s s' => b.capacity s ≤ b.capacity s') →
        (∀ a ∈ acts, a.Within fun s s' => b.capacity s ≤ b.capacity s') →
          x.1.len ≤ b.capacity x.2) := by
  intro x
  refine ⟨fun q s hopen => keepsToCapacity hopen b s, ?_, ?_⟩
  · intro hopen halive
    have hlen := (run_counted hb timed s acts).len_eq hopen halive
    rwa [List.length_nil, Nat.zero_add] at hlen
  · intro hraises hacts
    -- The ceiling is the capacity itself, which moves, but never down.
    have hI : Robust b.capacity fun _ (q : Queue κ) s =>
        q.len ≤ b.capacity s ∧ b.capacity s ≤ b.capacity s := ceiling_robust b.capacity
    have hV : ∀ (hand : List Nat) (q : Queue κ) s s', b.capacity s ≤ b.capacity s' →
        q.len ≤ b.capacity s ∧ b.capacity s ≤ b.capacity s →
          q.len ≤ b.capacity s' ∧ b.capacity s' ≤ b.capacity s' :=
      fun _ _ _ _ hle h => ⟨Nat.le_trans h.1 hle, Nat.le_refl _⟩
    have hkeeps := hraises.keeps hI (fun _ _ _ h => h.1) hV
    have hstart : (new timed : Queue κ).len ≤ b.capacity s ∧ b.capacity s ≤ b.capacity s :=
      ⟨Nat.zero_le _, Nat.le_refl _⟩
    exact (@run_keeps _ _ b _ [] _ hI hkeeps hV acts hacts (new timed, s) hstart).1

/-! ### A door with visitors -/

/-- A door that never opens. Visitors come by while somebody asks for it to be opened. -/
structure Door where
  capacity : UInt64
  visitors : Nat

/-- The door by itself. -/
def door : Backend Unit Door where
  offer _ _ q s := (none, q, s)
  poll _ s := (none, (), s)
  drop _ s := s
  settings s := ⟨s.capacity, .fifo, 0⟩
  now _ := 0
  report _ s := s
  callbacks _ := 0

/-- The next visitor queues up. -/
def visit (s : Door) : List (Act Unit Door) :=
  if s.visitors = 0 then []
  else [.change fun s => { s with visitors := s.visitors - 1 },
    .submit (Session.catalog "visit") (.blank 0)]

/-- The door and its visitors. One comes whenever it is asked for. -/
def busyDoor : Backend Unit Door :=
  { door with
    offer := fun _ _ q s => (none, run door (visit s) (q, s))
    callbacks := Door.visitors }

theorem busyDoor_intrudes (G : Queue Unit → Door → Prop) {V : Door → Door → Prop}
    (hV : ∀ s n, V s { s with visitors := n }) : busyDoor.Intrudes G V := by
  have hsame : ∀ s, V s s := fun s => hV s s.visitors
  have hdoor : door.Intrudes G V :=
    .quiet ⟨fun _ => hsame, fun _ => hsame, fun _ => hsame⟩ (fun _ _ _ _ => rfl)
      fun _ _ _ => hsame
  refine .acting ⟨fun _ => hsame, fun _ => hsame, fun _ => hsame⟩ (fun _ _ _ _ => door)
    (fun _ _ _ _ => hdoor) (fun _ _ _ _ => rfl) (fun _ _ _ s => visit s) (fun _ _ _ s a ha => ?_)
    fun _ _ _ _ _ => rfl
  unfold visit at ha
  split at ha
  · cases ha
  · rcases List.mem_cons.mp ha with rfl | ha
    · exact fun s => hV s (s.visitors - 1)
    · rw [List.mem_singleton.mp ha]
      trivial

/-- Two calls are queued and fill the queue. Then a visitor comes while a pass has the first
one in its hand. -/
def afternoon : List (Act Unit Door) :=
  [.submit (Session.catalog "list") (.blank 0), .submit (Session.catalog "get") (.blank 0),
    .change fun s => { s with visitors := 1 }, .fire]

/-- The visitor is turned away, although only one call stands in a lane at that moment. -/
theorem run_keepsToCapacity_door :
    let x := run busyDoor afternoon (new true, ⟨2, 0⟩)
    x.1.closed = false ∧ x.1.alive = true ∧ KeepsToCapacity busyDoor x.1 x.2 ∧
      x.1.len = x.1.lanes.count ∧ x.1.len ≤ busyDoor.capacity x.2 ∧
      x.1.len = 2 ∧ x.2.visitors = 0 ∧ x.1.lanes.ids = [0, 1] ∧ x.1.nextId = 3 := by
  intro x
  have hany : busyDoor.Intrudes (fun q _ => ∃ hand, Counted hand q) fun _ _ => True :=
    busyDoor_intrudes _ fun _ _ => trivial
  have hraises : busyDoor.Intrudes (fun q s => q.len ≤ busyDoor.capacity s)
      fun s s' => busyDoor.capacity s ≤ busyDoor.capacity s' :=
    busyDoor_intrudes _ fun _ _ => Nat.le_refl _
  have hacts : ∀ a ∈ afternoon,
      a.Within fun s s' => busyDoor.capacity s ≤ busyDoor.capacity s' := by
    simp [afternoon, Act.Within, busyDoor, door, Backend.capacity]
  have hopen : x.1.closed = false := by decide +kernel
  have halive : x.1.alive = true := by decide +kernel
  obtain ⟨hkeeps, hcounted, hlen⟩ := run_keepsToCapacity hany true ⟨2, 0⟩ afternoon
  exact ⟨hopen, halive, hkeeps x.1 x.2 hopen, hcounted hopen halive, hlen hraises hacts,
    by decide +kernel, by decide +kernel, by decide +kernel, by decide +kernel⟩

end Queue

end RpcPipeline
