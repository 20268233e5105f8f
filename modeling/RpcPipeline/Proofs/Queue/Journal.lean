import Mathlib.Data.List.Induction
import RpcPipeline.Proofs.Queue.Order
import RpcPipeline.Proofs.Queue.Session

/-!
# `RpcPipeline.Proofs.Queue.Journal`: whose turn it was

A journal lists, in the order in which they happened, the events that matter for whose
turn it is (`Entry`): a call joins those that wait, a call is offered, a call leaves
without having been admitted. From a journal alone one can tell who waits after it
(`Journal.waiting`), who is the first of an endpoint (`Journal.First`) and who was
admitted (`Journal.admitted`).

`Journal.Orderly` says that a journal is fair, given the order of the lanes after it:

* calls of one key were admitted in the order of submission (`sorted`), and whoever waits
  comes after all of its key that were admitted (`behind`);
* from the moment a call became the first of its key until it was admitted or left, every
  other key had at most one call admitted (`bound`).

The second is carried by `Journal.Turn`: while the first call of a key waits, another key
whose lane is still ahead has had no call admitted since. An admission takes the front
lane out of the keys that are ahead, so no lane is served twice.

Each kind of entry keeps a journal orderly: `Orderly.joined`, `Orderly.refused`,
`Orderly.direct`, `Orderly.taken`, `Orderly.left`.
-/

set_option autoImplicit false

open scoped List

namespace RpcPipeline

/-- An event that matters for whose turn it is. -/
inductive Entry where
  /-- A call joins those that wait. -/
  | joined (call : Nat) (endpoint : Endpoint)
  | offered (offer : Offer)
  /-- A call leaves without having been admitted. -/
  | left (call : Nat)

/-- A call that waits, by its number in the order of submission. -/
structure WaitingCall where
  call : Nat
  endpoint : Endpoint

namespace Entry

/-- The calls that wait after an event, the oldest first. -/
def apply (ws : List WaitingCall) : Entry → List WaitingCall
  | joined n e => ws ++ [⟨n, e⟩]
  | offered o => if o.taken then ws.filter (·.call ≠ o.call) else ws
  | left n => ws.filter (·.call ≠ n)

/-- The offer that was made. -/
def offer? : Entry → Option Offer
  | offered o => some o
  | joined _ _ | left _ => none

end Entry

/-- The events that matter for whose turn it is, the oldest first. -/
abbrev Journal := List Entry

namespace Journal

/-- The calls that wait after all of this, the oldest first. -/
def waiting (j : Journal) : List WaitingCall := j.foldl Entry.apply []

/-- The offers, the oldest first. -/
def offers (j : Journal) : List Offer := j.filterMap Entry.offer?

/-- The offers at which a call was admitted, the oldest first. -/
def admitted (j : Journal) : List Offer := j.offers.filter (·.taken)

/-- The number of admitted calls of a key. -/
def served (f : Fairness) (key : Option Endpoint) (j : Journal) : Nat :=
  j.admitted.countP (f.keyOf ·.endpoint = key)

/-- A call that waits is the oldest of its key that does. -/
def First (f : Fairness) (j : Journal) (p : WaitingCall) : Prop :=
  j.waiting.find? (fun p' => f.keyOf p'.endpoint = f.keyOf p.endpoint) = some p

variable {f : Fairness} {j j₁ j₂ : Journal} {p : WaitingCall} {o : Offer}

/-! ### One event more -/

@[simp] theorem waiting_concat (j : Journal) (x : Entry) :
    waiting (j ++ [x]) = x.apply j.waiting := by
  simp [waiting, List.foldl_append]

@[simp] theorem offers_append (as bs : Journal) : offers (as ++ bs) = offers as ++ offers bs :=
  List.filterMap_append

@[simp] theorem admitted_append (as bs : Journal) :
    admitted (as ++ bs) = admitted as ++ admitted bs := by
  simp [admitted]

@[simp] theorem offers_map_offered (os : List Offer) : offers (os.map .offered) = os := by
  induction os with
  | nil => rfl
  | cons o os ih => exact congrArg (o :: ·) ih

@[simp] theorem served_nil (f : Fairness) (key : Option Endpoint) : served f key [] = 0 := rfl

@[simp] theorem served_append (f : Fairness) (key : Option Endpoint) (as bs : Journal) :
    served f key (as ++ bs) = served f key as + served f key bs := by
  simp [served]

@[simp] theorem admitted_joined (n : Nat) (e : Endpoint) : admitted [Entry.joined n e] = [] := rfl

@[simp] theorem admitted_left (n : Nat) : admitted [Entry.left n] = [] := rfl

theorem admitted_taken (ho : o.taken = true) : admitted [Entry.offered o] = [o] := by
  simp [admitted, offers, Entry.offer?, ho]

theorem admitted_refused (ho : o.taken = false) : admitted [Entry.offered o] = [] := by
  simp [admitted, offers, Entry.offer?, ho]

/-- Whoever is admitted does not wait any more. -/
theorem waiting_taken (j : Journal) (ho : o.taken = true) :
    (j ++ [Entry.offered o]).waiting = j.waiting.filter (·.call ≠ o.call) := by
  rw [waiting_concat]
  exact if_pos ho

theorem waiting_refused (j : Journal) (ho : o.taken = false) :
    (j ++ [Entry.offered o]).waiting = j.waiting := by
  simp [Entry.apply, ho]

/-- Whoever leaves does not wait any more. -/
theorem waiting_lefts (j : Journal) (gone : List Nat) :
    (j ++ gone.map Entry.left).waiting = j.waiting.filter fun p => decide (p.call ∉ gone) := by
  induction gone generalizing j with
  | nil => simp
  | cons m gone ih =>
    rw [List.map_cons, List.append_cons, ih, waiting_concat]
    simp only [Entry.apply, List.filter_filter]
    refine List.filter_congr fun p _ => ?_
    simp [Bool.and_comm]

theorem First.mem (hp : First f j p) : p ∈ j.waiting := List.mem_of_find?_eq_some hp

/-- Two calls of one key are not both the first. -/
theorem First.unique {p' : WaitingCall} (hp : First f j p) (hp' : First f j p')
    (hkey : f.keyOf p'.endpoint = f.keyOf p.endpoint) : p' = p := by
  rw [First, hkey] at hp'
  exact Option.some.inj (hp'.symm.trans hp)

/-- Whoever waits after an event waited before, unless it has just joined. -/
theorem waited_of_concat {x : Entry} (hp : p ∈ (j ++ [x]).waiting) :
    p ∈ j.waiting ∨ x = .joined p.call p.endpoint := by
  rw [waiting_concat] at hp
  cases x with
  | joined n e =>
    rcases List.mem_append.mp hp with hp | hp
    · exact .inl hp
    · rw [List.mem_singleton.mp hp]
      exact .inr rfl
  | offered o =>
    simp only [Entry.apply] at hp
    split at hp
    · exact .inl (List.mem_filter.mp hp).1
    · exact .inl hp
  | left n => exact .inl (List.mem_filter.mp hp).1

/-- Whoever waits has joined. -/
theorem joined_of_waiting (j : Journal) (hp : p ∈ j.waiting) : .joined p.call p.endpoint ∈ j := by
  induction j using List.reverseRecOn with
  | nil => exact absurd hp List.not_mem_nil
  | append_singleton j x ih =>
    rcases waited_of_concat hp with hp | rfl
    · exact List.mem_append_left _ (ih hp)
    · exact List.mem_append_right _ (List.mem_singleton.mpr rfl)

/-- Whoever is first and still waits after an event is still first. -/
theorem First.concat {x : Entry} (hp : First f j p) (hstill : p ∈ (j ++ [x]).waiting) :
    First f (j ++ [x]) p := by
  -- Calls that join do so at the end, and that others go does not matter.
  have hfilter : ∀ test : WaitingCall → Bool, test p = true →
      (j.waiting.filter test).find? (fun p' => f.keyOf p'.endpoint = f.keyOf p.endpoint) =
        some p := by
    intro test htest
    obtain ⟨hkey, before, after, hsplit, hbefore⟩ := List.find?_eq_some_iff_append.mp hp
    refine List.find?_eq_some_iff_append.mpr
      ⟨hkey, before.filter test, after.filter test, ?_, fun a ha => ?_⟩
    · rw [hsplit, List.filter_append, List.filter_cons_of_pos htest]
    · exact hbefore a (List.mem_filter.mp ha).1
  rw [First, waiting_concat]
  rw [waiting_concat] at hstill
  cases x with
  | joined n e => exact List.find?_append.trans (by rw [show _ = some p from hp]; rfl)
  | offered o =>
    simp only [Entry.apply] at hstill ⊢
    split
    · next htaken =>
      rw [if_pos htaken] at hstill
      exact hfilter _ (List.mem_filter.mp hstill).2
    · exact hp
  | left n => exact hfilter _ (List.mem_filter.mp hstill).2

/-! ### Turns -/

/-- Since a call became the first of its key, `passed` has happened, and the call waits:
another key was served at most once, and not at all if its lane is still ahead. -/
structure Turn (f : Fairness) (passed : Journal) (keys : List (Option Endpoint))
    (p : WaitingCall) (key : Option Endpoint) : Prop where
  once : passed.served f key ≤ 1
  ahead : [key, f.keyOf p.endpoint] <+ keys → passed.served f key = 0

/-- The journal is fair, where `keys` are the keys of the lanes after it and `n` is the
number of calls that were submitted. -/
structure Orderly (f : Fairness) (j : Journal) (keys : List (Option Endpoint)) (n : Nat) :
    Prop where
  joined_lt : ∀ m e, .joined m e ∈ j → m < n
  admitted_lt : ∀ o ∈ j.admitted, o.call < n
  rising : j.waiting.Pairwise (·.call < ·.call)
  sorted : j.admitted.Pairwise fun o o' =>
    f.keyOf o.endpoint = f.keyOf o'.endpoint → o.call < o'.call
  behind : ∀ o ∈ j.admitted, ∀ p ∈ j.waiting,
    f.keyOf o.endpoint = f.keyOf p.endpoint → o.call < p.call
  turn : ∀ j₁ j₂, j = j₁ ++ j₂ → ∀ p, First f j₁ p → p ∈ j.waiting →
    First f j p ∧ ∀ key ≠ f.keyOf p.endpoint, Turn f j₂ keys p key
  bound : ∀ j₁ j₂ j₃, j = j₁ ++ j₂ ++ j₃ → ∀ p, First f j₁ p → p ∈ (j₁ ++ j₂).waiting →
    ∀ key ≠ f.keyOf p.endpoint, j₂.served f key ≤ 1

/-- A prefix of a list with one more element is a prefix of the list, or all of it. -/
theorem concat_split {α : Type} {as bs cs : List α} {a : α} (h : as ++ [a] = bs ++ cs) :
    cs = [] ∧ bs = as ++ [a] ∨ ∃ cs', cs = cs' ++ [a] ∧ as = bs ++ cs' := by
  rcases List.eq_nil_or_concat' cs with rfl | ⟨cs', c, rfl⟩
  · exact .inl ⟨rfl, by rw [h, List.append_nil]⟩
  · rw [← List.append_assoc] at h
    obtain ⟨h, hc⟩ := List.append_inj' h rfl
    rw [List.singleton_inj] at hc
    exact .inr ⟨cs', by rw [hc], h⟩

namespace Orderly

variable {keys keys' : List (Option Endpoint)} {n n' : Nat}

theorem new (f : Fairness) : Orderly f [] [] 0 where
  joined_lt _ _ hm := absurd hm List.not_mem_nil
  admitted_lt _ ho := absurd ho List.not_mem_nil
  rising := .nil
  sorted := .nil
  behind _ ho := absurd ho List.not_mem_nil
  turn _ _ _ _ _ hp := absurd hp List.not_mem_nil
  bound j₁ j₂ j₃ hsplit p _ hp := by
    obtain ⟨rfl, rfl, rfl⟩ : j₁ = [] ∧ j₂ = [] ∧ j₃ = [] := by simpa using hsplit.symm
    exact absurd hp List.not_mem_nil

theorem mono (h : Orderly f j keys n) (hn : n ≤ n') : Orderly f j keys n' :=
  { h with
    joined_lt := fun m e hm => Nat.lt_of_lt_of_le (h.joined_lt m e hm) hn
    admitted_lt := fun o ho => Nat.lt_of_lt_of_le (h.admitted_lt o ho) hn }

/-- Lanes vanish. -/
theorem fewer (h : Orderly f j keys n) (hkeys : keys' <+ keys) : Orderly f j keys' n :=
  { h with
    turn := fun j₁ j₂ hsplit p hp hstill =>
      have ⟨hfirst, hturns⟩ := h.turn j₁ j₂ hsplit p hp hstill
      ⟨hfirst, fun key hkey =>
        ⟨(hturns key hkey).once, fun ha => (hturns key hkey).ahead (ha.trans hkeys)⟩⟩ }

/-- What an event does to the turns is settled by what it does to those that are first
when it happens. -/
theorem turns_concat (h : Orderly f j keys n) (keys' : List (Option Endpoint)) {x : Entry}
    (hjoined : ∀ m e, x = .joined m e → n ≤ m)
    (hturn : ∀ (passed : Journal) (p : WaitingCall) (key : Option Endpoint),
      First f j p → p ∈ (j ++ [x]).waiting → key ≠ f.keyOf p.endpoint →
        Turn f passed keys p key → Turn f (passed ++ [x]) keys' p key) :
    (∀ j₁ j₂, j ++ [x] = j₁ ++ j₂ → ∀ p, First f j₁ p → p ∈ (j ++ [x]).waiting →
      First f (j ++ [x]) p ∧ ∀ key ≠ f.keyOf p.endpoint, Turn f j₂ keys' p key) ∧
    ∀ j₁ j₂ j₃, j ++ [x] = j₁ ++ j₂ ++ j₃ → ∀ p, First f j₁ p → p ∈ (j₁ ++ j₂).waiting →
      ∀ key ≠ f.keyOf p.endpoint, j₂.served f key ≤ 1 := by
  have hnow : ∀ j₁ j₂, j ++ [x] = j₁ ++ j₂ → ∀ p, First f j₁ p → p ∈ (j ++ [x]).waiting →
      First f (j ++ [x]) p ∧ ∀ key ≠ f.keyOf p.endpoint, Turn f j₂ keys' p key := by
    intro j₁ j₂ hsplit p hp hstill
    rcases concat_split hsplit with ⟨rfl, rfl⟩ | ⟨j₂', rfl, hh⟩
    · exact ⟨hp, fun key _ => ⟨by simp, by simp⟩⟩
    · -- The call has not just joined, so it waited before as well.
      have hwaited : p ∈ j.waiting := by
        refine (waited_of_concat hstill).resolve_right fun hx => ?_
        have hmem : .joined p.call p.endpoint ∈ j := by
          rw [hh]
          exact List.mem_append_left _ (joined_of_waiting j₁ hp.mem)
        exact absurd (h.joined_lt _ _ hmem) (Nat.not_lt.mpr (hjoined _ _ hx))
      obtain ⟨hfirst, hturns⟩ := h.turn j₁ j₂' hh p hp hwaited
      exact ⟨hfirst.concat hstill, fun key hkey =>
        hturn j₂' p key hfirst hstill hkey (hturns key hkey)⟩
  refine ⟨hnow, fun j₁ j₂ j₃ hsplit p hp hstill key hkey => ?_⟩
  rcases concat_split hsplit with ⟨rfl, heq⟩ | ⟨j₃', rfl, hh⟩
  · rw [heq] at hstill
    exact ((hnow j₁ j₂ heq.symm p hp hstill).2 key hkey).once
  · exact h.bound j₁ j₂ j₃' hh p hp hstill key hkey

/-- Nobody is admitted, and calls leave at most. -/
theorem shrink (h : Orderly f j keys n) {x : Entry} (hnone : admitted [x] = [])
    (hwaiting : (j ++ [x]).waiting <+ j.waiting) (hnot : ∀ m e, x ≠ .joined m e) :
    Orderly f (j ++ [x]) keys n := by
  have hadmitted : (j ++ [x]).admitted = j.admitted := by simp [hnone]
  obtain ⟨hturn, hbound⟩ := h.turns_concat keys (x := x)
    (fun m e heq => absurd heq (hnot m e)) fun passed p key _ _ _ ht => by
      have hserved : (passed ++ [x]).served f key = passed.served f key := by
        simp [served, hnone]
      exact ⟨hserved ▸ ht.once, fun ha => hserved ▸ ht.ahead ha⟩
  refine ⟨fun m e hm => ?_, ?_, h.rising.sublist hwaiting, ?_, ?_, hturn, hbound⟩
  · refine h.joined_lt m e ((List.mem_append.mp hm).resolve_right fun hm => ?_)
    exact hnot m e (List.mem_singleton.mp hm).symm
  · rw [hadmitted]
    exact h.admitted_lt
  · rw [hadmitted]
    exact h.sorted
  · rw [hadmitted]
    exact fun o ho p hp => h.behind o ho p (hwaiting.subset hp)

/-- A call is offered and refused. -/
theorem refused (h : Orderly f j keys n) (ho : o.taken = false) :
    Orderly f (j ++ [Entry.offered o]) keys n := by
  refine h.shrink (admitted_refused ho) ?_ (by simp)
  rw [waiting_refused j ho]

/-- A call leaves. -/
theorem left (h : Orderly f j keys n) (m : Nat) : Orderly f (j ++ [Entry.left m]) keys n := by
  refine h.shrink rfl ?_ (by simp)
  rw [waiting_concat]
  exact List.filter_sublist

/-- Calls leave. -/
theorem lefts (h : Orderly f j keys n) (gone : List Nat) :
    Orderly f (j ++ gone.map Entry.left) keys n := by
  induction gone generalizing j with
  | nil => rwa [List.map_nil, List.append_nil]
  | cons m gone ih =>
    rw [List.map_cons, List.append_cons]
    exact ih (h.left m)

/-- Of two keys that do not stand at the back, the same is ahead as without the lane
there. -/
theorem ahead_concat {key k b : Option Endpoint} (h : [key, k] <+ keys ++ [b]) (hne : k ≠ b) :
    [key, k] <+ keys := by
  obtain ⟨l₁, l₂, hsplit, hl₁, hl₂⟩ := List.sublist_append_iff.mp h
  rcases List.sublist_singleton.mp hl₂ with rfl | rfl
  · rw [List.append_nil] at hsplit
    rw [hsplit]
    exact hl₁
  · have hsplit' : [key] ++ [k] = l₁ ++ [b] := hsplit
    exact absurd (List.singleton_inj.mp (List.append_inj' hsplit' rfl).2) hne

/-- A call joins those that wait. -/
theorem joined (h : Orderly f j keys n) (e : Endpoint)
    (hin : ∀ p ∈ j.waiting, f.keyOf p.endpoint ∈ keys)
    (hkeys : keys' = if f.keyOf e ∈ keys then keys else keys ++ [f.keyOf e]) :
    Orderly f (j ++ [Entry.joined n e]) keys' (n + 1) := by
  have hadmitted : (j ++ [Entry.joined n e]).admitted = j.admitted := by simp
  obtain ⟨hturn, hbound⟩ := h.turns_concat keys' (x := .joined n e)
    (fun m e heq => by cases heq; exact Nat.le_refl _) fun passed p key hp _ _ ht => by
      have hserved : (passed ++ [Entry.joined n e]).served f key = passed.served f key := by
        simp [served]
      refine ⟨hserved ▸ ht.once, fun ha => hserved ▸ ht.ahead ?_⟩
      rw [hkeys] at ha
      split at ha
      · exact ha
      · -- The new lane is at the back, and not that of a call which waits already.
        next hnew => exact ahead_concat ha fun heq => hnew (heq ▸ hin p hp.mem)
  refine ⟨fun m e' hm => ?_, ?_, ?_, ?_, ?_, hturn, hbound⟩
  · rcases List.mem_append.mp hm with hm | hm
    · exact Nat.lt_succ_of_lt (h.joined_lt m e' hm)
    · cases List.mem_singleton.mp hm
      exact Nat.lt_succ_self n
  · rw [hadmitted]
    exact fun o ho => Nat.lt_succ_of_lt (h.admitted_lt o ho)
  · rw [waiting_concat]
    refine List.pairwise_append.mpr ⟨h.rising, List.pairwise_singleton _ _, fun p hp q hq => ?_⟩
    rw [List.mem_singleton.mp hq]
    exact h.joined_lt _ _ (joined_of_waiting j hp)
  · rw [hadmitted]
    exact h.sorted
  · rw [hadmitted, waiting_concat]
    intro o ho p hp hkey
    rcases List.mem_append.mp hp with hp | hp
    · exact h.behind o ho p hp hkey
    · rw [List.mem_singleton.mp hp]
      exact h.admitted_lt o ho

/-- A new call is admitted while none waits. -/
theorem direct (h : Orderly f j keys n) (hnone : j.waiting = []) (hcall : o.call = n)
    (ho : o.taken = true) : Orderly f (j ++ [Entry.offered o]) keys (n + 1) := by
  have hadmitted : (j ++ [Entry.offered o]).admitted = j.admitted ++ [o] := by
    simp [admitted_taken ho]
  have hwaiting : (j ++ [Entry.offered o]).waiting = [] := by
    rw [waiting_taken j ho, hnone, List.filter_nil]
  obtain ⟨hturn, hbound⟩ := h.turns_concat keys (x := .offered o) (by simp)
    fun passed p key _ hp _ _ => by
      rw [hwaiting] at hp
      exact absurd hp List.not_mem_nil
  refine ⟨fun m e hm => ?_, ?_, ?_, ?_, ?_, hturn, hbound⟩
  · refine Nat.lt_succ_of_lt (h.joined_lt m e ((List.mem_append.mp hm).resolve_right ?_))
    simp
  · rw [hadmitted]
    intro o' ho'
    rcases List.mem_append.mp ho' with ho' | ho'
    · exact Nat.lt_succ_of_lt (h.admitted_lt o' ho')
    · rw [List.mem_singleton.mp ho', hcall]
      exact Nat.lt_succ_self n
  · rw [hwaiting]
    exact .nil
  · rw [hadmitted]
    refine List.pairwise_append.mpr ⟨h.sorted, List.pairwise_singleton _ _, ?_⟩
    intro o' ho' o'' ho'' _
    rw [List.mem_singleton.mp ho'', hcall]
    exact h.admitted_lt o' ho'
  · rw [hwaiting]
    exact fun _ _ _ hp => absurd hp List.not_mem_nil

/-- The oldest call of a key is older than any other call of this key that waits. -/
theorem first_lt (h : Orderly f j keys n) {p q : WaitingCall} (hp : First f j p)
    (hq : q ∈ j.waiting) (hkey : f.keyOf q.endpoint = f.keyOf p.endpoint) (hne : q.call ≠ p.call) :
    p.call < q.call := by
  obtain ⟨-, before, after, hsplit, hbefore⟩ := List.find?_eq_some_iff_append.mp hp
  have hrising := h.rising
  rw [hsplit] at hq hrising
  rcases List.mem_append.mp hq with hq | hq
  · exact absurd hkey (by simpa using hbefore q hq)
  · rcases List.mem_cons.mp hq with rfl | hq
    · exact absurd rfl hne
    · exact List.rel_of_pairwise_cons (List.pairwise_append.mp hrising).2.1 hq

/-- The first call of the front lane is admitted. Its lane goes to the back or vanishes. -/
theorem taken (h : Orderly f j keys n) {ks : List (Option Endpoint)}
    (hfirst : First f j ⟨o.call, o.endpoint⟩) (ho : o.taken = true)
    (hin : ∀ p ∈ j.waiting, f.keyOf p.endpoint ∈ keys) (hnodup : keys.Nodup)
    (hkeys : keys = f.keyOf o.endpoint :: ks)
    (hkeys' : keys' = ks ∨ keys' = ks ++ [f.keyOf o.endpoint]) :
    Orderly f (j ++ [Entry.offered o]) keys' n := by
  have hfront : f.keyOf o.endpoint ∉ ks := (List.nodup_cons.mp (hkeys ▸ hnodup)).1
  have hadmitted : (j ++ [Entry.offered o]).admitted = j.admitted ++ [o] := by
    simp [admitted_taken ho]
  have hwaiting := waiting_taken j ho
  obtain ⟨hturn, hbound⟩ := h.turns_concat keys' (x := .offered o) (by simp)
    fun passed p key hp hstill hne ht => by
      -- Who is admitted does not wait any more, so the first call is one of another key.
      have hother : f.keyOf p.endpoint ≠ f.keyOf o.endpoint := by
        intro heq
        have hsame := hfirst.unique hp heq
        rw [hwaiting, hsame] at hstill
        simpa using (List.mem_filter.mp hstill).2
      have hpin : f.keyOf p.endpoint ∈ ks := by
        have hmem := hin p hp.mem
        rw [hkeys] at hmem
        exact (List.mem_cons.mp hmem).resolve_left hother
      have hahead : [key, f.keyOf p.endpoint] <+ keys' → [key, f.keyOf p.endpoint] <+ ks := by
        intro ha
        rcases hkeys' with rfl | rfl
        · exact ha
        · exact ahead_concat ha hother
      by_cases hkey : f.keyOf o.endpoint = key
      · -- The lane that is served was ahead until now, and is not any more.
        subst hkey
        have hzero : passed.served f (f.keyOf o.endpoint) = 0 := by
          refine ht.ahead ?_
          rw [hkeys]
          exact (List.singleton_sublist.mpr hpin).cons_cons _
        have hone : (passed ++ [Entry.offered o]).served f (f.keyOf o.endpoint) = 1 := by
          rw [served_append, hzero, served, admitted_taken ho]
          simp
        refine ⟨Nat.le_of_eq hone, fun ha => ?_⟩
        exact absurd ((hahead ha).subset List.mem_cons_self) hfront
      · have hserved : (passed ++ [Entry.offered o]).served f key = passed.served f key := by
          simp [served, admitted_taken ho, hkey]
        refine ⟨hserved ▸ ht.once, fun ha => hserved ▸ ht.ahead ?_⟩
        rw [hkeys]
        exact (hahead ha).cons _
  refine ⟨fun m e hm => ?_, ?_, ?_, ?_, ?_, hturn, hbound⟩
  · exact h.joined_lt m e ((List.mem_append.mp hm).resolve_right (by simp))
  · rw [hadmitted]
    intro o' ho'
    rcases List.mem_append.mp ho' with ho' | ho'
    · exact h.admitted_lt o' ho'
    · rw [List.mem_singleton.mp ho']
      exact h.joined_lt _ _ (joined_of_waiting j hfirst.mem)
  · rw [hwaiting]
    exact h.rising.filter _
  · rw [hadmitted]
    refine List.pairwise_append.mpr ⟨h.sorted, List.pairwise_singleton _ _, ?_⟩
    intro o' ho' o'' ho'' hkey
    rw [List.mem_singleton.mp ho''] at hkey ⊢
    exact h.behind o' ho' _ hfirst.mem hkey
  · rw [hadmitted, hwaiting]
    intro o' ho' p hp hkey
    obtain ⟨hp, hne⟩ := List.mem_filter.mp hp
    rcases List.mem_append.mp ho' with ho' | ho'
    · exact h.behind o' ho' p hp hkey
    · rw [List.mem_singleton.mp ho'] at hkey ⊢
      exact h.first_lt hfirst hp hkey.symm (of_decide_eq_true hne)

end Orderly

end Journal

end RpcPipeline
