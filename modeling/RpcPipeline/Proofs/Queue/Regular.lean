import RpcPipeline.Proofs.Queue.Acts
import RpcPipeline.Proofs.Queue.Order

/-!
# `RpcPipeline.Proofs.Queue.Regular`: lanes while the fairness changes

Settings can change at any time. A call that joined the one lane of all calls can then be put
back into a lane of its endpoint, and the other way round, so that lanes of both kinds stand
next to each other. Calls of one endpoint are then spread over two lanes, and no lane need hold
all the calls of its key. What remains is `Lanes.Regular`: no key has two lanes, no lane is empty,
and a lane with a key holds calls of its endpoint only. Every operation keeps that, whatever the
fairness at that moment.

* `Tidy.regular`: without changes, lanes are regular.
* `run_regular`: the lanes of a queue are always regular.
-/

set_option autoImplicit false

open scoped List

namespace RpcPipeline

namespace Lanes

/-- No key has two lanes, no lane is empty, and a lane with a key holds calls of its endpoint
only. -/
structure Regular (ls : Lanes) : Prop where
  nodup : ls.keys.Nodup
  occupied : ls.Occupied
  own : ∀ l ∈ ls, ∀ w ∈ l.waiters, ∀ e, l.key = some e → w.endpoint = e

variable {f : Fairness} {ls rest : Lanes} {w : Waiter}

/-- A call with a lane for its endpoint is a call of that endpoint. -/
theorem endpoint_of_key {e : Endpoint} (h : f.key w = some e) : w.endpoint = e := by
  cases f with
  | fifo => cases h
  | roundRobin => exact Option.some.inj h

theorem Tidy.regular (h : ls.Tidy f) (ho : ls.Occupied) : ls.Regular :=
  ⟨h.nodup, ho, fun l hl w hw _ hkey => endpoint_of_key ((h.own l hl w hw).trans hkey)⟩

namespace Regular

theorem each (h : ls.Regular) : ls.Each fun key w => ∀ e, key = some e → w.endpoint = e := h.own

theorem nil : Regular [] := ⟨List.nodup_nil, nofun, nofun⟩

theorem push (h : ls.Regular) (f : Fairness) (w : Waiter) : (ls.push f w).Regular :=
  ⟨nodup_push h.nodup f w, occupied_push h.occupied, h.each.push fun _ => endpoint_of_key⟩

theorem of_pop (h : ls.Regular) (hp : ls.pop = some (w, rest)) : rest.Regular :=
  ⟨nodup_of_pop h.nodup hp, occupied_of_pop h.occupied hp, h.each.of_pop hp⟩

theorem restore (h : ls.Regular) (f : Fairness) (w : Waiter) : (ls.restore f w).Regular :=
  ⟨nodup_restore h.nodup f w, occupied_restore h.occupied,
    h.each.restore fun _ => endpoint_of_key⟩

theorem remove (h : ls.Regular) (id : Nat) : (ls.remove id).Regular :=
  ⟨nodup_remove h.nodup id, occupied_remove id ls, h.each.remove id⟩

end Regular

end Lanes

namespace Queue

variable {κ σ : Type}

/-- Nothing disturbs the lanes. -/
theorem regular_robust (capacity : σ → Nat) :
    Robust capacity fun _ (q : Queue κ) _ => q.lanes.Regular where
  same := fun h hlanes _ _ _ _ => hlanes ▸ h
  pop := fun h hp => h.of_pop hp
  settle := fun h => h
  restore := fun f h => h.restore f _
  skip := fun h => h
  enqueue := fun f _ _ h _ => h.push f _
  remove := fun h _ => h.remove _
  close := by
    intro hand q s h
    rw [abandonAll_eq]
    exact Lanes.Regular.nil
  die := fun _ => Lanes.Regular.nil

/-- The lanes of a queue are regular whatever happens to it, and however its settings change
meanwhile. What lies behind the queue may rely on that whenever it is asked. -/
theorem run_regular {b : Backend κ σ}
    (hb : b.Intrudes (fun q _ => q.lanes.Regular) fun _ _ => True) (timed : Bool) (s : σ)
    (acts : List (Act κ σ)) : (run b acts (new timed, s)).1.lanes.Regular := by
  have hI := regular_robust (κ := κ) b.capacity
  have hkeeps := hb.keeps hI (fun _ _ _ h => h) fun _ _ _ _ _ h => h
  -- Between two acts no pass has a call in its hand.
  have hacts : ∀ a ∈ acts, a.Within fun _ _ => True := fun a _ => by
    cases a <;> simp [Act.Within]
  exact @run_keeps _ _ b _ [] _ hI hkeeps (fun _ _ _ _ _ h => h) acts hacts (new timed, s)
    Lanes.Regular.nil

end Queue

end RpcPipeline
