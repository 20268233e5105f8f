import RpcPipeline.Proofs.Pipeline.Custody
import RpcPipeline.Proofs.Selection.Books

/-!
# `RpcPipeline.Proofs.Pipeline.Churn`: limits while hosts come and go

The limit of a host belongs to its server, and a host that leaves the fleet and comes back gets
a new one. So a limit bounds the calls that went out to a host since it came into use. Calls to
a former server of the host count only there: the pipeline can send a host more calls than its
limit allows, if the host was gone in between.

* `Traffic.BoundsHosts`: the limits of a run.
* `run_bounds_hosts`: they are kept in every run, whatever becomes of settings and names.
* `exceeds_limit_by_identity`: a host that has left and come back while a call to it was under
  way is sent another one, although its limit is one.
-/

set_option autoImplicit false

namespace RpcPipeline

namespace Traffic

open Pipeline Fleet

variable {α : Type} [Scalar α]

/-- No host is sent more calls at a time than its limit allows, counted since the host came
into use. -/
structure BoundsHosts (before : List (String × String)) (x : Traffic α) : Prop where
  /-- The notes about calls that went out leave out none. -/
  complete : x.pipeline.outside.calls =
    x.pipeline.selection.fleet.sent.map Sending.call ++ before
  /-- Of the calls that a server was sent, those are not over that callers still hold. -/
  underWay : ∀ n, sentTo n x.pipeline.selection.fleet.sent =
    endedAt n x.pipeline.selection.fleet.ended + Selection.share n x.dispatched
  /-- When a call went out, the limit left room for it besides those before it. -/
  bounded : ∀ newer c older, x.pipeline.selection.fleet.sent = newer ++ c :: older →
    c.Bounded older
  /-- A host has the server that was set up last for it. -/
  latest : x.pipeline.selection.fleet.Latest

variable {outside : Outside α} {config : ClientConfig α} {resolver : Option Resolver}
  {timed : Bool} {entropy : RandomStream} {p : Pipeline α}

/-- In every run of a pipeline, whenever a call goes out to a host, the calls that went out to
the present server of the host before, and that have neither ended nor been dropped, are fewer
than its limit allows. These are all such calls to the host, unless it has had another server
before. -/
theorem run_bounds_hosts (hnew : Pipeline.new outside config resolver timed entropy = .ok p)
    (moves : List (Move α)) : ((start p).run moves).BoundsHosts outside.calls := by
  have hstart : (start p).Accounted Selection.Recorded := by
    refine start_accounted hnew ?_
    unfold Pipeline.new at hnew
    split at hnew
    · cases hnew
    · cases hnew
      exact new_books _ _ _ _
  obtain ⟨haccounted, hsound⟩ :=
    run_accounted Selection.recorded_lasts hstart (start_sound hnew) moves
  have hbooks := haccounted.stand
  rw [taken_held] at hbooks
  exact
    { complete := hsound.selection.calls_eq
      underWay := hbooks.balance
      bounded := hbooks.bounded
      latest := hbooks.latest }

/-! ### A host that leaves and comes back -/

/-- Settings with one host, which may be busy with one call. -/
def tightAt (uri : String) : ClientConfig Rat := { tight with uris := [uri] }

/-- A call goes out to a host, which then leaves the fleet and comes back, and another call is
made. Meanwhile the first one is under way. -/
def thereAndBack : List (Move Rat) :=
  let endpoint : Endpoint := ⟨"catalog", "list", "1.0", "GET", ⟨[]⟩⟩
  [.execute endpoint (.blank 0), .update (tightAt "https://b.example"), .look,
    .update (tightAt "https://a.example"), .execute endpoint (.blank 4)]

theorem thereAndBack_sent : ∃ p, Pipeline.new .start tight none true (.ofSeed 0) = .ok p ∧
    ∃ c c', ((start p).run thereAndBack).pipeline.selection.fleet.sent = [c, c'] ∧
      c.serial = 2 ∧ c'.serial = 0 ∧ c'.id = c.id ∧ c.ended = [] ∧ c.limiter.limit = 1 := by
  let host : HostId := ⟨"https://a.example:443"⟩
  let shows (c : Sending Rat) := (c.serial, c.id, c.ended, c.limiter.limit)
  have hruns : (Pipeline.new .start tight none true (.ofSeed 0)).toOption.any
      (fun p => ((start p).run thereAndBack).pipeline.selection.fleet.sent.map shows =
        [(2, host, [], 1), (0, host, [], 1)]) = true := by
    decide +kernel
  rcases hnew : Pipeline.new .start tight none true (.ofSeed 0) with e | p
  · rw [hnew] at hruns
    cases hruns
  · rw [hnew] at hruns
    have hsent : ((start p).run thereAndBack).pipeline.selection.fleet.sent.map shows =
      [(2, host, [], 1), (0, host, [], 1)] := of_decide_eq_true hruns
    obtain ⟨c, rest, heq, hlast, hrest⟩ := List.map_eq_cons_iff.mp hsent
    obtain ⟨c', rest', rfl, hfirst, hnone⟩ := List.map_eq_cons_iff.mp hrest
    cases List.map_eq_nil_iff.mp hnone
    simp only [shows, Prod.mk.injEq] at hlast hfirst
    obtain ⟨hserial, hid, hended, hlimit⟩ := hlast
    obtain ⟨hserial', hid', -, -⟩ := hfirst
    exact ⟨p, rfl, c, c', heq, hserial, hserial', hid'.trans hid.symm, hended, hlimit⟩

theorem run_bounds_hosts_thereAndBack :
    ∃ p, Pipeline.new .start tight none true (.ofSeed 0) = .ok p ∧
      ((start p).run thereAndBack).BoundsHosts [] ∧
      ((start p).run thereAndBack).pipeline.selection.fleet.sent.map Sending.serial = [2, 0] := by
  obtain ⟨p, hnew, c, c', hsent, hserial, hserial', -⟩ := thereAndBack_sent
  refine ⟨p, hnew, run_bounds_hosts hnew thereAndBack, ?_⟩
  rw [hsent, List.map_cons, List.map_singleton, hserial, hserial']

/-- All settings are valid. A host whose limit is one is sent a call while another one that was
sent to it before is under way. -/
theorem exceeds_limit_by_identity :
    tight.validate = .ok () ∧ (tightAt "https://a.example").validate = .ok () ∧
    (tightAt "https://b.example").validate = .ok () ∧
    ∃ p, Pipeline.new .start tight none true (.ofSeed 0) = .ok p ∧
      ¬∀ newer c older,
        ((start p).run thereAndBack).pipeline.selection.fleet.sent = newer ++ c :: older →
          sentAs c.id older < endedAs c.id c.ended + max 1 (Scalar.floor c.limiter.limit) := by
  have hvalid : ∀ config : ClientConfig Rat, config.validate.isOk = true →
      config.validate = .ok () := fun _ => eq_ok_of_isOk
  refine ⟨hvalid _ (by decide +kernel), hvalid _ (by decide +kernel), hvalid _ (by decide +kernel),
    ?_⟩
  obtain ⟨p, hnew, c, c', hsent, -, -, hid, hended, hlimit⟩ := thereAndBack_sent
  refine ⟨p, hnew, fun hall => ?_⟩
  -- One call is under way, none is over, and the limit is one.
  have hbound := hall [] c [c'] hsent
  have hone : sentAs c.id [c'] = 1 := by rw [sentAs, List.countP_singleton, hid]; simp
  have hslots : max 1 (Scalar.floor (1 : Rat)) = 1 := by decide +kernel
  rw [hone, hended, hlimit, hslots] at hbound
  exact Nat.lt_irrefl 1 hbound

end Traffic

end RpcPipeline
