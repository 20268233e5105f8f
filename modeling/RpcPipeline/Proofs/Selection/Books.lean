import RpcPipeline.Proofs.Hosts.Books

/-!
# `RpcPipeline.Proofs.Selection.Books`: the books of the hosts behind a queue

Each server is busy with its share of the calls that were taken and have not ended. So the notes
that a fleet keeps are right, if what is under way is read off these calls. Nothing that a queue
does to the hosts behind it, and nothing else that happens to them, changes that.

* `Selection.Recorded`: the books, for the calls that were taken and have not ended.
* `Selection.recorded_lasts`: they are right all along.
-/

set_option autoImplicit false

namespace RpcPipeline

variable {α : Type} [Scalar α]

namespace Selection

variable {s s' : Selection α} {l l' : List (SelectedCall α)} {c c' : SelectedCall α}

/-- The notes about the hosts are right, if `l` are the calls that were taken and have not
ended. -/
def Recorded (l : List (SelectedCall α)) (s : Selection α) : Prop :=
  s.fleet.Books fun n => share n l

omit [Scalar α] in
/-- A call that its host has taken is one more. -/
theorem share_hosted_fun (epoch : Nat) (call : HostedCall) (settings : SelectionConfig α)
    (l : List (SelectedCall α)) : (fun n => share n (.hosted call epoch settings :: l)) =
      fun n => share n l + if n = call.serial then 1 else 0 :=
  funext fun n => share_hosted n epoch call settings l

omit [Scalar α] in
/-- Without hosts a call ends by itself. -/
theorem share_noHosts_fun (service : String) (l : List (SelectedCall α)) :
    (fun n => share n (.noHosts service :: l)) = fun n => share n l :=
  funext fun n => share_noHosts n service l

/-- What leaves the servers in use and the notes alone. -/
theorem Recorded.stays {f : Fleet α} (h : f.Books fun n => share n l) (hstays : f.Stays s'.fleet)
    (hservers : s'.fleet.servers = f.servers) (hsent : s'.fleet.sent = f.sent)
    (hended : s'.fleet.ended = f.ended) : Recorded l s' := by
  refine h.apart ⟨h.orderly.current.stays hstays, ?_, ?_⟩ hservers hstays.members hsent hended
  · rw [Fleet.ids_eq_filterMap, hstays.members, hservers, ← Fleet.ids_eq_filterMap]
    exact h.orderly.nodup
  · rw [hservers]
    exact h.orderly.named

theorem Recorded.offer {e : Endpoint} {r : Request} {answer : Option (SelectedCall α)}
    (h : Recorded l s) (hoffers : Offers s e r answer s') :
    Recorded (answer.toList ++ l) s' := by
  have hrefresh : s.fleet.refresh.Books fun n => share n l := h.refresh
  cases hoffers with
  | noHosts =>
    show Fleet.Books (fun n => share n (.noHosts e.service :: l)) s.fleet.refresh
    rw [share_noHosts_fun]
    exact hrefresh
  | @refused s' events _ hfleet _ _ =>
    -- The choice of a host and its refusal are reported, and nothing else changes.
    have hstays : s.fleet.refresh.Stays s'.fleet := by
      rw [hfleet]
      exact ⟨rfl, rfl, rfl, rfl, fun _ => rfl⟩
    exact Recorded.stays hrefresh hstays (by rw [hfleet]; rfl) (by rw [hfleet]; rfl)
      (by rw [hfleet]; rfl)
  | @hosted s' events serial epoch call settings _ hserial hoffer _ =>
    have hemit : (s.fleet.refresh.emit events).Books fun n => share n l :=
      hrefresh.apart (hrefresh.orderly.uses (.apart ⟨rfl, rfl, rfl, rfl, fun _ => rfl⟩ rfl rfl id))
        rfl rfl rfl rfl
    show Fleet.Books (fun n => share n (.hosted call epoch settings :: l)) s'.fleet
    rw [share_hosted_fun]
    exact hemit.sent hoffer hserial

theorem Recorded.pending (h : Recorded (c :: l) s) (hpoll : s.poll c = (none, c', s')) :
    Recorded (c' :: l) s' := by
  cases c with
  | noHosts service => cases hpoll
  | hosted call epoch settings =>
    obtain ⟨call', hcall, rfl⟩ := poll_hosted hpoll
    obtain ⟨-, hserial, hsame⟩ := s.fleet.poll_rests call
    rw [hcall] at hserial hsame
    have hfleet : s'.fleet = s.fleet := hsame rfl
    have hserial' : call'.serial = call.serial := hserial
    -- The call stays with its server, so it counts for the same share as before.
    unfold Recorded at h ⊢
    rw [share_hosted_fun] at h ⊢
    rw [hfleet, hserial']
    exact h

theorem Recorded.ended {result : HostResult} (h : Recorded (c :: l) s)
    (hpoll : s.poll c = (some result, c', s')) : Recorded l s' := by
  unfold Recorded at h
  cases c with
  | noHosts service =>
    cases hpoll
    rw [share_noHosts_fun] at h
    exact h
  | hosted call epoch settings =>
    obtain ⟨call', hcall, -⟩ := poll_hosted hpoll
    rw [share_hosted_fun] at h
    exact h.ended hcall

theorem Recorded.drop (h : Recorded (c :: l) s) : Recorded l (s.drop c) := by
  unfold Recorded at h
  cases c with
  | noHosts service =>
    rw [share_noHosts_fun] at h
    exact h
  | hosted call epoch settings =>
    rw [share_hosted_fun] at h
    exact h.drop

theorem recorded_lasts : Lasts (α := α) Recorded where
  tracks :=
    { quiet := backend_quiet
      perm := fun h hl => h.congr fun n => (hl.countP_eq _).symm
      refused := fun {e r _ s _ _ _} hoffer h => by
        have hoffers := s.offer_offers e r
        rw [offer_of_backend hoffer] at hoffers
        exact h.offer hoffers
      taken := fun {e r _ s _ _ _ _} hoffer h => by
        have hoffers := s.offer_offers e r
        rw [offer_of_backend hoffer] at hoffers
        exact h.offer hoffers
      pending := fun hpoll h => h.pending hpoll
      ended := fun hpoll h => h.ended hpoll
      drop := fun h => h.drop
      report := fun h => Recorded.stays h ⟨rfl, rfl, rfl, rfl, fun _ => rfl⟩ rfl rfl rfl }
  outside _ h := Recorded.stays h ⟨rfl, rfl, rfl, rfl, fun _ => rfl⟩ rfl rfl rfl
  look h := Fleet.Books.refresh h
  update config h := h.apart (h.orderly.update config) rfl rfl rfl rfl
  publish h hdns hlater :=
    h.apart ⟨h.orderly.current.publish hdns hlater, h.orderly.nodup, h.orderly.named⟩ rfl rfl rfl
      rfl
  blacklist _ h := Recorded.stays h ⟨rfl, rfl, rfl, rfl, fun _ => rfl⟩ rfl rfl rfl

end Selection

end RpcPipeline
