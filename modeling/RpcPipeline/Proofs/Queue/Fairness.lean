import RpcPipeline.Proofs.Queue.Turns

/-!
# `RpcPipeline.Proofs.Queue.Fairness`: nobody is passed more often than the rule allows

Every move of a session adds its entries to the journal and keeps the journal orderly
(`step_ranked`, `run_ranked`). From that follow the two rules by which a queue admits
calls:

* `run_first_come`: under `fifo`, calls are admitted in the order of submission, whether
  directly or in a pass.
* `run_takes_turns`: under `roundRobin`, this holds among the calls of one endpoint, and
  while a call is the oldest of its endpoint that waits, every other endpoint has at most
  one call admitted.
-/

set_option autoImplicit false

open scoped List

namespace RpcPipeline

variable {κ σ : Type}

namespace Session

variable {P : σ → Prop} {f : Fairness} {j : Journal} {d : Delegate κ σ} {x : Session κ σ}

/-! ### Who waits -/

theorem waits_iff_meets (x : Session κ σ) (n : Nat) : x.waits n = true ↔ x.Meets n .waiting := by
  simp only [waits, Meets, Option.any_eq_true]

/-- Whoever waits according to the journal does wait, and the other way round. -/
theorem Ranked.waiting_iff (hx : x.InOrder)
    (h : Ranked P f j x.calls.length x.queue.lanes x.watch) (n : Nat) (e : Endpoint) :
    ⟨n, e⟩ ∈ j.waiting ↔ x.Meets n .waiting ∧
      ∃ c : Submission (Stamped κ), x.calls[n]? = some c ∧ c.endpoint = e := by
  rw [h.mem_waiting, meets_waiting_iff hx]
  constructor
  · rintro ⟨v, hv, howner, rfl⟩
    obtain ⟨m, c, howner', hc, hend, -⟩ := hx.accounts.books.lined v hv
    rw [howner, Option.some.injEq] at howner'
    subst howner'
    -- The caller at the slot of the call that stands in the lane is the one that waits.
    obtain ⟨m, c', hc', hstage, howner'⟩ := hx.accounts.exists_caller
      (hx.accounts.isSome_of_waiter hv)
    rw [howner, Option.some.injEq] at howner'
    subst howner'
    have hempty := (hx.accounts.sound.awaits _).mp (List.mem_map_of_mem hv)
    exact ⟨⟨c', hc', v.id, hstage, hempty⟩, c, hc, hend.symm⟩
  · rintro ⟨⟨c, hc, id, hstage, hempty⟩, c', hc', rfl⟩
    rw [hc, Option.some.injEq] at hc'
    subst hc'
    obtain ⟨v, hv, rfl⟩ := List.mem_map.mp ((hx.accounts.sound.awaits _).mpr hempty)
    have howner := hx.accounts.books.owned n c v.id hc hstage
    obtain ⟨m, c', howner', hc', hend, -⟩ := hx.accounts.books.lined v hv
    rw [howner, Option.some.injEq] at howner'
    subst howner'
    rw [hc, Option.some.injEq] at hc'
    subst hc'
    exact ⟨v, hv, howner, hend⟩

/-- Once no call stands in a lane, none waits. -/
theorem waits_of_lanes (hlanes : x.queue.lanes = []) (n : Nat) : x.waits n = false := by
  have hnone : ∀ c : Submission (Stamped κ), c.waits x.queue.lanes = false := by
    intro c
    rw [hlanes]
    unfold Submission.waits
    split <;> rfl
  unfold waits
  cases x.calls[n]? with
  | none => rfl
  | some c => exact hnone c

/-! ### Moves -/

/-- Offers that a move makes without anybody else coming or going. -/
theorem entries_of_offers {x' : Session κ σ} {m : Move σ} {new : List Offer}
    (h : Ranked P f j x.calls.length x.queue.lanes x.watch)
    (h' : Ranked P f (j ++ new.map .offered) x'.calls.length x'.queue.lanes x'.watch)
    (hm : ∀ e r, m ≠ .submit e r) (hleaving : leaving x x' m = []) :
    Ranked P f (j ++ x.entries x' m) x'.calls.length x'.queue.lanes x'.watch := by
  have hnew : x'.watch.offers.drop x.watch.offers.length = new := by
    rw [h.drop_offers h', Journal.offers_map_offered]
  have hentries : x.entries x' m = new.map .offered := by
    cases m with
    | submit e r => exact absurd rfl (hm e r)
    | _ => simp only [entries, hnew, hleaving, List.map_nil, List.nil_append]
  rw [hentries]
  exact h'

/-- The queue gives up what waits. -/
theorem entries_of_givenUp {x' : Session κ σ} {m : Move σ} (hx : x.InOrder)
    (h : Ranked P f j x.calls.length x.queue.lanes x.watch) (hm : m = .close ∨ m = .letGo)
    (hcalls : x'.calls = x.calls) (hlanes : x'.queue.lanes = [])
    (hoffers : x'.watch.offers = x.watch.offers) (hw : P x'.watch.state) :
    Ranked P f (j ++ x.entries x' m) x'.calls.length x'.queue.lanes x'.watch := by
  have hnew : x'.watch.offers.drop x.watch.offers.length = [] := by
    rw [hoffers, List.drop_length]
  obtain ⟨gone, hgone, hentries⟩ : ∃ gone : List Nat,
      gone = (List.range x.calls.length).filter (fun n => x.waits n && !x'.waits n) ∧
        x.entries x' m = gone.map Entry.left := by
    refine ⟨_, rfl, ?_⟩
    rcases hm with rfl | rfl <;>
      simp only [entries, leaving, hnew, List.map_nil, List.append_nil]
  rw [hentries, hlanes, hcalls]
  refine h.givenUp (fun p hp => ?_) hw hoffers
  -- Whoever waited is among the calls, and nobody waits now.
  obtain ⟨hwaits, c, hc, -⟩ := (h.waiting_iff hx p.call p.endpoint).mp hp
  rw [hgone]
  refine List.mem_filter.mpr ⟨List.mem_range.mpr (List.getElem?_eq_some_iff.mp hc).1, ?_⟩
  rw [(waits_iff_meets x p.call).mpr hwaits, waits_of_lanes hlanes]
  rfl

/-- A caller drops a call that waits. -/
theorem entries_of_withdrawn {n id : Nat} {e : Endpoint} {r : Request}
    {q' : Queue (Stamped κ)} {w' : Watched σ} (hx : x.InOrder)
    (h : Ranked P f j x.calls.length x.queue.lanes x.watch)
    (hc : x.calls[n]? = some ⟨e, r, .held (.waiting id)⟩)
    (hslot : x.queue.slots.get? id = some .empty) (hd : d.Heeds f P)
    (hdrops : Queue.Drops d.watched (.waiting id) x.queue x.watch q' w') {st : Standing _} :
    Ranked P f (j ++ x.entries ⟨q', w', x.calls.set n ⟨e, r, .dropped st⟩⟩ (.drop n))
      (x.calls.set n ⟨e, r, .dropped st⟩).length q'.lanes w' := by
  have hwaited : x.waits n = true := by
    rw [waits_iff_meets, meets_waiting_iff hx]
    exact ⟨_, hc, id, rfl, hslot⟩
  have hgone : waits ⟨q', w', x.calls.set n ⟨e, r, .dropped st⟩⟩ n = false := by
    simp [waits, List.getElem?_set_self (List.getElem?_eq_some_iff.mp hc).1, Submission.waits]
  have hentries : w'.offers = x.watch.offers →
      x.entries ⟨q', w', x.calls.set n ⟨e, r, .dropped st⟩⟩ (.drop n) = [Entry.left n] := by
    intro hoffers
    simp [entries, leaving, hwaited, hgone, hoffers]
  have hid := (hx.accounts.sound.awaits id).mpr hslot
  have howner := hx.accounts.books.owned n _ id hc rfl
  cases hdrops with
  | withdrawn =>
    rw [hentries rfl, List.length_set]
    exact (h.withdrawn hid howner).of_notes (hd.report _ _ h.within) rfl rfl
  | collected hfilled =>
    rw [hslot] at hfilled
    cases hfilled
  | abandoned habandoned =>
    rw [hslot] at habandoned
    cases habandoned

/-- A move that does nothing has no entries. -/
theorem entries_self (x : Session κ σ) (m : Move σ) : x.entries x m = [] := by
  cases m with
  | submit e r => simp [entries, joining]
  | _ => simp [entries, leaving]

/-- Every move adds its entries, and the journal stays orderly. -/
theorem step_ranked (hd : d.Heeds f P) (hx : x.InOrder)
    (h : Ranked P f j x.calls.length x.queue.lanes x.watch) {m : Move σ} (hm : m.Within P) :
    Ranked P f (j ++ x.entries (x.step d m) m) (x.step d m).calls.length
      (x.step d m).queue.lanes (x.step d m).watch := by
  have hsound := hx.accounts.sound
  have hdoes := step_does d hsound hx.idle m
  generalize x.step d m = x' at hdoes ⊢
  cases hdoes with
  | nothing => rwa [entries_self, List.append_nil]
  | @submitted e r c q' w' halive hsubmits =>
    obtain ⟨new, hnew⟩ := Ranked.submits hd hx.accounts halive hsubmits h
    have hdrop : w'.offers.drop x.watch.offers.length = new := by
      rw [h.drop_offers hnew, Journal.offers_append, Journal.offers_append,
        Journal.offers_map_offered, Journal.offers_map_offered, QueuedCall.offers_joins,
        List.append_nil, List.take_append_drop]
    simp only [entries, joining, List.getElem?_concat_length, hdrop]
    rwa [List.length_append, List.length_singleton]
  | polled hc hpolls =>
    obtain ⟨rest, hheld⟩ := sound_of_held hsound hc
    obtain ⟨new, hnew⟩ := Ranked.polls hd hpolls hheld h
    rw [← List.length_set] at hnew
    exact entries_of_offers h hnew (by simp) rfl
  | @dropped n e r c q' w' hc hdrops =>
    obtain ⟨rest, hheld⟩ := sound_of_held hsound hc
    by_cases hempty : ∃ id, c = .waiting id ∧ x.queue.slots.get? id = some .empty
    · obtain ⟨id, rfl, hslot⟩ := hempty
      exact entries_of_withdrawn hx h hc hslot hd hdrops
    · obtain ⟨new, hnew⟩ := Ranked.drops hd hdrops hheld
        (fun id hid hslot => hempty ⟨id, hid, hslot⟩) h
      have hstays : x.waits n = false := by
        rw [Bool.eq_false_iff, Ne, waits_iff_meets, meets_waiting_iff hx]
        rintro ⟨c', hc', id, hstage, hslot⟩
        rw [hc, Option.some.injEq] at hc'
        rw [← hc'] at hstage
        cases hstage
        exact hempty ⟨id, rfl, hslot⟩
      rw [← List.length_set] at hnew
      exact entries_of_offers h hnew (by simp) (by simp [leaving, hstays])
  | fired hfires =>
    obtain ⟨new, hnew⟩ := Ranked.fires hd hfires hsound h
    exact entries_of_offers h hnew (by simp) rfl
  | closed hopen =>
    have heq := Queue.close_eq (b := d.watched) hopen x.watch
    refine entries_of_givenUp hx h (.inl rfl) rfl (congrArg (fun z => z.1.lanes) heq)
      (congrArg (fun z => z.2.offers) heq) ?_
    rw [heq]
    exact hd.report _ _ h.within
  | letGo =>
    exact entries_of_givenUp hx h (.inr rfl) rfl (congrArg (·.lanes) x.queue.die_eq) rfl h.within
  | changed g =>
    have hnew : Ranked P f (j ++ ([] : List Offer).map .offered) x.calls.length x.queue.lanes
        { x.watch with state := g x.watch.state } := by
      rw [List.map_nil, List.append_nil]
      exact h.of_notes (hm _ h.within) rfl rfl
    exact entries_of_offers h hnew (by simp) rfl

/-! ### Runs -/

theorem start_ranked (f : Fairness) (timed : Bool) {s : σ} (hs : P s) :
    Ranked P f [] (start timed s : Session κ σ).calls.length
      (start timed s : Session κ σ).queue.lanes (start timed s : Session κ σ).watch :=
  ⟨hs, .nil f, fun _ => rfl, .new f, rfl⟩

/-- In every run the journal is orderly and fits the queue. -/
theorem run_ranked (hd : d.Heeds f P) (hx : x.InOrder)
    (h : Ranked P f j x.calls.length x.queue.lanes x.watch) {moves : List (Move σ)}
    (hm : ∀ m ∈ moves, m.Within P) :
    Ranked P f (j ++ journal d x moves) (x.run d moves).calls.length
      (x.run d moves).queue.lanes (x.run d moves).watch := by
  induction moves generalizing x j with
  | nil => rwa [journal, List.append_nil]
  | cons m moves ih =>
    have hstep := step_ranked hd hx h (hm m List.mem_cons_self)
    have hrest := ih (step_inOrder hx m).1 hstep fun m' hm' => hm m' (List.mem_cons_of_mem m hm')
    rwa [List.append_assoc] at hrest

/-- A call was admitted at an offer, both by their numbers. -/
def AdmittedAt (x : Session κ σ) (n i : Nat) : Prop :=
  ∃ o : Offer, x.watch.offers[i]? = some o ∧ o.call = n ∧ o.taken = true

theorem admittedAt_iff {n i : Nat} :
    x.AdmittedAt n i ↔
      (x.watch.offers.map fun o => (o.call, o.taken))[i]? = some (n, true) := by
  simp [AdmittedAt, List.getElem?_map]

/-- Calls of one key are admitted in the order of submission. -/
theorem Ranked.sorted (h : Ranked P f j x.calls.length x.queue.lanes x.watch) {i k : Nat}
    {o o' : Offer} (ho : x.watch.offers[i]? = some o) (ho' : x.watch.offers[k]? = some o')
    (htaken : o.taken = true) (htaken' : o'.taken = true)
    (hkey : f.keyOf o.endpoint = f.keyOf o'.endpoint) : o.call < o'.call ↔ i < k := by
  have hsorted := List.pairwise_iff_getElem.mp (List.pairwise_filter.mp h.orderly.sorted)
  rw [h.offers_eq] at hsorted
  obtain ⟨hi, rfl⟩ := List.getElem?_eq_some_iff.mp ho
  obtain ⟨hk, rfl⟩ := List.getElem?_eq_some_iff.mp ho'
  rcases Nat.lt_trichotomy i k with hlt | rfl | hlt
  · exact iff_of_true (hsorted i k hi hk hlt htaken htaken' hkey) hlt
  · exact iff_of_false (Nat.lt_irrefl _) (Nat.lt_irrefl _)
  · have hcall := hsorted k i hk hi hlt htaken' htaken hkey.symm
    exact iff_of_false (Nat.lt_asymm hcall) (Nat.lt_asymm hlt)

/-! ### A gate that lets some calls through -/

/-- A gate has a number of permits, and settings that may change. -/
structure Gate where
  permits : Nat
  fairness : Fairness

/-- A gate takes a call for each permit. No call ever ends by itself. -/
def gate : Delegate Unit Gate where
  offer _ _ s := if s.permits = 0 then (none, s) else (some (), { s with permits := s.permits - 1 })
  poll _ s := (none, (), s)
  drop _ s := { s with permits := s.permits + 1 }
  settings s := ⟨8, s.fairness, 0⟩
  now _ := 0
  report _ s := s

/-- The gate itself does not change the fairness. -/
theorem gate_heeds (f : Fairness) : gate.Heeds f fun s => s.fairness = f where
  fairness _ hs := hs
  offer _ _ s hs := by
    unfold gate
    dsimp only
    split
    · exact hs
    · exact hs
  poll _ _ hs := hs
  drop _ _ hs := hs
  report _ _ hs := hs

/-- Two endpoints. -/
def catalog (name : String) : Endpoint := ⟨"catalog", name, "1.0", "GET", ⟨[]⟩⟩

/-- The gate is opened for a number of calls. -/
def opens (permits : Nat) : Move Gate := .change fun s => { s with permits := permits }

/-! ### In order of arrival -/

/-- In every run in which calls are served in the order of arrival throughout, of two calls
that are admitted the one that was submitted first is admitted first, whatever becomes of
other calls, and whether they are admitted directly or in a pass. -/
theorem run_first_come (hd : d.Heeds .fifo P) (timed : Bool) {s : σ} (hs : P s)
    {moves : List (Move σ)} (hm : ∀ m ∈ moves, m.Within P) {m n i k : Nat}
    (hmi : ((start timed s : Session κ σ).run d moves).AdmittedAt m i)
    (hnk : ((start timed s : Session κ σ).run d moves).AdmittedAt n k) : m < n ↔ i < k := by
  have h := run_ranked hd (start_inOrder timed s) (start_ranked .fifo timed hs) hm
  obtain ⟨o, ho, rfl, htaken⟩ := hmi
  obtain ⟨o', ho', rfl, htaken'⟩ := hnk
  exact h.sorted ho ho' htaken htaken' rfl

/-- The first call passes the gate directly. Two others wait, and pass it once the first
one is dropped. -/
def passage : List (Move Gate) :=
  [.submit (catalog "list") (.blank 0), .submit (catalog "get") (.blank 4),
    .submit (catalog "list") (.blank 8), opens 1, .drop 0]

theorem run_first_come_gate :
    let x : Session Unit Gate := (start true ⟨1, .fifo⟩).run gate passage
    x.AdmittedAt 0 0 ∧ x.AdmittedAt 1 4 ∧ x.AdmittedAt 2 5 ∧ (0 < 1 ↔ 0 < 4) ∧ (1 < 2 ↔ 4 < 5) := by
  intro x
  have hm : ∀ m ∈ passage, m.Within fun s => s.fairness = Fairness.fifo := by
    simp [passage, Move.Within, opens]
  have h₀ : x.AdmittedAt 0 0 := admittedAt_iff.mpr (by decide +kernel)
  have h₁ : x.AdmittedAt 1 4 := admittedAt_iff.mpr (by decide +kernel)
  have h₂ : x.AdmittedAt 2 5 := admittedAt_iff.mpr (by decide +kernel)
  exact ⟨h₀, h₁, h₂, run_first_come (gate_heeds .fifo) true rfl hm h₀ h₁,
    run_first_come (gate_heeds .fifo) true rfl hm h₁ h₂⟩

/-! ### Endpoint by endpoint -/

/-- The endpoints take turns, according to the journal `j` of a run. -/
structure TakesTurns (x : Session κ σ) (j : Journal) : Prop where
  /-- The journal has all offers. -/
  offers_eq : j.offers = x.watch.offers
  /-- The journal knows who waits. -/
  waiting_iff : ∀ n e, ⟨n, e⟩ ∈ j.waiting ↔ x.Meets n .waiting ∧
    ∃ c : Submission (Stamped κ), x.calls[n]? = some c ∧ c.endpoint = e
  /-- Calls of one endpoint are admitted in the order of submission. -/
  sorted : ∀ (m n : Nat) (c c' : Submission (Stamped κ)), x.calls[m]? = some c →
    x.calls[n]? = some c' → c.endpoint = c'.endpoint →
      ∀ i k, x.AdmittedAt m i → x.AdmittedAt n k → (m < n ↔ i < k)
  /-- If after `j₁` a call is the oldest of its endpoint that waits, and `j₂` happens while
  it waits, then of every other endpoint at most one call is admitted in `j₂`. -/
  passed : ∀ j₁ j₂ j₃, j = j₁ ++ j₂ ++ j₃ → ∀ p : WaitingCall,
    j₁.waiting.find? (·.endpoint = p.endpoint) = some p → p ∈ (j₁ ++ j₂).waiting →
      ∀ e ≠ p.endpoint, (j₂.admitted.filter (·.endpoint = e)).length ≤ 1

/-- In every run in which endpoints are served in turn throughout, the calls of an endpoint
are admitted in the order of submission, and from the moment when a call becomes the oldest
of its endpoint that waits until it is admitted or leaves, every other endpoint has at most
one call admitted. -/
theorem run_takes_turns (hd : d.Heeds .roundRobin P) (timed : Bool) {s : σ} (hs : P s)
    {moves : List (Move σ)} (hm : ∀ m ∈ moves, m.Within P) :
    ((start timed s : Session κ σ).run d moves).TakesTurns (journal d (start timed s) moves) := by
  have hstart : (start timed s : Session κ σ).InOrder := start_inOrder timed s
  have hx := run_inOrder (d := d) hstart moves
  have h := run_ranked hd hstart (start_ranked .roundRobin timed hs) hm
  rw [List.nil_append] at h
  refine ⟨h.offers_eq, h.waiting_iff hx, ?_, ?_⟩
  · rintro m n c c' hc hc' hend i k ⟨o, ho, rfl, htaken⟩ ⟨o', ho', rfl, htaken'⟩
    refine h.sorted ho ho' htaken htaken' (congrArg some ?_)
    -- A call is offered with the endpoint with which it was submitted.
    obtain ⟨c₁, hc₁, hend₁, -⟩ := hx.accounts.books.offered o (List.mem_of_getElem? ho)
    obtain ⟨c₂, hc₂, hend₂, -⟩ := hx.accounts.books.offered o' (List.mem_of_getElem? ho')
    rw [hc, Option.some.injEq] at hc₁
    rw [hc', Option.some.injEq] at hc₂
    rw [hend₁, hend₂, ← hc₁, ← hc₂, hend]
  · intro j₁ j₂ j₃ hsplit p hfirst hstill e hne
    have hfirst' : Journal.First .roundRobin j₁ p := by
      simpa [Journal.First, Fairness.keyOf] using hfirst
    have hserved := h.orderly.bound j₁ j₂ j₃ hsplit p hfirst' hstill (some e)
      (fun heq => hne (Option.some.inj heq))
    rw [Journal.served, List.countP_eq_length_filter] at hserved
    simpa [Fairness.keyOf] using hserved

/-- Two calls of one endpoint and one of another wait. The gate is opened for one call, so
the first endpoint has one call admitted, and then it is the turn of the other one. -/
def alternation : List (Move Gate) :=
  [.submit (catalog "list") (.blank 0), .submit (catalog "list") (.blank 4),
    .submit (catalog "get") (.blank 8), opens 1, .fire]

theorem run_takes_turns_gate :
    let x : Session Unit Gate := (start true ⟨0, .roundRobin⟩).run gate alternation
    let j := journal gate (start true ⟨0, .roundRobin⟩) alternation
    x.TakesTurns j ∧
      -- From its sixth entry on, the third call waits as the oldest of its endpoint.
      ((Journal.waiting (j.take 6)).map fun p => (p.call, p.endpoint)) =
        [(0, catalog "list"), (1, catalog "list"), (2, catalog "get")] ∧
      (j.waiting.map fun p => (p.call, p.endpoint)) =
        [(1, catalog "list"), (2, catalog "get")] ∧
      ((Journal.admitted (j.drop 6)).map fun o => (o.call, o.endpoint)) =
        [(0, catalog "list")] := by
  intro x j
  have hm : ∀ m ∈ alternation, m.Within fun s => s.fairness = Fairness.roundRobin := by
    simp [alternation, Move.Within, opens]
  exact ⟨run_takes_turns (gate_heeds .roundRobin) true rfl hm, by decide +kernel,
    by decide +kernel, by decide +kernel⟩

end Session

end RpcPipeline
