import RpcPipeline.Proofs.Dns.Cache
import RpcPipeline.Proofs.Dns.Course
import RpcPipeline.Proofs.Number.Exact

/-!
# `RpcPipeline.Proofs.Dns.Rounds`: what names lead to after each round

A name leads to what was found last since it came into use (`known?`). A look-up that fails or
finds nothing does not count, however many of them there are. When a round is held without the
name, what was found before is forgotten.

* `DnsRound.Faithful`: what a round owes to those before it.
* `Recalls`: what the cache and the round under way have of the rounds so far.
* `Recalls.step`, `Recalls.run`: this holds all along.
* `Course.run_falls_back`: every round of every run is faithful.
-/

set_option autoImplicit false

namespace RpcPipeline

variable {α : Type}

/-- No name is being looked up, and the refresher has not stopped. -/
def RefreshPhase.isResting : RefreshPhase α → Bool
  | .starting | .marked _ | .waiting .. => true
  | .resolving .. | .stopped => false

namespace DnsRound

/-- The names that are in use under the settings of a round. -/
def names (r : DnsRound α) : List String := Refresher.hostnames r.settings.value

/-- The addresses that a round has found for a name, if it found any. -/
def found? (r : DnsRound α) (name : String) : Option (List Address) :=
  (Table.find? name r.lookups).bind Lookup.found?

/-- No look-up of a round found anything. -/
def Barren (r : DnsRound α) : Prop := ∀ lookup ∈ r.lookups, lookup.2.found? = none

/-- What was found last of a name since it came into use. The rounds are listed with the latest
one first. -/
def known? (rounds : List (DnsRound α)) (name : String) : Option (List Address) :=
  (rounds.takeWhile fun r => name ∈ r.names).findSome? fun r => r.found? name

variable {r : DnsRound α} {earlier : List (DnsRound α)} {name : String}

theorem known?_cons_of_mem (h : name ∈ r.names) :
    known? (r :: earlier) name = (r.found? name).or (known? earlier name) := by
  rw [known?, List.takeWhile_cons, if_pos (decide_eq_true h), List.findSome?_cons]
  cases r.found? name <;> rfl

/-- What was found of a name is forgotten when the name is not in use. -/
theorem known?_cons_of_notMem (h : name ∉ r.names) : known? (r :: earlier) name = none := by
  rw [known?, List.takeWhile_cons, if_neg (by simp [h])]
  rfl

theorem known?_ne_nil {rounds : List (DnsRound α)} : known? rounds name ≠ some [] := by
  intro h
  obtain ⟨r, -, hfound⟩ := List.exists_of_findSome?_eq_some h
  obtain ⟨lookup, -, hlookup⟩ := Option.bind_eq_some_iff.mp hfound
  exact Lookup.found?_ne_nil hlookup rfl

/-- A round that finds nothing adds nothing to what is known. -/
theorem Barren.known? (h : r.Barren) (hname : name ∈ r.names) :
    known? (r :: earlier) name = known? earlier name := by
  have hnone : r.found? name = none := by
    unfold found?
    cases hfind : Table.find? name r.lookups with
    | none => rfl
    | some lookup => exact h _ (Table.mem_of_find? hfind)
  rw [known?_cons_of_mem hname, hnone, Option.none_or]

/-- The snapshot that follows from what is known after some rounds. -/
def due (names : List String) (rounds : List (DnsRound α)) : DnsSnapshot :=
  .ofList (names.map fun name => (name, (known? rounds name).getD []))

/-- It shows the names of the last round of which anything is known. -/
theorem get?_due : (due r.names (r :: earlier)).get? name = known? (r :: earlier) name := by
  rw [due, DnsSnapshot.get?_ofList_map]
  by_cases hname : name ∈ r.names
  · cases hknown : known? (r :: earlier) name with
    | none => rw [if_neg (fun h => h.2 rfl)]
    | some addresses =>
      have hne : addresses ≠ [] := fun hnil => known?_ne_nil (hnil ▸ hknown)
      exact if_pos ⟨hname, hne⟩
  · rw [if_neg fun h => hname h.1, known?_cons_of_notMem hname]

/-- What a round owes to the rounds before it. -/
structure Faithful (r : DnsRound α) (earlier : List (DnsRound α)) : Prop where
  /-- Every name in use is looked up once. -/
  looked : r.lookups.map (·.1) = r.names
  /-- A name leads to what was found last since it came into use. -/
  shows : ∀ name, r.snapshot.get? name = known? (r :: earlier) name
  /-- The cache holds the names in use and no others. -/
  kept : ∀ name, (r.cache.get? name).isSome ↔ name ∈ r.names
  shown : r.published.value = r.snapshot
  /-- If nothing is found, and no name has come or gone, then nothing is published. Whoever
  looked at the hosts before and looks at them again finds them as they are. -/
  quiet : ∀ prev before, earlier = prev :: before → r.names = prev.names → r.Barren →
    r.published = prev.published ∧
      ∀ [Scalar α] (f : Fleet α), f.dns = some prev.published →
        ({ f.refresh with dns := some r.published } : Fleet α).refresh = f.refresh

/-- Every round is faithful to those before it. -/
def AllFaithful : List (DnsRound α) → Prop
  | [] => True
  | r :: earlier => r.Faithful earlier ∧ AllFaithful earlier

end DnsRound

namespace Course

open DnsRound

variable {c c' : Course α}

/-- What the cache answers for a name when the round under way has looked up `looked`, after
some rounds. -/
def recalled? (rounds : List (DnsRound α)) (looked : List (String × Lookup)) (name : String) :
    Option (List Address) :=
  match Table.find? name looked with
  | some lookup => some (lookup.found?.getD ((known? rounds name).getD []))
  | none =>
    match rounds with
    | [] => none
    | r :: _ => if name ∈ r.names then some ((known? rounds name).getD []) else none

theorem recalled?_of_looked {rounds : List (DnsRound α)} {looked : List (String × Lookup)}
    {name : String} {lookup : Lookup} (h : Table.find? name looked = some lookup) :
    recalled? rounds looked name = some (lookup.found?.getD ((known? rounds name).getD [])) := by
  unfold recalled?
  rw [h]

/-- A name that is not looked up yet stands for what is known of it. -/
theorem recalled?_getD {rounds : List (DnsRound α)} {looked : List (String × Lookup)}
    {name : String} (h : Table.find? name looked = none) :
    (recalled? rounds looked name).getD [] = (known? rounds name).getD [] := by
  unfold recalled?
  rw [h]
  cases rounds with
  | nil => rfl
  | cons r earlier =>
    by_cases hname : name ∈ r.names
    · simp [hname]
    · simp [hname, known?_cons_of_notMem hname]

/-- What a look-up leads to. -/
def outcome (rounds : List (DnsRound α)) (lookup : String × Lookup) : String × List Address :=
  (lookup.1, lookup.2.found?.getD ((known? rounds lookup.1).getD []))

/-- What a refresher that has not stopped owes to the rounds so far. -/
structure Recalls (c : Course α) : Prop where
  faithful : AllFaithful c.rounds
  /-- The last round published a snapshot that follows from what is known. -/
  last : ∀ r earlier, c.rounds = r :: earlier →
    c.refresher.published = r.published ∧ r.published.value = due r.names c.rounds
  sound : c.refresher.cache.Sound
  /-- Between rounds the cache answers what is known. -/
  resting : c.refresher.phase.isResting = true →
    ∀ name, c.refresher.cache.get? name = recalled? c.rounds [] name
  /-- Within a round, some names have been looked up and the others are left. -/
  resolving : ∀ watch used left found, c.refresher.phase = .resolving watch used left found →
    Refresher.hostnames used = (c.looked.map (·.1)).reverse ++ left ∧
      found = c.looked.map (outcome c.rounds) ∧
      ∀ name, c.refresher.cache.get? name = recalled? c.rounds c.looked name

theorem hostnames_nodup (config : ClientConfig α) : (Refresher.hostnames config).Nodup :=
  (Table.ofList_sorted _).keys_nodup

theorem start_recalls (resolver : Resolver) (settings : Cell (ClientConfig α)) (now : Instant) :
    (start resolver settings now).Recalls where
  faithful := trivial
  last r earlier h := by cases h
  sound := DnsCache.empty_sound
  resting _ _ := rfl
  resolving watch used left found h := by cases h

/-- The refresher goes on to something else and neither looks up anything nor ends a round. -/
theorem Recalls.goTo (h : c.Recalls) {phase : RefreshPhase α}
    (hphase : ∀ watch used left found, phase ≠ .resolving watch used left found)
    (hrest : ∀ name, c.refresher.cache.get? name = recalled? c.rounds [] name) :
    (c.goTo phase).Recalls where
  faithful := h.faithful
  last := h.last
  sound := h.sound
  resting _ := hrest
  resolving watch used left found hw := absurd hw (hphase watch used left found)

/-- A refresher that has stopped remembers its rounds. -/
theorem Recalls.stop (h : c.Recalls) : (c.goTo .stopped).Recalls where
  faithful := h.faithful
  last := h.last
  sound := h.sound
  resting hw := by cases hw
  resolving watch used left found hw := by cases hw

theorem Recalls.begin (h : c.Recalls) {watch : Watch}
    (hphase : c.refresher.phase = .marked watch) : (c.begin watch).Recalls where
  faithful := h.faithful
  last := h.last
  sound := h.sound
  resting hw := by cases hw
  resolving w used left found hw := by
    cases hw
    exact ⟨rfl, rfl, h.resting (by rw [hphase]; rfl)⟩

/-- A name is looked up for the first time in a round, so what the cache held of it is what is
known. -/
theorem Recalls.lookUp (h : c.Recalls) {watch : Watch} {used : ClientConfig α} {name : String}
    {left : List String} {found : List (String × List Address)}
    (hphase : c.refresher.phase = .resolving watch used (name :: left) found) :
    (c.lookUp watch used name left found).Recalls where
  faithful := h.faithful
  last := h.last
  sound := h.sound.apply c.now name _
  resting hw := by cases hw
  resolving w u l f hw := by
    cases hw
    obtain ⟨hnames, hfound, hcache⟩ := h.resolving watch used (name :: left) found hphase
    have hnodup : ((c.looked.map (·.1)).reverse ++ name :: left).Nodup :=
      hnames ▸ hostnames_nodup used
    -- Without this a second look-up would fall back on the first one of the same round.
    have hnew : Table.find? name c.looked = none := by
      refine Table.find?_eq_none.mpr fun hmem => ?_
      exact (List.nodup_append.mp hnodup).2.2 name (List.mem_reverse.mpr hmem) name
        List.mem_cons_self rfl
    have hknown : (c.refresher.cache.get? name).getD [] = (known? c.rounds name).getD [] := by
      rw [hcache, recalled?_getD hnew]
    refine ⟨?_, ?_, fun other => ?_⟩
    · rw [hnames]
      simp [Course.lookUp]
    · rw [hfound]
      refine congrArg (· :: c.looked.map (outcome c.rounds)) (Prod.ext rfl ?_)
      refine (h.sound.apply_addresses c.now name _).trans ?_
      rw [hknown]
      rfl
    · show (c.refresher.cache.apply c.now name (c.refresher.resolver.resolve name).1).2.2.get?
        other = recalled? c.rounds ((name, (c.refresher.resolver.resolve name).1) :: c.looked) other
      rw [h.sound.get?_apply, hknown, hcache]
      unfold recalled?
      by_cases hother : other = name
      · subst hother
        rw [if_pos rfl, Table.find?, if_pos rfl]
      · rw [if_neg hother, Table.find?, if_neg (Ne.symm hother)]

/-- A look-up leads to what is known of the name at the end of its round. -/
theorem outcome_eq {r : DnsRound α} (hlooked : r.lookups.map (·.1) = r.names)
    {lookup : String × Lookup} (hmem : lookup ∈ r.lookups) (rounds : List (DnsRound α)) :
    outcome rounds lookup = (lookup.1, (known? (r :: rounds) lookup.1).getD []) := by
  have hname : lookup.1 ∈ r.names := hlooked ▸ List.mem_map_of_mem hmem
  have hfind : Table.find? lookup.1 r.lookups = some lookup.2 :=
    Table.find?_of_mem (hlooked ▸ hostnames_nodup _) hmem
  have hknown : known? (r :: rounds) lookup.1 = lookup.2.found?.or (known? rounds lookup.1) := by
    rw [known?_cons_of_mem hname, DnsRound.found?, hfind, Option.bind_some]
  rw [hknown, outcome]
  cases lookup.2.found? <;> rfl

/-- What a round leaves behind, which has looked up its names and has found what these
look-ups lead to. -/
theorem ended_recalls {used : ClientConfig α} {found : List (String × List Address)}
    (hsound : c.refresher.cache.Sound)
    (hlooked : Refresher.hostnames used = (c.looked.map (·.1)).reverse)
    (hfound : found = c.looked.map (outcome c.rounds))
    (hcache : ∀ name, c.refresher.cache.get? name = recalled? c.rounds c.looked name) :
    (c.ended used found).lookups.map (·.1) = (c.ended used found).names ∧
      (c.ended used found).snapshot =
        due (c.ended used found).names (c.ended used found :: c.rounds) ∧
      ∀ name, (c.ended used found).cache.get? name =
        recalled? (c.ended used found :: c.rounds) [] name := by
  generalize hr : c.ended used found = r
  have hlookups : r.lookups = c.looked.reverse := by
    rw [← hr]
    rfl
  have hnames : r.lookups.map (·.1) = r.names := by
    rw [hlookups, List.map_reverse, ← hlooked, ← hr]
    rfl
  have hsnapshot : r.snapshot = .ofList found.reverse := by
    rw [← hr]
    rfl
  have hkept : r.cache = c.refresher.cache.retain r.names := by
    rw [← hr]
    rfl
  refine ⟨hnames, ?_, fun name => ?_⟩
  · have houtcomes : r.lookups.map (outcome c.rounds) =
        r.lookups.map fun l => (l.1, (known? (r :: c.rounds) l.1).getD []) :=
      List.map_congr_left fun lookup hmem => outcome_eq hnames hmem c.rounds
    rw [hsnapshot, hfound, ← List.map_reverse, ← hlookups, houtcomes, due, ← hnames,
      List.map_map]
    rfl
  · rw [hkept, hsound.get?_retain, hcache]
    by_cases hname : name ∈ r.names
    · -- A name in use was looked up in this round, and the cache has what that led to.
      obtain ⟨lookup, hmem, rfl⟩ := List.mem_map.mp (hnames ▸ hname)
      have hnodup : (c.looked.map (·.1)).Nodup :=
        (List.reverse_perm _).nodup_iff.mp (hlooked ▸ hostnames_nodup used)
      have hfind : Table.find? lookup.1 c.looked = some lookup.2 :=
        Table.find?_of_mem hnodup (List.mem_reverse.mp (hlookups ▸ hmem))
      have hout := congrArg Prod.snd (outcome_eq hnames hmem c.rounds)
      rw [if_pos hname, recalled?_of_looked hfind]
      exact (congrArg some hout).trans (if_pos hname).symm
    · rw [if_neg hname]
      exact (if_neg hname).symm

/-- Both rounds found the same if no name has come or gone and nothing was found. -/
theorem due_of_barren {r prev : DnsRound α} {before : List (DnsRound α)}
    (hnames : r.names = prev.names) (hbarren : r.Barren) :
    due r.names (r :: prev :: before) = due prev.names (prev :: before) := by
  refine congrArg DnsSnapshot.ofList ?_
  rw [← hnames]
  exact List.map_congr_left fun name hname => by rw [hbarren.known? hname]

/-- A round that has come to its end is faithful to those before it. -/
theorem Recalls.finish (h : c.Recalls) {watch : Watch} {used : ClientConfig α}
    {found : List (String × List Address)}
    (hphase : c.refresher.phase = .resolving watch used [] found) :
    (c.finish watch used found).Recalls := by
  obtain ⟨hleft, hfound, hcache⟩ := h.resolving watch used [] found hphase
  obtain ⟨hlooked, hsnapshot, hkept⟩ :=
    ended_recalls h.sound (hleft.trans (List.append_nil _)) hfound hcache
  have hshown : (c.ended used found).published.value = (c.ended used found).snapshot :=
    Refresher.publish_value _ _
  have hfaithful : (c.ended used found).Faithful c.rounds := by
    refine ⟨hlooked, fun name => ?_, fun name => ?_, hshown, ?_⟩
    · rw [hsnapshot, get?_due]
    · rw [hkept, recalled?]
      by_cases hname : name ∈ (c.ended used found).names <;> simp [Table.find?, hname]
    · intro prev before hearlier hnames hbarren
      obtain ⟨hpublished, hlast⟩ := h.last prev before hearlier
      have hsame : c.refresher.published.value = (c.ended used found).snapshot := by
        rw [hpublished, hlast, hsnapshot, hearlier, due_of_barren hnames hbarren]
      have hquiet : (c.ended used found).published = prev.published := by
        rw [← hpublished]
        exact Refresher.published_of_shown
          (r := { c.refresher with cache := (c.ended used found).cache }) hsame
      refine ⟨hquiet, fun f hdns => ?_⟩
      -- The fleet is told what it was told before, and has seen that already.
      have hsources : f.refresh.dns = some (c.ended used found).published := by
        rw [f.refresh_carries.dns, hdns, hquiet]
      rw [← hsources]
      exact Fleet.refresh_of_seen (by rw [Fleet.seen_refresh, Fleet.sources_refresh])
  exact {
    faithful := ⟨hfaithful, h.faithful⟩
    last := fun r earlier hr => by
      cases hr
      exact ⟨rfl, hshown.trans hsnapshot⟩
    sound := by
      show (Refresher.publish _ _).cache.Sound
      rw [Refresher.publish_cache]
      exact h.sound.retain _
    resting := fun _ name => by
      show (Refresher.publish _ _).cache.get? name = _
      rw [Refresher.publish_cache]
      exact hkept name
    resolving := fun w u left f hw => by cases hw }

/-- What happens around the refresher concerns neither its rounds nor its cache. -/
theorem Recalls.beside (h : c.Recalls) (hphase : c'.refresher.phase = c.refresher.phase)
    (hpublished : c'.refresher.published = c.refresher.published)
    (hcache : c'.refresher.cache = c.refresher.cache) (hlooked : c'.looked = c.looked)
    (hrounds : c'.rounds = c.rounds) : c'.Recalls := by
  refine ⟨?_, ?_, ?_, ?_, ?_⟩
  · rw [hrounds]
    exact h.faithful
  · rw [hrounds, hpublished]
    exact h.last
  · rw [hcache]
    exact h.sound
  · rw [hphase, hcache, hrounds]
    exact h.resting
  · rw [hphase, hcache, hlooked, hrounds]
    exact h.resolving

theorem Recalls.work (h : c.Recalls) : c.work.Recalls := by
  generalize hc' : c.work = c'
  have hworks : c.Works c' := hc' ▸ c.work_works
  cases hworks with
  | rests => exact h
  | stops => exact h.stop
  | wakes alarm watch hphase =>
    exact h.goTo (fun _ _ _ _ hw => by cases hw) (h.resting (by rw [hphase]; rfl))
  | marks hphase => exact h.goTo (fun _ _ _ _ hw => by cases hw) (h.resting (by rw [hphase]; rfl))
  | reads watch hphase => exact h.begin hphase
  | looks watch used name left found hphase => exact h.lookUp hphase
  | ends watch used found hphase => exact h.finish hphase

theorem Recalls.step (h : c.Recalls) (m : Move α) : (c.step m).Recalls := by
  cases m with
  | update config => exact h.beside rfl rfl rfl rfl rfl
  | answer resolver => exact h.beside rfl rfl rfl rfl rfl
  | advance span => exact h.beside rfl rfl rfl rfl rfl
  | cancel => exact h.beside rfl rfl rfl rfl rfl
  | leave => exact h.beside rfl rfl rfl rfl rfl
  | work => exact h.work

theorem Recalls.run (h : c.Recalls) (moves : List (Move α)) : (c.run moves).Recalls := by
  induction moves generalizing c with
  | nil => exact h
  | cons m moves ih => exact ih (h.step m)

/-- Whatever look-ups come back with and however the settings are replaced, after each round
the names in use lead to what was found last since they came into use. -/
theorem run_falls_back (resolver : Resolver) (settings : Cell (ClientConfig α)) (now : Instant)
    (moves : List (Move α)) : AllFaithful ((start resolver settings now).run moves).rounds :=
  ((start_recalls resolver settings now).run moves).faithful

/-- A name is found in the first round and not in the second, which publishes nothing. -/
example :
    let resolver := Resolver.empty.addScript "a.example" [.ok [.v4 (.ofNat 1)], .error "refused"]
    let config : ClientConfig Rat :=
      { ClientConfig.standard with uris := ["https://a.example"] }
    let c := (start resolver (.new config) 0).run
      (.replicate 4 .work ++ .advance (.seconds 5) :: .replicate 5 .work)
    c.rounds.map (fun r => (r.found? "a.example", r.snapshot.get? "a.example",
        r.published.version)) =
      [(none, some [.v4 (.ofNat 1)], 1), (some [.v4 (.ofNat 1)], some [.v4 (.ofNat 1)], 1)] := by
  decide +kernel

end Course

end RpcPipeline
