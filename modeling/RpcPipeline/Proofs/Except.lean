import Mathlib.Data.List.Forall2

/-!
# `RpcPipeline.Proofs.Except`: what went well, went well at every step

Something that is read or checked step by step stops at the first error. So if it comes to
something, then no step has failed. These equivalences take a hypothesis of that kind apart.
-/

set_option autoImplicit false

namespace RpcPipeline

variable {ε β γ : Type}

/-- If something goes well, then so does every part of it. -/
theorem bind_eq_ok {x : Except ε β} {f : β → Except ε γ} {c : γ} :
    (x >>= f) = .ok c ↔ ∃ b, x = .ok b ∧ f b = .ok c := by
  cases x with
  | error e => simp [bind, Except.bind]
  | ok b => simp [bind, Except.bind]

theorem then_eq_ok {x : Except ε Unit} {y : Except ε γ} {c : γ} :
    (x >>= fun _ => y) = .ok c ↔ x = .ok () ∧ y = .ok c :=
  bind_eq_ok.trans ⟨fun ⟨_, h⟩ => h, fun h => ⟨(), h⟩⟩

theorem map_eq_ok {x : Except ε β} {f : β → γ} {c : γ} :
    f <$> x = .ok c ↔ ∃ b, x = .ok b ∧ f b = c := by
  cases x with
  | error e => simp [Functor.map, Except.map]
  | ok b => simp [Functor.map, Except.map]

/-- Checks one after the other pass if each of them does. -/
theorem forM_eq_ok {check : β → Except ε Unit} {l : List β} :
    l.forM check = .ok () ↔ ∀ x ∈ l, check x = .ok () := by
  induction l with
  | nil => exact iff_of_true rfl nofun
  | cons x l ih =>
    rw [List.forall_mem_cons, ← ih]
    exact then_eq_ok

/-- A list is gone through to its end if each element goes well. -/
theorem mapM_eq_ok {f : β → Except ε γ} {l : List β} {l' : List γ} :
    l.mapM f = .ok l' ↔ List.Forall₂ (fun x y => f x = .ok y) l l' := by
  induction l generalizing l' with
  | nil =>
    rw [List.mapM_nil, List.forall₂_nil_left_iff]
    exact ⟨fun h => (Except.ok.inj h).symm, fun h => congrArg Except.ok h.symm⟩
  | cons x l ih =>
    rw [List.mapM_cons, bind_eq_ok, List.forall₂_cons_left_iff]
    refine exists_congr fun y => ?_
    rw [bind_eq_ok]
    constructor
    · rintro ⟨hx, rest, hrest, h⟩
      exact ⟨rest, hx, ih.mp hrest, (Except.ok.inj h).symm⟩
    · rintro ⟨rest, hx, hrest, rfl⟩
      exact ⟨hx, rest, ih.mpr hrest, rfl⟩

theorem exists_mapM_eq_ok {f : β → Except ε γ} {l : List β} :
    (∃ l', l.mapM f = .ok l') ↔ ∀ x ∈ l, ∃ y, f x = .ok y := by
  induction l with
  | nil => exact iff_of_true ⟨[], rfl⟩ nofun
  | cons x l ih =>
    rw [List.forall_mem_cons, ← ih]
    constructor
    · rintro ⟨l', h⟩
      rw [List.mapM_cons, bind_eq_ok] at h
      obtain ⟨y, hy, h⟩ := h
      obtain ⟨rest, hrest, -⟩ := bind_eq_ok.mp h
      exact ⟨⟨y, hy⟩, rest, hrest⟩
    · rintro ⟨⟨y, hy⟩, rest, hrest⟩
      exact ⟨y :: rest, by rw [List.mapM_cons, hy, hrest]; rfl⟩

/-- What is related to a list has its counterpart in the list. -/
theorem exists_of_forall₂ {R : β → γ → Prop} {l : List β} {l' : List γ} (h : List.Forall₂ R l l')
    {c : γ} (hc : c ∈ l') : ∃ b ∈ l, R b c := by
  induction h with
  | nil => cases hc
  | cons hfirst _ ih =>
    rcases List.mem_cons.mp hc with rfl | hc
    · exact ⟨_, List.mem_cons_self, hfirst⟩
    · obtain ⟨b, hb, hrel⟩ := ih hc
      exact ⟨b, List.mem_cons_of_mem _ hb, hrel⟩

theorem throw_bind (e : ε) (f : β → Except ε γ) : (throw e >>= f) = .error e := rfl

/-- What is refused under a condition goes well otherwise. -/
theorem refused_eq_ok {c : Prop} [Decidable c] {e : ε} {x : Except ε β} {b : β} :
    (if c then .error e else x) = .ok b ↔ ¬c ∧ x = .ok b := by
  split
  · next hc => exact iff_of_false nofun fun h => h.1 hc
  · next hc => exact ⟨fun h => ⟨hc, h⟩, fun h => h.2⟩

theorem eq_ok_of_isOk {x : Except ε Unit} (h : x.isOk = true) : x = .ok () := by
  cases x with
  | error e => cases h
  | ok u => rfl

end RpcPipeline
