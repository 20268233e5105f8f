import RpcPipeline.Call.Response
import Mathlib.Data.List.Basic

/-!
# `RpcPipeline.Proofs.Call.Reception`: a response is closed once

A response is in the hands of a caller who registers hooks, detaches the body, reads it in
parts or as a whole, closes it or drops it, in any order. However that goes, the hooks run when
the response or its body comes to an end, and then all of them do, each once and in order.

* `Body.hooks`, `Body.content`: what is left of a body, with a lemma for each operation.
* `Body.Reads`: what chunks come to if they are read as a whole.
* `Reception.Act`, `Reception.run`: what a caller can do.
* `Reception.Holds`, `Holds.step`, `Holds.step_end`: what one act does.
* `run_closesOnce`: after any acts either no hook has run or all have.
-/

set_option autoImplicit false

namespace RpcPipeline

variable {η : Type}

/-! ### Bodies -/

namespace Body

/-- The hooks registered with a body, in order. -/
def hooks (b : Body η) : List η := (b.closing.map Closing.run).getD []

/-- What is left to read. -/
def content (b : Body η) : List Chunk := b.stream.getD []

@[simp] theorem hooks_onClose (b : Body η) (hook : η) :
    (b.onClose hook).hooks = b.hooks ++ [hook] := by
  obtain ⟨stream, closing⟩ := b
  cases closing <;> rfl

@[simp] theorem content_onClose (b : Body η) (hook : η) :
    (b.onClose hook).content = b.content := by
  obtain ⟨stream, closing⟩ := b
  cases closing <;> rfl

@[simp] theorem hooks_foldl_onClose (b : Body η) (hooks : List η) :
    (hooks.foldl onClose b).hooks = b.hooks ++ hooks := by
  induction hooks generalizing b with
  | nil => exact (List.append_nil _).symm
  | cons hook hooks ih => rw [List.foldl_cons, ih, hooks_onClose, List.append_assoc]; rfl

@[simp] theorem content_foldl_onClose (b : Body η) (hooks : List η) :
    (hooks.foldl onClose b).content = b.content := by
  induction hooks generalizing b with
  | nil => rfl
  | cons hook hooks ih => rw [List.foldl_cons, ih, content_onClose]

theorem next_eq (b : Body η) : b.next.1 = b.content.head? := by
  obtain ⟨_ | _ | ⟨chunk, rest⟩, closing⟩ := b <;> rfl

@[simp] theorem content_next (b : Body η) : b.next.2.content = b.content.tail := by
  obtain ⟨_ | _ | ⟨chunk, rest⟩, closing⟩ := b <;> rfl

@[simp] theorem hooks_next (b : Body η) : b.next.2.hooks = b.hooks := by
  obtain ⟨_ | _ | ⟨chunk, rest⟩, closing⟩ := b <;> rfl

theorem release_eq (b : Body η) : b.release = (b.hooks, ⟨none, none⟩) := rfl

@[simp] theorem drop_eq (b : Body η) : b.drop = b.hooks := rfl

/-- The drop that follows finds no hooks. -/
@[simp] theorem close_eq (b : Body η) : b.close = b.hooks := by
  rw [close, release_eq]
  exact List.append_nil _

/-- Whether it breaks or not, a body that is read as a whole runs its hooks. -/
theorem consume_eq (b : Body η) : b.consume = (collect b.content, b.hooks) := by
  have hread : b.read = collect b.content := rfl
  rw [← hread]
  unfold consume
  split
  · next text hcollect => rw [hcollect, close_eq]
  · next message hcollect => rw [hcollect, drop_eq]

/-- Chunks that are read as a whole come to their text, or to the first break. -/
inductive Reads : List Chunk → Except String String → Prop where
  | whole (texts : List String) : Reads (texts.map .data) (.ok (String.join texts))
  | broken (texts : List String) (message : String) (rest : List Chunk) :
    Reads (texts.map .data ++ .broken message :: rest) (.error message)

theorem reads_collect (chunks : List Chunk) : Reads chunks (collect chunks) := by
  induction chunks with
  | nil => exact .whole []
  | cons chunk chunks ih =>
    cases chunk with
    | broken message => exact .broken [] message chunks
    | data text =>
      rw [collect]
      generalize collect chunks = result at ih
      cases ih with
      | whole texts =>
        rw [Except.map, ← String.join_cons]
        exact .whole (text :: texts)
      | broken texts message rest => exact .broken (text :: texts) message rest

end Body

/-! ### What a caller can do -/

namespace Reception

/-- Something that a caller does with a response or its body. -/
inductive Act (η : Type) where
  | onClose (hook : η)
  | intoBody
  | next
  | read
  | close
  | drop

namespace Act

/-- The hook that is registered. -/
def hook? : Act η → Option η
  | .onClose hook => some hook
  | _ => none

/-- Whether the body is detached from here on. -/
def detaches : Act η → Bool
  | .intoBody => true
  | _ => false

/-- Whether the act is the end of what is held. A body that is detached again is dropped. -/
def ends (detached : Bool) : Act η → Bool
  | .read | .close | .drop => true
  | .intoBody => detached
  | .onClose _ | .next => false

/-- Whether a chunk is taken, for which the body has to be detached. -/
def polls (detached : Bool) : Act η → Bool
  | .next => detached
  | _ => false

/-- Whether one of the acts is the end of a response or its body. -/
def ended : Bool → List (Act η) → Bool
  | _, [] => false
  | detached, act :: acts => act.ends detached || ended (detached || act.detaches) acts

/-- The hooks that are registered before the end, in order. -/
def registered : Bool → List (Act η) → List η
  | _, [] => []
  | detached, act :: acts =>
    if act.ends detached then []
    else act.hook?.toList ++ registered (detached || act.detaches) acts

/-- How many chunks are taken. -/
def polled : Bool → List (Act η) → Nat
  | _, [] => 0
  | detached, act :: acts =>
    (act.polls detached).toNat + polled (detached || act.detaches) acts

/-- Only reading as a whole, closing and dropping are an end, and detaching what is detached. -/
theorem ended_iff (detached : Bool) (acts : List (Act η)) :
    ended detached acts = true ↔
      (∃ act ∈ acts, act.ends false = true) ∨ 2 ≤ detached.toNat + acts.countP detaches := by
  induction acts generalizing detached with
  | nil => cases detached <;> simp [ended]
  | cons act acts ih =>
    rw [ended, Bool.or_eq_true, ih, List.countP_cons, List.exists_mem_cons_iff, or_assoc]
    cases act with
    | onClose hook | next => cases detached <;> simp [ends, detaches]
    | read | close | drop => exact ⟨fun _ => .inl rfl, fun _ => .inl rfl⟩
    | intoBody =>
      cases detached
      · simp [ends, detaches, Nat.add_comm]
      · exact ⟨fun _ => .inr (.inr (by simp [detaches]; omega)), fun _ => .inl rfl⟩

end Act

/-- What comes of an act. -/
def step (r : Reception η) : Act η → Reception η
  | .onClose hook => r.onClose hook
  | .intoBody => r.intoBody
  | .next => r.next.2
  | .read => r.read.2
  | .close => r.close
  | .drop => r.letGo

/-- Acts one after the other. -/
def run (r : Reception η) (acts : List (Act η)) : Reception η := acts.foldl step r

/-! ### One act -/

/-- A response is held, or its detached body. -/
inductive Holds : Reception η → Bool → Body η → Prop where
  | response (resp : Response η) (ran : List η) : Holds ⟨.response resp, ran⟩ false resp.body
  | body (b : Body η) (ran : List η) : Holds ⟨.body b, ran⟩ true b

variable {r : Reception η} {detached : Bool} {b : Body η}

theorem Holds.body? (h : Holds r detached b) : r.body? = some b := by cases h <;> rfl

/-- An act that is not the end runs no hook. -/
theorem Holds.step (h : Holds r detached b) {act : Act η} (hends : act.ends detached = false) :
    (r.step act).ran = r.ran ∧ ∃ b', Holds (r.step act) (detached || act.detaches) b' ∧
      b'.hooks = b.hooks ++ act.hook?.toList ∧
      b'.content = b.content.drop (act.polls detached).toNat := by
  cases act with
  | onClose hook =>
    cases h with
    | response resp ran =>
      exact ⟨rfl, _, .response _ _, Body.hooks_onClose _ hook, Body.content_onClose _ hook⟩
    | body b ran =>
      exact ⟨rfl, _, .body _ _, Body.hooks_onClose _ hook, Body.content_onClose _ hook⟩
  | intoBody =>
    cases h with
    | response resp ran => exact ⟨rfl, _, .body _ _, (List.append_nil _).symm, rfl⟩
    | body b ran => cases hends
  | next =>
    cases h with
    | response resp ran => exact ⟨rfl, _, .response _ _, (List.append_nil _).symm, rfl⟩
    | body b ran =>
      refine ⟨rfl, b.next.2, .body _ _, ?_, ?_⟩
      · rw [Body.hooks_next]
        exact (List.append_nil _).symm
      · rw [Body.content_next]
        exact List.drop_one.symm
  | read | close | drop => cases hends

/-- The act that is the end runs all hooks. -/
theorem Holds.step_end (h : Holds r detached b) {act : Act η} (hends : act.ends detached = true) :
    r.step act = ⟨.nothing, r.ran ++ b.hooks⟩ := by
  cases act with
  | onClose hook | next => cases hends
  | intoBody => cases h with
    | response resp ran => cases hends
    | body b ran => rfl
  | read =>
    change (⟨.nothing, r.ran ++ ((r.body?.map Body.consume).map (·.2)).getD []⟩ : Reception η) = _
    rw [h.body?, Option.map_some, Body.consume_eq]
    rfl
  | close =>
    rw [Reception.step, close, h.body?, Option.map_some, Body.close_eq]
    rfl
  | drop =>
    rw [Reception.step, letGo, h.body?]
    rfl

/-- Nothing comes of an act if nothing is held. -/
theorem step_nothing (ran : List η) (act : Act η) :
    (⟨.nothing, ran⟩ : Reception η).step act = ⟨.nothing, ran⟩ := by
  cases act with
  | onClose hook | next => rfl
  | intoBody | read | close | drop =>
    exact congrArg (Reception.mk Hold.nothing) (List.append_nil ran)

/-! ### Any acts -/

theorem run_nothing (ran : List η) (acts : List (Act η)) :
    (⟨.nothing, ran⟩ : Reception η).run acts = ⟨.nothing, ran⟩ := by
  induction acts with
  | nil => rfl
  | cons act acts ih =>
    rw [run, List.foldl_cons, step_nothing]
    exact ih

/-- As long as there is no end no hook runs. -/
theorem Holds.run (h : Holds r detached b) (acts : List (Act η))
    (hended : Act.ended detached acts = false) :
    (r.run acts).ran = r.ran ∧ ∃ b', Holds (r.run acts) (detached || acts.any Act.detaches) b' ∧
      b'.content = b.content.drop (Act.polled detached acts) := by
  induction acts generalizing r detached b with
  | nil =>
    refine ⟨rfl, b, ?_, rfl⟩
    rw [List.any_nil, Bool.or_false]
    exact h
  | cons act acts ih =>
    obtain ⟨hact, hacts⟩ := Bool.or_eq_false_iff.mp hended
    obtain ⟨hran, b₁, hholds₁, -, hcontent₁⟩ := h.step hact
    obtain ⟨hran', b', hholds, hcontent⟩ := ih hholds₁ hacts
    refine ⟨hran'.trans hran, b', ?_, ?_⟩
    · rw [List.any_cons, ← Bool.or_assoc]
      exact hholds
    · rw [hcontent, hcontent₁, List.drop_drop]
      rfl

/-- After an end all hooks have run that were registered until then, whatever is done besides. -/
theorem Holds.run_end (h : Holds r detached b) (acts : List (Act η))
    (hended : Act.ended detached acts = true) :
    r.run acts = ⟨.nothing, r.ran ++ (b.hooks ++ Act.registered detached acts)⟩ := by
  induction acts generalizing r detached b with
  | nil => cases hended
  | cons act acts ih =>
    have hrun : r.run (act :: acts) = (r.step act).run acts := rfl
    rw [hrun, Act.registered]
    cases hact : act.ends detached with
    | true => rw [h.step_end hact, run_nothing, if_pos rfl, List.append_nil]
    | false =>
      rw [Act.ended, hact, Bool.false_or] at hended
      obtain ⟨hran, b₁, hholds₁, hhooks₁, -⟩ := h.step hact
      rw [ih hholds₁ hended, hran, hhooks₁, List.append_assoc b.hooks]
      rfl

/-! ### A response -/

/-- A response just received, with a body that may have a stream and hooks. -/
def received (status : Nat) (headers : Headers) (stream : Option (List Chunk)) (hooks : List η) :
    Reception η :=
  ofResponse ⟨status, headers, hooks.foldl Body.onClose ⟨stream, none⟩⟩

/-- What has become of a response with given content and hooks after some acts. -/
structure ClosesOnce (content : List Chunk) (hooks : List η) (acts : List (Act η))
    (r : Reception η) : Prop where
  /-- No hook runs before the end, and there all run, each once and in order. -/
  ran : r.ran = if Act.ended false acts then hooks ++ Act.registered false acts else []
  /-- The end is when nothing is held any more. -/
  held : r.body?.isSome = !Act.ended false acts
  /-- Until then one chunk after the other is to be had from a detached body, -/
  next : Act.ended false acts = false → r.next.1 =
    if acts.any Act.detaches then some (content.drop (Act.polled false acts)).head? else none
  /-- which runs no hook, be it the last or a break, -/
  polling : r.next.2.ran = r.ran
  /-- and so are all that are left as a whole. -/
  read : Act.ended false acts = false → ∃ result, r.read.1 = some result ∧
    Body.Reads (content.drop (Act.polled false acts)) result
  /-- Afterwards there is nothing to be had. -/
  afterwards : Act.ended false acts = true → r.next.1 = none ∧ r.read.1 = none

theorem Holds.next (h : Holds r detached b) :
    r.next.1 = if detached then some b.content.head? else none := by
  cases h with
  | response resp ran => rfl
  | body b ran => exact congrArg some b.next_eq

theorem ran_next (r : Reception η) : r.next.2.ran = r.ran := by
  obtain ⟨_ | _ | _, ran⟩ := r <;> rfl

/-- Whatever a caller does with a response and its body, either no hook has run, or all have
that were registered, each once and in order. They have run if and only if the response or
its body has been read as a whole, closed or dropped. -/
theorem run_closesOnce (status : Nat) (headers : Headers) (stream : Option (List Chunk))
    (hooks : List η) (acts : List (Act η)) :
    ClosesOnce (stream.getD []) hooks acts ((received status headers stream hooks).run acts) := by
  have hholds : Holds (received status headers stream hooks) false
      (hooks.foldl Body.onClose ⟨stream, none⟩) := .response _ _
  have hcontent : (hooks.foldl Body.onClose (⟨stream, none⟩ : Body η)).content =
      stream.getD [] := Body.content_foldl_onClose _ hooks
  have hhooks : (hooks.foldl Body.onClose (⟨stream, none⟩ : Body η)).hooks = hooks :=
    Body.hooks_foldl_onClose _ hooks
  cases hended : Act.ended false acts with
  | true =>
    rw [hholds.run_end acts hended, hhooks]
    exact ⟨(if_pos hended).symm, by rw [hended]; rfl, fun hopen => (by cases hended ▸ hopen), rfl,
      fun hopen => (by cases hended ▸ hopen), fun _ => ⟨rfl, rfl⟩⟩
  | false =>
    obtain ⟨hran, b, hb, hleft⟩ := hholds.run acts hended
    rw [Bool.false_or] at hb
    rw [hcontent] at hleft
    refine ⟨?_, ?_, fun _ => ?_, ran_next _, fun _ => ?_, fun hclosed => ?_⟩
    · rw [hran, hended]
      rfl
    · rw [hb.body?, hended]
      rfl
    · rw [hb.next, hleft]
    · refine ⟨Body.collect b.content, ?_, hleft ▸ Body.reads_collect b.content⟩
      rw [Reception.read, hb.body?, Option.map_some, Body.consume_eq]
      rfl
    · rw [hended] at hclosed
      cases hclosed

/-- A body that breaks while it is read as a whole runs its hooks like any other. -/
example :
    ((received 200 [] (some [.data "a", .broken "reset"]) ["free", "log"]).run
      [.intoBody, .next, .onClose "count", .read, .drop]).ran = ["free", "log", "count"] := rfl

end Reception

end RpcPipeline
