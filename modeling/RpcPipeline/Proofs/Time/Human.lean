import Mathlib.Tactic.Ring
import RpcPipeline.Time.Human

/-!
# `RpcPipeline.Proofs.Time.Human`: durations are read as they are written

A duration is written in parts, each a number and a word, and read as a sum, one character at
a time. Every part is read as what it is worth (`foldlM_part`, `closeSpan_eq`), so a text is
read as the sum of its parts (`foldlM_parts`), and the parts of a duration add up to it
(`sum_worth_parts`). The numbers on the way stay within 64 bits, since none is greater than
the whole.

* `parse?_render`: a duration that is written is read as the same.
-/

set_option autoImplicit false

namespace RpcPipeline.Human

open RpcPipeline.Text (isBlank)

/-! ### Numbers -/

theorem fit_of_lt {n : Nat} (h : n < limit) : fit n = some n := if_pos h

theorem digit?_digitChar : ∀ d < 10, digit? (Nat.digitChar d) = some d := by decide

/-- The digits of a number are read as the number. -/
theorem foldlM_digits (total : Option Nanos) {n : Nat} (hn : n < limit) :
    (Nat.toDigits 10 n).foldlM Reading.step (.between total) =
      some (.whole (total.getD 0) n) := by
  -- By the number: the digits before the last one are those of a tenth of it.
  induction n using Nat.strongRecOn with
  | ind n ih =>
    rw [Nat.toDigits_eq_if (by decide)]
    split
    · next hlt =>
      simp [List.foldlM, Reading.step, digit?_digitChar n hlt]
    · next hle =>
      have hdigit := digit?_digitChar (n % 10) (Nat.mod_lt n (by decide))
      have hnumber : 10 * (n / 10) + n % 10 = n := Nat.div_add_mod n 10
      rw [List.foldlM_append, ih (n / 10) (by omega) (by omega)]
      simp [List.foldlM, Reading.step, hdigit, hnumber, fit_of_lt hn]

/-! ### Words -/

/-- A character that goes on with a word. -/
def Spells (c : Char) : Prop := digit? c = none ∧ isBlank c = false ∧ isUnitLetter c = true

instance (c : Char) : Decidable (Spells c) := inferInstanceAs (Decidable (_ ∧ _))

/-- Letters are collected. -/
theorem foldlM_letters (total : Nanos) (n : Nat) (f : Option Fraction) {cs : List Char}
    (h : ∀ c ∈ cs, Spells c) (letters : List Char) :
    cs.foldlM Reading.step (.unit total n f letters) =
      some (.unit total n f (cs.reverse ++ letters)) := by
  induction cs generalizing letters with
  | nil => rfl
  | cons c cs ih =>
    obtain ⟨hdigit, hblank, hletter⟩ := h c List.mem_cons_self
    have hstep : Reading.step (.unit total n f letters) c =
        some (.unit total n f (c :: letters)) := by
      simp [Reading.step, hdigit, hblank, hletter]
    rw [List.foldlM_cons, hstep]
    show cs.foldlM Reading.step _ = _
    rw [ih fun c' hc' => h c' (List.mem_cons_of_mem c hc')]
    simp

/-- A word that follows a number is collected. -/
theorem foldlM_word (total : Nanos) (n : Nat) {cs : List Char} (hne : cs ≠ [])
    (h : ∀ c ∈ cs, Spells c) :
    cs.foldlM Reading.step (.whole total n) = some (.unit total n none cs.reverse) := by
  cases cs with
  | nil => exact absurd rfl hne
  | cons c cs =>
    obtain ⟨hdigit, hblank, hletter⟩ := h c List.mem_cons_self
    have hpoint : c ≠ '.' := by
      rintro rfl
      exact absurd hletter (by decide)
    have hstep : Reading.step (.whole total n) c = some (.unit total n none [c]) := by
      simp [Reading.step, hdigit, hblank, hletter, hpoint]
    rw [List.foldlM_cons, hstep]
    show cs.foldlM Reading.step _ = _
    rw [foldlM_letters total n none fun c' hc' => h c' (List.mem_cons_of_mem c hc')]
    simp

/-! ### Parts -/

/-- The length of one unit, by the word for it. -/
def unitOf (word : String) : Nat :=
  match scaleOf? word with
  | some scale => scale.seconds * Nanos.perSecond + scale.nanos
  | none => 0

/-- What a part is worth. -/
def worth (p : Nat × String) : Nat := p.1 * unitOf p.2

theorem sum_worth_cons (p : Nat × String) (ps : List (Nat × String)) :
    ((p :: ps).map worth).sum = worth p + (ps.map worth).sum := by
  rw [List.map_cons, List.sum_cons]

/-- A part as it is written. -/
def spell (p : Nat × String) : List Char := (toString p.1 ++ p.2).toList

/-- A part that is read as what it is worth: the word is one for a unit, and the number is not
too large for it. -/
structure Legible (p : Nat × String) : Prop where
  lt_limit : p.1 < limit
  ne_nil : p.2.toList ≠ []
  spells : ∀ c ∈ p.2.toList, Spells c
  scale : ∃ scale, scaleOf? p.2 = some scale ∧ p.1 * scale.nanos < Nanos.perSecond

/-- Adding to a duration what leaves it within 64 bits of seconds is adding. -/
theorem addSpan_eq {total seconds nanos : Nat} (hnanos : nanos < Nanos.perSecond)
    (h : total + seconds * Nanos.perSecond + nanos ≤ Nanos.longest) :
    addSpan total seconds nanos = some (total + seconds * Nanos.perSecond + nanos) := by
  simp only [Nanos.longest, Nanos.perSecond, UInt64.size] at *
  have hbelow : fit (total % 1000000000 + nanos) = some (total % 1000000000 + nanos) :=
    fit_of_lt (by rw [limit, UInt64.size]; omega)
  have hwhole : fit (total / 1000000000 + seconds + (total % 1000000000 + nanos) / 1000000000) =
      some (total / 1000000000 + seconds + (total % 1000000000 + nanos) / 1000000000) :=
    fit_of_lt (by rw [limit, UInt64.size]; omega)
  simp only [addSpan, Nanos.perSecond, hbelow, hwhole, Option.bind_eq_bind, Option.bind_some]
  refine congrArg (α := Nat) some ?_
  omega

/-- The end of a part adds what it is worth. -/
theorem closeSpan_eq {p : Nat × String} (h : Legible p) {total : Nat}
    (hsum : total + worth p ≤ Nanos.longest) :
    closeSpan total p.1 none p.2.toList.reverse = some (total + worth p) := by
  obtain ⟨scale, hscale, hnanos⟩ := h.scale
  have hworth : worth p = p.1 * scale.seconds * Nanos.perSecond + p.1 * scale.nanos := by
    rw [worth, unitOf, hscale, Nat.mul_add, Nat.mul_assoc]
  rw [hworth, ← Nat.add_assoc] at hsum ⊢
  have hseconds : fit (p.1 * scale.seconds) = some (p.1 * scale.seconds) := by
    refine fit_of_lt ?_
    simp only [Nanos.longest, Nanos.perSecond, UInt64.size, limit] at hsum ⊢
    omega
  have hsmall : fit (p.1 * scale.nanos) = some (p.1 * scale.nanos) := by
    refine fit_of_lt (Nat.lt_trans hnanos ?_)
    decide
  simp only [closeSpan, List.reverse_reverse, String.ofList_toList, hscale, addUnits, hseconds,
    hsmall, addSpan_eq hnanos hsum, Option.bind_eq_bind, Option.bind_some]

/-- A part is read up to its last letter. -/
theorem foldlM_part {p : Nat × String} (h : Legible p) (total : Option Nanos) :
    (spell p).foldlM Reading.step (.between total) =
      some (.unit (total.getD 0) p.1 none p.2.toList.reverse) := by
  rw [spell, String.toList_append, Nat.toString_eq_repr, Nat.toList_repr, List.foldlM_append,
    foldlM_digits total h.lt_limit]
  exact foldlM_word _ _ h.ne_nil h.spells

/-- Parts with a blank between any two are read as their sum. -/
theorem foldlM_parts {ps : List (Nat × String)} (hne : ps ≠ []) (h : ∀ p ∈ ps, Legible p)
    (total : Option Nat) (hsum : total.getD 0 + (ps.map worth).sum ≤ Nanos.longest) :
    (([' '].intercalate (ps.map spell)).foldlM Reading.step (.between total)).bind
        Reading.finish = some (total.getD 0 + (ps.map worth).sum) := by
  induction ps generalizing total with
  | nil => exact absurd rfl hne
  | cons p ps ih =>
    have hp := h p List.mem_cons_self
    rw [sum_worth_cons] at hsum
    have hclose : closeSpan (total.getD 0) p.1 none p.2.toList.reverse =
        some (total.getD 0 + worth p) := closeSpan_eq hp (by omega)
    cases ps with
    | nil =>
      simp only [List.map_cons, List.map_nil, List.intercalate_singleton, foldlM_part hp total,
        Option.bind_some, List.sum_cons, List.sum_nil, Nat.add_zero]
      exact hclose
    | cons p' ps =>
      -- The blank ends the first part, and the sum goes on from there.
      have hblank : Reading.step (.unit (total.getD 0) p.1 none p.2.toList.reverse) ' ' =
          some (.between (some (total.getD 0 + worth p))) := by
        have hdigit : digit? ' ' = none := by decide
        have hspace : isBlank ' ' = true := by decide
        simp [Reading.step, hdigit, hspace, hclose]
      have hrest := ih (List.cons_ne_nil p' ps)
        (fun p'' hp'' => h p'' (List.mem_cons_of_mem p hp'')) (some (total.getD 0 + worth p)) (by
          rw [Option.getD_some]
          omega)
      rw [List.map_cons, List.map_cons, List.intercalate_cons_cons, ← List.map_cons,
        List.foldlM_append, List.foldlM_append, foldlM_part hp total]
      simp only [Option.bind_eq_bind, Option.bind_some, List.foldlM_cons, List.foldlM_nil, hblank,
        Option.pure_def]
      rw [hrest, Option.getD_some, sum_worth_cons p, Nat.add_assoc]

/-! ### The parts of a duration -/

/-- The words that durations are written with, and their units in seconds and nanoseconds. -/
def words : List (String × Nat × Nat) :=
  [ ("year", 31557600, 0), ("years", 31557600, 0), ("month", 2630016, 0), ("months", 2630016, 0),
    ("day", 86400, 0), ("days", 86400, 0), ("h", 3600, 0), ("m", 60, 0), ("s", 1, 0),
    ("ms", 0, 1000000), ("us", 0, 1000), ("ns", 0, 1) ]

/-- These words are read as these units. -/
theorem scaleOf?_words :
    ∀ entry ∈ words, ∃ f, scaleOf? entry.1 = some ⟨entry.2.1, entry.2.2, f⟩ := by
  simp only [words, List.forall_mem_cons, List.not_mem_nil, false_implies, implies_true, and_true]
  exact ⟨⟨_, rfl⟩, ⟨_, rfl⟩, ⟨_, rfl⟩, ⟨_, rfl⟩, ⟨_, rfl⟩, ⟨_, rfl⟩, ⟨_, rfl⟩, ⟨_, rfl⟩, ⟨_, rfl⟩,
    ⟨_, rfl⟩, ⟨_, rfl⟩, ⟨_, rfl⟩⟩

theorem spells_words :
    ∀ entry ∈ words, entry.1.toList ≠ [] ∧ ∀ c ∈ entry.1.toList, Spells c := by
  have hall : words.all (fun entry => !entry.1.toList.isEmpty &&
      entry.1.toList.all (Spells ·)) = true := by
    decide
  intro entry hentry
  simpa using List.all_eq_true.mp hall entry hentry

section

variable {word : String} {unit : Nat}

/-- A number of units from seconds on is legible if the number fits in 64 bits. -/
theorem legible_large (h : (word, unit, 0) ∈ words) {n : Nat} (hn : n < limit) :
    Legible (n, word) := by
  obtain ⟨f, hscale⟩ := scaleOf?_words _ h
  refine ⟨hn, (spells_words _ h).1, (spells_words _ h).2, _, hscale, ?_⟩
  rw [Nat.mul_zero]
  decide

/-- A number of units below the second is legible if it is less than a second. -/
theorem legible_small (h : (word, 0, unit) ∈ words) {n : Nat} (hn : n < 1000)
    (hsum : n * unit < Nanos.perSecond) : Legible (n, word) := by
  obtain ⟨f, hscale⟩ := scaleOf?_words _ h
  exact ⟨Nat.lt_trans hn (by decide), (spells_words _ h).1, (spells_words _ h).2, _, hscale, hsum⟩

theorem unitOf_of_mem {seconds nanos : Nat} (h : (word, seconds, nanos) ∈ words) :
    unitOf word = seconds * Nanos.perSecond + nanos := by
  obtain ⟨f, hscale⟩ := scaleOf?_words _ h
  rw [unitOf, hscale]

theorem worth_large (h : (word, unit, 0) ∈ words) (n : Nat) :
    worth (n, word) = n * unit * Nanos.perSecond := by
  rw [worth, unitOf_of_mem h, Nat.add_zero, Nat.mul_assoc]

theorem worth_small (h : (word, 0, unit) ∈ words) (n : Nat) : worth (n, word) = n * unit := by
  rw [worth, unitOf_of_mem h, Nat.zero_mul, Nat.zero_add]

/-- What holds of a word with and without an `s` holds of years, months and days. -/
theorem plural {P : Nat × String → Prop} {n : Nat} (h : P (n, word)) (hs : P (n, word ++ "s")) :
    P (n, if 1 < n then word ++ "s" else word) := by
  split
  · exact hs
  · exact h

theorem worth_plural (h : (word, unit, 0) ∈ words) (hs : (word ++ "s", unit, 0) ∈ words)
    (n : Nat) :
    worth (n, if 1 < n then word ++ "s" else word) = n * unit * Nanos.perSecond :=
  plural (P := fun p => worth p = n * unit * Nanos.perSecond) (worth_large h n) (worth_large hs n)

end

/-- The parts of a duration are legible. -/
theorem legible_parts {span : Nat} (h : span ≤ Nanos.longest) :
    ∀ p ∈ parts span, Legible p := by
  have hseconds : span / 1000000000 < limit := by
    simp only [Nanos.longest, Nanos.perSecond, UInt64.size, limit] at h ⊢
    omega
  have hnanos : span % 1000000000 < 1000000000 := Nat.mod_lt _ (by decide)
  simp only [parts, List.forall_mem_cons, List.not_mem_nil, false_implies, implies_true, and_true,
    Nanos.perSecond]
  refine ⟨plural ?_ ?_, plural ?_ ?_, plural ?_ ?_, ?_, ?_, ?_, ?_, ?_, ?_⟩
  · exact legible_large (by decide : ("year", 31557600, 0) ∈ words) (by omega)
  · exact legible_large (by decide : ("years", 31557600, 0) ∈ words) (by omega)
  · exact legible_large (by decide : ("month", 2630016, 0) ∈ words) (by omega)
  · exact legible_large (by decide : ("months", 2630016, 0) ∈ words) (by omega)
  · exact legible_large (by decide : ("day", 86400, 0) ∈ words) (by omega)
  · exact legible_large (by decide : ("days", 86400, 0) ∈ words) (by omega)
  · exact legible_large (by decide : ("h", 3600, 0) ∈ words) (by omega)
  · exact legible_large (by decide : ("m", 60, 0) ∈ words) (by omega)
  · exact legible_large (by decide : ("s", 1, 0) ∈ words) (by omega)
  · exact legible_small (by decide : ("ms", 0, 1000000) ∈ words) (by omega)
      (by rw [Nanos.perSecond]; omega)
  · exact legible_small (by decide : ("us", 0, 1000) ∈ words) (by omega)
      (by rw [Nanos.perSecond]; omega)
  · exact legible_small (by decide : ("ns", 0, 1) ∈ words) (by omega)
      (by rw [Nanos.perSecond]; omega)

/-- A number of seconds is the sum of the years, months, days, hours, minutes and seconds in
it. -/
theorem seconds_eq (n : Nat) :
    n / 31557600 * 31557600 + n % 31557600 / 2630016 * 2630016 +
      n % 31557600 % 2630016 / 86400 * 86400 + n % 31557600 % 2630016 % 86400 / 3600 * 3600 +
      n % 31557600 % 2630016 % 86400 % 3600 / 60 * 60 +
      n % 31557600 % 2630016 % 86400 % 60 = n := by
  omega

/-- A number of nanoseconds is the sum of the parts down from milliseconds. -/
theorem nanos_eq (n : Nat) :
    n / 1000000 * 1000000 + n / 1000 % 1000 * 1000 + n % 1000 = n := by
  omega

/-- Seconds and nanoseconds, each in parts, add up to the whole. -/
theorem sum_eq {years months days hours minutes secs millis micros nanos whole below span : Nat}
    (second : Nat)
    (hwhole : years * 31557600 + months * 2630016 + days * 86400 + hours * 3600 +
      minutes * 60 + secs = whole)
    (hbelow : millis * 1000000 + micros * 1000 + nanos = below)
    (hspan : whole * second + below = span) :
    years * 31557600 * second + (months * 2630016 * second + (days * 86400 * second +
      (hours * 3600 * second + (minutes * 60 * second + (secs * 1 * second +
        (millis * 1000000 + (micros * 1000 + (nanos * 1 + 0)))))))) = span := by
  subst hwhole hbelow hspan
  ring

/-- The parts of a duration add up to it. -/
theorem sum_worth_parts (span : Nat) : ((parts span).map worth).sum = span := by
  rw [parts, sum_worth_cons, worth_plural (by decide : ("year", 31557600, 0) ∈ words) (by decide),
    sum_worth_cons, worth_plural (by decide : ("month", 2630016, 0) ∈ words) (by decide),
    sum_worth_cons, worth_plural (by decide : ("day", 86400, 0) ∈ words) (by decide),
    sum_worth_cons, worth_large (by decide : ("h", 3600, 0) ∈ words),
    sum_worth_cons, worth_large (by decide : ("m", 60, 0) ∈ words),
    sum_worth_cons, worth_large (by decide : ("s", 1, 0) ∈ words),
    sum_worth_cons, worth_small (by decide : ("ms", 0, 1000000) ∈ words),
    sum_worth_cons, worth_small (by decide : ("us", 0, 1000) ∈ words),
    sum_worth_cons, worth_small (by decide : ("ns", 0, 1) ∈ words), List.map_nil, List.sum_nil]
  exact sum_eq _ (seconds_eq _) (nanos_eq _) (Nat.div_add_mod' span _)

/-- Parts that are zero are worth nothing. -/
theorem sum_worth_filter (ps : List (Nat × String)) :
    ((ps.filter (·.1 ≠ 0)).map worth).sum = (ps.map worth).sum := by
  induction ps with
  | nil => rfl
  | cons p ps ih =>
    rw [List.filter_cons]
    by_cases hp : p.1 = 0
    · rw [if_neg (by simpa using hp), ih, sum_worth_cons, worth, hp, Nat.zero_mul, Nat.zero_add]
    · rw [if_pos (by simpa using hp), sum_worth_cons, sum_worth_cons, ih]

/-- A duration that is written is read as the same. -/
theorem parse?_render {span : Nat} (h : span ≤ Nanos.longest) :
    parse? (render span) = some span := by
  by_cases hzero : span = 0
  · -- Zero has no parts, and is written as no seconds.
    rw [hzero]
    decide
  have hsum : (((parts span).filter (·.1 ≠ 0)).map worth).sum = span := by
    rw [sum_worth_filter, sum_worth_parts]
  have hne : (parts span).filter (·.1 ≠ 0) ≠ [] := by
    intro hnil
    rw [hnil] at hsum
    exact hzero hsum.symm
  have hread := foldlM_parts hne (fun p hp => legible_parts h p (List.mem_filter.mp hp).1) none
    (by rw [hsum, Option.getD_none, Nat.zero_add]; exact h)
  rw [hsum, Option.getD_none, Nat.zero_add] at hread
  have htext : (render span).toList =
      [' '].intercalate (((parts span).filter (·.1 ≠ 0)).map spell) := by
    rw [render, if_neg hzero, String.toList_intercalate, List.map_map]
    rfl
  have hnot : render span ≠ "0" := by
    intro heq
    rw [← htext, heq] at hread
    cases hread
  rw [parse?, if_neg hnot, htext]
  exact hread

end RpcPipeline.Human
