import Mathlib.Data.List.InsertIdx
import Mathlib.Data.List.TakeWhile
import RpcPipeline.Proofs.Except
import RpcPipeline.Proofs.Text.Percent
import RpcPipeline.Uri.Target

/-!
# `RpcPipeline.Proofs.Uri.Plain`: schemes and names hold no separators

A base address consists of a scheme, a host and a port, and an identity of a base address and
perhaps an address. The characters that stand between these parts (`separators`) occur neither
in a scheme nor in the name of a host, however the URL was written: escapes are read before a
name is looked at, characters that are not allowed are looked for after folding, and the ASCII
form of a label brings in letters and digits alone.

* `Lacks`, `Plain`: a text without certain characters, or without separators.
* `Punycode.decode?_plain`, `Punycode.encode_plain`, `Domain.toAscii?_plain`: domain names.
* `Url.parse_reads`: how the host of a URL was read.
* `Url.parse_plain`: schemes and names of a URL.
-/

set_option autoImplicit false

namespace RpcPipeline

/-- The characters that separate the parts of a base address or an identity. -/
def separators : List Char := [':', '/', '@', '[', ']']

/-- A text without certain characters. -/
def Lacks (excluded cs : List Char) : Prop := ∀ c ∈ cs, c ∉ excluded

instance (excluded cs : List Char) : Decidable (Lacks excluded cs) := List.decidableBAll _ cs

/-- A text without separators. -/
abbrev Plain (cs : List Char) : Prop := Lacks separators cs

/-! ### Texts in general -/

section

variable {excluded cs ds : List Char}

theorem lacks_nil : Lacks excluded [] := nofun

theorem Lacks.append (h : Lacks excluded cs) (h' : Lacks excluded ds) :
    Lacks excluded (cs ++ ds) :=
  fun c hc => (List.mem_append.mp hc).elim (h c) (h' c)

theorem Lacks.subset (h : Lacks excluded cs) (hsub : ds ⊆ cs) : Lacks excluded ds :=
  fun c hc => h c (hsub hc)

/-- What lacks characters lacks some of them. -/
theorem Lacks.mono {fewer : List Char} (h : Lacks excluded cs) (hsub : fewer ⊆ excluded) :
    Lacks fewer cs :=
  fun c hc hmem => h c hc (hsub hmem)

/-- What is written between texts is all that is added to them. -/
theorem Lacks.intercalate {between : List Char} (hbetween : Lacks excluded between)
    {texts : List (List Char)} (h : ∀ text ∈ texts, Lacks excluded text) :
    Lacks excluded (between.intercalate texts) := by
  induction texts with
  | nil => exact lacks_nil
  | cons first rest ih =>
    have hfirst := h first List.mem_cons_self
    have hrest := ih fun text htext => h text (List.mem_cons_of_mem first htext)
    cases rest with
    | nil =>
      rw [List.intercalate_singleton]
      exact hfirst
    | cons second rest =>
      rw [List.intercalate_cons_cons]
      exact (hfirst.append hbetween).append hrest

end

/-- What holds of all separators, one by one. -/
theorem forall_separators {p : Char → Prop} :
    (∀ c ∈ separators, p c) ↔ p ':' ∧ p '/' ∧ p '@' ∧ p '[' ∧ p ']' := by
  simp [separators]

/-- Letters and digits are no separators. -/
theorem not_mem_separators_of_isAlphanum {c : Char} (h : c.isAlphanum = true) :
    c ∉ separators := by
  intro hmem
  have hnone : ∀ c ∈ separators, c.isAlphanum = false := forall_separators.mpr (by decide)
  rw [hnone c hmem] at h
  cases h

/-- Neither are characters outside ASCII. -/
theorem not_mem_separators_of_le {c : Char} (h : 128 ≤ c.toNat) : c ∉ separators := by
  intro hmem
  have hascii : ∀ c ∈ separators, c.toNat < 128 := forall_separators.mpr (by decide)
  exact absurd (hascii c hmem) (Nat.not_lt_of_le h)

theorem mem_of_mem_pieces {separates : Char → Bool} {cs piece : List Char} {c : Char}
    (hpiece : piece ∈ Text.pieces separates cs) (hc : c ∈ piece) : c ∈ cs := by
  induction cs generalizing piece with
  | nil =>
    rw [Text.pieces, List.mem_singleton] at hpiece
    rw [hpiece] at hc
    cases hc
  | cons d rest ih =>
    unfold Text.pieces at hpiece
    split at hpiece
    · rw [List.mem_singleton] at hpiece
      rw [hpiece, List.mem_singleton] at hc
      exact hc ▸ List.mem_cons_self
    · next first others heq =>
      split at hpiece
      · rcases List.mem_cons.mp hpiece with rfl | hpiece
        · cases hc
        · exact List.mem_cons_of_mem d (ih (heq ▸ hpiece) hc)
      · rcases List.mem_cons.mp hpiece with rfl | hpiece
        · rcases List.mem_cons.mp hc with rfl | hc
          · exact List.mem_cons_self
          · exact List.mem_cons_of_mem d (ih (heq ▸ List.mem_cons_self) hc)
        · exact List.mem_cons_of_mem d (ih (heq ▸ List.mem_cons_of_mem first hpiece) hc)

theorem exists_of_mem_mapM {β γ : Type} {f : β → Option γ} {l : List β} {l' : List γ}
    (h : l.mapM f = some l') {y : γ} (hy : y ∈ l') : ∃ x ∈ l, f x = some y := by
  induction l generalizing l' with
  | nil =>
    cases h
    cases hy
  | cons x l ih =>
    rw [List.mapM_cons] at h
    obtain ⟨first, hfirst, h⟩ := Option.bind_eq_some_iff.mp h
    obtain ⟨rest, hrest, h⟩ := Option.bind_eq_some_iff.mp h
    cases h
    rcases List.mem_cons.mp hy with rfl | hy
    · exact ⟨x, List.mem_cons_self, hfirst⟩
    · obtain ⟨x', hx', hfx'⟩ := ih hrest hy
      exact ⟨x', List.mem_cons_of_mem x hx', hfx'⟩

/-! ### Labels in ASCII -/

namespace Punycode

theorem digitChar_isAlphanum : ∀ d < 36, (digitChar d).isAlphanum = true := by decide

theorem threshold_le (place bias : Nat) : threshold place bias ≤ 26 := by
  simp only [threshold]
  split
  · decide
  · split <;> omega

theorem digits_plain (number place bias : Nat) : Plain (digits number place bias) := by
  have hdigit : ∀ d < 36, digitChar d ∉ separators := fun d hd =>
    not_mem_separators_of_isAlphanum (digitChar_isAlphanum d hd)
  fun_induction digits number place bias with
  | case1 number place t hlt =>
    have hle := threshold_le place bias
    intro c hc
    rw [List.mem_singleton.mp hc]
    exact hdigit number (by omega)
  | case2 number place t hge ih =>
    have hle := threshold_le place bias
    intro c hc
    rcases List.mem_cons.mp hc with rfl | hc
    · have hmod : (number - t) % (36 - t) < 36 - t := Nat.mod_lt _ (by omega)
      exact hdigit _ (by omega)
    · exact ih c hc

theorem Writing.pass_plain {n basic : Nat} {label : List Char} {w : Writing} (h : Plain w.text) :
    Plain (w.pass n label basic).text := by
  unfold Writing.pass
  induction label generalizing w with
  | nil => exact h
  | cons c label ih =>
    rw [List.foldl_cons]
    refine ih ?_
    split
    · exact h
    · split
      · exact h.append (digits_plain _ _ _)
      · exact h

theorem Writing.run_plain {label : List Char} {basic : Nat} {others : List Nat} {reached : Nat}
    {w : Writing} (h : Plain w.text) : Plain (Writing.run label basic others reached w).text := by
  -- One pass for each character outside ASCII.
  induction others generalizing reached w with
  | nil => exact h
  | cons n rest ih => exact ih (Writing.pass_plain (w := { w with delta := _ }) h)

/-- The ASCII form of a text has its ASCII characters, letters, digits and hyphens. -/
theorem encode_plain {label : List Char} (h : Plain label) : Plain (encode label) := by
  refine Writing.run_plain ?_
  have hascii : Plain (label.filter (·.toNat < 128)) := h.subset List.filter_sublist.subset
  show Plain (if _ then [] else _)
  split
  · exact lacks_nil
  · exact hascii.append (by decide)

/-- What is inserted is outside ASCII. -/
theorem Reading.step_plain {r r' : Reading} {c : Char} (h : Plain r.text ∧ 128 ≤ r.code)
    (hstep : r.step c = some r') : Plain r'.text ∧ 128 ≤ r'.code := by
  obtain ⟨htext, hcode⟩ := h
  obtain ⟨digit, -, hstep⟩ := Option.bind_eq_some_iff.mp hstep
  by_cases hindex : UInt32.size ≤ r.index + digit * r.weight
  · rw [if_pos hindex] at hstep
    cases hstep
  rw [if_neg hindex] at hstep
  by_cases hgoes : threshold r.place r.bias ≤ digit
  · rw [if_pos hgoes] at hstep
    by_cases hweight : UInt32.size ≤ r.weight * (36 - threshold r.place r.bias)
    · rw [if_pos hweight] at hstep
      cases hstep
    · rw [if_neg hweight] at hstep
      cases hstep
      exact ⟨htext, hcode⟩
  · -- The number is complete: its character lies at or above the one before.
    rw [if_neg hgoes] at hstep
    obtain ⟨hvalid, hstep⟩ := Option.dite_none_right_eq_some.mp hstep
    cases hstep
    have hlarge : 128 ≤ r.code + (r.index + digit * r.weight) / (r.text.length + 1) :=
      Nat.le_trans hcode (Nat.le_add_right _ _)
    refine ⟨fun d hd => ?_, hlarge⟩
    rcases List.eq_or_mem_of_mem_insertIdx hd with rfl | hd
    · exact not_mem_separators_of_le hlarge
    · exact htext d hd

theorem foldlM_step_plain {cs : List Char} {r r' : Reading} (h : Plain r.text ∧ 128 ≤ r.code)
    (hfold : cs.foldlM Reading.step r = some r') : Plain r'.text ∧ 128 ≤ r'.code := by
  induction cs generalizing r with
  | nil =>
    cases hfold
    exact h
  | cons c cs ih =>
    rw [List.foldlM_cons] at hfold
    obtain ⟨r₁, hstep, hrest⟩ := Option.bind_eq_some_iff.mp hfold
    exact ih (Reading.step_plain h hstep) hrest

theorem decode?_plain {form text : List Char} (h : Plain form)
    (hdecode : decode? form = some text) : Plain text := by
  simp only [decode?, Option.bind_eq_bind] at hdecode
  split at hdecode
  · cases hdecode
  · split at hdecode
    · cases hdecode
    · obtain ⟨r, hfold, hend⟩ := Option.bind_eq_some_iff.mp hdecode
      have hplain := foldlM_step_plain ⟨h.subset (List.take_subset _ _), Nat.le_refl 128⟩ hfold
      split at hend
      · cases hend
        exact hplain.1
      · cases hend

end Punycode

/-! ### Domain names -/

namespace Label

theorem text?_plain {label text : List Char} (h : Plain label) (htext : text? label = some text) :
    Plain text := by
  unfold text? at htext
  split at htext
  · simp only [Option.bind_eq_bind, Option.bind_none] at htext
    split at htext
    · cases htext
    · obtain ⟨decoded, hdecode, hsound⟩ := Option.bind_eq_some_iff.mp htext
      split at hsound
      · cases hsound
        exact Punycode.decode?_plain (h.subset (List.drop_subset _ _)) hdecode
      · cases hsound
  · split at htext
    · cases htext
      exact h
    · split at htext
      · cases htext
        exact h
      · cases htext

theorem toAscii_plain {text : List Char} (h : Plain text) : Plain (toAscii text) := by
  unfold toAscii
  split
  · exact h
  · exact Lacks.append (by decide) (Punycode.encode_plain h)

end Label

theorem Domain.toAscii?_plain {name domain : List Char} (h : toAscii? name = some domain) :
    Plain domain := by
  simp only [toAscii?, Option.bind_eq_bind, Option.bind_none] at h
  obtain ⟨folded, -, h⟩ := Option.bind_eq_some_iff.mp h
  split at h
  · cases h
  · next hallowed =>
    obtain ⟨texts, htexts, h⟩ := Option.bind_eq_some_iff.mp h
    split at h
    · cases h
    · cases h
      -- Separators are refused after folding, and no label brings them in again.
      have hfolded : Plain folded := by
        intro c hc hmem
        have hdenied : ∀ c ∈ separators, isDenied c = true := forall_separators.mpr (by decide)
        exact hallowed (List.any_eq_true.mpr ⟨c, hc, hdenied c hmem⟩)
      refine Lacks.intercalate (by decide) fun form hform => ?_
      obtain ⟨text, htext, rfl⟩ := List.mem_map.mp hform
      obtain ⟨label, hlabel, htext⟩ := exists_of_mem_mapM htexts htext
      exact Label.toAscii_plain
        (Label.text?_plain (fun c hc => hfolded c (mem_of_mem_pieces hlabel hc)) htext)

/-! ### URLs -/

namespace Url

theorem toLower_not_mem_separators {c : Char} (h : c ∉ separators) : c.toLower ∉ separators := by
  unfold Char.toLower
  split
  · next hupper =>
    -- A letter in lower case comes after all separators.
    intro hmem
    have hsmall : ∀ s ∈ separators, s.toNat < 97 := forall_separators.mpr (by decide)
    have hlt : (c.val + ('a'.val - 'A'.val)).toNat < 97 := hsmall _ hmem
    have hlow : 65 ≤ c.val.toNat := hupper.1
    have hhigh : c.val.toNat ≤ 90 := hupper.2
    have hsum : (c.val + ('a'.val - 'A'.val)).toNat = (c.val.toNat + 32) % 4294967296 :=
      UInt32.toNat_add _ _
    omega
  · exact h

theorem parseScheme?_plain {cs rest : List Char} {scheme : String}
    (h : parseScheme? cs = some (scheme, rest)) : Plain scheme.toList := by
  unfold parseScheme? at h
  dsimp only at h
  split at h
  · split at h
    · cases h
      rw [String.toList_ofList]
      intro c hc
      obtain ⟨d, hd, rfl⟩ := List.mem_map.mp hc
      have hallowed := List.mem_takeWhile_imp hd
      refine toLower_not_mem_separators fun hmem => ?_
      have hdenied : ∀ c ∈ separators,
          (c.isAlphanum || c = '+' || c = '-' || c = '.') = false :=
        forall_separators.mpr (by decide)
      rw [hdenied d hmem] at hallowed
      cases hallowed
    · cases h
  · cases h

theorem parseBracketed_v6 {cs : List Char} {host : UrlHost} (h : parseBracketed cs = .ok host) :
    ∃ groups, host = .address (.v6 groups) := by
  unfold parseBracketed at h
  split at h
  · cases h
    exact ⟨_, rfl⟩
  · cases h

/-- What a special scheme has for a name holds no separator, and is not taken for an address. -/
theorem parseSpecialHost_name {cs : List Char} {name : String}
    (h : parseSpecialHost cs = .ok (.name name)) :
    Plain name.toList ∧ endsInNumber name.toList = false := by
  unfold parseSpecialHost at h
  split at h
  · obtain ⟨groups, hgroups⟩ := parseBracketed_v6 h
    cases hgroups
  · split at h
    · cases h
    · split at h
      · cases h
      · cases h
      · next domain _ hdomain =>
        split at h
        · split at h <;> cases h
        · next hword =>
          cases h
          rw [String.toList_ofList]
          exact ⟨Domain.toAscii?_plain hdomain, Bool.not_eq_true _ ▸ hword⟩

theorem encodeChar_plain {reserved : Char → Bool} {c : Char} (h : c ∉ separators) :
    Plain (Text.Percent.encodeChar reserved c) := by
  have hdigit : ∀ n < 16, Text.Percent.hexDigit n ∉ separators := by decide
  intro d hd
  rcases Text.Percent.mem_encodeChar hd with rfl | ⟨n, hn, rfl⟩ | ⟨rfl, -⟩
  · decide
  · exact hdigit n hn
  · exact h

/-- What any other scheme has for a host is an address in brackets, or a name without
separators. -/
theorem parseOpaqueHost_cases {cs : List Char} {host : UrlHost}
    (h : parseOpaqueHost cs = .ok (some host)) :
    (∃ groups, host = .address (.v6 groups)) ∨ ∃ name, host = .name name ∧ Plain name.toList := by
  unfold parseOpaqueHost at h
  split at h
  · cases h
  · obtain ⟨bracketed, hbracketed, hsome⟩ := map_eq_ok.mp h
    cases hsome
    exact .inl (parseBracketed_v6 hbracketed)
  · split at h
    · cases h
    · next hallowed =>
      cases h
      refine .inr ⟨_, rfl, ?_⟩
      rw [Text.Percent.encode, String.toList_ofList, String.toList_ofList]
      intro d hd
      obtain ⟨c, hc, hd⟩ := List.mem_flatMap.mp hd
      refine encodeChar_plain (fun hmem => hallowed ?_) d hd
      have hdenied : ∀ c ∈ separators,
          (decide (c = '\x00') || " #/:<>?@[\\]^|".toList.contains c) = true :=
        forall_separators.mpr (by decide)
      exact List.any_eq_true.mpr ⟨c, hc, hdenied c hmem⟩

/-- What can be read as the host of a URL, by the kind of its scheme. -/
inductive Reads : Kind → Option UrlHost → Prop where
  | nothing {kind : Kind} : Reads kind none
  | special {kind : Kind} {cs : List Char} {host : UrlHost} (hkind : kind ≠ .other)
      (h : parseSpecialHost cs = .ok host) : Reads kind (some host)
  | other {cs : List Char} {host : Option UrlHost} (h : parseOpaqueHost cs = .ok host) :
      Reads .other host

/-- The host of an authority is read in one of two ways, whatever comes next. -/
theorem exists_reads {kind : Kind} (hkind : kind ≠ .file) {hostText : List Char} {url : Url}
    {next : Option UrlHost → Except UrlError Url}
    (h : (if kind = .web then
        if hostText.isEmpty = true then .error .emptyHost
        else some <$> parseSpecialHost hostText >>= next
      else parseOpaqueHost hostText >>= next) = .ok url) :
    ∃ host, Reads kind host ∧ next host = .ok url := by
  split at h
  · next hweb =>
    obtain ⟨-, h⟩ := refused_eq_ok.mp h
    obtain ⟨host, hhost, h⟩ := bind_eq_ok.mp h
    obtain ⟨host, hspecial, rfl⟩ := map_eq_ok.mp hhost
    exact ⟨some host, .special (hweb ▸ nofun) hspecial, h⟩
  · next hweb =>
    obtain ⟨host, hother, h⟩ := bind_eq_ok.mp h
    cases kind with
    | web => exact absurd rfl hweb
    | file => exact absurd rfl hkind
    | other => exact ⟨host, .other hother, h⟩

theorem parseAuthority_reads {scheme : String} {kind : Kind} (hkind : kind ≠ .file)
    {cs : List Char} {url : Url} (h : parseAuthority scheme kind cs = .ok url) :
    url.scheme = scheme ∧ Reads kind url.host := by
  simp only [parseAuthority, throw_bind, refused_eq_ok] at h
  obtain ⟨-, h⟩ := h
  obtain ⟨host, hreads, h⟩ := exists_reads hkind h
  -- Whatever follows the host, the scheme and the host stay as they are.
  split at h
  · obtain ⟨-, h⟩ := refused_eq_ok.mp h
    obtain ⟨x, -, h⟩ := bind_eq_ok.mp h
    cases h
    exact ⟨rfl, hreads⟩
  · obtain ⟨-, h⟩ := refused_eq_ok.mp h
    cases h
    exact ⟨rfl, hreads⟩

theorem parseFileAuthority_reads {cs : List Char} {url : Url}
    (h : parseFileAuthority cs = .ok url) : url.scheme = "file" ∧ Reads .file url.host := by
  simp only [parseFileAuthority] at h
  split at h
  · cases h
    exact ⟨rfl, .nothing⟩
  · obtain ⟨host, hspecial, h⟩ := bind_eq_ok.mp h
    split at h
    · cases h
      exact ⟨rfl, .nothing⟩
    · cases h
      exact ⟨rfl, .special nofun hspecial⟩

/-- The scheme of a URL holds no separator, and it says how the host is read. -/
theorem parse_reads {text : String} {url : Url} (h : parse text = .ok url) :
    Plain url.scheme.toList ∧ Reads (Kind.of url.scheme) url.host := by
  unfold parse at h
  dsimp only at h
  split at h
  · cases h
  · next scheme rest hscheme =>
    have hplain : Plain scheme.toList := parseScheme?_plain hscheme
    have hwithout : ∀ {cs : List Char}, withoutHost scheme cs = url →
        Plain url.scheme.toList ∧ Reads (Kind.of url.scheme) url.host := by
      rintro cs rfl
      exact ⟨hplain, .nothing⟩
    -- The kind of the scheme decides what may follow, and only a file sets the scheme anew.
    split at h
    · next hkind =>
      obtain ⟨hsame, hreads⟩ := parseAuthority_reads (by decide) h
      rw [hsame, hkind]
      exact ⟨hplain, hreads⟩
    · split at h
      · split at h
        · obtain ⟨hfile, hreads⟩ := parseFileAuthority_reads h
          rw [hfile]
          exact ⟨by decide, hreads⟩
        · exact hwithout (Except.ok.inj h)
      · exact hwithout (Except.ok.inj h)
    · next hkind =>
      split at h
      · obtain ⟨hsame, hreads⟩ := parseAuthority_reads (by decide) h
        rw [hsame, hkind]
        exact ⟨hplain, hreads⟩
      · exact hwithout (Except.ok.inj h)

theorem Reads.name_plain {kind : Kind} {name : String} (h : Reads kind (some (.name name))) :
    Plain name.toList := by
  cases h with
  | special _ hspecial => exact (parseSpecialHost_name hspecial).1
  | other hother =>
    rcases parseOpaqueHost_cases hother with ⟨groups, hgroups⟩ | ⟨_, hname, hplain⟩
    · cases hgroups
    · cases hname
      exact hplain

/-- A name that ends in a number is no name of a special scheme, and addresses of version 4 are
known to those alone. -/
theorem Reads.name_not_endsInNumber {kind : Kind} {name : String} {bytes : V4}
    (hname : Reads kind (some (.name name))) (haddress : Reads kind (some (.address (.v4 bytes)))) :
    endsInNumber name.toList = false := by
  cases hname with
  | special _ hspecial => exact (parseSpecialHost_name hspecial).2
  | other _ =>
    cases haddress with
    | special hkind _ => exact absurd rfl hkind
    | other hother =>
      rcases parseOpaqueHost_cases hother with ⟨groups, hgroups⟩ | ⟨_, hname, _⟩
      · cases hgroups
      · cases hname

/-- Neither the scheme of a URL nor the name of its host holds a separator. -/
theorem parse_plain {text : String} {url : Url} (h : parse text = .ok url) :
    Plain url.scheme.toList ∧ ∀ name, url.host = some (.name name) → Plain name.toList := by
  obtain ⟨hscheme, hreads⟩ := parse_reads h
  exact ⟨hscheme, fun name hname => Reads.name_plain (hname ▸ hreads)⟩

end Url

end RpcPipeline
