import RpcPipeline.Proofs.Uri.Address

/-!
# `RpcPipeline.Proofs.Uri.Identity`: no two hosts have one identity

An identity is one text for a scheme, a host, a port and perhaps an address, and all of them can
be read off it. The scheme ends at the first colon. A host without brackets ends at the colon
behind it, and a host in brackets at the closing one. Digits end at the at sign, behind which
there is an address with a port of its own, written in the same two forms.

Whether a host is a name or an address is not written down, but it need not be: names hold no
colons, and where there are addresses of version 4, a name does not end in a number.

* `Spells`: a host with a port behind it, in either form; `Spells.inj`: it tells both.
* `TargetUri.IsRead.url_host_eq`: the text of a host tells what kind of host it is.
* `TargetUri.IsRead.base_eq_iff`: what base addresses tell.
* `HostId.ofTarget_eq_iff`: what identities tell.
-/

set_option autoImplicit false

namespace RpcPipeline

/-! ### Hosts with ports -/

/-- What stands before a character for the first time is told by the text. -/
theorem eq_of_append_cons_eq {c : Char} {before before' behind behind' : List Char}
    (hbefore : c ∉ before) (hbefore' : c ∉ before')
    (h : before ++ c :: behind = before' ++ c :: behind') :
    before = before' ∧ behind = behind' := by
  have hpieces := congrArg (List.splitOn c) h
  rw [List.splitOn_append_cons_self_of_not_mem hbefore,
    List.splitOn_append_cons_self_of_not_mem hbefore'] at hpieces
  obtain rfl := (List.cons.inj hpieces).1
  exact ⟨rfl, (List.cons.inj (List.append_cancel_left h)).2⟩

/-- A text is a host with a port behind it. A host that may hold colons stands in brackets. -/
inductive Spells (host : List Char) (port : UInt16) : List Char → Prop where
  | bare (h : Plain host) : Spells host port (host ++ ':' :: (toString port.toNat).toList)
  | bracketed (h : Lacks brackets host) :
    Spells host port ('[' :: (host ++ ']' :: ':' :: (toString port.toNat).toList))

theorem port_eq {port port' : UInt16}
    (h : (toString port.toNat).toList = (toString port'.toNat).toList) : port = port' := by
  rw [Nat.toString_eq_repr, Nat.toString_eq_repr, Nat.toList_repr, Nat.toList_repr] at h
  refine UInt16.toNat_inj.mp ?_
  calc
    port.toNat = Nat.ofDigitChars 10 (Nat.toDigits 10 port.toNat) 0 :=
      Nat.ofDigitChars_ten_toDigits.symm
    _ = Nat.ofDigitChars 10 (Nat.toDigits 10 port'.toNat) 0 := by rw [h]
    _ = port'.toNat := Nat.ofDigitChars_ten_toDigits

/-- A host without brackets is not taken for one within. -/
theorem bare_ne_bracketed {host : List Char} (h : Plain host) (port : UInt16)
    (rest : List Char) : host ++ ':' :: (toString port.toNat).toList ≠ '[' :: rest := by
  intro heq
  have hmem : '[' ∈ host ++ ':' :: (toString port.toNat).toList := heq ▸ List.mem_cons_self
  rcases List.mem_append.mp hmem with hmem | hmem
  · exact h '[' hmem (by decide)
  · rcases List.mem_cons.mp hmem with hmem | hmem
    · cases hmem
    · exact plain_toString _ '[' hmem (by decide)

/-- The text tells the host and the port. -/
theorem Spells.inj {host host' cs cs' : List Char} {port port' : UInt16}
    (h : Spells host port cs) (h' : Spells host' port' cs') (heq : cs = cs') :
    host = host' ∧ port = port' := by
  cases h with
  | bare hhost =>
    cases h' with
    | bare hhost' =>
      have hcolon : ':' ∉ host := fun hc => hhost _ hc (by decide)
      have hcolon' : ':' ∉ host' := fun hc => hhost' _ hc (by decide)
      exact (eq_of_append_cons_eq hcolon hcolon' heq).imp_right port_eq
    | bracketed _ => exact absurd heq (bare_ne_bracketed hhost port _)
  | bracketed hhost =>
    cases h' with
    | bare hhost' => exact absurd heq.symm (bare_ne_bracketed hhost' port' _)
    | bracketed hhost' =>
      have hend : ']' ∉ host := fun hc => hhost _ hc (by decide)
      have hend' : ']' ∉ host' := fun hc => hhost' _ hc (by decide)
      obtain ⟨hhosts, hports⟩ := eq_of_append_cons_eq hend hend' (List.cons.inj heq).2
      exact ⟨hhosts, port_eq (List.cons.inj hports).2⟩

theorem SocketAddress.text_spells (s : SocketAddress) :
    Spells s.address.text.toList s.port s.text.toList := by
  obtain ⟨address, port⟩ := s
  cases address with
  | v4 bytes =>
    have hbare : Spells bytes.text.toList port _ := .bare bytes.text_plain
    show Spells bytes.text.toList port (bytes.text ++ ":" ++ toString port.toNat).toList
    rw [String.toList_append, String.toList_append, List.append_assoc]
    exact hbare
  | v6 groups =>
    have hbracketed : Spells groups.text.toList port _ := .bracketed groups.text_lacks
    show Spells groups.text.toList port ("[" ++ groups.text ++ "]:" ++ toString port.toNat).toList
    rw [String.toList_append, String.toList_append, String.toList_append, List.append_assoc,
      List.append_assoc]
    exact hbracketed

theorem SocketAddress.text_injective : Function.Injective SocketAddress.text := by
  intro s s' h
  obtain ⟨haddress, hport⟩ := s.text_spells.inj s'.text_spells (congrArg String.toList h)
  have haddresses := Address.text_injective (String.toList_inj.mp haddress)
  cases s
  cases s'
  rw [SocketAddress.mk.injEq]
  exact ⟨haddresses, hport⟩

/-! ### Names and addresses -/

/-- The text of an address of version 4 ends in a number. -/
theorem V4.endsInNumber_text (bytes : V4) : Url.endsInNumber bytes.text.toList = true := by
  obtain ⟨a, b, c, d, rfl⟩ := bytes.exists_bytes
  have hlast : (#v[a, b, c, d].toList.map fun b => (toString b.toNat).toList).getLast? =
      some (Nat.toDigits 10 d.toNat) := by
    rw [← Nat.toList_repr, ← Nat.toString_eq_repr]
    rfl
  have hne : Nat.toDigits 10 d.toNat ≠ [] := Nat.toDigits_ne_nil
  have hkept : some (Nat.toDigits 10 d.toNat) ≠ some [] := fun heq => hne (Option.some.inj heq)
  have hdigits : (Nat.toDigits 10 d.toNat).all Char.isDigit = true :=
    List.all_eq_true.mpr fun c hc => Nat.isDigit_of_mem_toDigits (by decide) (by decide) hc
  rw [Url.endsInNumber, Url.nameParts, pieces_text, hlast, if_neg hkept, hlast]
  dsimp only
  rw [hdigits, List.isEmpty_eq_false_iff.mpr hne]
  rfl

/-- Under schemes of one kind, no name is the text of an address. -/
theorem Url.Reads.name_ne_text {kind : Kind} {name : String} {a : Address}
    (hname : Reads kind (some (.name name))) (haddress : Reads kind (some (.address a))) :
    name ≠ a.text := by
  rintro rfl
  cases a with
  | v4 bytes =>
    have hword := hname.name_not_endsInNumber haddress
    rw [Address.text, bytes.endsInNumber_text] at hword
    cases hword
  | v6 groups => exact hname.name_plain ':' groups.colon_mem_text (by decide)

namespace TargetUri

variable {t t' : TargetUri}

theorem IsRead.reads (h : t.IsRead) : Plain t.url.scheme.toList ∧
    Url.Reads (.of t.url.scheme) t.url.host ∧
      (t.url.host = some (.name t.host) ∨
        ∃ a, t.url.host = some (.address a) ∧ t.host = a.text) := by
  obtain ⟨uri, defaultPort, hparse⟩ := h
  obtain ⟨hurl, hhost⟩ := parse_host hparse
  obtain ⟨hscheme, hreads⟩ := Url.parse_reads hurl
  exact ⟨hscheme, hreads, hhost⟩

/-- Under one scheme, the text of a host tells whether it is a name or an address, and which
one. -/
theorem IsRead.url_host_eq (h : t.IsRead) (h' : t'.IsRead)
    (hscheme : t.url.scheme = t'.url.scheme) (hhost : t.host = t'.host) :
    t.url.host = t'.url.host := by
  obtain ⟨-, hreads, hcase⟩ := h.reads
  obtain ⟨-, hreads', hcase'⟩ := h'.reads
  -- A name and an address can be told apart only where the scheme is the same: other schemes
  -- allow for names that end in numbers.
  rw [hscheme] at hreads
  rcases hcase with hname | ⟨a, haddress, htext⟩
  · rcases hcase' with hname' | ⟨a', haddress', htext'⟩
    · rw [hname, hname', hhost]
    · rw [hname] at hreads
      rw [haddress'] at hreads'
      exact absurd (hhost.trans htext') (hreads.name_ne_text hreads')
  · rcases hcase' with hname' | ⟨a', haddress', htext'⟩
    · rw [haddress] at hreads
      rw [hname'] at hreads'
      exact absurd (hhost.symm.trans htext) (hreads'.name_ne_text hreads)
    · have htexts : a.text = a'.text := htext.symm.trans (hhost.trans htext')
      rw [haddress, haddress', Address.text_injective htexts]

/-! ### Base addresses -/

/-- A base address is a scheme, and behind it a host with its port. -/
theorem IsRead.base_spells (h : t.IsRead) : ∃ cs, Spells t.host.toList t.port cs ∧
    t.base.toList = t.url.scheme.toList ++ ':' :: '/' :: '/' :: cs := by
  obtain ⟨-, hreads, hcase⟩ := h.reads
  rw [base, address?]
  rcases hcase with hname | ⟨a, haddress, htext⟩
  · rw [hname] at hreads
    refine ⟨_, .bare hreads.name_plain, ?_⟩
    rw [hname]
    simp
  · rw [haddress]
    cases a with
    | v4 bytes =>
      refine ⟨_, .bare ?_, ?_⟩
      · rw [htext]
        exact bytes.text_plain
      · simp
    | v6 groups =>
      refine ⟨_, .bracketed ?_, ?_⟩
      · rw [htext]
        exact groups.text_lacks
      · rw [htext]
        simp [Address.text]

/-- Base addresses agree if and only if schemes, hosts and ports do. -/
theorem IsRead.base_eq_iff (h : t.IsRead) (h' : t'.IsRead) : t.base = t'.base ↔
    t.url.scheme = t'.url.scheme ∧ t.host = t'.host ∧ t.port = t'.port := by
  constructor
  · intro hbase
    obtain ⟨cs, hspells, htext⟩ := h.base_spells
    obtain ⟨cs', hspells', htext'⟩ := h'.base_spells
    -- From the left: the scheme ends at the first colon, and the slashes behind it are the same.
    have hcolon : ':' ∉ t.url.scheme.toList := fun hc => h.reads.1 _ hc (by decide)
    have hcolon' : ':' ∉ t'.url.scheme.toList := fun hc => h'.reads.1 _ hc (by decide)
    rw [hbase, htext'] at htext
    obtain ⟨hscheme, hrest⟩ := eq_of_append_cons_eq hcolon' hcolon htext
    obtain ⟨hhost, hport⟩ := hspells'.inj hspells (List.cons.inj (List.cons.inj hrest).2).2
    exact ⟨String.toList_inj.mp hscheme.symm, String.toList_inj.mp hhost.symm, hport.symm⟩
  · rintro ⟨hscheme, hhost, hport⟩
    rw [base, base, address?, address?, h.url_host_eq h' hscheme hhost, hscheme, hhost, hport]

end TargetUri

/-! ### Identities -/

namespace HostId

variable {t t' : TargetUri} {address address' : Option SocketAddress}

/-- A host that is an address itself has its base address for an identity. -/
theorem ofTarget_of_address (h : t.address? ≠ none) : ofTarget t address = ⟨t.base⟩ := by
  unfold ofTarget
  split
  · next hnone => exact absurd hnone h
  · rfl

/-- A host with a name has an identity that tells what the name was resolved to. -/
theorem ofTarget_of_name (h : t.address? = none) : (ofTarget t address).text.toList =
    t.base.toList ++ address.elim [] fun a => '@' :: a.text.toList := by
  unfold ofTarget
  rw [h]
  cases address with
  | none => exact (List.append_nil _).symm
  | some a =>
    dsimp only
    rw [String.toList_append, String.toList_append, List.append_assoc]
    rfl

/-- Hosts have one identity if and only if their URIs agree in scheme, host and port and, unless
the host is an address itself, in the address that the name was resolved to, if it was. -/
theorem ofTarget_eq_iff (h : t.IsRead) (h' : t'.IsRead) :
    ofTarget t address = ofTarget t' address' ↔
      t.url.scheme = t'.url.scheme ∧ t.host = t'.host ∧ t.port = t'.port ∧
        (t.address? = none → address = address') := by
  -- Either side says that the base addresses agree, and with them the hosts.
  have hkind : t.base = t'.base → t.address? = t'.address? := fun hbase => by
    obtain ⟨hscheme, hhost, -⟩ := (h.base_eq_iff h').mp hbase
    rw [TargetUri.address?, TargetUri.address?, h.url_host_eq h' hscheme hhost]
  constructor
  · intro hid
    have hbase := h.base_eq h' hid
    obtain ⟨hscheme, hhost, hport⟩ := (h.base_eq_iff h').mp hbase
    refine ⟨hscheme, hhost, hport, fun hname => ?_⟩
    have htexts : (ofTarget t address).text.toList = (ofTarget t' address').text.toList :=
      congrArg (·.text.toList) hid
    rw [ofTarget_of_name hname, ofTarget_of_name (hkind hbase ▸ hname), hbase] at htexts
    have hbehind := List.append_cancel_left htexts
    cases address with
    | none =>
      cases address' with
      | none => rfl
      | some a' => cases hbehind
    | some a =>
      cases address' with
      | none => cases hbehind
      | some a' =>
        have htext : a.text = a'.text := String.toList_inj.mp (List.cons.inj hbehind).2
        rw [SocketAddress.text_injective htext]
  · rintro ⟨hscheme, hhost, hport, haddress⟩
    have hbase := (h.base_eq_iff h').mpr ⟨hscheme, hhost, hport⟩
    by_cases hname : t.address? = none
    · rw [haddress hname]
      unfold ofTarget
      rw [hkind hbase, hbase]
    · have hname' : t'.address? ≠ none := hkind hbase ▸ hname
      rw [ofTarget_of_address hname, ofTarget_of_address hname', hbase]

/-- What `https://A.example` says. -/
def terse : TargetUri := ⟨⟨"https", "", some (.name "a.example"), none, "/"⟩, "a.example", 443⟩

/-- What `https://a.example:443/api` says. -/
def ample : TargetUri := ⟨⟨"https", "", some (.name "a.example"), none, "/api"⟩, "a.example", 443⟩

/-- Two URIs of one host, which have one identity at one address. The address of version 6 that
stands for it is another one. -/
theorem ofTarget_eq_iff_terse :
    let plain : SocketAddress := ⟨.v4 #v[10, 0, 0, 1], 443⟩
    let mapped : SocketAddress := ⟨.v6 #v[0, 0, 0, 0, 0, 0xffff, 0x0a00, 1], 443⟩
    terse.IsRead ∧ ample.IsRead ∧
      ofTarget terse (some plain) = ofTarget ample (some plain) ∧
      ofTarget terse (some plain) ≠ ofTarget ample (some mapped) := by
  have hterse : terse.IsRead := ⟨"https://A.example", 80, by decide +kernel⟩
  have hample : ample.IsRead := ⟨"https://a.example:443/api", 80, by decide +kernel⟩
  refine ⟨hterse, hample, ?_, fun hid => ?_⟩
  · exact (ofTarget_eq_iff hterse hample).mpr ⟨rfl, rfl, rfl, fun _ => rfl⟩
  · have haddress := ((ofTarget_eq_iff hterse hample).mp hid).2.2.2 rfl
    cases haddress

end HostId

end RpcPipeline
