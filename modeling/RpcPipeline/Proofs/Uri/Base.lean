import RpcPipeline.Proofs.Uri.Plain

/-!
# `RpcPipeline.Proofs.Uri.Base`: an identity tells the base address

Base addresses hold no at sign, and an identity is a base address with at most an at sign and
an address behind it. So the base address is what stands before the first at sign, and hosts
with one identity have one base address, whichever URIs they come from.

* `TargetUri.IsRead`: a target that some URI is read as.
* `TargetUri.IsRead.takeWhile_id`: the base address, read off an identity.
* `TargetUri.IsRead.base_eq`: equal identities, equal base addresses.
-/

set_option autoImplicit false

namespace RpcPipeline

/-! ### Addresses -/

/-- The separators other than the colon, which addresses hold themselves. -/
def brackets : List Char := ['/', '@', '[', ']']

theorem plain_toString (n : Nat) : Plain (toString n).toList := by
  rw [Nat.toString_eq_repr, Nat.toList_repr]
  intro c hc
  refine not_mem_separators_of_isAlphanum ?_
  have hdigit : c.isDigit = true := Nat.isDigit_of_mem_toDigits (by decide) (by decide) hc
  rw [Char.isAlphanum, hdigit, Bool.or_true]

theorem plain_toDigits (n : Nat) : Plain (Nat.toDigits 16 n) := by
  have hdigit : ∀ d < 16, Nat.digitChar d ∉ separators := by decide
  have hone : ∀ d < 16, Plain [Nat.digitChar d] := fun d hd c hc => by
    rw [List.mem_singleton.mp hc]
    exact hdigit d hd
  -- By the number: its last digit, and before it the digits of a smaller number.
  induction n using Nat.strongRecOn with
  | ind n ih =>
    rw [Nat.toDigits_eq_if (by decide)]
    split
    · next hlt => exact hone n hlt
    · exact (ih (n / 16) (by omega)).append (hone _ (Nat.mod_lt n (by decide)))

theorem V4.text_plain (bytes : V4) : Plain bytes.text.toList := by
  rw [text, String.toList_intercalate, List.map_map]
  refine Lacks.intercalate (by decide) fun cs hcs => ?_
  obtain ⟨b, -, rfl⟩ := List.mem_map.mp hcs
  exact plain_toString b.toNat

namespace V6

theorem groupsText_lacks (gs : List UInt16) : Lacks brackets (groupsText gs).toList := by
  rw [groupsText, String.toList_intercalate, List.map_map]
  refine Lacks.intercalate (by decide) fun cs hcs => ?_
  obtain ⟨g, -, rfl⟩ := List.mem_map.mp hcs
  rw [Function.comp_apply, groupText, String.toList_ofList]
  exact (plain_toDigits g.toNat).mono (by decide)

theorem text_lacks (groups : V6) : Lacks brackets groups.text.toList := by
  unfold text
  split
  · next bytes _ =>
    rw [String.toList_append]
    exact Lacks.append (by decide) (bytes.text_plain.mono (by decide))
  · unfold compressed
    dsimp only
    split
    · rw [String.toList_append, String.toList_append]
      exact ((groupsText_lacks _).append (by decide)).append (groupsText_lacks _)
    · exact groupsText_lacks _

end V6

/-! ### Base addresses -/

namespace TargetUri

/-- The target is what some URI says. -/
def IsRead (t : TargetUri) : Prop := ∃ uri defaultPort, parse uri defaultPort = .ok t

/-- What a URI says about the host: a name, or the text of an address. -/
theorem parse_host {uri : String} {defaultPort : UInt16} {t : TargetUri}
    (h : parse uri defaultPort = .ok t) :
    Url.parse uri = .ok t.url ∧
      (t.url.host = some (.name t.host) ∨
        ∃ a, t.url.host = some (.address a) ∧ t.host = a.text) := by
  unfold parse at h
  split at h
  · cases h
  · next url hurl =>
    dsimp only at h
    split at h
    · next name hhost =>
      obtain ⟨-, h⟩ := refused_eq_ok.mp h
      cases h
      exact ⟨hurl, .inl hhost⟩
    · next a hhost =>
      cases h
      exact ⟨hurl, .inr ⟨a, hhost, rfl⟩⟩
    · cases h

/-- A base address holds no at sign. -/
theorem IsRead.base_lacks {t : TargetUri} (h : t.IsRead) : Lacks ['@'] t.base.toList := by
  obtain ⟨uri, defaultPort, hparse⟩ := h
  obtain ⟨hurl, hhost⟩ := parse_host hparse
  obtain ⟨hscheme, hname⟩ := Url.parse_plain hurl
  have hport : Plain (toString t.port.toNat).toList := plain_toString _
  rw [base, String.toList_append, String.toList_append, String.toList_append,
    String.toList_append]
  have hfront : Lacks ['@'] (t.url.scheme.toList ++ "://".toList) :=
    Lacks.append (hscheme.mono (by decide)) (by decide)
  refine Lacks.append (Lacks.append (Lacks.append hfront ?_) (by decide))
    (hport.mono (by decide))
  rw [address?]
  rcases hhost with hnamed | ⟨a, haddress, htext⟩
  · rw [hnamed]
    exact (hname _ hnamed).mono (by decide)
  · rw [haddress]
    cases a with
    | v4 bytes =>
      dsimp only
      rw [htext]
      exact bytes.text_plain.mono (by decide)
    | v6 groups =>
      -- It stands in brackets, and it has colons, neither of which are at signs.
      dsimp only
      rw [String.toList_append, String.toList_append]
      refine Lacks.append (Lacks.append (by decide) ?_) (by decide)
      exact groups.text_lacks.mono (by decide)

/-- The base address is what stands before the first at sign of an identity. -/
theorem IsRead.takeWhile_id {t : TargetUri} (h : t.IsRead) (address : Option SocketAddress) :
    (HostId.ofTarget t address).text.toList.takeWhile (· ≠ '@') = t.base.toList := by
  have hbase : ∀ c ∈ t.base.toList, decide (c ≠ '@') = true := by
    intro c hc
    refine decide_eq_true fun heq => ?_
    exact h.base_lacks c hc (List.mem_singleton.mpr heq)
  unfold HostId.ofTarget
  split
  · -- An at sign follows the base address, and nothing behind it counts.
    rw [String.toList_append, String.toList_append, List.append_assoc,
      List.takeWhile_append_of_pos hbase]
    exact List.append_nil _
  · exact List.takeWhile_eq_self_iff.mpr hbase

/-- Hosts with one identity have one base address. -/
theorem IsRead.base_eq {t t' : TargetUri} (h : t.IsRead) (h' : t'.IsRead)
    {address address' : Option SocketAddress}
    (hid : HostId.ofTarget t address = HostId.ofTarget t' address') : t.base = t'.base := by
  rw [← String.toList_inj, ← h.takeWhile_id address, hid, h'.takeWhile_id address']

end TargetUri

end RpcPipeline
