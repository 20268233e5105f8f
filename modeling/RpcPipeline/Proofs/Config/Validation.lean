import RpcPipeline.Config.Validation
import RpcPipeline.Proofs.Except
import RpcPipeline.Proofs.Uri.Base

/-!
# `RpcPipeline.Proofs.Config.Validation`: which URIs pass

A URI is checked twice. Validation asks for an absolute URL whose host, as a text, is there and
not empty. Whoever sets up hosts reads a target, and asks for a name or an address. Both come to
the same, since no address is written as an empty text.

* `validateUri_eq`: a URI passes if it is read as a target, and otherwise fails for the reason
  that reading it fails for.
* `ClientConfig.validate_eq_ok_iff`: what valid settings say about their URIs.
-/

set_option autoImplicit false

namespace RpcPipeline

theorem V4.text_ne_empty (bytes : V4) : bytes.text ≠ "" := by
  intro hempty
  have hnil : bytes.text.toList = [] := by rw [hempty]; rfl
  rw [text, String.toList_intercalate, List.map_map] at hnil
  cases hbytes : bytes.toList with
  | nil => exact absurd (congrArg List.length hbytes) (by simp)
  | cons b rest =>
    have hdigits : (toString b.toNat).toList ≠ [] := by
      rw [Nat.toString_eq_repr, Nat.toList_repr]
      exact Nat.toDigits_ne_nil
    rw [hbytes, List.map_cons] at hnil
    cases rest <;> simp_all

/-- An address is not written as an empty text. -/
theorem UrlHost.address_text_ne_empty (a : Address) : (UrlHost.address a).text ≠ "" := by
  cases a with
  | v4 bytes => exact bytes.text_ne_empty
  | v6 groups =>
    intro hempty
    have hnil := congrArg String.toList hempty
    rw [text, String.toList_append, String.toList_append] at hnil
    cases hnil

variable {α : Type}

/-- A URI passes if it is read as a target, and if it does not pass, it is not read as one
either, for the same reason. -/
theorem validateUri_eq (uri : String) (defaultPort : UInt16) :
    validateUri uri = match TargetUri.parse uri defaultPort with
      | .ok _ => .ok ()
      | .error cause => .error (ConfigError.uri cause : ConfigError α) := by
  unfold validateUri TargetUri.parse
  cases Url.parse uri with
  | error cause => rfl
  | ok url =>
    dsimp only [Url.hostText?]
    cases url.host with
    | none => rfl
    | some host =>
      cases host with
      | name name =>
        by_cases hempty : name = ""
        · simp [hempty, demand, UrlHost.text]
        · simp [hempty, demand, UrlHost.text]
      | address a =>
        -- Its text is checked as that of a name is, but is never empty.
        have hne := UrlHost.address_text_ne_empty a
        simp [hne, demand]

/-- A URI passes exactly if it is read as a target, whatever the port is. -/
theorem validateUri_eq_ok_iff (uri : String) (defaultPort : UInt16) :
    validateUri (α := α) uri = .ok () ↔ ∃ t, TargetUri.parse uri defaultPort = .ok t := by
  rw [validateUri_eq uri defaultPort]
  cases TargetUri.parse uri defaultPort with
  | error cause => exact iff_of_false nofun nofun
  | ok t => exact iff_of_true rfl ⟨t, rfl⟩

/-- Settings are valid if each of their URIs is read as a target and the rest is valid. -/
theorem ClientConfig.validate_eq_ok_iff [Scalar α] (c : ClientConfig α) (defaultPort : UInt16) :
    c.validate = .ok () ↔ (∀ uri ∈ c.uris, ∃ t, TargetUri.parse uri defaultPort = .ok t) ∧
      { c with uris := [] }.validate = .ok () := by
  -- Without URIs there is nothing to check before the rest.
  have hsteps : c.validate =
      (c.uris.forM validateUri >>= fun _ => { c with uris := [] }.validate) := rfl
  rw [hsteps, then_eq_ok, forM_eq_ok]
  simp only [validateUri_eq_ok_iff _ defaultPort]

end RpcPipeline
