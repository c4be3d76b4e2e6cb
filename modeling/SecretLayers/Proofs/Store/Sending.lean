import SecretLayers.Proofs.Store.Confinement
import SecretLayers.Proofs.Store.Dialogues
/-!
What is sent. An exchange sends its request once, if that can be formed, and its value is what the
answer comes to. The paths of the interface itself always have an address.
-/
namespace SecretLayers
set_option autoImplicit false

namespace Store

/-! ## Addresses of the interface -/

section
variable {c : Client} {address : String} {namespaceName : Option String}

theorem readRelative_plain {base : Url} {d : Char}
    (plain : Url.isSlash (Url.isSpecial base.scheme) d = false) (rest : List Char) :
    ∃ url, Url.readRelative base (d :: rest) = .ok url := by
  simp [Url.readRelative, plain]

/-- A path without a scheme that begins with none of the slashes has an address. -/
theorem Client.exists_url (h : Client.ofAddress address namespaceName = .ok c) {path : String}
    {d : Char} {rest : List Char} (read : Url.significant (Text.dropSlashes path) = d :: rest)
    (unnamed : Url.splitScheme? (d :: rest) = none)
    (plain : ∀ special, Url.isSlash special d = false) : ∃ url, c.url path = .ok url := by
  obtain ⟨store, dir, -, -, -, -, base, -⟩ := Client.ofAddress_ok h
  obtain ⟨url, hurl⟩ := readRelative_plain (plain (Url.isSpecial c.base.scheme)) rest
  refine ⟨url, ?_⟩
  simp only [Client.url, Url.parse, read, unnamed, base, hurl]

theorem Client.exists_revoke_url (h : Client.ofAddress address namespaceName = .ok c) :
    ∃ url, c.url "auth/token/revoke-self" = .ok url := by
  have read : Url.significant (Text.dropSlashes "auth/token/revoke-self") =
      'a' :: "uth/token/revoke-self".toList := by decide +kernel
  exact Client.exists_url h read (by decide +kernel) (by decide)

theorem Client.exists_unwrap_url (h : Client.ofAddress address namespaceName = .ok c) :
    ∃ url, c.url "sys/wrapping/unwrap" = .ok url := by
  have read : Url.significant (Text.dropSlashes "sys/wrapping/unwrap") =
      's' :: "ys/wrapping/unwrap".toList := by decide +kernel
  exact Client.exists_url h read (by decide +kernel) (by decide)

end

/-! ## Requests that are sent -/

/-- What is sent of a request: nothing if it cannot be formed. -/
def sent (r : Request) : List Request := if (Client.formFault? r).isNone then [r] else []

section
variable {σ α : Type} {store : σ → Request → Arrival × σ}

theorem requests_exchange (r : Request) (next : Answer → Instant → Except Error α) (s : σ) :
    ((Client.exchange r next).run store s).2.1 = sent r := by
  unfold Client.exchange sent
  cases Client.formFault? r with
  | some fault => rfl
  | none => rfl

variable {c : Client} {verb : Verb} {path : String} {token : Option String} {body : Option Json}
  {next : Answer → Instant → Except Error α} {s : σ} {r : Request}

theorem mem_requests_call_iff : r ∈ ((c.call verb path token body next).run store s).2.1 ↔
    c.url path = .ok r.url ∧ Client.formFault? r = none ∧
      r = { verb, url := r.url, token, namespaceName := c.namespaceName, body } := by
  unfold Client.call
  cases hurl : c.url path with
  | error e => simp [Dialogue.run]
  | ok url =>
    simp only [requests_exchange, sent, List.mem_ite_nil_right, List.mem_singleton,
      Option.isNone_iff_eq_none, Except.ok.injEq]
    constructor
    · rintro ⟨formed, rfl⟩
      exact ⟨rfl, formed, rfl⟩
    · rintro ⟨rfl, formed, hr⟩
      exact ⟨hr ▸ formed, hr⟩

/-- A call that sends nothing fails. -/
theorem exists_error_of_unsent (h : ((c.call verb path token body next).run store s).2.1 = []) :
    ∃ e, ((c.call verb path token body next).run store s).1 = .error e := by
  unfold Client.call at h ⊢
  split
  · exact ⟨_, rfl⟩
  · rename_i url hurl
    simp only [hurl, requests_exchange, sent] at h
    unfold Client.exchange
    split
    · exact ⟨_, rfl⟩
    · rename_i formed
      simp [formed] at h

end
end Store
end SecretLayers
