import SecretLayers.Auth.Strategy
/-!
How logins and renewals may end. The answers to a dialogue come one after another, none of them
before it is asked for, and only the last one tells what the dialogue ends with: so the lease of a
token that the store grants or renews begins at the very end.
-/
namespace SecretLayers
set_option autoImplicit false

namespace Dialogue
variable {α β : Type}

/-- A dialogue that begins at an instant may end with a value at another. -/
inductive Ends : Dialogue α → Instant → Timed α → Prop
  | done (a : α) (now : Instant) : Ends (done a) now ⟨now, a⟩
  | send {r : Request} {next : Arrival → Dialogue α} {arrival : Arrival} {now : Instant}
      {e : Timed α} (later : now ≤ arrival.instant)
      (onward : Ends (next arrival) arrival.instant e) : Ends (send r next) now e

variable {now : Instant}

theorem Ends.of_done {a : α} {e : Timed α} (h : Ends (Dialogue.done a) now e) : e = ⟨now, a⟩ := by
  cases h
  rfl

theorem Ends.of_bind {d : Dialogue α} {f : α → Dialogue β} {e : Timed β}
    (h : (d.bind f).Ends now e) : ∃ m, d.Ends now m ∧ (f m.value).Ends m.instant e := by
  induction d generalizing now with
  | done a => exact ⟨⟨now, a⟩, .done a now, h⟩
  | send r next ih =>
    cases h with
    | send later onward =>
      obtain ⟨m, hm, rest⟩ := ih _ onward
      exact ⟨m, .send later hm, rest⟩

end Dialogue

theorem Grant.token_ok {g : Grant} {now : Instant} {t : Token} (h : g.token now = .ok t) :
    ∃ text, t = .granted text (g.leaseSeconds.getD 0) (g.renewable.getD false) now := by
  unfold Grant.token at h
  split at h
  · cases h
  · rename_i text _
    split at h
    · cases h
    · exact ⟨text, (Except.ok.inj h).symm⟩

/-! ## Calls -/

namespace Store.Client
variable {α : Type} {c : Client} {r : Request} {next : Answer → Instant → Except Error α}
  {began now : Instant} {a : α}

/-- An exchange that succeeds takes its value from an answer, when that arrives. -/
theorem exchange_ends (h : (exchange r next).Ends began ⟨now, .ok a⟩) :
    ∃ answer, next answer now = .ok a := by
  unfold exchange at h
  split at h
  · cases h
  · cases h with
    | @send _ _ arrival _ _ later onward =>
      have hend := onward.of_done
      cases houtcome : arrival.outcome with
      | error fault =>
        simp only [houtcome, Timed.mk.injEq] at hend
        cases hend.2
      | ok answer =>
        simp only [houtcome, Timed.mk.injEq] at hend
        obtain ⟨rfl, hvalue⟩ := hend
        exact ⟨answer, hvalue.symm⟩

theorem call_ends {verb : Verb} {path : String} {token : Option String} {body : Option Json}
    (h : (c.call verb path token body next).Ends began ⟨now, .ok a⟩) :
    ∃ answer, next answer now = .ok a := by
  unfold call at h
  split at h
  · cases h
  · exact exchange_ends h

/-- An exchange may end with what any answer to it comes to, whenever that arrives. -/
theorem exchange_may_end (formed : formFault? r = none) (later : began ≤ now) (answer : Answer) :
    (exchange r next).Ends began ⟨now, next answer now⟩ := by
  unfold exchange
  rw [formed]
  have arrives : began ≤ (⟨.ok answer, now⟩ : Arrival).instant := later
  exact .send arrives (.done _ _)

theorem call_may_end {verb : Verb} {path : String} {token : Option String} {body : Option Json}
    {url : Url} (hurl : c.url path = .ok url)
    (formed : formFault? { verb, url, token, namespaceName := c.namespaceName, body } = none)
    (later : began ≤ now) (answer : Answer) :
    (c.call verb path token body next).Ends began ⟨now, next answer now⟩ := by
  unfold call
  rw [hurl]
  exact exchange_may_end formed later answer

/-! ## Tokens of the store -/

variable {t old : Token}

theorem grantedToken_ok {method : String} {answer : Answer}
    (h : grantedToken method answer now = .ok t) :
    ∃ text seconds renewable, t = .granted text seconds renewable now := by
  unfold grantedToken at h
  split at h
  · cases h
  · split at h
    · cases h
    · split at h
      · cases h
      · rename_i g _
        obtain ⟨text, ht⟩ := g.token_ok h
        exact ⟨text, _, _, ht⟩

theorem login_ends {method path : String} {body : Option Json} {wrapping : Option String}
    (h : (c.login method path body wrapping).Ends began ⟨now, .ok t⟩) :
    ∃ text seconds renewable, t = .granted text seconds renewable now := by
  obtain ⟨answer, hanswer⟩ := call_ends h
  exact grantedToken_ok hanswer

/-- A renewal brings the same token with another lease, which begins when the answer comes. -/
theorem renew_ends (h : (c.renew old).Ends began ⟨now, .ok t⟩) :
    ∃ seconds renewable, t = old.withLease seconds renewable now := by
  obtain ⟨answer, hanswer⟩ := call_ends h
  unfold renewedToken at hanswer
  split at hanswer
  · cases hanswer
  · split at hanswer
    · cases hanswer
    · split at hanswer
      · cases hanswer
      · exact ⟨_, _, (Except.ok.inj hanswer).symm⟩

end Store.Client

/-! ## Tokens of a strategy -/

namespace Auth.Strategy
variable {s : Strategy} {client : Store.Client} {machine : Machine} {began now : Instant} {t : Token}

/-- The tokens that a login may bring at an instant: the one that is configured, or one that the
store grants then. -/
inductive Obtains (now : Instant) : Strategy → Token → Prop
  | configured (secret : Secret) : Obtains now (.token secret) (.fixed secret.exposed now)
  | granted {s : Strategy} (remote : s.method ≠ .token) (text : String) (seconds : Nat)
      (renewable : Bool) : Obtains now s (.granted text seconds renewable now)

theorem obtains_of_granted (remote : s.method ≠ .token)
    (h : ∃ text seconds renewable, t = .granted text seconds renewable now) : s.Obtains now t := by
  obtain ⟨text, seconds, renewable, rfl⟩ := h
  exact .granted remote text seconds renewable

theorem login_ends (h : (s.login client machine began).Ends began ⟨now, .ok t⟩) :
    s.Obtains now t := by
  cases s with
  | token secret =>
    obtain ⟨rfl, ht⟩ := Timed.mk.inj h.of_done
    obtain rfl := Except.ok.inj ht
    exact .configured secret
  | appRole roleId secretId path =>
    exact obtains_of_granted nofun (Store.Client.login_ends h)
  | appId id path userId =>
    simp only [login] at h
    split at h
    · cases h
    · exact obtains_of_granted nofun (Store.Client.login_ends h)
  | certificate path => exact obtains_of_granted nofun (Store.Client.login_ends h)
  | awsEc2 role path document nonce =>
    -- The document is fetched first, and what follows depends on it.
    obtain ⟨m, -, rest⟩ := Dialogue.Ends.of_bind h
    split at rest
    · cases rest
    · exact obtains_of_granted nofun (Store.Client.login_ends rest)
  | kubernetes role path source =>
    simp only [login, loginKubernetes] at h
    split at h
    · cases h
    · split at h
      · cases h
      · split at h
        · cases h
        · exact obtains_of_granted nofun (Store.Client.login_ends h)
  | cubbyhole wrapping unwrapped =>
    simp only [login] at h
    split at h
    · cases h
    · exact obtains_of_granted nofun (Store.Client.login_ends h)

/-- A token is not yet over when a login brings it. -/
theorem Obtains.isExpired_eq_false (h : s.Obtains now t) : t.isExpired now = false := by
  cases h with
  | configured secret => rfl
  | granted remote text seconds renewable =>
    rw [Token.isExpired, Token.remaining?]
    split
    · rename_i expires
      have pos : 0 < Span.ofSeconds seconds :=
        Span.ofSeconds_pos (Nat.pos_of_ne_zero (of_decide_eq_true expires))
      rw [Option.any_some, Token.granted, Lease.remaining, Nat.sub_self, Nat.sub_zero]
      exact decide_eq_false (Nat.ne_of_gt pos)
    · rfl

end Auth.Strategy
end SecretLayers
