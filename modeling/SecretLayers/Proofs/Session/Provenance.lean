import SecretLayers.Proofs.Session.Status
import SecretLayers.Proofs.Store.Confinement
import SecretLayers.Proofs.Store.Endings
/-!
Where the tokens of a session come from. Logins are answered as the strategy of the session may
end, and renewals as the store may. So a token in the slot is the one that is configured, just as
it was given, or one that the store granted to a login, perhaps with another lease since then.
-/
namespace SecretLayers
set_option autoImplicit false

/-! ## Strategies that have been used -/

namespace Auth.Strategy
variable {s : Strategy} {result : Except Error Token} {secret : Secret}

theorem after_method (s : Strategy) (result : Except Error Token) :
    (s.after result).method = s.method := by
  cases s <;> cases result <;> rfl

theorem after_eq_token_iff : s.after result = .token secret ↔ s = .token secret := by
  cases s <;> cases result <;> simp [after]

end Auth.Strategy

namespace Session

def Move.loginAnswer? (m : Move) : Option (Except Error Token) :=
  match m.before.flight, m.event with
  | some (.login _), .answered result => some result
  | _, _ => none

/-- A strategy after the logins of some moves. -/
def strategyAfter (strategy : Auth.Strategy) (ms : List Move) : Auth.Strategy :=
  (ms.filterMap Move.loginAnswer?).foldl Auth.Strategy.after strategy

/-- Logins end as the strategy says, in the state in which it is then. -/
def LoginsBy (client : Store.Client) (strategy : Auth.Strategy) (ms : List Move) : Prop :=
  ∀ past m later, ms = past ++ m :: later → ∀ result, m.loginAnswer? = some result →
    ∃ machine began, ((strategyAfter strategy past).login client machine began).Ends began ⟨m.now, result⟩

/-- Renewals end as the store says. -/
def RenewalsBy (client : Store.Client) (ms : List Move) : Prop :=
  ∀ m ∈ ms, ∀ c old result, m.before.flight = some (.renewal c old) → m.event = .answered result →
    ∃ began, (client.renew old).Ends began ⟨m.now, result⟩

section
variable {client : Store.Client} {strategy : Auth.Strategy} {ms past later : List Move} {m : Move}
  {r t old new : Token} {secret : Secret} {now : Instant}

theorem strategyAfter_method (strategy : Auth.Strategy) (ms : List Move) :
    (strategyAfter strategy ms).method = strategy.method := by
  unfold strategyAfter
  generalize ms.filterMap Move.loginAnswer? = results
  induction results generalizing strategy with
  | nil => rfl
  | cons result results ih => exact (ih _).trans (strategy.after_method result)

theorem strategyAfter_eq_token_iff :
    strategyAfter strategy ms = .token secret ↔ strategy = .token secret := by
  unfold strategyAfter
  generalize ms.filterMap Move.loginAnswer? = results
  induction results generalizing strategy with
  | nil => rfl
  | cons result results ih => exact ih.trans Auth.Strategy.after_eq_token_iff

theorem obtains_of_strategyAfter (h : (strategyAfter strategy ms).Obtains now t) :
    strategy.Obtains now t := by
  generalize hs : strategyAfter strategy ms = s at h
  cases h with
  | configured secret =>
    rw [strategyAfter_eq_token_iff.1 hs]
    exact .configured secret
  | granted remote text seconds renewable =>
    rw [← hs, strategyAfter_method] at remote
    exact .granted remote text seconds renewable

theorem Move.loginAnswer?_of_login? (h : m.login? = some t) : m.loginAnswer? = some (.ok t) := by
  unfold Move.login? at h
  split at h
  · rename_i flight event
    obtain rfl := Option.some.inj h
    simp only [Move.loginAnswer?, flight, event]
  · cases h

theorem LoginsBy.of_constant (constant : ∀ result, strategy.after result = strategy)
    (h : ∀ m ∈ ms, ∀ result, m.loginAnswer? = some result →
      ∃ machine began, (strategy.login client machine began).Ends began ⟨m.now, result⟩) :
    LoginsBy client strategy ms := by
  have same (past : List Move) : strategyAfter strategy past = strategy := by
    unfold strategyAfter
    induction past.filterMap Move.loginAnswer? with
    | nil => rfl
    | cons result results ih => rw [List.foldl_cons, constant, ih]
  rintro past m later rfl result answer
  rw [same]
  exact h m (by simp) result answer

theorem LoginsBy.obtains (h : LoginsBy client strategy ms) (hm : m ∈ ms) (login : m.login? = some t) :
    strategy.Obtains m.now t := by
  obtain ⟨past, later, hms⟩ := List.append_of_mem hm
  obtain ⟨machine, began, ends⟩ := h past m later hms _ (Move.loginAnswer?_of_login? login)
  exact obtains_of_strategyAfter (Auth.Strategy.login_ends ends)

theorem RenewalsBy.withLease (h : RenewalsBy client ms) (hm : m ∈ ms)
    (renewal : m.renewal? = some (old, new)) :
    ∃ seconds renewable, new = old.withLease seconds renewable m.now := by
  unfold Move.renewal? at renewal
  split at renewal
  · rename_i c _ _ flight event
    obtain ⟨rfl, rfl⟩ := Prod.mk.inj (Option.some.inj renewal)
    obtain ⟨began, ends⟩ := h m hm c _ _ flight event
    exact Store.Client.renew_ends ends
  · cases renewal

theorem RenewalsBy.same (h : RenewalsBy client ms) (descends : Descends ms r t) :
    t.text = r.text ∧ t.origin = r.origin := by
  induction descends with
  | refl => exact ⟨rfl, rfl⟩
  | tail _ step ih =>
    obtain ⟨m, hm, renewal⟩ := step
    obtain ⟨seconds, renewable, rfl⟩ := h.withLease hm renewal
    exact ih

/-! ## Tokens in the slot -/

/-- What the token in a slot can be: the configured one, or one that descends from a login which
the store has granted. -/
inductive Owned (strategy : Auth.Strategy) (past : List Move) : Token → Prop
  | configured {secret : Secret} (configured : strategy = .token secret) (now : Instant) :
      Owned strategy past (.fixed secret.exposed now)
  | granted {r t : Token} (remote : strategy.method ≠ .token) (login : r ∈ logins past)
      (descends : Descends past r t) (origin : r.origin = .login) : Owned strategy past t

/-- The token in the slot is one of those, and what is being renewed is that token and has a
lease. -/
structure Owns (strategy : Auth.Strategy) (past : List Move) (s : Session) : Prop where
  held : ∀ t, s.held = some t → Owned strategy past t
  renewing : ∀ c t, s.flight = some (.renewal c t) → s.held = some t ∧ t.expires = true

theorem Owned.mono {ns : List Move} (h : Owned strategy past t) (sub : past ⊆ ns) :
    Owned strategy ns t := by
  cases h with
  | configured configured now => exact .configured configured now
  | granted remote login descends origin =>
    obtain ⟨m, hm, hr⟩ := List.mem_filterMap.1 login
    exact .granted remote (List.mem_filterMap.2 ⟨m, sub hm, hr⟩) (descends.mono sub) origin

theorem Owned.of_login (obtains : strategy.Obtains m.now t) (login : m.login? = some t) :
    Owned strategy (past ++ [m]) t := by
  have mem : t ∈ logins (past ++ [m]) := by simp [logins_concat, login]
  cases obtains with
  | configured secret => exact .configured rfl m.now
  | granted remote text seconds renewable => exact .granted remote mem .refl rfl

theorem Owned.renew (h : Owned strategy past old) (expires : old.expires = true)
    (renewal : m.renewal? = some (old, new)) : Owned strategy (past ++ [m]) new := by
  have sub : past ⊆ past ++ [m] := List.subset_append_left past [m]
  cases h with
  | configured configured now => cases expires -- it has no lease
  | granted remote login descends origin =>
    refine .granted remote ?_ ((descends.mono sub).tail ⟨m, by simp, renewal⟩) origin
    rw [logins_concat]
    exact List.mem_append_left _ login

theorem Owned.origin_eq_login (h : Owned strategy past t) (renewed : RenewalsBy client past)
    (expires : t.expires = true) :
    t.origin = .login ∧ ∃ r ∈ logins past, Descends past r t := by
  cases h with
  | configured configured now => cases expires
  | granted remote login descends origin =>
    exact ⟨(renewed.same descends).2.trans origin, _, login, descends⟩

theorem Move.Effect.owns {o : RenewalOptions} (h : m.Effect)
    (discipline : m.before.discipline = .renewing o)
    (obtains : ∀ t, m.login? = some t → strategy.Obtains m.now t)
    (hb : Owns strategy past m.before) : Owns strategy (past ++ [m]) m.after := by
  have sub : past ⊆ past ++ [m] := List.subset_append_left past [m]
  have kept (held : m.after.held = m.before.held) (t : Token) (ht : m.after.held = some t) :
      Owned strategy (past ++ [m]) t := (hb.held t (held ▸ ht)).mono sub
  have landed (flight : m.after.flight = none) (c : Option Nat) (t : Token)
      (hf : m.after.flight = some (.renewal c t)) : m.after.held = some t ∧ t.expires = true := by
    rw [flight] at hf
    cases hf
  cases h with
  | aside unanswered held flight =>
    refine ⟨kept held, fun c t hf => ?_⟩
    rw [held]
    exact hb.renewing c t (flight ▸ hf)
  | handsOut c u served usable held flight => exact ⟨kept held, landed flight⟩
  | startsLogin c served unusable held flight =>
    refine ⟨kept held, fun c t hf => ?_⟩
    rw [flight] at hf
    cases hf
  | startsRenewal c u served decided held flight =>
    refine ⟨kept held, fun c t hf => ?_⟩
    rw [flight] at hf
    obtain ⟨rfl, rfl⟩ := Flight.renewal.inj (Option.some.inj hf)
    rw [discipline, Discipline.decide?_eq_renew_iff] at decided
    exact ⟨held.trans decided.1, Token.expires_of_isExpiring? decided.2.1⟩
  | empties d served other held flight =>
    refine ⟨fun t ht => ?_, landed flight⟩
    rw [held] at ht
    cases ht
  | logsIn c u event before held flight =>
    refine ⟨fun t ht => ?_, landed flight⟩
    obtain rfl := Option.some.inj (held.symm.trans ht)
    have login : m.login? = some u := by simp [Move.login?, event, before]
    exact .of_login (obtains u login) login
  | failsLogin c e event before held flight => exact ⟨kept held, landed flight⟩
  | renews c old new event before held flight =>
    refine ⟨fun t ht => ?_, landed flight⟩
    obtain rfl := Option.some.inj (held.symm.trans ht)
    obtain ⟨heldBefore, expires⟩ := hb.renewing c old before
    exact (hb.held old heldBefore).renew expires (by simp [Move.renewal?, event, before])
  | failsRenewal c old e event before held flight =>
    refine ⟨fun t ht => ?_, landed flight⟩
    rw [held] at ht
    cases ht

/-- At any time the slot holds a configured token, or one that descends from a granted login. -/
theorem History.owns {o : RenewalOptions} {s : Session} (h : History (start (.renewing o)) ms s)
    (logged : LoginsBy client strategy ms) :
    Owns strategy ms s ∧ ∀ past m later, ms = past ++ m :: later → Owns strategy past m.before := by
  refine h.invariant ⟨nofun, nofun⟩ fun past m later hms step owns => ?_
  have hm : m ∈ ms := hms ▸ List.mem_append_right past List.mem_cons_self
  exact (effect_step step).owns (h.before_discipline m hm) (fun t login => logged.obtains hm login) owns

end

/-! ## Logins at a store on this machine -/

def certified : Config := { authentication := .cert }

def byCertificate : Auth.Strategy := .certificate "cert"

theorem ofConfig_certified : Auth.Strategy.ofConfig certified "" = .ok byCertificate := rfl

/-- A machine without files. -/
def bare : Auth.Machine where
  files := ⟨fun _ => .error .notFound, fun _ => .error .notFound⟩
  hostAddress := "127.0.0.1"

def granted (answer : Answer) (now : Instant) : Except Error Token :=
  Store.Client.grantedToken "TLS Certificates" answer now

def certificateUrl : Url :=
  { Store.loopback with path := .segments ["v1".toList, "auth".toList, "cert".toList, "login".toList] }

theorem byCertificate_ends {began now : Instant} (later : began ≤ now) (answer : Answer) :
    (byCertificate.login Store.loopbackClient bare began).Ends began ⟨now, granted answer now⟩ := by
  have url : Store.loopbackClient.url "auth/cert/login" = .ok certificateUrl :=
    Store.ok_of_toOption (by decide +kernel)
  have formed : Store.Client.formFault? { verb := .post, url := certificateUrl } = none := by
    decide +kernel
  exact Store.Client.call_may_end url formed later answer

/-- The answer that grants the lent token. -/
def lending : Answer where
  status := 200
  body := "\x7b\"auth\":\x7b\"client_token\":\"s.1\",\"renewable\":true,\"lease_duration\":10\x7d\x7d"

theorem granted_lending : granted lending 0 = .ok lent := Store.ok_of_toOption (by decide +kernel)

end Session
end SecretLayers
