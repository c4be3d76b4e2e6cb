import SecretLayers.Proofs.Session.Revocation
/-!
What is renewed. A check does not ask where the token in the slot comes from, but a configured token
has no lease, and never gets one, so only leases that logins have been granted are renewed. A token
without a lease stays in the slot and is handed out until it is taken out for a shutdown.
-/
namespace SecretLayers
set_option autoImplicit false

namespace Token
variable {t : Token} {o : RenewalOptions} {now : Instant}

theorem expires_iff : t.expires = true ↔ 0 < t.lease.seconds := by
  rw [expires, decide_eq_true_iff]
  exact Nat.pos_iff_ne_zero.symm

theorem isExpired_of_unending (h : t.expires = false) : t.isExpired now = false := by
  rw [isExpired, remaining?, h]
  rfl

theorem isExpiring?_of_unending (h : t.expires = false) : t.isExpiring? o now = some false := by
  rw [isExpiring?, h]
  rfl

end Token

namespace Session

section
variable {o : RenewalOptions} {client : Store.Client} {strategy : Auth.Strategy} {m : Move}
  {t : Token} {s : Session} {now : Instant} {past later ms : List Move}

/-! ## Renewals -/

/-- A token that is sent for renewal, after some moves: it can be renewed, has a lease, and comes from
a login. -/
structure Eligible (past : List Move) (t : Token) : Prop where
  renewable : t.renewable = true
  leased : 0 < t.lease.seconds
  login : t.isFromLogin = true
  descends : ∃ r ∈ logins past, Descends past r t

theorem History.eligible (h : History (start (.renewing o)) (past ++ m :: later) s)
    (logged : LoginsBy client strategy (past ++ m :: later))
    (renewed : RenewalsBy client (past ++ m :: later)) (called : .called (.renew t) ∈ m.seen) :
    Eligible past t := by
  have decided := ((h.effect m (by simp)).startsRenewal_of_mem called).2
  rw [h.before_discipline m (by simp)] at decided
  obtain ⟨held, expiring, renewable⟩ := Discipline.decide?_eq_renew_iff.1 decided
  have expires := Token.expires_of_isExpiring? expiring
  have owned := ((h.owns logged).2 past m later rfl).held t held
  obtain ⟨origin, descends⟩ := owned.origin_eq_login (fun n hn => renewed n (by simp [hn])) expires
  exact ⟨renewable, Token.expires_iff.1 expires, decide_eq_true origin, descends⟩

/-! ## Configured tokens -/

theorem Owned.configured_of_token {secret : Secret} (h : Owned (.token secret) past t) :
    ∃ now, t = .fixed secret.exposed now := by
  cases h with
  | configured configured now =>
    obtain rfl := Auth.Strategy.token.inj configured
    exact ⟨now, rfl⟩
  | granted remote => exact absurd rfl remote

/-- A session with a configured token calls the store for logins only, and its checks rest. -/
theorem History.rests_of_configured {secret : Secret} (h : History (start (.renewing o)) ms s)
    (logged : LoginsBy client (.token secret) ms) (hm : m ∈ ms) :
    (∀ t, .called (.renew t) ∉ m.seen) ∧ (∀ c t, .called (.revoke c t) ∉ m.seen) ∧
      ∀ c : Option Nat, m.Serves (c.elim .poll .check) → m.Rests c := by
  have step := h.steps m hm
  have effect := h.effect m hm
  have discipline : m.before.discipline = .renewing o := h.before_discipline m hm
  have fixed (t : Token) (held : m.before.held = some t) : ∃ now, t = .fixed secret.exposed now := by
    obtain ⟨past, later, hms⟩ := List.append_of_mem hm
    exact (((h.owns logged).2 past m later hms).held t held).configured_of_token
  refine ⟨fun t called => ?_, fun c t called => ?_, fun c served => ?_⟩
  · have decided := (effect.startsRenewal_of_mem called).2
    rw [discipline] at decided
    obtain ⟨held, expiring, -⟩ := Discipline.decide?_eq_renew_iff.1 decided
    obtain ⟨now, rfl⟩ := fixed t held
    cases Token.expires_of_isExpiring? expiring
  · obtain ⟨-, held, login, -⟩ := Move.removes_of_revoke step called
    obtain ⟨now, rfl⟩ := fixed t held
    cases login
  · refine served.rests step discipline fun t held => ?_
    obtain ⟨now, rfl⟩ := fixed t held
    exact Token.isExpiring?_of_unending rfl

/-! ## Tokens without a lease -/

/-- While a token without a lease is in the slot, no call keeps that. -/
def Unhurried (s : Session) : Prop := ∀ t, s.held = some t → t.expires = false → s.flight = none

theorem start_unhurried : (start (.renewing o)).Unhurried := nofun

theorem Move.Effect.unhurried (h : m.Effect) (discipline : m.before.discipline = .renewing o)
    (hb : m.before.Unhurried) : m.after.Unhurried := by
  intro t ht unending
  cases h with
  | aside unanswered held flight =>
    rw [flight]
    exact hb t (held ▸ ht) unending
  | startsLogin c served unusable held flight =>
    rw [discipline, Discipline.usable?_eq_none_iff, Discipline.status?_eq_unauthenticated_iff] at unusable
    have expired := unusable t (held ▸ ht)
    rw [Token.isExpired_of_unending unending] at expired
    cases expired
  | startsRenewal c u served decided held flight =>
    rw [discipline] at decided
    obtain ⟨there, expiring, -⟩ := Discipline.decide?_eq_renew_iff.1 decided
    obtain rfl := Option.some.inj ((held.trans there).symm.trans ht)
    rw [Token.isExpiring?_of_unending unending] at expiring
    cases expiring
  | handsOut _ _ _ _ _ flight | empties _ _ _ _ flight | logsIn _ _ _ _ _ flight
    | failsLogin _ _ _ _ _ flight | renews _ _ _ _ _ _ flight | failsRenewal _ _ _ _ _ _ flight =>
    exact flight

theorem History.unhurried {s t : Session} (h : History s ms t) (discipline : s.discipline = .renewing o)
    (begun : s.Unhurried) : t.Unhurried := by
  induction h with
  | nil s => exact begun
  | cons step rest ih =>
    have effect := effect_step step
    exact ih ((discipline_step step).trans discipline) (effect.unhurried discipline begun)

theorem serve_held_of_unending (discipline : s.discipline = .renewing o) (held : s.held = some t)
    (unending : t.expires = false) {d : Demand} (other : ∀ c, d ≠ .removal c ∧ d ≠ .invalidation c) :
    (s.serve now d).1.held = some t := by
  have check (c : Option Nat) : (s.serveCheck now c).1.held = some t := by
    rw [serveCheck_idle discipline (fun u hu => ?_) c, conclude_held, held]
    obtain rfl := Option.some.inj (held.symm.trans hu)
    exact Token.isExpiring?_of_unending unending
  cases d with
  | token c => simp only [serve, serveToken]; split <;> exact held
  | check c => exact check (some c)
  | poll => exact check none
  | status c => simp only [serve, serveStatus]; split <;> exact held
  | removal c => exact absurd rfl (other c).1
  | invalidation c => exact absurd rfl (other c).2

theorem Move.held_of_unending (step : m.before.step? m.now m.event = some (m.after, m.seen))
    (discipline : m.before.discipline = .renewing o) (held : m.before.held = some t)
    (unending : t.expires = false) (free : m.before.flight = none)
    (spared : ∀ c, ¬ m.Serves (.removal c) ∧ ¬ m.Serves (.invalidation c)) :
    m.after.held = some t := by
  obtain ⟨now, e, s, s', seen⟩ := m
  dsimp only at step discipline held free ⊢
  cases step_of_step? step with
  | @acquire _ d rest _ first =>
    refine serve_held_of_unending (s := s.withQueue rest) discipline held unending fun c => ⟨?_, ?_⟩
    · rintro rfl
      exact (spared c).1 ⟨rfl, free, rest, first⟩
    · rintro rfl
      exact (spared c).2 ⟨rfl, free, rest, first⟩
  | answered flight result =>
    rw [free] at flight
    cases flight
  | demand | launch | tick | stop | shutdownFirst | shutdown | join | revoked | drop => exact held

theorem History.held_of_unending {s u : Session} (h : History s ms u)
    (discipline : s.discipline = .renewing o) (held : s.held = some t) (unending : t.expires = false)
    (unhurried : s.Unhurried) (uses : ∀ m ∈ ms, m.Uses) (valid : ∀ c, .invalidation c ∉ s.queue)
    (spared : ∀ m ∈ ms, ∀ c, ¬ m.Serves (.removal c)) : u.held = some t := by
  induction h with
  | nil s => exact held
  | @cons now e s s' u seen ms step rest ih =>
    have one : History s [⟨now, e, s, s', seen⟩] s' := .cons step (.nil s')
    have first : ∀ m ∈ [(⟨now, e, s, s', seen⟩ : Move)], m.Uses := by
      simpa using uses _ List.mem_cons_self
    refine ih ((discipline_step step).trans discipline) ?_ (one.unhurried discipline unhurried)
      (fun m hm => uses m (List.mem_cons_of_mem _ hm)) (one.invalidation_notMem first valid)
      (fun m hm => spared m (List.mem_cons_of_mem _ hm))
    refine Move.held_of_unending (m := ⟨now, e, s, s', seen⟩) step discipline held unending
      (unhurried t held unending) fun c => ⟨spared _ List.mem_cons_self c, ?_⟩
    rintro ⟨-, -, rest, queue⟩
    have mem : .invalidation c ∈ s.queue := by
      rw [show s.queue = .invalidation c :: rest from queue]
      exact List.mem_cons_self
    exact valid c mem

/-- The token is handed out to all who want it, and nobody logs in, until it is taken out for a
shutdown. -/
def Lasting (t : Token) (later : List Move) : Prop :=
  ∀ others n rest, later = others ++ n :: rest →
    (∀ x ∈ others, ∀ c, ¬ x.Serves (.removal c)) →
      .called .login ∉ n.seen ∧ ∀ c, n.Serves (.token c) → n.seen = [.replied c (.token (.ok t))]

theorem Move.Finds.cached_of_unending {c : Nat} (h : m.Finds c) (discipline : m.before.discipline = .renewing o)
    (held : m.before.held = some t) (unending : t.expires = false) :
    m.seen = [.replied c (.token (.ok t))] := by
  cases h with
  | cached u status there kept free seen =>
    obtain rfl := Option.some.inj (held.symm.trans there)
    exact seen
  | nothing status =>
    have expired := (unauthenticated_iff discipline).1 status t held
    rw [Token.isExpired_of_unending unending] at expired
    cases expired

theorem History.lasting (h : History (start (.renewing o)) (past ++ m :: later) s)
    (uses : ∀ n ∈ past ++ m :: later, n.Uses) (held : m.after.held = some t)
    (unending : t.expires = false) : Lasting t later := by
  rintro others n rest rfl spared
  obtain ⟨hpast, step, hlater⟩ := h.around
  have hm : History (start (.renewing o)) (past ++ [m]) m.after := hpast.concat step
  have sub : past ++ [m] ⊆ past ++ m :: (others ++ n :: rest) := by simp
  have valid : ∀ c, .invalidation c ∉ m.after.queue :=
    hm.invalidation_notMem (fun x hx => uses x (sub hx)) (by simp [start])
  have still : n.before.held = some t :=
    hlater.around.1.held_of_unending hm.discipline held unending (hm.unhurried rfl start_unhurried)
      (fun x hx => uses x (by simp [hx])) valid spared
  have discipline : n.before.discipline = .renewing o := h.before_discipline n (by simp)
  have cached (c : Nat) (served : n.Serves (.token c)) :=
    (served.finds (h.steps n (by simp)) discipline).cached_of_unending discipline still unending
  refine ⟨fun login => ?_, cached⟩
  obtain ⟨c, served, -⟩ := (h.effect n (by simp)).startsLogin_of_mem login
  rw [cached c served] at login
  cases List.mem_singleton.1 login

/-! ## The whole -/

/-- Whatever the strategy of its logins and whatever the store answers, a session renews a token only
if that can be renewed, has a lease and comes from a login. A configured token is not renewed, dropped
or revoked, a token without a lease lasts until it is taken out for a shutdown, and an expiring one
that cannot be renewed is dropped without a call. -/
theorem only_granted_leases_renewed (o : RenewalOptions) {client : Store.Client}
    {strategy : Auth.Strategy} {ms : List Move} {s : Session}
    (h : History (start (.renewing o)) ms s) (uses : ∀ m ∈ ms, m.Uses)
    (logged : LoginsBy client strategy ms) (renewed : RenewalsBy client ms) :
    (∀ past m later, ms = past ++ m :: later → ∀ t, .called (.renew t) ∈ m.seen →
      Eligible past t) ∧
    (∀ secret, strategy = .token secret → ∀ m ∈ ms,
      (∀ t, .called (.renew t) ∉ m.seen) ∧ (∀ c t, .called (.revoke c t) ∉ m.seen) ∧
        ∀ c : Option Nat, m.Serves (c.elim .poll .check) → m.Rests c) ∧
    (∀ past m later, ms = past ++ m :: later → ∀ t, m.after.held = some t → t.expires = false →
      Lasting t later) ∧
    ∀ m ∈ ms, ∀ (c : Option Nat) t, m.Serves (c.elim .poll .check) → m.before.held = some t →
      t.isExpiring? o m.now = some true → t.renewable = false →
        m.after.held = none ∧ ∀ call, .called call ∉ m.seen := by
  refine ⟨?_, ?_, ?_, ?_⟩
  · rintro past m later rfl t called
    exact h.eligible logged renewed called
  · rintro secret rfl m hm
    exact h.rests_of_configured logged hm
  · rintro past m later rfl t held unending
    exact h.lasting uses held unending
  · intro m hm c t served held expiring fixed
    cases served.checks (h.steps m hm) (h.before_discipline m hm) held expiring with
    | rests left =>
      rw [expiring] at left
      cases left
    | renews _ renewable =>
      rw [fixed] at renewable
      cases renewable
    | drops _ _ emptied uncalled => exact ⟨emptied, uncalled⟩

end

/-! ## A lease that is renewed, and a token without one -/

/-- The lent token, renewed two seconds before its end. -/
def relent : Token := lent.withLease 10 true (Span.ofSeconds 8)

def renewedInTime : List Move :=
  checkedAt (Span.ofSeconds 8) ++
    [⟨Span.ofSeconds 8, .answered (.ok relent), resting (some lent) (some (.renewal (some 2) lent)) [],
      resting (some relent) none [], [.replied 2 (.outcome .renewed)]⟩]

def configured : Token := .fixed "s.static" 0

/-- A configured token that is looked at and asked for a day later. -/
def unending : List Move :=
  let later := Span.ofSeconds 86400
  [⟨0, .demand (.token 1), resting none none [], resting none none [.token 1], []⟩,
    ⟨0, .acquire, resting none none [.token 1], resting none (some (.login 1)) [], [.called .login]⟩,
    ⟨0, .answered (.ok configured), resting none (some (.login 1)) [], resting (some configured) none [],
      [.replied 1 (.token (.ok configured))]⟩,
    ⟨later, .demand (.check 2), resting (some configured) none [], resting (some configured) none [.check 2], []⟩,
    ⟨later, .acquire, resting (some configured) none [.check 2], resting (some configured) none [],
      [.replied 2 (.outcome .idle)]⟩,
    ⟨later, .demand (.token 3), resting (some configured) none [], resting (some configured) none [.token 3], []⟩,
    ⟨later, .acquire, resting (some configured) none [.token 3], resting (some configured) none [],
      [.replied 3 (.token (.ok configured))]⟩]

theorem renewedInTime_history :
    History (start (.renewing unpolled)) renewedInTime (resting (some relent) none []) := by
  have expiring : lent.isExpiring? unpolled (Span.ofSeconds 8) = some true := by decide +kernel
  exact (checkedAt_history expiring).concat rfl

theorem unending_history :
    History (start (.renewing unpolled)) unending (resting (some configured) none []) := by
  refine .cons rfl <| .cons rfl <| .cons rfl <| .cons rfl <| .cons rfl <| .cons rfl <| .cons rfl (.nil _)

def renewalUrl : Url :=
  { Store.loopback with
    path := .segments ["v1".toList, "auth".toList, "token".toList, "renew-self".toList] }

/-- The renewal of the lent token ends with what any answer to it comes to. -/
theorem renew_lent_may_end (answer : Answer) :
    (Store.loopbackClient.renew lent).Ends (Span.ofSeconds 8)
      ⟨Span.ofSeconds 8, Store.Client.renewedToken lent answer (Span.ofSeconds 8)⟩ := by
  have url : Store.loopbackClient.url "auth/token/renew-self" = .ok renewalUrl :=
    Store.ok_of_toOption (by decide +kernel)
  have formed : Store.Client.formFault?
      { verb := .post, url := renewalUrl, token := some lent.text, body := some (.object []) } = none := by
    decide +kernel
  exact Store.Client.call_may_end url formed (Nat.le_refl _) answer

theorem relent_ends :
    (Store.loopbackClient.renew lent).Ends (Span.ofSeconds 8) ⟨Span.ofSeconds 8, .ok relent⟩ := by
  have renews : Store.Client.renewedToken lent lending (Span.ofSeconds 8) = .ok relent :=
    Store.ok_of_toOption (by decide +kernel)
  rw [← renews]
  exact renew_lent_may_end lending

theorem checkedAt_logged {now : Instant} {m : Move} (unasked : m.loginAnswer? = none) :
    LoginsBy Store.loopbackClient byCertificate (checkedAt now ++ [m]) := by
  refine .of_constant (fun result => by cases result <;> rfl) ?_
  unfold checkedAt
  simp only [List.cons_append, List.nil_append, List.forall_mem_cons]
  refine ⟨nofun, nofun, ?_, nofun, nofun, by simp [unasked], by simp⟩
  rintro result ⟨⟩
  exact ⟨bare, 0, granted_lending ▸ byCertificate_ends (Nat.le_refl 0) lending⟩

theorem checkedAt_renewed {now : Instant} {m : Move}
    (ends : ∀ c old result, m.before.flight = some (.renewal c old) → m.event = .answered result →
      ∃ began, (Store.loopbackClient.renew old).Ends began ⟨m.now, result⟩) :
    RenewalsBy Store.loopbackClient (checkedAt now ++ [m]) := by
  unfold RenewalsBy checkedAt
  simp only [List.cons_append, List.nil_append, List.forall_mem_cons]
  exact ⟨nofun, nofun, nofun, nofun, nofun, ends, by simp⟩

theorem renewedInTime_logged : LoginsBy Store.loopbackClient byCertificate renewedInTime :=
  checkedAt_logged rfl

theorem renewedInTime_renewed : RenewalsBy Store.loopbackClient renewedInTime := by
  apply checkedAt_renewed
  rintro c old result ⟨⟩ ⟨⟩
  exact ⟨_, relent_ends⟩

theorem unending_logged : LoginsBy Store.loopbackClient (.token ⟨"s.static"⟩) unending := by
  refine .of_constant (fun result => by cases result <;> rfl) ?_
  unfold unending
  simp only [List.forall_mem_cons]
  refine ⟨nofun, nofun, ?_, nofun, nofun, nofun, nofun, by simp⟩
  rintro result ⟨⟩
  exact ⟨bare, 0, .done _ 0⟩

/-- The lease of a login is renewed, and the configured token lasts. -/
theorem lent_renewed_configured_lasts :
    Eligible ((checkedAt (Span.ofSeconds 8)).take 4) lent ∧
      (∀ c : Option Nat, (unending[4]).Serves (c.elim .poll .check) → (unending[4]).Rests c) ∧
      Lasting configured (unending.drop 3) := by
  have renews := only_granted_leases_renewed unpolled renewedInTime_history
    (by simp [renewedInTime, checkedAt, checkAt, Move.Uses, Demand.isUse]) renewedInTime_logged
    renewedInTime_renewed
  have keeps := only_granted_leases_renewed unpolled unending_history
    (by simp [unending, Move.Uses, Demand.isUse]) unending_logged
    (by simp [RenewalsBy, unending, resting])
  refine ⟨renews.1 _ (checkAt (Span.ofSeconds 8)) _ rfl lent (List.mem_singleton_self _),
    (keeps.2.1 ⟨"s.static"⟩ rfl unending[4] (by simp [unending])).2.2,
    keeps.2.2.1 (unending.take 2) unending[2] _ rfl configured rfl rfl⟩

end Session
end SecretLayers
