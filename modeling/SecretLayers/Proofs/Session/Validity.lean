import SecretLayers.Proofs.Session.Provenance
/-!
Validity of the tokens that a session hands out. Whoever gets the slot finds a token that can be
used, and gets that, or logs in. A token is handed out when it has just been granted, or when its
lease has been looked at, so its lease is not over. A login that fails leaves the slot as it was, and
whoever comes next logs in again.
-/
namespace SecretLayers
set_option autoImplicit false

namespace Session

/-! ## What a caller finds -/

/-- What a caller does who wants the token and has the slot: the cached token is returned, or, where
the session is unauthenticated, a login is begun. -/
inductive Move.Finds (m : Move) (c : Nat) : Prop
  | cached (t : Token) (status : m.before.status? m.now ≠ some .unauthenticated)
      (held : m.before.held = some t) (kept : m.after.held = m.before.held)
      (free : m.after.flight = none) (seen : m.seen = [.replied c (.token (.ok t))])
  | nothing (status : m.before.status? m.now = some .unauthenticated)
      (kept : m.after.held = m.before.held) (flight : m.after.flight = some (.login c))
      (seen : m.seen = [.called .login])

section
variable {o : RenewalOptions} {m : Move} {c : Nat} {t : Token}

theorem unauthenticated_iff {s : Session} {now : Instant} (discipline : s.discipline = .renewing o) :
    s.status? now = some .unauthenticated ↔ ∀ t, s.held = some t → t.isExpired now = true := by
  rw [Session.status?, discipline]
  exact Discipline.status?_eq_unauthenticated_iff

theorem usable?_eq_none_iff (discipline : m.before.discipline = .renewing o) :
    m.before.discipline.usable? m.before.held m.now = none ↔
      m.before.status? m.now = some .unauthenticated := by
  rw [Session.status?, discipline]
  exact Discipline.usable?_eq_none_iff

theorem Move.Serves.finds (served : m.Serves (.token c))
    (step : m.before.step? m.now m.event = some (m.after, m.seen))
    (discipline : m.before.discipline = .renewing o) : m.Finds c := by
  cases effect_step step with
  | handsOut c' t served' usable held flight seen =>
    obtain rfl := Demand.token.inj (served.unique served')
    refine .cached t (fun status => ?_) (usable?_eq_some usable) held flight seen
    rw [← usable?_eq_none_iff discipline, usable] at status
    cases status
  | startsLogin c' served' unusable held flight seen =>
    obtain rfl := Demand.token.inj (served.unique served')
    exact .nothing ((usable?_eq_none_iff discipline).1 unusable) held flight seen
  | startsRenewal c' t served' => cases c' <;> cases served.unique served'
  | empties d served' other => exact absurd (served'.unique served) (other c)
  | logsIn _ _ event | failsLogin _ _ event | renews _ _ _ event | failsRenewal _ _ _ event =>
    rw [served.event] at event
    cases event
  | aside unanswered held flight seen =>
    -- Whoever wants the token is answered, or a login is begun: neither is aside.
    obtain ⟨rest, -, hserve⟩ := served.serve_eq step
    simp only [serve, serveToken] at hserve
    split at hserve
    · obtain ⟨-, hseen⟩ := Prod.mk.inj hserve
      have aside := seen _ (hseen ▸ List.mem_singleton_self _)
      cases aside
    · obtain ⟨-, hseen⟩ := Prod.mk.inj hserve
      have aside := seen _ (hseen ▸ List.mem_singleton_self _)
      cases aside

theorem Move.Finds.called_login_iff (h : m.Finds c) :
    .called .login ∈ m.seen ↔ m.before.status? m.now = some .unauthenticated := by
  cases h with
  | cached t status held kept free seen =>
    refine ⟨fun called => ?_, fun h => absurd h status⟩
    rw [seen] at called
    cases List.mem_singleton.1 called
  | nothing status kept flight seen =>
    exact ⟨fun _ => status, fun _ => seen ▸ List.mem_singleton_self _⟩

theorem Move.Effect.handed_valid (h : m.Effect) (discipline : m.before.discipline = .renewing o)
    (granted : ∀ t, m.login? = some t → t.isExpired m.now = false) (ht : t ∈ m.handed) :
    t.isExpired m.now = false := by
  obtain ⟨-, -, usable | login⟩ := h.handed_cases ht
  · rw [discipline] at usable
    simpa using (Option.filter_eq_some_iff.1 usable).2
  · exact granted t login

/-! ## Logins under way -/

/-- A move that begins a login for a caller, and the moves since then, during which the login keeps
the slot. -/
structure Move.Begins (l : Move) (between : List Move) (c : Nat) : Prop where
  served : l.Serves (.token c)
  called : .called .login ∈ l.seen
  busy : ∀ n ∈ between, n.after.flight = some (.login c)

/-- A login that is under way was begun by a move, and the slot is as that move found it. -/
def LoggingIn (past : List Move) (s : Session) : Prop :=
  ∀ c, s.flight = some (.login c) → ∃ earlier l between, past = earlier ++ l :: between ∧
    l.Begins between c ∧ s.held = l.before.held

theorem Move.Effect.loggingIn {past : List Move} (h : m.Effect) (hb : LoggingIn past m.before) :
    LoggingIn (past ++ [m]) m.after := by
  intro c hflight
  cases h with
  | aside unanswered held flight seen =>
    obtain ⟨earlier, l, between, rfl, begins, hheld⟩ := hb c (flight ▸ hflight)
    refine ⟨earlier, l, between ++ [m], by simp, ⟨begins.served, begins.called, ?_⟩, held.trans hheld⟩
    intro n hn
    rcases List.mem_append.1 hn with hn | hn
    · exact begins.busy n hn
    · rw [List.mem_singleton.1 hn]
      exact hflight
  | startsLogin c' served unusable held flight seen =>
    rw [flight] at hflight
    obtain rfl := Flight.login.inj (Option.some.inj hflight)
    have called : .called .login ∈ m.seen := by rw [seen]; exact List.mem_singleton_self _
    exact ⟨past, m, [], rfl, ⟨served, called, by simp⟩, held⟩
  | startsRenewal _ _ _ _ _ flight | handsOut _ _ _ _ _ flight | empties _ _ _ _ flight
    | logsIn _ _ _ _ _ flight | failsLogin _ _ _ _ _ flight | renews _ _ _ _ _ _ flight
    | failsRenewal _ _ _ _ _ _ flight =>
    rw [flight] at hflight
    cases hflight

theorem History.loggingIn {s t : Session} {ms : List Move} (h : History s ms t)
    (free : s.flight = none) :
    ∀ past m later, ms = past ++ m :: later → LoggingIn past m.before := by
  refine (h.invariant ?_ fun past m later _ step logging => (effect_step step).loggingIn logging).2
  intro c flight
  rw [free] at flight
  cases flight

/-! ## After a login has failed -/

/-- Until a login or a renewal succeeds, the slot keeps what it has, or is emptied. -/
theorem History.held_of_unsuccessful {s t : Session} {ms : List Move} (h : History s ms t)
    (unsuccessful : ∀ m ∈ ms, m.login? = none ∧ m.renewal? = none) :
    t.held = s.held ∨ t.held = none := by
  induction h with
  | nil s => exact .inl rfl
  | cons step rest ih =>
    have fails := unsuccessful _ List.mem_cons_self
    obtain ⟨-, kept | emptied⟩ | ⟨u, login, -⟩ | ⟨c, old, new, -, renewal, -⟩ :=
      (effect_step step).held_cases
    · rcases ih fun m hm => unsuccessful m (List.mem_cons_of_mem _ hm) with same | empty
      · exact .inl (same.trans kept)
      · exact .inr empty
    · rcases ih fun m hm => unsuccessful m (List.mem_cons_of_mem _ hm) with same | empty
      · exact .inr (same.trans emptied)
      · exact .inr empty
    · rw [fails.1] at login
      cases login
    · rw [fails.2] at renewal
      cases renewal

/-- A login for a caller that ended with an error: the caller is told, the slot is free and as it
was before, and until a login or a renewal succeeds everybody who wants the token logs in. -/
structure Move.Undoes (m : Move) (past later : List Move) (c : Nat) (e : Error) : Prop where
  flight : m.before.flight = some (.login c)
  told : m.seen = [.replied c (.token (.error e))]
  free : m.after.flight = none
  kept : ∃ earlier l between, past = earlier ++ l :: between ∧ l.Begins between c ∧
    m.after.held = l.before.held
  again : ∀ others n rest, later = others ++ n :: rest →
    (∀ x ∈ others, x.login? = none ∧ x.renewal? = none) →
    ∀ c', n.Serves (.token c') → .called .login ∈ n.seen

theorem Move.failsLogin_of_loginAnswer? {e : Error}
    (step : m.before.step? m.now m.event = some (m.after, m.seen))
    (answer : m.loginAnswer? = some (.error e)) :
    ∃ c, m.before.flight = some (.login c) ∧ m.seen = [.replied c (.token (.error e))] ∧
      m.after.flight = none ∧ m.after.held = m.before.held := by
  unfold Move.loginAnswer? at answer
  split at answer
  · rename_i c result before event
    obtain rfl := Option.some.inj answer
    rw [event, step?, before] at step
    obtain ⟨hafter, hseen⟩ := Prod.mk.inj (Option.some.inj step)
    exact ⟨c, before, hseen.symm, by rw [← hafter], by rw [← hafter]⟩
  · cases answer

def Clocked (ms : List Move) : Prop := ms.Pairwise fun m n => m.now ≤ n.now

theorem Clocked.le {past later : List Move} {n : Move} (h : Clocked (past ++ m :: later))
    (hn : n ∈ later) : m.now ≤ n.now :=
  (List.pairwise_cons.1 (List.pairwise_append.1 h).2.1).1 n hn

theorem History.undoes {past later : List Move} {s : Session} {e : Error}
    (h : History (start (.renewing o)) (past ++ m :: later) s) (clock : Clocked (past ++ m :: later))
    (answer : m.loginAnswer? = some (.error e)) : ∃ c, m.Undoes past later c e := by
  have step := h.steps m (by simp)
  obtain ⟨c, flight, told, free, same⟩ := Move.failsLogin_of_loginAnswer? step answer
  obtain ⟨earlier, l, between, rfl, begins, hheld⟩ := h.loggingIn rfl past m later rfl c flight
  refine ⟨c, flight, told, free, ⟨earlier, l, between, rfl, begins, same.trans hheld⟩, ?_⟩
  rintro others n rest rfl unsuccessful c' served
  -- What the login found had expired by then, so it still has, if it is there at all.
  have expired : ∀ t, l.before.held = some t → t.isExpired l.now = true := by
    have discipline : l.before.discipline = .renewing o := h.before_discipline l (by simp)
    have finds := begins.served.finds (h.steps l (by simp)) discipline
    exact (unauthenticated_iff discipline).1 (finds.called_login_iff.1 begins.called)
  have le : l.now ≤ n.now := by
    have clock' : Clocked (earlier ++ l :: (between ++ m :: (others ++ n :: rest))) := by
      simpa using clock
    exact clock'.le (by simp)
  have left : n.before.held = m.after.held ∨ n.before.held = none := by
    obtain ⟨-, -, hlater⟩ := h.around
    exact hlater.around.1.held_of_unsuccessful unsuccessful
  have discipline : n.before.discipline = .renewing o := h.before_discipline n (by simp)
  refine (served.finds (h.steps n (by simp)) discipline).called_login_iff.2 ?_
  refine (unauthenticated_iff discipline).2 fun t ht => ?_
  rcases left with kept | emptied
  · exact Token.isExpired_later (expired t (by rw [← ht, kept, same, hheld])) le
  · rw [emptied] at ht
    cases ht

/-! ## The whole -/

/-- Whatever the strategy of its logins and whatever the store answers, a session hands out tokens
that are not over; whoever gets the slot and wants the token logs in just where the session is
unauthenticated, and is given the cached token elsewhere; and a login that fails is told of and
undone. -/
theorem handed_out_valid (o : RenewalOptions) {client : Store.Client} {strategy : Auth.Strategy}
    {ms : List Move} {s : Session} (h : History (start (.renewing o)) ms s) (clock : Clocked ms)
    (logged : LoginsBy client strategy ms) :
    (∀ m ∈ ms, ∀ t ∈ m.handed, t.isExpired m.now = false) ∧
    (∀ m ∈ ms, ∀ c, m.Serves (.token c) → m.Finds c) ∧
    (∀ m ∈ ms, .called .login ∈ m.seen ↔
      (∃ c, m.Serves (.token c)) ∧ m.before.status? m.now = some .unauthenticated) ∧
    ∀ past m later e, ms = past ++ m :: later → m.loginAnswer? = some (.error e) →
      ∃ c, m.Undoes past later c e := by
  have finds (m : Move) (hm : m ∈ ms) (c : Nat) (served : m.Serves (.token c)) : m.Finds c :=
    served.finds (h.steps m hm) (h.before_discipline m hm)
  refine ⟨fun m hm t ht => ?_, finds, fun m hm => ?_, ?_⟩
  · refine (h.effect m hm).handed_valid (h.before_discipline m hm) (fun t login => ?_) ht
    exact (logged.obtains hm login).isExpired_eq_false
  · constructor
    · intro called
      obtain ⟨c, served, -⟩ := (h.effect m hm).startsLogin_of_mem called
      exact ⟨⟨c, served⟩, (finds m hm c served).called_login_iff.1 called⟩
    · rintro ⟨⟨c, served⟩, status⟩
      exact (finds m hm c served).called_login_iff.2 status
  · rintro past m later e rfl answer
    exact h.undoes clock answer

end

/-! ## A login that is repeated -/

def refusing : Answer := { status := 403, body := "" }

def refused : Error := Store.Client.loginRejected "TLS Certificates" (Store.errorMessage "")

theorem serveToken_logs_in {s : Session} {now : Instant}
    (unusable : s.discipline.usable? s.held now = none) (c : Nat) :
    s.serveToken now c = ({ s with flight := some (.login c) }, [.called .login]) := by
  rw [serveToken, unusable]

/-- Twenty seconds after the first login, the second one fails, and so there is a third. -/
def relapsing : List Move :=
  let late := Span.ofSeconds 20
  [⟨0, .demand (.token 1), resting none none [], resting none none [.token 1], []⟩,
    ⟨0, .acquire, resting none none [.token 1], resting none (some (.login 1)) [], [.called .login]⟩,
    ⟨0, .answered (.ok lent), resting none (some (.login 1)) [], resting (some lent) none [],
      [.replied 1 (.token (.ok lent))]⟩,
    ⟨late, .demand (.token 2), resting (some lent) none [], resting (some lent) none [.token 2], []⟩,
    ⟨late, .acquire, resting (some lent) none [.token 2], resting (some lent) (some (.login 2)) [],
      [.called .login]⟩,
    ⟨late, .answered (.error refused), resting (some lent) (some (.login 2)) [],
      resting (some lent) none [], [.replied 2 (.token (.error refused))]⟩,
    ⟨late, .demand (.token 3), resting (some lent) none [], resting (some lent) none [.token 3], []⟩,
    ⟨late, .acquire, resting (some lent) none [.token 3], resting (some lent) (some (.login 3)) [],
      [.called .login]⟩]

theorem relapsing_history :
    History (start (.renewing unpolled)) relapsing (resting (some lent) (some (.login 3)) []) := by
  have expired : lent.isExpired (Span.ofSeconds 20) = true := by decide +kernel
  have unusable : (Discipline.renewing unpolled).usable? (some lent) (Span.ofSeconds 20) = none :=
    Discipline.usable?_eq_none_iff.2 <| Discipline.status?_eq_unauthenticated_iff.2 fun t ht =>
      Option.some.inj ht ▸ expired
  have logsIn := serveToken_logs_in (s := resting (some lent) none []) unusable
  exact .cons rfl <| .cons rfl <| .cons rfl <| .cons rfl <| .cons (congrArg some (logsIn 2)) <|
    .cons rfl <| .cons rfl <| .cons (congrArg some (logsIn 3)) (.nil _)

theorem relapsing_logged : LoginsBy Store.loopbackClient byCertificate relapsing := by
  refine .of_constant (fun result => by cases result <;> rfl) ?_
  unfold relapsing
  simp only [List.forall_mem_cons]
  refine ⟨nofun, nofun, ?_, nofun, nofun, ?_, nofun, nofun, by simp⟩
  · rintro result ⟨⟩
    exact ⟨bare, 0, granted_lending ▸ byCertificate_ends (Nat.le_refl 0) lending⟩
  · rintro result ⟨⟩
    exact ⟨bare, 0, byCertificate_ends (Nat.zero_le _) refusing⟩

/-- The third login of the session that has relapsed comes of the second. -/
theorem failed_login_is_repeated :
    Auth.Strategy.ofConfig certified "" = .ok byCertificate ∧
      History (start (.renewing unpolled)) relapsing (resting (some lent) (some (.login 3)) []) ∧
      Clocked relapsing ∧ LoginsBy Store.loopbackClient byCertificate relapsing ∧
      (∀ t ∈ (relapsing[2]).handed, t.isExpired 0 = false) ∧
      ∃ c, (relapsing[5]).Undoes (relapsing.take 5) (relapsing.drop 6) c refused := by
  have clock : Clocked relapsing := by
    unfold Clocked relapsing
    simp
  obtain ⟨valid, -, -, undoes⟩ :=
    handed_out_valid unpolled relapsing_history clock relapsing_logged
  exact ⟨ofConfig_certified, relapsing_history, clock, relapsing_logged,
    valid relapsing[2] (by simp [relapsing]), undoes _ _ _ _ rfl rfl⟩

end Session
end SecretLayers
