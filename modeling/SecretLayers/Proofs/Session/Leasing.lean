import SecretLayers.Proofs.Session.Eligibility
/-!
The lease of a token across its renewals. The store may renew a token and say nothing of a lease, or
grant no seconds. With a login such a token never expires, and a renewal is read in the same way: so
a token that had a lease comes back without one, is handed out for ever, and nobody logs in again.
All other ends of a check leave the slot empty or a lease in it.
-/
namespace SecretLayers
set_option autoImplicit false

/-! ## Answers to renewals -/

namespace Store.Client
variable {answer : Answer} {old t : Token} {now : Instant}

/-- The store renews the token, but for no time. -/
def GrantsNoTime (answer : Answer) : Prop :=
  answer.isSuccess = true ∧ ∃ r g, Response.parse? answer.body = some r ∧ r.grant = some g ∧
    (g.leaseSeconds = none ∨ g.leaseSeconds = some 0)

theorem renewedToken_ok_iff :
    renewedToken old answer now = .ok t ↔ answer.isSuccess = true ∧ ∃ r g,
      Response.parse? answer.body = some r ∧ r.grant = some g ∧ g.renew old now = t := by
  unfold renewedToken
  cases success : answer.isSuccess with
  | false => simp
  | true =>
    cases body : Response.parse? answer.body with
    | none => simp
    | some r => cases grant : r.grant <;> simp [grant]

theorem grantsNoTime_iff (h : renewedToken old answer now = .ok t) :
    GrantsNoTime answer ↔ t.lease.seconds = 0 := by
  obtain ⟨success, r, g, body, grant, rfl⟩ := renewedToken_ok_iff.1 h
  have seconds : (g.renew old now).lease.seconds = g.leaseSeconds.getD 0 := rfl
  rw [seconds]
  constructor
  · rintro ⟨-, r', g', body', grant', none⟩
    obtain rfl := Option.some.inj (body.symm.trans body')
    obtain rfl := Option.some.inj (grant.symm.trans grant')
    rcases none with none | none <;> rw [none] <;> rfl
  · intro none
    refine ⟨success, r, g, body, grant, ?_⟩
    cases said : g.leaseSeconds with
    | none => exact .inl rfl
    | some n =>
      rw [said] at none
      exact .inr (congrArg some none)

theorem not_grantsNoTime_of_error {e : Error} (h : renewedToken old answer now = .error e) :
    ¬ GrantsNoTime answer := by
  rintro ⟨success, r, g, body, grant, -⟩
  have renewed : renewedToken old answer now = .ok (g.renew old now) :=
    renewedToken_ok_iff.2 ⟨success, r, g, body, grant, rfl⟩
  rw [h] at renewed
  cases renewed

end Store.Client

namespace Session
open Store.Client (GrantsNoTime renewedToken grantsNoTime_iff)

/-! ## Tokens that run out -/

/-- The slot is empty, or its token has a lease. -/
def Leased (s : Session) : Prop := ∀ t, s.held = some t → 0 < t.lease.seconds

/-- From some instant on, whoever wants the token logs in. -/
def RunsOut (s : Session) : Prop :=
  ∃ bound, ∀ now, bound ≤ now → ∀ c, (s.serveToken now c).2 = [.called .login]

section
variable {o : RenewalOptions} {s u : Session} {f : Flight} {m first last : Move} {answer : Answer}
  {client : Store.Client} {ms past rest : List Move} {c : Option Nat} {t : Token}

theorem isExpired_at_end (leased : 0 < t.lease.seconds) {now : Instant}
    (late : t.lease.start + Span.ofSeconds t.lease.seconds ≤ now) : t.isExpired now = true := by
  have nothing : t.lease.remaining now = 0 := by
    apply Nat.sub_eq_zero_of_le
    exact Nat.le_sub_of_add_le' late
  exact Token.isExpired_eq_true_iff.2 ⟨Token.expires_iff.2 leased, nothing⟩

theorem leased_iff_runsOut (discipline : s.discipline = .renewing o) : s.Leased ↔ s.RunsOut := by
  constructor
  · intro leased
    have unusable (now : Instant) (expired : ∀ t, s.held = some t → t.isExpired now = true) :
        s.discipline.usable? s.held now = none := by
      rw [discipline, Discipline.usable?_eq_none_iff, Discipline.status?_eq_unauthenticated_iff]
      exact expired
    cases held : s.held with
    | none =>
      refine ⟨0, fun now _ c => ?_⟩
      rw [serveToken_logs_in (unusable now (by simp [held])) c]
    | some t =>
      refine ⟨t.lease.start + Span.ofSeconds t.lease.seconds, fun now late c => ?_⟩
      have expired : ∀ u, s.held = some u → u.isExpired now = true := by
        intro u hu
        obtain rfl := Option.some.inj (held.symm.trans hu)
        exact isExpired_at_end (leased t held) late
      rw [serveToken_logs_in (unusable now expired) c]
  · rintro ⟨bound, logsIn⟩ t held
    by_contra unending
    have expires : t.expires = false := by
      rw [Bool.eq_false_iff]
      intro expires
      exact unending (Token.expires_iff.1 expires)
    have usable : s.discipline.usable? s.held bound = some t := by
      simp [discipline, held, Discipline.usable?, Token.isExpired_of_unending expires]
    have served := logsIn bound (Nat.le_refl bound) 0
    rw [serveToken, usable] at served
    cases List.cons.inj served |>.1

/-! ## From the beginning of a check to its end -/

/-- The store's answer to the renewal that keeps the slot. -/
def Move.RenewalAnswered (m : Move) (answer : Answer) : Prop :=
  ∃ c old, m.before.flight = some (.renewal c old) ∧
    m.event = .answered (renewedToken old answer m.now)

def Move.IsAnswer (m : Move) : Prop := ∃ result, m.event = .answered result

/-- A check ends at once, or, where a renewal has begun, with the answer to it. -/
inductive CheckEnds (first : Move) : List Move → Move → Prop
  | here (rest : List Move) (free : first.after.flight = none) : CheckEnds first rest first
  | answered (during : List Move) (last : Move) (later : List Move)
      (begun : first.after.flight ≠ none) (waits : ∀ n ∈ during, ¬ n.IsAnswer) (answer : last.IsAnswer) :
      CheckEnds first (during ++ last :: later) last

/-- While no answer comes, a call keeps the slot as it is. -/
theorem History.kept_of_unanswered (h : History s ms u) (flight : s.flight = some f)
    (waits : ∀ n ∈ ms, ¬ n.IsAnswer) : u.flight = some f ∧ u.held = s.held := by
  induction h with
  | nil s => exact ⟨flight, rfl⟩
  | @cons now e s s' u seen ms step rest ih =>
    have kept : s'.flight = some f ∧ s'.held = s.held := by
      have busy : ¬ s.flight = none := by simp [flight]
      cases effect_step step with
      | aside unanswered held same => exact ⟨same.trans flight, held⟩
      | handsOut _ _ served | startsLogin _ served | startsRenewal _ _ served | empties _ served =>
        exact absurd served.isFree busy
      | logsIn _ _ event | failsLogin _ _ event | renews _ _ _ event | failsRenewal _ _ _ event =>
        exact absurd ⟨_, event⟩ (waits _ List.mem_cons_self)
    obtain ⟨later, held⟩ := ih kept.1 fun n hn => waits n (List.mem_cons_of_mem _ hn)
    exact ⟨later, held.trans kept.2⟩

/-- What an answer to a renewal leaves in the slot. -/
theorem Move.Effect.leased_iff (h : m.Effect) (answered : m.RenewalAnswered answer) :
    m.after.Leased ↔ ¬ GrantsNoTime answer := by
  obtain ⟨c, old, flight, event⟩ := answered
  cases h with
  | aside unanswered => exact absurd event (unanswered _)
  | handsOut _ _ served | startsLogin _ served | startsRenewal _ _ served | empties _ served =>
    rw [served.isFree] at flight
    cases flight
  | logsIn _ _ _ before | failsLogin _ _ _ before =>
    rw [before] at flight
    cases flight
  | renews c' old' new event' before held =>
    rw [event'] at event
    have renewed : renewedToken old answer m.now = .ok new := (Event.answered.inj event).symm
    rw [grantsNoTime_iff renewed, ← ne_eq, ← Nat.pos_iff_ne_zero]
    constructor
    · intro leased
      exact leased new held
    · intro leased u hu
      obtain rfl := Option.some.inj (held.symm.trans hu)
      exact leased
  | failsRenewal c' old' e event' before held =>
    rw [event'] at event
    have refused := Store.Client.not_grantsNoTime_of_error (Event.answered.inj event).symm
    refine iff_of_true ?_ refused
    intro u hu
    rw [held] at hu
    cases hu

theorem RenewalsBy.exists_answer (renewed : RenewalsBy client ms) (hm : m ∈ ms) {old new : Token}
    (flight : m.before.flight = some (.renewal c old)) (event : m.event = .answered (.ok new)) :
    ∃ answer, m.RenewalAnswered answer := by
  obtain ⟨began, ends⟩ := renewed m hm c old _ flight event
  obtain ⟨answer, hanswer⟩ := Store.Client.call_ends ends
  exact ⟨answer, c, old, flight, by rw [event, hanswer]⟩

/-- A move that answers a renewal leaves a lease or nothing, unless the store has granted no time. -/
theorem Move.Effect.leased_iff_forall (h : m.Effect) (renewed : RenewalsBy client ms) (hm : m ∈ ms)
    (leased : m.before.Leased) (unasked : ∀ t, m.login? ≠ some t) :
    m.after.Leased ↔ ∀ answer, m.RenewalAnswered answer → ¬ GrantsNoTime answer := by
  by_cases answered : ∃ answer, m.RenewalAnswered answer
  · obtain ⟨answer, answered⟩ := answered
    constructor
    · intro after other hother
      exact (h.leased_iff hother).1 after
    · intro none
      exact (h.leased_iff answered).2 (none answer answered)
  · refine iff_of_true ?_ fun answer hanswer => absurd ⟨answer, hanswer⟩ answered
    intro t ht
    cases h with
    | aside _ held | handsOut _ _ _ _ held | startsLogin _ _ _ held | startsRenewal _ _ _ _ held
      | failsLogin _ _ _ _ held =>
      exact leased t (held ▸ ht)
    | empties _ _ _ held | failsRenewal _ _ _ _ _ held =>
      rw [held] at ht
      cases ht
    | logsIn c u event before held => exact absurd (by simp [Move.login?, event, before]) (unasked u)
    | renews c old new event before held =>
      exact absurd (renewed.exists_answer hm before event) answered

/-- The move that ends a check has what the check found before it, and is no login. -/
theorem CheckEnds.kept (h : History s (past ++ first :: rest) u)
    (served : first.Serves (c.elim .poll .check)) (ends : CheckEnds first rest last) :
    last ∈ past ++ first :: rest ∧ last.before.held = first.before.held ∧
      ∀ t, last.login? ≠ some t := by
  obtain ⟨-, step, hrest⟩ := h.around
  cases ends with
  | here rest free =>
    refine ⟨by simp, rfl, fun t login => ?_⟩
    unfold Move.login? at login
    rw [served.isFree] at login
    cases login
  | answered during last later begun waits answer =>
    obtain ⟨hduring, -, -⟩ := hrest.around
    cases effect_step step with
    | startsRenewal c' t served' decided held flight =>
      obtain ⟨still, kept⟩ := hduring.kept_of_unanswered flight waits
      refine ⟨by simp, kept.trans held, fun u login => ?_⟩
      unfold Move.login? at login
      rw [still] at login
      cases login
    | startsLogin c' served' =>
      cases c <;> cases served.unique served'
    | aside _ _ flight => exact absurd (flight.trans served.isFree) begun
    | handsOut _ _ _ _ _ flight | empties _ _ _ _ flight | logsIn _ _ _ _ _ flight
      | failsLogin _ _ _ _ _ flight | renews _ _ _ _ _ _ flight | failsRenewal _ _ _ _ _ _ flight =>
      exact absurd flight begun

/-- Where logins and renewals grant time, there is always a lease in the slot, or nothing. -/
theorem History.leased (h : History s ms u) (begun : s.Leased) (renewed : RenewalsBy client ms)
    (granted : ∀ r ∈ logins ms, 0 < r.lease.seconds)
    (lends : ∀ m ∈ ms, ∀ answer, m.RenewalAnswered answer → ¬ GrantsNoTime answer) :
    u.Leased ∧ ∀ m ∈ ms, m.before.Leased := by
  have kept : ∀ past m later, ms = past ++ m :: later →
      m.before.step? m.now m.event = some (m.after, m.seen) → m.before.Leased → m.after.Leased := by
    intro past m later hms step before
    have hm : m ∈ ms := hms ▸ List.mem_append_right past List.mem_cons_self
    have effect : m.Effect := effect_step step
    cases login : m.login? with
    | none => exact (effect.leased_iff_forall renewed hm before (by simp [login])).2 (lends m hm)
    | some r =>
      intro t ht
      obtain rfl := Option.some.inj ((effect.held_of_login? login).symm.trans ht)
      exact granted r (List.mem_filterMap.2 ⟨m, hm, login⟩)
  obtain ⟨last, all⟩ := h.invariant (P := fun _ s => s.Leased) begun kept
  refine ⟨last, fun m hm => ?_⟩
  obtain ⟨past, later, hms⟩ := List.append_of_mem hm
  exact all past m later hms

/-- A check that finds a token with a lease leaves the slot empty or a token with a lease, so that
the session runs out, exactly unless the store answers the renewal with a grant of no time. Where
logins and renewals all grant time, the token in the slot has a lease at any time. -/
theorem checks_keep_leases_iff (o : RenewalOptions) {client : Store.Client} {ms : List Move}
    {s : Session} (h : History (start (.renewing o)) ms s) (renewed : RenewalsBy client ms) :
    (∀ past first rest, ms = past ++ first :: rest →
      ∀ (c : Option Nat) t, first.Serves (c.elim .poll .check) → first.before.held = some t →
        0 < t.lease.seconds → ∀ last, CheckEnds first rest last →
          (last.after.Leased ↔ ∀ answer, last.RenewalAnswered answer → ¬ GrantsNoTime answer) ∧
          (∀ answer, last.RenewalAnswered answer → (last.after.Leased ↔ ¬ GrantsNoTime answer)) ∧
          (last.after.Leased ↔ last.after.RunsOut)) ∧
    ((∀ r ∈ logins ms, 0 < r.lease.seconds) →
      (∀ m ∈ ms, ∀ answer, m.RenewalAnswered answer → ¬ GrantsNoTime answer) →
        s.Leased ∧ ∀ m ∈ ms, m.before.Leased) := by
  constructor
  · rintro past first rest rfl c t served held leased last ends
    obtain ⟨mem, kept, unasked⟩ := ends.kept h served
    have effect := h.effect last mem
    have before : last.before.Leased := by
      intro u hu
      obtain rfl := Option.some.inj ((kept.trans held).symm.trans hu)
      exact leased
    have discipline : last.after.discipline = .renewing o :=
      (discipline_step (h.steps last mem)).trans (h.before_discipline last mem)
    exact ⟨effect.leased_iff_forall renewed mem before unasked, fun answer => effect.leased_iff,
      leased_iff_runsOut discipline⟩
  · intro granted lends
    exact h.leased nofun renewed granted lends

end

/-! ## A renewal for ten seconds, and one for none -/

def renewalOf (t : Token) : Move :=
  ⟨Span.ofSeconds 8, .answered (.ok t), resting (some lent) (some (.renewal (some 2) lent)) [],
    resting (some t) none [], [.replied 2 (.outcome .renewed)]⟩

theorem checkEnds_renewalOf (t : Token) :
    CheckEnds (checkAt (Span.ofSeconds 8)) [renewalOf t] (renewalOf t) :=
  .answered [] _ [] (Option.some_ne_none _) (List.forall_mem_nil _) ⟨_, rfl⟩

theorem renewed_for_ten_seconds : relent.lease.seconds = 10 ∧ (renewalOf relent).after.RunsOut := by
  have keeps := checks_keep_leases_iff unpolled renewedInTime_history renewedInTime_renewed
  have check := keeps.1 ((checkedAt (Span.ofSeconds 8)).take 4) (checkAt (Span.ofSeconds 8))
    [renewalOf relent] rfl (some 2) lent ⟨rfl, rfl, [], rfl⟩ rfl (by decide) _
    (checkEnds_renewalOf relent)
  refine ⟨rfl, check.2.2.1 ?_⟩
  rintro t ⟨⟩
  decide

/-- The answer that renews the token and grants it no seconds. -/
def grantingNoTime : Answer where
  status := 200
  body := "\x7b\"auth\":\x7b\"client_token\":\"s.1\",\"renewable\":true,\"lease_duration\":0\x7d\x7d"

/-- The lent token, after that answer. -/
def unlimited : Token := lent.withLease 0 true (Span.ofSeconds 8)

def renewedForNothing : List Move := checkedAt (Span.ofSeconds 8) ++ [renewalOf unlimited]

theorem renewedForNothing_history :
    History (start (.renewing unpolled)) renewedForNothing (resting (some unlimited) none []) := by
  have expiring : lent.isExpiring? unpolled (Span.ofSeconds 8) = some true := by decide +kernel
  exact (checkedAt_history expiring).concat rfl

theorem renewedToken_grantingNoTime :
    renewedToken lent grantingNoTime (Span.ofSeconds 8) = .ok unlimited :=
  Store.ok_of_toOption (by decide +kernel)

theorem unlimited_ends :
    (Store.loopbackClient.renew lent).Ends (Span.ofSeconds 8) ⟨Span.ofSeconds 8, .ok unlimited⟩ := by
  rw [← renewedToken_grantingNoTime]
  exact renew_lent_may_end grantingNoTime

theorem renewedForNothing_logged : LoginsBy Store.loopbackClient byCertificate renewedForNothing :=
  checkedAt_logged rfl

theorem renewedForNothing_renewed : RenewalsBy Store.loopbackClient renewedForNothing := by
  apply checkedAt_renewed
  rintro c old result ⟨⟩ ⟨⟩
  exact ⟨_, unlimited_ends⟩

/-- The check finds ten seconds of lease and leaves a token that never expires. -/
theorem renewed_for_no_time :
    History (start (.renewing unpolled)) renewedForNothing (resting (some unlimited) none []) ∧
      LoginsBy Store.loopbackClient byCertificate renewedForNothing ∧
      RenewalsBy Store.loopbackClient renewedForNothing ∧
      (checkAt (Span.ofSeconds 8)).Serves (.check 2) ∧
      (checkAt (Span.ofSeconds 8)).before.held = some lent ∧ 0 < lent.lease.seconds ∧
      CheckEnds (checkAt (Span.ofSeconds 8)) [renewalOf unlimited] (renewalOf unlimited) ∧
      renewedToken lent grantingNoTime (Span.ofSeconds 8) = .ok unlimited ∧
      (renewalOf unlimited).after.held = some unlimited ∧
      ¬ (renewalOf unlimited).after.Leased ∧ ∀ now, unlimited.isExpired now = false := by
  refine ⟨renewedForNothing_history, renewedForNothing_logged, renewedForNothing_renewed,
    ⟨rfl, rfl, [], rfl⟩, rfl, by decide, checkEnds_renewalOf unlimited, renewedToken_grantingNoTime,
    rfl, ?_, fun now => Token.isExpired_of_unending rfl⟩
  intro leased
  exact absurd (leased unlimited rfl) (Nat.lt_irrefl 0)

end Session
end SecretLayers
