import SecretLayers.Proofs.Session.Validity
import SecretLayers.Proofs.Session.Waiting
/-!
Revocation by shutdowns. A shutdown takes the token out of the slot before the store is asked to
revoke it, and the slot is free then. So the texts of the tokens that are revoked, followed by that of
the token in the slot, are some of those that logins have brought, in their order: where logins
bring different tokens, none is revoked twice, and none is handed out again.
-/
namespace SecretLayers
set_option autoImplicit false

namespace Session

/-! ## What a removal does -/

/-- What a removal for a caller does with the token that it finds: the token leaves the slot, and
one that came from a login is to be revoked. -/
inductive Move.Removes (m : Move) (c : Nat) : Prop
  | revokes (t : Token) (held : m.before.held = some t) (login : t.isFromLogin = true)
      (emptied : m.after.held = none) (seen : m.seen = [.called (.revoke c t)])
  | leaves (other : ∀ t, m.before.held = some t → t.isFromLogin = false)
      (emptied : m.after.held = none) (seen : m.seen = [.replied c .done])

def Move.revoked (m : Move) : List Token :=
  m.seen.filterMap fun
    | .called (.revoke _ t) => some t
    | _ => none

def revocations (ms : List Move) : List Token := ms.flatMap Move.revoked

section
variable {client : Store.Client} {m : Move} {c : Nat} {t u : Token} {s : Session} {now : Instant}
  {past ms : List Move}

theorem Move.Serves.removes (served : m.Serves (.removal c))
    (step : m.before.step? m.now m.event = some (m.after, m.seen)) : m.Removes c := by
  obtain ⟨rest, -, hserve⟩ := served.serve_eq step
  simp only [serve, serveRemoval, withQueue] at hserve
  split at hserve
  · rename_i t found
    obtain ⟨held, login⟩ := Option.filter_eq_some_iff.1 found
    have hafter : _ = m.after := congrArg Prod.fst hserve
    exact .revokes t held login (by rw [← hafter]) (congrArg Prod.snd hserve).symm
  · rename_i nothing
    have hafter : _ = m.after := congrArg Prod.fst hserve
    refine .leaves (fun t held => ?_) (by rw [← hafter]) (congrArg Prod.snd hserve).symm
    rw [held] at nothing
    simpa [Option.filter] using nothing

theorem revoke_notMem_serve (s : Session) (now : Instant) {d : Demand}
    (other : d ≠ .removal c) : .called (.revoke c t) ∉ (s.serve now d).2 := by
  cases d with
  | token c' => simp only [serve, serveToken]; split <;> simp
  | check c' =>
    simp only [serve, serveCheck]
    split <;> simp [abandon, conclude]
  | poll =>
    simp only [serve, serveCheck]
    split <;> simp [abandon, conclude]
  | status c' => simp only [serve, serveStatus]; split <;> simp
  | removal c' =>
    simp only [serve, serveRemoval]
    split
    · simp only [List.mem_singleton, Action.called.injEq, Call.revoke.injEq, not_and]
      rintro rfl
      exact absurd rfl other
    · simp
  | invalidation c' => simp [serve]

theorem revoke_notMem_land (s : Session) (f : Flight) (result : Except Error Token) :
    .called (.revoke c t) ∉ (s.land f result).2 := by
  cases f with
  | login c' => cases result <;> simp [land]
  | renewal c' old => cases c' <;> cases result <;> simp [land, conclude]

theorem Move.serves_of_revoke (step : m.before.step? m.now m.event = some (m.after, m.seen))
    (h : .called (.revoke c t) ∈ m.seen) : m.Serves (.removal c) := by
  obtain ⟨now, e, s, s', seen⟩ := m
  dsimp only at step h
  cases step_of_step? step with
  | @acquire _ d rest free first =>
    by_cases removal : d = .removal c
    · exact ⟨rfl, free, rest, removal ▸ first⟩
    · exact absurd h (revoke_notMem_serve (s.withQueue rest) now removal)
  | @answered _ f flight result => exact absurd h (revoke_notMem_land s f result)
  | revoked => cases List.mem_singleton.1 h
  | demand | launch | tick | stop | shutdownFirst | shutdown | join | drop => cases h

/-- A token is sent to be revoked only when it leaves the slot for a shutdown, and only if it came
from a login. -/
theorem Move.removes_of_revoke (step : m.before.step? m.now m.event = some (m.after, m.seen))
    (h : .called (.revoke c t) ∈ m.seen) :
    m.Serves (.removal c) ∧ m.before.held = some t ∧ t.isFromLogin = true ∧ m.after.held = none ∧
      m.seen = [.called (.revoke c t)] := by
  have served := Move.serves_of_revoke step h
  cases served.removes step with
  | revokes u held login emptied seen =>
    rw [seen] at h
    obtain ⟨-, rfl⟩ := Call.revoke.inj (Action.called.inj (List.mem_singleton.1 h))
    exact ⟨served, held, login, emptied, seen⟩
  | leaves other emptied seen =>
    rw [seen] at h
    cases List.mem_singleton.1 h

theorem Move.mem_revoked : t ∈ m.revoked ↔ ∃ c, .called (.revoke c t) ∈ m.seen := by
  simp only [Move.revoked, List.mem_filterMap]
  constructor
  · rintro ⟨a, ha, heq⟩
    split at heq
    · rename_i c u
      obtain rfl := Option.some.inj heq
      exact ⟨c, ha⟩
    · cases heq
  · rintro ⟨c, hc⟩
    exact ⟨_, hc, rfl⟩

theorem Move.revoked_cases (step : m.before.step? m.now m.event = some (m.after, m.seen)) :
    m.revoked = [] ∨ m.login? = none ∧ ∃ t, m.before.held = some t ∧ m.after.held = none ∧ m.revoked = [t] := by
  rcases List.eq_nil_or_concat' m.revoked with nothing | ⟨ts, t, some⟩
  · exact .inl nothing
  · right
    have mem : t ∈ m.revoked := by
      rw [some]
      exact List.mem_append_right _ (List.mem_singleton_self t)
    obtain ⟨c, hc⟩ := Move.mem_revoked.1 mem
    obtain ⟨served, held, -, emptied, seen⟩ := Move.removes_of_revoke step hc
    refine ⟨Move.login?_of_unanswered (by simp [served.event]), t, held, emptied, ?_⟩
    rw [Move.revoked, seen]
    rfl

/-! ## Accounts of tokens -/

/-- The texts of what has been revoked and of what is held, as some of those of the logins. -/
def Accounted (past : List Move) (s : Session) : Prop :=
  ((revocations past ++ s.held.toList).map Token.text).Sublist ((logins past).map Token.text)

theorem revocations_concat (ms : List Move) (m : Move) : revocations (ms ++ [m]) = revocations ms ++ m.revoked := by
  simp [revocations]

theorem Move.accounted (step : m.before.step? m.now m.event = some (m.after, m.seen))
    (renews : m.before.RenewsHeld)
    (same : ∀ old new, m.renewal? = some (old, new) → new.text = old.text)
    (h : Accounted past m.before) : Accounted (past ++ [m]) m.after := by
  have only : ((revocations past).map Token.text).Sublist ((logins past).map Token.text) := by
    refine List.Sublist.trans ?_ h
    rw [List.map_append]
    exact List.sublist_append_left _ _
  unfold Accounted at h ⊢
  rw [revocations_concat, logins_concat]
  -- A revoked token takes its own place in the list; otherwise only the last place can change.
  rcases Move.revoked_cases step with nothing | ⟨login, t, held, emptied, revoked⟩
  · rw [nothing, List.append_nil]
    obtain ⟨login, kept | emptied⟩ | ⟨t, login, held⟩ | ⟨c, old, new, login, renewal, flight, held⟩ :=
      (effect_step step).held_cases
    · simpa [show m.login? = none from login, show m.after.held = m.before.held from kept] using h
    · simpa [show m.login? = none from login, show m.after.held = none from emptied] using only
    · rw [show m.login? = some t from login, show m.after.held = some t from held]
      simpa using only.append (List.Sublist.refl [t.text])
    · rw [show m.login? = none from login, show m.after.held = some new from held]
      rw [renews c old flight] at h
      simpa [same old new renewal] using h
  · rw [login, emptied, revoked]
    rw [held] at h
    simpa using h

theorem History.accounted {d : Discipline} (h : History (start d) ms s)
    (renewed : RenewalsBy client ms) : Accounted ms s := by
  have begun : Accounted [] (start d) ∧ (start d).RenewsHeld := by
    refine ⟨?_, (start_rooted d).2⟩
    cases d <;> exact .slnil
  refine (h.invariant (P := fun past s => Accounted past s ∧ s.RenewsHeld) begun ?_).1.1
  rintro past m later hms step ⟨accounted, renews⟩
  have hm : m ∈ ms := hms ▸ List.mem_append_right past List.mem_cons_self
  refine ⟨Move.accounted step renews (fun old new renewal => ?_) accounted, (effect_step step).renewsHeld renews⟩
  obtain ⟨seconds, renewable, rfl⟩ := renewed.withLease hm renewal
  rfl

/-- A token that is handed out comes of a login after those of all tokens revoked so far. -/
theorem History.handed_accounted {d : Discipline} {n : Move} {later : List Move}
    (h : History (start d) (past ++ n :: later) s) (renewed : RenewalsBy client (past ++ n :: later))
    (hu : u ∈ n.handed) :
    ((revocations (past ++ [n]) ++ [u]).map Token.text).Sublist
      ((logins (past ++ n :: later)).map Token.text) := by
  obtain ⟨hpast, step, -⟩ := h.around
  have sub : past ++ [n] ⊆ past ++ n :: later := by simp
  have accounted := (hpast.concat step).accounted fun m hm => renewed m (sub hm)
  have held : n.after.held = some u := ((effect_step step).handed_cases hu).1
  rw [Accounted, held] at accounted
  refine accounted.trans (List.Sublist.map Token.text ?_)
  have whole : logins (past ++ n :: later) = logins (past ++ [n]) ++ logins later := by
    rw [← logins_append, List.append_assoc, List.singleton_append]
  rw [whole]
  exact List.sublist_append_left _ _

theorem History.text_ne_of_revoked {d : Discipline} {n : Move} {later : List Move}
    (h : History (start d) (past ++ n :: later) s) (renewed : RenewalsBy client (past ++ n :: later))
    (distinct : ((logins (past ++ n :: later)).map Token.text).Nodup)
    (ht : t ∈ revocations past) (hu : u ∈ n.handed) : u.text ≠ t.text := by
  have nodup := (h.handed_accounted renewed hu).nodup distinct
  rw [List.map_append] at nodup
  have revokedText : t.text ∈ (revocations (past ++ [n])).map Token.text := by
    rw [revocations_concat]
    exact List.mem_map_of_mem (List.mem_append_left _ ht)
  have handedText : u.text ∈ [u].map Token.text := List.mem_singleton_self _
  exact fun same => (List.nodup_append.1 nodup).2.2 _ revokedText _ handedText same.symm

end

/-! ## The whole -/

/-- How a session that is used and shut down treats the tokens that it holds. -/
structure ShutsDown (ms : List Move) (s : Session) : Prop where
  /-- A token is revoked for a shutdown only, when it has left the slot, and if a login brought it. -/
  revokes : ∀ past m later, ms = past ++ m :: later → ∀ c t, .called (.revoke c t) ∈ m.seen →
    (∃ l ∈ past, l.event = .shutdown c) ∧ m.Serves (.removal c) ∧ m.before.held = some t ∧
      m.after.held = none ∧ t.isFromLogin = true
  /-- No token is revoked twice. -/
  once : ((revocations ms).map Token.text).Nodup
  /-- A shutdown takes the token when no login and no renewal is under way, and has it revoked if a
  login brought it. -/
  removes : ∀ m ∈ ms, ∀ c, m.Serves (.removal c) → m.before.flight = none ∧ m.Removes c
  /-- Every shutdown has been served or waits. -/
  served : ∀ c, shutdowns c ms = s.waiting c + removals c ms
  /-- While it waits, the store has to answer a login or a renewal, or something can happen. -/
  proceeds : ∀ c, 0 < s.waiting c → ∀ now,
    s.flight.isSome ∨ ∃ e ∈ system.urgent s, (s.step? now e).isSome
  /-- Nobody is given a token that has been taken out and revoked. -/
  forgets : ∀ past m later, ms = past ++ m :: later → ∀ t ∈ m.revoked, ∀ n ∈ later, ∀ u ∈ n.handed,
    u.text ≠ t.text
  /-- How a revocation ends makes no difference. -/
  ends : ∀ m ∈ ms, ∀ c result, m.event = .revoked c result →
    m.after = { m.before with revoking := m.before.revoking.erase c } ∧ m.seen = [.replied c .done]

theorem History.shutsDown {client : Store.Client} {d : Discipline} {ms : List Move} {s : Session}
    (h : History (start d) ms s) (uses : ∀ m ∈ ms, m.Uses) (renewed : RenewalsBy client ms)
    (distinct : ((logins ms).map Token.text).Nodup) : ShutsDown ms s where
  revokes := by
    rintro past m later rfl c t called
    obtain ⟨hpast, step, -⟩ := h.around
    obtain ⟨served, held, login, emptied, -⟩ := Move.removes_of_revoke step called
    exact ⟨hpast.shutdown_of_served (fun n hn => uses n (by simp [hn])) served, served, held, emptied,
      login⟩
  once := by
    have accounted := h.accounted renewed
    rw [Accounted, List.map_append] at accounted
    exact ((List.sublist_append_left _ _).trans accounted).nodup distinct
  removes m hm c served := ⟨served.isFree, served.removes (h.steps m hm)⟩
  served c := by
    have balance := h.waiting_balance uses c
    rw [start_waiting, Nat.zero_add] at balance
    exact balance
  proceeds c waits now := (h.winding (start_winding d)).proceeds waits now
  forgets := by
    rintro past m later rfl t ht n hn u hu
    obtain ⟨others, rest, rfl⟩ := List.append_of_mem hn
    have hms : past ++ m :: (others ++ n :: rest) = (past ++ m :: others) ++ n :: rest := by simp
    rw [hms] at h renewed distinct
    refine h.text_ne_of_revoked renewed distinct ?_ hu
    rw [revocations, List.mem_flatMap]
    exact ⟨m, by simp, ht⟩
  ends := by
    rintro ⟨now, e, before, after, seen⟩ hm c result rfl
    have step := h.steps _ hm
    dsimp only at step ⊢
    cases step_of_step? step with
    | revoked waits result => exact ⟨rfl, rfl⟩

end Session
end SecretLayers
