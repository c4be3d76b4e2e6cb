import Mathlib.Data.List.Chain
import SecretLayers.Proofs.Session.History
/-!
One login for all who wait.

At every moment at most one login or renewal is in flight. As long as the slot is not
emptied and its token does not expire, at most one login succeeds, and all tokens handed
out are the token of one login, renewed or not. Nobody starts a login who finds a token
that can be used.
-/
namespace SecretLayers.Session
set_option autoImplicit false

/-! ## What is counted -/

/-- Calls that keep the slot. -/
def Action.keepsSlot : Action → Bool
  | .called .login | .called (.renew _) => true
  | _ => false

def Event.isAnswer : Event → Bool
  | .answered _ => true
  | _ => false

/-- How many logins and renewals have been sent. -/
def calls (ms : List Move) : Nat := (ms.flatMap Move.seen).countP Action.keepsSlot

/-- How many of them have come back. -/
def answers (ms : List Move) : Nat := ms.countP fun m => m.event.isAnswer

namespace Move

/-- The token of the login that succeeds with a move. -/
def login? (m : Move) : Option Token :=
  match m.before.flight, m.event with
  | some (.login _), .answered (.ok t) => some t
  | _, _ => none

/-- The renewal that succeeds with a move: the token that was sent, and what came back. -/
def renewal? (m : Move) : Option (Token × Token) :=
  match m.before.flight, m.event with
  | some (.renewal _ old), .answered (.ok new) => some (old, new)
  | _, _ => none

/-- The tokens that a move hands to callers. -/
def handed (m : Move) : List Token :=
  m.seen.filterMap fun
    | .replied _ (.token (.ok t)) => some t
    | _ => none

def empties (m : Move) : Prop := m.before.held.isSome ∧ m.after.held = none

instance : DecidablePred empties := fun m =>
  inferInstanceAs (Decidable (m.before.held.isSome ∧ m.after.held = none))

end Move

/-- The tokens of the logins that succeed, in their order. -/
def logins (ms : List Move) : List Token := ms.filterMap Move.login?

def handedOut (ms : List Move) : List Token := ms.flatMap Move.handed

/-- A token that comes from another by renewals. -/
def Descends (ms : List Move) : Token → Token → Prop :=
  Relation.ReflTransGen fun old new => ∃ m ∈ ms, m.renewal? = some (old, new)

/-- Whether the token in the slot can be handed out. -/
def isUsable (s : Session) (now : Instant) : Bool := (s.discipline.usable? s.held now).isSome

/-- A stretch in which the slot is not emptied and no token in it expires: one that is put
there can be used at once, and what can be used after a move still can at the next. -/
structure Steady (ms : List Move) : Prop where
  kept : ∀ m ∈ ms, ¬ m.empties
  fresh : ∀ m ∈ ms, (m.login?.isSome ∨ m.renewal?.isSome) → m.after.isUsable m.now
  lasting : ms.IsChain fun m n => m.after.isUsable m.now → n.before.isUsable n.now

/-- Nobody will log in after a move: its token can be used, and no login is under way. -/
structure Move.Settles (m : Move) : Prop where
  usable : m.after.isUsable m.now
  quiet : ∀ c, m.after.flight ≠ some (.login c)

/-! ## Flights -/

/-- Calls that have not come back: none, or one. -/
def inFlight (s : Session) : Nat := if s.flight.isSome then 1 else 0

theorem countP_aside {seen : List Action} (h : ∀ a ∈ seen, a.isAside) :
    seen.countP Action.keepsSlot = 0 := by
  rw [List.countP_eq_zero]
  intro a ha hk
  have hs := h a ha
  cases a with
  | called c => cases c <;> simp_all [Action.isAside, Action.keepsSlot]
  | replied c r => simp [Action.keepsSlot] at hk

theorem calls_cons (m : Move) (ms : List Move) :
    calls (m :: ms) = m.seen.countP Action.keepsSlot + calls ms := by
  simp [calls]

theorem answers_cons (m : Move) (ms : List Move) :
    answers (m :: ms) = (if m.event.isAnswer then 1 else 0) + answers ms := by
  simp only [answers, List.countP_cons]
  omega

/-- A call begins a flight, and its answer ends it. -/
theorem Move.Effect.balance {m : Move} (h : m.Effect) :
    m.before.inFlight + m.seen.countP Action.keepsSlot =
      m.after.inFlight + (if m.event.isAnswer then 1 else 0) := by
  unfold Session.inFlight
  cases h with
  | aside unanswered held flight seen =>
    have he : m.event.isAnswer = false := by
      cases e : m.event <;> first | rfl | exact absurd e (unanswered _)
    rw [countP_aside seen, flight, he]
    rfl
  | handsOut c t served usable held flight seen =>
    rw [seen, flight, served.isFree, served.event]; rfl
  | startsLogin c served unusable held flight seen =>
    rw [seen, flight, served.isFree, served.event]; rfl
  | startsRenewal c t served decided held flight seen =>
    rw [seen, flight, served.isFree, served.event]; rfl
  | empties d served other held flight seen =>
    rw [countP_aside seen, flight, served.isFree, served.event]; rfl
  | logsIn c t event before held flight seen => rw [seen, flight, before, event]; rfl
  | failsLogin c e event before held flight seen => rw [seen, flight, before, event]; rfl
  | renews c old new event before held flight seen =>
    rw [countP_aside seen, flight, before, event]; rfl
  | failsRenewal c old e event before held flight seen =>
    rw [countP_aside seen, flight, before, event]; rfl

theorem History.balance {s t : Session} {ms : List Move} (h : History s ms t) :
    s.inFlight + calls ms = t.inFlight + answers ms := by
  induction h with
  | nil s => rfl
  | cons step _ ih =>
    have hm := (effect_step step).balance
    rw [calls_cons, answers_cons]
    dsimp only at hm ⊢
    omega

theorem inFlight_le_one (s : Session) : s.inFlight ≤ 1 := by
  unfold inFlight
  split <;> omega

/-! ## Where the token comes from -/

theorem Move.login?_of_unanswered {m : Move} (h : ∀ result, m.event ≠ .answered result) :
    m.login? = none := by
  unfold Move.login?
  split
  · rename_i event
    exact absurd event (h _)
  · rfl

/-- What a move leaves in the slot, by where it comes from. -/
theorem Move.Effect.held_cases {m : Move} (h : m.Effect) :
    (m.login? = none ∧ (m.after.held = m.before.held ∨ m.after.held = none)) ∨
    (∃ t, m.login? = some t ∧ m.after.held = some t) ∨
    (∃ c old new, m.login? = none ∧ m.renewal? = some (old, new) ∧
      m.before.flight = some (.renewal c old) ∧ m.after.held = some new) := by
  have acquired {d : Demand} (served : m.Serves d) : m.login? = none :=
    Move.login?_of_unanswered (by simp [served.event])
  cases h with
  | aside unanswered held => exact .inl ⟨Move.login?_of_unanswered unanswered, .inl held⟩
  | handsOut c t served usable held => exact .inl ⟨acquired served, .inl held⟩
  | startsLogin c served unusable held => exact .inl ⟨acquired served, .inl held⟩
  | startsRenewal c t served decided held => exact .inl ⟨acquired served, .inl held⟩
  | empties d served other held => exact .inl ⟨acquired served, .inr held⟩
  | logsIn c t event before held =>
    exact .inr (.inl ⟨t, by simp [Move.login?, event, before], held⟩)
  | failsLogin c e event before held =>
    exact .inl ⟨by simp [Move.login?, event, before], .inl held⟩
  | renews c old new event before held =>
    exact .inr (.inr ⟨c, old, new, by simp [Move.login?, before], by simp [Move.renewal?, event, before],
      before, held⟩)
  | failsRenewal c old e event before held =>
    exact .inl ⟨by simp [Move.login?, before], .inr held⟩

/-- A renewal in flight is one of the token in the slot. -/
def RenewsHeld (s : Session) : Prop := ∀ c t, s.flight = some (.renewal c t) → s.held = some t

theorem Move.Effect.renewsHeld {m : Move} (h : m.Effect) (hb : m.before.RenewsHeld) :
    m.after.RenewsHeld := by
  intro c t hf
  cases h with
  | aside unanswered held flight =>
    rw [held]
    exact hb c t (flight ▸ hf)
  | startsRenewal c' t' served decided held flight =>
    rw [flight] at hf
    obtain ⟨-, rfl⟩ := Flight.renewal.inj (Option.some.inj hf)
    rw [held]
    exact decide?_renew decided
  | startsLogin c' served unusable held flight => simp [flight] at hf
  | handsOut _ _ _ _ _ flight | empties _ _ _ _ flight | logsIn _ _ _ _ _ flight
    | failsLogin _ _ _ _ _ flight | renews _ _ _ _ _ _ flight | failsRenewal _ _ _ _ _ _ flight =>
    simp [flight] at hf

/-- The token in the slot comes from the last login that succeeded. -/
def Rooted (ms : List Move) (s : Session) : Prop :=
  ∀ t, s.held = some t → ∃ r, (logins ms).getLast? = some r ∧ Descends ms r t

theorem Descends.mono {ms ns : List Move} {r t : Token} (sub : ms ⊆ ns) (h : Descends ms r t) :
    Descends ns r t := by
  refine Relation.ReflTransGen.mono ?_ r t h
  rintro _ _ ⟨m, hm, he⟩
  exact ⟨m, sub hm, he⟩

theorem logins_concat (ms : List Move) (m : Move) :
    logins (ms ++ [m]) = logins ms ++ m.login?.toList := by
  cases h : m.login? <;> simp [logins, h]

theorem Move.Effect.held_of_login? {m : Move} {t : Token} (h : m.Effect) (hl : m.login? = some t) :
    m.after.held = some t := by
  obtain ⟨hn, -⟩ | ⟨u, hu, held⟩ | ⟨c, old, new, hn, -⟩ := h.held_cases
  · simp [hn] at hl
  · rw [held, ← hu, hl]
  · simp [hn] at hl

/-- What a move leaves in the slot, if it is not the token of a login, was there, or renews what
was. -/
theorem Move.Effect.descends {m : Move} {t : Token} (h : m.Effect) (hb : m.before.RenewsHeld)
    (unlogged : m.login? = none) (ht : m.after.held = some t) :
    ∃ old, m.before.held = some old ∧ Descends [m] old t := by
  obtain ⟨-, hk | he⟩ | ⟨u, hl, -⟩ | ⟨c, old, new, -, hn, hf, hu⟩ := h.held_cases
  · exact ⟨t, hk ▸ ht, .refl⟩
  · simp [he] at ht
  · simp [unlogged] at hl
  · obtain rfl : new = t := Option.some.inj (hu ▸ ht)
    exact ⟨old, hb c old hf, .single ⟨m, List.mem_singleton_self m, hn⟩⟩

theorem Move.Effect.rooted {past : List Move} {m : Move} (h : m.Effect)
    (hr : Rooted past m.before) (hb : m.before.RenewsHeld) : Rooted (past ++ [m]) m.after := by
  intro t ht
  cases hl : m.login? with
  | none =>
    obtain ⟨old, hold, descends⟩ := h.descends hb hl ht
    obtain ⟨r, hlast, hd⟩ := hr old hold
    refine ⟨r, by simpa [logins_concat, hl] using hlast, ?_⟩
    exact (hd.mono (List.subset_append_left past [m])).trans
      (descends.mono (List.subset_append_right past [m]))
  | some u =>
    obtain rfl : u = t := Option.some.inj ((h.held_of_login? hl).symm.trans ht)
    exact ⟨u, by simp [logins_concat, hl], .refl⟩

theorem History.rooted {s t : Session} {past ms : List Move} (h : History s ms t)
    (hr : Rooted past s) (hb : s.RenewsHeld) : Rooted (past ++ ms) t := by
  induction h generalizing past with
  | nil s => simpa using hr
  | @cons now e s s' t seen ms step _ ih =>
    have hm := effect_step step
    rw [List.append_cons]
    exact ih (hm.rooted hr hb) (hm.renewsHeld hb)

theorem start_rooted (d : Discipline) : Rooted [] (start d) ∧ (start d).RenewsHeld := by
  cases d <;> exact ⟨by simp [Rooted, start], by simp [RenewsHeld, start]⟩

/-! ## After a token has come -/

theorem isUsable_iff {s : Session} {now : Instant} :
    s.isUsable now ↔ ∃ t, s.discipline.usable? s.held now = some t := Option.isSome_iff_exists

theorem usable?_eq_some {d : Discipline} {held : Option Token} {now : Instant} {t : Token}
    (h : d.usable? held now = some t) : held = some t := by
  cases d with
  | simple => exact h
  | renewing o => exact (Option.filter_eq_some_iff.1 h).1

theorem held_of_isUsable {s : Session} {now : Instant} (h : s.isUsable now) : s.held.isSome := by
  obtain ⟨t, ht⟩ := isUsable_iff.1 h
  simp [usable?_eq_some ht]

theorem isUsable_congr {s s' : Session} (now : Instant) (hd : s'.discipline = s.discipline)
    (hh : s'.held = s.held) : s'.isUsable now = s.isUsable now := by
  unfold isUsable
  rw [hd, hh]

/-- A move after a settled one is no login and leaves things settled. -/
theorem Move.Effect.settles {n : Move} (h : n.Effect)
    (same : n.after.discipline = n.before.discipline) (usable : n.before.isUsable n.now)
    (quiet : ∀ c, n.before.flight ≠ some (.login c)) (kept : ¬ n.empties)
    (fresh : n.login?.isSome ∨ n.renewal?.isSome → n.after.isUsable n.now) :
    n.login? = none ∧ n.Settles := by
  have isSome := held_of_isUsable usable
  have acquired {d : Demand} (served : n.Serves d) : n.login? = none :=
    Move.login?_of_unanswered (by simp [served.event])
  cases h with
  | aside unanswered held flight =>
    refine ⟨Move.login?_of_unanswered unanswered, ?_, fun c => flight ▸ quiet c⟩
    rw [isUsable_congr n.now same held]
    exact usable
  | handsOut c t served usable' held flight =>
    refine ⟨acquired served, ?_, by simp [flight]⟩
    rw [isUsable_congr n.now same held]
    exact usable
  | startsLogin c served unusable =>
    obtain ⟨t, ht⟩ := isUsable_iff.1 usable
    rw [ht] at unusable
    simp at unusable
  | startsRenewal c t served decided held flight =>
    refine ⟨acquired served, ?_, by simp [flight]⟩
    rw [isUsable_congr n.now same held]
    exact usable
  | empties d served other held => exact absurd ⟨isSome, held⟩ kept
  | logsIn c t event before => exact absurd before (quiet c)
  | failsLogin c e event before => exact absurd before (quiet c)
  | renews c old new event before held flight =>
    have hn : n.renewal? = some (old, new) := by simp [Move.renewal?, event, before]
    exact ⟨by simp [Move.login?, before], fresh (.inr (by simp [hn])), by simp [flight]⟩
  | failsRenewal c old e event before held => exact absurd ⟨isSome, held⟩ kept

theorem Steady.tail {m : Move} {ms : List Move} (h : Steady (m :: ms)) : Steady ms where
  kept n hn := h.kept n (List.mem_cons_of_mem m hn)
  fresh n hn := h.fresh n (List.mem_cons_of_mem m hn)
  lasting := h.lasting.tail

theorem Steady.right {ms ns : List Move} (h : Steady (ms ++ ns)) : Steady ns := by
  induction ms with
  | nil => exact h
  | cons m ms ih => exact ih h.tail

/-- As long as things stay steady, nobody logs in after a settled move. -/
theorem History.logins_of_settled {m : Move} {ms : List Move} {t : Session}
    (h : History m.after ms t) (steady : Steady (m :: ms)) (settled : m.Settles) :
    logins ms = [] := by
  induction ms generalizing m with
  | nil => rfl
  | cons n ms ih =>
    obtain ⟨hl, hs⟩ : n.login? = none ∧ n.Settles := by
      cases h with
      | cons step rest =>
        refine (effect_step step).settles (discipline_step step) ?_ settled.quiet
          (steady.tail.kept _ List.mem_cons_self) (steady.tail.fresh _ List.mem_cons_self)
        exact (List.isChain_cons_cons.1 steady.lasting).1 settled.usable
    have rest : History n.after ms t := by cases h with | cons _ rest => exact rest
    simpa [logins, hl] using ih rest steady.tail hs

theorem Move.Effect.settles_of_login? {m : Move} {t : Token} (h : m.Effect)
    (hl : m.login? = some t) (fresh : m.after.isUsable m.now) : m.Settles := by
  have acquired {d : Demand} (served : m.Serves d) : m.login? = none :=
    Move.login?_of_unanswered (by simp [served.event])
  cases h with
  | logsIn c u event before held flight => exact ⟨fresh, by simp [flight]⟩
  | aside unanswered => simp [Move.login?_of_unanswered unanswered] at hl
  | handsOut _ _ served | startsLogin _ served | startsRenewal _ _ served | empties _ served =>
    simp [acquired served] at hl
  | failsLogin c e event before => simp [Move.login?, event, before] at hl
  | renews _ _ _ _ before | failsRenewal _ _ _ _ before => simp [Move.login?, before] at hl

theorem logins_cons (m : Move) (ms : List Move) : logins (m :: ms) = m.login?.toList ++ logins ms := by
  cases h : m.login? <;> simp [logins, h]

theorem History.logins_length_le_one {s t : Session} {ms : List Move} (h : History s ms t)
    (steady : Steady ms) : (logins ms).length ≤ 1 := by
  induction h with
  | nil s => simp [logins]
  | @cons now e s s' t seen ms step rest ih =>
    rw [logins_cons]
    cases hl : Move.login? ⟨now, e, s, s', seen⟩ with
    | none => simpa using ih steady.tail
    | some u =>
      have fresh := steady.fresh _ List.mem_cons_self (.inl (by simp [hl]))
      have settled := (effect_step step).settles_of_login? hl fresh
      simp [rest.logins_of_settled steady settled]

/-! ## Tokens handed out -/

theorem handed_of_aside {m : Move} (h : ∀ a ∈ m.seen, a.isAside) : m.handed = [] := by
  rw [Move.handed, List.filterMap_eq_nil_iff]
  intro a ha
  have hs := h a ha
  cases a with
  | called c => rfl
  | replied c r =>
    cases r with
    | token result => simp [Action.isAside] at hs
    | outcome _ | status _ | done | undefined => rfl

theorem Move.Effect.handed_cases {m : Move} {t : Token} (h : m.Effect) (ht : t ∈ m.handed) :
    m.after.held = some t ∧ m.after.flight = none ∧
      (m.before.discipline.usable? m.before.held m.now = some t ∨ m.login? = some t) := by
  cases h with
  | handsOut c u served usable held flight seen =>
    obtain rfl : t = u := by simpa [Move.handed, seen] using ht
    exact ⟨held.trans (usable?_eq_some usable), flight, .inl usable⟩
  | logsIn c u event before held flight seen =>
    obtain rfl : t = u := by simpa [Move.handed, seen] using ht
    exact ⟨held, flight, .inr (by simp [Move.login?, event, before])⟩
  | startsLogin _ _ _ _ _ seen | startsRenewal _ _ _ _ _ _ seen | failsLogin _ _ _ _ _ _ seen =>
    simp [Move.handed, seen] at ht
  | aside _ _ _ seen | empties _ _ _ _ _ seen | renews _ _ _ _ _ _ _ seen
    | failsRenewal _ _ _ _ _ _ _ seen =>
    simp [handed_of_aside seen] at ht

/-- A token that is handed out is the one in the slot then, and can be used. -/
theorem Move.Effect.handed {m : Move} {t : Token} (h : m.Effect)
    (same : m.after.discipline = m.before.discipline)
    (fresh : m.login?.isSome ∨ m.renewal?.isSome → m.after.isUsable m.now) (ht : t ∈ m.handed) :
    m.after.held = some t ∧ m.Settles := by
  obtain ⟨held, flight, usable | login⟩ := h.handed_cases ht
  · have kept : m.after.held = m.before.held := held.trans (usable?_eq_some usable).symm
    refine ⟨held, ?_, by simp [flight]⟩
    rw [isUsable_congr m.now same kept]
    exact isUsable_iff.2 ⟨t, usable⟩
  · exact ⟨held, fresh (.inl (by simp [login])), by simp [flight]⟩

theorem logins_append (ms ns : List Move) : logins (ms ++ ns) = logins ms ++ logins ns := by
  simp [logins]

/-- In a steady stretch all tokens handed out come from the last login that succeeded. -/
theorem History.descends_of_handedOut {d : Discipline} {past stretch : List Move} {s : Session}
    {t : Token} (h : History (start d) (past ++ stretch) s) (steady : Steady stretch)
    (ht : t ∈ handedOut stretch) :
    ∃ r, (logins (past ++ stretch)).getLast? = some r ∧ Descends (past ++ stretch) r t := by
  obtain ⟨m, hm, hmt⟩ := List.mem_flatMap.1 ht
  obtain ⟨before, after, rfl⟩ := List.append_of_mem hm
  have hms : past ++ (before ++ m :: after) = (past ++ before ++ [m]) ++ after := by simp
  rw [hms] at h ⊢
  obtain ⟨u, hu, hafter⟩ := h.split
  obtain ⟨v, hv, hlast⟩ := hu.split (past ++ before)
  obtain ⟨effect, same, rfl⟩ : m.Effect ∧ m.after.discipline = m.before.discipline ∧ m.after = u := by
    cases hlast with
    | cons step rest =>
      cases rest
      exact ⟨effect_step step, discipline_step step, rfl⟩
  obtain ⟨held, settled⟩ := effect.handed same (steady.fresh m hm) hmt
  have hnone : logins after = [] := hafter.logins_of_settled steady.right settled
  have rooted := hu.rooted (start_rooted d).1 (start_rooted d).2
  obtain ⟨r, hr, hd⟩ := rooted t held
  refine ⟨r, ?_, hd.mono ?_⟩
  · rw [logins_append, hnone, List.append_nil]
    simpa using hr
  · simp

/-! ## Who starts a login -/

/-- The token in the slot is there, but its lease is over. -/
def isExpired (s : Session) (now : Instant) : Prop :=
  ∃ o t, s.discipline = .renewing o ∧ s.held = some t ∧ t.isExpired now

theorem isExpired_of_held {s : Session} {now : Instant} (held : s.held.isSome)
    (unusable : s.discipline.usable? s.held now = none) : s.isExpired now := by
  obtain ⟨t, ht⟩ := Option.isSome_iff_exists.1 held
  cases hd : s.discipline with
  | simple => simp [hd, ht, Discipline.usable?] at unusable
  | renewing o =>
    refine ⟨o, t, hd, ht, ?_⟩
    simpa [hd, ht, Discipline.usable?, Option.filter] using unusable

theorem Move.Effect.startsLogin_of_mem {m : Move} (h : m.Effect) (hl : .called .login ∈ m.seen) :
    ∃ c, m.Serves (.token c) ∧ m.before.discipline.usable? m.before.held m.now = none := by
  cases h with
  | startsLogin c served unusable => exact ⟨c, served, unusable⟩
  | handsOut _ _ _ _ _ _ seen | startsRenewal _ _ _ _ _ _ seen | logsIn _ _ _ _ _ _ seen
    | failsLogin _ _ _ _ _ _ seen => simp [seen] at hl
  | aside _ _ _ seen | empties _ _ _ _ _ seen | renews _ _ _ _ _ _ _ seen
    | failsRenewal _ _ _ _ _ _ _ seen =>
    simpa [Action.isAside] using seen _ hl

theorem Move.Effect.startsRenewal_of_mem {m : Move} {t : Token} (h : m.Effect)
    (called : .called (.renew t) ∈ m.seen) :
    (∃ c : Option Nat, m.Serves (c.elim .poll .check)) ∧
      m.before.discipline.decide? m.before.held m.now = some (.renew t) := by
  cases h with
  | startsRenewal c u served decided held flight seen =>
    rw [seen] at called
    obtain rfl := Call.renew.inj (Action.called.inj (List.mem_singleton.1 called))
    exact ⟨⟨c, served⟩, decided⟩
  | startsLogin _ _ _ _ _ seen | handsOut _ _ _ _ _ _ seen | logsIn _ _ _ _ _ _ seen
    | failsLogin _ _ _ _ _ _ seen =>
    rw [seen] at called
    cases List.mem_singleton.1 called
  | aside _ _ _ seen | empties _ _ _ _ _ seen | renews _ _ _ _ _ _ _ seen
    | failsRenewal _ _ _ _ _ _ _ seen =>
    have aside := seen _ called
    cases aside

/-- A slot that is never emptied keeps a token. -/
theorem History.held_of_kept {s t : Session} {ms : List Move} (h : History s ms t)
    (held : s.held.isSome) (kept : ∀ m ∈ ms, ¬ m.empties) : t.held.isSome := by
  induction h with
  | nil s => exact held
  | cons step _ ih =>
    refine ih ?_ fun m hm => kept m (List.mem_cons_of_mem _ hm)
    rw [Option.isSome_iff_ne_none]
    intro empty
    exact kept _ List.mem_cons_self ⟨held, empty⟩

theorem Move.Effect.held_of_renewal? {m : Move} {old new : Token} (h : m.Effect)
    (hr : m.renewal? = some (old, new)) : m.after.held = some new := by
  unfold Move.renewal? at hr
  split at hr
  · rename_i c old' new' flight event
    obtain ⟨rfl, rfl⟩ := Prod.mk.inj (Option.some.inj hr)
    cases h with
    | aside unanswered => exact absurd event (unanswered _)
    | handsOut c t served | startsLogin c served | startsRenewal c t served | empties d served =>
      rw [served.event] at event
      cases event
    | logsIn c t event' before | failsLogin c e event' before =>
      rw [before] at flight
      cases flight
    | renews c old new event' before held =>
      rw [event'] at event
      obtain rfl := Except.ok.inj (Event.answered.inj event)
      exact held
    | failsRenewal c old e event' =>
      rw [event'] at event
      cases event
  · cases hr

/-! ## Sessions whose tokens do not expire -/

theorem isUsable_simple {s : Session} (simple : s.discipline = .simple) (now : Instant) :
    s.isUsable now = s.held.isSome := by
  simp [isUsable, simple, Discipline.usable?]

theorem isUsable_of_lands {m : Move} (h : m.Effect) (simple : m.after.discipline = .simple)
    (lands : m.login?.isSome ∨ m.renewal?.isSome) : m.after.isUsable m.now := by
  rw [isUsable_simple simple]
  rcases lands with hl | hr
  · obtain ⟨t, ht⟩ := Option.isSome_iff_exists.1 hl
    rw [h.held_of_login? ht]
    rfl
  · obtain ⟨⟨old, new⟩, ht⟩ := Option.isSome_iff_exists.1 hr
    rw [h.held_of_renewal? ht]
    rfl

/-- Where tokens are kept without regard to their leases, a stretch in which the slot is
not emptied is steady. -/
theorem History.steady_of_simple {s t : Session} {ms : List Move} (h : History s ms t)
    (simple : s.discipline = .simple) (kept : ∀ m ∈ ms, ¬ m.empties) : Steady ms := by
  induction h with
  | nil s => exact ⟨kept, by simp, .nil⟩
  | @cons now e s s' t seen ms step rest ih =>
    have simple' : s'.discipline = .simple := (discipline_step step).trans simple
    have steady : Steady ms := ih simple' fun m hm => kept m (List.mem_cons_of_mem _ hm)
    refine ⟨kept, List.forall_mem_cons.2 ⟨?_, steady.fresh⟩, ?_⟩
    · exact isUsable_of_lands (effect_step step) simple'
    · refine steady.lasting.cons fun n hn => ?_
      cases rest with
      | nil => cases hn
      | cons step' rest' =>
        obtain rfl := Option.some.inj hn
        simp only [isUsable_simple simple', imp_self]

/-! ## The whole -/

theorem single_flight (d : Discipline) {ms : List Move} {s : Session}
    (h : History (start d) ms s) :
    (answers ms ≤ calls ms ∧ calls ms ≤ answers ms + 1) ∧
    (∀ past stretch, ms = past ++ stretch → Steady stretch →
      (logins stretch).length ≤ 1 ∧
        ∀ t ∈ handedOut stretch, ∃ r, (logins ms).getLast? = some r ∧ Descends ms r t) ∧
    (∀ past m later, ms = past ++ m :: later → .called .login ∈ m.seen →
      (∃ c, m.Serves (.token c)) ∧ ¬ m.before.isUsable m.now ∧
        ∀ earlier l between t, past = earlier ++ l :: between → l.login? = some t →
          (∃ n ∈ between, n.empties) ∨ m.before.isExpired m.now) := by
  refine ⟨?_, ?_, ?_⟩
  · have balance := h.balance
    have idle : (start d).inFlight = 0 := by cases d <;> rfl
    have single := s.inFlight_le_one
    omega
  · rintro past stretch rfl steady
    obtain ⟨u, -, hu⟩ := h.split
    exact ⟨hu.logins_length_le_one steady, fun t ht => h.descends_of_handedOut steady ht⟩
  · rintro past m later rfl hl
    have hm : m.Effect := h.effect m (by simp)
    obtain ⟨c, served, unusable⟩ := hm.startsLogin_of_mem hl
    refine ⟨⟨c, served⟩, by simp [isUsable, unusable], ?_⟩
    rintro earlier l between t rfl hlogin
    by_cases emptied : ∃ n ∈ between, n.empties
    · exact .inl emptied
    · right
      have hms : earlier ++ l :: between ++ m :: later =
          (earlier ++ [l]) ++ (between ++ m :: later) := by simp
      rw [hms] at h
      obtain ⟨u, hu, hrest⟩ := h.split
      obtain ⟨v, hbetween, hlast⟩ := hrest.split
      have heldAfter : u.held.isSome := by
        obtain ⟨w, -, hone⟩ := hu.split
        cases hone with
        | cons step rest =>
          cases rest
          have held := (effect_step step).held_of_login? hlogin
          exact Option.isSome_iff_exists.2 ⟨t, held⟩
      have heldBefore : v.held.isSome :=
        hbetween.held_of_kept heldAfter fun n hn he => emptied ⟨n, hn, he⟩
      obtain rfl : m.before = v := by cases hlast; rfl
      exact isExpired_of_held heldBefore unusable

/-- Two callers wait for one login, and both get its token. Where no lease counts, the second of them
still gets it when that is long over. -/
theorem single_flight_two_callers :
    (∃ ms s, History (start (.renewing {})) ms s ∧ Steady ms ∧
      handedOut ms = [.granted "s.0" 60 true 5, .granted "s.0" 60 true 5] ∧
      (logins ms).length ≤ 1 ∧ calls ms ≤ answers ms + 1) ∧
    ∃ ms s, History (start .simple) ms s ∧ Steady ms ∧
      handedOut ms = [.granted "s.0" 1 true 5, .granted "s.0" 1 true 5] ∧
      (Token.granted "s.0" 1 true 5).isExpired (Span.ofSeconds 60) ∧ (logins ms).length ≤ 1 := by
  constructor
  · have h := @History.cons 0 (.demand (.token 1)) (start (.renewing {})) _ _ _ _ rfl <|
      @History.cons 0 (.demand (.token 2)) _ _ _ _ _ rfl <|
      @History.cons 0 .acquire _ _ _ _ _ rfl <|
      @History.cons 5 (.answered (.ok (.granted "s.0" 60 true 5))) _ _ _ _ _ rfl <|
      @History.cons 6 .acquire _ _ _ _ _ rfl (.nil _)
    refine ⟨_, _, h, ?steady, rfl, ((single_flight _ h).2.1 [] _ rfl ?steady).1, (single_flight _ h).1.2⟩
    exact ⟨by decide, by decide, by decide⟩
  · have h := @History.cons 0 (.demand (.token 1)) (start .simple) _ _ _ _ rfl <|
      @History.cons 0 .acquire _ _ _ _ _ rfl <|
      @History.cons 5 (.answered (.ok (.granted "s.0" 1 true 5))) _ _ _ _ _ rfl <|
      @History.cons 6 (.demand (.token 2)) _ _ _ _ _ rfl <|
      @History.cons (Span.ofSeconds 60) .acquire _ _ _ _ _ rfl (.nil _)
    have steady := h.steady_of_simple rfl (by decide)
    exact ⟨_, _, h, steady, rfl, by decide, ((single_flight _ h).2.1 [] _ rfl steady).1⟩

end SecretLayers.Session
