import SecretLayers.Proofs.Session.Provenance
import SecretLayers.Proofs.Store.Sending
/-!
Tokens that can be unwrapped once. The store spends such a token when it answers with success, but a
login takes it for spent only when it has found a token in the answer. So it is presented once at
most, unless an answer with success grants nothing and another login follows.
-/
namespace SecretLayers
set_option autoImplicit false

/-! ## Answers that grant a token -/

/-- An answer has a document that grants a token of more than blanks. -/
inductive Answer.Grants (a : Answer) : Prop
  | intro {r : Store.Response} {g : Grant} {text : String}
      (reads : Store.Response.parse? a.body = some r) (grant : r.grant = some g)
      (token : g.clientToken = some text) (shown : Text.isBlankText text = false)

theorem Grant.exists_token_iff {g : Grant} {now : Instant} :
    (∃ t, g.token now = .ok t) ↔
      ∃ text, g.clientToken = some text ∧ Text.isBlankText text = false := by
  unfold Grant.token
  cases g.clientToken with
  | none => simp
  | some text => cases blank : Text.isBlankText text <;> simp [blank]

namespace Store.Client

theorem exists_grantedToken_iff {method : String} {a : Answer} {now : Instant} :
    (∃ t, grantedToken method a now = .ok t) ↔ a.isSuccess = true ∧ a.Grants := by
  unfold grantedToken
  constructor
  · rintro ⟨t, h⟩
    split at h
    · cases h
    · rename_i success
      split at h
      · cases h
      · rename_i r reads
        split at h
        · cases h
        · rename_i g grant
          obtain ⟨text, token, shown⟩ := Grant.exists_token_iff.1 ⟨t, h⟩
          exact ⟨by simpa using success, .intro reads grant token shown⟩
  · rintro ⟨success, reads, grant, token, shown⟩
    simp only [success, reads, grant, Bool.not_true, Bool.false_eq_true, if_false]
    exact Grant.exists_token_iff.2 ⟨_, token, shown⟩

def unwrap (c : Client) (url : Url) (wrapping : Secret) : Request :=
  { verb := .post, url, token := some wrapping.exposed, namespaceName := c.namespaceName }

end Store.Client

/-! ## Logins one after another -/

/-- A login: what it asked of the store and got, and what came of it. -/
structure Attempt where
  exchanges : List (Request × Arrival)
  result : Except Error Token

namespace Attempt

def IsAnswered (a : Attempt) (answer : Answer) : Prop :=
  ∃ x ∈ a.exchanges, x.2.outcome = .ok answer

/-- The store has answered with success: what was presented to it is spent. -/
def Spends (a : Attempt) : Prop := ∃ answer, a.IsAnswered answer ∧ answer.isSuccess = true

/-- Nothing is asked of the store, and the login fails as one that is not let in. -/
structure IsRefused (a : Attempt) : Prop where
  quiet : a.exchanges = []
  fails : ∃ reason, a.result = .error (.authentication reason)

/-- A token is presented once, and the login comes to what the store makes of that. -/
inductive Unwraps (request : Request) (a : Attempt) : Prop
  | unanswered {arrival : Arrival} {fault : NetworkFault} (exchanges : a.exchanges = [(request, arrival)])
      (outcome : arrival.outcome = .error fault) (result : a.result = .error fault.error)
  | answered {arrival : Arrival} {answer : Answer} (exchanges : a.exchanges = [(request, arrival)])
      (outcome : arrival.outcome = .ok answer)
      (result : a.result = Store.Client.grantedToken "Cubbyhole" answer arrival.instant)

/-- A token is presented at each of some logins until the store answers one of them with success, and
at none after that. -/
structure PresentedOnce (request : Request) (attempts : List Attempt) : Prop where
  refused : ∀ past a later, attempts = past ++ a :: later → (∃ p ∈ past, p.Spends) → a.IsRefused
  unwraps : ∀ past a later, attempts = past ++ a :: later → (∀ p ∈ past, ¬ p.Spends) →
    a.Unwraps request

/-- Answers with success grant a token, at every login that is followed by another. -/
def NoneWasted (attempts : List Attempt) : Prop :=
  ∀ past a later, attempts = past ++ a :: later → later ≠ [] →
    ∀ answer, a.IsAnswered answer → answer.isSuccess = true → answer.Grants

end Attempt

namespace Auth.Strategy
variable {σ : Type}

def attempt (client : Store.Client) (machine : Machine) (store : σ → Request → Arrival × σ)
    (strategy : Strategy) (s : σ) (now : Instant) : Attempt where
  exchanges := (strategy.login client machine now).exchanges store s
  result := ((strategy.login client machine now).run store s).1

/-- Logins at instants, each of them with the strategy that the one before it leaves. -/
def attempts (client : Store.Client) (machine : Machine) (store : σ → Request → Arrival × σ) :
    Strategy → σ → List Instant → List Attempt
  | _, _, [] => []
  | strategy, s, now :: rest =>
    let first := strategy.attempt client machine store s now
    let (_, _, s') := (strategy.login client machine now).run store s
    first :: (strategy.after first.result).attempts client machine store s' rest

end Auth.Strategy

/-! ## Lists of logins -/

namespace Attempt
variable {request : Request} {a : Attempt} {rest : List Attempt} {answer : Answer}

theorem not_isAnswered_of_quiet (h : a.exchanges = []) : ¬ a.IsAnswered answer := by
  rintro ⟨x, hx, -⟩
  rw [h] at hx
  cases hx

/-- A login that presents a token brings one just when it is answered with success by an answer that
grants one. -/
theorem Unwraps.exists_ok_iff (h : a.Unwraps request) :
    (∃ t, a.result = .ok t) ↔ ∃ answer, a.IsAnswered answer ∧ answer.isSuccess = true ∧ answer.Grants := by
  cases h with
  | unanswered exchanges outcome result => simp [IsAnswered, exchanges, outcome, result]
  | answered exchanges outcome result =>
    rw [result, Store.Client.exists_grantedToken_iff]
    simp [IsAnswered, exchanges, outcome]

theorem Unwraps.answer_unique {other : Answer} (h : a.Unwraps request) (ha : a.IsAnswered answer)
    (hb : a.IsAnswered other) : answer = other := by
  cases h with
  | unanswered exchanges outcome result | answered exchanges outcome result =>
    simp only [IsAnswered, exchanges, List.mem_singleton, exists_eq_left] at ha hb
    exact Except.ok.inj (ha.symm.trans hb)

theorem Unwraps.exists_ok_iff_of_spends (h : a.Unwraps request) (spends : a.Spends) :
    (∃ t, a.result = .ok t) ↔
      ∀ answer, a.IsAnswered answer → answer.isSuccess = true → answer.Grants := by
  rw [h.exists_ok_iff]
  constructor
  · rintro ⟨answer, answered, -, grants⟩ other otherAnswered -
    exact h.answer_unique answered otherAnswered ▸ grants
  · intro grants
    obtain ⟨answer, answered, success⟩ := spends
    exact ⟨answer, answered, success, grants answer answered success⟩

theorem Unwraps.requests (h : a.Unwraps request) : a.exchanges.map (·.1) = [request] := by
  cases h with
  | unanswered exchanges outcome result | answered exchanges outcome result =>
    rw [exchanges]
    rfl

theorem Unwraps.not_isRefused (h : a.Unwraps request) : ¬ a.IsRefused := by
  intro refused
  have sent := h.requests
  rw [refused.quiet] at sent
  cases sent

theorem presentedOnce_nil : PresentedOnce request [] :=
  ⟨fun _ _ _ split => by simp at split, fun _ _ _ split => by simp at split⟩

theorem noneWasted_nil : NoneWasted [] := fun _ _ _ split => by simp at split

/-- What is presented once, told at the first login. -/
theorem presentedOnce_cons_iff : PresentedOnce request (a :: rest) ↔
    a.Unwraps request ∧ (a.Spends → ∀ b ∈ rest, b.IsRefused) ∧
      (¬ a.Spends → PresentedOnce request rest) := by
  constructor
  · intro h
    refine ⟨h.unwraps [] a rest rfl (by simp), fun spends b hb => ?_, fun fresh => ⟨?_, ?_⟩⟩
    · obtain ⟨past, later, rfl⟩ := List.append_of_mem hb
      exact h.refused (a :: past) b later rfl ⟨a, List.mem_cons_self, spends⟩
    · rintro past b later rfl ⟨p, hp, spends⟩
      exact h.refused (a :: past) b later rfl ⟨p, List.mem_cons_of_mem a hp, spends⟩
    · rintro past b later rfl unspent
      exact h.unwraps (a :: past) b later rfl (List.forall_mem_cons.2 ⟨fresh, unspent⟩)
  · rintro ⟨first, spent, fresh⟩
    refine ⟨fun past b later split spends => ?_, fun past b later split unspent => ?_⟩
    · cases past with
      | nil => simp at spends
      | cons c past =>
        obtain ⟨rfl, rfl⟩ := List.cons.inj split
        by_cases now : a.Spends
        · exact spent now b (by simp)
        · obtain ⟨p, hp, spends⟩ := spends
          rcases List.mem_cons.1 hp with rfl | hp
          · exact absurd spends now
          · exact (fresh now).refused past b later rfl ⟨p, hp, spends⟩
    · cases past with
      | nil =>
        obtain ⟨rfl, rfl⟩ := List.cons.inj split
        exact first
      | cons c past =>
        obtain ⟨rfl, rfl⟩ := List.cons.inj split
        obtain ⟨now, unspent⟩ := List.forall_mem_cons.1 unspent
        exact (fresh now).unwraps past b later rfl unspent

theorem noneWasted_cons_iff : NoneWasted (a :: rest) ↔
    (rest ≠ [] → ∀ answer, a.IsAnswered answer → answer.isSuccess = true → answer.Grants) ∧
      NoneWasted rest := by
  constructor
  · intro h
    refine ⟨h [] a rest rfl, ?_⟩
    rintro past b later rfl
    exact h (a :: past) b later rfl
  · rintro ⟨first, others⟩ past b later split
    cases past with
    | nil =>
      obtain ⟨rfl, rfl⟩ := List.cons.inj split
      exact first
    | cons c past =>
      obtain ⟨rfl, rfl⟩ := List.cons.inj split
      exact others past b later rfl

theorem noneWasted_of_refused (h : ∀ b ∈ rest, b.IsRefused) : NoneWasted rest := by
  rintro past b later rfl - answer answered
  exact absurd answered (not_isAnswered_of_quiet (h b (by simp)).quiet)

end Attempt

/-! ## Logins with a wrapped token -/

namespace Auth.Strategy
open Attempt
variable {σ : Type} {store : σ → Request → Arrival × σ} {client : Store.Client} {machine : Machine}
  {wrapping : Secret} {url : Url}

/-- A login with a token that has not been unwrapped presents it, if the request can be formed. -/
theorem attempt_unwraps_iff (hurl : client.url "sys/wrapping/unwrap" = .ok url) (machine : Machine)
    (wrapping : Secret) (store : σ → Request → Arrival × σ) (s : σ) (now : Instant) :
    ((cubbyhole wrapping false).attempt client machine store s now).Unwraps (client.unwrap url wrapping) ↔
      Store.Client.formFault? (client.unwrap url wrapping) = none := by
  have login : (cubbyhole wrapping false).login client machine now =
      Store.Client.exchange (client.unwrap url wrapping) (Store.Client.grantedToken "Cubbyhole") := by
    simp only [Strategy.login, Bool.false_eq_true, if_false, Store.Client.login, Store.Client.call, hurl]
    rfl
  rw [attempt, login, Store.Client.exchange]
  cases form : Store.Client.formFault? (client.unwrap url wrapping) with
  | some fault => exact iff_of_false (fun h => by cases h.requests) (by simp)
  | none =>
    refine iff_of_true ?_ rfl
    cases outcome : (store s (client.unwrap url wrapping)).1.outcome with
    | error fault => exact .unanswered rfl outcome (by simp only [Dialogue.run, outcome])
    | ok answer => exact .answered rfl outcome (by simp only [Dialogue.run, outcome])

theorem attempts_refused (client : Store.Client) (machine : Machine) (wrapping : Secret)
    (store : σ → Request → Arrival × σ) (s : σ) (nows : List Instant) :
    ∀ a ∈ (cubbyhole wrapping true).attempts client machine store s nows, a.IsRefused := by
  induction nows generalizing s with
  | nil => simp [attempts]
  | cons now rest ih => exact List.forall_mem_cons.2 ⟨⟨rfl, _, rfl⟩, ih _⟩

/-- A login that brings a token takes it for unwrapped, and any other login leaves it as it is. -/
theorem after_wrapped (wrapping : Secret) (result : Except Error Token) : (cubbyhole wrapping false).after result =
    cubbyhole wrapping result.isOk := by
  cases result <;> rfl

theorem exists_answer_of_mem_attempts {strategy : Strategy} {s : σ} {nows : List Instant} {a : Attempt}
    {answer : Answer} (ha : a ∈ strategy.attempts client machine store s nows)
    (answered : a.IsAnswered answer) :
    ∃ r arrival, Dialogue.answersOf store r arrival ∧ arrival.outcome = .ok answer := by
  induction nows generalizing strategy s with
  | nil => cases ha
  | cons now rest ih =>
    rcases List.mem_cons.1 ha with rfl | ha
    · obtain ⟨x, hx, outcome⟩ := answered
      exact ⟨x.1, x.2, Dialogue.answersOf_exchanges _ s x hx, outcome⟩
    · exact ih ha

theorem presentedOnce_attempts_iff (hurl : client.url "sys/wrapping/unwrap" = .ok url)
    (formed : Store.Client.formFault? (client.unwrap url wrapping) = none) (s : σ) (nows : List Instant) :
    PresentedOnce (client.unwrap url wrapping)
        ((cubbyhole wrapping false).attempts client machine store s nows) ↔
      NoneWasted ((cubbyhole wrapping false).attempts client machine store s nows) := by
  induction nows generalizing s with
  | nil => exact iff_of_true presentedOnce_nil noneWasted_nil
  | cons now rest ih =>
    have first := (attempt_unwraps_iff hurl machine wrapping store s now).2 formed
    rw [attempts, presentedOnce_cons_iff, noneWasted_cons_iff, after_wrapped]
    generalize (cubbyhole wrapping false).attempt client machine store s now = a at first ⊢
    generalize ((cubbyhole wrapping false).login client machine now).run store s = r
    by_cases spends : a.Spends
    · have grants := first.exists_ok_iff_of_spends spends
      cases result : a.result with
      | ok t =>
        -- The token is known to be spent, and the logins that follow are refused.
        have refused := attempts_refused client machine wrapping store r.2.2 rest
        exact iff_of_true ⟨first, fun _ => refused, fun fresh => absurd spends fresh⟩
          ⟨fun _ => grants.1 ⟨t, result⟩, noneWasted_of_refused refused⟩
      | error e =>
        have wasted : ¬ ∃ t, a.result = .ok t := by simp [result]
        cases rest with
        | nil =>
          exact iff_of_true ⟨first, fun _ => by simp [attempts], fun _ => presentedOnce_nil⟩
            ⟨fun more => absurd rfl more, noneWasted_nil⟩
        | cons next rest =>
          -- The token is spent and not known to be: the login that follows presents it again.
          have again := (attempt_unwraps_iff hurl machine wrapping store r.2.2 next).2 formed
          refine iff_of_false (fun once => ?_) (fun none => ?_)
          · exact again.not_isRefused (once.2.1 spends _ List.mem_cons_self)
          · exact wasted (grants.2 (none.1 (List.cons_ne_nil _ _)))
    · cases result : a.result with
      | ok t =>
        obtain ⟨answer, answered, success, -⟩ := first.exists_ok_iff.1 ⟨t, result⟩
        exact absurd ⟨answer, answered, success⟩ spends
      | error e =>
        have unanswered : ∀ answer, a.IsAnswered answer → answer.isSuccess = true → answer.Grants :=
          fun answer answered success => absurd ⟨answer, answered, success⟩ spends
        have onward := ih r.2.2
        constructor
        · exact fun once => ⟨fun _ => unanswered, onward.1 (once.2.2 spends)⟩
        · exact fun none => ⟨first, fun now => absurd now spends, fun _ => onward.2 none.2⟩

/-- However the store answers the logins with a wrapped token, they present it until it is spent and
not after that, just if the request for that can be formed and no answer with success is wasted before
another login. -/
theorem presented_once_iff {address : String} {namespaceName : Option String}
    (h : Store.Client.ofAddress address namespaceName = .ok client) (machine : Machine)
    (wrapping : Secret) (store : σ → Request → Arrival × σ) (s : σ) (nows : List Instant) :
    ∃ url, client.url "sys/wrapping/unwrap" = .ok url ∧
      (PresentedOnce (client.unwrap url wrapping)
          ((cubbyhole wrapping false).attempts client machine store s nows) ↔
        (nows ≠ [] → Store.Client.formFault? (client.unwrap url wrapping) = none) ∧
          NoneWasted ((cubbyhole wrapping false).attempts client machine store s nows)) := by
  obtain ⟨url, hurl⟩ := Store.Client.exists_unwrap_url h
  refine ⟨url, hurl, ?_⟩
  cases nows with
  | nil => exact iff_of_true presentedOnce_nil ⟨fun some => absurd rfl some, noneWasted_nil⟩
  | cons now rest =>
    have formed : PresentedOnce (client.unwrap url wrapping)
        ((cubbyhole wrapping false).attempts client machine store s (now :: rest)) →
        Store.Client.formFault? (client.unwrap url wrapping) = none := by
      intro once
      rw [attempts, presentedOnce_cons_iff] at once
      exact (attempt_unwraps_iff hurl machine wrapping store s now).1 once.1
    constructor
    · exact fun once => ⟨fun _ => formed once, (presentedOnce_attempts_iff hurl (formed once) s _).1 once⟩
    · rintro ⟨forms, none⟩
      exact (presentedOnce_attempts_iff hurl (forms (List.cons_ne_nil _ _)) s _).2 none

/-! ## A store that is sealed at first, and one that answers with nothing -/

def wrapped : Secret := ⟨"s.w"⟩

theorem exists_formed_unwrap : ∃ url, Store.loopbackClient.url "sys/wrapping/unwrap" = .ok url ∧
    Store.Client.formFault? (Store.loopbackClient.unwrap url wrapped) = none := by
  refine ⟨{ Store.loopback with path := .segments ["v1".toList, "sys".toList, "wrapping".toList,
    "unwrap".toList] }, Store.ok_of_toOption (by decide +kernel), by decide +kernel⟩

def sealedStore (requests : Nat) (_ : Request) : Arrival × Nat :=
  (⟨.ok (if requests = 0 then ⟨503, ""⟩ else Session.lending), 0⟩, requests + 1)

theorem noneWasted_sealedStore (nows : List Instant) :
    NoneWasted ((cubbyhole wrapped false).attempts Store.loopbackClient Session.bare sealedStore 0 nows) := by
  intro past a later split _ answer answered success
  obtain ⟨r, arrival, ⟨requests, rfl⟩, outcome⟩ :=
    exists_answer_of_mem_attempts (by rw [split]; simp) answered
  have grants : Session.lending.Grants :=
    (Store.Client.exists_grantedToken_iff.1 ⟨_, Session.granted_lending⟩).2
  simp only [sealedStore, Except.ok.injEq] at outcome
  split at outcome
  · subst outcome
    cases success
  · exact outcome ▸ grants

/-- The token is presented until it is unwrapped: twice at a store that is sealed at first. -/
theorem presented_until_unwrapped :
    Store.Client.ofAddress "http://127.0.0.1:8200" none = .ok Store.loopbackClient ∧
      ∃ url, Store.loopbackClient.url "sys/wrapping/unwrap" = .ok url ∧
        PresentedOnce (Store.loopbackClient.unwrap url wrapped) ((cubbyhole wrapped false).attempts
          Store.loopbackClient Session.bare sealedStore 0 [0, 1, 2]) ∧
        ((cubbyhole wrapped false).attempts Store.loopbackClient Session.bare sealedStore 0
          [0, 1, 2]).map (fun a => (a.exchanges.length, a.result)) =
          [(1, .error (Store.Client.loginRejected "Cubbyhole" "no response body")),
            (1, .ok Session.lent), (0, .error alreadyUnwrapped)] := by
  obtain ⟨url, hurl, once⟩ := presented_once_iff Store.ofAddress_loopback Session.bare wrapped sealedStore
    0 [0, 1, 2]
  obtain ⟨_, formedUrl, formed⟩ := exists_formed_unwrap
  obtain rfl := Except.ok.inj (formedUrl.symm.trans hurl)
  exact ⟨Store.ofAddress_loopback, _, hurl, once.2 ⟨fun _ => formed, noneWasted_sealedStore _⟩,
    by decide +kernel⟩

/-- A store that answers every request with success and an empty document. -/
def emptyStore (_ : Unit) (_ : Request) : Arrival × Unit := (⟨.ok ⟨200, "\x7b\x7d"⟩, 0⟩, ())

/-- An answer without a grant spends the token, and the next login presents it again. -/
theorem spent_token_presented_again :
    ∃ url a b, Store.loopbackClient.url "sys/wrapping/unwrap" = .ok url ∧
      (cubbyhole wrapped false).attempts Store.loopbackClient Session.bare emptyStore () [0, 1] =
        [a, b] ∧
      a.Spends ∧ b.exchanges.map (·.1) = [Store.loopbackClient.unwrap url wrapped] ∧
      ¬ PresentedOnce (Store.loopbackClient.unwrap url wrapped) [a, b] := by
  obtain ⟨url, hurl, formed⟩ := exists_formed_unwrap
  have presents (now : Instant) := (attempt_unwraps_iff hurl Session.bare wrapped emptyStore () now).2 formed
  have outcomes : ((cubbyhole wrapped false).attempt Store.loopbackClient Session.bare emptyStore () 0
      ).exchanges.map (·.2.outcome) = [.ok ⟨200, "\x7b\x7d"⟩] := by decide +kernel
  have fails : ((cubbyhole wrapped false).attempt Store.loopbackClient Session.bare emptyStore () 0
      ).result.isOk = false := by decide +kernel
  have spends : ((cubbyhole wrapped false).attempt Store.loopbackClient Session.bare emptyStore () 0
      ).Spends := by
    obtain ⟨x, hx, outcome⟩ := List.mem_map.1 (outcomes ▸ List.mem_singleton_self _)
    exact ⟨_, ⟨x, hx, outcome⟩, rfl⟩
  have unset := (after_wrapped wrapped _).trans (congrArg (cubbyhole wrapped) fails)
  refine ⟨url, _, _, hurl, by rw [attempts, unset]; rfl, spends, ?_, fun once => ?_⟩
  · exact (presents 1).requests
  · exact (presents 1).not_isRefused
      (once.refused [_] _ [] rfl ⟨_, List.mem_singleton_self _, spends⟩)

end Auth.Strategy
end SecretLayers
