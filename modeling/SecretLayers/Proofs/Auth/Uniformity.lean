import SecretLayers.Proofs.Auth.Credentials
import SecretLayers.Proofs.Auth.Unwrapping
import SecretLayers.Proofs.Session.Leasing
/-!
Tokens of answers. Logins differ in what they post, but what they end with is decided by the answer
to that alone, and a renewal that is answered with the block of a login gives an old token the lease
that the login gives a new one.
-/
namespace SecretLayers
set_option autoImplicit false

/-! ## Answers to a dialogue -/

theorem Dialogue.exchanges_bind {α β σ : Type} {store : σ → Request → Arrival × σ} (d : Dialogue α)
    (f : α → Dialogue β) (s : σ) : (d.bind f).exchanges store s =
      d.exchanges store s ++ (f (d.run store s).1).exchanges store (d.run store s).2.2 := by
  induction d generalizing s with
  | done a => rfl
  | send r next ih => exact congrArg ((r, (store s r).1) :: ·) (ih (store s r).1 (store s r).2)

namespace Store.Client
variable {α σ : Type} {store : σ → Request → Arrival × σ} {s : σ} {c : Client} {r : Request}
  {next : Answer → Instant → Except Error α} {x : Request × Arrival} {answer : Answer}

/-- An exchange that is answered ends with what the answer comes to. -/
theorem run_exchange_of_answered (h : x ∈ (exchange r next).exchanges store s)
    (answered : x.2.outcome = .ok answer) :
    ((exchange r next).run store s).1 = next answer x.2.instant := by
  unfold exchange at h ⊢
  cases form : formFault? r with
  | some fault =>
    rw [form] at h
    cases h
  | none =>
    rw [form] at h
    obtain rfl := List.mem_singleton.1 h
    have outcome : (store s r).1.outcome = .ok answer := answered
    simp only [Dialogue.run, outcome]

theorem run_call_of_answered {verb : Verb} {path : String} {token : Option String} {body : Option Json}
    (h : x ∈ (c.call verb path token body next).exchanges store s)
    (answered : x.2.outcome = .ok answer) :
    ((c.call verb path token body next).run store s).1 = next answer x.2.instant := by
  unfold call at h ⊢
  cases hurl : c.url path with
  | error e =>
    rw [hurl] at h
    cases h
  | ok url =>
    rw [hurl] at h
    exact run_exchange_of_answered h answered

end Store.Client

/-! ## Blocks -/

/-- The tokens that a block of an answer stands for. The token of a block that is said to be renewable
is renewable, with the lease that is said; of any other block it is not, and without a lease said it
never ends. -/
inductive Grant.Derives (g : Grant) (now : Instant) : Token → Prop
  | renewable {text : String} (token : g.clientToken = some text) (shown : Text.isBlankText text = false)
      (said : g.renewable = some true) : Derives g now (.granted text (g.leaseSeconds.getD 0) true now)
  | leased {text : String} {seconds : Nat} (token : g.clientToken = some text)
      (shown : Text.isBlankText text = false) (unsaid : g.renewable ≠ some true)
      (lease : g.leaseSeconds = some seconds) : Derives g now (.granted text seconds false now)
  | unending {text : String} (token : g.clientToken = some text) (shown : Text.isBlankText text = false)
      (unsaid : g.renewable ≠ some true) (lease : g.leaseSeconds = none) :
      Derives g now { Token.fixed text now with origin := .login }

section
variable {g : Grant} {now : Instant} {t : Token}

theorem Grant.renewable_getD_of_unsaid (unsaid : g.renewable ≠ some true) :
    g.renewable.getD false = false := by
  cases h : g.renewable with
  | none => rfl
  | some b =>
    cases b with
    | false => rfl
    | true => exact absurd h unsaid

theorem Grant.derives_granted {text : String} (token : g.clientToken = some text)
    (shown : Text.isBlankText text = false) :
    g.Derives now (.granted text (g.leaseSeconds.getD 0) (g.renewable.getD false) now) := by
  by_cases said : g.renewable = some true
  · rw [said]
    exact .renewable token shown said
  · rw [renewable_getD_of_unsaid said]
    cases lease : g.leaseSeconds with
    | none => exact .unending token shown said lease
    | some seconds => exact .leased token shown said lease

theorem Grant.derives_of_token (h : g.token now = .ok t) : g.Derives now t := by
  unfold Grant.token at h
  split at h
  · cases h
  · rename_i text token
    split at h
    · cases h
    · rename_i shown
      obtain rfl := Except.ok.inj h
      exact derives_granted token (by simpa using shown)

theorem Grant.Derives.clientToken (h : g.Derives now t) : g.clientToken = some t.text := by
  cases h with
  | renewable token | leased token | unending token => exact token

theorem Grant.Derives.seconds (h : g.Derives now t) : t.lease.seconds = g.leaseSeconds.getD 0 := by
  cases h with
  | renewable => rfl
  | leased _ _ _ lease | unending _ _ _ lease =>
    rw [lease]
    rfl

theorem Grant.Derives.isRenewable (h : g.Derives now t) : t.renewable = g.renewable.getD false := by
  cases h with
  | renewable _ _ said =>
    rw [said]
    rfl
  | leased _ _ unsaid | unending _ _ unsaid =>
    rw [Grant.renewable_getD_of_unsaid unsaid]
    rfl

end

/-- What a login ends with whose request is answered. -/
inductive Answer.Decides (a : Answer) (now : Instant) : Except Error Token → Prop
  | grants {r : Store.Response} {g : Grant} {t : Token} (reads : Store.Response.parse? a.body = some r)
      (grant : r.grant = some g) (derives : g.Derives now t) : Decides a now (.ok t)
  | refuses (reason : String) : Decides a now (.error (.authentication reason))

theorem Store.Client.grantedToken_decides (method : String) (a : Answer) (now : Instant) :
    a.Decides now (grantedToken method a now) := by
  unfold grantedToken
  split
  · exact .refuses _
  · split
    · exact .refuses _
    · rename_i r reads
      split
      · exact .refuses _
      · rename_i g grant
        cases h : g.token now with
        | ok t => exact .grants reads grant (Grant.derives_of_token h)
        | error e =>
          unfold Grant.token at h
          split at h
          · cases h
            exact .refuses _
          · split at h
            · cases h
              exact .refuses _
            · cases h

/-! ## Logins -/

/-- What a login posts is answered, and the answer arrives at an instant. -/
def Attempt.Posts (a : Attempt) (answer : Answer) (arrives : Instant) : Prop :=
  ∃ x ∈ a.exchanges, x.1.verb = .post ∧ x.2.outcome = .ok answer ∧ x.2.instant = arrives

instance (a : Attempt) (answer : Answer) (arrives : Instant) : Decidable (a.Posts answer arrives) :=
  inferInstanceAs (Decidable (∃ x ∈ a.exchanges, _))

namespace Auth.Strategy

section
variable {σ : Type} (store : σ → Request → Arrival × σ)

/-- A dialogue takes the answer to what it posts as one that grants a token. -/
def TakesPosted (d : Dialogue (Except Error Token)) : Prop :=
  ∀ s, ∀ x ∈ d.exchanges store s, x.1.verb = .post → ∀ answer, x.2.outcome = .ok answer →
    ∃ method, (d.run store s).1 = Store.Client.grantedToken method answer x.2.instant

variable {store} {client : Store.Client} {machine : Machine} {strategy : Strategy} {s : σ}
  {now arrives : Instant} {answer : Answer}

theorem takesPosted_refuse (e : Error) : TakesPosted store (refuse e) := fun _ _ hx => by cases hx

theorem takesPosted_login (method path : String) (body : Option Json) (wrapping : Option String) :
    TakesPosted store (client.login method path body wrapping) :=
  fun _ _ hx _ _ answered => ⟨method, Store.Client.run_call_of_answered hx answered⟩

theorem takesPosted_awsEc2 (role : Option String) (path document nonce : String) :
    TakesPosted store (loginAwsEc2 client role path document nonce) := by
  intro s x hx post answer answered
  rw [loginAwsEc2, Dialogue.exchanges_bind, List.mem_append] at hx
  rw [loginAwsEc2, Dialogue.run_bind]
  rcases hx with hfetch | hx
  · -- The document is fetched and not posted.
    have sent := List.mem_map_of_mem (f := (·.1)) hfetch
    rw [Dialogue.requests_exchanges] at sent
    rw [get_of_mem_requests_fetch sent] at post
    cases post
  · cases fetched : ((Store.Client.fetch document).run store s).1 with
    | error e =>
      rw [fetched] at hx
      cases hx
    | ok text =>
      rw [fetched] at hx
      exact takesPosted_login _ _ _ _ _ x hx post answer answered

/-- Whatever the scheme, a login takes the answer to what it posts in the same way. -/
theorem login_takesPosted (strategy : Strategy) :
    TakesPosted store (strategy.login client machine now) := by
  cases strategy with
  | token secret => exact fun _ _ hx => by cases hx
  | appRole roleId secretId path => exact takesPosted_login _ _ _ _
  | appId id path userId =>
    simp only [login]
    split
    · exact takesPosted_refuse _
    · exact takesPosted_login _ _ _ _
  | certificate path => exact takesPosted_login _ _ _ _
  | awsEc2 role path document nonce => exact takesPosted_awsEc2 role path document nonce
  | kubernetes role path source =>
    simp only [login, loginKubernetes]
    split
    · exact takesPosted_refuse _
    · split
      · exact takesPosted_refuse _
      · split
        · exact takesPosted_refuse _
        · exact takesPosted_login _ _ _ _
  | cubbyhole wrapping unwrapped =>
    simp only [login]
    split
    · exact takesPosted_refuse _
    · exact takesPosted_login _ _ _ _

theorem attempt_of_posted (posted : (strategy.attempt client machine store s now).Posts answer arrives) :
    ∃ method, (strategy.attempt client machine store s now).result =
      Store.Client.grantedToken method answer arrives := by
  obtain ⟨x, hx, post, answered, rfl⟩ := posted
  exact login_takesPosted strategy s x hx post answer answered

theorem attempt_decides (posted : (strategy.attempt client machine store s now).Posts answer arrives) :
    answer.Decides arrives (strategy.attempt client machine store s now).result := by
  obtain ⟨method, result⟩ := attempt_of_posted posted
  rw [result]
  exact Store.Client.grantedToken_decides method answer arrives

theorem attempt_ok_iff (posted : (strategy.attempt client machine store s now).Posts answer arrives) :
    (∃ t, (strategy.attempt client machine store s now).result = .ok t) ↔
      answer.isSuccess = true ∧ answer.Grants := by
  obtain ⟨method, result⟩ := attempt_of_posted posted
  rw [result, Store.Client.exists_grantedToken_iff]

end

/-- Two logins end alike: with tokens of one text, lease and renewability, or neither is let in. -/
inductive Agree : Except Error Token → Except Error Token → Prop
  | tokens {t t' : Token} (text : t.text = t'.text) (seconds : t.lease.seconds = t'.lease.seconds)
      (renewable : t.renewable = t'.renewable) : Agree (.ok t) (.ok t')
  | refused (reason reason' : String) :
      Agree (.error (.authentication reason)) (.error (.authentication reason'))

/-- A token is an old one with the lease of a new one, from an instant on. -/
structure Renews (old new : Token) (start : Instant) (renewed : Token) : Prop where
  text : renewed.text = old.text
  origin : renewed.origin = old.origin
  seconds : renewed.lease.seconds = new.lease.seconds
  renewable : renewed.renewable = new.renewable
  start : renewed.lease.start = start

/-- A renewal that is answered with a block brings any old token with the lease of a new one, from when
the answer arrives. -/
def RenewsAs (g : Grant) (new : Token) : Prop :=
  ∀ (client : Store.Client) (old : Token) (σ : Type) (store : σ → Request → Arrival × σ) (s : σ),
    ∀ x ∈ (client.renew old).exchanges store s, ∀ answer, x.2.outcome = .ok answer →
      answer.isSuccess = true → ∀ r, Store.Response.parse? answer.body = some r → r.grant = some g →
        ∃ renewed, ((client.renew old).run store s).1 = .ok renewed ∧ Renews old new x.2.instant renewed

theorem agree_of_decides {answer : Answer} {now now' : Instant} {result result' : Except Error Token}
    (decides : answer.Decides now result) (decides' : answer.Decides now' result')
    (both : (∃ t, result = .ok t) ↔ ∃ t, result' = .ok t) : Agree result result' := by
  cases decides with
  | refuses reason =>
    cases decides' with
    | refuses reason' => exact .refused reason reason'
    | grants =>
      obtain ⟨_, h⟩ := both.2 ⟨_, rfl⟩
      cases h
  | grants reads grant derives =>
    cases decides' with
    | refuses reason' =>
      obtain ⟨_, h⟩ := both.1 ⟨_, rfl⟩
      cases h
    | grants reads' grant' derives' =>
      obtain rfl := Option.some.inj (reads.symm.trans reads')
      obtain rfl := Option.some.inj (grant.symm.trans grant')
      have text := Option.some.inj (derives.clientToken.symm.trans derives'.clientToken)
      exact .tokens text (derives.seconds.trans derives'.seconds.symm)
        (derives.isRenewable.trans derives'.isRenewable.symm)

theorem renewsAs_of_derives {g : Grant} {now : Instant} {new : Token} (derives : g.Derives now new) :
    RenewsAs g new := by
  intro client old σ store s x hx answer answered success r reads grant
  have renewed : Store.Client.renewedToken old answer x.2.instant = .ok (g.renew old x.2.instant) :=
    Store.Client.renewedToken_ok_iff.2 ⟨success, r, g, reads, grant, rfl⟩
  refine ⟨_, (Store.Client.run_call_of_answered hx answered).trans renewed, ?_⟩
  exact ⟨rfl, rfl, derives.seconds.symm, derives.isRenewable.symm, rfl⟩

/-- Any two logins of which what they post gets one answer end alike. They bring a token just when that
answer is a success with a block that has a token of more than blanks, and what they bring is the
token of that block. A renewal that is answered with the same block gives any token the same lease,
from when the answer arrives. -/
theorem tokens_derived_uniformly {σ σ' : Type} {store : σ → Request → Arrival × σ}
    {store' : σ' → Request → Arrival × σ'} {client client' : Store.Client} {machine machine' : Machine}
    {strategy strategy' : Strategy} {s : σ} {s' : σ'} {now now' arrives arrives' : Instant} {answer : Answer}
    (posted : (strategy.attempt client machine store s now).Posts answer arrives)
    (posted' : (strategy'.attempt client' machine' store' s' now').Posts answer arrives') :
    Agree (strategy.attempt client machine store s now).result
        (strategy'.attempt client' machine' store' s' now').result ∧
      ((∃ t, (strategy.attempt client machine store s now).result = .ok t) ↔
        answer.isSuccess = true ∧ answer.Grants) ∧
      ∀ t, (strategy.attempt client machine store s now).result = .ok t →
        ∃ r g, Store.Response.parse? answer.body = some r ∧ r.grant = some g ∧
          g.clientToken = some t.text ∧ g.Derives arrives t ∧ RenewsAs g t := by
  refine ⟨?_, attempt_ok_iff posted, fun t result => ?_⟩
  · have both := (attempt_ok_iff posted).trans (attempt_ok_iff posted').symm
    exact agree_of_decides (attempt_decides posted) (attempt_decides posted') both
  · have decides := attempt_decides posted
    rw [result] at decides
    cases decides with
    | @grants r g _ reads grant derives =>
      exact ⟨r, g, reads, grant, derives.clientToken, derives, renewsAs_of_derives derives⟩

/-- A store that lends a token whatever it is asked. -/
def lendingStore (arrives : Instant) (_ : Unit) (_ : Request) : Arrival × Unit :=
  (⟨.ok Session.lending, arrives⟩, ())

def instanceAttempt : Attempt :=
  instanceStrategy.attempt Store.loopbackClient Session.bare (documentStore "MIIB\n") () 0

def wrappedAttempt : Attempt :=
  (cubbyhole wrapped false).attempt Store.loopbackClient Session.bare (lendingStore 7) () 5

/-- An instance and the holder of a wrapping token are answered alike and get alike tokens, and an old
token that is renewed with the same answer is lent for as long. -/
theorem instance_and_wrapped_agree :
    instanceAttempt.Posts Session.lending 0 ∧ wrappedAttempt.Posts Session.lending 7 ∧
      Agree instanceAttempt.result wrappedAttempt.result ∧ instanceAttempt.result = .ok Session.lent ∧
      ∃ renewed, ((Store.loopbackClient.renew (.fixed "s.0" 0)).run (lendingStore 9) ()).1 = .ok renewed ∧
        Renews (.fixed "s.0" 0) Session.lent 9 renewed := by
  have posted : instanceAttempt.Posts Session.lending 0 := by decide +kernel
  have posted' : wrappedAttempt.Posts Session.lending 7 := by decide +kernel
  have result : instanceAttempt.result = .ok Session.lent := Store.ok_of_toOption (by decide +kernel)
  obtain ⟨agree, -, renews⟩ := tokens_derived_uniformly posted posted'
  obtain ⟨r, g, reads, grant, -, -, renews⟩ := renews Session.lent result
  have answered : ∃ x ∈ (Store.loopbackClient.renew (.fixed "s.0" 0)).exchanges (lendingStore 9) (),
      x.2.outcome = .ok Session.lending ∧ x.2.instant = 9 := by decide +kernel
  obtain ⟨x, hx, answered, instant⟩ := answered
  have renewed := renews Store.loopbackClient _ Unit (lendingStore 9) () x hx _ answered (by decide) r reads
    grant
  rw [instant] at renewed
  exact ⟨posted, posted', agree, result, renewed⟩

end Auth.Strategy
end SecretLayers
