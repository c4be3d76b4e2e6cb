import SecretLayers.Proofs.Session.Provenance
import SecretLayers.Proofs.Store.Sending
import SecretLayers.Proofs.Text.Blank
/-!
Credentials are checked before they are posted. Those of the configuration are checked when a strategy
is made of it, those of the machine at each login. The one that is not checked is the identity document
of an instance: a login posts it also when it is blank.
-/
namespace SecretLayers
set_option autoImplicit false

/-! ## Bodies of requests -/

namespace Json

theorem lookup_cons_eq (m : String × Json) (l : List (String × Json)) (name : String) :
    (m :: l).lookup name = if name = m.1 then some m.2 else l.lookup name := by
  rw [List.lookup_cons]
  by_cases h : name = m.1
  · rw [beq_iff_eq.2 h, if_pos h]
  · rw [beq_false_of_ne h, if_neg h]

theorem lookup_insertMember (name : String) (value : Json) (l : List (String × Json)) (other : String) :
    (insertMember name value l).lookup other = if other = name then some value else l.lookup other := by
  induction l with
  | nil => exact lookup_cons_eq _ _ _
  | cons m l ih =>
    simp only [insertMember]
    split
    · exact lookup_cons_eq _ _ _
    · split
      · rename_i same
        rw [lookup_cons_eq, lookup_cons_eq, same]
        by_cases h : other = m.1 <;> simp only [h, if_true, if_false]
      · rename_i different
        rw [lookup_cons_eq, lookup_cons_eq, ih]
        by_cases h : other = m.1
        · have apart : other ≠ name := fun he => different (he ▸ h)
          simp only [if_pos h, if_neg apart]
        · simp only [if_neg h]

theorem lookup_foldl_insertMember (members sorted : List (String × Json)) (name : String) :
    (members.foldl (fun sorted m => insertMember m.1 m.2 sorted) sorted).lookup name =
      (members.reverse.lookup name).or (sorted.lookup name) := by
  induction members generalizing sorted with
  | nil => rfl
  | cons m members ih =>
    rw [List.foldl_cons, ih, lookup_insertMember, List.reverse_cons, List.lookup_append, lookup_cons_eq,
      Option.or_assoc]
    congr 1
    by_cases h : name = m.1 <;> simp [h]

theorem lookup_map_string {f : String × String → String × Json} (h : ∀ m, f m = (m.1, .string m.2))
    (l : List (String × String)) (name : String) :
    (l.map f).lookup name = (l.lookup name).map .string := by
  induction l with
  | nil => rfl
  | cons m l ih =>
    rw [List.map_cons, h, lookup_cons_eq, ih, List.lookup_cons]
    by_cases hname : name = m.1
    · rw [beq_iff_eq.2 hname, if_pos hname, Option.map_some]
    · rw [beq_false_of_ne hname, if_neg hname]

/-- The member of a name is the last one that is given for it. -/
theorem get_ofMembers (members : List (String × Json)) (name : String) :
    (ofMembers members).get name = (members.reverse.lookup name).getD .null := by
  have fold := lookup_foldl_insertMember members [] name
  rw [List.lookup_nil, Option.or_none] at fold
  exact congrArg (Option.getD · .null) fold

end Json

/-- The text that the body of a request has under a name. -/
def Request.text? (r : Request) (name : String) : Option String :=
  match r.body.map (Json.get · name) with
  | some (.string s) => some s
  | _ => none

theorem Request.text?_credentials {r : Request} {fields : List (String × String)}
    (body : r.body = Auth.Strategy.credentials fields) (name : String) :
    r.text? name = fields.reverse.lookup name := by
  rw [text?, body, Auth.Strategy.credentials, Option.map_some, Json.get_ofMembers, ← List.map_reverse,
    Json.lookup_map_string fun _ => rfl]
  cases fields.reverse.lookup name <;> rfl

/-! ## What is asked of a configuration -/

namespace Auth

/-- The settings that have to be given for the method of a configuration. -/
def demanded (c : Config) : List (Option String) :=
  match c.authentication with
  | .token | .cubbyhole => [c.token.map Secret.exposed]
  | .approle => [c.appRole.roleId]
  | .appid => [some (c.appId.appId.getD c.generic.applicationName), some c.appId.userId]
  | .cert => []
  | .awsEc2 => [some c.awsEc2.identityDocument]
  | .kubernetes => [c.kubernetes.role]

def isVacant (setting : Option String) : Bool := setting.all Text.isBlankText

/-- The form of a random identifier: five groups of hexadecimal digits. -/
def IsUuid (s : String) : Prop :=
  (Text.splitAt '-' s).map String.length = [8, 4, 4, 4, 12] ∧
    s.toList.all "0123456789abcdef-".toList.contains = true

instance (s : String) : Decidable (IsUuid s) := inferInstanceAs (Decidable (_ ∧ _))

theorem IsUuid.shown {s : String} (h : IsUuid s) : Text.isBlankText s = false := by
  obtain ⟨groups, digits⟩ := h
  have plain : "0123456789abcdef-".toList.all (fun c => !Text.isBlank c) = true := by decide
  cases hs : s.toList with
  | nil =>
    rw [Text.splitAt, hs] at groups
    cases groups
  | cons c cs =>
    have hc : c ∈ s.toList := hs ▸ List.mem_cons_self
    have digit : c ∈ "0123456789abcdef-".toList := by
      simpa only [List.contains_iff_mem] using List.all_eq_true.1 digits c hc
    exact Text.isBlankText_of_mem hc (by simpa only [Bool.not_eq_true'] using List.all_eq_true.1 plain c digit)

namespace Strategy

/-! ## What strategies are made of -/

/-- The credentials that a strategy has of its own are no blank texts. -/
inductive Sound : Strategy → Prop
  | token (secret : Secret) : Sound (token secret)
  | appRole {roleId : String} (shown : Text.isBlankText roleId = false) (secretId : Option Secret)
      (path : String) : Sound (appRole roleId secretId path)
  | appId {id : String} (shown : Text.isBlankText id = false) (path : String) {userId : UserId}
      (user : ∀ text, userId = .literal text → Text.isBlankText text = false) :
      Sound (appId id path userId)
  | certificate (path : String) : Sound (certificate path)
  | awsEc2 (role : Option String) (path document : String) {nonce : String}
      (shown : Text.isBlankText nonce = false) : Sound (awsEc2 role path document nonce)
  | kubernetes {role : String} (shown : Text.isBlankText role = false) (path : String)
      (jwt : JwtSource) : Sound (kubernetes role path jwt)
  | cubbyhole {wrapping : Secret} (shown : Text.isBlankText wrapping.exposed = false)
      (unwrapped : Bool) : Sound (cubbyhole wrapping unwrapped)

theorem demand_of_vacant {e : Error} {setting : Option String} (h : isVacant setting = true) :
    demand e setting = .error e := by
  cases setting with
  | none => rfl
  | some s =>
    have blank : Text.isBlankText s = true := h
    simp [demand, Text.trimmed?, blank]

theorem demand_of_given {e : Error} {setting : Option String} (h : isVacant setting = false) :
    ∃ s, demand e setting = .ok s ∧ Text.isBlankText s = false := by
  cases setting with
  | none => cases h
  | some s =>
    have shown : Text.isBlankText s = false := h
    refine ⟨Text.trim s, ?_, (Text.isBlankText_trim s).trans shown⟩
    simp [demand, Text.trimmed?, shown]

theorem UserId.ofSettings_literal {c : Config.AppId} {text : String}
    (h : UserId.ofSettings c = .literal text) : text = Text.trim c.userId := by
  unfold UserId.ofSettings at h
  split at h
  · cases h
  · cases h
  · exact (UserId.literal.inj h).symm

theorem demandSecret_of_vacant {secret : Option Secret} (missing empty : String)
    (h : isVacant (secret.map Secret.exposed) = true) :
    ∃ reason, demandSecret (.configuration missing) (.configuration empty) secret =
      .error (.configuration reason) := by
  cases secret with
  | none => exact ⟨missing, rfl⟩
  | some s =>
    have blank : s.isEmpty = true := h
    exact ⟨empty, if_pos blank⟩

theorem demandSecret_of_given {missing empty : Error} {secret : Option Secret}
    (h : isVacant (secret.map Secret.exposed) = false) :
    ∃ s, demandSecret missing empty secret = .ok s ∧ Text.isBlankText s.exposed = false := by
  cases secret with
  | none => cases h
  | some s =>
    have shown : s.isEmpty = false := h
    exact ⟨s, by simp [demandSecret, shown], shown⟩

/-- What a configuration demands is missing or blank, and no strategy is made of it. -/
theorem ofConfig_of_vacant {c : Config} (nonce : String)
    (h : ∃ setting ∈ demanded c, isVacant setting = true) :
    ∃ reason, ofConfig c nonce = .error (.configuration reason) := by
  unfold demanded at h
  unfold ofConfig
  cases hm : c.authentication with
  | token | cubbyhole =>
    simp only [hm, List.mem_singleton, exists_eq_left] at h
    obtain ⟨reason, hreason⟩ := demandSecret_of_vacant _ _ h
    exact ⟨reason, congrArg (Except.map _) hreason⟩
  | approle | awsEc2 | kubernetes =>
    simp only [hm, List.mem_singleton, exists_eq_left] at h
    exact ⟨_, congrArg (Except.map _) (demand_of_vacant h)⟩
  | cert => simp [hm] at h
  | appid =>
    simp only [hm, List.mem_cons, List.not_mem_nil, or_false, exists_eq_or_imp, exists_eq_left] at h
    cases vacant : isVacant (some (c.appId.appId.getD c.generic.applicationName)) with
    | true => exact ⟨_, by rw [ofAppId, demand_of_vacant vacant]; rfl⟩
    | false =>
      obtain ⟨id, hid, -⟩ := demand_of_given (e := emptyAppId) vacant
      have user := h.resolve_left (by simp [vacant])
      exact ⟨_, by rw [ofAppId, hid, demand_of_vacant user]; rfl⟩

/-- All that a configuration demands is given, and the strategy that is made of it is sound. -/
theorem ofConfig_of_given {c : Config} {nonce : String} (uuid : IsUuid nonce)
    (given : ∀ setting ∈ demanded c, isVacant setting = false) :
    ∃ strategy, ofConfig c nonce = .ok strategy ∧ strategy.method = c.authentication ∧
      strategy.Sound := by
  unfold demanded at given
  unfold ofConfig
  cases hm : c.authentication with
  | token =>
    simp only [hm, List.forall_mem_singleton] at given
    obtain ⟨secret, hsecret, -⟩ := demandSecret_of_given given
    exact ⟨token secret, congrArg (Except.map _) hsecret, rfl, .token secret⟩
  | cubbyhole =>
    simp only [hm, List.forall_mem_singleton] at given
    obtain ⟨secret, hsecret, shown⟩ := demandSecret_of_given given
    exact ⟨cubbyhole secret false, congrArg (Except.map _) hsecret, rfl, .cubbyhole shown false⟩
  | approle =>
    simp only [hm, List.forall_mem_singleton] at given
    obtain ⟨roleId, hroleId, shown⟩ := demand_of_given given
    exact ⟨_, congrArg (Except.map _) hroleId, rfl, .appRole shown _ _⟩
  | appid =>
    simp only [hm, List.forall_mem_cons, List.not_mem_nil, false_imp_iff, forall_const, and_true] at given
    obtain ⟨id, hid, shown⟩ := demand_of_given given.1
    obtain ⟨user, huser, -⟩ := demand_of_given given.2
    refine ⟨appId id _ (.ofSettings c.appId), by rw [ofAppId, hid, huser]; rfl, rfl, .appId shown _ ?_⟩
    intro text literal
    rw [UserId.ofSettings_literal literal, Text.isBlankText_trim]
    exact given.2
  | cert => exact ⟨_, rfl, rfl, .certificate _⟩
  | awsEc2 =>
    simp only [hm, List.forall_mem_singleton] at given
    obtain ⟨document, hdocument, -⟩ := demand_of_given given
    exact ⟨_, congrArg (Except.map _) hdocument, rfl, .awsEc2 _ _ document uuid.shown⟩
  | kubernetes =>
    simp only [hm, List.forall_mem_singleton] at given
    obtain ⟨role, hrole, shown⟩ := demand_of_given given
    refine ⟨_, congrArg (Except.map _) hrole, rfl, ?_⟩
    exact .kubernetes ((Text.isBlankText_trim role).trans shown) _ _

theorem Sound.after {strategy : Strategy} (h : strategy.Sound) (result : Except Error Token) :
    (strategy.after result).Sound := by
  cases h with
  | cubbyhole shown unwrapped =>
    cases result with
    | ok t => exact .cubbyhole shown true
    | error e => exact .cubbyhole shown unwrapped
  | token secret => exact .token secret
  | appRole shown secretId path => exact .appRole shown secretId path
  | appId shown path user => exact .appId shown path user
  | certificate path => exact .certificate path
  | awsEc2 role path document shown => exact .awsEc2 role path document shown
  | kubernetes shown path jwt => exact .kubernetes shown path jwt

theorem Sound.foldl_after {strategy : Strategy} (h : strategy.Sound)
    (earlier : List (Except Error Token)) : (earlier.foldl Strategy.after strategy).Sound := by
  induction earlier generalizing strategy with
  | nil => exact h
  | cons result rest ih => exact ih (h.after result)

end Strategy

/-! ## What a login presents -/

/-- The names of the credentials in the body of a login. -/
def Method.credentials : Method → List String
  | .approle => ["role_id"]
  | .appid => ["app_id", "user_id"]
  | .awsEc2 => ["pkcs7", "nonce"]
  | .kubernetes => ["role", "jwt"]
  | .token | .cert | .cubbyhole => []

/-- A request has all credentials of a method, and none of them is blank. A wrapping token is in the
place of a session token. -/
structure Presents (method : Method) (r : Request) : Prop where
  body : ∀ name ∈ method.credentials, ∃ s, r.text? name = some s ∧ Text.isBlankText s = false
  header : method = .cubbyhole → ∃ s, r.token = some s ∧ Text.isBlankText s = false

namespace Strategy

section
variable {σ : Type} (client : Store.Client) (machine : Machine) (store : σ → Request → Arrival × σ)
  (s : σ) (now : Instant)

/-- A credential that the machine should have at a login, or a service beside it, is missing or blank. -/
inductive Lacks : Strategy → Prop
  | user {id path : String} {userId : UserId}
      (lacking : ∀ user, userId.create machine.files machine.hostAddress = .ok user →
        Text.isBlankText user = true) : Lacks (appId id path userId)
  | jwt {role path : String} {source : JwtSource}
      (lacking : ∀ jwt, source.jwt machine.files = .ok jwt → Text.isBlankText jwt = true) :
      Lacks (kubernetes role path source)
  | document {role : Option String} {path document nonce : String}
      (lacking : ∀ text, ((Store.Client.fetch document).run store s).1 = .ok text →
        Text.isBlankText text = true) : Lacks (awsEc2 role path document nonce)

/-- A login posts credentials that are all there and not blank, or it posts nothing and fails. -/
structure ChecksCredentials (strategy : Strategy) : Prop where
  presents : ∀ r ∈ ((strategy.login client machine now).run store s).2.1, r.verb = .post →
    Presents strategy.method r
  refuses : strategy.Lacks machine store s →
    (∃ e, ((strategy.login client machine now).run store s).1 = .error e) ∧
      ∀ r ∈ ((strategy.login client machine now).run store s).2.1, r.verb ≠ .post

/-- A login has fetched a blank identity document, and nothing else keeps it from posting that. -/
inductive PostsBlankDocument : Strategy → Prop
  | intro {role : Option String} {path document nonce text : String} {url : Url}
      (fetched : ((Store.Client.fetch document).run store s).1 = .ok text)
      (blank : Text.isBlankText text = true) (address : client.url (loginPath path) = .ok url)
      (formed : Store.Client.formFault?
        { verb := .post, url, namespaceName := client.namespaceName } = none) :
      PostsBlankDocument (awsEc2 role path document nonce)

end

/-! ## Logins -/

section
variable {σ : Type} {client : Store.Client} {machine : Machine} {store : σ → Request → Arrival × σ}
  {s : σ} {now : Instant} {strategy : Strategy}

theorem checks_of_refused {e : Error} (h : strategy.login client machine now = refuse e) :
    strategy.ChecksCredentials client machine store s now := by
  refine ⟨fun r hr => ?_, fun _ => ⟨⟨e, ?_⟩, fun r hr => ?_⟩⟩
  · rw [h] at hr
    cases hr
  · rw [h]
    rfl
  · rw [h] at hr
    cases hr

/-- A login that lacks nothing and sends one request, with all credentials. -/
theorem checks_of_login {method path : String} {body : Option Json} {wrapping : Option String}
    (h : strategy.login client machine now = client.login method path body wrapping)
    (presents : ∀ r : Request, r.body = body → r.token = wrapping → Presents strategy.method r)
    (supplied : ¬ strategy.Lacks machine store s) :
    strategy.ChecksCredentials client machine store s now := by
  refine ⟨fun r hr _ => ?_, fun lacks => absurd lacks supplied⟩
  rw [h, Store.Client.login] at hr
  obtain ⟨-, -, parts⟩ := Store.mem_requests_call_iff.1 hr
  exact presents r (congrArg Request.body parts) (congrArg Request.token parts)

theorem UserId.create_shown {files : Files} {hostAddress user : String} {userId : UserId}
    (literal : ∀ text, userId = .literal text → Text.isBlankText text = false)
    (h : userId.create files hostAddress = .ok user) : Text.isBlankText user = false := by
  cases userId with
  | literal text =>
    obtain rfl := Except.ok.inj h
    exact literal text rfl
  | ipAddress =>
    obtain rfl := Except.ok.inj h
    exact Sha256.isBlankText_ofText hostAddress
  | macAddress interface root =>
    simp only [UserId.create] at h
    cases hmac : UserId.hardwareAddress files root interface with
    | error e =>
      rw [hmac] at h
      cases h
    | ok mac =>
      rw [hmac] at h
      obtain rfl := Except.ok.inj h
      exact Sha256.isBlankText_ofText mac

theorem isBlankText_joined (text : String) : Text.isBlankText (joined text) = Text.isBlankText text := by
  refine Text.isBlankText_filter fun c hc => ?_
  have lineEnd : c = '\n' ∨ c = '\r' := by
    by_contra other
    simp_all
  rcases lineEnd with rfl | rfl <;> rfl

theorem get_of_mem_requests_fetch {address : String} {r : Request}
    (h : r ∈ ((Store.Client.fetch address).run store s).2.1) : r.verb = .get := by
  unfold Store.Client.fetch at h
  split at h
  · cases h
  · rw [Store.Operation.mem_exchange h]

theorem presents_of_body {method : Method} {r : Request} (posts : method ≠ .cubbyhole)
    (body : ∀ name ∈ method.credentials, ∃ s, r.text? name = some s ∧ Text.isBlankText s = false) :
    Presents method r :=
  ⟨body, fun wrapped => absurd wrapped posts⟩

theorem presents_of_pair {method : Method} {r : Request} {first second s t : String}
    (posts : method ≠ .cubbyhole) (pair : method.credentials = [first, second])
    (hs : r.text? first = some s) (sShown : Text.isBlankText s = false)
    (ht : r.text? second = some t) (tShown : Text.isBlankText t = false) : Presents method r := by
  refine presents_of_body posts fun name hname => ?_
  rw [pair, List.mem_pair] at hname
  rcases hname with rfl | rfl
  · exact ⟨s, hs, sShown⟩
  · exact ⟨t, ht, tShown⟩

theorem checks_of_sound (sound : strategy.Sound) (other : strategy.method ≠ .awsEc2) :
    strategy.ChecksCredentials client machine store s now := by
  cases sound with
  | awsEc2 role path document shown => exact absurd rfl other
  | token secret => exact ⟨fun r hr => (by cases hr), fun lacks => (by cases lacks)⟩
  | appRole shown secretId path =>
    refine checks_of_login rfl (fun r body _ => ?_) (fun lacks => by cases lacks)
    refine presents_of_body (by simp [method]) fun name hname => ?_
    obtain rfl := List.mem_singleton.1 hname
    refine ⟨_, ?_, shown⟩
    rw [Request.text?_credentials body]
    cases secretId <;> rfl
  | @appId id shown path userId literal =>
    cases created : userId.create machine.files machine.hostAddress with
    | error e => exact checks_of_refused (e := e) (by simp only [login, created])
    | ok user =>
      have userShown := UserId.create_shown literal created
      have supplied : ¬ (appId id path userId).Lacks machine store s := by
        rintro ⟨lacking⟩
        exact Bool.false_ne_true (userShown.symm.trans (lacking user created))
      have posts : (appId id path userId).login client machine now = client.login "AppId"
          (loginPath path) (credentials [("app_id", id), ("user_id", user)]) none := by
        simp only [login, created]
      refine checks_of_login posts (fun r body _ => ?_) supplied
      exact presents_of_pair (by simp [method]) rfl (Request.text?_credentials body _) shown
        (Request.text?_credentials body _) userShown
  | certificate path =>
    exact checks_of_login rfl (fun r _ _ => presents_of_body (by simp [method]) (by simp [method,
      Method.credentials])) (fun lacks => by cases lacks)
  | @kubernetes role shown path source =>
    have given : role ≠ "" := by
      rintro rfl
      cases shown
    cases supplied : source.jwt machine.files with
    | error e =>
      exact checks_of_refused (e := e) (by simp only [login, loginKubernetes, given, supplied, if_false])
    | ok jwt =>
      cases blank : Text.isBlankText jwt with
      | true =>
        refine checks_of_refused (e := emptyJwt) ?_
        simp only [login, loginKubernetes, given, supplied, blank, if_false, if_true]
      | false =>
        have sufficient : ¬ (kubernetes role path source).Lacks machine store s := by
          rintro ⟨⟩
          rename_i lacking
          exact Bool.false_ne_true (blank.symm.trans (lacking jwt supplied))
        have posts : (kubernetes role path source).login client machine now = client.login "Kubernetes"
            (loginPath path) (credentials [("role", role), ("jwt", jwt)]) none := by
          simp only [login, loginKubernetes, given, supplied, blank, if_false, Bool.false_eq_true]
        refine checks_of_login posts (fun r body _ => ?_) sufficient
        exact presents_of_pair (by simp [method]) rfl (Request.text?_credentials body _) shown
          (Request.text?_credentials body _) blank
  | @cubbyhole wrapping shown unwrapped =>
    cases unwrapped with
    | true => exact checks_of_refused (e := alreadyUnwrapped) rfl
    | false =>
      have posts : (cubbyhole wrapping false).login client machine now =
          client.login "Cubbyhole" "sys/wrapping/unwrap" none (some wrapping.exposed) := by
        simp only [login, Bool.false_eq_true, if_false]
      refine checks_of_login posts (fun r _ header => ?_) (fun lacks => by cases lacks)
      exact ⟨by simp [method, Method.credentials], fun _ => ⟨wrapping.exposed, header, shown⟩⟩

/-- What a login for an instance makes of a document that it has fetched. -/
def documentFields (role : Option String) (text nonce : String) : List (String × String) :=
  (role.map fun r => ("role", r)).toList ++ [("pkcs7", joined text), ("nonce", nonce)]

def documentRequest (client : Store.Client) (url : Url) (role : Option String) (text nonce : String) :
    Request :=
  { verb := .post, url, namespaceName := client.namespaceName,
    body := credentials (documentFields role text nonce) }

theorem text?_documentRequest (client : Store.Client) (url : Url) (role : Option String)
    (text nonce : String) : (documentRequest client url role text nonce).text? "pkcs7" = some (joined text) ∧
      (documentRequest client url role text nonce).text? "nonce" = some nonce := by
  rw [Request.text?_credentials rfl, Request.text?_credentials rfl]
  cases role <;> exact ⟨rfl, rfl⟩

section
variable (client machine now)
variable (role : Option String) (path nonce : String) {document text : String}

theorem run_awsEc2_error {e : Error}
    (fetched : ((Store.Client.fetch document).run store s).1 = .error e) :
    (((awsEc2 role path document nonce).login client machine now).run store s).1 =
        .error (noIdentityDocument e) ∧
      (((awsEc2 role path document nonce).login client machine now).run store s).2.1 =
        ((Store.Client.fetch document).run store s).2.1 := by
  simp only [login, loginAwsEc2]
  rw [Dialogue.run_bind, Dialogue.requests_bind, fetched]
  exact ⟨rfl, List.append_nil _⟩

theorem run_awsEc2_ok (fetched : ((Store.Client.fetch document).run store s).1 = .ok text) :
    ∃ s', (((awsEc2 role path document nonce).login client machine now).run store s).1 =
        ((client.login "AWS-EC2" (loginPath path) (credentials (documentFields role text nonce)) none).run
          store s').1 ∧
      (((awsEc2 role path document nonce).login client machine now).run store s).2.1 =
        ((Store.Client.fetch document).run store s).2.1 ++
          ((client.login "AWS-EC2" (loginPath path) (credentials (documentFields role text nonce)) none).run
            store s').2.1 := by
  refine ⟨((Store.Client.fetch document).run store s).2.2, ?_⟩
  simp only [login, loginAwsEc2, documentFields, Dialogue.run_bind, Dialogue.requests_bind, fetched,
    and_self]

/-- A login for an instance posts one request, with the document that it has fetched, if that can be
formed; else it fails. -/
theorem posted_awsEc2 (fetched : ((Store.Client.fetch document).run store s).1 = .ok text) :
    (∀ r, (r ∈ (((awsEc2 role path document nonce).login client machine now).run store s).2.1 ∧
        r.verb = .post) ↔
      client.url (loginPath path) = .ok r.url ∧ Store.Client.formFault? r = none ∧
        r = documentRequest client r.url role text nonce) ∧
    ((∀ r ∈ (((awsEc2 role path document nonce).login client machine now).run store s).2.1,
        r.verb ≠ .post) →
      ∃ e, (((awsEc2 role path document nonce).login client machine now).run store s).1 = .error e) := by
  obtain ⟨s', result, requests⟩ := run_awsEc2_ok client machine now role path nonce fetched
  rw [Store.Client.login] at requests result
  rw [requests, result]
  refine ⟨fun r => ?_, fun unsent => ?_⟩
  · rw [List.mem_append, or_and_right, Store.mem_requests_call_iff]
    constructor
    · rintro (⟨hr, post⟩ | ⟨h, -⟩)
      · rw [get_of_mem_requests_fetch hr] at post
        cases post
      · exact h
    · exact fun h => .inr ⟨h, congrArg Request.verb h.2.2⟩
  · refine Store.exists_error_of_unsent (List.eq_nil_iff_forall_not_mem.2 fun r hr => ?_)
    exact unsent r (List.mem_append_right _ hr)
      (congrArg Request.verb (Store.mem_requests_call_iff.1 hr).2.2)

end

theorem checks_awsEc2_iff {role : Option String} {path document nonce : String}
    (shown : Text.isBlankText nonce = false) :
    (awsEc2 role path document nonce).ChecksCredentials client machine store s now ↔
      ¬ (awsEc2 role path document nonce).PostsBlankDocument client store s := by
  cases fetched : ((Store.Client.fetch document).run store s).1 with
  | error e =>
    obtain ⟨result, requests⟩ := run_awsEc2_error client machine now role path nonce fetched
    have unsent : ∀ r ∈ (((awsEc2 role path document nonce).login client machine now).run store s).2.1,
        r.verb ≠ .post := by
      intro r hr post
      rw [requests] at hr
      rw [get_of_mem_requests_fetch hr] at post
      cases post
    refine iff_of_true ⟨fun r hr post => absurd post (unsent r hr), fun _ => ⟨⟨_, result⟩, unsent⟩⟩ ?_
    rintro ⟨found, -, -, -⟩
    rw [fetched] at found
    cases found
  | ok text =>
    obtain ⟨posted, fails⟩ := posted_awsEc2 client machine now role path nonce fetched
    cases blank : Text.isBlankText text with
    | false =>
      refine iff_of_true ⟨fun r hr post => ?_, ?_⟩ ?_
      · obtain ⟨-, -, parts⟩ := (posted r).1 ⟨hr, post⟩
        obtain ⟨pkcs7, hnonce⟩ := text?_documentRequest client r.url role text nonce
        rw [parts]
        exact presents_of_pair (by simp [method]) rfl pkcs7 ((isBlankText_joined text).trans blank) hnonce
          shown
      · rintro ⟨⟩
        rename_i lacking
        exact absurd (blank.symm.trans (lacking text fetched)) Bool.false_ne_true
      · rintro ⟨found, foundBlank, -, -⟩
        obtain rfl := Except.ok.inj (fetched.symm.trans found)
        exact Bool.false_ne_true (blank.symm.trans foundBlank)
    | true =>
      by_cases sends : ∃ url, client.url (loginPath path) = .ok url ∧
          Store.Client.formFault? { verb := .post, url, namespaceName := client.namespaceName } = none
      · obtain ⟨url, address, formed⟩ := sends
        refine iff_of_false (fun checks => ?_) (not_not.2 (.intro fetched blank address formed))
        obtain ⟨sent, post⟩ := (posted (documentRequest client url role text nonce)).2 ⟨address, formed, rfl⟩
        obtain ⟨pkcs7, hpkcs7, given⟩ := (checks.presents _ sent post).body "pkcs7" List.mem_cons_self
        obtain rfl := Option.some.inj ((text?_documentRequest client url role text nonce).1.symm.trans hpkcs7)
        exact Bool.false_ne_true (given.symm.trans ((isBlankText_joined text).trans blank))
      · have unsent : ∀ r ∈ (((awsEc2 role path document nonce).login client machine now).run store s).2.1,
            r.verb ≠ .post := by
          intro r hr post
          obtain ⟨address, formed, parts⟩ := (posted r).1 ⟨hr, post⟩
          rw [parts] at formed
          exact sends ⟨r.url, address, formed⟩
        refine iff_of_true ⟨fun r hr post => absurd post (unsent r hr), fun _ => ⟨fails unsent, unsent⟩⟩ ?_
        rintro ⟨-, -, address, formed⟩
        exact sends ⟨_, address, formed⟩

theorem checks_iff (sound : strategy.Sound) :
    strategy.ChecksCredentials client machine store s now ↔
      ¬ strategy.PostsBlankDocument client store s := by
  have checks : strategy.method ≠ .awsEc2 → strategy.ChecksCredentials client machine store s now :=
    checks_of_sound sound
  cases sound with
  | awsEc2 role path document shown => exact checks_awsEc2_iff shown
  | _ => exact iff_of_true (checks (by simp [method])) (fun h => by cases h)

end

/-- No strategy is made of a configuration that lacks what it demands. A strategy that is made of one
checks its credentials at every login, however the logins before it have ended, unless the login
posts a blank identity document. -/
theorem credentials_checked_iff (c : Config) {nonce : String} (uuid : IsUuid nonce) :
    ((∃ setting ∈ demanded c, isVacant setting = true) →
      ∃ reason, ofConfig c nonce = .error (.configuration reason)) ∧
    ((∀ setting ∈ demanded c, isVacant setting = false) →
      ∃ strategy, ofConfig c nonce = .ok strategy ∧ strategy.method = c.authentication) ∧
    ∀ strategy, ofConfig c nonce = .ok strategy →
      ∀ (earlier : List (Except Error Token)) (client : Store.Client) (machine : Machine) (σ : Type)
        (store : σ → Request → Arrival × σ) (s : σ) (now : Instant),
        (earlier.foldl Strategy.after strategy).ChecksCredentials client machine store s now ↔
          ¬ (earlier.foldl Strategy.after strategy).PostsBlankDocument client store s := by
  refine ⟨ofConfig_of_vacant nonce, fun given => ?_, fun strategy made earlier client machine σ store s now => ?_⟩
  · obtain ⟨strategy, made, hmethod, -⟩ := ofConfig_of_given uuid given
    exact ⟨strategy, made, hmethod⟩
  · have given : ∀ setting ∈ demanded c, isVacant setting = false := by
      intro setting hsetting
      refine Bool.eq_false_iff.2 fun vacant => ?_
      obtain ⟨reason, refused⟩ := ofConfig_of_vacant nonce ⟨setting, hsetting, vacant⟩
      cases made.symm.trans refused
    obtain ⟨strategy', made', -, sound⟩ := ofConfig_of_given uuid given
    obtain rfl := Except.ok.inj (made.symm.trans made')
    exact checks_iff (sound.foldl_after earlier)

/-! ## Logins of an instance -/

def instanceConfig : Config := { authentication := .awsEc2 }

def instanceNonce : String := "936da01f-9abd-4d9d-80c7-02af85c822a8"

def instanceStrategy : Strategy :=
  awsEc2 none "aws-ec2" "http://169.254.169.254/latest/dynamic/instance-identity/pkcs7" instanceNonce

theorem ofConfig_instance : ofConfig instanceConfig instanceNonce = .ok instanceStrategy := by
  rfl

/-- A store beside a service that has an identity document. -/
def documentStore (document : String) (_ : Unit) (r : Request) : Arrival × Unit :=
  (⟨.ok (if r.verb = .get then ⟨200, document⟩ else Session.lending), 0⟩, ())

def documentLogin (document : String) : Except Error Token × List Request × Unit :=
  (instanceStrategy.login Store.loopbackClient Session.bare 0).run (documentStore document) ()

/-- The document is posted on one line. -/
theorem document_checked :
    IsUuid instanceNonce ∧ ofConfig instanceConfig instanceNonce = .ok instanceStrategy ∧
      instanceStrategy.ChecksCredentials Store.loopbackClient Session.bare (documentStore "MIIB\n") () 0 ∧
      (documentLogin "MIIB\n").2.1.map (fun r => (r.verb, r.text? "pkcs7", r.text? "nonce")) =
        [(.get, none, none), (.post, some "MIIB", some instanceNonce)] := by
  have uuid : IsUuid instanceNonce := by decide +kernel
  have fetched : ((Store.Client.fetch "http://169.254.169.254/latest/dynamic/instance-identity/pkcs7").run
      (documentStore "MIIB\n") ()).1 = .ok "MIIB\n" := by decide +kernel
  have checks := (credentials_checked_iff instanceConfig uuid).2.2 instanceStrategy ofConfig_instance []
    Store.loopbackClient Session.bare Unit (documentStore "MIIB\n") () 0
  refine ⟨uuid, ofConfig_instance, checks.2 ?_, by decide +kernel⟩
  rintro ⟨found, blank, -, -⟩
  obtain rfl := Except.ok.inj (fetched.symm.trans found)
  exact absurd blank (by decide)

/-- A document without text is posted as an empty credential. -/
theorem blank_document_posted :
    ofConfig instanceConfig instanceNonce = .ok instanceStrategy ∧
      (documentLogin "\n").2.1.map (fun r => (r.verb, r.text? "pkcs7")) =
        [(.get, none), (.post, some "")] ∧
      ¬ instanceStrategy.ChecksCredentials Store.loopbackClient Session.bare (documentStore "\n") () 0 := by
  have posts : (documentLogin "\n").2.1.map (fun r => (r.verb, r.text? "pkcs7")) =
      [(.get, none), (.post, some "")] := by decide +kernel
  refine ⟨ofConfig_instance, posts, fun checks => ?_⟩
  obtain ⟨r, hr, parts⟩ := List.mem_map.1 (show (Verb.post, some "") ∈ (documentLogin "\n").2.1.map
    (fun r => (r.verb, r.text? "pkcs7")) by rw [posts]; simp)
  obtain ⟨post, pkcs7⟩ := Prod.mk.inj parts
  obtain ⟨text, htext, shown⟩ := (checks.presents r hr post).body "pkcs7" List.mem_cons_self
  obtain rfl := Option.some.inj (pkcs7.symm.trans htext)
  cases shown

end Strategy
end Auth
end SecretLayers
