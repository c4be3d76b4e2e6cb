import SecretLayers.Proofs.Config.Values
/-!
Configurations from variables as a whole. Each variable has a field of its own, which takes what its
trimmed value stands for; a variable that is unset or blank leaves the field as it is by default. The
first variable in the order of reading whose value stands for nothing is reported, and only if there
is none, what is wrong with the configuration that the values come to.
-/
namespace SecretLayers.Config
set_option autoImplicit false

/-! ## Variables in the order in which they are read -/

/-- The value of a variable: what is left of its text between blanks, if anything is. -/
def Given (lookup : Lookup) (name s : String) : Prop :=
  ∃ raw, lookup name = some raw ∧ s = Text.trim raw ∧ s ≠ ""

theorem value?_eq_some_iff {lookup : Lookup} {name s : String} :
    lookup.value? name = some s ↔ Given lookup name s := by
  rw [Lookup.value?, Option.bind_eq_some_iff]
  refine exists_congr fun raw => and_congr_right fun _ => ?_
  rw [Text.trimmed?_eq_some_iff]
  refine and_congr_right fun own => ?_
  rw [own]

theorem Given.trimmed {lookup : Lookup} {name s : String} (h : Given lookup name s) : Text.trim s = s := by
  obtain ⟨raw, -, rfl, -⟩ := h
  exact Text.trim_trim raw

/-- What a field has if a variable is for it: what the value of the variable stands for, or else what
stands in for it. -/
def Holds {α : Type} (lookup : Lookup) (k : Kind α) (name : String) (default a : α) : Prop :=
  (∃ s, Given lookup name s ∧ k.Spells s a) ∨ (∀ s, ¬ Given lookup name s) ∧ a = default

/-- A variable, and what is reported of a value of it. -/
structure Variable where
  name : String
  Wrong : String → Error → Prop

def Variable.of {α : Type} (k : Kind α) (name : String) : Variable := ⟨name, k.Wrong name⟩

/-- A variable is reported. -/
def Refused (lookup : Lookup) (v : Variable) (e : Error) : Prop := ∃ s, Given lookup v.name s ∧ v.Wrong s e

/-- The first of some variables that is reported. -/
inductive FirstRefused (lookup : Lookup) : List Variable → Error → Prop
  | here {v : Variable} {vs : List Variable} {e : Error} (refused : Refused lookup v e) :
    FirstRefused lookup (v :: vs) e
  | later {v : Variable} {vs : List Variable} {e : Error} (accepted : ∀ e, ¬ Refused lookup v e)
    (next : FirstRefused lookup vs e) : FirstRefused lookup (v :: vs) e

open Kind

def storeVariables : List Variable :=
  [.of text "VAULT_ADDR", .of given "VAULT_NAMESPACE", .of secret "VAULT_TOKEN", .of method "VAULT_AUTHENTICATION",
    .of natural "VAULT_CONNECTION_TIMEOUT", .of natural "VAULT_READ_TIMEOUT", .of flag "VAULT_FAIL_FAST"]

def loginVariables : List Variable :=
  [.of given "VAULT_APP_ROLE_ROLE_ID", .of secret "VAULT_APP_ROLE_SECRET_ID", .of text "VAULT_APP_ROLE_PATH",
    .of given "VAULT_APP_ID", .of text "VAULT_APP_ID_PATH", .of text "VAULT_APP_ID_USER_ID",
    .of given "VAULT_APP_ID_NETWORK_INTERFACE", .of given "VAULT_AWS_EC2_ROLE", .of text "VAULT_AWS_EC2_PATH",
    .of text "VAULT_AWS_EC2_IDENTITY_DOCUMENT", .of given "VAULT_KUBERNETES_ROLE",
    .of text "VAULT_KUBERNETES_PATH", .of text "VAULT_KUBERNETES_TOKEN_FILE", .of text "VAULT_CERT_PATH"]

def genericVariables : List Variable :=
  [.of flag "VAULT_GENERIC_ENABLED", .of text "VAULT_GENERIC_BACKEND", .of text "VAULT_GENERIC_DEFAULT_CONTEXT",
    .of text "VAULT_GENERIC_PROFILE_SEPARATOR", .of text "VAULT_APPLICATION_NAME"]

def renewalVariables : List Variable :=
  [.of flag "VAULT_LIFECYCLE_ENABLED", .of natural "VAULT_LIFECYCLE_POLL_INTERVAL",
    .of fraction "VAULT_LIFECYCLE_EXPIRY_THRESHOLD", .of flag "VAULT_LEASE_REFRESH_ENABLED"]

def allVariables : List Variable :=
  storeVariables ++ loginVariables ++ genericVariables ++ renewalVariables

/-! ## The configuration of the values -/

/-- The default context may be set to nothing: a variable that is set at all counts. -/
def HoldsContext (lookup : Lookup) (default a : String) : Prop :=
  (∃ raw, lookup "VAULT_GENERIC_DEFAULT_CONTEXT" = some raw ∧ a = Text.trim raw) ∨
    lookup "VAULT_GENERIC_DEFAULT_CONTEXT" = none ∧ a = default

/-- A configuration `c` is `d` with the value of each variable that is set in the field of that
variable, and in no other. A field that need not have a value has none unless its variable is set. -/
structure Overwrites (lookup : Lookup) (d c : Config) : Prop where
  address : Holds lookup text "VAULT_ADDR" d.address c.address
  namespaceName : Holds lookup given "VAULT_NAMESPACE" none c.namespaceName
  token : Holds lookup secret "VAULT_TOKEN" none c.token
  authentication : Holds lookup method "VAULT_AUTHENTICATION" d.authentication c.authentication
  connectionTimeout : Holds lookup natural "VAULT_CONNECTION_TIMEOUT" d.connectionTimeout c.connectionTimeout
  readTimeout : Holds lookup natural "VAULT_READ_TIMEOUT" d.readTimeout c.readTimeout
  failFast : Holds lookup flag "VAULT_FAIL_FAST" d.failFast c.failFast
  roleId : Holds lookup given "VAULT_APP_ROLE_ROLE_ID" none c.appRole.roleId
  secretId : Holds lookup secret "VAULT_APP_ROLE_SECRET_ID" none c.appRole.secretId
  appRolePath : Holds lookup text "VAULT_APP_ROLE_PATH" d.appRole.path c.appRole.path
  appId : Holds lookup given "VAULT_APP_ID" none c.appId.appId
  appIdPath : Holds lookup text "VAULT_APP_ID_PATH" d.appId.path c.appId.path
  userId : Holds lookup text "VAULT_APP_ID_USER_ID" d.appId.userId c.appId.userId
  networkInterface : Holds lookup given "VAULT_APP_ID_NETWORK_INTERFACE" none c.appId.networkInterface
  awsEc2Role : Holds lookup given "VAULT_AWS_EC2_ROLE" none c.awsEc2.role
  awsEc2Path : Holds lookup text "VAULT_AWS_EC2_PATH" d.awsEc2.path c.awsEc2.path
  identityDocument :
    Holds lookup text "VAULT_AWS_EC2_IDENTITY_DOCUMENT" d.awsEc2.identityDocument c.awsEc2.identityDocument
  kubernetesRole : Holds lookup given "VAULT_KUBERNETES_ROLE" none c.kubernetes.role
  kubernetesPath : Holds lookup text "VAULT_KUBERNETES_PATH" d.kubernetes.path c.kubernetes.path
  tokenFile : Holds lookup text "VAULT_KUBERNETES_TOKEN_FILE" d.kubernetes.tokenFile c.kubernetes.tokenFile
  certPath : Holds lookup text "VAULT_CERT_PATH" d.cert.path c.cert.path
  genericEnabled : Holds lookup flag "VAULT_GENERIC_ENABLED" d.generic.enabled c.generic.enabled
  genericBackend : Holds lookup text "VAULT_GENERIC_BACKEND" d.generic.backend c.generic.backend
  defaultContext : HoldsContext lookup d.generic.defaultContext c.generic.defaultContext
  profileSeparator :
    Holds lookup text "VAULT_GENERIC_PROFILE_SEPARATOR" d.generic.profileSeparator c.generic.profileSeparator
  applicationName : Holds lookup text "VAULT_APPLICATION_NAME" d.generic.applicationName c.generic.applicationName
  lifecycleEnabled : Holds lookup flag "VAULT_LIFECYCLE_ENABLED" d.lifecycle.enabled c.lifecycle.enabled
  pollSeconds : Holds lookup natural "VAULT_LIFECYCLE_POLL_INTERVAL" d.lifecycle.pollSeconds c.lifecycle.pollSeconds
  threshold : Holds lookup fraction "VAULT_LIFECYCLE_EXPIRY_THRESHOLD" d.lifecycle.threshold c.lifecycle.threshold
  leaseRefreshEnabled : Holds lookup flag "VAULT_LEASE_REFRESH_ENABLED" d.leaseRefresh.enabled c.leaseRefresh.enabled
  leaseRefreshOthers : c.leaseRefresh.pollSeconds = d.leaseRefresh.pollSeconds ∧
    c.leaseRefresh.threshold = d.leaseRefresh.threshold
  backends : c.backends = d.backends

/-! ## Settings that act in turn -/

/-- Settings that read variables in turn lead from a configuration to those that `ends` allows, unless
one of the variables is reported. -/
structure Turns (lookup : Lookup) (sets : List Setting) (vs : List Variable) (c : Config)
    (ends : Config → Prop) : Prop where
  ok_iff : ∀ c', applyAll lookup sets c = .ok c' ↔ ends c'
  error_iff : ∀ e, applyAll lookup sets c = .error e ↔ FirstRefused lookup vs e

/-- A setting that reads a variable puts a value that the field may have there, unless the variable is
reported. -/
structure Step {α : Type} (lookup : Lookup) (set : Setting) (v : Variable) (c : Config) (held : α → Prop)
    (put : α → Config → Config) : Prop where
  ok_iff : ∀ c', set lookup c = .ok c' ↔ ∃ a, held a ∧ c' = put a c
  error_iff : ∀ e, set lookup c = .error e ↔ Refused lookup v e

section
variable {α : Type} {lookup : Lookup} {sets : List Setting} {vs : List Variable} {c : Config} {name : String}

theorem Turns.nil : Turns lookup [] [] c (· = c) where
  ok_iff c' := by rw [applyAll, Except.ok.injEq, eq_comm]
  error_iff e := iff_of_false (fun h => by cases h) fun h => by cases h

theorem Turns.cons {set : Setting} {v : Variable} {held : α → Prop} {put : α → Config → Config}
    {ends : α → Config → Prop} (step : Step lookup set v c held put)
    (rest : ∀ a, Turns lookup sets vs (put a c) (ends a)) :
    Turns lookup (set :: sets) (v :: vs) c fun c' => ∃ a, held a ∧ ends a c' := by
  cases acts : set lookup c with
  | error e =>
    have refused := (step.error_iff e).1 acts
    constructor
    · intro c'
      refine iff_of_false (fun h => by rw [applyAll, acts] at h; cases h) ?_
      rintro ⟨a, holds, -⟩
      have accepted := (step.ok_iff _).2 ⟨a, holds, rfl⟩
      rw [acts] at accepted
      cases accepted
    · intro e'
      have same : applyAll lookup (set :: sets) c = .error e' ↔ set lookup c = .error e' := by rw [applyAll, acts]
      refine same.trans ((step.error_iff e').trans ⟨.here, ?_⟩)
      rintro (refused' | ⟨accepted, -⟩)
      · exact refused'
      · exact absurd refused (accepted e)
  | ok c₁ =>
    obtain ⟨a, holds, rfl⟩ := (step.ok_iff c₁).1 acts
    have accepted (e : Error) : ¬ Refused lookup v e := by
      rw [← step.error_iff, acts]
      exact fun h => by cases h
    constructor
    · intro c'
      rw [applyAll, acts]
      constructor
      · intro h
        exact ⟨a, holds, ((rest a).ok_iff c').1 h⟩
      · rintro ⟨a', holds', turned⟩
        have same := (step.ok_iff _).2 ⟨a', holds', rfl⟩
        rw [acts] at same
        rw [Except.ok.inj same]
        exact ((rest a').ok_iff c').2 turned
    · intro e
      rw [applyAll, acts]
      refine ((rest a).error_iff e).trans ⟨.later accepted, ?_⟩
      rintro (refused | ⟨-, next⟩)
      · exact absurd refused (accepted e)
      · exact next

section
variable {k : Kind α} {s : String} {a default : α} {e : Error}

theorem holds_unset (unset : lookup.value? name = none) : Holds lookup k name default a ↔ a = default := by
  have none_given (s : String) : ¬ Given lookup name s := by
    rw [← value?_eq_some_iff, unset]
    exact fun h => by cases h
  constructor
  · rintro (⟨s, own, -⟩ | ⟨-, same⟩)
    · exact absurd own (none_given s)
    · exact same
  · exact fun same => .inr ⟨none_given, same⟩

theorem holds_set (own : lookup.value? name = some s) : Holds lookup k name default a ↔ k.Spells s a := by
  have given := value?_eq_some_iff.1 own
  constructor
  · rintro (⟨s', own', spells⟩ | ⟨none_given, -⟩)
    · rw [← value?_eq_some_iff, own] at own'
      obtain rfl := Option.some.inj own'
      exact spells
    · exact absurd given (none_given s)
  · exact fun spells => .inl ⟨s, given, spells⟩

theorem not_refused_unset (unset : lookup.value? name = none) : ¬ Refused lookup (.of k name) e := by
  rintro ⟨s, own, -⟩
  have own' := value?_eq_some_iff.2 own
  rw [Variable.of, unset] at own'
  cases own'

theorem refused_set (own : lookup.value? name = some s) : Refused lookup (.of k name) e ↔ k.Wrong name s e := by
  constructor
  · rintro ⟨s', own', wrong⟩
    have same := value?_eq_some_iff.2 own'
    rw [Variable.of, own] at same
    obtain rfl := Option.some.inj same
    exact wrong
  · exact fun wrong => ⟨s, value?_eq_some_iff.1 own, wrong⟩

end

/-- A field is read by a setting that leaves it as it is while its variable is unset or blank. -/
theorem step_read {k : Kind α} {read : String → Except Error α} {set : Setting} (get : Config → α)
    {put : α → Config → Config} (reader : k.ReadBy name read) (same : put (get c) c = c)
    (acts : set lookup c = match lookup.value? name with
      | none => .ok c
      | some s => (read s).map fun a => put a c) :
    Step lookup set (.of k name) c (Holds lookup k name (get c)) put := by
  cases own : lookup.value? name with
  | none =>
    rw [own] at acts
    constructor
    · intro c'
      simp only [acts, holds_unset own, Except.ok.injEq, exists_eq_left, same, eq_comm]
    · intro e
      exact iff_of_false (fun h => by rw [acts] at h; cases h) (not_refused_unset own)
  | some s =>
    rw [own] at acts
    have trimmed := (value?_eq_some_iff.1 own).trimmed
    constructor
    · intro c'
      simp only [acts, holds_set own, ← reader.ok_iff s _ trimmed]
      cases read s with
      | ok a => simp [Except.map, eq_comm]
      | error e => simp [Except.map]
    · intro e
      simp only [acts, refused_set own, ← reader.error_iff s e trimmed]
      cases read s with
      | ok a => simp [Except.map]
      | error e => simp [Except.map]

theorem step_text {put : String → Config → Config} (get : Config → String) (same : put (get c) c = c) :
    Step lookup (setText name put) (.of text name) c (Holds lookup text name (get c)) put := by
  have reader : text.ReadBy name .ok := by
    constructor
    · intro s a _
      rw [Except.ok.injEq, eq_comm, text]
    · intro s e _
      exact iff_of_false (fun h => by cases h) id
  refine step_read get reader same ?_
  unfold setText
  cases lookup.value? name with
  | none => rfl
  | some s => rfl

theorem step_named {k : Kind α} {read : String → Except String α} {put : α → Config → Config}
    (get : Config → α) (reader : k.ReadBy name (named name read)) (same : put (get c) c = c) :
    Step lookup (setRead name read put) (.of k name) c (Holds lookup k name (get c)) put := by
  refine step_read get reader same ?_
  unfold setRead named
  cases lookup.value? name with
  | none => rfl
  | some s =>
    dsimp only
    cases read s with
    | ok a => rfl
    | error reason => rfl

/-- A field that need not have a value gets one by its variable alone. -/
theorem step_optional {k : Kind (Option α)} {wrap : String → α} {set : Option String → Config → Config}
    {put : Option α → Config → Config} (spells : ∀ s a, k.Spells s a ↔ a = some (wrap s))
    (never : ∀ s e, ¬ k.Wrong name s e) (wraps : ∀ s, set s c = put (s.map wrap) c) :
    Step lookup (setOptional name set) (.of k name) c (Holds lookup k name none) put := by
  cases own : lookup.value? name with
  | none =>
    constructor
    · intro c'
      simp only [setOptional, own, wraps, Option.map_none, holds_unset own, Except.ok.injEq, exists_eq_left, eq_comm]
    · intro e
      exact iff_of_false (fun h => by cases h) (not_refused_unset own)
  | some s =>
    constructor
    · intro c'
      simp only [setOptional, own, wraps, Option.map_some, holds_set own, spells, Except.ok.injEq,
        exists_eq_left, eq_comm]
    · intro e
      rw [refused_set own]
      exact iff_of_false (fun h => by cases h) (never s e)

theorem step_defaultContext (c : Config) : Step lookup
    (fun lookup c => match lookup "VAULT_GENERIC_DEFAULT_CONTEXT" with
      | none => .ok c
      | some s => .ok { c with generic.defaultContext := Text.trim s })
    (.of text "VAULT_GENERIC_DEFAULT_CONTEXT") c (HoldsContext lookup c.generic.defaultContext)
    fun a c => { c with generic.defaultContext := a } := by
  have accepted (e : Error) : ¬ Refused lookup (.of text "VAULT_GENERIC_DEFAULT_CONTEXT") e := by
    rintro ⟨s, -, wrong⟩
    exact wrong
  cases own : lookup "VAULT_GENERIC_DEFAULT_CONTEXT" with
  | none =>
    constructor
    · intro c'
      simp only [own]
      constructor
      · rintro ⟨⟩
        exact ⟨_, .inr ⟨own, rfl⟩, rfl⟩
      · rintro ⟨a, ⟨raw, own', -⟩ | ⟨-, rfl⟩, rfl⟩
        · rw [own] at own'
          cases own'
        · rfl
    · intro e
      simpa only [own] using iff_of_false (fun h => by cases h) (accepted e)
  | some raw =>
    constructor
    · intro c'
      simp [HoldsContext, own, eq_comm]
    · intro e
      simpa only [own] using iff_of_false (fun h => by cases h) (accepted e)

end

theorem step_given {lookup : Lookup} {c : Config} {name : String} (put : Option String → Config → Config) :
    Step lookup (setOptional name put) (.of given name) c (Holds lookup given name none) put :=
  step_optional (fun _ _ => Iff.rfl) (fun _ _ => id) fun s => by rw [Option.map_id']

theorem step_secret {lookup : Lookup} {c : Config} {name : String} (put : Option Secret → Config → Config) :
    Step lookup (setOptional name fun s => put (s.map Secret.mk)) (.of secret name) c
      (Holds lookup secret name none) put :=
  step_optional (fun _ _ => Iff.rfl) (fun _ _ => id) fun _ => rfl

theorem step_method {lookup : Lookup} (c : Config) : Step lookup
    (fun lookup c => match lookup.value? "VAULT_AUTHENTICATION" with
      | none => .ok c
      | some s => (readMethod s).map fun m => { c with authentication := m })
    (.of method "VAULT_AUTHENTICATION") c (Holds lookup method "VAULT_AUTHENTICATION" c.authentication)
    fun a c => { c with authentication := a } :=
  step_read (·.authentication) (method_readBy _) rfl rfl

/-- Read in turn, all variables lead to the configuration that their values come to. -/
theorem turns_settings (lookup : Lookup) (d : Config) :
    Turns lookup settings allVariables d (Overwrites lookup d) := by
  -- One step for each variable, in the order of reading. A step names the field that may keep its value.
  have turns : ∃ ends, Turns lookup settings allVariables d ends ∧ ∀ c, ends c ↔ Overwrites lookup d c := by
    unfold settings allVariables storeSettings storeVariables loginSettings loginVariables genericSettings
      genericVariables renewalSettings renewalVariables
    simp only [List.cons_append, List.nil_append]
    apply Exists.intro
    apply And.intro
    · apply Turns.cons (step_text (·.address) rfl); intro a
      apply Turns.cons (step_given _); intro a
      apply Turns.cons (step_secret fun s c => { c with token := s }); intro a
      apply Turns.cons (step_method _); intro a
      apply Turns.cons (step_named (·.connectionTimeout) (natural_readBy _) rfl); intro a
      apply Turns.cons (step_named (·.readTimeout) (natural_readBy _) rfl); intro a
      apply Turns.cons (step_named (·.failFast) (flag_readBy _) rfl); intro a
      apply Turns.cons (step_given _); intro a
      apply Turns.cons (step_secret fun s c => { c with appRole.secretId := s }); intro a
      apply Turns.cons (step_text (·.appRole.path) rfl); intro a
      apply Turns.cons (step_given _); intro a
      apply Turns.cons (step_text (·.appId.path) rfl); intro a
      apply Turns.cons (step_text (·.appId.userId) rfl); intro a
      apply Turns.cons (step_given _); intro a
      apply Turns.cons (step_given _); intro a
      apply Turns.cons (step_text (·.awsEc2.path) rfl); intro a
      apply Turns.cons (step_text (·.awsEc2.identityDocument) rfl); intro a
      apply Turns.cons (step_given _); intro a
      apply Turns.cons (step_text (·.kubernetes.path) rfl); intro a
      apply Turns.cons (step_text (·.kubernetes.tokenFile) rfl); intro a
      apply Turns.cons (step_text (·.cert.path) rfl); intro a
      apply Turns.cons (step_named (·.generic.enabled) (flag_readBy _) rfl); intro a
      apply Turns.cons (step_text (·.generic.backend) rfl); intro a
      apply Turns.cons (step_defaultContext _); intro a
      apply Turns.cons (step_text (·.generic.profileSeparator) rfl); intro a
      apply Turns.cons (step_text (·.generic.applicationName) rfl); intro a
      apply Turns.cons (step_named (·.lifecycle.enabled) (flag_readBy _) rfl); intro a
      apply Turns.cons (step_named (·.lifecycle.pollSeconds) (natural_readBy _) rfl); intro a
      apply Turns.cons (step_named (·.lifecycle.threshold) (fraction_readBy _) rfl); intro a
      apply Turns.cons (step_named (·.leaseRefresh.enabled) (flag_readBy _) rfl); intro a
      exact .nil
    · intro c
      dsimp only
      constructor
      · rintro ⟨_, address, _, namespaceName, _, token, _, authentication, _, connectionTimeout, _, readTimeout, _,
          failFast, _, roleId, _, secretId, _, appRolePath, _, appId, _, appIdPath, _, userId, _, networkInterface,
          _, awsEc2Role, _, awsEc2Path, _, identityDocument, _, kubernetesRole, _, kubernetesPath, _, tokenFile, _,
          certPath, _, genericEnabled, _, genericBackend, _, defaultContext, _, profileSeparator, _, applicationName,
          _, lifecycleEnabled, _, pollSeconds, _, threshold, _, leaseRefreshEnabled, rfl⟩
        exact ⟨address, namespaceName, token, authentication, connectionTimeout, readTimeout, failFast, roleId,
          secretId, appRolePath, appId, appIdPath, userId, networkInterface, awsEc2Role, awsEc2Path, identityDocument,
          kubernetesRole, kubernetesPath, tokenFile, certPath, genericEnabled, genericBackend, defaultContext,
          profileSeparator, applicationName, lifecycleEnabled, pollSeconds, threshold, leaseRefreshEnabled,
          ⟨rfl, rfl⟩, rfl⟩
      · intro h
        refine ⟨_, h.address, _, h.namespaceName, _, h.token, _, h.authentication, _, h.connectionTimeout, _,
          h.readTimeout, _, h.failFast, _, h.roleId, _, h.secretId, _, h.appRolePath, _, h.appId, _, h.appIdPath, _,
          h.userId, _, h.networkInterface, _, h.awsEc2Role, _, h.awsEc2Path, _, h.identityDocument, _,
          h.kubernetesRole, _, h.kubernetesPath, _, h.tokenFile, _, h.certPath, _, h.genericEnabled, _,
          h.genericBackend, _, h.defaultContext, _, h.profileSeparator, _, h.applicationName, _, h.lifecycleEnabled,
          _, h.pollSeconds, _, h.threshold, _, h.leaseRefreshEnabled, ?_⟩
        obtain ⟨poll, threshold⟩ := h.leaseRefreshOthers
        rw [← h.backends, ← poll, ← threshold]
  obtain ⟨ends, turns, same⟩ := turns
  exact ⟨fun c => (turns.ok_iff c).trans (same c), turns.error_iff⟩

section
variable {lookup : Lookup} {c : Config} {e : Error}

theorem ofVariables_ok_iff : ofVariables lookup = .ok c ↔ Overwrites lookup {} c ∧ c.validate = .ok () := by
  have turns := turns_settings lookup {}
  rw [← turns.ok_iff, ofVariables]
  cases applyAll lookup settings {} with
  | error e => simp
  | ok c' =>
    dsimp only
    cases valid : c'.validate with
    | error e =>
      refine iff_of_false (fun h => by cases h) ?_
      rintro ⟨⟨⟩, valid'⟩
      rw [valid] at valid'
      cases valid'
    | ok _ =>
      constructor
      · rintro ⟨⟩
        exact ⟨rfl, valid⟩
      · rintro ⟨⟨⟩, -⟩
        rfl

theorem ofVariables_error_iff : ofVariables lookup = .error e ↔
    FirstRefused lookup allVariables e ∨ ∃ c, Overwrites lookup {} c ∧ c.validate = .error e := by
  have turns := turns_settings lookup {}
  simp only [← turns.ok_iff, ← turns.error_iff, ofVariables]
  cases applyAll lookup settings {} with
  | error e' => simp
  | ok c' =>
    cases valid : c'.validate with
    | error e' => simp [Except.map, valid]
    | ok _ => simp [Except.map, valid]

/-- Nothing that is set comes to the default configuration. -/
theorem overwrites_unset : Overwrites (fun _ => none) {} c ↔ c = {} := by
  have unset : applyAll (fun _ => none) settings {} = .ok {} := rfl
  rw [← (turns_settings (fun _ => none) {}).ok_iff, unset, Except.ok.injEq, eq_comm]

end

/-! ## Variables that come to the same -/

/-- The default context as it is trimmed; it may be empty. -/
def Lookup.defaultContext? (lookup : Lookup) : Option String :=
  (lookup "VAULT_GENERIC_DEFAULT_CONTEXT").map Text.trim

/-- The variables have the same values, and the default context has. -/
structure SameValues (l l' : Lookup) : Prop where
  values : ∀ v ∈ allVariables, l.value? v.name = l'.value? v.name
  defaultContext : l.defaultContext? = l'.defaultContext?

namespace SameValues
variable {l l' l'' : Lookup}

theorem trans (h : SameValues l l') (h' : SameValues l' l'') : SameValues l l'' where
  values v hv := (h.values v hv).trans (h'.values v hv)
  defaultContext := h.defaultContext.trans h'.defaultContext

theorem same_settings (h : SameValues l l') : ∀ set ∈ settings, ∀ c, set l c = set l' c := by
  have values := h.values
  simp only [allVariables, storeVariables, loginVariables, genericVariables, renewalVariables, Variable.of,
    List.cons_append, List.nil_append, List.forall_mem_cons] at values
  simp only [settings, storeSettings, loginSettings, genericSettings, renewalSettings, List.cons_append,
    List.nil_append, List.forall_mem_cons, setText, setOptional, setRead, values, implies_true, true_and,
    List.not_mem_nil, false_implies, and_true]
  intro c
  have context := h.defaultContext
  unfold Lookup.defaultContext? at context
  cases own : l "VAULT_GENERIC_DEFAULT_CONTEXT" with
  | none =>
    rw [own, Option.map_none, eq_comm, Option.map_eq_none_iff] at context
    rw [context]
  | some raw =>
    rw [own, Option.map_some, eq_comm, Option.map_eq_some_iff] at context
    obtain ⟨raw', own', same⟩ := context
    simp only [own', same]

theorem same_outcome (h : SameValues l l') : ofVariables l = ofVariables l' := by
  have turned (sets : List Setting)
      (same : ∀ set ∈ sets, ∀ c, set l c = set l' c) (c : Config) :
      applyAll l sets c = applyAll l' sets c := by
    induction sets generalizing c with
    | nil => rfl
    | cons set sets ih =>
      obtain ⟨first, others⟩ := List.forall_mem_cons.1 same
      rw [applyAll, applyAll, first c]
      cases set l' c with
      | ok c => exact ih others c
      | error e => rfl
  rw [ofVariables, ofVariables, turned settings h.same_settings]

end SameValues

/-- The variables with their values trimmed. -/
def Lookup.trimmed (lookup : Lookup) : Lookup := fun name => (lookup name).map Text.trim

/-- The variables that are not blank, and the default context even if it is. -/
def Lookup.present (lookup : Lookup) : Lookup := fun name =>
  (lookup name).filter fun s => !Text.isBlankText s || name == "VAULT_GENERIC_DEFAULT_CONTEXT"

/-- The variables that are read, without any others. -/
def Lookup.recognised (lookup : Lookup) : Lookup := fun name =>
  if name ∈ allVariables.map (·.name) then lookup name else none

theorem sameValues_trimmed (lookup : Lookup) : SameValues lookup.trimmed lookup where
  values v _ := by
    rw [Lookup.value?, Lookup.trimmed, Lookup.value?, Option.bind_map, Text.trimmed?_comp_trim]
  defaultContext := by
    rw [Lookup.defaultContext?, Lookup.trimmed, Lookup.defaultContext?, Option.map_map, Text.trim_comp_trim]

/-- What comes to nothing anyway may be left out before. -/
theorem bind_filter {α β : Type} {p : α → Bool} {f : α → Option β}
    (h : ∀ a, p a = false → f a = none) (o : Option α) : (o.filter p).bind f = o.bind f := by
  cases o with
  | none => rfl
  | some a =>
    cases hp : p a with
    | true => rw [Option.filter_some_pos hp]
    | false => rw [Option.filter_some_neg (by simp [hp]), Option.bind_none, Option.bind_some, h a hp]

theorem sameValues_present (lookup : Lookup) : SameValues lookup.present lookup where
  values v _ := by
    refine bind_filter (fun s hs => ?_) (lookup v.name)
    have blank : Text.isBlankText s = true := by simpa using (Bool.or_eq_false_iff.1 hs).1
    rw [Text.trimmed?, if_pos blank]
  defaultContext := by
    rw [Lookup.defaultContext?, Lookup.present, Lookup.defaultContext?]
    cases lookup "VAULT_GENERIC_DEFAULT_CONTEXT" with
    | none => rfl
    | some s => rw [Option.filter_some_pos (by simp)]

theorem sameValues_recognised (lookup : Lookup) : SameValues lookup.recognised lookup where
  values v hv := by
    rw [Lookup.value?, Lookup.recognised, if_pos (List.mem_map_of_mem hv), Lookup.value?]
  defaultContext := by
    have hmem : "VAULT_GENERIC_DEFAULT_CONTEXT" ∈ allVariables.map (·.name) := by decide +kernel
    rw [Lookup.defaultContext?, Lookup.recognised, if_pos hmem, Lookup.defaultContext?]

/-- Nothing changes if the values are trimmed, and the blank variables and those that are never read
are left out. A configuration comes of the variables just where it is the default one with the value
of each variable in the field of that variable, and is valid. Otherwise the first variable whose value
stands for nothing is reported, or else what is wrong with the configuration of the values. A default
context that is set to nothing is empty. -/
theorem variables_set_own_fields (lookup : Lookup) :
    ofVariables lookup.trimmed.present.recognised = ofVariables lookup ∧
    (∀ c, ofVariables lookup = .ok c ↔ Overwrites lookup {} c ∧ c.validate = .ok ()) ∧
    (∀ e, ofVariables lookup = .error e ↔
      FirstRefused lookup allVariables e ∨ ∃ c, Overwrites lookup {} c ∧ c.validate = .error e) ∧
    (∀ s c, lookup "VAULT_GENERIC_DEFAULT_CONTEXT" = some s → Text.isBlankText s = true →
      Overwrites lookup {} c → c.generic.defaultContext = "") ∧
    ∀ c, Overwrites (fun _ => none) {} c ↔ c = {} := by
  have tidied : SameValues lookup.trimmed.present.recognised lookup :=
    ((sameValues_recognised _).trans (sameValues_present _)).trans (sameValues_trimmed _)
  refine ⟨tidied.same_outcome, fun c => ofVariables_ok_iff, fun e => ofVariables_error_iff, ?_,
    fun c => overwrites_unset⟩
  intro s c set blank overwrites
  rcases overwrites.defaultContext with ⟨raw, set', context⟩ | ⟨unset, -⟩
  · rw [set] at set'
    obtain rfl := Option.some.inj set'
    rw [context, (Text.trim_eq_empty_iff s).2 blank]
  · rw [set] at unset
    cases unset

/-- Values of every kind, some of them between blanks, and a default context that is set to nothing. -/
def spaced : Lookup := fun name =>
  [("VAULT_ADDR", " https://vault.example.com "), ("VAULT_AUTHENTICATION", "App-Role"),
    ("VAULT_CONNECTION_TIMEOUT", "+30"), ("VAULT_FAIL_FAST", ""), ("VAULT_GENERIC_ENABLED", " false"),
    ("VAULT_GENERIC_DEFAULT_CONTEXT", " "), ("VAULT_LIFECYCLE_EXPIRY_THRESHOLD", "5e-1")].lookup name

/-- A timeout that does not fit, and behind it a flag that is neither `true` nor `false`. -/
def misspelled : Lookup := fun name =>
  [("VAULT_READ_TIMEOUT", "18446744073709551616"), ("VAULT_LIFECYCLE_ENABLED", "yes")].lookup name

theorem spaced_accepted : spaced "VAULT_GENERIC_DEFAULT_CONTEXT" = some " " ∧ Text.isBlankText " " = true ∧
    (∃ c, ofVariables spaced = .ok c ∧ Overwrites spaced {} c ∧ c.generic.defaultContext = "" ∧
      c.address = "https://vault.example.com" ∧ c.authentication = .approle ∧ c.connectionTimeout = 30 ∧
      c.failFast = false ∧ c.generic.enabled = false ∧ c.lifecycle.threshold = .finite false (2 ^ 52) 1021) ∧
    let e : Error := .configuration "Invalid value for VAULT_READ_TIMEOUT: number too large to fit in target type"
    FirstRefused misspelled allVariables e ∧ ofVariables misspelled = .error e := by
  obtain ⟨-, accepted, -, emptied, -⟩ := variables_set_own_fields spaced
  have blank : spaced "VAULT_GENERIC_DEFAULT_CONTEXT" = some " " := by decide +kernel
  refine ⟨blank, by decide, ?_, ?_⟩
  · have shown : (ofVariables spaced).toOption.any (fun c =>
        decide (c.address = "https://vault.example.com" ∧ c.authentication = .approle ∧
          c.connectionTimeout = 30 ∧ c.failFast = false ∧ c.generic.enabled = false ∧
          c.lifecycle.threshold = .finite false (2 ^ 52) 1021)) = true := by decide +kernel
    cases read : ofVariables spaced with
    | error e =>
      rw [read] at shown
      cases shown
    | ok c =>
      rw [read] at shown
      obtain ⟨overwrites, -⟩ := (accepted c).1 read
      exact ⟨c, rfl, overwrites, emptied " " c blank (by decide) overwrites, of_decide_eq_true shown⟩
  · intro e
    have reported : (applyAll misspelled settings {}).map (fun _ => ()) = .error e := by decide +kernel
    have refused : FirstRefused misspelled allVariables e := by
      refine ((turns_settings misspelled {}).error_iff e).1 ?_
      cases turned : applyAll misspelled settings {} with
      | ok c =>
        rw [turned] at reported
        cases reported
      | error e' =>
        rw [turned] at reported
        cases reported
        rfl
    exact ⟨refused, ((variables_set_own_fields misspelled).2.2.1 e).2 (.inl refused)⟩

end SecretLayers.Config
