import SecretLayers.Proofs.Url.Relative
import SecretLayers.Store.Client
/-!
Which requests stay on the store. The address of a path is read relative to the base of
the interface, and only slashes in front are cut from the path before. So a request stays
on the store and below the interface exactly where what the path gives of its own leads
back there: paths that only go down do, while a scheme, a site, or going up too often may
lead elsewhere.
-/
namespace SecretLayers
set_option autoImplicit false

/-! ## Sites -/

/-- Where requests for an address go. No port is the usual one of the scheme. -/
structure Url.Site where
  scheme : List Char
  host : Option Url.Host
  port : Option Nat
  deriving DecidableEq, Repr

namespace Url

def Authority.site (scheme : List Char) (a : Authority) : Site := ⟨scheme, a.host, a.port⟩

def site (u : Url) : Site :=
  ⟨u.scheme, u.authority.bind Authority.host, u.authority.bind Authority.port⟩

theorem site_of_authority {u : Url} {a : Authority} (h : u.authority = some a) :
    u.site = a.site u.scheme := by
  simp [site, h, Authority.site]

theorem site_eq {u v : Url} (hs : u.scheme = v.scheme) (ha : u.authority = v.authority) :
    u.site = v.site := by
  simp [site, hs, ha]

/-- References that lead from the base of an interface to its site and below its directory. -/
inductive Reference.Returns (base : Url) : Reference → Prop
  | site {name rest : List Char} {a : Authority} (read : readAuthority base.scheme name = .ok a)
      (same : a.site base.scheme = base.site)
      (path : base.path.parent <+: rootedDirectory (pathText rest)) : Returns base (site name rest)
  | inside {text : List Char}
      (path : base.path.parent <+: relativeDirectory base.path.parent (pathText text)) :
      Returns base (inside text)

/-- Paths that only go down: they start with no slash, and no points of theirs go up more
often than they have gone down before. -/
inductive Reference.GoesDown : Reference → Prop
  | inside {text : List Char} (first : (pathText text).head?.any (isSlash true) = false)
      (down : climbs 0 (pieces (pathText text)) = false) : GoesDown (inside text)

theorem Reference.GoesDown.returns {base : Url} {r : Reference} (h : r.GoesDown) :
    r.Returns base := by
  cases h with
  | @inside text first down =>
    refine .inside ?_
    cases ht : pathText text with
    | nil => exact List.prefix_refl _
    | cons c rest =>
      have hc : isSlash true c = false := by simpa [ht] using first
      rw [ht] at down
      simp only [relativeDirectory, hc, Bool.false_eq_true, if_false]
      exact directoryOf_of_not_climbs _ down

/-- An address of the web that stands alone is read from behind the slashes in front of its site. -/
theorem readAfterSlashes_of_parse {text : String} {u : Url} (http : isHttp u.scheme)
    (h : parse none text = .ok u) : ∃ rest, readAfterSlashes u.scheme rest = .ok u := by
  unfold parse at h
  simp only at h
  split at h
  · rename_i heq
    simp at heq
  · rename_i scheme rest _ _
    obtain rfl := readAlone_scheme h
    simp only [readAlone, isFile_of_isHttp http, isWeb_of_isHttp http, Bool.false_eq_true,
      if_false, if_true] at h
    exact ⟨_, h⟩
  · simp at h
  · rename_i heq
    simp at heq

/-- An address of the web that stands alone has a site and a path of segments. -/
theorem parse_web {text : String} {u : Url} (http : isHttp u.scheme) (h : parse none text = .ok u) :
    ∃ dir last, AreSegments dir ∧ '/' ∉ last ∧ u.path = .segments (dir ++ [last]) := by
  obtain ⟨rest, hrest⟩ := readAfterSlashes_of_parse http h
  obtain ⟨_, _, _, _, hpath⟩ := readAfterSlashes_ok hrest
  rw [isSpecial_of_isHttp http] at hpath
  obtain ⟨last, hlast, hread⟩ := readPath_web
    (splitParts true (rest.drop (rest.takeWhile fun c => !endsAuthority true c).length)).path
  exact ⟨_, last, areSegments_rootedDirectory _, hlast, hpath.trans hread⟩

end Url

namespace Store
open Url

/-! ## The base of an interface -/

/-- What the paths of an interface begin with: the path of the store's address, closed by
a slash, and the version. -/
def interfacePath (store : Url) : List Char :=
  let path := store.path.chars
  (if path.getLast? = some '/' then path else path ++ ['/']) ++ "v1/".toList

/-- The directory of an interface behind the path of an address. -/
def interfaceDirectory (dir : List (List Char)) (last : List Char) : List (List Char) :=
  (if last = [] then dir else dir ++ [last]) ++ ["v1".toList]

theorem basePath_eq (dir : List (List Char)) (last : List Char) :
    Client.basePath (.segments (dir ++ [last])) =
      .segments (interfaceDirectory dir last ++ [[]]) := by
  by_cases hl : last = []
  · simp [Client.basePath, interfaceDirectory, hl]
  · simp [Client.basePath, interfaceDirectory, hl]

theorem areSegments_interfaceDirectory {dir : List (List Char)} {last : List Char}
    (hd : AreSegments dir) (hl : '/' ∉ last) : AreSegments (interfaceDirectory dir last) := by
  intro s hs
  simp only [interfaceDirectory, List.mem_append, List.mem_singleton] at hs
  rcases hs with hs | rfl
  · split at hs
    · exact hd s hs
    · rcases List.mem_append.1 hs with hs | hs
      · exact hd s hs
      · obtain rfl := List.mem_singleton.1 hs
        exact hl
  · decide

theorem interfacePath_eq {store : Url} {dir : List (List Char)} {last : List Char}
    (hl : '/' ∉ last) (hp : store.path = .segments (dir ++ [last])) :
    interfacePath store = (Path.segments (interfaceDirectory dir last ++ [[]])).chars := by
  have hpath : store.path.chars = (Path.segments dir).chars ++ '/' :: last := by
    rw [hp, chars_append]
    simp [Path.chars]
  unfold interfacePath
  simp only [hpath]
  by_cases hlast : last = []
  · subst hlast
    simp only [interfaceDirectory, if_true, chars_append, List.getLast?_concat]
    simp [Path.chars]
  · have hend : ((Path.segments dir).chars ++ '/' :: last).getLast? ≠ some '/' := by
      intro he
      have hc := List.getLast?_eq_some_getLast hlast
      rw [List.getLast?_append, List.getLast?_cons_of_ne_nil hlast, hc, Option.some_or,
        Option.some.injEq] at he
      exact hl (List.mem_of_getLast? (he ▸ hc))
    simp only [hend, if_false, interfaceDirectory, hlast, chars_append]
    simp [Path.chars]

/-- The base of a client: the site of the store, and the directory of its interface. -/
theorem Client.ofAddress_ok {address : String} {namespaceName : Option String} {c : Client}
    (h : Client.ofAddress address namespaceName = .ok c) :
    ∃ store dir, Url.parse none address = .ok store ∧ isHttp c.base.scheme ∧
      c.base.site = store.site ∧ AreSegments dir ∧ c.base.path = .segments (dir ++ [[]]) ∧
      interfacePath store = c.base.path.chars := by
  unfold Client.ofAddress at h
  split at h
  · simp at h
  · rename_i store hparse
    split at h
    · simp at h
    · rename_i http
      obtain rfl := Except.ok.inj h
      have http : isHttp store.scheme := by simpa using http
      obtain ⟨dir, last, hd, hl, hp⟩ := parse_web http hparse
      refine ⟨store, interfaceDirectory dir last, hparse, http, rfl,
        areSegments_interfaceDirectory hd hl, ?_, ?_⟩
      · simp only [hp, basePath_eq]
      · simp only [hp, basePath_eq]
        exact interfacePath_eq hl hp

/-! ## Staying on the store -/

/-- Whether an address is one of the interface of a store. -/
structure StaysOn (store u : Url) : Prop where
  site : u.site = store.site
  path : interfacePath store <+: u.path.chars

/-- What the path of a request gives of its own. -/
def Client.reference (c : Client) (path : String) : Reference :=
  .of c.base.scheme (significant (Text.dropSlashes path))

theorem staysOn_iff {store base u : Url} {dir : List (List Char)} {r : Reference}
    (hsite : base.site = store.site) (hd : AreSegments dir)
    (hp : base.path = .segments (dir ++ [[]])) (hpath : interfacePath store = base.path.chars)
    (h : r.Gives base dir u) : StaysOn store u ↔ r.Returns base := by
  have parent : base.path.parent = dir := by simp [hp, Path.parent]
  have split : StaysOn store u ↔ u.site = base.site ∧ base.path.chars <+: u.path.chars := by
    rw [hsite, ← hpath]
    constructor
    · intro h
      exact ⟨h.site, h.path⟩
    · intro h
      exact ⟨h.1, h.2⟩
  rw [split]
  cases h with
  | foreign scheme =>
    constructor
    · intro h
      exact absurd (congrArg Site.scheme h.1) scheme
    · intro h
      cases h
  | @site name rest a last scheme read authority plain path =>
    rw [site_of_authority authority, scheme, path, hp,
      chars_prefix_iff hd (areSegments_rootedDirectory _) plain, ← parent]
    constructor
    · intro h
      exact .site read h.1 h.2
    · intro h
      cases h with
      | site read' same below =>
        obtain rfl : a = _ := Except.ok.inj (read.symm.trans read')
        exact ⟨same, below⟩
  | inside scheme authority plain path =>
    rw [site_eq scheme authority, path, hp,
      chars_prefix_iff hd (areSegments_relativeDirectory hd _) plain, ← parent]
    constructor
    · intro h
      exact .inside h.2
    · intro h
      cases h with
      | inside below => exact ⟨rfl, below⟩

/-! ## Requests -/

/-- What a client does at its interface. -/
inductive Operation where
  | read (path : String) (token : Token)
  | write (path : String) (token : Token) (body : Json)
  | login (method path : String) (body : Option Json) (wrapping : Option String)
  | renew (token : Token)
  | revoke (token : Token)
  | health

namespace Operation

/-- The path that an operation is done at. -/
def path : Operation → String
  | read path _ | write path _ _ | login _ path _ _ => path
  | renew _ => "auth/token/renew-self"
  | revoke _ => "auth/token/revoke-self"
  | health => Client.healthPath

section
variable {σ : Type}

/-- The requests of a run of an operation against a store. -/
def requests (o : Operation) (c : Client) (answers : σ → Request → Arrival × σ) (s : σ) :
    List Request :=
  match o with
  | read path token => ((c.read path token).run answers s).2.1
  | write path token body => ((c.write path token body).run answers s).2.1
  | login method path body wrapping => ((c.login method path body wrapping).run answers s).2.1
  | renew token => ((c.renew token).run answers s).2.1
  | revoke token => ((c.revoke token).run answers s).2.1
  | health => (c.health.run answers s).2.1

variable {answers : σ → Request → Arrival × σ} {s : σ} {r : Request}

theorem mem_exchange {α : Type} {request : Request} {next : Answer → Instant → Except Error α}
    (h : r ∈ ((Client.exchange request next).run answers s).2.1) : r = request := by
  unfold Client.exchange at h
  split at h
  · simp [Dialogue.run] at h
  · simpa [Dialogue.run] using h

theorem mem_call {α : Type} {c : Client} {verb : Verb} {path : String} {token : Option String}
    {body : Option Json} {next : Answer → Instant → Except Error α}
    (h : r ∈ ((c.call verb path token body next).run answers s).2.1) : c.url path = .ok r.url := by
  unfold Client.call at h
  split at h
  · simp [Dialogue.run] at h
  · rename_i u hu
    rw [hu, mem_exchange h]

/-- Every request is for the address of the path that the operation is done at. -/
theorem mem_requests {o : Operation} {c : Client} (h : r ∈ o.requests c answers s) :
    c.url o.path = .ok r.url := by
  cases o <;>
    simp only [requests, Client.read, Client.write, Client.login, Client.renew, Client.revoke,
      Client.health] at h <;>
    simp only [path]
  all_goals exact mem_call h

end

end Operation

theorem parse_of_url {c : Client} {path : String} {u : Url} (h : c.url path = .ok u) :
    Url.parse (some c.base) (Text.dropSlashes path) = .ok u := by
  unfold Client.url at h
  split at h
  · simp at h
  · rename_i v hv
    rw [hv, Except.ok.inj h]

section
variable {address : String} {namespaceName : Option String} {c : Client}

/-- An address that a client makes stays on the store just where its reference returns. -/
theorem url_staysOn_iff (h : Client.ofAddress address namespaceName = .ok c) :
    ∃ store, Url.parse none address = .ok store ∧
      ∀ path u, c.url path = .ok u → (StaysOn store u ↔ (c.reference path).Returns c.base) := by
  obtain ⟨store, dir, hstore, http, hsite, hd, hp, hpath⟩ := Client.ofAddress_ok h
  refine ⟨store, hstore, fun path u hu => ?_⟩
  have hparse := parse_of_url hu
  have gives := parse_gives http hp hparse
  exact staysOn_iff hsite hd hp hpath gives

/-- A request stays on the store and below its interface exactly where what its path gives
of its own returns there, as paths do that only go down. -/
theorem requests_stay_iff (h : Client.ofAddress address namespaceName = .ok c) :
    ∃ store, Url.parse none address = .ok store ∧
      (∀ path u, c.url path = .ok u → (StaysOn store u ↔ (c.reference path).Returns c.base)) ∧
      (∀ path u, c.url path = .ok u → (c.reference path).GoesDown → StaysOn store u) ∧
      ∀ (o : Operation) (σ : Type) (answers : σ → Request → Arrival × σ) (s : σ),
        ∀ r ∈ o.requests c answers s, c.url o.path = .ok r.url ∧
          (StaysOn store r.url ↔ (c.reference o.path).Returns c.base) := by
  obtain ⟨store, hstore, stays⟩ := url_staysOn_iff h
  refine ⟨store, ?_⟩
  constructor
  · exact hstore
  constructor
  · exact stays
  constructor
  · intro path u hu hdown
    exact (stays path u hu).2 hdown.returns
  · intro o σ answers s r hr
    have hu := Operation.mem_requests hr
    exact ⟨hu, stays o.path r.url hu⟩

theorem Client.goesDown_of {path : String} {cs : List Char}
    (read : significant (Text.dropSlashes path) = cs) (plain : splitScheme? cs = none)
    (alone : Reference.behind cs = .inside cs) (down : (Reference.inside cs).GoesDown) :
    (c.reference path).GoesDown := by
  simp only [Client.reference, read, Reference.of, plain, alone]
  exact down

theorem Client.renew_goesDown : (c.reference "auth/token/renew-self").GoesDown := by
  have read : significant (Text.dropSlashes "auth/token/renew-self") =
      "auth/token/renew-self".toList := by decide +kernel
  exact goesDown_of read (by decide +kernel) (by decide +kernel)
    (.inside (by decide +kernel) (by decide +kernel))

theorem Client.revoke_goesDown : (c.reference "auth/token/revoke-self").GoesDown := by
  have read : significant (Text.dropSlashes "auth/token/revoke-self") =
      "auth/token/revoke-self".toList := by decide +kernel
  exact goesDown_of read (by decide +kernel) (by decide +kernel)
    (.inside (by decide +kernel) (by decide +kernel))

/-- A token is renewed and revoked on the store alone. -/
theorem token_stays (h : Client.ofAddress address namespaceName = .ok c) (t : Token) :
    ∃ store, Url.parse none address = .ok store ∧
      ∀ o, o = Operation.renew t ∨ o = Operation.revoke t →
        ∀ (σ : Type) (answers : σ → Request → Arrival × σ) (s : σ),
          ∀ r ∈ o.requests c answers s, StaysOn store r.url := by
  obtain ⟨store, hstore, stays⟩ := url_staysOn_iff h
  refine ⟨store, hstore, fun o ho σ answers s r hr => ?_⟩
  have hu := Operation.mem_requests hr
  have down : (c.reference o.path).GoesDown := by
    rcases ho with rfl | rfl
    · exact Client.renew_goesDown
    · exact Client.revoke_goesDown
  exact (stays o.path r.url hu).2 down.returns

end

/-! ## A store on this machine -/

theorem ok_of_toOption {ε α : Type} {x : Except ε α} {a : α} (h : x.toOption = some a) :
    x = .ok a := by
  cases x with
  | error e => simp [Except.toOption] at h
  | ok b => simpa [Except.toOption] using h

def loopback : Url where
  scheme := "http".toList
  authority := some { host := some (.ipv4 0x7F000001), port := some 8200 }
  path := .segments [[]]

def loopbackClient : Client where
  base := { loopback with path := .segments ["v1".toList, []] }
  namespaceName := none

theorem parse_loopback : Url.parse none "http://127.0.0.1:8200" = .ok loopback :=
  ok_of_toOption (by decide +kernel)

theorem ofAddress_loopback :
    Client.ofAddress "http://127.0.0.1:8200" none = .ok loopbackClient := by
  simp only [Client.ofAddress, parse_loopback]
  rfl

/-- A secret is read on the store, and there a token is renewed and revoked, whatever it is. -/
theorem secret_stays_on_loopback :
    Client.ofAddress "http://127.0.0.1:8200" none = .ok loopbackClient ∧
      (∃ u, loopbackClient.url "/secret/app,dev" = .ok u ∧ StaysOn loopback u) ∧
      ∀ t o, o = Operation.renew t ∨ o = Operation.revoke t →
        ∀ (σ : Type) (answers : σ → Request → Arrival × σ) (s : σ),
          ∀ r ∈ o.requests loopbackClient answers s, StaysOn loopback r.url := by
  obtain ⟨store, hstore, -, down, -⟩ := requests_stay_iff ofAddress_loopback
  obtain rfl : loopback = store := Except.ok.inj (parse_loopback.symm.trans hstore)
  have hu : loopbackClient.url "/secret/app,dev" = .ok
      { loopback with path := .segments ["v1".toList, "secret".toList, "app,dev".toList] } :=
    ok_of_toOption (by decide +kernel)
  have href : loopbackClient.reference "/secret/app,dev" = .inside "secret/app,dev".toList := by
    decide +kernel
  have inside : (loopbackClient.reference "/secret/app,dev").GoesDown := by
    rw [href]
    exact .inside (by decide +kernel) (by decide +kernel)
  refine ⟨ofAddress_loopback, ⟨_, hu, down _ _ hu inside⟩, fun t => ?_⟩
  obtain ⟨store, hstore, stays⟩ := token_stays ofAddress_loopback t
  obtain rfl : loopback = store := Except.ok.inj (parse_loopback.symm.trans hstore)
  exact stays

/-- Points that go up leave the interface, and backslashes leave the store. -/
theorem paths_leave_loopback :
    Client.ofAddress "http://127.0.0.1:8200" none = .ok loopbackClient ∧
      Url.parse none "http://127.0.0.1:8200" = .ok loopback ∧
      (∃ u, loopbackClient.url "secret/../../sys/health" = .ok u ∧
        ¬ interfacePath loopback <+: u.path.chars) ∧
      ∃ u, loopbackClient.url "\\\\evil.test/x" = .ok u ∧ u.site ≠ loopback.site := by
  refine ⟨ofAddress_loopback, parse_loopback, ?_, ?_⟩
  · refine ⟨{ loopback with path := .segments ["sys".toList, "health".toList] }, ?_, ?_⟩
    · exact ok_of_toOption (by decide +kernel)
    · decide +kernel
  · refine ⟨{ loopback with
      authority := some { host := some (.name "evil.test".toList) }
      path := .segments ["x".toList] }, ?_, ?_⟩
    · exact ok_of_toOption (by decide +kernel)
    · decide +kernel

end Store
end SecretLayers
