import SecretLayers.Config.Validate
import SecretLayers.Proofs.Store.Confinement
import SecretLayers.Proofs.Url.Plain
/-!
Where plain paths of a store are. The base of its interface is the path of the store's address,
closed by one slash, and the version; a plain path stands behind it as it is written, without
the slashes in front. So paths that differ in more than these slashes have different addresses.
-/
namespace SecretLayers
set_option autoImplicit false

namespace Url

/-- Where there is a site, the path has no part in what stands before it. -/
theorem origin_eq {u v : Url} {a : Authority} (scheme : u.scheme = v.scheme)
    (hu : u.authority = some a) (hv : v.authority = some a) : u.origin = v.origin := by
  rw [origin, origin, hu, hv, scheme]

/-- How an address without query and fragment is written. -/
theorem render_bare {u : Url} (query : u.query = none) (fragment : u.fragment = none) :
    u.render = String.ofList (u.origin ++ u.path.chars) := by
  simp [render, chars, query, fragment, marked]

/-- An address whose path goes on behind that of another is written behind it. -/
theorem render_behind {u v : Url} {a : Authority} {cs : List Char} (scheme : u.scheme = v.scheme)
    (hu : u.authority = some a) (hv : v.authority = some a) (query : u.query = none ∧ v.query = none)
    (fragment : u.fragment = none ∧ v.fragment = none) (path : u.path.chars = v.path.chars ++ cs) :
    u.render = v.render ++ String.ofList cs := by
  rw [render_bare query.1 fragment.1, render_bare query.2 fragment.2, origin_eq scheme hu hv, path,
    ← List.append_assoc, String.ofList_append]

end Url

namespace Store
open Url

/-- The base of the interface of a store: on its site and with its credentials, behind the path
of its address. -/
structure IsBase (store base : Url) : Prop where
  scheme : base.scheme = store.scheme
  authority : base.authority = store.authority
  path : base.path.chars = interfacePath store
  query : base.query = none
  fragment : base.fragment = none
  written : base.render = String.ofList (store.origin ++ interfacePath store)

section
variable {address : String} {store : Url} {c : Client} {dir : List (List Char)} {path : String}

theorem ofAddress_web (http : isHttp store.scheme) (h : Url.parse none address = .ok store)
    (namespaceName : Option String) : Client.ofAddress address namespaceName = .ok
      { base := { store with path := Client.basePath store.path, query := none, fragment := none }
        namespaceName := namespaceName.filter (· ≠ "") } := by
  simp only [Client.ofAddress, h, http, Bool.not_true, Bool.false_eq_true, if_false]

/-- The client of a store of the web, with the directory of its interface. -/
theorem exists_client (http : isHttp store.scheme) (h : Url.parse none address = .ok store)
    (namespaceName : Option String) :
    ∃ c dir, Client.ofAddress address namespaceName = .ok c ∧ IsBase store c.base ∧
      c.base.path = .segments (dir ++ [[]]) := by
  obtain ⟨dir, last, -, hlast, hpath⟩ := parse_web http h
  obtain ⟨rest, hrest⟩ := readAfterSlashes_of_parse http h
  obtain ⟨a, -, -, authority, -⟩ := readAfterSlashes_ok hrest
  have hbase : Client.basePath store.path = .segments (interfaceDirectory dir last ++ [[]]) := by
    rw [hpath, basePath_eq]
  have hchars : (Client.basePath store.path).chars = interfacePath store := by
    rw [hbase, interfacePath_eq hlast hpath]
  refine ⟨_, _, ofAddress_web http h namespaceName, ⟨rfl, rfl, hchars, rfl, rfl, ?_⟩, hbase⟩
  rw [render_bare rfl rfl, hchars]
  exact congrArg (fun cs => String.ofList (cs ++ interfacePath store)) (origin_eq rfl authority authority)

theorem url_of_parse {u : Url} (h : Url.parse (some c.base) (Text.dropSlashes path) = .ok u) :
    c.url path = .ok u := by
  rw [Client.url, h]

/-- A plain path stands behind the base as it is written. -/
theorem url_of_plain {a : Authority} (http : isHttp store.scheme) (authority : store.authority = some a)
    (base : IsBase store c.base) (hdir : c.base.path = .segments (dir ++ [[]]))
    (plain : IsPlainPath path.toList) :
    ∃ u, c.url path = .ok u ∧ u.render = c.base.render ++ Text.dropSlashes path := by
  have special : isSpecial c.base.scheme := by
    rw [base.scheme]
    exact isSpecial_of_isHttp http
  have relative : (path.toList.dropWhile (· == '/')).head? ≠ some '/' := by
    intro hhead
    have := List.head?_dropWhile_not (· == '/') path.toList
    rw [hhead] at this
    cases this
  have read := parse_plain special hdir base.query base.fragment plain.dropSlashes relative
  have chars : (Path.segments (dir ++ Text.splitChars (· == '/') (path.toList.dropWhile (· == '/')))).chars =
      c.base.path.chars ++ path.toList.dropWhile (· == '/') := by
    rw [hdir, chars_append, chars_append, chars_splitChars]
    simp [Path.chars]
  rw [← base.authority] at authority
  refine ⟨_, url_of_parse read, ?_⟩
  exact render_behind rfl authority authority ⟨base.query, base.query⟩ ⟨base.fragment, base.fragment⟩ chars

end

/-- For an accepted configuration there is a client, whose base is the path of the address closed
by one slash and the version, on the site and with the credentials of the address. Plain paths
stand behind that base as they are written, without the slashes in front, so that they have one
address just when they are the same behind these slashes. -/
theorem plain_paths_behind_base {config : Config} (valid : config.validate = .ok ())
    (namespaceName : Option String) :
    ∃ store c, Url.parse none config.address = .ok store ∧
      Client.ofAddress config.address namespaceName = .ok c ∧ IsBase store c.base ∧
      (∀ path : String, IsPlainPath path.toList →
        ∃ u, c.url path = .ok u ∧ u.render = c.base.render ++ Text.dropSlashes path) ∧
      ∀ (path other : String) (u v : Url), IsPlainPath path.toList → IsPlainPath other.toList →
        c.url path = .ok u → c.url other = .ok v →
        (u.render = v.render ↔ Text.dropSlashes path = Text.dropSlashes other) := by
  obtain ⟨store, hparse, http⟩ := (Config.validate_ok_iff.1 valid).2.1
  obtain ⟨c, dir, hclient, base, hdir⟩ := exists_client http hparse namespaceName
  obtain ⟨rest, hrest⟩ := readAfterSlashes_of_parse http hparse
  obtain ⟨a, -, -, authority, -⟩ := readAfterSlashes_ok hrest
  have written {path : String} (plain : IsPlainPath path.toList) :=
    url_of_plain http authority base hdir plain
  refine ⟨store, c, hparse, hclient, base, fun path plain => written plain, ?_⟩
  intro path other u v plain plain' hu hv
  obtain ⟨w, hw, hrender⟩ := written plain
  obtain rfl : u = w := Except.ok.inj (hu.symm.trans hw)
  obtain ⟨w, hw, hrender'⟩ := written plain'
  obtain rfl : v = w := Except.ok.inj (hv.symm.trans hw)
  rw [hrender, hrender', String.append_right_inj]

/-- A store behind a path, addressed with credentials and parts that its interface drops. -/
def gateway : Config := { address := "https://ops:pw@gateway.example.com/vault?x=1#top" }

theorem gateway_valid : gateway.validate = .ok () := ok_of_toOption (by decide +kernel)

theorem paths_behind_gateway :
    gateway.validate = .ok () ∧ ∃ c u v, Client.ofAddress gateway.address none = .ok c ∧
      IsPlainPath "//secret/app..1/dev".toList ∧ IsPlainPath "secret/~ops//".toList ∧
      c.url "//secret/app..1/dev" = .ok u ∧ c.url "secret/~ops//" = .ok v ∧
      u.render = "https://ops:pw@gateway.example.com/vault/v1/secret/app..1/dev" ∧
      u.render ≠ v.render := by
  obtain ⟨store, c, hparse, hclient, base, written, alike⟩ := plain_paths_behind_base gateway_valid none
  have plain : IsPlainPath "//secret/app..1/dev".toList := by decide +kernel
  have plain' : IsPlainPath "secret/~ops//".toList := by decide +kernel
  obtain ⟨u, hu, hrender⟩ := written _ plain
  obtain ⟨v, hv, -⟩ := written _ plain'
  have parsed : Url.parse none gateway.address = .ok
      { scheme := "https".toList
        authority := some
          { username := "ops".toList, password := "pw".toList
            host := some (.name "gateway.example.com".toList) }
        path := .segments ["vault".toList]
        query := some "x=1".toList
        fragment := some "top".toList } := ok_of_toOption (by decide +kernel)
  obtain rfl := Except.ok.inj (parsed.symm.trans hparse)
  refine ⟨gateway_valid, c, u, v, hclient, plain, plain', hu, hv, ?_, fun same => ?_⟩
  · rw [hrender, base.written]
    decide +kernel
  · exact absurd ((alike _ _ u v plain plain' hu hv).1 same) (by decide +kernel)

end Store
end SecretLayers
