import ContentClient.Proofs.Client.Building
import ContentClient.Proofs.Url.References

/-!
# Where paths lead

A client resolves paths below its base URLs and sends its authorization wherever they lead. A path
without a scheme stays on the server of its base, unless what is left of it in front of the resolver
names a server of its own: the main statement is `resolvesPaths`.

The slashes that open a path are taken off before it is resolved, so that `//host/x` names no
server. That does not go for backslashes, which separate as slashes do in the schemes of the web,
nor for slashes behind a blank, which the resolver passes over: `\\host\x` leads to another server
(`not_sameServer_backslashes`).
-/

namespace ContentClient.Client

/-- The reference that is resolved for a path: without the slashes that open it, and without what is
not part of a URL. -/
def reference (path : String) : List Char := Url.clean (path.toList.dropWhile (· = '/'))

/-- How the paths of a base of the web are resolved. -/
structure ResolvesPaths (base : Url) (urlOf : String → Except ApiError Url) : Prop where
  /-- A path that is not resolved is a fault of configuration. -/
  refuses : ∀ path e, urlOf path = .error e → ∃ fault, e = .configuration fault
  /-- A path that has no scheme and names no server is resolved, on the server of the base. -/
  stays : ∀ path, Url.splitScheme? (reference path) = none → ¬Url.NamesServer (reference path) →
    ∃ u, urlOf path = .ok u ∧ u.SameServer base
  /-- One that names a server leads to the server that it names. -/
  leads : ∀ path u, Url.splitScheme? (reference path) = none → Url.NamesServer (reference path) →
    urlOf path = .ok u → u.scheme = base.scheme ∧
      ∃ authority rest,
        Url.readAuthority base.scheme (Url.behindSlashes (reference path)) =
            .ok (authority, rest) ∧
          u.authority = some authority
  /-- Only behind a backslash or a blank can a path name a server. -/
  names : ∀ path, Url.NamesServer (reference path) →
    ∃ c rest, path.toList.dropWhile (· = '/') = c :: rest ∧ (c = '\\' ∨ c.toNat ≤ 0x20)

variable {a : String} {o : ClientOptions} {clock : Clock} {c : Client} {base : Url}

/-! ### Bases -/

/-- References can be resolved against every base that is read. -/
theorem hasTextPath_of_readBase {option raw : String} (h : readBase option raw = .ok base) :
    base.hasTextPath = false := by
  unfold readBase at h
  dsimp only at h
  split at h
  · cases h
  · split at h
    · cases h
    · rename_i hpath
      obtain rfl := Except.ok.inj h
      exact Bool.not_eq_true _ ▸ hpath

/-- The bases of a client are read from its options. -/
theorem readBase_of_build (h : build a o clock = .ok c) :
    readBase "base_url" o.baseUrl = .ok c.baseUrl ∧
      readBase "base_upload_url" o.baseUploadUrl = .ok c.baseUploadUrl := by
  rw [build_eq] at h
  cases hbase : readBase "base_url" o.baseUrl with
  | error e =>
    rw [hbase] at h
    cases h
  | ok baseUrl =>
    cases hupload : readBase "base_upload_url" o.baseUploadUrl with
    | error e =>
      rw [hbase, hupload] at h
      cases h
    | ok baseUploadUrl =>
      rw [hbase, hupload] at h
      cases hoptions : o.foldDefaultHeaders with
      | error e =>
        rw [hoptions] at h
        cases h
      | ok options =>
        rw [hoptions] at h
        obtain rfl := Except.ok.inj h
        exact ⟨rfl, rfl⟩

/-! ### Paths -/

theorem exists_fault_of_resolve {path : String} {e : ApiError}
    (h : resolve base path = .error e) : ∃ fault, e = .configuration fault := by
  unfold resolve at h
  split at h
  · cases h
  · exact ⟨_, (Except.error.inj h).symm⟩

/-- A path without a scheme is resolved as its reference is. -/
theorem resolve_eq_ok_iff (hkind : base.kind = .web) (hpath : base.hasTextPath = false)
    {path : String} (h : Url.splitScheme? (reference path) = none) {u : Url} :
    resolve base path = .ok u ↔ Url.resolve base (reference path) = .ok u := by
  have hjoin : base.join (String.ofList (path.toList.dropWhile (· = '/'))) =
      Url.resolve base (reference path) := by
    rw [Url.join_of_no_scheme hkind hpath, String.toList_ofList]
    · rfl
    · rw [String.toList_ofList]
      exact h
  rw [resolve, hjoin]
  cases Url.resolve base (reference path) with
  | error e => simp only [reduceCtorEq]
  | ok v => simp only [Except.ok.injEq]

theorem resolvesPaths_of_web (hkind : base.kind = .web) (hpath : base.hasTextPath = false) :
    ResolvesPaths base (resolve base) where
  refuses := fun path e h => exists_fault_of_resolve h
  stays := by
    intro path hscheme hserver
    obtain ⟨u, hresolve, hsame⟩ := Url.resolve_of_not_namesServer base hserver
    exact ⟨u, (resolve_eq_ok_iff hkind hpath hscheme).mpr hresolve, hsame⟩
  leads := by
    intro path u hscheme hserver hresolve
    rw [resolve_eq_ok_iff hkind hpath hscheme, Url.resolve_of_namesServer base hserver] at hresolve
    exact Url.authority_of_readBehindSlashes hresolve
  names := by
    intro path hserver
    obtain ⟨c, rest, hopens, hslash⟩ := Url.opening_of_namesServer hserver
    refine ⟨c, rest, hopens, hslash.imp_left fun hslash => ?_⟩
    -- what is left of the path does not open with a slash
    have hne : c ≠ '/' := by
      have hhead := List.head?_dropWhile_not (· = '/') path.toList
      rw [hopens] at hhead
      simpa using hhead
    simpa [Url.isAnySlash, hne] using hslash

/-- **Paths.** However a client was built, it resolves the paths of a base of the web on the server
of that base, as long as they have no scheme and do not name a server behind a backslash or a
blank. -/
theorem resolvesPaths (h : build a o clock = .ok c) :
    (c.baseUrl.scheme = "http" ∨ c.baseUrl.scheme = "https" →
        ResolvesPaths c.baseUrl c.apiUrl) ∧
      (c.baseUploadUrl.scheme = "http" ∨ c.baseUploadUrl.scheme = "https" →
        ResolvesPaths c.baseUploadUrl c.uploadUrl) := by
  have hweb {u : Url} (hscheme : u.scheme = "http" ∨ u.scheme = "https") : u.kind = .web := by
    rcases hscheme with hscheme | hscheme <;> rw [Url.kind, hscheme] <;> decide
  obtain ⟨hbase, hupload⟩ := readBase_of_build h
  exact ⟨fun hscheme => resolvesPaths_of_web (hweb hscheme) (hasTextPath_of_readBase hbase),
    fun hscheme => resolvesPaths_of_web (hweb hscheme) (hasTextPath_of_readBase hupload)⟩

/-! ### A path that leads away -/

/-- The client of the default options is built, and both of its bases are of the web. -/
theorem exists_build_default : ∃ c, build "Bearer token" {} .system = .ok c ∧
    c.baseUrl.scheme = "https" ∧ c.baseUploadUrl.scheme = "https" := by
  have hok : ((build "Bearer token" {} .system).toOption.map fun c =>
      (c.baseUrl.scheme, c.baseUploadUrl.scheme)) = some ("https", "https") := by decide +kernel
  cases hbuild : build "Bearer token" {} .system with
  | error e =>
    rw [hbuild] at hok
    cases hok
  | ok c =>
    rw [hbuild] at hok
    obtain ⟨hbase, hupload⟩ := Prod.mk.inj (Option.some.inj hok)
    exact ⟨c, rfl, hbase, hupload⟩

/-- With the default options, a path behind two slashes stays where it belongs. -/
theorem resolvesPaths_default : ∃ c, build "Bearer token" {} .system = .ok c ∧
    ResolvesPaths c.baseUrl c.apiUrl ∧ ResolvesPaths c.baseUploadUrl c.uploadUrl ∧
    Url.splitScheme? (reference "//example.org/x") = none ∧
    ∃ u, c.apiUrl "//example.org/x" = .ok u ∧ u.SameServer c.baseUrl := by
  obtain ⟨c, hbuild, hbase, hupload⟩ := exists_build_default
  obtain ⟨hpaths, huploads⟩ := resolvesPaths hbuild
  have hnone : Url.splitScheme? (reference "//example.org/x") = none := by decide
  have hserver : ¬Url.NamesServer (reference "//example.org/x") := by
    rintro ⟨a, b, rest, hopens, ha, -⟩
    have hreference : reference "//example.org/x" = "example.org/x".toList := by decide
    obtain rfl := (List.cons.inj (hopens.symm.trans hreference)).1
    exact absurd ha (by decide)
  exact ⟨c, hbuild, hpaths (.inr hbase), huploads (.inr hupload), hnone,
    (hpaths (.inr hbase)).stays _ hnone hserver⟩

/-- Behind two backslashes, a path without a scheme leads to another server. -/
theorem not_sameServer_backslashes : ∃ c u, build "Bearer token" {} .system = .ok c ∧
    c.baseUrl.scheme = "https" ∧ Url.splitScheme? (reference "\\\\example.org\\x") = none ∧
    c.apiUrl "\\\\example.org\\x" = .ok u ∧ ¬u.SameServer c.baseUrl := by
  obtain ⟨c, hbuild, hbase, -⟩ := exists_build_default
  have hhosts : ((build "Bearer token" {} .system).toOption.bind fun c =>
      (c.apiUrl "\\\\example.org\\x").toOption.map fun u => (c.baseUrl.host?, u.host?)) =
        some (some (.name "api.box.com"), some (.name "example.org")) := by decide +kernel
  rw [hbuild] at hhosts
  obtain ⟨u, hurl, hhosts⟩ := Option.map_eq_some_iff.mp hhosts
  obtain ⟨hhost, hother⟩ := Prod.mk.inj hhosts
  refine ⟨c, u, hbuild, hbase, by decide, ?_, fun hsame => ?_⟩
  · cases hresolve : c.apiUrl "\\\\example.org\\x" with
    | error e =>
      rw [hresolve] at hurl
      cases hurl
    | ok v =>
      rw [hresolve] at hurl
      exact congrArg _ (Option.some.inj hurl)
  · have heq := hsame.host
    rw [hhost, hother] at heq
    exact absurd heq (by decide)

end ContentClient.Client
