import ResourceWatch.Client
import ResourceWatch.Proofs.Config
import ResourceWatch.Proofs.Url.Joins

/-!
# Where the requests of a client go

A configuration is checked with the server as it is read, and a request is built with its text. The
request goes to the place that is read, but not always to the path that is read there.
-/

namespace ResourceWatch

open Text Schema Checked

/-- The server of a configuration is the text of the value without the slashes at its end. -/
theorem ClientConfig.server_of_check {members : Members} {config : ClientConfig}
    (hcheck : check (some (.obj members)) = .ok config) {server : Text}
    (hserver : members.get? "server" = some (.str server)) : config.server = stripSlashes server := by
  obtain ⟨found, hrecord, hrest⟩ := bind_eq_ok hcheck
  obtain ⟨parts, hparts, hconfig⟩ := bind_eq_ok hrest
  obtain rfl := Except.ok.inj hconfig
  obtain rfl := Except.ok.inj hrecord
  have hne : ofString "server" ≠ ofString "__proto__" := by decide
  have hfield := field_eq_ok (both_eq_ok hparts).1
  rw [Members.get?_erase members hne, hserver] at hfield
  obtain ⟨text, htext, hfield⟩ := bind_eq_ok hfield
  obtain ⟨_, -, hstripped⟩ := bind_eq_ok hfield
  obtain rfl := Except.ok.inj htext
  exact (Except.ok.inj hstripped).symm

namespace Client

variable {members : Members} {config : ClientConfig} {server url : Text} {read : Url}

/-- A url of names, each behind a slash. -/
def IsRelative (url : Text) : Prop :=
  ∃ segments : List Text, segments ≠ [] ∧
    (∀ segment ∈ segments, segment ≠ [] ∧ Url.IsSegment segment) ∧
    url = segments.flatMap (unit '/' :: ·)

theorem isName_of_all {name : Text} (hne : name ≠ []) (hunreserved : name.all Url.isUnreserved = true)
    (hdots : name ≠ "." ∧ name ≠ "..") : name ≠ [] ∧ Url.IsSegment name :=
  ⟨hne, List.all_eq_true.mp hunreserved, hdots.1, hdots.2⟩

theorem resolve_of_isRelative (client : Client) (hurl : IsRelative url) :
    client.resolve url = client.server ++ url := by
  obtain ⟨segments, hne, -, rfl⟩ := hurl
  obtain ⟨segment, rest, rfl⟩ := List.exists_cons_of_ne_nil hne
  rfl

/-- **Where the requests of a client go.** Each of them goes to the place that the server is read as.
Its path is that of the server without slashes at the end, with the url behind it, if and only if the
path goes on with the text of the server; and a request is built unless a field may not be sent or
the server has credentials. -/
theorem build?_ofConfig (hcheck : ClientConfig.check (some (.obj members)) = .ok config)
    (hserver : members.get? "server" = some (.str server)) (hread : Url.parse? server = some read)
    (hhttp : Url.IsHttp read.scheme)
    (hcloses : Url.clean server = Url.cleanFront server ∨ Url.HasRest server)
    (hurl : IsRelative url) (method : Method) (options : RequestOptions) :
    ((ofConfig config).build? method url options).isSome =
        ((Headers.setAll? [] ((ofConfig config).fields method options)).isSome &&
          !read.hasCredentials) ∧
      ¬[unit '/'] <:+ stripSlashes (Url.pathText read.path) ∧
      ∀ request, (ofConfig config).build? method url options = some request →
        ∃ target, Url.parse? (config.server ++ url) = some target ∧ request.url = target.toText ∧
          Url.IsSameSite target read ∧
          (Url.pathText target.path = stripSlashes (Url.pathText read.path) ++ url ↔
            Url.Joins server) := by
  have hresolve := (ofConfig config).resolve_of_isRelative hurl
  obtain ⟨segments, hne, hsegments, rfl⟩ := hurl
  obtain ⟨target, htarget, hsite, hpath⟩ := Url.exists_target hread hhttp hcloses hne
    (fun segment hmem => (hsegments segment hmem).1) fun segment hmem => (hsegments segment hmem).2
  rw [← ClientConfig.server_of_check hcheck hserver] at htarget
  have hcredentials : target.hasCredentials = read.hasCredentials := by
    rw [Url.hasCredentials, Url.hasCredentials, hsite.username, hsite.password]
  have hbuild : (ofConfig config).build? method (segments.flatMap (unit '/' :: ·)) options =
      (Headers.setAll? [] ((ofConfig config).fields method options)).bind fun headers =>
        if read.hasCredentials then none
        else some ⟨method, target.toText, headers, body? method options⟩ := by
    rw [build?, hresolve, ← hcredentials]
    simp only [Option.bind_eq_bind]
    congr 1
    funext headers
    exact congrArg (Option.bind · _) htarget
  refine ⟨?_, ?_, fun request hrequest => ⟨target, htarget, ?_, hsite, hpath⟩⟩
  · rw [hbuild]
    cases Headers.setAll? [] ((ofConfig config).fields method options) <;>
      cases read.hasCredentials <;> rfl
  · exact (Url.stripSlashes_eq_self_iff _).mp (Url.stripSlashes_stripSlashes _)
  · rw [hbuild, Option.bind_eq_some_iff] at hrequest
    obtain ⟨headers, -, hrequest⟩ := hrequest
    split at hrequest
    · cases hrequest
    · obtain rfl := Option.some.inj hrequest
      rfl

/-- The place of a server with a path. -/
def apiSite : Url where
  scheme := "http"
  host := some "[::1]"
  path := .segments ["api", [], []]

theorem isHost_loopback : Url.IsHost "http" "[::1]" := by
  have hvisible : ((ofString "[::1]").all fun u => 0x20 < u.toNat) = true := by decide
  have hunslashed : ((ofString "[::1]").all fun u => !Url.isSlash true u) = true := by decide
  refine ⟨.inl rfl, by decide, fun u hu => ?_, fun u hu => ?_, ?_⟩
  · exact of_decide_eq_true (List.all_eq_true.mp hvisible u hu)
  · exact (Bool.not_eq_true' _).mp (List.all_eq_true.mp hunslashed u hu)
  · rw [Url.IsMarked]
    decide

theorem build?_ofConfig_api :
    ∃ config request target,
      ClientConfig.check (some (.obj [("server", .str "http://[::1]/api//")])) = .ok config ∧
        (ofConfig config).build? .get "/pods" {} = some request ∧
          Url.parse? (config.server ++ ofString "/pods") = some target ∧ request.url = target.toText ∧
            Url.IsSameSite target apiSite ∧ Url.pathText target.path = "/api/pods" := by
  have hcheck : ClientConfig.check (some (.obj [("server", .str "http://[::1]/api//")])) =
      .ok ⟨"http://[::1]/api", none, none, defaultUserAgent⟩ := by
    apply Checked.eq_ok
    decide +kernel
  have hread : Url.parse? "http://[::1]/api//" = some apiSite := by decide +kernel
  have hkept : Url.clean "http://[::1]/api//" = Url.cleanFront "http://[::1]/api//" := by decide +kernel
  have hapi : ofString "api" ≠ [] ∧ Url.IsSegment "api" :=
    isName_of_all (by decide) (by decide) (by decide)
  have hpods : ofString "pods" ≠ [] ∧ Url.IsSegment "pods" :=
    isName_of_all (by decide) (by decide) (by decide)
  have hserver : ofString "http://[::1]/api//" =
      Url.hostText "http" "[::1]" ++ Url.pathText (.segments ["api"]) ++
        List.replicate 2 (unit '/') := by
    decide +kernel
  have hjoins : Url.Joins "http://[::1]/api//" := by
    rw [hserver]
    exact Url.joins_of_isHost isHost_loopback (List.forall_mem_singleton.mpr hapi) 2
  have hurl : IsRelative "/pods" :=
    ⟨["pods"], List.cons_ne_nil _ _, List.forall_mem_singleton.mpr hpods, by decide +kernel⟩
  obtain ⟨hsome, -, hrequests⟩ := build?_ofConfig hcheck rfl hread (.inl rfl) (.inl hkept) hurl .get {}
  have hsent : ((ofConfig ⟨"http://[::1]/api", none, none, defaultUserAgent⟩).build? .get "/pods"
      {}).isSome = true := by
    rw [hsome]
    decide +kernel
  obtain ⟨request, hrequest⟩ := Option.isSome_iff_exists.mp hsent
  obtain ⟨target, htarget, hto, hsite, hpath⟩ := hrequests request hrequest
  have hstripped : stripSlashes (Url.pathText apiSite.path) ++ ofString "/pods" = "/api/pods" := by
    decide +kernel
  exact ⟨_, request, target, hcheck, hrequest, htarget, hto, hsite, (hpath.mpr hjoins).trans hstripped⟩

/-- The place of a server without a path. -/
def bareSite : Url where
  scheme := "http"
  host := some "[::1]"
  path := .segments [[]]

/-- **A doubled slash**: a line end is dropped behind the slash of a server, but it is in its text. -/
theorem not_joined_of_newline :
    ∃ config request target,
      ClientConfig.check (some (.obj [("server", .str "http://[::1]/\n")])) = .ok config ∧
        Url.parse? "http://[::1]/\n" = some bareSite ∧
          (ofConfig config).build? .get "/pods" {} = some request ∧
            Url.parse? (config.server ++ ofString "/pods") = some target ∧
              request.url = target.toText ∧ Url.pathText target.path = "//pods" ∧
                Url.pathText target.path ≠ stripSlashes (Url.pathText bareSite.path) ++ ofString "/pods" := by
  have hcheck : ClientConfig.check (some (.obj [("server", .str "http://[::1]/\n")])) =
      .ok ⟨"http://[::1]/\n", none, none, defaultUserAgent⟩ := by
    apply Checked.eq_ok
    decide +kernel
  refine ⟨_, ⟨.get, "http://[::1]//pods", [("accept", "application/json"), ("user-agent", defaultUserAgent)], none⟩,
    { bareSite with path := .segments [[], "pods"] }, hcheck, ?_, ?_, ?_, ?_, ?_, ?_⟩
  all_goals decide +kernel

end Client

end ResourceWatch
