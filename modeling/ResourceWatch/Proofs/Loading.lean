import ResourceWatch.Proofs.Config
import ResourceWatch.Proofs.Url.Stripping

/-!
# A configuration that is checked again

Every part of a configuration but the server is accepted only as it is written, or replaced where it
is absent, so that it is accepted again as the same. The server is cut after it is checked. Its text
is a URL without a slash at the end again, unless it is one without a host.
-/

namespace ResourceWatch

namespace Schema

open Checked

variable {α : Type} {value : Option Json}

theorem number_eq_ok {number : Number} (hcheck : Schema.number value = .ok number) :
    value = some (.num number) := by
  unfold Schema.number at hcheck
  split at hcheck
  · cases hcheck
  · obtain rfl := Except.ok.inj hcheck
    rfl
  · rw [wrongKind.eq_def] at hcheck
    split at hcheck <;> cases hcheck

theorem string_eq_ok {text : Text} (hcheck : string value = .ok text) : value = some (.str text) := by
  unfold string at hcheck
  split at hcheck
  · obtain rfl := Except.ok.inj hcheck
    rfl
  · rw [wrongKind.eq_def] at hcheck
    split at hcheck <;> cases hcheck

theorem array_eq_ok {items : List Json} (hcheck : array value = .ok items) :
    value = some (.arr items) := by
  unfold array at hcheck
  split at hcheck
  · obtain rfl := Except.ok.inj hcheck
    rfl
  · rw [wrongKind.eq_def] at hcheck
    split at hcheck <;> cases hcheck

/-- A check that accepts nothing but what it gives. -/
def IsVerbatim (check : Check α) (write : α → Json) : Prop :=
  ∀ value found, check value = .ok found → value = some (write found)

theorem isVerbatim_positiveWhole : IsVerbatim positiveWhole .num := by
  intro value found hcheck
  obtain ⟨given, hgiven, hrest⟩ := bind_eq_ok hcheck
  obtain ⟨_, -, hfound⟩ := bind_eq_ok hrest
  rw [number_eq_ok hgiven, Except.ok.inj hfound]

theorem isVerbatim_nonnegative : IsVerbatim nonnegative .num := by
  intro value found hcheck
  obtain ⟨given, hgiven, hrest⟩ := bind_eq_ok hcheck
  obtain ⟨_, -, hfound⟩ := bind_eq_ok hrest
  rw [number_eq_ok hgiven, Except.ok.inj hfound]

theorem isVerbatim_nonemptyString : IsVerbatim nonemptyString .str := by
  intro value found hcheck
  obtain ⟨given, hgiven, hrest⟩ := bind_eq_ok hcheck
  obtain ⟨_, -, hfound⟩ := bind_eq_ok hrest
  rw [string_eq_ok hgiven, Except.ok.inj hfound]

/-- What is accepted verbatim is accepted again. -/
theorem IsVerbatim.again {check : Check α} {write : α → Json} (hverbatim : IsVerbatim check write)
    {found : α} (hcheck : check value = .ok found) : check (some (write found)) = .ok found := by
  rw [← hverbatim value found hcheck]
  exact hcheck

theorem IsVerbatim.items_eq {check : Check α} {write : α → Json} (hverbatim : IsVerbatim check write)
    {index : Nat} {values : List Json} {found : List α} (hitems : items check index values = .ok found) :
    values = found.map write := by
  induction values generalizing index found with
  | nil =>
      obtain rfl := Except.ok.inj hitems
      rfl
  | cons given rest ih =>
      obtain ⟨⟨first, others⟩, hboth, rfl⟩ := map_eq_ok hitems
      obtain ⟨hfirst, hothers⟩ := both_eq_ok hboth
      have hgiven : check (some given) = .ok first := by
        cases hcheck : check (some given) <;> simp_all [below]
      rw [List.map_cons, ← ih hothers, Option.some.inj (hverbatim _ _ hgiven)]

theorem IsVerbatim.optional_again {check : Check α} {write : α → Json}
    (hverbatim : IsVerbatim check write) {found : Option α}
    (hcheck : Schema.optional check value = .ok found) :
    Schema.optional check (found.map write) = .ok found := by
  cases found with
  | none => rfl
  | some found =>
      obtain ⟨given, -, hgiven⟩ := optional_eq_ok hcheck
      rw [Option.map_some, Schema.optional, hverbatim.again hgiven]
      rfl

theorem field_of_lookup {check : Check α} {members : Members} {key : Text} {found : α}
    (hlookup : members.get? key = value) (hcheck : check value = .ok found) :
    field key check members = .ok found := by
  rw [field, ← Members.get?, hlookup, hcheck]
  rfl

end Schema

open Schema Checked

variable {value : Option Json}

/-! ### The parts of a configuration -/

theorem LoggingConfig.check_toJson (config : LoggingConfig) : check (some config.toJson) = .ok config := by
  rcases config with ⟨level, environment⟩
  cases level <;> cases environment <;> rfl

namespace ReactorConfig

theorem isVerbatim_delays : IsVerbatim delays fun found => .arr (found.map .num) := by
  intro value found hcheck
  obtain ⟨given, hgiven, hrest⟩ := bind_eq_ok hcheck
  obtain ⟨_, -, hitems⟩ := bind_eq_ok hrest
  rw [array_eq_ok hgiven, isVerbatim_nonnegative.items_eq hitems]

theorem delays_default :
    delays (some (.arr (defaultErrorDelays.map .num))) = .ok defaultErrorDelays := by
  apply Checked.eq_ok
  decide +kernel

theorem check_toJson {config : ReactorConfig} (hcheck : check value = .ok config) :
    check (some config.toJson) = .ok config := by
  obtain ⟨members, -, hrest⟩ := bind_eq_ok hcheck
  obtain ⟨found, hfound, hconfig⟩ := bind_eq_ok hrest
  obtain rfl := Except.ok.inj hconfig
  have hagain : delays (some (.arr (found.map .num))) = .ok found := by
    rcases withDefault_eq_ok (field_eq_ok hfound) with rfl | ⟨given, hgiven⟩
    · exact delays_default
    · exact isVerbatim_delays.again hgiven
  have hfield : field "errorDelaysMs" (withDefault defaultErrorDelays delays)
      [("errorDelaysMs", .arr (found.map .num))] = .ok found :=
    field_of_lookup rfl hagain
  change (field "errorDelaysMs" (withDefault defaultErrorDelays delays)
    [("errorDelaysMs", .arr (found.map .num))] >>= fun found => .ok ⟨found⟩) =
      (.ok ⟨found⟩ : Checked ReactorConfig)
  rw [hfield]
  rfl

end ReactorConfig

namespace ClientConfig

/-- The members that a configuration is written with. -/
def members (config : ClientConfig) : Members :=
  Json.required "server" (.str config.server) ++
    Json.optional "requestTimeoutMs" (config.requestTimeoutMs.map .num) ++
    Json.optional "watchTimeoutSeconds" (config.watchTimeoutSeconds.map .num) ++
    Json.required "userAgent" (.str config.userAgent)

theorem record_toJson (config : ClientConfig) : record (some config.toJson) = .ok config.members := by
  rcases config with ⟨server, _ | timeout, _ | watchTimeout, userAgent⟩ <;> rfl

theorem lookup_members (config : ClientConfig) :
    config.members.get? "server" = some (.str config.server) ∧
      config.members.get? "requestTimeoutMs" = config.requestTimeoutMs.map .num ∧
        config.members.get? "watchTimeoutSeconds" = config.watchTimeoutSeconds.map .num ∧
          config.members.get? "userAgent" = some (.str config.userAgent) := by
  rcases config with ⟨server, _ | timeout, _ | watchTimeout, userAgent⟩ <;> exact ⟨rfl, rfl, rfl, rfl⟩

theorem nonemptyString_default : nonemptyString (some (.str defaultUserAgent)) = .ok defaultUserAgent :=
  rfl

/-- What is checked again is the server alone. -/
theorem check_toJson {config : ClientConfig} (hcheck : check value = .ok config) :
    check (some config.toJson) =
      (below (.key "server") (server? (some (.str config.server)))).map fun server =>
        { config with server } := by
  obtain ⟨members, -, hrest⟩ := bind_eq_ok hcheck
  obtain ⟨⟨server, timeout, watchTimeout, userAgent⟩, hparts, hconfig⟩ := bind_eq_ok hrest
  obtain rfl := Except.ok.inj hconfig
  obtain ⟨hserver, hparts⟩ := both_eq_ok hparts
  obtain ⟨htimeout, hparts⟩ := both_eq_ok hparts
  obtain ⟨hwatch, hagent⟩ := both_eq_ok hparts
  obtain ⟨hserverAt, htimeoutAt, hwatchAt, hagentAt⟩ :=
    lookup_members ⟨server, timeout, watchTimeout, userAgent⟩
  have htimeout := field_of_lookup htimeoutAt
    (isVerbatim_positiveWhole.optional_again (field_eq_ok htimeout))
  have hwatch := field_of_lookup hwatchAt
    (isVerbatim_positiveWhole.optional_again (field_eq_ok hwatch))
  have hagent : field "userAgent" (withDefault defaultUserAgent nonemptyString)
      (ClientConfig.members ⟨server, timeout, watchTimeout, userAgent⟩) = .ok userAgent := by
    apply field_of_lookup hagentAt
    rcases withDefault_eq_ok (field_eq_ok hagent) with rfl | ⟨given, hgiven⟩
    · exact nonemptyString_default
    · exact isVerbatim_nonemptyString.again hgiven
  have hfirst : field "server" server? (ClientConfig.members ⟨server, timeout, watchTimeout, userAgent⟩) =
      below (.key "server") (server? (some (.str server))) := by
    rw [field, ← Members.get?, hserverAt]
  rw [check, record_toJson]
  change (both _ (both _ (both _ _)) >>= fun parts => _) = _
  rw [hfirst, htimeout, hwatch, hagent]
  cases below (.key "server") (server? (some (.str server))) <;> rfl

theorem exists_of_check {config : ClientConfig} (hcheck : check value = .ok config) :
    ∃ server, (Url.parse? server).isSome = true ∧ config.server = stripSlashes server := by
  obtain ⟨members, -, hrest⟩ := bind_eq_ok hcheck
  obtain ⟨parts, hparts, hconfig⟩ := bind_eq_ok hrest
  obtain rfl := Except.ok.inj hconfig
  obtain ⟨text, -, hserver⟩ := bind_eq_ok (field_eq_ok (both_eq_ok hparts).1)
  obtain ⟨_, hrequire, hstripped⟩ := bind_eq_ok hserver
  exact ⟨text, require_eq_ok hrequire, (Except.ok.inj hstripped).symm⟩

theorem server?_str (server : Text) :
    server? (some (.str server)) =
      if (Url.parse? server).isSome then .ok (stripSlashes server) else fail .invalidUrl := by
  change (require (Url.parse? server).isSome .invalidUrl >>= fun _ => .ok (stripSlashes server)) = _
  cases (Url.parse? server).isSome <;> rfl

/-- A configuration is checked again: its server is read, or it is the only fault. -/
theorem check_again {config : ClientConfig} (hcheck : check value = .ok config) :
    check (some config.toJson) =
      if (Url.parse? config.server).isSome then .ok config
      else .error [⟨[.key "server"], .invalidUrl⟩] := by
  obtain ⟨server, -, hserver⟩ := exists_of_check hcheck
  rw [check_toJson hcheck, server?_str]
  split
  · rw [hserver, Url.stripSlashes_stripSlashes, ← hserver]
    rfl
  · rfl

end ClientConfig

namespace Config

theorem check_again {config : Config} (hcheck : check value = .ok config) :
    check (some config.toJson) =
      if (Url.parse? config.client.server).isSome then .ok config
      else .error [⟨[.key "client", .key "server"], .invalidUrl⟩] := by
  obtain ⟨members, -, hrest⟩ := bind_eq_ok hcheck
  obtain ⟨⟨client, reactor, logging⟩, hparts, hconfig⟩ := bind_eq_ok hrest
  obtain rfl := Except.ok.inj hconfig
  obtain ⟨hclient, hparts⟩ := both_eq_ok hparts
  obtain ⟨hreactor, -⟩ := both_eq_ok hparts
  have hdelays : ReactorConfig.check (some reactor.toJson) = .ok reactor := by
    rcases withDefault_eq_ok (field_eq_ok hreactor) with rfl | ⟨given, hgiven⟩
    · have hnone : ReactorConfig.check (some (.obj [])) = .ok ⟨defaultErrorDelays⟩ := rfl
      exact ReactorConfig.check_toJson hnone
    · exact ReactorConfig.check_toJson hgiven
  change (both (below (.key "client") (ClientConfig.check (some client.toJson)))
    (both (below (.key "reactor") (ReactorConfig.check (some reactor.toJson)))
      (below (.key "logging") (LoggingConfig.check (some logging.toJson)))) >>= fun parts => _) = _
  rw [hdelays, LoggingConfig.check_toJson, ClientConfig.check_again (field_eq_ok hclient)]
  split <;> rfl

/-! ### Configurations that are loaded -/

theorem exists_of_load {environment : List (Text × Text)} {config : Config}
    (hload : load environment = .ok config) : ∃ value, check (some value) = .ok config := by
  unfold load at hload
  cases hspelled : spelled? environment with
  | error error =>
      rw [hspelled] at hload
      cases hload
  | ok value =>
      rw [hspelled] at hload
      refine ⟨value, ?_⟩
      cases hcheck : check (some value) with
      | error issues =>
          simp only [bind, Except.bind, hcheck] at hload
          cases hload
      | ok found =>
          simp only [bind, Except.bind, hcheck] at hload
          rw [← Except.ok.inj hload]

/-- A configuration depends on what the variables are set to. -/
theorem load_congr {first second : List (Text × Text)} (hsame : setting? first = setting? second) :
    load first = load second := by
  rw [load, load, spelled?, spelled?, hsame]

theorem lookup_emptied (name : Text) (names : List Text) (environment : List (Text × Text)) :
    (names.map (fun name => (name, [])) ++ environment).lookup name =
      if name ∈ names then some [] else environment.lookup name := by
  induction names with
  | nil => simp
  | cons first rest ih =>
      rw [List.map_cons, List.cons_append, List.lookup_cons, ih]
      by_cases hfirst : name = first
      · simp [hfirst]
      · simp [hfirst, beq_false_of_ne hfirst]

theorem lookup_unset (name : Text) (names : List Text) (environment : List (Text × Text)) :
    (environment.filter (·.1 ∉ names)).lookup name =
      if name ∈ names then none else environment.lookup name := by
  induction environment with
  | nil => simp
  | cons first rest ih =>
      obtain ⟨key, setting⟩ := first
      by_cases hkey : key ∈ names
      · rw [List.filter_cons_of_neg (by simpa using hkey), ih, List.lookup_cons]
        by_cases hname : name = key
        · rw [hname, if_pos hkey, if_pos hkey]
        · rw [beq_false_of_ne hname]
      · rw [List.filter_cons_of_pos (by simpa using hkey), List.lookup_cons, ih, List.lookup_cons]
        by_cases hname : name = key
        · simp [hname, hkey]
        · rw [beq_false_of_ne hname]

/-- A variable that is empty counts as one that is not set. -/
theorem setting?_emptied (names : List Text) (environment : List (Text × Text)) :
    setting? (names.map (fun name => (name, [])) ++ environment) =
      setting? (environment.filter (·.1 ∉ names)) := by
  funext name
  rw [setting?, setting?, lookup_emptied, lookup_unset]
  by_cases hname : name ∈ names
  · rw [if_pos hname, if_pos hname]
  · rw [if_neg hname, if_neg hname]

/-- The variables that a configuration is loaded from. -/
def settings : List Text :=
  ["SHOAL_SERVER", "SHOAL_REQUEST_TIMEOUT_MS", "SHOAL_WATCH_TIMEOUT_SECONDS", "SHOAL_USER_AGENT",
    "SHOAL_ERROR_DELAYS_MS", "LOG_LEVEL", "NODE_ENV"]

/-- What is promised of a configuration: it is the same when it is checked again, and so is its
server a URL without a slash at the end, unless nothing is left of the host of that URL. -/
structure IsKept (config : Config) : Prop where
  unslashed : ¬[Text.unit '/'] <:+ config.client.server
  again : ¬Url.IsHostless config.client.server →
    (Url.parse? config.client.server).isSome = true ∧ check (some config.toJson) = .ok config
  hostless : Url.IsHostless config.client.server →
    check (some config.toJson) = .error [⟨[.key "client", .key "server"], .invalidUrl⟩]

theorem isKept {config : Config} (hcheck : check value = .ok config) : config.IsKept := by
  have hagain := check_again hcheck
  obtain ⟨members, -, hrest⟩ := bind_eq_ok hcheck
  obtain ⟨parts, hparts, hconfig⟩ := bind_eq_ok hrest
  obtain rfl := Except.ok.inj hconfig
  obtain ⟨server, hread, hserver⟩ :=
    ClientConfig.exists_of_check (field_eq_ok (both_eq_ok hparts).1)
  have hkept := Url.isSome_parse?_stripSlashes hread
  rw [← hserver] at hkept
  refine ⟨?_, fun hhost => ?_, fun hhostless => ?_⟩
  · apply (Url.stripSlashes_eq_self_iff _).mp
    rw [hserver, Url.stripSlashes_stripSlashes]
  · rw [hagain, if_pos (hkept.mpr hhost)]
    exact ⟨hkept.mpr hhost, rfl⟩
  · rw [hagain, if_neg fun hsome => hkept.mp hsome hhostless]

/-- **A configuration that is accepted is accepted again as the same**, also one that is loaded,
unless its server has lost its host; and to load one, a variable may just as well be empty as not
set. -/
theorem accepted_kept :
    (∀ value config, check value = .ok config → config.IsKept) ∧
      (∀ environment config, load environment = .ok config → config.IsKept) ∧
        ∀ names ⊆ settings, ∀ environment,
          load (names.map (fun name => (name, [])) ++ environment) =
            load (environment.filter (·.1 ∉ names)) := by
  refine ⟨fun value config hcheck => isKept hcheck, fun environment config hload => ?_, ?_⟩
  · obtain ⟨value, hcheck⟩ := exists_of_load hload
    exact isKept hcheck
  · intro names _ environment
    exact load_congr (setting?_emptied names environment)

/-- A configuration with a server and with the defaults of everything else. -/
def ofServer (server : Text) : Config :=
  ⟨⟨server, none, none, defaultUserAgent⟩, ⟨defaultErrorDelays⟩, ⟨.info, .development⟩⟩

theorem check_ofServer {server : Text} (hread : (Url.parse? server).isSome = true) :
    check (some (.obj [("client", .obj [("server", .str server)])])) =
      .ok (ofServer (stripSlashes server)) := by
  change (both (below (.key "client")
    (both (below (.key "server") (ClientConfig.server? (some (.str server)))) _ >>= fun _ => _)) _ >>=
      fun _ => _) = _
  rw [ClientConfig.server?_str, if_pos hread]
  rfl

theorem accepted_kept_loopback :
    (∃ config, check (some (.obj [("client", .obj [("server", .str "http://[::1]/api//")])])) =
        .ok config ∧ config.IsKept) ∧
      (∃ config, load [("SHOAL_SERVER", "http://[::1]/")] = .ok config ∧ config.IsKept) ∧
        load [("LOG_LEVEL", []), ("SHOAL_SERVER", "http://[::1]/")] =
          load [("SHOAL_SERVER", "http://[::1]/")] := by
  have hapi : (Url.parse? "http://[::1]/api//").isSome = true := by decide +kernel
  have hcheck := check_ofServer hapi
  have hload : load [("SHOAL_SERVER", "http://[::1]/")] = .ok (ofServer "http://[::1]") := by
    decide +kernel
  obtain ⟨hchecked, hloaded, hemptied⟩ := accepted_kept
  refine ⟨⟨_, hcheck, hchecked _ _ hcheck⟩, ⟨_, hload, hloaded _ _ hload⟩, ?_⟩
  exact hemptied ["LOG_LEVEL"] (by decide) [("SHOAL_SERVER", "http://[::1]/")]

/-- **A server that loses its host**: behind its name there is a control character, which stands at the
end of the text when the slash is gone. -/
theorem not_again_of_control :
    ∃ value config, check (some value) = .ok config ∧ config.client.server = "a://u@\x01" ∧
      check (some config.toJson) ≠ .ok config := by
  have hread : (Url.parse? "a://u@\x01/").isSome = true := by decide +kernel
  have hcheck := check_ofServer hread
  have hstripped : stripSlashes "a://u@\x01/" = "a://u@\x01" := by decide +kernel
  have hnone : (Url.parse? "a://u@\x01").isSome = false := by decide +kernel
  rw [hstripped] at hcheck
  refine ⟨_, _, hcheck, rfl, ?_⟩
  rw [check_again hcheck, ofServer, hnone]
  exact fun heq => nomatch heq

end Config

end ResourceWatch
