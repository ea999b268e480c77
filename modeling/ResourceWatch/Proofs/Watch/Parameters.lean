import ResourceWatch.Proofs.Url.RoundTrip
import ResourceWatch.Proofs.WellFormed

/-!
# The parameters of a watch

The URL of a watch is that of a collection with up to four parameters set in its query. Set twice,
they are the same.
-/

namespace ResourceWatch

namespace Text

variable {separator : UInt16}

theorem not_mem_cut (separator : UInt16) (text : Text) : separator ∉ (cut separator text).1 := by
  induction text with
  | nil => simp [cut]
  | cons u rest ih =>
      rw [cut]
      split
      · simp
      · rename_i hne
        simp [ih, Ne.symm hne]

theorem isWellFormed_cut {text : Text} (hhigh : isHighSurrogate separator = false)
    (hlow : isLowSurrogate separator = false) (htext : text.isWellFormed = true) :
    (cut separator text).1.isWellFormed = true ∧
      ((cut separator text).2.getD []).isWellFormed = true := by
  by_cases hmem : separator ∈ text
  · obtain ⟨first, second, rfl, hfirst⟩ := List.eq_append_cons_of_mem hmem
    rw [isWellFormed_append_cons hhigh hlow, Bool.and_eq_true] at htext
    simpa [cut_append, cut_of_not_mem hfirst, cut_cons_self] using htext
  · rw [cut_of_not_mem hmem]
    exact ⟨htext, rfl⟩

theorem isWellFormed_toText (number : Number) : number.toText.isWellFormed = true := by
  cases number with
  | nan => decide +kernel
  | infinite negative => cases negative <;> decide +kernel
  | finite negative magnitude =>
      have hprintable := Json.isPrintable_printNumber (.finite negative magnitude)
      rw [Json.printNumber] at hprintable
      exact hprintable.formed

end Text

namespace Query

open Text

variable {name value : Text} {query parameters : Query}

/-! ### Setting a parameter -/

/-- One query is another one with a parameter set. The first pair of that name has the value, and no
other pair of that name is left. -/
inductive Sets (name value : Text) : Query → Query → Prop
  | replaced (before after : Query) (old : Text) (hbefore : ∀ pair ∈ before, pair.1 ≠ name) :
      Sets name value (before ++ (name, old) :: after)
        (before ++ (name, value) :: after.filter (·.1 ≠ name))
  | added (query : Query) (hquery : ∀ pair ∈ query, pair.1 ≠ name) :
      Sets name value query (query ++ [(name, value)])

theorem Sets.cons {pair : Text × Text} {result : Query} (hpair : pair.1 ≠ name)
    (hsets : Sets name value query result) : Sets name value (pair :: query) (pair :: result) := by
  cases hsets with
  | replaced before after old hbefore =>
      exact .replaced (pair :: before) after old (List.forall_mem_cons.mpr ⟨hpair, hbefore⟩)
  | added _ hquery => exact .added (pair :: query) (List.forall_mem_cons.mpr ⟨hpair, hquery⟩)

theorem sets_set (name value : Text) (query : Query) : Sets name value query (query.set name value) := by
  induction query with
  | nil => exact .added [] (by simp)
  | cons pair rest ih =>
      rw [set]
      split
      · rename_i hpair
        subst hpair
        exact .replaced [] rest pair.2 (by simp)
      · rename_i hpair
        exact ih.cons hpair

theorem Sets.mem {result : Query} (hsets : Sets name value query result) :
    (name, value) ∈ result := by
  cases hsets <;> simp

/-- The pairs of other names stay as they are. -/
theorem filter_set {keeps : Text × Text → Bool} (hkeeps : ∀ value, keeps (name, value) = false) :
    (query.set name value).filter keeps = query.filter keeps := by
  have hpair {pair : Text × Text} (hname : pair.1 = name) : keeps pair = false := by
    subst hname
    exact hkeeps pair.2
  induction query with
  | nil => simp [set, hkeeps]
  | cons pair rest ih =>
      rw [set]
      split
      · rename_i hname
        have hrest : (rest.filter (·.1 ≠ name)).filter keeps = rest.filter keeps := by
          rw [List.filter_filter]
          apply List.filter_congr
          intro other _
          by_cases hother : other.1 = name
          · simp [hpair hother]
          · simp [hother]
        rw [List.filter_cons_of_neg (by simp [hkeeps]), List.filter_cons_of_neg (by simp [hpair hname]),
          hrest]
      · rw [List.filter_cons, List.filter_cons, ih]

theorem filter_set_self (name value : Text) (query : Query) :
    (query.set name value).filter (·.1 = name) = [(name, value)] := by
  induction query with
  | nil => simp [set]
  | cons pair rest ih =>
      rw [set]
      split
      · simp [List.filter_filter]
      · rename_i hpair
        rw [List.filter_cons_of_neg (by simpa using hpair), ih]

/-- A parameter that is set already is not set again. -/
theorem set_of_filter (hfilter : query.filter (·.1 = name) = [(name, value)]) :
    query.set name value = query := by
  induction query with
  | nil => simp at hfilter
  | cons pair rest ih =>
      by_cases hpair : pair.1 = name
      · rw [List.filter_cons_of_pos (by simpa using hpair), List.cons.injEq] at hfilter
        obtain ⟨rfl, hrest⟩ := hfilter
        have hkept : rest.filter (·.1 ≠ name) = rest := by
          apply List.filter_eq_self.mpr
          intro other hother
          have hnone := List.filter_eq_nil_iff.mp hrest other hother
          simpa using hnone
        rw [set, if_pos rfl, hkept]
      · rw [List.filter_cons_of_neg (by simpa using hpair)] at hfilter
        rw [set, if_neg hpair, ih hfilter]

/-! ### Setting several parameters -/

theorem filter_setAll {keeps : Text × Text → Bool} (query : Query)
    (hkeeps : ∀ pair ∈ parameters, ∀ value, keeps (pair.1, value) = false) :
    (Watch.setAll query parameters).filter keeps = query.filter keeps := by
  induction parameters generalizing query with
  | nil => rfl
  | cons pair rest ih =>
      obtain ⟨hpair, hrest⟩ := List.forall_mem_cons.mp hkeeps
      exact (ih _ hrest).trans (filter_set hpair)

theorem filter_setAll_of_mem {pair : Text × Text} (query : Query)
    (hnodup : (parameters.map (·.1)).Nodup) (hmem : pair ∈ parameters) :
    (Watch.setAll query parameters).filter (·.1 = pair.1) = [pair] := by
  induction parameters generalizing query with
  | nil => simp at hmem
  | cons first rest ih =>
      rw [List.map_cons, List.nodup_cons] at hnodup
      rcases List.mem_cons.mp hmem with rfl | hmem
      · have hothers : ∀ other ∈ rest, ∀ value : Text, decide ((other.1, value).1 = pair.1) = false := by
          intro other hother value
          rw [decide_eq_false_iff_not]
          intro heq
          exact hnodup.1 (List.mem_map.mpr ⟨other, hother, heq⟩)
        calc
          (Watch.setAll query (pair :: rest)).filter (·.1 = pair.1) =
              (Watch.setAll (query.set pair.1 pair.2) rest).filter (·.1 = pair.1) := rfl
          _ = (query.set pair.1 pair.2).filter (·.1 = pair.1) := filter_setAll _ hothers
          _ = [pair] := filter_set_self _ _ _
      · exact ih _ hnodup.2 hmem

theorem setAll_of_filter
    (hfilter : ∀ pair ∈ parameters, query.filter (·.1 = pair.1) = [pair]) :
    Watch.setAll query parameters = query := by
  induction parameters with
  | nil => rfl
  | cons pair rest ih =>
      obtain ⟨hpair, hrest⟩ := List.forall_mem_cons.mp hfilter
      calc
        Watch.setAll query (pair :: rest) = Watch.setAll (query.set pair.1 pair.2) rest := rfl
        _ = Watch.setAll query rest := by rw [set_of_filter hpair]
        _ = query := ih hrest

/-- **Parameters that were set are set already.** -/
theorem setAll_setAll (query : Query) (hnodup : (parameters.map (·.1)).Nodup) :
    Watch.setAll (Watch.setAll query parameters) parameters = Watch.setAll query parameters :=
  setAll_of_filter fun _ hmem => filter_setAll_of_mem query hnodup hmem

/-! ### Replacing lone surrogates -/

theorem isWellFormed_decodePart {part : Text} (hpart : part.isWellFormed = true) :
    (decodePart part).isWellFormed = true := by
  rw [decodePart_eq]
  split
  · have hplus : ∀ u : UInt16,
        isHighSurrogate (if u = unit '+' then unit ' ' else u) = isHighSurrogate u ∧
          isLowSurrogate (if u = unit '+' then unit ' ' else u) = isLowSurrogate u := by
      intro u
      split
      · rename_i heq
        subst heq
        decide
      · exact ⟨rfl, rfl⟩
    exact (isWellFormed_map hplus part).trans hpart
  · exact isWellFormed_ofCodePoints fun _ hmem => Utf8.isScalar_of_mem_decodePoints hmem

theorem repair_parse (text : Text) : (parse text).repair = parse text := by
  have hpiece {piece : Text} (hpiece : piece.isWellFormed = true) :
      (decodePair piece).1.repair = (decodePair piece).1 ∧
        (decodePair piece).2.repair = (decodePair piece).2 := by
    obtain ⟨hname, hvalue⟩ : (cut (unit '=') piece).1.isWellFormed = true ∧
        ((cut (unit '=') piece).2.getD []).isWellFormed = true :=
      isWellFormed_cut (by decide) (by decide) hpiece
    exact ⟨repair_of_isWellFormed (isWellFormed_decodePart hname),
      repair_of_isWellFormed (isWellFormed_decodePart hvalue)⟩
  have hpieces {pieces : Text} (hpieces : pieces.isWellFormed = true) :
      repair (((split (unit '&') pieces).filter (!·.isEmpty)).map decodePair) =
        ((split (unit '&') pieces).filter (!·.isEmpty)).map decodePair := by
    rw [repair, List.map_map]
    apply List.map_congr_left
    intro piece hmem
    have hformed := isWellFormed_of_mem_split (by decide) (by decide) hpieces piece
      (List.mem_filter.mp hmem).1
    exact Prod.ext (hpiece hformed).1 (hpiece hformed).2
  have hwhole := isWellFormed_repair text
  rw [parse]
  rcases hrepair : text.repair with _ | ⟨first, rest⟩
  · exact hpieces rfl
  · rw [hrepair] at hwhole
    by_cases hfirst : first = unit '?'
    · subst hfirst
      have hrest := isWellFormed_append_cons (u := unit '?') (by decide) (by decide) [] rest
      simp only [if_true]
      exact hpieces (by simpa [hwhole, isWellFormed] using hrest.symm)
    · simp only [if_neg hfirst]
      exact hpieces hwhole

theorem repair_set (query : Query) (value : Text) (hname : ∀ u ∈ name, u.toNat < 0x80) :
    (query.set name value).repair = query.repair.set name value.repair := by
  have hsame (text : Text) : text.repair = name ↔ text = name := repair_eq_ascii_iff hname
  induction query with
  | nil => simp [set, repair, (hsame name).mpr rfl]
  | cons pair rest ih =>
      have hfilter : repair (rest.filter (·.1 ≠ name)) = (repair rest).filter (·.1 ≠ name) := by
        simp only [repair, List.filter_map]
        congr 1
        apply List.filter_congr
        intro other _
        simp [hsame]
      rw [set]
      split
      · rename_i hpair
        have hrepaired : pair.1.repair = name := (hsame _).mpr hpair
        have hown : name.repair = name := (hsame _).mpr rfl
        calc
          repair ((name, value) :: rest.filter (·.1 ≠ name)) =
              (name.repair, value.repair) :: repair (rest.filter (·.1 ≠ name)) := rfl
          _ = (name, value.repair) :: (repair rest).filter (·.1 ≠ name) := by rw [hown, hfilter]
          _ = (repair (pair :: rest)).set name value.repair := (if_pos hrepaired).symm
      · rename_i hpair
        have hrepaired : pair.1.repair ≠ name := fun heq => hpair ((hsame _).mp heq)
        calc
          repair (pair :: set rest name value) =
              (pair.1.repair, pair.2.repair) :: repair (set rest name value) := rfl
          _ = (pair.1.repair, pair.2.repair) :: (repair rest).set name value.repair := by rw [ih]
          _ = (repair (pair :: rest)).set name value.repair := (if_neg hrepaired).symm

theorem repair_setAll (query : Query) (hnames : ∀ pair ∈ parameters, ∀ u ∈ pair.1, u.toNat < 0x80) :
    (Watch.setAll query parameters).repair = Watch.setAll query.repair parameters.repair := by
  induction parameters generalizing query with
  | nil => rfl
  | cons pair rest ih =>
      obtain ⟨hpair, hrest⟩ := List.forall_mem_cons.mp hnames
      have hown : pair.1.repair = pair.1 := (repair_eq_ascii_iff hpair).mpr rfl
      calc
        (Watch.setAll query (pair :: rest)).repair =
            Watch.setAll (query.set pair.1 pair.2).repair (repair rest) := ih _ hrest
        _ = Watch.setAll (query.repair.set pair.1.repair pair.2.repair) (repair rest) := by
          rw [repair_set query pair.2 hpair, hown]

/-- A query is written as if it had been repaired. -/
theorem toText_repair (query : Query) : query.repair.toText = query.toText := by
  have hpart (part : Text) : encodePart part.repair = encodePart part := by
    rw [encodePart_eq, encodePart_eq, codePoints_repair]
  rw [toText, toText, repair, List.map_map]
  congr 1
  apply List.map_congr_left
  intro pair _
  simp [hpart]

end Query

/-! ### The URL of a watch -/

namespace Watch

open Text

/-- The pairs behind the first question mark of a URL. -/
def query (url : Text) : Query :=
  Query.parse ((cut (unit '?') url).2.getD [])

/-- One query is another one with a parameter set, if there is a value for it. -/
def SetsAny (name : Text) (value : Option Text) (before after : Query) : Prop :=
  match value with
  | some value => Query.Sets name value before after
  | none => after = before

/-- The query with a parameter set, if there is a value for it. -/
def setAny (query : Query) (name : Text) (value : Option Text) : Query :=
  (value.map (query.set name)).getD query

/-- One query is another one with the parameters of a watch set, one after the other. -/
def SetsParameters (timeoutSeconds : Option Number) (version : Option Text) (before after : Query) :
    Prop :=
  ∃ watching marked placed : Query,
    Query.Sets "watch" "true" before watching ∧
      Query.Sets "allowWatchBookmarks" "true" watching marked ∧
      SetsAny "resourceVersion" version marked placed ∧
      SetsAny "timeoutSeconds" (timeoutSeconds.map Number.toText) placed after

/-- The names of the parameters of a watch. -/
def parameterNames : List Text :=
  ["watch", "allowWatchBookmarks", "resourceVersion", "timeoutSeconds"]

theorem map_fst_parameters (version : Option Text) (timeoutSeconds : Option Number) :
    ((parameters version timeoutSeconds).map (·.1)).Sublist parameterNames := by
  rw [parameterNames]
  cases version <;> cases timeoutSeconds <;> simp [parameters]

theorem nodup_parameters (version : Option Text) (timeoutSeconds : Option Number) :
    ((parameters version timeoutSeconds).map (·.1)).Nodup := by
  have hnames : parameterNames.Nodup := by decide
  exact hnames.sublist (map_fst_parameters version timeoutSeconds)

theorem mem_parameterNames {version : Option Text} {timeoutSeconds : Option Number}
    {pair : Text × Text} (hmem : pair ∈ parameters version timeoutSeconds) :
    pair.1 ∈ parameterNames :=
  (map_fst_parameters version timeoutSeconds).subset (List.mem_map_of_mem hmem)

theorem setsAny_setAny (query : Query) (name : Text) (value : Option Text) :
    SetsAny name value query (setAny query name value) := by
  cases value with
  | none => rfl
  | some value => exact Query.sets_set name value query

theorem setsParameters_setAll (query : Query) (version : Option Text)
    (timeoutSeconds : Option Number) :
    SetsParameters timeoutSeconds version query (setAll query (parameters version timeoutSeconds)) := by
  have hset : setAll query (parameters version timeoutSeconds) =
      setAny (setAny ((query.set "watch" "true").set "allowWatchBookmarks" "true")
        "resourceVersion" version) "timeoutSeconds" (timeoutSeconds.map Number.toText) := by
    cases version <;> cases timeoutSeconds <;> rfl
  rw [hset]
  exact ⟨_, _, _, Query.sets_set _ _ _, Query.sets_set _ _ _, setsAny_setAny _ _ _,
    setsAny_setAny _ _ _⟩

theorem repair_parameters (version : Option Text) (timeoutSeconds : Option Number) :
    (parameters version timeoutSeconds).repair = parameters (version.map repair) timeoutSeconds := by
  have hnames : ∀ name ∈ parameterNames, name.repair = name := by decide +kernel
  have htrue : Text.repair "true" = "true" := by decide
  have htimeout (seconds : Number) : seconds.toText.repair = seconds.toText :=
    repair_of_isWellFormed (isWellFormed_toText seconds)
  simp only [parameterNames, List.forall_mem_cons] at hnames
  obtain ⟨hwatch, hmarks, hversion, hseconds, -⟩ := hnames
  cases version <;> cases timeoutSeconds <;>
    simp [parameters, Query.repair, hwatch, hmarks, hversion, hseconds, htrue, htimeout]

/-- The query that is written at the end of the URL of a watch. -/
theorem cut_address (timeoutSeconds : Option Number) (url : Text) (version : Option Text) :
    cut (unit '?') (address timeoutSeconds url version) =
      ((cut (unit '?') url).1,
        some (setAll (query url) (parameters version timeoutSeconds)).toText) := by
  rw [address, cut_append, cut_of_not_mem (not_mem_cut _ _), cut_cons_self]
  simp only [List.append_nil, query]

/-- **The query of the URL of a watch is that of the collection with the parameters set.** -/
theorem query_address (timeoutSeconds : Option Number) (url : Text) (version : Option Text) :
    query (address timeoutSeconds url version) =
      setAll (query url) (parameters (version.map repair) timeoutSeconds) := by
  have hall : (parameterNames.all fun name => name.all fun u => u.toNat < 0x80) = true := by
    decide +kernel
  have hnames : ∀ name ∈ parameterNames, ∀ u ∈ name, u.toNat < 0x80 := fun name hname u hu => by
    simpa using List.all_eq_true.mp (List.all_eq_true.mp hall name hname) u hu
  calc
    query (address timeoutSeconds url version) =
        Query.parse (setAll (query url) (parameters version timeoutSeconds)).toText := by
      rw [query, cut_address, Option.getD_some]
    _ = (setAll (query url) (parameters version timeoutSeconds)).repair := Query.parse_toText _
    _ = setAll (query url).repair (parameters version timeoutSeconds).repair :=
      Query.repair_setAll _ fun _ hmem => hnames _ (mem_parameterNames hmem)
    _ = setAll (query url) (parameters (version.map repair) timeoutSeconds) := by
      rw [repair_parameters]
      exact congrArg (setAll · _) (Query.repair_parse _)

theorem address_eq (timeoutSeconds : Option Number) (url : Text) (version : Option Text) :
    address timeoutSeconds url version =
      (cut (unit '?') url).1 ++
        unit '?' :: (query (address timeoutSeconds url version)).toText := by
  have hquery : (query (address timeoutSeconds url version)).toText =
      (setAll (query url) (parameters version timeoutSeconds)).toText := by
    rw [query, cut_address, Option.getD_some, Query.parse_toText, Query.toText_repair]
  rw [hquery]
  rfl

/-- **The URL of a watch is that of the collection with the parameters of a watch in its query.**
What is in front of the query and every other parameter are kept. -/
theorem address_setsParameters (client : Client) (url : Text) (version : Option Text) :
    (∃ text, cut (unit '?') (address client.watchTimeoutSeconds url version) =
        ((cut (unit '?') url).1, some text)) ∧
      SetsParameters client.watchTimeoutSeconds (version.map repair) (query url)
        (query (address client.watchTimeoutSeconds url version)) ∧
      (query (address client.watchTimeoutSeconds url version)).filter (·.1 ∉ parameterNames) =
        (query url).filter (·.1 ∉ parameterNames) ∧
      address client.watchTimeoutSeconds (address client.watchTimeoutSeconds url version) version =
        address client.watchTimeoutSeconds url version := by
  refine ⟨⟨_, cut_address _ _ _⟩, ?_, ?_, ?_⟩
  · rw [query_address]
    exact setsParameters_setAll _ _ _
  · rw [query_address]
    apply Query.filter_setAll
    intro pair hmem value
    simpa using mem_parameterNames hmem
  · have hquery : query (address client.watchTimeoutSeconds
        (address client.watchTimeoutSeconds url version) version) =
          query (address client.watchTimeoutSeconds url version) := by
      rw [query_address, query_address, Query.setAll_setAll _ (nodup_parameters _ _)]
    rw [address_eq, hquery, cut_address]
    exact (address_eq _ _ _).symm

/-- A query does not hold lone surrogates, so that a version with one is not set as it is. -/
theorem not_setsParameters_of_lone_surrogate :
    ¬SetsParameters none (some [0xD800]) (query "/pods")
      (query (address none "/pods" (some [0xD800]))) := by
  rintro ⟨watching, marked, placed, -, -, hversion, hnone⟩
  have hmem : (ofString "resourceVersion", [0xD800]) ∈ query (address none "/pods" (some [0xD800])) := by
    rw [show query (address none "/pods" (some [0xD800])) = placed from hnone]
    exact hversion.mem
  revert hmem
  decide +kernel

end Watch

end ResourceWatch
