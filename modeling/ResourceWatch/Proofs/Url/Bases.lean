import ResourceWatch.Config
import ResourceWatch.Proofs.Url.Segments

/-!
# A path behind a base

A server is read as a URL, but it is its text without the slashes at the end that a path is put
behind. What is read of the two differs in what is dropped: slashes of the text, or blanks that only
the reader drops.
-/

namespace ResourceWatch.Url

open Text

variable {scheme rest text : Text}

/-! ### The parts of a text -/

/-- What is read as host and path, of the text behind a scheme. -/
def bodyOf (rest : Text) : Text :=
  (cut (unit '?') (cut (unit '#') rest).1).1

def authorityOf (rest : Text) : Text :=
  ((bodyOf rest).dropWhile (isSlash true)).takeWhile (!isSlash true ·)

def pathBehind (rest : Text) : Text :=
  ((bodyOf rest).dropWhile (isSlash true)).dropWhile (!isSlash true ·)

/-- Whether a query or a fragment begins in a text. -/
def IsMarked (text : Text) : Prop :=
  unit '?' ∈ text ∨ unit '#' ∈ text

/-- What stands in front of the last `@` of an authority, if there is one, and behind it. -/
def userinfoOf (authority : Text) : Option Text × Text :=
  match cutLast? (unit '@') authority with
  | some (userinfo, address) => (some userinfo, address)
  | none => (none, authority)

theorem withAuthority?_eq (scheme authority path : Text) :
    withAuthority? scheme authority path =
      if (userinfoOf authority).1.isSome && (userinfoOf authority).2.isEmpty then none
      else (hostPort? scheme (userinfoOf authority).2).map fun found =>
        let (name, password) := cut (unit ':') ((userinfoOf authority).1.getD [])
        { scheme
          username := Percent.encode Percent.userinfo name
          password := Percent.encode Percent.userinfo (password.getD [])
          host := some found.1
          port := found.2
          path := .segments (pathOf scheme path) } := by
  unfold withAuthority? userinfoOf
  rcases cutLast? (unit '@') authority with _ | ⟨userinfo, address⟩
  · cases hfound : hostPort? scheme authority <;> simp [hfound]
  · cases address with
    | nil => rfl
    | cons u rest => cases hfound : hostPort? scheme (u :: rest) <;> simp [hfound]

theorem scheme_of_withAuthority? {authority path : Text} {site : Url}
    (hsite : withAuthority? scheme authority path = some site) : site.scheme = scheme := by
  rw [withAuthority?_eq] at hsite
  split at hsite
  · cases hsite
  · obtain ⟨found, -, rfl⟩ := Option.map_eq_some_iff.mp hsite
    rfl

theorem withAuthority?_nil (hspecial : isSpecial scheme = true) (path : Text) :
    withAuthority? scheme [] path = none := by
  have huserinfo : userinfoOf [] = (none, []) := rfl
  have hhost : hostPort? scheme [] = none := by simp [hostPort?, cutPort, hspecial]
  rw [withAuthority?_eq, huserinfo, hhost]
  rfl

/-- A text is read in parts, each of which is found in its own place. -/
theorem parse?_eq (hspecial : isSpecial scheme = true) (hfile : scheme ≠ "file")
    (hscheme : scheme? (clean text) = some (scheme, rest)) :
    parse? text = (withAuthority? scheme (authorityOf rest) []).map fun site =>
      { site with
        path := .segments (pathOf scheme (pathBehind rest))
        query := (cut (unit '?') (cut (unit '#') rest).1).2.map (Percent.encode Percent.specialQuery)
        fragment := (cut (unit '#') rest).2.map (Percent.encode Percent.fragment) } := by
  have hhierarchy : hierarchy? scheme (bodyOf rest) =
      withAuthority? scheme (authorityOf rest) (pathBehind rest) := by
    rw [hierarchy?.eq_def, if_neg hfile, if_pos hspecial, authorityOf, pathBehind]
  have hparse : parse? text = (hierarchy? scheme (bodyOf rest)).map fun url =>
      { url with
        query := (cut (unit '?') (cut (unit '#') rest).1).2.map (Percent.encode Percent.specialQuery)
        fragment := (cut (unit '#') rest).2.map (Percent.encode Percent.fragment) } := by
    rw [parse?, hscheme]
    simp only [Option.bind_eq_bind, Option.bind_some, hspecial, if_true]
    rw [← bodyOf]
    cases hierarchy? scheme (bodyOf rest) <;> rfl
  rw [hparse, hhierarchy, withAuthority?_eq, withAuthority?_eq]
  split
  · rfl
  · rw [Option.map_map, Option.map_map]
    rfl

/-! ### More text behind a text -/

variable {more : Text}

theorem cut_fst_append {separator : UInt16} (hmem : separator ∈ text) (more : Text) :
    (cut separator (text ++ more)).1 = (cut separator text).1 := by
  obtain ⟨first, second, rfl, hfirst⟩ := List.eq_append_cons_of_mem hmem
  simp [cut_append, cut_of_not_mem hfirst, cut]

theorem bodyOf_append (hrest : IsMarked rest) (more : Text) : bodyOf (rest ++ more) = bodyOf rest := by
  by_cases hhash : unit '#' ∈ rest
  · rw [bodyOf, bodyOf, cut_fst_append hhash]
  · have hmark : unit '?' ∈ rest := hrest.resolve_right hhash
    rw [bodyOf, bodyOf, cut_append, cut_of_not_mem hhash]
    exact cut_fst_append hmark _

theorem bodyOf_of_not_isMarked (hrest : ¬IsMarked rest) : bodyOf rest = rest := by
  rw [IsMarked, not_or] at hrest
  rw [bodyOf, cut_of_not_mem hrest.2, cut_of_not_mem hrest.1]

theorem isMarked_append : IsMarked (rest ++ more) ↔ IsMarked rest ∨ IsMarked more := by
  simp only [IsMarked, List.mem_append]
  exact or_or_or_comm

theorem takeWhile_append_of_dropWhile {p : UInt16 → Bool} (hdrop : text.dropWhile p ≠ [])
    (more : Text) : (text ++ more).takeWhile p = text.takeWhile p := by
  obtain ⟨u, rest, hcons⟩ := List.exists_cons_of_ne_nil hdrop
  have hu : p u = false := by
    have hhead := List.head?_dropWhile_not p text
    rw [hcons] at hhead
    simpa using hhead
  have hsplit : text = text.takeWhile p ++ u :: rest := by
    rw [← hcons, List.takeWhile_append_dropWhile]
  rw [hsplit, List.append_assoc, List.cons_append, takeWhile_append_cons hu, takeWhile_append_cons hu]

theorem dropWhile_append_of_dropWhile {p : UInt16 → Bool} (hdrop : text.dropWhile p ≠ [])
    (more : Text) : (text ++ more).dropWhile p = text.dropWhile p ++ more := by
  rw [List.dropWhile_append, if_neg]
  simpa using hdrop

/-- What stands behind the path of an unmarked text belongs to the path. -/
theorem parts_append_of_path (hmarked : ¬IsMarked (rest ++ more)) (hpath : pathBehind rest ≠ []) :
    authorityOf (rest ++ more) = authorityOf rest ∧
      pathBehind (rest ++ more) = pathBehind rest ++ more := by
  have hbody := bodyOf_of_not_isMarked fun hrest => hmarked (isMarked_append.mpr (.inl hrest))
  have hslashes : rest.dropWhile (isSlash true) ≠ [] := by
    intro hnil
    rw [pathBehind, hbody, hnil] at hpath
    exact hpath rfl
  rw [pathBehind, hbody] at hpath
  rw [authorityOf, pathBehind, authorityOf, pathBehind, bodyOf_of_not_isMarked hmarked, hbody,
    dropWhile_append_of_dropWhile hslashes]
  exact ⟨takeWhile_append_of_dropWhile hpath more, dropWhile_append_of_dropWhile hpath more⟩

/-- So does what stands behind the authority, if it begins with a slash. -/
theorem parts_append_of_slash (hmarked : ¬IsMarked (rest ++ unit '/' :: more))
    (hslashes : rest.dropWhile (isSlash true) ≠ []) :
    authorityOf (rest ++ unit '/' :: more) = authorityOf rest ∧
      pathBehind (rest ++ unit '/' :: more) = pathBehind rest ++ unit '/' :: more := by
  have hslash : (!isSlash true (unit '/')) = false := by decide
  have hbody := bodyOf_of_not_isMarked fun hrest => hmarked (isMarked_append.mpr (.inl hrest))
  rw [authorityOf, pathBehind, authorityOf, pathBehind, bodyOf_of_not_isMarked hmarked, hbody,
    dropWhile_append_of_dropWhile hslashes]
  exact ⟨takeWhile_append_cons hslash _ _, dropWhile_append_cons hslash _ _⟩

theorem isPath_nil : IsPath [] := by simp [IsPath]

theorem isPath_pathBehind (rest : Text) : IsPath (pathBehind rest) := by
  intro u hu
  have hhead := List.head?_dropWhile_not (!isSlash true ·) ((bodyOf rest).dropWhile (isSlash true))
  rw [pathBehind] at hu
  rw [hu] at hhead
  simpa using hhead

/-! ### What is left of a server -/

theorem exists_slashes (text : Text) :
    ∃ n, text = stripSlashes text ++ List.replicate n (unit '/') := by
  have hall : ∀ u ∈ text.reverse.takeWhile (· = unit '/'), u = unit '/' := fun u hu => by
    simpa using List.all_eq_true.mp List.all_takeWhile u hu
  refine ⟨(text.reverse.takeWhile (· = unit '/')).length, ?_⟩
  rw [stripSlashes, ← List.reverse_replicate, ← List.eq_replicate_of_mem hall, ← List.reverse_append,
    List.takeWhile_append_dropWhile, List.reverse_reverse]

/-- What is dropped at the end of a text are blanks. -/
theorem exists_blanks (text : Text) :
    ∃ blanks, cleanFront text = clean text ++ blanks ∧ ∀ u ∈ blanks, u.toNat ≤ 0x20 := by
  have hends : text.dropWhile (· ≤ 0x20) =
      ((text.dropWhile (· ≤ 0x20)).reverse.dropWhile (· ≤ 0x20)).reverse ++
        ((text.dropWhile (· ≤ 0x20)).reverse.takeWhile (· ≤ 0x20)).reverse := by
    rw [← List.reverse_append, List.takeWhile_append_dropWhile, List.reverse_reverse]
  refine ⟨_, (congrArg (List.filter _) hends).trans (List.filter_append _ _), fun u hu => ?_⟩
  have hmem := List.mem_reverse.mp (List.mem_filter.mp hu).1
  simpa [UInt16.le_iff_toNat_le] using List.all_eq_true.mp List.all_takeWhile u hmem

/-- A scheme stands in front of the first colon. -/
theorem scheme?_eq_some_iff :
    scheme? text = some (scheme, rest) ↔
      ∃ first letters, text = first :: letters ++ unit ':' :: rest ∧ isLetter first = true ∧
        (∀ u ∈ first :: letters, isSchemeUnit u = true) ∧ scheme = lower (first :: letters) := by
  have hcolon : isSchemeUnit (unit ':') = false := by decide
  constructor
  · intro hscheme
    rcases text with _ | ⟨first, others⟩
    · cases hscheme
    · rw [scheme?] at hscheme
      split at hscheme
      · rename_i hletter
        rcases hdrop : (first :: others).dropWhile isSchemeUnit with _ | ⟨colon, behind⟩
        · rw [hdrop] at hscheme
          cases hscheme
        · simp only [hdrop] at hscheme
          split at hscheme
          · rename_i heq
            subst heq
            obtain ⟨rfl, rfl⟩ := Prod.mk.inj (Option.some.inj hscheme)
            have hunit : isSchemeUnit first = true := by simp [isSchemeUnit, hletter]
            have hsplit := List.takeWhile_append_dropWhile (p := isSchemeUnit) (l := first :: others)
            rw [hdrop, List.takeWhile_cons, hunit, if_pos rfl] at hsplit
            refine ⟨first, others.takeWhile isSchemeUnit, hsplit.symm, hletter, ?_, ?_⟩
            · exact List.forall_mem_cons.mpr ⟨hunit, List.all_eq_true.mp List.all_takeWhile⟩
            · rw [List.takeWhile_cons, hunit, if_pos rfl]
          · cases hscheme
      · cases hscheme
  · rintro ⟨first, letters, rfl, hletter, hunits, rfl⟩
    have hdrop : (first :: letters ++ unit ':' :: rest).dropWhile isSchemeUnit = unit ':' :: rest := by
      rw [List.dropWhile_append_of_pos hunits, List.dropWhile_cons, hcolon]
      rfl
    have htake : (first :: letters ++ unit ':' :: rest).takeWhile isSchemeUnit = first :: letters := by
      rw [List.takeWhile_append_of_pos hunits, List.takeWhile_cons, hcolon]
      exact List.append_nil _
    rw [List.cons_append] at hdrop htake ⊢
    rw [scheme?, if_pos hletter, hdrop, htake]
    exact if_pos rfl

theorem scheme?_append (hscheme : scheme? text = some (scheme, rest)) (more : Text) :
    scheme? (text ++ more) = some (scheme, rest ++ more) := by
  obtain ⟨first, letters, rfl, hrest⟩ := scheme?_eq_some_iff.mp hscheme
  exact scheme?_eq_some_iff.mpr ⟨first, letters, by simp, hrest⟩

theorem isMarked_iff_of_scheme? (hscheme : scheme? text = some (scheme, rest)) :
    IsMarked text ↔ IsMarked rest := by
  obtain ⟨first, letters, rfl, -, hunits, -⟩ := scheme?_eq_some_iff.mp hscheme
  have hfront : ¬IsMarked (first :: letters ++ [unit ':']) := by
    rintro (hmem | hmem)
    all_goals
      rcases List.mem_append.mp hmem with hmem | hmem
      · exact absurd (hunits _ hmem) (by decide)
      · exact absurd hmem (by decide)
  rw [List.append_cons, isMarked_append]
  exact or_iff_right hfront

theorem isMarked_clean (text : Text) : IsMarked (clean text) ↔ IsMarked text := by
  have hmem {mark : UInt16} (hmark : 0x20 < mark.toNat) : mark ∈ clean text ↔ mark ∈ text := by
    have hdrop (text : Text) : mark ∈ text.dropWhile (· ≤ 0x20) ↔ mark ∈ text := by
      refine ⟨fun hmem => (List.dropWhile_sublist _).subset hmem, fun hmem => ?_⟩
      rw [← List.takeWhile_append_dropWhile (p := (· ≤ 0x20)) (l := text)] at hmem
      refine (List.mem_append.mp hmem).resolve_left fun hmem => ?_
      have hblank := List.all_eq_true.mp List.all_takeWhile _ hmem
      simp [UInt16.le_iff_toNat_le] at hblank
      omega
    rw [clean, List.mem_filter, List.mem_reverse, hdrop, List.mem_reverse, hdrop, and_iff_left]
    simp only [← UInt16.toNat_inj]
    simp
    omega
  rw [IsMarked, IsMarked, hmem (by decide), hmem (by decide)]

/-- **The text that is left of a server** is what is read of it, but for slashes that were stripped or
for blanks that are not read. -/
theorem exists_front {server : Text} (hscheme : scheme? (clean server) = some (scheme, rest)) :
    ∃ front, scheme? (cleanFront (stripSlashes server)) = some (scheme, front) ∧
      ((clean server = cleanFront server ∧ ∃ n, rest = front ++ List.replicate n (unit '/')) ∨
        clean server ≠ cleanFront server ∧ ∃ blanks, blanks ≠ [] ∧ (∀ u ∈ blanks, u.toNat ≤ 0x20) ∧
          front = rest ++ blanks) := by
  obtain ⟨n, hserver⟩ := exists_slashes server
  cases n with
  | zero =>
      have hstripped : stripSlashes server = server := by simpa using hserver.symm
      obtain ⟨blanks, hfront, hblanks⟩ := exists_blanks server
      refine ⟨rest ++ blanks, ?_, ?_⟩
      · rw [hstripped, hfront]
        exact scheme?_append hscheme blanks
      · by_cases hne : blanks = []
        · subst hne
          rw [List.append_nil] at hfront
          exact .inl ⟨hfront.symm, 0, by simp⟩
        · refine .inr ⟨fun heq => hne ?_, blanks, hne, hblanks, rfl⟩
          rw [heq] at hfront
          exact List.self_eq_append_right.mp hfront
  | succ n =>
      have hdark : ∀ u ∈ List.replicate (n + 1) (unit '/'), 0x20 < u.toNat := by
        intro u hu
        rw [List.eq_of_mem_replicate hu]
        decide
      have hne : List.replicate (n + 1) (unit '/') ≠ [] := List.cons_ne_nil _ _
      have hclean : clean server =
          cleanFront (stripSlashes server) ++ List.replicate (n + 1) (unit '/') :=
        (congrArg clean hserver).trans (clean_append _ hne hdark)
      have hfront : cleanFront server =
          cleanFront (stripSlashes server) ++ List.replicate (n + 1) (unit '/') :=
        (congrArg cleanFront hserver).trans (cleanFront_append _ hne hdark)
      rw [hclean, List.replicate_succ, scheme?_append_cons (by decide) (by decide),
        Option.map_eq_some_iff] at hscheme
      obtain ⟨⟨found, front⟩, hfound, heq⟩ := hscheme
      obtain ⟨rfl, rfl⟩ := Prod.mk.inj heq
      exact ⟨front, hfound, .inl ⟨hclean.trans hfront.symm, n + 1, rfl⟩⟩

/-! ### A path behind what is left -/

/-- Two URLs lead to the same place, with the same credentials. -/
structure IsSameSite (first second : Url) : Prop where
  scheme : first.scheme = second.scheme
  username : first.username = second.username
  password : first.password = second.password
  host : first.host = second.host
  port : first.port = second.port

def IsHttp (scheme : Text) : Prop :=
  scheme = "http" ∨ scheme = "https"

theorem IsHttp.isSpecial (hhttp : IsHttp scheme) : isSpecial scheme = true := by
  rcases hhttp with rfl | rfl <;> decide

theorem IsHttp.ne_file (hhttp : IsHttp scheme) : scheme ≠ "file" := by
  rcases hhttp with rfl | rfl <;> decide

theorem scheme_of_file? {url : Url} (hurl : file? scheme text = some url) : url.scheme = scheme := by
  simp only [file?.eq_def] at hurl
  split at hurl
  · split at hurl
    · split at hurl
      · obtain rfl := Option.some.inj hurl
        rfl
      split at hurl
      · obtain rfl := Option.some.inj hurl
        rfl
      · obtain ⟨host, -, hurl⟩ := Option.bind_eq_some_iff.mp hurl
        obtain rfl := Option.some.inj hurl
        rfl
    · obtain rfl := Option.some.inj hurl
      rfl
  · obtain rfl := Option.some.inj hurl
    rfl

theorem scheme_of_hierarchy? {url : Url} (hurl : hierarchy? scheme text = some url) :
    url.scheme = scheme := by
  unfold hierarchy? at hurl
  split at hurl
  · exact scheme_of_file? hurl
  split at hurl
  · exact scheme_of_withAuthority? hurl
  split at hurl
  · split at hurl
    · split at hurl
      · split at hurl
        · exact scheme_of_withAuthority? hurl
        · obtain rfl := Option.some.inj hurl
          rfl
      · obtain rfl := Option.some.inj hurl
        rfl
    · obtain rfl := Option.some.inj hurl
      rfl
  · obtain rfl := Option.some.inj hurl
    rfl

theorem exists_scheme {read : Url} (hread : parse? text = some read) :
    ∃ rest, scheme? (clean text) = some (read.scheme, rest) := by
  simp only [parse?, Option.bind_eq_bind, Option.bind_eq_some_iff, Option.pure_def,
    Option.some.injEq] at hread
  obtain ⟨⟨scheme, rest⟩, hscheme, url, hurl, rfl⟩ := hread
  exact ⟨rest, (scheme_of_hierarchy? hurl).symm ▸ hscheme⟩

variable {server front : Text} {read : Url} {tail : List Text}

theorem scheme?_join (hfront : scheme? (cleanFront (stripSlashes server)) = some (scheme, front))
    (hne : tail ≠ []) (htail : ∀ segment ∈ tail, IsSegment segment) :
    scheme? (clean (stripSlashes server ++ pathText (.segments tail))) =
      some (scheme, front ++ pathText (.segments tail)) := by
  have hdark : ∀ u ∈ pathText (.segments tail), 0x20 < u.toNat := by
    intro u hu
    rcases of_mem_pathText htail hu with rfl | hunreserved
    · decide
    · exact (of_isUnreserved hunreserved).1
  have hsome : pathText (.segments tail) ≠ [] := by
    obtain ⟨segment, rest, rfl⟩ := List.exists_cons_of_ne_nil hne
    exact List.cons_ne_nil _ _
  rw [clean_append _ hsome hdark]
  exact scheme?_append hfront _

/-- Of texts with the same authority one is read if the other one is, as a URL of the same place. -/
theorem exists_of_authorityOf {other behind : Text} (hhttp : IsHttp scheme)
    (hscheme : scheme? (clean text) = some (scheme, rest))
    (hother : scheme? (clean other) = some (scheme, behind))
    (hauthority : authorityOf behind = authorityOf rest) (hread : parse? text = some read) :
    read.path = .segments (pathOf scheme (pathBehind rest)) ∧
      ∃ target, parse? other = some target ∧ IsSameSite target read ∧
        target.path = .segments (pathOf scheme (pathBehind behind)) := by
  rw [parse?_eq hhttp.isSpecial hhttp.ne_file hscheme, Option.map_eq_some_iff] at hread
  obtain ⟨site, hsite, rfl⟩ := hread
  rw [parse?_eq hhttp.isSpecial hhttp.ne_file hother, hauthority, hsite]
  exact ⟨rfl, _, rfl, ⟨rfl, rfl, rfl, rfl, rfl⟩, rfl⟩

theorem not_isMarked_pathText (htail : ∀ segment ∈ tail, IsSegment segment) :
    ¬IsMarked (pathText (.segments tail)) := by
  rintro (hmem | hmem)
  all_goals
    rcases of_mem_pathText htail hmem with heq | hunreserved
    · exact absurd heq (by decide)
    · exact absurd hunreserved (by decide)

/-- Behind a query or a fragment, a path is a part of it. -/
theorem exists_target_of_isMarked (hread : parse? server = some read) (hhttp : IsHttp read.scheme)
    (hmarked : IsMarked server) (hne : tail ≠ []) (htail : ∀ segment ∈ tail, IsSegment segment) :
    ∃ target, parse? (stripSlashes server ++ pathText (.segments tail)) = some target ∧
      IsSameSite target read ∧ target.path = read.path := by
  obtain ⟨rest, hscheme⟩ := exists_scheme hread
  obtain ⟨front, hfront, hleft⟩ := exists_front hscheme
  have hrest : IsMarked rest :=
    (isMarked_iff_of_scheme? hscheme).mp ((isMarked_clean server).mpr hmarked)
  have hbody : bodyOf (front ++ pathText (.segments tail)) = bodyOf rest := by
    rcases hleft with ⟨-, n, rfl⟩ | ⟨-, blanks, -, -, rfl⟩
    · have hslashes : ¬IsMarked (List.replicate n (unit '/')) := by
        rintro (hmem | hmem) <;> exact absurd (List.eq_of_mem_replicate hmem) (by decide)
      have hmarks := (isMarked_append.mp hrest).resolve_right hslashes
      rw [bodyOf_append hmarks, bodyOf_append hmarks]
    · rw [List.append_assoc, bodyOf_append hrest]
  have hauthority : authorityOf (front ++ pathText (.segments tail)) = authorityOf rest := by
    rw [authorityOf, authorityOf, hbody]
  obtain ⟨hpath, target, htarget, hsite, htargetPath⟩ :=
    exists_of_authorityOf hhttp hscheme (scheme?_join hfront hne htail) hauthority hread
  refine ⟨target, htarget, hsite, ?_⟩
  rw [htargetPath, hpath, pathBehind, pathBehind, hbody]

/-- Whether something stands behind the host of a URL. -/
def HasRest (text : Text) : Prop :=
  ∃ scheme rest, scheme? (clean text) = some (scheme, rest) ∧ (IsMarked rest ∨ pathBehind rest ≠ [])

/-- Behind what is left of a server, a path stands behind these segments. -/
def LeadsOn (server : Text) (read : Url) (before : List Text) : Prop :=
  ∀ tail, tail ≠ [] → (∀ segment ∈ tail, IsSegment segment) →
    ∃ target, parse? (stripSlashes server ++ pathText (.segments tail)) = some target ∧
      IsSameSite target read ∧ target.path = .segments (before ++ tail)

theorem leadsOn_stem {path : Text} (hread : parse? server = some read) (hhttp : IsHttp read.scheme)
    (hscheme : scheme? (clean server) = some (read.scheme, rest))
    (hfront : scheme? (cleanFront (stripSlashes server)) = some (read.scheme, front))
    (hpath : IsPath path)
    (hparts : ∀ tail, tail ≠ [] → (∀ segment ∈ tail, IsSegment segment) →
      authorityOf (front ++ pathText (.segments tail)) = authorityOf rest ∧
        pathBehind (front ++ pathText (.segments tail)) = path ++ pathText (.segments tail)) :
    LeadsOn server read (stem read.scheme path) := by
  intro tail hne htail
  obtain ⟨hauthority, hbehind⟩ := hparts tail hne htail
  obtain ⟨-, target, htarget, hsite, htargetPath⟩ :=
    exists_of_authorityOf hhttp hscheme (scheme?_join hfront hne htail) hauthority hread
  refine ⟨target, htarget, hsite, htargetPath.trans (congrArg Path.segments ?_)⟩
  rw [hbehind]
  exact pathOf_append hhttp.isSpecial hhttp.ne_file hpath hne htail

theorem authorityOf_ne_nil (hread : parse? server = some read) (hhttp : IsHttp read.scheme)
    (hscheme : scheme? (clean server) = some (read.scheme, rest)) : authorityOf rest ≠ [] := by
  intro hnil
  rw [parse?_eq hhttp.isSpecial hhttp.ne_file hscheme, hnil,
    withAuthority?_nil hhttp.isSpecial] at hread
  cases hread

/-- Slashes that are stripped are not needed to find the host. -/
theorem dropWhile_slashes_ne_nil {n : Nat} (hmarked : ¬IsMarked (front ++ List.replicate n (unit '/')))
    (hauthority : authorityOf (front ++ List.replicate n (unit '/')) ≠ []) :
    front.dropWhile (isSlash true) ≠ [] := by
  intro hnil
  apply hauthority
  have hslash : isSlash true (unit '/') = true := by decide
  have hall : (front ++ List.replicate n (unit '/')).dropWhile (isSlash true) = [] := by
    simp [List.dropWhile_append, hnil, hslash]
  rw [authorityOf, bodyOf_of_not_isMarked hmarked, hall]
  rfl

theorem parts_append_pathText (hmarked : ¬IsMarked front)
    (hslashes : front.dropWhile (isSlash true) ≠ []) (hne : tail ≠ [])
    (htail : ∀ segment ∈ tail, IsSegment segment) :
    authorityOf (front ++ pathText (.segments tail)) = authorityOf front ∧
      pathBehind (front ++ pathText (.segments tail)) =
        pathBehind front ++ pathText (.segments tail) := by
  have hmarks : ¬IsMarked (front ++ pathText (.segments tail)) := by
    rw [isMarked_append, not_or]
    exact ⟨hmarked, not_isMarked_pathText htail⟩
  obtain ⟨segment, others, rfl⟩ := List.exists_cons_of_ne_nil hne
  exact parts_append_of_slash hmarks hslashes

/-- Where the end of a server is read as it is written, its own path leads to the same segments and to
slashes behind them. -/
theorem leadsOn_of_kept (hread : parse? server = some read) (hhttp : IsHttp read.scheme)
    (hmarked : ¬IsMarked server) (hkept : clean server = cleanFront server) :
    ∃ before n, read.path = .segments (before ++ List.replicate n []) ∧
      LeadsOn server read before := by
  obtain ⟨rest, hscheme⟩ := exists_scheme hread
  obtain ⟨front, hfront, ⟨-, n, rfl⟩ | ⟨hdropped, -⟩⟩ := exists_front hscheme
  · have hrest := (not_congr (isMarked_clean server)).mpr hmarked
    rw [isMarked_iff_of_scheme? hscheme] at hrest
    have hslashes := dropWhile_slashes_ne_nil hrest (authorityOf_ne_nil hread hhttp hscheme)
    have hparts {tail : List Text} (hne : tail ≠ []) (htail : ∀ segment ∈ tail, IsSegment segment) :=
      parts_append_pathText (fun hfront => hrest (isMarked_append.mpr (.inl hfront))) hslashes hne htail
    obtain ⟨hauthority, m, hslashed⟩ :
        authorityOf (front ++ List.replicate n (unit '/')) = authorityOf front ∧
          ∃ m, pathOf read.scheme (pathBehind (front ++ List.replicate n (unit '/'))) =
            stem read.scheme (pathBehind front) ++ List.replicate m [] := by
      cases n with
      | zero =>
          rw [List.replicate_zero, List.append_nil]
          exact ⟨rfl, pathOf_eq_stem hhttp.isSpecial hhttp.ne_file (isPath_pathBehind front)⟩
      | succ n =>
          have hne : List.replicate (n + 1) ([] : Text) ≠ [] := List.cons_ne_nil _ _
          have htail : ∀ segment ∈ List.replicate (n + 1) ([] : Text), IsSegment segment :=
            fun segment hsegment => List.eq_of_mem_replicate hsegment ▸ isSegment_nil
          obtain ⟨hauthority, hbehind⟩ := hparts hne htail
          rw [← pathText_replicate, hbehind]
          exact ⟨hauthority, n + 1,
            pathOf_append hhttp.isSpecial hhttp.ne_file (isPath_pathBehind front) hne htail⟩
    refine ⟨_, m, ?_, leadsOn_stem hread hhttp hscheme hfront (isPath_pathBehind front)
      fun tail hne htail => ⟨(hparts hne htail).1.trans hauthority.symm, (hparts hne htail).2⟩⟩
    rw [← hslashed]
    exact (exists_of_authorityOf hhttp hscheme hscheme rfl hread).1
  · exact absurd hkept hdropped

/-- Where blanks are dropped behind the path of a server, other segments are led to. -/
theorem leadsOn_of_dropped (hread : parse? server = some read) (hhttp : IsHttp read.scheme)
    (hmarked : ¬IsMarked server) (hdropped : clean server ≠ cleanFront server)
    (hrests : HasRest server) :
    ∃ before, ¬pathText (.segments before) <+: pathText read.path ∧ LeadsOn server read before := by
  obtain ⟨rest, hscheme⟩ := exists_scheme hread
  obtain ⟨front, hfront, ⟨hkept, -⟩ | ⟨-, blanks, hne, hblanks, rfl⟩⟩ := exists_front hscheme
  · exact absurd hkept hdropped
  · have hrest := (not_congr (isMarked_clean server)).mpr hmarked
    rw [isMarked_iff_of_scheme? hscheme] at hrest
    have hbehind : pathBehind rest ≠ [] := by
      obtain ⟨scheme, found, hfound, hparts⟩ := hrests
      rw [hscheme] at hfound
      obtain ⟨-, rfl⟩ := Prod.mk.inj (Option.some.inj hfound)
      exact hparts.resolve_left hrest
    have hblanksMarks : ¬IsMarked blanks := by
      rintro (hmem | hmem) <;> exact absurd (hblanks _ hmem) (by decide)
    have hstart : IsPath (pathBehind rest ++ blanks) := by
      obtain ⟨slash, path, hslash⟩ := List.exists_cons_of_ne_nil hbehind
      have hfirst := isPath_pathBehind rest
      rw [hslash] at hfirst ⊢
      exact hfirst
    refine ⟨_, ?_, leadsOn_stem hread hhttp hscheme hfront hstart fun tail _ htail => ?_⟩
    · rw [(exists_of_authorityOf hhttp hscheme hscheme rfl hread).1]
      exact not_isPrefix_stem hhttp.ne_file hhttp.isSpecial (isPath_pathBehind rest) hbehind hne
        hblanks
    · rw [List.append_assoc, List.append_assoc]
      apply parts_append_of_path _ hbehind
      rw [isMarked_append, isMarked_append, not_or, not_or]
      exact ⟨hrest, hblanksMarks, not_isMarked_pathText htail⟩

end ResourceWatch.Url
