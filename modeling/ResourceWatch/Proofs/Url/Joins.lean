import ResourceWatch.Proofs.Url.Bases

/-!
# Servers that a path goes on with

The path that is put behind a server goes on with the path that is read there as long as nothing but
line ends is dropped at the end of the text, no query begins in it, and its path ends with a name. A
server that is written with names is one of these.
-/

namespace ResourceWatch.Url

open Text

variable {scheme text server : Text} {read : Url} {tail : List Text}

/-! ### Stripping -/

theorem stripSlashes_append (text : Text) (n : Nat) :
    stripSlashes (text ++ List.replicate n (unit '/')) = stripSlashes text := by
  have hall : ∀ u ∈ List.replicate n (unit '/'), decide (u = unit '/') = true := fun u hu =>
    decide_eq_true (List.eq_of_mem_replicate hu)
  rw [stripSlashes, List.reverse_append, List.reverse_replicate, List.dropWhile_append_of_pos hall,
    stripSlashes]

theorem stripSlashes_stripSlashes (text : Text) :
    stripSlashes (stripSlashes text) = stripSlashes text := by
  obtain ⟨n, hslashes⟩ := exists_slashes text
  calc
    stripSlashes (stripSlashes text) =
        stripSlashes (stripSlashes text ++ List.replicate n (unit '/')) :=
      (stripSlashes_append _ n).symm
    _ = stripSlashes text := congrArg stripSlashes hslashes.symm

theorem stripSlashes_isPrefix (text : Text) : stripSlashes text <+: text := by
  obtain ⟨n, hslashes⟩ := exists_slashes text
  exact ⟨_, hslashes.symm⟩

theorem stripSlashes_eq_self_iff (text : Text) :
    stripSlashes text = text ↔ ¬[unit '/'] <:+ text := by
  rcases List.eq_nil_or_concat text with rfl | ⟨before, last, rfl⟩
  · simp [stripSlashes]
  · rw [List.concat_eq_append]
    have hsuffix : [unit '/'] <:+ before ++ [last] ↔ last = unit '/' := by
      rw [← List.reverse_prefix, List.reverse_append]
      simp [List.cons_prefix_cons, eq_comm]
    rw [hsuffix]
    by_cases hlast : last = unit '/'
    · refine iff_of_false (fun heq => ?_) fun hne => hne hlast
      have hshort := (stripSlashes_isPrefix before).length_le
      rw [hlast, show [unit '/'] = List.replicate 1 (unit '/') from rfl, stripSlashes_append] at heq
      rw [heq, List.length_append, List.length_replicate] at hshort
      omega
    · simp [stripSlashes, hlast]

theorem slashes_suffix_iff (text : Text) :
    ofString "//" <:+ text ++ [unit '/'] ↔ [unit '/'] <:+ text := by
  have hslashes : ofString "//" = [unit '/'] ++ [unit '/'] := by decide
  constructor
  · rintro ⟨before, heq⟩
    rw [hslashes, ← List.append_assoc] at heq
    exact ⟨before, List.append_cancel_right heq⟩
  · rintro ⟨before, rfl⟩
    exact ⟨before, by rw [hslashes, List.append_assoc]⟩

/-! ### Where the path goes on -/

/-- **The servers behind which a path goes on with theirs**: their end is read as it is written, their
path ends there, and with one slash behind it it does not end with two. -/
structure Joins (server : Text) : Prop where
  kept : clean server = cleanFront server
  unmarked : ¬IsMarked server
  single : ∀ joined, parse? (stripSlashes server ++ [unit '/']) = some joined →
    ¬ofString "//" <:+ pathText joined.path

theorem exists_target (hread : parse? server = some read) (hhttp : IsHttp read.scheme)
    (hcloses : clean server = cleanFront server ∨ HasRest server) (hne : tail ≠ [])
    (hnamed : ∀ segment ∈ tail, segment ≠ []) (htail : ∀ segment ∈ tail, IsSegment segment) :
    ∃ target, parse? (stripSlashes server ++ pathText (.segments tail)) = some target ∧
      IsSameSite target read ∧
      (pathText target.path = stripSlashes (pathText read.path) ++ pathText (.segments tail) ↔
        Joins server) := by
  by_cases hmarked : IsMarked server
  · obtain ⟨target, htarget, hsite, hpath⟩ :=
      exists_target_of_isMarked hread hhttp hmarked hne htail
    refine ⟨target, htarget, hsite, iff_of_false (fun heq => ?_) fun hjoins => hjoins.unmarked hmarked⟩
    -- The path of the server has only slashes behind what is stripped to.
    obtain ⟨n, hslashes⟩ := exists_slashes (pathText read.path)
    rw [hpath] at heq
    have hall : pathText (.segments tail) = List.replicate n (unit '/') :=
      List.append_cancel_left (heq.symm.trans hslashes)
    obtain ⟨segment, rest, rfl⟩ := List.exists_cons_of_ne_nil hne
    obtain ⟨u, hu⟩ := List.exists_mem_of_ne_nil _ (hnamed segment List.mem_cons_self)
    have hmem : u ∈ pathText (.segments (segment :: rest)) :=
      List.mem_cons_of_mem _ (List.mem_append_left _ hu)
    rw [hall] at hmem
    have hunreserved := (htail segment List.mem_cons_self).unreserved u hu
    rw [List.eq_of_mem_replicate hmem] at hunreserved
    exact absurd hunreserved (by decide)
  by_cases hclean : clean server = cleanFront server
  · obtain ⟨before, n, hpath, hleads⟩ := leadsOn_of_kept hread hhttp hmarked hclean
    obtain ⟨target, htarget, hsite, htargetPath⟩ := hleads tail hne htail
    obtain ⟨joined, hjoined, -, hjoinedPath⟩ := hleads [[]] (by simp) (by simp [isSegment_nil])
    have hslash : pathText (.segments [[]]) = [unit '/'] := rfl
    rw [hslash] at hjoined
    refine ⟨target, htarget, hsite, ?_⟩
    rw [htargetPath, hpath, pathText_append, List.append_left_inj, pathText_append,
      pathText_replicate, stripSlashes_append, eq_comm, stripSlashes_eq_self_iff,
      ← slashes_suffix_iff, ← hslash, ← pathText_append, ← hjoinedPath]
    refine ⟨fun hsingle => ⟨hclean, hmarked, fun other hother => ?_⟩,
      fun hjoins => hjoins.single joined hjoined⟩
    rw [hjoined] at hother
    exact Option.some.inj hother ▸ hsingle
  · obtain ⟨before, hprefix, hleads⟩ :=
      leadsOn_of_dropped hread hhttp hmarked hclean (hcloses.resolve_left hclean)
    obtain ⟨target, htarget, hsite, htargetPath⟩ := hleads tail hne htail
    refine ⟨target, htarget, hsite, iff_of_false (fun heq => ?_) fun hjoins => hclean hjoins.kept⟩
    rw [htargetPath, pathText_append] at heq
    apply hprefix
    rw [List.append_cancel_right heq]
    exact stripSlashes_isPrefix _

/-! ### Servers that are written with names -/

variable {authority : Text}

def hostText (scheme authority : Text) : Text :=
  scheme ++ ofString "://" ++ authority

/-- A host that can be written as it is, in front of a path. -/
structure IsHost (scheme authority : Text) : Prop where
  http : IsHttp scheme
  ne_nil : authority ≠ []
  visible : ∀ u ∈ authority, 0x20 < u.toNat
  unslashed : ∀ u ∈ authority, isSlash true u = false
  unmarked : ¬IsMarked authority

theorem slash_not_mem {segment : Text} (hsegment : IsSegment segment) : unit '/' ∉ segment := fun hmem =>
  absurd (hsegment.unreserved _ hmem) (by decide)

theorem not_suffix_of_not_mem {u : UInt16} (text : Text) {last : Text} (hne : last ≠ [])
    (hmem : u ∉ last) : ¬[u] <:+ text ++ last := by
  rintro ⟨before, heq⟩
  rcases List.eq_nil_or_concat last with rfl | ⟨first, v, rfl⟩
  · exact hne rfl
  · rw [List.concat_eq_append, ← List.append_assoc] at heq
    obtain ⟨-, hlast⟩ := List.append_inj' heq rfl
    rw [List.concat_eq_append, ← hlast] at hmem
    exact hmem (by simp)

theorem not_slash_suffix (hnames : ∀ name ∈ tail, name ≠ [] ∧ IsSegment name)
    (htext : ¬[unit '/'] <:+ text) : ¬[unit '/'] <:+ text ++ pathText (.segments tail) := by
  rcases List.eq_nil_or_concat tail with rfl | ⟨first, last, rfl⟩
  · rwa [pathText, List.flatMap_nil, List.append_nil]
  · rw [List.concat_eq_append] at hnames ⊢
    obtain ⟨hne, hlast⟩ := hnames last (by simp)
    have hends : text ++ pathText (.segments (first ++ [last])) =
        text ++ pathText (.segments first) ++ [unit '/'] ++ last := by
      simp [pathText]
    rw [hends]
    exact not_suffix_of_not_mem _ hne (slash_not_mem hlast)

theorem clean_of_visible (hne : text ≠ []) (hvisible : ∀ u ∈ text, 0x20 < u.toNat) :
    clean text = text :=
  clean_append [] hne hvisible

theorem cleanFront_of_visible (hne : text ≠ []) (hvisible : ∀ u ∈ text, 0x20 < u.toNat) :
    cleanFront text = text :=
  cleanFront_append [] hne hvisible

theorem scheme?_of_isHttp (hhttp : IsHttp scheme) (rest : Text) :
    scheme? (scheme ++ unit ':' :: rest) = some (scheme, rest) := by
  rcases hhttp with rfl | rfl <;> rfl

namespace IsHost

theorem scheme?_eq (hhost : IsHost scheme authority) (more : Text) :
    scheme? (hostText scheme authority ++ more) =
      some (scheme, ofString "//" ++ authority ++ more) := by
  have hcolon : ofString "://" = unit ':' :: ofString "//" := by decide
  rw [hostText, hcolon, List.append_assoc, List.append_assoc, List.cons_append,
    scheme?_of_isHttp hhost.http, List.append_assoc]

theorem ne_nil_append (hhost : IsHost scheme authority) (more : Text) :
    hostText scheme authority ++ more ≠ [] := by
  simp [hostText, hhost.ne_nil]

theorem visible_append (hhost : IsHost scheme authority) (htail : ∀ segment ∈ tail, IsSegment segment) :
    ∀ u ∈ hostText scheme authority ++ pathText (.segments tail), 0x20 < u.toNat := by
  have hfront : ((scheme ++ ofString "://").all fun u => 0x20 < u.toNat) = true := by
    rcases hhost.http with rfl | rfl <;> decide
  intro u hu
  rcases List.mem_append.mp hu with hu | hu
  · rcases List.mem_append.mp hu with hu | hu
    · exact of_decide_eq_true (List.all_eq_true.mp hfront u hu)
    · exact hhost.visible u hu
  · rcases of_mem_pathText htail hu with rfl | hunreserved
    · decide
    · exact (of_isUnreserved hunreserved).1

theorem not_isMarked (hhost : IsHost scheme authority) : ¬IsMarked (ofString "//" ++ authority) := by
  have hslashes : ¬IsMarked (ofString "//") := by
    unfold IsMarked
    decide
  rw [isMarked_append, not_or]
  exact ⟨hslashes, hhost.unmarked⟩

theorem not_isMarked_append (hhost : IsHost scheme authority)
    (htail : ∀ segment ∈ tail, IsSegment segment) :
    ¬IsMarked (hostText scheme authority ++ pathText (.segments tail)) := by
  rw [isMarked_iff_of_scheme? (hhost.scheme?_eq _), isMarked_append, not_or]
  exact ⟨hhost.not_isMarked, not_isMarked_pathText htail⟩

theorem dropWhile_eq (hhost : IsHost scheme authority) :
    (ofString "//" ++ authority).dropWhile (isSlash true) = authority := by
  have hslashes : (ofString "//").all (isSlash true) = true := by decide
  obtain ⟨first, rest, hfirst⟩ := List.exists_cons_of_ne_nil hhost.ne_nil
  have hname := hhost.unslashed first (by simp [hfirst])
  rw [List.dropWhile_append_of_pos (List.all_eq_true.mp hslashes), hfirst, List.dropWhile_cons, hname]
  rfl

theorem pathBehind_eq (hhost : IsHost scheme authority) (hne : tail ≠ [])
    (htail : ∀ segment ∈ tail, IsSegment segment) :
    pathBehind (ofString "//" ++ authority ++ pathText (.segments tail)) = pathText (.segments tail) := by
  have hnothing : pathBehind (ofString "//" ++ authority) = [] := by
    rw [pathBehind, bodyOf_of_not_isMarked hhost.not_isMarked, hhost.dropWhile_eq,
      ← List.append_nil authority, List.dropWhile_append_of_pos fun u hu => by
        simp [hhost.unslashed u hu]]
    rfl
  have hslashes : (ofString "//" ++ authority).dropWhile (isSlash true) ≠ [] := by
    rw [hhost.dropWhile_eq]
    exact hhost.ne_nil
  rw [(parts_append_pathText hhost.not_isMarked hslashes hne htail).2, hnothing, List.nil_append]

/-- A path that is written behind a host is the path that is read. -/
theorem path_eq (hhost : IsHost scheme authority) (hne : tail ≠ [])
    (htail : ∀ segment ∈ tail, IsSegment segment)
    (hread : parse? (hostText scheme authority ++ pathText (.segments tail)) = some read) :
    read.path = .segments tail := by
  have hscheme : scheme? (clean (hostText scheme authority ++ pathText (.segments tail))) =
      some (scheme, ofString "//" ++ authority ++ pathText (.segments tail)) := by
    rw [clean_of_visible (hhost.ne_nil_append _) (hhost.visible_append htail), hhost.scheme?_eq]
  calc
    read.path = .segments (pathOf scheme
        (pathBehind (ofString "//" ++ authority ++ pathText (.segments tail)))) :=
      (exists_of_authorityOf hhost.http hscheme hscheme rfl hread).1
    _ = .segments (pathOf scheme (pathText (.segments tail))) := by
      rw [hhost.pathBehind_eq hne htail]
    _ = .segments tail := congrArg Path.segments
      (pathOf_append hhost.http.isSpecial hhost.http.ne_file isPath_nil hne htail)

end IsHost

/-- **A server that is written with names joins**, whatever slashes stand at its end. -/
theorem joins_of_isHost (hhost : IsHost scheme authority) {names : List Text}
    (hnames : ∀ name ∈ names, name ≠ [] ∧ IsSegment name) (n : Nat) :
    Joins (hostText scheme authority ++ pathText (.segments names) ++ List.replicate n (unit '/')) := by
  have hnone : unit '/' ∉ authority := fun hmem => absurd (hhost.unslashed _ hmem) (by decide)
  have hsegments : ∀ name ∈ names, IsSegment name := fun name hname => (hnames name hname).2
  have hslashed : ∀ segment ∈ names ++ List.replicate n [], IsSegment segment :=
    List.forall_mem_append.mpr
      ⟨hsegments, fun segment hmem => List.eq_of_mem_replicate hmem ▸ isSegment_nil⟩
  have hends : ∀ segment ∈ names ++ [[]], IsSegment segment :=
    List.forall_mem_append.mpr ⟨hsegments, List.forall_mem_singleton.mpr isSegment_nil⟩
  have hserver : hostText scheme authority ++ pathText (.segments names) ++
      List.replicate n (unit '/') =
        hostText scheme authority ++ pathText (.segments (names ++ List.replicate n [])) := by
    rw [pathText_append, pathText_replicate, List.append_assoc]
  have hstripped : stripSlashes (hostText scheme authority ++ pathText (.segments names)) =
      hostText scheme authority ++ pathText (.segments names) :=
    (stripSlashes_eq_self_iff _).mpr
      (not_slash_suffix hnames (not_suffix_of_not_mem _ hhost.ne_nil hnone))
  refine ⟨?_, ?_, fun joined hjoined => ?_⟩
  · rw [hserver, clean_of_visible (hhost.ne_nil_append _) (hhost.visible_append hslashed),
      cleanFront_of_visible (hhost.ne_nil_append _) (hhost.visible_append hslashed)]
  · rw [hserver]
    exact hhost.not_isMarked_append hslashed
  · have hslash : pathText (.segments [[]]) = [unit '/'] := rfl
    have hnil : ¬[unit '/'] <:+ ([] : Text) := by simp
    rw [stripSlashes_append, hstripped, ← hslash, List.append_assoc, ← pathText_append] at hjoined
    rw [hhost.path_eq (by simp) hends hjoined, pathText_append, hslash, slashes_suffix_iff]
    exact not_slash_suffix hnames hnil

end ResourceWatch.Url
