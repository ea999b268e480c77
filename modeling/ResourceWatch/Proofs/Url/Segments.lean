import Mathlib.Data.List.Basic
import ResourceWatch.Proofs.Framing
import ResourceWatch.Proofs.Url.Appending

/-!
# Segments behind a path

Segments of unreserved characters that are appended to a path stand at the end of its normal form as
they are. What is in front of them leads to the same place whatever they are, also where dots are
taken for names.
-/

namespace ResourceWatch.Url

open Text

variable {scheme : Text}

/-! ### Segments that stay as they are -/

/-- A character that is never escaped. -/
def isUnreserved (u : UInt16) : Bool :=
  isLetter u || isDigit u || u = unit '-' || u = unit '.' || u = unit '_' || u = unit '~'

/-- A segment of such characters, which may be empty but leads to no other directory. -/
structure IsSegment (segment : Text) : Prop where
  unreserved : ∀ u ∈ segment, isUnreserved u = true
  ne_dot : segment ≠ "."
  ne_dots : segment ≠ ".."

/-- A segment that a walk appends as it is. -/
structure IsStill (segment : Text) : Prop where
  notDouble : isDoubleDot segment = false
  notSingle : isSingleDot segment = false
  encode : Percent.encode Percent.path segment = segment

theorem isUnreserved_lt {u : UInt16} (hu : isUnreserved u = true) : u.toNat < 0x7F := by
  simp only [isUnreserved, isLetter, isLower, isUpper, isDigit, Bool.or_eq_true, Bool.and_eq_true,
    decide_eq_true_eq, UInt16.le_iff_toNat_le] at hu
  rcases hu with ((((hletter | hdigit) | rfl) | rfl) | rfl) | rfl
  · simp at hletter
    omega
  · simp at hdigit
    omega
  all_goals decide

theorem of_isUnreserved {u : UInt16} (hu : isUnreserved u = true) :
    0x20 < u.toNat ∧ (Percent.path u.toNat || Percent.among "%\\" u.toNat) = false ∧
      isSlash true u = false ∧ u ≠ unit '?' ∧ u ≠ unit '#' := by
  have hall : ∀ n < 0x7F, isUnreserved n.toUInt16 = true →
      0x20 < n ∧ (Percent.path n || Percent.among "%\\" n) = false ∧
        isSlash true n.toUInt16 = false ∧ n.toUInt16 ≠ unit '?' ∧ n.toUInt16 ≠ unit '#' := by
    decide +kernel
  have hunit : u.toNat.toUInt16 = u := by simp
  have hfound := hall u.toNat (isUnreserved_lt hu) (hunit.symm ▸ hu)
  rwa [hunit] at hfound

theorem plainDots_of_not_mem {segment : Text} (hmem : unit '%' ∉ segment) :
    plainDots segment = segment := by
  fun_induction plainDots segment with
  | case1 u two mark rest hdot ih =>
      rw [Bool.and_eq_true, Bool.and_eq_true, decide_eq_true_eq] at hdot
      exact absurd (hdot.1.1 ▸ List.mem_cons_self) hmem
  | case2 u two mark rest hdot ih => rw [ih fun hrest => hmem (List.mem_cons_of_mem _ hrest)]
  | case3 short hshort => rfl

theorem IsSegment.isStill {segment : Text} (hsegment : IsSegment segment) : IsStill segment := by
  have hdots : plainDots segment = segment := plainDots_of_not_mem fun hmem =>
    absurd (of_isUnreserved (hsegment.unreserved _ hmem)).2.1 (by decide)
  refine ⟨?_, ?_, Percent.encode_eq_self fun u hu => ?_⟩
  · rw [isDoubleDot, hdots]
    exact decide_eq_false hsegment.ne_dots
  · rw [isSingleDot, hdots]
    exact decide_eq_false hsegment.ne_dot
  · have hlt := isUnreserved_lt (hsegment.unreserved u hu)
    have hkept := (of_isUnreserved (hsegment.unreserved u hu)).2.1
    exact ⟨by omega, (Bool.or_eq_false_iff.mp hkept).1⟩

theorem isSegment_nil : IsSegment [] where
  unreserved := by simp
  ne_dot := by decide
  ne_dots := by decide

/-! ### Splitting -/

theorem splitPath_ne_nil (special : Bool) (text : Text) : splitPath special text ≠ [] := by
  fun_induction splitPath special text <;> simp

theorem split_eq_splitPath (text : Text) : split (unit '/') text = splitPath false text := by
  induction text with
  | nil => rfl
  | cons u rest ih =>
      obtain ⟨first, others, hrest⟩ := List.exists_cons_of_ne_nil (splitPath_ne_nil false rest)
      by_cases hu : u = unit '/' <;> simp [split, splitPath, isSlash, hu, ih, hrest]

theorem splitPath_append_slash (special : Bool) (first second : Text) :
    splitPath special (first ++ unit '/' :: second) =
      splitPath special first ++ splitPath special second := by
  have hslash : isSlash special (unit '/') = true := by cases special <;> decide
  induction first with
  | nil => simp [splitPath, hslash]
  | cons u rest ih =>
      rw [List.cons_append, splitPath, splitPath, ih]
      split
      · rfl
      · rcases hrest : splitPath special rest with _ | ⟨segment, others⟩
        · exact absurd hrest (splitPath_ne_nil special rest)
        · rfl

theorem splitPath_of_not_slash {special : Bool} {segment : Text}
    (hsegment : ∀ u ∈ segment, isSlash special u = false) : splitPath special segment = [segment] := by
  induction segment with
  | nil => rfl
  | cons u rest ih =>
      obtain ⟨hu, hrest⟩ := List.forall_mem_cons.mp hsegment
      rw [splitPath, ih hrest, hu]
      rfl

theorem isSlash_of_true {special : Bool} {u : UInt16} (hu : isSlash true u = false) :
    isSlash special u = false := by
  cases special with
  | false =>
      rw [isSlash, Bool.or_eq_false_iff] at hu ⊢
      exact ⟨hu.1, rfl⟩
  | true => exact hu

variable {tail : List Text}

theorem of_mem_pathText (htail : ∀ segment ∈ tail, IsSegment segment) {u : UInt16}
    (hu : u ∈ pathText (.segments tail)) : u = unit '/' ∨ isUnreserved u = true := by
  obtain ⟨segment, hsegment, hu⟩ := List.mem_flatMap.mp hu
  rcases List.mem_cons.mp hu with rfl | hu
  · exact .inl rfl
  · exact .inr ((htail segment hsegment).unreserved u hu)

theorem splitPath_append_pathText (special : Bool) (text : Text)
    (htail : ∀ segment ∈ tail, IsSegment segment) :
    splitPath special (text ++ pathText (.segments tail)) = splitPath special text ++ tail := by
  induction tail generalizing text with
  | nil => simp [pathText]
  | cons segment rest ih =>
      obtain ⟨hsegment, hrest⟩ := List.forall_mem_cons.mp htail
      have hwhole : splitPath special segment = [segment] :=
        splitPath_of_not_slash fun u hu =>
          isSlash_of_true (of_isUnreserved (hsegment.unreserved u hu)).2.2.1
      calc
        splitPath special (text ++ pathText (.segments (segment :: rest))) =
            splitPath special (text ++ unit '/' :: (segment ++ pathText (.segments rest))) := rfl
        _ = splitPath special text ++ segment :: rest := by
          rw [splitPath_append_slash, ih segment hrest, hwhole, List.singleton_append]

/-! ### Walking -/

/-- The path that segments lead to when others stand behind them. -/
def reach (path : List Text) : List Text → List Text
  | [] => path
  | segment :: rest =>
    if isDoubleDot segment then reach path.dropLast rest
    else if isSingleDot segment then reach path rest
    else reach (path ++ [Percent.encode Percent.path segment]) rest

theorem shorten_false (path : List Text) : shorten false path = path.dropLast := by
  unfold shorten
  split <;> simp

/-- A walk outside a file system knows no drives. -/
theorem walk_cons (hfile : scheme ≠ "file") (path : List Text) (segment : Text) (rest : List Text) :
    walk scheme path (segment :: rest) =
      if isDoubleDot segment then
        walk scheme
          (if rest.isEmpty && (isSpecial scheme || !path.isEmpty) then path.dropLast ++ [[]]
          else path.dropLast) rest
      else if isSingleDot segment then walk scheme (if rest.isEmpty then path ++ [[]] else path) rest
      else walk scheme (path ++ [Percent.encode Percent.path segment]) rest := by
  rw [walk.eq_def]
  simp only [hfile, decide_false, shorten_false, Bool.false_and, Bool.false_eq_true, if_false]
  split
  · rfl
  split
  · rfl
  · split <;> rfl

theorem walk_append (hfile : scheme ≠ "file") (path first : List Text) {second : List Text}
    (hne : second ≠ []) : walk scheme path (first ++ second) = walk scheme (reach path first) second := by
  induction first generalizing path with
  | nil => rfl
  | cons segment rest ih =>
      have hempty : (rest ++ second).isEmpty = false := by simp [hne]
      rw [List.cons_append, walk_cons hfile, reach, hempty]
      split
      · exact ih _
      split
      · exact ih _
      · exact ih _

theorem walk_of_isStill (hfile : scheme ≠ "file") (path : List Text)
    (htail : ∀ segment ∈ tail, IsStill segment) : walk scheme path tail = path ++ tail := by
  induction tail generalizing path with
  | nil => rw [walk, List.append_nil]
  | cons segment rest ih =>
      obtain ⟨hsegment, hrest⟩ := List.forall_mem_cons.mp htail
      rw [walk_cons hfile, hsegment.notDouble, hsegment.notSingle, hsegment.encode]
      simp [ih _ hrest]

theorem reach_of_isStill (path : List Text) (htail : ∀ segment ∈ tail, IsStill segment) :
    reach path tail = path ++ tail := by
  induction tail generalizing path with
  | nil => rw [reach, List.append_nil]
  | cons segment rest ih =>
      obtain ⟨hsegment, hrest⟩ := List.forall_mem_cons.mp htail
      rw [reach, hsegment.notDouble, hsegment.notSingle, hsegment.encode]
      simp [ih _ hrest]

/-- Where a walk ends, a slash may be put behind the path. -/
theorem walk_eq_reach (hfile : scheme ≠ "file") (path segments : List Text) :
    ∃ n, walk scheme path segments = reach path segments ++ List.replicate n [] := by
  induction segments generalizing path with
  | nil => exact ⟨0, by simp [walk, reach]⟩
  | cons segment rest ih =>
      cases rest with
      | nil =>
          rw [walk_cons hfile]
          simp only [reach, walk]
          split
          · split
            · exact ⟨1, rfl⟩
            · exact ⟨0, (List.append_nil _).symm⟩
          split
          · exact ⟨1, rfl⟩
          · exact ⟨0, (List.append_nil _).symm⟩
      | cons next others =>
          rw [walk_cons hfile, reach]
          split
          · exact ih _
          split
          · exact ih _
          · exact ih _

/-! ### Dots that are taken for names -/

/-- Whether nothing in a path is escaped, and no dot is in front. -/
def isSimple (text : Text) : Bool :=
  !(text.codePoints.any fun point => Percent.path point || Percent.among "%\\" point) &&
    !Text.startsWith (text.takeWhile (· ≠ unit '/')) "."

/-- Whether the first of the segments that begin with a dot is a name. -/
def areNames (segments : List Text) : Bool :=
  (dotted? segments).any fun name => !name.isEmpty && !Text.startsWith name "."

theorem isPlain_eq (hfile : scheme ≠ "file") (text : Text) :
    isPlain scheme text = (isSimple text && areNames (splitPath false text)) := by
  simp [isPlain, isSimple, areNames, hfile, split_eq_splitPath]

/-- The segments that a path leads to when others stand behind it. -/
def base (scheme text : Text) : List Text :=
  if isPlain scheme text then splitPath false text else reach [] (splitPath (isSpecial scheme) text)

theorem isSimple_append_pathText (text : Text) (hne : tail ≠ [])
    (htail : ∀ segment ∈ tail, IsSegment segment) :
    isSimple (text ++ pathText (.segments tail)) = isSimple text := by
  obtain ⟨segment, rest, rfl⟩ := List.exists_cons_of_ne_nil hne
  have hlow : ∀ u ∈ pathText (.segments (segment :: rest)), u.toNat < 0xD800 := by
    intro u hu
    rcases of_mem_pathText htail hu with rfl | hunreserved
    · decide
    · have hlt := isUnreserved_lt hunreserved
      omega
  have hnone : (pathText (.segments (segment :: rest))).codePoints.any
      (fun point => Percent.path point || Percent.among "%\\" point) = false := by
    rw [codePoints_of_lt hlow, List.any_eq_false]
    intro point hpoint
    obtain ⟨u, hu, rfl⟩ := List.mem_map.mp hpoint
    rw [Bool.not_eq_true]
    rcases of_mem_pathText htail hu with rfl | hunreserved
    · decide
    · exact (of_isUnreserved hunreserved).2.1
  have hfirst : (text ++ pathText (.segments (segment :: rest))).takeWhile (· ≠ unit '/') =
      text.takeWhile (· ≠ unit '/') :=
    takeWhile_append_cons (by simp) text (segment ++ pathText (.segments rest))
  have hhead : ∀ u ∈ (pathText (.segments (segment :: rest))).head?, isLowSurrogate u = false := by
    intro u hu
    obtain rfl := Option.some.inj hu
    decide
  rw [isSimple, isSimple, codePoints_append text hhead, List.any_append, hnone, Bool.or_false, hfirst]

/-- A text without long code points has short units only. -/
theorem exists_mem_codePoints {text : Text} {u : UInt16} (hu : u ∈ text) :
    ∃ point ∈ text.codePoints, point = u.toNat ∨ 0xFFFD ≤ point := by
  have hreplaced : replacement = u.toNat ∨ 0xFFFD ≤ replacement := .inr (by decide)
  fun_induction codePoints text with
  | case1 => simp at hu
  | case2 high hhigh low rest hlow ih =>
      have hpair : 0xFFFD ≤ pairPoint high low := by
        unfold pairPoint
        omega
      rcases List.mem_cons.mp hu with rfl | hu
      · exact List.exists_mem_cons_of _ (.inr hpair)
      rcases List.mem_cons.mp hu with rfl | hu
      · exact List.exists_mem_cons_of _ (.inr hpair)
      · exact List.exists_mem_cons_of_exists (ih hu)
  | case3 high hhigh low rest hlow ih =>
      rcases List.mem_cons.mp hu with rfl | hu
      · exact List.exists_mem_cons_of _ hreplaced
      · exact List.exists_mem_cons_of_exists (ih hu)
  | case4 high hhigh => exact List.exists_mem_cons_of _ hreplaced
  | case5 high rest hhigh hlow ih =>
      rcases List.mem_cons.mp hu with rfl | hu
      · exact List.exists_mem_cons_of _ hreplaced
      · exact List.exists_mem_cons_of_exists (ih hu)
  | case6 high rest hhigh hlow ih =>
      rcases List.mem_cons.mp hu with rfl | hu
      · exact List.exists_mem_cons_of _ (.inl rfl)
      · exact List.exists_mem_cons_of_exists (ih hu)

theorem of_isSimple {text : Text} (hsimple : isSimple text = true) {u : UInt16} (hu : u ∈ text) :
    u.toNat < 0x7F ∧ (Percent.path u.toNat || Percent.among "%\\" u.toNat) = false := by
  rw [isSimple, Bool.and_eq_true, Bool.not_eq_true', List.any_eq_false] at hsimple
  obtain ⟨point, hpoint, hvalue⟩ := exists_mem_codePoints hu
  have hkept := (Bool.not_eq_true _).mp (hsimple.1 point hpoint)
  have hlt : point < 0x7F := by
    apply Nat.lt_of_not_le
    intro hge
    simp only [Percent.path, Percent.query, Percent.control, Bool.or_eq_false_iff,
      decide_eq_false_iff_not] at hkept
    omega
  obtain rfl : point = u.toNat := by omega
  exact ⟨hlt, hkept⟩

theorem mem_of_mem_splitPath {special : Bool} {text segment : Text} {u : UInt16}
    (hsegment : segment ∈ splitPath special text) (hu : u ∈ segment) : u ∈ text := by
  fun_induction splitPath special text generalizing segment with
  | case1 =>
      rw [List.mem_singleton.mp hsegment] at hu
      exact hu
  | case2 first rest hslash ih =>
      rcases List.mem_cons.mp hsegment with rfl | hsegment
      · cases hu
      · exact List.mem_cons_of_mem _ (ih hsegment hu)
  | case3 first rest hslash next others hsplit ih =>
      rw [hsplit] at ih
      rcases List.mem_cons.mp hsegment with rfl | hsegment
      · rcases List.mem_cons.mp hu with rfl | hu
        · exact List.mem_cons_self
        · exact List.mem_cons_of_mem _ (ih List.mem_cons_self hu)
      · exact List.mem_cons_of_mem _ (ih (List.mem_cons_of_mem _ hsegment) hu)
  | case4 first rest hslash hsplit ih => exact absurd hsplit (splitPath_ne_nil _ _)

theorem splitPath_of_isSimple {text : Text} (hsimple : isSimple text = true) (special : Bool) :
    splitPath special text = splitPath false text := by
  have hunits : ∀ u ∈ text, isSlash special u = isSlash false u := by
    intro u hu
    have hback : u ≠ unit '\\' := by
      rintro rfl
      exact absurd (of_isSimple hsimple hu).2 (by decide)
    simp [isSlash, hback]
  clear hsimple
  induction text with
  | nil => rfl
  | cons u rest ih =>
      obtain ⟨hu, hrest⟩ := List.forall_mem_cons.mp hunits
      rw [splitPath, splitPath, hu, ih hrest]

theorem head?_splitPath (text : Text) :
    (splitPath false text).head? = some (text.takeWhile (· ≠ unit '/')) := by
  induction text with
  | nil => rfl
  | cons u rest ih =>
      obtain ⟨first, others, hrest⟩ := List.exists_cons_of_ne_nil (splitPath_ne_nil false rest)
      rw [hrest, List.head?_cons, Option.some.injEq] at ih
      by_cases hu : u = unit '/' <;> simp [splitPath, isSlash, hu, hrest, ih]

/-- Where no segment begins with a dot, all of them are appended as they are. -/
theorem isStill_of_isSimple {text : Text} (hsimple : isSimple text = true)
    (hdotted : dotted? (splitPath false text) = none) :
    ∀ segment ∈ splitPath false text, IsStill segment := by
  obtain ⟨first, others, hsplit⟩ := List.exists_cons_of_ne_nil (splitPath_ne_nil false text)
  have hfirst := head?_splitPath text
  rw [hsplit, List.head?_cons, Option.some.injEq] at hfirst
  rw [hsplit, dotted?, List.tail_cons, List.findSome?_eq_none_iff] at hdotted
  have hhead : Text.startsWith first "." = false := by
    rw [isSimple, Bool.and_eq_true, Bool.not_eq_true'] at hsimple
    rw [hfirst]
    simpa using hsimple.2
  intro segment hsegment
  have hunits (u : UInt16) (hu : u ∈ segment) := of_isSimple hsimple (mem_of_mem_splitPath hsegment hu)
  have hdots : plainDots segment = segment := plainDots_of_not_mem fun hmem =>
    absurd (hunits _ hmem).2 (by decide)
  have hname : segment ≠ "." ∧ segment ≠ ".." := by
    rw [hsplit] at hsegment
    rcases List.mem_cons.mp hsegment with rfl | hsegment
    · constructor <;> rintro rfl <;> exact absurd hhead (by decide)
    · have hafter := hdotted segment hsegment
      constructor <;> rintro rfl <;> exact absurd hafter (by decide)
  refine ⟨?_, ?_, Percent.encode_eq_self fun u hu => ?_⟩
  · rw [isDoubleDot, hdots]
    exact decide_eq_false hname.2
  · rw [isSingleDot, hdots]
    exact decide_eq_false hname.1
  · obtain ⟨hlt, hkept⟩ := hunits u hu
    exact ⟨by omega, (Bool.or_eq_false_iff.mp hkept).1⟩

theorem dotted?_append {segments : List Text} (hne : segments ≠ []) (others : List Text) :
    dotted? (segments ++ others) = (dotted? segments).or (others.findSome? (after? ".")) := by
  obtain ⟨first, rest, rfl⟩ := List.exists_cons_of_ne_nil hne
  exact List.findSome?_append

/-! ### Paths -/

/-- The segments that a path leads to. -/
def walked (scheme text : Text) : List Text :=
  if isPlain scheme text then splitPath false text else walk scheme [] (splitPath (isSpecial scheme) text)

theorem pathOf_cons {first : UInt16} (hfirst : isSlash (isSpecial scheme) first = true) (rest : Text) :
    pathOf scheme (first :: rest) = walked scheme rest := by
  simp only [pathOf, hfirst, if_true, walked, split_eq_splitPath]

/-- **Segments behind a path stand at the end of it as they are.** -/
theorem walked_append (hfile : scheme ≠ "file") (text : Text) (hne : tail ≠ [])
    (htail : ∀ segment ∈ tail, IsSegment segment) :
    walked scheme (text ++ pathText (.segments tail)) = base scheme text ++ tail := by
  have hstill : ∀ segment ∈ tail, IsStill segment := fun segment hmem => (htail segment hmem).isStill
  have hsplit (special : Bool) := splitPath_append_pathText special text htail
  have hwalk : walk scheme [] (splitPath (isSpecial scheme) text ++ tail) =
      reach [] (splitPath (isSpecial scheme) text) ++ tail := by
    rw [walk_append hfile _ _ hne, walk_of_isStill hfile _ hstill]
  rw [walked, hsplit, hsplit, hwalk]
  by_cases hdots : isSimple text = true ∧ dotted? (splitPath false text) = none
  · -- Nothing in the text is a dot, so that it is the same whether dots are names.
    have hplain : isPlain scheme text = false := by
      rw [isPlain_eq hfile, areNames, hdots.2, Option.any_none, Bool.and_false]
    have hsame : reach [] (splitPath (isSpecial scheme) text) = splitPath false text := by
      rw [splitPath_of_isSimple hdots.1, reach_of_isStill _ (isStill_of_isSimple hdots.1 hdots.2),
        List.nil_append]
    rw [base, hplain, hsame]
    split <;> rfl
  · have hplain : isPlain scheme (text ++ pathText (.segments tail)) = isPlain scheme text := by
      rw [isPlain_eq hfile, isPlain_eq hfile, isSimple_append_pathText text hne htail, hsplit]
      by_cases hsimple : isSimple text = true
      · obtain ⟨name, hname⟩ := Option.ne_none_iff_exists'.mp fun hnone => hdots ⟨hsimple, hnone⟩
        rw [areNames, areNames, dotted?_append (splitPath_ne_nil false text), hname, Option.some_or]
      · rw [(Bool.not_eq_true _).mp hsimple, Bool.false_and, Bool.false_and]
    rw [hplain, base]
    split <;> rfl

theorem walked_eq_base (hfile : scheme ≠ "file") (text : Text) :
    ∃ n, walked scheme text = base scheme text ++ List.replicate n [] := by
  rw [walked, base]
  split
  · exact ⟨0, (List.append_nil _).symm⟩
  · exact walk_eq_reach hfile _ _

/-- The segments that the path of a URL leads to when others stand behind it. -/
def stem (scheme : Text) : Text → List Text
  | [] => []
  | _ :: rest => base scheme rest

/-- A path begins with a slash. -/
def IsPath (text : Text) : Prop :=
  ∀ u ∈ text.head?, isSlash true u = true

/-- **What stands behind the path of a URL is the end of the path in its normal form.** -/
theorem pathOf_append (hspecial : isSpecial scheme = true) (hfile : scheme ≠ "file") {text : Text}
    (htext : IsPath text) (hne : tail ≠ []) (htail : ∀ segment ∈ tail, IsSegment segment) :
    pathOf scheme (text ++ pathText (.segments tail)) = stem scheme text ++ tail := by
  cases text with
  | nil =>
      obtain ⟨segment, rest, rfl⟩ := List.exists_cons_of_ne_nil hne
      obtain ⟨hsegment, hrest⟩ := List.forall_mem_cons.mp htail
      have hstill : ∀ other ∈ segment :: rest, IsStill other :=
        fun other hmem => (htail other hmem).isStill
      have hsplit (special : Bool) :
          splitPath special (segment ++ pathText (.segments rest)) = segment :: rest := by
        rw [splitPath_append_pathText _ _ hrest, splitPath_of_not_slash fun u hu =>
          isSlash_of_true (of_isUnreserved (hsegment.unreserved u hu)).2.2.1]
        rfl
      have hslash : isSlash (isSpecial scheme) (unit '/') = true := by
        rw [hspecial]
        decide
      calc
        pathOf scheme (pathText (.segments (segment :: rest))) =
            walked scheme (segment ++ pathText (.segments rest)) := pathOf_cons hslash _
        _ = segment :: rest := by
          rw [walked, hsplit, hsplit, walk_of_isStill hfile _ hstill, List.nil_append, ite_self]
  | cons first rest =>
      have hslash : isSlash (isSpecial scheme) first = true := by
        rw [hspecial]
        exact htext first rfl
      rw [List.cons_append, pathOf_cons hslash]
      exact walked_append hfile rest hne htail

theorem pathOf_eq_stem (hspecial : isSpecial scheme = true) (hfile : scheme ≠ "file") {text : Text}
    (htext : IsPath text) : ∃ n, pathOf scheme text = stem scheme text ++ List.replicate n [] := by
  cases text with
  | nil => exact ⟨1, by simp [pathOf, hspecial, stem]⟩
  | cons first rest =>
      have hslash : isSlash (isSpecial scheme) first = true := by
        rw [hspecial]
        exact htext first rfl
      rw [pathOf_cons hslash]
      exact walked_eq_base hfile rest

/-! ### Blanks behind a path -/

theorem reach_append (path first second : List Text) :
    reach path (first ++ second) = reach (reach path first) second := by
  fun_induction reach path first with
  | case1 => rfl
  | case2 path segment rest hdouble ih => rw [List.cons_append, reach, if_pos hdouble, ih]
  | case3 path segment rest hdouble hsingle ih =>
      rw [List.cons_append, reach, if_neg hdouble, if_pos hsingle, ih]
  | case4 path segment rest hdouble hsingle ih =>
      rw [List.cons_append, reach, if_neg hdouble, if_neg hsingle, ih]

/-- Only the units that a dot can be written out with are ever replaced. -/
theorem mem_plainDots {u : UInt16} (hu : u ∉ [unit '%', unit '2', unit 'e', unit 'E'])
    {segment : Text} (hmem : u ∈ segment) : u ∈ plainDots segment := by
  fun_induction plainDots segment with
  | case1 first two mark rest hdot ih =>
      have hrest : u ∈ rest := by
        simp only [Bool.and_eq_true, Bool.or_eq_true, decide_eq_true_eq] at hdot
        obtain ⟨⟨rfl, rfl⟩, rfl | rfl⟩ := hdot <;> simp_all
      exact List.mem_cons_of_mem _ (ih hrest)
  | case2 first two mark rest hdot ih =>
      rcases List.mem_cons.mp hmem with rfl | hmem
      · exact List.mem_cons_self
      · exact List.mem_cons_of_mem _ (ih hmem)
  | case3 short hshort => exact hmem

theorem splitPath_append_of_not_slash (special : Bool) (text : Text) {blanks : Text}
    (hblanks : ∀ u ∈ blanks, isSlash special u = false) :
    ∃ first last, splitPath special text = first ++ [last] ∧
      splitPath special (text ++ blanks) = first ++ [last ++ blanks] := by
  induction text with
  | nil => exact ⟨[], [], rfl, splitPath_of_not_slash hblanks⟩
  | cons u rest ih =>
      obtain ⟨first, last, hrest, hwhole⟩ := ih
      rw [List.cons_append, splitPath, splitPath, hrest, hwhole]
      split
      · exact ⟨[] :: first, last, rfl, rfl⟩
      · cases first with
        | nil => exact ⟨[], u :: last, rfl, rfl⟩
        | cons next others => exact ⟨(u :: next) :: others, last, rfl, rfl⟩

theorem pathText_splitPath (text : Text) :
    pathText (.segments (splitPath false text)) = unit '/' :: text := by
  induction text with
  | nil => rfl
  | cons u rest ih =>
      obtain ⟨first, others, hrest⟩ := List.exists_cons_of_ne_nil (splitPath_ne_nil false rest)
      by_cases hu : u = unit '/'
      · simpa [splitPath, isSlash, hu, pathText] using ih
      · rw [hrest] at ih
        simpa [splitPath, isSlash, hu, hrest, pathText] using ih

theorem pathText_append (first second : List Text) :
    pathText (.segments (first ++ second)) =
      pathText (.segments first) ++ pathText (.segments second) :=
  List.flatMap_append

theorem pathText_replicate (n : Nat) :
    pathText (.segments (List.replicate n [])) = List.replicate n (unit '/') := by
  induction n with
  | zero => rfl
  | succ n ih => rw [List.replicate_succ, List.replicate_succ, ← ih, pathText, pathText, List.flatMap_cons]; rfl

/-- A walk ends with its last segment at the most. -/
theorem length_walk_singleton (hfile : scheme ≠ "file") (path : List Text) (segment : Text) :
    (pathText (.segments (walk scheme path [segment]))).length ≤
      (pathText (.segments path)).length + 1 + (Percent.encode Percent.path segment).length := by
  have hshort : (pathText (.segments path.dropLast)).length ≤ (pathText (.segments path)).length := by
    rcases List.eq_nil_or_concat path with rfl | ⟨before, last, rfl⟩
    · exact Nat.le_refl _
    · rw [List.concat_eq_append, List.dropLast_concat, pathText_append, List.length_append]
      omega
  have hslash : (pathText (.segments [[]])).length = 1 := rfl
  rw [walk_cons hfile, walk, walk, walk]
  split
  · split
    · rw [pathText_append, List.length_append, hslash]
      omega
    · omega
  split
  · rw [List.isEmpty_nil, if_pos rfl, pathText_append, List.length_append, hslash]
    omega
  · rw [pathText_append, List.length_append]
    simp [pathText]
    omega

theorem of_blank {u : UInt16} (hu : u.toNat ≤ 0x20) :
    Percent.path u.toNat = true ∧ isSlash true u = false ∧
      u ∉ [unit '%', unit '2', unit 'e', unit 'E'] ∧ u ≠ unit '.' := by
  have hall : ∀ n ≤ 0x20, Percent.path n = true ∧ isSlash true n.toUInt16 = false ∧
      n.toUInt16 ∉ [unit '%', unit '2', unit 'e', unit 'E'] ∧ n.toUInt16 ≠ unit '.' := by
    decide +kernel
  have hunit : u.toNat.toUInt16 = u := by simp
  have hfound := hall u.toNat hu
  rwa [hunit] at hfound

variable {blanks : Text}

theorem encode_append_blanks (text : Text) (hne : blanks ≠ [])
    (hblanks : ∀ u ∈ blanks, u.toNat ≤ 0x20) :
    ∃ escapes, Percent.encode Percent.path (text ++ blanks) =
      Percent.encode Percent.path text ++ unit '%' :: escapes := by
  obtain ⟨blank, more, rfl⟩ := List.exists_cons_of_ne_nil hne
  have hblank := hblanks blank List.mem_cons_self
  have hlow : ∀ u ∈ (blank :: more).head?, isLowSurrogate u = false := by
    intro u hu
    obtain rfl := Option.some.inj hu
    rw [Bool.eq_false_iff, ne_eq, isLowSurrogate_iff]
    omega
  have hpoints : codePoints (blank :: more) = blank.toNat :: codePoints more := by
    apply codePoints_cons_of_not_surrogate
    · rw [Bool.eq_false_iff, ne_eq, isHighSurrogate_iff]
      omega
    · exact hlow blank rfl
  rw [Percent.encode, codePoints_append text hlow, List.flatMap_append, hpoints, List.flatMap_cons,
    if_pos (of_blank hblank).1, Utf8.encodePoint, if_pos (by omega), List.flatMap_cons, Percent.escape]
  exact ⟨_, rfl⟩

theorem isPlain_append_blanks (hfile : scheme ≠ "file") (text : Text) (hne : blanks ≠ [])
    (hblanks : ∀ u ∈ blanks, u.toNat ≤ 0x20) : isPlain scheme (text ++ blanks) = false := by
  rw [isPlain_eq hfile, Bool.and_eq_false_iff]
  refine .inl ((Bool.not_eq_true _).mp fun hsimple => ?_)
  obtain ⟨blank, hblank⟩ := List.exists_mem_of_ne_nil _ hne
  have hkept := (of_isSimple hsimple (List.mem_append_right text hblank)).2
  rw [(of_blank (hblanks blank hblank)).1] at hkept
  cases hkept

theorem notDots_append_blanks (segment : Text) (hne : blanks ≠ [])
    (hblanks : ∀ u ∈ blanks, u.toNat ≤ 0x20) :
    isDoubleDot (segment ++ blanks) = false ∧ isSingleDot (segment ++ blanks) = false := by
  obtain ⟨blank, hblank⟩ := List.exists_mem_of_ne_nil _ hne
  obtain ⟨-, -, hmarks, hdot⟩ := of_blank (hblanks blank hblank)
  have hmem := mem_plainDots hmarks (List.mem_append_right segment hblank)
  have hnot {dots : Text} (hdots : dots.all (· = unit '.') = true) :
      plainDots (segment ++ blanks) ≠ dots := by
    rintro rfl
    exact hdot (of_decide_eq_true (List.all_eq_true.mp hdots blank hmem))
  exact ⟨decide_eq_false (hnot (by decide)), decide_eq_false (hnot (by decide))⟩

/-- **Blanks behind a path are not lost**: what follows them does not stand behind the path. -/
theorem not_isPrefix_stem (hfile : scheme ≠ "file") (hspecial : isSpecial scheme = true) {path : Text}
    (hpath : IsPath path) (hstart : path ≠ []) (hne : blanks ≠ [])
    (hblanks : ∀ u ∈ blanks, u.toNat ≤ 0x20) :
    ¬pathText (.segments (stem scheme (path ++ blanks))) <+:
      pathText (.segments (pathOf scheme path)) := by
  obtain ⟨slash, text, rfl⟩ := List.exists_cons_of_ne_nil hstart
  have hslash : isSlash (isSpecial scheme) slash = true := by
    rw [hspecial]
    exact hpath slash rfl
  obtain ⟨first, last, htext, hwhole⟩ := splitPath_append_of_not_slash (isSpecial scheme) text
    fun u hu => isSlash_of_true (of_blank (hblanks u hu)).2.1
  obtain ⟨hdouble, hsingle⟩ := notDots_append_blanks last hne hblanks
  obtain ⟨escapes, hescapes⟩ := encode_append_blanks last hne hblanks
  have hstem : pathText (.segments (stem scheme (slash :: text ++ blanks))) =
      pathText (.segments (reach [] first)) ++
        unit '/' :: (Percent.encode Percent.path last ++ unit '%' :: escapes) := by
    rw [List.cons_append, stem, base, isPlain_append_blanks hfile text hne hblanks, hwhole,
      reach_append]
    simp [reach, hdouble, hsingle, hescapes, pathText]
  rw [hstem, pathOf_cons hslash, walked]
  intro hprefix
  split at hprefix
  · -- Nothing is escaped in the path, but the first blank is.
    rename_i hplain
    rw [pathText_splitPath] at hprefix
    rw [isPlain_eq hfile, Bool.and_eq_true] at hplain
    have hmem : unit '%' ∈ unit '/' :: text := hprefix.subset (by simp)
    rcases List.mem_cons.mp hmem with heq | hmem
    · exact absurd heq (by decide)
    · exact absurd (of_isSimple hplain.1 hmem).2 (by decide)
  · have hlength := hprefix.length_le
    have hwalk := length_walk_singleton hfile (reach [] first) last
    rw [htext, walk_append hfile _ _ (by simp)] at hlength
    simp at hlength
    omega

end ResourceWatch.Url
