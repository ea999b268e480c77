import Mathlib.Data.List.TakeWhile
import ResourceWatch.Proofs.Url.Joins

/-!
# A server without the slashes at its end

A server is checked as a whole and then loses the slashes at its end, so that its text may end with
blanks that stood in front of a slash. They are not read there. A host that blanks belong to is read
without them just as well, unless they are all there is of it behind an `@`.
-/

namespace ResourceWatch

open Text

/-- Units that are dropped at the ends of a URL. -/
def Url.AreBlank (blanks : Text) : Prop :=
  ∀ u ∈ blanks, u.toNat ≤ 0x20

variable {scheme text rest blanks : Text} (hblanks : Url.AreBlank blanks)

theorem Text.of_cut_eq_some {separator : UInt16} {before after : Text}
    (hcut : cut separator text = (before, some after)) : text = before ++ separator :: after := by
  induction text generalizing before with
  | nil => cases hcut
  | cons u rest ih =>
      rw [cut] at hcut
      split at hcut
      · rename_i hu
        obtain ⟨rfl, hafter⟩ := Prod.mk.inj hcut
        rw [hu, Option.some.inj hafter]
        rfl
      · obtain ⟨rfl, hafter⟩ := Prod.mk.inj hcut
        rw [List.cons_append, ← ih (Prod.ext rfl hafter)]

/-! ### Blanks behind a host -/

namespace Percent

/-- A unit that has no part in an escape stands for itself. -/
theorem mem_decode {u : UInt16} (hu : u ∈ text) (hmark : u ≠ 0x25) (hhex : hexValue? u = none) :
    u.toUInt8 ∈ decode text := by
  fun_induction decode text with
  | case1 high low rest highValue lowValue hlow hhigh ih =>
      rcases List.mem_cons.mp hu with rfl | hu
      · exact absurd rfl hmark
      rcases List.mem_cons.mp hu with rfl | hu
      · exact nomatch hhex.symm.trans hhigh
      rcases List.mem_cons.mp hu with rfl | hu
      · exact nomatch hhex.symm.trans hlow
      · exact List.mem_cons_of_mem _ (ih hu)
  | case2 high low rest hvalues ih =>
      rcases List.mem_cons.mp hu with rfl | hu
      · exact absurd rfl hmark
      · exact List.mem_cons_of_mem _ (ih hu)
  | case3 mark high low rest hother ih =>
      rcases List.mem_cons.mp hu with rfl | hu
      · exact List.mem_cons_self
      · exact List.mem_cons_of_mem _ (ih hu)
  | case4 short hshort => exact List.mem_map_of_mem hu

end Percent

namespace Url.AreBlank

include hblanks

theorem not_mem {u : UInt16} (hu : 0x20 < u.toNat) : u ∉ blanks := fun hmem =>
  absurd (hblanks u hmem) (Nat.not_le.mpr hu)

theorem not_isMarked : ¬IsMarked blanks := by
  rintro (hmem | hmem) <;> exact hblanks.not_mem (by decide) hmem

theorem getLast?_append (hne : blanks ≠ []) (text : Text) :
    ∃ last, (text ++ blanks).getLast? = some last ∧ last.toNat ≤ 0x20 := by
  refine ⟨blanks.getLast hne, ?_, hblanks _ (List.getLast_mem hne)⟩
  rw [List.getLast?_append, List.getLast?_eq_some_getLast hne]
  rfl

end Url.AreBlank

namespace Host

open Url

include hblanks

omit hblanks in
/-- A blank is no part of an escape, and a byte of its own. -/
theorem of_blank {u : UInt16} (hu : u.toNat ≤ 0x20) :
    hexValue? u = none ∧ u.toUInt8 ≤ 0x20 ∧ u.toNat.toUInt8.toUInt16 = u := by
  have hall : ∀ value < 0x21, hexValue? value.toUInt16 = none ∧
      value.toUInt16.toUInt8 ≤ 0x20 ∧ value.toUInt8.toUInt16 = value.toUInt16 := by
    decide
  have hvalue : u.toNat.toUInt16 = u := UInt16.ofNat_toNat
  have hblank := hall u.toNat (by omega)
  rwa [hvalue] at hblank

/-- No domain holds a blank. -/
theorem domain?_append (hne : blanks ≠ []) (name : Text) : domain? (name ++ blanks) = none := by
  obtain ⟨u, hu⟩ := List.exists_mem_of_ne_nil _ hne
  obtain ⟨hhex, hbyte, hunit⟩ := of_blank (hblanks u hu)
  have hpoints : u.toNat ∈ (name ++ blanks).codePoints := by
    have hlt : ∀ v ∈ blanks, v.toNat < 0xD800 := fun v hv => by
      have hlow := hblanks v hv
      omega
    have hhead : ∀ v ∈ blanks.head?, isLowSurrogate v = false := by
      intro v hv
      have hlow := hlt v (List.mem_of_mem_head? hv)
      rw [Bool.eq_false_iff, ne_eq, isLowSurrogate_iff]
      omega
    rw [codePoints_append name hhead, codePoints_of_lt hlt]
    exact List.mem_append_right _ (List.mem_map_of_mem hu)
  -- A blank is a byte of its own that percent decoding leaves, and a name with it is refused.
  have hencoded : u.toNat.toUInt8 ∈ Utf8.encode (name ++ blanks) := by
    have hlow := hblanks u hu
    refine List.mem_flatMap.mpr ⟨_, hpoints, ?_⟩
    rw [Utf8.encodePoint, if_pos (by omega)]
    exact List.mem_singleton_self _
  have hdecoded : u.toUInt8 ∈ Percent.decodeText (name ++ blanks) := by
    refine Percent.mem_decode ?_ ?_ hhex
    · rw [← hunit]
      exact List.mem_map_of_mem hencoded
    · rintro rfl
      exact absurd (hblanks _ hu) (by decide)
  have hany : (Percent.decodeText (name ++ blanks)).any (· ≤ 0x20) = true :=
    List.any_eq_true.mpr ⟨_, hdecoded, decide_eq_true hbyte⟩
  rw [domain?, if_pos hany]

/-- A bracket that is opened is closed by the last unit. -/
theorem parse?_bracket_append (hne : blanks ≠ []) (special : Bool) (rest : Text) :
    parse? special (0x5B :: rest ++ blanks) = none := by
  obtain ⟨last, hlast, hlow⟩ := hblanks.getLast?_append hne rest
  have hbracket : ¬(rest ++ blanks).getLast? = some 0x5D := by
    rw [hlast]
    rintro ⟨rfl⟩
    exact absurd hlow (by decide)
  rw [List.cons_append, parse?, if_neg hbracket]

omit hblanks in
theorem parse?_of_not_bracket {name : Text} (hfirst : name.head? ≠ some 0x5B) (special : Bool) :
    parse? special name =
      if special then domain? name
      else if name.any forbidden then none
      else some (Percent.encode Percent.control name) := by
  rw [parse?.eq_def]
  split
  · exact absurd rfl hfirst
  · rfl

theorem head?_append_ne_bracket {name : Text} (hfirst : name.head? ≠ some 0x5B) :
    (name ++ blanks).head? ≠ some 0x5B := by
  cases name with
  | cons u rest => exact hfirst
  | nil =>
      intro hhead
      exact hblanks.not_mem (by decide) (List.mem_of_mem_head? hhead)

theorem parse?_special_append (hne : blanks ≠ []) (name : Text) :
    parse? true (name ++ blanks) = none := by
  by_cases hbracket : name.head? = some 0x5B
  · obtain ⟨rest, rfl⟩ := List.head?_eq_some_iff.mp hbracket
    exact parse?_bracket_append hblanks hne true rest
  · rw [parse?_of_not_bracket (head?_append_ne_bracket hblanks hbracket), if_pos rfl,
      domain?_append hblanks hne]

/-- An opaque host is read without the blanks behind it. -/
theorem isSome_parse?_opaque {name : Text} (hread : (parse? false (name ++ blanks)).isSome = true) :
    (parse? false name).isSome = true := by
  by_cases hne : blanks = []
  · rwa [hne, List.append_nil] at hread
  by_cases hbracket : name.head? = some 0x5B
  · obtain ⟨rest, rfl⟩ := List.head?_eq_some_iff.mp hbracket
    rw [parse?_bracket_append hblanks hne] at hread
    cases hread
  · rw [parse?_of_not_bracket (head?_append_ne_bracket hblanks hbracket), List.any_append] at hread
    rw [parse?_of_not_bracket hbracket]
    cases hforbidden : name.any forbidden with
    | true => simp [hforbidden] at hread
    | false => rfl

end Host

/-! ### Blanks and slashes behind an authority -/

namespace Url

section Blank

include hblanks

theorem cutPort_append (text : Text) (inBrackets : Bool) :
    cutPort inBrackets (text ++ blanks) =
      match cutPort inBrackets text with
      | (name, some digits) => (name, some (digits ++ blanks))
      | (name, none) => (name ++ blanks, none) := by
  have hcolon {u : UInt16} (hu : u ∈ blanks) : u ≠ unit ':' := by
    rintro rfl
    exact hblanks.not_mem (by decide) hu
  induction text generalizing inBrackets with
  | nil =>
      have hall : ∀ units ⊆ blanks, ∀ inBrackets, cutPort inBrackets units = (units, none) := by
        intro units
        induction units with
        | nil => exact fun _ _ => rfl
        | cons u rest ih =>
            intro hsubset inBrackets
            obtain ⟨hu, hrest⟩ := List.cons_subset.mp hsubset
            simp [cutPort, hcolon hu, ih hrest]
      exact hall blanks (List.Subset.refl _) inBrackets
  | cons u rest ih =>
      rw [List.cons_append, cutPort, cutPort]
      split
      · rfl
      · simp only [ih]
        split <;> simp_all

theorem port?_append (hne : blanks ≠ []) (scheme digits : Text) :
    port? scheme (digits ++ blanks) = none := by
  obtain ⟨u, hu⟩ := List.exists_mem_of_ne_nil _ hne
  have hdigit : ¬isDigit u = true := by
    have hlow := hblanks u hu
    simp only [isDigit, Bool.and_eq_true, decide_eq_true_eq, UInt16.le_iff_toNat_le]
    simp
    omega
  have hall : (digits ++ blanks).all isDigit = false :=
    List.all_eq_false.mpr ⟨u, List.mem_append_right _ hu, hdigit⟩
  rw [port?, hall]
  rfl

theorem hostPort?_special_append (hne : blanks ≠ []) (hspecial : isSpecial scheme = true)
    (address : Text) : hostPort? scheme (address ++ blanks) = none := by
  rw [hostPort?, cutPort_append hblanks, hspecial]
  rcases cutPort false address with ⟨name, _ | digits⟩
  · simp [Host.parse?_special_append hblanks hne]
  · simp [port?_append hblanks hne]

theorem isSome_hostPort?_append (hspecial : isSpecial scheme = false) {address : Text}
    (hread : (hostPort? scheme (address ++ blanks)).isSome = true) :
    (hostPort? scheme address).isSome = true := by
  by_cases hne : blanks = []
  · rwa [hne, List.append_nil] at hread
  rw [hostPort?, cutPort_append hblanks, hspecial] at hread
  rw [hostPort?, hspecial]
  rcases hcut : cutPort false address with ⟨name, _ | digits⟩
  · rw [hcut] at hread
    have hname : (Host.parse? false (name ++ blanks)).isSome = true := by
      simpa [Option.isSome_bind] using hread
    simpa [Option.isSome_bind] using Host.isSome_parse?_opaque hblanks hname
  · rw [hcut] at hread
    simp [port?_append hblanks hne] at hread

theorem userinfoOf_append (authority : Text) :
    userinfoOf (authority ++ blanks) =
      ((userinfoOf authority).1, (userinfoOf authority).2 ++ blanks) := by
  have hmark : unit '@' ∉ blanks.reverse := by
    rw [List.mem_reverse]
    exact hblanks.not_mem (by decide)
  rw [userinfoOf, userinfoOf, cutLast?, cutLast?, List.reverse_append, cut_append,
    cut_of_not_mem hmark]
  rcases cut (unit '@') authority.reverse with ⟨behind, _ | before⟩ <;> simp

end Blank

/-- The text of an authority that ends with an `@`. -/
def userOnly (userinfo : Text) : Text :=
  userinfo ++ [unit '@']

theorem userinfoOf_userOnly (userinfo : Text) :
    userinfoOf (userOnly userinfo) = (some userinfo, []) := by
  simp [userinfoOf, userOnly, cutLast?, cut_cons_self]

theorem exists_userOnly {authority : Text} (huser : (userinfoOf authority).1.isSome = true)
    (haddress : (userinfoOf authority).2 = []) : ∃ userinfo, authority = userOnly userinfo := by
  rw [userinfoOf, cutLast?] at huser haddress
  rcases hcut : cut (unit '@') authority.reverse with ⟨behind, _ | before⟩
  · rw [hcut] at huser
    cases huser
  · rw [hcut] at haddress
    have hnothing : behind = [] := List.reverse_eq_nil_iff.mp haddress
    have hreverse := of_cut_eq_some hcut
    rw [hnothing, List.nil_append] at hreverse
    exact ⟨before.reverse, by rw [userOnly, ← List.reverse_cons, ← hreverse, List.reverse_reverse]⟩

/-- An authority is read if its host and port are, and a host stands behind its `@`. -/
theorem isSome_withAuthority?_iff (scheme authority path : Text) :
    (withAuthority? scheme authority path).isSome = true ↔
      (¬∃ userinfo, authority = userOnly userinfo) ∧
        (hostPort? scheme (userinfoOf authority).2).isSome = true := by
  rw [withAuthority?_eq]
  by_cases huser : ∃ userinfo, authority = userOnly userinfo
  · obtain ⟨userinfo, rfl⟩ := huser
    simp [userinfoOf_userOnly]
  · have hsome : ¬((userinfoOf authority).1.isSome && (userinfoOf authority).2.isEmpty) = true := by
      rw [Bool.and_eq_true, List.isEmpty_iff]
      exact fun ⟨hinfo, haddress⟩ => huser (exists_userOnly hinfo haddress)
    rw [if_neg hsome, Option.isSome_map, and_iff_right huser]

include hblanks in
theorem withAuthority?_special_append (hne : blanks ≠ []) (hspecial : isSpecial scheme = true)
    (authority : Text) : withAuthority? scheme (authority ++ blanks) [] = none := by
  rw [withAuthority?_eq, userinfoOf_append hblanks, hostPort?_special_append hblanks hne hspecial]
  split <;> rfl

/-! ### What is read behind a scheme -/

theorem takeWhile_append_slashes {p : UInt16 → Bool} (hslash : p (unit '/') = false) (text : Text)
    (n : Nat) : (text ++ List.replicate n (unit '/')).takeWhile p = text.takeWhile p := by
  cases n with
  | zero => rw [List.replicate_zero, List.append_nil]
  | succ n => exact takeWhile_append_cons hslash text _

theorem takeWhile_append_cases {p : UInt16 → Bool} (hall : ∀ u ∈ blanks, p u = true) (text : Text) :
    (text ++ blanks).takeWhile p = text.takeWhile p ∨
      text.takeWhile p = text ∧ (text ++ blanks).takeWhile p = text ++ blanks := by
  by_cases hdrop : text.dropWhile p = []
  · have htake : ∀ u ∈ text, p u = true := List.dropWhile_eq_nil_iff.mp hdrop
    exact .inr ⟨List.takeWhile_eq_self_iff.mpr htake,
      List.takeWhile_eq_self_iff.mpr (List.forall_mem_append.mpr ⟨htake, hall⟩)⟩
  · exact .inl (takeWhile_append_of_dropWhile hdrop blanks)

/-- The name in front of the path of a file. -/
def fileName (text : Text) : Text :=
  text.takeWhile (!isSlash true ·)

/-- A file is read unless a name has to be a host and is none. -/
theorem isSome_file?_cons (scheme : Text) (first second : UInt16) (rest : Text) :
    (file? scheme (first :: second :: rest)).isSome =
      (!(isSlash true first && isSlash true second) || isDriveLetter (fileName rest) ||
        (fileName rest).isEmpty || (Host.parse? true (fileName rest)).isSome) := by
  change (if isSlash true first && isSlash true second then
    if isDriveLetter (fileName rest) then _ else if (fileName rest).isEmpty then _ else _
      else _ : Option Url).isSome = _
  cases isSlash true first && isSlash true second
  · rfl
  cases isDriveLetter (fileName rest)
  · cases (fileName rest).isEmpty
    · simp [fileName, Option.isSome_bind]
    · rfl
  · rfl

theorem lt_of_isDriveLetter {name : Text} {last : UInt16} (hdrive : isDriveLetter name = true)
    (hlast : name.getLast? = some last) : 0x20 < last.toNat := by
  unfold isDriveLetter at hdrive
  split at hdrive
  · rename_i letter mark
    obtain rfl : mark = last := Option.some.inj hlast
    rw [Bool.and_eq_true, Bool.or_eq_true, decide_eq_true_eq, decide_eq_true_eq] at hdrive
    rcases hdrive.2 with rfl | rfl <;> decide
  · cases hdrive

theorem isSome_file?_slashes {front : Text} {n : Nat}
    (hread : (file? scheme (front ++ List.replicate n (unit '/'))).isSome = true) :
    (file? scheme front).isSome = true := by
  rcases front with _ | ⟨first, _ | ⟨second, rest⟩⟩
  · rfl
  · rfl
  · have hname : fileName (rest ++ List.replicate n (unit '/')) = fileName rest :=
      takeWhile_append_slashes (by decide) rest n
    rw [List.cons_append, List.cons_append, isSome_file?_cons, hname] at hread
    rw [isSome_file?_cons, hread]

include hblanks in
theorem not_isSlash_of_mem {u : UInt16} (hu : u ∈ blanks) : isSlash true u = false := by
  have hother (mark : UInt16) (hmark : 0x20 < mark.toNat) : u ≠ mark := by
    rintro rfl
    exact hblanks.not_mem hmark hu
  simp [isSlash, hother (unit '/') (by decide), hother (unit '\\') (by decide)]

include hblanks in
theorem isSome_file?_append {front : Text}
    (hread : (file? scheme (front ++ blanks)).isSome = true) : (file? scheme front).isSome = true := by
  by_cases hne : blanks = []
  · rwa [hne, List.append_nil] at hread
  rcases front with _ | ⟨first, _ | ⟨second, rest⟩⟩
  · rfl
  · rfl
  · rw [List.cons_append, List.cons_append, isSome_file?_cons] at hread
    rw [isSome_file?_cons]
    have hslash : ∀ u ∈ blanks, (!isSlash true u) = true := fun u hu => by
      rw [not_isSlash_of_mem hblanks hu, Bool.not_false]
    rcases takeWhile_append_cases hslash rest with hsame | ⟨-, hlonger⟩
    · rwa [fileName, hsame] at hread
    · -- With blanks at its end a name is neither a drive nor a host.
      have hdrive : isDriveLetter (rest ++ blanks) = false := by
        rw [Bool.eq_false_iff]
        intro hdrive
        obtain ⟨last, hlast, hlow⟩ := hblanks.getLast?_append hne rest
        exact absurd (lt_of_isDriveLetter hdrive hlast) (Nat.not_lt.mpr hlow)
      have hempty : (rest ++ blanks).isEmpty = false := by simp [hne]
      rw [fileName, hlonger, hdrive, hempty, Host.parse?_special_append hblanks hne] at hread
      simp only [Option.isSome_none, Bool.or_false] at hread
      rw [hread]
      simp

/-- The authority of a special scheme, between slashes. -/
def siteOf (text : Text) : Text :=
  (text.dropWhile (isSlash true)).takeWhile (!isSlash true ·)

theorem isSome_withAuthority?_congr (scheme authority first second : Text) :
    (withAuthority? scheme authority first).isSome =
      (withAuthority? scheme authority second).isSome := by
  rw [Bool.eq_iff_iff, isSome_withAuthority?_iff, isSome_withAuthority?_iff]

theorem isSome_hierarchy?_special (hspecial : isSpecial scheme = true) (hfile : scheme ≠ "file")
    (text : Text) :
    (hierarchy? scheme text).isSome = (withAuthority? scheme (siteOf text) []).isSome := by
  rw [hierarchy?.eq_def, if_neg hfile, if_pos hspecial]
  exact isSome_withAuthority?_congr _ _ _ _

/-- Of the other schemes only an authority may not be read. -/
theorem isSome_hierarchy?_other (hspecial : isSpecial scheme = false) (text : Text) :
    (hierarchy? scheme text).isSome = true ↔
      ∀ after, text = unit '/' :: unit '/' :: after →
        (withAuthority? scheme (after.takeWhile (· ≠ unit '/')) []).isSome = true := by
  have hfile : scheme ≠ "file" := by
    rintro rfl
    exact absurd hspecial (by decide)
  rw [hierarchy?.eq_def, if_neg hfile, hspecial, if_neg Bool.false_ne_true]
  rcases text with _ | ⟨first, _ | ⟨second, rest⟩⟩
  · simp
  · by_cases hfirst : first = unit '/' <;> simp [hfirst]
  · by_cases hfirst : first = unit '/'
    · by_cases hsecond : second = unit '/'
      · subst hfirst hsecond
        simpa using isSome_withAuthority?_congr scheme (rest.takeWhile (· ≠ unit '/'))
          (rest.dropWhile (· ≠ unit '/')) []
      · simp [hfirst, hsecond]
    · simp [hfirst]

theorem isSome_hierarchy?_slashes {front : Text} {n : Nat}
    (hread : (hierarchy? scheme (front ++ List.replicate n (unit '/'))).isSome = true) :
    (hierarchy? scheme front).isSome = true := by
  by_cases hfile : scheme = "file"
  · rw [hierarchy?.eq_def, if_pos hfile] at hread ⊢
    exact isSome_file?_slashes hread
  cases hspecial : isSpecial scheme with
  | false =>
      rw [isSome_hierarchy?_other hspecial] at hread ⊢
      rintro after rfl
      have hauthority := hread (after ++ List.replicate n (unit '/')) rfl
      rwa [takeWhile_append_slashes (by decide)] at hauthority
  | true =>
      rw [isSome_hierarchy?_special hspecial hfile] at hread ⊢
      rw [siteOf] at hread
      by_cases hdrop : front.dropWhile (isSlash true) = []
      · have hnothing : (front ++ List.replicate n (unit '/')).dropWhile (isSlash true) = [] := by
          have hslash : isSlash true (unit '/') = true := by decide
          simp [List.dropWhile_append, hdrop, hslash]
        rw [hnothing, List.takeWhile_nil, withAuthority?_nil hspecial] at hread
        cases hread
      · rw [dropWhile_append_of_dropWhile hdrop, takeWhile_append_slashes (by decide)] at hread
        exact hread

/-- A URL that has a scheme without a grammar of its own, and a name without a host. -/
def IsUserOnly (scheme text : Text) : Prop :=
  isSpecial scheme = false ∧ ∃ userinfo, unit '/' ∉ userinfo ∧
    text = unit '/' :: unit '/' :: userOnly userinfo

section Hierarchy

variable {front : Text} (hfile : scheme ≠ "file")
include hblanks

theorem isSome_other?_append (hspecial : isSpecial scheme = false)
    (hsome : ¬IsUserOnly scheme front)
    (hread : (hierarchy? scheme (front ++ blanks)).isSome = true) :
    (hierarchy? scheme front).isSome = true := by
  rw [isSome_hierarchy?_other hspecial] at hread ⊢
  rintro after rfl
  have hauthority := hread (after ++ blanks) rfl
  have hslash : ∀ u ∈ blanks, decide (u ≠ unit '/') = true := fun u hu => by
    rw [decide_eq_true_eq]
    rintro rfl
    exact hblanks.not_mem (by decide) hu
  rcases takeWhile_append_cases hslash after with hsame | ⟨hself, hlonger⟩
  · rwa [hsame] at hauthority
  · rw [hlonger, isSome_withAuthority?_iff, userinfoOf_append hblanks] at hauthority
    rw [hself, isSome_withAuthority?_iff]
    refine ⟨?_, isSome_hostPort?_append hblanks hspecial hauthority.2⟩
    rintro ⟨userinfo, rfl⟩
    refine hsome ⟨hspecial, userinfo, fun hmem => ?_, rfl⟩
    simpa using List.takeWhile_eq_self_iff.mp hself _ (List.mem_append_left _ hmem)

include hfile in
theorem isSome_special?_append (hne : blanks ≠ []) (hspecial : isSpecial scheme = true)
    (hread : (hierarchy? scheme (front ++ blanks)).isSome = true) :
    (hierarchy? scheme front).isSome = true := by
  rw [isSome_hierarchy?_special hspecial hfile, siteOf] at hread ⊢
  have hslash : ∀ u ∈ blanks, (!isSlash true u) = true := fun u hu => by
    rw [not_isSlash_of_mem hblanks hu, Bool.not_false]
  by_cases hdrop : front.dropWhile (isSlash true) = []
  · have hfirst : blanks.dropWhile (isSlash true) = blanks := by
      obtain ⟨u, rest, rfl⟩ := List.exists_cons_of_ne_nil hne
      rw [List.dropWhile_cons, not_isSlash_of_mem hblanks List.mem_cons_self]
      rfl
    have hsite : ((front ++ blanks).dropWhile (isSlash true)).takeWhile (!isSlash true ·) =
        [] ++ blanks := by
      rw [List.dropWhile_append_of_pos (List.dropWhile_eq_nil_iff.mp hdrop), hfirst]
      exact List.takeWhile_eq_self_iff.mpr hslash
    rw [hsite, withAuthority?_special_append hblanks hne hspecial] at hread
    cases hread
  · rw [dropWhile_append_of_dropWhile hdrop] at hread
    rcases takeWhile_append_cases hslash (front.dropWhile (isSlash true)) with
      hsame | ⟨-, hlonger⟩
    · rwa [hsame] at hread
    · rw [hlonger, withAuthority?_special_append hblanks hne hspecial] at hread
      cases hread

theorem isSome_hierarchy?_append (hsome : ¬IsUserOnly scheme front)
    (hread : (hierarchy? scheme (front ++ blanks)).isSome = true) :
    (hierarchy? scheme front).isSome = true := by
  by_cases hne : blanks = []
  · rwa [hne, List.append_nil] at hread
  by_cases hfile : scheme = "file"
  · rw [hierarchy?.eq_def, if_pos hfile] at hread ⊢
    exact isSome_file?_append hblanks hread
  cases hspecial : isSpecial scheme with
  | false => exact isSome_other?_append hblanks hspecial hsome hread
  | true => exact isSome_special?_append hblanks hfile hne hspecial hread

end Hierarchy

/-! ### What is read of a server -/

theorem isSome_parse?_eq (hscheme : scheme? (clean text) = some (scheme, rest)) :
    (parse? text).isSome = (hierarchy? scheme (bodyOf rest)).isSome := by
  rw [parse?, hscheme]
  simp only [Option.bind_eq_bind, Option.bind_some]
  rw [← bodyOf]
  cases hierarchy? scheme (bodyOf rest) <;> rfl

/-- A URL of a scheme without a grammar of its own that has a name in front of an `@`, and nothing
behind it. -/
def IsHostless (text : Text) : Prop :=
  ∃ scheme rest, scheme? (clean text) = some (scheme, rest) ∧ ¬IsMarked rest ∧ IsUserOnly scheme rest

theorem parse?_of_isHostless (hhostless : IsHostless text) : parse? text = none := by
  obtain ⟨scheme, rest, hscheme, hmarked, hspecial, userinfo, hslash, rfl⟩ := hhostless
  have htake : (userOnly userinfo).takeWhile (· ≠ unit '/') = userOnly userinfo := by
    refine List.takeWhile_eq_self_iff.mpr fun u hu => ?_
    rw [decide_eq_true_eq]
    rintro rfl
    rcases List.mem_append.mp hu with hmem | hmem
    · exact hslash hmem
    · exact absurd hmem (by decide)
  rw [← Option.not_isSome_iff_eq_none, isSome_parse?_eq hscheme, bodyOf_of_not_isMarked hmarked,
    isSome_hierarchy?_other hspecial]
  intro hread
  have hauthority := hread _ rfl
  rw [htake, isSome_withAuthority?_iff] at hauthority
  exact hauthority.1 ⟨userinfo, rfl⟩

/-- A scheme stands in front of the blanks at the end of a text. -/
theorem scheme?_of_append {front : Text} (hblanks : AreBlank blanks)
    (hscheme : scheme? (text ++ blanks) = some (scheme, front)) :
    ∃ rest, scheme? text = some (scheme, rest) ∧ front = rest ++ blanks := by
  rcases blanks with _ | ⟨u, others⟩
  · exact ⟨front, by simpa using hscheme, (List.append_nil _).symm⟩
  · have hunit : isSchemeUnit u = false := by
      have hall : ∀ value < 0x21, isSchemeUnit value.toUInt16 = false := by decide
      have hlow := hblanks u List.mem_cons_self
      have hvalue : u.toNat.toUInt16 = u := UInt16.ofNat_toNat
      rw [← hvalue]
      exact hall u.toNat (by omega)
    have hcolon : u ≠ unit ':' := by
      rintro rfl
      exact hblanks.not_mem (by decide) List.mem_cons_self
    rw [scheme?_append_cons hunit hcolon, Option.map_eq_some_iff] at hscheme
    obtain ⟨⟨found, rest⟩, hfound, heq⟩ := hscheme
    obtain ⟨rfl, rfl⟩ := Prod.mk.inj heq
    exact ⟨rest, hfound, rfl⟩

/-- Where a slash is stripped no blanks are dropped. -/
theorem clean_eq_cleanFront (hstripped : stripSlashes text ≠ text) : clean text = cleanFront text := by
  obtain ⟨n, hslashes⟩ := exists_slashes text
  have hne : List.replicate n (unit '/') ≠ [] := by
    intro hnil
    rw [hnil, List.append_nil] at hslashes
    exact hstripped hslashes.symm
  have hdark : ∀ u ∈ List.replicate n (unit '/'), 0x20 < u.toNat := by
    intro u hu
    rw [List.eq_of_mem_replicate hu]
    decide
  rw [hslashes, clean_append _ hne hdark, cleanFront_append _ hne hdark]

theorem isSome_bodyOf_slashes {front : Text} {n : Nat}
    (hread : (hierarchy? scheme (bodyOf (front ++ List.replicate n (unit '/')))).isSome = true) :
    (hierarchy? scheme (bodyOf front)).isSome = true := by
  by_cases hmarked : IsMarked front
  · rwa [bodyOf_append hmarked] at hread
  · have hslashes : ¬IsMarked (List.replicate n (unit '/')) := by
      rintro (hmem | hmem) <;> exact absurd (List.eq_of_mem_replicate hmem) (by decide)
    rw [bodyOf_of_not_isMarked (by rw [isMarked_append]; exact not_or.mpr ⟨hmarked, hslashes⟩)] at hread
    rw [bodyOf_of_not_isMarked hmarked]
    exact isSome_hierarchy?_slashes hread

include hblanks in
theorem isSome_bodyOf_append {front : Text} (hsome : ¬IsMarked front → ¬IsUserOnly scheme front)
    (hread : (hierarchy? scheme (bodyOf (front ++ blanks))).isSome = true) :
    (hierarchy? scheme (bodyOf front)).isSome = true := by
  by_cases hmarked : IsMarked front
  · rwa [bodyOf_append hmarked] at hread
  · rw [bodyOf_of_not_isMarked
      (by rw [isMarked_append]; exact not_or.mpr ⟨hmarked, hblanks.not_isMarked⟩)] at hread
    rw [bodyOf_of_not_isMarked hmarked]
    exact isSome_hierarchy?_append hblanks (hsome hmarked) hread

/-- **A server without the slashes at its end is read** if the server is, unless it has no host. -/
theorem isSome_parse?_stripSlashes (hread : (parse? text).isSome = true) :
    (parse? (stripSlashes text)).isSome = true ↔ ¬IsHostless (stripSlashes text) := by
  constructor
  · intro hsome hhostless
    rw [parse?_of_isHostless hhostless] at hsome
    cases hsome
  · intro hhost
    by_cases hkept : stripSlashes text = text
    · rwa [hkept]
    obtain ⟨read, hsome⟩ := Option.isSome_iff_exists.mp hread
    obtain ⟨rest, hscheme⟩ := exists_scheme hsome
    obtain ⟨front, hfront, ⟨-, n, rfl⟩ | ⟨hdropped, -⟩⟩ := exists_front hscheme
    · rw [isSome_parse?_eq hscheme] at hread
      obtain ⟨blanks, hclean, hblanks⟩ := exists_blanks (stripSlashes text)
      rw [hclean] at hfront
      obtain ⟨kept, hkeptScheme, rfl⟩ := scheme?_of_append hblanks hfront
      rw [isSome_parse?_eq hkeptScheme]
      refine isSome_bodyOf_append hblanks (fun hmarked huser => ?_) (isSome_bodyOf_slashes hread)
      exact hhost ⟨_, kept, hkeptScheme, hmarked, huser⟩
    · exact absurd (clean_eq_cleanFront hkept) hdropped

end Url

end ResourceWatch
