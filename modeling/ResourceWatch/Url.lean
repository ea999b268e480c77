import ResourceWatch.Url.Host

/-!
Absolute URLs: reading one from a text, and its normal written form.
-/

namespace ResourceWatch

inductive Url.Path where
  /-- A path without structure, as in `mailto:`. -/
  | opaquePath (text : Text)
  | segments (parts : List Text)
deriving DecidableEq

structure Url where
  scheme : Text
  username : Text := []
  password : Text := []
  host : Option Text := none
  port : Option Nat := none
  path : Url.Path
  query : Option Text := none
  fragment : Option Text := none
deriving DecidableEq

namespace Url

open Text

/-- The schemes with a grammar of their own, and the port that each has by default. -/
def specialSchemes : List (Text × Option Nat) :=
  [("http", some 80), ("https", some 443), ("ws", some 80), ("wss", some 443), ("ftp", some 21),
    ("file", none)]

def isSpecial (scheme : Text) : Bool :=
  (specialSchemes.lookup scheme).isSome

def defaultPort? (scheme : Text) : Option Nat :=
  (specialSchemes.lookup scheme).join

/-- Drops the control characters and spaces at the ends, and tabs and line ends everywhere. -/
def clean (text : Text) : Text :=
  (((text.dropWhile (· ≤ 0x20)).reverse.dropWhile (· ≤ 0x20)).reverse).filter fun u =>
    !(u = 0x09 || u = 0x0A || u = 0x0D)

def isSchemeUnit (u : UInt16) : Bool :=
  isLetter u || isDigit u || u = unit '+' || u = unit '-' || u = unit '.'

/-- The scheme, in lower case, and what follows its colon. -/
def scheme? (text : Text) : Option (Text × Text) :=
  match text with
  | first :: _ =>
    if isLetter first then
      match text.dropWhile isSchemeUnit with
      | colon :: rest =>
        if colon = unit ':' then some (lower (text.takeWhile isSchemeUnit), rest) else none
      | [] => none
    else none
  | [] => none

def isSlash (special : Bool) (u : UInt16) : Bool :=
  u = unit '/' || (special && u = unit '\\')

/-- The parts between the slashes. -/
def splitPath (special : Bool) : Text → List Text
  | [] => [[]]
  | u :: rest =>
    if isSlash special u then [] :: splitPath special rest
    else
      match splitPath special rest with
      | first :: others => (u :: first) :: others
      | [] => [[u]]

/-- A segment with each written-out dot put in place. -/
def plainDots : Text → Text
  | u :: two :: mark :: rest =>
    if u = unit '%' && two = unit '2' && (mark = unit 'e' || mark = unit 'E') then
      unit '.' :: plainDots rest
    else u :: plainDots (two :: mark :: rest)
  | short => short

def isSingleDot (segment : Text) : Bool :=
  plainDots segment = "."

def isDoubleDot (segment : Text) : Bool :=
  plainDots segment = ".."

/-- A letter with a colon or a bar. -/
def isDriveLetter (segment : Text) : Bool :=
  match segment with
  | [letter, mark] => isLetter letter && (mark = unit ':' || mark = unit '|')
  | _ => false

/-- Goes one level up; the drive of a file stays. -/
def shorten (file : Bool) (path : List Text) : List Text :=
  match path with
  | [only] => if file && isDriveLetter only then path else []
  | _ => path.dropLast

/-- The path that the segments lead to, from `path` on. Two dots at the end lead to a directory, but
without a grammar of its own a scheme has no directory above the first. -/
def walk (scheme : Text) (path : List Text) : List Text → List Text
  | [] => path
  | segment :: rest =>
    let file := scheme = "file"
    if isDoubleDot segment then
      let above := shorten file path
      let isDirectory := rest.isEmpty && (isSpecial scheme || !path.isEmpty)
      walk scheme (if isDirectory then above ++ [[]] else above) rest
    else if isSingleDot segment then
      walk scheme (if rest.isEmpty then path ++ [[]] else path) rest
    else
      let named :=
        match segment with
        | [letter, mark] =>
          if file && path.isEmpty && isDriveLetter [letter, mark] then [letter, unit ':']
          else segment
        | _ => segment
      walk scheme (path ++ [Percent.encode Percent.path named]) rest

/-- The first of the segments behind others that begins with a dot, without that dot. -/
def dotted? (segments : List Text) : Option Text :=
  segments.tail.findSome? (after? ".")

/-- Whether dots in a path are taken for names: nothing is escaped in it, it does not begin with a
dot or a drive, and of the segments that begin with a dot the first has another name. -/
def isPlain (scheme text : Text) : Bool :=
  let first := text.takeWhile (· ≠ unit '/')
  !(text.codePoints.any fun point => Percent.path point || Percent.among "%\\" point) &&
    !Text.startsWith first "." && !(scheme = "file" && isDriveLetter first) &&
    ((dotted? (split (unit '/') text)).any fun name => !name.isEmpty && !Text.startsWith name ".")

/-- The path of a URL that has a host or a slash in front. -/
def pathOf (scheme : Text) (text : Text) : List Text :=
  let special := isSpecial scheme
  match text with
  | [] => if special then [[]] else []
  | first :: rest =>
    let text := if isSlash special first then rest else first :: rest
    if isPlain scheme text then split (unit '/') text
    else walk scheme [] (splitPath special text)

/-- The text before the last `mark` and behind it, if there is one. -/
def cutLast? (mark : UInt16) (text : Text) : Option (Text × Text) :=
  match Text.cut mark text.reverse with
  | (behind, some before) => some (before.reverse, behind.reverse)
  | (_, none) => none

/-- The text before the first colon that is not in brackets, and what is behind it. -/
def cutPort (inBrackets : Bool) : Text → Text × Option Text
  | [] => ([], none)
  | u :: rest =>
    if u = unit ':' && !inBrackets then ([], some rest)
    else
      let inside := if u = unit '[' then true else if u = unit ']' then false else inBrackets
      (u :: (cutPort inside rest).1, (cutPort inside rest).2)

/-- A port: digits of a value below 65536; the default one and none at all are left out. -/
def port? (scheme : Text) (text : Text) : Option (Option Nat) :=
  if !text.all isDigit then none
  else if text.isEmpty then some none
  else if digitsValue text < 65536 then
    some (if defaultPort? scheme = some (digitsValue text) then none else some (digitsValue text))
  else none

/-- The host and port of an authority. -/
def hostPort? (scheme : Text) (text : Text) : Option (Text × Option Nat) := do
  let special := isSpecial scheme
  match cutPort false text with
  | (name, none) =>
    if special && name.isEmpty then none
    else
      let host ← Host.parse? special name
      return (host, none)
  | (name, some digits) =>
    if name.isEmpty then none
    else
      let host ← Host.parse? special name
      let port ← port? scheme digits
      return (host, port)

/-- The URL with this authority; the text before the last `@` holds a name and a password. -/
def withAuthority? (scheme authority path : Text) : Option Url := do
  let (userinfo, address) :=
    match cutLast? (unit '@') authority with
    | some (userinfo, address) => (some userinfo, address)
    | none => (none, authority)
  if userinfo.isSome && address.isEmpty then none
  let (host, port) ← hostPort? scheme address
  let (name, password) := Text.cut (unit ':') (userinfo.getD [])
  return {
    scheme
    username := Percent.encode Percent.userinfo name
    password := Percent.encode Percent.userinfo (password.getD [])
    host := some host
    port
    path := .segments (pathOf scheme path) }

/-- The URL of a file: two slashes announce a host, which may be empty, unless a drive follows. -/
def file? (scheme text : Text) : Option Url := do
  let slash := isSlash true
  match text with
  | first :: second :: rest =>
    if slash first && slash second then
      let name := rest.takeWhile (!slash ·)
      let path := rest.dropWhile (!slash ·)
      if isDriveLetter name then
        return { scheme, host := some [], path := .segments (pathOf scheme rest) }
      else if name.isEmpty then
        return { scheme, host := some [], path := .segments (pathOf scheme path) }
      else
        let host ← Host.parse? true name
        return {
          scheme
          host := some (if host = "localhost" then [] else host)
          path := .segments (pathOf scheme path) }
    else
      return { scheme, host := some [], path := .segments (pathOf scheme text) }
  | _ => return { scheme, host := some [], path := .segments (pathOf scheme text) }

/-- The URL without query and fragment. -/
def hierarchy? (scheme text : Text) : Option Url :=
  if scheme = "file" then file? scheme text
  else if isSpecial scheme then
    let rest := text.dropWhile (isSlash true)
    withAuthority? scheme (rest.takeWhile (!isSlash true ·)) (rest.dropWhile (!isSlash true ·))
  else
    match text with
    | first :: rest =>
      if first = unit '/' then
        match rest with
        | second :: after =>
          if second = unit '/' then
            withAuthority? scheme (after.takeWhile (· ≠ unit '/')) (after.dropWhile (· ≠ unit '/'))
          else some { scheme, path := .segments (pathOf scheme text) }
        | [] => some { scheme, path := .segments (pathOf scheme text) }
      else some { scheme, path := .opaquePath (Percent.encode Percent.control text) }
    | [] => some { scheme, path := .opaquePath [] }

/-- Reads an absolute URL; a text that only makes sense relative to another URL is none. -/
def parse? (text : Text) : Option Url := do
  let (scheme, rest) ← scheme? (clean text)
  let (rest, fragment) := Text.cut (unit '#') rest
  let (rest, query) := Text.cut (unit '?') rest
  let url ← hierarchy? scheme rest
  let escaped := if isSpecial scheme then Percent.specialQuery else Percent.query
  return { url with
    query := query.map (Percent.encode escaped)
    fragment := fragment.map (Percent.encode Percent.fragment) }

def hasCredentials (url : Url) : Bool :=
  !url.username.isEmpty || !url.password.isEmpty

def pathText : Path → Text
  | .opaquePath text => text
  | .segments parts => parts.flatMap (unit '/' :: ·)

/-- Where a path that begins with two slashes needs a mark to be told from an authority. -/
def pathMark (url : Url) : Text :=
  match url.host, url.path with
  | none, .segments ([] :: _ :: _) => "/."
  | _, _ => []

def authorityText (url : Url) : Text :=
  match url.host with
  | none => []
  | some host =>
    ofString "//" ++
      (if url.hasCredentials then
        url.username ++ (if url.password.isEmpty then [] else unit ':' :: url.password) ++ [unit '@']
      else []) ++
      host ++
      (match url.port with
      | some port => unit ':' :: ofNat port
      | none => [])

/-- The normal written form. -/
def toText (url : Url) : Text :=
  url.scheme ++ unit ':' :: (url.authorityText ++ url.pathMark ++ pathText url.path ++
    (match url.query with
    | some query => unit '?' :: query
    | none => []) ++
    (match url.fragment with
    | some fragment => unit '#' :: fragment
    | none => []))

end Url

end ResourceWatch
