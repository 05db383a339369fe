import HtmlQuery.Url.Basic

/-!
# References and what they refer to

A reference is a URL, or part of one that is to be completed from a base.  What it lacks comes from
the base: a path that does not begin with a slash goes on from the last slash of the base, a
reference that begins with a slash keeps the host, and one with two slashes keeps the scheme only.

`parse?` reads a text with or without a base.  `join?` reads a text against a base.
-/

namespace HtmlQuery.Url

/-! ## Cutting a reference -/

/-- A reference without the fragment and the query, then these two. -/
structure Pieces where
  /-- What stands before the question mark and the number sign. -/
  front : List Char
  /-- What stands behind the question mark. -/
  query : Option (List Char)
  /-- What stands behind the number sign. -/
  fragment : Option (List Char)

/-- Cuts a text at the first character of a class and leaves that character out. -/
def cutAt (p : Char → Bool) (s : List Char) : List Char × Option (List Char) :=
  match s.dropWhile (! p ·) with
  | [] => (s, none)
  | _ :: rest => (s.takeWhile (! p ·), some rest)

/-- Cuts off the fragment and the query. -/
def pieces (s : List Char) : Pieces :=
  let (s, fragment) := cutAt (· == '#') s
  let (front, query) := cutAt (· == '?') s
  ⟨front, query, fragment⟩

/-- Whether a scheme goes on with a character. -/
def isSchemeChar (c : Char) : Bool :=
  c.isAlphanum || c == '+' || c == '-' || c == '.'

/-- The scheme of a text, in lower case, and what stands behind the colon. -/
def splitScheme? (s : List Char) : Option (String × List Char) :=
  match s with
  | c :: _ =>
    if c.isAlpha then
      match s.dropWhile isSchemeChar with
      | ':' :: rest => some (String.ofList ((s.takeWhile isSchemeChar).map Char.toLower), rest)
      | _ => none
    else none
  | [] => none

/-- Whether a character separates segments. -/
def isSlash (special : Bool) (c : Char) : Bool :=
  c == '/' || (special && c == '\\')

/-! ## Paths -/

/-- Whether a segment stands for the current place. -/
def isSingleDot (s : List Char) : Bool :=
  [['.'], "%2e".toList].contains (s.map Char.toLower)

/-- Whether a segment stands for the place above. -/
def isDoubleDot (s : List Char) : Bool :=
  [['.', '.'], ".%2e".toList, "%2e.".toList, "%2e%2e".toList].contains (s.map Char.toLower)

/-- Whether a text is the letter of a drive, behind which a colon or a bar stands. -/
def isDriveLetter : List Char → Bool
  | [c, d] => c.isAlpha && (d == ':' || d == '|')
  | _ => false

/-- Whether a text is the letter of a drive and a colon. -/
def isPlainDriveLetter : List Char → Bool
  | [c, ':'] => c.isAlpha
  | _ => false

/-- Whether a text begins with the letter of a drive. -/
def beginsWithDriveLetter (s : List Char) : Bool :=
  isDriveLetter (s.take 2) &&
    match s.drop 2 with
    | [] => true
    | c :: _ => ['/', '\\', '?', '#'].contains c

/-- The place above a path.  A segment that begins with the letter of a drive stays, whatever the
scheme. -/
def above (path : List (List Char)) : List (List Char) :=
  match path.getLast? with
  | some last => if beginsWithDriveLetter last then path else path.dropLast
  | none => []

/-- How far a path has been read. -/
structure Walk where
  /-- The segments that a slash stands behind. -/
  path : List (List Char) := []
  /-- What the next segment is joined to. -/
  opened : List Char := []
  /-- Whether the first segment may be the letter of a drive with a bar. -/
  drives : Bool := false

/-- Goes one segment on.  The last segment has no slash behind it. -/
def Walk.enter (walk : Walk) (segment : List Char) (last : Bool) : List (List Char) :=
  let here := if last then [[]] else []
  if isDoubleDot segment then
    if walk.opened.isEmpty then above walk.path ++ here else walk.path ++ [walk.opened]
  else if isSingleDot segment then
    if walk.opened.isEmpty then walk.path ++ here else walk.path ++ [walk.opened] ++ here
  else
    let segment :=
      match segment with
      | [c, '|'] => if walk.drives && walk.path.isEmpty && c.isAlpha then [c, ':'] else segment
      | _ => segment
    walk.path ++ [walk.opened ++ percentEncode inPath segment]

/-- Goes on along segments. -/
def Walk.enterAll (walk : Walk) : List (List Char) → List (List Char)
  | [] => walk.path
  | [last] => walk.enter last true
  | segment :: rest =>
    ({ walk with path := walk.enter segment false, opened := [] } : Walk).enterAll rest

/-- Goes on along a text without its first slash. -/
def Walk.along (walk : Walk) (special : Bool) (text : List Char) : List (List Char) :=
  walk.enterAll (Text.splitBy (isSlash special) text)

/-- A path without the slashes at its front but one. -/
def dropEmptySegments : List (List Char) → List (List Char)
  | [] :: segment :: rest => dropEmptySegments (segment :: rest)
  | path => path

/-- Where a reference goes on from a path: at its last slash, or behind the letter of a drive. -/
def Walk.fromLastSlash (isFile : Bool) (path : List (List Char)) : Walk :=
  match path.getLast? with
  | some last =>
    if isFile && isPlainDriveLetter last then
      match path with
      | [drive] => { path := [drive], drives := isFile }
      | _ => { path := path.dropLast, opened := last, drives := isFile }
    else { path := path.dropLast, drives := isFile }
  | none => { drives := isFile }

/-- The path behind a host. -/
def pathFromTop (special : Bool) (text : List Char) : List (List Char) :=
  match text with
  | [] => if special then [[]] else []
  | c :: rest => Walk.along {} special (if isSlash special c then rest else text)

/-! ## Hosts -/

/-- Cuts a text at the last occurrence of a character. -/
def cutAtLast (c : Char) (s : List Char) : Option (List Char × List Char) :=
  match cutAt (· == c) s.reverse with
  | (_, none) => none
  | (after, some before) => some (before.reverse, after.reverse)

/-- The host at the front of a text.  A colon between brackets does not end it. -/
def hostAtFront (special inside : Bool) : List Char → List Char
  | [] => []
  | c :: rest =>
    if (c == ':' && !inside) || isSlash special c then []
    else c :: hostAtFront special (c == '[' || (inside && c != ']')) rest

/-- The port that digits write, nothing if there are none or for the default one of the scheme. -/
def parsePort? (scheme : String) (digits : List Char) : Option (Option Nat) :=
  if digits.isEmpty then some none
  else
    match natOfBase? 10 digits with
    | some n =>
      if 65535 < n then none else if defaultPort? scheme == some n then some none else some (some n)
    | none => none

/-- The port behind a host, and the path behind it.  A path begins with a slash of either kind. -/
def splitPort? (scheme : String) : List Char → Option (Option Nat × List Char)
  | ':' :: rest => do
    let port ← parsePort? scheme (rest.takeWhile Text.isAsciiDigit)
    match rest.dropWhile Text.isAsciiDigit with
    | [] => return (port, [])
    | c :: path => if isSlash true c then return (port, c :: path) else none
  | path => some (none, path)

/-- The URL behind a scheme and two slashes.  A special one has a host.  Any other may have none,
but then it has neither a user nor a port. -/
def withHost? (scheme : String) (p : Pieces) : Option Url := do
  let special := isSpecial scheme
  let authority := p.front.takeWhile (! isSlash special ·)
  let credentials := (cutAtLast '@' authority).map (·.1)
  let behind :=
    match credentials with
    | some text => p.front.drop (text.length + 1)
    | none => p.front
  let (user, password) := cutAt (· == ':') (credentials.getD [])
  let password := password.getD []
  let hostText := hostAtFront special false behind
  let tail := behind.drop hostText.length
  let isEnd := behind.isEmpty && p.query.isNone && p.fragment.isNone
  if hostText.isEmpty && (special || !user.isEmpty || !password.isEmpty || tail.head? == some ':' ||
      (credentials == some [] && !isEnd)) then none
  else
    let host ← parseHost? special hostText
    let (port, path) ← splitPort? scheme tail
    return {
      scheme
      user := percentEncode inUser user
      password := percentEncode inUser password
      host := some host
      port
      path := .segments (pathFromTop special path) }

/-! ## Files -/

/-- The URL of a file behind two slashes: a host, and a path from the top.  The letter of a drive at
the top takes the place of the host. -/
def fileWithHost? (rest : List Char) : Option Url := do
  let hostText := rest.takeWhile (! isSlash true ·)
  if isDriveLetter hostText then
    let path := dropEmptySegments (Walk.along { drives := true } true rest)
    return { scheme := "file", host := some .empty, path := .segments path }
  else
    let host ← if hostText.isEmpty then some .empty else parseHost? true hostText
    let host := if host == .name "localhost".toList then .empty else host
    let path := Walk.along { drives := host != .empty } true (rest.drop (hostText.length + 1))
    let host := if path.head?.any isPlainDriveLetter then .empty else host
    return { scheme := "file", host := some host, path := .segments (dropEmptySegments path) }

/-- The URL of a file whose path begins with a slash.  Where the path has no drive of its own, the
drive or else the host comes from the base. -/
def fileFromTop (rest : List Char) (base : Option Url) : Url :=
  let none' := ((Host.empty, []) : Host × List (List Char))
  let (host, drive) :=
    if beginsWithDriveLetter rest then none'
    else
      match base with
      | none => none'
      | some b =>
        match b.segments with
        | first :: _ =>
          if isPlainDriveLetter first then (.empty, [first]) else (b.host.getD .empty, [])
        | [] => (b.host.getD .empty, [])
  let path := Walk.along { path := drive, drives := true } true rest
  { scheme := "file", host := some host, path := .segments (dropEmptySegments path) }

/-- The URL of a file whose path does not begin with a slash. -/
def fileFromBase (front : List Char) (base : Option Url) : Url :=
  match base with
  | some b =>
    if beginsWithDriveLetter front then
      let path := Walk.along { drives := true } true front
      { scheme := "file", host := some .empty, path := .segments (dropEmptySegments path) }
    else
      let path := (Walk.fromLastSlash true b.segments).along true front
      { b with path := .segments (dropEmptySegments path) }
  | none =>
    let path := Walk.along { drives := true } true front
    { scheme := "file", host := some .empty, path := .segments (dropEmptySegments path) }

/-! ## References -/

/-- Adds a query and a fragment. -/
def withTail (u : Url) (p : Pieces) : Url :=
  let inThis := if isSpecial u.scheme then inSpecialQuery else inQuery
  { u with
    query := p.query.map (percentEncode inThis)
    fragment := p.fragment.map (percentEncode inFragment) }

/-- A base with a fragment in place of its own, and with a query if there is one. -/
def withTailOnly (base : Url) (p : Pieces) : Url :=
  let u := base.withTail p
  if p.query.isSome then u else { u with query := base.query }

/-- The URL of a file, completed from a base that is the URL of a file. -/
def file? (p : Pieces) (base : Option Url) : Option Url :=
  match p.front, base with
  | [], some b => some (b.withTailOnly p)
  | [], none => some ((fileFromBase [] none).withTail p)
  | [c], _ =>
    some ((if isSlash true c then fileFromTop [] base else fileFromBase [c] base).withTail p)
  | c :: d :: rest, _ =>
    if !isSlash true c then some ((fileFromBase (c :: d :: rest) base).withTail p)
    else if isSlash true d then (fileWithHost? rest).map (·.withTail p)
    else some ((fileFromTop (d :: rest) base).withTail p)

/-- What stands behind slashes, if there are at least two of either kind.  Where the first two are
plain ones, what stands behind them. -/
def dropSlashes? (s : List Char) : Option (List Char) :=
  match s with
  | '/' :: '/' :: rest => some rest
  | c :: d :: rest =>
    if isSlash true c && isSlash true d then some (rest.dropWhile (isSlash true)) else none
  | _ => none

/-- A reference without a scheme, completed from a base whose path has segments. -/
def relative? (p : Pieces) (base : Url) : Option Url :=
  let special := isSpecial base.scheme
  match dropSlashes? p.front, p.front with
  | some behind, _ => (withHost? base.scheme { p with front := behind }).map (·.withTail p)
  | none, [] => some (base.withTailOnly p)
  | none, c :: rest =>
    let path :=
      if isSlash true c then Walk.along {} special rest
      else (Walk.fromLastSlash false base.segments).along special (c :: rest)
    some ({ base with path := .segments path }.withTail p)

/-- A reference behind a scheme that is not special. -/
def plain? (scheme : String) (p : Pieces) : Option Url :=
  match p.front with
  | '/' :: '/' :: rest => (withHost? scheme { p with front := rest }).map (·.withTail p)
  | '/' :: rest =>
    let u : Url := { scheme, path := .segments (Walk.along {} false rest) }
    some (u.withTail p)
  | front =>
    let u : Url := { scheme, path := .unstructured (percentEncode isControl front) }
    some (u.withTail p)

/-- A reference behind a special scheme that is not that of files. -/
def special? (scheme : String) (p : Pieces) (base : Option Url) : Option Url :=
  match base.filter (·.scheme == scheme), dropSlashes? p.front with
  | some b, none => relative? p b
  | _, _ =>
    let behind := p.front.dropWhile (isSlash true)
    (withHost? scheme { p with front := behind }).map (·.withTail p)

/-- The text of a reference: no white space around it, no tabs and line ends in it. -/
def clean (s : String) : List Char :=
  (Text.trimBy (·.toNat ≤ 0x20) s.toList).filter fun c => c != '\t' && c != '\n' && c != '\r'

/-- The URL that a text writes, completed from a base. -/
def parse? (text : String) (base : Option Url) : Option Url :=
  let s := clean text
  match splitScheme? s with
  | some (scheme, rest) =>
    let p := pieces rest
    if scheme == "file" then file? p (base.filter (·.scheme == "file"))
    else if isSpecial scheme then special? scheme p base
    else plain? scheme p
  | none =>
    let p := pieces s
    match base with
    | none => none
    | some b =>
      if b.isUnstructured then
        match s with
        | '#' :: rest => some { b with fragment := some (percentEncode inFragment rest) }
        | _ => none
      else if b.scheme == "file" then file? p base
      else relative? p b

/-- The URL that a text refers to from a base. -/
def join? (base text : String) : Option Url := do
  let b ← parse? base none
  parse? text (some b)

end HtmlQuery.Url
