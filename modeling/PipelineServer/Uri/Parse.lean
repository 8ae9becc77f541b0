import PipelineServer.Uri.Basic
import PipelineServer.Uri.Host

/-!
Reading a uri and bringing it to its normal form.

A uri is a scheme, then either an authority and a path of segments, or a path without a leading
slash that is kept as it is. Schemes that browsers know (`file`, `http`, …) always have an
authority and read a backslash as a slash; in a `file` uri the authority is usually empty.
-/

namespace PipelineServer.Uri

/-- The schemes with an authority, and the number that stands behind the host by default. -/
def specialSchemes : List (String × Option Nat) :=
  [("file", none), ("http", some 80), ("https", some 443), ("ws", some 80), ("wss", some 443),
   ("ftp", some 21)]

/-- Tabs and line ends, which are not part of a uri wherever they stand. -/
def isBreak (c : Char) : Bool := c == '\t' || c == '\n' || c == '\r'

/-- A text without its breaks. -/
def clean (text : List Char) : List Char := text.filter fun c => !isBreak c

/-- A text without the controls and blanks around it. -/
def trim (text : List Char) : List Char :=
  let outer := fun c : Char => c.toNat ≤ 0x20
  ((text.dropWhile outer).reverse.dropWhile outer).reverse

/-- A text in which breaks are left only behind a colon, and there as one tab. The break sets a
drive apart from what follows. -/
def keepDriveBreaks : List Char → List Char
  | [] => []
  | c :: rest =>
      if isBreak c then keepDriveBreaks rest
      else if c == ':' && rest.head?.any isBreak then c :: '\t' :: keepDriveBreaks rest
      else c :: keepDriveBreaks rest

/-- The scheme in lowercase, and what follows its colon. -/
def scheme? (text : List Char) : Option (String × List Char) :=
  let inScheme := fun c : Char => c.isAlphanum || c == '+' || c == '-' || c == '.'
  match text, text.dropWhile inScheme with
  | first :: _, ':' :: rest =>
      if first.isAlpha then
        some (String.ofList ((text.takeWhile inScheme).map Char.toLower), rest)
      else none
  | _, _ => none

/-- A slash, or a backslash in a special uri. -/
def isSlash (special : Bool) (c : Char) : Bool := c == '/' || (special && c == '\\')

/-- Whether `c` ends a path. -/
def endsPath (c : Char) : Bool := c == '?' || c == '#'

/-- Cuts a path at its slashes. -/
def cutSegments (special : Bool) : List Char → List (List Char)
  | [] => [[]]
  | c :: rest =>
      match cutSegments special rest with
      | [] => [[c]]
      | piece :: pieces =>
          if isSlash special c then [] :: piece :: pieces else (c :: piece) :: pieces

/-- Segments that mean "here". -/
def isHere (segment : List Char) : Bool :=
  ["." , "%2e"].contains (String.ofList (segment.map Char.toLower))

/-- Segments that mean "one up". -/
def isUp (segment : List Char) : Bool :=
  ["..", ".%2e", "%2e.", "%2e%2e"].contains (String.ofList (segment.map Char.toLower))

/-- A letter and a colon or bar, the name of a drive. -/
def isDrive : List Char → Bool
  | [letter, mark] => letter.isAlpha && (mark == ':' || mark == '|')
  | _ => false

/-- Whether a segment is a drive, perhaps with a break or a backslash behind it. -/
def isDriveStart (segment : List Char) : Bool :=
  isDrive (segment.take 2) && (segment[2]?.all fun c => c == '\\' || isBreak c)

/-- Goes one segment up, but not out of a drive. The path is held in reverse. -/
def goUp : List (List Char) → List (List Char)
  | [] => []
  | last :: rest => if isDriveStart last then last :: rest else rest

/-- The drive with a break behind it that a segment starts with, and what follows. -/
def partedDrive? : List Char → Option (List Char × List Char)
  | letter :: ':' :: '\t' :: next :: rest =>
      if letter.isAlpha then some ([letter, ':', '\t'], next :: rest) else none
  | _ => none

/-- Puts a segment on the path, which is held in reverse. The drive at the start of a `file` path is
written with a colon; one with a break behind it is a segment of its own. -/
def storeSegment (file : Bool) (path : List (List Char)) (segment : List Char) :
    List (List Char) :=
  let name := clean segment
  if file && path.isEmpty then
    match partedDrive? segment with
    | some (drive, rest) => [encode pathSet (clean rest), drive]
    | none => if isDrive name then [name.take 1 ++ [':']] else [encode pathSet name]
  else encode pathSet name :: path

/-- Resolves the segments that mean "here" and "one up". The path so far is held in reverse; a
last segment of this kind leaves an empty one, so that the path still ends in a slash. -/
def resolveSegments (file : Bool) (path : List (List Char)) :
    List (List Char) → List (List Char)
  | [] => path.reverse
  | [last] =>
      if isUp last then ([] :: goUp path).reverse
      else if isHere last then ([] :: path).reverse
      else (storeSegment file path last).reverse
  | segment :: rest =>
      if isUp segment then resolveSegments file (goUp path) rest
      else if isHere segment then resolveSegments file path rest
      else resolveSegments file (storeSegment file path segment) rest

/-- A path from its segments, each after a slash. -/
def renderSegments (segments : List (List Char)) : List Char :=
  segments.flatMap fun segment => '/' :: segment

/-- Empty segments at the start of a `file` path do not count, unless nothing follows. -/
def dropEmptySegments : List (List Char) → List (List Char)
  | [] => [[]]
  | [] :: rest => dropEmptySegments rest
  | segments => segments

/-- The segments of a path that starts with a slash, given without that slash. -/
def segments (special file : Bool) (path : List Char) : List (List Char) :=
  resolveSegments file [] (cutSegments special path)

/-- The normal form of a path that starts with a slash, given without that slash. -/
def normalPath (special : Bool) (path : List Char) : List Char :=
  renderSegments (segments special false path)

/-- A path that would look like an authority is written behind a step that means "here". -/
def guardPath : List Char → List Char
  | '/' :: '/' :: rest => '/' :: '.' :: '/' :: '/' :: rest
  | path => path

/-- Query and fragment in normal form. -/
def normalTail (special : Bool) (text : List Char) : List Char :=
  let fragment := fun t : List Char =>
    match t with
    | '#' :: rest => '#' :: encode fragmentSet rest
    | _ => []
  match text with
  | '?' :: rest =>
      '?' :: encode (querySet special) (rest.takeWhile (· != '#')) ++
        fragment (rest.dropWhile (· != '#'))
  | _ => fragment text

/-- Whether `c` ends the part of a uri that names user and host. -/
def endsAuthority (special : Bool) (c : Char) : Bool := isSlash special c || endsPath c

/-- Splits what follows the two slashes at the last `@` before the path: what identifies the user,
and the rest. Without an `@` there is no user. -/
def splitUser (special : Bool) (text : List Char) : Option (List Char) × List Char :=
  let authority := text.takeWhile fun c => !endsAuthority special c
  let host := (authority.reverse.takeWhile (· != '@')).reverse
  if host.length = authority.length then (none, text)
  else
    (some (authority.take (authority.length - host.length - 1)),
      text.drop (authority.length - host.length))

/-- User name and password in normal form, with an `@` after them unless both are empty. -/
def normalUser (user : List Char) : List Char :=
  let name := encode userInfoSet (user.takeWhile (· != ':'))
  let secret := encode userInfoSet ((user.dropWhile (· != ':')).drop 1)
  if name.isEmpty && secret.isEmpty then []
  else if secret.isEmpty then name ++ ['@']
  else name ++ [':'] ++ secret ++ ['@']

/-- Splits off the host. A colon ends it, except inside brackets. -/
def splitHost (special inBrackets : Bool) : List Char → List Char × List Char
  | [] => ([], [])
  | c :: rest =>
      if endsAuthority special c || (c == ':' && !inBrackets) then ([], c :: rest)
      else
        let inBrackets := c == '[' || (inBrackets && c != ']')
        let (host, after) := splitHost special inBrackets rest
        (c :: host, after)

/-- The number behind the host in normal form, which is nothing if it is the default one, and what
follows. A slash of either kind ends it. -/
def splitService? (default : Option Nat) (text : List Char) : Option (List Char × List Char) :=
  match text with
  | ':' :: rest =>
      let digits := rest.takeWhile Char.isDigit
      let after := rest.dropWhile Char.isDigit
      let service := digits.foldl (fun n c => n * 10 + (c.toNat - 48)) 0
      if 65535 < service || after.head?.any (fun c => !endsAuthority true c) then none
      else if digits.isEmpty || some service = default then some ([], after)
      else some (':' :: Nat.toDigits 10 service, after)
  | _ => some ([], text)

/-- User, host and number in normal form, from what follows the two slashes, and what comes after
them. Without a host there can be neither user nor number. -/
def authority? (special : Bool) (default : Option Nat) (text : List Char) :
    Option (List Char × List Char) := do
  let (user, place) := splitUser special text
  let userText := (user.map normalUser).getD []
  let (hostText, afterHost) := splitHost special false place
  let host ← if special then host? hostText else plainHost? hostText
  let (serviceText, after) ← splitService? default afterHost
  let bare := user = some [] && place.head?.any (endsAuthority special)
  if host.isEmpty && (bare || !userText.isEmpty || afterHost.head? = some ':') then none
  else some (userText ++ host ++ serviceText, after)

/-- Cuts a text where the path ends. -/
def cutPath (text : List Char) : List Char × List Char :=
  (text.takeWhile (fun c => !endsPath c), text.dropWhile (fun c => !endsPath c))

/-- A `file` uri in normal form, from its host, its path without the first slash, and the rest. A
drive at the start of the path means the local machine. -/
def fileText (host path tail : List Char) : List Char :=
  let segments := segments true true path
  let host := if segments.head?.any isDrive then [] else host
  "file://".toList ++ host ++ clean (renderSegments (dropEmptySegments segments)) ++
    normalTail true (clean tail)

/-- The normal form of a `file` uri, from what follows the colon. There may be breaks where
`keepDriveBreaks` leaves them. -/
def parseFile? (rest : List Char) : Option (List Char) := do
  let slash := isSlash true
  match rest with
  | a :: b :: after =>
      if slash a && slash b then
        let isHost := fun c : Char => !endsAuthority true c
        let hostText := clean (after.takeWhile isHost)
        let (path, tail) := cutPath (after.dropWhile isHost)
        if isDrive hostText then
          let (path, tail) := cutPath after
          some (fileText [] path tail)
        else if hostText.isEmpty then some (fileText [] path tail)
        else do
          let host ← host? hostText
          if host = "localhost".toList then some (fileText [] path tail)
          else some (fileText host (path.drop 1) tail)
      else
        let (path, tail) := cutPath (if slash a then b :: after else rest)
        some (fileText [] path tail)
  | _ =>
      let (path, tail) := cutPath (rest.dropWhile slash)
      some (fileText [] path tail)

/-- The normal form of a uri with another special scheme, from what follows the colon. -/
def parseSpecial? (scheme : String) (service : Option Nat) (rest : List Char) :
    Option (List Char) := do
  let (authority, after) ← authority? true service (rest.dropWhile (isSlash true))
  let (path, tail) := cutPath after
  some (scheme.toList ++ "://".toList ++ authority ++ normalPath true (path.drop 1) ++
    normalTail true tail)

/-- The normal form of a uri with an unknown scheme, from what follows the colon. -/
def parsePlain? (scheme : String) (rest : List Char) : Option (List Char) := do
  let start := scheme.toList ++ [':']
  match rest with
  | '/' :: '/' :: text =>
      let (authority, after) ← authority? false none text
      let (path, tail) := cutPath after
      let path :=
        match path with
        | [] => []
        | '/' :: inner => normalPath false inner
        | _ => normalPath false path
      some (start ++ "//".toList ++ authority ++ path ++ normalTail false tail)
  | '/' :: text =>
      let (path, tail) := cutPath text
      some (start ++ guardPath (normalPath false path) ++ normalTail false tail)
  | _ =>
      let (path, tail) := cutPath rest
      some (start ++ encode controlSet path ++ normalTail false tail)

/-- Reads an absolute uri. -/
def parse? (text : String) : Option Uri := do
  let (scheme, rest) ← scheme? (keepDriveBreaks (trim text.toList))
  let normal ←
    match specialSchemes.lookup scheme with
    | some number =>
        if scheme = "file" then parseFile? (rest.dropWhile isBreak)
        else parseSpecial? scheme number (clean rest)
    | none => parsePlain? scheme (clean rest)
  some ⟨String.ofList normal⟩

end PipelineServer.Uri
