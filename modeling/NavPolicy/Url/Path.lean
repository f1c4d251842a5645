import NavPolicy.Url.Percent

/-!
# Paths

A path is read segment by segment.  A segment of one dot is dropped, one of two dots takes
the segment before it along, and the drive letter of a file's path stays where it is.
-/

namespace NavPolicy.Url

/-- The rules by which a scheme reads what follows it. -/
inductive SchemeKind where
  /-- Files: a host is optional and drive letters are known. -/
  | file
  /-- The other schemes of the web: a host is required. -/
  | web
  /-- Any other scheme. -/
  | other
  deriving DecidableEq, Repr

def SchemeKind.isSpecial (k : SchemeKind) : Bool := k != .other

def SchemeKind.isSlash (k : SchemeKind) (c : Char) : Bool :=
  c == '/' || (c == '\\' && k.isSpecial)

/-- Whether a segment is a drive letter: a letter and a colon or a bar. -/
def isDriveLetter : List Char → Bool
  | [a, b] => a.isAlpha && (b == ':' || b == '|')
  | _ => false

def isPlainDriveLetter (s : List Char) : Bool :=
  isDriveLetter s && s.getLast? == some ':'

def decodeDots : List Char → List Char
  | [] => []
  | '%' :: '2' :: e :: rest =>
    if e = 'e' ∨ e = 'E' then '.' :: decodeDots rest else '%' :: '2' :: e :: decodeDots rest
  | c :: rest => c :: decodeDots rest

/-- A path that is partly read: its finished segments, last first, and whether a drive
letter was found in the place of the host. -/
structure PathState where
  finished : List (List Char)
  dropsHost : Bool := false

/-- Take a segment; `last` says that the path ends with it.  Two dots at the beginning of
the path take nothing along, and neither do two dots behind a drive letter. -/
def PathState.take (k : SchemeKind) (st : PathState) (segment : List Char) (last : Bool) :
    PathState :=
  let dots := decodeDots segment
  let rest := if last then [[]] else []
  if dots = ['.', '.'] then
    let kept :=
      match st.finished with
      | [] => []
      | before :: more => if isDriveLetter before then before :: more else more
    { st with finished := rest ++ kept }
  else if dots = ['.'] then { st with finished := rest ++ st.finished }
  else if k = .file && st.finished.isEmpty && isDriveLetter segment then
    { finished := [segment.take 1 ++ [':']], dropsHost := true }
  else if k = .file && st.finished.isEmpty && isPlainDriveLetter (segment.take 2) then
    { st with finished := [segment.drop 2, segment.take 2] }
  else { st with finished := segment :: st.finished }

/-- The segments of a path: the text between its slashes, each encoded where it must be. -/
def segments (k : SchemeKind) (text : List Char) : List (List Char) :=
  (text.splitOnP k.isSlash).map (percentEncode pathSet)

def takeSegments (k : SchemeKind) : PathState → List (List Char) → PathState
  | st, [] => st
  | st, [segment] => st.take k segment true
  | st, segment :: rest => takeSegments k (st.take k segment false) rest

def segmentsText (found : List (List Char)) : List Char :=
  found.flatMap ('/' :: ·)

/-- The path whose text begins after its first slash, and whether it takes the host's
place.  The path of a file has no empty segments at its beginning. -/
def readPath (k : SchemeKind) (text : List Char) : List Char × Bool :=
  let st := takeSegments k ⟨[], false⟩ (segments k text)
  let path := segmentsText st.finished.reverse
  (if k = .file then '/' :: path.dropWhile (· == '/') else path, st.dropsHost)

end NavPolicy.Url
