import SessionSync.Text.Percent

/-!
# Addresses

The parts of an `http` or `https` address that a request needs: whom to ask and
for which target.  Dot segments of the path are resolved, backslashes count as
slashes, and characters that cannot stand in a path or a query are percent
encoded.  Percent signs stay as they are.
-/

set_option autoImplicit false

namespace SessionSync.Backend

/-- An address, taken apart. -/
structure Address where
  /-- Whom to ask: what stands between the scheme and the path. -/
  authority : String
  path : String
  query : Option String
  deriving DecidableEq, Repr

namespace Address

/-! ## Characters -/

/-- Whether a byte can stand in a path. -/
def plainInPath (byte : UInt8) : Bool :=
  let char := Char.ofNat byte.toNat
  let reserved := ['"', '<', '>', '`', '#', '?', '\x7b', '\x7d']
  0x20 < byte && byte < 0x7F && !reserved.contains char

/-- Whether a byte can stand in a query. -/
def plainInQuery (byte : UInt8) : Bool :=
  let char := Char.ofNat byte.toNat
  let reserved := ['"', '<', '>', '#', '\'']
  0x20 < byte && byte < 0x7F && !reserved.contains char

/-- Whether a character separates the segments of a path. -/
def isSlash (char : Char) : Bool := char == '/' || char == '\\'

/-- The characters of an address that count: control characters and spaces at
its ends do not, and neither do tabs and line ends anywhere. -/
def significant (text : String) : List Char :=
  let ignored := fun (char : Char) => decide (char.toNat ≤ 0x20)
  let trimmed := ((text.toList.dropWhile ignored).reverse.dropWhile ignored).reverse
  trimmed.filter fun char => !(char == '\t' || char == '\n' || char == '\r')

/-! ## Paths -/

/-- Whether a segment stands for its own directory. -/
def isHere (segment : String) : Bool := [".", "%2e"].contains segment.toLower

/-- Whether a segment stands for the directory above. -/
def isParent (segment : String) : Bool :=
  ["..", ".%2e", "%2e.", "%2e%2e"].contains segment.toLower

/-- Resolve the dot segments of a path.  The segments that are done are given in
reverse; a dot segment at the end leaves an empty segment. -/
def resolve (done : List String) : List String → List String
  | [] => done.reverse
  | segment :: rest =>
      let directory := if rest.isEmpty then [""] else []
      if isParent segment then resolve (directory ++ done.drop 1) rest
      else if isHere segment then resolve (directory ++ done) rest
      else resolve (segment :: done) rest

/-- The pieces of a text between slashes. -/
def segments (text : List Char) : List String :=
  (text.foldr
    (fun char pieces =>
      match pieces with
      | [] => [[char]]
      | piece :: later => if isSlash char then [] :: piece :: later else (char :: piece) :: later)
    [[]]).map String.ofList

/-- A path in normal form. -/
def normalPath (text : List Char) : String :=
  let relative := match text with
    | char :: rest => if isSlash char then rest else text
    | [] => []
  let encoded := (segments relative).map (Text.percentEncodeWith plainInPath)
  "/" ++ "/".intercalate (resolve [] encoded)

/-! ## Addresses -/

/-- What follows a scheme that requests can use. -/
def afterScheme? (text : List Char) : Option (List Char) :=
  ["http://", "https://"].findSome? fun scheme =>
    if scheme.toList.isPrefixOf text then some (text.drop scheme.length) else none

/-- An address from its text. -/
def ofText? (text : String) : Option Address := do
  let rest := (← afterScheme? (significant text)).dropWhile isSlash
  let atEnd := fun (char : Char) => isSlash char || char == '?' || char == '#'
  let authority := String.ofList (rest.takeWhile fun char => !atEnd char)
  if authority.isEmpty then failure
  let remainder := (rest.dropWhile fun char => !atEnd char).takeWhile fun char => char != '#'
  let path := remainder.takeWhile fun char => char != '?'
  let query := match remainder.dropWhile fun char => char != '?' with
    | _ :: query => some (Text.percentEncodeWith plainInQuery (String.ofList query))
    | [] => none
  return { authority, path := normalPath path, query }

/-- An address with further parameters in its query. -/
def withParameters (address : Address) (parameters : List (String × String)) : Address :=
  let pairs := parameters.map fun (name, value) => name ++ "=" ++ value
  let given := (address.query.filter fun query => !query.isEmpty).toList
  { address with query := some ("&".intercalate (given ++ pairs)) }

/-- What a request asks for: the path and the query. -/
def target (address : Address) : String :=
  match address.query with
  | some query => address.path ++ "?" ++ query
  | none => address.path

end Address

end SessionSync.Backend
