import Replay.Http.Host

/-!
URLs in their normal form: the scheme in lower case, the host and the port in one of their spellings,
steps up and down the path taken, and characters that a URL cannot hold percent-encoded.
-/

namespace Replay.Http

/-- A scheme decides which slashes count, and how a host is read. -/
inductive SchemeKind
  | web
  | file
  | other
  deriving DecidableEq, Repr

structure Url where
  scheme : String
  user : List Char
  password : Option (List Char)
  host : Option (List Char)
  /-- The port, unless it is the usual one. -/
  port : Option Nat
  path : List Char
  /-- The query with its question mark. -/
  query : List Char
  /-- The fragment with its number sign. -/
  fragment : List Char
  deriving DecidableEq, Repr

namespace Url

/-! Writing -/

def credentialsText (url : Url) : List Char :=
  if url.user = [] ∧ url.password = none then []
  else url.user ++ (url.password.map (':' :: ·)).getD [] ++ ['@']

/-- The host with what belongs to it. A path without a host must not look like one. -/
def authorityText (url : Url) : List Char :=
  match url.host with
  | some host =>
    ['/', '/'] ++ url.credentialsText ++ host ++ (url.port.map (':' :: Nat.toDigits 10 ·)).getD []
  | none => if ['/', '/'].isPrefixOf url.path then ['/', '.'] else []

def text (url : Url) : String :=
  String.ofList (url.scheme.toList ++ ':' :: url.authorityText ++ url.path ++ url.query ++ url.fragment)

def target (url : Url) : String := String.ofList (url.path ++ url.query)

/-! Characters -/

def fragmentSet : List Char := [' ', '"', '<', '>', '`']
def pathSet : List Char := fragmentSet ++ ['#', '?', '{', '}']
def credentialsSet : List Char := pathSet ++ ['/', ':', ';', '=', '@', '[', '\\', ']', '^', '|']

def querySet : SchemeKind → List Char
  | .other => [' ', '"', '#', '<', '>']
  | _ => [' ', '"', '#', '<', '>', '\'']

def isSlash (kind : SchemeKind) (c : Char) : Bool := c == '/' || (kind != .other && c == '\\')

def clean (text : List Char) : List Char :=
  let isOuter (c : Char) : Bool := c.toNat ≤ 0x20
  (((text.dropWhile isOuter).reverse.dropWhile isOuter).reverse).filter
    fun c => c ≠ '\t' && c ≠ '\n' && c ≠ '\r'

/-! Schemes -/

def isSchemeChar (c : Char) : Bool := c.isAlphanum || c == '+' || c == '-' || c == '.'

def splitScheme? (text : List Char) : Option (String × List Char) :=
  if text.head?.any Char.isAlpha then
    match text.dropWhile isSchemeChar with
    | ':' :: rest => some (String.ofList ((text.takeWhile isSchemeChar).map Char.toLower), rest)
    | _ => none
  else none

def schemeKind : String → SchemeKind
  | "http" | "https" | "ws" | "wss" | "ftp" => .web
  | "file" => .file
  | _ => .other

def usualPort? : String → Option Nat
  | "http" | "ws" => some 80
  | "https" | "wss" => some 443
  | "ftp" => some 21
  | _ => none

/-! Paths -/

def isPoints (segment : List Char) : Nat → Bool
  | 0 => segment == []
  | count + 1 =>
    match segment.map Char.toLower with
    | '.' :: rest => isPoints rest count
    | '%' :: '2' :: 'e' :: rest => isPoints rest count
    | _ => false

def isDrive : List Char → Bool
  | [letter, mark] => letter.isAlpha && (mark == ':' || mark == '|')
  | _ => false

/-- A step up. No step leaves a drive. The segments are in reverse order. -/
def stepUp (taken : List (List Char)) : List (List Char) :=
  if taken.head?.any isDrive then taken else taken.drop 1

/-- Takes the segments of a path one by one; those taken so far are in reverse order. -/
def normalizeSegments (taken : List (List Char)) : List (List Char) → List (List Char)
  | [] => taken.reverse
  | [last] =>
    if isPoints last 2 then (([] : List Char) :: stepUp taken).reverse
    else if isPoints last 1 then (([] : List Char) :: taken).reverse
    else (Percent.encode pathSet last :: taken).reverse
  | segment :: rest =>
    if isPoints segment 2 then normalizeSegments (stepUp taken) rest
    else if isPoints segment 1 then normalizeSegments taken rest
    else normalizeSegments (Percent.encode pathSet segment :: taken) rest

def dropEmpty : List (List Char) → List (List Char)
  | [] :: next :: rest => dropEmpty (next :: rest)
  | segments => segments

def normalPath (kind : SchemeKind) (path : List Char) : List Char :=
  let body := match path with
    | c :: rest => if isSlash kind c then rest else path
    | [] => []
  let segments := normalizeSegments [] (Text.pieces (isSlash kind) body)
  '/' :: List.intercalate ['/'] (if kind = .file then dropEmpty segments else segments)

/-! Hosts and ports -/

def normalHost? (kind : SchemeKind) (host : List Char) : Option (List Char) :=
  if kind = .other then Host.normal? Host.normalOpaque? host else Host.normal? Host.normalName? host

/-- The host, and what follows it from a colon on. Colons between brackets belong to the host. -/
def splitHost (inBrackets : Bool) : List Char → List Char × List Char
  | [] => ([], [])
  | c :: rest =>
    if c = ':' ∧ !inBrackets then ([], c :: rest)
    else
      let (host, port) := splitHost (if c = '[' then true else if c = ']' then false else inBrackets) rest
      (c :: host, port)

def port? (scheme : String) : List Char → Option (Option Nat)
  | [] => some none
  | [':'] => some none
  | ':' :: digits =>
    (Numeral.readDigits? digits).bind fun port =>
      if twoTo 16 ≤ port then none
      else if usualPort? scheme = some port then some none
      else some (some port)
  | _ => none

/-! Reading -/

def splitBefore (c : Char) (text : List Char) : List Char × List Char :=
  (text.takeWhile (· != c), text.dropWhile (· != c))

def encodeMarked (set : List Char) : List Char → List Char
  | [] => []
  | mark :: rest => mark :: Percent.encode set rest

def withRest (url : Url) (normalPath : List Char → List Char) (rest : List Char) : Url :=
  let (rest, fragment) := splitBefore '#' rest
  let (path, query) := splitBefore '?' rest
  { url with
    path := normalPath path
    query := encodeMarked (querySet (schemeKind url.scheme)) query
    fragment := encodeMarked fragmentSet fragment }

def ofScheme (scheme : String) : Url := ⟨scheme, [], none, none, none, [], [], []⟩

/-- The name and the password in front of a host. An empty password is none. -/
def withCredentials (url : Url) (credentials : List Char) : Url :=
  let (user, password) := splitBefore ':' credentials
  { url with
    user := Percent.encode credentialsSet user
    password :=
      if password.length ≤ 1 then none else some (Percent.encode credentialsSet (password.drop 1)) }

/-- A host may be empty outside the web, with nothing before or after it. -/
def hostFits (kind : SchemeKind) (url : Url) (host port : List Char) : Bool :=
  host != [] || (kind == .other && port == [] && url.credentialsText == [])

/-- What follows two slashes: credentials, the host, the port, and the rest. A backslash ends a port in
any scheme. -/
def readAuthority? (url : Url) (text : List Char) : Option Url := do
  let kind := schemeKind url.scheme
  let isEnd (c : Char) : Bool := isSlash kind c || c == '?' || c == '#'
  let authority := text.takeWhile (!isEnd ·)
  let rest := text.dropWhile (!isEnd ·)
  if authority = ['@'] ∧ rest ≠ [] then none
  let (credentials, authority) := (Text.cutAtLast (· == '@') authority).getD ([], authority)
  let url := url.withCredentials credentials
  let (host, port) := splitHost false authority
  let (port, beyond) := splitBefore '\\' port
  if !hostFits kind url host port then none
  let host ← normalHost? kind host
  let port ← port? url.scheme port
  let path (path : List Char) := if kind = .other ∧ path = [] then [] else normalPath kind path
  return { url with host := some host, port }.withRest path (beyond ++ rest)

def fileHost? (host : List Char) : Option (List Char) :=
  if host = [] then some []
  else (normalHost? .file host).map fun host => if host = "localhost".toList then [] else host

def readFile? (url : Url) (text : List Char) : Option Url :=
  let isSlash := isSlash .file
  match text with
  | first :: second :: text =>
    if isSlash first && isSlash second then
      let isEnd (c : Char) : Bool := isSlash c || c == '?' || c == '#'
      let host := text.takeWhile (!isEnd ·)
      if isDrive host then some ({ url with host := some [] }.withRest (normalPath .file) text)
      else
        (fileHost? host).map fun host =>
          { url with host := some host }.withRest (normalPath .file) (text.dropWhile (!isEnd ·))
    else some ({ url with host := some [] }.withRest (normalPath .file) (first :: second :: text))
  | text => some ({ url with host := some [] }.withRest (normalPath .file) text)

/-- What follows any other scheme. A path that begins with no slash is taken as it is. -/
def readOther? (url : Url) : List Char → Option Url
  | '/' :: '/' :: text => url.readAuthority? text
  | '/' :: text => some (url.withRest (normalPath .other) ('/' :: text))
  | text => some (url.withRest (Percent.encode []) text)

def read? (text : String) : Option Url := do
  let (scheme, rest) ← splitScheme? (clean text.toList)
  let url := ofScheme scheme
  match schemeKind scheme with
  | .web => url.readAuthority? (rest.dropWhile (isSlash .web))
  | .file => url.readFile? rest
  | .other => url.readOther? rest

/-! Requests -/

/-- The URL without the name and the password. They stay if the name is not one of text, or if there
is nothing in them to be taken. -/
def withoutCredentials (url : Url) : Url :=
  let password := url.password.bind Percent.decode?
  if (Percent.decode? url.user).isSome ∧ (url.user ≠ [] ∨ password.isSome) then
    { url with user := [], password := none }
  else url

/-- Characters that a host may hold, but that no request can name. -/
def unsendable : List Char := ['"', '`', '{', '}']

def acceptsRequests (url : Url) : Bool :=
  (url.scheme == "http" || url.scheme == "https") &&
    !(url.host.getD []).any unsendable.contains && url.text.length ≤ 65534

end Url

end Replay.Http
