import RpcPipeline.Uri.Address
import RpcPipeline.Uri.Domain

/-!
# `RpcPipeline.Uri.Url`: absolute URLs

An absolute URL has a scheme and may have a host. The schemes of the web are
special: their hosts are domain names or internet addresses, any number of
slashes or backslashes leads to the host, the port that goes without saying is
left out, and the path is never empty. The host of any other scheme is a text
that is kept as it is.

* `Url.parse`: reads an absolute URL.
* `Url.text`: writes it.
* `Url.hostText?`: the host as it stands in the URL.
* `UrlError.message`: why a text is no absolute URL.
-/

set_option autoImplicit false

namespace RpcPipeline

open RpcPipeline.Text (pieces)

/-- Why a text is no absolute URL. -/
inductive UrlError where
  | noScheme
  | emptyHost
  | badPort
  | badV4
  | badV6
  | badDomain
  | badHostCharacter
  deriving Repr, DecidableEq

/-- The text of an error. -/
def UrlError.message : UrlError → String
  | noScheme => "relative URL without a base"
  | emptyHost => "empty host"
  | badPort => "invalid port number"
  | badV4 => "invalid IPv4 address"
  | badV6 => "invalid IPv6 address"
  | badDomain => "invalid international domain name"
  | badHostCharacter => "invalid domain character"

/-- A host. -/
inductive UrlHost where
  /-- A name, not empty. -/
  | name (text : String)
  | address (a : Address)
  deriving Repr, DecidableEq

/-- A host as it stands in a URL. -/
def UrlHost.text : UrlHost → String
  | name text => text
  | address (.v4 bytes) => bytes.text
  | address (.v6 groups) => "[" ++ groups.compressed ++ "]"

/-- An absolute URL. What follows the host is kept as text. -/
structure Url where
  scheme : String
  userInfo : String
  host : Option UrlHost
  /-- The port, unless it is the one of the scheme. -/
  port : Option UInt16
  /-- Path, query and fragment. -/
  rest : String
  deriving Repr, DecidableEq

namespace Url

/-- How the rules treat a scheme. -/
inductive Kind where
  | web
  | file
  | other
  deriving Repr, DecidableEq

/-- The kind of a scheme. -/
def Kind.of (scheme : String) : Kind :=
  if ["http", "https", "ws", "wss", "ftp"].contains scheme then .web
  else if scheme = "file" then .file
  else .other

/-- The port that goes without saying. -/
def knownPort? (scheme : String) : Option UInt16 :=
  if scheme = "http" || scheme = "ws" then some 80
  else if scheme = "https" || scheme = "wss" then some 443
  else if scheme = "ftp" then some 21
  else none

/-- Whether a character separates the parts of a path. -/
def isSlash (kind : Kind) (c : Char) : Bool := c = '/' || (kind ≠ .other && c = '\\')

/-- Whether a character ends what stands before the path. -/
def endsAuthority (kind : Kind) (c : Char) : Bool := isSlash kind c || c = '?' || c = '#'

/-- Reads a scheme up to its colon, in lower case. -/
def parseScheme? (cs : List Char) : Option (String × List Char) :=
  let name := cs.takeWhile fun c => c.isAlphanum || c = '+' || c = '-' || c = '.'
  match name, cs.drop name.length with
  | first :: _, ':' :: rest =>
    if first.isAlpha then some (String.ofList (name.map Char.toLower), rest) else none
  | _, _ => none

/-! ### Hosts -/

/-- A number of an address of version 4: decimal, octal behind a zero, or
hexadecimal behind `0x`. -/
def parseV4Number? (cs : List Char) : Option Nat :=
  let read (base : Nat) (digits : List Char) : Option Nat :=
    digits.foldlM
      (fun n c =>
        match Text.Percent.hexValue? c with
        | some d => if d < base then some (base * n + d) else none
        | none => none)
      0
  match cs with
  | [] => none
  | '0' :: 'x' :: digits => read 16 digits
  | '0' :: 'X' :: digits => read 16 digits
  | '0' :: d :: digits => read 8 (d :: digits)
  | digits => read 10 digits

/-- The parts of a name between dots, without an empty one at its end. -/
def nameParts (cs : List Char) : List (List Char) :=
  let parts := pieces (· = '.') cs
  if parts.getLast? = some [] then parts.dropLast else parts

/-- Whether a name ends in a number, and so has to be an address. -/
def endsInNumber (cs : List Char) : Bool :=
  match (nameParts cs).getLast? with
  | some last =>
    (!last.isEmpty && last.all Char.isDigit) || (parseV4Number? last).isSome
  | none => false

/-- Reads an address of version 4 of one to four numbers, the last of which fills
all bytes that are left. -/
def parseV4? (cs : List Char) : Option V4 := do
  let numbers ← (nameParts cs).mapM parseV4Number?
  let last ← numbers.getLast?
  let bytes := numbers.dropLast
  -- Each number but the last is one byte; the last fills what they leave.
  if 3 < bytes.length || bytes.any (255 < ·) || Nat.pow 256 (4 - bytes.length) ≤ last then none
  return V4.ofNat <|
    bytes.foldl (fun n b => 256 * n + b) 0 * Nat.pow 256 (4 - bytes.length) + last

/-- Reads a host between brackets. -/
def parseBracketed (cs : List Char) : Except UrlError UrlHost :=
  match cs.getLast?, V6.parse? cs.dropLast with
  | some ']', some groups => .ok (.address (.v6 groups))
  | _, _ => .error .badV6

/-- Reads the host of a special scheme. -/
def parseSpecialHost (cs : List Char) : Except UrlError UrlHost :=
  match cs with
  | '[' :: rest => parseBracketed rest
  | _ =>
    match String.fromUTF8? ⟨(Text.Percent.decodeBytes cs).toArray⟩ with
    | none => .error .badDomain
    | some decoded =>
      match Domain.toAscii? decoded.toList with
      | none => .error .badDomain
      | some [] => .error .emptyHost
      | some domain =>
        -- A name that ends in a number is an address, or it is wrong.
        if endsInNumber domain then
          match parseV4? domain with
          | some bytes => .ok (.address (.v4 bytes))
          | none => .error .badV4
        else .ok (.name (String.ofList domain))

/-- Reads the host of a scheme that is not special; none if it is empty. -/
def parseOpaqueHost (cs : List Char) : Except UrlError (Option UrlHost) :=
  match cs with
  | [] => .ok none
  | '[' :: rest => (parseBracketed rest).map some
  | _ =>
    if cs.any fun c => c = '\x00' || " #/:<>?@[\\]^|".toList.contains c then
      .error .badHostCharacter
    else
      .ok (some (.name (Text.Percent.encode Text.Percent.isControl (String.ofList cs))))

/-- Cuts a text behind its host: at a colon outside brackets, or where the path
begins. -/
def cutHost (kind : Kind) (bracketed : Bool) : List Char → List Char × List Char
  | [] => ([], [])
  | c :: rest =>
    if endsAuthority kind c || (c = ':' && !bracketed && kind ≠ .file) then ([], c :: rest)
    else
      let (host, rest) := cutHost kind (c = '[' || (bracketed && c ≠ ']')) rest
      (c :: host, rest)

/-! ### User, port, path -/

/-- Cuts a user name and password off, up to the last at sign before the path. -/
def cutUser (kind : Kind) (cs : List Char) : Option (List Char) × List Char :=
  -- A user name may hold at signs itself; the last one ends it.
  let authority := cs.takeWhile (! endsAuthority kind ·)
  if authority.contains '@' then
    let host := (authority.reverse.takeWhile (· ≠ '@')).reverse
    (some (authority.take (authority.length - host.length - 1)),
      host ++ cs.drop authority.length)
  else (none, cs)

/-- A user name and password as they stand before the host. -/
def userText (cs : List Char) : String :=
  let encode (part : List Char) : String :=
    Text.Percent.encode Text.Percent.inUserInfo (String.ofList part)
  let name := cs.takeWhile (· ≠ ':')
  let password := (cs.drop name.length).drop 1
  if password.isEmpty then (if name.isEmpty then "" else encode name ++ "@")
  else encode name ++ ":" ++ encode password ++ "@"

/-- Reads the digits of a port, and what follows them. -/
def parsePort (scheme : String) (cs : List Char) : Except UrlError (Option UInt16 × List Char) :=
  let digits := cs.takeWhile Char.isDigit
  let rest := cs.drop digits.length
  let port := digits.foldl (fun n c => 10 * n + (c.toNat - 48)) 0
  let ends :=
    match rest with
    | [] => true
    | c :: _ => c = '/' || c = '\\' || c = '?' || c = '#'
  if 65535 < port || !ends then .error .badPort
  else if digits.isEmpty || knownPort? scheme = some (UInt16.ofNat port) then .ok (none, rest)
  else .ok (some (UInt16.ofNat port), rest)

/-- A part of a path that stands for the directory it is in. -/
def isSingleDot (part : String) : Bool := part = "." || part = "%2e" || part = "%2E"

/-- A part of a path that stands for the directory above. -/
def isDoubleDot (part : String) : Bool :=
  ["..", ".%2e", "%2e.", "%2e%2e"].contains (part.map Char.toLower)

/-- Whether a part of a path starts with the letter of a drive: a letter and a
colon or bar, with nothing or a backslash behind them. -/
def namesDrive (part : String) : Bool :=
  match part.toList with
  | letter :: mark :: rest =>
    letter.isAlpha && (mark = ':' || mark = '|') && (rest.head?.all (· = '\\'))
  | _ => false

/-- The directory above. There is none above a drive, wherever in a path it
stands. -/
def goUp : List String → List String
  | [] => []
  | part :: done => if namesDrive part then part :: done else done

/-- Follows the dots in the parts of a path. The parts so far come in reverse. -/
def followDots : List String → (parts : List String) → List String
  | done, [] => done.reverse
  -- Dots at the end leave an empty part, so that the path ends in a slash.
  | done, [last] =>
    if isDoubleDot last then ("" :: goUp done).reverse
    else if isSingleDot last then ("" :: done).reverse
    else (last :: done).reverse
  | done, part :: rest =>
    if isDoubleDot part then followDots (goUp done) rest
    else if isSingleDot part then followDots done rest
    else followDots (part :: done) rest

/-- The parts of a path that starts behind its first slash. -/
def pathParts (kind : Kind) (cs : List Char) : List String :=
  followDots [] <| (pieces (isSlash kind) cs).map fun part =>
    Text.Percent.encode Text.Percent.inPath (String.ofList part)

/-- Writes a path that starts behind its first slash. -/
def pathText (kind : Kind) (cs : List Char) : String :=
  let parts := pathParts kind cs
  let parts := if kind = .file then
      -- A path to a file has one slash in front.
      let kept := parts.dropWhile (· = "")
      if kept.isEmpty then [""] else kept
    else parts
  "/" ++ "/".intercalate parts

/-- Writes path, query and fragment. -/
def restText (kind : Kind) (cs : List Char) : String :=
  let path := cs.takeWhile fun c => c ≠ '?' && c ≠ '#'
  let behind := cs.drop path.length
  let query := behind.takeWhile (· ≠ '#')
  let fragment := behind.drop query.length
  let pathPart :=
    match path with
    | [] => if kind = .other then "" else "/"
    | c :: rest => if isSlash kind c then pathText kind rest else pathText kind (c :: rest)
  let reserved := if kind = .other then Text.Percent.inQuery else Text.Percent.inSpecialQuery
  let queryPart :=
    match query with
    | '?' :: q => "?" ++ Text.Percent.encode reserved (String.ofList q)
    | _ => ""
  let fragmentPart :=
    match fragment with
    | '#' :: f => "#" ++ Text.Percent.encode Text.Percent.inFragment (String.ofList f)
    | _ => ""
  pathPart ++ queryPart ++ fragmentPart

/-! ### Whole URLs -/

/-- A URL without a host. -/
def withoutHost (scheme : String) (cs : List Char) : Url :=
  ⟨scheme, "", none, none, String.ofList cs⟩

/-- Reads what follows the two slashes of a URL that may have a host. -/
def parseAuthority (scheme : String) (kind : Kind) (cs : List Char) : Except UrlError Url := do
  let (user, afterUser) := cutUser kind cs
  let atEnd :=
    match afterUser with
    | [] => false
    | c :: _ => endsAuthority kind c
  -- An at sign with nothing on either side.
  if user = some [] && atEnd then throw .emptyHost
  let userInfo := userText (user.getD [])
  let (hostText, afterHost) := cutHost kind false afterUser
  let host ←
    if kind = .web then
      if hostText.isEmpty then throw .emptyHost else some <$> parseSpecialHost hostText
    else parseOpaqueHost hostText
  match afterHost with
  | ':' :: portText =>
    if host.isNone then throw .emptyHost
    let (port, rest) ← parsePort scheme portText
    return ⟨scheme, userInfo, host, port, restText kind rest⟩
  | rest =>
    if host.isNone && userInfo ≠ "" then throw .emptyHost
    return ⟨scheme, userInfo, host, none, restText kind rest⟩

/-- Reads what follows the two slashes of a URL of a file. The local host and a
drive are no hosts. -/
def parseFileAuthority (cs : List Char) : Except UrlError Url := do
  let (hostText, rest) := cutHost .file false cs
  if hostText.isEmpty || namesDrive (String.ofList hostText) then return withoutHost "file" cs
  let host ← parseSpecialHost hostText
  let path := rest.takeWhile fun c => c ≠ '?' && c ≠ '#'
  let startsAtDrive := (pathParts .file (path.drop 1)).head?.any namesDrive
  if host = .name "localhost" || startsAtDrive then return withoutHost "file" rest
  return ⟨"file", "", some host, none, restText .file rest⟩

/-- Reads an absolute URL. Blanks and controls around it, and tabs and line ends
in it, do not count. -/
def parse (text : String) : Except UrlError Url :=
  let blank (c : Char) : Bool := c.toNat ≤ 0x20
  let trimmed := ((text.toList.dropWhile blank).reverse.dropWhile blank).reverse
  let cs := trimmed.filter fun c => c ≠ '\t' && c ≠ '\n' && c ≠ '\r'
  match parseScheme? cs with
  | none => .error .noScheme
  | some (scheme, rest) =>
    match Kind.of scheme with
    -- Any number of slashes, also none, leads to the host.
    | .web => parseAuthority scheme .web (rest.dropWhile (isSlash .web))
    | .file =>
      match rest with
      | a :: b :: rest =>
        if isSlash .file a && isSlash .file b then parseFileAuthority rest
        else .ok (withoutHost scheme (a :: b :: rest))
      | rest => .ok (withoutHost scheme rest)
    | .other =>
      match rest with
      | '/' :: '/' :: rest => parseAuthority scheme .other rest
      | rest => .ok (withoutHost scheme rest)

/-- The host as it stands in the URL. -/
def hostText? (url : Url) : Option String := url.host.map UrlHost.text

/-- Writes a URL that has a host. -/
def text (url : Url) : String :=
  url.scheme ++ "://" ++ url.userInfo ++ (url.hostText?.getD "") ++
    (match url.port with
      | some port => ":" ++ toString port.toNat
      | none => "") ++ url.rest

end Url

end RpcPipeline
