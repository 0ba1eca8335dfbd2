import LessonLang.Address.Numeric

/-!
Addresses of repositories.

* An `Address` says where a repository is: at a path of this machine, or on another machine, to be
  reached over a secure shell or the network.
* `Address.ofText` reads an address. A scheme and two slashes at the start make it a locator, in which
  a host follows and percent signs escape bytes; a host and a colon name a secure shell; anything else
  is a path.
* `AddressFault` is a reason why a text is no address that can be used.
-/

namespace LessonLang

/-- What can be wrong with a locator. -/
inductive LocatorIssue where
  | control
  | colonInFirstElement
  | escape (part : Text)
  | hostCharacter (b : UInt8)
  | user
  | portPart (part : Text)
  | openBracket
  | notLong
  | host (numeric : Text) (i : NumericIssue)
  deriving DecidableEq, Repr

/-- The issue in words. -/
def LocatorIssue.message : LocatorIssue → Text
  | control => utf8 "net/url: invalid control character in URL"
  | colonInFirstElement => utf8 "first path segment in URL cannot contain colon"
  | escape part => utf8 "invalid URL escape " ++ part.quoted
  | hostCharacter b => utf8 "invalid character " ++ Text.quoted [b] ++ utf8 " in host name"
  | user => utf8 "net/url: invalid userinfo"
  | portPart part => utf8 "invalid port " ++ part.quoted ++ utf8 " after host"
  | openBracket => utf8 "missing ']' in host"
  | notLong => utf8 "invalid IP-literal"
  | host numeric i => utf8 "invalid host: " ++ i.message numeric

/-- Why a text is no address that can be used. -/
inductive AddressFault where
  | malformed (part : Text) (i : LocatorIssue)
  | noScheme (written : Text)
  | unknownScheme (scheme : Text)
  deriving DecidableEq, Repr

/-- The fault in words. -/
def AddressFault.message : AddressFault → Text
  | malformed part i => utf8 "parse " ++ part.quoted ++ utf8 ": " ++ i.message
  | noScheme written => utf8 "permanent client error: invalid endpoint: " ++ written
  | unknownScheme scheme => utf8 "unsupported scheme " ++ scheme.quoted

/-- Where a repository is. -/
inductive Address where
  | path (p : Text)
  | secureShell
  | network
  deriving DecidableEq, Repr

namespace Locator

/-! ### Escapes -/

/-- Where an escape stands. In a host only some bytes may be escaped, and only some may not. -/
inductive Site where
  | host | zone | elsewhere
  deriving DecidableEq, Repr

/-- A byte that stands for itself in a host. -/
def isHostByte (b : UInt8) : Bool :=
  isLetter b || isDigit b || 0x80 ≤ b || (utf8 "!$&'()*+,;=:[]<>\"-_.~").contains b

/-- The byte with these hexadecimal digits may be escaped. -/
def mayEscape (site : Site) (high low : Nat) : Bool :=
  let b := (16 * high + low).toUInt8
  b == 0x25 || match site with
    | .host => 8 ≤ high
    | .zone => b == 0x20 || (b < 0x80 && isHostByte b)
    | .elsewhere => true

/-- Replaces escapes by the bytes they stand for. -/
def unescape (site : Site) : Text → Except LocatorIssue Text
  | [] => .ok []
  | b :: rest =>
    if b == 0x25 then
      match rest with
      | x :: y :: rest =>
        match hexValue? x, hexValue? y with
        | some high, some low =>
          if mayEscape site high low then
            (unescape site rest).map ((16 * high + low).toUInt8 :: ·)
          else .error (.escape [b, x, y])
        | _, _ => .error (.escape [b, x, y])
      | rest => .error (.escape (b :: rest))
    else if site != .elsewhere && !isHostByte b then .error (.hostCharacter b)
    else (unescape site rest).map (b :: ·)

/-! ### Hosts -/

/-- A colon and digits, or nothing. -/
def isPort : Text → Bool
  | [] => true
  | b :: rest => b == 0x3a && rest.all isDigit

/-- The part of a text from the last occurrence of a byte on. -/
def fromLast? (b : UInt8) (t : Text) : Option Text :=
  if t.contains b then
    let after := (t.reverse.takeWhile (· != b)).reverse
    some (b :: after)
  else none

/-- A host between brackets may have a zone, which an escaped percent sign is in front of. -/
def unescapeNumeric (t : Text) : Except LocatorIssue Text :=
  let mark := utf8 "%25"
  match (List.range t.length).find? fun i => Text.startsWith (t.drop i) mark with
  | none => unescape .host t
  | some i => do
    let host ← unescape .host (t.take i)
    let zone ← unescape .zone (t.drop i)
    pure (host ++ zone)

/-- Checks a host that starts with a bracket. -/
def checkNumeric (t : Text) : Except LocatorIssue Unit :=
  match fromLast? 0x5d t with
  | none => .error .openBracket
  | some close => do
    let number := close.drop 1
    if !isPort number then throw (.portPart number)
    let inner := (t.drop 1).take (t.length - close.length - 1)
    let numeric ← unescapeNumeric inner
    match readNumeric numeric with
    | .ok .long => pure ()
    | .ok .short => throw .notLong
    | .error i => throw (.host numeric i)

/-- Checks a host, which a colon and a number may follow. -/
def checkHost (t : Text) : Except LocatorIssue Unit :=
  match fromLast? 0x5b t with
  | some bracketed =>
    if bracketed.length < t.length then .error .notLong else checkNumeric t
  | none =>
    match fromLast? 0x3a t with
    | some number =>
      if isPort number then (unescape .host t).map fun _ => () else .error (.portPart number)
    | none => (unescape .host t).map fun _ => ()

/-- A byte that may stand in the name of a user. -/
def isUserByte (b : UInt8) : Bool :=
  isLetter b || isDigit b || (utf8 "-._:~!$&'()*+,;=%@").contains b

/-- Checks a host, which the name of a user may be in front of. -/
def checkAuthority (t : Text) : Except LocatorIssue Unit :=
  match fromLast? 0x40 t with
  | none => checkHost t
  | some host => do
    let user : Text := t.take (t.length - host.length)
    checkHost (host.drop 1)
    if !user.all isUserByte then throw .user
    let (name, word) := user.cut 0x3a
    let _ ← unescape .elsewhere name
    let _ ← unescape .elsewhere (word.getD [])

/-! ### Locators -/

/-- Splits a scheme off. It starts with a letter and ends at a colon. -/
def splitScheme (t : Text) : Text × Text :=
  let isMark (b : UInt8) := (utf8 "+-.").contains b
  let scheme := t.takeWhile fun b => isLetter b || isDigit b || isMark b
  if scheme.head?.any isLetter && (t.drop scheme.length).head? == some 0x3a then
    (scheme, t.drop (scheme.length + 1))
  else ([], t)

/-- A letter in lower case. -/
def lower (b : UInt8) : UInt8 := if 0x41 ≤ b && b ≤ 0x5a then b + 0x20 else b

/-- Splits a query off, without its question mark. -/
def splitQuery (t : Text) : Text × Text :=
  let (before, query) := t.cut 0x3f
  (before, query.getD [])

/-- A locator: its scheme, and its path with the query. -/
structure Parts where
  scheme : Text
  path : Text
  query : Text

/-- Reads a locator without a fragment. -/
def readParts (t : Text) : Except LocatorIssue Parts := do
  if t.any fun b => b < 0x20 || b == 0x7f then throw .control
  let (scheme, rest) := splitScheme t
  let scheme := scheme.map lower
  let (rest, query) := splitQuery rest
  if scheme.isEmpty && rest.head? != some 0x2f && (rest.cut 0x2f).1.contains 0x3a then
    throw .colonInFirstElement
  let slashes := utf8 "//"
  let path ←
    if rest.startsWith slashes && !(scheme.isEmpty && rest.startsWith (utf8 "///")) then do
      let authority := (rest.drop 2).takeWhile (· != 0x2f)
      checkAuthority authority
      pure (rest.drop (2 + authority.length))
    else pure rest
  pure ⟨scheme, ← unescape .elsewhere path, query⟩

/-- Reads a locator. Gives its scheme and what it names within that: the path, followed by the query
and the fragment as they are. -/
def read (t : Text) : Except AddressFault (Text × Text) := do
  let (before, fragment) := t.cut 0x23
  let fragment := fragment.getD []
  match readParts before with
  | .error i => throw (.malformed before i)
  | .ok parts =>
    match unescape .elsewhere fragment with
    | .error i => throw (.malformed t i)
    | .ok fragment =>
      let query := if parts.query.isEmpty then [] else 0x3f :: parts.query
      let fragment := if fragment.isEmpty then [] else 0x23 :: fragment
      pure (parts.scheme, parts.path ++ query ++ fragment)

end Locator

namespace Address

/-- The address starts with a scheme, a colon and two slashes. -/
def isLocator (t : Text) : Bool :=
  match t.cut 0x3a with
  | (before, some after) => !before.isEmpty && after.startsWith (utf8 "//")
  | _ => false

/-- White space of one byte. -/
def isSpace (b : UInt8) : Bool := b == 0x20 || b == 0x09 || b == 0x0a || b == 0x0c || b == 0x0d

/-- A host, a colon and a path on that host. -/
def isHostAndPath (t : Text) : Bool :=
  match t.cut 0x3a with
  | (host, some (first :: rest)) =>
    !host.isEmpty && !host.any isSpace && first != 0x5c && !rest.contains 0x0a
  | _ => false

/-- An address for a secure shell. The name of a user may be in front of the host. -/
def isSecureShell (t : Text) : Bool :=
  isHostAndPath t || match t.cut 0x40 with
    | (user, some rest) => !user.isEmpty && isHostAndPath rest
    | _ => false

/-- The address that a locator gives. -/
def ofLocator (t : Text) : Except AddressFault Address := do
  let (scheme, place) ← Locator.read t
  if scheme.isEmpty then throw (.noScheme t)
  else if scheme == utf8 "file" then pure (.path place)
  else if scheme == utf8 "ssh" then pure .secureShell
  else if [utf8 "git", utf8 "http", utf8 "https"].contains scheme then pure .network
  else throw (.unknownScheme scheme)

/-- Reads an address. -/
def ofText (t : Text) : Except AddressFault Address :=
  if isLocator t then ofLocator t
  else if isSecureShell t then .ok .secureShell
  else .ok (.path t)

end Address

end LessonLang
