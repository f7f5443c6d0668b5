import TemplateSchema.Format.Host
/-!
Whether a text is an absolute address on the web, read as browsers read one: blanks at the ends and
line breaks anywhere do not count, and what follows the host is never wrong.
-/
set_option autoImplicit false
namespace TemplateSchema.Url

inductive Scheme where
  | file
  -- A scheme of the web, which needs a host.
  | web
  | other
  deriving DecidableEq

def isSchemeChar (c : Char) : Bool :=
  c.isAlphanum || c == '+' || c == '-' || c == '.'

def webSchemes : List String :=
  ["http", "https", "ws", "wss", "ftp"]

def Scheme.ofName (name : String) : Scheme :=
  if name = "file" then .file else if webSchemes.contains name then .web else .other

-- The scheme, and what follows its colon.
def scheme? (cs : List Char) : Option (Scheme × List Char) :=
  let name := cs.takeWhile isSchemeChar
  match cs.drop name.length with
  | ':' :: rest =>
    if name.head?.any Char.isAlpha then
      some (Scheme.ofName (String.ofList (name.map Char.toLower)), rest)
    else none
  | _ => none

def isSlash (c : Char) : Bool :=
  c == '/' || c == '\\'

def isWeb (s : Scheme) : Bool :=
  s == .web

-- Whether a character ends the part in front of the path.
def endsAuthority (s : Scheme) (c : Char) : Bool :=
  c == '/' || c == '?' || c == '#' || (isWeb s && c == '\\')

-- The characters up to the last `@` in front of the path, if there is one, and those after it.
def splitUser (s : Scheme) (cs : List Char) : Option (List Char) × List Char :=
  let authority := cs.takeWhile (!endsAuthority s ·)
  let host := (authority.reverse.takeWhile (· != '@')).reverse
  if host.length = authority.length then (none, cs)
  else (some (authority.take (authority.length - host.length - 1)), cs.drop (authority.length - host.length))

-- The host; a colon ends it outside brackets.
def splitHost (s : Scheme) (inBrackets : Bool) : List Char → List Char × List Char
  | [] => ([], [])
  | c :: rest =>
    if endsAuthority s c ∨ (c = ':' ∧ inBrackets = false) then ([], c :: rest)
    else
      let (host, behind) := splitHost s (if c = '[' then true else if c = ']' then false else inBrackets) rest
      (c :: host, behind)

-- What follows the colon behind a host: a number of sixteen bits, or none, and then the path.
def isPort (cs : List Char) : Bool :=
  let digits := cs.takeWhile Char.isDigit
  let rest := cs.drop digits.length
  Text.natOfDigits 10 (digits.filterMap Text.hexDigit?) ≤ 65535 &&
    (rest.isEmpty || rest.head?.any fun c => isSlash c || c == '?' || c == '#')

-- Whether the user's part says anything.
def namesUser (user : Option (List Char)) : Bool :=
  match user with
  | none => false
  | some cs => !cs.isEmpty && cs != [':']

-- Nothing in front of the `@` and nothing behind it before the path.
def isBareMark (s : Scheme) (user : Option (List Char)) (rest : List Char) : Bool :=
  user == some [] && rest.head?.any (endsAuthority s)

def isAuthority (s : Scheme) (cs : List Char) : Bool :=
  let (user, rest) := splitUser s cs
  let (host, behind) := splitHost s false rest
  let portIsFine := match behind with
    | ':' :: numbered => !host.isEmpty && isPort numbered
    | _ => true
  !isBareMark s user rest && portIsFine &&
    (if isWeb s then Host.isValid host else Host.isOpaque host && (!host.isEmpty || !namesUser user))

def isDriveLetter (host : List Char) : Bool :=
  match host with
  | [c, mark] => c.isAlpha && (mark == ':' || mark == '|')
  | _ => false

-- A file may be on a named host.
def isFilePath (cs : List Char) : Bool :=
  if cs.length < 2 ∨ !(cs.take 2).all isSlash then true
  else
    let host := (cs.drop 2).takeWhile fun c => !(isSlash c || c == '?' || c == '#')
    host.isEmpty || isDriveLetter host || Host.isValid host

def isLineBreak (c : Char) : Bool :=
  c == '\t' || c == '\n' || c == '\r'

def isOuterBlank (c : Char) : Bool :=
  c.toNat ≤ 0x20

def outerStripped (cs : List Char) : List Char :=
  ((cs.dropWhile isOuterBlank).reverse.dropWhile isOuterBlank).reverse

def isValid (text : String) : Bool :=
  match scheme? ((outerStripped text.toList).filter (!isLineBreak ·)) with
  | none => false
  | some (.file, rest) => isFilePath rest
  | some (.web, rest) => isAuthority .web (rest.dropWhile isSlash)
  | some (.other, rest) => match rest with
    | '/' :: '/' :: authority => isAuthority .other authority
    | _ => true

end TemplateSchema.Url
