import Cel.Number.Numeral
import Cel.Pattern
import Cel.Token.Literal

/-! # Reading patterns

The notation of patterns: literals, the wildcard, classes with ranges, nesting and set operations,
escapes, assertions, groups, alternation, and greedy or lazy repetition, which accept the same
texts. Flags written in a group hold from there to the end of the group. Look-around and
back-references are refused, as is whatever is left open.
-/

namespace Cel.Pattern

/-- The reasons why a text is not a pattern. -/
inductive Fault where
  | nothingToRepeat | badCount
  | unclosedGroup | unopenedGroup | badGroupName | lookAround | badFlag
  | unclosedClass | badRange | notInClass
  | unfinishedEscape | unknownEscape | badCodePoint | backReference
deriving DecidableEq, Repr

def Fault.message : Fault → String
  | .nothingToRepeat => "repetition operator missing expression"
  | .badCount => "invalid repetition count"
  | .unclosedGroup => "unclosed group"
  | .unopenedGroup => "unopened group"
  | .badGroupName => "invalid capture group name"
  | .lookAround => "look-around is not supported"
  | .badFlag => "invalid flag"
  | .unclosedClass => "unclosed character class"
  | .badRange => "invalid character class range"
  | .notInClass => "invalid escape sequence found in character class"
  | .unfinishedEscape => "incomplete escape sequence"
  | .unknownEscape => "unrecognized escape sequence"
  | .badCodePoint => "hexadecimal literal is not a Unicode scalar value"
  | .backReference => "backreferences are not supported"

/-- Options that change how the text after them is read. -/
structure Flags where
  ignoreCase : Bool
  multiLine : Bool
  dotAll : Bool
  extended : Bool
deriving DecidableEq, Repr

/-- No option is set. -/
def Flags.none : Flags := ⟨false, false, false, false⟩

namespace Reader

/-- Skip blanks and comments when the notation is extended. -/
def skip (flags : Flags) (text : List Char) : List Char :=
  if flags.extended then go false text else text
where
  go (comment : Bool) : List Char → List Char
    | [] => []
    | c :: rest =>
      if comment then go (c != '\n') rest
      else if Text.whiteSpace.has c then go false rest
      else if c = '#' then go true rest
      else c :: rest

/-- The class of one literal character. -/
def literal (flags : Flags) (c : Char) : CharClass :=
  if flags.ignoreCase then .ignoringCase (.single c) else .single c

def ranges (bounds : List (Char × Char)) : CharClass :=
  bounds.foldr (fun (low, high) set => .union (.range low.toNat high.toNat) set) .none

/-! ### Escapes -/

/-- What an escape denotes. -/
inductive Escape where
  | char (c : Char)
  | set (members : CharClass)
  | assert (condition : Assertion)
deriving DecidableEq, Repr

/-- The character with the given code point. -/
def codePoint (digits : Option Nat) : Except Fault Char :=
  match digits >>= Literal.char? with
  | some c => .ok c
  | none => .error .badCodePoint

/-- A code point in hexadecimal: a fixed number of digits, or any number of them in braces. -/
def hexEscape (count : Nat) (text : List Char) : Except Fault (Char × List Char) :=
  match text with
  | '\x7b' :: rest =>
    let digits := rest.takeWhile Number.isHexDigit
    match digits, rest.drop digits.length with
    | _ :: _, '\x7d' :: after => do
      return (← codePoint (some (Number.natOf 16 0 digits)), after)
    | _, _ => .error .badCodePoint
  | text => do
    return (← codePoint (Literal.digits? 16 count text), text.drop count)

def wordBoundaryNames : List (String × Assertion) :=
  [("\x7bstart\x7d", .wordStart), ("\x7bend\x7d", .wordEnd),
    ("\x7bstart-half\x7d", .wordStartHalf), ("\x7bend-half\x7d", .wordEndHalf)]

/-- A word boundary, which may be narrowed to one side by a name in braces. -/
def wordBoundary (text : List Char) : Escape × List Char :=
  match wordBoundaryNames.find? fun (name, _) => name.toList.isPrefixOf text with
  | some (name, condition) => (.assert condition, text.drop name.length)
  | none => (.assert .wordBoundary, text)

/-- What the text after a backslash denotes, and the text after that. -/
def escape (text : List Char) : Except Fault (Escape × List Char) :=
  match text with
  | [] => .error .unfinishedEscape
  | c :: rest =>
    if Number.isDigit c then .error .backReference
    else match c with
      | 'x' => (hexEscape 2 rest).map fun (c, rest) => (.char c, rest)
      | 'u' => (hexEscape 4 rest).map fun (c, rest) => (.char c, rest)
      | 'U' => (hexEscape 8 rest).map fun (c, rest) => (.char c, rest)
      | 'd' => .ok (.set (.table digits), rest)
      | 'D' => .ok (.set (.complement (.table digits)), rest)
      | 's' => .ok (.set (.table Text.whiteSpace), rest)
      | 'S' => .ok (.set (.complement (.table Text.whiteSpace)), rest)
      | 'w' => .ok (.set (.table wordChars), rest)
      | 'W' => .ok (.set (.complement (.table wordChars)), rest)
      | 'a' => .ok (.char '\x07', rest)
      | 'f' => .ok (.char '\x0c', rest)
      | 't' => .ok (.char '\t', rest)
      | 'n' => .ok (.char '\n', rest)
      | 'r' => .ok (.char '\r', rest)
      | 'v' => .ok (.char '\x0b', rest)
      | 'A' => .ok (.assert .textStart, rest)
      | 'z' => .ok (.assert .textEnd, rest)
      | 'b' => .ok (wordBoundary rest)
      | 'B' => .ok (.assert .notWordBoundary, rest)
      | '<' => .ok (.assert .wordStart, rest)
      | '>' => .ok (.assert .wordEnd, rest)
      | c => if c.toNat < 0x80 ∧ ¬ c.isAlpha then .ok (.char c, rest) else .error .unknownEscape

/-! ### Classes -/

/-- The classes that have a name between `[:` and `:]`. -/
def namedClass? (name : String) : Option CharClass :=
  [("alnum", ranges [('0', '9'), ('A', 'Z'), ('a', 'z')]),
    ("alpha", ranges [('A', 'Z'), ('a', 'z')]),
    ("ascii", ranges [('\x00', '\x7f')]),
    ("blank", ranges [('\t', '\t'), (' ', ' ')]),
    ("cntrl", ranges [('\x00', '\x1f'), ('\x7f', '\x7f')]),
    ("digit", ranges [('0', '9')]),
    ("graph", ranges [('!', '~')]),
    ("lower", ranges [('a', 'z')]),
    ("print", ranges [(' ', '~')]),
    ("punct", ranges [('!', '/'), (':', '@'), ('[', '\x60'), ('\x7b', '~')]),
    ("space", ranges [('\t', '\r'), (' ', ' ')]),
    ("upper", ranges [('A', 'Z')]),
    ("word", ranges [('0', '9'), ('A', 'Z'), ('_', '_'), ('a', 'z')]),
    ("xdigit", ranges [('0', '9'), ('A', 'F'), ('a', 'f')])].lookup name

/-- A named class after an opening bracket, and the text after it. -/
def bracketName? (text : List Char) : Option (CharClass × List Char) :=
  match text with
  | ':' :: rest =>
    let (negated, rest) := match rest with
      | '^' :: rest => (true, rest)
      | rest => (false, rest)
    let name := rest.takeWhile (· ≠ ':')
    match namedClass? (String.ofList name), rest.drop name.length with
    | some set, ':' :: ']' :: after => some (if negated then .complement set else set, after)
    | _, _ => none
  | _ => none

/-- One member of a class: a character, or a class of its own. -/
def classItem (text : List Char) : Except Fault (Escape × List Char) :=
  match text with
  | [] => .error .unclosedClass
  | '\x5c' :: rest => escape rest
  | c :: rest => .ok (.char c, rest)

/-- A member or a range of members of a class. A hyphen before a closing bracket or another hyphen
does not make a range. -/
def classRange (flags : Flags) (text : List Char) : Except Fault (CharClass × List Char) := do
  let (first, rest) ← classItem text
  let rest := skip flags rest
  let single : Except Fault (CharClass × List Char) :=
    match first with
    | .char c => .ok (.single c, rest)
    | .set members => .ok (members, rest)
    | .assert _ => .error .notInClass
  match rest with
  | [] => .error .unclosedClass
  | '-' :: after =>
    match skip flags after with
    | [] => .error .unclosedClass
    | ']' :: _ | '-' :: _ => single
    | after =>
      let (last, rest) ← classItem after
      match first, last with
      | .char low, .char high =>
        if low ≤ high then .ok (.range low.toNat high.toNat, rest) else .error .badRange
      | _, _ => .error .badRange
  | _ => single

/-- The ways two classes are combined. -/
inductive SetOp where
  | inter | diff | symmetric
deriving DecidableEq, Repr

/-- The class of an operand so far, joined to the operands before it. -/
def combine (pending : Option (CharClass × SetOp)) (members : CharClass) : CharClass :=
  match pending with
  | none => members
  | some (left, .inter) => .inter left members
  | some (left, .diff) => .diff left members
  | some (left, .symmetric) => .union (.diff left members) (.diff members left)

/-- Whether a class is negated, the members that its opening allows without escape (hyphens, then a
closing bracket), and the text after them. -/
def classOpening (flags : Flags) (text : List Char) : Bool × CharClass × List Char :=
  let (negated, rest) := match skip flags text with
    | '^' :: rest => (true, skip flags rest)
    | rest => (false, rest)
  let hyphens := rest.takeWhile (· = '-')
  let rest := skip flags (rest.drop hyphens.length)
  if hyphens ≠ [] then (negated, .single '-', rest)
  else match rest with
    | ']' :: rest => (negated, .single ']', rest)
    | rest => (negated, .none, rest)

/-- The members of a class up to its closing bracket. Operands of set operations are joined from
the left. -/
def classBody (flags : Flags) : (fuel : Nat) → (pending : Option (CharClass × SetOp)) →
    (members : CharClass) → List Char → Except Fault (CharClass × List Char)
  | 0, _, _, _ => .error .unclosedClass
  | fuel + 1, pending, members, text =>
    match skip flags text with
    | [] => .error .unclosedClass
    | ']' :: rest => .ok (combine pending members, rest)
    | '&' :: '&' :: rest =>
      classBody flags fuel (some (combine pending members, .inter)) .none rest
    | '-' :: '-' :: rest =>
      classBody flags fuel (some (combine pending members, .diff)) .none rest
    | '~' :: '~' :: rest =>
      classBody flags fuel (some (combine pending members, .symmetric)) .none rest
    | '[' :: rest =>
      match bracketName? rest with
      | some (set, rest) => classBody flags fuel pending (.union members set) rest
      | none => do
        let (negated, first, rest) := classOpening flags rest
        let (inner, rest) ← classBody flags fuel none first rest
        let inner := if flags.ignoreCase then .ignoringCase inner else inner
        let inner := if negated then .complement inner else inner
        classBody flags fuel pending (.union members inner) rest
    | rest => do
      let (set, rest) ← classRange flags rest
      classBody flags fuel pending (.union members set) rest

/-- A class after its opening bracket, and the text after it. -/
def bracketClass (flags : Flags) (text : List Char) : Except Fault (CharClass × List Char) := do
  let (negated, first, rest) := classOpening flags text
  let (inner, rest) ← classBody flags (rest.length + 1) none first rest
  let inner := if flags.ignoreCase then .ignoringCase inner else inner
  return (if negated then .complement inner else inner, rest)

/-! ### Repetition -/

/-- A repetition count with blanks around it, and the text after it. -/
def count (text : List Char) : Except Fault (Nat × List Char) :=
  let start := text.dropWhile Text.whiteSpace.has
  let digits := start.takeWhile Number.isDigit
  let value := Number.natOf 10 0 digits
  if digits = [] ∨ 1 <<< 32 ≤ value then .error .badCount
  else .ok (value, (start.drop digits.length).dropWhile Text.whiteSpace.has)

/-- The counts between braces, and the text after the closing one. -/
def counts (text : List Char) : Except Fault (Nat × Option Nat × List Char) := do
  let (least, rest) ← count text
  match rest with
  | '\x7d' :: rest => return (least, some least, rest)
  | ',' :: rest =>
    match rest.dropWhile Text.whiteSpace.has with
    | '\x7d' :: rest => return (least, none, rest)
    | _ =>
      let (most, rest) ← count rest
      match rest with
      | '\x7d' :: rest => if most < least then .error .badCount else return (least, some most, rest)
      | _ => .error .badCount
  | _ => .error .badCount

/-- Skip the mark of a lazy repetition. -/
def skipLazy : List Char → List Char
  | '?' :: rest => rest
  | rest => rest

/-! ### Groups -/

/-- Whether a character may stand in the name of a group. -/
def isNameChar (first : Bool) (c : Char) : Bool :=
  c = '_' || (if c.toNat < 0x80 then c.isAlpha else isWordChar c && !digits.has c) ||
    (!first && (c = '.' || c = '[' || c = ']' || digits.has c))

/-- The name of a group up to the closing angle bracket, and the text after it. -/
def groupName (text : List Char) : Except Fault (String × List Char) :=
  let name := text.takeWhile (· ≠ '>')
  match name, text.drop name.length with
  | c :: more, '>' :: rest =>
    if isNameChar true c ∧ more.all (isNameChar false) then .ok (String.ofList name, rest)
    else .error .badGroupName
  | _, _ => .error .badGroupName

/-- Set one flag. The flags that only prefer one of several matches change nothing. -/
def setFlag (flags : Flags) (on : Bool) : Char → Except Fault Flags
  | 'i' => .ok { flags with ignoreCase := on }
  | 'm' => .ok { flags with multiLine := on }
  | 's' => .ok { flags with dotAll := on }
  | 'x' => .ok { flags with extended := on }
  | 'U' => .ok flags
  | 'u' => if on then .ok flags else .error .badFlag
  | _ => .error .badFlag

/-- The flags up to a colon or a closing parenthesis, which is left standing. No flag may be given
twice, and a minus sign must be followed by a flag. -/
def flagList (flags : Flags) (on : Bool) (given : List Char) :
    List Char → Except Fault (Flags × List Char × List Char)
  | [] => .error .badFlag
  | c :: rest =>
    if c = ':' ∨ c = ')' then
      if given.head? = some '-' then .error .badFlag else .ok (flags, given, c :: rest)
    else if given.contains c then .error .badFlag
    else if c = '-' then flagList flags false (c :: given) rest
    else do flagList (← setFlag flags on c) on (c :: given) rest

/-- The four ways in which look-around starts after an opening parenthesis. -/
def isLookAround (text : List Char) : Bool :=
  ["?=", "?!", "?<=", "?<!"].any fun opening => opening.toList.isPrefixOf text

/-! ### Patterns -/

/-- What has been read of one alternative: everything but the last item, the last item if it can
still be repeated, the flags in force and the names of groups so far. -/
structure Progress where
  flags : Flags
  names : List String
  before : Pattern
  last : Option Pattern

/-- The pattern of the alternative so far. -/
def Progress.pattern (p : Progress) : Pattern :=
  match p.last with
  | some last => .seq p.before last
  | none => p.before

def Progress.start (flags : Flags) (names : List String) : Progress := ⟨flags, names, .empty, none⟩

/-- Add an item that can be repeated. -/
def Progress.push (p : Progress) (item : Pattern) : Progress :=
  { p with before := p.pattern, last := some item }

/-- Repeat the last item. -/
def Progress.repeatLast (p : Progress) (least : Nat) (most : Option Nat) : Except Fault Progress :=
  match p.last with
  | some last => .ok { p with last := some (.repeated last least most) }
  | none => .error .nothingToRepeat

def ofEscape (flags : Flags) : Escape → Pattern
  | .char c => .char (literal flags c)
  | .set members => .char members
  | .assert condition => .assert condition

/-- The pattern of a character that stands for itself or for a place. -/
def plain (flags : Flags) (c : Char) : Pattern :=
  match c with
  | '.' => .char (if flags.dotAll then .any else .complement (.single '\n'))
  | '^' => .assert (if flags.multiLine then .lineStart else .textStart)
  | '$' => .assert (if flags.multiLine then .lineEnd else .textEnd)
  | c => .char (literal flags c)

/-- The alternatives up to a closing parenthesis or the end, which is left standing. The
alternatives before the current one are in `earlier`. -/
def alternatives : (fuel : Nat) → (earlier : Option Pattern) → Progress → List Char →
    Except Fault (Pattern × List String × List Char)
  | 0, _, _, _ => .error .unclosedGroup
  | fuel + 1, earlier, p, text =>
    let joined := match earlier with
      | some left => .alt left p.pattern
      | none => p.pattern
    match skip p.flags text with
    | [] => .ok (joined, p.names, [])
    | ')' :: rest => .ok (joined, p.names, ')' :: rest)
    | '|' :: rest => alternatives fuel (some joined) (.start p.flags p.names) rest
    | '*' :: rest => do alternatives fuel earlier (← p.repeatLast 0 none) (skipLazy rest)
    | '+' :: rest => do alternatives fuel earlier (← p.repeatLast 1 none) (skipLazy rest)
    | '?' :: rest => do alternatives fuel earlier (← p.repeatLast 0 (some 1)) (skipLazy rest)
    | '\x7b' :: rest => do
      if p.last.isNone then throw .nothingToRepeat
      let (least, most, rest) ← counts rest
      alternatives fuel earlier (← p.repeatLast least most) (skipLazy rest)
    | '[' :: rest => do
      let (set, rest) ← bracketClass p.flags rest
      alternatives fuel earlier (p.push (.char set)) rest
    | '\x5c' :: rest => do
      let (found, rest) ← escape rest
      alternatives fuel earlier (p.push (ofEscape p.flags found)) rest
    | '(' :: rest => do
      let rest := skip p.flags rest
      if isLookAround rest then throw .lookAround
      let named : Option (List Char) := match rest with
        | '?' :: 'P' :: '<' :: rest | '?' :: '<' :: rest => some rest
        | _ => none
      let group (flags : Flags) (names : List String) (body : List Char) := do
        let (inner, names, rest) ← alternatives fuel none (.start flags names) body
        match rest with
        | ')' :: rest => alternatives fuel earlier { p.push inner with names } rest
        | _ => .error .unclosedGroup
      match named, rest with
      | some rest, _ =>
        let (name, rest) ← groupName rest
        if p.names.contains name then throw .badGroupName
        group p.flags (name :: p.names) rest
      | none, '?' :: rest =>
        let (flags, given, rest) ← flagList p.flags true [] rest
        match rest with
        | ':' :: rest => group flags p.names rest
        | rest =>
          if given = [] then throw .nothingToRepeat
          alternatives fuel earlier { p with flags, before := p.pattern, last := none } (rest.drop 1)
      | none, rest => group p.flags p.names rest
    | c :: rest => alternatives fuel earlier (p.push (plain p.flags c)) rest

end Reader

/-- The pattern that a text denotes. -/
def read (text : String) : Except Fault Pattern := do
  let (found, _, rest) ← Reader.alternatives (text.length + 1) none (.start .none []) text.toList
  if rest = [] then return found else throw .unopenedGroup

end Cel.Pattern
