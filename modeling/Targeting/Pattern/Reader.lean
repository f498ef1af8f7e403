import Targeting.Pattern.Basic
import Targeting.Pattern.Error
import Targeting.Text
import Targeting.Unicode.CodePointTable
import Targeting.Unicode.GeneralCategory
import Targeting.Unicode.Property
/-!
# Reading patterns

`Pattern.ofText` reads a pattern from left to right and stops at the first thing
that is wrong with it. The functions take what is left of the text and give back
what they leave. `spaced` is whether white space and comments between the parts
of the pattern are passed over.
-/

namespace Targeting.Pattern

open Unicode

/-! ## White space -/

mutual
/-- Passes over white space, and over comments from `#` to the end of the line. -/
def skipBlanks : List Char → List Char
  | [] => []
  | c :: cs =>
    if Text.isBlank c then skipBlanks cs
    else if c = '#' then skipComment cs
    else c :: cs
termination_by structural cs => cs

def skipComment : List Char → List Char
  | [] => []
  | c :: cs => if c = '\n' then skipBlanks cs else skipComment cs
termination_by structural cs => cs
end

/-- What is left once white space that does not count is passed over. -/
def skip (spaced : Bool) (cs : List Char) : List Char := if spaced then skipBlanks cs else cs

/-! ## Numbers -/

/-- Digits in base ten at the head of a text. -/
def takeDecimal (spaced : Bool) (digits : List Nat) : Nat → List Char → List Nat × List Char
  | 0, cs => (digits, cs)
  | _, [] => (digits, [])
  | k + 1, c :: cs =>
    if c.isDigit then takeDecimal spaced (digits ++ [c.toNat - 48]) k (skip spaced cs)
    else (digits, c :: cs)

/-- A number in base ten with white space around it. -/
def readDecimal (spaced : Bool) (cs : List Char) : Except PatternError Nat × List Char :=
  let (digits, rest) := takeDecimal spaced [] cs.length (cs.dropWhile Text.isBlank)
  let rest := skip spaced (rest.dropWhile Text.isBlank)
  let n := digits.foldl (fun n d => n * 10 + d) 0
  if digits.isEmpty then (.error .emptyDecimal, rest)
  else (if n < 0x100000000 then .ok n else .error .invalidDecimal, rest)

def hexValue? (c : Char) : Option Nat := hexDigit? c.toLower

/-- So many digits in base sixteen. -/
def readHexDigits (spaced : Bool) : Nat → Nat → List Char → Except PatternError (Nat × List Char)
  | 0, n, cs => .ok (n, cs)
  | _ + 1, _, [] => .error .incompleteEscape
  | k + 1, n, c :: cs =>
    match hexValue? c with
    | some d => readHexDigits spaced k (n * 16 + d) (skip spaced cs)
    | none => .error .invalidHexDigit

/-- Digits in base sixteen up to a closing brace. -/
def readBracedHex (spaced : Bool) (n : Option Nat) :
    Nat → List Char → Except PatternError (Option Nat × List Char)
  | 0, _ | _, [] => .error .incompleteEscape
  | k + 1, c :: cs =>
    if c = '\x7d' then .ok (n, skip spaced cs)
    else match hexValue? c with
      | some d => readBracedHex spaced (some (n.getD 0 * 16 + d)) k (skip spaced cs)
      | none => .error .invalidHexDigit

def charOf (n : Nat) : Except PatternError Char :=
  if n.isValidChar then .ok (Char.ofNat n) else .error .invalidHex

/-- A character by its number, after the letter that says how many digits it
has. -/
def readHex (spaced : Bool) (digits : Nat) (cs : List Char) :
    Except PatternError (Literal × List Char) :=
  match skip spaced cs with
  | [] => .error .incompleteEscape
  | '\x7b' :: rest => do
    let (n, rest) ← readBracedHex spaced none (rest.length + 1) (skip spaced rest)
    match n with
    | none => throw .emptyHex
    | some n => pure (⟨← charOf n, false⟩, rest)
  | rest => do
    let (n, rest) ← readHexDigits spaced digits 0 rest
    pure (⟨← charOf n, digits == 2⟩, rest)

/-! ## Escapes -/

/-- What one escape, or one character on its own, writes. -/
inductive Atom where
  | literal (c : Literal)
  | dot
  | assertion (a : Assertion)
  | perl (negated : Bool) (c : PerlClass)
  | property (negated : Bool) (q : PropertyQuery)

def Atom.toPattern : Atom → Pattern
  | .literal c => .literal c
  | .dot => .dot
  | .assertion a => .assertion a
  | .perl negated c => .perl negated c
  | .property negated q => .property negated q

/-- The text up to a closing brace. -/
def readBracedName (spaced : Bool) (name : List Char) :
    Nat → List Char → Except PatternError (String × List Char)
  | 0, _ | _, [] => .error .incompleteEscape
  | k + 1, c :: cs =>
    if c = '\x7d' then .ok (String.ofList name.reverse, cs)
    else readBracedName spaced (c :: name) k (skip spaced cs)

/-- Splits at the first of a separator, if there is one. -/
def splitAtFirst (separator : List Char) (cs : List Char) : Option (String × String) :=
  go [] cs
where
  go (done : List Char) : List Char → Option (String × String)
    | [] => none
    | c :: rest =>
      if separator.isPrefixOf (c :: rest) then
        some (String.ofList done.reverse, String.ofList ((c :: rest).drop separator.length))
      else go (c :: done) rest

/-- A property by what stands between the braces, and whether that negates it. -/
def queryOf (name : String) : Bool × PropertyQuery :=
  match splitAtFirst ['!', '='] name.toList with
  | some (name, value) => (true, .valued name value)
  | none =>
    match splitAtFirst [':'] name.toList with
    | some (name, value) => (false, .valued name value)
    | none =>
      match splitAtFirst ['='] name.toList with
      | some (name, value) => (false, .valued name value)
      | none => (false, .named name)

def readProperty (spaced negated : Bool) (cs : List Char) :
    Except PatternError (Atom × List Char) :=
  match skip spaced cs with
  | [] => .error .incompleteEscape
  | '\x7b' :: rest => do
    let (name, rest) ← readBracedName spaced [] (rest.length + 1) (skip spaced rest)
    let (unequal, q) := queryOf name
    pure (.property (negated != unequal) q, rest)
  | '\\' :: _ => .error .invalidProperty
  | c :: rest => .ok (.property negated (.named (String.singleton c)), skip spaced rest)

def isBoundaryLetter (c : Char) : Bool := c.isAlpha || c == '-'

/-- Letters of the name of a word boundary. -/
def takeBoundaryName (spaced : Bool) (name : List Char) : Nat → List Char → String × List Char
  | 0, cs => (String.ofList name.reverse, cs)
  | _, [] => (String.ofList name.reverse, [])
  | k + 1, c :: cs =>
    if isBoundaryLetter c then takeBoundaryName spaced (c :: name) k (skip spaced cs)
    else (String.ofList name.reverse, c :: cs)

/-- A word boundary, with the name in braces that may follow. Braces that hold no
name are left for a repetition. -/
def readWordBoundary (spaced : Bool) (cs : List Char) : Except PatternError (Atom × List Char) :=
  match cs with
  | '\x7b' :: inside =>
    match skip spaced inside with
    | [] => .error .unclosedWordBoundaryOrCount
    | c :: rest =>
      if isBoundaryLetter c then
        match takeBoundaryName spaced [] (rest.length + 1) (c :: rest) with
        | (name, '\x7d' :: rest) =>
          match name with
          | "start" => .ok (.assertion .wordStart, rest)
          | "end" => .ok (.assertion .wordEnd, rest)
          | "start-half" => .ok (.assertion .wordStartHalf, rest)
          | "end-half" => .ok (.assertion .wordEndHalf, rest)
          | _ => .error .unknownWordBoundary
        | _ => .error .unclosedWordBoundary
      else .ok (.assertion .wordBoundary, cs)
  | _ => .ok (.assertion .wordBoundary, cs)

/-- Letters and digits, and the two angle brackets, have a meaning of their own
after a backslash or none; all other ASCII characters stand for themselves. -/
def standsForItself (c : Char) : Bool :=
  c.toNat < 128 && !c.isAlphanum && c != '<' && c != '>'

/-- What follows a backslash. -/
def readEscape (spaced : Bool) : List Char → Except PatternError (Atom × List Char)
  | [] => .error .incompleteEscape
  | c :: rest =>
    if c.isDigit then .error .unsupportedBackreference
    else if standsForItself c then .ok (.literal ⟨c, false⟩, rest)
    else match c with
      | 'x' => hex 2 rest
      | 'u' => hex 4 rest
      | 'U' => hex 8 rest
      | 'p' => readProperty spaced false rest
      | 'P' => readProperty spaced true rest
      | 'd' => .ok (.perl false .digit, rest)
      | 'D' => .ok (.perl true .digit, rest)
      | 's' => .ok (.perl false .space, rest)
      | 'S' => .ok (.perl true .space, rest)
      | 'w' => .ok (.perl false .word, rest)
      | 'W' => .ok (.perl true .word, rest)
      | 'a' => .ok (.literal ⟨'\x07', false⟩, rest)
      | 'f' => .ok (.literal ⟨'\x0c', false⟩, rest)
      | 't' => .ok (.literal ⟨'\t', false⟩, rest)
      | 'n' => .ok (.literal ⟨'\n', false⟩, rest)
      | 'r' => .ok (.literal ⟨'\r', false⟩, rest)
      | 'v' => .ok (.literal ⟨'\x0b', false⟩, rest)
      | 'A' => .ok (.assertion .textStart, rest)
      | 'z' => .ok (.assertion .textEnd, rest)
      | 'b' => readWordBoundary spaced rest
      | 'B' => .ok (.assertion .notWordBoundary, rest)
      | '<' => .ok (.assertion .wordStart, rest)
      | '>' => .ok (.assertion .wordEnd, rest)
      | _ => .error .unrecognizedEscape
where
  hex (digits : Nat) (rest : List Char) : Except PatternError (Atom × List Char) := do
    let (c, rest) ← readHex spaced digits rest
    pure (.literal c, rest)

/-! ## Classes -/

def posixClass? : String → Option PosixClass
  | "alnum" => some .alnum
  | "alpha" => some .alpha
  | "ascii" => some .ascii
  | "blank" => some .blank
  | "cntrl" => some .cntrl
  | "digit" => some .digit
  | "graph" => some .graph
  | "lower" => some .lower
  | "print" => some .print
  | "punct" => some .punct
  | "space" => some .space
  | "upper" => some .upper
  | "word" => some .word
  | "xdigit" => some .xdigit
  | _ => none

/-- A class such as `[:alpha:]`, if that is what follows an opening bracket. -/
def readPosix? (cs : List Char) : Option (ClassItem × List Char) :=
  match cs with
  | ':' :: '^' :: rest => named true rest
  | ':' :: rest => named false rest
  | _ => none
where
  named (negated : Bool) (cs : List Char) : Option (ClassItem × List Char) :=
    match cs.dropWhile (· != ':') with
    | ':' :: ']' :: rest =>
      (posixClass? (String.ofList (cs.takeWhile (· != ':')))).map fun c =>
        (.posix negated c, rest)
    | _ => none

/-- A character of a class, or what an escape in it writes. -/
def readClassAtom (spaced : Bool) : List Char → Except PatternError (Atom × List Char)
  | [] => .error .unclosedClass
  | '\\' :: rest => readEscape spaced rest
  | c :: rest => .ok (.literal ⟨c, false⟩, rest)

def Atom.toItem : Atom → Except PatternError ClassItem
  | .literal c => .ok (.literal c)
  | .perl negated c => .ok (.perl negated c)
  | .property negated q => .ok (.property negated q)
  | .dot | .assertion _ => .error .invalidClassEscape

def Atom.toBoundary : Atom → Except PatternError Literal
  | .literal c => .ok c
  | _ => .error .invalidRangeBoundary

/-- One item of a class, or two with a hyphen between them for a range. A hyphen
before the closing bracket or before another hyphen makes no range. -/
def readClassRange (spaced : Bool) (cs : List Char) :
    Except PatternError (ClassItem × List Char) := do
  let (first, rest) ← readClassAtom spaced cs
  match skip spaced rest with
  | [] => throw .unclosedClass
  | '-' :: after =>
    match (skip spaced after).head? with
    | some ']' | some '-' => pure (← first.toItem, '-' :: after)
    | none => throw .unclosedClass
    | some _ =>
      let (last, rest) ← readClassAtom spaced (skip spaced after)
      let a ← first.toBoundary
      let b ← last.toBoundary
      if b.char < a.char then throw .invalidClassRange
      pure (.range a b, rest)
  | rest => pure (← first.toItem, rest)

/-- Hyphens at the head of a class stand for themselves. -/
def takeHyphens (spaced : Bool) (items : List ClassItem) :
    Nat → List Char → List ClassItem × List Char
  | 0, cs => (items, cs)
  | k + 1, '-' :: cs => takeHyphens spaced (items ++ [.literal ⟨'-', false⟩]) k (skip spaced cs)
  | _, cs => (items, cs)

/-- The head of a class after its bracket: whether it is negated, and the hyphens
or the closing bracket that stand for themselves there. -/
def readClassHead (spaced : Bool) (cs : List Char) :
    Except PatternError ((Bool × List ClassItem) × List Char) := do
  let cs := skip spaced cs
  let (negated, cs) := match cs with
    | '^' :: rest => (true, skip spaced rest)
    | _ => (false, cs)
  match takeHyphens spaced [] (cs.length + 1) cs with
  | (_, []) => throw .unclosedClass
  | ([], ']' :: rest) =>
    match skip spaced rest with
    | [] => throw .unclosedClass
    | rest => pure ((negated, [.literal ⟨']', false⟩]), rest)
  | (items, cs) => pure ((negated, items), cs)

/-- An operator between two parts of a class. -/
inductive ClassOperator where
  | intersection
  | difference
  | symmetricDifference

/-- What has been read of a class: the items since the last operator, and the
operator with all that comes before it. -/
structure ClassProgress where
  items : List ClassItem
  before : Option (ClassOperator × ClassItem)

namespace ClassProgress

def add (p : ClassProgress) (item : ClassItem) : ClassProgress :=
  { p with items := p.items ++ [item] }

/-- Operators take what is on their left as a whole. -/
def close (p : ClassProgress) : ClassItem :=
  let last := .union p.items
  match p.before with
  | none => last
  | some (.intersection, a) => .intersection a last
  | some (.difference, a) => .difference a last
  | some (.symmetricDifference, a) => .symmetricDifference a last

def operate (p : ClassProgress) (op : ClassOperator) : ClassProgress := ⟨[], some (op, p.close)⟩

end ClassProgress

/-- The rest of a class up to its closing bracket. -/
def readClassBody (spaced : Bool) :
    Nat → ClassProgress → List Char → Except PatternError (ClassItem × List Char)
  | 0, _, _ => .error .unclosedClass
  | k + 1, p, cs =>
    match skip spaced cs with
    | [] => .error .unclosedClass
    | ']' :: rest => .ok (p.close, rest)
    | '[' :: rest =>
      match readPosix? rest with
      | some (item, rest) => readClassBody spaced k (p.add item) rest
      | none => do
        let ((negated, items), rest) ← readClassHead spaced rest
        let (item, rest) ← readClassBody spaced k ⟨items, none⟩ rest
        readClassBody spaced k (p.add (.nested negated item)) rest
    | '&' :: '&' :: rest => readClassBody spaced k (p.operate .intersection) rest
    | '-' :: '-' :: rest => readClassBody spaced k (p.operate .difference) rest
    | '~' :: '~' :: rest => readClassBody spaced k (p.operate .symmetricDifference) rest
    | cs => do
      let (item, rest) ← readClassRange spaced cs
      readClassBody spaced k (p.add item) rest

/-- A class after its bracket. -/
def readClass (spaced : Bool) (cs : List Char) : Except PatternError (Pattern × List Char) := do
  let ((negated, items), rest) ← readClassHead spaced cs
  let (item, rest) ← readClassBody spaced (rest.length + 1) ⟨items, none⟩ rest
  pure (.charClass negated item, rest)

/-! ## Repetitions -/

/-- A question mark after a repetition only changes which match is preferred. -/
def skipLazy : List Char → List Char
  | '?' :: rest => rest
  | cs => cs

/-- The numbers of a counted repetition, after its opening brace. -/
def readCount (spaced : Bool) (cs : List Char) :
    Except PatternError ((Nat × Option Nat) × List Char) := do
  let cs := skip spaced cs
  if cs.isEmpty then throw .unclosedCount
  let (least, rest) := readDecimal spaced cs
  match rest with
  | [] => throw .unclosedCount
  | ',' :: rest =>
    match skip spaced rest with
    | [] => throw .unclosedCount
    | '\x7d' :: rest => pure ((← least, none), skipLazy (skip spaced rest))
    | rest =>
      let least ← least
      let (most, rest) := readDecimal spaced rest
      let most ← most
      match rest with
      | '\x7d' :: rest =>
        if most < least then throw .invalidCountRange
        pure ((least, some most), skipLazy (skip spaced rest))
      | _ => throw .unclosedCount
  | rest =>
    let n ← least
    match rest with
    | '\x7d' :: rest => pure ((n, some n), skipLazy (skip spaced rest))
    | _ => throw .unclosedCount

/-- What a repetition repeats: the last part, which must not be flags. The parts
are in reverse order. -/
def takeRepeated : List Pattern → Except PatternError (Pattern × List Pattern)
  | [] | .flags _ :: _ => .error .nothingToRepeat
  | p :: rest => .ok (p, rest)

/-! ## Groups -/

def isNameChar (isFirst : Bool) (c : Char) : Bool :=
  let isLetter := c == '_' || Property.alphabetic.contains c
  if isFirst then isLetter
  else
    isLetter || c == '.' || c == '[' || c == ']' ||
      (match generalCategory c with
        | .decimalNumber | .letterNumber | .otherNumber => true
        | _ => false)

/-- The name of a group up to the closing angle bracket. -/
def readGroupName (name : List Char) : List Char → Except PatternError (String × List Char)
  | [] => .error .unclosedGroupName
  | '>' :: rest =>
    if name.isEmpty then .error .emptyGroupName else .ok (String.ofList name.reverse, rest)
  | c :: rest =>
    if isNameChar name.isEmpty c then readGroupName (c :: name) rest
    else .error .invalidGroupName

def flag? : Char → Option Flag
  | 'i' => some .caseInsensitive
  | 'm' => some .multiLine
  | 's' => some .dotMatchesNewline
  | 'U' => some .swapGreed
  | 'u' => some .unicode
  | 'R' => some .carriageReturn
  | 'x' => some .ignoreWhitespace
  | _ => none

/-- Flags up to the colon or the closing bracket, which is left. -/
def readFlags (items : List FlagItem) : List Char → Except PatternError (List FlagItem × List Char)
  | [] => .error .endInFlags
  | c :: rest =>
    if c = ':' ∨ c = ')' then
      if items.getLast? = some .negation then .error .danglingNegation
      else .ok (items, c :: rest)
    else if c = '-' then
      if .negation ∈ items then .error .repeatedNegation
      else readFlags (items ++ [.negation]) rest
    else match flag? c with
      | none => .error .unrecognizedFlag
      | some f =>
        if .flag f ∈ items then .error .duplicateFlag
        else readFlags (items ++ [.flag f]) rest

/-- What flags say about one of them, if they do. -/
def flagState (f : Flag) (items : List FlagItem) : Option Bool :=
  (items.foldl (fun (state : Bool × Option Bool) item =>
    match item with
    | .negation => (false, state.2)
    | .flag g => (state.1, if g = f then some state.1 else state.2)) (true, none)).2

/-- How a group begins. -/
inductive GroupHead where
  /-- Flags for what follows, and no group. -/
  | flags (items : List FlagItem)
  | plain (items : List FlagItem)
  | named (name : String)

/-- The head of a group, after its bracket. -/
def readGroupHead (spaced : Bool) (cs : List Char) : Except PatternError (GroupHead × List Char) :=
  match skip spaced cs with
  | '?' :: '=' :: _ | '?' :: '!' :: _ | '?' :: '<' :: '=' :: _ | '?' :: '<' :: '!' :: _ =>
    .error .unsupportedLookAround
  | '?' :: 'P' :: '<' :: rest | '?' :: '<' :: rest => do
    let (name, rest) ← readGroupName [] rest
    pure (.named name, rest)
  | ['?'] => .error .unclosedGroup
  | '?' :: rest => do
    match ← readFlags [] rest with
    | (items, ')' :: rest) =>
      if items.isEmpty then throw .nothingToRepeat else pure (.flags items, rest)
    | (items, rest) => pure (.plain items, rest.drop 1)
  | rest => .ok (.plain [], rest)

/-! ## Patterns -/

/-- Where a reader stands: what is left, whether white space is passed over, and
the names of the groups so far. -/
structure Place where
  rest : List Char
  spaced : Bool
  names : List String

def branch (items : List Pattern) : Pattern := .concat items.reverse

/-- Reads up to the end of a group, whose bracket is left, or of the pattern.
`branches` are the alternatives before, and `items` the parts of this one, each
in reverse order. -/
def readBranches (inGroup : Bool) (branches items : List Pattern) :
    Nat → Place → Except PatternError (Pattern × Place)
  | 0, _ => .error .unclosedGroup
  | k + 1, here =>
    let go (item : Pattern) (rest : List Char) :=
      readBranches inGroup branches (item :: items) k { here with rest }
    let repeated (least : Nat) (most : Option Nat) (rest : List Char) := do
      let (p, before) ← takeRepeated items
      readBranches inGroup branches (.repeated least most p :: before) k { here with rest }
    match skip here.spaced here.rest with
    | [] =>
      if inGroup then .error .unclosedGroup
      else .ok (.alternatives (branch items :: branches).reverse, { here with rest := [] })
    | ')' :: rest =>
      if inGroup then .ok (.alternatives (branch items :: branches).reverse, { here with rest })
      else .error .unopenedGroup
    | '|' :: rest => readBranches inGroup (branch items :: branches) [] k { here with rest }
    | '?' :: rest => repeated 0 (some 1) (skipLazy rest)
    | '*' :: rest => repeated 0 none (skipLazy rest)
    | '+' :: rest => repeated 1 none (skipLazy rest)
    | '\x7b' :: rest => do
      let _ ← takeRepeated items
      let ((least, most), rest) ← readCount here.spaced rest
      repeated least most rest
    | '(' :: rest => do
      match ← readGroupHead here.spaced rest with
      | (.flags given, rest) =>
        let spaced := (flagState .ignoreWhitespace given).getD here.spaced
        readBranches inGroup branches (.flags given :: items) k { here with rest, spaced }
      | (.plain given, rest) =>
        let spaced := (flagState .ignoreWhitespace given).getD here.spaced
        let (p, after) ← readBranches true [] [] k { here with rest, spaced }
        readBranches inGroup branches (.group given p :: items) k
          { after with spaced := here.spaced }
      | (.named name, rest) =>
        if name ∈ here.names then throw .duplicateGroupName
        let (p, after) ← readBranches true [] [] k { here with rest, names := name :: here.names }
        readBranches inGroup branches (.group [] p :: items) k
          { after with spaced := here.spaced }
    | '[' :: rest => do
      let (p, rest) ← readClass here.spaced rest
      go p rest
    | '\\' :: rest => do
      let (atom, rest) ← readEscape here.spaced rest
      go atom.toPattern rest
    | '.' :: rest => go .dot rest
    | '^' :: rest => go (.assertion .lineStart) rest
    | '$' :: rest => go (.assertion .lineEnd) rest
    | c :: rest => go (.literal ⟨c, false⟩) rest

/-- The pattern that a text writes. -/
def ofText (text : String) : Except PatternError Pattern := do
  let cs := text.toList
  let (p, _) ← readBranches false [] [] (cs.length + 1) ⟨cs, false, []⟩
  pure p

end Targeting.Pattern
