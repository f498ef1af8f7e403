import Targeting.Evaluation
import Targeting.Pattern.Property
import Targeting.Pattern.Reader
/-!
# What patterns match

A `Matcher` is a pattern with its flags worked in: every class is a set of
characters, and every assertion says what it looks at. `Pattern.matcher` turns a
pattern into its matcher. Flags hold from where they stand to the end of their
group.

A matcher is run on sets of places of a text. `Matcher.advance` gives the places
where a match can end that begins at one of the given places, so a repetition is
only a repeated step, and nothing is tried twice.

`Matcher.engine` is the engine that runs. It bounds neither how deep the groups of a
pattern nest nor how large its matcher is, it has no sets for the ages of characters or
for the properties that break text into parts, and its messages say what is wrong but
not where.
-/

namespace Targeting

/-! ## Matchers -/

/-- What an assertion looks at: the characters before and after a place. -/
inductive Look where
  | textStart
  | textEnd
  | lineStart
  | lineEnd
  /-- Lines that end in a carriage return, a line feed, or one after the other. -/
  | anyLineStart
  | anyLineEnd
  /-- Which of the two sides are a word character, among the pairs accepted. -/
  | word (chars : CharSet) (accepts : Bool → Bool → Bool)

inductive Matcher where
  | chars (s : CharSet)
  | look (l : Look)
  | empty
  | concat (a b : Matcher)
  | either (a b : Matcher)
  | repeated (least : Nat) (most : Option Nat) (m : Matcher)

/-! ## Flags -/

structure PatternFlags where
  caseInsensitive : Bool := false
  multiLine : Bool := false
  dotMatchesNewline : Bool := false
  unicode : Bool := true
  carriageReturn : Bool := false

namespace PatternFlags

open Pattern (Flag FlagItem)

def set (flags : PatternFlags) (on : Bool) : Flag → PatternFlags
  | .caseInsensitive => { flags with caseInsensitive := on }
  | .multiLine => { flags with multiLine := on }
  | .dotMatchesNewline => { flags with dotMatchesNewline := on }
  | .unicode => { flags with unicode := on }
  | .carriageReturn => { flags with carriageReturn := on }
  | .swapGreed | .ignoreWhitespace => flags

def apply (flags : PatternFlags) (items : List FlagItem) : PatternFlags :=
  (items.foldl (fun (state : Bool × PatternFlags) item =>
    match item with
    | .negation => (false, state.2)
    | .flag f => (state.1, state.2.set state.1 f)) (true, flags)).2

end PatternFlags

/-! ## From patterns to matchers -/

namespace Pattern

variable (flags : PatternFlags)

/-- The set with the other cases of its members, if the flags ask for them. -/
def foldCase (s : CharSet) : CharSet :=
  if flags.caseInsensitive then
    if flags.unicode then .anyCase s else .anyAsciiCase s
  else s

/-- The complement of a set, if it is negated. Without the Unicode flag it would
hold bytes that are no characters. -/
def negate (negated : Bool) (s : CharSet) : Except PatternError CharSet :=
  if !negated then .ok s
  else if flags.unicode then .ok (.complement s)
  else .error .matchesInvalidText

/-- The character of a literal. Without the Unicode flag two digits write a byte,
and one above 127 is no character. -/
def literalChar (c : Literal) : Except PatternError Char :=
  if !flags.unicode && c.isByte && 127 < c.char.toNat then .error .matchesInvalidText
  else .ok c.char

/-- A literal in a class, which without the Unicode flag is a byte. -/
def classChar (c : Literal) : Except PatternError Char := do
  let c ← literalChar flags c
  if !flags.unicode && 127 < c.toNat then throw .unicodeNotAllowed
  pure c

def perlSet (negated : Bool) (c : PerlClass) : Except PatternError CharSet :=
  negate flags negated <|
    match c, flags.unicode with
    | .digit, true => .digits
    | .digit, false => .asciiDigits
    | .space, true => .spaces
    | .space, false => .asciiSpaces
    | .word, true => .wordChars
    | .word, false => .asciiWordChars

def PosixClass.set : PosixClass → CharSet
  | .alnum => .ofRanges [('0', '9'), ('A', 'Z'), ('a', 'z')]
  | .alpha => .ofRanges [('A', 'Z'), ('a', 'z')]
  | .ascii => .range '\x00' '\x7f'
  | .blank => .ofRanges [('\t', '\t'), (' ', ' ')]
  | .cntrl => .ofRanges [('\x00', '\x1f'), ('\x7f', '\x7f')]
  | .digit => .range '0' '9'
  | .graph => .range '!' '~'
  | .lower => .range 'a' 'z'
  | .print => .range ' ' '~'
  | .punct => .ofRanges [('!', '/'), (':', '@'), ('[', '\x60'), ('\x7b', '~')]
  | .space => .ofRanges [('\t', '\r'), (' ', ' ')]
  | .upper => .range 'A' 'Z'
  | .word => .ofRanges [('0', '9'), ('A', 'Z'), ('_', '_'), ('a', 'z')]
  | .xdigit => .ofRanges [('0', '9'), ('A', 'F'), ('a', 'f')]

def propertySet (negated : Bool) (q : PropertyQuery) : Except PatternError CharSet := do
  if !flags.unicode then throw .unicodeNotAllowed
  negate flags negated (foldCase flags (← q.set))

mutual
/-- The set of an item of a class. -/
def ClassItem.set : ClassItem → Except PatternError CharSet
  | .literal c => do pure (.single (← classChar flags c))
  | .range first last => do pure (.range (← classChar flags first) (← classChar flags last))
  | .perl negated c => perlSet flags negated c
  | .posix negated c => negate flags negated (foldCase flags c.set)
  | .property negated q => propertySet flags negated q
  | .nested negated item => do negate flags negated (foldCase flags (← item.set))
  | .union items => do pure (.union (← itemSets items))
  | .intersection a b => do
    let s ← a.set
    let t ← b.set
    pure (.intersection (foldCase flags s) (foldCase flags t))
  | .difference a b => do
    let s ← a.set
    let t ← b.set
    pure (.difference (foldCase flags s) (foldCase flags t))
  | .symmetricDifference a b => do
    let s ← foldCase flags <$> a.set
    let t ← foldCase flags <$> b.set
    pure (.union [.difference s t, .difference t s])
termination_by structural item => item

def itemSets : List ClassItem → Except PatternError (List CharSet)
  | [] => .ok []
  | item :: items => do
    let s ← item.set
    let sets ← itemSets items
    pure (s :: sets)
termination_by structural items => items
end

/-- What the dot matches. Without the Unicode flag that would be any byte. -/
def dotSet : Except PatternError CharSet :=
  if !flags.unicode then .error .matchesInvalidText
  else if flags.dotMatchesNewline then .ok .all
  else if flags.carriageReturn then .ok (.complement (.ofRanges [('\n', '\n'), ('\r', '\r')]))
  else .ok (.complement (.single '\n'))

def Assertion.look (a : Assertion) : Look :=
  let word := Look.word (if flags.unicode then .wordChars else .asciiWordChars)
  match a with
  | .lineStart =>
    if !flags.multiLine then .textStart
    else if flags.carriageReturn then .anyLineStart else .lineStart
  | .lineEnd =>
    if !flags.multiLine then .textEnd
    else if flags.carriageReturn then .anyLineEnd else .lineEnd
  | .textStart => .textStart
  | .textEnd => .textEnd
  | .wordBoundary => word fun before after => before != after
  | .notWordBoundary => word fun before after => before == after
  | .wordStart => word fun before after => !before && after
  | .wordEnd => word fun before after => before && !after
  | .wordStartHalf => word fun before _ => !before
  | .wordEndHalf => word fun _ after => !after

mutual
/-- The matcher of a pattern, and the flags after it. -/
def build (flags : PatternFlags) : Pattern → Except PatternError (Matcher × PatternFlags)
  | .flags items => .ok (.empty, flags.apply items)
  | .literal c => do
    let c ← literalChar flags c
    pure (.chars (foldCase flags (.single c)), flags)
  | .dot => do pure (.chars (← dotSet flags), flags)
  | .assertion a => .ok (.look (a.look flags), flags)
  | .perl negated c => do pure (.chars (← perlSet flags negated c), flags)
  | .property negated q => do pure (.chars (← propertySet flags negated q), flags)
  | .charClass negated item => do
    pure (.chars (← negate flags negated (foldCase flags (← item.set flags))), flags)
  | .repeated least most p => do
    let (m, flags) ← build flags p
    pure (.repeated least most m, flags)
  | .group items p => do
    let (m, _) ← build (flags.apply items) p
    pure (m, flags)
  | .concat ps => buildConcat flags ps
  | .alternatives ps => buildAlternatives flags ps
termination_by structural p => p

def buildConcat (flags : PatternFlags) : List Pattern → Except PatternError (Matcher × PatternFlags)
  | [] => .ok (.empty, flags)
  | p :: ps => do
    let (m, flags) ← build flags p
    let (n, flags) ← buildConcat flags ps
    pure (.concat m n, flags)
termination_by structural ps => ps

def buildAlternatives (flags : PatternFlags) :
    List Pattern → Except PatternError (Matcher × PatternFlags)
  | [] => .ok (.chars (.union []), flags)
  | p :: ps => do
    let (m, flags) ← build flags p
    let (n, flags) ← buildAlternatives flags ps
    pure (.either m n, flags)
termination_by structural ps => ps
end

def matcher (p : Pattern) : Except PatternError Matcher := do
  let (m, _) ← build {} p
  pure m

end Pattern

/-! ## Places of a text -/

/-- A place of a text with the characters on its two sides. -/
structure TextPlace where
  before : Option Char
  after : Option Char

/-- The places of a text, one more than it has characters. -/
def placesOf (before : Option Char) : List Char → List TextPlace
  | [] => [⟨before, none⟩]
  | c :: cs => ⟨before, some c⟩ :: placesOf (some c) cs

def Look.holds (l : Look) (place : TextPlace) : Bool :=
  match l with
  | .textStart => place.before.isNone
  | .textEnd => place.after.isNone
  | .lineStart => place.before.isNone || place.before == some '\n'
  | .lineEnd => place.after.isNone || place.after == some '\n'
  | .anyLineStart =>
    place.before.isNone || place.before == some '\n' ||
      (place.before == some '\r' && place.after != some '\n')
  | .anyLineEnd =>
    place.after.isNone || place.after == some '\r' ||
      (place.after == some '\n' && place.before != some '\r')
  | .word chars accepts =>
    accepts (place.before.any chars.contains) (place.after.any chars.contains)

/-! ## Running -/

/-- A set of places of a text: for each in order, whether it is in the set. -/
abbrev Places := List Bool

namespace Places

def union (a b : Places) : Places := List.zipWith (· || ·) a b

/-- The places one character further than those followed by a member of `s`. -/
def step (s : CharSet) (places : List TextPlace) (origin : Places) : Places :=
  (false :: List.zipWith (fun isIn (place : TextPlace) => isIn && place.after.any s.contains)
    origin places).take places.length

def filter (l : Look) (places : List TextPlace) (origin : Places) : Places :=
  List.zipWith (fun isIn place => isIn && l.holds place) origin places

/-- Applies a step so often, or until it changes nothing. -/
def iterate (f : Places → Places) : Nat → Places → Places
  | 0, a => a
  | k + 1, a =>
    let b := f a
    if b = a then a else iterate f k b

def without (a b : Places) : Places := List.zipWith (fun x y => x && !y) a b

/-- All places reached when a step is taken up to so often, where `fresh` are
those among the places reached from which it has not been taken yet. -/
def closure (f : Places → Places) : Nat → (reached fresh : Places) → Places
  | 0, reached, _ => reached
  | k + 1, reached, fresh =>
    let new := (f fresh).without reached
    if new.contains true then closure f k (reached.union new) new else reached

end Places

namespace Matcher

/-- The places where a match ends that begins at one of the given places. -/
def advance (places : List TextPlace) : Matcher → Places → Places
  | .chars s, a => Places.step s places a
  | .look l, a => Places.filter l places a
  | .empty, a => a
  | .concat m n, a => advance places n (advance places m a)
  | .either m n, a => Places.union (advance places m a) (advance places n a)
  | .repeated least most m, a =>
    let b := Places.iterate (advance places m) least a
    Places.closure (advance places m) ((most.map (· - least)).getD places.length) b b

/-- Whether a match begins and ends somewhere in a text. -/
def isFoundIn (m : Matcher) (text : String) : Bool :=
  let places := placesOf none text.toList
  (m.advance places (places.map fun _ => true)).contains true

/-- What a pattern matches, or what is wrong with it. -/
def ofText (pattern : String) : Except PatternError Matcher := do
  (← Pattern.ofText pattern).matcher

instance engine : PatternEngine where
  Compiled := Matcher
  compile pattern := (ofText pattern).mapError PatternError.message
  isFoundIn := isFoundIn

end Matcher

end Targeting
