/-!
Patterns of text, matched one character at a time.
-/

namespace ServiceAtlas.Text

inductive Pattern where
  | never
  | empty
  | one (test : Char → Bool)
  | both (p q : Pattern)
  | either (p q : Pattern)
  | many (p : Pattern)

namespace Pattern

def char (c : Char) : Pattern := one (· = c)

def digit : Pattern := one Char.isDigit

def oneOf (cs : List Char) : Pattern := one cs.contains

def maybe (p : Pattern) : Pattern := either p empty

def some (p : Pattern) : Pattern := both p (many p)

def exactly : Nat → Pattern → Pattern
  | 0, _ => empty
  | n + 1, p => both p (exactly n p)

def inOrder : List Pattern → Pattern
  | [] => empty
  | [p] => p
  | p :: rest => both p (inOrder rest)

def anyOf : List Pattern → Pattern
  | [] => never
  | p :: rest => either p (anyOf rest)

def matchesEmpty : Pattern → Bool
  | never => false
  | empty => true
  | one _ => false
  | both p q => p.matchesEmpty && q.matchesEmpty
  | either p q => p.matchesEmpty || q.matchesEmpty
  | many _ => true

/-- `both` without the parts that can match nothing. -/
def joined : Pattern → Pattern → Pattern
  | never, _ => never
  | empty, q => q
  | p, q => both p q

def united : Pattern → Pattern → Pattern
  | never, q => q
  | p, never => p
  | p, q => either p q

/-- What the text behind `c` has to match for the whole to match. -/
def after (c : Char) : Pattern → Pattern
  | never => never
  | empty => never
  | one test => if test c then empty else never
  | both p q =>
    if p.matchesEmpty then united (joined (p.after c) q) (q.after c) else joined (p.after c) q
  | either p q => united (p.after c) (q.after c)
  | many p => joined (p.after c) (many p)

/-- Whether the pattern matches the whole text. -/
def covers : Pattern → List Char → Bool
  | p, [] => p.matchesEmpty
  | p, c :: cs => (p.after c).covers cs

end Pattern
end ServiceAtlas.Text
