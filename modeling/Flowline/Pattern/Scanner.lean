import Flowline.Pattern.Syntax
import Flowline.Text.Blank

/-!
Reading a pattern character by character. In verbose mode blanks and comments, which start with `#`
and end with the line, stand for nothing.
-/

namespace Flowline.Pattern

/-- What is left of a pattern, and what is known of the groups so far. -/
structure Scanner where
  rest : List Char
  place : Place := .first
  verbose : Bool := false
  groups : Nat := 0
  names : List (String × Span) := []

abbrev ScanM := StateT Scanner (Except SyntaxFault)

namespace Scanner

def advance (scanner : Scanner) : Scanner :=
  match scanner.rest with
  | [] => scanner
  | c :: rest => { scanner with rest, place := scanner.place.after c }

def advanceBy : Nat → Scanner → Scanner
  | 0, scanner => scanner
  | count + 1, scanner => advanceBy count scanner.advance

def skipWhile (p : Char → Bool) (scanner : Scanner) : Scanner :=
  advanceBy (scanner.rest.takeWhile p).length scanner

/-- The characters of blanks and comments in front of a text. -/
def spaceLength : Nat → List Char → Nat
  | 0, _ => 0
  | _ + 1, [] => 0
  | fuel + 1, c :: rest =>
    if Text.isBlank c then spaceLength fuel rest + 1
    else if c = '#' then
      let comment := rest.takeWhile fun d => d != '\n'
      let length := min (comment.length + 1) rest.length
      length + 1 + spaceLength fuel (rest.drop length)
    else 0

def skipSpace (scanner : Scanner) : Scanner :=
  if scanner.verbose then
    advanceBy (spaceLength (scanner.rest.length + 1) scanner.rest) scanner
  else scanner

/-- The character behind the current one, blanks left aside in verbose mode; of a comment its first
visible character is taken. -/
def charBehind? (scanner : Scanner) : Option Char :=
  let behind := scanner.rest.tail
  if scanner.verbose then
    let visible :=
      match behind.dropWhile Text.isBlank with
      | '#' :: comment =>
        comment.dropWhile fun c => Text.isBlank c
      | other => other
    if visible.isEmpty then behind.head? else visible.head?
  else behind.head?

def charSpan (scanner : Scanner) : Span := ⟨scanner.place, scanner.advance.place⟩

end Scanner

namespace ScanM

def fault {α : Type} (problem : Problem) (span : Span) (other : Option Span := none) : ScanM α :=
  throw ⟨problem, span, other⟩

def current? : ScanM (Option Char) := return (← get).rest.head?

def place : ScanM Place := return (← get).place

def here : ScanM Span := return .point (← get).place

def charSpan : ScanM Span := return (← get).charSpan

def spanFrom (start : Place) : ScanM Span := return ⟨start, (← get).place⟩

def atEnd : ScanM Bool := return (← get).rest.isEmpty

/-- Moves on by one character and tells whether another one follows. -/
def advance : ScanM Bool := do
  modify Scanner.advance
  return !(← atEnd)

def skipSpace : ScanM Unit := modify Scanner.skipSpace

/-- Moves on and passes over blanks, and tells whether a character follows. -/
def advanceSpace : ScanM Bool := do
  if ← advance then
    skipSpace
    return !(← atEnd)
  else return false

def accept (word : List Char) : ScanM Bool := do
  if word.isPrefixOf (← get).rest then
    modify (Scanner.advanceBy word.length)
    return true
  else return false

end ScanM

end Flowline.Pattern
