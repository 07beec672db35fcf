/-!
Tables of code points, written as text. Numbers are hexadecimal and stand between blanks or line
breaks. A set is written by its bounds: the code points at which it begins and ends by turns, each as
the distance from the one before. A map is written entry by entry: a number with a colon says which
code point comes next, and every other word is the entry of the code points that come next.
-/

namespace ResourceWatch.Unicode

def words (text : String) : List (List Char) :=
  text.toList.foldr (fun char found =>
    match char == ' ' || char == '\n', found with
    | true, [] :: _ => found
    | true, _ => [] :: found
    | false, word :: rest => (char :: word) :: rest
    | false, [] => [[char]]) [[]] |>.filter (!·.isEmpty)

def number (digits : List Char) : Nat :=
  digits.foldl (fun sum digit =>
    sum * 16 + if digit.isDigit then digit.toNat - 0x30 else digit.toNat - 0x37) 0

def countUpTo (bounds : Array Nat) (code low high : Nat) : Nat :=
  if low < high then
    let middle := low + (high - low) / 2
    if bounds.getD middle 0 ≤ code then countUpTo bounds code (middle + 1) high
    else countUpTo bounds code low middle
  else low
termination_by high - low
decreasing_by all_goals omega

/-- A set of code points, by the bounds at which it begins and ends by turns. -/
structure CodeSet where
  bounds : Array Nat

namespace CodeSet

def boundsFrom (start : Nat) : List Nat → List Nat
  | [] => []
  | distance :: rest => (start + distance) :: boundsFrom (start + distance) rest

def ofText (text : String) : CodeSet :=
  ⟨(boundsFrom 0 ((words text).map number)).toArray⟩

def contains (set : CodeSet) (char : Char) : Bool :=
  countUpTo set.bounds char.toNat 0 set.bounds.size % 2 == 1

end CodeSet

/-- A map from code points to texts: the code points in ascending order, and what each of them stands
for. -/
structure CodeMap where
  codes : Array Nat
  values : Array (List Nat)

namespace CodeMap

def spread (start count step rise : Nat) (value : List Nat) : List (Nat × List Nat) :=
  (List.range count).map fun place =>
    (start + place * step, value.map (· + place * rise))

def sum (word : List Char) : List Nat :=
  let (last, parts) := word.foldr (fun char (gathered : List Char × List (List Char)) =>
    if char == '+' then ([], gathered.1 :: gathered.2)
    else (char :: gathered.1, gathered.2)) ([], [])
  (last :: parts).map number

/-- The entries of one word and the code point behind them. A star, an equals sign or a slash with a
count makes it the entry of that many code points: values that go up with neighbouring code points,
one value for all neighbours, or values that go up with every other code point. -/
def entries (start : Nat) (word : List Char) : List (Nat × List Nat) × Nat :=
  let value := sum (word.takeWhile fun char => char.isDigit || char.isUpper || char == '+')
  match word.dropWhile fun char => char.isDigit || char.isUpper || char == '+' with
  | '*' :: count => (spread start (number count) 1 1 value, start + number count)
  | '=' :: count => (spread start (number count) 1 0 value, start + number count)
  | '/' :: count => (spread start (number count) 2 2 value, start + 2 * number count)
  | _ => ([(start, value)], start + 1)

def read (next : Nat) : List (List Char) → List (Nat × List Nat)
  | [] => []
  | word :: rest =>
      if word.getLast? == some ':' then read (number word.dropLast) rest
      else
        let (found, behind) := entries next word
        found ++ read behind rest

def ofTexts (texts : List String) : CodeMap :=
  let found := (texts.flatMap fun text => read 0 (words text)).mergeSort fun left right =>
    left.1 ≤ right.1
  ⟨(found.map (·.1)).toArray, (found.map (·.2)).toArray⟩

def get? (map : CodeMap) (code : Nat) : Option (List Nat) :=
  let count := countUpTo map.codes code 0 map.codes.size
  if map.codes[count - 1]? == some code then map.values[count - 1]? else none

def chars? (map : CodeMap) (char : Char) : Option (List Char) :=
  (map.get? char.toNat).map fun codes => codes.map Char.ofNat

def standFor? (map : CodeMap) (chars : List Char) : Option Char :=
  ((map.values.findIdx? (· == chars.map Char.toNat)).bind (map.codes[·]?)).map Char.ofNat

end CodeMap

end ResourceWatch.Unicode
