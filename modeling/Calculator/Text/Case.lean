import Calculator.Text.CaseTable

/-!
# Upper and lower case

Both cases of a text, letter by letter, after the tables of Unicode 14.  Two
letters need more than a table.  The dotted capital I keeps its dot as a mark
of its own in lower case.  The capital sigma has a second lower case form for
the end of a word, and a word ends where no letter that has a case follows,
marks and other ignorable characters passed over.
-/

namespace Calculator.Text

def inRanges (ranges : List (Nat × Nat)) (c : Char) : Bool :=
  ranges.any fun range => range.1 ≤ c.toNat && c.toNat ≤ range.2

def CaseRun.covers (run : CaseRun) (n : Nat) : Bool :=
  run.first ≤ n && n ≤ run.last && (n - run.first) % run.step == 0

/-- Moves a character by the first run that covers it. -/
def shifted (runs : List CaseRun) (c : Char) : Char :=
  match runs.find? (·.covers c.toNat) with
  | some run => Char.ofNat (Int.ofNat c.toNat + run.shift).toNat
  | none => c

def upperChar (c : Char) : List Char :=
  match upperExpansions.lookup c.toNat with
  | some points => points.map Char.ofNat
  | none => [shifted upperRuns c]

def upper (text : String) : String :=
  String.ofList (text.toList.flatMap upperChar)

/-- Whether the word goes on: the next character that is not passed over has a
case. -/
def startsCased (text : List Char) : Bool :=
  (text.dropWhile (inRanges caseIgnorableRanges)).head?.any (inRanges casedRanges)

def lowerChar (c : Char) : List Char :=
  if c = 'İ' then ['i', '\u0307'] else [shifted lowerRuns c]

/-- Lower case from left to right.  The flag remembers whether the last
character that was not passed over has a case. -/
def lowerFrom (cased : Bool) : List Char → List Char
  | [] => []
  | c :: rest =>
    let next := if inRanges caseIgnorableRanges c then cased else inRanges casedRanges c
    if c = 'Σ' && cased && !startsCased rest then 'ς' :: lowerFrom next rest
    else lowerChar c ++ lowerFrom next rest

def lower (text : String) : String :=
  String.ofList (lowerFrom false text.toList)

end Calculator.Text
