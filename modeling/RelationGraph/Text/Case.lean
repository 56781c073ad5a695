import RelationGraph.Text.CaseTable

set_option autoImplicit false

namespace RelationGraph.Text

def CaseRun.map? (run : CaseRun) (code : Nat) : Option Nat :=
  if run.first ≤ code ∧ code ≤ run.last ∧ (code - run.first) % run.stride = 0 then
    some (run.target + (code - run.first))
  else none

/-- The mapping of a character by a table; a character that is not in the table stays. -/
def mapChar (runs : List CaseRun) (sequences : List (Nat × List Nat)) (c : Char) : List Char :=
  match sequences.lookup c.toNat with
  | some targets => targets.map Char.ofNat
  | none =>
    match runs.findSome? (·.map? c.toNat) with
    | some target => [Char.ofNat target]
    | none => [c]

def lowerChar (c : Char) : List Char := mapChar lowerRuns lowerSequences c

def upperChar (c : Char) : List Char := mapChar upperRuns upperSequences c

/-- Whether a code point lies in one of the closed ranges. -/
def inRanges (ranges : List (Nat × Nat)) (c : Char) : Bool :=
  ranges.any fun range => range.1 ≤ c.toNat && c.toNat ≤ range.2

def isCased (c : Char) : Bool := inRanges casedRanges c

/-- Whether a character is passed over when a word is searched for its end. -/
def isCaseIgnorable (c : Char) : Bool := inRanges caseIgnorableRanges c

/-- Whether the first character that is not passed over has case. -/
def startsCased (chars : List Char) : Bool :=
  match chars.dropWhile isCaseIgnorable with
  | c :: _ => isCased c
  | [] => false

/-- Lower case of the characters that follow `before`, which is given last character first. -/
def lowerAfter (before : List Char) : List Char → List Char
  | [] => []
  | c :: rest =>
    let lowered :=
      if c = 'Σ' then [if startsCased before && !startsCased rest then 'ς' else 'σ']
      else lowerChar c
    lowered ++ lowerAfter (c :: before) rest

def lower (chars : List Char) : List Char := lowerAfter [] chars

/-- A text whose first character is in upper case. -/
def upperFirst : List Char → List Char
  | [] => []
  | c :: rest => upperChar c ++ rest

end RelationGraph.Text
