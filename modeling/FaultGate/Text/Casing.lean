import FaultGate.Text.CaseTable

/-!
# Upper case

Full upper-casing, character by character and without regard to the language: `ß` becomes `SS`.
-/

namespace FaultGate.Text

/-- Does the run hold the code point? -/
def CaseRun.holds (run : CaseRun) (code : Nat) : Bool :=
  run.first ≤ code && code ≤ run.last && (code - run.first) % run.step = 0

/-- The characters that a character is upper-cased to. -/
def upperChar (c : Char) : List Char :=
  match caseSequences.lookup c.toNat with
  | some codes => codes.map Char.ofNat
  | none =>
    match caseRuns.find? (·.holds c.toNat) with
    | some run => [Char.ofNat ((c.toNat : Int) + run.offset).toNat]
    | none => [c]

def upper (s : String) : String :=
  String.ofList (s.toList.flatMap upperChar)

end FaultGate.Text
