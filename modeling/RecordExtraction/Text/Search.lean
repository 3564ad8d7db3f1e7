/-!
# Occurrences of a text in another

The first occurrence of a needle splits a text into the part before it and the part after it.
-/

namespace RecordExtraction

/-- The rest of a list after a given beginning, if it has that beginning. -/
def afterStart? [BEq α] : List α → List α → Option (List α)
  | [], rest => some rest
  | _ :: _, [] => none
  | x :: start, y :: rest => if x == y then afterStart? start rest else none

/-- The parts of a text before and after the first occurrence of the needle. -/
def splitFirst? [BEq α] (needle : List α) : List α → Option (List α × List α)
  | [] => if needle.isEmpty then some ([], []) else none
  | x :: rest =>
      match afterStart? needle (x :: rest) with
      | some after => some ([], after)
      | none => (splitFirst? needle rest).map fun (before, after) => (x :: before, after)

theorem afterStart?_eq_some_iff [BEq α] [LawfulBEq α] {start text rest : List α} :
    afterStart? start text = some rest ↔ text = start ++ rest := by
  induction start generalizing text with
  | nil => simp [afterStart?, eq_comm]
  | cons x start ih =>
    cases text with
    | nil => simp [afterStart?]
    | cons y text =>
      by_cases h : x = y
      · subst h
        simp [afterStart?, ih]
      · have hne : ¬ y = x := fun heq => h heq.symm
        simp [afterStart?, h, hne]

end RecordExtraction
