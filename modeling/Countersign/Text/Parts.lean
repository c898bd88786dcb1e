/-! Character sequences cut at a separator, and the runs of a character in them. -/

namespace Countersign.Text

/-- The parts of a sequence between separators; there is one more part than separators. -/
def parts (separator : Char) : List Char → List (List Char)
  | [] => [[]]
  | char :: rest =>
    -- A separator opens a new part; any other character goes to the part that follows it.
    if char = separator then [] :: parts separator rest
    else
      match parts separator rest with
      | [] => [[char]]
      | first :: others => (char :: first) :: others

/-- The length of the longest run of a character. -/
def longestRun (char : Char) (text : List Char) : Nat :=
  -- The running length and the greatest one so far.
  (text.foldl (fun (state : Nat × Nat) other =>
    let run := if other = char then state.1 + 1 else 0
    (run, max state.2 run)) (0, 0)).2

end Countersign.Text
