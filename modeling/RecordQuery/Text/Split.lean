/-!
# Splitting text

Cutting a list of characters at separators.

* `splitAt`: the pieces between separators, blank pieces included; there is always at least one.
* `words`: the pieces that are not empty.
-/

namespace RecordQuery.Text

/-- The pieces between the characters that satisfy `p`. -/
def splitAt (p : Char → Bool) (cs : List Char) : List (List Char) :=
  cs.foldr
    (fun c pieces =>
      if p c then [] :: pieces
      else match pieces with
        | [] => [[c]]
        | piece :: rest => (c :: piece) :: rest)
    [[]]

/-- The maximal runs of characters that do not satisfy `p`. -/
def words (p : Char → Bool) (cs : List Char) : List (List Char) :=
  (splitAt p cs).filter (!·.isEmpty)

end RecordQuery.Text
