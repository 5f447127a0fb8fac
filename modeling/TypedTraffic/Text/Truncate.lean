/-!
# Texts cut to a width

A text that is too long for its column ends in three dots. The dots
count: what is kept in front of them is three characters shorter than
the column.
-/

namespace TypedTraffic.Text

/-- The first elements of a list: `count` of them, or, if `count` is
negative, all but the last `-count`. -/
def takeUpTo {α : Type} (count : Int) (xs : List α) : List α :=
  if count < 0 then xs.take (xs.length - count.natAbs) else xs.take count.toNat

/-- **A text cut to a width**, dots in place of what does not fit. -/
def truncated (width : Int) (s : String) : String :=
  if (s.toList.length : Int) ≤ width then s
  else String.ofList (takeUpTo (width - 3) s.toList ++ ['.', '.', '.'])

end TypedTraffic.Text
