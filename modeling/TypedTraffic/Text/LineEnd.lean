/-!
# Line ends

A line of a file ends in a line feed, a carriage return, or both. In the
text of a file that is read, every line ends in a line feed.
-/

namespace TypedTraffic.Text

/-- **A text with every line end written as a line feed.** -/
def unified : List Char → List Char
  | [] => []
  | '\r' :: '\n' :: cs => '\n' :: unified cs
  | c :: cs => (if c = '\r' then '\n' else c) :: unified cs

theorem unified_eq_self {cs : List Char} (h : '\r' ∉ cs) : unified cs = cs := by
  fun_induction unified cs with
  | case1 => rfl
  | case2 cs ih => simp at h
  | case3 c cs _ ih =>
    rw [List.mem_cons, not_or] at h
    rw [if_neg (Ne.symm h.1), ih h.2]

end TypedTraffic.Text
