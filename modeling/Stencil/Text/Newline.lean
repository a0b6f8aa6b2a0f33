/-!
# Line ends

Texts read from files use one line end: a carriage return, alone or with the
line feed after it, is read as a line feed (`newlines_uniform`). Writing changes
nothing.
-/

namespace Stencil.Text

/-- Read every line end as a line feed. -/
def universalNewlines : List Char → List Char
  | [] => []
  | '\r' :: '\n' :: rest => '\n' :: universalNewlines rest
  | c :: rest => (if c = '\r' then '\n' else c) :: universalNewlines rest

/-- Line ends are read as line feeds, so that no carriage return is left. -/
theorem newlines_uniform (cs : List Char) : '\r' ∉ universalNewlines cs := by
  fun_induction universalNewlines cs with
  | case1 => exact List.not_mem_nil
  | case2 rest inductionHypothesis => simpa using inductionHypothesis
  | case3 c rest _ inductionHypothesis =>
    rw [List.mem_cons, not_or]
    refine ⟨?_, inductionHypothesis⟩
    split
    · decide
    · rename_i other
      exact Ne.symm other

end Stencil.Text
