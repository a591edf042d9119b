/-!
# Paths

When two paths are the same by their components: repeated and trailing slashes do not count
and neither does a component `.` inside a path. A leading `.` of a relative path does count,
and `..` is a component like any other, because what lies above a link is not known here.
-/

set_option autoImplicit false

namespace TapeRecall.Text

/-- The components of a path, and whether they start at the root. -/
structure Path where
  rooted : Bool
  components : List (List Char)
deriving DecidableEq

namespace Path

/-- A stretch between slashes that is no component: nothing at all, or a lone dot. -/
def isVoid (segment : List Char) : Bool :=
  segment == [] || segment == ['.']

/-- Reads the components of a path. -/
def parse (s : String) : Path :=
  let segments := s.toList.splitOn '/'
  let named := segments.filter fun c => !isVoid c
  match s.toList, segments with
  | '/' :: _, _ => ⟨true, named⟩
  | _, ['.'] :: _ => ⟨false, ['.'] :: named⟩
  | _, _ => ⟨false, named⟩

end Path

end TapeRecall.Text
