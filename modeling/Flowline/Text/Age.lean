import Flowline.Text.AgeTable
import Flowline.Text.CodePoints.Algebra

/-!
The ages of characters. A version has the characters of all earlier versions too.
-/

namespace Flowline.Text

namespace Property

def throughFirst? {α : Type} (last : α → Bool) : List α → Option (List α)
  | [] => none
  | row :: rest => if last row then some [row] else (throughFirst? last rest).map (row :: ·)

/-- The characters that a version of Unicode has, which is named as `3.0` or as `v30`. -/
def age? (version : String) : Option CodePoints :=
  (throughFirst? (fun row => (words row.1).contains version) ageRows).map fun rows =>
    .unions (rows.map fun row => .read row.2)

end Property

end Flowline.Text
