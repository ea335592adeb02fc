import Flowline.Text.Alphanumeric
import Flowline.Text.Case

/-!
Slugs: the letters and numbers of a text in lower case, with one hyphen for all that stands between
two of them.
-/

namespace Flowline.Text

def addToSlug (slug : List Char) (c : Char) : List Char :=
  if isAlphanumeric c then c :: slug
  else
    match slug with
    | [] => []
    | last :: _ => if last = '-' then slug else '-' :: slug

def slugList (chars : List Char) : List Char :=
  (((lowercaseList chars).foldl addToSlug []).dropWhile fun c => c == '-').reverse

def slug (text : String) : String := String.ofList (slugList text.toList)

end Flowline.Text
