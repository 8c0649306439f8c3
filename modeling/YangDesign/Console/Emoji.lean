/-
Names of pictures: in marked-up text `:name:` stands for a picture, if there is one of that name.

A name has no blank and no colon in it. It may end in `-text` or `-emoji`, which asks for a plain or a coloured picture.
-/
import YangDesign.Console.Pictures
import YangDesign.Text.Blank
import YangDesign.Text.Lower

namespace YangDesign.Console

/-- endings of a name that ask for a variant of a picture, with the mark that selects it -/
def variants : List (String × Char) :=
  [("-emoji", '\uFE0F'), ("-text", '\uFE0E')]

/-- the picture of a name -/
def picture? (name : List Char) : Option (List Char) :=
  (pictures.lookup (.ofList (Text.lower name))).map String.toList

/-- the picture of a name that may end in a variant -/
def variantOf? (name : List Char) : Option (List Char) :=
  match variants.find? fun (ending, _) => ending.toList.isSuffixOf name with
  | some (ending, mark) => (picture? (name.take (name.length - ending.length))).map (· ++ [mark])
  | none => picture? name

/-- a name between colons with its picture in place, if it has one -/
def placePicture (name : List Char) : List Char :=
  (variantOf? name).getD (':' :: (name ++ [':']))

/-- named pictures put in place -/
def placePictures : List Char → List Char
  | [] => []
  | c :: cs =>
    let name := cs.takeWhile fun d => d != ':' && !Text.isBlank d
    if c = ':' && (cs.drop name.length).head? == some ':' then
      placePicture name ++ placePictures (cs.drop (name.length + 1))
    else c :: placePictures cs
termination_by cs => cs.length
decreasing_by all_goals simp; try omega

end YangDesign.Console
