import AssetAudit.Console.Pictures
import AssetAudit.Text.Basic
import AssetAudit.Unicode.Case

/-!
# Pictures in texts

A name between colons stands for a picture. A variant may follow the name; names that no picture
has stay as they are.
-/
namespace AssetAudit.Console

def pairsOf : List Text → List (Text × Text)
  | name :: picture :: rest => (name, picture) :: pairsOf rest
  | _ => []

def pictures : List (Text × Text) :=
  pictureTable.flatMap fun part => pairsOf (Text.words part.toList)

def picture? (name : Text) : Option Text :=
  (pictures.find? (·.1 == Unicode.lower name)).map (·.2)

inductive Variant where
  | text
  | emoji
  deriving DecidableEq, Repr

def Variant.name : Variant → Text
  | .text => "-text".toList
  | .emoji => "-emoji".toList

def Variant.selector : Variant → Char
  | .text => Char.ofNat 0xfe0e
  | .emoji => Char.ofNat 0xfe0f

structure PictureCode where
  name : Text
  variant : Option Variant
  rest : Text

def codeFrom (name : Text) : Text → Option PictureCode
  | [] => none
  | c :: rest =>
    if (Variant.emoji.name ++ [':']).isPrefixOf (c :: rest) then
      some ⟨name.reverse, some .emoji, rest.drop 6⟩
    else if (Variant.text.name ++ [':']).isPrefixOf (c :: rest) then
      some ⟨name.reverse, some .text, rest.drop 5⟩
    else if c == ':' then some ⟨name.reverse, none, rest⟩
    else if Text.isBlank c then none
    else codeFrom (c :: name) rest

theorem length_rest_codeFrom_lt {name s : Text} {code : PictureCode}
    (h : codeFrom name s = some code) : code.rest.length < s.length := by
  induction s generalizing name with
  | nil => simp [codeFrom] at h
  | cons c rest ih =>
    simp only [codeFrom] at h
    split at h
    · cases h
      simp only [List.length_drop, List.length_cons]
      omega
    · split at h
      · cases h
        simp only [List.length_drop, List.length_cons]
        omega
      · split at h
        · cases h; simp
        · split at h
          · cases h
          · have := ih h; simp; omega

def variantText (variant : Option Variant) : Text :=
  (variant.map Variant.selector).toList

def PictureCode.text (code : PictureCode) : Text :=
  match picture? code.name with
  | some picture => picture ++ variantText code.variant
  | none => ':' :: code.name ++ ((code.variant.map Variant.name).getD []) ++ [':']

def withPictures : Text → Text
  | [] => []
  | c :: rest =>
    if c == ':' then
      match _h : codeFrom [] rest with
      | some code => code.text ++ withPictures code.rest
      | none => c :: withPictures rest
    else c :: withPictures rest
termination_by s => s.length
decreasing_by
  all_goals simp
  have := length_rest_codeFrom_lt _h
  omega

end AssetAudit.Console
