namespace FrontendAtlas.Text

def after? : List Char → List Char → Option (List Char)
  | [], text => some text
  | _ :: _, [] => none
  | c :: word, d :: text => if c = d then after? word text else none

def startsWith (word text : List Char) : Bool :=
  (after? word text).isSome

def endsWith (word text : List Char) : Bool :=
  startsWith word.reverse text.reverse

def contains (word : List Char) : List Char → Bool
  | [] => word.isEmpty
  | c :: text => startsWith word (c :: text) || contains word text

def cutAt? (word : List Char) : List Char → Option (List Char × List Char)
  | [] => if word.isEmpty then some ([], []) else none
  | c :: text =>
    if startsWith word (c :: text) then some ([], c :: text)
    else (cutAt? word text).map fun (before, found) => (c :: before, found)

def splitAt (sep : Char → Bool) : List Char → List (List Char)
  | [] => [[]]
  | c :: text =>
    if sep c then [] :: splitAt sep text
    else match splitAt sep text with
      | first :: more => (c :: first) :: more
      | [] => [[c]]

end FrontendAtlas.Text
