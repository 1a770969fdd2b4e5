import Adventure.Shelf.Lighthouse
import Adventure.Session.Basic

/-! The games that come with the library, found by name in the games folder. -/

namespace Adventure.Shelf

/-- The names of the games on the shelf, in order. -/
def available : List String := ["lighthouse"]

/-- The game opened when no name is given. -/
def defaultGame : String := "lighthouse"

/-- The folders a name may walk through, each as its path from their common top. -/
def folders : List (List String) := [[], ["assets"], ["assets", "games"]]

/-- The games folder, as a path from the common top. -/
def gamesFolder : List String := ["assets", "games"]

/-- Where a path from the games folder leads, as a path from the common top; `none` when it
passes through something that is not a folder. -/
def walk (names : List String) : Option (List String) :=
  let step (here : List String) (name : String) : Option (List String) :=
    if name == "" || name == "." then some here
    else if !folders.contains here then none
    else if name == ".." then (if here.isEmpty then none else some here.dropLast)
    else some (here ++ [name])
  names.foldlM step gamesFolder

/-- The content of the game file a name leads to. -/
def contentNamed (name : Value) : Except Fault Value := do
  let text := if name.truthy then name.display else defaultGame
  Text.checkFileName text
  if text.startsWith "/" then .error .noSuchFile
  else match walk ((text ++ ".json").splitOn "/") with
    | some ["assets", "games", "lighthouse.json"] => .ok Lighthouse.content
    | _ => .error .noSuchFile

/-- Opens a fresh, checked session of the game a name leads to. -/
def openGame (name : Value) : Except Fault Session := do
  let content ← contentNamed name
  Session.start content false .fresh

end Adventure.Shelf
