import Cantilune.Base.JsString
import Cantilune.Base.TextSearch

/-!
# Edits of a file

A search text is replaced in the content of a file. Texts are lists of UTF-16 code units. The replacement with a text
is the one of the language: it reads the patterns of dollar signs in the new text.
-/

namespace Cantilune

abbrev CodeUnits := List Nat

/-! ## Replacement in the language -/

def dollarSign : Nat := 0x24

def ampersand : Nat := 0x26

def apostrophe : Nat := 0x27

def graveAccent : Nat := 0x60

/-- The replacement for a match without groups: two dollar signs stand for one, and three more patterns for the
match and for what is before and behind it. Any other dollar sign stands for itself. -/
def getSubstitution (matched str : CodeUnits) (position : Nat) : CodeUnits → CodeUnits
  | [] => []
  | [c] => [c]
  | c :: d :: template =>
      if c = dollarSign then
        if d = dollarSign then dollarSign :: getSubstitution matched str position template
        else if d = ampersand then matched ++ getSubstitution matched str position template
        else if d = graveAccent then str.take position ++ getSubstitution matched str position template
        else if d = apostrophe then
          str.drop (position + matched.length) ++ getSubstitution matched str position template
        else c :: getSubstitution matched str position (d :: template)
      else c :: getSubstitution matched str position (d :: template)

/-- `str.replace(searchString, replaceValue)` -/
def replaceFirst (str searchString replaceValue : CodeUnits) : CodeUnits :=
  match TextSearch.indexOf searchString str with
  | none => str
  | some position =>
      str.take position ++ getSubstitution searchString str position replaceValue ++
        str.drop (position + searchString.length)

/-- `str.split(separator)`; an empty separator separates the code units. -/
def splitText (str separator : CodeUnits) : List CodeUnits :=
  if h : separator = [] then str.map fun c => [c] else TextSearch.splitFrom separator h str

structure EditFileArgs where
  path : String
  oldString : CodeUnits
  newString : CodeUnits
  replaceAll : Option Bool

inductive EditFailure where
  | notFound (path : String)
  | notUnique (path : String) (occurrences : Nat)
  deriving DecidableEq

def EditFailure.message : EditFailure → String
  | .notFound path => s!"oldString not found in {path}"
  | .notUnique path occurrences =>
      s!"oldString is not unique in {path} ({occurrences} matches). " ++
        "Use replaceAll or provide a unique oldString."

def countOccurrences (haystack needle : CodeUnits) : Nat :=
  if h : needle = [] then 0 else TextSearch.countFrom needle h haystack

/-- The content to be written and the report. -/
def editFile (content : CodeUnits) (args : EditFileArgs) : Except EditFailure (CodeUnits × String) :=
  let occurrences := countOccurrences content args.oldString
  if occurrences = 0 then .error (.notFound args.path)
  else if args.replaceAll = some true then
    .ok (args.newString.intercalate (splitText content args.oldString),
      s!"Replaced {occurrences} occurrence(s) in {args.path}")
  else if occurrences > 1 then .error (.notUnique args.path occurrences)
  else .ok (replaceFirst content args.oldString args.newString, s!"Replaced 1 occurrence in {args.path}")

end Cantilune
