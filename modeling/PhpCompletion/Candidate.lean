import PhpCompletion.Json.Display

/-!
# Suggestions and candidates

A suggestion is one completion the service proposes: a name, a short description, a kind
(`method`, `class`, `variable`, …) and, for a class, the name to import. A reply gives each as
an object whose fields may hold any JSON value; `fieldText` reads a field as text.

A candidate is what the completion list shows: the text to insert, a detail line, the kind,
and the class to import when a class is chosen. It is built from a suggestion; only a
suggestion of kind `class` keeps its import. A candidate is callable when its kind is `method`
or `function`, and then the editor adds parentheses after it.
-/

namespace PhpCompletion

/-- A completion proposed by the service. -/
structure Suggestion where
  name : Text
  description : Text
  kind : Text
  classImport : Option Text
  deriving DecidableEq, Repr, Inhabited

/-- The text of a reply field: a string as it is; a missing field, null, a list or an object
as the empty text; any other value in plain text. -/
def fieldText : Option Json → Text
  | some (.str s) => s
  | none | some .null | some (.arr _) | some (.obj _) => Text.empty
  | some v => v.display

namespace Suggestion

/-- The suggestion a reply object describes; an empty import counts as none. -/
def ofFields (fields : List (Text × Json)) : Suggestion :=
  let imp := fieldText (Json.lookup fields (Text.ofString "class_import"))
  { name := fieldText (Json.lookup fields (Text.ofString "name"))
    description := fieldText (Json.lookup fields (Text.ofString "short_description"))
    kind := fieldText (Json.lookup fields (Text.ofString "type"))
    classImport := if imp.isEmpty then none else some imp }

/-- The suggestions of the items of a reply list: every object item, in order; other items
are skipped. -/
def ofItems (items : List Json) : List Suggestion :=
  items.filterMap fun
    | .obj fields => some (ofFields fields)
    | _ => none

theorem ofItems_length_le (items : List Json) : (ofItems items).length ≤ items.length :=
  List.length_filterMap_le _ _

end Suggestion

/-- An entry of the completion list. -/
structure Candidate where
  text : Text
  detail : Text
  kind : Text
  classImport : Option Text
  deriving DecidableEq, Repr, Inhabited

namespace Candidate

/-- Whether choosing the candidate inserts parentheses. -/
def isCallable (c : Candidate) : Bool :=
  c.kind == Text.ofString "method" || c.kind == Text.ofString "function"

def ofSuggestion (s : Suggestion) : Candidate :=
  { text := s.name
    detail := s.description
    kind := s.kind
    classImport :=
      if s.kind = Text.ofString "class" then
        match s.classImport with
        | some t => if t.isEmpty then none else some t
        | none => none
      else none }

def ofSuggestions (ss : List Suggestion) : List Candidate := ss.map ofSuggestion

@[simp] theorem length_ofSuggestions (ss : List Suggestion) :
    (ofSuggestions ss).length = ss.length := by simp [ofSuggestions]

def startsWith (c : Candidate) (p : Text) : Bool := p.isPrefixOf c.text

/-- The lines a documentation view shows for a candidate: its text, its kind, its detail
and its import, each part only when it is not empty. -/
def docLines (c : Candidate) : List Text :=
  [c.text] ++
    (if c.kind.isEmpty then [] else [Text.ofString "Type: " ++ c.kind]) ++
    (if c.detail.isEmpty then [] else [Text.empty, c.detail]) ++
    (match c.classImport with
      | some t => if t.isEmpty then [] else [Text.empty, Text.ofString "Import: " ++ t]
      | none => [])

end Candidate

end PhpCompletion
