/-!
# Paths

* `pathParts` -- the parts of a path between its slashes;
* `pathComponents` -- those of them that count.
-/

namespace TemplateClient

/-- The parts of a path between its slashes, empty ones included. -/
def pathParts (path : String) : List String :=
  go [] path.toList
where
  /-- The parts of the rest of a path, the current part being under way (latest first). -/
  go (current : List Char) : List Char → List String
    | [] => [String.ofList current.reverse]
    | c :: cs =>
      if c = '/' then String.ofList current.reverse :: go [] cs else go (c :: current) cs

/-- The parts of a path that count: neither empty nor a single point, but for a point in front. -/
def pathComponents (path : String) : List String :=
  match pathParts path with
  | [] => []
  | first :: rest =>
    (if first = "" then [] else [first]) ++ rest.filter fun p => p != "" && p != "."

end TemplateClient
