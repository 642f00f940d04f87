import Campus.Data.Bytes
import Campus.Url.Percent
/-!
# Resources

The paths of the service and the one method that each of them takes:

* `GET /health`
* `GET /datasets`
* `PUT /dataset/<id>/<kind>`
* `DELETE /dataset/<id>`
* `POST /query`

The last part of a path is not empty. Ids and kinds are written with escapes.
-/

namespace Campus

/-- What a path leads to. Ids and kinds are as written in the path. -/
inductive Resource
  | health
  | datasets
  /-- A dataset to be added. -/
  | upload (id kind : List Char)
  | dataset (id : List Char)
  | query
deriving DecidableEq

namespace Resource

/-- The resource at a path. -/
def ofPath? (path : List Char) : Option Resource :=
  match path.splitOn '/' with
  | [[], name] =>
    if name = "health".toList then some health
    else if name = "datasets".toList then some datasets
    else if name = "query".toList then some query
    else none
  | [[], name, id] =>
    if name = "dataset".toList ∧ id ≠ [] then some (dataset id) else none
  | [[], name, id, kind] =>
    if name = "dataset".toList ∧ kind ≠ [] then some (upload id kind) else none
  | _ => none

/-- The method that a resource takes. -/
def method : Resource → String
  | health | datasets => "GET"
  | upload _ _ => "PUT"
  | dataset _ => "DELETE"
  | query => "POST"

/-- Whether a method may be used: the one that the resource takes, or the one that asks for the head
of a response to it. -/
def takes (resource : Resource) (method : String) : Bool :=
  method == resource.method || (method == "HEAD" && resource.method == "GET")

/-- The text that a part of a path stands for. -/
def decode? (part : List Char) : Option String := Bytes.text? (Percent.decode part)

end Resource

/-- What follows the first slash pair of a whole address. -/
def afterSlashes? : List Char → Option (List Char)
  | [] => none
  | ':' :: '/' :: '/' :: rest => some rest
  | _ :: rest => afterSlashes? rest

/-- The path of a request target, without its query. -/
def targetPath (target : String) : List Char :=
  let chars := target.toList.takeWhile fun c => c != '?' && c != '#'
  match chars with
  | '/' :: _ => chars
  | _ =>
    match afterSlashes? chars with
    | some place =>
      let path := place.dropWhile (· != '/')
      if path.isEmpty then ['/'] else path
    | none => chars

end Campus
