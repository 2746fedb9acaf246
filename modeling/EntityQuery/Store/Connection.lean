import EntityQuery.Store.Fault
import EntityQuery.Text.Blank

/-!
# Connection strings

A connection string is the path of a database, or a list of `key=value` pairs with
semicolons between them, one of which gives the path. Of several that do, the
first counts; letter case and blanks around keys and values do not, and what is no
pair is passed over. A text without an equals sign is a path.
-/

namespace EntityQuery.Store.Connection

/-- A pair of a key and what follows the first equals sign, if there is one. -/
def pair? (cs : List Char) : Option (List Char × List Char) :=
  match cs.dropWhile (· != '=') with
  | _ :: value => some (cs.takeWhile (· != '='), value)
  | [] => none

/-- The keys whose value is the path, in lower case. -/
def sourceKeys : List String := ["data source", "datasource", "filename"]

/-- Whether a key is one of the path. -/
def isSourceKey (key : List Char) : Bool :=
  sourceKeys.contains (String.ofList ((Text.trimChars key).map Char.toLower))

/-- The value of the first pair that gives the path. -/
def sourceValue? (cs : List Char) : Option (List Char) :=
  ((cs.splitOn ';').filterMap pair?).findSome? fun (key, value) =>
    if isSourceKey key then some value else none

/-- The path that a connection string gives. -/
def source (connection : String) : Except ConnectionFault String :=
  let cs := Text.trimChars connection.toList
  if cs.isEmpty then .error .empty
  else if !cs.contains '=' then .ok (String.ofList cs)
  else
    match sourceValue? cs with
    | none => .error .noSource
    | some value =>
      let path := Text.trimChars value
      if path.isEmpty then .error .emptySource else .ok (String.ofList path)

/-- The path that a connection string gives, or the error that it gives none. -/
def path (connection : String) : Except StoreError String :=
  match source connection with
  | .ok path => .ok path
  | .error fault => .error (.connection connection fault)

end EntityQuery.Store.Connection
