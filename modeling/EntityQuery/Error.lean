import EntityQuery.Value.Coercion

/-!
# Errors of queries

What can go wrong between a mapping and an instance. An `Error` is a cause: it
names the entity and holds the *fault*, and `Error.message` words it. Each stage
has its own faults — the mapping, the conditions, the projection and the reading
of rows — and each admits one that is stated in words from outside.
-/

namespace EntityQuery

/-- Why a mapping is refused. -/
inductive MappingFault where
  | emptyTable
  | noTable
  | repeatedField (field : String)
  | noColumns
  | stated (text : String)
  deriving DecidableEq, Repr

/-- The wording of a fault of a mapping. -/
def MappingFault.text : MappingFault → String
  | emptyTable => "table binding is empty"
  | noTable => "type declares no table binding"
  | repeatedField field => "field '" ++ field ++ "' is declared more than once"
  | noColumns => "type has no column-mapped fields"
  | stated text => text

/-- Why an expression is no condition for a store. -/
inductive ExpressionFault where
  | record
  /-- A method with this many arguments is not known. -/
  | method (name : String) (args : Nat)
  /-- An argument that is no value, by its kind. -/
  | argument (kind method : String)
  /-- An argument that has no text. -/
  | argumentText (method : String)
  | stated (text : String)
  deriving DecidableEq, Repr

/-- The wording of a fault of an expression. -/
def ExpressionFault.text : ExpressionFault → String
  | record => "record construction"
  | method name args => "method '" ++ name ++ "' with " ++ toString args ++ " argument(s)"
  | argument kind name => kind ++ " as argument of '" ++ name ++ "'"
  | argumentText name => "non-text argument of '" ++ name ++ "'"
  | stated text => text

/-- Why a selector is no projection. -/
inductive ProjectionFault where
  /-- A member that is no field, by its kind. -/
  | member (target kind : String)
  | emptyRecord
  /-- A selector that is neither a field nor a record, by its kind. -/
  | selector (kind : String)
  | stated (text : String)
  deriving DecidableEq, Repr

/-- The wording of a fault of a projection. -/
def ProjectionFault.text : ProjectionFault → String
  | member target kind => "member '" ++ target ++ "' is a " ++ kind ++ ", not a field access"
  | emptyRecord => "record has no members"
  | selector kind => "selector is a " ++ kind
  | stated text => text

/-- Why a row is not read into an instance or a projection. -/
inductive MaterializationFault where
  | missingColumn (column : String)
  /-- A value that does not fit the field. -/
  | field (name : String) (cause : CoercionError)
  | noEntities
  | noProjections
  | noSetter (field : String)
  /-- A projection that does not take this many values, by its name. -/
  | noConstructor (output : String) (values : Nat)
  /-- A value that does not fit the member of a projection. -/
  | member (cause : CoercionError)
  | stated (text : String)
  deriving DecidableEq, Repr

/-- The wording of a fault of a row. -/
def MaterializationFault.text : MaterializationFault → String
  | missingColumn column => "row has no column '" ++ column ++ "'"
  | field name cause => "field '" ++ name ++ "': " ++ cause.message
  | noEntities => "plan does not produce entities"
  | noProjections => "plan produces entities, not projections"
  | noSetter name => "no setter for field '" ++ name ++ "'"
  | noConstructor output values =>
    "no constructor of " ++ output ++ " taking " ++ toString values ++ " value(s)"
  | member cause => cause.message
  | stated text => text

/-- What went wrong with a query. -/
inductive Error where
  | mapping (entity : String) (fault : MappingFault)
  | unmappedField (entity field : String)
  | unsupportedExpression (entity : String) (fault : ExpressionFault)
  | unsupportedProjection (entity : String) (fault : ProjectionFault)
  | materialization (entity : String) (fault : MaterializationFault)
  /-- The store refused a statement. -/
  | execution (reason : String)
  | translation (reason : String)
  | noRows (entity : String)
  deriving DecidableEq, Repr

/-- The wording of an error. -/
def Error.message : Error → String
  | mapping entity fault => "mapping error for '" ++ entity ++ "': " ++ fault.text
  | unmappedField entity field =>
    "field '" ++ field ++ "' on entity '" ++ entity ++ "' is not mapped to a column"
  | unsupportedExpression entity fault =>
    "unsupported expression on entity '" ++ entity ++ "': " ++ fault.text
  | unsupportedProjection entity fault =>
    "unsupported projection on entity '" ++ entity ++ "': " ++ fault.text
  | materialization entity fault => "cannot materialize '" ++ entity ++ "': " ++ fault.text
  | execution reason => "execution error: " ++ reason
  | translation reason => "translation error: " ++ reason
  | noRows entity => "query on '" ++ entity ++ "' returned no rows"

end EntityQuery
