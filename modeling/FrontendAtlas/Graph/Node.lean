import FrontendAtlas.Dict
import FrontendAtlas.NameSet

namespace FrontendAtlas

inductive TypeKind where
  | interface
  | synonym
  | enum
  | other
  deriving DecidableEq

def TypeKind.name : TypeKind → String
  | .interface => "interface"
  | .synonym => "type"
  | .enum => "enum"
  | .other => "other"

inductive HttpMethod where
  | get
  | post
  | put
  | patch
  | delete
  deriving DecidableEq

namespace HttpMethod

def name : HttpMethod → String
  | .get => "GET"
  | .post => "POST"
  | .put => "PUT"
  | .patch => "PATCH"
  | .delete => "DELETE"

def ofHelper? : String → Option HttpMethod
  | "get" => some .get
  | "post" => some .post
  | "put" => some .put
  | "patch" => some .patch
  | "del" | "delete" => some .delete
  | _ => none

end HttpMethod

structure TypeDeclaration where
  name : String
  kind : TypeKind
  properties : Dict String
  path : String
  deriving DecidableEq

structure ApiFunction where
  name : String
  path : String
  endpoint : Option String
  method : Option HttpMethod
  responseType : String
  deriving DecidableEq

structure Hook where
  name : String
  path : String
  binding : Option String
  cacheKey : Option (List String)
  usesQuery : Bool
  usesMutation : Bool
  dependencies : NameSet
  deriving DecidableEq

structure Component where
  name : String
  path : String
  hooks : NameSet
  callsNetwork : Bool
  deriving DecidableEq

end FrontendAtlas
