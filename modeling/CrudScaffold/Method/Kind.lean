import CrudScaffold.Failure
import CrudScaffold.Text.Blank
import CrudScaffold.Text.Case
import CrudScaffold.Text.Quoted
import CrudScaffold.Text.Surrogate

/-!
# Kinds of controller methods

A controller method is of a class. The registered classes are the seven actions of a web
resource controller and five of an API controller. A custom class is built on one of four
bases and may add the view, redirect and API capabilities. The class fixes two things for
its methods: whether they belong to an API controller, and how they generate code (by
rendering a view, by redirecting, or not at all). The view capability wins over the redirect
one, and the API base always renders.
-/

namespace CrudScaffold.Method

/-- The actions of a resource controller. -/
inductive Action where
  | index
  | display
  | create
  | store
  | edit
  | update
  | destroy
  deriving DecidableEq, Repr

namespace Action

/-- The name an action is registered under. -/
def name : Action → String
  | index => "index"
  | display => "show"
  | create => "create"
  | store => "store"
  | edit => "edit"
  | update => "update"
  | destroy => "destroy"

/-- The class name of an action's method. -/
def className : Action → String
  | index => "Index"
  | display => "Show"
  | create => "Create"
  | store => "Store"
  | edit => "Edit"
  | update => "Update"
  | destroy => "Destroy"

/-- Whether a web method of this action writes and redirects rather than renders. -/
def redirects : Action → Bool
  | store | update | destroy => true
  | _ => false

end Action

/-- The actions of a web controller, in their usual order. -/
def webActions : List Action := [.index, .display, .create, .store, .edit, .update, .destroy]

/-- The actions of an API controller, in their usual order. -/
def apiActions : List Action := [.index, .display, .store, .update, .destroy]

/-- The actions of a controller of either kind. -/
def actions (api : Bool) : List Action := if api then apiActions else webActions

/-- What a method class is built on: a bare controller method, the plumbing shared by resource
methods, or a web or an API resource method (which always renders). -/
inductive Base where
  | plain
  | resource
  | web
  | api
  deriving DecidableEq, Repr

/-- Whether methods on the base compute resource identifiers before generating. -/
def Base.isResource : Base → Bool
  | .plain => false
  | _ => true

/-- How a method generates its code. -/
inductive Mode where
  | view
  | redirect
  | none
  deriving DecidableEq, Repr

/-- The word for a mode. -/
def Mode.name : Mode → String
  | .view => "view"
  | .redirect => "redirect"
  | .none => "none"

/-- The class of a controller method: a registered web or API method, or a custom class on a
base with the view, redirect and API capabilities it adds. -/
inductive MethodClass where
  | web (a : Action)
  | api (a : Action)
  | custom (name : String) (base : Base) (view redirect api : Bool)
  deriving DecidableEq, Repr

/-- Where the first run of surrogates in a text starts and ends, and the code of its first. -/
def surrogateRun (cs : List Char) : Option (Nat × Nat × Nat) :=
  let codes := cs.map Text.carriedSurrogate?
  match codes.findIdx? Option.isSome with
  | none => none
  | some i =>
    let run := ((codes.drop i).takeWhile Option.isSome).length
    (codes.getD i none).map fun n => (i, i + run - 1, n)

/-- A custom class of this name, as the language makes one: a name that holds a surrogate
cannot be encoded as UTF-8, and a name that holds a null character is refused. -/
def MethodClass.custom? (name : String) (base : Base) (view redirect api : Bool) :
    Except Failure MethodClass :=
  let cs := name.toList
  match surrogateRun cs with
  | some (i, j, n) =>
    let what :=
      if i == j then "character \x27\\u" ++ Text.hexDigits 4 n ++ "\x27 in position " ++ toString i
      else "characters in position " ++ toString i ++ "-" ++ toString j
    .error (.encodeError ("\x27utf-8\x27 codec can\x27t encode " ++ what ++ ": surrogates not allowed"))
  | none =>
    if cs.contains (Char.ofNat 0) then .error (.valueError "type name must not contain null characters")
    else .ok (.custom name base view redirect api)

namespace MethodClass

/-- The class name. -/
def className : MethodClass → String
  | web a | api a => a.className
  | custom n _ _ _ _ => n

/-- The module and class path of the class. -/
def path : MethodClass → String
  | web a => "ctrlgen.methods.web." ++ a.className
  | api a => "ctrlgen.methods.api." ++ a.className
  | custom n _ _ _ _ => "custom." ++ n

/-- What the class is built on. -/
def base : MethodClass → Base
  | web _ => .web
  | api _ => .api
  | custom _ b _ _ _ => b

/-- Whether the methods belong to an API controller. -/
def isApi : MethodClass → Bool
  | web _ => false
  | api _ => true
  | custom _ b _ _ a => b == .api || a

/-- How the methods generate code. -/
def mode : MethodClass → Mode
  | web a => if a.redirects then .redirect else .view
  | api _ => .view
  | custom _ b v r _ => if b == .api || v then .view else if r then .redirect else .none

end MethodClass

/-- The names registered for a controller kind, in order. -/
def available (api : Bool) : List String := (actions api).map Action.name

/-- The registered class for a name, compared after trimming blanks and lower-casing. -/
def resolve (name : String) (api : Bool) : Except Failure MethodClass :=
  let key := Text.lower (Text.trim name)
  match (actions api).find? (·.name == key) with
  | some a => .ok (if api then .api a else .web a)
  | none => .error (.unknownMethod name api)

end CrudScaffold.Method
