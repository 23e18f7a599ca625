import CrudScaffold.Config.Basic
import CrudScaffold.Naming.Studly

/-!
# Namespaces

Where generated code imports from. A configured namespace is placed under the root namespace
unless it already lies there; lying under the root means being the root or starting with the
root and a dot, so `shopping.cart` does not lie under `shop`. Custom request classes are found
by convention: for a method `store` of a model stored in `blog_posts`, the class
`StoreRequest` in the folder `app.http.requests.BlogPosts`. When no such class exists the
generic `Request` is used and nothing needs importing.
-/

namespace CrudScaffold.Namespace

open CrudScaffold.Config

/-- Joins the non-empty parts with dots. -/
def qualify (parts : List String) : String := ".".intercalate (parts.filter (!·.isEmpty))

/-- Places a namespace under the root namespace, unless it already lies there. An empty root
or namespace gives the other. -/
def fullNamespace (root ns : String) : String :=
  if root.isEmpty || ns.isEmpty then (if ns.isEmpty then root else ns)
  else if ns == root || (root ++ ".").isPrefixOf ns then ns
  else root ++ "." ++ ns

/-- The namespace of request classes for web or for API controllers, under the root. -/
def requestRoot (s : Settings) (api : Bool) : String :=
  fullNamespace s.rootNamespace (if api then s.request.apiNamespace else s.request.webNamespace)

/-- The folder of a table's request classes under a request namespace. -/
def requestFolder (root table : String) : String := qualify [root, Naming.studly table]

/-- The class name used when no custom request class exists. -/
def fallbackRequestClass : String := "Request"

/-- The class a method takes its input as: its name, and the path to import when it is a
custom class. -/
structure RequestClass where
  name : String
  importPath : Option String
  deriving DecidableEq, Repr

/-- The custom class name a method would use, and the path it would have in the folder. -/
def requestCandidate (methodName folder suffix : String) : String × String :=
  let candidate := Naming.ucfirst methodName ++ suffix
  (candidate, folder ++ "." ++ candidate)

/-- The request class once it is known whether the candidate exists. -/
def chooseRequest (candidate path : String) (found : Bool) : RequestClass :=
  if found then ⟨candidate, some path⟩ else ⟨fallbackRequestClass, none⟩

theorem fullNamespace_empty_root (ns : String) : fullNamespace "" ns = ns := by
  by_cases h : ns.isEmpty <;> simp [fullNamespace, h]
  · simpa using h

end CrudScaffold.Namespace
