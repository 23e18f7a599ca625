import CrudScaffold.Model.Basic

/-!
# Attributes of objects

Which object a name reaches from an object, by the attribute lookup of the language, over the
objects that a path can reach: model classes and their instances, the plain values of modules,
and the objects of the language and of its libraries that these lead to, each known by its
class.

A class has a dictionary of members, and an object's class and the classes above it are
searched in order. Found through an object, a member is bound to the object: a method becomes
a built-in method, a slot of the type a method wrapper, a function a method, and a data field
gives its value on the object. Found through a class, a method stays a method descriptor, a
slot a slot wrapper, a data field a getset descriptor, and a function a function. Class
methods of the language are built-in methods either way, bound to the class they are found
through; `__new__` is bound to the class that defines it.

Each callable and descriptor remembers the class that defines it (its `__objclass__`) and,
when bound, the object it is bound to (its `__self__`); a method also has its function. Its
documentation and the signature at its head are texts, except for the few methods of the
language written without them.

The data fields come first: through an object, those of its class (its `__class__`, its
`__dict__`); through a class, those that every class has as an instance of `type` (its name,
module, documentation, bases and the like). An object's own dictionary, where it has one,
comes next; then the other members. Through a class the methods of `type` come last, bound to
the class.

A model class is made with the members its description gives: `__repr__` (a function),
`__module__`, `__doc__`, `__tablename__` and `get_table` when given, and the fields `__dict__`
and `__weakref__`. A mapped class also has a new `__init__`, its table and mapper, its class
manager, and the column attribute `id`, whose value on an instance is null; an instance of a
mapped class holds its instance state, which refers to it weakly.
-/

namespace CrudScaffold

open CrudScaffold.Data

/-- What a class of the language holds under a name, as it is found through the class and
through an object. -/
inductive Member where
  | method
  | classMethod
  | slot
  | field (t : TypeName)
  | constant (m : Model)

/-- The members of one class, by kind. -/
structure Members where
  methods : List String := []
  classMethods : List String := []
  slots : List String := []
  fields : List (String × TypeName) := []
  constants : List (String × Model) := []

/-- The member of a name. -/
def Members.find? (ms : Members) (name : String) : Option Member :=
  if ms.methods.contains name then some .method
  else if ms.classMethods.contains name then some .classMethod
  else if ms.slots.contains name then some .slot
  else match ms.fields.lookup name with
    | some t => some (.field t)
    | none => (ms.constants.lookup name).map .constant

namespace Model

/-- An object of a class of the language, known by its class alone. -/
def ofBuiltin (qualname : String) : Model := .instanceOf (.builtin qualname)

/-- A text. -/
def text (s : String) : Model := .plain (.str s)

/-- The null object. -/
def nullObject : Model := .plain .null

end Model

/-- The six comparison slots. -/
def comparisonSlots : List String := ["__lt__", "__le__", "__eq__", "__ne__", "__gt__", "__ge__"]

/-- The slots of the arithmetic of numbers, integers and doubles alike. -/
def arithmeticSlots : List String :=
  ["__add__", "__radd__", "__sub__", "__rsub__", "__mul__", "__rmul__", "__mod__", "__rmod__",
    "__divmod__", "__rdivmod__", "__pow__", "__rpow__", "__neg__", "__pos__", "__abs__",
    "__bool__", "__int__", "__float__", "__floordiv__", "__rfloordiv__", "__truediv__",
    "__rtruediv__"]

/-- The members of the classes of the language, by the class's name. -/
def builtinMembers : String → Members
  | "object" =>
    { methods := ["__reduce_ex__", "__reduce__", "__getstate__", "__format__", "__sizeof__",
        "__dir__"],
      classMethods := ["__new__", "__subclasshook__", "__init_subclass__"],
      slots := ["__repr__", "__hash__", "__str__", "__getattribute__", "__setattr__",
        "__delattr__", "__init__"] ++ comparisonSlots }
  | "type" =>
    { methods := ["mro", "__subclasses__", "__instancecheck__", "__subclasscheck__", "__dir__",
        "__sizeof__"],
      classMethods := ["__prepare__", "__new__"],
      slots := ["__repr__", "__call__", "__getattribute__", "__setattr__", "__delattr__",
        "__init__", "__or__", "__ror__"] }
  | "str" =>
    { methods := ["capitalize", "casefold", "center", "count", "encode", "endswith",
        "expandtabs", "find", "format", "format_map", "index", "isalnum", "isalpha", "isascii",
        "isdecimal", "isdigit", "isidentifier", "islower", "isnumeric", "isprintable",
        "isspace", "istitle", "isupper", "join", "ljust", "lower", "lstrip", "partition",
        "removeprefix", "removesuffix", "replace", "rfind", "rindex", "rjust", "rpartition",
        "rsplit", "rstrip", "split", "splitlines", "startswith", "strip", "swapcase", "title",
        "translate", "upper", "zfill", "__getnewargs__", "__sizeof__", "__format__"],
      classMethods := ["maketrans", "__new__"],
      slots := ["__repr__", "__hash__", "__str__", "__getattribute__", "__iter__", "__mod__",
        "__rmod__", "__len__", "__getitem__", "__add__", "__mul__", "__rmul__",
        "__contains__"] ++ comparisonSlots }
  | "int" =>
    { methods := ["conjugate", "bit_length", "bit_count", "to_bytes", "as_integer_ratio",
        "__trunc__", "__floor__", "__ceil__", "__round__", "__getnewargs__", "__format__",
        "__sizeof__"],
      classMethods := ["from_bytes", "__new__"],
      slots := ["__repr__", "__hash__", "__getattribute__", "__invert__", "__lshift__",
        "__rlshift__", "__rshift__", "__rrshift__", "__and__", "__rand__", "__xor__",
        "__rxor__", "__or__", "__ror__", "__index__"] ++ comparisonSlots ++ arithmeticSlots,
      fields := [("real", .builtin "int"), ("imag", .builtin "int"),
        ("numerator", .builtin "int"), ("denominator", .builtin "int")] }
  | "bool" =>
    { classMethods := ["__new__"],
      slots := ["__repr__", "__and__", "__rand__", "__xor__", "__rxor__", "__or__", "__ror__"] }
  | "float" =>
    { methods := ["conjugate", "as_integer_ratio", "is_integer", "hex", "__trunc__",
        "__floor__", "__ceil__", "__round__", "__getnewargs__", "__format__"],
      classMethods := ["fromhex", "__getformat__", "__new__"],
      slots := ["__repr__", "__hash__", "__getattribute__"] ++ comparisonSlots ++
        arithmeticSlots,
      fields := [("real", .builtin "float"), ("imag", .builtin "float")] }
  | "list" =>
    { methods := ["__getitem__", "__reversed__", "__sizeof__", "clear", "copy", "append",
        "insert", "extend", "pop", "remove", "index", "count", "reverse", "sort"],
      classMethods := ["__class_getitem__", "__new__"],
      slots := ["__repr__", "__getattribute__", "__iter__", "__init__", "__len__",
        "__setitem__", "__delitem__", "__add__", "__mul__", "__rmul__", "__contains__",
        "__iadd__", "__imul__"] ++ comparisonSlots,
      constants := [("__hash__", Model.nullObject)] }
  | "dict" =>
    { methods := ["__contains__", "__getitem__", "__sizeof__", "get", "setdefault", "pop",
        "popitem", "keys", "items", "values", "update", "clear", "copy", "__reversed__"],
      classMethods := ["fromkeys", "__class_getitem__", "__new__"],
      slots := ["__repr__", "__getattribute__", "__iter__", "__init__", "__len__",
        "__setitem__", "__delitem__", "__or__", "__ror__", "__ior__"] ++ comparisonSlots,
      constants := [("__hash__", Model.nullObject)] }
  | "tuple" =>
    { methods := ["__getnewargs__", "index", "count"],
      classMethods := ["__class_getitem__", "__new__"],
      slots := ["__repr__", "__hash__", "__getattribute__", "__iter__", "__len__",
        "__getitem__", "__add__", "__mul__", "__rmul__", "__contains__"] ++ comparisonSlots }
  | "NoneType" => { classMethods := ["__new__"], slots := ["__repr__", "__bool__"] }
  | "mappingproxy" =>
    { methods := ["get", "keys", "values", "items", "copy", "__reversed__"],
      classMethods := ["__class_getitem__", "__new__"],
      slots := ["__repr__", "__str__", "__getattribute__", "__iter__", "__len__",
        "__getitem__", "__contains__", "__or__", "__ror__", "__ior__"] ++ comparisonSlots }
  | "function" =>
    { classMethods := ["__new__"],
      slots := ["__repr__", "__call__", "__get__"],
      fields := [("__globals__", .builtin "dict"), ("__builtins__", .builtin "dict"),
        ("__code__", .builtin "code"), ("__defaults__", .builtin "NoneType"),
        ("__kwdefaults__", .builtin "NoneType"), ("__annotations__", .builtin "dict"),
        ("__dict__", .builtin "dict"), ("__name__", .builtin "str"),
        ("__qualname__", .builtin "str"), ("__module__", .builtin "str"),
        ("__doc__", .builtin "NoneType")] }
  | "method" =>
    { methods := ["__reduce__"],
      classMethods := ["__new__"],
      slots := ["__repr__", "__hash__", "__call__", "__getattribute__", "__get__"] ++
        comparisonSlots,
      fields := [("__func__", .builtin "function"), ("__doc__", .builtin "NoneType")] }
  | "builtin_function_or_method" =>
    { methods := ["__reduce__"],
      slots := ["__repr__", "__hash__", "__call__", "__getattribute__"] ++ comparisonSlots,
      fields := [("__name__", .builtin "str"), ("__qualname__", .builtin "str"),
        ("__doc__", .builtin "str"), ("__module__", .builtin "NoneType")] }
  | "wrapper_descriptor" | "method_descriptor" =>
    { methods := ["__reduce__"],
      slots := ["__repr__", "__call__", "__get__", "__getattribute__"],
      fields := [("__name__", .builtin "str"), ("__qualname__", .builtin "str"),
        ("__doc__", .builtin "str")] }
  | "method-wrapper" =>
    { methods := ["__reduce__"],
      slots := ["__repr__", "__hash__", "__call__", "__getattribute__"] ++ comparisonSlots,
      fields := [("__name__", .builtin "str"), ("__qualname__", .builtin "str"),
        ("__doc__", .builtin "str")] }
  | "getset_descriptor" =>
    { methods := ["__reduce__"],
      slots := ["__repr__", "__get__", "__set__", "__delete__", "__getattribute__"],
      fields := [("__name__", .builtin "str"), ("__qualname__", .builtin "str"),
        ("__doc__", .builtin "str")] }
  | "module" =>
    { methods := ["__dir__"],
      classMethods := ["__new__"],
      slots := ["__repr__", "__getattribute__", "__setattr__", "__delattr__", "__init__"],
      fields := [("__dict__", .builtin "dict")] }
  | _ => {}

/-- The methods of a class of the language that have no documentation at all. -/
def undocumentedMethods : String → List String
  | "str" => ["__getnewargs__"]
  | "function" | "method" | "builtin_function_or_method" | "wrapper_descriptor"
    | "method_descriptor" | "method-wrapper" | "getset_descriptor" => ["__reduce__"]
  | _ => []

/-- The methods of a class of the language whose documentation does not start with their
signature. -/
def unsignedMethods : String → List String
  | "object" => ["__subclasshook__", "__init_subclass__"]
  | "type" => ["__prepare__"]
  | "str" => ["count", "find", "index", "rfind", "rindex", "startswith", "endswith", "format",
      "format_map", "__getnewargs__"]
  | "int" => ["__trunc__", "__floor__", "__ceil__", "__round__"]
  | "list" => ["__getitem__", "__class_getitem__"]
  | "dict" => ["__getitem__", "__sizeof__", "keys", "items", "values", "update", "clear",
      "copy", "__class_getitem__"]
  | "tuple" => ["__class_getitem__"]
  | "mappingproxy" => ["get", "keys", "values", "items", "copy", "__reversed__",
      "__class_getitem__"]
  | "module" => ["__dir__"]
  | other => undocumentedMethods other

/-- The classes a class of the language or of a library inherits from, itself first:
`bool` is an `int`, and every class is an `object`. -/
def TypeName.lineage (t : TypeName) : List TypeName :=
  if t == .builtin "object" then [t]
  else if t == .builtin "bool" then [t, .builtin "int", .builtin "object"]
  else [t, .builtin "object"]

/-- The member that a class of the language, or a class it inherits from, holds under a
name, with the class that holds it; the members of a library's classes are not known
beyond those of `object`. -/
def TypeName.member? (t : TypeName) (name : String) : Option (TypeName × Member) :=
  t.lineage.findSome? fun u =>
    if u.module == "builtins" then ((builtinMembers u.qualname).find? name).map fun m => (u, m)
    else Option.none

/-- Whether a class is written in the language itself as part of a library, so that its
objects have a dictionary and can be weakly referred to. -/
def TypeName.isLibraryClass (t : TypeName) : Bool := t.module != "builtins" && t.module != "weakref"

/-- The documentation of a class: a text, but none for the class of null and for that of
mapping proxies, and a getset descriptor for the classes of built-in methods and
descriptors, which give each of their objects its own. -/
def TypeName.doc (t : TypeName) : Model :=
  if t == .builtin "NoneType" || t == .builtin "mappingproxy" then Model.nullObject
  else if ["builtin_function_or_method", "wrapper_descriptor", "method-wrapper",
      "method_descriptor", "getset_descriptor"].any (t == .builtin ·) then
    Model.ofBuiltin "getset_descriptor"
  else Model.text t.qualname

/-- Whether the documentation of a class of the language starts with its signature. -/
def TypeName.hasSignature (t : TypeName) : Bool :=
  t.module == "builtins" &&
    ["object", "module", "float", "list", "tuple", "function", "method"].contains t.qualname

/-- The class of an object, as an object. -/
def Model.typeObject : Model → Model
  | .cls _ | .builtinClass _ => .builtinClass (.builtin "type")
  | .inst c => .cls c
  | .plain v => .builtinClass (.builtin v.kindName)
  | .module _ => .builtinClass (.builtin "module")
  | .instanceOf t => .builtinClass t
  | .callable k _ _ _ => .builtinClass (.builtin k.typeName)

/-- A member that class `owner` holds under `name`, found through the object `self`: bound
to it. A class method is bound to the object's class, and `__new__` to the class that holds
it. -/
def Member.onObject (owner : TypeName) (name : String) (self : Model) : Member → Model
  | .method => .callable .builtinMethod (.builtinClass owner) name (some self)
  | .classMethod =>
    .callable .builtinMethod (.builtinClass owner) name
      (some (if name == "__new__" then .builtinClass owner else self.typeObject))
  | .slot => .callable .methodWrapper (.builtinClass owner) name (some self)
  | .field t => .instanceOf t
  | .constant m => m

/-- A member that class `owner` holds under `name`, found through the class `cls`. A class
method is bound to `cls`, and `__new__` to the class that holds it. -/
def Member.onClass (owner : TypeName) (name : String) (cls : Model) : Member → Model
  | .method => .callable .methodDescriptor (.builtinClass owner) name none
  | .classMethod =>
    .callable .builtinMethod (.builtinClass owner) name
      (some (if name == "__new__" then .builtinClass owner else cls))
  | .slot => .callable .slotWrapper (.builtinClass owner) name none
  | .field _ => .callable .fieldDescriptor (.builtinClass owner) name none
  | .constant m => m

/-- The data fields that every class has as an instance of `type`, read on a class of the
language or of a library. -/
def builtinTypeField? (t : TypeName) (name : String) : Option Model :=
  match name with
  | "__name__" => some (Model.text ((t.qualname.splitOn ".").getLast?.getD t.qualname))
  | "__qualname__" => some (Model.text t.qualname)
  | "__module__" => some (Model.text t.module)
  | "__doc__" => some t.doc
  | "__text_signature__" => some (if t.hasSignature then Model.text "()" else Model.nullObject)
  | "__dict__" => some (Model.ofBuiltin "mappingproxy")
  | "__bases__" | "__mro__" => some (Model.ofBuiltin "tuple")
  | "__base__" =>
    if t == .builtin "object" then some Model.nullObject
    else if t == .builtin "bool" then some (.builtinClass (.builtin "int"))
    else some (.builtinClass (.builtin "object"))
  | "__basicsize__" | "__itemsize__" | "__flags__" | "__weakrefoffset__" | "__dictoffset__" =>
    some (Model.ofBuiltin "int")
  | "__class__" => some (.builtinClass (.builtin "type"))
  | _ => Option.none

/-- What a class of a library defines itself: functions, and plain values. -/
structure LibraryMembers where
  functions : List String := []
  constants : List (String × Model) := []

/-- The members that the classes of libraries define themselves, beyond those of `object`:
a module's spec defines its constructor, its printing and its equality, and so has no
hash. -/
def libraryMembers (t : TypeName) : LibraryMembers :=
  if t == ⟨"_frozen_importlib", "ModuleSpec"⟩ then
    { functions := ["__init__", "__repr__", "__eq__"],
      constants := [("__hash__", Model.nullObject)] }
  else {}

/-- A name looked up through a class of the language or of a library: its data fields as a
class, then what a library's class defines itself, then its members, then the methods of
`type` bound to it. -/
def builtinClassAttr? (t : TypeName) (name : String) : Option Model :=
  let lib := libraryMembers t
  let cls := Model.builtinClass t
  let own : Option Model :=
    if lib.functions.contains name then some (.callable .function cls name none)
    else if t.isLibraryClass && name == "__weakref__" then
      some (.callable .fieldDescriptor cls name none)
    else lib.constants.lookup name
  (builtinTypeField? t name).orElse fun _ => own.orElse fun _ =>
    ((t.member? name).map fun (u, m) => m.onClass u name cls).orElse fun _ =>
      ((TypeName.builtin "type").member? name).map fun (u, m) => m.onObject u name cls

/-- A name looked up through the object `self` of a class of the language or of a library:
its class, its class's fields, then its class's members bound to it. An object of a
library's class has a dictionary, no weak reference, and its class's module. -/
def builtinObjectAttr? (t : TypeName) (self : Model) (name : String) : Option Model :=
  let lib := libraryMembers t
  if name == "__class__" then some (.builtinClass t)
  else if name == "__doc__" && !(t.member? name).isSome then some t.doc
  else if t.isLibraryClass && name == "__dict__" then some (Model.ofBuiltin "dict")
  else if t.isLibraryClass && name == "__weakref__" then some Model.nullObject
  else if t.module != "builtins" && name == "__module__" then some (Model.text t.module)
  else if lib.functions.contains name then
    some (.callable .boundMethod (.builtinClass t) name (some self))
  else match lib.constants.lookup name with
    | some m => some m
    | Option.none => (t.member? name).map fun (u, m) => m.onObject u name self

/-- Whether the member `name` of class `owner` has documentation: all do but the methods
their class lists. -/
def memberDocumented (owner : Model) (name : String) : Bool :=
  match owner with
  | .builtinClass t => !(undocumentedMethods t.qualname).contains name
  | _ => true

/-- Whether the documentation of a callable of kind `k`, named `name`, of class `owner`
starts with its signature: that of every slot does, and of every `__new__`; that of a
method does unless its class lists it. -/
def memberSigned (k : CallableKind) (owner : Model) (name : String) : Bool :=
  match k, owner with
  | .slotWrapper, _ | .methodWrapper, _ => true
  | _, .builtinClass t => name == "__new__" || !(unsignedMethods t.qualname).contains name
  | _, _ => false

/-- The data fields of a callable or descriptor of kind `k`, named `name`, of class `owner`,
bound to `self`: the class that defines it, the object it is bound to, the function of a
method, and its name, documentation and signature. A function's fields are those of its
class; a method has no name of its own. -/
def callableField? (k : CallableKind) (owner : Model) (name : String) (self : Option Model)
    (attr : String) : Option Model :=
  let doc := if memberDocumented owner name then Model.text name else Model.nullObject
  let signature := if memberSigned k owner name then Model.text name else Model.nullObject
  match k, attr with
  | _, "__class__" => some (.builtinClass (.builtin k.typeName))
  | .slotWrapper, "__objclass__" | .methodDescriptor, "__objclass__"
    | .methodWrapper, "__objclass__" | .fieldDescriptor, "__objclass__" => some owner
  | .methodWrapper, "__self__" | .builtinMethod, "__self__" | .boundMethod, "__self__" => self
  | .boundMethod, "__func__" => some (.callable .function owner name none)
  | .boundMethod, "__doc__" => some Model.nullObject
  | .builtinMethod, "__module__" => some Model.nullObject
  | .function, _ | .boundMethod, _ => Option.none
  | _, "__name__" | _, "__qualname__" => some (Model.text name)
  | _, "__doc__" => some doc
  | .fieldDescriptor, _ => Option.none
  | _, "__text_signature__" => some signature
  | _, _ => Option.none

/-- A name looked up through a callable or descriptor: its data fields, then the members of
its class bound to it; a method passes any other name on to its function. -/
def callableAttr? (k : CallableKind) (owner : Model) (name : String) (self : Option Model)
    (attr : String) : Option Model :=
  let this := Model.callable k owner name self
  (callableField? k owner name self attr).orElse fun _ =>
    (builtinObjectAttr? (.builtin k.typeName) this attr).orElse fun _ =>
      if k == .boundMethod then
        builtinObjectAttr? (.builtin "function") (.callable .function owner name none) attr
      else Option.none

/-- A member of a model class's own dictionary, as it is found through the class and through
an instance. -/
inductive OwnMember where
  | function
  | staticFunction
  | classFunction
  | constant (m : Model)
  | field (onClass onInstance : Model)

/-- A class of a library that mapping a class onto a table brings in. -/
def mappingType (module qualname : String) : Model := .instanceOf ⟨module, qualname⟩

/-- The members of a model class's own dictionary (see the module doc). -/
def ModelClass.ownMember? (c : ModelClass) (name : String) : Option OwnMember :=
  let mapped := c.mappedTable.isSome
  let descriptor := Model.callable .fieldDescriptor (.cls c) name none
  match name with
  | "__repr__" => some .function
  | "__module__" => some (.constant ((c.module.map Model.text).getD Model.nullObject))
  | "__doc__" => some (.constant Model.nullObject)
  | "__dict__" => some (.field descriptor (Model.ofBuiltin "dict"))
  | "__weakref__" =>
    some (.field descriptor
      (if mapped then .instanceOf ⟨"weakref", "ReferenceType"⟩ else Model.nullObject))
  | "__tablename__" => c.tablename.map fun v => .constant (.plain v)
  | "get_table" =>
    match c.getter with
    | some (.method _) | some (.raising _) => some .function
    | some (.static _) => some .staticFunction
    | some (.classMethod _) => some .classFunction
    | some (.constant v) => some (.constant (.plain v))
    | some (.onInstance _) | Option.none => Option.none
  | "__init__" => if mapped then some .function else Option.none
  | "__table__" =>
    if mapped then some (.constant (mappingType "sqlalchemy.sql.schema" "Table")) else Option.none
  | "__mapper__" =>
    if mapped then some (.constant (mappingType "sqlalchemy.orm.mapper" "Mapper")) else Option.none
  | "_sa_class_manager" =>
    if mapped then some (.constant (mappingType "sqlalchemy.orm.instrumentation" "ClassManager"))
    else Option.none
  | "id" =>
    if mapped then
      some (.field (mappingType "sqlalchemy.orm.attributes" "InstrumentedAttribute") Model.nullObject)
    else Option.none
  | _ => Option.none

/-- A name looked up through a model class: the data fields every class has, its own
members, the members of `object`, then the methods of `type` bound to it. -/
def ModelClass.classAttr? (c : ModelClass) (name : String) : Option Model :=
  let typeField : Option Model := match name with
    | "__name__" => some (Model.text c.name)
    | "__qualname__" => some (Model.text c.qualname)
    | "__module__" => some ((c.module.map Model.text).getD Model.nullObject)
    | "__doc__" | "__text_signature__" => some Model.nullObject
    | "__annotations__" => some (Model.ofBuiltin "dict")
    | "__base__" => some (.builtinClass (.builtin "object"))
    | "__class__" => some (.builtinClass (.builtin "type"))
    | other => builtinTypeField? (.builtin "type") other
  let own : Option Model := (c.ownMember? name).map fun
    | .function | .staticFunction => .callable .function (.cls c) name none
    | .classFunction => .callable .boundMethod (.cls c) name (some (.cls c))
    | .constant m => m
    | .field m _ => m
  typeField.orElse fun _ => own.orElse fun _ =>
    (((TypeName.builtin "object").member? name).map fun (u, m) => m.onClass u name (.cls c)).orElse
      fun _ => ((TypeName.builtin "type").member? name).map fun (u, m) => m.onObject u name (.cls c)

/-- A name looked up through an instance of a model class: its class, the class's data
fields, the instance's own dictionary, the class's other members bound to the instance, then
those of `object`. -/
def ModelClass.instanceAttr? (c : ModelClass) (name : String) : Option Model :=
  let own := c.ownMember? name
  let instanceDict : Option Model := match name with
    | "_sa_instance_state" =>
      if c.mappedTable.isSome then some (mappingType "sqlalchemy.orm.state" "InstanceState")
      else Option.none
    | "get_table" =>
      match c.getter with
      | some (.onInstance _) => some (.callable .function (.cls c) name none)
      | _ => Option.none
    | _ => Option.none
  if name == "__class__" then some (.cls c)
  else match own with
  | some (.field _ m) => some m
  | _ =>
    instanceDict.orElse fun _ =>
      (own.map fun
        | .function => .callable .boundMethod (.cls c) name (some (.inst c))
        | .classFunction => .callable .boundMethod (.cls c) name (some (.cls c))
        | .staticFunction => .callable .function (.cls c) name none
        | .constant m => m
        | .field _ m => m).orElse fun _ =>
        ((TypeName.builtin "object").member? name).map fun (u, m) => m.onObject u name (.inst c)

/-- The class of a plain value. -/
def valueType (v : Value) : TypeName := .builtin v.kindName

/-- The attribute of an object that is not a module. -/
def Model.attr? : Model → String → Option Model
  | .cls c, name => c.classAttr? name
  | .inst c, name => c.instanceAttr? name
  | .plain v, name => builtinObjectAttr? (valueType v) (.plain v) name
  | .builtinClass t, name => builtinClassAttr? t name
  | .instanceOf t, name => builtinObjectAttr? t (.instanceOf t) name
  | .module m, name => builtinObjectAttr? (.builtin "module") (.module m) name
  | .callable k owner n self, name => callableAttr? k owner n self name

theorem Members.find_empty (name : String) : ({} : Members).find? name = none := by
  simp [Members.find?]

end CrudScaffold
