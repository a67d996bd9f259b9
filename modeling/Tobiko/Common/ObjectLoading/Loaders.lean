import Mathlib.Logic.Basic

/-!
Contract: objects that are loaded by their dotted ids, through loaders that keep them.

Owns: the tree of modules and attributes, the states of the loaders, `load_object` and
`load_module`, and what the tree designates by an id.

Does not own: the loading of modules, and when objects are collected; `getattr` and
`importlib.import_module` are functions of the tree.
-/

namespace Tobiko.Common.ObjectLoading

/-- A dotted id: `rsplit('.', 1)` gives the parent's id and the name. -/
inductive ObjectId (Name : Type) where
  | root (name : Name)
  | child (parent : ObjectId Name) (name : Name)
  deriving DecidableEq

/-- What `ObjectLoader.set` tells apart. -/
inductive Kind where
  | isNone
  | module
  | referable
  /-- An object of which no weak reference can be made, such as a number or a string. -/
  | unreferable
  deriving DecidableEq

/-- The objects of a program, with what can be reached from them. -/
structure Tree (Name Object : Type) where
  kind : Object → Kind
  /-- `None` -/
  pyNone : Object
  kind_none : ∀ object, kind object = .isNone ↔ object = pyNone
  /-- The modules that have no parent. -/
  rootModule : Name → Option Object
  submodule : Object → Name → Option Object
  /-- `getattr(parent, name)`, which raises `AttributeError` where this is `none` -/
  attr : Object → Name → Option Object
  kind_rootModule : ∀ name object, rootModule name = some object → kind object = .module
  kind_submodule : ∀ parent name object, submodule parent name = some object →
    kind object = .module
  /-- What is in `sys.modules` once the module has been imported. -/
  loads : ObjectId Name → List (ObjectId Name)
  loads_self : ∀ id, id ∈ loads id
  /-- Whether the referent lives when a weak reference is followed for the n-th time. -/
  alive : Nat → Bool

/-- The method that `get` stands for. -/
inductive Getter (Object : Type) where
  | getNotCached
  | getNone
  | getModule
  | getObject (ref : Object)
  deriving DecidableEq

structure ObjectLoader (Object : Type) where
  isModule : Option Bool
  get : Getter Object
  deriving DecidableEq

/-- `ObjectLoader.__init__` -/
def newLoader {Object : Type} : ObjectLoader Object := ⟨none, .getNotCached⟩

/-- The loaders of a `LoaderManager`, which makes those that it does not have yet, and the
modules that have been imported. -/
structure State (Name Object : Type) where
  getLoader : ObjectId Name → ObjectLoader Object
  imported : List (ObjectId Name)
  followed : Nat

inductive LoadError (Name : Type) where
  /-- `RuntimeError("Object {!r} not cached")` -/
  | notCached (id : ObjectId Name)
  /-- `RuntimeError("Non-module object {!r} has no parent")` -/
  | noParent (id : ObjectId Name)
  | attributeError (id : ObjectId Name)
  | importError (id : ObjectId Name)
  /-- `TypeError("cannot create weak reference to ... object")` -/
  | typeError (id : ObjectId Name)
  deriving DecidableEq

section Loading

variable {Name Object : Type} [DecidableEq Name] (tree : Tree Name Object)

/-- `importlib.import_module(id)` -/
def Tree.importModule : ObjectId Name → Option Object
  | .root name => tree.rootModule name
  | .child parent name => (Tree.importModule parent).bind fun module => tree.submodule module name

/-- `sys.modules[id]` -/
def sysModules (state : State Name Object) (id : ObjectId Name) : Option Object :=
  if id ∈ state.imported then tree.importModule id else none

def State.setLoader (state : State Name Object) (id : ObjectId Name)
    (loader : ObjectLoader Object) : State Name Object :=
  { state with getLoader := fun other => if other = id then loader else state.getLoader other }

/-- `ObjectLoader.set` -/
def set (id : ObjectId Name) (object : Object) (state : State Name Object) :
    Except (LoadError Name) Object × State Name Object :=
  match tree.kind object with
  | .isNone => (.ok object, state.setLoader id ⟨some false, .getNone⟩)
  | .module => (.ok object, state.setLoader id ⟨some true, .getModule⟩)
  | .referable => (.ok object, state.setLoader id ⟨some false, .getObject object⟩)
  | .unreferable =>
      (.error (.typeError id), state.setLoader id ⟨some false, (state.getLoader id).get⟩)

/-- The method `get` of a loader, as it has been replaced. -/
def get (id : ObjectId Name) (state : State Name Object) :
    Except (LoadError Name) Object × State Name Object :=
  match (state.getLoader id).get with
  | .getNotCached => (.error (.notCached id), state)
  | .getNone => (.ok tree.pyNone, state)
  | .getModule =>
      match sysModules tree state id with
      | some object => (.ok object, state)
      | none => (.error (.notCached id), state)
  | .getObject ref =>
      (if tree.alive state.followed then .ok ref else .error (.notCached id),
        { state with followed := state.followed + 1 })

/-- `if cached: try: return self.get() except RuntimeError: pass` -/
def getCached (cached : Bool) (id : ObjectId Name) (state : State Name Object) :
    Except (LoadError Name) Object × State Name Object :=
  if cached then get tree id state else (.error (.notCached id), state)

/-- `ObjectLoader._load_module` -/
def importAndSet (id : ObjectId Name) (state : State Name Object) :
    Except (LoadError Name) Object × State Name Object :=
  match tree.importModule id with
  | none => (.error (.importError id), { state with imported := tree.loads id ++ state.imported })
  | some object => set tree id object { state with imported := tree.loads id ++ state.imported }

/-- `ObjectLoader.load` -/
def load (cached : Bool) : ObjectId Name → State Name Object →
    Except (LoadError Name) Object × State Name Object
  | .root name, state =>
      match getCached tree cached (.root name) state with
      | (.ok object, state) => (.ok object, state)
      | (.error _, state) => importAndSet tree (.root name) state
  | .child parentId name, state =>
      match getCached tree cached (.child parentId name) state with
      | (.ok object, state) => (.ok object, state)
      | (.error _, state) =>
          match load cached parentId state with
          | (.error error, state) => (.error error, state)
          | (.ok parent, state) =>
              match tree.attr parent name with
              | some object => set tree (.child parentId name) object state
              | none =>
                  if (state.getLoader parentId).isModule = some true then
                    importAndSet tree (.child parentId name) state
                  else (.error (.attributeError (.child parentId name)), state)

/-- `ObjectLoader.load_module` -/
def loadModule (cached : Bool) : ObjectId Name → State Name Object →
    Except (LoadError Name) Object × State Name Object
  | .root name, state =>
      if cached ∧ (state.getLoader (.root name)).isModule = some true then
        get tree (.root name) state
      else
        match load tree cached (.root name) state with
        | (.error error, state) => (.error error, state)
        | (.ok _, state) =>
            if (state.getLoader (.root name)).isModule = some true then
              get tree (.root name) state
            else (.error (.noParent (.root name)), state)
  | .child parentId name, state =>
      if cached ∧ (state.getLoader (.child parentId name)).isModule = some true then
        get tree (.child parentId name) state
      else
        match load tree cached (.child parentId name) state with
        | (.error error, state) => (.error error, state)
        | (.ok _, state) =>
            if (state.getLoader (.child parentId name)).isModule = some true then
              get tree (.child parentId name) state
            else loadModule true parentId state

/-! ### What the tree designates -/

/-- The path is resolved from the left: each step is the parent's attribute if it has one,
else the submodule if the parent is a module. -/
def Tree.resolve : ObjectId Name → Option Object
  | .root name => tree.rootModule name
  | .child parentId name =>
      (Tree.resolve parentId).bind fun parent =>
        (tree.attr parent name).or
          (if tree.kind parent = .module then tree.submodule parent name else none)

/-- The longest prefix that designates a module, with that module. -/
def Tree.longestModule : ObjectId Name → Option (ObjectId Name × Object)
  | .root name => (tree.rootModule name).map fun module => (.root name, module)
  | .child parentId name =>
      match tree.resolve (.child parentId name) with
      | none => Tree.longestModule parentId
      | some object =>
          if tree.kind object = .module then some (.child parentId name, object)
          else Tree.longestModule parentId

/-! ### Runs -/

inductive Action (Name : Type) where
  | loadObject (id : ObjectId Name) (cached : Bool)
  | loadModule (id : ObjectId Name) (cached : Bool)
  /-- Some other code imports the module. -/
  | importModule (id : ObjectId Name)

def step (state : State Name Object) : Action Name → State Name Object
  | .loadObject id cached => (load tree cached id state).2
  | .loadModule id cached => (loadModule tree cached id state).2
  | .importModule id => { state with imported := tree.loads id ++ state.imported }

/-- The state after some calls, in a program that has imported some modules before. -/
def after (imported : List (ObjectId Name)) (actions : List (Action Name)) : State Name Object :=
  actions.foldl (step tree) ⟨fun _ => newLoader, imported, 0⟩

end Loading

end Tobiko.Common.ObjectLoading
