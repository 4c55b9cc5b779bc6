import SignOnGate.Plugin

/-!
# The catalogue of classes

The modules in which a configuration can name classes. A path names a module and a member of it,
with a colon between the two, or else the last dot. The look-up tells every cause of a failure
apart.
-/

namespace SignOnGate

namespace Plugin

open Text

/-- A module: its dotted name, whether it can have modules in it, and its members. -/
structure Module where
  name : Text
  isPackage : Bool := false
  classes : List PluginClass := []
  others : List Text := []

/-- The modules in which classes are found. -/
abbrev Catalogue := List Module

namespace Catalogue

/-- The module of a name. -/
def module? (catalogue : Catalogue) (name : Text) : Option Module :=
  catalogue.find? (·.name = name)

/-- The name of a module inside another one. -/
def childName (parent child : Text) : Text :=
  if parent = [] then child else parent ++ '.' :: child

/-- A module that is missing, and its parent if that can have no modules in it. -/
structure Gap where
  missing : Text
  plainParent : Option Text
  deriving Repr, DecidableEq

/-- What the top modules are in. -/
def top : Module := { name := [], isPackage := true }

/-- The module that a row of names leads down to, or the first one that is missing. -/
def locateBelow (catalogue : Catalogue) (parent : Module) : List Text → Except Gap Module
  | [] => .ok parent
  | child :: rest =>
    let name := childName parent.name child
    match catalogue.module? name with
    | none => .error ⟨name, if parent.isPackage then none else some parent.name⟩
    | some found => locateBelow catalogue found rest

/--
The module of a dotted name, or the first one on the way to it that is missing. A name may have any
number of parts. That an import, which goes down into one module inside the other, runs out of depth
at about 249 parts is left out: the number depends on the depth at which the look-up begins.
-/
def locate (catalogue : Catalogue) (name : Text) : Except Gap Module :=
  locateBelow catalogue top (pieces '.' name)

/-- The names that every module has. -/
def commonNames : List Text :=
  ["__name__".toList, "__doc__".toList, "__dict__".toList]

/-- Whether a member of a module is there, but no class. -/
def isOther (catalogue : Catalogue) (owner : Module) (member : Text) : Bool :=
  owner.others.contains member || commonNames.contains member ||
    (!member.contains '.' && (catalogue.module? (childName owner.name member)).isSome)

/-- The module and the member that a path names, if it is complete. -/
def cut? (path : Text) : Option (Text × Text) :=
  let parts :=
    if path.contains ':' then (before ':' path, after ':' path)
    else (beforeLast '.' path, afterLast '.' path)
  if parts.1 = [] ∨ parts.2 = [] then none else some parts

/-- The class that a path names. As in `locate`, a path of any depth is looked up. -/
def load (catalogue : Catalogue) (path : Text) : Except SetupFault PluginClass :=
  match cut? path with
  | none => .error (.refused (.notQualified path))
  | some (moduleName, member) =>
    if moduleName.head? = some '.' then .error .relativePath
    else
      match catalogue.locate moduleName with
      | .error gap => .error (.refused (.moduleMissing path gap.missing gap.plainParent))
      | .ok owner =>
        match owner.classes.find? (·.name = member) with
        | some pluginClass => .ok pluginClass
        | none =>
          if catalogue.isOther owner member then .error (.refused (.notAClass path))
          else .error (.refused (.memberMissing moduleName member))

end Catalogue

end Plugin

end SignOnGate
