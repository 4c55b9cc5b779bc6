import SignOnGate.Delivery
import SignOnGate.Exclusion
import SignOnGate.Gateway.Resolver
import SignOnGate.Setup.Fault

/-!
# Plugins

A plugin is an instance of a class that the configuration names. It may serve as an exclusion rule,
as a resolver or as a delivery. A class is built without arguments, or with one text.
-/

namespace SignOnGate

/-- An instance of a class, with what it can serve as. -/
structure Plugin where
  className : Text
  exclusion : Option Exclusion := none
  resolver : Option Gateway.Resolver := none
  delivery : Option Delivery := none

namespace Plugin

open Text

/-- The plugin that serves as an exclusion rule. -/
def ofExclusion (exclusion : Exclusion) : Plugin :=
  { className := exclusion.className, exclusion := some exclusion }

/-- The plugin that serves as a resolver. -/
def ofResolver (resolver : Gateway.Resolver) : Plugin :=
  { className := resolver.className, resolver := some resolver }

/-- The plugin that serves as a delivery. -/
def ofDelivery (delivery : Delivery) : Plugin :=
  { className := delivery.className, delivery := some delivery }

/-- The plugin as a resolver, which lacks the operations if it is none. -/
def asResolver (plugin : Plugin) : Gateway.Resolver :=
  plugin.resolver.getD (.custom plugin.className none)

/-- The plugin as a delivery, which lacks the operation if it is none. -/
def asDelivery (plugin : Plugin) : Delivery :=
  plugin.delivery.getD (.custom plugin.className none)

/-- The arguments that the constructor of a class takes. -/
inductive Signature where
  /-- Any arguments. -/
  | free
  /-- No arguments; the class has no constructor of its own. -/
  | bare
  /-- The given ones, and some optional ones behind them. -/
  | listed (callee : Text) (required : List Text) (optional : Nat)
  /-- The class only describes an interface, and is never built. -/
  | interface
  deriving Repr, DecidableEq

namespace Signature

/-- Names in quotes, as a row of words. -/
def enumeration : List Text → Text
  | [] => []
  | [name] => quoted name
  | [first, second] => quoted first ++ " and ".toList ++ quoted second
  | names =>
    joined ", ".toList (names.dropLast.map quoted) ++ ", and ".toList ++
      quoted (names.getLast?.getD [])

/-- A noun in the number that a count asks for. -/
def counted (count : Nat) (noun : Text) : Text :=
  if count = 1 then noun else noun ++ ['s']

/-- The complaint about a number of arguments, if they are too few or too many. -/
def complaint? (signature : Signature) (className : Text) (given : Nat) : Option Text :=
  match signature with
  | free => none
  | bare => if given = 0 then none else some (className ++ "() takes no arguments".toList)
  | interface => some "Protocols cannot be instantiated".toList
  | listed callee required optional =>
    if required.length + optional < given then
      let most := required.length + optional + 1
      some (callee ++ "() takes ".toList ++
        (if optional = 0 then []
         else "from ".toList ++ ofNat (required.length + 1) ++ " to ".toList) ++
        ofNat most ++ " positional ".toList ++ counted most "argument".toList ++ " but ".toList ++
        ofNat (given + 1) ++ " were given".toList)
    else if given < required.length then
      let missing := required.drop given
      some (callee ++ "() missing ".toList ++ ofNat missing.length ++
        " required positional ".toList ++
        counted missing.length "argument".toList ++ ": ".toList ++ enumeration missing)
    else none

end Signature

end Plugin

/-- A class that a configuration can name: its name, its module, and how it is built. -/
structure PluginClass where
  name : Text
  home : Text
  signature : Plugin.Signature
  build : Option Text → Except SetupFault Plugin

namespace PluginClass

/-- An instance of the class, built without arguments or with one. -/
def new (pluginClass : PluginClass) (argument : Option Text) : Except SetupFault Plugin :=
  let given := if argument.isSome then 1 else 0
  match pluginClass.signature.complaint? pluginClass.name given with
  | some complaint => .error (.arguments complaint)
  | none => pluginClass.build argument

end PluginClass

end SignOnGate
