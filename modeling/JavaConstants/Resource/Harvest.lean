import JavaConstants.Error
import JavaConstants.Identifier
import JavaConstants.Log.Event
import JavaConstants.Source.ClassNode
import JavaConstants.Unicode.Case

/-!
# Harvests

What a walk has gathered so far: the class tree, the names left out and the events. A harvest is
written into through scopes, the paths of nested names below the root class.
-/

namespace JavaConstants

/-- What has been gathered. -/
structure Harvest where
  /-- The class tree. -/
  root : ClassNode
  /-- The names left out, oldest first. -/
  skipped : List Skipped := []
  /-- The events, oldest first. -/
  events : List Event := []

/-- A step that writes into a harvest and may stop the run. What was written before stays. -/
abbrev Harvesting := EStateM Error Harvest

namespace Harvest

/-- A harvest with nothing in it but a root class. -/
def start (rootName : String) : Harvest := { root := .empty rootName }

/-- Records an event. -/
def log (h : Harvest) (e : Event) : Harvest := { h with events := h.events ++ [e] }

/-- Records a name left out of the class at a scope. -/
def skip (h : Harvest) (scope : List String) (name : String) (reason : SkipReason) : Harvest :=
  let s : Skipped := ⟨h.root.name :: scope, name, reason⟩
  { h with skipped := h.skipped ++ [s], events := h.events ++ [.nameSkipped s] }

/-- Opens the class at a scope. -/
def enter (h : Harvest) (scope : List String) : Harvest := { h with root := h.root.openAt scope }

/-- Adds a text constant to the class at a scope. Its name is put in upper case if asked for and
repaired; a name without a repair and a name that is taken are left out. -/
def add (uppercase : Bool) (scope : List String) (h : Harvest) (name value : String) : Harvest :=
  match identifier? (if uppercase then Unicode.upper name else name) with
  | none => h.skip scope name .unsanitizable
  | some field =>
    if h.root.hasFieldAt scope field then h.skip scope field .duplicate
    else { h with root := h.root.addFieldAt scope (.ofText field value) }

/-- Adds a constant whose value is its own name. -/
def addKey (uppercase : Bool) (scope : List String) (h : Harvest) (key : String) : Harvest :=
  h.add uppercase scope key key

/-- Adds constants whose values are their own names. -/
def addKeys (uppercase : Bool) (scope : List String) (h : Harvest) (keys : List String) :
    Harvest :=
  keys.foldl (addKey uppercase scope) h

end Harvest

end JavaConstants
