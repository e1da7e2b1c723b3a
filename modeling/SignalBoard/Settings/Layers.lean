/-
# Layers of settings

Settings come from layers, each a list of keys with values. A later layer wins over an earlier
one key by key, at any depth. A key of a layer names a place; inside a value a key is only
itself. A value that is no table is replaced; a table is entered, and what stood there besides
is kept. Layers can be made one layer before they are laid over others: what is replaced on the
way is then gone, and clears nothing of what lies under it.
-/

import SignalBoard.Settings.Place

namespace SignalBoard.Settings

mutual

/-- The value of a place after another one was laid over it. A table laid over a value of
another shape replaces it. -/
def lay : Json → Json → Json
  | .obj fields, .obj base => layFields fields (.obj base)
  | .obj fields, _ => layFields fields (.obj [])
  | upper, _ => upper

/-- The value of a place after the fields of a table were laid over it. -/
def layFields : List (String × Json) → Json → Json
  | [], base => base
  | (key, value) :: rest, base => layFields rest (changeAt (lay value) [.key key] base)

end

/-- Lays the keys of a layer over what is there. -/
def layAll (layer : List (String × Json)) (base : Json) : Json :=
  layer.foldl (fun base (key, value) => changeAt (lay value) (place key) base) base

/-- The one layer that several layers are together, each laid over those before it. -/
def together (layers : List (List (String × Json))) : List (String × Json) :=
  match layers.foldl (fun base layer => layAll layer base) (.obj []) with
  | .obj fields => fields
  | _ => []

end SignalBoard.Settings
